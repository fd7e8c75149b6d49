import EchoServer.ServerFraming
import EchoServer.WebSocketFrame

/-!
# Packets in the payloads of websocket frames

`ServerIOSocket::recv` removes the head of one frame per read and drops what
the read brought behind that frame.  If every read brings a whole frame, with
at most empty ones behind it, the payloads reach the packet loop like the
reads of a plain connection.
-/

namespace EchoServer

open ByteOrder Framing LabelledRun

namespace BinaryFrame

/-- The bytes of frames on the wire. -/
def wire (frames : List BinaryFrame) : Bytes :=
  (frames.map bytes).flatten

/-- The payloads of frames. -/
def payloads (frames : List BinaryFrame) : Bytes :=
  (frames.map payload).flatten

theorem wire_append (first second : List BinaryFrame) :
    wire (first ++ second) = wire first ++ wire second := by
  simp [wire]

theorem payloads_append (first second : List BinaryFrame) :
    payloads (first ++ second) = payloads first ++ payloads second := by
  simp [payloads]

theorem payloads_empty {frames : List BinaryFrame}
    (empty : ∀ frame ∈ frames, frame.payload = []) :
    payloads frames = [] := by
  simpa [payloads] using empty

theorem wire_eq_nil {frames : List BinaryFrame} (empty : wire frames = []) :
    frames = [] := by
  cases frames with
  | nil => rfl
  | cons frame frames => simp [wire, bytes] at empty

/-- Two beginnings of a list of frames that have the same bytes are the
same. -/
theorem wire_prefix_unique {first second rest others : List BinaryFrame}
    (frames : first ++ rest = second ++ others)
    (same : wire first = wire second) : first = second ∧ rest = others := by
  obtain ⟨extra, rfl, rfl⟩ | ⟨extra, rfl, rfl⟩ :=
    List.append_eq_append_iff.mp frames
  · rw [wire_append] at same
    have noExtra := wire_eq_nil (List.self_eq_append_right.mp same)
    simp [noExtra]
  · rw [wire_append] at same
    have noExtra := wire_eq_nil (List.append_right_eq_self.mp same)
    simp [noExtra]

end BinaryFrame

namespace ServerIOSocket

/-- On a connected websocket, a read that begins with a whole frame for whose
payload there is room goes to the packet loop with this payload. -/
theorem recv_frame (host : Host) (doWebSocketHandShake : Bytes → Bool)
    {socket : ServerIOSocket} {tmpBuf : Block maxWsTmpBufferSize}
    {frame : BinaryFrame} {behind : Bytes}
    (connected : socket.status = .connected)
    (webSocket : socket.nWebSocketFlag = .isWebSocket tmpBuf)
    (fits : (frame.bytes ++ behind).length ≤ maxWsTmpBufferSize)
    (room : socket.buffer.nRecvBufLen + frame.payload.length ≤
      maxBufferSize) :
    ∃ newTmpBuf,
      socket.recv host doWebSocketHandShake (frame.bytes ++ behind) =
        ServerIOSocket.extract host frame.payload
          { socket with nWebSocketFlag := .isWebSocket newTmpBuf } := by
  obtain ⟨status, nWebSocketFlag, buffer⟩ := socket
  simp only at connected webSocket room
  subst connected webSocket
  have begins := frameBuffer_bytes tmpBuf _ fits
  rw [List.append_assoc] at begins
  obtain ⟨accepted, lenEq, statusEq, payloadEq, inside⟩ :=
    removeWebSocketHead_frame .connected begins
  have asks : ¬ maxWsTmpBufferSize < (frame.bytes ++ behind).length := by
    omega
  have copied : Access.Inside
      ⟨.recvBuf, buffer.nRecvBufLen, frame.payload.length⟩ := room
  refine ⟨(removeWebSocketHead (frameBuffer tmpBuf (frame.bytes ++ behind))
    .connected).buf, ?_⟩
  simp only [recv, asked, asks, recvWebSocket, accepted, lenEq, statusEq,
    payloadEq, copied, ne_eq, not_true_eq_false, if_false, if_true]
  rw [if_neg (not_not.mpr inside)]

end ServerIOSocket

/-- The packets handed out so far are the first of the packets sent, and all
of them when the whole stream has been read. -/
structure DeliversPackets (packets : List Bytes)
    (reception : Reception ServerIOSocket) : Prop where
  inOrder : reception.asynRecived <+: packets
  complete : reception.incoming = [] → reception.asynRecived = packets

/-- A connected websocket that has read whole frames: `asynRecive` was handed
the packets completed by their payloads, and the buffer retains the received
part of the next packet. -/
structure WebSocketFraming (packets : List Bytes)
    (done rest : List BinaryFrame) (reception : Reception ServerIOSocket) :
    Prop where
  connected : reception.socket.status = .connected
  webSocket : ∃ tmpBuf, reception.socket.nWebSocketFlag = .isWebSocket tmpBuf
  received : reception.received = BinaryFrame.wire done
  incoming : reception.incoming = BinaryFrame.wire rest
  payloads : BinaryFrame.payloads (done ++ rest) = packets.flatten
  delivered : reception.asynRecived =
    completed packets (BinaryFrame.payloads done).length
  retained : reception.socket.buffer.Keeps
    (unfinished packets (BinaryFrame.payloads done).length)

/-- The next read is one whole frame, with at most empty frames behind it; the
buffer has room for its payload, which is a uniform piece of the packets. -/
def WholeFrameRead (packets : List Bytes) (frames : List BinaryFrame)
    (reception : Reception ServerIOSocket) (amount : Nat) : Prop :=
  ∃ done frame empties rest,
    frames = done ++ (frame :: empties ++ rest) ∧
      reception.received = BinaryFrame.wire done ∧
      (∀ empty ∈ empties, empty.payload = []) ∧
      reception.read reception.socket.asked amount =
        BinaryFrame.wire (frame :: empties) ∧
      reception.socket.buffer.nRecvBufLen + frame.payload.length ≤
        maxBufferSize ∧
      UniformPiece packets (BinaryFrame.payloads done).length
        frame.payload.length

theorem WebSocketFraming.delivers {packets : List Bytes}
    {done rest : List BinaryFrame} {reception : Reception ServerIOSocket}
    (framing : WebSocketFraming packets done rest reception) :
    DeliversPackets packets reception := by
  constructor
  · rw [framing.delivered]
    exact completed_prefix _ _
  · intro nothingLeft
    have noFrames : rest = [] :=
      BinaryFrame.wire_eq_nil (framing.incoming.symm.trans nothingLeft)
    have allPayloads := framing.payloads
    rw [noFrames, List.append_nil] at allPayloads
    rw [framing.delivered, allPayloads, completed_all]

/-- A read of a whole frame keeps the framing. -/
theorem readCallback_wholeFrame (host : Host)
    (doWebSocketHandShake : Bytes → Bool) {packets : List Bytes}
    (wellFormed : ∀ packet ∈ packets, WellFormedPacket packet)
    {frames done rest : List BinaryFrame}
    {reception : Reception ServerIOSocket} (amount : Nat)
    (split : frames = done ++ rest)
    (framing : WebSocketFraming packets done rest reception)
    (whole : WholeFrameRead packets frames reception amount) :
    ∃ next newDone newRest,
      ServerIOSocket.readCallback host doWebSocketHandShake reception
          amount = .ok next ∧
        frames = newDone ++ newRest ∧
        WebSocketFraming packets newDone newRest next := by
  obtain ⟨connected, ⟨tmpBuf, webSocket⟩, received, incoming, payloads,
    delivered, retained⟩ := framing
  obtain ⟨before, frame, empties, others, splitAt, receivedBefore, empty,
    read, room, uniform⟩ := whole
  obtain ⟨rfl, rfl⟩ := BinaryFrame.wire_prefix_unique
    (split.symm.trans splitAt) (received.symm.trans receivedBefore)
  have behind : BinaryFrame.wire (frame :: empties) =
      frame.bytes ++ BinaryFrame.wire empties := by
    simp [BinaryFrame.wire]
  have carried : BinaryFrame.payloads (frame :: empties) =
      frame.payload := by
    have := BinaryFrame.payloads_empty empty
    simpa [BinaryFrame.payloads] using this
  have stream : packets.flatten =
      BinaryFrame.payloads done ++
        (frame.payload ++ BinaryFrame.payloads others) := by
    rw [← payloads, BinaryFrame.payloads_append,
      BinaryFrame.payloads_append, carried]
  have within : (BinaryFrame.payloads done).length ≤
      packets.flatten.length := by
    simp [stream]
  have arrives : frame.payload <+:
      packets.flatten.drop (BinaryFrame.payloads done).length := by
    rw [stream, List.drop_left]
    exact List.prefix_append _ _
  have asks : reception.socket.asked = maxWsTmpBufferSize := by
    simp only [ServerIOSocket.asked, webSocket]
  have fits : (frame.bytes ++ BinaryFrame.wire empties).length ≤
      maxWsTmpBufferSize := by
    rw [← behind, ← read, ← asks]
    exact Reception.read_length_le _ _
  obtain ⟨newTmpBuf, recvEq⟩ := ServerIOSocket.recv_frame host
    doWebSocketHandShake connected webSocket fits room
  obtain ⟨buffer, packages, extracted, exactly⟩ :=
    ServerIOSocket.extract_exact host
      { reception.socket with nWebSocketFlag := .isWebSocket newTmpBuf }
      wellFormed within arrives retained room
  obtain ⟨packagesEq, keeps⟩ := exactly.mpr uniform
  rw [extracted, ← behind, ← read] at recvEq
  have stepped := Reception.readCallback_eq recvEq
  have newPayloads : BinaryFrame.payloads (done ++ frame :: empties) =
      BinaryFrame.payloads done ++ frame.payload := by
    rw [BinaryFrame.payloads_append, carried]
  refine ⟨_, done ++ frame :: empties, others, stepped, by simp [split], ?_⟩
  refine ⟨connected, ⟨newTmpBuf, rfl⟩, ?_, ?_, ?_, ?_, ?_⟩
  · simp only [received, read, BinaryFrame.wire_append]
  · have whole := List.take_append_drop
      (min amount reception.socket.asked) reception.incoming
    rw [← Reception.read, read] at whole
    nth_rewrite 2 [incoming] at whole
    rw [BinaryFrame.wire_append] at whole
    exact List.append_cancel_left whole
  · rw [← payloads]
    simp
  · simp only [newPayloads, List.length_append]
    rw [completed_add _ _ _ within, delivered, packagesEq]
  · simp only [newPayloads, List.length_append]
    exact keeps

/-- A websocket whose reads bring whole frames, with room for their payloads
and uniform pieces of the packets in them, hands out the packets whole, once
and in order. -/
theorem webSocketDecoding (host : Host)
    (doWebSocketHandShake : Bytes → Bool) (packets : List Bytes)
    (frames : List BinaryFrame) (socket : ServerIOSocket)
    (tmpBuf : Block maxWsTmpBufferSize) (amounts : List Nat)
    (wellFormed : ∀ packet ∈ packets, WellFormedPacket packet)
    (payloads : BinaryFrame.payloads frames = packets.flatten)
    (connected : socket.status = .connected)
    (webSocket : socket.nWebSocketFlag = .isWebSocket tmpBuf)
    (fresh : socket.buffer.nRecvBufLen = 0)
    (whole :
      MeetsAlong (ServerIOSocket.readCallback host doWebSocketHandShake)
        (WholeFrameRead packets frames)
        (Reception.start socket (BinaryFrame.wire frames)) amounts) :
    HoldsThroughout (ServerIOSocket.readCallback host doWebSocketHandShake)
      (DeliversPackets packets)
      (Reception.start socket (BinaryFrame.wire frames)) amounts := by
  have framed : HoldsThroughout
      (ServerIOSocket.readCallback host doWebSocketHandShake)
      (fun reception => ∃ done rest, frames = done ++ rest ∧
        WebSocketFraming packets done rest reception)
      (Reception.start socket (BinaryFrame.wire frames)) amounts := by
    apply holdsThroughout_of_meetsAlong _ _ whole
    · rintro reception amount ⟨done, rest, split, framing⟩ met
      obtain ⟨next, newDone, newRest, stepped, newSplit, newFraming⟩ :=
        readCallback_wholeFrame host doWebSocketHandShake wellFormed amount
          split framing met
      exact ⟨next, stepped, newDone, newRest, newSplit, newFraming⟩
    · obtain ⟨nothing, noPart⟩ := nothing_completed wellFormed
      refine ⟨[], frames, rfl, connected, ⟨tmpBuf, webSocket⟩, rfl, rfl,
        payloads, ?_, ?_⟩
      · simp [Reception.start, BinaryFrame.payloads, nothing]
      · simpa [Reception.start, BinaryFrame.payloads, noPart] using
          RecvBuffer.keeps_nil fresh
  apply framed.imp
  rintro reception ⟨done, rest, split, framing⟩
  exact framing.delivers

/-- A frame that carries a packet without a body. -/
def headFrame (xyid : UInt8) : BinaryFrame where
  fin := true
  maskKey := [1, 2, 3, 4]
  payload := [4, 0, xyid, 0]
  maskKey_length := rfl
  payload_length := by simp [maxWsTmpBufferSize]

/-- A frame that carries the first two bytes of a packet of six. -/
def frontFrame : BinaryFrame where
  fin := true
  maskKey := [1, 2, 3, 4]
  payload := [6, 0]
  maskKey_length := rfl
  payload_length := by simp [maxWsTmpBufferSize]

/-- A frame that carries the other four bytes. -/
def backFrame : BinaryFrame where
  fin := true
  maskKey := [5, 6, 7, 8]
  payload := [1, 0, 7, 8]
  maskKey_length := rfl
  payload_length := by simp [maxWsTmpBufferSize]

/-- A packet over two frames, and another one in a frame of its own. -/
def threeFrames : List BinaryFrame :=
  [frontFrame, backFrame, headFrame 2]

/-- After some reads of these frames: what has been read, what a read that
finds ten bytes returns, and how many bytes wait in the buffer. -/
def afterReads (amounts : List Nat) : Option (Bytes × Bytes × Nat) :=
  (runActions (ServerIOSocket.readCallback .little fun _ => false)
    (Reception.start webSocket (BinaryFrame.wire threeFrames))
    amounts).toOption.map fun reception =>
      (reception.received, reception.read reception.socket.asked 10,
        reception.socket.buffer.nRecvBufLen)

/-- The frames are read one after the other. -/
theorem webSocketDecoding_threeReads :
    HoldsThroughout (ServerIOSocket.readCallback .little fun _ => false)
      (DeliversPackets [[6, 0, 1, 0, 7, 8], [4, 0, 2, 0]])
      (Reception.start webSocket (BinaryFrame.wire threeFrames))
      [8, 10, 10] := by
  apply webSocketDecoding .little (fun _ => false)
    [[6, 0, 1, 0, 7, 8], [4, 0, 2, 0]] threeFrames webSocket
    (Block.zero maxWsTmpBufferSize) [8, 10, 10] (by decide) rfl rfl rfl rfl
  have afterFront : afterReads [8] =
      some (BinaryFrame.wire [frontFrame], BinaryFrame.wire [backFrame],
        2) := by
    decide +kernel
  have afterBack : afterReads [8, 10] =
      some (BinaryFrame.wire [frontFrame, backFrame],
        BinaryFrame.wire [headFrame 2], 0) := by
    decide +kernel
  rw [afterReads] at afterFront afterBack
  refine ⟨⟨[], frontFrame, [], [backFrame, headFrame 2], rfl, rfl, by simp,
    by decide, by decide, by decide⟩, ?_⟩
  intro first read
  rw [runActions_cons_ok _ read] at afterFront afterBack
  obtain ⟨received, next⟩ := Prod.mk.inj (Option.some.inj afterFront)
  obtain ⟨next, waits⟩ := Prod.mk.inj next
  refine ⟨⟨[frontFrame], backFrame, [], [headFrame 2], rfl, received,
    by simp, next, by rw [waits]; decide, by decide⟩, ?_⟩
  intro second read
  rw [runActions_cons_ok _ read] at afterBack
  obtain ⟨received, next⟩ := Prod.mk.inj (Option.some.inj afterBack)
  obtain ⟨next, waits⟩ := Prod.mk.inj next
  refine ⟨⟨[frontFrame, backFrame], headFrame 2, [], [], rfl, received,
    by simp, next, by rw [waits]; decide, by decide⟩, ?_⟩
  exact fun _ _ => trivial

/-- Two packets without bodies. -/
def twoHeads : List Bytes :=
  [[4, 0, 1, 0], [4, 0, 2, 0]]

/-- Two packets in two frames that arrive in one read: the second is lost. -/
theorem webSocketDecoding_twoFrames :
    BinaryFrame.payloads [headFrame 1, headFrame 2] = twoHeads.flatten ∧
      (∀ packet ∈ twoHeads, WellFormedPacket packet) ∧
      ¬ HoldsThroughout
        (ServerIOSocket.readCallback .little fun _ => false)
        (DeliversPackets twoHeads)
        (Reception.start webSocket
          (BinaryFrame.wire [headFrame 1, headFrame 2])) [20] := by
  have wellFormed : ∀ packet ∈ twoHeads, WellFormedPacket packet := by
    decide
  refine ⟨rfl, wellFormed, ?_⟩
  intro holds
  obtain ⟨next, stepped, delivers⟩ := holds [20] [] rfl
  rw [runActions_singleton] at stepped
  have firstFrame : ∃ newTmpBuf,
      webSocket.recv .little (fun _ => false)
          ((headFrame 1).bytes ++ (headFrame 2).bytes) =
        ServerIOSocket.extract .little [4, 0, 1, 0]
          { webSocket with nWebSocketFlag := .isWebSocket newTmpBuf } :=
    ServerIOSocket.recv_frame .little _ rfl rfl (by decide) (by decide)
  obtain ⟨newTmpBuf, recvEq⟩ := firstFrame
  have keeps : webSocket.buffer.Keeps (unfinished twoHeads 0) :=
    ⟨Nat.zero_le _, rfl⟩
  have arrives : [4, 0, 1, 0] <+: twoHeads.flatten.drop 0 := by decide
  obtain ⟨buffer, packages, extracted, exactly⟩ :=
    ServerIOSocket.extract_exact .little
      { webSocket with nWebSocketFlag := .isWebSocket newTmpBuf }
      wellFormed (Nat.zero_le _) arrives keeps
      (show 0 + 4 ≤ maxBufferSize by decide)
  have uniform : UniformPiece twoHeads 0 4 :=
    .inr ⟨by decide, 4, by decide, by decide⟩
  obtain ⟨rfl, -⟩ := exactly.mpr uniform
  obtain ⟨code, packets, received, incoming, -, asynRecived⟩ :=
    Reception.readCallback_ok stepped
  have read : (Reception.start webSocket
      (BinaryFrame.wire [headFrame 1, headFrame 2])).read
        webSocket.asked 20 =
      (headFrame 1).bytes ++ (headFrame 2).bytes := by decide
  have returned := (recvEq.trans extracted).symm.trans
    (read ▸ received)
  simp only [Except.ok.injEq, Prod.mk.injEq] at returned
  have everything := delivers.complete (incoming.trans (by decide))
  rw [asynRecived, ← returned.2.2] at everything
  exact absurd everything (by decide)

end EchoServer
