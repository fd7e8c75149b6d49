import EchoServer.HeartbeatRoundTrip
import EchoServer.PacketTransit
import EchoServer.SendPath
import EchoServer.ServerFraming

/-!
# Connections that carry heartbeats only

All packets on such a connection are eight bytes long.  So the server too,
which takes all packets of a read to be as long as the first one, splits off
the packets that were sent, however the bytes are cut into reads; but it
leaves them in its buffer after a read that is shorter than a head.
-/

namespace EchoServer

open ByteOrder MallocManager Framing DispatchLoop Buffering

/-- The packet of a heartbeat. -/
def heartbeatPacket (timestamp : UInt32) : Bytes :=
  heartbeatHead.bytes ++ littleEndian 4 timestamp.toNat

/-- `sizeof(ProtocolHead) + sizeof(Heartbeat)`. -/
def heartbeatSize : Nat := 8

@[simp]
theorem heartbeatPacket_length (timestamp : UInt32) :
    (heartbeatPacket timestamp).length = heartbeatSize := by
  simp [heartbeatPacket, headLen, heartbeatSize]

theorem parseHead_heartbeat (host : Host) (timestamp : UInt32) :
    parseHead host (heartbeatPacket timestamp) = .ok heartbeatHead :=
  parseHead_bytes host heartbeatHead _

/-- `Server::onClientRecive` answers with a heartbeat of its own. -/
theorem reply_eq (host : Host) (now : UInt32) :
    Server.reply host now = .ok (heartbeatPacket now) := by
  have headWritten := writeWindow_head host heartbeatHead
    ((newBlock Heartbeat.size).take headLen ++
      littleEndian 4 now.toNat) (by simp [headLen])
  rw [List.drop_left' (by rfl)] at headWritten
  have headEq : ProtocolHead.mk (UInt16.ofNat ((4 : Int).toNat + headLen))
      xyidHeartbeat = heartbeatHead := rfl
  simp only [Server.reply, getTemplateBuf, writeWindow_heartbeat, bind,
    Except.bind, headEq, headWritten, pure, Except.pure, Except.ok.injEq]
  exact List.take_of_length_le (by simp [headLen, heartbeatHead])

/-- Packets that are heartbeats. -/
def Heartbeats (packets : List Bytes) : Prop :=
  ∀ packet ∈ packets, ∃ timestamp, packet = heartbeatPacket timestamp

theorem heartbeats_map (timestamps : List UInt32) :
    Heartbeats (timestamps.map heartbeatPacket) := by
  intro packet isIn
  obtain ⟨timestamp, -, rfl⟩ := List.mem_map.mp isIn
  exact ⟨timestamp, rfl⟩

section Splitting

variable {packets queue : List Bytes} {bytes read more : Bytes}

theorem Heartbeats.sizes (heartbeats : Heartbeats packets) :
    ∀ packet ∈ packets, packet.length = heartbeatSize := by
  intro packet isIn
  obtain ⟨timestamp, rfl⟩ := heartbeats packet isIn
  exact heartbeatPacket_length timestamp

theorem Heartbeats.packetFormat (heartbeats : Heartbeats packets) :
    packetFormat.Announces packets := by
  intro packet isIn
  obtain ⟨timestamp, rfl⟩ := heartbeats packet isIn
  rw [heartbeatPacket_length]
  exact ⟨by decide, rfl⟩

theorem Heartbeats.fixed (heartbeats : Heartbeats packets) :
    (Format.fixed (some heartbeatSize)).Announces packets := by
  intro packet isIn
  rw [heartbeats.sizes packet isIn]
  exact ⟨by decide, rfl⟩

/-- What has arrived begins with the length of a heartbeat. -/
theorem heartbeats_begin (heartbeats : Heartbeats packets)
    (way : OnTheWay packets queue (bytes ++ more)) :
    bytes.take 2 <+: [8, 0] := by
  obtain ⟨rest, rfl, restEq⟩ := way
  cases rest with
  | nil =>
      obtain ⟨rfl, -⟩ := List.append_eq_nil_iff.mp restEq.symm
      exact List.nil_prefix
  | cons packet rest =>
      obtain ⟨timestamp, rfl⟩ := heartbeats packet (by simp)
      have first : (bytes ++ more).take 2 = [8, 0] := by
        rw [← restEq]
        rfl
      rw [← first]
      exact (List.prefix_append bytes more).take 2

/-- A read of at least a head gives the server's loop the length of a
heartbeat. -/
theorem uniformLength_heartbeats (heartbeats : Heartbeats packets)
    (way : OnTheWay packets queue (bytes ++ read ++ more))
    (enough : headLen ≤ read.length) :
    ServerIOSocket.uniformLength read.length (bytes ++ read) =
      some heartbeatSize := by
  have begins := heartbeats_begin heartbeats way
  have two : (bytes ++ read).take 2 = [8, 0] := by
    apply begins.eq_of_length
    simp only [headLen] at enough
    simp only [List.length_take, List.length_append, List.length_cons,
      List.length_nil]
    omega
  rw [ServerIOSocket.uniformLength, if_pos enough, two]
  rfl

theorem uniformLength_ne_zero (heartbeats : Heartbeats packets)
    (way : OnTheWay packets queue (bytes ++ read ++ more)) :
    ServerIOSocket.uniformLength read.length (bytes ++ read) ≠ some 0 := by
  by_cases enough : headLen ≤ read.length
  · rw [uniformLength_heartbeats heartbeats way enough]
    decide
  · simp [ServerIOSocket.uniformLength, enough]

/-- Whatever a read brings, the server's loop splits off packets that were
sent. -/
theorem split_uniform (heartbeats : Heartbeats packets)
    (way : OnTheWay packets queue (bytes ++ read ++ more)) :
    let format := Format.fixed
      (ServerIOSocket.uniformLength read.length (bytes ++ read))
    OnTheWay packets (queue ++ format.frames (bytes ++ read))
        (format.tail (bytes ++ read) ++ more) ∧
      (headLen ≤ read.length →
        (format.tail (bytes ++ read)).length < heartbeatSize) := by
  by_cases enough : headLen ≤ read.length
  · rw [uniformLength_heartbeats heartbeats way enough]
    refine ⟨way.split heartbeats.fixed, fun _ => ?_⟩
    exact way.tail_short heartbeats.fixed heartbeats.sizes (by decide)
  · have noLength : ServerIOSocket.uniformLength read.length
        (bytes ++ read) = none := if_neg enough
    rw [noLength]
    refine ⟨?_, fun isEnough => absurd isEnough enough⟩
    simpa [Format.frames, Format.tail, Format.fixed_none] using way

end Splitting

namespace ServerIOSocket

/-- A connected socket that is not a websocket, or has not read anything
yet. -/
structure TakesHeartbeats (socket : ServerIOSocket) : Prop where
  connected : socket.status = .connected
  within : socket.buffer.nRecvBufLen ≤ maxBufferSize
  plain : socket.nWebSocketFlag = .notWebSocket ∨
    socket.nWebSocketFlag = .wfUnknown ∧
      socket.buffer = { recvBuf := .zero _, nRecvBufLen := 0 }

/-- A text of less than three characters holds no `GET`. -/
theorem no_getText {buf : Bytes} (short : (cString buf).length < 3) :
    ¬ getText <:+: cString buf := by
  intro inside
  have fits := inside.length_le
  have three : getText.length = 3 := rfl
  omega

/-- The beginning of a heartbeat is not taken for an HTTP request. -/
theorem doWebSocket_heartbeats (doWebSocketHandShake : Bytes → Bool)
    {packets queue : List Bytes} {read more : Bytes}
    (heartbeats : Heartbeats packets)
    (way : OnTheWay packets queue (read ++ more))
    (fits : read.length ≤ maxBufferSize) :
    doWebSocket doWebSocketHandShake .wfUnknown
        ((Block.zero maxBufferSize).overwrite 0 read).bytes =
      (.notWebSocket, true) := by
  have short : (cString
      ((Block.zero maxBufferSize).overwrite 0 read).bytes).length < 3 := by
    have eight : ∀ byte ∈ [(8 : UInt8)], byte ≠ 0 := by simp
    have begins := heartbeats_begin heartbeats way
    match read with
    | [] =>
        have noBytes : ∀ byte ∈ ([] : Bytes), byte ≠ 0 := by simp
        rw [Block.zero_overwrite_bytes (by simp [maxBufferSize]),
          cString_append noBytes]
        exact Nat.zero_lt_succ 2
    | [first] =>
        obtain rfl : first = 8 := by simpa using begins
        rw [Block.zero_overwrite_bytes (by simp [maxBufferSize]),
          cString_append eight]
        exact Nat.lt_succ_of_lt (Nat.lt_succ_self 1)
    | first :: second :: behind =>
        obtain ⟨rfl, rfl⟩ : first = 8 ∧ second = 0 := by
          simpa using begins
        rw [Block.overwrite_bytes (by omega)]
        have ends := cString_append eight (behind ++
          (Block.zero maxBufferSize).bytes.drop
            (0 + (8 :: 0 :: behind).length))
        simp only [List.take_zero, List.nil_append, List.cons_append]
          at ends ⊢
        rw [ends]
        exact Nat.lt_succ_of_lt (Nat.lt_succ_self 1)
  simp only [doWebSocket, no_getText short, false_and, if_false]

/-- What `recv` hands out are heartbeats that were sent, and what it retains
begins the others. -/
theorem recv_heartbeats (host : Host) (doWebSocketHandShake : Bytes → Bool)
    {socket : ServerIOSocket} {packets queue : List Bytes} {read more : Bytes}
    (takes : socket.TakesHeartbeats) (heartbeats : Heartbeats packets)
    (way : OnTheWay packets queue (socket.buffer.retained ++ read ++ more))
    (fits : read.length ≤ socket.asked) :
    ∃ after pieces,
      socket.recv host doWebSocketHandShake read = .ok (0, after, pieces) ∧
        after.TakesHeartbeats ∧
        OnTheWay packets (queue ++ pieces)
          (after.buffer.retained ++ more) ∧
        (headLen ≤ read.length →
          after.buffer.nRecvBufLen < heartbeatSize) := by
  obtain ⟨connected, within, plain⟩ := takes
  obtain ⟨split, short⟩ := split_uniform heartbeats way
  have asked : socket.asked = maxBufferSize - socket.buffer.nRecvBufLen := by
    rcases plain with flag | ⟨flag, -⟩ <;> rw [ServerIOSocket.asked, flag]
  have kept : socket.recv host doWebSocketHandShake read =
      extract host read { socket with nWebSocketFlag := .notWebSocket } := by
    rcases plain with flag | ⟨flag, fresh⟩
    · rw [recv_notWebSocket host doWebSocketHandShake connected flag fits,
        ← flag]
    · have unread := doWebSocket_heartbeats doWebSocketHandShake heartbeats
        (show OnTheWay packets queue (read ++ more) by
          simpa [fresh, RecvBuffer.retained] using way)
        (by omega)
      rw [recv, if_neg (not_not.mpr connected), if_neg (Nat.not_lt.mpr fits),
        flag]
      simp only [recvPlain, flag, fresh, unread, if_true]
  have keeps : ({ socket with nWebSocketFlag := .notWebSocket } :
      ServerIOSocket).buffer.Keeps socket.buffer.retained := ⟨within, rfl⟩
  obtain ⟨buffer, extracted, keepsAfter⟩ := extract_eq host keeps
    (show socket.buffer.nRecvBufLen + read.length ≤ maxBufferSize by omega)
    (uniformLength_ne_zero heartbeats way)
  refine ⟨_, _, kept.trans extracted, ⟨connected, keepsAfter.1, .inl rfl⟩,
    ?_, ?_⟩
  · rw [keepsAfter.2]
    exact split
  · intro enough
    rw [keepsAfter.nRecvBufLen_eq]
    exact short enough

end ServerIOSocket

/-- What the client's `recv` hands out are answers that were sent, and less
than an answer is retained. -/
theorem ClientIOSocket.recv_heartbeats (host : Host) {socket : ClientIOSocket}
    {packets queue : List Bytes} {read more : Bytes}
    (within : socket.buffer.nRecvBufLen ≤ maxBufferSize)
    (heartbeats : Heartbeats packets)
    (way : OnTheWay packets queue (socket.buffer.retained ++ read ++ more))
    (fits : read.length ≤ socket.asked) :
    ∃ after pieces,
      socket.recv host read = .ok (0, after, pieces) ∧
        after.bev = socket.bev ∧
        after.buffer.nRecvBufLen < heartbeatSize ∧
        OnTheWay packets (queue ++ pieces)
          (after.buffer.retained ++ more) := by
  have room : socket.buffer.nRecvBufLen + read.length ≤ maxBufferSize := by
    rw [ClientIOSocket.asked] at fits
    omega
  have keeps : socket.buffer.Keeps socket.buffer.retained := ⟨within, rfl⟩
  have appended := keeps.append room
  have positive := way.headersSatisfy heartbeats.packetFormat rfl
  obtain ⟨buffer, extracted, keepsAfter⟩ := RecvBuffer.extract_follows
    (follows_packetFormat host appended.1) appended.1
    (appended.2.symm ▸ positive)
  rw [appended.2] at extracted keepsAfter
  refine ⟨{ socket with buffer },
    EchoServer.packetFormat.frames (socket.buffer.retained ++ read),
    ?_, rfl, ?_, ?_⟩
  · simp only [recv, Nat.not_lt.mpr fits, if_false, extracted]
  · rw [keepsAfter.nRecvBufLen_eq]
    exact way.tail_short heartbeats.packetFormat heartbeats.sizes (by decide)
  · rw [keepsAfter.2]
    exact way.split heartbeats.packetFormat

/-- `pairCallback` on the packages of one batch. -/
theorem run_inOrder {Fault Package Object : Type}
    {loop : DispatchLoop Fault Package Object}
    {chunkPackage : Bytes → Package} {line : Object → Line}
    {Ready : Object → Prop} {objects : List Object}
    {batch : List (Nat × Bytes)}
    (buffering : Buffering loop chunkPackage line Ready)
    (capacity : ∀ object, (line object).capacity = maxBufferSize)
    (reserve : ∀ object, (line object).reserve ≤ 10)
    (live : ∀ object ∈ objects, Ready object ∧
      (line object).passes = true ∧ (line object).waiting = [])
    (packages : ∀ package ∈ batch, package.1 < objects.length ∧
      package.2.length ≤ maxSendBufSize) :
    ∃ after, loop.run (packagesOf chunkPackage batch) objects = .ok after ∧
      after.length = objects.length ∧
      ∀ name object, objects[name]? = some object →
        ∃ object', after[name]? = some object' ∧
          (line object').sent =
            (line object).sent ++ (own name batch).flatten ∧
          (line object').waiting = [] := by
  have single : SendPackages objects.length [batch] := by
    intro other isIn
    rw [List.mem_singleton.mp isIn]
    exact packages
  obtain ⟨after, ran, outcome⟩ := runAll_inOrder buffering capacity reserve
    live single
  have ranOnce : loop.run (packagesOf chunkPackage batch) objects =
      .ok after := by
    rw [← ran, DispatchLoop.runAll, List.map_singleton, List.foldlM_cons]
    exact (bind_pure _).symm
  have sameLength : AllHave (fun _ => True) objects.length after :=
    run_allHave (fun _ _ _ _ _ _ => trivial) (fun _ _ _ _ => trivial)
      ranOnce (fun _ _ => trivial)
  refine ⟨after, ranOnce, sameLength.1, ?_⟩
  simpa using outcome

end EchoServer
