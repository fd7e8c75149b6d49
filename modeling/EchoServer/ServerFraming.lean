import EchoServer.ServerIOSocket

/-!
# Packets of a plain server connection

The loop of `ServerIOSocket::recv` parses every head from the start of the
buffer, and from as many bytes as the last read brought.  So it hands out the
packets of a stream exactly when every read that completes packets brings a
whole head and completes packets of one size only.
-/

namespace EchoServer

open ByteOrder Framing LabelledRun

/-- A packet whose head announces its size. -/
def WellFormedPacket (packet : Bytes) : Prop :=
  headLen ≤ packet.length ∧ packet.length ≤ maxBufferSize ∧
    littleEndianValue (packet.take 2) = packet.length

instance (packet : Bytes) : Decidable (WellFormedPacket packet) :=
  inferInstanceAs (Decidable (_ ∧ _))

/-- `count` more bytes of the packets complete none of them, or bring a whole
head and complete packets of one size, with less than this size left over. -/
def UniformPiece (packets : List Bytes) (before count : Nat) : Prop :=
  newlyCompleted packets before count = [] ∨
    (headLen ≤ count ∧
      ∃ size,
        (∀ packet ∈ newlyCompleted packets before count,
          packet.length = size) ∧
        (unfinished packets (before + count)).length < size)

/-- The size can only be that of the first packet completed. -/
instance (packets : List Bytes) (before count : Nat) :
    Decidable (UniformPiece packets before count) :=
  match completed : newlyCompleted packets before count with
  | [] => isTrue (.inl completed)
  | first :: rest =>
      decidable_of_iff
        (headLen ≤ count ∧
          (∀ packet ∈ first :: rest, packet.length = first.length) ∧
            (unfinished packets (before + count)).length < first.length)
        (by
          rw [UniformPiece, completed]
          constructor
          · rintro ⟨enough, sizes, short⟩
            exact .inr ⟨enough, first.length, sizes, short⟩
          · rintro (none | ⟨enough, size, sizes, short⟩)
            · cases none
            · obtain rfl := sizes first List.mem_cons_self
              exact ⟨enough, sizes, short⟩)

namespace ServerIOSocket

/-- Bytes that begin with a packet's head give the loop its length. -/
theorem uniformLength_eq {head more : Bytes} {length count : Nat}
    (wellFormed : WellFormedPacket head) (enough : headLen ≤ length)
    (le : length ≤ count) :
    uniformLength length ((head ++ more).take count) =
      some head.length := by
  obtain ⟨atLeastHead, -, announces⟩ := wellFormed
  simp only [headLen] at enough atLeastHead
  have firstTwo : ((head ++ more).take count).take 2 = head.take 2 := by
    rw [List.take_take, Nat.min_eq_left (by omega),
      List.take_append_of_le_length (by omega)]
  simp only [uniformLength, headLen, enough, if_true, firstTwo, announces]

/-- A piece that brings a whole head is uniform when its packets are as long
as the first one pending. -/
theorem uniformPiece_iff {packets rest : List Bytes} {head : Bytes}
    {before count : Nat} (next : pending packets before = head :: rest)
    (within : before ≤ packets.flatten.length) (enough : headLen ≤ count) :
    UniformPiece packets before count ↔
      (∀ packet ∈ newlyCompleted packets before count,
        packet.length = head.length) ∧
      (unfinished packets (before + count)).length < head.length := by
  have cases := completed_cons_cases head rest
    ((unfinished packets before).length + count)
  rw [← next, ← unfinished_add packets before count within,
    ← newlyCompleted] at cases
  constructor
  · rintro (none | ⟨-, size, sizes, short⟩)
    · rcases cases with ⟨-, short⟩ | member
      · exact ⟨by simp [none], short⟩
      · simp [none] at member
    · rcases cases with ⟨none, short⟩ | member
      · exact ⟨by simp [none], short⟩
      · obtain rfl : head.length = size := sizes head member
        exact ⟨sizes, short⟩
  · rintro ⟨sizes, short⟩
    exact .inr ⟨enough, head.length, sizes, short⟩

/-- What has arrived are the bytes of the packets that are pending. -/
theorem unfinished_append_arrived {packets : List Bytes} {before : Nat}
    {data : Bytes} (arrives : data <+: packets.flatten.drop before) :
    unfinished packets before ++ data =
      (pending packets before).flatten.take
        ((unfinished packets before).length + data.length) := by
  rw [pending_flatten, List.take_length_add_append,
    ← List.prefix_iff_eq_take.mp arrives]

/-- They are the packets newly completed and what is left of the last one. -/
theorem newlyCompleted_append_unfinished {packets : List Bytes} {before : Nat}
    {data : Bytes} (within : before ≤ packets.flatten.length)
    (arrives : data <+: packets.flatten.drop before) :
    (newlyCompleted packets before data.length).flatten ++
        unfinished packets (before + data.length) =
      unfinished packets before ++ data := by
  have pieces := completed_flatten_append_unfinished
    (pending packets before)
    ((unfinished packets before).length + data.length)
  rw [← unfinished_append_arrived arrives,
    ← unfinished_add packets before data.length within,
    ← newlyCompleted] at pieces
  exact pieces

/-- After a read shorter than a head nothing is handed out. -/
theorem extract_exact_short (host : Host) (socket : ServerIOSocket)
    {packets : List Bytes} {before : Nat} {data : Bytes}
    (within : before ≤ packets.flatten.length)
    (arrives : data <+: packets.flatten.drop before)
    (keeps : socket.buffer.Keeps (unfinished packets before))
    (fits : socket.buffer.nRecvBufLen + data.length ≤ maxBufferSize)
    (short : ¬ headLen ≤ data.length) :
    ∃ buffer delivered,
      socket.extract host data =
          .ok (0, { socket with buffer }, delivered) ∧
        ((delivered = newlyCompleted packets before data.length ∧
            buffer.Keeps (unfinished packets (before + data.length))) ↔
          UniformPiece packets before data.length) := by
  have noLength : uniformLength data.length
      (unfinished packets before ++ data) = none := by
    simp only [uniformLength, short, if_false]
  have pieces := newlyCompleted_append_unfinished within arrives
  obtain ⟨buffer, extracted, kept⟩ := extract_eq host keeps fits
    (by rw [noLength]; simp)
  simp only [noLength, Format.frames, Format.tail, Format.fixed_none]
    at extracted kept
  refine ⟨buffer, [], extracted, ?_⟩
  simp only [UniformPiece, short, false_and, or_false]
  constructor
  · rintro ⟨none, -⟩
    exact none.symm
  · intro none
    refine ⟨none.symm, ?_⟩
    rw [none, List.flatten_nil, List.nil_append] at pieces
    rw [pieces]
    exact kept

/-- The end of `recv` hands out the packets that the new bytes complete, and
keeps the unfinished part of the next one, exactly when these packets all have
one size. -/
theorem extract_exact (host : Host) (socket : ServerIOSocket)
    {packets : List Bytes} {before : Nat} {data : Bytes}
    (wellFormed : ∀ packet ∈ packets, WellFormedPacket packet)
    (within : before ≤ packets.flatten.length)
    (arrives : data <+: packets.flatten.drop before)
    (keeps : socket.buffer.Keeps (unfinished packets before))
    (fits : socket.buffer.nRecvBufLen + data.length ≤ maxBufferSize) :
    ∃ buffer delivered,
      socket.extract host data =
          .ok (0, { socket with buffer }, delivered) ∧
        ((delivered = newlyCompleted packets before data.length ∧
            buffer.Keeps (unfinished packets (before + data.length))) ↔
          UniformPiece packets before data.length) := by
  have members : ∀ packet ∈ pending packets before,
      WellFormedPacket packet := by
    intro packet member
    apply wellFormed
    rw [← completed_append_pending packets before]
    exact List.mem_append_right _ member
  have items := unfinished_append_arrived arrives
  have pieces := newlyCompleted_append_unfinished within arrives
  by_cases enough : headLen ≤ data.length
  · cases next : pending packets before with
    | nil =>
        have noBytes := congrArg List.length items
        simp only [next, List.flatten_nil, List.take_nil, List.length_nil,
          List.length_append] at noBytes
        simp only [headLen] at enough
        omega
    | cons head rest =>
        have headWellFormed := members head (by simp [next])
        have size : uniformLength data.length
            (unfinished packets before ++ data) = some head.length := by
          rw [items, next, List.flatten_cons]
          exact uniformLength_eq headWellFormed enough (by omega)
        have positive : 0 < head.length := by
          have := headWellFormed.1
          simp only [headLen] at this
          omega
        obtain ⟨buffer, extracted, kept⟩ := extract_eq host keeps fits
          (by
            rw [size]
            exact fun empty => Nat.ne_of_gt positive (Option.some.inj empty))
        rw [size] at extracted kept
        refine ⟨buffer, _, extracted, ?_⟩
        rw [uniformPiece_iff next within enough]
        have frameSizes : ∀ frame ∈ (Format.fixed
            (some head.length)).frames (unfinished packets before ++ data),
              frame.length = head.length :=
          Format.fixed_frame_length _
        have tailShort := Format.fixed_tail_length positive
          (unfinished packets before ++ data)
        have split : ((Format.fixed (some head.length)).frames
              (unfinished packets before ++ data)).flatten ++
            (Format.fixed (some head.length)).tail
              (unfinished packets before ++ data) =
            unfinished packets before ++ data :=
          Format.frames_flatten_append_tail _
        constructor
        · rintro ⟨delivered, retained⟩
          rw [← delivered]
          refine ⟨frameSizes, ?_⟩
          rw [← retained.2, kept.2]
          exact tailShort
        · rintro ⟨sizes, short⟩
          obtain ⟨framesEq, tailEq⟩ := equalPieces_unique frameSizes sizes
            tailShort short (split.trans pieces.symm)
          exact ⟨framesEq, tailEq ▸ kept⟩
  · exact extract_exact_short host socket within arrives keeps fits enough

/-- On a connected plain socket `recv` goes straight to its end. -/
theorem recv_notWebSocket (host : Host)
    (doWebSocketHandShake : Bytes → Bool) {read : Bytes}
    {socket : ServerIOSocket} (connected : socket.status = .connected)
    (plain : socket.nWebSocketFlag = .notWebSocket)
    (fits : read.length ≤ socket.asked) :
    socket.recv host doWebSocketHandShake read =
      socket.extract host read := by
  obtain ⟨status, nWebSocketFlag, buffer⟩ := socket
  simp only at connected plain
  subst connected plain
  simp only [recv, Nat.not_lt.mpr fits, if_false, recvPlain, doWebSocket,
    ne_eq, not_true_eq_false, if_true]

/-- The read callbacks of a server connection. -/
def readCallback (host : Host) (doWebSocketHandShake : Bytes → Bool)
    (reception : Reception ServerIOSocket) (amount : Nat) :
    Except RecvStop (Reception ServerIOSocket) :=
  Reception.readCallback asked (recv host doWebSocketHandShake) reception
    amount

end ServerIOSocket

/-- A connected socket known not to be a websocket, whose peer sends the given
packets: `asynRecive` was handed exactly the packets completed by the bytes
read, and the buffer retains the received part of the next one. -/
structure PlainFraming (packets : List Bytes)
    (reception : Reception ServerIOSocket) : Prop where
  connected : reception.socket.status = .connected
  plain : reception.socket.nWebSocketFlag = .notWebSocket
  stream : reception.received ++ reception.incoming = packets.flatten
  delivered : reception.asynRecived =
    completed packets reception.received.length
  retained : reception.socket.buffer.Keeps
    (unfinished packets reception.received.length)

/-- The next read is a uniform piece of the packets. -/
def UniformRead (packets : List Bytes)
    (reception : Reception ServerIOSocket) (amount : Nat) : Prop :=
  UniformPiece packets reception.received.length
    (reception.read reception.socket.asked amount).length

/-- One read keeps the framing exactly when it is uniform. -/
theorem readCallback_exact (host : Host)
    (doWebSocketHandShake : Bytes → Bool) {packets : List Bytes}
    (wellFormed : ∀ packet ∈ packets, WellFormedPacket packet)
    {reception : Reception ServerIOSocket} (amount : Nat)
    (framing : PlainFraming packets reception) :
    (∃ next,
        ServerIOSocket.readCallback host doWebSocketHandShake reception
            amount = .ok next ∧
          PlainFraming packets next) ↔
      UniformRead packets reception amount := by
  obtain ⟨connected, plain, stream, delivered, retained⟩ := framing
  have dropped : packets.flatten.drop reception.received.length =
      reception.incoming := by
    rw [← stream, List.drop_left]
  have within : reception.received.length ≤ packets.flatten.length := by
    rw [← stream, List.length_append]
    omega
  have fits : (reception.read reception.socket.asked amount).length ≤
      reception.socket.asked := Reception.read_length_le _ _
  have room : reception.socket.buffer.nRecvBufLen +
      (reception.read reception.socket.asked amount).length ≤
        maxBufferSize := by
    have := retained.1
    simp only [ServerIOSocket.asked, plain] at fits ⊢
    omega
  obtain ⟨buffer, packages, extracted, exactly⟩ :=
    ServerIOSocket.extract_exact host reception.socket wellFormed within
      (dropped.symm ▸ List.take_prefix _ _) retained room
  have received := ServerIOSocket.recv_notWebSocket host
    doWebSocketHandShake connected plain fits
  rw [extracted] at received
  have stepped := Reception.readCallback_eq received
  rw [UniformRead, ← exactly]
  constructor
  · rintro ⟨next, nextStepped, -, -, -, nextDelivered, nextRetained⟩
    obtain rfl := Except.ok.inj (stepped.symm.trans nextStepped)
    simp only [List.length_append] at nextDelivered nextRetained
    refine ⟨?_, nextRetained⟩
    rw [completed_add _ _ _ within, delivered] at nextDelivered
    exact List.append_cancel_left nextDelivered
  · rintro ⟨packagesEq, keeps⟩
    refine ⟨_, stepped, connected, plain, ?_, ?_, ?_⟩
    · rw [← stream]
      exact Reception.readCallback_stream stepped
    · simp only [List.length_append]
      rw [completed_add _ _ _ within, delivered, packagesEq]
    · simp only [List.length_append]
      exact keeps

/-- Packets have at least a head, so no bytes complete none of them. -/
theorem nothing_completed {packets : List Bytes}
    (wellFormed : ∀ packet ∈ packets, WellFormedPacket packet) :
    completed packets 0 = [] ∧ unfinished packets 0 = [] := by
  cases packets with
  | nil => exact ⟨rfl, rfl⟩
  | cons packet packets =>
      have atLeastHead := (wellFormed packet (by simp)).1
      simp only [headLen] at atLeastHead
      have incomplete : ¬ packet.length ≤ 0 := by omega
      simp [completed, unfinished, incomplete]

/-- A connected plain socket with nothing retained starts framing. -/
theorem start_plainFraming {packets : List Bytes} {socket : ServerIOSocket}
    (wellFormed : ∀ packet ∈ packets, WellFormedPacket packet)
    (connected : socket.status = .connected)
    (plain : socket.nWebSocketFlag = .notWebSocket)
    (fresh : socket.buffer.nRecvBufLen = 0) :
    PlainFraming packets (Reception.start socket packets.flatten) := by
  have nothing := nothing_completed wellFormed
  refine ⟨connected, plain, rfl, ?_, ?_⟩
  · simp [Reception.start, nothing.1]
  · simpa [Reception.start, nothing.2] using RecvBuffer.keeps_nil fresh

/-- A plain server connection hands out exactly the packets completed by the
bytes read, after every read, if and only if every read is a uniform piece of
the packets. -/
theorem serverFraming_iff (host : Host) (doWebSocketHandShake : Bytes → Bool)
    (packets : List Bytes) (socket : ServerIOSocket) (amounts : List Nat)
    (wellFormed : ∀ packet ∈ packets, WellFormedPacket packet)
    (connected : socket.status = .connected)
    (plain : socket.nWebSocketFlag = .notWebSocket)
    (fresh : socket.buffer.nRecvBufLen = 0) :
    HoldsThroughout (ServerIOSocket.readCallback host doWebSocketHandShake)
        (PlainFraming packets) (Reception.start socket packets.flatten)
        amounts ↔
      MeetsAlong (ServerIOSocket.readCallback host doWebSocketHandShake)
        (UniformRead packets) (Reception.start socket packets.flatten)
        amounts :=
  holdsThroughout_iff
    (fun _ amount framing =>
      readCallback_exact host doWebSocketHandShake wellFormed amount framing)
    (start_plainFraming wellFormed connected plain fresh)

/-- A connected plain socket with an empty buffer. -/
def plainSocket : ServerIOSocket where
  status := .connected
  nWebSocketFlag := .notWebSocket
  buffer := { recvBuf := Block.zero maxBufferSize, nRecvBufLen := 0 }

instance (packets : List Bytes) (reception : Reception ServerIOSocket)
    (amount : Nat) : Decidable (UniformRead packets reception amount) :=
  inferInstanceAs (Decidable (UniformPiece _ _ _))

/-- Two packets of five bytes and one of four. -/
def threePackets : List Bytes :=
  [[5, 0, 1, 0, 9], [5, 0, 2, 0, 8], [4, 0, 3, 0]]

/-- They are framed when the first read breaks off in a head, the second one
completes both packets of five bytes, and the third brings the last one. -/
theorem serverFraming_threePackets :
    HoldsThroughout (ServerIOSocket.readCallback .little fun _ => false)
      (PlainFraming threePackets)
      (Reception.start plainSocket threePackets.flatten) [3, 7, 4] := by
  apply (serverFraming_iff .little (fun _ => false) threePackets plainSocket
    [3, 7, 4] (by decide) rfl rfl rfl).mpr
  decide +kernel

/-- A packet of four bytes and one of five bytes. -/
def twoSizes : List Bytes :=
  [[4, 0, 1, 0], [5, 0, 1, 0, 9]]

/-- Packets of two sizes that arrive in one read are not handed out as they
were sent. -/
theorem serverFraming_twoSizes :
    (∀ packet ∈ twoSizes, WellFormedPacket packet) ∧
      ¬ HoldsThroughout
        (ServerIOSocket.readCallback .little fun _ => false)
        (PlainFraming twoSizes)
        (Reception.start plainSocket twoSizes.flatten) [9] := by
  have wellFormed : ∀ packet ∈ twoSizes, WellFormedPacket packet := by
    decide
  refine ⟨wellFormed, ?_⟩
  intro holds
  obtain ⟨next, stepped, framing⟩ := holds [9] [] rfl
  rw [runActions_singleton] at stepped
  have uniform := (readCallback_exact .little (fun _ => false) wellFormed 9
    (start_plainFraming wellFormed rfl rfl rfl)).mp ⟨next, stepped, framing⟩
  change UniformPiece twoSizes 0 9 at uniform
  have fresh : newlyCompleted twoSizes 0 9 = twoSizes := by decide
  obtain nothing | ⟨-, size, sizes, -⟩ := uniform
  · rw [fresh] at nothing
    exact absurd nothing (by decide)
  · rw [fresh] at sizes
    have four := sizes [4, 0, 1, 0] (by decide)
    have five := sizes [5, 0, 1, 0, 9] (by decide)
    simp only [List.length_cons, List.length_nil] at four five
    omega

end EchoServer
