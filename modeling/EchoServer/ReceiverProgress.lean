import EchoServer.ByteConservation

/-!
# When a receiver can go on

A receiver whose buffer is full asks for no more bytes, and neither does one
whose buffer cannot hold the packet that it waits for get to the end of it.
`recv` compares the length in a head with the bytes left only, not with the
size of the buffer.
-/

namespace EchoServer

open ByteOrder Framing FuelledLoop LabelledRun

/-- The head in front of these bytes, if it is there, announces no more than
the buffer holds. -/
def AwaitsFitting (bytes : Bytes) : Prop :=
  ∀ size, packetFormat.announced bytes = some size → size ≤ maxBufferSize

/-- The next read asks for at least one byte, and the packet that the buffer
waits for can be completed in it. -/
def RecvBuffer.Receptive (buffer : RecvBuffer) : Prop :=
  buffer.nRecvBufLen < maxBufferSize ∧ AwaitsFitting buffer.retained

theorem RecvBuffer.receptive_iff {buffer : RecvBuffer} {bytes : Bytes}
    (keeps : buffer.Keeps bytes) :
    buffer.Receptive ↔ bytes.length < maxBufferSize ∧ AwaitsFitting bytes := by
  rw [Receptive, keeps.nRecvBufLen_eq, keeps.2]

theorem RecvBuffer.receptive_nil {buffer : RecvBuffer}
    (fresh : buffer.nRecvBufLen = 0) : buffer.Receptive := by
  rw [RecvBuffer.receptive_iff (RecvBuffer.keeps_nil fresh)]
  constructor
  · decide
  · intro size announcement
    simp [packetFormat, headLen] at announcement

/-- A head that announces more than the bytes there are is the one at which
the split of packets stops. -/
theorem awaitsFitting_tail_iff {bytes : Bytes}
    (within : bytes.length ≤ maxBufferSize) :
    packetFormat.HeadersSatisfy (· ≤ maxBufferSize) bytes ↔
      AwaitsFitting (packetFormat.tail bytes) := by
  constructor
  · intro headers
    exact headers.2
  · intro fitting
    refine ⟨?_, fitting⟩
    intro frame member
    exact Nat.le_trans (Format.frame_length frame member).2 within

namespace ServerIOSocket

variable {host : Host} {doWebSocketHandShake : Bytes → Bool}

/-- Where the loop of `recv` stops, after `length` bytes read: behind the
packets, if all are as long as the first. -/
def stopsAt (length : Nat) (bytes : Bytes) : Nat :=
  match uniformLength length bytes with
  | none => 0
  | some size => bytes.length - bytes.length % size

/-- The loop after this read stops in front of no head that announces more
than the buffer holds, and a read shorter than a head does not fill the
buffer. -/
def Progresses (read : Bytes) (socket : ServerIOSocket) : Prop :=
  let bytes := socket.buffer.retained ++ read
  AwaitsFitting (bytes.drop (stopsAt read.length bytes)) ∧
    (headLen ≤ read.length ∨ bytes.length < maxBufferSize)

/-- The socket is not a websocket. -/
def Plain (socket : ServerIOSocket) : Prop :=
  ∀ tmpBuf, socket.nWebSocketFlag ≠ .isWebSocket tmpBuf

theorem tail_eq_drop {length : Nat} {bytes : Bytes}
    (positive : uniformLength length bytes ≠ some 0) :
    (Format.fixed (uniformLength length bytes)).tail bytes =
      bytes.drop (stopsAt length bytes) := by
  cases uniform : uniformLength length bytes with
  | none => simp [stopsAt, uniform, Format.tail, Format.fixed_none]
  | some size =>
      rw [stopsAt, uniform]
      apply Format.fixed_tail_eq
      rw [uniform] at positive
      exact Nat.pos_of_ne_zero fun zero => positive (by rw [zero])

/-- What the loop leaves is less than the buffer holds, unless a read shorter
than a head filled it or a head announces too much. -/
theorem left_receptive_iff {length : Nat} {bytes : Bytes}
    (le : length ≤ bytes.length) (within : bytes.length ≤ maxBufferSize)
    (positive : uniformLength length bytes ≠ some 0) :
    (bytes.drop (stopsAt length bytes)).length < maxBufferSize ∧
        AwaitsFitting (bytes.drop (stopsAt length bytes)) ↔
      AwaitsFitting (bytes.drop (stopsAt length bytes)) ∧
        (headLen ≤ length ∨ bytes.length < maxBufferSize) := by
  by_cases enough : headLen ≤ length
  · rw [and_comm]
    refine and_congr_right fun fitting => ?_
    simp only [enough, true_or, iff_true]
    have uniform : uniformLength length bytes =
        some (littleEndianValue (bytes.take 2)) := if_pos enough
    rw [uniform] at positive
    have nonempty : 0 < littleEndianValue (bytes.take 2) :=
      Nat.pos_of_ne_zero fun zero => positive (by rw [zero])
    rw [stopsAt, uniform] at fitting ⊢
    simp only [List.length_drop] at fitting ⊢
    by_cases small : littleEndianValue (bytes.take 2) ≤ maxBufferSize
    · have remainder := Nat.mod_lt bytes.length nonempty
      have less := Nat.mod_le bytes.length
        (littleEndianValue (bytes.take 2))
      omega
    · rw [Nat.mod_eq_of_lt (by omega), Nat.sub_self, List.drop_zero]
        at fitting
      have announcement : packetFormat.announced bytes =
          some (littleEndianValue (bytes.take 2)) :=
        if_pos (Nat.le_trans enough le)
      exact absurd (fitting _ announcement) small
  · have uniform : uniformLength length bytes = none := if_neg enough
    simp only [stopsAt, uniform, List.drop_zero, enough, false_or]
    exact and_comm

/-- A call of the end of `recv` that returns met no empty packet. -/
theorem positive_of_extract {socket after : ServerIOSocket} {data : Bytes}
    {code : Int} {packets : List Bytes}
    (fits : socket.buffer.nRecvBufLen + data.length ≤ maxBufferSize)
    (extracted : socket.extract host data = .ok (code, after, packets)) :
    uniformLength data.length (socket.buffer.retained ++ data) ≠ some 0 := by
  intro empty
  have retained := RecvBuffer.retained_append fits
  rw [← retained] at empty
  simp only [uniformLength, Option.ite_none_right_eq_some,
    Option.some.injEq] at empty
  obtain ⟨enough, zero⟩ := empty
  have window : (socket.buffer.append data).recvBuf.slice 0 data.length =
      ((socket.buffer.append data).retained.drop 0).take data.length := by
    apply RecvBuffer.slice_eq_retained
    simp only [RecvBuffer.append]
    omega
  simp only [extract, RecvBuffer.extract] at extracted
  cases looped : (socket.buffer.append data).extractLoop host stops
      (fun _ => (socket.buffer.append data).recvBuf.slice 0 data.length) with
  | none => simp [looped] at extracted
  | some final =>
      have leaves : Leaves
          (loopPass host data.length (socket.buffer.append data)) .start :=
        ⟨_, _, looped⟩
      apply (loop_leaves_iff data.length fits).mp leaves
      simp only [headLen] at enough
      refine ⟨?_, ?_, ?_⟩
      · simp only [RecvBuffer.append]
        omega
      · rw [window, List.drop_zero, List.length_take,
          RecvBuffer.retained_length fits]
        simp only [RecvBuffer.append, headLen]
        omega
      · rw [window, List.drop_zero, List.take_take,
          Nat.min_eq_left (by omega)]
        exact zero

/-- A connected socket that does not stay plain has become a websocket. -/
theorem recv_webSocket {read : Bytes} {socket after : ServerIOSocket}
    {code : Int} {packets : List Bytes} (plain : socket.Plain)
    (connected : socket.status = .connected)
    (upgrades : ¬ socket.StaysPlain doWebSocketHandShake read)
    (received : socket.recv host doWebSocketHandShake read =
      .ok (code, after, packets)) : ¬ after.Plain := by
  obtain ⟨status, nWebSocketFlag, buffer⟩ := socket
  cases nWebSocketFlag with
  | isWebSocket tmpBuf => exact absurd rfl (plain tmpBuf)
  | notWebSocket => exact absurd rfl upgrades
  | wfUnknown =>
      simp only at connected
      subst connected
      simp only [StaysPlain, doWebSocket] at upgrades
      split_ifs at upgrades with answered
      · simp only [recv, recvPlain, doWebSocket, if_pos answered, ne_eq,
          not_true_eq_false, if_false, Bool.false_eq_true] at received
        split_ifs at received
        cases received
        exact fun stillPlain => stillPlain _ rfl
      · exact absurd rfl upgrades

/-- A read without an empty packet at the front, after which the socket is
still plain, leaves what is behind the place where the loop stops. -/
theorem recv_positive (host : Host) {read : Bytes} {socket : ServerIOSocket}
    (connected : socket.status = .connected)
    (within : socket.buffer.nRecvBufLen ≤ maxBufferSize)
    (stays : socket.StaysPlain doWebSocketHandShake read)
    (fits : read.length ≤ socket.asked)
    (positive : uniformLength read.length (socket.buffer.retained ++ read) ≠
      some 0) :
    let bytes := socket.buffer.retained ++ read
    ∃ buffer packets,
      socket.recv host doWebSocketHandShake read =
          .ok (0, { socket with nWebSocketFlag := .notWebSocket, buffer },
            packets) ∧
        buffer.Keeps (bytes.drop (stopsAt read.length bytes)) ∧
        (buffer.Receptive ↔ socket.Progresses read) := by
  have room := room_of_staysPlain within stays fits
  have retained := RecvBuffer.retained_length within
  let settled := { socket with nWebSocketFlag := .notWebSocket }
  have kept : settled.buffer.Keeps socket.buffer.retained := ⟨within, rfl⟩
  obtain ⟨buffer, extracted, keeps⟩ := extract_eq host kept room positive
  rw [tail_eq_drop positive] at keeps
  refine ⟨buffer, _,
    (recv_staysPlain host connected stays fits).trans extracted, keeps, ?_⟩
  rw [RecvBuffer.receptive_iff keeps]
  apply left_receptive_iff _ _ positive
  · rw [List.length_append]
    omega
  · rw [List.length_append, retained]
    exact room

/-- What such a read leaves if it returns. -/
theorem recv_left {read : Bytes} {socket after : ServerIOSocket} {code : Int}
    {packets : List Bytes} (connected : socket.status = .connected)
    (within : socket.buffer.nRecvBufLen ≤ maxBufferSize)
    (stays : socket.StaysPlain doWebSocketHandShake read)
    (fits : read.length ≤ socket.asked)
    (received : socket.recv host doWebSocketHandShake read =
      .ok (code, after, packets)) :
    after.status = .connected ∧ after.buffer.nRecvBufLen ≤ maxBufferSize ∧
      (after.buffer.Receptive ↔ socket.Progresses read) := by
  have extracted := received
  rw [recv_staysPlain host connected stays fits] at extracted
  have room := room_of_staysPlain within stays fits
  let settled := { socket with nWebSocketFlag := .notWebSocket }
  have settledRoom : settled.buffer.nRecvBufLen + read.length ≤
      maxBufferSize := room
  have positive : uniformLength read.length
      (settled.buffer.retained ++ read) ≠ some 0 :=
    positive_of_extract settledRoom extracted
  obtain ⟨buffer, others, again, keeps, progresses⟩ :=
    recv_positive host connected within stays fits positive
  rw [received] at again
  cases again
  exact ⟨connected, keeps.1, progresses⟩

/-- A read that meets an empty packet at the front satisfies the condition. -/
theorem progresses_of_empty {read : Bytes} {socket : ServerIOSocket}
    (empty : uniformLength read.length (socket.buffer.retained ++ read) =
      some 0) : socket.Progresses read := by
  have enough : headLen ≤ read.length := by
    by_contra short
    rw [uniformLength, if_neg short] at empty
    cases empty
  refine ⟨?_, .inl enough⟩
  rw [uniformLength, if_pos enough] at empty
  simp only [stopsAt, uniformLength, if_pos enough, empty, Nat.mod_zero,
    Nat.sub_self, List.drop_zero]
  intro size announcement
  simp only [packetFormat, Option.ite_none_right_eq_some] at announcement
  rw [announcement.2] at empty
  obtain rfl := Option.some.inj empty
  exact Nat.zero_le _

/-- A plain socket is connected, and what it retains is inside its block. -/
def Intact (reception : Reception ServerIOSocket) : Prop :=
  reception.socket.Plain →
    reception.socket.status = .connected ∧
      reception.socket.buffer.nRecvBufLen ≤ maxBufferSize

/-- A plain socket is receptive. -/
def Open (reception : Reception ServerIOSocket) : Prop :=
  reception.socket.Plain → reception.socket.buffer.Receptive

/-- If the socket stays plain, it progresses with the next read. -/
def ProgressiveRead (doWebSocketHandShake : Bytes → Bool)
    (reception : Reception ServerIOSocket) (amount : Nat) : Prop :=
  let read := reception.read reception.socket.asked amount
  reception.socket.StaysPlain doWebSocketHandShake read →
    reception.socket.Progresses read

/-- Only a plain socket stays plain. -/
theorem StaysPlain.plain {read : Bytes} {socket : ServerIOSocket}
    (stays : socket.StaysPlain doWebSocketHandShake read) :
    socket.Plain := by
  intro tmpBuf webSocket
  simp [StaysPlain, doWebSocket, webSocket] at stays

/-- A read after which a socket is plain is one of a plain socket that stays
so. -/
theorem staysPlain_of_recv {read : Bytes} {socket after : ServerIOSocket}
    {code : Int} {packets : List Bytes}
    (connected : socket.Plain → socket.status = .connected)
    (received : socket.recv host doWebSocketHandShake read =
      .ok (code, after, packets)) (stillPlain : after.Plain) :
    socket.StaysPlain doWebSocketHandShake read := by
  have plain : socket.Plain := by
    intro tmpBuf webSocket
    obtain ⟨newTmpBuf, remains⟩ := recv_isWebSocket webSocket received
    exact stillPlain newTmpBuf remains
  by_contra upgrades
  exact recv_webSocket plain (connected plain) upgrades received stillPlain

theorem readCallback_intact {reception next : Reception ServerIOSocket}
    {amount : Nat} (intact : Intact reception)
    (stepped : readCallback host doWebSocketHandShake reception amount =
      .ok next) : Intact next := by
  intro stillPlain
  obtain ⟨code, packets, received, -⟩ := Reception.readCallback_ok stepped
  have stays := staysPlain_of_recv (fun plain => (intact plain).1) received
    stillPlain
  obtain ⟨connected, within⟩ := intact stays.plain
  have fits := reception.read_length_le reception.socket.asked amount
  obtain ⟨still, inside, -⟩ := recv_left connected within stays fits received
  exact ⟨still, inside⟩

/-- One read keeps a socket open if and only if it progresses. -/
theorem readCallback_open_iff {reception : Reception ServerIOSocket}
    {amount : Nat} (intact : Intact reception) :
    (∀ next, readCallback host doWebSocketHandShake reception amount =
        .ok next → Open next) ↔
      ProgressiveRead doWebSocketHandShake reception amount := by
  have fits := reception.read_length_le reception.socket.asked amount
  constructor
  · intro staysOpen stays
    obtain ⟨connected, within⟩ := intact stays.plain
    by_cases empty : uniformLength
        (reception.read reception.socket.asked amount).length
        (reception.socket.buffer.retained ++
          reception.read reception.socket.asked amount) = some 0
    · exact progresses_of_empty empty
    · obtain ⟨buffer, packets, received, -, progresses⟩ :=
        recv_positive host connected within stays fits empty
      apply progresses.mp
      exact staysOpen _ (Reception.readCallback_eq received)
        (by rintro tmpBuf ⟨⟩)
  · intro progressive next stepped stillPlain
    obtain ⟨code, packets, received, -⟩ := Reception.readCallback_ok stepped
    have stays := staysPlain_of_recv (fun plain => (intact plain).1)
      received stillPlain
    obtain ⟨connected, within⟩ := intact stays.plain
    obtain ⟨-, -, progresses⟩ :=
      recv_left connected within stays fits received
    exact progresses.mpr (progressive stays)

end ServerIOSocket

namespace ClientIOSocket

variable {host : Host}

/-- No header at the boundary of a packet announces more than the buffer
holds. -/
def Progresses (read : Bytes) (socket : ClientIOSocket) : Prop :=
  packetFormat.HeadersSatisfy (· ≤ maxBufferSize)
    (socket.buffer.retained ++ read)

/-- Without a whole head no length is announced. -/
theorem announced_eq_none {bytes : Bytes}
    (unknown : packetFormat.announced bytes = none) :
    bytes.length < headLen := by
  by_contra enough
  have announcement : packetFormat.announced bytes =
      some (littleEndianValue (bytes.take 2)) :=
    if_pos (Nat.le_of_not_lt enough)
  rw [unknown] at announcement
  cases announcement

/-- The tail of the split is shorter than what its head announces. -/
theorem tail_short {bytes : Bytes}
    (positive : packetFormat.HeadersSatisfy (0 < ·) bytes)
    (fitting : AwaitsFitting (packetFormat.tail bytes)) :
    (packetFormat.tail bytes).length < maxBufferSize := by
  have incomplete : packetFormat.firstFrame (packetFormat.tail bytes) =
      none := Format.firstFrame_tail bytes
  cases announcement :
      packetFormat.announced (packetFormat.tail bytes) with
  | none =>
      have short := announced_eq_none announcement
      simp only [headLen, maxBufferSize] at short ⊢
      omega
  | some size =>
      have nonempty := positive.2 size announcement
      have small := fitting size announcement
      by_contra long
      have complete : packetFormat.firstFrame (packetFormat.tail bytes) =
          some size :=
        Format.firstFrame_eq_some.mpr ⟨announcement, nonempty, by omega⟩
      rw [incomplete] at complete
      cases complete

/-- Bytes with a head that announces an empty packet satisfy the
condition. -/
theorem progresses_of_empty {read : Bytes} {socket : ClientIOSocket}
    (within : (socket.buffer.retained ++ read).length ≤ maxBufferSize)
    (empty : ¬ packetFormat.HeadersSatisfy (0 < ·)
      (socket.buffer.retained ++ read)) : socket.Progresses read := by
  apply (awaitsFitting_tail_iff within).mpr
  intro size announcement
  by_contra large
  apply empty
  constructor
  · intro frame member
    exact (Format.frame_length frame member).1
  · intro other otherAnnouncement
    obtain rfl : size = other :=
      Option.some.inj (announcement.symm.trans otherAnnouncement)
    omega

/-- A read without empty packets leaves the tail of the split. -/
theorem recv_positive (host : Host) {read : Bytes} {socket : ClientIOSocket}
    (within : socket.buffer.nRecvBufLen ≤ maxBufferSize)
    (fits : read.length ≤ socket.asked)
    (positive : packetFormat.HeadersSatisfy (0 < ·)
      (socket.buffer.retained ++ read)) :
    ∃ buffer packets,
      socket.recv host read = .ok (0, { socket with buffer }, packets) ∧
        buffer.Keeps
          (packetFormat.tail (socket.buffer.retained ++ read)) ∧
        (buffer.Receptive ↔ socket.Progresses read) := by
  have room := room_of_asked within fits
  have gathered := RecvBuffer.retained_append room
  have lengths := congrArg List.length gathered
  rw [RecvBuffer.retained_length room] at lengths
  obtain ⟨buffer, extracted, keeps⟩ := RecvBuffer.extract_follows
    (follows_packetFormat host room) room (gathered.symm ▸ positive)
  rw [gathered] at extracted keeps
  refine ⟨buffer, packetFormat.frames (socket.buffer.retained ++ read), ?_,
    keeps, ?_⟩
  · simp only [recv, Nat.not_lt.mpr fits, if_false, extracted]
  · rw [RecvBuffer.receptive_iff keeps, Progresses,
      awaitsFitting_tail_iff (lengths ▸ room)]
    constructor
    · exact And.right
    · intro fitting
      exact ⟨tail_short positive fitting, fitting⟩

/-- A call of `recv` that returns met no empty packet. -/
theorem positive_of_recv {read : Bytes} {socket after : ClientIOSocket}
    {code : Int} {packets : List Bytes}
    (room : socket.buffer.nRecvBufLen + read.length ≤ maxBufferSize)
    (received : socket.recv host read = .ok (code, after, packets)) :
    packetFormat.HeadersSatisfy (0 < ·)
      (socket.buffer.retained ++ read) := by
  rw [← RecvBuffer.retained_append room]
  simp only [recv, RecvBuffer.extract] at received
  split_ifs at received
  cases looped : (socket.buffer.append read).extractLoop host stops
      (fun tmpIndex =>
        (socket.buffer.append read).recvBuf.slice tmpIndex headLen) with
  | none => simp [looped] at received
  | some final =>
      have leaves : Leaves (loopPass host (socket.buffer.append read))
          .start := ⟨_, _, looped⟩
      exact (loop_leaves_iff room).mp leaves

/-- What a read leaves that returns. -/
theorem recv_left {read : Bytes} {socket after : ClientIOSocket}
    {code : Int} {packets : List Bytes}
    (within : socket.buffer.nRecvBufLen ≤ maxBufferSize)
    (fits : read.length ≤ socket.asked)
    (received : socket.recv host read = .ok (code, after, packets)) :
    after.buffer.nRecvBufLen ≤ maxBufferSize ∧
      (after.buffer.Receptive ↔ socket.Progresses read) := by
  have positive := positive_of_recv (room_of_asked within fits) received
  obtain ⟨buffer, others, again, keeps, progresses⟩ :=
    recv_positive host within fits positive
  rw [received] at again
  cases again
  exact ⟨keeps.1, progresses⟩

/-- The socket progresses with the next read. -/
def ProgressiveRead (reception : Reception ClientIOSocket) (amount : Nat) :
    Prop :=
  reception.socket.Progresses
    (reception.read reception.socket.asked amount)

/-- What the socket retains is inside its block. -/
def Intact (reception : Reception ClientIOSocket) : Prop :=
  reception.socket.buffer.nRecvBufLen ≤ maxBufferSize

theorem readCallback_intact {reception next : Reception ClientIOSocket}
    {amount : Nat} (intact : Intact reception)
    (stepped : readCallback host reception amount = .ok next) :
    Intact next := by
  obtain ⟨code, packets, received, -⟩ := Reception.readCallback_ok stepped
  have fits := reception.read_length_le reception.socket.asked amount
  exact (recv_left intact fits received).1

/-- One read keeps a socket receptive if and only if it progresses. -/
theorem readCallback_receptive_iff {reception : Reception ClientIOSocket}
    {amount : Nat} (intact : Intact reception) :
    (∀ next, readCallback host reception amount = .ok next →
        next.socket.buffer.Receptive) ↔
      ProgressiveRead reception amount := by
  have fits := reception.read_length_le reception.socket.asked amount
  constructor
  · intro staysReceptive
    by_cases positive : packetFormat.HeadersSatisfy (0 < ·)
        (reception.socket.buffer.retained ++
          reception.read reception.socket.asked amount)
    · obtain ⟨buffer, packets, received, -, progresses⟩ :=
        recv_positive host intact fits positive
      apply progresses.mp
      exact staysReceptive _ (Reception.readCallback_eq received)
    · apply progresses_of_empty _ positive
      rw [List.length_append, RecvBuffer.retained_length intact]
      exact room_of_asked intact fits
  · intro progressive next stepped
    obtain ⟨code, packets, received, -⟩ := Reception.readCallback_ok stepped
    exact (recv_left intact fits received).2.mpr progressive

end ClientIOSocket

/-- However the peer's bytes are cut into reads, up to a read that does not
return: a plain server socket and a client socket can go on after every read
if and only if they progress with every read. -/
theorem receiverProgress_iff (host : Host)
    (doWebSocketHandShake : Bytes → Bool) (server : ServerIOSocket)
    (client : ClientIOSocket) (stream : Bytes) (amounts : List Nat)
    (connected : server.status = .connected)
    (serverFresh : server.buffer.nRecvBufLen = 0)
    (clientFresh : client.buffer.nRecvBufLen = 0) :
    (HoldsWhereReached
        (ServerIOSocket.readCallback host doWebSocketHandShake)
        (fun reception => reception.socket.Plain →
          reception.socket.buffer.Receptive)
        (Reception.start server stream) amounts ↔
      MeetsAlong (ServerIOSocket.readCallback host doWebSocketHandShake)
        (ServerIOSocket.ProgressiveRead doWebSocketHandShake)
        (Reception.start server stream) amounts) ∧
    (HoldsWhereReached (ClientIOSocket.readCallback host)
        (fun reception => reception.socket.buffer.Receptive)
        (Reception.start client stream) amounts ↔
      MeetsAlong (ClientIOSocket.readCallback host)
        ClientIOSocket.ProgressiveRead
        (Reception.start client stream) amounts) := by
  constructor
  · have starts : ServerIOSocket.Intact (Reception.start server stream) := by
      intro plain
      exact ⟨connected, serverFresh ▸ Nat.zero_le _⟩
    apply holdsWhereReached_iff _ _ starts
    · exact fun plain => RecvBuffer.receptive_nil serverFresh
    · intro reception amount next
      exact ServerIOSocket.readCallback_intact
    · intro reception amount intact isOpen
      exact ServerIOSocket.readCallback_open_iff intact
  · have starts : ClientIOSocket.Intact (Reception.start client stream) :=
      Nat.le_trans (Nat.le_of_eq clientFresh) (Nat.zero_le _)
    apply holdsWhereReached_iff _ _ starts
    · exact RecvBuffer.receptive_nil clientFresh
    · intro reception amount next
      exact ClientIOSocket.readCallback_intact
    · intro reception amount intact receptive
      exact ClientIOSocket.readCallback_receptive_iff intact

/-- A client socket with nothing retained. -/
def freshClient : ClientIOSocket :=
  ClientIOSocket.new (Block.zero maxBufferSize)

/-- Two packets and the beginning of a third one, read in two pieces. -/
theorem receiverProgress_twoReads :
    (HoldsWhereReached (ServerIOSocket.readCallback .little fun _ => false)
        (fun reception => reception.socket.Plain →
          reception.socket.buffer.Receptive)
        (Reception.start plainSocket packetsAndHead) [7, 6] ↔
      MeetsAlong (ServerIOSocket.readCallback .little fun _ => false)
        (ServerIOSocket.ProgressiveRead fun _ => false)
        (Reception.start plainSocket packetsAndHead) [7, 6]) ∧
    (HoldsWhereReached (ClientIOSocket.readCallback .little)
        (fun reception => reception.socket.buffer.Receptive)
        (Reception.start freshClient packetsAndHead) [7, 6] ↔
      MeetsAlong (ClientIOSocket.readCallback .little)
        ClientIOSocket.ProgressiveRead
        (Reception.start freshClient packetsAndHead) [7, 6]) :=
  receiverProgress_iff .little (fun _ => false) plainSocket freshClient
    packetsAndHead [7, 6] rfl rfl rfl

/-- A head that announces 65535 bytes, and zeros up to the size of the
buffer. -/
def oversized : Bytes :=
  [255, 255, 1, 0] ++ List.replicate (maxBufferSize - 4) 0

theorem oversized_length : oversized.length = maxBufferSize := by
  rw [oversized, List.length_append, List.length_replicate]
  rfl

theorem oversized_announces :
    ServerIOSocket.uniformLength oversized.length oversized = some 65535 ∧
      packetFormat.announced oversized = some 65535 := by
  have enough : headLen ≤ oversized.length := by
    rw [oversized_length]
    decide
  have front : oversized.take 2 = [255, 255] := by
    rw [oversized, List.take_append_of_le_length (by decide)]
    rfl
  have spelled : littleEndianValue (oversized.take 2) = 65535 := by
    rw [front]
    decide
  constructor
  · simp only [ServerIOSocket.uniformLength, enough, if_true, spelled]
  · simp only [packetFormat, enough, if_true, spelled]

/-- The server's buffer after these bytes. -/
theorem recv_oversized_server :
    ∃ buffer packets,
      plainSocket.recv .little (fun _ => false) oversized =
        .ok (0, { plainSocket with buffer }, packets) ∧
      buffer.nRecvBufLen = maxBufferSize := by
  have room : plainSocket.buffer.nRecvBufLen + oversized.length ≤
      maxBufferSize := by
    rw [oversized_length]
    decide
  have uniform := oversized_announces.1
  obtain ⟨buffer, extracted, keeps⟩ := ServerIOSocket.extract_eq .little
    (RecvBuffer.keeps_nil (rfl : plainSocket.buffer.nRecvBufLen = 0)) room
    (by rw [List.nil_append, uniform]; decide)
  have received := (ServerIOSocket.recv_notWebSocket .little
    (fun _ => false) rfl rfl (Nat.le_of_eq oversized_length)).trans extracted
  refine ⟨buffer, _, received, ?_⟩
  rw [keeps.nRecvBufLen_eq, List.nil_append, uniform,
    Format.fixed_tail_eq (by decide), oversized_length,
    Nat.mod_eq_of_lt (by decide), Nat.sub_self, List.drop_zero,
    oversized_length]

/-- The client's buffer after these bytes. -/
theorem recv_oversized_client :
    ∃ buffer packets,
      freshClient.recv .little oversized =
        .ok (0, { freshClient with buffer }, packets) ∧
      buffer.nRecvBufLen = maxBufferSize := by
  have nothing : freshClient.buffer.retained = [] :=
    (RecvBuffer.keeps_nil rfl).2
  have incomplete : packetFormat.firstFrame oversized = none := by
    rw [Format.firstFrame, oversized_announces.2]
    apply if_neg
    rw [oversized_length]
    decide
  have split := Format.greedySplit_none incomplete
  have positive : packetFormat.HeadersSatisfy (0 < ·)
      (freshClient.buffer.retained ++ oversized) := by
    rw [nothing, List.nil_append]
    constructor
    · simp [Format.frames, split]
    · rintro size announcement
      rw [Format.tail, split, oversized_announces.2] at announcement
      obtain rfl := Option.some.inj announcement
      decide
  obtain ⟨buffer, packets, received, keeps, -⟩ :=
    ClientIOSocket.recv_positive .little (Nat.zero_le _)
      (Nat.le_of_eq oversized_length) positive
  refine ⟨buffer, packets, received, ?_⟩
  rw [keeps.nRecvBufLen_eq, nothing, List.nil_append, Format.tail, split,
    oversized_length]

/-- After one read of these bytes both buffers are full, and their sockets ask
for no more bytes. -/
theorem receiverProgress_oversized :
    (∃ reached,
      runActions (ServerIOSocket.readCallback .little fun _ => false)
          (Reception.start plainSocket oversized) [maxBufferSize] =
        .ok reached ∧
      reached.socket.Plain ∧
      ¬ reached.socket.buffer.nRecvBufLen < maxBufferSize ∧
      reached.socket.asked = 0) ∧
    ∃ reached,
      runActions (ClientIOSocket.readCallback .little)
          (Reception.start freshClient oversized) [maxBufferSize] =
        .ok reached ∧
      ¬ reached.socket.buffer.nRecvBufLen < maxBufferSize ∧
      reached.socket.asked = 0 := by
  have whole : oversized.take (min maxBufferSize maxBufferSize) =
      oversized := by
    rw [Nat.min_self, ← oversized_length, List.take_length]
  constructor
  · obtain ⟨buffer, packets, received, full⟩ := recv_oversized_server
    rw [← whole] at received
    refine ⟨_, (runActions_singleton _ _).trans
      (Reception.readCallback_eq received), ?_, ?_, ?_⟩
    · rintro tmpBuf ⟨⟩
    · exact Nat.not_lt.mpr (Nat.le_of_eq full.symm)
    · exact Nat.sub_eq_zero_of_le (Nat.le_of_eq full.symm)
  · obtain ⟨buffer, packets, received, full⟩ := recv_oversized_client
    rw [← whole] at received
    refine ⟨_, (runActions_singleton _ _).trans
      (Reception.readCallback_eq received), ?_, ?_⟩
    · exact Nat.not_lt.mpr (Nat.le_of_eq full.symm)
    · exact Nat.sub_eq_zero_of_le (Nat.le_of_eq full.symm)

end EchoServer
