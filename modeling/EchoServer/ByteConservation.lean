import EchoServer.ClientFraming
import EchoServer.PacketTermination
import EchoServer.ServerFraming

/-!
# No byte is lost or made up

Whatever the bytes are and however they are cut into reads, the buffers handed
to `asynRecive` and the bytes retained make up the bytes read, as long as no
pass of the loop parses a length of zero.  The index never comes behind the
bytes in the buffer, so the unsigned differences are exact.
-/

namespace EchoServer

open ByteOrder Framing FuelledLoop LabelledRun

namespace RecvBuffer

/-- The pass at these variables parses a length of zero. -/
def ParsesEmpty (host : Host) (stops : Int → Bool) (window : Nat → Bytes)
    (buffer : RecvBuffer) (extraction : Extraction) : Prop :=
  stops (intDiff buffer.nRecvBufLen extraction.tmpIndex) = false ∧
    ∃ head, parseHead host (window extraction.tmpIndex) = .ok head ∧
      head.len.toNat = 0

/-- No pass of the loop parses a length of zero. -/
def NeverEmpty (host : Host) (stops : Int → Bool) (window : Nat → Bytes)
    (buffer : RecvBuffer) : Prop :=
  ∀ extraction,
    Reaches (buffer.extractPass host stops window) .start extraction →
      ¬ buffer.ParsesEmpty host stops window extraction

/-- In every pass of the loop the index is at most the length of the bytes in
the buffer, which is at most the size of the buffer, so that
`_nRecvBufLen - tmpIndex` does not wrap. -/
def IndexWithin (host : Host) (stops : Int → Bool) (window : Nat → Bytes)
    (buffer : RecvBuffer) : Prop :=
  buffer.nRecvBufLen ≤ maxBufferSize ∧
    ∀ extraction,
      Reaches (buffer.extractPass host stops window) .start extraction →
        extraction.tmpIndex ≤ buffer.nRecvBufLen ∧
          intDiff buffer.nRecvBufLen extraction.tmpIndex =
            (buffer.nRecvBufLen : Int) - extraction.tmpIndex

/-- The bytes handed out and those retained make up the bytes read. -/
def Conserves (received : Bytes) (asynRecived : List Bytes)
    (buffer : RecvBuffer) : Prop :=
  asynRecived.flatten ++ buffer.retained = received ∧
    buffer.nRecvBufLen ≤ maxBufferSize

variable {host : Host} {stops : Int → Bool} {window : Nat → Bytes}
variable {buffer : RecvBuffer}

/-- The index is within the bytes in the buffer, and those in front of it have
been handed out. -/
def HandedOut (buffer : RecvBuffer) (extraction : Extraction) : Prop :=
  extraction.tmpIndex ≤ buffer.nRecvBufLen ∧
    extraction.asynRecived.flatten =
      buffer.retained.take extraction.tmpIndex

/-- A pass that goes round again hands out the bytes that it puts behind the
index. -/
theorem HandedOut.pass (within : buffer.nRecvBufLen ≤ maxBufferSize)
    {extraction next : Extraction} (handedOut : buffer.HandedOut extraction)
    (passed : buffer.extractPass host stops window extraction =
      .again next) : buffer.HandedOut next := by
  obtain ⟨reached, front⟩ := handedOut
  obtain ⟨head, -, fits, -, advanced, handed⟩ := extractPass_again passed
  rw [intDiff_eq reached
    (by simp only [maxBufferSize] at within; omega)] at fits
  constructor
  · omega
  · rw [handed, advanced, List.flatten_append, front, List.take_add,
      slice_eq_retained (by omega), List.flatten_singleton]

/-- Wherever the loop comes to, the bytes in front of the index have been
handed out. -/
theorem reached_handedOut (within : buffer.nRecvBufLen ≤ maxBufferSize)
    {extraction : Extraction}
    (reaches : Reaches (buffer.extractPass host stops window) .start
      extraction) : buffer.HandedOut extraction := by
  apply reaches.invariant (fun _ _ => HandedOut.pass within)
  exact ⟨Nat.zero_le _, rfl⟩

theorem indexWithin (within : buffer.nRecvBufLen ≤ maxBufferSize) :
    buffer.IndexWithin host stops window := by
  refine ⟨within, ?_⟩
  intro extraction reaches
  have reached := (reached_handedOut within reaches).1
  rw [intDiff_eq reached (by simp only [maxBufferSize] at within; omega)]
  omega

/-- A loop that never parses a length of zero comes to an end. -/
theorem NeverEmpty.leaves (within : buffer.nRecvBufLen ≤ maxBufferSize)
    (neverEmpty : buffer.NeverEmpty host stops window) :
    Leaves (buffer.extractPass host stops window) .start := by
  apply leaves_of_measure
    (Reaches (buffer.extractPass host stops window) .start)
    (fun extraction => buffer.nRecvBufLen - extraction.tmpIndex)
  · intro extraction next reaches passed
    have reachesNext := reaches.tail passed
    obtain ⟨head, parsed, fits, running, advanced, -⟩ :=
      extractPass_again passed
    have positive : head.len.toNat ≠ 0 := by
      intro empty
      exact neverEmpty extraction reaches ⟨running, head, parsed, empty⟩
    have inside := (reached_handedOut within reachesNext).1
    exact ⟨reachesNext, by omega⟩
  · exact .refl

/-- A loop that comes to an end never parses a length of zero. -/
theorem neverEmpty_of_leaves (within : buffer.nRecvBufLen ≤ maxBufferSize)
    (leaves : Leaves (buffer.extractPass host stops window) .start) :
    buffer.NeverEmpty host stops window := by
  rintro extraction reaches ⟨running, head, parsed, empty⟩
  obtain ⟨fuel, final, ran⟩ := reaches.leaves_iff.mp leaves
  have remaining := ((indexWithin within).2 extraction reaches).2
  have reached := (reached_handedOut within reaches).1
  have endless := runLoop_emptyPacket parsed (by omega) running empty fuel
    extraction rfl
  rw [endless] at ran
  cases ran

/-- The loop and what follows it hand out the front of the retained bytes and
keep the rest. -/
theorem extract_conserves (within : buffer.nRecvBufLen ≤ maxBufferSize)
    (neverEmpty : buffer.NeverEmpty host stops window) :
    ∃ after packets,
      buffer.extract host stops window = .ok (after, packets) ∧
        after.Conserves buffer.retained packets := by
  obtain ⟨fuel, left, leaves⟩ := neverEmpty.leaves within
  cases looped : buffer.extractLoop host stops window with
  | none =>
      have endless := extractLoop_none within looped fuel
      rw [show (⟨0, []⟩ : Extraction) = .start from rfl, leaves] at endless
      cases endless
  | some final =>
      obtain ⟨last, reaches, passed⟩ := reaches_of_runLoop looped
      obtain rfl := extractPass_leave passed
      obtain ⟨reached, handedOut⟩ := reached_handedOut within reaches
      refine ⟨buffer.compact final.tmpIndex, final.asynRecived, ?_, ?_, ?_⟩
      · rw [extract, looped]
      · rw [handedOut, retained_compact reached within,
          List.take_append_drop]
      · rw [compact_nRecvBufLen]
        omega

/-- Reading more bytes and handing out what is complete. -/
theorem Conserves.extract_append {received read : Bytes}
    {asynRecived : List Bytes}
    (conserves : buffer.Conserves received asynRecived)
    (fits : buffer.nRecvBufLen + read.length ≤ maxBufferSize)
    (neverEmpty : (buffer.append read).NeverEmpty host stops window) :
    ∃ after packets,
      (buffer.append read).extract host stops window =
          .ok (after, packets) ∧
        after.Conserves (received ++ read) (asynRecived ++ packets) := by
  obtain ⟨after, packets, extracted, pieces, within⟩ :=
    extract_conserves fits neverEmpty
  refine ⟨after, packets, extracted, ?_, within⟩
  rw [List.flatten_append, List.append_assoc, pieces, retained_append fits,
    ← List.append_assoc, conserves.1]

end RecvBuffer

namespace ServerIOSocket

variable {host : Host} {doWebSocketHandShake : Bytes → Bool}

/-- `doWebSocket` leaves the socket a plain one. -/
def StaysPlain (doWebSocketHandShake : Bytes → Bool) (read : Bytes)
    (socket : ServerIOSocket) : Prop :=
  doWebSocket doWebSocketHandShake socket.nWebSocketFlag
      (socket.buffer.recvBuf.overwrite socket.buffer.nRecvBufLen read).bytes =
    (.notWebSocket, true)

/-- The loop after this read parses no length of zero. -/
def ParsesNoEmpty (host : Host) (read : Bytes) (socket : ServerIOSocket) :
    Prop :=
  let buffer := socket.buffer.append read
  buffer.NeverEmpty host stops fun _ => buffer.recvBuf.slice 0 read.length

/-- The index stays within the bytes in the loop after this read. -/
def IndexWithin (host : Host) (read : Bytes) (socket : ServerIOSocket) :
    Prop :=
  let buffer := socket.buffer.append read
  buffer.IndexWithin host stops fun _ => buffer.recvBuf.slice 0 read.length

theorem asked_of_staysPlain {read : Bytes} {socket : ServerIOSocket}
    (plain : socket.StaysPlain doWebSocketHandShake read) :
    socket.asked = maxBufferSize - socket.buffer.nRecvBufLen := by
  obtain ⟨status, nWebSocketFlag, buffer⟩ := socket
  cases nWebSocketFlag with
  | isWebSocket tmpBuf => simp [StaysPlain, doWebSocket] at plain
  | wfUnknown => rfl
  | notWebSocket => rfl

theorem room_of_staysPlain {read : Bytes} {socket : ServerIOSocket}
    (within : socket.buffer.nRecvBufLen ≤ maxBufferSize)
    (plain : socket.StaysPlain doWebSocketHandShake read)
    (fits : read.length ≤ socket.asked) :
    socket.buffer.nRecvBufLen + read.length ≤ maxBufferSize := by
  rw [asked_of_staysPlain plain] at fits
  omega

/-- On a connected socket that stays plain `recv` goes to its end. -/
theorem recv_staysPlain (host : Host) {read : Bytes}
    {socket : ServerIOSocket} (connected : socket.status = .connected)
    (plain : socket.StaysPlain doWebSocketHandShake read)
    (fits : read.length ≤ socket.asked) :
    socket.recv host doWebSocketHandShake read =
      { socket with nWebSocketFlag := .notWebSocket }.extract host read := by
  obtain ⟨status, nWebSocketFlag, buffer⟩ := socket
  simp only at connected
  subst connected
  cases nWebSocketFlag with
  | isWebSocket tmpBuf => simp [StaysPlain, doWebSocket] at plain
  | wfUnknown =>
      simp only [StaysPlain] at plain
      simp only [recv, Nat.not_lt.mpr fits, if_false, recvPlain, plain,
        ne_eq, not_true_eq_false, if_true]
  | notWebSocket =>
      exact recv_notWebSocket host doWebSocketHandShake rfl rfl fits

/-- The bytes of the peer are those handed out and those retained. -/
def Conserving (reception : Reception ServerIOSocket) : Prop :=
  reception.socket.status = .connected ∧
    reception.socket.buffer.Conserves reception.received
      reception.asynRecived

/-- The next read leaves the socket plain and its loop parses no length of
zero. -/
def SoundRead (host : Host) (doWebSocketHandShake : Bytes → Bool)
    (reception : Reception ServerIOSocket) (amount : Nat) : Prop :=
  let read := reception.read reception.socket.asked amount
  reception.socket.StaysPlain doWebSocketHandShake read ∧
    reception.socket.ParsesNoEmpty host read

theorem room_of_soundRead {reception : Reception ServerIOSocket}
    {amount : Nat} (conserving : Conserving reception)
    (sound : SoundRead host doWebSocketHandShake reception amount) :
    reception.socket.buffer.nRecvBufLen +
        (reception.read reception.socket.asked amount).length ≤
      maxBufferSize :=
  room_of_staysPlain conserving.2.2 sound.1 (reception.read_length_le _ _)

/-- One read conserves the bytes. -/
theorem readCallback_conserves {reception : Reception ServerIOSocket}
    {amount : Nat} (conserving : Conserving reception)
    (sound : SoundRead host doWebSocketHandShake reception amount) :
    ∃ next,
      readCallback host doWebSocketHandShake reception amount = .ok next ∧
        Conserving next := by
  have fits := reception.read_length_le reception.socket.asked amount
  obtain ⟨after, packets, extracted, conserves⟩ :=
    conserving.2.extract_append (room_of_soundRead conserving sound) sound.2
  have received := recv_staysPlain host conserving.1 sound.1 fits
  simp only [extract, extracted] at received
  exact ⟨_, Reception.readCallback_eq received, conserving.1, conserves⟩

end ServerIOSocket

namespace ClientIOSocket

variable {host : Host}

/-- The loop after this read parses no length of zero. -/
def ParsesNoEmpty (host : Host) (read : Bytes) (socket : ClientIOSocket) :
    Prop :=
  let buffer := socket.buffer.append read
  buffer.NeverEmpty host stops fun tmpIndex =>
    buffer.recvBuf.slice tmpIndex headLen

/-- The index stays within the bytes in the loop after this read. -/
def IndexWithin (host : Host) (read : Bytes) (socket : ClientIOSocket) :
    Prop :=
  let buffer := socket.buffer.append read
  buffer.IndexWithin host stops fun tmpIndex =>
    buffer.recvBuf.slice tmpIndex headLen

/-- The bytes of the peer are those handed out and those retained. -/
def Conserving (reception : Reception ClientIOSocket) : Prop :=
  reception.socket.buffer.Conserves reception.received
    reception.asynRecived

/-- The loop after the next read parses no length of zero. -/
def SoundRead (host : Host) (reception : Reception ClientIOSocket)
    (amount : Nat) : Prop :=
  reception.socket.ParsesNoEmpty host
    (reception.read reception.socket.asked amount)

theorem room_of_asked {read : Bytes} {socket : ClientIOSocket}
    (within : socket.buffer.nRecvBufLen ≤ maxBufferSize)
    (fits : read.length ≤ socket.asked) :
    socket.buffer.nRecvBufLen + read.length ≤ maxBufferSize := by
  simp only [asked] at fits
  omega

/-- One read conserves the bytes. -/
theorem readCallback_conserves {reception : Reception ClientIOSocket}
    {amount : Nat} (conserving : Conserving reception)
    (sound : SoundRead host reception amount) :
    ∃ next, readCallback host reception amount = .ok next ∧
      Conserving next := by
  have fits := reception.read_length_le reception.socket.asked amount
  obtain ⟨after, packets, extracted, conserves⟩ :=
    RecvBuffer.Conserves.extract_append conserving
      (room_of_asked conserving.2 fits) sound
  have received : recv host
      (reception.read reception.socket.asked amount) reception.socket =
        .ok (0, { reception.socket with buffer := after }, packets) := by
    simp only [recv, Nat.not_lt.mpr fits, if_false, extracted]
  exact ⟨_, Reception.readCallback_eq received, conserves⟩

end ClientIOSocket

/-- A buffer with nothing in it, before anything is read. -/
theorem RecvBuffer.conserves_nil {buffer : RecvBuffer}
    (fresh : buffer.nRecvBufLen = 0) : buffer.Conserves [] [] := by
  obtain ⟨within, retained⟩ := RecvBuffer.keeps_nil fresh
  exact ⟨retained, within⟩

/-- Whatever the peers send and however the reads cut it, as long as no loop
parses a length of zero: after every read of a connected server socket that
stays plain, and after every read of a client socket on one connection, the
packets handed out and the bytes retained make up the bytes read, and in every
pass of every loop the index is within the bytes in the buffer. -/
theorem byteConservation (host : Host) (doWebSocketHandShake : Bytes → Bool)
    (server : ServerIOSocket) (client : ClientIOSocket)
    (serverStream clientStream : Bytes)
    (serverAmounts clientAmounts : List Nat)
    (connected : server.status = .connected)
    (serverFresh : server.buffer.nRecvBufLen = 0)
    (clientFresh : client.buffer.nRecvBufLen = 0)
    (serverSound : MeetsAlong
      (ServerIOSocket.readCallback host doWebSocketHandShake)
      (ServerIOSocket.SoundRead host doWebSocketHandShake)
      (Reception.start server serverStream) serverAmounts)
    (clientSound : MeetsAlong (ClientIOSocket.readCallback host)
      (ClientIOSocket.SoundRead host)
      (Reception.start client clientStream) clientAmounts) :
    (HoldsThroughout (ServerIOSocket.readCallback host doWebSocketHandShake)
        (fun reception => reception.socket.buffer.Conserves
          reception.received reception.asynRecived)
        (Reception.start server serverStream) serverAmounts ∧
      MeetsAlong (ServerIOSocket.readCallback host doWebSocketHandShake)
        (fun reception amount => reception.socket.IndexWithin host
          (reception.read reception.socket.asked amount))
        (Reception.start server serverStream) serverAmounts) ∧
    (HoldsThroughout (ClientIOSocket.readCallback host)
        (fun reception => reception.socket.buffer.Conserves
          reception.received reception.asynRecived)
        (Reception.start client clientStream) clientAmounts ∧
      MeetsAlong (ClientIOSocket.readCallback host)
        (fun reception amount => reception.socket.IndexWithin host
          (reception.read reception.socket.asked amount))
        (Reception.start client clientStream) clientAmounts) := by
  have serverStarts : ServerIOSocket.Conserving
      (Reception.start server serverStream) :=
    ⟨connected, RecvBuffer.conserves_nil serverFresh⟩
  have clientStarts : ClientIOSocket.Conserving
      (Reception.start client clientStream) :=
    RecvBuffer.conserves_nil clientFresh
  refine ⟨⟨?_, ?_⟩, ?_, ?_⟩
  · apply (holdsThroughout_of_meetsAlong _ serverStarts serverSound).imp
    · intro reception conserving
      exact conserving.2
    · intro reception amount
      exact ServerIOSocket.readCallback_conserves
  · apply serverSound.of_invariant (preserved_of_steps _) _ serverStarts
    · intro reception amount
      exact ServerIOSocket.readCallback_conserves
    · intro reception amount conserving sound
      exact RecvBuffer.indexWithin
        (ServerIOSocket.room_of_soundRead conserving sound)
  · apply (holdsThroughout_of_meetsAlong _ clientStarts clientSound).imp
    · intro reception conserving
      exact conserving
    · intro reception amount
      exact ClientIOSocket.readCallback_conserves
  · apply clientSound.of_invariant (preserved_of_steps _) _ clientStarts
    · intro reception amount
      exact ClientIOSocket.readCallback_conserves
    · intro reception amount conserving sound
      exact RecvBuffer.indexWithin
        (ClientIOSocket.room_of_asked conserving.2
          (reception.read_length_le _ _))

namespace ServerIOSocket

/-- The socket is a plain one, and the head at the front of its buffer after
the next read announces a packet of some length. -/
def PositiveRead (reception : Reception ServerIOSocket) (amount : Nat) :
    Prop :=
  let read := reception.read reception.socket.asked amount
  let buffer := reception.socket.buffer.append read
  reception.socket.nWebSocketFlag = .notWebSocket ∧
    buffer.nRecvBufLen ≤ maxBufferSize ∧
    ¬ AnnouncesEmpty (buffer.recvBuf.slice 0 read.length)

instance (reception : Reception ServerIOSocket) (amount : Nat) :
    Decidable (PositiveRead reception amount) :=
  inferInstanceAs (Decidable (_ ∧ _ ∧ ¬ _))

theorem PositiveRead.sound {host : Host}
    {doWebSocketHandShake : Bytes → Bool}
    {reception : Reception ServerIOSocket} {amount : Nat}
    (positive : PositiveRead reception amount) :
    SoundRead host doWebSocketHandShake reception amount := by
  obtain ⟨plain, within, notEmpty⟩ := positive
  constructor
  · rw [StaysPlain, plain]
    rfl
  · apply RecvBuffer.neverEmpty_of_leaves within
    apply (loop_leaves_iff _ within).mpr
    exact fun empty => notEmpty empty.2

end ServerIOSocket

namespace ClientIOSocket

/-- The heads in the buffer after the next read announce packets of some
length. -/
def PositiveRead (reception : Reception ClientIOSocket) (amount : Nat) :
    Prop :=
  let buffer := reception.socket.buffer.append
    (reception.read reception.socket.asked amount)
  buffer.nRecvBufLen ≤ maxBufferSize ∧
    packetFormat.HeadersSatisfy (0 < ·) buffer.retained

instance (reception : Reception ClientIOSocket) (amount : Nat) :
    Decidable (PositiveRead reception amount) :=
  inferInstanceAs (Decidable (_ ∧ _))

theorem PositiveRead.sound {host : Host}
    {reception : Reception ClientIOSocket} {amount : Nat}
    (positive : PositiveRead reception amount) :
    SoundRead host reception amount := by
  apply RecvBuffer.neverEmpty_of_leaves positive.1
  exact (loop_leaves_iff positive.1).mpr positive.2

end ClientIOSocket

/-- Two packets, and the beginning of a third one. -/
def packetsAndHead : Bytes :=
  [5, 0, 1, 0, 9, 5, 0, 2, 0, 8, 6, 0, 3]

/-- The server reads them in three pieces, the client in two. -/
theorem byteConservation_threeReads :
    (HoldsThroughout (ServerIOSocket.readCallback .little fun _ => false)
        (fun reception => reception.socket.buffer.Conserves
          reception.received reception.asynRecived)
        (Reception.start plainSocket packetsAndHead) [3, 8, 2] ∧
      MeetsAlong (ServerIOSocket.readCallback .little fun _ => false)
        (fun reception amount => reception.socket.IndexWithin .little
          (reception.read reception.socket.asked amount))
        (Reception.start plainSocket packetsAndHead) [3, 8, 2]) ∧
    (HoldsThroughout (ClientIOSocket.readCallback .little)
        (fun reception => reception.socket.buffer.Conserves
          reception.received reception.asynRecived)
        (Reception.start (ClientIOSocket.new (Block.zero maxBufferSize))
          packetsAndHead) [7, 6] ∧
      MeetsAlong (ClientIOSocket.readCallback .little)
        (fun reception amount => reception.socket.IndexWithin .little
          (reception.read reception.socket.asked amount))
        (Reception.start (ClientIOSocket.new (Block.zero maxBufferSize))
          packetsAndHead) [7, 6]) := by
  have serverPositive : MeetsAlong
      (ServerIOSocket.readCallback .little fun _ => false)
      ServerIOSocket.PositiveRead
      (Reception.start plainSocket packetsAndHead) [3, 8, 2] := by
    decide +kernel
  have clientPositive : MeetsAlong (ClientIOSocket.readCallback .little)
      ClientIOSocket.PositiveRead
      (Reception.start (ClientIOSocket.new (Block.zero maxBufferSize))
        packetsAndHead) [7, 6] := by
    decide +kernel
  exact byteConservation .little (fun _ => false) plainSocket
    (ClientIOSocket.new (Block.zero maxBufferSize)) packetsAndHead
    packetsAndHead [3, 8, 2] [7, 6] rfl rfl rfl
    (serverPositive.imp fun _ _ => ServerIOSocket.PositiveRead.sound)
    (clientPositive.imp fun _ _ => ClientIOSocket.PositiveRead.sound)

end EchoServer
