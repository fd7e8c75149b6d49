import EchoServer.ClientIOSocket
import EchoServer.ServerIOSocket

/-!
# Whether the packet loops end

The loops of `ServerIOSocket::recv` and `ClientIOSocket::recv` advance by the
length that a head announces.  A length of zero is accepted like any other, and
then the same head is parsed again.
-/

namespace EchoServer

open ByteOrder FuelledLoop Framing

/-- A head that announces an empty packet. -/
def AnnouncesEmpty (window : Bytes) : Prop :=
  headLen ≤ window.length ∧ littleEndianValue (window.take 2) = 0

instance (window : Bytes) : Decidable (AnnouncesEmpty window) :=
  inferInstanceAs (Decidable (_ ∧ _))

/-- One pass of the loop in `ServerIOSocket::recv`, after a read of `len`
bytes. -/
def ServerIOSocket.loopPass (host : Host) (len : Nat) (buffer : RecvBuffer) :
    Extraction → Pass Extraction :=
  buffer.extractPass host stops fun _ => buffer.recvBuf.slice 0 len

/-- One pass of the loop in `ClientIOSocket::recv`. -/
def ClientIOSocket.loopPass (host : Host) (buffer : RecvBuffer) :
    Extraction → Pass Extraction :=
  buffer.extractPass host stops fun tmpIndex =>
    buffer.recvBuf.slice tmpIndex headLen

/-- The variables in front of the loop. -/
def Extraction.start : Extraction where
  tmpIndex := 0
  asynRecived := []

/-- The head parsed from a window announces what its first two bytes spell. -/
theorem parseHead_announces {host : Host} {window : Bytes}
    {head : ProtocolHead} (parsed : parseHead host window = .ok head) :
    headLen ≤ window.length ∧
      head.len.toNat = littleEndianValue (window.take 2) := by
  by_cases enough : headLen ≤ window.length
  · obtain ⟨other, otherParsed, lenEq⟩ := parseHead_len host window enough
    obtain rfl := Except.ok.inj (otherParsed.symm.trans parsed)
    exact ⟨enough, lenEq⟩
  · rw [parseHead_short host window (Nat.lt_of_not_le enough)] at parsed
    cases parsed

/-- A head that announces an empty packet keeps a loop at its place. -/
theorem RecvBuffer.not_leaves_of_empty {host : Host} {stops : Int → Bool}
    {window : Nat → Bytes} {buffer : RecvBuffer} {extraction : Extraction}
    (empty : AnnouncesEmpty (window extraction.tmpIndex))
    (running : stops (intDiff buffer.nRecvBufLen extraction.tmpIndex) = false)
    (reached : 0 ≤ intDiff buffer.nRecvBufLen extraction.tmpIndex) :
    ¬ Leaves (buffer.extractPass host stops window) extraction := by
  rintro ⟨fuel, final, ran⟩
  obtain ⟨head, parsed, lenEq⟩ := parseHead_len host _ empty.1
  rw [empty.2] at lenEq
  have endless := runLoop_emptyPacket parsed
    (by rw [lenEq]; exact reached) running lenEq fuel extraction rfl
  rw [endless] at ran
  cases ran

section Server

variable {host : Host} {buffer : RecvBuffer}

/-- The server's loop parses the same head in every pass. -/
theorem ServerIOSocket.loop_leaves_iff (len : Nat)
    (within : buffer.nRecvBufLen ≤ maxBufferSize) :
    Leaves (loopPass host len buffer) .start ↔
      ¬ (0 < buffer.nRecvBufLen ∧
        AnnouncesEmpty (buffer.recvBuf.slice 0 len)) := by
  have bound : buffer.nRecvBufLen < 2 ^ 31 := by
    simp only [maxBufferSize] at within
    omega
  constructor
  · rintro leaves ⟨nonempty, empty⟩
    have remaining := intDiff_eq (Nat.zero_le buffer.nRecvBufLen) bound
    refine RecvBuffer.not_leaves_of_empty empty ?_ ?_ leaves
    · simp only [Extraction.start, remaining, stops]
      apply decide_eq_false
      omega
    · simp only [Extraction.start, remaining]
      omega
  · intro notEmpty
    refine leaves_of_measure
      (fun extraction : Extraction =>
        extraction.tmpIndex ≤ buffer.nRecvBufLen)
      (fun extraction => buffer.nRecvBufLen - extraction.tmpIndex) ?_
      (Nat.zero_le _)
    intro extraction next reached passed
    obtain ⟨head, parsed, fits, running, advanced, -⟩ :=
      RecvBuffer.extractPass_again passed
    have remaining := intDiff_eq reached bound
    rw [remaining] at fits running
    have left := of_decide_eq_false running
    obtain ⟨enough, lenEq⟩ := parseHead_announces parsed
    have positive : head.len.toNat ≠ 0 := by
      intro zero
      exact notEmpty ⟨by omega, enough, lenEq.symm.trans zero⟩
    rw [advanced]
    omega

end Server

section Client

variable {host : Host} {buffer : RecvBuffer}

/-- The bytes left hold the head that the client's loop parses. -/
theorem ClientIOSocket.window_eq
    (within : buffer.nRecvBufLen ≤ maxBufferSize) {extraction : Extraction}
    (enough : headLen ≤
      (buffer.retained.drop extraction.tmpIndex).length) :
    buffer.recvBuf.slice extraction.tmpIndex headLen =
      (buffer.retained.drop extraction.tmpIndex).take headLen := by
  apply RecvBuffer.slice_eq_retained
  rw [List.length_drop, RecvBuffer.retained_length within] at enough
  simp only [headLen] at enough ⊢
  omega

/-- A head at a packet boundary that announces an empty packet keeps the
client's loop there. -/
theorem ClientIOSocket.not_leaves_of_announced
    (within : buffer.nRecvBufLen ≤ maxBufferSize) {extraction : Extraction}
    (reached : extraction.tmpIndex ≤ buffer.nRecvBufLen)
    (announced : packetFormat.announced
      (buffer.retained.drop extraction.tmpIndex) = some 0) :
    ¬ Leaves (loopPass host buffer) extraction := by
  simp only [packetFormat] at announced
  split at announced
  · rename_i enough
    have window := window_eq within enough
    have remaining := intDiff_eq reached
      (by simp only [maxBufferSize] at within; omega)
    have spelled := Option.some.inj announced
    rw [List.length_drop, RecvBuffer.retained_length within] at enough
    apply RecvBuffer.not_leaves_of_empty
    · constructor
      · rw [window, List.length_take, List.length_drop,
          RecvBuffer.retained_length within]
        omega
      · rw [window, List.take_take]
        exact spelled
    · rw [remaining]
      apply decide_eq_false
      omega
    · rw [remaining]
      omega
  · cases announced

/-- If the client's loop leaves, it has met no empty packet. -/
theorem ClientIOSocket.headers_of_leaves
    (within : buffer.nRecvBufLen ≤ maxBufferSize) (items : Bytes) :
    ∀ extraction : Extraction,
      items = buffer.retained.drop extraction.tmpIndex →
      extraction.tmpIndex ≤ buffer.nRecvBufLen →
      Leaves (loopPass host buffer) extraction →
      packetFormat.HeadersSatisfy (0 < ·) items := by
  induction items using Format.split_induction packetFormat with
  | stop items incomplete =>
      intro extraction left reached leaves
      constructor
      · simp [Format.frames, Format.greedySplit_none incomplete]
      · intro size announced
        have stays : packetFormat.tail items = items :=
          congrArg Prod.snd (Format.greedySplit_none incomplete)
        rw [stays, left] at announced
        apply Nat.pos_of_ne_zero
        rintro rfl
        exact not_leaves_of_announced within reached announced leaves
  | frame items size complete ih =>
      intro extraction left reached leaves
      obtain ⟨announced, positive, fits⟩ :=
        Format.firstFrame_eq_some.mp complete
      have passed := follows_packetFormat host within extraction reached
        (by
          rw [← left, announced]
          rintro other ⟨⟩
          exact positive)
      rw [← left, complete] at passed
      rw [left, List.length_drop, RecvBuffer.retained_length within] at fits
      have behind := (leaves_again passed).mp leaves
      refine Format.HeadersSatisfy.of_rest complete positive ?_
      exact ih _ (by rw [left, List.drop_drop]) (by simp only; omega) behind

/-- The client's loop parses a head at every packet boundary. -/
theorem ClientIOSocket.loop_leaves_iff
    (within : buffer.nRecvBufLen ≤ maxBufferSize) :
    Leaves (loopPass host buffer) .start ↔
      packetFormat.HeadersSatisfy (0 < ·) buffer.retained := by
  constructor
  · intro leaves
    exact headers_of_leaves within buffer.retained .start rfl
      (Nat.zero_le _) leaves
  · intro positive
    have enough : buffer.retained.length < buffer.nRecvBufLen + 1 := by
      rw [RecvBuffer.retained_length within]
      omega
    have ran := RecvBuffer.runLoop_follows (follows_packetFormat host within)
      within buffer.retained .start (buffer.nRecvBufLen + 1) rfl
      (Nat.zero_le _) positive enough
    exact ⟨_, _, ran⟩

end Client

/-- The loops of both sides end if and only if they meet no head of an empty
packet: the server at the start of its buffer, where it parses every head, the
client at the boundaries of packets. -/
theorem packetTermination_iff (host : Host) (buffer : RecvBuffer) (len : Nat)
    (within : buffer.nRecvBufLen ≤ maxBufferSize) :
    (Leaves (ServerIOSocket.loopPass host len buffer) .start ↔
      ¬ (0 < buffer.nRecvBufLen ∧
        AnnouncesEmpty (buffer.recvBuf.slice 0 len))) ∧
    (Leaves (ClientIOSocket.loopPass host buffer) .start ↔
      packetFormat.HeadersSatisfy (0 < ·) buffer.retained) :=
  ⟨ServerIOSocket.loop_leaves_iff len within,
    ClientIOSocket.loop_leaves_iff within⟩

/-- Two packets of different sizes and the head of a third one. -/
def packetsInBuffer : RecvBuffer where
  recvBuf := (Block.zero maxBufferSize).overwrite 0
    [5, 0, 1, 0, 9, 6, 0, 2, 0, 7, 8, 200, 0, 3, 0]
  nRecvBufLen := 15

/-- Both loops leave it. -/
theorem packetTermination_packetsInBuffer :
    Leaves (ServerIOSocket.loopPass .little 15 packetsInBuffer) .start ∧
      Leaves (ClientIOSocket.loopPass .little packetsInBuffer) .start := by
  obtain ⟨server, client⟩ :=
    packetTermination_iff .little packetsInBuffer 15 (by decide)
  exact ⟨server.mpr (by decide +kernel), client.mpr (by decide +kernel)⟩

/-- Four zeros in a buffer. -/
def emptyPacket : RecvBuffer where
  recvBuf := Block.zero maxBufferSize
  nRecvBufLen := 4

/-- Four zeros keep both loops busy forever. -/
theorem packetTermination_emptyPacket :
    emptyPacket.nRecvBufLen ≤ maxBufferSize ∧
      ¬ Leaves (ServerIOSocket.loopPass .little 4 emptyPacket) .start ∧
      ¬ Leaves (ClientIOSocket.loopPass .little emptyPacket) .start := by
  have within : emptyPacket.nRecvBufLen ≤ maxBufferSize := by decide
  have empty : AnnouncesEmpty (emptyPacket.recvBuf.slice 0 4) := by
    constructor <;> decide +kernel
  refine ⟨within, ?_, ?_⟩
  · rw [ServerIOSocket.loop_leaves_iff 4 within, not_not]
    exact ⟨by decide, empty⟩
  · exact ClientIOSocket.not_leaves_of_announced within (Nat.zero_le _)
      (by decide +kernel)

end EchoServer
