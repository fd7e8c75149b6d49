import EchoServer.ByteBlock
import EchoServer.FuelledLoop
import EchoServer.LengthPrefixedFraming
import EchoServer.ProtocolBase
import EchoServer.SocketBase

/-!
# Extracting packets from a receive buffer

`ServerIOSocket::recv` and `ClientIOSocket::recv` end with the same loop: parse
a head, hand the packet it announces to `asynRecive`, advance `tmpIndex`, and
at the end move what is left to the front of the buffer.  They differ in when
they stop looking for a head and in which bytes they parse it from, so both
are parameters here.
-/

namespace EchoServer

open ByteOrder FuelledLoop Framing

/-- `int(a - b)` for two `unsigned int`. -/
def intDiff (a b : Nat) : Int :=
  (BitVec.ofNat 32 a - BitVec.ofNat 32 b).toInt

/-- How a call of `recv` fails to return: it leaves a buffer, or its loop
never ends. -/
inductive RecvStop
  | outOfBounds
  | endless
  deriving DecidableEq

/-- The variables of the loop: `tmpIndex`, and the packets handed to
`asynRecive` so far. -/
structure Extraction where
  tmpIndex : Nat
  asynRecived : List Bytes
  deriving DecidableEq

/-- A receive buffer: `_pRecvBuf` and `_nRecvBufLen`. -/
structure RecvBuffer where
  recvBuf : Block maxBufferSize
  nRecvBufLen : Nat

namespace RecvBuffer

/-- The bytes received and not yet handed out,
`_pRecvBuf[0.._nRecvBufLen)`. -/
def retained (buffer : RecvBuffer) : Bytes :=
  buffer.recvBuf.bytes.take buffer.nRecvBufLen

/-- The buffer retains the given bytes, inside its block. -/
def Keeps (buffer : RecvBuffer) (bytes : Bytes) : Prop :=
  buffer.nRecvBufLen ≤ maxBufferSize ∧ buffer.retained = bytes

/-- `len` bytes read to the end of the retained ones. -/
def append (buffer : RecvBuffer) (read : Bytes) : RecvBuffer where
  recvBuf := buffer.recvBuf.overwrite buffer.nRecvBufLen read
  nRecvBufLen := buffer.nRecvBufLen + read.length

/-- One pass of the loop.  `stops` tells from the number of bytes left that no
head is looked for, `window` gives the bytes the head is parsed from. -/
def extractPass (host : Host) (stops : Int → Bool) (window : Nat → Bytes)
    (buffer : RecvBuffer) (extraction : Extraction) : Pass Extraction :=
  let remaining := intDiff buffer.nRecvBufLen extraction.tmpIndex
  if stops remaining then
    .leave extraction
  else
    match parseHead host (window extraction.tmpIndex) with
    | .error _ => .leave extraction
    | .ok head =>
        if (head.len.toNat : Int) > remaining then
          .leave extraction
        else
          .again
            { tmpIndex := extraction.tmpIndex + head.len.toNat
              asynRecived := extraction.asynRecived ++
                [buffer.recvBuf.slice extraction.tmpIndex head.len.toNat] }

/-- The loop.  A pass that hands out a nonempty packet advances `tmpIndex`,
so a loop that ends needs at most one pass more than there are bytes. -/
def extractLoop (host : Host) (stops : Int → Bool) (window : Nat → Bytes)
    (buffer : RecvBuffer) : Option Extraction :=
  runLoop (buffer.extractPass host stops window) (buffer.nRecvBufLen + 1)
    { tmpIndex := 0, asynRecived := [] }

/-- What follows the loop: move the rest of the buffer to its front. -/
def compact (buffer : RecvBuffer) (tmpIndex : Nat) : RecvBuffer :=
  if 0 < tmpIndex then
    { recvBuf := buffer.recvBuf.moveToFront tmpIndex
        (buffer.nRecvBufLen - tmpIndex)
      nRecvBufLen := buffer.nRecvBufLen - tmpIndex }
  else
    buffer

/-- The loop and what follows it: the buffer and the packets handed out. -/
def extract (host : Host) (stops : Int → Bool) (window : Nat → Bytes)
    (buffer : RecvBuffer) : Except RecvStop (RecvBuffer × List Bytes) :=
  match buffer.extractLoop host stops window with
  | none => .error .endless
  | some extraction =>
      .ok (buffer.compact extraction.tmpIndex, extraction.asynRecived)

end RecvBuffer

/-- The difference of unsigned numbers in order is exact. -/
theorem intDiff_eq {a b : Nat} (le : b ≤ a) (bound : a < 2 ^ 31) :
    intDiff a b = ((a - b : Nat) : Int) := by
  have toNatEq : (BitVec.ofNat 32 a - BitVec.ofNat 32 b).toNat = a - b := by
    rw [BitVec.toNat_sub_of_le]
    · simp only [BitVec.toNat_ofNat]
      omega
    · simp only [BitVec.le_def, BitVec.toNat_ofNat]
      omega
  rw [intDiff, BitVec.toInt_eq_toNat_of_lt (by omega), toNatEq]

/-- The length that the first four bytes of a packet announce. -/
theorem packetLength_append {items : Bytes} {size : Nat} (more : Bytes)
    (announcement :
      (if headLen ≤ items.length then some (littleEndianValue (items.take 2))
        else none) = some size) :
    (if headLen ≤ (items ++ more).length then
      some (littleEndianValue ((items ++ more).take 2)) else none) =
        some size := by
  split at announcement
  · rename_i enough
    simp only [headLen] at enough
    rw [List.take_append_of_le_length (by omega), ← announcement]
    apply if_pos
    simp only [headLen, List.length_append]
    omega
  · exact absurd announcement (by simp)

/-- Packets as frames: four bytes announce the length of a packet in the
first two of them. -/
def packetFormat : Format UInt8 where
  announced bytes :=
    if headLen ≤ bytes.length then some (littleEndianValue (bytes.take 2))
    else none
  announced_append := packetLength_append

namespace RecvBuffer

variable {host : Host} {stops : Int → Bool} {window : Nat → Bytes}
variable {buffer : RecvBuffer}

theorem retained_length (within : buffer.nRecvBufLen ≤ maxBufferSize) :
    buffer.retained.length = buffer.nRecvBufLen :=
  Block.take_length within

theorem Keeps.nRecvBufLen_eq {bytes : Bytes} (keeps : buffer.Keeps bytes) :
    buffer.nRecvBufLen = bytes.length := by
  rw [← keeps.2, retained_length keeps.1]

theorem keeps_nil (empty : buffer.nRecvBufLen = 0) : buffer.Keeps [] := by
  refine ⟨by simp [empty], ?_⟩
  rw [retained, empty, List.take_zero]

theorem retained_append {read : Bytes}
    (fits : buffer.nRecvBufLen + read.length ≤ maxBufferSize) :
    (buffer.append read).retained = buffer.retained ++ read :=
  Block.take_overwrite fits

theorem Keeps.append {bytes read : Bytes} (keeps : buffer.Keeps bytes)
    (fits : buffer.nRecvBufLen + read.length ≤ maxBufferSize) :
    (buffer.append read).Keeps (bytes ++ read) := by
  refine ⟨fits, ?_⟩
  rw [retained_append fits, keeps.2]

/-- Compacting keeps the bytes behind `tmpIndex`. -/
theorem retained_compact {tmpIndex : Nat}
    (le : tmpIndex ≤ buffer.nRecvBufLen)
    (within : buffer.nRecvBufLen ≤ maxBufferSize) :
    (buffer.compact tmpIndex).retained = buffer.retained.drop tmpIndex := by
  unfold compact
  split
  · have inside :
        tmpIndex + (buffer.nRecvBufLen - tmpIndex) ≤ maxBufferSize := by
      omega
    simp only [retained, Block.take_moveToFront inside, Block.slice,
      List.drop_take]
  · obtain rfl : tmpIndex = 0 := by omega
    rfl

theorem compact_nRecvBufLen {tmpIndex : Nat} :
    (buffer.compact tmpIndex).nRecvBufLen =
      buffer.nRecvBufLen - tmpIndex := by
  unfold compact
  split
  · rfl
  · obtain rfl : tmpIndex = 0 := by omega
    rfl

/-- The slices handed out are slices of the retained bytes. -/
theorem slice_eq_retained {offset length : Nat}
    (within : offset + length ≤ buffer.nRecvBufLen) :
    buffer.recvBuf.slice offset length =
      (buffer.retained.drop offset).take length := by
  simp only [Block.slice, retained, List.drop_take, List.take_take]
  congr 1
  omega

/-- A pass of the loop does what a frame format says about the bytes behind
`tmpIndex`, as long as this format does not announce an empty frame there. -/
def Follows (buffer : RecvBuffer) (format : Format UInt8)
    (pass : Extraction → Pass Extraction) : Prop :=
  ∀ extraction : Extraction, extraction.tmpIndex ≤ buffer.nRecvBufLen →
    (∀ size, format.announced
      (buffer.retained.drop extraction.tmpIndex) = some size → 0 < size) →
    pass extraction =
      match format.firstFrame
          (buffer.retained.drop extraction.tmpIndex) with
      | none => .leave extraction
      | some size => .again
          { tmpIndex := extraction.tmpIndex + size
            asynRecived := extraction.asynRecived ++
              [(buffer.retained.drop extraction.tmpIndex).take size] }

/-- A pass that parses the length that a format announces, and that looks for a
head wherever a packet of this length is left, does what the format says. -/
theorem extractPass_parsed {format : Format UInt8} {host : Host}
    {stops : Int → Bool} {window : Nat → Bytes} {extraction : Extraction}
    {head : ProtocolHead} (within : buffer.nRecvBufLen ≤ maxBufferSize)
    (reached : extraction.tmpIndex ≤ buffer.nRecvBufLen)
    (parsed : parseHead host (window extraction.tmpIndex) = .ok head)
    (announcement : format.announced
      (buffer.retained.drop extraction.tmpIndex) = some head.len.toNat)
    (nonempty : 0 < head.len.toNat)
    (running : head.len.toNat ≤ buffer.nRecvBufLen - extraction.tmpIndex →
      stops ((buffer.nRecvBufLen - extraction.tmpIndex : Nat) : Int) =
        false) :
    buffer.extractPass host stops window extraction =
      match format.firstFrame
          (buffer.retained.drop extraction.tmpIndex) with
      | none => .leave extraction
      | some size => .again
          { tmpIndex := extraction.tmpIndex + size
            asynRecived := extraction.asynRecived ++
              [(buffer.retained.drop extraction.tmpIndex).take size] } := by
  have remaining := intDiff_eq reached
    (by simp only [maxBufferSize] at within; omega)
  have leftLength :
      (buffer.retained.drop extraction.tmpIndex).length =
        buffer.nRecvBufLen - extraction.tmpIndex := by
    rw [List.length_drop, retained_length within]
  by_cases fits : head.len.toNat ≤ buffer.nRecvBufLen - extraction.tmpIndex
  · have complete : format.firstFrame
        (buffer.retained.drop extraction.tmpIndex) =
          some head.len.toNat :=
      Format.firstFrame_eq_some.mpr ⟨announcement, nonempty, by omega⟩
    have notLonger : ¬ (head.len.toNat : Int) >
        ((buffer.nRecvBufLen - extraction.tmpIndex : Nat) : Int) := by
      omega
    have handedOut := slice_eq_retained
      (show extraction.tmpIndex + head.len.toNat ≤ buffer.nRecvBufLen by
        omega)
    simp only [extractPass, remaining, running fits, Bool.false_eq_true,
      if_false, parsed, notLonger, complete, handedOut]
  · have incomplete : format.firstFrame
        (buffer.retained.drop extraction.tmpIndex) = none := by
      simp [Format.firstFrame, announcement, leftLength, fits]
    have longer : (head.len.toNat : Int) >
        ((buffer.nRecvBufLen - extraction.tmpIndex : Nat) : Int) := by
      omega
    simp only [extractPass, remaining, parsed, longer, if_true, incomplete,
      ite_self]

/-- Passes that follow a format hand out the frames of the bytes left. -/
theorem runLoop_follows {format : Format UInt8}
    {pass : Extraction → Pass Extraction}
    (follows : buffer.Follows format pass)
    (within : buffer.nRecvBufLen ≤ maxBufferSize) (items : Bytes) :
    ∀ (extraction : Extraction) (fuel : Nat),
      items = buffer.retained.drop extraction.tmpIndex →
      extraction.tmpIndex ≤ buffer.nRecvBufLen →
      format.HeadersSatisfy (0 < ·) items →
      items.length < fuel →
      runLoop pass fuel extraction = some
        { tmpIndex := extraction.tmpIndex +
            (format.frames items).flatten.length
          asynRecived := extraction.asynRecived ++ format.frames items } := by
  induction items using Format.split_induction format with
  | stop items incomplete =>
      intro extraction fuel left reached positive enough
      obtain ⟨fuel, rfl⟩ : ∃ rest, fuel = rest + 1 :=
        ⟨fuel - 1, by omega⟩
      have passed := follows extraction reached
        (fun size announcement => positive.first (left ▸ announcement))
      rw [← left, incomplete] at passed
      rw [runLoop_leave fuel passed]
      simp [Format.frames, Format.greedySplit_none incomplete]
  | frame items size complete ih =>
      intro extraction fuel left reached positive enough
      obtain ⟨fuel, rfl⟩ : ∃ rest, fuel = rest + 1 :=
        ⟨fuel - 1, by omega⟩
      have passed := follows extraction reached
        (fun size announcement => positive.first (left ▸ announcement))
      rw [← left, complete] at passed
      obtain ⟨-, frameNonempty, fits⟩ :=
        Format.firstFrame_eq_some.mp complete
      have leftLength : items.length =
          buffer.nRecvBufLen - extraction.tmpIndex := by
        rw [left, List.length_drop, retained_length within]
      have continued := ih
        { tmpIndex := extraction.tmpIndex + size
          asynRecived := extraction.asynRecived ++ [items.take size] } fuel
        (by rw [left, List.drop_drop])
        (show extraction.tmpIndex + size ≤ buffer.nRecvBufLen by omega)
        (positive.rest complete)
        (by rw [List.length_drop]; omega)
      rw [runLoop_again fuel passed, continued]
      simp only [Format.frames, Format.greedySplit_some complete,
        List.flatten_cons, List.length_append, List.length_take_of_le fits,
        List.append_assoc, List.singleton_append, Nat.add_assoc]

/-- A loop that follows a format hands out the frames of the retained bytes
and keeps their tail. -/
theorem extract_follows {format : Format UInt8}
    (follows : buffer.Follows format
      (buffer.extractPass host stops window))
    (within : buffer.nRecvBufLen ≤ maxBufferSize)
    (positive : format.HeadersSatisfy (0 < ·) buffer.retained) :
    ∃ after, buffer.extract host stops window =
        .ok (after, format.frames buffer.retained) ∧
      after.Keeps (format.tail buffer.retained) := by
  have ran : buffer.extractLoop host stops window = some
      { tmpIndex := (format.frames buffer.retained).flatten.length
        asynRecived := format.frames buffer.retained } := by
    have looped := runLoop_follows follows within buffer.retained
      { tmpIndex := 0, asynRecived := [] } (buffer.nRecvBufLen + 1) rfl
      (Nat.zero_le _) positive (by rw [retained_length within]; omega)
    simpa [extractLoop] using looped
  have split : (format.frames buffer.retained).flatten ++
      format.tail buffer.retained = buffer.retained :=
    Format.frames_flatten_append_tail _
  have lengths := congrArg List.length split
  rw [List.length_append, retained_length within] at lengths
  refine ⟨buffer.compact (format.frames buffer.retained).flatten.length,
    ?_, ?_, ?_⟩
  · simp only [extract, ran]
  · rw [compact_nRecvBufLen]
    omega
  · rw [retained_compact (by omega) within]
    nth_rewrite 2 [← split]
    exact List.drop_left' rfl

/-- A pass that goes round again found a packet that the bytes left can
hold. -/
theorem extractPass_again {extraction next : Extraction}
    (passed : buffer.extractPass host stops window extraction =
      .again next) :
    ∃ head, parseHead host (window extraction.tmpIndex) = .ok head ∧
      (head.len.toNat : Int) ≤
        intDiff buffer.nRecvBufLen extraction.tmpIndex ∧
      stops (intDiff buffer.nRecvBufLen extraction.tmpIndex) = false ∧
      next.tmpIndex = extraction.tmpIndex + head.len.toNat ∧
      next.asynRecived = extraction.asynRecived ++
        [buffer.recvBuf.slice extraction.tmpIndex head.len.toNat] := by
  unfold extractPass at passed
  simp only at passed
  split at passed
  · cases passed
  · rename_i running
    split at passed
    · cases passed
    · rename_i head parsed
      split at passed
      · cases passed
      · rename_i fits
        cases passed
        exact ⟨head, parsed, by omega, by simpa using running, rfl, rfl⟩

/-- A pass that leaves does so with the variables as they are. -/
theorem extractPass_leave {extraction final : Extraction}
    (passed : buffer.extractPass host stops window extraction =
      .leave final) : final = extraction := by
  unfold extractPass at passed
  simp only at passed
  split_ifs at passed
  · cases passed
    rfl
  · split at passed
    · cases passed
      rfl
    · split_ifs at passed
      cases passed
      rfl

/-- Once a head announces an empty packet, the loop parses it forever. -/
theorem runLoop_emptyPacket {index : Nat} {head : ProtocolHead}
    (parsed : parseHead host (window index) = .ok head)
    (fits : (head.len.toNat : Int) ≤ intDiff buffer.nRecvBufLen index)
    (running : stops (intDiff buffer.nRecvBufLen index) = false)
    (empty : head.len.toNat = 0) (fuel : Nat) (extraction : Extraction)
    (atIndex : extraction.tmpIndex = index) :
    runLoop (buffer.extractPass host stops window) fuel extraction =
      none := by
  induction fuel generalizing extraction with
  | zero => rfl
  | succ fuel ih =>
      subst atIndex
      have passed : buffer.extractPass host stops window extraction =
          .again
            { tmpIndex := extraction.tmpIndex + head.len.toNat
              asynRecived := extraction.asynRecived ++
                [buffer.recvBuf.slice extraction.tmpIndex
                  head.len.toNat] } := by
        simp [extractPass, parsed, running, Int.not_lt.mpr fits]
      rw [runLoop_again fuel passed]
      exact ih _ (by simp [empty])

/-- The passes that the loop is given are enough: if it has not ended by then,
it never ends. -/
theorem extractLoop_none (within : buffer.nRecvBufLen ≤ maxBufferSize)
    (endless : buffer.extractLoop host stops window = none) (fuel : Nat) :
    runLoop (buffer.extractPass host stops window) fuel
      { tmpIndex := 0, asynRecived := [] } = none := by
  have progress : ∀ extraction next : Extraction,
      extraction.tmpIndex ≤ buffer.nRecvBufLen →
      buffer.extractPass host stops window extraction = .again next →
        (next.tmpIndex ≤ buffer.nRecvBufLen ∧
          buffer.nRecvBufLen - next.tmpIndex <
            buffer.nRecvBufLen - extraction.tmpIndex) ∨
        ∀ more, runLoop (buffer.extractPass host stops window) more next =
          none := ?_
  · have start : (⟨0, []⟩ : Extraction).tmpIndex ≤
        buffer.nRecvBufLen := Nat.zero_le _
    exact runLoop_decided
      (fun extraction : Extraction =>
        buffer.nRecvBufLen - extraction.tmpIndex)
      progress start (Nat.lt_succ_self buffer.nRecvBufLen) endless fuel
  intro extraction next reached passed
  obtain ⟨head, parsed, fits, running, advanced, -⟩ :=
    extractPass_again passed
  have remaining := intDiff_eq reached
    (by simp only [maxBufferSize] at within; omega)
  by_cases empty : head.len.toNat = 0
  · right
    intro more
    exact runLoop_emptyPacket parsed fits running empty more next
      (by omega)
  · left
    rw [remaining] at fits
    omega

end RecvBuffer

end EchoServer
