import EchoServer.CStrings
import EchoServer.LengthPrefixedReads

/-!
# What `readcstring` leaves in its destination

`readcstring` puts a zero at the last place of the destination and copies the
string to its front, without a zero behind it.  So the text that starts there
goes on with what the destination held before, up to the first zero in it.
-/

namespace EchoServer

open ByteOrder

/-- `bostream::writecstring`. -/
def Bostream.writecstring (model : DataModel) (host : Host) (s : Bytes) :
    StreamM Unit :=
  insertString model host s

/-- The array `_s` after `readcstring` has copied some bytes to it. -/
def Bistream.destination (copied dst : Bytes) : Bytes :=
  copied ++ (dst.set (dst.length - 1) 0).drop copied.length

/-- The bytes between the cursors before and after a write. -/
def Bios.written (before after : Bios) : Bytes :=
  (after.buffer.drop before.curr.toNat).take (after.curr - before.curr).toNat

/-- What `writecstring` writes, `readcstring` takes wherever it comes next, and
the text that starts at the destination is the string written. -/
def ReadsBack (model : DataModel) (writerHost readerHost : Host) (out : Bios)
    (s dst : Bytes) : Prop :=
  ∃ after, Bostream.writecstring model writerHost s out = .ok () after ∧
    ∀ stream behind, stream.bigEndian = out.bigEndian → stream.Within →
      stream.rest = out.written after ++ behind →
        ∃ copied,
          Bistream.readcstring model readerHost dst.length stream =
              .ok (.ok copied)
                (stream.advance (out.written after).length) ∧
            cString (Bistream.destination copied dst) = s

/-- As many bytes are copied as the length of the string converted to `int`
says, and behind their place the destination, with its last byte cleared, holds
the text that the string goes on with.  For a string that is copied as a whole
this text is empty. -/
def EndsInPlace (s dst : Bytes) : Prop :=
  ∃ slen : Nat, Int.bmod s.length (2 ^ 32) = slen ∧
    cString ((dst.set (dst.length - 1) 0).drop slen) = s.drop slen

/-- A string shorter than 2³¹ bytes ends in place if the destination held a
zero behind its place, or ends there. -/
theorem endsInPlace_iff {s dst : Bytes} (short : s.length < 2 ^ 31)
    (shorter : s.length < dst.length) :
    EndsInPlace s dst ↔
      s.length + 1 = dst.length ∨ dst[s.length]? = some 0 := by
  have slen : Int.bmod s.length (2 ^ 32) = s.length := by
    rw [Int.bmod]
    omega
  have there : s.length < (dst.set (dst.length - 1) 0).length := by
    rw [List.length_set]
    exact shorter
  have ends : EndsInPlace s dst ↔
      (dst.set (dst.length - 1) 0)[s.length] = 0 := by
    have behind : EndsInPlace s dst ↔
        cString ((dst.set (dst.length - 1) 0).drop s.length) = [] := by
      rw [← List.drop_length]
      constructor
      · rintro ⟨other, same, holds⟩
        obtain rfl : s.length = other := by omega
        exact holds
      · intro holds
        exact ⟨s.length, slen, holds⟩
    rw [behind, List.drop_eq_getElem_cons there, cString,
      List.takeWhile_cons]
    by_cases zero : (dst.set (dst.length - 1) 0)[s.length] = 0
    · simp [zero]
    · rw [if_pos (decide_eq_true zero)]
      exact iff_of_false (List.cons_ne_nil _ _) zero
  rw [ends, List.getElem_set, List.getElem?_eq_getElem shorter,
    Option.some.injEq]
  split_ifs with last
  · exact iff_of_true rfl (.inl (by omega))
  · rw [or_iff_right (by omega)]

theorem Bios.Within.written_overwrite {out : Bios} (within : out.Within)
    (bytes : Bytes) : out.written (out.overwrite bytes) = bytes := by
  have notBefore := within.1
  have front : (out.overwrite bytes).buffer.drop out.curr.toNat =
      bytes ++ out.buffer.drop (out.curr.toNat + bytes.length) := by
    have length : (out.buffer.take out.curr.toNat).length =
        out.curr.toNat := by
      have := within.2
      rw [List.length_take]
      omega
    simp only [Bios.overwrite, List.append_assoc]
    exact List.drop_left' length
  have moved : ((out.overwrite bytes).curr - out.curr).toNat =
      bytes.length := by
    simp only [Bios.overwrite]
    omega
  rw [Bios.written, front, moved, List.take_left]

section

variable (model : DataModel) (bigEndian : Bool)

theorem wireLength_length_le (length : Nat) :
    (StreamItem.wireLength model bigEndian length).length ≤
      3 + model.longSize := by
  unfold StreamItem.wireLength
  split_ifs <;> simp only [List.length_append, wireBytes_length] <;> omega

/-- A string that is shorter than the destination is taken from its wire
bytes. -/
theorem readcstring_takes (host : Host) {s : Bytes} {ssize : Nat}
    (short : s.length < 2 ^ 31) (shorter : s.length < ssize) :
    Takes bigEndian (Bistream.readcstring model host ssize)
      (StreamItem.wireLength model bigEndian s.length ++ s) (.ok s) := by
  obtain ⟨width, takes⟩ := readLength_takes model bigEndian host short
  rw [readcstring_eq model host (by omega)]
  refine takes.bind ?_
  rw [Bistream.readBounded, if_neg (by omega)]
  exact (read_takes model bigEndian short).map Except.ok

end

/-- What is run behind an operation that returns decides how both end. -/
theorem runs_behind {first second : StreamM Unit} {before after : Bios}
    {result : EStateM.Result StreamStop Bios Unit}
    (returned : first before = .ok () after)
    (ended : second after = result) :
    (do first; second : StreamM Unit) before = result := by
  simp only [bind, EStateM.bind, returned, ended]

/-- A string whose length converted to `int` is negative cannot be written. -/
theorem writecstring_negative {model : DataModel} (host : Host) {out : Bios}
    {s : Bytes} (within : out.Within) (attachable : out.Attachable model)
    (noZero : 0 ∉ s) (room : 3 + model.longSize + s.length ≤ out.rest.length)
    (negative : Int.bmod s.length (2 ^ 32) < 0) :
    ∃ after, Bostream.writecstring model host s out =
      .error .outOfBounds after := by
  have shorter : out.rest.length ≤ out.buffer.length := by
    rw [Bios.rest, List.length_drop]
    omega
  have atLeast : -(2 : Int) ^ 31 ≤ Int.bmod s.length (2 ^ 32) := by
    rw [Int.bmod]
    omega
  simp only [Bios.Attachable] at attachable
  -- A buffer that a four-byte `long` can describe is too short for `s`.
  obtain rfl : model = .lp64 := by
    rw [Int.bmod] at negative
    cases model <;> simp only [DataModel.longSize] at attachable room <;>
      first | rfl | omega
  simp only [DataModel.longSize] at attachable room
  rw [Bostream.writecstring, Bostream.insertString, strlen_eq noZero]
  generalize Int.bmod s.length (2 ^ 32) = slen at negative atLeast
  let one := out.overwrite (wireBytes out.bigEndian 1
    (BitVec.ofInt (8 * IntegerType.unsignedChar.size .lp64) slen).toNat)
  have announced : Bostream.insertLength .lp64 host slen out = .ok () one := by
    rw [Bostream.insertLength, if_pos (by omega)]
    apply insertInteger_appends .lp64 out.bigEndian host .unsignedChar _ out
      rfl within
    rw [wireBytes_length]
    exact Nat.le_trans (by decide)
      (Nat.le_trans (Nat.le_add_right _ _) room)
  have fits : (wireBytes out.bigEndian 1 (BitVec.ofInt
      (8 * IntegerType.unsignedChar.size .lp64) slen).toNat).length ≤
        out.rest.length := by
    rw [wireBytes_length]
    omega
  have oneWithin : one.Within := within.overwrite fits
  have avail := oneWithin.avail_eq
  have size : (DataModel.lp64.toSizeT slen : Int) = 2 ^ 64 + slen := by
    simp only [DataModel.toSizeT, DataModel.sizeTSize]
    omega
  have long : DataModel.lp64.toLong (DataModel.lp64.toSizeT slen) = slen := by
    rw [size, DataModel.toLong, DataModel.longSize, Int.bmod]
    omega
  generalize DataModel.lp64.toSizeT slen = len at size long ⊢
  have notThrown : ¬ one.avail < DataModel.lp64.toLong len := by
    omega
  have outside : s.length < len := by
    omega
  have left : Bostream.write .lp64 s len one = .error .outOfBounds one := by
    rw [Bostream.write, if_neg notThrown, if_pos (.inr (.inr outside))]
  exact ⟨one, runs_behind announced left⟩

/-- The text at the destination is what was copied, and then what was there
before. -/
theorem cString_destination {copied : Bytes} (zeroFree : 0 ∉ copied)
    (dst : Bytes) :
    cString (Bistream.destination copied dst) =
      copied ++
        cString ((dst.set (dst.length - 1) 0).drop copied.length) := by
  rw [Bistream.destination, cString, List.takeWhile_append_of_pos]
  · rfl
  · intro byte member
    simpa using fun same : byte = 0 => zeroFree (same ▸ member)

/-- Where the bytes written and what is taken from them are known, the string
is read back if it is the text at the destination. -/
theorem readsBack_iff {model : DataModel} {writerHost readerHost : Host}
    {out : Bios} {s dst copied bytes : Bytes} (within : out.Within)
    (wrote : Bostream.writecstring model writerHost s out =
      .ok () (out.overwrite bytes))
    (takes : Takes out.bigEndian
      (Bistream.readcstring model readerHost dst.length) bytes
      (.ok copied)) :
    ReadsBack model writerHost readerHost out s dst ↔
      cString (Bistream.destination copied dst) = s := by
  constructor
  · rintro ⟨after, written, reads⟩
    obtain rfl : out.overwrite bytes = after := by
      rw [wrote] at written
      exact (EStateM.Result.ok.inj written).2
    rw [within.written_overwrite] at reads
    have next : (Bios.attach bytes out.bigEndian).rest = bytes ++ [] :=
      (List.append_nil bytes).symm
    obtain ⟨other, read, same⟩ := reads (Bios.attach bytes out.bigEndian) []
      rfl (Bios.attach_within _ _) next
    rw [takes (Bios.attach bytes out.bigEndian) [] rfl
      (Bios.attach_within _ _) next] at read
    obtain rfl := Except.ok.inj (EStateM.Result.ok.inj read).1
    exact same
  · intro same
    refine ⟨out.overwrite bytes, wrote, ?_⟩
    rw [within.written_overwrite]
    intro stream behind flag streamWithin next
    exact ⟨copied, takes stream behind flag streamWithin next, same⟩

/-- For every string without zeros that is shorter than the destination,
whatever the destination held before: the string is read back if and only if
it ends in place. -/
theorem readcstring_iff (model : DataModel) (writerHost readerHost : Host)
    (out : Bios) (s dst : Bytes) (within : out.Within)
    (attachable : out.Attachable model)
    (room : 3 + model.longSize + s.length ≤ out.rest.length)
    (noZero : 0 ∉ s) (shorter : s.length < dst.length) :
    ReadsBack model writerHost readerHost out s dst ↔ EndsInPlace s dst := by
  by_cases negative : Int.bmod s.length (2 ^ 32) < 0
  · obtain ⟨after, fails⟩ := writecstring_negative writerHost within
      attachable noZero room negative
    refine iff_of_false ?_ ?_
    · rintro ⟨other, written, -⟩
      rw [fails] at written
      cases written
    · rintro ⟨slen, converted, -⟩
      omega
  obtain ⟨slen, converted⟩ := Int.eq_ofNat_of_zero_le (Int.not_lt.mp negative)
  have short : slen < 2 ^ 31 ∧ slen ≤ s.length := by
    rw [Int.bmod] at converted
    omega
  have copiedLength : (s.take slen).length = slen := by
    rw [List.length_take]
    omega
  let bytes := StreamItem.wireLength model out.bigEndian slen ++ s.take slen
  have wrote : Bostream.writecstring model writerHost s out =
      .ok () (out.overwrite bytes) := by
    apply insertString_appends_take model out.bigEndian writerHost noZero
      converted out rfl within
    have := wireLength_length_le model out.bigEndian slen
    rw [List.length_append]
    omega
  have takes := readcstring_takes model out.bigEndian readerHost
    (show (s.take slen).length < 2 ^ 31 by omega)
    (show (s.take slen).length < dst.length by omega)
  rw [copiedLength] at takes
  have exactly : cString (Bistream.destination (s.take slen) dst) = s ↔
      cString ((dst.set (dst.length - 1) 0).drop slen) = s.drop slen := by
    nth_rewrite 2 [← List.take_append_drop slen s]
    rw [cString_destination fun member =>
        noZero (List.mem_of_mem_take member),
      copiedLength, List.append_cancel_left_eq]
  rw [readsBack_iff within wrote takes, exactly]
  constructor
  · intro holds
    exact ⟨slen, converted, holds⟩
  · rintro ⟨other, otherConverted, holds⟩
    obtain rfl : slen = other := by
      rw [converted] at otherConverted
      exact Int.ofNat.inj otherConverted
    exact holds

/-- A string of 300 letters, which comes into a destination with a zero behind
its place only, and into one that it fills up to the last byte. -/
theorem readcstring_threeHundredLetters :
    ReadsBack .lp64 .little .big (Bios.attach (List.replicate 400 7) true)
        (List.replicate 300 65)
        (List.replicate 300 66 ++ [0] ++ List.replicate 99 66) ∧
      ReadsBack .lp64 .little .big (Bios.attach (List.replicate 400 7) true)
        (List.replicate 300 65) (List.replicate 301 66) := by
  have attachable :
      (Bios.attach (List.replicate 400 7) true).Attachable .lp64 := by
    change (List.replicate 400 (7 : UInt8)).length < 2 ^ 63
    rw [List.length_replicate]
    decide
  constructor
  · apply (readcstring_iff .lp64 .little .big _ _ _ (Bios.attach_within _ _)
      attachable (by decide +kernel) (by decide +kernel)
      (by decide +kernel)).mpr
    exact (endsInPlace_iff (by decide +kernel) (by decide +kernel)).mpr
      (.inr (by decide +kernel))
  · apply (readcstring_iff .lp64 .little .big _ _ _ (Bios.attach_within _ _)
      attachable (by decide +kernel) (by decide +kernel)
      (by decide +kernel)).mpr
    exact (endsInPlace_iff (by decide +kernel) (by decide +kernel)).mpr
      (.inl (by decide +kernel))

/-- In a destination that is full of letters, the string goes on with them. -/
theorem readcstring_letters :
    0 ∉ ([104, 105] : Bytes) ∧
      ([104, 105] : Bytes).length < ([65, 65, 65, 65] : Bytes).length ∧
      ¬ ReadsBack .lp64 .little .little
        (Bios.attach (List.replicate 20 7) false) [104, 105]
        [65, 65, 65, 65] := by
  refine ⟨by decide, by decide, ?_⟩
  have wrote := insertString_appends .lp64 false .little
    (show 0 ∉ ([104, 105] : Bytes) by decide) (by decide)
    (Bios.attach (List.replicate 20 7) false) rfl (Bios.attach_within _ _)
    (by decide)
  have takes := readcstring_takes .lp64 false .little
    (show ([104, 105] : Bytes).length < 2 ^ 31 by decide)
    (show ([104, 105] : Bytes).length <
      ([65, 65, 65, 65] : Bytes).length by decide)
  rw [readsBack_iff (Bios.attach_within _ _) wrote takes]
  decide

end EchoServer
