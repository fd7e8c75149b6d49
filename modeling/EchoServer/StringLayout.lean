import EchoServer.LengthPrefixedReads

/-!
# The layout of strings on different platforms

The head of `Biosream.h` documents how a string lies in a stream.  The longest
form announces the length in an `unsigned long`, which has eight bytes in the
Linux build and four in the Windows build.
-/

namespace EchoServer

open ByteOrder

/-- The layout that the head of `Biosream.h` documents for a string. -/
inductive DocumentedString (bigEndian : Bool) (s : Bytes) : Bytes → Prop
  | oneByte (short : s.length < 0xff) :
      DocumentedString bigEndian s (wireBytes bigEndian 1 s.length ++ s)
  | twoBytes (long : 0xff ≤ s.length) (short : s.length < 0xffff) :
      DocumentedString bigEndian s
        (0xff :: (wireBytes bigEndian 2 s.length ++ s))
  | fourBytes (long : 0xff ≤ s.length) (short : s.length < 2 ^ 32) :
      DocumentedString bigEndian s
        (0xff :: (wireBytes bigEndian 2 0xffff ++
          (wireBytes bigEndian 4 s.length ++ s)))

/-- A string that one build writes lies in the stream as documented, and the
other build reads it back. -/
def Portable (writer reader : DataModel) (bigEndian : Bool) (s : Bytes) :
    Prop :=
  ∀ writerHost readerHost, ∃ bytes last,
    Appends bigEndian (Bostream.insertString writer writerHost s) bytes ∧
      DocumentedString bigEndian s bytes ∧
      Bistream.extractString reader readerHost (Bios.attach bytes bigEndian) =
        .ok s last

/-- An insertion writes the same bytes everywhere. -/
theorem Appends.unique {bigEndian : Bool} {write : StreamM Unit}
    {first second : Bytes} (appendsFirst : Appends bigEndian write first)
    (appendsSecond : Appends bigEndian write second) : first = second := by
  let stream := Bios.attach
    (List.replicate (first.length + second.length) 0) bigEndian
  have within : stream.Within := Bios.attach_within _ _
  have room : stream.rest.length = first.length + second.length := by
    simp [stream, Bios.attach, Bios.rest]
  have firstRan := appendsFirst stream rfl within (by omega)
  have secondRan := appendsSecond stream rfl within (by omega)
  rw [firstRan] at secondRan
  obtain ⟨-, same⟩ := EStateM.Result.ok.inj secondRan
  have firstTake := within.overwrite_take first
  rw [same, within.overwrite_take second] at firstTake
  exact (List.append_cancel_left firstTake).symm

/-- Below the third form, the width of `unsigned long` does not matter. -/
theorem wireLength_short (model other : DataModel) (bigEndian : Bool)
    {length : Nat} (short : length < 0xfffe) :
    StreamItem.wireLength model bigEndian length =
      StreamItem.wireLength other bigEndian length := by
  unfold StreamItem.wireLength
  split_ifs <;> rfl

theorem wireBytes_marker (bigEndian : Bool) :
    wireBytes bigEndian 1 0xff = [0xff] := by
  cases bigEndian <;> rfl

/-- In the first two forms the documented layout is what is written. -/
theorem documented_short (model : DataModel) (bigEndian : Bool) {s : Bytes}
    (short : s.length < 0xfffe) :
    DocumentedString bigEndian s
      (StreamItem.wireLength model bigEndian s.length ++ s) := by
  unfold StreamItem.wireLength
  by_cases oneByte : s.length < 255
  · rw [if_pos oneByte]
    exact .oneByte oneByte
  · rw [if_neg oneByte, if_pos short, wireBytes_marker]
    exact .twoBytes (Nat.le_of_not_lt oneByte) (by omega)

/-- The first two forms are portable. -/
theorem portable_short (writer reader : DataModel) (bigEndian : Bool)
    {s : Bytes} (noZero : 0 ∉ s) (short : s.length < 0xfffe) :
    Portable writer reader bigEndian s := by
  intro writerHost readerHost
  have written := insertString_appends writer bigEndian writerHost noZero
    (by omega)
  have read := extractString_takes reader bigEndian readerHost
    (show s.length < 2 ^ 31 by omega)
  rw [wireLength_short reader writer bigEndian short] at read
  have taken := read
    (Bios.attach (StreamItem.wireLength writer bigEndian s.length ++ s)
      bigEndian) [] rfl (Bios.attach_within _ _) (List.append_nil _).symm
  exact ⟨_, _, written, documented_short writer bigEndian short, taken⟩

/-- The third form, from its length field on. -/
theorem wireLength_long (model : DataModel) (bigEndian : Bool) {length : Nat}
    (long : 0xfffe ≤ length) :
    StreamItem.wireLength model bigEndian length =
      0xff :: (wireBytes bigEndian 2 0xffff ++
        wireBytes bigEndian model.longSize length) := by
  unfold StreamItem.wireLength
  rw [if_neg (by omega), if_neg (Nat.not_lt.mpr long), wireBytes_marker]
  rfl

/-- With an eight-byte length the third form is longer than documented. -/
theorem not_documented_eightBytes {bigEndian : Bool} {s bytes : Bytes}
    (length : bytes.length = 11 + s.length) :
    ¬ DocumentedString bigEndian s bytes := by
  intro documented
  cases documented <;>
    simp only [List.length_append, List.length_cons, wireBytes_length]
      at length <;> omega

/-- An eight-byte length is not documented. -/
theorem not_portable_from_lp64 (reader : DataModel) (bigEndian : Bool)
    {s : Bytes} (noZero : 0 ∉ s) (short : s.length < 2 ^ 31)
    (long : 0xfffe ≤ s.length) : ¬ Portable .lp64 reader bigEndian s := by
  intro portable
  obtain ⟨bytes, last, appends, documented, -⟩ := portable .little .little
  have written := appends.unique
    (insertString_appends .lp64 bigEndian .little noZero short)
  refine not_documented_eightBytes ?_ documented
  rw [written, wireLength_long _ _ long]
  simp only [List.length_append, List.length_cons, wireBytes_length,
    DataModel.longSize]

/-- A reader with an eight-byte length takes the first characters of the
string for a part of the length. -/
theorem not_portable_to_lp64 {writer : DataModel} (bigEndian : Bool)
    {s : Bytes} (narrow : writer.longSize = 4) (noZero : 0 ∉ s)
    (short : s.length < 2 ^ 31) (long : 0xfffe ≤ s.length) :
    ¬ Portable writer .lp64 bigEndian s := by
  intro portable
  obtain ⟨bytes, last, appends, -, extracted⟩ := portable .little .little
  have written := appends.unique
    (insertString_appends writer bigEndian .little noZero short)
  rw [wireLength_long _ _ long, narrow] at written
  have length : bytes.length = 7 + s.length := by
    rw [written]
    simp only [List.length_append, List.length_cons, wireBytes_length]
  have within := Bios.attach_within bytes bigEndian
  have attachable : (Bios.attach bytes bigEndian).Attachable .lp64 :=
    show bytes.length < 2 ^ 63 by omega
  obtain ⟨size, announced, found, inside, copied, -⟩ :=
    extractString_copies within attachable extracted
  have rest : (Bios.attach bytes bigEndian).rest = bytes := rfl
  rw [rest] at found inside copied
  have oneByte : wireValue bigEndian (bytes.take 1) = 0xff := by
    rw [written]
    cases bigEndian <;> rfl
  have twoBytes : wireValue bigEndian ((bytes.drop 1).take 2) = 0xffff := by
    have marker : (bytes.drop 1).take 2 = wireBytes bigEndian 2 0xffff := by
      rw [written]
      simp only [List.cons_append, List.drop_succ_cons, List.drop_zero,
        List.append_assoc]
      exact List.take_left' (wireBytes_length ..)
    rw [marker, wireValue_wireBytes bigEndian (by decide)]
  have eleven : size = 11 := by
    have complete : ¬ bytes.length < 3 + DataModel.lp64.longSize := by
      simp only [DataModel.longSize]
      omega
    rw [announcedLength] at found
    simp only [Bios.attach, oneByte, twoBytes] at found
    rw [if_neg (by omega), if_neg (by decide), if_neg (by omega),
      if_neg (by decide), if_neg complete] at found
    exact (congrArg Prod.fst (Option.some.inj found)).symm
  have tooShort := congrArg List.length copied
  rw [List.length_take, List.length_drop] at tooShort
  omega

/-- Where `unsigned long` has four bytes in one build and eight in the other,
a string is portable between them if and only if it does not need the third
form. -/
theorem stringLayout_iff (windows : DataModel) (bigEndian : Bool) (s : Bytes)
    (narrow : windows.longSize = 4) (noZero : 0 ∉ s)
    (short : s.length < 2 ^ 31) :
    (Portable .lp64 windows bigEndian s ↔ s.length < 0xfffe) ∧
      (Portable windows .lp64 bigEndian s ↔ s.length < 0xfffe) := by
  by_cases fits : s.length < 0xfffe
  · exact ⟨iff_of_true (portable_short _ _ _ noZero fits) fits,
      iff_of_true (portable_short _ _ _ noZero fits) fits⟩
  · have long := Nat.le_of_not_lt fits
    exact ⟨iff_of_false
        (not_portable_from_lp64 windows bigEndian noZero short long) fits,
      iff_of_false
        (not_portable_to_lp64 bigEndian narrow noZero short long) fits⟩

theorem zero_notMem_letters (count : Nat) :
    (0 : UInt8) ∉ List.replicate count 65 := by
  intro member
  exact absurd (List.eq_of_mem_replicate member) (by decide)

/-- A string of 65533 letters, the longest in the second form. -/
def secondForm : Bytes :=
  List.replicate 0xfffd 65

/-- It is portable in both directions. -/
theorem stringLayout_secondForm :
    Portable .lp64 .llp64 false secondForm ∧
      Portable .llp64 .lp64 false secondForm := by
  have length : secondForm.length = 0xfffd := List.length_replicate
  have noZero : 0 ∉ secondForm := zero_notMem_letters _
  obtain ⟨there, back⟩ :=
    stringLayout_iff .llp64 false secondForm rfl noZero (by omega)
  exact ⟨there.mpr (by omega), back.mpr (by omega)⟩

/-- A string of 65534 letters. -/
def longString : Bytes :=
  List.replicate 0xfffe 65

/-- The shortest string in the third form is not portable in either
direction. -/
theorem stringLayout_longString :
    0 ∉ longString ∧ longString.length < 2 ^ 31 ∧
      ¬ Portable .lp64 .llp64 false longString ∧
      ¬ Portable .llp64 .lp64 false longString := by
  have noZero : 0 ∉ longString := zero_notMem_letters _
  have length : longString.length = 0xfffe := List.length_replicate
  exact ⟨noZero, by omega,
    not_portable_from_lp64 .llp64 false noZero (by omega) (by omega),
    not_portable_to_lp64 false rfl noZero (by omega) (by omega)⟩

end EchoServer
