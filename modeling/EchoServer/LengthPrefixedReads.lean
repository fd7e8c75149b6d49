import EchoServer.StreamRoundTrip

/-!
# Strings read from arbitrary bytes

`operator>>(char*)` and `readcstring` take the length of a string from the
bytes of the peer, in one of three forms.  `read` compares it with the
available space after converting it to a signed number, so a length that is
negative there passes the comparison.
-/

namespace EchoServer

open ByteOrder

/-- `agproexception::ERRORTYPE`. -/
inductive AgproErrorType
  | none
  | invalidcmd
  | rangeerror
  deriving DecidableEq

/-- `bios::seek_dir`. -/
inductive SeekDir
  | beg
  | cur
  | «end»

namespace Bistream

/-- `bistream::seekg`. -/
def seekg (offset : Int) (dir : SeekDir) : StreamM Unit := fun stream =>
  let curr :=
    match dir with
    | .beg => offset
    | .cur => stream.curr + offset
    | .«end» => stream.buffer.length + offset
  let moved := { stream with curr }
  if moved.avail < 0 ∨ moved.avail > moved.buffer.length then
    .error (.biosexception .«end») moved
  else
    .ok () moved

/-- The end of each branch of `readcstring`: a length field of `width` bytes
has been read. -/
def readBounded (model : DataModel) (ssize width len : Nat) :
    StreamM (Except AgproErrorType Bytes) :=
  if len ≥ ssize then do
    -- `seekg((long)(0-sizeof(len)))`
    seekg (model.toLong (model.toSizeT (0 - width))) .cur
    return .error .rangeerror
  else do
    return .ok (← read model len)

/-- `bistream::readcstring`: the bytes that are copied to `_s`, in front of the
zero that it puts at `_s[_ssize-1]`, or the `agproexception` thrown. -/
def readcstring (model : DataModel) (host : Host) (ssize : Nat) :
    StreamM (Except AgproErrorType Bytes) := do
  if ssize ≤ 0 then
    return .error .rangeerror
  else
    let blen ← extractInteger model host .unsignedChar
    if blen.toNat < 0xff then
      readBounded model ssize (IntegerType.unsignedChar.size model) blen.toNat
    else
      let wlen ← extractInteger model host .unsignedShort
      if wlen.toNat < 0xfffe then
        readBounded model ssize (IntegerType.unsignedShort.size model)
          wlen.toNat
      else
        let dwlen ← extractInteger model host .unsignedLong
        readBounded model ssize (IntegerType.unsignedLong.size model)
          dwlen.toNat

end Bistream

/-- The number of bytes that announce a length, and the length. -/
def announcedLength (model : DataModel) (bigEndian : Bool) (rest : Bytes) :
    Option (Nat × Nat) :=
  let blen := wireValue bigEndian (rest.take 1)
  let wlen := wireValue bigEndian ((rest.drop 1).take 2)
  let dwlen := wireValue bigEndian ((rest.drop 3).take model.longSize)
  if rest.length < 1 then none
  else if blen < 0xff then some (1, blen)
  else if rest.length < 3 then none
  else if wlen < 0xfffe then some (3, wlen)
  else if rest.length < 3 + model.longSize then none
  else some (3 + model.longSize, dwlen)

/-- The bytes copied are exactly the announced ones, which lie in the buffer,
and the cursor stands behind them. -/
def CopiesAnnounced (model : DataModel) (stream : Bios) (copied : Bytes)
    (after : Bios) : Prop :=
  ∃ size length,
    announcedLength model stream.bigEndian stream.rest =
        some (size, length) ∧
      size + length ≤ stream.rest.length ∧
      copied = (stream.rest.drop size).take length ∧
      after = stream.advance (size + length) ∧
      after.Within

/-- An exception was thrown, or exactly the announced bytes were copied. -/
def SafeOutcome (model : DataModel) (stream : Bios) :
    EStateM.Result StreamStop Bios (Except AgproErrorType Bytes) → Prop
  | .ok (.ok copied) after => CopiesAnnounced model stream copied after
  | .ok (.error _) after => after.Within
  | .error (.biosexception _) after => after.Within
  | .error .outOfBounds _ => False

/-- An operation on a stream throws or copies exactly the announced bytes. -/
def ReadsSafely (model : DataModel) (stream : Bios)
    (operation : StreamM (Except AgproErrorType Bytes)) : Prop :=
  SafeOutcome model stream (operation stream)

/-- The size of the buffer is a `long`, as `attach` takes it. -/
def Bios.Attachable (model : DataModel) (stream : Bios) : Prop :=
  stream.buffer.length < 2 ^ (8 * model.longSize - 1)

/-- The length announced at the cursor, if there is one, has a property. -/
def AnnouncedSatisfies (model : DataModel) (stream : Bios)
    (property : Nat → Prop) : Prop :=
  ∀ size length,
    announcedLength model stream.bigEndian stream.rest =
        some (size, length) →
      property length

/-- One byte stands for the same number in both byte orders. -/
theorem one_byte_value (host : Host) (bigEndian : Bool) {bytes : Bytes}
    (one : bytes.length = 1) :
    hostValue host bytes = wireValue bigEndian bytes := by
  obtain ⟨byte, rfl⟩ := List.length_eq_one_iff.mp one
  cases host <;> cases bigEndian <;> rfl

theorem wireValue_lt (bigEndian : Bool) (bytes : Bytes) :
    wireValue bigEndian bytes < 256 ^ bytes.length := by
  cases bigEndian
  · exact littleEndianValue_lt bytes
  · have bound := littleEndianValue_lt bytes.reverse
    rw [List.length_reverse] at bound
    exact bound

section Extraction

variable {model : DataModel} {stream : Bios}

/-- What `read` does for every length that a `size_t` and a `long` of the
platform can hold. -/
theorem read_outcome (within : stream.Within)
    (attachable : stream.Attachable model) {len : Nat}
    (representable : len < 2 ^ (8 * model.longSize)) :
    Bistream.read model len stream =
      if 2 ^ (8 * model.longSize - 1) ≤ len then
        .error .outOfBounds stream
      else if stream.rest.length < len then
        .error (.biosexception .«end») stream
      else
        .ok (stream.rest.take len) (stream.advance len) := by
  have avail := within.avail_eq
  have notBefore := within.1
  have shorter : stream.rest.length ≤ stream.buffer.length := by
    simp only [Bios.rest, List.length_drop]
    omega
  simp only [Bios.Attachable] at attachable
  have asLong : model.toLong len =
      if 2 ^ (8 * model.longSize - 1) ≤ len then
        (len : Int) - 2 ^ (8 * model.longSize)
      else len := by
    cases model <;>
      simp only [DataModel.toLong, DataModel.longSize, Int.bmod] at * <;>
      split_ifs <;> omega
  have bound : (len : Int) < 2 ^ (8 * model.longSize) := by
    exact_mod_cast representable
  simp only [Bistream.read, asLong]
  split_ifs <;> first | rfl | omega

theorem long_bounds (model : DataModel) :
    4 ≤ model.longSize ∧ 2 ^ 31 ≤ 2 ^ (8 * model.longSize - 1) ∧
      2 ^ (8 * model.longSize - 1) < 2 ^ (8 * model.longSize) := by
  cases model <;> decide

/-- An extraction of an integer takes its bytes, or throws if they are not
there. -/
theorem extractInteger_outcome (within : stream.Within)
    (attachable : stream.Attachable model) (host : Host) (type : IntegerType) :
    (type.size model ≤ stream.rest.length →
        Bistream.extractInteger model host type stream =
          .ok (.ofNat _ (wireValue stream.bigEndian
              (stream.rest.take (type.size model))))
            (stream.advance (type.size model))) ∧
      (stream.rest.length < type.size model →
        ∃ cause, Bistream.extractInteger model host type stream =
          .error (.biosexception cause) stream) := by
  have avail := within.avail_eq
  have bounds := long_bounds model
  by_cases isChar : type.isChar = true
  · have size := IntegerType.size_of_isChar model isChar
    have outcome := read_outcome within attachable
      (show type.size model < 2 ^ (8 * model.longSize) by omega)
    have notWrapped :
        ¬ 2 ^ (8 * model.longSize - 1) ≤ type.size model := by omega
    rw [if_neg notWrapped] at outcome
    constructor
    · intro enough
      rw [if_neg (Nat.not_lt.mpr enough)] at outcome
      have one : (stream.rest.take (type.size model)).length = 1 := by
        rw [List.length_take]
        omega
      simp only [Bistream.extractInteger, isChar, if_true, bind,
        EStateM.bind, outcome, one_byte_value host stream.bigEndian one,
        pure, EStateM.pure]
    · intro short
      rw [if_pos short] at outcome
      exact ⟨.«end», by
        simp only [Bistream.extractInteger, isChar, if_true, bind,
          EStateM.bind, outcome]⟩
  · constructor
    · intro enough
      have taken := readUnsigned_eq host (type.size model) stream within.1
        (by omega)
      simp only [Bistream.extractInteger, isChar, if_false, bind,
        EStateM.bind, taken, pure, EStateM.pure, Bios.rest, Bios.advance,
        Bool.false_eq_true]
    · intro short
      have thrown := readUnsigned_short host (type.size model) stream
        (by omega)
      exact ⟨.overflow, by
        simp only [Bistream.extractInteger, isChar, if_false, bind,
          EStateM.bind, thrown, Bool.false_eq_true]⟩

theorem readcstring_eq (model : DataModel) (host : Host) {ssize : Nat}
    (positive : 1 ≤ ssize) :
    Bistream.readcstring model host ssize =
      readLength model host >>= fun read =>
        Bistream.readBounded model ssize read.1 read.2 := by
  rw [Bistream.readcstring, if_neg (Nat.not_le.mpr positive)]
  exact (readLength_bind model host (Bistream.readBounded model ssize)).symm

/-- A field that is there, `offset` bytes behind the cursor, is read with the
number that its bytes spell. -/
theorem extractInteger_value (within : stream.Within)
    (attachable : stream.Attachable model) (host : Host) (type : IntegerType)
    (offset width : Nat) (size : type.size model = width)
    (enough : offset + width ≤ stream.rest.length) :
    ∃ value : type.Value model,
      Bistream.extractInteger model host type (stream.advance offset) =
          .ok value (stream.advance (offset + width)) ∧
        value.toNat = wireValue stream.bigEndian
          ((stream.rest.drop offset).take width) := by
  subst size
  have behind := within.advance (show offset ≤ stream.rest.length by omega)
  have there : type.size model ≤ (stream.advance offset).rest.length := by
    rw [within.rest_advance, List.length_drop]
    omega
  have fits := wireValue_lt stream.bigEndian
    ((stream.advance offset).rest.take (type.size model))
  rw [List.length_take, Nat.min_eq_left there] at fits
  have read := (extractInteger_outcome behind attachable host type).1 there
  rw [Bios.advance_advance] at read
  refine ⟨_, read, ?_⟩
  rw [← within.rest_advance]
  exact IntegerType.toNat_ofNat model type fits

/-- A field that is cut off makes the extraction throw. -/
theorem extractInteger_cut (within : stream.Within)
    (attachable : stream.Attachable model) (host : Host) (type : IntegerType)
    (offset width : Nat) (size : type.size model = width)
    (there : offset ≤ stream.rest.length)
    (cut : stream.rest.length < offset + width) :
    ∃ cause,
      Bistream.extractInteger model host type (stream.advance offset) =
        .error (.biosexception cause) (stream.advance offset) := by
  subst size
  apply (extractInteger_outcome (within.advance there) attachable host type).2
  rw [within.rest_advance, List.length_drop]
  omega

/-- The fields of a length, where the one in front of each of them says that it
is there.  The last one is all of them only in the form of one byte. -/
theorem readLength_fields (within : stream.Within)
    (attachable : stream.Attachable model) (host : Host) :
    match announcedLength model stream.bigEndian stream.rest with
    | none => ∃ cause after,
        readLength model host stream = .error (.biosexception cause) after ∧
          after.Within
    | some (size, length) => ∃ width,
        readLength model host stream =
            .ok (width, length) (stream.advance size) ∧
          width ≤ size ∧ (width = size ↔ size = 1) ∧
          width ≤ model.longSize ∧ size ≤ stream.rest.length ∧
          length < 2 ^ (8 * model.longSize) := by
  have bounds := long_bounds model
  unfold announcedLength
  simp only
  -- The first byte.
  by_cases noByte : stream.rest.length < 1
  · obtain ⟨cause, thrown⟩ := extractInteger_cut within attachable host
      .unsignedChar 0 1 rfl (Nat.zero_le _) noByte
    rw [Bios.advance_zero] at thrown
    rw [if_pos noByte]
    refine ⟨cause, stream, ?_, within⟩
    simp only [readLength, bind, EStateM.bind, thrown]
  have oneThere : 1 ≤ stream.rest.length := by omega
  obtain ⟨blen, byteRead, byteValue⟩ := extractInteger_value within
    attachable host .unsignedChar 0 1 rfl oneThere
  rw [Bios.advance_zero] at byteRead
  rw [List.drop_zero] at byteValue
  rw [if_neg noByte, ← byteValue]
  by_cases oneByte : blen.toNat < 0xff
  · rw [if_pos oneByte]
    refine ⟨1, ?_, Nat.le_refl 1, by omega, by omega, oneThere, by omega⟩
    simp only [readLength, bind, EStateM.bind, byteRead, oneByte, if_true]
    rfl
  -- The two bytes behind it.
  rw [if_neg oneByte]
  by_cases noWord : stream.rest.length < 3
  · obtain ⟨cause, thrown⟩ := extractInteger_cut within attachable host
      .unsignedShort 1 2 rfl oneThere noWord
    rw [if_pos noWord]
    refine ⟨cause, stream.advance 1, ?_, within.advance oneThere⟩
    simp only [readLength, bind, EStateM.bind, byteRead, oneByte, if_false,
      thrown]
  have threeThere : 3 ≤ stream.rest.length := by omega
  obtain ⟨wlen, wordRead, wordValue⟩ := extractInteger_value within
    attachable host .unsignedShort 1 2 rfl threeThere
  rw [if_neg noWord, ← wordValue]
  by_cases twoBytes : wlen.toNat < 0xfffe
  · rw [if_pos twoBytes]
    refine ⟨2, ?_, by decide, by decide, by omega, threeThere, by omega⟩
    simp only [readLength, bind, EStateM.bind, byteRead, oneByte, if_false,
      wordRead, twoBytes, if_true]
    rfl
  -- The number behind them.
  rw [if_neg twoBytes]
  by_cases noLong : stream.rest.length < 3 + model.longSize
  · obtain ⟨cause, thrown⟩ := extractInteger_cut within attachable host
      .unsignedLong 3 model.longSize rfl threeThere noLong
    rw [if_pos noLong]
    refine ⟨cause, stream.advance 3, ?_, within.advance threeThere⟩
    simp only [readLength, bind, EStateM.bind, byteRead, oneByte, if_false,
      wordRead, twoBytes, thrown]
  have allThere : 3 + model.longSize ≤ stream.rest.length := by omega
  obtain ⟨dwlen, longRead, longValue⟩ := extractInteger_value within
    attachable host .unsignedLong 3 model.longSize rfl allThere
  rw [if_neg noLong, ← longValue]
  refine ⟨model.longSize, ?_, Nat.le_add_left _ _, by omega, Nat.le_refl _,
    allThere, dwlen.isLt⟩
  simp only [readLength, bind, EStateM.bind, byteRead, oneByte, if_false,
    wordRead, twoBytes, longRead]
  rfl

theorem readLength_outcome (within : stream.Within)
    (attachable : stream.Attachable model) (host : Host) :
    match announcedLength model stream.bigEndian stream.rest with
    | none => ∃ cause after,
        readLength model host stream = .error (.biosexception cause) after ∧
          after.Within
    | some (size, length) => ∃ width,
        readLength model host stream =
            .ok (width, length) (stream.advance size) ∧
          width ≤ size ∧ width ≤ model.longSize ∧
          size ≤ stream.rest.length ∧
          length < 2 ^ (8 * model.longSize) := by
  have fields := readLength_fields within attachable host
  cases announced : announcedLength model stream.bigEndian stream.rest with
  | none =>
      rw [announced] at fields
      exact fields
  | some found =>
      rw [announced] at fields
      obtain ⟨width, lengthRead, le, -, bounds⟩ := fields
      exact ⟨width, lengthRead, le, bounds⟩

/-- Going back over a length field. -/
theorem seekg_back_eq (within : stream.Within) {width size : Nat}
    (there : size ≤ stream.rest.length) (le : width ≤ size)
    (narrow : width ≤ model.longSize) :
    Bistream.seekg (model.toLong (model.toSizeT (0 - width))) .cur
        (stream.advance size) = .ok () (stream.advance (size - width)) := by
  obtain ⟨notBefore, notBehind⟩ := within
  have offset : model.toLong (model.toSizeT (0 - width)) = -width := by
    cases model <;>
      simp only [DataModel.toLong, DataModel.toSizeT, DataModel.longSize,
        DataModel.sizeTSize, Int.bmod] at * <;> omega
  have position : stream.curr + size + -width =
      stream.curr + (size - width : Nat) := by
    omega
  simp only [Bios.rest, List.length_drop] at there
  simp only [Bistream.seekg, Bios.advance, Bios.avail, offset, position]
  rw [if_neg (by omega)]

theorem seekg_back (within : stream.Within) {width size : Nat}
    (there : size ≤ stream.rest.length) (le : width ≤ size)
    (narrow : width ≤ model.longSize) :
    ∃ after,
      Bistream.seekg (model.toLong (model.toSizeT (0 - width))) .cur
          (stream.advance size) = .ok () after ∧
        after.Within :=
  ⟨_, seekg_back_eq within there le narrow, within.advance (by omega)⟩

end Extraction

section Safety

variable {model : DataModel} {stream : Bios}

/-- What follows the length field decides whether the whole operation is
safe. -/
theorem readsSafely_iff (within : stream.Within)
    (attachable : stream.Attachable model) (host : Host)
    (finish : Nat → Nat → StreamM (Except AgproErrorType Bytes))
    (property : Nat → Prop)
    (finishes : ∀ size width length,
      announcedLength model stream.bigEndian stream.rest =
          some (size, length) →
        width ≤ size → width ≤ model.longSize →
        size ≤ stream.rest.length → length < 2 ^ (8 * model.longSize) →
          (SafeOutcome model stream
              (finish width length (stream.advance size)) ↔
            property length)) :
    ReadsSafely model stream
        (readLength model host >>= fun read => finish read.1 read.2) ↔
      AnnouncedSatisfies model stream property := by
  have outcome := readLength_outcome within attachable host
  unfold AnnouncedSatisfies
  cases announced : announcedLength model stream.bigEndian stream.rest with
  | none =>
      rw [announced] at outcome
      obtain ⟨cause, after, thrown, afterWithin⟩ := outcome
      refine iff_of_true ?_ (by simp)
      simp only [ReadsSafely, bind, EStateM.bind, thrown]
      exact afterWithin
  | some found =>
      obtain ⟨size, length⟩ := found
      rw [announced] at outcome
      obtain ⟨width, lengthRead, le, narrow, there, representable⟩ := outcome
      have finished := finishes size width length announced le narrow there
        representable
      simp only [ReadsSafely, bind, EStateM.bind, lengthRead, finished]
      constructor
      · rintro holds _ _ ⟨⟩
        exact holds
      · intro holds
        exact holds size length rfl

/-- The read behind the length field is safe if the length is not negative as
a `long`. -/
theorem read_safe_iff (within : stream.Within)
    (attachable : stream.Attachable model) {size length : Nat}
    (announced : announcedLength model stream.bigEndian stream.rest =
      some (size, length))
    (there : size ≤ stream.rest.length)
    (representable : length < 2 ^ (8 * model.longSize)) :
    SafeOutcome model stream
        ((Except.ok <$> Bistream.read model length) (stream.advance size)) ↔
      length < 2 ^ (8 * model.longSize - 1) := by
  have behind := within.advance there
  have outcome := read_outcome behind attachable representable
  rw [within.rest_advance, List.length_drop] at outcome
  simp only [Functor.map, EStateM.map, outcome]
  by_cases wrapped : 2 ^ (8 * model.longSize - 1) ≤ length
  · rw [if_pos wrapped]
    exact iff_of_false id (Nat.not_lt.mpr wrapped)
  · rw [if_neg wrapped]
    refine iff_of_true ?_ (Nat.lt_of_not_le wrapped)
    by_cases short : stream.rest.length - size < length
    · rw [if_pos short]
      exact behind
    · rw [if_neg short, Bios.advance_advance]
      exact ⟨size, length, announced, by omega, rfl, rfl,
        within.advance (by omega)⟩

/-- A length that `readcstring` refuses is never read. -/
theorem readBounded_safe_iff (within : stream.Within)
    (attachable : stream.Attachable model) (ssize : Nat)
    {size width length : Nat}
    (announced : announcedLength model stream.bigEndian stream.rest =
      some (size, length))
    (le : width ≤ size) (narrow : width ≤ model.longSize)
    (there : size ≤ stream.rest.length)
    (representable : length < 2 ^ (8 * model.longSize)) :
    SafeOutcome model stream
        (Bistream.readBounded model ssize width length
          (stream.advance size)) ↔
      length < 2 ^ (8 * model.longSize - 1) ∨ ssize ≤ length := by
  unfold Bistream.readBounded
  by_cases refused : length ≥ ssize
  · obtain ⟨after, moved, afterWithin⟩ := seekg_back within there le narrow
    rw [if_pos refused]
    refine iff_of_true ?_ (.inr refused)
    simp only [bind, EStateM.bind, moved]
    exact afterWithin
  · rw [if_neg refused, or_iff_left refused, bind_pure_comp]
    exact read_safe_iff within attachable announced there representable

theorem extractString_safe_iff (within : stream.Within)
    (attachable : stream.Attachable model) (host : Host) :
    ReadsSafely model stream
        (Except.ok <$> Bistream.extractString model host) ↔
      AnnouncedSatisfies model stream
        fun length => length < 2 ^ (8 * model.longSize - 1) := by
  rw [extractString_eq, map_bind]
  apply readsSafely_iff within attachable host
    (fun _ length => Except.ok <$> Bistream.read model length)
  intro size width length announced _ _ there representable
  exact read_safe_iff within attachable announced there representable

/-- What is copied was announced. -/
theorem extractString_copies (within : stream.Within)
    (attachable : stream.Attachable model) {host : Host} {copied : Bytes}
    {after : Bios}
    (extracted : Bistream.extractString model host stream =
      .ok copied after) :
    CopiesAnnounced model stream copied after := by
  have safe := (extractString_safe_iff within attachable host).mpr ?_
  · simp only [ReadsSafely, Functor.map, EStateM.map, extracted] at safe
    exact safe
  intro size length announced
  have outcome := readLength_outcome within attachable host
  rw [announced] at outcome
  obtain ⟨width, lengthRead, -, -, there, representable⟩ := outcome
  by_contra wrapped
  have left := read_outcome (within.advance there) attachable representable
  rw [if_pos (Nat.le_of_not_lt wrapped)] at left
  simp only [extractString_eq, bind, EStateM.bind, lengthRead, left]
    at extracted
  cases extracted

end Safety

/-- Strings are read safely if and only if the announced length is not negative
as a `long`, or `readcstring` refuses it for being too long. -/
theorem lengthPrefixedReads_iff (model : DataModel) (host : Host)
    (stream : Bios) (within : stream.Within)
    (attachable : stream.Attachable model) :
    (ReadsSafely model stream
        (Except.ok <$> Bistream.extractString model host) ↔
      AnnouncedSatisfies model stream
        fun length => length < 2 ^ (8 * model.longSize - 1)) ∧
    ∀ ssize, 1 ≤ ssize →
      (ReadsSafely model stream
          (Bistream.readcstring model host ssize) ↔
        AnnouncedSatisfies model stream
          fun length =>
            length < 2 ^ (8 * model.longSize - 1) ∨ ssize ≤ length) := by
  refine ⟨extractString_safe_iff within attachable host, ?_⟩
  intro ssize positive
  rw [readcstring_eq model host positive]
  apply readsSafely_iff within attachable host
    (Bistream.readBounded model ssize)
  intro size width length announced le narrow there representable
  exact readBounded_safe_iff within attachable ssize announced le narrow
    there representable

/-- A string of three bytes behind its length in the second form, and a byte
that follows. -/
def secondFormString : Bytes :=
  [255, 3, 0, 65, 66, 67, 7]

/-- Both readers are safe on it, whatever size `readcstring` is given. -/
theorem lengthPrefixedReads_secondForm :
    ReadsSafely .lp64 (Bios.attach secondFormString false)
        (Except.ok <$> Bistream.extractString .lp64 .little) ∧
      ∀ ssize, 1 ≤ ssize →
        ReadsSafely .lp64 (Bios.attach secondFormString false)
          (Bistream.readcstring .lp64 .little ssize) := by
  obtain ⟨extracts, copies⟩ := lengthPrefixedReads_iff .lp64 .little
    (Bios.attach secondFormString false) (Bios.attach_within _ _)
    (show 7 < 2 ^ 63 by decide)
  have announced : announcedLength .lp64 false secondFormString =
      some (3, 3) := by
    decide
  have short : AnnouncedSatisfies .lp64
      (Bios.attach secondFormString false)
      fun length => length < 2 ^ (8 * DataModel.lp64.longSize - 1) := by
    intro size length found
    obtain ⟨-, rfl⟩ :=
      Prod.mk.inj (Option.some.inj (announced.symm.trans found))
    decide
  refine ⟨extracts.mpr short, ?_⟩
  intro ssize positive
  exact (copies ssize positive).mpr fun size length found =>
    .inl (short size length found)

/-- Eleven bytes from a peer that announce a string of 2⁶³ bytes. -/
def hugeLength : Bytes :=
  [255, 255, 255, 0, 0, 0, 0, 0, 0, 0, 128]

/-- The read of such a string leaves the buffer. -/
theorem lengthPrefixedReads_hugeLength :
    (Bios.attach hugeLength false).Within ∧
      (Bios.attach hugeLength false).Attachable .lp64 ∧
      ¬ ReadsSafely .lp64 (Bios.attach hugeLength false)
        (Except.ok <$> Bistream.extractString .lp64 .little) := by
  have within : (Bios.attach hugeLength false).Within :=
    Bios.attach_within _ _
  have attachable : (Bios.attach hugeLength false).Attachable .lp64 :=
    show 11 < 2 ^ 63 by decide
  refine ⟨within, attachable, ?_⟩
  rw [extractString_safe_iff within attachable]
  intro fitsLong
  have announced : announcedLength .lp64 false hugeLength =
      some (11, 2 ^ 63) := by decide
  exact absurd (fitsLong 11 (2 ^ 63) announced) (Nat.lt_irrefl _)

end EchoServer
