import EchoServer.StreamRoundTrip
import Mathlib.Algebra.Group.Int.Defs

/-!
# Insertions that fail

Every write compares the available space with what it is going to write before
it touches the buffer.  An insertion that is one write therefore fails without
a trace.  A string is inserted by several writes: once the first of them has
succeeded, an overflow of a later one leaves the bytes of the first behind.
-/

namespace EchoServer

open ByteOrder

/-- The floating-point types. -/
inductive FloatingType
  | float
  | double
  | longDouble
  deriving DecidableEq

def FloatingType.size (model : DataModel) : FloatingType → Nat
  | float => 4
  | double => 8
  | longDouble =>
      match model with
      | .ilp32 => 12
      | .lp64 => 16
      | .llp64 => 8

/-- A value of a type of fixed width.  A floating-point number is given by the
bits of its representation: the stream copies bytes and does not interpret
them. -/
inductive FixedValue (model : DataModel)
  | integer (type : IntegerType) (value : type.Value model)
  | floating (type : FloatingType) (value : BitVec (8 * type.size model))
  | bool (value : Bool)

/-- `operator<<` for the types of fixed width. -/
def FixedValue.insert {model : DataModel} (host : Host) :
    FixedValue model → StreamM Unit
  | integer type value => Bostream.insertInteger model host type value
  | floating type value => writeUnsigned host (type.size model) value.toNat
  | bool value => Bostream.insertBool model value

/-- A value of any type that has an `operator<<`. -/
inductive InsertedValue (model : DataModel)
  | fixed (value : FixedValue model)
  | string (s : Bytes)

/-- `operator<<`. -/
def InsertedValue.insert {model : DataModel} (host : Host) :
    InsertedValue model → StreamM Unit
  | fixed value => value.insert host
  | string s => Bostream.insertString model host s

/-- What an insertion of `size` bytes does, the first write of which is of
`first` bytes. -/
structure Fills (write : StreamM Unit) (first size : Nat) : Prop where
  le : first ≤ size
  /-- The first write does not fit. -/
  none : ∀ stream : Bios, stream.avail < first →
    write stream = .error (.biosexception .overflow) stream
  /-- The first write goes in front of the buffer. -/
  before : ∀ stream : Bios, stream.curr < 0 → first ≤ stream.avail →
    write stream = .error .outOfBounds stream
  /-- The first write fits, a later one does not. -/
  part : ∀ stream : Bios, 0 ≤ stream.curr → first ≤ stream.avail →
    stream.avail < size →
      ∃ after, write stream = .error (.biosexception .overflow) after ∧
        stream.curr < after.curr
  /-- All of it fits. -/
  all : ∀ stream : Bios, 0 ≤ stream.curr → size ≤ stream.avail →
    ∃ after, write stream = .ok () after ∧
      after.curr = stream.curr + size ∧ after.avail = stream.avail - size

/-- Whenever an operation throws `overflow`, the stream is as before. -/
def UnchangedOnOverflow (write : StreamM Unit) (stream : Bios) : Prop :=
  ∀ after, write stream = .error (.biosexception .overflow) after →
    after = stream

section Writes

variable {write second : StreamM Unit} {first size next more : Nat}

theorem overwrite_avail {stream : Bios} (notBefore : 0 ≤ stream.curr)
    {bytes : Bytes} (enough : bytes.length ≤ stream.avail) :
    (stream.overwrite bytes).avail = stream.avail - bytes.length := by
  simp only [Bios.avail] at enough
  simp only [Bios.avail, Bios.overwrite, List.length_append, List.length_take,
    List.length_drop]
  omega

/-- An insertion that goes on after its first write. -/
theorem Fills.append (fills : Fills write first size) (positive : 0 < first)
    (fillsMore : Fills second next more) :
    Fills (do write; second) first (size + more) := by
  have le := fills.le
  have leMore := fillsMore.le
  refine ⟨by omega, ?none, ?before, ?part, ?all⟩
  case none =>
    intro stream short
    simp only [bind, EStateM.bind, fills.none stream short]
  case before =>
    intro stream before enough
    simp only [bind, EStateM.bind, fills.before stream before enough]
  case part =>
    intro stream notBefore enough short
    by_cases cut : stream.avail < size
    · obtain ⟨after, thrown, moved⟩ := fills.part stream notBefore enough cut
      exact ⟨after, by simp only [bind, EStateM.bind, thrown], moved⟩
    · obtain ⟨middle, written, position, left⟩ :=
        fills.all stream notBefore (by omega)
      simp only [bind, EStateM.bind, written]
      -- The second part starts behind the first.
      by_cases noneFits : middle.avail < next
      · exact ⟨middle, fillsMore.none middle noneFits, by omega⟩
      · obtain ⟨after, thrown, moved⟩ :=
          fillsMore.part middle (by omega) (by omega) (by omega)
        exact ⟨after, thrown, by omega⟩
  case all =>
    intro stream notBefore fits
    obtain ⟨middle, written, position, left⟩ :=
      fills.all stream notBefore (by omega)
    obtain ⟨after, writtenMore, positionMore, leftMore⟩ :=
      fillsMore.all middle (by omega) (by omega)
    refine ⟨after, ?_, by omega, by omega⟩
    simp only [bind, EStateM.bind, written, writtenMore]

/-- `bostream::write` is one write. -/
theorem fills_write (model : DataModel) {p : Bytes} {len : Nat}
    (short : len < 2 ^ 31) (there : len ≤ p.length) :
    Fills (Bostream.write model p len) len len := by
  have asLong := model.toLong_of_lt short
  have taken : (p.take len).length = len := by simp [there]
  constructor
  · exact Nat.le_refl len
  · intro stream noRoom
    simp only [Bostream.write, asLong]
    rw [if_pos noRoom]
  · intro stream before enough
    simp only [Bostream.write, asLong]
    rw [if_neg (by omega), if_pos (.inl before)]
  · intro stream notBefore enough noRoom
    omega
  · intro stream notBefore fits
    refine ⟨stream.overwrite (p.take len), ?_, ?_, ?_⟩
    · simp only [Bostream.write, asLong]
      rw [if_neg (by omega), if_neg (by omega)]
    · simp only [Bios.overwrite, taken]
    · rw [overwrite_avail notBefore (by omega), taken]

/-- `write_care_endian` is one write, in either byte order. -/
theorem fills_writeUnsigned (host : Host) (width number : Nat) :
    Fills (writeUnsigned host width number) width width := by
  constructor
  · exact Nat.le_refl width
  · intro stream noRoom
    cases host <;> cases flag : stream.bigEndian <;>
      simp [writeUnsigned, writeCareEndian, writeOrder, writeOpposite,
        writeBytes, Bios.isSameEndian, hostBytes, bind, EStateM.bind,
        getStream_eq, flag, noRoom]
  · intro stream before enough
    have notShort : ¬ stream.avail < (width : Int) := by omega
    cases host <;> cases flag : stream.bigEndian <;>
      simp [writeUnsigned, writeCareEndian, writeOrder, writeOpposite,
        writeBytes, Bios.isSameEndian, hostBytes, bind, EStateM.bind,
        getStream_eq, flag, notShort, before]
  · intro stream notBefore enough noRoom
    omega
  · intro stream notBefore fits
    have length := wireBytes_length stream.bigEndian width number
    have written : writeUnsigned host width number stream =
        .ok () (stream.overwrite
          (wireBytes stream.bigEndian width number)) := by
      rw [writeUnsigned_eq host width number stream notBefore fits,
        Bios.overwrite, length]
    refine ⟨_, written, ?_, ?_⟩
    · simp only [Bios.overwrite, length]
    · rw [overwrite_avail notBefore (by omega), length]

theorem fills_insertInteger (model : DataModel) (host : Host)
    (type : IntegerType) (value : type.Value model) :
    Fills (Bostream.insertInteger model host type value)
      (type.size model) (type.size model) := by
  unfold Bostream.insertInteger
  split_ifs with isChar
  · have size := IntegerType.size_of_isChar model isChar
    have length := hostBytes_length host (type.size model) value.toNat
    apply fills_write model
    · rw [size]
      decide
    · exact Nat.le_of_eq length.symm
  · exact fills_writeUnsigned host _ _

/-- The value of a type of fixed width is one write. -/
theorem FixedValue.fills {model : DataModel} (host : Host)
    (value : FixedValue model) :
    ∃ size, Fills (value.insert host) size size := by
  cases value with
  | integer type value =>
      exact ⟨_, fills_insertInteger model host type value⟩
  | floating type value => exact ⟨_, fills_writeUnsigned host _ _⟩
  | bool value =>
      exact ⟨1, fills_write model (by decide) (Nat.le_refl 1)⟩

/-- One write changes nothing if it throws. -/
theorem Fills.unchanged (fills : Fills write size size) (stream : Bios) :
    UnchangedOnOverflow write stream := by
  intro after thrown
  by_cases short : stream.avail < size
  · rw [fills.none stream short] at thrown
    cases thrown
    rfl
  by_cases before : stream.curr < 0
  · rw [fills.before stream before (by omega)] at thrown
    cases thrown
  · obtain ⟨written, ran, -, -⟩ :=
      fills.all stream (by omega) (by omega)
    rw [ran] at thrown
    cases thrown

end Writes

end EchoServer
