import EchoServer.BinaryStream

/-!
# What stream operations write and read

An insertion puts bytes at the cursor and moves it behind them; an extraction
takes bytes from the cursor on.  Both are closed under sequencing, where the
bytes are concatenated, so that what a composite insertion writes can be
computed from its parts, and a composite extraction inverts it if its parts do.
-/

namespace EchoServer

namespace Bios

/-- The cursor stands inside the buffer or at its end. -/
def Within (stream : Bios) : Prop :=
  0 ≤ stream.curr ∧ stream.curr ≤ stream.buffer.length

/-- The bytes from the cursor on. -/
def rest (stream : Bios) : Bytes :=
  stream.buffer.drop stream.curr.toNat

/-- The cursor has moved over some bytes. -/
def advance (stream : Bios) (count : Nat) : Bios :=
  { stream with curr := stream.curr + count }

/-- Some bytes have been written at the cursor. -/
def overwrite (stream : Bios) (bytes : Bytes) : Bios :=
  { stream with
    buffer := stream.buffer.take stream.curr.toNat ++ bytes ++
      stream.buffer.drop (stream.curr.toNat + bytes.length)
    curr := stream.curr + bytes.length }

variable {stream : Bios}

theorem attach_within (buffer : Bytes) (bigEndian : Bool) :
    (attach buffer bigEndian).Within := by
  simp [attach, Within]

theorem Within.avail_eq (within : stream.Within) :
    stream.avail = stream.rest.length := by
  obtain ⟨notBefore, notBehind⟩ := within
  simp only [avail, rest, List.length_drop]
  omega

theorem Within.advance (within : stream.Within) {count : Nat}
    (enough : count ≤ stream.rest.length) : (stream.advance count).Within := by
  obtain ⟨notBefore, notBehind⟩ := within
  simp only [Bios.rest, List.length_drop] at enough
  simp only [Bios.advance, Bios.Within]
  omega

theorem Within.rest_advance (within : stream.Within) (count : Nat) :
    (stream.advance count).rest = stream.rest.drop count := by
  have notBefore := within.1
  simp only [Bios.advance, Bios.rest, List.drop_drop]
  congr 1
  omega

theorem advance_zero (stream : Bios) : stream.advance 0 = stream := by
  simp [Bios.advance]

theorem advance_advance (stream : Bios) (first second : Nat) :
    (stream.advance first).advance second = stream.advance (first + second) := by
  simp only [Bios.advance, Int.natCast_add, Int.add_assoc]

theorem Within.overwrite_length (within : stream.Within) {bytes : Bytes}
    (enough : bytes.length ≤ stream.rest.length) :
    (stream.overwrite bytes).buffer.length = stream.buffer.length := by
  obtain ⟨notBefore, notBehind⟩ := within
  simp only [Bios.rest, List.length_drop] at enough
  simp only [Bios.overwrite, List.length_append, List.length_take,
    List.length_drop]
  omega

theorem Within.overwrite (within : stream.Within) {bytes : Bytes}
    (enough : bytes.length ≤ stream.rest.length) :
    (stream.overwrite bytes).Within := by
  have length := within.overwrite_length enough
  obtain ⟨notBefore, notBehind⟩ := within
  simp only [Bios.rest, List.length_drop] at enough
  refine ⟨?_, ?_⟩
  · simp only [Bios.overwrite]
    omega
  · rw [length]
    simp only [Bios.overwrite]
    omega

/-- What is written does not touch the bytes in front of the cursor. -/
theorem Within.overwrite_take (within : stream.Within) (bytes : Bytes) :
    (stream.overwrite bytes).buffer.take
        (stream.overwrite bytes).curr.toNat =
      stream.buffer.take stream.curr.toNat ++ bytes := by
  obtain ⟨notBefore, notBehind⟩ := within
  simp only [Bios.overwrite]
  apply List.take_left'
  simp only [List.length_append, List.length_take]
  omega

theorem Within.rest_overwrite (within : stream.Within) (bytes : Bytes) :
    (stream.overwrite bytes).rest = stream.rest.drop bytes.length := by
  obtain ⟨notBefore, notBehind⟩ := within
  have front : (stream.curr + bytes.length).toNat =
      (stream.buffer.take stream.curr.toNat ++ bytes).length := by
    simp only [List.length_append, List.length_take]
    omega
  simp only [Bios.overwrite, Bios.rest, front, List.drop_left,
    List.drop_drop]

theorem Within.overwrite_overwrite (within : stream.Within)
    {first second : Bytes}
    (enough : (first ++ second).length ≤ stream.rest.length) :
    (stream.overwrite first).overwrite second =
      stream.overwrite (first ++ second) := by
  have fits : first.length ≤ stream.rest.length := by
    rw [List.length_append] at enough
    omega
  have front := within.overwrite_take first
  have behind := within.rest_overwrite first
  have notBefore := within.1
  have position : (stream.overwrite first).curr.toNat =
      stream.curr.toNat + first.length := by
    simp only [Bios.overwrite]
    omega
  simp only [Bios.rest] at behind
  rw [Bios.overwrite, front, ← List.drop_drop, behind]
  simp only [Bios.overwrite, List.drop_drop, List.append_assoc,
    List.length_append, Int.natCast_add, Int.add_assoc, Nat.add_assoc]

end Bios

/-- With a given flag, an insertion writes the given bytes wherever there is
room for them. -/
def Appends (bigEndian : Bool) (write : StreamM Unit) (bytes : Bytes) : Prop :=
  ∀ stream : Bios, stream.bigEndian = bigEndian → stream.Within →
    bytes.length ≤ stream.rest.length →
      write stream = .ok () (stream.overwrite bytes)

/-- With a given flag, an extraction takes the given bytes wherever they come
next, and returns the value. -/
def Takes {Value : Type} (bigEndian : Bool) (read : StreamM Value)
    (bytes : Bytes) (value : Value) : Prop :=
  ∀ (stream : Bios) (behind : Bytes), stream.bigEndian = bigEndian →
    stream.Within → stream.rest = bytes ++ behind →
      read stream = .ok value (stream.advance bytes.length)

section Sequencing

variable {bigEndian : Bool}

theorem Appends.nil : Appends bigEndian (pure ()) [] := by
  intro stream flag within room
  simp [pure, EStateM.pure, Bios.overwrite]

theorem Appends.append {first second : StreamM Unit}
    {firstBytes secondBytes : Bytes}
    (appendsFirst : Appends bigEndian first firstBytes)
    (appendsSecond : Appends bigEndian second secondBytes) :
    Appends bigEndian (do first; second) (firstBytes ++ secondBytes) := by
  intro stream flag within room
  have lengths : (firstBytes ++ secondBytes).length =
      firstBytes.length + secondBytes.length := List.length_append
  have fits : firstBytes.length ≤ stream.rest.length := by omega
  have secondFits :
      secondBytes.length ≤ (stream.overwrite firstBytes).rest.length := by
    rw [within.rest_overwrite _, List.length_drop]
    omega
  have firstRan := appendsFirst stream flag within fits
  have secondRan := appendsSecond (stream.overwrite firstBytes) flag
    (within.overwrite fits) secondFits
  simp only [bind, EStateM.bind, firstRan, secondRan,
    within.overwrite_overwrite room]

theorem Takes.pure {Value : Type} (value : Value) :
    Takes bigEndian (Pure.pure value) [] value := by
  intro stream behind flag within next
  simp [Pure.pure, EStateM.pure, Bios.advance]

theorem Takes.bind {First Second : Type} {read : StreamM First}
    {continuation : First → StreamM Second} {firstBytes secondBytes : Bytes}
    {first : First} {second : Second}
    (takesFirst : Takes bigEndian read firstBytes first)
    (takesSecond :
      Takes bigEndian (continuation first) secondBytes second) :
    Takes bigEndian (read >>= continuation) (firstBytes ++ secondBytes)
      second := by
  intro stream behind flag within next
  rw [List.append_assoc] at next
  have enough : firstBytes.length ≤ stream.rest.length := by
    rw [next, List.length_append]
    omega
  have firstRan := takesFirst stream (secondBytes ++ behind) flag within next
  have left : (stream.advance firstBytes.length).rest =
      secondBytes ++ behind := by
    rw [within.rest_advance, next, List.drop_left]
  have secondRan := takesSecond (stream.advance firstBytes.length) behind flag
    (within.advance enough) left
  simp only [Bind.bind, EStateM.bind, firstRan, secondRan,
    Bios.advance_advance, List.length_append]

/-- What is done with the value afterwards takes no more bytes. -/
theorem Takes.map {First Second : Type} {read : StreamM First}
    {bytes : Bytes} {first : First} (function : First → Second)
    (takes : Takes bigEndian read bytes first) :
    Takes bigEndian (do return function (← read)) bytes
      (function first) := by
  have sequenced : Takes bigEndian
      (read >>= fun value => Pure.pure (function value)) (bytes ++ [])
      (function first) := takes.bind (Takes.pure (function first))
  rw [List.append_nil] at sequenced
  exact sequenced

end Sequencing

end EchoServer
