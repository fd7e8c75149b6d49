import EchoServer.ByteBlock
import Mathlib.Tactic.SplitIfs

/-!
# Buffers that collect chunks before they are sent

A send buffer is a block that is filled from the front.  A chunk that does not
fit is refused; the owner then sends what the buffer holds and tries again.
Seen from outside this is a line: bytes that wait, and bytes that were sent.
Whatever the chunks are, the line keeps their order, and loses nothing but
chunks that are too long even for an empty buffer.
-/

namespace EchoServer

/-- A block of which the first `used` bytes wait to be sent. -/
structure SendBuffer (capacity : Nat) where
  block : Block capacity
  used : Nat
  used_lt : used < capacity

namespace SendBuffer

variable {capacity : Nat}

/-- The bytes that wait. -/
def contents (buffer : SendBuffer capacity) : Bytes :=
  buffer.block.bytes.take buffer.used

/-- What comes of an attempt to append a chunk. -/
inductive Expansion (capacity : Nat)
  | expanded (buffer : SendBuffer capacity)
  | full
  | outOfBounds

/-- Append a chunk, unless the lengths reach the capacity; `reserve` bytes are
kept free.  The second test fails only where the sum of the first has wrapped
around. -/
def expand (reserve : Nat) (chunk : Bytes) (buffer : SendBuffer capacity) :
    Expansion capacity :=
  -- The lengths are added as 32-bit numbers.
  if capacity ≤ (chunk.length + buffer.used + reserve) % 2 ^ 32 then
    .full
  else if fits : buffer.used + chunk.length < capacity then
    .expanded
      { block := buffer.block.overwrite buffer.used chunk
        used := buffer.used + chunk.length
        used_lt := fits }
  else
    -- The copy leaves the block.
    .outOfBounds

/-- Forget what waits. -/
def clear (buffer : SendBuffer capacity) : SendBuffer capacity :=
  { buffer with used := 0, used_lt := by have := buffer.used_lt; omega }

@[simp]
theorem contents_length (buffer : SendBuffer capacity) :
    buffer.contents.length = buffer.used :=
  Block.take_length (Nat.le_of_lt buffer.used_lt)

theorem contents_eq_nil (buffer : SendBuffer capacity) :
    buffer.contents = [] ↔ buffer.used = 0 := by
  rw [← List.length_eq_zero_iff, contents_length]

@[simp]
theorem contents_clear (buffer : SendBuffer capacity) :
    buffer.clear.contents = [] :=
  List.take_zero

/-- Without a wrap-around, a chunk that fits is appended. -/
theorem expand_fits {reserve : Nat} {chunk : Bytes}
    {buffer : SendBuffer capacity}
    (small : chunk.length + buffer.used + reserve < 2 ^ 32)
    (fits : chunk.length + buffer.used + reserve < capacity) :
    ∃ expanded, buffer.expand reserve chunk = .expanded expanded ∧
      expanded.contents = buffer.contents ++ chunk := by
  have within : buffer.used + chunk.length < capacity := by omega
  rw [expand, Nat.mod_eq_of_lt small, if_neg (Nat.not_le.mpr fits),
    dif_pos within]
  exact ⟨_, rfl, Block.take_overwrite (Nat.le_of_lt within)⟩

/-- Without a wrap-around, a chunk that does not fit is refused. -/
theorem expand_full {reserve : Nat} {chunk : Bytes}
    {buffer : SendBuffer capacity}
    (small : chunk.length + buffer.used + reserve < 2 ^ 32)
    (full : capacity ≤ chunk.length + buffer.used + reserve) :
    buffer.expand reserve chunk = .full := by
  rw [expand, Nat.mod_eq_of_lt small, if_pos full]

/-- With a wrap-around, the chunk is copied out of bounds at once, or when it
is tried again on an empty buffer. -/
theorem expand_wraps {reserve : Nat} {chunk : Bytes}
    {buffer : SendBuffer capacity} (reserveLe : reserve ≤ capacity)
    (room : capacity + reserve ≤ 2 ^ 32) (isWord : chunk.length < 2 ^ 32)
    (wraps : 2 ^ 32 ≤ chunk.length + buffer.used + reserve) :
    buffer.expand reserve chunk = .outOfBounds ∨
      buffer.expand reserve chunk = .full ∧
        ∀ emptied : SendBuffer capacity, emptied.used = 0 →
          emptied.expand reserve chunk = .outOfBounds := by
  have used := buffer.used_lt
  have wrapped : (chunk.length + buffer.used + reserve) % 2 ^ 32 =
      chunk.length + buffer.used + reserve - 2 ^ 32 := by
    rw [Nat.mod_eq_sub_mod wraps, Nat.mod_eq_of_lt (by omega)]
  by_cases full :
      capacity ≤ (chunk.length + buffer.used + reserve) % 2 ^ 32
  · right
    refine ⟨by rw [expand, if_pos full], ?_⟩
    intro emptied empty
    have wrappedAgain : (chunk.length + 0 + reserve) % 2 ^ 32 =
        chunk.length + reserve - 2 ^ 32 := by
      rw [Nat.add_zero, Nat.mod_eq_sub_mod (by omega),
        Nat.mod_eq_of_lt (by omega)]
    rw [expand, empty, wrappedAgain, if_neg (by omega), dif_neg (by omega)]
  · left
    rw [expand, if_neg full, dif_neg (by omega)]

end SendBuffer

/-- The bytes that wait in a buffer and those that were sent.  The buffer holds
less than `capacity` bytes, of which `reserve` are kept free; what is sent
arrives if the line `passes` it on. -/
structure Line where
  capacity : Nat
  reserve : Nat
  passes : Bool
  waiting : Bytes
  sent : Bytes

namespace Line

/-- The chunk can be appended to what waits. -/
def Fits (chunk : Bytes) (line : Line) : Prop :=
  chunk.length + line.waiting.length + line.reserve < line.capacity

/-- The chunk can be appended when nothing waits. -/
def Small (chunk : Bytes) (line : Line) : Prop :=
  chunk.length + line.reserve < line.capacity

/-- The lengths exceed 32 bits. -/
def Wraps (chunk : Bytes) (line : Line) : Prop :=
  2 ^ 32 ≤ chunk.length + line.waiting.length + line.reserve

instance (chunk : Bytes) (line : Line) : Decidable (line.Fits chunk) :=
  inferInstanceAs (Decidable (_ < _))

instance (chunk : Bytes) (line : Line) : Decidable (line.Small chunk) :=
  inferInstanceAs (Decidable (_ < _))

instance (chunk : Bytes) (line : Line) : Decidable (line.Wraps chunk) :=
  inferInstanceAs (Decidable (_ ≤ _))

/-- Send what waits. -/
def flush (line : Line) : Line :=
  { line with
    waiting := []
    sent := if line.passes then line.sent ++ line.waiting else line.sent }

/-- Append a chunk, sending what waits if there is no room for it. -/
def accept (line : Line) (chunk : Bytes) : Line :=
  if line.Fits chunk then
    { line with waiting := line.waiting ++ chunk }
  else if line.Small chunk then
    { line.flush with waiting := chunk }
  else
    line.flush

def acceptAll (chunks : List Bytes) (line : Line) : Line :=
  chunks.foldl accept line

/-- What was sent, or will be. -/
def total (line : Line) : Bytes :=
  line.flush.sent

/-- The bytes of the chunks that a line delivers. -/
def payload (chunks : List Bytes) (line : Line) : Bytes :=
  if line.passes then
    (chunks.filter fun chunk => decide (line.Small chunk)).flatten
  else
    []

/-- The lengths never exceed 32 bits. -/
def WithinWord (line : Line) : List Bytes → Prop
  | [] => True
  | chunk :: chunks =>
      ¬ line.Wraps chunk ∧ (line.accept chunk).WithinWord chunks

/-- Two lines of the same kind. -/
structure Alike (line line' : Line) : Prop where
  capacity : line'.capacity = line.capacity
  reserve : line'.reserve = line.reserve
  passes : line'.passes = line.passes

variable {line : Line} {chunk : Bytes} {chunks : List Bytes}

namespace Alike

theorem refl (line : Line) : line.Alike line :=
  ⟨rfl, rfl, rfl⟩

theorem trans {first second third : Line} (before : first.Alike second)
    (after : second.Alike third) : first.Alike third where
  capacity := after.capacity.trans before.capacity
  reserve := after.reserve.trans before.reserve
  passes := after.passes.trans before.passes

theorem small {line' : Line} (alike : line.Alike line') :
    line'.Small chunk ↔ line.Small chunk := by
  rw [Small, Small, alike.capacity, alike.reserve]

theorem fits {line' : Line} (alike : line.Alike line')
    (waiting : line'.waiting = line.waiting) :
    line'.Fits chunk ↔ line.Fits chunk := by
  rw [Fits, Fits, alike.capacity, alike.reserve, waiting]

theorem payload {line' : Line} (alike : line.Alike line') :
    line'.payload chunks = line.payload chunks := by
  simp only [Line.payload, alike.small, alike.passes]

end Alike

theorem flush_alike (line : Line) : line.Alike line.flush :=
  ⟨rfl, rfl, rfl⟩

theorem accept_alike (line : Line) (chunk : Bytes) :
    line.Alike (line.accept chunk) := by
  rw [accept]
  split_ifs <;> exact ⟨rfl, rfl, rfl⟩

theorem accept_waiting (line : Line) (chunk : Bytes) :
    (line.accept chunk).waiting =
      if line.Fits chunk then line.waiting ++ chunk
      else if line.Small chunk then chunk else [] := by
  rw [accept]
  split_ifs <;> rfl

theorem acceptAll_alike (line : Line) (chunks : List Bytes) :
    line.Alike (line.acceptAll chunks) := by
  induction chunks generalizing line with
  | nil => exact .refl line
  | cons chunk chunks ih => exact (line.accept_alike chunk).trans (ih _)

theorem total_eq (line : Line) :
    line.total =
      if line.passes then line.sent ++ line.waiting else line.sent :=
  rfl

theorem total_of_waiting_nil (empty : line.waiting = []) :
    line.total = line.sent := by
  rw [total_eq, empty, List.append_nil, ite_self]

theorem fits_of_small (empty : line.waiting = []) :
    line.Fits chunk ↔ line.Small chunk := by
  rw [Fits, Small, empty, List.length_nil, Nat.add_zero]

theorem small_of_fits (fits : line.Fits chunk) : line.Small chunk := by
  simp only [Fits, Small] at fits ⊢
  omega

/-- A chunk comes behind everything sent before it, and is lost only if it is
too long. -/
theorem total_accept (line : Line) (chunk : Bytes) :
    (line.accept chunk).total = line.total ++ line.payload [chunk] := by
  cases passes : line.passes with
  | false =>
      rw [accept]
      split_ifs <;> simp [total, flush, payload, passes]
  | true =>
      rw [accept]
      split_ifs with fits small
      · simp [total, flush, payload, passes, small_of_fits fits]
      · simp [total, flush, payload, passes, small]
      · simp [total, flush, payload, passes, small]

@[simp]
theorem payload_nil (line : Line) : line.payload [] = [] := by
  cases passes : line.passes <;> simp [payload, passes]

theorem payload_append (line : Line) (first second : List Bytes) :
    line.payload (first ++ second) =
      line.payload first ++ line.payload second := by
  cases passes : line.passes <;> simp [payload, passes]

/-- The chunks come in their order, without those that are too long. -/
theorem total_acceptAll (line : Line) (chunks : List Bytes) :
    (line.acceptAll chunks).total = line.total ++ line.payload chunks := by
  induction chunks generalizing line with
  | nil => simp [acceptAll]
  | cons chunk chunks ih =>
      have later : (line.accept chunk).payload chunks = line.payload chunks :=
        (line.accept_alike chunk).payload
      calc
        (line.acceptAll (chunk :: chunks)).total =
            ((line.accept chunk).acceptAll chunks).total := rfl
        _ = (line.accept chunk).total ++ (line.accept chunk).payload chunks :=
          ih _
        _ = line.total ++ line.payload ([chunk] ++ chunks) := by
          rw [total_accept, later, payload_append, List.append_assoc]

/-- A line that passes on chunks that are not too long delivers them all. -/
theorem payload_of_small (passes : line.passes = true)
    (small : ∀ chunk ∈ chunks, line.Small chunk) :
    line.payload chunks = chunks.flatten := by
  have kept : (chunks.filter fun chunk => decide (line.Small chunk)) =
      chunks :=
    List.filter_eq_self.mpr fun chunk isIn => decide_eq_true (small chunk isIn)
  rw [payload, if_pos passes, kept]

/-- Chunks that are too long leave an empty line as it is. -/
theorem acceptAll_of_not_small (empty : line.waiting = [])
    (long : ∀ chunk ∈ chunks, ¬ line.Small chunk) :
    line.acceptAll chunks = line := by
  induction chunks with
  | nil => rfl
  | cons chunk chunks ih =>
      have isLong := long chunk List.mem_cons_self
      have unchanged : line.accept chunk = line := by
        have unfit := mt small_of_fits isLong
        obtain ⟨capacity, reserve, passes, waiting, sent⟩ := line
        obtain rfl : waiting = [] := empty
        rw [accept, if_neg unfit, if_neg isLong, flush]
        simp
      calc
        line.acceptAll (chunk :: chunks) =
            (line.accept chunk).acceptAll chunks := rfl
        _ = line.acceptAll chunks := by rw [unchanged]
        _ = line :=
          ih fun other isIn => long other (List.mem_cons_of_mem _ isIn)

/-- One of the chunks can be appended at once when it comes. -/
def lists (line : Line) : List Bytes → Bool
  | [] => false
  | chunk :: chunks =>
      decide (line.Fits chunk) || (line.accept chunk).lists chunks

/-- On an empty line that is the first chunk that is not too long. -/
theorem lists_iff (empty : line.waiting = []) :
    line.lists chunks = true ↔ ∃ chunk ∈ chunks, line.Small chunk := by
  induction chunks with
  | nil => simp [lists]
  | cons chunk chunks ih =>
      rw [lists, Bool.or_eq_true, decide_eq_true_iff, fits_of_small empty]
      by_cases small : line.Small chunk
      · simp [small]
      · have unchanged : line.acceptAll [chunk] = line :=
          acceptAll_of_not_small empty (by simpa using small)
        rw [acceptAll, List.foldl_cons, List.foldl_nil] at unchanged
        simp [small, unchanged, ih]

/-- A line that starts empty is empty again where nothing was appended. -/
theorem waiting_of_not_lists (empty : line.waiting = [])
    (unlisted : line.lists chunks = false) :
    line.acceptAll chunks = line := by
  apply acceptAll_of_not_small empty
  intro chunk isIn small
  have listed := (lists_iff empty).mpr ⟨chunk, isIn, small⟩
  rw [unlisted] at listed
  cases listed

theorem withinWord_congr {line' : Line} (alike : line.Alike line')
    (waiting : line'.waiting = line.waiting) :
    line'.WithinWord chunks ↔ line.WithinWord chunks := by
  induction chunks generalizing line line' with
  | nil => rfl
  | cons chunk chunks ih =>
      have next : (line.accept chunk).Alike (line'.accept chunk) :=
        ⟨by rw [(accept_alike _ _).capacity, (accept_alike _ _).capacity,
            alike.capacity],
          by rw [(accept_alike _ _).reserve, (accept_alike _ _).reserve,
            alike.reserve],
          by rw [(accept_alike _ _).passes, (accept_alike _ _).passes,
            alike.passes]⟩
      have nextWaiting :
          (line'.accept chunk).waiting = (line.accept chunk).waiting := by
        simp only [accept_waiting, alike.fits waiting, alike.small, waiting]
      rw [WithinWord, WithinWord, ih next nextWaiting, Wraps, Wraps, waiting,
        alike.reserve]

theorem WithinWord.left {first second : List Bytes}
    (within : line.WithinWord (first ++ second)) : line.WithinWord first := by
  induction first generalizing line with
  | nil => trivial
  | cons chunk chunks ih => exact ⟨within.1, ih within.2⟩

/-- What waits never fills the buffer. -/
theorem acceptAll_waiting_lt
    (room : line.waiting.length + line.reserve < line.capacity) :
    (line.acceptAll chunks).waiting.length + line.reserve <
      line.capacity := by
  induction chunks generalizing line with
  | nil => exact room
  | cons chunk chunks ih =>
      have alike := line.accept_alike chunk
      have next : (line.accept chunk).waiting.length +
          (line.accept chunk).reserve < (line.accept chunk).capacity := by
        rw [alike.reserve, alike.capacity, accept_waiting]
        split_ifs with fits small
        · simp only [Fits] at fits
          simp only [List.length_append]
          omega
        · exact small
        · simp only [List.length_nil]
          omega
      have rest := ih next
      rw [alike.reserve, alike.capacity] at rest
      exact rest

/-- Lengths far below 32 bits stay there. -/
theorem withinWord_of_length (room : line.waiting.length + line.reserve <
      line.capacity)
    (bounded : ∀ chunk ∈ chunks,
      chunk.length + line.capacity ≤ 2 ^ 32) :
    line.WithinWord chunks := by
  induction chunks generalizing line with
  | nil => trivial
  | cons chunk chunks ih =>
      have alike := line.accept_alike chunk
      refine ⟨?_, ih ?_ ?_⟩
      · have short := bounded chunk List.mem_cons_self
        simp only [Wraps]
        omega
      · have next : (line.acceptAll [chunk]).waiting.length + line.reserve <
            line.capacity := acceptAll_waiting_lt room
        rw [alike.reserve, alike.capacity]
        exact next
      · intro other isIn
        rw [alike.capacity]
        exact bounded other (List.mem_cons_of_mem _ isIn)

end Line

end EchoServer
