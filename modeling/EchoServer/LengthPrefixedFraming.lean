import Mathlib.Data.List.Basic
import Mathlib.Tactic.Common

/-!
# Length-prefixed framing of a stream

A frame format tells, from the first items of a frame, how long the frame is.
The greedy split of a stream cuts complete frames off its front as long as
there are any.  Splitting a stream that arrives in pieces, carrying the
unsplit tail from one piece to the next, gives the split of the whole stream.

The second half looks at the same stream from the sender's side: of a list of
packets, which are completed by the first items of their concatenation, and
which part of the next one those items already contain.
-/

namespace EchoServer

namespace Framing

/-- How the first items of a frame announce its length.  An announcement does
not change when more items arrive. -/
structure Format (α : Type*) where
  announced : List α → Option Nat
  announced_append : ∀ {items : List α} {size : Nat} (more : List α),
    announced items = some size → announced (items ++ more) = some size

variable {α : Type*} (format : Format α)

namespace Format

/-- The size of the complete, nonempty frame at the front, if there is one. -/
def firstFrame (items : List α) : Option Nat :=
  match format.announced items with
  | none => none
  | some size => if 0 < size ∧ size ≤ items.length then some size else none

/-- Cut at most `fuel` complete frames off the front. -/
def splitFuel : Nat → List α → List (List α) × List α
  | 0, items => ([], items)
  | fuel + 1, items =>
      match format.firstFrame items with
      | none => ([], items)
      | some size =>
          let rest := splitFuel fuel (items.drop size)
          (items.take size :: rest.1, rest.2)

/-- The frames of the greedy split and the unsplit tail.  Every frame has at
least one item, so the length of the stream is fuel enough. -/
def greedySplit (items : List α) : List (List α) × List α :=
  format.splitFuel items.length items

/-- The complete frames at the front of a stream. -/
def frames (items : List α) : List (List α) :=
  (format.greedySplit items).1

/-- What is left of the stream behind its complete frames. -/
def tail (items : List α) : List α :=
  (format.greedySplit items).2

variable {format}

theorem firstFrame_eq_some {items : List α} {size : Nat} :
    format.firstFrame items = some size ↔
      format.announced items = some size ∧ 0 < size ∧
        size ≤ items.length := by
  unfold firstFrame
  cases announcement : format.announced items with
  | none => simp
  | some other =>
      simp only [Option.ite_none_right_eq_some, Option.some.injEq]
      constructor
      · rintro ⟨bounds, rfl⟩
        exact ⟨rfl, bounds⟩
      · rintro ⟨rfl, bounds⟩
        exact ⟨bounds, rfl⟩

/-- A complete first frame stays complete when more items arrive. -/
theorem firstFrame_append {items : List α} {size : Nat} (more : List α)
    (complete : format.firstFrame items = some size) :
    format.firstFrame (items ++ more) = some size := by
  obtain ⟨announcement, positive, fits⟩ := firstFrame_eq_some.mp complete
  apply firstFrame_eq_some.mpr
  refine ⟨format.announced_append more announcement, positive, ?_⟩
  simp only [List.length_append]
  omega

theorem splitFuel_eq {fuel more : Nat} {items : List α}
    (enough : items.length ≤ fuel) (le : fuel ≤ more) :
    format.splitFuel more items = format.splitFuel fuel items := by
  induction fuel generalizing more items with
  | zero =>
      have noItems : items = [] := List.eq_nil_of_length_eq_zero (by omega)
      have noFrame : format.firstFrame items = none := by
        cases found : format.firstFrame items with
        | none => rfl
        | some size =>
            obtain ⟨-, positive, fits⟩ := firstFrame_eq_some.mp found
            simp [noItems] at fits
            omega
      cases more <;> simp [splitFuel, noFrame]
  | succ fuel ih =>
      obtain ⟨more, rfl⟩ : ∃ rest, more = rest + 1 := ⟨more - 1, by omega⟩
      cases found : format.firstFrame items with
      | none => simp [splitFuel, found]
      | some size =>
          obtain ⟨-, positive, fits⟩ := firstFrame_eq_some.mp found
          have shorter : (items.drop size).length ≤ fuel := by
            simp only [List.length_drop]
            omega
          simp [splitFuel, found, ih shorter (by omega : fuel ≤ more)]

/-- Nothing is cut off a stream without a complete first frame. -/
theorem greedySplit_none {items : List α}
    (incomplete : format.firstFrame items = none) :
    format.greedySplit items = ([], items) := by
  unfold greedySplit
  cases items.length <;> simp [splitFuel, incomplete]

/-- A complete first frame is cut off, and the rest is split. -/
theorem greedySplit_some {items : List α} {size : Nat}
    (complete : format.firstFrame items = some size) :
    format.greedySplit items =
      (items.take size :: format.frames (items.drop size),
        format.tail (items.drop size)) := by
  obtain ⟨-, positive, fits⟩ := firstFrame_eq_some.mp complete
  obtain ⟨fuel, lengthEq⟩ : ∃ fuel, items.length = fuel + 1 :=
    ⟨items.length - 1, by omega⟩
  have shorter : (items.drop size).length ≤ fuel := by
    simp only [List.length_drop]
    omega
  have enough : format.splitFuel fuel (items.drop size) =
      format.splitFuel (items.drop size).length (items.drop size) :=
    splitFuel_eq (Nat.le_refl _) shorter
  simp [greedySplit, frames, tail, lengthEq, splitFuel, complete, enough]

variable (format) in
/-- Induction along the frames cut off a stream. -/
theorem split_induction {motive : List α → Prop}
    (stop : ∀ items, format.firstFrame items = none → motive items)
    (frame : ∀ items size, format.firstFrame items = some size →
      motive (items.drop size) → motive items)
    (items : List α) : motive items := by
  induction lengthEq : items.length using Nat.strongRecOn
    generalizing items with
  | ind length ih =>
      cases found : format.firstFrame items with
      | none => exact stop items found
      | some size =>
          obtain ⟨-, positive, fits⟩ := firstFrame_eq_some.mp found
          apply frame items size found
          apply ih (items.drop size).length _ _ rfl
          simp only [List.length_drop]
          omega

/-- The frames and the tail make up the stream. -/
theorem frames_flatten_append_tail (items : List α) :
    (format.frames items).flatten ++ format.tail items = items := by
  induction items using split_induction format with
  | stop items incomplete =>
      simp [frames, tail, greedySplit_none incomplete]
  | frame items size complete ih =>
      have split := greedySplit_some complete
      simp only [frames, tail, split, List.flatten_cons,
        List.append_assoc] at ih ⊢
      rw [ih, List.take_append_drop]

/-- The tail holds no complete frame. -/
theorem firstFrame_tail (items : List α) :
    format.firstFrame (format.tail items) = none := by
  induction items using split_induction format with
  | stop items incomplete =>
      simpa [tail, greedySplit_none incomplete] using incomplete
  | frame items size complete ih =>
      have tailEq : format.tail items = format.tail (items.drop size) := by
        simp [tail, greedySplit_some complete]
      rw [tailEq]
      exact ih

/-- Splitting a stream in two pieces: the tail of the first piece goes in
front of the second. -/
theorem greedySplit_append (first second : List α) :
    format.greedySplit (first ++ second) =
      (format.frames first ++
          format.frames (format.tail first ++ second),
        format.tail (format.tail first ++ second)) := by
  induction first using split_induction format with
  | stop items incomplete =>
      simp [frames, tail, greedySplit_none incomplete]
  | frame items size complete ih =>
      obtain ⟨-, positive, fits⟩ := firstFrame_eq_some.mp complete
      have dropEq :
          (items ++ second).drop size = items.drop size ++ second := by
        rw [List.drop_append_of_le_length fits]
      have takeEq : (items ++ second).take size = items.take size := by
        rw [List.take_append_of_le_length fits]
      have whole := greedySplit_some (firstFrame_append second complete)
      have part := greedySplit_some complete
      rw [dropEq, takeEq] at whole
      rw [whole]
      simp only [frames, tail, part, ih, List.cons_append]

theorem frames_append (first second : List α) :
    format.frames (first ++ second) =
      format.frames first ++
        format.frames (format.tail first ++ second) := by
  rw [frames, greedySplit_append]

theorem tail_append (first second : List α) :
    format.tail (first ++ second) =
      format.tail (format.tail first ++ second) := by
  rw [tail, greedySplit_append]

/-- Frames have at least one item and at most those of the stream. -/
theorem frame_length {items : List α} :
    ∀ frame ∈ format.frames items,
      0 < frame.length ∧ frame.length ≤ items.length := by
  induction items using split_induction format with
  | stop items incomplete =>
      simp [frames, greedySplit_none incomplete]
  | frame items size complete ih =>
      obtain ⟨-, positive, fits⟩ := firstFrame_eq_some.mp complete
      intro frame member
      simp only [frames, greedySplit_some complete,
        List.mem_cons] at member
      rcases member with rfl | later
      · rw [List.length_take_of_le fits]
        exact ⟨positive, fits⟩
      · have inside := ih frame later
        rw [List.length_drop] at inside
        omega

/-- Every length announced at a frame boundary of the stream, also at the
boundary in front of the tail, satisfies a predicate. -/
def HeadersSatisfy (format : Format α) (predicate : Nat → Prop)
    (items : List α) : Prop :=
  (∀ frame ∈ format.frames items, predicate frame.length) ∧
    ∀ size, format.announced (format.tail items) = some size →
      predicate size

instance (predicate : Nat → Prop) [DecidablePred predicate]
    (items : List α) : Decidable (format.HeadersSatisfy predicate items) :=
  inferInstanceAs (Decidable (_ ∧
    ∀ size ∈ format.announced (format.tail items), predicate size))

/-- The header at the front of a stream is one of its headers. -/
theorem HeadersSatisfy.first {predicate : Nat → Prop} {items : List α}
    (satisfied : format.HeadersSatisfy predicate items) {size : Nat}
    (announcement : format.announced items = some size) :
    predicate size := by
  obtain ⟨framesSatisfy, tailSatisfies⟩ := satisfied
  cases found : format.firstFrame items with
  | none =>
      apply tailSatisfies size
      have stays : format.tail items = items :=
        congrArg Prod.snd (greedySplit_none found)
      rw [stays]
      exact announcement
  | some other =>
      obtain ⟨announced, -, fits⟩ := firstFrame_eq_some.mp found
      obtain rfl : other = size := by
        rw [announced] at announcement
        exact Option.some.inj announcement
      have isFrame : items.take other ∈ format.frames items := by
        simp [frames, greedySplit_some found]
      have holds := framesSatisfy _ isFrame
      rwa [List.length_take_of_le fits] at holds

/-- The headers behind the frames of a prefix are among the headers of the
stream. -/
theorem HeadersSatisfy.behind {predicate : Nat → Prop}
    {first second : List α}
    (satisfied : format.HeadersSatisfy predicate (first ++ second)) :
    format.HeadersSatisfy predicate (format.tail first ++ second) := by
  constructor
  · intro frame member
    apply satisfied.1 frame
    rw [frames_append]
    exact List.mem_append_right _ member
  · rw [← tail_append]
    exact satisfied.2

/-- The headers of a prefix are among the headers of the stream. -/
theorem HeadersSatisfy.beginning {predicate : Nat → Prop}
    {first second : List α}
    (satisfied : format.HeadersSatisfy predicate (first ++ second)) :
    format.HeadersSatisfy predicate first := by
  constructor
  · intro frame member
    apply satisfied.1 frame
    rw [frames_append]
    exact List.mem_append_left _ member
  · intro size announcement
    apply satisfied.behind.first
    exact format.announced_append second announcement

/-- The headers behind the first frame are among the headers of the
stream. -/
theorem HeadersSatisfy.rest {predicate : Nat → Prop} {items : List α}
    (satisfied : format.HeadersSatisfy predicate items) {size : Nat}
    (complete : format.firstFrame items = some size) :
    format.HeadersSatisfy predicate (items.drop size) := by
  obtain ⟨framesSatisfy, tailSatisfies⟩ := satisfied
  simp only [frames, greedySplit_some complete] at framesSatisfy
  simp only [tail, greedySplit_some complete] at tailSatisfies
  constructor
  · intro frame member
    exact framesSatisfy frame (List.mem_cons_of_mem _ member)
  · exact tailSatisfies

/-- The headers of a stream are that of its first frame and those behind it. -/
theorem HeadersSatisfy.of_rest {predicate : Nat → Prop} {items : List α}
    {size : Nat} (complete : format.firstFrame items = some size)
    (first : predicate size)
    (satisfied : format.HeadersSatisfy predicate (items.drop size)) :
    format.HeadersSatisfy predicate items := by
  obtain ⟨-, -, fits⟩ := firstFrame_eq_some.mp complete
  obtain ⟨framesSatisfy, tailSatisfies⟩ := satisfied
  constructor
  · simp only [frames, greedySplit_some complete]
    intro frame member
    rcases List.mem_cons.mp member with rfl | later
    · rw [List.length_take_of_le fits]
      exact first
    · exact framesSatisfy frame later
  · simp only [tail, greedySplit_some complete]
    exact tailSatisfies

theorem HeadersSatisfy.imp {predicate weaker : Nat → Prop}
    {items : List α} (implies : ∀ size, predicate size → weaker size)
    (satisfied : format.HeadersSatisfy predicate items) :
    format.HeadersSatisfy weaker items :=
  ⟨fun frame member => implies _ (satisfied.1 frame member),
    fun size announcement => implies _ (satisfied.2 size announcement)⟩

/-- The format whose frames all have the same size, if any. -/
def fixed (size : Option Nat) : Format α where
  announced _ := size
  announced_append _ announcement := announcement

theorem fixed_frame_length {size : Nat} (items : List α) :
    ∀ frame ∈ (fixed (some size)).frames items, frame.length = size := by
  induction items using split_induction (fixed (some size)) with
  | stop items incomplete =>
      simp [frames, greedySplit_none incomplete]
  | frame items other complete ih =>
      obtain ⟨announcement, -, fits⟩ := firstFrame_eq_some.mp complete
      obtain rfl : size = other := Option.some.inj announcement
      intro frame member
      simp only [frames, greedySplit_some complete,
        List.mem_cons] at member
      rcases member with rfl | later
      · exact List.length_take_of_le fits
      · exact ih frame later

theorem fixed_tail_length {size : Nat} (positive : 0 < size)
    (items : List α) :
    ((fixed (some size)).tail items).length < size := by
  have incomplete :
      (fixed (some size)).firstFrame ((fixed (some size)).tail items) =
        none := firstFrame_tail items
  by_contra long
  have complete : (fixed (some size)).firstFrame
      ((fixed (some size)).tail items) = some size :=
    firstFrame_eq_some.mpr ⟨rfl, positive, Nat.le_of_not_lt long⟩
  rw [complete] at incomplete
  exact Option.some_ne_none _ incomplete

/-- Frames of one size leave the remainder of the stream. -/
theorem fixed_tail_eq {size : Nat} (positive : 0 < size) (items : List α) :
    (fixed (some size)).tail items =
      items.drop (items.length - items.length % size) := by
  induction items using split_induction (fixed (some size)) with
  | stop items incomplete =>
      have short : items.length < size := by
        by_contra long
        have complete : (fixed (some size)).firstFrame items = some size :=
          firstFrame_eq_some.mpr ⟨rfl, positive, Nat.le_of_not_lt long⟩
        rw [complete] at incomplete
        cases incomplete
      simp [tail, greedySplit_none incomplete, Nat.mod_eq_of_lt short]
  | frame items other complete ih =>
      obtain ⟨announcement, -, fits⟩ := firstFrame_eq_some.mp complete
      obtain rfl : size = other := Option.some.inj announcement
      have remainder := Nat.mod_eq_sub_mod fits
      have smaller := Nat.mod_lt (items.length - size) positive
      have less := Nat.mod_le (items.length - size) size
      have tailEq : (fixed (some size)).tail items =
          (fixed (some size)).tail (items.drop size) := by
        simp [tail, greedySplit_some complete]
      rw [tailEq, ih, List.drop_drop, List.length_drop, remainder]
      congr 1
      omega

theorem fixed_none (items : List α) :
    (fixed none).greedySplit items = ([], items) :=
  greedySplit_none rfl

theorem fixed_headersSatisfy {predicate : Nat → Prop} {size : Option Nat}
    (satisfied : ∀ length, size = some length → predicate length)
    (items : List α) : (fixed size).HeadersSatisfy predicate items := by
  cases size with
  | none =>
      constructor
      · simp [frames, fixed_none]
      · simp [fixed]
  | some size =>
      constructor
      · intro frame member
        rw [fixed_frame_length items frame member]
        exact satisfied size rfl
      · intro length announcement
        exact satisfied length announcement

end Format

/-! ### Packets completed by a prefix of their stream -/

/-- The packets completed by the first `count` items of their
concatenation. -/
def completed : List (List α) → Nat → List (List α)
  | [], _ => []
  | packet :: packets, count =>
      if packet.length ≤ count then
        packet :: completed packets (count - packet.length)
      else []

/-- The packets not yet completed. -/
def pending : List (List α) → Nat → List (List α)
  | [], _ => []
  | packet :: packets, count =>
      if packet.length ≤ count then
        pending packets (count - packet.length)
      else packet :: packets

/-- The received part of the packet that is still incomplete. -/
def unfinished : List (List α) → Nat → List α
  | [], _ => []
  | packet :: packets, count =>
      if packet.length ≤ count then
        unfinished packets (count - packet.length)
      else packet.take count

theorem completed_append_pending (packets : List (List α)) (count : Nat) :
    completed packets count ++ pending packets count = packets := by
  induction packets generalizing count with
  | nil => rfl
  | cons packet packets ih =>
      by_cases fits : packet.length ≤ count
      · simp [completed, pending, fits, ih]
      · simp [completed, pending, fits]

/-- Completed packets and the unfinished part make up what was received. -/
theorem completed_flatten_append_unfinished (packets : List (List α))
    (count : Nat) :
    (completed packets count).flatten ++ unfinished packets count =
      packets.flatten.take count := by
  induction packets generalizing count with
  | nil => simp [completed, unfinished]
  | cons packet packets ih =>
      by_cases fits : packet.length ≤ count
      · simp only [completed, unfinished, fits, if_true, List.flatten_cons,
          List.append_assoc, ih, List.take_append,
          List.take_of_length_le fits]
      · simp [completed, unfinished, fits, List.take_append,
          Nat.sub_eq_zero_of_le (Nat.le_of_not_le fits)]

theorem completed_prefix (packets : List (List α)) (count : Nat) :
    completed packets count <+: packets :=
  ⟨_, completed_append_pending packets count⟩

/-- All items together complete all packets. -/
theorem completed_all (packets : List (List α)) :
    completed packets packets.flatten.length = packets := by
  induction packets with
  | nil => rfl
  | cons packet packets ih =>
      simp only [completed, List.flatten_cons, List.length_append,
        Nat.le_add_right, if_true, Nat.add_sub_cancel_left, ih]

/-- If the first packet is not completed, no packet is, and what has arrived
is shorter than the first packet; otherwise it is the first one completed. -/
theorem completed_cons_cases (packet : List α) (packets : List (List α))
    (count : Nat) :
    (completed (packet :: packets) count = [] ∧
        (unfinished (packet :: packets) count).length < packet.length) ∨
      packet ∈ completed (packet :: packets) count := by
  by_cases fits : packet.length ≤ count
  · right
    simp [completed, fits]
  · left
    simp only [completed, unfinished, fits, if_false, List.length_take,
      true_and]
    omega

/-- The packets that `count` more items complete. -/
def newlyCompleted (packets : List (List α)) (before count : Nat) :
    List (List α) :=
  completed (pending packets before)
    ((unfinished packets before).length + count)

/-- Receiving in two pieces completes first what the first piece completes,
then what the second adds to the unfinished part. -/
theorem completed_add (packets : List (List α)) (first second : Nat)
    (within : first ≤ packets.flatten.length) :
    completed packets (first + second) =
      completed packets first ++ newlyCompleted packets first second := by
  unfold newlyCompleted
  induction packets generalizing first with
  | nil => simp [completed, pending]
  | cons packet packets ih =>
      by_cases fits : packet.length ≤ first
      · have total : packet.length ≤ first + second := by omega
        have rest : first + second - packet.length =
            first - packet.length + second := by omega
        have restWithin : first - packet.length ≤ packets.flatten.length := by
          simp only [List.flatten_cons, List.length_append] at within
          omega
        simp [completed, pending, unfinished, fits, total, rest,
          ih _ restWithin]
      · have received : min first packet.length = first := by omega
        simp [completed, pending, unfinished, fits, received]

theorem unfinished_add (packets : List (List α)) (first second : Nat)
    (within : first ≤ packets.flatten.length) :
    unfinished packets (first + second) =
      unfinished (pending packets first)
        ((unfinished packets first).length + second) := by
  induction packets generalizing first with
  | nil => simp [pending, unfinished]
  | cons packet packets ih =>
      by_cases fits : packet.length ≤ first
      · have total : packet.length ≤ first + second := by omega
        have rest : first + second - packet.length =
            first - packet.length + second := by omega
        have restWithin : first - packet.length ≤ packets.flatten.length := by
          simp only [List.flatten_cons, List.length_append] at within
          omega
        simp [pending, unfinished, fits, total, rest, ih _ restWithin]
      · have received : min first packet.length = first := by omega
        simp [pending, unfinished, fits, received]

/-- The packets not yet completed begin with the unfinished part. -/
theorem pending_flatten (packets : List (List α)) (count : Nat) :
    (pending packets count).flatten =
      unfinished packets count ++ packets.flatten.drop count := by
  have whole : (completed packets count).flatten ++
      (pending packets count).flatten =
        (completed packets count).flatten ++
          (unfinished packets count ++ packets.flatten.drop count) := by
    rw [← List.flatten_append, completed_append_pending,
      ← List.append_assoc, completed_flatten_append_unfinished,
      List.take_append_drop]
  exact List.append_cancel_left whole

/-- Two ways of cutting a list into pieces of one size and a shorter rest are
the same. -/
theorem equalPieces_unique {size : Nat} {first second : List (List α)}
    {firstRest secondRest : List α}
    (firstSizes : ∀ piece ∈ first, piece.length = size)
    (secondSizes : ∀ piece ∈ second, piece.length = size)
    (firstShort : firstRest.length < size)
    (secondShort : secondRest.length < size)
    (same : first.flatten ++ firstRest = second.flatten ++ secondRest) :
    first = second ∧ firstRest = secondRest := by
  induction first generalizing second with
  | nil =>
      cases second with
      | nil => exact ⟨rfl, by simpa using same⟩
      | cons piece second =>
          have pieceSize := secondSizes piece (by simp)
          have lengths := congrArg List.length same
          simp only [List.flatten_nil, List.flatten_cons, List.nil_append,
            List.length_append] at lengths
          omega
  | cons piece first ih =>
      have pieceSize := firstSizes piece (by simp)
      cases second with
      | nil =>
          have lengths := congrArg List.length same
          simp only [List.flatten_nil, List.flatten_cons, List.nil_append,
            List.length_append] at lengths
          omega
      | cons other second =>
          have otherSize := secondSizes other (by simp)
          simp only [List.flatten_cons, List.append_assoc] at same
          obtain ⟨pieceEq, same⟩ :=
            List.append_inj same (by rw [pieceSize, otherSize])
          obtain ⟨piecesEq, restEq⟩ := ih
            (fun piece member => firstSizes piece (by simp [member]))
            (fun piece member => secondSizes piece (by simp [member])) same
          exact ⟨by rw [pieceEq, piecesEq], restEq⟩

end Framing

end EchoServer
