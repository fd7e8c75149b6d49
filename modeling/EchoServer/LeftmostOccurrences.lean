import Mathlib.Data.List.Basic
import Mathlib.Data.Nat.Find
import Mathlib.Tactic.Common

/-!
# The leftmost occurrences of a pattern

A text is scanned from left to right for the occurrences of a nonempty pattern
that do not overlap: the first occurrence is found, and the scan goes on with
what is behind it.  The text falls into the gaps between the occurrences.
Replacing all occurrences and splitting at all, or at the first few, of them
are read off the gaps.
-/

namespace EchoServer

namespace LeftmostOccurrences

section Overlap

variable {α : Type*} {pattern front text : List α}

/-- No occurrence in the two texts together begins in the first. -/
def NoneBegins (pattern front text : List α) : Prop :=
  ∀ before rest, front ++ text = before ++ pattern ++ rest →
    front.length ≤ before.length

/-- Only the empty text and the whole pattern are both in front and at the end
of it. -/
def Unbordered (pattern : List α) : Prop :=
  ∀ border, border <+: pattern → border <:+ pattern →
    border = [] ∨ border = pattern

/-- No occurrence of an unbordered pattern begins in the rest of another. -/
theorem Unbordered.noneBegins (unbordered : Unbordered pattern)
    (proper : front <:+ pattern) (shorter : front.length < pattern.length)
    (text : List α) : NoneBegins pattern front text := by
  intro before rest split
  by_contra begins
  have inFront : before <+: front := by
    apply List.prefix_of_prefix_length_le _ (List.prefix_append front text)
    · omega
    · rw [split, List.append_assoc]
      exact List.prefix_append _ _
  obtain ⟨overlap, rfl⟩ := inFront
  rw [List.append_assoc, List.append_assoc, List.append_cancel_left_eq]
    at split
  have starts : overlap <+: pattern := by
    apply List.prefix_of_prefix_length_le (List.prefix_append overlap text)
    · rw [split]
      exact List.prefix_append _ _
    · rw [List.length_append] at shorter
      omega
  have ends : overlap <:+ pattern :=
    (List.suffix_append before overlap).trans proper
  rw [List.length_append] at shorter begins
  rcases unbordered overlap starts ends with empty | whole
  · rw [empty] at begins
    simp at begins
  · rw [whole] at shorter
    omega

end Overlap

variable {α : Type*} [BEq α] [LawfulBEq α]

/-- The text in front of an occurrence and the text behind it are those of the
first one if and only if no occurrence is further left. -/
theorem dropInfix?_eq_some {text pattern gap behind : List α} :
    text.dropInfix? pattern = some (gap, behind) ↔
      text = gap ++ pattern ++ behind ∧
        ∀ front rest, text = front ++ pattern ++ rest →
          gap.length ≤ front.length := by
  rw [List.dropInfix?_eq_some_iff]
  constructor
  · rintro ⟨⟨found, split, same⟩, first⟩
    obtain rfl := eq_of_beq same
    exact ⟨split, fun front rest other => first front _ rest other same⟩
  · rintro ⟨split, first⟩
    refine ⟨⟨pattern, split, BEq.rfl⟩, ?_⟩
    intro front found rest other same
    obtain rfl := eq_of_beq same
    exact first front rest other

/-- Wherever the pattern occurs, there is a first occurrence. -/
theorem exists_dropInfix? {text pattern : List α}
    (occurs : pattern <:+: text) :
    ∃ gap behind, text.dropInfix? pattern = some (gap, behind) := by
  classical
  have somewhere : ∃ place front rest,
      text = front ++ pattern ++ rest ∧ front.length = place := by
    obtain ⟨front, rest, split⟩ := occurs
    exact ⟨front.length, front, rest, split.symm, rfl⟩
  obtain ⟨gap, behind, split, place⟩ := Nat.find_spec somewhere
  refine ⟨gap, behind, dropInfix?_eq_some.mpr ⟨split, ?_⟩⟩
  intro front rest other
  rw [place]
  exact Nat.find_min' somewhere ⟨front, rest, other, rfl⟩

theorem dropInfix?_eq_none {text pattern : List α} :
    text.dropInfix? pattern = none ↔ ¬ pattern <:+: text := by
  constructor
  · intro nowhere occurs
    obtain ⟨gap, behind, found⟩ := exists_dropInfix? occurs
    rw [nowhere] at found
    cases found
  · intro absent
    cases found : text.dropInfix? pattern with
    | none => rfl
    | some cut =>
        obtain ⟨split, -⟩ := dropInfix?_eq_some.mp found
        exact absurd ⟨cut.1, cut.2, split.symm⟩ absent

/-- The pattern does not occur in front of its first occurrence. -/
theorem not_infix_of_dropInfix? {text pattern gap behind : List α}
    (nonempty : pattern ≠ [])
    (found : text.dropInfix? pattern = some (gap, behind)) :
    ¬ pattern <:+: gap := by
  obtain ⟨split, first⟩ := dropInfix?_eq_some.mp found
  rintro ⟨front, rest, inside⟩
  have further := first front (rest ++ pattern ++ behind)
    (by rw [split, ← inside]; simp)
  have positive := List.length_pos_of_ne_nil nonempty
  rw [← inside] at further
  simp only [List.length_append] at further
  omega

theorem length_of_dropInfix? {text pattern gap behind : List α}
    (found : text.dropInfix? pattern = some (gap, behind)) :
    text.length = gap.length + pattern.length + behind.length := by
  rw [(dropInfix?_eq_some.mp found).1, List.length_append,
    List.length_append]

section Scan

variable {pattern : List α}

/-- Induction along the scan: the text without an occurrence, and the text
behind the first one. -/
theorem scan_induction (nonempty : pattern ≠ [])
    {motive : List α → Prop}
    (last : ∀ text, text.dropInfix? pattern = none → motive text)
    (cut : ∀ text gap behind,
      text.dropInfix? pattern = some (gap, behind) → motive behind →
        motive text)
    (text : List α) : motive text := by
  induction size : text.length using Nat.strongRecOn generalizing text with
  | ind size ih =>
      cases found : text.dropInfix? pattern with
      | none => exact last text found
      | some both =>
          have length := length_of_dropInfix? found
          have positive := List.length_pos_of_ne_nil nonempty
          exact cut text both.1 both.2 found
            (ih both.2.length (by omega) both.2 rfl)

end Scan

/-- The texts between the occurrences: in front of the first, between each and
the next, and behind the last. -/
def gaps {α : Type*} [BEq α] [LawfulBEq α] (pattern text : List α) :
    List (List α) :=
  match _ : text.dropInfix? pattern with
  | none => [text]
  | some (gap, behind) =>
      if pattern = [] then [text] else gap :: gaps pattern behind
termination_by text.length
decreasing_by
  have length := length_of_dropInfix? ‹text.dropInfix? pattern = _›
  have positive := List.length_pos_of_ne_nil ‹pattern ≠ []›
  omega

/-- The texts behind the occurrences. -/
def behinds {α : Type*} [BEq α] [LawfulBEq α] (pattern text : List α) :
    List (List α) :=
  match _ : text.dropInfix? pattern with
  | none => []
  | some (_, behind) =>
      if pattern = [] then [] else behind :: behinds pattern behind
termination_by text.length
decreasing_by
  have length := length_of_dropInfix? ‹text.dropInfix? pattern = _›
  have positive := List.length_pos_of_ne_nil ‹pattern ≠ []›
  omega

/-- All leftmost occurrences replaced. -/
def replaceAll (pattern substitute text : List α) : List α :=
  substitute.intercalate (gaps pattern text)

section Scan

variable {pattern text gap behind : List α}

theorem gaps_last (last : text.dropInfix? pattern = none) :
    gaps pattern text = [text] := by
  rw [gaps]
  split
  · rfl
  · next found => exact absurd (last.symm.trans found) (by simp)

theorem gaps_cut (nonempty : pattern ≠ [])
    (cut : text.dropInfix? pattern = some (gap, behind)) :
    gaps pattern text = gap :: gaps pattern behind := by
  rw [gaps]
  split
  · next last => exact absurd (last.symm.trans cut) (by simp)
  · next found =>
      obtain ⟨rfl, rfl⟩ : _ = gap ∧ _ = behind := by
        simpa using found.symm.trans cut
      rw [if_neg nonempty]

theorem behinds_last (last : text.dropInfix? pattern = none) :
    behinds pattern text = [] := by
  rw [behinds]
  split
  · rfl
  · next found => exact absurd (last.symm.trans found) (by simp)

theorem behinds_cut (nonempty : pattern ≠ [])
    (cut : text.dropInfix? pattern = some (gap, behind)) :
    behinds pattern text = behind :: behinds pattern behind := by
  rw [behinds]
  split
  · next last => exact absurd (last.symm.trans cut) (by simp)
  · next found =>
      obtain ⟨-, rfl⟩ : _ = gap ∧ _ = behind := by
        simpa using found.symm.trans cut
      rw [if_neg nonempty]

theorem gaps_ne_nil (pattern text : List α) : gaps pattern text ≠ [] := by
  rw [gaps]
  split
  · simp
  · split_ifs <;> simp

theorem replaceAll_last (substitute : List α)
    (last : text.dropInfix? pattern = none) :
    replaceAll pattern substitute text = text := by
  rw [replaceAll, gaps_last last, List.intercalate_singleton]

theorem replaceAll_cut (nonempty : pattern ≠ []) (substitute : List α)
    (cut : text.dropInfix? pattern = some (gap, behind)) :
    replaceAll pattern substitute text =
      gap ++ substitute ++ replaceAll pattern substitute behind := by
  rw [replaceAll, gaps_cut nonempty cut,
    List.intercalate_cons_of_ne_nil (gaps_ne_nil pattern behind), replaceAll]

/-- The pattern between the gaps gives the text back. -/
theorem replaceAll_self (nonempty : pattern ≠ []) (text : List α) :
    replaceAll pattern pattern text = text := by
  induction text using scan_induction nonempty with
  | last text last => exact replaceAll_last pattern last
  | cut text gap behind cut ih =>
      rw [replaceAll_cut nonempty pattern cut, ih]
      exact (dropInfix?_eq_some.mp cut).1.symm

theorem replaceAll_length (nonempty : pattern ≠ []) (substitute : List α)
    (text : List α) :
    (replaceAll pattern substitute text).length +
        (behinds pattern text).length * pattern.length =
      text.length + (behinds pattern text).length * substitute.length := by
  induction text using scan_induction nonempty with
  | last text last =>
      rw [replaceAll_last substitute last, behinds_last last,
        List.length_nil, Nat.zero_mul, Nat.zero_mul]
  | cut text gap behind cut ih =>
      have length := length_of_dropInfix? cut
      rw [replaceAll_cut nonempty substitute cut, behinds_cut nonempty cut]
      simp only [List.length_append, List.length_cons, Nat.succ_mul]
      omega

end Scan

section Suffix

variable {pattern front text : List α}

/-- The first occurrence is then that in the second text. -/
theorem NoneBegins.dropInfix? (none : NoneBegins pattern front text) :
    (front ++ text).dropInfix? pattern =
      (text.dropInfix? pattern).map fun cut => (front ++ cut.1, cut.2) := by
  cases found : text.dropInfix? pattern with
  | none =>
      rw [Option.map_none, dropInfix?_eq_none]
      rintro ⟨before, rest, split⟩
      obtain ⟨between, rfl⟩ : front <+: before := by
        apply List.prefix_of_prefix_length_le (List.prefix_append front text)
        · rw [← split, List.append_assoc]
          exact List.prefix_append _ _
        · exact none before rest split.symm
      apply dropInfix?_eq_none.mp found
      refine ⟨between, rest, (List.append_right_inj front).mp ?_⟩
      rw [← split]
      simp only [List.append_assoc]
  | some cut =>
      obtain ⟨split, first⟩ := dropInfix?_eq_some.mp found
      rw [Option.map_some, dropInfix?_eq_some]
      refine ⟨by rw [split]; simp only [List.append_assoc], ?_⟩
      intro before rest other
      obtain ⟨between, rfl⟩ : front <+: before := by
        apply List.prefix_of_prefix_length_le (List.prefix_append front text)
        · rw [other, List.append_assoc]
          exact List.prefix_append _ _
        · exact none before rest other
      have further := first between rest
        ((List.append_right_inj front).mp
          (by rw [other]; simp only [List.append_assoc]))
      simp only [List.length_append]
      omega

theorem NoneBegins.behinds (nonempty : pattern ≠ [])
    (none : NoneBegins pattern front text) :
    behinds pattern (front ++ text) = behinds pattern text := by
  have found := none.dropInfix?
  cases cut : text.dropInfix? pattern with
  | none =>
      rw [cut, Option.map_none] at found
      rw [behinds_last found, behinds_last cut]
  | some both =>
      rw [cut, Option.map_some] at found
      rw [behinds_cut nonempty found, behinds_cut nonempty cut]

/-- The end of a text has no more leftmost occurrences than the text. -/
theorem behinds_suffix_le (nonempty : pattern ≠ []) (text : List α) :
    ∀ rest, rest <:+ text →
      (behinds pattern rest).length ≤ (behinds pattern text).length := by
  induction text using scan_induction nonempty with
  | last text last =>
      rintro rest ends
      have absent : rest.dropInfix? pattern = none := by
        rw [dropInfix?_eq_none] at last ⊢
        exact fun occurs => last (occurs.trans ends.isInfix)
      rw [behinds_last absent]
      exact Nat.zero_le _
  | cut text gap behind cut ih =>
      intro rest ends
      rw [behinds_cut nonempty cut]
      cases found : rest.dropInfix? pattern with
      | none =>
          rw [behinds_last found]
          exact Nat.zero_le _
      | some both =>
          obtain ⟨split, first⟩ := dropInfix?_eq_some.mp cut
          obtain ⟨splitRest, -⟩ := dropInfix?_eq_some.mp found
          rw [behinds_cut nonempty found, List.length_cons, List.length_cons]
          apply Nat.succ_le_succ
          apply ih
          -- What is found at the end is not in front of what is found first.
          obtain ⟨before, rfl⟩ := ends
          have further := first (before ++ both.1) both.2
            (by rw [splitRest]; simp only [List.append_assoc])
          have lengths := congrArg List.length split
          rw [splitRest] at lengths
          simp only [List.length_append] at lengths further
          have atEnd : both.2 <:+ before ++ rest := by
            rw [splitRest, ← List.append_assoc]
            exact List.suffix_append _ _
          have behindAtEnd : behind <:+ before ++ rest := by
            rw [split]
            exact List.suffix_append _ _
          exact List.suffix_of_suffix_length_le atEnd behindAtEnd (by omega)

/-- If an occurrence of an unbordered pattern begins in what is cut off, which
is no longer than the pattern, there are fewer leftmost ones left. -/
theorem Unbordered.behinds_drop_lt (unbordered : Unbordered pattern)
    (nonempty : pattern ≠ []) {count : Nat} (le : count ≤ pattern.length)
    (begins : ¬ NoneBegins pattern (text.take count) (text.drop count)) :
    (behinds pattern (text.drop count)).length <
      (behinds pattern text).length := by
  simp only [NoneBegins, List.take_append_drop, not_forall, not_le]
    at begins
  obtain ⟨before, rest, split, inside⟩ := begins
  obtain ⟨gap, behind, cut⟩ :=
    exists_dropInfix? ⟨before, rest, split.symm⟩
  obtain ⟨splitFirst, first⟩ := dropInfix?_eq_some.mp cut
  have further := first before rest split
  rw [List.length_take] at inside
  -- The rest of the first occurrence is what is left of it.
  have left : text.drop count =
      pattern.drop (count - gap.length) ++ behind := by
    rw [splitFirst, List.append_assoc, List.drop_append,
      List.drop_eq_nil_of_le (by omega), List.nil_append,
      List.drop_append_of_le_length (by omega)]
  have none : NoneBegins pattern (pattern.drop (count - gap.length))
      behind := by
    apply unbordered.noneBegins (List.drop_suffix _ _)
    have positive := List.length_pos_of_ne_nil nonempty
    rw [List.length_drop]
    omega
  rw [left, none.behinds nonempty, behinds_cut nonempty cut]
  exact Nat.lt_succ_self _

end Suffix

end LeftmostOccurrences

end EchoServer
