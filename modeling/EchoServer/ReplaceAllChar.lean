import EchoServer.StringUtils
import Mathlib.Tactic.LinearCombination

/-!
# Replacing every occurrence of a text

`replaceAllChar` replaces an occurrence in place and looks for the next one
from `index + from.length()` on, although the text that it has put in ends at
`index + to.length()`.  So it may find an occurrence that begins in the text
put in, or miss one that begins right behind it; and if what it finds lies
completely in the text put in, it goes on forever.
-/

namespace EchoServer

open FuelledLoop LeftmostOccurrences

/-- The variables of the loop in `replaceAllChar`. -/
structure Replacing where
  str : Bytes
  index : Option Nat
  deriving DecidableEq

/-- One pass of the loop. -/
def replacePass (fromText toText : Bytes) (replacing : Replacing) :
    Pass Replacing :=
  match replacing.index with
  | none => .leave replacing
  | some index =>
      let str := replacing.str.take index ++ toText ++
        replacing.str.drop (index + fromText.length)
      .again { str, index := find str fromText (index + fromText.length) }

/-- The variables in front of the loop. -/
def Replacing.start (str fromText : Bytes) : Replacing where
  str := str
  index := find str fromText 0

/-- `replaceAllChar`: what becomes of the string.  A loop that ends takes at
most one pass more than there are characters. -/
def replaceAllChar (str fromText toText : Bytes) : Except StringFault Bytes :=
  if fromText = toText then .ok str
  else if str = [] then .ok str
  else
    match runLoop (replacePass fromText toText) (str.length + 1)
      (.start str fromText) with
    | none => .error .endless
    | some replacing => .ok replacing.str

/-- The loop of `replaceAllChar`, if it is entered, ends after finitely many
passes. -/
def ReplaceEnds (str fromText toText : Bytes) : Prop :=
  fromText ≠ toText → str ≠ [] →
    Leaves (replacePass fromText toText) (.start str fromText)

section Passes

variable {fromText toText : Bytes}

/-- The loop has found an occurrence. -/
def Replacing.found (fromText front behind : Bytes) : Replacing where
  str := front ++ fromText ++ behind
  index := some front.length

theorem replacePass_found (front behind : Bytes) :
    replacePass fromText toText (.found fromText front behind) =
      .again
        { str := front ++ (toText ++ behind)
          index := (find (toText ++ behind) fromText fromText.length).map
            (front.length + ·) } := by
  have kept : (front ++ fromText ++ behind).take front.length = front := by
    rw [List.append_assoc, List.take_left]
  have rest : (front ++ fromText ++ behind).drop
      (front.length + fromText.length) = behind := by
    rw [← List.length_append, List.drop_left]
  have whole : front ++ toText ++ behind = front ++ (toText ++ behind) :=
    List.append_assoc ..
  simp only [replacePass, Replacing.found, kept, rest, whole, find_append]

/-- The loop looks for the first occurrence behind some text. -/
def Replacing.scanning (fromText front text : Bytes) : Replacing where
  str := front ++ text
  index := find (front ++ text) fromText front.length

theorem scanning_cut (front : Bytes) {text gap behind : Bytes}
    (cut : text.dropInfix? fromText = some (gap, behind)) :
    Replacing.scanning fromText front text =
      .found fromText (front ++ gap) behind := by
  have split := (dropInfix?_eq_some.mp cut).1
  rw [Replacing.scanning, Replacing.found, find_front, cut,
    Option.map_some, List.length_append]
  simp only [split, List.append_assoc]

theorem scanning_last (front : Bytes) {text : Bytes}
    (last : text.dropInfix? fromText = none) :
    Replacing.scanning fromText front text =
      { str := front ++ text, index := none } := by
  rw [Replacing.scanning, find_front, last, Option.map_none]

theorem start_eq (str fromText : Bytes) :
    Replacing.start str fromText = .scanning fromText [] str :=
  rfl

theorem replacePass_none (str : Bytes) :
    replacePass fromText toText { str, index := none } =
      .leave { str, index := none } :=
  rfl

/-- A pass that finds another occurrence behind the one it replaces. -/
theorem replacePass_again (front behind : Bytes) {place : Nat}
    (found : find (toText ++ behind) fromText fromText.length = some place) :
    ∃ between rest,
      replacePass fromText toText (.found fromText front behind) =
          .again (.found fromText (front ++ between) rest) ∧
        toText ++ behind = between ++ fromText ++ rest ∧
        fromText.length ≤ between.length := by
  obtain ⟨between, rest, split, rfl, notBefore⟩ := find_eq_some found
  refine ⟨between, rest, ?_, split, notBefore⟩
  rw [replacePass_found, found, Replacing.found]
  simp only [split, Option.map_some, List.append_assoc, List.length_append]

/-- A pass that finds no other occurrence. -/
theorem replacePass_last (front behind : Bytes)
    (found : find (toText ++ behind) fromText fromText.length = none) :
    replacePass fromText toText (.found fromText front behind) =
      .again { str := front ++ (toText ++ behind), index := none } := by
  rw [replacePass_found, found, Option.map_none]

/-! ### Whether the loop ends -/

/-- If the text put in holds an occurrence where the loop goes on, there is
always another one. -/
theorem found_of_inside (inside : fromText <:+: toText.drop fromText.length)
    (behind : Bytes) :
    ∃ place, find (toText ++ behind) fromText fromText.length = some place := by
  have short : fromText.length ≤ toText.length := by
    have length := inside.length_le
    rw [List.length_drop] at length
    omega
  have shortBehind : fromText.length ≤ (toText ++ behind).length := by
    rw [List.length_append]
    omega
  rw [← Option.ne_none_iff_exists', Ne, find_eq_none_iff shortBehind,
    not_not, List.drop_append_of_le_length short]
  exact inside.trans (List.prefix_append _ _).isInfix

theorem not_leaves_of_inside
    (inside : fromText <:+: toText.drop fromText.length)
    (front behind : Bytes) :
    ¬ Leaves (replacePass fromText toText) (.found fromText front behind) := by
  rintro ⟨fuel, final, ran⟩
  induction fuel generalizing front behind with
  | zero => cases ran
  | succ fuel ih =>
      obtain ⟨place, found⟩ := found_of_inside inside behind
      obtain ⟨between, rest, passed, -, -⟩ :=
        replacePass_again front behind found
      rw [runLoop_again fuel passed] at ran
      exact ih _ _ ran

/-- Otherwise every occurrence that is found reaches further right. -/
theorem rest_shorter (outside : ¬ fromText <:+: toText.drop fromText.length)
    {behind between rest : Bytes}
    (split : toText ++ behind = between ++ fromText ++ rest)
    (notBefore : fromText.length ≤ between.length) :
    rest.length < behind.length := by
  by_contra notShorter
  apply outside
  have lengths := congrArg List.length split
  simp only [List.length_append] at lengths
  -- The occurrence would lie in the text put in.
  have inside : between ++ fromText <+: toText := by
    apply List.prefix_of_prefix_length_le _ (List.prefix_append toText behind)
    · rw [List.length_append]
      omega
    · rw [split]
      exact List.prefix_append _ _
  obtain ⟨more, rfl⟩ := inside
  rw [List.append_assoc, List.drop_append_of_le_length notBefore]
  exact ⟨between.drop fromText.length, more, by rw [List.append_assoc]⟩

theorem ran_of_outside (outside : ¬ fromText <:+: toText.drop fromText.length)
    (front behind : Bytes) {fuel : Nat} (enough : behind.length + 2 ≤ fuel) :
    ∃ final, runLoop (replacePass fromText toText) fuel
      (.found fromText front behind) = some final := by
  induction fuel generalizing front behind with
  | zero => omega
  | succ fuel ih =>
      cases found : find (toText ++ behind) fromText fromText.length with
      | none =>
          obtain ⟨fuel, rfl⟩ : ∃ more, fuel = more + 1 :=
            ⟨fuel - 1, by omega⟩
          rw [runLoop_again _ (replacePass_last front behind found),
            runLoop_leave _ (replacePass_none _)]
          exact ⟨_, rfl⟩
      | some place =>
          obtain ⟨between, rest, passed, split, notBefore⟩ :=
            replacePass_again front behind found
          have shorter := rest_shorter outside split notBefore
          rw [runLoop_again fuel passed]
          exact ih _ _ (by omega)

/-- Whether the loop ends, and that the passes counted in `replaceAllChar`
decide it. -/
theorem replace_leaves (str : Bytes) :
    (Leaves (replacePass fromText toText) (.start str fromText) ↔
        ¬ fromText <:+: str ∨ ¬ fromText <:+: toText.drop fromText.length) ∧
      (Leaves (replacePass fromText toText) (.start str fromText) →
        ∃ final, runLoop (replacePass fromText toText) (str.length + 1)
          (.start str fromText) = some final) := by
  cases cut : str.dropInfix? fromText with
  | none =>
      have ran : runLoop (replacePass fromText toText) (str.length + 1)
          (.start str fromText) = some { str, index := none } := by
        rw [start_eq, scanning_last [] cut,
          runLoop_leave _ (replacePass_none _), List.nil_append]
      have absent := dropInfix?_eq_none.mp cut
      exact ⟨iff_of_true ⟨_, _, ran⟩ (.inl absent), fun _ => ⟨_, ran⟩⟩
  | some both =>
      have occurs : fromText <:+: str :=
        ⟨_, _, (dropInfix?_eq_some.mp cut).1.symm⟩
      rw [start_eq, scanning_cut [] cut, List.nil_append]
      by_cases inside : fromText <:+: toText.drop fromText.length
      · have endless := not_leaves_of_inside inside both.1 both.2
        refine ⟨iff_of_false endless ?_, fun leaves => absurd leaves endless⟩
        rintro (absent | outside)
        · exact absent occurs
        · exact outside inside
      · have positive : 0 < fromText.length := by
          rw [List.length_pos_iff]
          rintro rfl
          exact inside (List.nil_infix)
        have length := length_of_dropInfix? cut
        have ran := ran_of_outside inside both.1 both.2
          (show both.2.length + 2 ≤ str.length + 1 by omega)
        obtain ⟨final, ran⟩ := ran
        exact ⟨iff_of_true ⟨_, _, ran⟩ (.inr inside), fun _ => ⟨_, ran⟩⟩

theorem replaceAllChar_returns_iff (str : Bytes) :
    (∃ result, replaceAllChar str fromText toText = .ok result) ↔
      ReplaceEnds str fromText toText := by
  unfold replaceAllChar ReplaceEnds
  by_cases same : fromText = toText
  · simp [same]
  by_cases empty : str = []
  · simp [same, empty]
  rw [if_neg same, if_neg empty, forall_prop_of_true same,
    forall_prop_of_true empty]
  constructor
  · rintro ⟨result, returned⟩
    cases ran : runLoop (replacePass fromText toText) (str.length + 1)
        (.start str fromText) with
    | none =>
        rw [ran] at returned
        cases returned
    | some final => exact ⟨_, _, ran⟩
  · intro leaves
    obtain ⟨final, ran⟩ := (replace_leaves str).2 leaves
    rw [ran]
    exact ⟨_, rfl⟩

/-! ### Whether the right occurrences are replaced -/

/-- Behind every leftmost occurrence, the first one from `from.length()` on is
the first one behind the text put in. -/
def SearchesAgree (str fromText toText : Bytes) : Prop :=
  ∀ behind ∈ behinds fromText str,
    find (toText ++ behind) fromText fromText.length =
      find (toText ++ behind) fromText toText.length

/-- Every pass goes on with the first occurrence behind the text that it has
put in. -/
def GoesOnBehind (fromText toText : Bytes) (start : Replacing) : Prop :=
  ∀ reached place next, Reaches (replacePass fromText toText) start reached →
    reached.index = some place →
      replacePass fromText toText reached = .again next →
        next.index = find next.str fromText (place + toText.length)

/-- A pass that looks in the right place. -/
theorem replacePass_scanning {behind : Bytes}
    (agree : find (toText ++ behind) fromText fromText.length =
      find (toText ++ behind) fromText toText.length) (front : Bytes) :
    replacePass fromText toText (.found fromText front behind) =
      .again (.scanning fromText (front ++ toText) behind) := by
  rw [replacePass_found, agree, ← find_append, Replacing.scanning,
    List.length_append, List.append_assoc]

/-- A pass looks in the right place if and only if the two searches agree. -/
theorem replacePass_goesOn_iff (fromText toText front behind : Bytes) :
    (∀ next, replacePass fromText toText (.found fromText front behind) =
          .again next →
        next.index =
          find next.str fromText (front.length + toText.length)) ↔
      find (toText ++ behind) fromText fromText.length =
        find (toText ++ behind) fromText toText.length := by
  rw [replacePass_found]
  simp only [Pass.again.injEq, forall_eq', find_append]
  apply (Option.map_injective _).eq_iff
  exact fun _ _ same => Nat.add_left_cancel same

theorem runLoop_replacePass (nonempty : fromText ≠ []) (text : Bytes) :
    ∀ (front : Bytes) (fuel : Nat), SearchesAgree text fromText toText →
      text.length + 1 ≤ fuel →
        runLoop (replacePass fromText toText) fuel
            (.scanning fromText front text) =
          some
            { str := front ++ replaceAll fromText toText text
              index := none } := by
  induction text using scan_induction nonempty with
  | last text last =>
      intro front fuel agree enough
      obtain ⟨fuel, rfl⟩ : ∃ more, fuel = more + 1 := ⟨fuel - 1, by omega⟩
      rw [scanning_last front last, runLoop_leave _ (replacePass_none _),
        replaceAll_last toText last]
  | cut text gap behind cut ih =>
      intro front fuel agree enough
      have length := length_of_dropInfix? cut
      have positive := List.length_pos_of_ne_nil nonempty
      obtain ⟨fuel, rfl⟩ : ∃ more, fuel = more + 1 := ⟨fuel - 1, by omega⟩
      rw [SearchesAgree, behinds_cut nonempty cut, List.forall_mem_cons]
        at agree
      rw [scanning_cut front cut,
        runLoop_again fuel (replacePass_scanning agree.1 _),
        ih _ fuel agree.2 (by omega), replaceAll_cut nonempty toText cut]
      simp only [List.append_assoc]

/-- Where the loop goes round, its first pass and the ones after it. -/
theorem goesOnBehind_again {start next : Replacing} {place : Nat}
    (index : start.index = some place)
    (passed : replacePass fromText toText start = .again next) :
    GoesOnBehind fromText toText start ↔
      next.index = find next.str fromText (place + toText.length) ∧
        GoesOnBehind fromText toText next := by
  constructor
  · intro goesOn
    refine ⟨goesOn start place next .refl index passed, ?_⟩
    intro reached later after reaches
    exact goesOn reached later after (.head passed reaches)
  · rintro ⟨goesOn, goesOnNext⟩ reached later after reaches found went
    cases reaches.cases_head with
    | inl same =>
        subst same
        rw [index, Option.some.injEq] at found
        rw [passed, Pass.again.injEq] at went
        rw [← found, ← went]
        exact goesOn
    | inr further =>
        obtain ⟨other, otherPassed, reaches⟩ := further
        rw [passed, Pass.again.injEq] at otherPassed
        subst otherPassed
        exact goesOnNext reached later after reaches found went

theorem goesOnBehind_none (str : Bytes) :
    GoesOnBehind fromText toText { str, index := none } := by
  intro reached place next reaches found
  cases reaches.cases_head with
  | inl same =>
      subst same
      cases found
  | inr further =>
      obtain ⟨other, passed, -⟩ := further
      rw [replacePass_none] at passed
      cases passed

theorem goesOnBehind_iff (nonempty : fromText ≠ []) (text : Bytes) :
    ∀ front : Bytes,
      GoesOnBehind fromText toText (.scanning fromText front text) ↔
        SearchesAgree text fromText toText := by
  induction text using scan_induction nonempty with
  | last text last =>
      intro front
      rw [scanning_last front last, SearchesAgree, behinds_last last]
      exact iff_of_true (goesOnBehind_none _) (List.forall_mem_nil _)
  | cut text gap behind cut ih =>
      intro front
      have passes := replacePass_goesOn_iff fromText toText (front ++ gap)
        behind
      rw [scanning_cut front cut, SearchesAgree, behinds_cut nonempty cut,
        List.forall_mem_cons, ← SearchesAgree]
      constructor
      · intro goesOn
        have agree := passes.mp fun next passed =>
          goesOn _ _ next .refl rfl passed
        have passed := replacePass_scanning agree (front ++ gap)
        exact ⟨agree,
          (ih _).mp ((goesOnBehind_again rfl passed).mp goesOn).2⟩
      · rintro ⟨agree, agreeBehind⟩
        have passed := replacePass_scanning agree (front ++ gap)
        exact (goesOnBehind_again rfl passed).mpr
          ⟨passes.mpr agree _ passed, (ih _).mpr agreeBehind⟩

/-! ### How many occurrences are replaced -/

/-- A pass goes on with a scan behind `from.length()` characters. -/
theorem replacePass_resume (nonempty : fromText ≠ [])
    (front behind : Bytes) :
    replacePass fromText toText (.found fromText front behind) =
      .again
        (.scanning fromText
          (front ++ (toText ++ behind).take fromText.length)
          ((toText ++ behind).drop fromText.length)) := by
  have whole : front ++ (toText ++ behind).take fromText.length ++
      (toText ++ behind).drop fromText.length =
        front ++ (toText ++ behind) := by
    rw [List.append_assoc, List.take_append_drop]
  rw [replacePass_found, Replacing.scanning, find_front, whole,
    find_drop nonempty, Option.map_map]
  cases cut : ((toText ++ behind).drop fromText.length).dropInfix?
      fromText with
  | none => rfl
  | some both =>
      have length := length_of_dropInfix? cut
      have positive := List.length_pos_of_ne_nil nonempty
      rw [List.length_drop] at length
      have taken : ((toText ++ behind).take fromText.length).length =
          fromText.length := by
        rw [List.length_take]
        omega
      simp only [Option.map_some, Function.comp_apply, List.length_append,
        taken, Nat.add_assoc]

theorem searchesAgree_last {text : Bytes}
    (last : text.dropInfix? fromText = none) :
    SearchesAgree text fromText toText := by
  rw [SearchesAgree, behinds_last last]
  exact List.forall_mem_nil _

/-- Texts of the same length are looked for in the right places. -/
theorem searchesAgree_of_length_eq
    (same : fromText.length = toText.length) (text : Bytes) :
    SearchesAgree text fromText toText := by
  intro behind _
  rw [same]

/-- Where the text put in is not longer, a search that skips no occurrence. -/
theorem agree_shorter (nonempty : fromText ≠ [])
    (shorter : toText.length ≤ fromText.length) {behind : Bytes}
    (none : NoneBegins fromText
      (behind.take (fromText.length - toText.length))
      (behind.drop (fromText.length - toText.length))) :
    find (toText ++ behind) fromText fromText.length =
      find (toText ++ behind) fromText toText.length := by
  have first := none.dropInfix?
  have left : (toText ++ behind).drop fromText.length =
      behind.drop (fromText.length - toText.length) := by
    rw [List.drop_append, List.drop_eq_nil_of_le shorter, List.nil_append]
  rw [List.take_append_drop] at first
  rw [find_drop nonempty, find_drop nonempty, List.drop_left, first, left,
    Option.map_map]
  cases cut : (behind.drop (fromText.length - toText.length)).dropInfix?
      fromText with
  | none => rfl
  | some both =>
      have length := length_of_dropInfix? cut
      have positive := List.length_pos_of_ne_nil nonempty
      rw [List.length_drop] at length
      simp only [Option.map_some, Function.comp_apply, List.length_append,
        List.length_take, Option.some.injEq]
      omega

/-- Where it is not shorter, a search that finds no occurrence in it. -/
theorem agree_longer (nonempty : fromText ≠ [])
    (longer : fromText.length ≤ toText.length) {behind : Bytes}
    (none : NoneBegins fromText (toText.drop fromText.length) behind) :
    find (toText ++ behind) fromText fromText.length =
      find (toText ++ behind) fromText toText.length := by
  rw [find_drop nonempty, find_drop nonempty, List.drop_left,
    List.drop_append_of_le_length longer, none.dropInfix?, Option.map_map]
  congr 1
  funext cut
  simp only [Function.comp_apply, List.length_append, List.length_drop]
  omega

/-- The loop replaces no more than the leftmost occurrences if the text put in
is not longer, and fewer if it skips one. -/
theorem count_shorter (nonempty : fromText ≠ [])
    (unbordered : Unbordered fromText)
    (shorter : toText.length ≤ fromText.length) (fuel : Nat) :
    ∀ (front text : Bytes) (final : Replacing),
      runLoop (replacePass fromText toText) fuel
          (.scanning fromText front text) = some final →
        ∃ count, final.str.length + count * fromText.length =
            front.length + text.length + count * toText.length ∧
          count ≤ (behinds fromText text).length ∧
          (SearchesAgree text fromText toText ∨
            count < (behinds fromText text).length) := by
  induction fuel with
  | zero =>
      intro front text final ran
      cases ran
  | succ fuel ih =>
      intro front text final ran
      cases cut : text.dropInfix? fromText with
      | none =>
          rw [scanning_last front cut, runLoop_leave _ (replacePass_none _)]
            at ran
          cases ran
          refine ⟨0, ?_, Nat.zero_le _, .inl (searchesAgree_last cut)⟩
          simp only [List.length_append, Nat.zero_mul]
      | some both =>
          obtain ⟨gap, behind⟩ := both
          have length := length_of_dropInfix? cut
          rw [scanning_cut front cut,
            runLoop_again fuel (replacePass_resume nonempty _ _)] at ran
          obtain ⟨count, total, le, strict⟩ := ih _ _ final ran
          have left : (toText ++ behind).drop fromText.length =
              behind.drop (fromText.length - toText.length) := by
            rw [List.drop_append, List.drop_eq_nil_of_le shorter,
              List.nil_append]
          have fewer := behinds_suffix_le nonempty behind _
            (List.drop_suffix (fromText.length - toText.length) behind)
          rw [left] at le strict
          simp only [List.length_append, List.length_take,
            List.length_drop] at total
          refine ⟨count + 1, ?_, ?_, ?_⟩
          · simp only [Nat.succ_mul]
            omega
          · rw [behinds_cut nonempty cut, List.length_cons]
            omega
          · rw [SearchesAgree, behinds_cut nonempty cut, List.length_cons,
              List.forall_mem_cons, ← SearchesAgree]
            by_cases none : NoneBegins fromText
                (behind.take (fromText.length - toText.length))
                (behind.drop (fromText.length - toText.length))
            · have same := none.behinds nonempty
              rw [List.take_append_drop] at same
              rw [SearchesAgree, ← same, ← SearchesAgree] at strict
              rcases strict with agree | less
              · exact .inl ⟨agree_shorter nonempty shorter none, agree⟩
              · exact .inr (Nat.succ_lt_succ less)
            · have less := unbordered.behinds_drop_lt nonempty
                (Nat.sub_le _ _) none
              exact .inr (by omega)

/-- The loop replaces no fewer than the leftmost occurrences if the text put in
is not shorter, and more if it finds one that begins in it.  The scan is behind
some text that has been put in, in front of the text that is left. -/
theorem count_longer (nonempty : fromText ≠ [])
    (unbordered : Unbordered fromText)
    (longer : fromText.length ≤ toText.length)
    (outside : ¬ fromText <:+: toText.drop fromText.length) (fuel : Nat) :
    ∀ (front added text : Bytes) (final : Replacing),
      ¬ fromText <:+: added →
      runLoop (replacePass fromText toText) fuel
          (.scanning fromText front (added ++ text)) = some final →
        ∃ count, final.str.length + count * fromText.length =
            front.length + (added ++ text).length + count * toText.length ∧
          (behinds fromText text).length ≤ count ∧
          (SearchesAgree text fromText toText ∧
              NoneBegins fromText added text ∨
            (behinds fromText text).length < count) := by
  induction fuel with
  | zero =>
      intro front added text final absent ran
      cases ran
  | succ fuel ih =>
      intro front added text final absent ran
      cases cut : (added ++ text).dropInfix? fromText with
      | none =>
          have nowhere := dropInfix?_eq_none.mp cut
          have last : text.dropInfix? fromText = none :=
            dropInfix?_eq_none.mpr fun occurs =>
              nowhere (occurs.trans (List.suffix_append _ _).isInfix)
          rw [scanning_last front cut, runLoop_leave _ (replacePass_none _)]
            at ran
          cases ran
          refine ⟨0, ?_, ?_, .inl ⟨searchesAgree_last last, ?_⟩⟩
          · simp only [List.length_append, Nat.zero_mul]
          · rw [behinds_last last]
            exact Nat.le_refl 0
          · intro before rest split
            exact absurd ⟨before, rest, split.symm⟩ nowhere
      | some both =>
          obtain ⟨gap, behind⟩ := both
          have length := length_of_dropInfix? cut
          obtain ⟨split, first⟩ := dropInfix?_eq_some.mp cut
          rw [scanning_cut front cut,
            runLoop_again fuel (replacePass_resume nonempty _ _),
            List.take_append_of_le_length longer,
            List.drop_append_of_le_length longer] at ran
          obtain ⟨count, total, le, strict⟩ := ih _ _ _ final outside ran
          simp only [List.length_append, List.length_take,
            List.length_drop] at total length
          refine ⟨count + 1, ?_, ?_⟩
          · simp only [List.length_append, Nat.succ_mul]
            omega
          by_cases inText : added.length ≤ gap.length
          · -- What is found lies in the text that is left.
            have none : NoneBegins fromText added text := by
              intro before rest other
              exact Nat.le_trans inText (first before rest other)
            have found := none.dropInfix?
            rw [cut] at found
            obtain ⟨inner, innerCut, same⟩ :=
              Option.map_eq_some_iff.mp found.symm
            obtain ⟨-, rfl⟩ := Prod.mk.inj same
            rw [SearchesAgree, behinds_cut nonempty innerCut,
              List.length_cons, List.forall_mem_cons, ← SearchesAgree]
            refine ⟨Nat.succ_le_succ le, ?_⟩
            rcases strict with ⟨agree, noneAdded⟩ | less
            · exact .inl
                ⟨⟨agree_longer nonempty longer noneAdded, agree⟩, none⟩
            · exact .inr (Nat.succ_lt_succ less)
          · -- What is found begins in what has been put in.
            have shared : added.length < gap.length + fromText.length := by
              by_contra inAdded
              apply absent
              have front : gap ++ fromText <+: added := by
                apply List.prefix_of_prefix_length_le _
                  (List.prefix_append added text)
                · rw [List.length_append]
                  omega
                · rw [split]
                  exact List.prefix_append _ _
              exact (List.suffix_append gap fromText).isInfix.trans
                front.isInfix
            have left : text =
                fromText.drop (added.length - gap.length) ++ behind := by
              have dropped := congrArg (List.drop added.length) split
              rw [List.drop_left, List.append_assoc, List.drop_append,
                List.drop_eq_nil_of_le (by omega), List.nil_append,
                List.drop_append_of_le_length (by omega)] at dropped
              exact dropped
            have none : NoneBegins fromText
                (fromText.drop (added.length - gap.length)) behind := by
              apply unbordered.noneBegins (List.drop_suffix _ _)
              have positive := List.length_pos_of_ne_nil nonempty
              rw [List.length_drop]
              omega
            rw [left, none.behinds nonempty]
            exact ⟨by omega, .inr (by omega)⟩

end Passes

/-- The loop of `replaceAllChar` ends if and only if it is not entered, or
there is nothing to replace, or the text put in does not hold the text replaced
behind as many characters as that has. -/
theorem replaceAllChar_ends_iff (str fromText toText : Bytes) :
    ReplaceEnds str fromText toText ↔
      fromText = toText ∨ str = [] ∨ ¬ fromText <:+: str ∨
        ¬ fromText <:+: toText.drop fromText.length := by
  unfold ReplaceEnds
  rw [(replace_leaves str).1]
  tauto

/-- "a" is replaced by "ba" in "a". -/
theorem replaceAllChar_ends_a : ¬ ReplaceEnds [97] [97] [98, 97] := by
  intro ends
  have leaves := ends (by decide) (by decide)
  have outside := (replace_leaves [97]).1.mp leaves
  exact absurd outside (by decide)

/-- Whatever `replaceAllChar` returns has all leftmost occurrences replaced. -/
def ReplacesLeftmost (str fromText toText : Bytes) : Prop :=
  ∀ result, replaceAllChar str fromText toText = .ok result →
    result = replaceAll fromText toText str

/-- The loop is entered and never ends. -/
def Endless (str fromText toText : Bytes) : Prop :=
  fromText ≠ toText ∧ fromText <:+: str ∧
    fromText <:+: toText.drop fromText.length

section Results

variable {str fromText toText : Bytes}

/-- Where every search goes on behind the text put in, all leftmost
occurrences are replaced. -/
theorem replaceAllChar_of_agree (nonempty : fromText ≠ [])
    (agree : SearchesAgree str fromText toText) :
    replaceAllChar str fromText toText =
      .ok (replaceAll fromText toText str) := by
  rw [replaceAllChar]
  by_cases same : fromText = toText
  · rw [if_pos same, ← same, replaceAll_self nonempty]
  by_cases empty : str = []
  · subst empty
    have absent : ([] : Bytes).dropInfix? fromText = none := by
      rw [dropInfix?_eq_none, List.infix_nil]
      exact nonempty
    rw [if_neg same, if_pos rfl, replaceAll_last toText absent]
  · rw [if_neg same, if_neg empty, start_eq,
      runLoop_replacePass nonempty str [] _ agree (Nat.le_refl _),
      List.nil_append]

/-- Two counts that give the same length are the same. -/
theorem count_unique {first second long short total result : Nat}
    (different : short ≠ long)
    (firstCount : result + first * short = total + first * long)
    (secondCount : result + second * short = total + second * long) :
    first = second := by
  have firstInt : (result : Int) + first * short = total + first * long := by
    exact_mod_cast firstCount
  have secondInt :
      (result : Int) + second * short = total + second * long := by
    exact_mod_cast secondCount
  have product : ((first : Int) - second) * (short - long) = 0 := by
    linear_combination firstInt - secondInt
  rcases mul_eq_zero.mp product with same | equal
  · omega
  · omega

theorem replacesLeftmost_of (nonempty : fromText ≠ [])
    (condition : Endless str fromText toText ∨
      SearchesAgree str fromText toText) :
    ReplacesLeftmost str fromText toText := by
  intro result returned
  rcases condition with ⟨different, occurs, inside⟩ | agree
  · have nonemptyStr : str ≠ [] := by
      rintro rfl
      exact nonempty (List.infix_nil.mp occurs)
    have ends := replaceAllChar_returns_iff str |>.mp ⟨result, returned⟩
    have outside := (replace_leaves str).1.mp (ends different nonemptyStr)
    rcases outside with absent | outside
    · exact absurd occurs absent
    · exact absurd inside outside
  · rw [replaceAllChar_of_agree nonempty agree] at returned
    exact (Except.ok.inj returned).symm

theorem of_replacesLeftmost (nonempty : fromText ≠ [])
    (unbordered : Unbordered fromText)
    (replaces : ReplacesLeftmost str fromText toText) :
    Endless str fromText toText ∨ SearchesAgree str fromText toText := by
  by_cases sameLength : fromText.length = toText.length
  · exact .inr (searchesAgree_of_length_eq sameLength str)
  have different : fromText ≠ toText := by
    rintro rfl
    exact sameLength rfl
  by_cases occurs : fromText <:+: str
  · by_cases inside : fromText <:+: toText.drop fromText.length
    · exact .inl ⟨different, occurs, inside⟩
    right
    have nonemptyStr : str ≠ [] := by
      rintro rfl
      exact nonempty (List.infix_nil.mp occurs)
    -- The loop ends, and its result is as long as the replaced text.
    obtain ⟨final, ran⟩ := (replace_leaves str).2
      ((replace_leaves str).1.mpr (.inr inside))
    have result := replaces final.str (by
      rw [replaceAllChar, if_neg different, if_neg nonemptyStr, ran])
    have length := replaceAll_length nonempty toText str
    rw [← result] at length
    rw [start_eq] at ran
    rcases Nat.lt_or_ge toText.length fromText.length with shorter | longer
    · obtain ⟨count, total, -, agree | less⟩ := count_shorter nonempty
        unbordered (Nat.le_of_lt shorter) _ [] str final ran
      · exact agree
      · rw [List.length_nil, Nat.zero_add] at total
        have same := count_unique sameLength total length
        omega
    · obtain ⟨count, total, -, ⟨agree, -⟩ | less⟩ := count_longer nonempty
        unbordered longer inside _ [] [] str final
        (fun occurs => nonempty (List.infix_nil.mp occurs)) ran
      · exact agree
      · rw [List.length_nil, Nat.zero_add, List.nil_append] at total
        have same := count_unique sameLength total length
        omega
  · exact .inr (searchesAgree_last (dropInfix?_eq_none.mpr occurs))

end Results

/-- All leftmost occurrences are replaced if the loop never ends or every
search goes on behind the text put in.  The condition is necessary where no
part of the text replaced is both in front and at the end of it, and it is
always exact for the searches. -/
theorem replaceAllChar_replaces (str : Bytes) {fromText : Bytes}
    (nonempty : fromText ≠ []) (toText : Bytes) :
    (Endless str fromText toText ∨ SearchesAgree str fromText toText →
        ReplacesLeftmost str fromText toText) ∧
      (Unbordered fromText → ReplacesLeftmost str fromText toText →
        Endless str fromText toText ∨ SearchesAgree str fromText toText) ∧
      (GoesOnBehind fromText toText (.start str fromText) ↔
        SearchesAgree str fromText toText) :=
  ⟨replacesLeftmost_of nonempty, of_replacesLeftmost nonempty,
    goesOnBehind_iff nonempty str []⟩

/-- "ab" is replaced by "xy" in "cabdabab". -/
theorem replaceAllChar_replaces_cabdabab :
    ReplacesLeftmost [99, 97, 98, 100, 97, 98, 97, 98] [97, 98]
      [120, 121] :=
  (replaceAllChar_replaces [99, 97, 98, 100, 97, 98, 97, 98] (by decide)
    [120, 121]).1 (.inr (searchesAgree_of_length_eq rfl _))

/-- "ab" is removed from "abab": the second one stays. -/
theorem replaceAllChar_replaces_abab :
    ¬ ReplacesLeftmost [97, 98, 97, 98] [97, 98] [] := by
  intro replaces
  have returned : replaceAllChar [97, 98, 97, 98] [97, 98] [] =
      .ok [97, 98] := by decide
  have first : ([97, 98, 97, 98] : Bytes).dropInfix? [97, 98] =
      some ([], [97, 98]) := by decide
  have second : ([97, 98] : Bytes).dropInfix? [97, 98] =
      some ([], []) := by decide
  have last : ([] : Bytes).dropInfix? [97, 98] = none := by decide
  have result := replaces _ returned
  rw [replaceAll_cut (by decide) [] first, replaceAll_cut (by decide) [] second,
    replaceAll_last [] last] at result
  exact absurd result (by decide)

/-- The text "aa" begins as it ends: although a search skips an occurrence in
"aaaaa", the result is the same. -/
example :
    replaceAllChar [97, 97, 97, 97, 97] [97, 97] [97] =
        .ok (replaceAll [97, 97] [97] [97, 97, 97, 97, 97]) ∧
      ¬ SearchesAgree [97, 97, 97, 97, 97] [97, 97] [97] := by
  have first : ([97, 97, 97, 97, 97] : Bytes).dropInfix? [97, 97] =
      some ([], [97, 97, 97]) := by decide
  have second : ([97, 97, 97] : Bytes).dropInfix? [97, 97] =
      some ([], [97]) := by decide
  have last : ([97] : Bytes).dropInfix? [97, 97] = none := by decide
  rw [replaceAll_cut (by decide) [97] first,
    replaceAll_cut (by decide) [97] second, replaceAll_last [97] last,
    SearchesAgree, behinds_cut (by decide) first, List.forall_mem_cons]
  exact ⟨by decide, fun agree => absurd agree.1 (by decide)⟩

end EchoServer
