import EchoServer.StringUtils

/-!
# Splitting at a text

`splitString` goes on one character behind the place of a delimiter, not behind
the delimiter.  For delimiters of one character this is a split at the leftmost
occurrences; for longer ones the rest of the delimiter stays in front of the
next piece, so that the pieces never fit together.
-/

namespace EchoServer

open FuelledLoop LeftmostOccurrences

/-- What is left of a string is a piece if it is not empty. -/
def splitRest (text : Bytes) : List Bytes :=
  if text = [] then [] else [text]

/-- The pieces of a text that is split at the first `count` occurrences of the
leftmost scan. -/
def splitScan (c : Bytes) : Nat → Bytes → List Bytes
  | 0, text => splitRest text
  | count + 1, text =>
      match text.dropInfix? c with
      | none => splitRest text
      | some (gap, behind) => gap :: splitScan c count behind

/-- The pieces contain no delimiter, and joined with it they are the string,
followed by one more delimiter exactly when the scan consumes one at the end
of the string. -/
def FaithfulSplit (c str : Bytes) (pieces : List Bytes) : Prop :=
  (∀ piece ∈ pieces, ¬ c <:+: piece) ∧
    str = c.intercalate pieces ++ if [] ∈ behinds c str then c else []

/-- `splitString` with an empty list gives the pieces of a faithful split, or
those of a scan that is stopped after `index` delimiters. -/
def SplitsFaithfully (str c : Bytes) (index : Nat) : Prop :=
  ∃ pieces, splitString str [] c index = .ok pieces ∧
    (index = 0 → FaithfulSplit c str pieces) ∧
    (index ≠ 0 → pieces = splitScan c index str)

section Passes

variable {str c : Bytes} {index : Nat}

/-- The variables of the loop behind the delimiter at a place. -/
def Splitting.cut (str c : Bytes) (splitting : Splitting) (right : Nat) :
    Splitting where
  list := splitting.list ++
    [(str.drop splitting.left).take (right - splitting.left)]
  left := right + 1
  right := find str c (right + 1)
  ct := (splitting.ct + 1) % 2 ^ 32

theorem splitPass_none {splitting : Splitting}
    (right : splitting.right = none) :
    splitPass str c index splitting = .leave splitting := by
  simp only [splitPass, right]

theorem splitPass_some (str c : Bytes) (index : Nat) {splitting : Splitting}
    {place : Nat} (right : splitting.right = some place) :
    splitPass str c index splitting =
      if index ≠ 0 ∧ (splitting.cut str c place).ct ≥ index then
        .leave (splitting.cut str c place)
      else .again (splitting.cut str c place) := by
  rw [splitPass, right]
  rfl

/-- The list that `splitString` returns for the variables behind its loop. -/
def Splitting.result (str : Bytes) (splitting : Splitting) :
    Except StringFault (List Bytes) :=
  if splitting.left = str.length then .ok splitting.list
  else if str.length < splitting.left then .error .outOfRange
  else .ok (splitting.list ++ [str.drop splitting.left])

/-! ### The number of characters in the pieces -/

/-- The pieces and one character for each of them are what has been passed. -/
structure Cutting (str c : Bytes) (splitting : Splitting) : Prop where
  right_eq : splitting.right = find str c splitting.left
  total : splitting.list.flatten.length + splitting.list.length =
    splitting.left
  inside : splitting.list ≠ [] → splitting.left + c.length ≤ str.length + 1
  first : splitting.list = [] → splitting.right ≠ none

theorem Cutting.cut {splitting : Splitting}
    (cutting : Cutting str c splitting) {place : Nat}
    (right : splitting.right = some place) :
    Cutting str c (splitting.cut str c place) ∧
      splitting.left ≤ place ∧ place + c.length ≤ str.length := by
  have found := cutting.right_eq.symm.trans right
  obtain ⟨front, behind, split, rfl, after⟩ := find_eq_some found
  have length := congrArg List.length split
  have total := cutting.total
  simp only [List.length_append] at length
  refine ⟨⟨rfl, ?_, fun _ => ?_, fun empty => ?_⟩, after, by omega⟩
  · simp only [Splitting.cut, List.flatten_append, List.flatten_singleton,
      List.length_append, List.length_singleton, List.length_take,
      List.length_drop]
    omega
  · simp only [Splitting.cut]
    omega
  · simp [Splitting.cut] at empty

theorem Cutting.left_le {splitting : Splitting} (nonempty : c ≠ [])
    (cutting : Cutting str c splitting) :
    splitting.left ≤ str.length := by
  have positive := List.length_pos_of_ne_nil nonempty
  have total := cutting.total
  by_cases empty : splitting.list = []
  · rw [empty] at total
    simp only [List.flatten_nil, List.length_nil] at total
    omega
  · have inside := cutting.inside empty
    omega

/-- The loop leaves, in a state that cuts the string. -/
theorem Cutting.ran {splitting : Splitting} (nonempty : c ≠ [])
    (cutting : Cutting str c splitting) {fuel : Nat}
    (enough : str.length + 1 - splitting.left < fuel) :
    ∃ final, runLoop (splitPass str c index) fuel splitting = some final ∧
      Cutting str c final ∧ final.list ≠ [] := by
  induction fuel generalizing splitting with
  | zero => omega
  | succ fuel ih =>
      have left := cutting.left_le nonempty
      cases right : splitting.right with
      | none =>
          refine ⟨splitting, runLoop_leave fuel (splitPass_none right),
            cutting, ?_⟩
          intro empty
          exact cutting.first empty right
      | some place =>
          obtain ⟨next, after, -⟩ := cutting.cut right
          have passed := splitPass_some str c index right
          split_ifs at passed
          · refine ⟨_, runLoop_leave fuel passed, next, ?_⟩
            simp [Splitting.cut]
          · rw [runLoop_again fuel passed]
            apply ih next
            simp only [Splitting.cut]
            omega

/-- If the string has a delimiter, the pieces and one character for each of
them but the last are the string, and there are at least two. -/
theorem splitString_total (long : 2 ≤ c.length) (occurs : c <:+: str)
    (index : Nat) :
    ∃ cuts pieces, splitString str [] c index = .ok pieces ∧ 1 ≤ cuts ∧
      pieces.length = cuts + 1 ∧
      pieces.flatten.length + cuts = str.length := by
  have nonempty : c ≠ [] := by
    rintro rfl
    cases long
  have nonemptyStr : str ≠ [] := by
    rintro rfl
    exact nonempty (List.infix_nil.mp occurs)
  have start : Cutting str c
      { list := [], left := 0, right := find str c 0, ct := 0 } := by
    refine ⟨rfl, rfl, fun some => absurd rfl some, fun _ none => ?_⟩
    exact (find_eq_none_iff (Nat.zero_le _)).mp none occurs
  obtain ⟨final, ran, cutting, someCut⟩ := start.ran nonempty
    (show str.length + 1 - 0 < str.length + 2 by omega)
  have total := cutting.total
  have inside := cutting.inside someCut
  refine ⟨final.list.length, final.list ++ [str.drop final.left], ?_,
    List.length_pos_of_ne_nil someCut, ?_, ?_⟩
  · rw [splitString, if_neg nonemptyStr, ran]
    simp only
    rw [if_neg (by omega), if_neg (by omega)]
  · rw [List.length_append, List.length_singleton]
  · simp only [List.flatten_append, List.flatten_singleton,
      List.length_append, List.length_drop]
    omega

theorem splitRest_length (text : Bytes) :
    (splitRest text).length ≤ 1 ∧
      (splitRest text).flatten.length = text.length := by
  unfold splitRest
  split_ifs with empty <;> simp [empty]

/-- The pieces of the scan and the delimiters between them are the text. -/
theorem splitScan_total (c : Bytes) (count : Nat) (text : Bytes) :
    ∃ cuts, (splitScan c count text).length ≤ cuts + 1 ∧
      (splitScan c count text).flatten.length + cuts * c.length =
        text.length := by
  induction count generalizing text with
  | zero =>
      obtain ⟨atMost, length⟩ := splitRest_length text
      exact ⟨0, by simpa [splitScan] using atMost,
        by simpa [splitScan] using length⟩
  | succ count ih =>
      cases cut : text.dropInfix? c with
      | none =>
          obtain ⟨atMost, length⟩ := splitRest_length text
          exact ⟨0, by simpa [splitScan, cut] using atMost,
            by simpa [splitScan, cut] using length⟩
      | some both =>
          have length := length_of_dropInfix? cut
          obtain ⟨cuts, atMost, total⟩ := ih both.2
          refine ⟨cuts + 1, ?_, ?_⟩
          · simp only [splitScan, cut, List.length_cons]
            omega
          · simp only [splitScan, cut, List.flatten_cons,
              List.length_append, Nat.succ_mul]
            omega

theorem length_intercalate (c piece : Bytes) (pieces : List Bytes) :
    (c.intercalate (piece :: pieces)).length =
      (piece :: pieces).flatten.length + pieces.length * c.length := by
  induction pieces generalizing piece with
  | nil => simp
  | cons next pieces ih =>
      rw [List.intercalate_cons_cons, List.length_append, List.length_append,
        ih next]
      simp only [List.flatten_cons, List.length_append, List.length_cons,
        Nat.succ_mul]
      omega

/-- The pieces of a string with a longer delimiter do not fit together. -/
theorem not_splitsFaithfully (long : 2 ≤ c.length) (occurs : c <:+: str)
    (index : Nat) : ¬ SplitsFaithfully str c index := by
  rintro ⟨pieces, returned, all, stopped⟩
  obtain ⟨cuts, others, returnedToo, positive, length, total⟩ :=
    splitString_total long occurs index
  obtain rfl := Except.ok.inj (returned.symm.trans returnedToo)
  by_cases zero : index = 0
  · obtain ⟨-, joined⟩ := all zero
    cases pieces with
    | nil => cases length
    | cons piece pieces =>
        have lengths := congrArg List.length joined
        rw [List.length_append, length_intercalate] at lengths
        rw [List.length_cons, Nat.add_right_cancel_iff] at length
        rw [length] at lengths
        have enough : cuts * 2 ≤ cuts * c.length :=
          Nat.mul_le_mul_left cuts long
        omega
  · obtain ⟨scanCuts, atMost, scanTotal⟩ := splitScan_total c index str
    rw [← stopped zero] at atMost scanTotal
    have enough : scanCuts * 2 ≤ scanCuts * c.length :=
      Nat.mul_le_mul_left scanCuts long
    omega

/-! ### Delimiters of one character -/

theorem result_of_rest {splitting : Splitting} {front text : Bytes}
    (left : splitting.left = front.length) :
    splitting.result (front ++ text) =
      .ok (splitting.list ++ splitRest text) := by
  rw [Splitting.result, left, List.length_append, List.drop_left, splitRest]
  by_cases empty : text = []
  · subst empty
    rw [List.length_nil, Nat.add_zero, if_pos rfl, if_pos rfl,
      List.append_nil]
  · have positive := List.length_pos_of_ne_nil empty
    rw [if_neg (by omega), if_neg (by omega), if_neg empty]

/-- Cutting at the first delimiter behind some text. -/
theorem cut_front (front list : _) (ct : Nat) {text gap behind : Bytes}
    (cut : text.dropInfix? c = some (gap, behind)) (one : c.length = 1) :
    Splitting.cut (front ++ text) c
        { list, left := front.length
          right := find (front ++ text) c front.length, ct }
        (front.length + gap.length) =
      { list := list ++ [gap]
        left := (front ++ gap ++ c).length
        right := find (front ++ gap ++ c ++ behind) c
          (front ++ gap ++ c).length
        ct := (ct + 1) % 2 ^ 32 } := by
  obtain ⟨split, -⟩ := dropInfix?_eq_some.mp cut
  have whole : front ++ text = front ++ gap ++ c ++ behind := by
    rw [split]
    simp only [List.append_assoc]
  have position : front.length + gap.length + 1 =
      (front ++ gap ++ c).length := by
    rw [List.length_append, List.length_append, one]
  have piece : ((front ++ text).drop front.length).take
      (front.length + gap.length - front.length) = gap := by
    rw [List.drop_left, split, Nat.add_sub_cancel_left, List.append_assoc,
      List.take_left]
  simp only [Splitting.cut, piece, position]
  rw [whole]

/-- The loop splits the text behind the delimiters that it has passed like the
scan.  It may split everything, or a number of times that is left. -/
theorem runLoop_splitPass (nonempty : c ≠ []) (text : Bytes) :
    ∀ (front : Bytes) (list : List Bytes) (ct count fuel : Nat),
      (c <:+: text → c.length = 1) →
      (index = 0 ∧ (behinds c text).length < count ∨
        index = ct + count ∧ 1 ≤ count ∧ index < 2 ^ 32) →
      text.length < fuel →
        ∃ final, runLoop (splitPass (front ++ text) c index) fuel
            { list, left := front.length
              right := find (front ++ text) c front.length, ct } =
            some final ∧
          final.result (front ++ text) =
            .ok (list ++ splitScan c count text) := by
  induction text using scan_induction nonempty with
  | last text last =>
      intro front list ct count fuel single left enough
      obtain ⟨fuel, rfl⟩ : ∃ more, fuel = more + 1 := ⟨fuel - 1, by omega⟩
      have right : find (front ++ text) c front.length = none := by
        rw [find_front, last, Option.map_none]
      have whole : splitScan c count text = splitRest text := by
        cases count with
        | zero => rfl
        | succ count => simp only [splitScan, last]
      refine ⟨_, runLoop_leave fuel (splitPass_none right), ?_⟩
      rw [whole]
      exact result_of_rest rfl
  | cut text gap behind cut ih =>
      intro front list ct count fuel single left enough
      obtain ⟨split, -⟩ := dropInfix?_eq_some.mp cut
      have one : c.length = 1 := single ⟨gap, behind, split.symm⟩
      have length := length_of_dropInfix? cut
      obtain ⟨fuel, rfl⟩ : ∃ more, fuel = more + 1 := ⟨fuel - 1, by omega⟩
      have positive : 1 ≤ count := by
        rcases left with ⟨-, many⟩ | ⟨-, positive, -⟩ <;> omega
      obtain ⟨count, rfl⟩ : ∃ less, count = less + 1 :=
        ⟨count - 1, by omega⟩
      have right : find (front ++ text) c front.length =
          some (front.length + gap.length) := by
        rw [find_front, cut, Option.map_some]
      have whole : front ++ text = front ++ gap ++ c ++ behind := by
        rw [split]
        simp only [List.append_assoc]
      have pieces : list ++ splitScan c (count + 1) text =
          list ++ [gap] ++ splitScan c count behind := by
        simp only [splitScan, cut, List.append_assoc, List.cons_append,
          List.nil_append]
      have passed := splitPass_some (front ++ text) c index
        (show Splitting.right
          { list, left := front.length
            right := find (front ++ text) c front.length, ct } = _ from
          right)
      rw [cut_front front list ct cut one] at passed
      simp only at passed
      rw [pieces]
      rw [behinds_cut nonempty cut, List.length_cons] at left
      split_ifs at passed with stop
      · -- The last split that was asked for.
        have last : count = 0 := by
          rcases left with ⟨zero, -⟩ | ⟨whichOne, -, small⟩
          · exact absurd zero stop.1
          · have counted := stop.2
            rw [Nat.mod_eq_of_lt (by omega)] at counted
            omega
        refine ⟨_, runLoop_leave fuel passed, ?_⟩
        rw [last, whole, result_of_rest rfl]
        rfl
      · rw [runLoop_again fuel passed, whole]
        apply ih
        · exact fun _ => one
        · rcases left with ⟨zero, many⟩ | ⟨whichOne, -, small⟩
          · exact .inl ⟨zero, by omega⟩
          · right
            have notYet : ¬ (ct + 1) % 2 ^ 32 ≥ index := by
              intro reached
              exact stop ⟨by omega, reached⟩
            rw [Nat.mod_eq_of_lt (by omega)] at notYet ⊢
            exact ⟨by omega, by omega, small⟩
        · omega

theorem splitScan_eq_nil_iff (nonempty : c ≠ []) (count : Nat)
    (text : Bytes) : splitScan c count text = [] ↔ text = [] := by
  have rest : splitRest text = [] ↔ text = [] := by
    unfold splitRest
    split_ifs with empty <;> simp [empty]
  cases count with
  | zero => exact rest
  | succ count =>
      cases cut : text.dropInfix? c with
      | none => simpa only [splitScan, cut] using rest
      | some both =>
          have length := length_of_dropInfix? cut
          have positive := List.length_pos_of_ne_nil nonempty
          refine iff_of_false (by simp [splitScan, cut]) ?_
          rintro rfl
          simp only [List.length_nil] at length
          omega

/-- If it is not stopped, the scan splits faithfully. -/
theorem faithfulSplit_splitScan (nonempty : c ≠ []) (text : Bytes) :
    ∀ count, (behinds c text).length < count →
      FaithfulSplit c text (splitScan c count text) := by
  induction text using scan_induction nonempty with
  | last text last =>
      intro count many
      obtain ⟨count, rfl⟩ : ∃ less, count = less + 1 :=
        ⟨count - 1, by omega⟩
      have absent := dropInfix?_eq_none.mp last
      simp only [FaithfulSplit, splitScan, last, behinds_last last,
        List.not_mem_nil, if_false, List.append_nil, splitRest]
      split_ifs with empty
      · rw [empty]
        exact ⟨List.forall_mem_nil _, rfl⟩
      · rw [List.forall_mem_singleton, List.intercalate_singleton]
        exact ⟨absent, rfl⟩
  | cut text gap behind cut ih =>
      intro count many
      obtain ⟨count, rfl⟩ : ∃ less, count = less + 1 :=
        ⟨count - 1, by omega⟩
      rw [behinds_cut nonempty cut, List.length_cons] at many
      obtain ⟨clean, joined⟩ := ih count (by omega)
      have split := (dropInfix?_eq_some.mp cut).1
      have pieces : splitScan c (count + 1) text =
          gap :: splitScan c count behind := by
        simp only [splitScan, cut]
      have none := splitScan_eq_nil_iff nonempty count behind
      rw [FaithfulSplit, pieces, behinds_cut nonempty cut,
        List.forall_mem_cons]
      refine ⟨⟨not_infix_of_dropInfix? nonempty cut, clean⟩, ?_⟩
      by_cases empty : behind = []
      · -- The string ends with this delimiter.
        rw [none.mpr empty, List.intercalate_singleton, split, empty,
          if_pos List.mem_cons_self, List.append_nil]
      · have later : ([] ∈ behind :: behinds c behind) ↔
            [] ∈ behinds c behind := by
          rw [List.mem_cons, or_iff_right (Ne.symm empty)]
        rw [List.intercalate_cons_of_ne_nil fun nil => empty (none.mp nil),
          List.append_assoc, split]
        simp only [later]
        rw [← joined]

/-- A split at single characters, or one with nothing to split. -/
theorem splitsFaithfully_of (nonempty : c ≠ [])
    (single : c <:+: str → c.length = 1) (small : index < 2 ^ 32) :
    SplitsFaithfully str c index := by
  by_cases empty : str = []
  · subst empty
    have none : ([] : Bytes).dropInfix? c = none := by
      rw [dropInfix?_eq_none, List.infix_nil]
      exact nonempty
    refine ⟨[], rfl, fun _ => ?_, fun _ => ?_⟩
    · rw [FaithfulSplit, behinds_last none]
      exact ⟨List.forall_mem_nil _, rfl⟩
    · exact ((splitScan_eq_nil_iff nonempty index []).mpr rfl).symm
  -- The scan is stopped after `index` delimiters, or not at all.
  obtain ⟨count, counted, zero, notZero⟩ : ∃ count,
      (index = 0 ∧ (behinds c str).length < count ∨
        index = 0 + count ∧ 1 ≤ count ∧ index < 2 ^ 32) ∧
      (index = 0 → (behinds c str).length < count) ∧
      (index ≠ 0 → count = index) := by
    by_cases zero : index = 0
    · have many := Nat.lt_succ_self (behinds c str).length
      exact ⟨_, .inl ⟨zero, many⟩, fun _ => many,
        fun other => absurd zero other⟩
    · exact ⟨index, .inr ⟨(Nat.zero_add _).symm, by omega, small⟩,
        fun other => absurd other zero, fun _ => rfl⟩
  obtain ⟨final, ran, result⟩ := runLoop_splitPass nonempty str [] [] 0 count
    (str.length + 2) single counted (by omega)
  rw [List.nil_append, List.length_nil] at ran
  rw [List.nil_append, List.nil_append] at result
  refine ⟨splitScan c count str, ?_, ?_, ?_⟩
  · rw [splitString, if_neg empty, ran]
    exact result
  · intro isZero
    exact faithfulSplit_splitScan nonempty str count (zero isZero)
  · intro other
    rw [notZero other]

end Passes

/-- `splitString` splits faithfully if and only if the delimiter is a single
character or does not occur. -/
theorem splitString_faithful_iff (str : Bytes) {c : Bytes}
    (nonempty : c ≠ []) {index : Nat} (small : index < 2 ^ 32) :
    SplitsFaithfully str c index ↔ c.length = 1 ∨ ¬ c <:+: str := by
  constructor
  · intro faithful
    by_contra other
    have positive := List.length_pos_of_ne_nil nonempty
    rw [not_or, not_not] at other
    exact not_splitsFaithfully (by omega) other.2 index faithful
  · intro single
    apply splitsFaithfully_of nonempty _ small
    rintro occurs
    exact single.resolve_right (not_not.mpr occurs)

/-- "k=v=w=" is split twice at "=", and completely. -/
theorem splitString_faithful_kvw :
    SplitsFaithfully [107, 61, 118, 61, 119, 61] [61] 2 ∧
      SplitsFaithfully [107, 61, 118, 61, 119, 61] [61] 0 :=
  ⟨(splitString_faithful_iff _ (by decide) (by decide)).mpr (.inl rfl),
    (splitString_faithful_iff _ (by decide) (by decide)).mpr (.inl rfl)⟩

/-- "a::b" is split at "::": the second piece is ":b". -/
theorem splitString_faithful_colons :
    splitString [97, 58, 58, 98] [] [58, 58] 0 = .ok [[97], [58, 98]] ∧
      ¬ SplitsFaithfully [97, 58, 58, 98] [58, 58] 0 :=
  ⟨by decide, not_splitsFaithfully (by decide) (by decide) 0⟩

end EchoServer
