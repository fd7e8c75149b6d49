import EchoServer.CStrings
import EchoServer.FuelledLoop
import EchoServer.LeftmostOccurrences
import Mathlib.Algebra.Group.Int.Defs

/-!
# The string functions of `Utils.cpp`

`trimString` removes every occurrence of a character; it keeps the place that
`find` returns in an `int`.  The other functions cut a string at one end or at
a separator.
-/

namespace EchoServer

open FuelledLoop LeftmostOccurrences

/-- How a function on strings fails to return: a member function of
`std::string` throws, or a loop never ends. -/
inductive StringFault
  | outOfRange
  | endless
  deriving DecidableEq

/-- `str.find(c, pos)`, none for `npos`. -/
def find (str c : Bytes) (pos : Nat) : Option Nat :=
  if pos ≤ str.length then
    (firstOccurrence c (str.drop pos)).map (· + pos)
  else none

/-- A place, or `npos`, converted to `int`. -/
def placeAsInt : Option Nat → Int
  | none => -1
  | some place => Int.bmod place (2 ^ 32)

/-- An `int` converted to `size_t`. -/
def intAsPlace (index : Int) : Nat :=
  (index % 2 ^ 64).toNat

/-- The variables of the loop in `trimString`, and whether `erase` has
thrown. -/
structure Trimming where
  index : Int
  str : Bytes
  thrown : Bool

/-- One pass of the loop. -/
def trimPass (c : UInt8) (trimming : Trimming) : Pass Trimming :=
  let index :=
    placeAsInt (find trimming.str [c] (intAsPlace trimming.index))
  let place := intAsPlace index
  if index = -1 then .leave { trimming with index }
  else if trimming.str.length < place then
    .leave { trimming with index, thrown := true }
  else
    .again
      { index
        str := trimming.str.take place ++ trimming.str.drop (place + 1)
        thrown := false }

/-- `trimString`.  A pass that goes round again removes a character, so a loop
that ends needs at most one pass more than there are characters. -/
def trimString (str : Bytes) (c : UInt8) : Except StringFault Bytes :=
  if str = [] then .ok str
  else
    match runLoop (trimPass c) (str.length + 1)
      { index := 0, str, thrown := false } with
    | none => .error .endless
    | some trimming =>
        if trimming.thrown then .error .outOfRange else .ok trimming.str

/-- `trimTailAllString`. -/
def trimTailAllString (str : Bytes) (c : UInt8) : Bytes :=
  if str = [] then str
  else
    match find str [c] 0 with
    | none => str
    | some pos => str.take pos

/-- `trimHeadString`: erases up to the first other character, or everything
if there is none. -/
def trimHeadString (str : Bytes) (c : UInt8) : Bytes :=
  if str = [] then str
  else
    match str.findIdx? (· ≠ c) with
    | none => []
    | some pos => str.drop pos

/-- `trimTailString`: erases what is behind the last other character, or
everything if there is none. -/
def trimTailString (str : Bytes) (c : UInt8) : Bytes :=
  if str = [] then str
  else
    match str.reverse.findIdx? (· ≠ c) with
    | none => []
    | some behind => str.take (str.length - behind)

/-- `stringLow`. -/
def stringLow (str : Bytes) : Bytes :=
  str.map fun byte => if 65 ≤ byte ∧ byte ≤ 90 then byte + 32 else byte

/-- The variables of the loop in `splitString`. -/
structure Splitting where
  list : List Bytes
  left : Nat
  right : Option Nat
  ct : Nat

/-- One pass of the loop. -/
def splitPass (str c : Bytes) (index : Nat) (splitting : Splitting) :
    Pass Splitting :=
  match splitting.right with
  | none => .leave splitting
  | some right =>
      let next : Splitting :=
        { list := splitting.list ++
            [(str.drop splitting.left).take (right - splitting.left)]
          left := right + 1
          right := find str c (right + 1)
          ct := (splitting.ct + 1) % 2 ^ 32 }
      if index ≠ 0 ∧ next.ct ≥ index then .leave next else .again next

/-- `splitString`.  Every pass looks further right, so a loop that ends needs
at most two passes more than there are characters. -/
def splitString (str : Bytes) (list : List Bytes) (c : Bytes)
    (index : Nat) : Except StringFault (List Bytes) :=
  if str = [] then .ok list
  else
    match runLoop (splitPass str c index) (str.length + 2)
      { list, left := 0, right := find str c 0, ct := 0 } with
    | none => .error .endless
    | some splitting =>
        if splitting.left = str.length then .ok splitting.list
        else if str.length < splitting.left then .error .outOfRange
        else .ok (splitting.list ++ [str.drop splitting.left])

variable {c : UInt8}

/-! ### Finding a character -/

theorem firstOccurrence_none {bytes : Bytes} (absent : c ∉ bytes) :
    firstOccurrence [c] bytes = none := by
  induction bytes with
  | nil => simp [firstOccurrence]
  | cons byte bytes ih =>
      obtain ⟨other, later⟩ : c ≠ byte ∧ c ∉ _ := by
        simpa only [List.mem_cons, not_or] using absent
      simp [firstOccurrence, List.cons_prefix_cons, other, ih later]

theorem firstOccurrence_append {skipped : Bytes} (absent : c ∉ skipped)
    (rest : Bytes) :
    firstOccurrence [c] (skipped ++ c :: rest) = some skipped.length := by
  induction skipped with
  | nil => simp [firstOccurrence]
  | cons byte skipped ih =>
      obtain ⟨other, later⟩ : c ≠ byte ∧ c ∉ _ := by
        simpa only [List.mem_cons, not_or] using absent
      simp [firstOccurrence, List.cons_prefix_cons, other, ih later]

/-- The character is not behind the place where it is looked for. -/
theorem find_none {front back : Bytes} (absent : c ∉ back) :
    find (front ++ back) [c] front.length = none := by
  rw [find, if_pos (by simp), List.drop_left, firstOccurrence_none absent,
    Option.map_none]

/-- The first place behind the one where it is looked for. -/
theorem find_some {front skipped : Bytes} (absent : c ∉ skipped)
    (rest : Bytes) :
    find (front ++ (skipped ++ c :: rest)) [c] front.length =
      some (front ++ skipped).length := by
  rw [find, if_pos (by simp), List.drop_left,
    firstOccurrence_append absent, Option.map_some, List.length_append,
    Nat.add_comm]

theorem find_nowhere {str : Bytes} (absent : c ∉ str) :
    find str [c] 0 = none := by
  have missing : find ([] ++ str) [c] ([] : Bytes).length = none :=
    find_none absent
  exact missing

theorem find_first {skipped : Bytes} (absent : c ∉ skipped) (rest : Bytes) :
    find (skipped ++ c :: rest) [c] 0 = some skipped.length := by
  have found : find ([] ++ (skipped ++ c :: rest)) [c] ([] : Bytes).length =
      some ([] ++ skipped).length := find_some absent rest
  exact found

theorem intAsPlace_natCast {place : Nat} (small : place < 2 ^ 64) :
    intAsPlace place = place := by
  rw [intAsPlace, Int.emod_eq_of_lt (Int.natCast_nonneg place)
    (by exact_mod_cast small), Int.toNat_natCast]

theorem placeAsInt_none : placeAsInt none = -1 :=
  rfl

theorem placeAsInt_some (place : Nat) :
    placeAsInt (some place) = Int.bmod place (2 ^ 32) :=
  rfl

theorem placeAsInt_small {place : Nat} (small : place < 2 ^ 31) :
    placeAsInt (some place) = place := by
  rw [placeAsInt_some, Int.bmod]
  omega

/-! ### Finding a text -/

section Places

variable {pattern text : Bytes}

theorem firstOccurrence_absent (absent : ¬ pattern <:+: text) :
    firstOccurrence pattern text = none := by
  induction text with
  | nil =>
      rw [firstOccurrence, if_neg]
      exact fun here => absent here.isInfix
  | cons byte text ih =>
      rw [firstOccurrence, if_neg, ih, Option.map_none]
      · exact fun later => absent (List.infix_cons later)
      · exact fun here => absent here.isInfix

/-- The first place is where the text in front of the first occurrence
ends. -/
theorem firstOccurrence_dropInfix? (pattern text : Bytes) :
    firstOccurrence pattern text =
      (text.dropInfix? pattern).map fun cut => cut.1.length := by
  cases found : text.dropInfix? pattern with
  | none => exact firstOccurrence_absent (dropInfix?_eq_none.mp found)
  | some cut =>
      obtain ⟨split, first⟩ := dropInfix?_eq_some.mp found
      rw [Option.map_some]
      apply firstOccurrence_eq
      · rw [split, List.append_assoc, List.drop_left]
        exact List.prefix_append _ _
      · rw [split, List.append_assoc, List.length_append]
        omega
      · rintro earlier before ⟨rest, here⟩
        have length := first (text.take earlier) rest
          (by rw [List.append_assoc, here, List.take_append_drop])
        rw [List.length_take] at length
        omega

/-- Looking behind some text for a place. -/
theorem find_append (front text pattern : Bytes) (pos : Nat) :
    find (front ++ text) pattern (front.length + pos) =
      (find text pattern pos).map (front.length + ·) := by
  simp only [find, List.length_append, Nat.add_le_add_iff_left,
    List.drop_length_add_append]
  split_ifs
  · rw [Option.map_map]
    congr 1
    funext place
    simp only [Function.comp_apply]
    omega
  · rfl

theorem find_front (front text pattern : Bytes) :
    find (front ++ text) pattern front.length =
      (text.dropInfix? pattern).map
        fun cut => front.length + cut.1.length := by
  have found := find_append front text pattern 0
  rw [Nat.add_zero] at found
  rw [found, find, if_pos (Nat.zero_le _), List.drop_zero,
    firstOccurrence_dropInfix?, Option.map_map, Option.map_map]
  rfl

/-- Looking for a text that is not empty. -/
theorem find_drop (nonempty : pattern ≠ []) (str : Bytes) (pos : Nat) :
    find str pattern pos =
      ((str.drop pos).dropInfix? pattern).map
        fun cut => pos + cut.1.length := by
  rw [find]
  split_ifs with inside
  · rw [firstOccurrence_dropInfix?, Option.map_map]
    congr 1
    funext cut
    exact Nat.add_comm _ _
  · have absent : (str.drop pos).dropInfix? pattern = none := by
      rw [dropInfix?_eq_none, List.drop_eq_nil_of_le (by omega),
        List.infix_nil]
      exact nonempty
    rw [absent, Option.map_none]

theorem find_eq_none_iff {str : Bytes} {pos : Nat}
    (inside : pos ≤ str.length) :
    find str pattern pos = none ↔ ¬ pattern <:+: str.drop pos := by
  rw [find, if_pos inside, firstOccurrence_dropInfix?, Option.map_map,
    Option.map_eq_none_iff, dropInfix?_eq_none]

/-- What a place that was found says. -/
theorem find_eq_some {str : Bytes} {pos place : Nat}
    (found : find str pattern pos = some place) :
    ∃ front behind, str = front ++ pattern ++ behind ∧
      front.length = place ∧ pos ≤ place := by
  simp only [find, firstOccurrence_dropInfix?] at found
  split_ifs at found with inside
  cases cut : (str.drop pos).dropInfix? pattern with
  | none =>
      rw [cut] at found
      cases found
  | some both =>
      rw [cut] at found
      obtain ⟨split, -⟩ := dropInfix?_eq_some.mp cut
      obtain rfl : both.1.length + pos = place := by
        simpa using found
      refine ⟨str.take pos ++ both.1, both.2, ?_, ?_, by omega⟩
      · calc
          str = str.take pos ++ str.drop pos := (List.take_append_drop ..).symm
          _ = _ := by simp only [split, List.append_assoc]
      · rw [List.length_append, List.length_take]
        omega

end Places

/-! ### Removing a character -/

/-- The character stands behind so many others, `skipped` of them in front of
the string, that their number is no `int`. -/
def Far (c : UInt8) (skipped : Nat) (str : Bytes) : Prop :=
  ∃ before after, str = before ++ c :: after ∧
    2 ^ 31 ≤ skipped + (before.filter (· ≠ c)).length

theorem not_far_nil {skipped : Nat} : ¬ Far c skipped [] := by
  rintro ⟨before, after, whole, -⟩
  simp at whole

theorem filter_absent {bytes : Bytes} (absent : c ∉ bytes) :
    bytes.filter (· ≠ c) = bytes := by
  apply List.filter_eq_self.mpr
  rintro byte member
  simpa using fun same : byte = c => absent (same ▸ member)

theorem filter_skipped {skipped : Bytes} (absent : c ∉ skipped)
    (rest : Bytes) :
    (skipped ++ c :: rest).filter (· ≠ c) =
      skipped ++ rest.filter (· ≠ c) := by
  rw [List.filter_append, filter_absent absent,
    List.filter_cons_of_neg (by simp)]

/-- A far occurrence is the first one, or far behind it too. -/
theorem Far.behind {front skipped rest : Bytes} (absent : c ∉ skipped)
    (far : Far c front.length (skipped ++ c :: rest)) :
    2 ^ 31 ≤ (front ++ skipped).length ∨
      Far c (front ++ skipped).length rest := by
  obtain ⟨before, after, whole, many⟩ := far
  rw [List.length_append]
  obtain ⟨between, rfl, tail⟩ | ⟨between, rfl, tail⟩ :=
    List.append_eq_append_iff.mp whole
  · cases between with
    | nil =>
        rw [List.append_nil, filter_absent absent] at many
        exact .inl many
    | cons byte between =>
        obtain ⟨rfl, rfl⟩ := List.cons.inj tail
        rw [filter_skipped absent, List.length_append] at many
        exact .inr ⟨between, after, rfl, by omega⟩
  · cases between with
    | nil =>
        rw [List.append_nil] at absent ⊢
        rw [filter_absent absent] at many
        exact .inl many
    | cons byte between =>
        obtain ⟨rfl, -⟩ := List.cons.inj tail
        exact absurd (by simp) absent

/-- A pass that finds the character at a place that is an `int` removes it. -/
theorem trimPass_again {front skipped : Bytes} (absent : c ∉ skipped)
    (rest : Bytes) (small : (front ++ skipped).length < 2 ^ 31) :
    trimPass c
        { index := front.length, str := front ++ (skipped ++ c :: rest)
          thrown := false } =
      .again
        { index := (front ++ skipped).length
          str := (front ++ skipped) ++ rest, thrown := false } := by
  have frontSmall : front.length < 2 ^ 64 := by
    rw [List.length_append] at small
    omega
  have placeSmall : (front ++ skipped).length < 2 ^ 64 := by omega
  have kept : (front ++ (skipped ++ c :: rest)).take
      (front ++ skipped).length = front ++ skipped := by
    rw [← List.append_assoc, List.take_left]
  have behind : (front ++ (skipped ++ c :: rest)).drop
      ((front ++ skipped).length + 1) = rest := by
    rw [← List.append_assoc, ← List.drop_drop, List.drop_left]
    rfl
  rw [trimPass]
  simp only [intAsPlace_natCast frontSmall, find_some absent rest,
    placeAsInt_small small, intAsPlace_natCast placeSmall, kept, behind]
  rw [if_neg (by omega), if_neg (by simp)]

/-- Where the character is always found at places that are an `int`, the loop
removes it everywhere. -/
theorem runLoop_trimPass {front back : Bytes} {fuel : Nat}
    (near : ¬ Far c front.length back) (small : front.length < 2 ^ 31)
    (enough : back.length < fuel) :
    ∃ index, runLoop (trimPass c) fuel
        { index := front.length, str := front ++ back, thrown := false } =
      some
        { index, str := front ++ back.filter (· ≠ c), thrown := false } := by
  induction fuel generalizing front back with
  | zero => omega
  | succ fuel ih =>
      by_cases present : c ∈ back
      · obtain ⟨skipped, rest, rfl, absent⟩ :=
          List.eq_append_cons_of_mem present
        have skippedSmall : (front ++ skipped).length < 2 ^ 31 := by
          by_contra large
          apply near
          refine ⟨skipped, rest, rfl, ?_⟩
          rw [filter_absent absent, ← List.length_append]
          omega
        have restNear : ¬ Far c (front ++ skipped).length rest := by
          rintro ⟨before, after, rfl, far⟩
          apply near
          refine ⟨skipped ++ c :: before, after, by simp, ?_⟩
          rw [List.length_append] at far
          rw [filter_skipped absent, List.length_append]
          omega
        have restEnough : rest.length < fuel := by
          simp only [List.length_append, List.length_cons] at enough
          omega
        obtain ⟨index, ran⟩ := ih restNear skippedSmall restEnough
        refine ⟨index, ?_⟩
        rw [runLoop_again fuel (trimPass_again absent rest skippedSmall), ran,
          filter_skipped absent, List.append_assoc]
      · have nothing : trimPass c
            { index := front.length, str := front ++ back
              thrown := false } =
            .leave { index := -1, str := front ++ back, thrown := false } := by
          have frontSmall : front.length < 2 ^ 64 := by omega
          rw [trimPass]
          simp only [intAsPlace_natCast frontSmall, find_none present,
            placeAsInt_none, if_true]
        exact ⟨-1, by rw [runLoop_leave fuel nothing, filter_absent present]⟩

/-- A pass that finds the character at a place that is no `int`, and does not
take this place for `npos`, lets `erase` throw. -/
theorem trimPass_thrown {front skipped : Bytes} (absent : c ∉ skipped)
    (rest : Bytes) (small : front.length < 2 ^ 31)
    (large : 2 ^ 31 ≤ (front ++ skipped).length)
    (short : (front ++ (skipped ++ c :: rest)).length < 2 ^ 32 - 1) :
    ∃ final, trimPass c
        { index := front.length, str := front ++ (skipped ++ c :: rest)
          thrown := false } = .leave final ∧ final.thrown = true := by
  have frontSmall : front.length < 2 ^ 64 := by omega
  have placeShort : (front ++ skipped).length < 2 ^ 32 - 1 := by
    simp only [List.length_append, List.length_cons] at short ⊢
    omega
  have index : placeAsInt (some (front ++ skipped).length) =
      ((front ++ skipped).length : Int) - 2 ^ 32 := by
    rw [placeAsInt_some, Int.bmod]
    omega
  have place : 2 ^ 32 ≤ intAsPlace
      (((front ++ skipped).length : Int) - 2 ^ 32) := by
    unfold intAsPlace
    omega
  rw [trimPass]
  simp only [intAsPlace_natCast frontSmall, find_some absent rest, index]
  rw [if_neg (by omega), if_pos (by omega)]
  exact ⟨_, rfl, rfl⟩

/-- In a string that is shorter than `npos` as an `int`, a far occurrence lets
`erase` throw. -/
theorem runLoop_trimPass_far {front back : Bytes} {fuel : Nat}
    (far : Far c front.length back) (small : front.length < 2 ^ 31)
    (short : (front ++ back).length < 2 ^ 32 - 1)
    (enough : back.length < fuel) :
    ∃ final, runLoop (trimPass c) fuel
        { index := front.length, str := front ++ back, thrown := false } =
      some final ∧ final.thrown = true := by
  induction fuel generalizing front back with
  | zero => omega
  | succ fuel ih =>
      have present : c ∈ back := by
        obtain ⟨before, after, rfl, -⟩ := far
        simp
      obtain ⟨skipped, rest, rfl, absent⟩ :=
        List.eq_append_cons_of_mem present
      by_cases skippedSmall : (front ++ skipped).length < 2 ^ 31
      · have restFar : Far c (front ++ skipped).length rest :=
          (far.behind absent).resolve_left (Nat.not_le.mpr skippedSmall)
        have restShort : ((front ++ skipped) ++ rest).length <
            2 ^ 32 - 1 := by
          simp only [List.length_append, List.length_cons] at short ⊢
          omega
        have restEnough : rest.length < fuel := by
          simp only [List.length_append, List.length_cons] at enough
          omega
        obtain ⟨final, ran, thrown⟩ :=
          ih restFar skippedSmall restShort restEnough
        refine ⟨final, ?_, thrown⟩
        rw [runLoop_again fuel (trimPass_again absent rest skippedSmall), ran]
      · obtain ⟨final, left, thrown⟩ := trimPass_thrown absent rest small
          (Nat.le_of_not_lt skippedSmall) short
        exact ⟨final, runLoop_leave fuel left, thrown⟩

/-- `trimString` removes the character everywhere, unless it is far. -/
theorem trimString_near {str : Bytes} (near : ¬ Far c 0 str) :
    trimString str c = .ok (str.filter (· ≠ c)) := by
  by_cases empty : str = []
  · rw [trimString, if_pos empty, empty]
    rfl
  · obtain ⟨index, ran⟩ : ∃ index, runLoop (trimPass c) (str.length + 1)
        { index := 0, str := [] ++ str, thrown := false } =
      some { index, str := [] ++ str.filter (· ≠ c), thrown := false } :=
      runLoop_trimPass near (by decide) (Nat.lt_succ_self str.length)
    rw [List.nil_append, List.nil_append] at ran
    simp only [trimString, if_neg empty, ran, Bool.false_eq_true, if_false]

theorem trimString_far {str : Bytes} (far : Far c 0 str)
    (short : str.length < 2 ^ 32 - 1) :
    trimString str c = .error .outOfRange := by
  have nonempty : str ≠ [] := by
    rintro rfl
    exact not_far_nil far
  obtain ⟨final, ran, thrown⟩ : ∃ final,
      runLoop (trimPass c) (str.length + 1)
          { index := 0, str := [] ++ str, thrown := false } = some final ∧
        final.thrown = true :=
    runLoop_trimPass_far far (by decide) (by exact short)
      (Nat.lt_succ_self str.length)
  rw [List.nil_append] at ran
  simp only [trimString, if_neg nonempty, ran, thrown, if_true]

/-! ### Cutting a string -/

/-- `trimTailAllString` keeps what is in front of the character. -/
theorem trimTailAllString_eq (str : Bytes) :
    trimTailAllString str c = str.takeWhile (· ≠ c) := by
  by_cases empty : str = []
  · rw [trimTailAllString, if_pos empty, empty]
    rfl
  rw [trimTailAllString, if_neg empty]
  by_cases present : c ∈ str
  · obtain ⟨front, rest, rfl, absent⟩ :=
      List.eq_append_cons_of_mem present
    rw [find_first absent rest]
    simp only [List.take_left]
    rw [List.takeWhile_append_of_pos, List.takeWhile_cons_of_neg (by simp),
      List.append_nil]
    intro byte member
    simpa using fun same : byte = c => absent (same ▸ member)
  · rw [find_nowhere present]
    apply (List.takeWhile_eq_self_iff.mpr _).symm
    intro byte member
    simpa using fun same : byte = c => present (same ▸ member)

/-- A string that does not start with the character. -/
theorem trimHeadString_cons {byte : UInt8} (other : byte ≠ c) (rest : Bytes) :
    trimHeadString (c :: byte :: rest) c = byte :: rest := by
  simp [trimHeadString, List.findIdx?_cons, other]

/-- A string that does not end with the character, and then it. -/
theorem trimTailString_append {init : Bytes} {byte : UInt8}
    (other : byte ≠ c) :
    trimTailString (init ++ [byte] ++ [c]) c = init ++ [byte] := by
  have reversed : (init ++ [byte] ++ [c]).reverse =
      c :: byte :: init.reverse := by simp
  have behind : (c :: byte :: init.reverse).findIdx? (· ≠ c) = some 1 := by
    simp [List.findIdx?_cons, other]
  rw [trimTailString, if_neg (by simp), reversed, behind]
  simp only [List.length_append, List.length_singleton, Nat.add_sub_cancel]
  exact List.take_left' (by simp)

/-- A string without the separator stays in one piece. -/
theorem splitString_whole {str : Bytes} (absent : c ∉ str) (index : Nat) :
    splitString str [] [c] index =
      .ok (if str = [] then [] else [str]) := by
  by_cases empty : str = []
  · rw [splitString, if_pos empty, if_pos empty]
  · have left : splitPass str [c] index
        { list := [], left := 0, right := none, ct := 0 } =
        .leave { list := [], left := 0, right := none, ct := 0 } := rfl
    have someBytes : 0 ≠ str.length := by
      simpa [eq_comm] using empty
    rw [splitString, if_neg empty, if_neg empty, find_nowhere absent,
      runLoop_leave _ left]
    simp only [if_neg someBytes, Nat.not_lt_zero, if_false, List.nil_append,
      List.drop_zero]

/-- Asked for one cut, `splitString` cuts a string at its first separator, if
something is behind it. -/
theorem splitString_once {front back : Bytes} (absent : c ∉ front)
    (nonempty : back ≠ []) :
    splitString (front ++ c :: back) [] [c] 1 = .ok [front, back] := by
  have found := find_first absent back
  have behind : (front ++ c :: back).drop (front.length + 1) = back := by
    rw [← List.drop_drop, List.drop_left]
    rfl
  have backLength : 0 < back.length := List.length_pos_of_ne_nil nonempty
  have left : splitPass (front ++ c :: back) [c] 1
      { list := [], left := 0, right := some front.length, ct := 0 } =
      .leave
        { list := [front], left := front.length + 1
          right := find (front ++ c :: back) [c] (front.length + 1)
          ct := 1 } := by
    simp [splitPass]
  rw [splitString, if_neg (by simp), found, runLoop_leave _ left]
  simp only [behind]
  rw [if_neg (by simp; omega), if_neg (by simp)]
  rfl

end EchoServer
