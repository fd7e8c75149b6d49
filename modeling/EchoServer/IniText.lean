import EchoServer.ParseIni

/-!
# What an ini text says

A dictionary is written as lines: titles, pairs of a key and its value, and
lines that say nothing.  Blanks may stand anywhere in a line, and a comment at
its end.  As long as `trimString` finds its characters at places that are an
`int`, the parser reads the dictionary back.
-/

namespace EchoServer

/-- The blanks that may stand anywhere in a line. -/
def IsBlank (byte : UInt8) : Prop :=
  byte = space ∨ byte = tab ∨ byte = carriageReturn

instance (byte : UInt8) : Decidable (IsBlank byte) :=
  inferInstanceAs (Decidable (_ ∨ _))

/-- The characters that a title, a key or a value may have. -/
def IsPlain (byte : UInt8) : Prop :=
  ¬ IsBlank byte ∧ byte ≠ lineFeed ∧ byte ≠ hash

instance (byte : UInt8) : Decidable (IsPlain byte) :=
  inferInstanceAs (Decidable (_ ∧ _))

instance (words : Bytes) : Decidable (∀ byte ∈ words, IsPlain byte) :=
  List.decidableBAll IsPlain words

/-- What is left of a line without its spaces and its comment. -/
def uncomment (line : Bytes) : Bytes :=
  (line.filter (· ≠ space)).takeWhile (· ≠ hash)

theorem uncomment_length (line : Bytes) :
    (uncomment line).length ≤ line.length := by
  have cut := (List.takeWhile_sublist (l := line.filter (· ≠ space))
    (· ≠ hash)).length_le
  exact Nat.le_trans cut (List.length_filter_le _ _)

/-- What is left of a line without its blanks and its comment. -/
def strip (line : Bytes) : Bytes :=
  ((uncomment line).filter (· ≠ carriageReturn)).filter (· ≠ tab)

/-- A line decorates a text: it is the text with blanks anywhere, and maybe a
comment behind it. -/
inductive Decorates : Bytes → Bytes → Prop
  | done : Decorates [] []
  | comment {words : Bytes} (oneLine : lineFeed ∉ words) :
      Decorates (hash :: words) []
  | blank {byte : UInt8} {line core : Bytes} (isBlank : IsBlank byte)
      (rest : Decorates line core) : Decorates (byte :: line) core
  | byte {byte : UInt8} {line core : Bytes} (rest : Decorates line core) :
      Decorates (byte :: line) (byte :: core)

/-- What a line is without its decoration. -/
inductive IniLine
  | title (words : Bytes)
  | pair (key value : Bytes)
  | other (words : Bytes)

def IsTitle (title : Bytes) : Prop :=
  title ≠ [] ∧ (∀ byte ∈ title, IsPlain byte) ∧
    title.head? ≠ some openingBracket ∧ title.getLast? ≠ some closingBracket

instance (title : Bytes) : Decidable (IsTitle title) :=
  inferInstanceAs (Decidable (_ ∧ _))

def IsKey (key : Bytes) : Prop :=
  key ≠ [] ∧ (∀ byte ∈ key, IsPlain byte) ∧
    key.head? ≠ some openingBracket ∧ equalsSign ∉ key

instance (key : Bytes) : Decidable (IsKey key) :=
  inferInstanceAs (Decidable (_ ∧ _))

def IsValue (value : Bytes) : Prop :=
  value ≠ [] ∧ (∀ byte ∈ value, IsPlain byte) ∧ equalsSign ∉ value

instance (value : Bytes) : Decidable (IsValue value) :=
  inferInstanceAs (Decidable (_ ∧ _))

namespace IniLine

/-- The line as it is written without decoration. -/
def core : IniLine → Bytes
  | .title words => openingBracket :: words ++ [closingBracket]
  | .pair key value => key ++ equalsSign :: value
  | .other words => words

/-- A line that says nothing has neither an equals sign nor an opening
bracket. -/
def Valid : IniLine → Prop
  | .title words => IsTitle words
  | .pair key value => IsKey key ∧ IsValue value
  | .other words => (∀ byte ∈ words, IsPlain byte) ∧ equalsSign ∉ words ∧
      openingBracket ∉ words

/-- The pairs of some lines, with the titles that they stand under. -/
def pairs : Bytes → List IniLine → List (Bytes × Bytes × Bytes)
  | _, [] => []
  | _, .title words :: lines => pairs words lines
  | under, .pair key value :: lines =>
      (under, key, value) :: pairs under lines
  | under, .other _ :: lines => pairs under lines

end IniLine

/-- A text consists of these lines, decorated; the last one may be without its
line feed. -/
inductive Consists : Bytes → List IniLine → Prop
  | nothing : Consists [] []
  | last {line : Bytes} {item : IniLine}
      (decorates : Decorates line item.core) : Consists line [item]
  | line {line text : Bytes} {item : IniLine} {items : List IniLine}
      (decorates : Decorates line item.core) (rest : Consists text items) :
      Consists (line ++ lineFeed :: text) (item :: items)

/-- A text writes a dictionary: its lines are valid, and their pairs are those
of the dictionary, in any order. -/
structure Writes (text : Bytes) (dictionary : Bytes → Bytes → Option Bytes)
    (items : List IniLine) : Prop where
  consists : Consists text items
  valid : ∀ item ∈ items, item.Valid
  titled : ∀ title key value, dictionary title key = some value →
    IsTitle title
  pairs : ∀ title key value,
    (title, key, value) ∈ IniLine.pairs [] items ↔
      dictionary title key = some value

namespace Decorates

variable {line core : Bytes}

/-- A decorated line is one line. -/
theorem lineFeed_notMem (decorates : Decorates line core)
    (plain : ∀ byte ∈ core, IsPlain byte) : lineFeed ∉ line := by
  induction decorates with
  | done => simp
  | comment oneLine =>
      rw [List.mem_cons, not_or]
      exact ⟨by decide, oneLine⟩
  | blank isBlank _ ih =>
      rw [List.mem_cons, not_or]
      refine ⟨?_, ih plain⟩
      rintro rfl
      exact absurd isBlank (by decide)
  | byte _ ih =>
      rw [List.forall_mem_cons] at plain
      rw [List.mem_cons, not_or]
      exact ⟨plain.1.2.1.symm, ih plain.2⟩

/-- What the trims and the cut leave of a line is what it decorates. -/
theorem stripped (decorates : Decorates line core)
    (plain : ∀ byte ∈ core, IsPlain byte) : strip line = core := by
  induction decorates with
  | done => rfl
  | comment oneLine => rfl
  | blank isBlank _ ih => rcases isBlank with rfl | rfl | rfl <;> exact ih plain
  | byte _ ih =>
      rw [List.forall_mem_cons] at plain
      obtain ⟨⟨notBlank, -, notHash⟩, plain⟩ := plain
      rw [IsBlank, not_or, not_or] at notBlank
      obtain ⟨notSpace, notTab, notReturn⟩ := notBlank
      rw [strip, uncomment, List.filter_cons_of_pos (by simpa using notSpace),
        List.takeWhile_cons_of_pos (by simpa using notHash),
        List.filter_cons_of_pos (by simpa using notReturn),
        List.filter_cons_of_pos (by simpa using notTab)]
      exact congrArg _ (ih plain)

end Decorates

/-- Every space, carriage return and tab that `load` removes from a line is
found at a place that is an `int`. -/
def InReach (line : Bytes) : Prop :=
  ¬ Far space 0 line ∧ ¬ Far carriageReturn 0 (uncomment line) ∧
    ¬ Far tab 0 ((uncomment line).filter (· ≠ carriageReturn))

theorem inReach_nil : InReach [] :=
  ⟨not_far_nil, not_far_nil, not_far_nil⟩

/-- The characters of a valid line, its brackets and its sign among them, are
plain. -/
theorem IniLine.Valid.plain {item : IniLine} (valid : item.Valid) :
    ∀ byte ∈ item.core, IsPlain byte := by
  have sign : IsPlain equalsSign ∧ IsPlain openingBracket ∧
      IsPlain closingBracket := by decide
  intro byte member
  cases item with
  | title words =>
      simp only [core, List.cons_append, List.mem_cons, List.mem_append,
        List.not_mem_nil, or_false] at member
      rcases member with rfl | inside | rfl
      · exact sign.2.1
      · exact valid.2.1 byte inside
      · exact sign.2.2
  | pair key value =>
      simp only [core, List.mem_append, List.mem_cons] at member
      rcases member with inKey | rfl | inValue
      · exact valid.1.2.1 byte inKey
      · exact sign.1
      · exact valid.2.2.1 byte inValue
  | other words => exact valid.1 byte member

namespace ParserIni

variable {line : Bytes}

theorem take_nil (ini : ParserIni) : ini.take [] = .ok ini := by
  by_cases untitled : ini.title = []
  · simp [ParserIni.take, untitled, openingBracket, pure, Except.pure]
  · simp [ParserIni.take, untitled, openingBracket, splitString, pure,
      Except.pure, bind, Except.bind]

theorem uncomment_nil (empty : line.filter (· ≠ space) = []) :
    uncomment line = [] := by
  rw [uncomment, empty]
  rfl

theorem uncomment_comment
    (comment : (line.filter (· ≠ space)).getD 0 0 = hash) :
    uncomment line = [] := by
  rw [uncomment]
  cases split : line.filter (· ≠ space) with
  | nil => rfl
  | cons byte rest =>
      rw [split] at comment
      obtain rfl : byte = hash := comment
      exact List.takeWhile_cons_of_neg (by simp)

/-- The stages of a line. -/
theorem loadLine_inReach (ini : ParserIni) (inReach : InReach line) :
    ini.loadLine line = ini.take (strip line) := by
  obtain ⟨spaces, returns, tabs⟩ := inReach
  simp only [loadLine, trimString_near spaces, trimTailAllString_eq, bind,
    Except.bind, pure, Except.pure]
  by_cases empty : line.filter (· ≠ space) = []
  · rw [if_pos empty, strip, uncomment_nil empty]
    exact (take_nil ini).symm
  · rw [if_neg empty]
    by_cases comment : (line.filter (· ≠ space)).getD 0 0 = hash
    · rw [if_pos comment, strip, uncomment_comment comment]
      exact (take_nil ini).symm
    · have cut : (line.filter (· ≠ space)).takeWhile (· ≠ hash) =
          uncomment line := rfl
      rw [if_neg comment, cut, trimString_near returns]
      simp only [trimString_near tabs]
      rfl

/-- In a line that is shorter than `npos` as an `int`, a character out of
reach makes `load` fail. -/
theorem inReach_of_loadLine {ini next : ParserIni}
    (short : line.length < 2 ^ 32 - 1)
    (loaded : ini.loadLine line = .ok next) : InReach line := by
  have cutShort : (uncomment line).length < 2 ^ 32 - 1 :=
    Nat.lt_of_le_of_lt (uncomment_length line) short
  have spaces : ¬ Far space 0 line := by
    intro far
    rw [loadLine, trimString_far far short] at loaded
    cases loaded
  simp only [loadLine, trimString_near spaces, trimTailAllString_eq, bind,
    Except.bind, pure, Except.pure] at loaded
  by_cases skipped : uncomment line = []
  · rw [InReach, skipped]
    exact ⟨spaces, not_far_nil, not_far_nil⟩
  have cut : (line.filter (· ≠ space)).takeWhile (· ≠ hash) =
      uncomment line := rfl
  rw [if_neg fun empty => skipped (uncomment_nil empty),
    if_neg fun comment => skipped (uncomment_comment comment), cut] at loaded
  have returns : ¬ Far carriageReturn 0 (uncomment line) := by
    intro far
    rw [trimString_far far cutShort] at loaded
    cases loaded
  refine ⟨spaces, returns, ?_⟩
  intro far
  have shorter := List.length_filter_le (· ≠ carriageReturn) (uncomment line)
  rw [trimString_near returns] at loaded
  simp only [trimString_far far (Nat.lt_of_le_of_lt shorter cutShort)]
    at loaded
  cases loaded

/-- What a line does to the parser. -/
def say (ini : ParserIni) : IniLine → ParserIni
  | .title words => { ini with title := words }
  | .pair key value => if ini.title = [] then ini else ini.insert key value
  | .other _ => ini

theorem take_title (ini : ParserIni) {words : Bytes}
    (isTitle : IsTitle words) :
    ini.take (IniLine.title words).core =
      .ok { ini with title := words } := by
  obtain ⟨nonempty, -, first, last⟩ := isTitle
  obtain ⟨byte, rest, rfl⟩ := List.exists_cons_of_ne_nil nonempty
  obtain ⟨init, final, split⟩ := List.eq_nil_or_concat (byte :: rest)
    |>.resolve_left nonempty
  rw [List.concat_eq_append] at split
  have firstOther : byte ≠ openingBracket := by simpa using first
  have lastOther : final ≠ closingBracket := by
    rw [split] at last
    simpa using last
  have isBracket : (openingBracket :: (byte :: rest) ++
      [closingBracket]).getD 0 0 = openingBracket := rfl
  rw [ParserIni.take, IniLine.core, if_pos isBracket, List.cons_append,
    List.cons_append, trimHeadString_cons firstOther, ← List.cons_append,
    split, trimTailString_append lastOther]
  rfl

/-- A line that is not a title is split at its equals sign. -/
theorem take_untitled (ini : ParserIni) {words : Bytes}
    (other : words.head? ≠ some openingBracket) :
    ini.take words =
      if ini.title = [] then .ok ini
      else
        (splitString words [] [equalsSign] 1).map fun list =>
          match list with
          | key :: value :: _ => ini.insert key value
          | _ => ini := by
  have notBracket : words.getD 0 0 ≠ openingBracket := by
    cases words with
    | nil => decide
    | cons byte rest => simpa using other
  rw [ParserIni.take, if_neg notBracket]
  by_cases untitled : ini.title = []
  · rw [if_pos untitled, if_pos untitled]
    rfl
  · rw [if_neg untitled, if_neg untitled]
    cases splitString words [] [equalsSign] 1 with
    | error fault => rfl
    | ok list =>
        rcases list with - | ⟨key, - | ⟨value, more⟩⟩ <;> rfl

theorem take_pair (ini : ParserIni) {key value : Bytes} (isKey : IsKey key)
    (isValue : IsValue value) :
    ini.take (IniLine.pair key value).core =
      .ok (ini.say (.pair key value)) := by
  obtain ⟨nonempty, -, first, noEquals⟩ := isKey
  have other : (IniLine.pair key value).core.head? ≠ some openingBracket := by
    obtain ⟨byte, rest, rfl⟩ := List.exists_cons_of_ne_nil nonempty
    exact first
  rw [take_untitled ini other, IniLine.core,
    splitString_once noEquals isValue.1, say]
  split_ifs <;> rfl

theorem take_other (ini : ParserIni) {words : Bytes}
    (noEquals : equalsSign ∉ words) (noBracket : openingBracket ∉ words) :
    ini.take words = .ok ini := by
  have other : words.head? ≠ some openingBracket := by
    intro first
    exact noBracket (List.mem_of_head? first)
  rw [take_untitled ini other, splitString_whole noEquals]
  split_ifs <;> rfl

/-- What the parser takes from a line without decoration. -/
theorem take_core (ini : ParserIni) {item : IniLine} (valid : item.Valid) :
    ini.take item.core = .ok (ini.say item) := by
  cases item with
  | title words => exact take_title ini valid
  | pair key value => exact take_pair ini valid.1 valid.2
  | other words => exact take_other ini valid.2.1 valid.2.2

/-! ### The lines of a text -/

theorem getlines_line {line : Bytes} (oneLine : lineFeed ∉ line)
    (text : Bytes) :
    getlines (line ++ lineFeed :: text) = line :: getlines text := by
  induction line with
  | nil => rw [List.nil_append, getlines, if_pos rfl]
  | cons byte line ih =>
      rw [List.mem_cons, not_or] at oneLine
      rw [List.cons_append, getlines, if_neg (Ne.symm oneLine.1),
        ih oneLine.2]

/-- A text without a line feed is one line, or none. -/
theorem getlines_last {line : Bytes} (oneLine : lineFeed ∉ line) :
    getlines line = if line = [] then [] else [line] := by
  induction line with
  | nil => rfl
  | cons byte line ih =>
      rw [List.mem_cons, not_or] at oneLine
      rw [getlines, if_neg (Ne.symm oneLine.1), ih oneLine.2,
        if_neg (List.cons_ne_nil byte line)]
      split_ifs with empty
      · rw [empty]
      · rfl

/-- A decorated line says what it says without decoration. -/
theorem loadLine_decorates (ini : ParserIni) {line : Bytes} {item : IniLine}
    (decorates : Decorates line item.core) (valid : item.Valid)
    (inReach : InReach line) : ini.loadLine line = .ok (ini.say item) := by
  rw [loadLine_inReach ini inReach, decorates.stripped valid.plain,
    take_core ini valid]

/-- The lines of a text say one after the other what they say. -/
theorem foldlM_consists {text : Bytes} {items : List IniLine}
    (consists : Consists text items) (ini : ParserIni)
    (valid : ∀ item ∈ items, item.Valid)
    (inReach : ∀ line ∈ getlines text, InReach line) :
    (getlines text).foldlM loadLine ini = .ok (items.foldl say ini) := by
  induction consists generalizing ini with
  | nothing => rfl
  | last decorates =>
      rename_i line item
      rw [List.forall_mem_singleton] at valid
      have oneLine := decorates.lineFeed_notMem valid.plain
      rw [getlines_last oneLine] at inReach ⊢
      split_ifs at inReach ⊢ with empty
      · have nothing := loadLine_decorates ini decorates valid
          (empty ▸ inReach_nil)
        rw [empty] at nothing
        exact nothing
      · rw [List.forall_mem_singleton] at inReach
        have said := loadLine_decorates ini decorates valid inReach
        simp only [List.foldlM_cons, List.foldlM_nil, said]
        rfl
  | line decorates rest ih =>
      rw [List.forall_mem_cons] at valid
      have oneLine := decorates.lineFeed_notMem valid.1.plain
      rw [getlines_line oneLine, List.forall_mem_cons] at inReach
      have said := loadLine_decorates ini decorates valid.1 inReach.1
      rw [getlines_line oneLine, List.foldlM_cons, said]
      exact ih _ valid.2 inReach.2

/-! ### The dictionary -/

/-- The first value of a key is found, if the title has one. -/
theorem getString_foldl (items : List IniLine) (ini : ParserIni)
    (titled : ∀ pair ∈ IniLine.pairs ini.title items, pair.1 ≠ [])
    (title key : Bytes) :
    (items.foldl say ini).getString title key =
      (ini.getString title key).or
        ((IniLine.pairs ini.title items).findSome? fun pair =>
          if title = pair.1 ∧ key = pair.2.1 then some pair.2.2
          else none) := by
  induction items generalizing ini with
  | nil => simp [IniLine.pairs]
  | cons item items ih =>
      cases item with
      | title words => exact ih _ titled
      | pair newKey value =>
          rw [IniLine.pairs, List.forall_mem_cons] at titled
          have inserted : ini.say (.pair newKey value) =
              ini.insert newKey value := if_neg titled.1
          have rest := ih (ini.insert newKey value) titled.2
          rw [getString_insert, Option.or_assoc] at rest
          rw [List.foldl_cons, inserted, rest, IniLine.pairs,
            List.findSome?_cons]
          congr 1
          split_ifs <;> rfl
      | other words => exact ih _ titled

/-- A text that writes a dictionary says this dictionary. -/
theorem getString_writes {text : Bytes} {items : List IniLine}
    {dictionary : Bytes → Bytes → Option Bytes}
    (writes : Writes text dictionary items) (title key : Bytes) :
    (items.foldl say start).getString title key = dictionary title key := by
  have titled : ∀ pair ∈ IniLine.pairs start.title items, pair.1 ≠ [] := by
    rintro ⟨title, key, value⟩ member
    have written := (writes.pairs title key value).mp member
    exact (writes.titled title key value written).1
  have nothing : start.getString title key = none := by
    simp [start, getString]
  rw [getString_foldl items start titled, nothing, Option.none_or]
  cases found : (IniLine.pairs start.title items).findSome? fun pair =>
      if title = pair.1 ∧ key = pair.2.1 then some pair.2.2 else none with
  | none =>
      rw [List.findSome?_eq_none_iff] at found
      cases written : dictionary title key with
      | none => rfl
      | some value =>
          have absent := found (title, key, value)
            ((writes.pairs title key value).mpr written)
          simp at absent
  | some value =>
      obtain ⟨⟨otherTitle, otherKey, otherValue⟩, member, same⟩ :=
        List.exists_of_findSome?_eq_some found
      simp only [Option.ite_none_right_eq_some, Option.some.injEq] at same
      obtain ⟨⟨rfl, rfl⟩, rfl⟩ := same
      exact ((writes.pairs title key otherValue).mp member).symm

end ParserIni

/-- The parser reads the dictionary back: `load` returns true, and `getString`
finds the value of every pair and nothing else. -/
def Recovers (text : Bytes) (dictionary : Bytes → Bytes → Option Bytes) :
    Prop :=
  ∃ ini, ParserIni.load text = .ok (true, ini) ∧
    ∀ title key, ini.getString title key = dictionary title key

/-- Where `load` returns, every line has been loaded. -/
theorem ParserIni.loaded_of_foldlM {lines : List Bytes}
    {ini final : ParserIni}
    (loaded : lines.foldlM loadLine ini = .ok final) :
    ∀ line ∈ lines, ∃ before after : ParserIni,
      before.loadLine line = .ok after := by
  induction lines generalizing ini with
  | nil => simp
  | cons line lines ih =>
      rw [List.foldlM_cons] at loaded
      cases first : ini.loadLine line with
      | error fault =>
          rw [first] at loaded
          cases loaded
      | ok next =>
          rw [first] at loaded
          rw [List.forall_mem_cons]
          exact ⟨⟨ini, next, first⟩, ih loaded⟩

/-- If `load` returns, all characters were in reach. -/
theorem inReach_of_recovers {text : Bytes}
    {dictionary : Bytes → Bytes → Option Bytes}
    (short : ∀ line ∈ ParserIni.getlines text, line.length < 2 ^ 32 - 1)
    (recovers : Recovers text dictionary) :
    ∀ line ∈ ParserIni.getlines text, InReach line := by
  obtain ⟨final, loaded, -⟩ := recovers
  rw [ParserIni.load] at loaded
  cases folded : (ParserIni.getlines text).foldlM ParserIni.loadLine
      .start with
  | error fault =>
      rw [folded] at loaded
      cases loaded
  | ok reached =>
      intro line member
      obtain ⟨before, after, lineLoaded⟩ :=
        ParserIni.loaded_of_foldlM folded line member
      exact ParserIni.inReach_of_loadLine (short line member) lineLoaded

/-- Whatever dictionary with a pair a text writes, in whatever order and
however decorated: if `trimString` finds all its characters at places that are
an `int`, the dictionary is read back; and where no line is as long as `npos`
as an `int`, it is read back only then. -/
theorem parseIni_recovers (text : Bytes) (items : List IniLine)
    (dictionary : Bytes → Bytes → Option Bytes)
    (writes : Writes text dictionary items)
    (nonempty : ∃ title key value, dictionary title key = some value) :
    ((∀ line ∈ ParserIni.getlines text, InReach line) →
        Recovers text dictionary) ∧
      ((∀ line ∈ ParserIni.getlines text, line.length < 2 ^ 32 - 1) →
        Recovers text dictionary →
          ∀ line ∈ ParserIni.getlines text, InReach line) := by
  constructor
  · intro inReach
    have loaded := ParserIni.foldlM_consists writes.consists .start
      writes.valid inReach
    obtain ⟨title, key, value, written⟩ := nonempty
    have found := ParserIni.getString_writes writes title key
    rw [written] at found
    refine ⟨items.foldl ParserIni.say .start, ?_,
      ParserIni.getString_writes writes⟩
    rw [ParserIni.load, loaded]
    simp only [bind, Except.bind, pure, Except.pure,
      ParserIni.size_pos found, decide_true]
  · exact inReach_of_recovers

/-- A line with no more characters than an `int` counts is in reach. -/
theorem inReach_of_short {line : Bytes} (short : line.length ≤ 2 ^ 31) :
    InReach line := by
  have near : ∀ c : UInt8, ∀ str : Bytes, str.length ≤ 2 ^ 31 →
      ¬ Far c 0 str := by
    rintro c str bound ⟨before, after, rfl, far⟩
    have kept := List.length_filter_le (· ≠ c) before
    simp only [List.length_append, List.length_cons] at bound
    omega
  have cut : (uncomment line).length ≤ line.length :=
    uncomment_length line
  have kept := List.length_filter_le (· ≠ carriageReturn) (uncomment line)
  exact ⟨near _ _ short, near _ _ (by omega), near _ _ (by omega)⟩

/-- The dictionary with one pair. -/
def onePair (title key : Bytes) : Option Bytes :=
  if title = [97] ∧ key = [107] then some [118] else none

/-- The lines that write it. -/
def onePairLines : List IniLine :=
  [.title [97], .pair [107] [118]]

/-- A text with these lines writes the dictionary. -/
theorem onePair_writes {text : Bytes} (consists : Consists text onePairLines) :
    Writes text onePair onePairLines := by
  refine ⟨consists, ?_, ?_, ?_⟩
  · intro item member
    simp only [onePairLines, List.mem_cons, List.not_mem_nil, or_false]
      at member
    rcases member with rfl | rfl
    · exact (by decide : IsTitle [97])
    · exact (by decide : IsKey [107] ∧ IsValue [118])
  · intro title key value written
    simp only [onePair, Option.ite_none_right_eq_some] at written
    obtain ⟨⟨rfl, -⟩, -⟩ := written
    decide
  · intro title key value
    simp [onePairLines, IniLine.pairs, onePair, and_assoc, eq_comm]

/-- `"[a]\n\tk = v #!"`. -/
def onePairText : Bytes :=
  [91, 97, 93] ++ lineFeed :: [9, 107, 32, 61, 32, 118, 32, 35, 33]

theorem onePairText_consists : Consists onePairText onePairLines := by
  refine .line (.byte (.byte (.byte .done))) (.last ?_)
  refine .blank (by decide) (.byte (.blank (by decide) (.byte ?_)))
  exact .blank (by decide)
    (.byte (.blank (by decide) (.comment (by decide))))

/-- It is read back. -/
theorem parseIni_onePair : Recovers onePairText onePair := by
  have lines : ∀ line ∈ ParserIni.getlines onePairText,
      line.length ≤ 9 := by decide
  have inReach : ∀ line ∈ ParserIni.getlines onePairText, InReach line := by
    intro line member
    exact inReach_of_short (Nat.le_trans (lines line member) (by decide))
  exact (parseIni_recovers onePairText onePairLines onePair
    (onePair_writes onePairText_consists) ⟨[97], [107], [118], rfl⟩).1 inReach

/-- A pair and a comment of letters and a space. -/
def longComment (letters : Nat) : Bytes :=
  [107, 61, 118] ++ hash :: (List.replicate letters 120 ++ [space])

/-- A title in front of it. -/
def longText (letters : Nat) : Bytes :=
  [91, 97, 93] ++ lineFeed :: longComment letters

section LongText

variable {letters : Nat}

theorem longComment_decorates :
    Decorates (longComment letters) (IniLine.pair [107] [118]).core := by
  refine .byte (.byte (.byte (.comment ?_)))
  rw [List.mem_append, List.mem_singleton, List.mem_replicate]
  rintro (⟨-, letter⟩ | isSpace)
  · exact absurd letter (by decide)
  · exact absurd isSpace (by decide)

theorem longText_consists : Consists (longText letters) onePairLines :=
  .line (.byte (.byte (.byte .done))) (.last longComment_decorates)

theorem longComment_length : (longComment letters).length = letters + 5 := by
  simp [longComment]

theorem longText_lines :
    ParserIni.getlines (longText letters) =
      [[91, 97, 93], longComment letters] := by
  have oneLine : lineFeed ∉ longComment letters :=
    longComment_decorates.lineFeed_notMem (by decide)
  have nonempty : longComment letters ≠ [] := by simp [longComment]
  rw [longText, ParserIni.getlines_line (by decide),
    ParserIni.getlines_last oneLine, if_neg nonempty]

/-- The space is out of reach. -/
theorem longComment_far (many : 2 ^ 31 ≤ letters) :
    Far space 0 (longComment letters) := by
  refine ⟨[107, 61, 118] ++ hash :: List.replicate letters 120, [], ?_, ?_⟩
  · simp [longComment]
  · have kept : ∀ byte ∈ [107, 61, 118] ++ hash :: List.replicate letters 120,
        decide (byte ≠ space) = true := by
      intro byte member
      simp only [List.mem_append, List.mem_cons, List.not_mem_nil, or_false,
        List.mem_replicate] at member
      rcases member with (rfl | rfl | rfl) | rfl | ⟨-, rfl⟩ <;> decide
    rw [List.filter_eq_self.mpr kept]
    simp only [List.length_append, List.length_cons, List.length_nil,
      List.length_replicate]
    omega

theorem longText_not_recovered (many : 2 ^ 31 ≤ letters)
    (short : letters + 5 < 2 ^ 32 - 1) :
    ¬ Recovers (longText letters) onePair := by
  intro recovers
  have shortLines : ∀ line ∈ ParserIni.getlines (longText letters),
      line.length < 2 ^ 32 - 1 := by
    rw [longText_lines, List.forall_mem_cons, List.forall_mem_singleton,
      longComment_length]
    exact ⟨by decide, short⟩
  have inReach := inReach_of_recovers shortLines recovers
  rw [longText_lines] at inReach
  exact (inReach (longComment letters) (by simp)).1 (longComment_far many)

end LongText

/-- A text that writes the dictionary and, because its last line is longer
than an `int` counts, is not read back. -/
theorem parseIni_longText :
    Writes (longText (2 ^ 31)) onePair onePairLines ∧
      onePair [97] [107] = some [118] ∧
      ¬ Recovers (longText (2 ^ 31)) onePair :=
  ⟨onePair_writes longText_consists, rfl,
    longText_not_recovered (by decide) (by decide)⟩

end EchoServer
