import Mathlib.Data.List.Basic
import Mathlib.Tactic.Common

/-!
# Files in the order in which they were first opened

Output goes to one file after the other.  Opening a file removes what it held,
and keeps its place if it was opened before.  The contents of all files, one
after the other, stay all that was written as long as a file is opened only
while it is empty with no output behind it.
-/

namespace EchoServer

namespace FileSequence

variable {Name α : Type*}

/-- What all files hold together. -/
def output (files : List (Name × List α)) : List α :=
  files.flatMap Prod.snd

/-- None of the files holds output. -/
def Blank (files : List (Name × List α)) : Prop :=
  ∀ file ∈ files, file.2 = []

theorem Blank.output {files : List (Name × List α)} (blank : Blank files) :
    output files = [] := by
  apply List.flatMap_eq_nil_iff.mpr
  exact blank

variable [DecidableEq Name]

/-- Open a file, which is empty afterwards. -/
def openTruncated (name : Name) :
    List (Name × List α) → List (Name × List α)
  | [] => [(name, [])]
  | file :: files =>
      if file.1 = name then (name, []) :: files
      else file :: openTruncated name files

/-- What opening a file removes. -/
def removed (name : Name) : List (Name × List α) → List α
  | [] => []
  | file :: files => if file.1 = name then file.2 else removed name files

/-- Write to the end of a file. -/
def append (name : Name) (data : List α) :
    List (Name × List α) → List (Name × List α)
  | [] => []
  | file :: files =>
      if file.1 = name then (name, file.2 ++ data) :: files
      else file :: append name data files

/-- If the file has been opened, it holds nothing, and neither does a file
behind it. -/
def BlankFrom (name : Name) : List (Name × List α) → Prop
  | [] => True
  | file :: files =>
      if file.1 = name then file.2 = [] ∧ Blank files
      else BlankFrom name files

/-- The file has been opened, and no file behind it holds output. -/
def EndsAt (name : Name) : List (Name × List α) → Prop
  | [] => False
  | file :: files =>
      if file.1 = name then Blank files else EndsAt name files

variable {name other : Name} {files : List (Name × List α)}

theorem Blank.openTruncated (blank : Blank files) :
    Blank (openTruncated name files) := by
  induction files with
  | nil => simp [FileSequence.openTruncated, Blank]
  | cons file files ih =>
      obtain ⟨headBlank, restBlank⟩ := List.forall_mem_cons.mp blank
      rw [FileSequence.openTruncated]
      split
      · exact List.forall_mem_cons.mpr ⟨rfl, restBlank⟩
      · exact List.forall_mem_cons.mpr ⟨headBlank, ih restBlank⟩

theorem blankFrom_of_notMem (notOpened : name ∉ files.map Prod.fst) :
    BlankFrom name files := by
  induction files with
  | nil => trivial
  | cons file files ih =>
      rw [List.map_cons, List.mem_cons, not_or] at notOpened
      rw [BlankFrom, if_neg (Ne.symm notOpened.1)]
      exact ih notOpened.2

namespace BlankFrom

theorem removed (blank : BlankFrom name files) :
    removed name files = [] := by
  induction files with
  | nil => rfl
  | cons file files ih =>
      rw [BlankFrom] at blank
      rw [FileSequence.removed]
      by_cases opened : file.1 = name
      · rw [if_pos opened] at blank ⊢
        exact blank.1
      · rw [if_neg opened] at blank ⊢
        exact ih blank

/-- Opening such a file changes nothing that is written. -/
theorem output (blank : BlankFrom name files) :
    output (openTruncated name files) = output files := by
  induction files with
  | nil => rfl
  | cons file files ih =>
      rw [BlankFrom] at blank
      rw [FileSequence.openTruncated]
      by_cases opened : file.1 = name
      · rw [if_pos opened] at blank ⊢
        simp only [FileSequence.output, List.flatMap_cons, blank.1]
      · rw [if_neg opened] at blank ⊢
        have rest := ih blank
        simp only [FileSequence.output, List.flatMap_cons] at rest ⊢
        rw [rest]

theorem endsAt (blank : BlankFrom name files) :
    EndsAt name (openTruncated name files) := by
  induction files with
  | nil => simp [FileSequence.openTruncated, EndsAt, Blank]
  | cons file files ih =>
      rw [BlankFrom] at blank
      rw [FileSequence.openTruncated]
      split at blank
      · rw [if_pos ‹_›, EndsAt, if_pos rfl]
        exact blank.2
      · rw [if_neg ‹_›, EndsAt, if_neg ‹_›]
        exact ih blank

/-- What was blank stays blank when another file is opened. -/
theorem openTruncated (blank : BlankFrom other files) :
    BlankFrom other (openTruncated name files) := by
  induction files with
  | nil => simp [FileSequence.openTruncated, BlankFrom, Blank]
  | cons file files ih =>
      rw [BlankFrom] at blank
      by_cases opened : file.1 = name
      · rw [FileSequence.openTruncated, if_pos opened, BlankFrom, ← opened]
        split at blank
        · exact (if_pos ‹_›).mpr ⟨rfl, blank.2⟩
        · exact (if_neg ‹_›).mpr blank
      · rw [FileSequence.openTruncated, if_neg opened, BlankFrom]
        split at blank
        · exact (if_pos ‹_›).mpr ⟨blank.1, blank.2.openTruncated⟩
        · exact (if_neg ‹_›).mpr (ih blank)

end BlankFrom

theorem mem_names_openTruncated :
    other ∈ (openTruncated name files).map Prod.fst ↔
      other = name ∨ other ∈ files.map Prod.fst := by
  induction files with
  | nil => simp [openTruncated]
  | cons file files ih =>
      rw [openTruncated]
      split
      · rename_i opened
        simp [opened]
      · rw [List.map_cons, List.mem_cons, ih, List.map_cons, List.mem_cons]
        exact or_left_comm

@[simp]
theorem names_append (data : List α) :
    (append name data files).map Prod.fst = files.map Prod.fst := by
  induction files with
  | nil => rfl
  | cons file files ih =>
      rw [append]
      split
      · rename_i same
        simp [same]
      · simp [ih]

/-- Writing nothing changes nothing. -/
theorem append_nil : append name [] files = files := by
  induction files with
  | nil => rfl
  | cons file files ih =>
      rw [append]
      split
      · rename_i same
        rw [← same, List.append_nil]
      · rw [ih]

namespace EndsAt

/-- What is written to such a file is the last of all output. -/
theorem output_append (ends : EndsAt name files) (data : List α) :
    output (append name data files) = output files ++ data := by
  induction files with
  | nil => exact ends.elim
  | cons file files ih =>
      rw [EndsAt] at ends
      rw [FileSequence.append]
      split at ends
      · rw [if_pos ‹_›]
        have nothing : files.flatMap Prod.snd = [] := ends.output
        simp only [output, List.flatMap_cons, nothing, List.append_nil]
      · rw [if_neg ‹_›]
        have rest := ih ends
        simp only [output, List.flatMap_cons] at rest ⊢
        rw [rest, List.append_assoc]

theorem append (ends : EndsAt name files) (data : List α) :
    EndsAt name (append name data files) := by
  induction files with
  | nil => exact ends.elim
  | cons file files ih =>
      rw [EndsAt] at ends
      rw [FileSequence.append]
      split at ends
      · rw [if_pos ‹_›, EndsAt, if_pos rfl]
        exact ends
      · rw [if_neg ‹_›, EndsAt, if_neg ‹_›]
        exact ih ends

end EndsAt

end FileSequence

end EchoServer
