import EchoServer.CalendarTime
import EchoServer.FileSequence
import EchoServer.Log
import Mathlib.Data.List.Infix

/-!
# The files of the log

`Log::openFile`.  A file is named after the day and the second in which it is
opened, and opened with truncation.
-/

namespace EchoServer

open FileSequence

/-- The day and the time of day that a file is named after. -/
structure Stamp where
  day : Nat
  time : List Char
  deriving DecidableEq

/-- `name` in `openFile`. -/
def fileName (sFilename : List Char) (stamp : Stamp) : List Char :=
  sFilename ++ ['_'] ++ Nat.toDigits 10 stamp.day ++ ['_'] ++ stamp.time ++
    ['.', 'l', 'o', 'g']

/-- What a step of the log thread gets from outside: the times at which it
reads the clock, and whether `_fp.open` succeeds. -/
structure LogOutside where
  nameDay : Nat
  nameTime : Nat
  lastDay : Nat
  nowDay : Nat
  opens : Bool

/-- What the name of a file is made of if it is opened now. -/
def LogOutside.stamp (outside : LogOutside) : Stamp where
  day := getNowDay outside.nameDay
  time := getNowTimeStr outside.nameTime

/-- The other fields of `Log`, and the files of the run.  `lost` is what
truncations have removed; `oldStamps` are those of all openings since which
output has been written, and `newStamps` those of the openings since then. -/
structure LogFiles where
  sFilename : List Char
  nFileSize : Nat
  nNowDay : Nat
  nLastDay : Nat
  nNowUseSize : Nat
  fp : Option (List Char)
  disk : List (List Char × Bytes)
  lost : Bytes
  oldStamps : List Stamp
  newStamps : List Stamp

namespace LogFiles

/-- After `setConfig`. -/
def setConfig (sFilename : List Char) (nFileSize nNowDay : Nat) : LogFiles where
  sFilename := sFilename
  nFileSize := nFileSize
  nNowDay := nNowDay
  nLastDay := 0
  nNowUseSize := 0
  fp := none
  disk := []
  lost := []
  oldStamps := []
  newStamps := []

/-- `openFile` has to open a file: none is open, or the one that is has to be
closed for its size or for its day. -/
def Rotates (files : LogFiles) : Prop :=
  files.fp = none ∨ files.nNowUseSize ≥ files.nFileSize ∨
    files.nLastDay ≠ files.nNowDay

instance (files : LogFiles) : Decidable files.Rotates :=
  inferInstanceAs (Decidable (_ ∨ _))

/-- A successful `_fp.open` of the file with the given stamp. -/
def openLog (stamp : Stamp) (files : LogFiles) : LogFiles :=
  let name := fileName files.sFilename stamp
  { files with
    fp := some name
    disk := openTruncated name files.disk
    lost := files.lost ++ removed name files.disk
    newStamps := files.newStamps ++ [stamp] }

/-- `Log::openFile`, if the log is written to files. -/
def openFile (outside : LogOutside) (files : LogFiles) : Bool × LogFiles :=
  if files.Rotates then
    let closed := { files with fp := none }
    let opened :=
      if outside.opens then closed.openLog outside.stamp else closed
    (opened.fp.isSome,
      { opened with nLastDay := getNowDay outside.lastDay, nNowUseSize := 0 })
  else
    (true, files)

/-- `_nNowUseSize += tmpLine`. -/
def use (tmpLine : Nat) (files : LogFiles) : LogFiles :=
  { files with nNowUseSize := (files.nNowUseSize + tmpLine) % 2 ^ 32 }

/-- `_fp << _tmpData`. -/
def write (printed : Bytes) (files : LogFiles) : LogFiles :=
  match files.fp with
  | none => files
  | some name =>
      let written := { files with disk := append name printed files.disk }
      if printed = [] then written
      else
        { written with
          oldStamps := files.oldStamps ++ files.newStamps
          newStamps := [] }

/-- `_nNowDay = getNowDay()`. -/
def idle (outside : LogOutside) (files : LogFiles) : LogFiles :=
  { files with nNowDay := getNowDay outside.nowDay }

/-- What the log thread does with its files. -/
def logOutput : LogOutput LogFiles LogOutside where
  openFile := openFile
  use := use
  write := write
  idle := idle

end LogFiles

theorem takeWhile_toDigits (number : Nat) (more : List Char) :
    (Nat.toDigits 10 number ++ '_' :: more).takeWhile (· ≠ '_') =
      Nat.toDigits 10 number := by
  rw [List.takeWhile_append_of_pos]
  · simp
  · intro digit member
    have digits : digit ≠ '_' := fun same =>
      Nat.underscore_not_in_toDigits (same ▸ member)
    simpa using digits

/-- Files with different stamps have different names. -/
theorem fileName_injective (sFilename : List Char) :
    Function.Injective (fileName sFilename) := by
  rintro ⟨firstDay, firstTime⟩ ⟨secondDay, secondTime⟩ same
  have parts : Nat.toDigits 10 firstDay ++
      '_' :: (firstTime ++ ['.', 'l', 'o', 'g']) =
        Nat.toDigits 10 secondDay ++
          '_' :: (secondTime ++ ['.', 'l', 'o', 'g']) := by
    simpa [fileName] using same
  have days : Nat.toDigits 10 firstDay = Nat.toDigits 10 secondDay := by
    rw [← takeWhile_toDigits firstDay, parts, takeWhile_toDigits]
  rw [days, List.append_cancel_left_eq] at parts
  have time : firstTime = secondTime :=
    List.append_cancel_right (List.tail_eq_of_cons_eq parts)
  have day : firstDay = secondDay := by
    have number := congrArg (Nat.ofDigitChars 10 · 0) days
    simpa only [Nat.ofDigitChars_ten_toDigits] using number
  rw [day, time]

example : (getNowDay 1700000000, getNowTimeStr 1700000000) =
    (20231015, "061320".toList) := by decide

end EchoServer
