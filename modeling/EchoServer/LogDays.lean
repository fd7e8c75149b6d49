import EchoServer.LogRotation

/-!
# One file a day

A batch belongs in a file of the day on which the log thread came to write it.
`openFile` changes the file if `_nLastDay`, the day on which it was opened, is
not `_nNowDay`, but `_nNowDay` is not the day on which `openFile` runs: it is
set when the log thread finds nothing to write, and not again as long as there
is something.
-/

namespace EchoServer

open LabelledRun

/-- The files of the log beside a record of days: that in the name of the file
opened last, that on which `openFile` was called last, and both for every
batch written to a file.  `openedNow` tells whether the last call opened the
file.  A call that does not open one takes place at `nameDay` too. -/
structure DatedFiles where
  files : LogFiles
  openedDay : Nat
  callDay : Nat
  openedNow : Bool
  written : List (Nat × Nat)

theorem LogFiles.write_nLastDay (printed : Bytes) (files : LogFiles) :
    (files.write printed).nLastDay = files.nLastDay := by
  unfold write
  split
  · rfl
  · dsimp only
    split_ifs <;> rfl

namespace DatedFiles

/-- After `setConfig`. -/
def setConfig (sFilename : List Char) (nFileSize nNowDay : Nat) :
    DatedFiles where
  files := LogFiles.setConfig sFilename nFileSize nNowDay
  openedDay := 0
  callDay := 0
  openedNow := false
  written := []

/-- `Log::openFile` and its days. -/
def openFile (outside : LogOutside) (dated : DatedFiles) :
    Bool × DatedFiles :=
  let (opened, files) := dated.files.openFile outside
  let day := getNowDay outside.nameDay
  (opened,
    { dated with
      files
      openedDay := if dated.files.Rotates then day else dated.openedDay
      callDay := day
      openedNow := dated.files.Rotates })

/-- `_fp << _tmpData` and its days. -/
def write (printed : Bytes) (dated : DatedFiles) : DatedFiles :=
  { dated with
    files := dated.files.write printed
    written := dated.written ++ [(dated.openedDay, dated.callDay)] }

/-- What the log thread does with its files, beside the record. -/
def logOutput : LogOutput DatedFiles LogOutside where
  openFile := openFile
  use tmpLine dated := { dated with files := dated.files.use tmpLine }
  write := write
  idle outside dated := { dated with files := dated.files.idle outside }

variable {dated : DatedFiles} {outside : LogOutside}

/-- The file that is open after a call was opened on the day that `_nLastDay`
says. -/
theorem openFile_openedDay
    (oneDay : dated.files.Rotates →
      getNowDay outside.nameDay = getNowDay outside.lastDay)
    (before : dated.files.fp.isSome = true →
      dated.openedDay = dated.files.nLastDay)
    (isOpen : (dated.openFile outside).2.files.fp.isSome = true) :
    (dated.openFile outside).2.openedDay =
      (dated.openFile outside).2.files.nLastDay := by
  simp only [openFile, LogFiles.openFile] at isOpen ⊢
  by_cases rotates : dated.files.Rotates
  · simp only [if_pos rotates]
    exact oneDay rotates
  · simp only [if_neg rotates] at isOpen ⊢
    exact before isOpen

/-- A call opens a file for its own day, or leaves one that is of the day in
`_nNowDay`. -/
theorem openFile_openedNow :
    if (dated.openFile outside).2.openedNow then
      (dated.openFile outside).2.openedDay =
        (dated.openFile outside).2.callDay
    else (dated.openFile outside).2.files.nLastDay =
      (dated.openFile outside).2.files.nNowDay := by
  simp only [openFile, LogFiles.openFile]
  by_cases rotates : dated.files.Rotates
  · simp only [rotates, decide_true, if_true]
  · simp only [rotates, decide_false, Bool.false_eq_true, if_false]
    rw [LogFiles.Rotates, not_or, not_or, not_not] at rotates
    exact rotates.2.2

end DatedFiles

namespace LogState

/-- The log without the record of days. -/
def undated (state : LogState DatedFiles) : LogState LogFiles where
  log := state.log
  files := state.files.files
  place := state.place
  stream := state.stream
  calls := state.calls

/-- The record of days is beside the log and changes nothing in it. -/
theorem step_undated (state : LogState DatedFiles)
    (action : LogAction LogOutside) :
    (state.step DatedFiles.logOutput action).map undated =
      state.undated.step LogFiles.logOutput action := by
  cases action with
  | log buf =>
      simp only [step, undated]
      cases state.log.log buf <;> rfl
  | logThread outside =>
      obtain ⟨⟨bRuning, bFileOut, data, pLogCur, tmpData, lDropCount⟩, files,
        place, stream, calls⟩ := state
      cases place with
      | beforeOpen => cases bRuning <;> cases bFileOut <;> rfl
      | beforeLock =>
          simp only [step, logThread, undated]
          split <;> rfl
      | beforeFile =>
          cases bFileOut with
          | false => rfl
          | true =>
              simp only [step, logThread, undated, if_true]
              split <;> rfl
      | beforeScreen => rfl
      | returnedFalse => rfl

theorem runActions_undated (state : LogState DatedFiles)
    (actions : List (LogAction LogOutside)) :
    (runActions (step DatedFiles.logOutput) state actions).map undated =
      runActions (step LogFiles.logOutput) state.undated actions := by
  induction actions generalizing state with
  | nil => rfl
  | cons action actions ih =>
      have same := step_undated state action
      cases stepped : state.step DatedFiles.logOutput action with
      | error fault =>
          rw [stepped] at same
          simp only [runActions, stepped, ← same]
          rfl
      | ok next =>
          rw [stepped] at same
          rw [runActions_cons_ok actions stepped, ih,
            runActions_cons_ok actions same.symm]

/-- Every batch is in a file of the day on which it was about to be
written. -/
def RightDays (state : LogState DatedFiles) : Prop :=
  ∀ days ∈ state.files.written, days.1 = days.2

/-- A call that opens a file finds the same day both times that it asks the
clock. -/
def OpensInOneDay (state : LogState DatedFiles) :
    LogAction LogOutside → Prop
  | .log _ => True
  | .logThread outside =>
      state.place = .beforeOpen → state.log.bRuning = true →
        state.log.bFileOut = true → state.files.files.Rotates →
          getNowDay outside.nameDay = getNowDay outside.lastDay

instance (state : LogState DatedFiles) :
    ∀ action, Decidable (state.OpensInOneDay action)
  | .log _ => isTrue trivial
  | .logThread outside =>
      inferInstanceAs (Decidable (state.place = .beforeOpen →
        state.log.bRuning = true → state.log.bFileOut = true →
          state.files.files.Rotates →
            getNowDay outside.nameDay = getNowDay outside.lastDay))

/-- A batch that goes into a file opened by an earlier call does so while
`_nNowDay` is the day of this one. -/
def RefreshedDay (state : LogState DatedFiles) :
    LogAction LogOutside → Prop
  | .log _ => True
  | .logThread _ =>
      state.place = .beforeFile → state.log.bFileOut = true →
        state.files.openedNow = true ∨
          state.files.files.nNowDay = state.files.callDay

instance (state : LogState DatedFiles) :
    ∀ action, Decidable (state.RefreshedDay action)
  | .log _ => isTrue trivial
  | .logThread _ =>
      inferInstanceAs (Decidable (state.place = .beforeFile →
        state.log.bFileOut = true →
          state.files.openedNow = true ∨
            state.files.files.nNowDay = state.files.callDay))

/-- What every step preserves that opens its file in one day. -/
structure Dated (state : LogState DatedFiles) : Prop where
  opened : state.files.files.fp.isSome = true →
    state.files.openedDay = state.files.files.nLastDay
  called : state.place = .beforeLock ∨ state.place = .beforeFile →
    state.log.bFileOut = true →
      state.files.files.fp.isSome = true ∧
        if state.files.openedNow then
          state.files.openedDay = state.files.callDay
        else state.files.files.nLastDay = state.files.files.nNowDay
  terminated : state.place = .beforeFile → 0 ∈ state.log.tmpData.bytes

variable {state next : LogState DatedFiles}

theorem Dated.log (dated : state.Dated) {buf : Bytes}
    (stepped : state.step DatedFiles.logOutput (.log buf) = .ok next) :
    next.Dated ∧ next.files.written = state.files.written := by
  simp only [step] at stepped
  cases logged : state.log.log buf with
  | error fault => simp [logged] at stepped
  | ok log =>
      have sameOut := Log.log_bFileOut logged
      have sameTmp := Log.log_tmpData logged
      rw [logged] at stepped
      cases stepped
      refine ⟨⟨dated.opened, ?_, ?_⟩, rfl⟩
      · intro place fileOut
        exact dated.called place (sameOut ▸ fileOut)
      · intro place
        exact sameTmp.symm ▸ dated.terminated place

/-- The call of `openFile`. -/
theorem Dated.open (dated : state.Dated) {outside : LogOutside}
    (place : state.place = .beforeOpen)
    (oneDay : OpensInOneDay state (.logThread outside))
    (stepped : state.logThread DatedFiles.logOutput outside = .ok next) :
    next.Dated ∧ next.files.written = state.files.written := by
  rw [logThread, place] at stepped
  dsimp only at stepped
  cases running : state.log.bRuning with
  | false =>
      rw [running, Bool.not_false, if_pos rfl] at stepped
      cases stepped
      exact ⟨⟨dated.opened, by simp, by simp⟩, rfl⟩
  | true =>
      cases fileOut : state.log.bFileOut with
      | false =>
          simp only [running, fileOut, Bool.not_true, Bool.false_eq_true,
            if_false, Bool.not_false, if_true] at stepped
          cases stepped
          refine ⟨⟨dated.opened, ?_, by simp⟩, rfl⟩
          intro _ out
          exact absurd (fileOut ▸ out) (by decide)
      | true =>
          simp only [running, fileOut, Bool.not_true, Bool.false_eq_true,
            if_false] at stepped
          cases stepped
          have day := oneDay place running fileOut
          refine ⟨⟨DatedFiles.openFile_openedDay day dated.opened, ?_, ?_⟩,
            rfl⟩
          · intro opened _
            refine ⟨LogFiles.openFile_isSome ?_, DatedFiles.openFile_openedNow⟩
            by_contra notOpened
            simp [DatedFiles.logOutput, DatedFiles.openFile, notOpened]
              at opened
          · intro opened
            simp only at opened
            split at opened <;> cases opened

/-- The part under the lock. -/
theorem Dated.moveBatch (dated : state.Dated) {outside : LogOutside}
    (place : state.place = .beforeLock)
    (stepped : state.logThread DatedFiles.logOutput outside = .ok next) :
    next.Dated ∧ next.files.written = state.files.written := by
  rw [logThread, place] at stepped
  dsimp only at stepped
  cases moved : state.log.moveBatch with
  | error fault => simp [moved] at stepped
  | ok result =>
      cases result with
      | none =>
          rw [moved] at stepped
          cases stepped
          exact ⟨⟨dated.opened, by simp, by simp⟩, rfl⟩
      | some log =>
          have sameOut := Log.moveBatch_bFileOut moved
          rw [moved] at stepped
          cases stepped
          refine ⟨⟨dated.opened, ?_, ?_⟩, rfl⟩
          · intro _ fileOut
            exact dated.called (.inl place) (sameOut ▸ fileOut)
          · intro _
            exact Log.moveBatch_terminated moved

/-- The write of the batch, which is possible, with its days. -/
theorem Dated.print (dated : state.Dated) (outside : LogOutside)
    (place : state.place = .beforeFile) :
    ∃ next, state.logThread DatedFiles.logOutput outside = .ok next ∧
      next.Dated ∧
      next.files.written = state.files.written ++
        if state.log.bFileOut then
          [(state.files.openedDay, state.files.callDay)]
        else [] := by
  cases fileOut : state.log.bFileOut with
  | false =>
      refine ⟨{ state with place := .beforeScreen }, ?_,
        ⟨dated.opened, by simp, by simp⟩, by simp⟩
      rw [logThread, place]
      dsimp only
      rw [fileOut, if_neg (by decide)]
  | true =>
      obtain ⟨isOpen, -⟩ := dated.called (.inr place) fileOut
      obtain ⟨name, current⟩ := Option.isSome_iff_exists.mp isOpen
      let printed := cString state.log.tmpData.bytes
      refine ⟨{ state with
          files := state.files.write printed
          stream := state.stream ++ printed
          place := .beforeScreen }, ?_, ⟨?_, by simp, by simp⟩, ?_⟩
      · rw [logThread, place]
        dsimp only
        rw [fileOut, if_pos rfl, Log.print, if_pos (dated.terminated place)]
        rfl
      · intro _
        exact (dated.opened isOpen).trans
          (state.files.files.write_nLastDay printed).symm
      · rfl

/-- A step that does not write a batch records no days. -/
theorem Dated.elsewhere (dated : state.Dated)
    {action : LogAction LogOutside} (oneDay : OpensInOneDay state action)
    (notFile : ∀ outside, action = .logThread outside →
      state.place ≠ .beforeFile)
    (stepped : state.step DatedFiles.logOutput action = .ok next) :
    next.Dated ∧ next.files.written = state.files.written := by
  cases action with
  | log buf => exact dated.log stepped
  | logThread outside =>
      rw [LogState.step] at stepped
      cases place : state.place with
      | beforeOpen => exact dated.open place oneDay stepped
      | beforeLock => exact dated.moveBatch place stepped
      | beforeFile => exact absurd place (notFile outside rfl)
      | beforeScreen =>
          rw [logThread, place] at stepped
          cases stepped
          exact ⟨⟨dated.opened, by simp, by simp⟩, rfl⟩
      | returnedFalse =>
          rw [logThread, place] at stepped
          cases stepped
          exact ⟨⟨dated.opened, by simp, by simp⟩, rfl⟩

theorem Dated.step (dated : state.Dated) {action : LogAction LogOutside}
    (oneDay : OpensInOneDay state action)
    (stepped : state.step DatedFiles.logOutput action = .ok next) :
    next.Dated := by
  by_cases writes : state.place = .beforeFile ∧
      ∃ outside, action = .logThread outside
  · obtain ⟨place, outside, rfl⟩ := writes
    obtain ⟨other, printed, otherDated, -⟩ := dated.print outside place
    obtain rfl := Except.ok.inj (printed.symm.trans stepped)
    exact otherDated
  · apply (dated.elsewhere oneDay _ stepped).1
    intro outside same place
    exact writes ⟨place, outside, same⟩

/-- The days of a batch are the same if and only if `_nNowDay` is the day of
the call, or the call opened the file. -/
theorem Dated.sameDay_iff (dated : state.Dated)
    (place : state.place = .beforeFile) (fileOut : state.log.bFileOut = true) :
    state.files.openedDay = state.files.callDay ↔
      state.files.openedNow = true ∨
        state.files.files.nNowDay = state.files.callDay := by
  obtain ⟨isOpen, called⟩ := dated.called (.inr place) fileOut
  split_ifs at called with openedNow
  · simp only [called, openedNow, true_or]
  · rw [dated.opened isOpen, called]
    exact (or_iff_right openedNow).symm

/-- A step keeps the days right if and only if it writes no batch while
`_nNowDay` is an old day. -/
theorem Dated.rightDays_iff (dated : state.Dated)
    {action : LogAction LogOutside} (oneDay : OpensInOneDay state action)
    (right : state.RightDays) :
    (∀ next, state.step DatedFiles.logOutput action = .ok next →
        next.RightDays) ↔
      RefreshedDay state action := by
  by_cases writes : state.place = .beforeFile ∧
      ∃ outside, action = .logThread outside
  · obtain ⟨place, outside, rfl⟩ := writes
    obtain ⟨next, printed, -, written⟩ := dated.print outside place
    have onlyNext : (∀ other, state.step DatedFiles.logOutput
        (.logThread outside) = .ok other → other.RightDays) ↔
          next.RightDays := by
      constructor
      · intro all
        exact all next printed
      · rintro rightNext other stepped
        obtain rfl := Except.ok.inj (printed.symm.trans stepped)
        exact rightNext
    rw [onlyNext, RightDays, written]
    cases fileOut : state.log.bFileOut with
    | false =>
        simp only [Bool.false_eq_true, if_false, List.append_nil]
        constructor
        · intro _ _ out
          exact absurd (fileOut ▸ out) (by decide)
        · intro _
          exact right
    | true =>
        simp only [if_true, List.forall_mem_append, List.forall_mem_singleton]
        rw [dated.sameDay_iff place fileOut]
        constructor
        · rintro ⟨-, same⟩ - -
          exact same
        · intro refreshed
          exact ⟨right, refreshed place fileOut⟩
  · have notFile : ∀ outside, action = .logThread outside →
        state.place ≠ .beforeFile := by
      intro outside same place
      exact writes ⟨place, outside, same⟩
    constructor
    · intro _
      cases action with
      | log buf => trivial
      | logThread outside =>
          intro place
          exact absurd place (notFile outside rfl)
    · intro _ next stepped
      rw [RightDays, (dated.elsewhere oneDay notFile stepped).2]
      exact right

theorem start_dated (log : Log) (sFilename : List Char)
    (nFileSize nNowDay : Nat) :
    (start log (DatedFiles.setConfig sFilename nFileSize nNowDay)).Dated := by
  constructor <;> simp [start, DatedFiles.setConfig, LogFiles.setConfig]

/-- Where every file is opened in one day: every batch is in a file of the day
on which the log thread came to write it if and only if no batch goes into a
file opened earlier while `_nNowDay` is an old day. -/
theorem logDays_iff (log : Log) (sFilename : List Char)
    (nFileSize nNowDay : Nat) (actions : List (LogAction LogOutside))
    (oneDay : MeetsAlong (step DatedFiles.logOutput) OpensInOneDay
      (start log (DatedFiles.setConfig sFilename nFileSize nNowDay))
      actions) :
    HoldsWhereReached (step DatedFiles.logOutput) RightDays
        (start log (DatedFiles.setConfig sFilename nFileSize nNowDay))
        actions ↔
      MeetsAlong (step DatedFiles.logOutput) RefreshedDay
        (start log (DatedFiles.setConfig sFilename nFileSize nNowDay))
        actions := by
  apply holdsWhereReached_iff_of_meetsAlong _ _
    (start_dated log sFilename nFileSize nNowDay) _ oneDay
  · intro state action next dated oneDay stepped
    exact dated.step oneDay stepped
  · intro state action dated oneDay right
    exact dated.rightDays_iff oneDay right
  · intro days written
    cases written

/-- Two batches, both of them written. -/
def twoWrites (first second : Nat) : List (LogAction LogOutside) :=
  twoBatches first second ++ [during second, during second]

/-- Between two batches, the log thread finds nothing to write before and after
midnight. -/
def idleMidnight : List (LogAction LogOutside) :=
  [.log [65]] ++ List.replicate 5 (during 1700000000) ++
    List.replicate 6 (during 1700086400) ++ [.log [66]] ++
      List.replicate 2 (during 1700086400)

/-- Both batches go into files of their days. -/
theorem logDays_idleMidnight :
    HoldsWhereReached (step DatedFiles.logOutput) RightDays
      (start fileLog (DatedFiles.setConfig "log".toList 100 20231015))
      idleMidnight :=
  (logDays_iff fileLog "log".toList 100 20231015 idleMidnight
    (by decide +kernel)).mpr (by decide +kernel)

/-- The log thread is busy until after midnight: the second batch goes into
the file of the day before. -/
theorem logDays_busyMidnight :
    ¬ HoldsWhereReached (step DatedFiles.logOutput) RightDays
      (start fileLog (DatedFiles.setConfig "log".toList 100 20231015))
      (twoWrites 1700000000 1700086400) := by
  intro holds
  have written : ((runActions (step DatedFiles.logOutput)
      (start fileLog (DatedFiles.setConfig "log".toList 100 20231015))
        (twoWrites 1700000000 1700086400)).toOption.map
          fun state => state.files.written) =
            some [(20231015, 20231015), (20231015, 20231016)] := rfl
  cases ran : runActions (step DatedFiles.logOutput)
      (start fileLog (DatedFiles.setConfig "log".toList 100 20231015))
        (twoWrites 1700000000 1700086400) with
  | error fault =>
      rw [ran] at written
      cases written
  | ok reached =>
      have right := holds (twoWrites 1700000000 1700086400) [] reached
        (List.append_nil _).symm ran
      rw [ran] at written
      have recorded : reached.files.written =
          [(20231015, 20231015), (20231015, 20231016)] :=
        Option.some.inj written
      rw [RightDays, recorded] at right
      exact absurd (right (20231015, 20231016) (by simp)) (by decide)

end LogState

end EchoServer
