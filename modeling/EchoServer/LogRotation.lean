import EchoServer.LabelledRun
import EchoServer.LogFiles

/-!
# What rotation does to earlier output

A file that is opened for a second time is emptied.  This happens if the log
has to change its file in the second in which the file was named.  As long as
every file is opened with a stamp that no file had before the last output, the
files hold all that has been written.
-/

namespace EchoServer

open FileSequence LabelledRun

namespace LogFiles

/-- What every operation on the files preserves; `stream` is all that has been
written. -/
structure Keeps (stream : Bytes) (files : LogFiles) : Prop where
  lost : files.lost = []
  whole : output files.disk = stream
  current : ∀ name, files.fp = some name → EndsAt name files.disk
  named : ∀ name ∈ files.disk.map Prod.fst,
    ∃ stamp ∈ files.oldStamps ++ files.newStamps,
      fileName files.sFilename stamp = name
  unused : ∀ stamp, stamp ∉ files.oldStamps →
    BlankFrom (fileName files.sFilename stamp) files.disk

variable {stream : Bytes} {files : LogFiles}

/-- A file may be opened with a stamp that is not an old one. -/
theorem Keeps.openLog (keeps : files.Keeps stream) {stamp : Stamp}
    (unusedStamp : stamp ∉ files.oldStamps) :
    (files.openLog stamp).Keeps stream := by
  have blank := keeps.unused stamp unusedStamp
  refine ⟨?_, ?_, ?_, ?_, ?_⟩
  · simp only [LogFiles.openLog, keeps.lost, blank.removed, List.append_nil]
  · exact blank.output.trans keeps.whole
  · intro name current
    obtain rfl := Option.some.inj current
    exact blank.endsAt
  · intro name opened
    simp only [LogFiles.openLog] at opened ⊢
    rcases mem_names_openTruncated.mp opened with rfl | before
    · exact ⟨stamp, by simp, rfl⟩
    · obtain ⟨other, member, named⟩ := keeps.named name before
      refine ⟨other, ?_, named⟩
      rw [← List.append_assoc]
      exact List.mem_append_left _ member
  · intro other unusedOther
    exact (keeps.unused other unusedOther).openTruncated

/-- Closing the file and setting the counters changes no file. -/
theorem Keeps.closed (keeps : files.Keeps stream) (nLastDay nNowDay : Nat)
    (nNowUseSize : Nat) :
    ({ files with fp := none, nLastDay, nNowDay, nNowUseSize } :
      LogFiles).Keeps stream :=
  ⟨keeps.lost, keeps.whole, nofun, keeps.named, keeps.unused⟩

theorem Keeps.counters (keeps : files.Keeps stream) (nLastDay nNowDay : Nat)
    (nNowUseSize : Nat) :
    ({ files with nLastDay, nNowDay, nNowUseSize } :
      LogFiles).Keeps stream :=
  ⟨keeps.lost, keeps.whole, keeps.current, keeps.named, keeps.unused⟩

/-- The condition on a call of `openFile`: if it opens a file, its stamp is not
that of an opening since which output has been written. -/
def OpensUnused (outside : LogOutside) (files : LogFiles) : Prop :=
  files.Rotates → outside.opens = true → outside.stamp ∉ files.oldStamps

instance (outside : LogOutside) (files : LogFiles) :
    Decidable (files.OpensUnused outside) :=
  inferInstanceAs (Decidable (_ → _))

theorem Keeps.openFile (keeps : files.Keeps stream) {outside : LogOutside}
    (unused : files.OpensUnused outside) :
    (files.openFile outside).2.Keeps stream := by
  rw [LogFiles.openFile]
  by_cases rotates : files.Rotates
  · rw [if_pos rotates]
    have closed := keeps.closed files.nLastDay files.nNowDay files.nNowUseSize
    cases opens : outside.opens with
    | false => exact closed.counters _ _ _
    | true =>
        exact (closed.openLog (unused rotates opens)).counters _ _ _
  · rw [if_neg rotates]
    exact keeps

/-- Where `openFile` returns true, a file is open. -/
theorem openFile_isSome {outside : LogOutside}
    (opened : (files.openFile outside).1 = true) :
    (files.openFile outside).2.fp.isSome = true := by
  rw [openFile] at opened ⊢
  by_cases rotates : files.Rotates
  · rw [if_pos rotates] at opened ⊢
    exact opened
  · rw [if_neg rotates]
    rw [Rotates, not_or] at rotates
    exact Option.isSome_iff_ne_none.mpr rotates.1

/-- What is printed to the open file is kept. -/
theorem Keeps.write (keeps : files.Keeps stream) {name : List Char}
    (current : files.fp = some name) (printed : Bytes) :
    (files.write printed).Keeps (stream ++ printed) := by
  have ends := keeps.current name current
  have whole : output (append name printed files.disk) =
      stream ++ printed := by
    rw [ends.output_append, keeps.whole]
  have stillEnds : ∀ other, files.fp = some other →
      EndsAt other (append name printed files.disk) := by
    intro other same
    obtain rfl := Option.some.inj (current.symm.trans same)
    exact ends.append printed
  rw [LogFiles.write, current]
  dsimp only
  by_cases nothing : printed = []
  · rw [if_pos nothing, nothing, append_nil, List.append_nil, ← current]
    exact keeps
  · rw [if_neg nothing]
    refine ⟨keeps.lost, whole, fun other same => ?_, ?_, ?_⟩
    · exact stillEnds other (current.trans same)
    · intro other opened
      simp only [names_append, List.append_nil] at opened ⊢
      exact keeps.named other opened
    · intro stamp unusedStamp
      -- Every file that is there has an old stamp now.
      apply blankFrom_of_notMem
      intro opened
      simp only [names_append] at opened
      obtain ⟨other, member, named⟩ := keeps.named _ opened
      exact unusedStamp (fileName_injective _ named ▸ member)

end LogFiles

namespace LogState

/-- No output has been removed, and the files hold all output, in order. -/
def KeepsOutput (state : LogState LogFiles) : Prop :=
  state.files.lost = [] ∧ output state.files.disk = state.stream

/-- What every step meeting the condition preserves. -/
structure Rotating (state : LogState LogFiles) : Prop where
  keeps : state.files.Keeps state.stream
  ready : state.place = .beforeLock ∨ state.place = .beforeFile →
    state.log.bFileOut = true → state.files.fp.isSome = true

/-- The condition on a step: a file that it opens gets an unused stamp. -/
def UnusedStamp (state : LogState LogFiles) : LogAction LogOutside → Prop
  | .log _ => True
  | .logThread outside =>
      state.place = .beforeOpen → state.log.bRuning = true →
        state.log.bFileOut = true → state.files.OpensUnused outside

instance (state : LogState LogFiles) :
    ∀ action, Decidable (state.UnusedStamp action)
  | .log _ => isTrue trivial
  | .logThread outside =>
      inferInstanceAs (Decidable (state.place = .beforeOpen →
        state.log.bRuning = true → state.log.bFileOut = true →
          state.files.OpensUnused outside))

variable {state next : LogState LogFiles}

theorem Rotating.log (rotating : state.Rotating) {buf : Bytes}
    (stepped : state.step LogFiles.logOutput (.log buf) = .ok next) :
    next.Rotating := by
  simp only [step] at stepped
  cases logged : state.log.log buf with
  | error fault => simp [logged] at stepped
  | ok log =>
      have sameOut := Log.log_bFileOut logged
      rw [logged] at stepped
      cases stepped
      refine ⟨rotating.keeps, fun place fileOut => ?_⟩
      exact rotating.ready place (sameOut ▸ fileOut)

/-- The call of `openFile`. -/
theorem Rotating.open (rotating : state.Rotating) {outside : LogOutside}
    (place : state.place = .beforeOpen)
    (unused : UnusedStamp state (.logThread outside))
    (stepped : state.logThread LogFiles.logOutput outside = .ok next) :
    next.Rotating := by
  rw [logThread, place] at stepped
  dsimp only at stepped
  cases running : state.log.bRuning with
  | false =>
      rw [running, Bool.not_false, if_pos rfl] at stepped
      cases stepped
      exact ⟨rotating.keeps, nofun⟩
  | true =>
      cases fileOut : state.log.bFileOut with
      | false =>
          simp only [running, fileOut, Bool.not_true, Bool.false_eq_true,
            if_false, Bool.not_false, if_true] at stepped
          cases stepped
          exact ⟨rotating.keeps, fun _ out => absurd (fileOut ▸ out) (by decide)⟩
      | true =>
          simp only [running, fileOut, Bool.not_true, Bool.false_eq_true,
            if_false] at stepped
          cases stepped
          refine ⟨rotating.keeps.openFile (unused place running fileOut), ?_⟩
          intro opened _
          apply LogFiles.openFile_isSome
          by_contra notOpened
          simp [LogFiles.logOutput, notOpened] at opened

/-- The part under the lock. -/
theorem Rotating.moveBatch (rotating : state.Rotating)
    {outside : LogOutside} (place : state.place = .beforeLock)
    (stepped : state.logThread LogFiles.logOutput outside = .ok next) :
    next.Rotating := by
  rw [logThread, place] at stepped
  dsimp only at stepped
  cases moved : state.log.moveBatch with
  | error fault => simp [moved] at stepped
  | ok result =>
      cases result with
      | none =>
          rw [moved] at stepped
          cases stepped
          exact ⟨rotating.keeps, by simp⟩
      | some log =>
          have sameOut := Log.moveBatch_bFileOut moved
          rw [moved] at stepped
          cases stepped
          refine ⟨rotating.keeps.counters _ _ _, fun _ fileOut => ?_⟩
          exact rotating.ready (.inl place) (sameOut ▸ fileOut)

/-- The write of the batch. -/
theorem Rotating.print (rotating : state.Rotating) {outside : LogOutside}
    (place : state.place = .beforeFile)
    (stepped : state.logThread LogFiles.logOutput outside = .ok next) :
    next.Rotating := by
  rw [logThread, place] at stepped
  dsimp only at stepped
  cases fileOut : state.log.bFileOut with
  | false =>
      rw [fileOut, if_neg (by decide)] at stepped
      cases stepped
      exact ⟨rotating.keeps, by simp⟩
  | true =>
      obtain ⟨name, current⟩ := Option.isSome_iff_exists.mp
        (rotating.ready (.inr place) fileOut)
      rw [fileOut, if_pos rfl] at stepped
      cases printed : state.log.print with
      | error fault => simp [printed] at stepped
      | ok bytes =>
          rw [printed] at stepped
          cases stepped
          exact ⟨rotating.keeps.write current bytes, by simp⟩

/-- Every step that meets the condition preserves the invariant. -/
theorem Rotating.step (rotating : state.Rotating)
    {action : LogAction LogOutside} (unused : UnusedStamp state action)
    (stepped : state.step LogFiles.logOutput action = .ok next) :
    next.Rotating := by
  cases action with
  | log buf => exact rotating.log stepped
  | logThread outside =>
      rw [LogState.step] at stepped
      cases place : state.place with
      | beforeOpen => exact rotating.open place unused stepped
      | beforeLock => exact rotating.moveBatch place stepped
      | beforeFile => exact rotating.print place stepped
      | beforeScreen =>
          rw [logThread, place] at stepped
          cases stepped
          exact ⟨rotating.keeps, by simp⟩
      | returnedFalse =>
          rw [logThread, place] at stepped
          cases stepped
          exact ⟨rotating.keeps.counters _ _ _, by simp⟩

theorem start_rotating (log : Log) (sFilename : List Char)
    (nFileSize nNowDay : Nat) :
    (start log (LogFiles.setConfig sFilename nFileSize nNowDay)).Rotating := by
  refine ⟨⟨rfl, rfl, nofun, ?_, fun _ _ => trivial⟩, ?_⟩
  · simp [start, LogFiles.setConfig]
  · simp [start]

/-- If every file is opened with an unused stamp, the files hold all output in
every state of the run. -/
theorem logRotation (log : Log) (sFilename : List Char)
    (nFileSize nNowDay : Nat) (actions : List (LogAction LogOutside))
    (unused : MeetsAlong (step LogFiles.logOutput) UnusedStamp
      (start log (LogFiles.setConfig sFilename nFileSize nNowDay)) actions) :
    HoldsWhereReached (step LogFiles.logOutput) KeepsOutput
      (start log (LogFiles.setConfig sFilename nFileSize nNowDay))
      actions :=
  holdsWhereReached_of_meetsAlong
    (fun _ _ _ rotating unused stepped => rotating.step unused stepped)
    (fun _ rotating => ⟨rotating.keeps.lost, rotating.keeps.whole⟩)
    (start_rotating log sFilename nFileSize nNowDay) unused

/-- A log that is written to files. -/
def fileLog : Log where
  bRuning := true
  bFileOut := true
  data := Block.zero maxLogBufferSize
  pLogCur := 0
  tmpData := Block.zero maxLogBufferSize
  lDropCount := 0

/-- A step during which the clock stands still. -/
def during (time : Nat) : LogAction LogOutside :=
  .logThread
    { nameDay := time, nameTime := time, lastDay := time, nowDay := time
      opens := true }

/-- A batch is written, and a second one is logged and about to be. -/
def twoBatches (first second : Nat) : List (LogAction LogOutside) :=
  [.log [65], during first, during first, during first, during first,
    .log [66], during second]

/-- The log changes its file from one second to the next. -/
theorem logRotation_nextSecond :
    HoldsWhereReached (step LogFiles.logOutput) KeepsOutput
      (start fileLog (LogFiles.setConfig "log".toList 1 20231015))
      (twoBatches 1700000000 1700000001) :=
  logRotation fileLog "log".toList 1 20231015
    (twoBatches 1700000000 1700000001) (by decide +kernel)

/-- The log changes its file within a second. -/
theorem logRotation_sameSecond :
    ¬ HoldsWhereReached (step LogFiles.logOutput) KeepsOutput
      (start fileLog (LogFiles.setConfig "log".toList 1 20231015))
      (twoBatches 1700000000 1700000000) := by
  intro holds
  have removed : ((runActions (step LogFiles.logOutput)
      (start fileLog (LogFiles.setConfig "log".toList 1 20231015))
        (twoBatches 1700000000 1700000000)).toOption.map
          fun state => state.files.lost) = some [65] := rfl
  cases ran : runActions (step LogFiles.logOutput)
      (start fileLog (LogFiles.setConfig "log".toList 1 20231015))
        (twoBatches 1700000000 1700000000) with
  | error fault =>
      rw [ran] at removed
      cases removed
  | ok reached =>
      have kept := (holds (twoBatches 1700000000 1700000000) [] reached
        (List.append_nil _).symm ran).1
      rw [ran] at removed
      have lost : reached.files.lost = [65] := Option.some.inj removed
      rw [kept] at lost
      cases lost

end LogState

end EchoServer
