import EchoServer.LabelledRun
import EchoServer.Log

/-!
# Nothing that is logged gets lost

In every state of a run, what has been written to the files, what has been
moved to `_tmpData` and not been written yet, and what is in `_data` are, one
after the other, the messages that were not dropped, in the order of the lock.
The messages hold no zero byte, so that a batch is printed up to its end.
-/

namespace EchoServer

open LabelledRun

namespace Log

/-- `_data[0..length())`. -/
def buffered (log : Log) : Bytes :=
  log.data.slice 0 log.pLogCur

/-- The most that `_data` may hold. -/
def Bounded (log : Log) : Prop :=
  log.pLogCur ≤ maxLogBufferSize - 200

variable {log : Log}

theorem buffered_eq_take (log : Log) :
    log.buffered = log.data.bytes.take log.pLogCur := by
  simp [buffered, Block.slice]

theorem buffered_length (bounded : log.Bounded) :
    log.buffered.length = log.pLogCur := by
  apply Block.slice_length
  simp only [Bounded, maxLogBufferSize] at bounded ⊢
  omega

/-- A call of `log` drops the message and counts it, or appends it. -/
theorem log_cases (bounded : log.Bounded) {buf : Bytes}
    (short : buf.length < maxLogBufferSize) :
    log.log buf =
        .ok { log with lDropCount := (log.lDropCount + 1) % 2 ^ 64 } ∨
      ∃ next, log.log buf = .ok next ∧ next.Bounded ∧
        next.buffered = log.buffered ++ buf ∧
        next.bRuning = log.bRuning ∧ next.bFileOut = log.bFileOut ∧
        next.tmpData = log.tmpData ∧ next.lDropCount = log.lDropCount := by
  by_cases full :
      (log.pLogCur + buf.length) % 2 ^ 32 > maxLogBufferSize - 200
  · left
    unfold Log.log
    rw [if_pos full]
  · right
    have noWrap : (log.pLogCur + buf.length) % 2 ^ 32 =
        log.pLogCur + buf.length := by
      apply Nat.mod_eq_of_lt
      simp only [Bounded, maxLogBufferSize] at bounded short
      omega
    have below : log.pLogCur + buf.length ≤ maxLogBufferSize - 200 := by
      rw [← noWrap]
      exact Nat.le_of_not_lt full
    have fits : log.pLogCur + buf.length ≤ maxLogBufferSize := by omega
    refine ⟨{ log with
        data := log.data.overwrite log.pLogCur buf
        pLogCur := log.pLogCur + buf.length }, ?_, ?_, ?_, rfl, rfl, rfl, rfl⟩
    · unfold Log.log
      rw [if_neg full, if_neg (Nat.not_lt.mpr fits)]
    · exact below
    · rw [buffered_eq_take, buffered_eq_take]
      exact Block.take_overwrite fits

/-- A batch that is moved stands in `_tmpData` in front of a zero. -/
theorem moveBatch_some (bounded : log.Bounded) (nonempty : 0 < log.pLogCur) :
    ∃ next rest, log.moveBatch = .ok (some next) ∧ next.pLogCur = 0 ∧
      next.tmpData.bytes = log.buffered ++ 0 :: rest ∧
      next.bRuning = log.bRuning ∧ next.bFileOut = log.bFileOut := by
  have length := buffered_length bounded
  simp only [Bounded, maxLogBufferSize] at bounded
  have room : log.pLogCur + 1 ≤ maxLogBufferSize := by
    simp only [maxLogBufferSize]
    omega
  let copied := log.tmpData.overwrite 0 log.buffered
  have front : copied.bytes.take log.buffered.length = log.buffered :=
    Block.take_overwrite_behind [] log.buffered rfl
      (by simp only [List.length_nil]; omega)
  have terminated := Block.take_overwrite_behind log.buffered [0] front
    (by simp only [List.length_singleton]; omega)
  rw [length] at terminated
  refine ⟨{ log with tmpData := copied.overwrite log.pLogCur [0], pLogCur := 0 },
    (copied.overwrite log.pLogCur [0]).bytes.drop
      (log.buffered ++ [0]).length, ?_, rfl, ?_, rfl, rfl⟩
  · rw [moveBatch, if_neg (Nat.not_le.mpr nonempty),
      if_neg (Nat.not_lt.mpr room)]
    rfl
  · calc
      (copied.overwrite log.pLogCur [0]).bytes =
          (copied.overwrite log.pLogCur [0]).bytes.take
              (log.buffered ++ [0]).length ++
            (copied.overwrite log.pLogCur [0]).bytes.drop
              (log.buffered ++ [0]).length :=
        (List.take_append_drop _ _).symm
      _ = log.buffered ++ [0] ++
            (copied.overwrite log.pLogCur [0]).bytes.drop
              (log.buffered ++ [0]).length := by rw [terminated]
      _ = _ := by rw [List.append_assoc, List.singleton_append]

theorem moveBatch_none (empty : log.pLogCur = 0) :
    log.moveBatch = .ok none := by
  rw [moveBatch, if_pos (Nat.le_of_eq empty)]

end Log

namespace LogState

variable {Files Outside : Type} {output : LogOutput Files Outside}
variable {state : LogState Files}

/-- The batch that has been moved to `_tmpData` and not been written yet. -/
def pending (state : LogState Files) : Bytes :=
  match state.place with
  | .beforeFile => cString state.log.tmpData.bytes
  | _ => []

/-- The messages that were not counted in `_lDropCount`. -/
def accepted (state : LogState Files) : List Bytes :=
  (state.calls.filter fun call => !call.2).map Prod.fst

/-- Nothing is lost or out of order, and `_data` keeps its reserve. -/
def Complete (state : LogState Files) : Prop :=
  state.stream ++ state.pending ++ state.log.buffered =
      state.accepted.flatten ∧
    state.log.Bounded

/-- What every step preserves. -/
structure Orderly (state : LogState Files) : Prop where
  complete : state.Complete
  fileOut : state.log.bFileOut = true
  noZero : ∀ byte ∈ state.log.buffered, byte ≠ 0
  terminated : state.place = .beforeFile → 0 ∈ state.log.tmpData.bytes

/-- The messages without a zero byte that `_data` could hold. -/
def Loggable : LogAction Outside → Prop
  | .log buf => (∀ byte ∈ buf, byte ≠ 0) ∧ buf.length < maxLogBufferSize
  | .logThread _ => True

/-- The log thread moves between places where it holds no batch. -/
theorem Orderly.moves (orderly : state.Orderly) (files : Files)
    {place : LogPlace} (elsewhere : state.place ≠ .beforeFile)
    (goes : place ≠ .beforeFile) :
    ({ state with files, place } : LogState Files).Orderly := by
  have before : state.pending = [] := by
    unfold pending
    split
    · rename_i atFile
      exact absurd atFile elsewhere
    · rfl
  have after : ({ state with files, place } : LogState Files).pending = [] := by
    unfold pending
    split
    · rename_i atFile
      exact absurd atFile goes
    · rfl
  obtain ⟨⟨kept, bounded⟩, fileOut, noZero, -⟩ := orderly
  refine ⟨⟨?_, bounded⟩, fileOut, noZero, fun atFile => absurd atFile goes⟩
  rw [after]
  rw [before] at kept
  exact kept

/-- A call of `log` keeps everything. -/
theorem Orderly.log (orderly : state.Orderly) {buf : Bytes}
    (noZero : ∀ byte ∈ buf, byte ≠ 0)
    (short : buf.length < maxLogBufferSize) :
    ∃ next, state.step output (.log buf) = .ok next ∧ next.Orderly := by
  obtain ⟨⟨kept, bounded⟩, fileOut, noZeroBefore, terminated⟩ := orderly
  rcases Log.log_cases bounded short with dropped |
    ⟨log, logged, logBounded, appended, -, sameOut, sameTmp, sameCount⟩
  · have counted : (state.log.lDropCount + 1) % 2 ^ 64 ≠
        state.log.lDropCount := by omega
    refine ⟨{ state with
        log := { state.log with
          lDropCount := (state.log.lDropCount + 1) % 2 ^ 64 }
        calls := state.calls ++ [(buf, true)] }, ?_,
      ⟨?_, bounded⟩, fileOut, noZeroBefore, terminated⟩
    · simp only [step, dropped, ne_eq, counted, not_false_eq_true,
        decide_true]
    · have same : (state.calls ++ [(buf, true)]).filter
          (fun call => !call.2) =
            state.calls.filter fun call => !call.2 := by
        simp
      simp only [accepted, same]
      exact kept
  · refine ⟨{ state with log, calls := state.calls ++ [(buf, false)] }, ?_,
      ⟨?_, logBounded⟩, sameOut.trans fileOut, ?_, ?_⟩
    · simp only [step, logged, sameCount, ne_eq, not_true_eq_false,
        decide_false]
    · have pendingSame : ∀ calls,
          ({ state with log, calls } : LogState Files).pending =
            state.pending := by
        intro calls
        simp only [pending, sameTmp]
      have more : (state.calls ++ [(buf, false)]).filter
          (fun call => !call.2) =
            (state.calls.filter fun call => !call.2) ++ [(buf, false)] := by
        simp
      simp only [accepted, more, pendingSame, appended, List.map_append,
        List.flatten_append]
      rw [← List.append_assoc, kept]
      simp [accepted]
    · intro byte member
      simp only [appended] at member
      rcases List.mem_append.mp member with before | new
      · exact noZeroBefore byte before
      · exact noZero byte new
    · intro atFile
      simp only [sameTmp]
      exact terminated atFile

/-- Moving a batch to `_tmpData` keeps everything. -/
theorem Orderly.moveBatch (orderly : state.Orderly) (outside : Outside)
    (atLock : state.place = .beforeLock) :
    ∃ next, state.step output (.logThread outside) = .ok next ∧
      next.Orderly := by
  rcases Nat.eq_zero_or_pos state.log.pLogCur with empty | nonempty
  · refine ⟨{ state with place := .returnedFalse }, ?_,
      orderly.moves state.files (by simp [atLock]) (by simp)⟩
    simp only [step, LogState.logThread, atLock, Log.moveBatch_none empty]
  · obtain ⟨⟨kept, bounded⟩, fileOut, noZero, -⟩ := orderly
    obtain ⟨log, rest, moved, emptied, tmpData, -, sameOut⟩ :=
      Log.moveBatch_some bounded nonempty
    have nothing : log.buffered = [] := by
      rw [Log.buffered_eq_take, emptied, List.take_zero]
    refine ⟨{ state with
        log
        files := output.use state.log.pLogCur state.files
        place := .beforeFile }, ?_, ⟨?_, ?_⟩, sameOut.trans fileOut, ?_, ?_⟩
    · simp only [step, LogState.logThread, atLock, moved]
    · have before : state.pending = [] := by simp [pending, atLock]
      rw [before, List.append_nil] at kept
      simp only [pending, nothing, tmpData, cString_append noZero,
        List.append_nil]
      exact kept
    · simp only [Log.Bounded, emptied, Nat.zero_le]
    · simp [nothing]
    · simp [tmpData]

/-- So does printing the batch. -/
theorem Orderly.print (orderly : state.Orderly) (outside : Outside)
    (atFile : state.place = .beforeFile) :
    ∃ next, state.step output (.logThread outside) = .ok next ∧
      next.Orderly := by
  obtain ⟨⟨kept, bounded⟩, fileOut, noZero, terminated⟩ := orderly
  have printed : state.log.print = .ok state.pending := by
    rw [Log.print, if_pos (terminated atFile), pending, atFile]
  refine ⟨{ state with
      files := output.write state.pending state.files
      stream := state.stream ++ state.pending
      place := .beforeScreen }, ?_, ⟨?_, bounded⟩, fileOut, noZero, nofun⟩
  · simp only [step, LogState.logThread, atFile, fileOut, if_true, printed]
  · simp only [pending, List.append_nil]
    exact kept

/-- So does every step of the log thread, whatever happens to its files. -/
theorem Orderly.logThread (orderly : state.Orderly) (outside : Outside) :
    ∃ next, state.step output (.logThread outside) = .ok next ∧
      next.Orderly := by
  cases place : state.place with
  | beforeOpen =>
      have fileOut := orderly.fileOut
      have elsewhere : state.place ≠ .beforeFile := by simp [place]
      cases running : state.log.bRuning with
      | false =>
          refine ⟨{ state with place := .returnedFalse }, ?_,
            orderly.moves state.files elsewhere (by simp)⟩
          simp [step, LogState.logThread, place, running]
      | true =>
          let opening := output.openFile outside state.files
          refine ⟨{ state with
              files := opening.2
              place := if opening.1 then .beforeLock else .returnedFalse }, ?_,
            orderly.moves opening.2 elsewhere (by split <;> simp)⟩
          simp [step, LogState.logThread, place, running, fileOut, opening]
  | beforeLock => exact orderly.moveBatch outside place
  | beforeFile => exact orderly.print outside place
  | beforeScreen =>
      refine ⟨{ state with place := .beforeOpen }, ?_,
        orderly.moves state.files (by simp [place]) (by simp)⟩
      simp only [step, LogState.logThread, place]
  | returnedFalse =>
      refine ⟨{ state with
          files := output.idle outside state.files
          place := .beforeOpen }, ?_,
        orderly.moves _ (by simp [place]) (by simp)⟩
      simp only [step, LogState.logThread, place]

/-- Every step preserves the invariant and stays inside the buffers. -/
theorem Orderly.step (orderly : state.Orderly) {action : LogAction Outside}
    (loggable : Loggable action) :
    ∃ next, state.step output action = .ok next ∧ next.Orderly := by
  cases action with
  | log buf => exact orderly.log loggable.1 loggable.2
  | logThread outside => exact orderly.logThread outside

theorem start_orderly {log : Log} (files : Files) (empty : log.pLogCur = 0)
    (fileOut : log.bFileOut = true) : (start log files).Orderly := by
  have nothing : log.buffered = [] := by
    rw [Log.buffered_eq_take, empty, List.take_zero]
  refine ⟨⟨?_, ?_⟩, fileOut, ?_, nofun⟩
  · simp [start, pending, accepted, nothing]
  · simp only [start, Log.Bounded, empty, Nat.zero_le]
  · simp [start, nothing]

/-- In every state of every run the messages that were not dropped are there,
in order, and no run leaves the buffers. -/
theorem logBuffering (output : LogOutput Files Outside) (log : Log)
    (files : Files) (actions : List (LogAction Outside))
    (empty : log.pLogCur = 0) (fileOut : log.bFileOut = true)
    (loggable : ∀ action ∈ actions, Loggable action) :
    HoldsThroughout (step output) Complete (start log files) actions := by
  have meets : MeetsAlong (step output) (fun _ action => Loggable action)
      (start log files) actions :=
    meetsAlong_of_forall fun action member _ => loggable action member
  have orderly : HoldsThroughout (step output) Orderly (start log files)
      actions :=
    holdsThroughout_of_meetsAlong
      (fun _ _ orderly loggable => orderly.step loggable)
      (start_orderly files empty fileOut) meets
  exact orderly.imp fun _ orderly => orderly.complete

/-- Two messages, the second of them logged after the first has been moved. -/
theorem logBuffering_twoMessages :
    let output : LogOutput Unit Bool :=
      { openFile := fun opens files => (opens, files)
        use := fun _ files => files
        write := fun _ files => files
        idle := fun _ files => files }
    let log : Log :=
      { bRuning := true, bFileOut := true
        data := Block.zero maxLogBufferSize, pLogCur := 0
        tmpData := Block.zero maxLogBufferSize, lDropCount := 0 }
    HoldsThroughout (step output) Complete (start log ())
      [.log [65], .logThread true, .logThread true, .log [66],
        .logThread true] := by
  intro output log
  refine logBuffering output log () _ rfl rfl ?_
  simp [Loggable, maxLogBufferSize]

end LogState

end EchoServer
