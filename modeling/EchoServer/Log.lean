import EchoServer.ByteBlock
import EchoServer.CStrings

/-!
# The log

`Log.cpp` without its files.  Any thread appends messages to `_data` under the
lock.  The log thread calls `logFile` again and again: outside the lock it
opens a file, inside it moves what has been appended to `_tmpData`, and
outside again it prints that batch.  What is done with the files is a
parameter, so that the log can be followed over any behaviour of `openFile`.
-/

namespace EchoServer

/-- `Log::MAX_LOG_BUFFER_SIZE`. -/
def maxLogBufferSize : Nat := 614400

/-- An access outside `_data` or `_tmpData`. -/
inductive LogFault
  | outOfBounds
  deriving DecidableEq

/-- The fields of `Log` that do not belong to its files; `pLogCur` is an offset
from `_data`. -/
structure Log where
  bRuning : Bool
  bFileOut : Bool
  data : Block maxLogBufferSize
  pLogCur : Nat
  tmpData : Block maxLogBufferSize
  lDropCount : Nat

namespace Log

/-- `Log::log`.  The sum of a signed and an unsigned number is unsigned. -/
def log (buf : Bytes) (log : Log) : Except LogFault Log :=
  if (log.pLogCur + buf.length) % 2 ^ 32 > maxLogBufferSize - 200 then
    .ok { log with lDropCount := (log.lDropCount + 1) % 2 ^ 64 }
  else if maxLogBufferSize < log.pLogCur + buf.length then
    .error .outOfBounds
  else
    .ok
      { log with
        data := log.data.overwrite log.pLogCur buf
        pLogCur := log.pLogCur + buf.length }

/-- The part of `logFile` under the lock: none if nothing has been appended. -/
def moveBatch (log : Log) : Except LogFault (Option Log) :=
  let tmpLine := log.pLogCur
  if tmpLine ≤ 0 then
    .ok none
  else if maxLogBufferSize < tmpLine + 1 then
    .error .outOfBounds
  else
    let tmpData := log.tmpData.overwrite 0 (log.data.slice 0 tmpLine)
    .ok (some
      { log with
        tmpData := tmpData.overwrite tmpLine [0]
        pLogCur := 0 })

variable {log next : Log}

theorem log_bFileOut {buf : Bytes} (logged : log.log buf = .ok next) :
    next.bFileOut = log.bFileOut := by
  unfold Log.log at logged
  split at logged
  · cases logged
    rfl
  · split at logged
    · cases logged
    · cases logged
      rfl

theorem log_tmpData {buf : Bytes} (logged : log.log buf = .ok next) :
    next.tmpData = log.tmpData := by
  unfold Log.log at logged
  split at logged
  · cases logged
    rfl
  · split at logged
    · cases logged
    · cases logged
      rfl

theorem moveBatch_bFileOut (moved : log.moveBatch = .ok (some next)) :
    next.bFileOut = log.bFileOut := by
  unfold moveBatch at moved
  dsimp only at moved
  split at moved
  · cases moved
  · split at moved
    · cases moved
    · cases moved
      rfl

/-- A batch that has been moved ends with a zero. -/
theorem moveBatch_terminated (moved : log.moveBatch = .ok (some next)) :
    0 ∈ next.tmpData.bytes := by
  unfold moveBatch at moved
  dsimp only at moved
  split at moved
  · cases moved
  · split at moved
    · cases moved
    · rename_i room
      cases moved
      rw [Block.overwrite_bytes
        (by rw [List.length_singleton]; exact Nat.le_of_not_lt room)]
      simp

/-- What `_fp << _tmpData` prints. -/
def print (log : Log) : Except LogFault Bytes :=
  if 0 ∈ log.tmpData.bytes then .ok (cString log.tmpData.bytes)
  else .error .outOfBounds

end Log

/-- What the log thread does with its files.  Each call of `openFile`, and
each reading of the clock, gets something from outside. -/
structure LogOutput (Files Outside : Type) where
  openFile : Outside → Files → Bool × Files
  /-- `_nNowUseSize += tmpLine`. -/
  use : Nat → Files → Files
  write : Bytes → Files → Files
  /-- `_nNowDay = getNowDay()`. -/
  idle : Outside → Files → Files

/-- Where the log thread is in `Log::run`. -/
inductive LogPlace
  | beforeOpen
  | beforeLock
  | beforeFile
  | beforeScreen
  | returnedFalse
  deriving DecidableEq

/-- The log with its files, the place of the log thread, all that has been
written to files, and the calls of `log` in the order of the lock, each with
whether it was counted in `_lDropCount`. -/
structure LogState (Files : Type) where
  log : Log
  files : Files
  place : LogPlace
  stream : Bytes
  calls : List (Bytes × Bool)

/-- What happens next: some thread calls `log`, or the log thread takes its
next step. -/
inductive LogAction (Outside : Type)
  | log (buf : Bytes)
  | logThread (outside : Outside)

namespace LogState

variable {Files Outside : Type} (output : LogOutput Files Outside)

/-- Nothing has been logged. -/
def start (log : Log) (files : Files) : LogState Files where
  log := log
  files := files
  place := .beforeOpen
  stream := []
  calls := []

/-- The next step of the log thread. -/
def logThread (outside : Outside) (state : LogState Files) :
    Except LogFault (LogState Files) :=
  match state.place with
  | .beforeOpen =>
      if !state.log.bRuning then
        .ok { state with place := .returnedFalse }
      else if !state.log.bFileOut then
        .ok { state with place := .beforeLock }
      else
        let (opened, files) := output.openFile outside state.files
        .ok
          { state with
            files
            place := if opened then .beforeLock else .returnedFalse }
  | .beforeLock =>
      match state.log.moveBatch with
      | .error fault => .error fault
      | .ok none => .ok { state with place := .returnedFalse }
      | .ok (some log) =>
          .ok
            { state with
              log
              files := output.use state.log.pLogCur state.files
              place := .beforeFile }
  | .beforeFile =>
      if state.log.bFileOut then
        match state.log.print with
        | .error fault => .error fault
        | .ok printed =>
            .ok
              { state with
                files := output.write printed state.files
                stream := state.stream ++ printed
                place := .beforeScreen }
      else
        .ok { state with place := .beforeScreen }
  | .beforeScreen => .ok { state with place := .beforeOpen }
  | .returnedFalse =>
      .ok
        { state with
          files := output.idle outside state.files
          place := .beforeOpen }

/-- The next state. -/
def step (state : LogState Files) :
    LogAction Outside → Except LogFault (LogState Files)
  | .log buf =>
      match state.log.log buf with
      | .error fault => .error fault
      | .ok log =>
          let counted := decide (log.lDropCount ≠ state.log.lDropCount)
          .ok { state with log, calls := state.calls ++ [(buf, counted)] }
  | .logThread outside => state.logThread output outside

end LogState

end EchoServer
