import EchoServer.StorageReturn
import Mathlib.Data.List.Perm.Basic

/-!
# What the memory manager reports

Built with `_TEST_MEM_`, `malloc` records under the address of each block
where it was asked for, in a section of its own behind those of `malloc(size)`,
and `free` erases the record.  A pool counts the blocks that it has carved,
returned and taken back, and logs these numbers when it is destroyed.
-/

namespace EchoServer

open MallocManager MapLookup

/-- `Recode`. -/
structure Recode where
  filename : Bytes
  line : Int32
  deriving DecidableEq

/-- The counters of a `mallocPool`. -/
structure PoolHistory where
  historyCount : UInt64
  historyGet : UInt64
  historyFree : UInt64

namespace PoolHistory

/-- Before the first expansion. -/
def zero : PoolHistory where
  historyCount := 0
  historyGet := 0
  historyFree := 0

/-- `mallocPool::doExpand`. -/
def doExpand (pool : MallocPool) (history : PoolHistory) : PoolHistory :=
  { history with
    historyCount := history.historyCount + UInt64.ofNat pool.count }

/-- `mallocPool::malloc`. -/
def malloc (operatorNew : OperatorNew) (heap : Heap) (pool : MallocPool)
    (history : PoolHistory) : PoolHistory :=
  let history :=
    if pool.freeList = [] then history.doExpand pool else history
  match (pool.malloc operatorNew heap).1 with
  | some _ => { history with historyGet := history.historyGet + 1 }
  | none => history

/-- `mallocPool::free` on a block. -/
def free (history : PoolHistory) : PoolHistory :=
  { history with historyFree := history.historyFree + 1 }

end PoolHistory

/-- A call of `malloc(size, filename, line)` under way: what it will record,
and the block, once `malloc(size)` has returned it. -/
structure RecodeCall where
  recode : Recode
  block : Option MemoryBlock

/-- The allocator with the counters of the pools, by size, the records, the
calls of the threads, and, from the start, the blocks returned and not yet
given back, with where they were asked for. -/
structure Reporter where
  allocator : Allocator
  histories : Nat → PoolHistory
  ptrRecode : Std.TreeMap Nat Recode
  calls : Nat → Option RecodeCall
  held : List (MemoryBlock × Recode)

/-- One section of a call, or a store. -/
inductive ReporterAction
  | malloc (thread size : Nat) (filename : Bytes) (line : UInt32)
      (operatorNew : OperatorNew)
  | insertBig (thread : Nat)
  | record (thread : Nat)
  | free (ptr : Nat)
  | store (address : Nat) (byte : UInt8)

namespace Reporter

def initial (memory : Nat → UInt8) : Reporter where
  allocator := .initial memory
  histories _ := .zero
  ptrRecode := ∅
  calls _ := none
  held := []

/-- The counters of the pool of a size behind `malloc`; a pool that is created
counts from zero. -/
def countMalloc (operatorNew : OperatorNew) (size : Nat)
    (state : Reporter) : PoolHistory :=
  let manager := state.allocator.manager
  let (heap, pool) := manager.poolOf operatorNew size
  match manager.smallList[size]? with
  | some _ => (state.histories size).malloc operatorNew heap pool
  | none =>
      (PoolHistory.zero.doExpand (.unexpanded size)).malloc operatorNew heap
        pool

/-- `malloc(size)` in `malloc(size, filename, line)`, or its first section. -/
def malloc (thread size : Nat) (recode : Recode) (operatorNew : OperatorNew)
    (state : Reporter) : Reporter :=
  let allocator := state.allocator.malloc thread size operatorNew
  let fixed := fixSize size
  if fixed < memMaxSize then
    let histories := Function.update state.histories fixed
      (state.countMalloc operatorNew fixed)
    match (state.allocator.manager.mallocSmall operatorNew fixed).1 with
    | some start =>
        { state with
          allocator
          histories
          calls := Function.update state.calls thread
            (some { recode, block := some { start, requested := size } }) }
    | none => { state with allocator, histories }
  else
    { state with
      allocator
      calls := Function.update state.calls thread
        (some { recode, block := none }) }

/-- The section that records the block. -/
def record (thread : Nat) (recode : Recode) (block : MemoryBlock)
    (state : Reporter) : Reporter :=
  { state with
    ptrRecode := state.ptrRecode.insertIfNew block.start recode
    calls := Function.update state.calls thread none
    held := state.held ++ [(block, recode)] }

/-- `mallocManager::free`. -/
def free (ptr : Nat) (state : Reporter) : Reporter :=
  if ptr = 0 then
    state
  else
    { state with
      allocator := state.allocator.free ptr
      histories :=
        match state.allocator.manager.smallPtrList[ptr]? with
        | some size =>
            Function.update state.histories size (state.histories size).free
        | none => state.histories
      ptrRecode := state.ptrRecode.erase ptr
      held := state.held.filter (·.1.start ≠ ptr) }

/-- One step.  A thread that is inside a call first finishes it. -/
def step (state : Reporter) : ReporterAction → Reporter
  | .malloc thread size filename line operatorNew =>
      match state.calls thread with
      | some _ => state
      | none =>
          state.malloc thread size { filename, line := line.toInt32 }
            operatorNew
  | .insertBig thread =>
      match state.calls thread, state.allocator.pending thread with
      | some { recode, block := none }, some block =>
          { state with
            allocator := state.allocator.insertBig thread block
            calls := Function.update state.calls thread
              (some { recode, block := some block }) }
      | _, _ => state
  | .record thread =>
      match state.calls thread with
      | some { recode, block := some block } =>
          state.record thread recode block
      | _ => state
  | .free ptr => state.free ptr
  | .store address byte =>
      { state with allocator := state.allocator.store address byte }

/-- `mallocManager::printMemRecode`. -/
def printMemRecode (state : Reporter) : List Recode :=
  state.ptrRecode.toList.map Prod.snd

end Reporter

end EchoServer
