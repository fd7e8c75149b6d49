import EchoServer.AddressSpan
import EchoServer.MallocManager
import Mathlib.Logic.Function.Basic

/-!
# The memory pools

`MallocPool.cpp` and `MallocManager.cpp`.  A pool carves the storage that it
gets from `operator new[]` into blocks of one size and keeps a list of the
free ones.  The manager has one pool for each small size, gives out storage of
its own for each big block, and finds blocks again by their addresses.
-/

namespace EchoServer

/-- `operator new[]`: where the storage lies that it returns, given the
storage that it has returned and that has not been deleted. -/
structure OperatorNew where
  address : List Span → Nat → Nat
  address_pos : ∀ storage size, 0 < address storage size
  fresh : ∀ (storage : List Span) (size : Nat), ∀ span ∈ storage,
    span.Apart ⟨address storage size, size⟩

/-- Storage behind everything that is in use. -/
instance : Inhabited OperatorNew where
  default :=
    { address storage _ := (storage.map Span.stop).foldr max 1
      address_pos := by
        intro storage _
        induction storage with
        | nil => exact Nat.one_pos
        | cons span storage ih => exact Nat.lt_of_lt_of_le ih (Nat.le_max_right _ _)
      fresh := by
        intro storage size span member
        refine .inl ?_
        induction storage with
        | nil => cases member
        | cons head storage ih =>
            rcases List.mem_cons.mp member with rfl | behind
            · exact Nat.le_max_left _ _
            · exact Nat.le_trans (ih behind) (Nat.le_max_right _ _) }

/-- The storage that has not been deleted, and the bytes in memory. -/
structure Heap where
  storage : List Span
  memory : Nat → UInt8

namespace Heap

/-- `memset(ptr, 0, size)`. -/
def clear (ptr size : Nat) (heap : Heap) : Heap :=
  { heap with
    memory := fun address =>
      if ptr ≤ address ∧ address < ptr + size then 0
      else heap.memory address }

/-- `new char[size]`, which both callers fill with zeros. -/
def newArray (operatorNew : OperatorNew) (size : Nat) (heap : Heap) :
    Nat × Heap :=
  let ptr := operatorNew.address heap.storage size
  (ptr, clear ptr size { heap with storage := ⟨ptr, size⟩ :: heap.storage })

/-- `delete[] ptr`. -/
def deleteArray (ptr : Nat) (heap : Heap) : Heap :=
  { heap with storage := heap.storage.filter (·.start ≠ ptr) }

end Heap

structure MallocPool where
  size : Nat
  count : Nat
  allMemList : List Nat
  freeList : List Nat

namespace MallocPool

/-- `mallocPool::doExpand`. -/
def doExpand (operatorNew : OperatorNew) (heap : Heap) (pool : MallocPool) :
    Heap × MallocPool :=
  let (ptr, heap) := heap.newArray operatorNew (pool.size * pool.count)
  (heap,
    { pool with
      allMemList := pool.allMemList ++ [ptr]
      freeList := pool.freeList ++ Span.carve pool.size ptr pool.count })

/-- `mallocPool::mallocPool`. -/
def new (operatorNew : OperatorNew) (size count : Nat) (heap : Heap) :
    Heap × MallocPool :=
  doExpand operatorNew heap { size, count, allMemList := [], freeList := [] }

/-- `mallocPool::malloc`. -/
def malloc (operatorNew : OperatorNew) (heap : Heap) (pool : MallocPool) :
    Option Nat × Heap × MallocPool :=
  let (heap, pool) :=
    if pool.freeList = [] then pool.doExpand operatorNew heap
    else (heap, pool)
  match pool.freeList with
  | [] => (none, heap, pool)
  | ptr :: freeList => (some ptr, heap, { pool with freeList })

/-- `mallocPool::free`. -/
def free (ptr : Nat) (heap : Heap) (pool : MallocPool) :
    Bool × Heap × MallocPool :=
  if ptr = 0 then
    (false, heap, pool)
  else
    (true, heap.clear ptr pool.size,
      { pool with freeList := pool.freeList ++ [ptr] })

/-- The blocks that `doExpand` has carved. -/
def carved (pool : MallocPool) : List Nat :=
  pool.allMemList.flatMap fun base => Span.carve pool.size base pool.count

end MallocPool

/-- `mallocManager`, with the heap.  A pool is known by its size, under which
`_small_list` has it from its creation on. -/
structure MallocManager where
  heap : Heap
  smallList : Std.TreeMap Nat MallocPool
  smallPtrList : Std.TreeMap Nat Nat
  bigPtrList : Std.TreeMap Nat Nat

namespace MallocManager

/-- `mallocManager::getCount`. -/
def getCount (fixSize : Nat) : Nat :=
  if fixSize ≥ memMaxSize then 1 else memMaxSize / fixSize

/-- The pool of a size, which is created if there is none. -/
def poolOf (operatorNew : OperatorNew) (size : Nat)
    (manager : MallocManager) : Heap × MallocPool :=
  match manager.smallList[size]? with
  | some pool => (manager.heap, pool)
  | none => MallocPool.new operatorNew size (getCount size) manager.heap

/-- `mallocManager::malloc` for a size below `mem_max_size`, rounded up. -/
def mallocSmall (operatorNew : OperatorNew) (size : Nat)
    (manager : MallocManager) : Option Nat × MallocManager :=
  let (heap, pool) := manager.poolOf operatorNew size
  let (retPtr, heap, pool) := pool.malloc operatorNew heap
  let manager :=
    { manager with heap, smallList := manager.smallList.insert size pool }
  match retPtr with
  | some ptr =>
      (some ptr,
        { manager with
          smallPtrList := manager.smallPtrList.insertIfNew ptr size })
  | none => (none, manager)

/-- `mallocManager::malloc` for any other size, up to the lock. -/
def newBig (operatorNew : OperatorNew) (size : Nat)
    (manager : MallocManager) : Nat × MallocManager :=
  let (retPtr, heap) := manager.heap.newArray operatorNew size
  (retPtr, { manager with heap })

/-- The rest of it, under the lock. -/
def insertBig (retPtr size : Nat) (manager : MallocManager) : MallocManager :=
  { manager with bigPtrList := manager.bigPtrList.insertIfNew retPtr size }

/-- `mallocManager::free`.  Every pointer in `_small_ptr_list` comes with a
pool of `_small_list`. -/
def free (ptr : Nat) (manager : MallocManager) : Bool × MallocManager :=
  if ptr = 0 then
    (false, manager)
  else
    match manager.smallPtrList[ptr]? with
    | some size =>
        match manager.smallList[size]? with
        | some pool =>
            let (ret, heap, pool) := pool.free ptr manager.heap
            (ret,
              { manager with
                heap
                smallList := manager.smallList.insert size pool
                smallPtrList := manager.smallPtrList.erase ptr })
        | none => (false, manager)
    | none =>
        match manager.bigPtrList[ptr]? with
        | some _ =>
            (true,
              { manager with
                heap := manager.heap.deleteArray ptr
                bigPtrList := manager.bigPtrList.erase ptr })
        | none => (false, manager)

/-- `mallocManager::avail`. -/
def avail (ptr : Nat) (manager : MallocManager) : Bool :=
  ptr ≠ 0 &&
    (manager.smallPtrList.contains ptr || manager.bigPtrList.contains ptr)

end MallocManager

/-- A block as the caller of `malloc` knows it. -/
structure MemoryBlock where
  start : Nat
  requested : Nat
  deriving DecidableEq

namespace MemoryBlock

/-- The memory of the block. -/
def extent (block : MemoryBlock) : Span where
  start := block.start
  size := MallocManager.fixSize block.requested

end MemoryBlock

/-- The manager with the threads that use it: the big blocks between the two
sections of `malloc`, by thread, and the blocks returned and not yet given
back. -/
structure Allocator where
  manager : MallocManager
  pending : Nat → Option MemoryBlock
  live : List MemoryBlock

/-- One section of a call, or a store. -/
inductive AllocatorAction
  | malloc (thread size : Nat) (operatorNew : OperatorNew)
  | insertBig (thread : Nat)
  | free (ptr : Nat)
  | store (address : Nat) (byte : UInt8)

namespace Allocator

def initial (memory : Nat → UInt8) : Allocator where
  manager :=
    { heap := { storage := [], memory }
      smallList := ∅
      smallPtrList := ∅
      bigPtrList := ∅ }
  pending _ := none
  live := []

/-- `malloc` for a small size, or its first section for a big one. -/
def malloc (thread size : Nat) (operatorNew : OperatorNew)
    (state : Allocator) : Allocator :=
  let fixed := MallocManager.fixSize size
  if fixed < MallocManager.memMaxSize then
    match state.manager.mallocSmall operatorNew fixed with
    | (some start, manager) =>
        { state with
          manager
          live := state.live ++ [{ start, requested := size }] }
    | (none, manager) => { state with manager }
  else
    let (start, manager) := state.manager.newBig operatorNew fixed
    { state with
      manager
      pending := Function.update state.pending thread
        (some { start, requested := size }) }

/-- The second section of `malloc` for a big size, which returns the block. -/
def insertBig (thread : Nat) (block : MemoryBlock) (state : Allocator) :
    Allocator :=
  { manager := state.manager.insertBig block.start block.extent.size
    pending := Function.update state.pending thread none
    live := state.live ++ [block] }

/-- `free`, after which no block starts at the address. -/
def free (ptr : Nat) (state : Allocator) : Allocator :=
  { state with
    manager := (state.manager.free ptr).2
    live := state.live.filter (·.start ≠ ptr) }

def store (address : Nat) (byte : UInt8) (state : Allocator) : Allocator :=
  { state with
    manager :=
      { state.manager with
        heap :=
          { state.manager.heap with
            memory :=
              Function.update state.manager.heap.memory address byte } } }

/-- One step.  A thread that is inside a call of `malloc` first finishes it. -/
def step (state : Allocator) : AllocatorAction → Allocator
  | .malloc thread size operatorNew =>
      match state.pending thread with
      | some _ => state
      | none => state.malloc thread size operatorNew
  | .insertBig thread =>
      match state.pending thread with
      | some block => state.insertBig thread block
      | none => state
  | .free ptr => state.free ptr
  | .store address byte => state.store address byte

end Allocator

end EchoServer
