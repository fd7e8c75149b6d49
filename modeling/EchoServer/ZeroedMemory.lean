import EchoServer.AllocatorSafety

/-!
# Blocks are handed out filled with zeros

No block is cleared when it is returned from a pool.  The pools rely on their
free blocks being zero: they are when storage is carved, a block that is given
back is cleared, and callers store only inside the blocks that they hold.
-/

namespace EchoServer

open MallocManager MapLookup

namespace Heap

/-- All bytes of a span are zero. -/
def ZeroOn (span : Span) (heap : Heap) : Prop :=
  ∀ address, span.start ≤ address → address < span.stop →
    heap.memory address = 0

/-- What is zero stays zero. -/
def KeepsZeros (heap next : Heap) : Prop :=
  ∀ address, heap.memory address = 0 → next.memory address = 0

variable {heap next last : Heap} {span : Span}

theorem ZeroOn.of_inside {inner : Span} (zero : heap.ZeroOn span)
    (inside : inner.Inside span) : heap.ZeroOn inner := by
  intro address notBefore notBehind
  apply zero
  · exact Nat.le_trans inside.1 notBefore
  · exact Nat.lt_of_lt_of_le notBehind inside.2

theorem KeepsZeros.refl (heap : Heap) : heap.KeepsZeros heap :=
  fun _ zero => zero

theorem KeepsZeros.trans (first : heap.KeepsZeros next)
    (second : next.KeepsZeros last) : heap.KeepsZeros last :=
  fun address zero => second address (first address zero)

theorem KeepsZeros.zeroOn (keeps : heap.KeepsZeros next)
    (zero : heap.ZeroOn span) : next.ZeroOn span :=
  fun address notBefore notBehind =>
    keeps address (zero address notBefore notBehind)

theorem clear_zeroOn (ptr size : Nat) (heap : Heap) :
    (heap.clear ptr size).ZeroOn ⟨ptr, size⟩ := by
  intro address notBefore notBehind
  exact if_pos ⟨notBefore, notBehind⟩

theorem clear_keepsZeros (ptr size : Nat) (heap : Heap) :
    heap.KeepsZeros (heap.clear ptr size) := by
  intro address zero
  simp only [clear, zero, ite_self]

theorem newArray_zeroOn (operatorNew : OperatorNew) (size : Nat)
    (heap : Heap) :
    (heap.newArray operatorNew size).2.ZeroOn
      ⟨(heap.newArray operatorNew size).1, size⟩ :=
  clear_zeroOn _ _ _

theorem newArray_keepsZeros (operatorNew : OperatorNew) (size : Nat)
    (heap : Heap) : heap.KeepsZeros (heap.newArray operatorNew size).2 :=
  clear_keepsZeros _ _ _

end Heap

namespace MallocPool

/-- The free blocks of a pool are zero. -/
def FreeZero (heap : Heap) (pool : MallocPool) : Prop :=
  ∀ ptr ∈ pool.freeList, heap.ZeroOn ⟨ptr, pool.size⟩

variable {heap next : Heap} {pool : MallocPool}

theorem FreeZero.keeps (zero : pool.FreeZero heap)
    (keeps : heap.KeepsZeros next) : pool.FreeZero next :=
  fun ptr free => keeps.zeroOn (zero ptr free)

/-- An expansion carves storage that has been filled with zeros. -/
theorem doExpand_zero (operatorNew : OperatorNew)
    (zero : pool.FreeZero heap) :
    heap.KeepsZeros (pool.doExpand operatorNew heap).1 ∧
      (pool.doExpand operatorNew heap).2.FreeZero
        (pool.doExpand operatorNew heap).1 ∧
      (pool.doExpand operatorNew heap).2.size = pool.size := by
  have keeps := heap.newArray_keepsZeros operatorNew (pool.size * pool.count)
  have fresh := heap.newArray_zeroOn operatorNew (pool.size * pool.count)
  refine ⟨keeps, ?_, rfl⟩
  intro ptr free
  rcases List.mem_append.mp free with before | carved
  · exact keeps.zeroOn (zero ptr before)
  · exact fresh.of_inside (Span.carve_inside carved)

/-- A block that a pool returns was one of its free ones. -/
theorem malloc_zero (operatorNew : OperatorNew) (zero : pool.FreeZero heap)
    {result : Option Nat} {after : MallocPool}
    (returned : pool.malloc operatorNew heap = (result, next, after)) :
    heap.KeepsZeros next ∧ after.FreeZero next ∧ after.size = pool.size ∧
      ∀ ptr, result = some ptr → next.ZeroOn ⟨ptr, pool.size⟩ := by
  have expanded :
      let expansion := if pool.freeList = [] then
        pool.doExpand operatorNew heap else (heap, pool)
      heap.KeepsZeros expansion.1 ∧ expansion.2.FreeZero expansion.1 ∧
        expansion.2.size = pool.size := by
    split_ifs
    · exact doExpand_zero operatorNew zero
    · exact ⟨.refl heap, zero, rfl⟩
  unfold malloc at returned
  generalize (if pool.freeList = [] then pool.doExpand operatorNew heap
    else (heap, pool)) = expansion at expanded returned
  obtain ⟨reached, pool⟩ := expansion
  obtain ⟨keeps, freeZero, sized⟩ := expanded
  simp only at keeps freeZero sized returned
  rw [← sized]
  split at returned
  · cases returned
    refine ⟨keeps, freeZero, rfl, ?_⟩
    rintro _ ⟨⟩
  · rename_i ptr freeList head
    cases returned
    refine ⟨keeps, ?_, rfl, ?_⟩
    · intro other free
      exact freeZero other (head ▸ List.mem_cons_of_mem ptr free)
    · rintro _ ⟨⟩
      exact freeZero ptr (head ▸ List.mem_cons_self)

end MallocPool

/-- The free blocks of all pools are zero. -/
def MallocManager.PoolsZero (manager : MallocManager) : Prop :=
  ∀ (size : Nat) (pool : MallocPool), manager.smallList[size]? = some pool →
    pool.FreeZero manager.heap

/-- The list with one pool entered again. -/
theorem MallocManager.PoolsZero.insert {manager : MallocManager}
    (zero : manager.PoolsZero) {heap : Heap} {pool : MallocPool}
    (keeps : manager.heap.KeepsZeros heap) (freeZero : pool.FreeZero heap)
    (size : Nat) (other : Nat) (known : MallocPool)
    (lookup : (manager.smallList.insert size pool)[other]? = some known) :
    known.FreeZero heap := by
  rw [insert_getElem?] at lookup
  split_ifs at lookup with same
  · cases lookup
    exact freeZero
  · exact (zero other known lookup).keeps keeps

namespace Allocator

/-- The memory that `malloc` can hand out next is zero: the free blocks of the
pools, and the big blocks that are not entered yet. -/
structure Zeroed (state : Allocator) : Prop where
  free : state.manager.PoolsZero
  pending : ∀ thread block, state.pending thread = some block →
    state.manager.heap.ZeroOn block.extent

/-- A store goes to a block that is live. -/
def StoreInside (state : Allocator) : AllocatorAction → Prop
  | .store address _ => ∃ block ∈ state.live,
      block.extent.start ≤ address ∧ address < block.extent.stop
  | _ => True

/-- All stores of a run go to blocks that are live then. -/
def StoresInside : Allocator → List AllocatorAction → Prop
  | _, [] => True
  | state, action :: actions =>
      state.StoreInside action ∧ StoresInside (state.step action) actions

/-- The block that a step returns is zero over its rounded size. -/
def ReturnsZeroed (state : Allocator) (action : AllocatorAction) : Prop :=
  ∀ block ∈ (state.step action).live, block ∉ state.live →
    (state.step action).manager.heap.ZeroOn block.extent

variable {state : Allocator}

/-- A free block lies apart from every live one. -/
theorem free_apart (sound : state.ledger.Sound) {size ptr : Nat}
    {pool : MallocPool} (known : state.manager.smallList[size]? = some pool)
    (free : ptr ∈ pool.freeList) {block : MemoryBlock}
    (live : block ∈ state.live) :
    (Span.mk ptr size).Apart block.extent := by
  have listed : state.ledger.pools size = some pool := known
  have carved := sound.free_carved listed free
  obtain ⟨span, owns, -, inside⟩ := sound.carved_owned listed carved
  obtain ⟨owner, home, ownsHome, liveInside, which⟩ := live_home sound live
  rcases sound.apart _ _ _ _ owns ownsHome with ⟨rfl, rfl⟩ | apart
  · rcases which with ⟨small, same⟩ | ⟨isBig, -⟩
    · obtain rfl : size = block.extent.size := StorageOwner.pool.inj same
      apply carved_apart sound listed carved
        (sound.listed_carved listed small)
      intro same
      have unlisted := sound.free_unlisted listed free
      rw [same, small] at unlisted
      cases unlisted
    · cases isBig
  · exact apart.of_inside inside liveInside

/-- A big block that is not entered yet lies apart from every live one. -/
theorem pending_apart (sound : state.ledger.Sound) {thread : Nat}
    {waiting : MemoryBlock} (waits : state.pending thread = some waiting)
    {block : MemoryBlock} (live : block ∈ state.live) :
    waiting.extent.Apart block.extent := by
  have owns : state.ledger.Owns (.pending thread) waiting.extent :=
    ⟨waiting, waits, rfl⟩
  obtain ⟨owner, home, ownsHome, liveInside, which⟩ := live_home sound live
  rcases sound.apart _ _ _ _ owns ownsHome with ⟨rfl, -⟩ | apart
  · rcases which with ⟨-, isPool⟩ | ⟨isBig, -⟩
    · cases isPool
    · cases isBig
  · exact apart.of_inside (.refl _) liveInside

/-- A store does not reach a span that is apart from its block. -/
theorem store_zeroOn {address : Nat} {byte : UInt8} {block span : Span}
    (notBefore : block.start ≤ address) (notBehind : address < block.stop)
    (apart : span.Apart block) (zero : state.manager.heap.ZeroOn span) :
    (state.store address byte).manager.heap.ZeroOn span := by
  intro other notBeforeSpan notBehindSpan
  have different : other ≠ address := by
    rintro rfl
    unfold Span.Apart at apart
    omega
  simp only [store, Function.update_of_ne different]
  exact zero other notBeforeSpan notBehindSpan

theorem store_zeroed (sound : state.ledger.Sound) (zeroed : state.Zeroed)
    {address : Nat} {byte : UInt8}
    (inside : state.StoreInside (.store address byte)) :
    (state.store address byte).Zeroed := by
  obtain ⟨block, live, notBefore, notBehind⟩ := inside
  constructor
  · intro size pool known ptr free
    have sized : pool.size = size := (sound.pools size pool known).sized
    apply store_zeroOn notBefore notBehind
    · rw [sized]
      exact free_apart sound known free live
    · exact zeroed.free size pool known ptr free
  · intro thread waiting waits
    apply store_zeroOn notBefore notBehind
    · exact pending_apart sound waits live
    · exact zeroed.pending thread waiting waits

/-- The pool of a size, which is created if there is none. -/
theorem poolOf_zero (sound : state.ledger.Sound) (zeroed : state.Zeroed)
    (operatorNew : OperatorNew) (size : Nat) :
    state.manager.heap.KeepsZeros
        (state.manager.poolOf operatorNew size).1 ∧
      (state.manager.poolOf operatorNew size).2.FreeZero
        (state.manager.poolOf operatorNew size).1 ∧
      (state.manager.poolOf operatorNew size).2.size = size := by
  unfold MallocManager.poolOf
  cases known : state.manager.smallList[size]? with
  | some pool =>
      exact ⟨.refl _, zeroed.free size pool known,
        (sound.pools size pool known).sized⟩
  | none =>
      apply MallocPool.doExpand_zero operatorNew
      rintro ptr ⟨⟩

/-- A block from a pool is zero, and so is what is left. -/
theorem mallocSmall_zero (sound : state.ledger.Sound)
    (zeroed : state.Zeroed) (operatorNew : OperatorNew) {size : Nat}
    {result : Option Nat} {manager : MallocManager}
    (returned : state.manager.mallocSmall operatorNew size =
      (result, manager)) :
    state.manager.heap.KeepsZeros manager.heap ∧
      manager.PoolsZero ∧
      ∀ ptr, result = some ptr → manager.heap.ZeroOn ⟨ptr, size⟩ := by
  obtain ⟨created, freeZero, sized⟩ :=
    poolOf_zero sound zeroed operatorNew size
  rcases taken : (state.manager.poolOf operatorNew size).2.malloc operatorNew
    (state.manager.poolOf operatorNew size).1 with ⟨found, heap, pool⟩
  obtain ⟨expanded, leftZero, leftSized, zero⟩ :=
    MallocPool.malloc_zero operatorNew freeZero taken
  rw [sized] at zero
  have keeps := created.trans expanded
  have pools := zeroed.free.insert keeps leftZero size
  simp only [MallocManager.mallocSmall, taken] at returned
  cases found <;> cases returned <;> exact ⟨keeps, pools, zero⟩

theorem malloc_zeroed (sound : state.ledger.Sound) (zeroed : state.Zeroed)
    (thread size : Nat) (operatorNew : OperatorNew) :
    (state.malloc thread size operatorNew).Zeroed ∧
      ∀ block ∈ (state.malloc thread size operatorNew).live,
        block ∉ state.live →
          (state.malloc thread size operatorNew).manager.heap.ZeroOn
            block.extent := by
  unfold malloc
  simp only
  split_ifs with small
  · rcases returned : state.manager.mallocSmall operatorNew (fixSize size)
      with ⟨result, manager⟩
    obtain ⟨keeps, pools, zero⟩ :=
      mallocSmall_zero sound zeroed operatorNew returned
    have pending : ∀ thread block, state.pending thread = some block →
        manager.heap.ZeroOn block.extent :=
      fun thread block waits =>
        keeps.zeroOn (zeroed.pending thread block waits)
    cases result with
    | none => exact ⟨⟨pools, pending⟩, fun block there new =>
        absurd there new⟩
    | some ptr =>
        refine ⟨⟨pools, pending⟩, ?_⟩
        intro block there new
        rcases List.mem_append.mp there with before | added
        · exact absurd before new
        · obtain rfl := List.mem_singleton.mp added
          exact zero ptr rfl
  · refine ⟨⟨?_, ?_⟩, fun block there new => absurd there new⟩
    · intro other pool known
      exact (zeroed.free other pool known).keeps
        (Heap.newArray_keepsZeros operatorNew _ _)
    · intro other block waits
      simp only [Function.update_apply] at waits
      split_ifs at waits
      · cases waits
        exact Heap.newArray_zeroOn operatorNew _ _
      · exact (Heap.newArray_keepsZeros operatorNew _ _).zeroOn
          (zeroed.pending other block waits)

/-- A block that goes back to its pool is cleared. -/
theorem free_zero (zeroed : state.Zeroed) (ptr : Nat) :
    state.manager.heap.KeepsZeros (state.manager.free ptr).2.heap ∧
      (state.manager.free ptr).2.PoolsZero := by
  have stays : state.manager.heap.KeepsZeros state.manager.heap ∧
      state.manager.PoolsZero := ⟨.refl _, zeroed.free⟩
  unfold MallocManager.free
  split_ifs with isNull
  · exact stays
  split
  · rename_i size listed
    split
    · rename_i pool known
      have keeps := Heap.clear_keepsZeros ptr pool.size state.manager.heap
      have freeZero : { pool with freeList := pool.freeList ++ [ptr] }.FreeZero
          (state.manager.heap.clear ptr pool.size) := by
        intro other free
        rcases List.mem_append.mp free with before | added
        · exact keeps.zeroOn (zeroed.free size pool known other before)
        · obtain rfl := List.mem_singleton.mp added
          exact Heap.clear_zeroOn other pool.size _
      simp only [MallocPool.free, isNull, if_false]
      exact ⟨keeps, zeroed.free.insert keeps freeZero size⟩
    · exact stays
  · split
    · exact stays
    · exact stays

theorem free_zeroed (zeroed : state.Zeroed) (ptr : Nat) :
    (state.free ptr).Zeroed := by
  obtain ⟨keeps, pools⟩ := free_zero zeroed ptr
  exact ⟨pools, fun thread block waits =>
    keeps.zeroOn (zeroed.pending thread block waits)⟩

/-- A big block that is entered has been filled with zeros before. -/
theorem insertBig_zeroed (zeroed : state.Zeroed) {thread : Nat}
    {waiting : MemoryBlock} (waits : state.pending thread = some waiting) :
    (state.insertBig thread waiting).Zeroed ∧
      ∀ block ∈ (state.insertBig thread waiting).live,
        block ∉ state.live →
          (state.insertBig thread waiting).manager.heap.ZeroOn
            block.extent := by
  refine ⟨⟨zeroed.free, ?_⟩, ?_⟩
  · intro other block stillWaits
    simp only [insertBig, Function.update_apply] at stillWaits
    split_ifs at stillWaits
    exact zeroed.pending other block stillWaits
  · intro block there new
    rcases List.mem_append.mp there with before | added
    · exact absurd before new
    · obtain rfl := List.mem_singleton.mp added
      exact zeroed.pending thread block waits

/-- One step keeps the memory that is handed out next zero, and hands out what
was zero. -/
theorem step_zeroed (sound : state.ledger.Sound) (zeroed : state.Zeroed)
    (action : AllocatorAction) (inside : state.StoreInside action) :
    (state.step action).Zeroed ∧ state.ReturnsZeroed action := by
  unfold ReturnsZeroed
  cases action with
  | malloc thread size operatorNew =>
      simp only [step]
      split
      · exact ⟨zeroed, fun block there new => absurd there new⟩
      · exact malloc_zeroed sound zeroed thread size operatorNew
  | insertBig thread =>
      simp only [step]
      split
      · rename_i waiting waits
        exact insertBig_zeroed zeroed waits
      · exact ⟨zeroed, fun block there new => absurd there new⟩
  | free ptr =>
      refine ⟨free_zeroed zeroed ptr, ?_⟩
      intro block there new
      exact absurd (List.mem_filter.mp there).1 new
  | store address byte =>
      refine ⟨store_zeroed sound zeroed inside, ?_⟩
      intro block there new
      exact absurd there new

theorem initial_zeroed (memory : Nat → UInt8) : (initial memory).Zeroed where
  free := by
    intro size pool known
    simp [initial] at known
  pending := by
    intro thread block waits
    cases waits

/-- Along a run whose stores go to live blocks, every step returns what was
zero. -/
theorem returnsZeroed_of_storesInside (actions : List AllocatorAction) :
    ∀ state : Allocator, state.ledger.Sound → state.Zeroed →
      state.StoresInside actions →
        ∀ first action second, actions = first ++ action :: second →
          (first.foldl step state).ReturnsZeroed action := by
  induction actions with
  | nil =>
      intro state sound zeroed inside first action second split
      simp at split
  | cons head actions ih =>
      intro state sound zeroed inside first action second split
      obtain ⟨nextZeroed, returns⟩ :=
        step_zeroed sound zeroed head inside.1
      cases first with
      | nil =>
          obtain ⟨rfl, -⟩ := List.cons.inj split
          exact returns
      | cons other first =>
          obtain ⟨rfl, splitRest⟩ := List.cons.inj split
          exact ih (state.step head) (sound.effects (step_effects sound head))
            nextZeroed inside.2 first action second splitRest

end Allocator

/-- However the sections of the threads' calls interleave with stores into the
blocks that they hold, every block that `malloc` returns is zero over its whole
rounded size when it is returned. -/
theorem zeroedMemory (memory : Nat → UInt8) (actions : List AllocatorAction)
    (inside : (Allocator.initial memory).StoresInside actions)
    (first second : List AllocatorAction) (action : AllocatorAction)
    (split : actions = first ++ action :: second) :
    (first.foldl Allocator.step (Allocator.initial memory)).ReturnsZeroed
      action :=
  Allocator.returnsZeroed_of_storesInside actions _
    (Allocator.initial_sound memory) (Allocator.initial_zeroed memory) inside
    first action second split

/-- A thread writes at both ends of a block and gives it back. -/
def writeAndFree : List AllocatorAction :=
  [.malloc 0 8000 default, .store 1 7, .store 8000 9, .free 1]

/-- The same block, the only one of its pool, is returned to another thread. -/
theorem zeroedMemory_recycled :
    ((writeAndFree.foldl Allocator.step
        (Allocator.initial fun _ => 255)).step
          (.malloc 1 7500 default)).live = [⟨1, 7500⟩] ∧
      (writeAndFree.foldl Allocator.step
        (Allocator.initial fun _ => 255)).ReturnsZeroed
          (.malloc 1 7500 default) := by
  refine ⟨by decide +kernel, ?_⟩
  apply zeroedMemory (fun _ => 255)
    (writeAndFree ++ [.malloc 1 7500 default]) ?_ _ [] _ rfl
  exact ⟨trivial, ⟨⟨1, 8000⟩, by decide +kernel⟩,
    ⟨⟨1, 8000⟩, by decide +kernel⟩, trivial, trivial, trivial⟩

end EchoServer
