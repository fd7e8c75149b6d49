import EchoServer.AllocatorSafety
import Mathlib.Data.List.Nodup

/-!
# The end of the memory manager

`~mallocManager` deletes the storage of the pools and the big blocks.  All
storage that the manager has asked for belongs to a pool, to the list of big
blocks, or to a thread that has not entered its block yet.  So, if no call is
under way, the destructor deletes each piece once, and none is left.
-/

namespace EchoServer

open MallocManager MapLookup

namespace MallocManager

/-- What `~mallocManager` deletes, in this order: the storage of the pools,
in `~mallocPool`, and the big blocks. -/
def deletions (manager : MallocManager) : List Nat :=
  manager.smallList.toList.flatMap (fun entry => entry.2.allMemList) ++
    (manager.bigPtrList.toList.map Prod.fst).filter (· ≠ 0)

/-- The heap behind `~mallocManager`. -/
def destroy (manager : MallocManager) : Heap :=
  manager.deletions.foldl (fun heap ptr => heap.deleteArray ptr) manager.heap

end MallocManager

/-- Deleting pieces of storage leaves the others. -/
theorem Heap.deleteArrays_storage (ptrs : List Nat) (heap : Heap) :
    (ptrs.foldl (fun heap ptr => heap.deleteArray ptr) heap).storage =
      heap.storage.filter (·.start ∉ ptrs) := by
  induction ptrs generalizing heap with
  | nil => simp
  | cons ptr ptrs ih =>
      rw [List.foldl_cons, ih, Heap.deleteArray, List.filter_filter]
      apply List.filter_congr
      intro span _
      simp [not_or, Bool.and_comm]

/-- All storage has an owner: a pool, the list of big blocks, or a thread that
is about to enter its block there. -/
structure Covered (storage : List Span) (pools : Nat → Option MallocPool)
    (big : Nat → Option Nat) (pending : Nat → Option MemoryBlock) :
    Prop where
  distinct : (storage.map Span.start).Nodup
  nonempty : ∀ span ∈ storage, 0 < span.size
  pieces : ∀ size pool, pools size = some pool → pool.allMemList.Nodup
  owned : ∀ span ∈ storage,
    (∃ size pool, pools size = some pool ∧ span.start ∈ pool.allMemList) ∨
      big span.start = some span.size ∨
        ∃ thread block, pending thread = some block ∧ span = block.extent

namespace Covered

variable {storage : List Span} {pools : Nat → Option MallocPool}
variable {big : Nat → Option Nat} {pending : Nat → Option MemoryBlock}

/-- Fresh storage starts where no other storage does. -/
theorem start_new (covered : Covered storage pools big pending) {new : Span}
    (fresh : ∀ span ∈ storage, span.Apart new) (nonempty : 0 < new.size) :
    new.start ∉ storage.map Span.start := by
  intro again
  obtain ⟨span, stored, same⟩ := List.mem_map.mp again
  exact (fresh span stored).start_ne (covered.nonempty span stored) nonempty
    same

/-- A pool changes, but keeps its storage. -/
theorem setPool (covered : Covered storage pools big pending) {size : Nat}
    {changed : MallocPool} (nodup : changed.allMemList.Nodup)
    (keeps : ∀ pool, pools size = some pool →
      ∀ base ∈ pool.allMemList, base ∈ changed.allMemList) :
    Covered storage (Function.update pools size (some changed)) big
      pending where
  distinct := covered.distinct
  nonempty := covered.nonempty
  pieces := by
    intro other pool known
    rw [Function.update_apply] at known
    split_ifs at known
    · cases known
      exact nodup
    · exact covered.pieces other pool known
  owned := by
    intro span stored
    rcases covered.owned span stored with ⟨other, pool, known, isIn⟩ | rest
    · left
      by_cases same : other = size
      · subst same
        exact ⟨other, changed, Function.update_self .., keeps pool known _ isIn⟩
      · exact ⟨other, pool, by rw [Function.update_of_ne same]; exact known,
          isIn⟩
    · exact .inr rest

/-- Taking or giving back a block concerns no storage. -/
theorem setFreeList (covered : Covered storage pools big pending) {size : Nat}
    {pool : MallocPool} (known : pools size = some pool)
    (freeList : List Nat) :
    Covered storage
      (Function.update pools size (some { pool with freeList })) big
      pending := by
  have nodup : ({ pool with freeList } : MallocPool).allMemList.Nodup :=
    covered.pieces size pool known
  apply covered.setPool nodup
  intro other otherKnown piece isIn
  obtain rfl := Option.some.inj (known.symm.trans otherKnown)
  exact isIn

/-- A pool expands. -/
theorem expand (covered : Covered storage pools big pending) {size base : Nat}
    {pool : MallocPool} (known : pools size = some pool)
    (stored : ∀ piece ∈ pool.allMemList, piece ∈ storage.map Span.start)
    (nonempty : 0 < pool.size * pool.count)
    (fresh : ∀ span ∈ storage, span.Apart ⟨base, pool.size * pool.count⟩) :
    Covered (⟨base, pool.size * pool.count⟩ :: storage)
      (Function.update pools size (some (pool.expanded base))) big pending := by
  have new := covered.start_new fresh nonempty
  have changed : Covered storage
      (Function.update pools size (some (pool.expanded base))) big
        pending := by
    apply covered.setPool
    · rw [MallocPool.expanded]
      apply Ledger.nodup_append_one (covered.pieces size pool known)
      exact fun isIn => new (stored base isIn)
    · intro other otherKnown piece isIn
      obtain rfl := Option.some.inj (known.symm.trans otherKnown)
      exact List.mem_append_left _ isIn
  refine
    { changed with
      distinct := List.nodup_cons.mpr ⟨new, changed.distinct⟩
      nonempty := ?_
      owned := ?_ }
  · intro span isIn
    rcases List.mem_cons.mp isIn with rfl | before
    · exact nonempty
    · exact changed.nonempty span before
  · intro span isIn
    rcases List.mem_cons.mp isIn with rfl | before
    · exact .inl ⟨size, pool.expanded base, Function.update_self ..,
        List.mem_append_right _ List.mem_cons_self⟩
    · exact changed.owned span before

/-- A thread without a block gets storage for one. -/
theorem reserve (covered : Covered storage pools big pending) {thread : Nat}
    {block : MemoryBlock} (idle : pending thread = none)
    (nonempty : 0 < block.extent.size)
    (fresh : ∀ span ∈ storage, span.Apart block.extent) :
    Covered (block.extent :: storage) pools big
      (Function.update pending thread (some block)) where
  distinct := List.nodup_cons.mpr
    ⟨covered.start_new fresh nonempty, covered.distinct⟩
  nonempty := by
    intro span isIn
    rcases List.mem_cons.mp isIn with rfl | before
    · exact nonempty
    · exact covered.nonempty span before
  pieces := covered.pieces
  owned := by
    intro span isIn
    rcases List.mem_cons.mp isIn with rfl | before
    · exact .inr (.inr ⟨thread, block, Function.update_self .., rfl⟩)
    · rcases covered.owned span before with pool | listed |
        ⟨other, waiting, waits, extent⟩
      · exact .inl pool
      · exact .inr (.inl listed)
      · have different : other ≠ thread := by
          rintro rfl
          rw [idle] at waits
          cases waits
        refine .inr (.inr ⟨other, waiting, ?_, extent⟩)
        rw [Function.update_of_ne different]
        exact waits

/-- A thread enters its block in the list. -/
theorem enter (covered : Covered storage pools big pending) {thread : Nat}
    {block : MemoryBlock} (waits : pending thread = some block)
    (notBig : big block.start = none) :
    Covered storage pools
      (Function.update big block.start (some block.extent.size))
      (Function.update pending thread none) := by
  refine { covered with owned := ?_ }
  intro span stored
  rcases covered.owned span stored with pool | listed |
    ⟨other, waiting, otherWaits, rfl⟩
  · exact .inl pool
  · refine .inr (.inl ?_)
    have different : span.start ≠ block.start := by
      intro same
      rw [same, notBig] at listed
      cases listed
    rw [Function.update_of_ne different]
    exact listed
  · by_cases same : other = thread
    · subst same
      obtain rfl := Option.some.inj (waits.symm.trans otherWaits)
      exact .inr (.inl (Function.update_self ..))
    · refine .inr (.inr ⟨other, waiting, ?_, rfl⟩)
      rw [Function.update_of_ne same]
      exact otherWaits

/-- A big block is deleted. -/
theorem delete (covered : Covered storage pools big pending) (ptr : Nat) :
    Covered (storage.filter (·.start ≠ ptr)) pools
      (Function.update big ptr none) pending where
  distinct := covered.distinct.sublist (List.filter_sublist.map _)
  nonempty := fun span isIn =>
    covered.nonempty span (List.mem_filter.mp isIn).1
  pieces := covered.pieces
  owned := by
    intro span isIn
    obtain ⟨stored, different⟩ := List.mem_filter.mp isIn
    rcases covered.owned span stored with pool | listed | waits
    · exact .inl pool
    · refine .inr (.inl ?_)
      rw [Function.update_of_ne (of_decide_eq_true different)]
      exact listed
    · exact .inr (.inr waits)

end Covered

/-- A pool in the hands of `malloc`, with the heap. -/
structure Drawn (pools : Nat → Option MallocPool) (big : Nat → Option Nat)
    (pending : Nat → Option MemoryBlock) (size : Nat) (heap : Heap)
    (pool : MallocPool) : Prop where
  covered : Covered heap.storage
    (Function.update pools size (some pool)) big pending
  fits : Ledger.PoolOf size pool
  stored : ∀ piece ∈ pool.allMemList, piece ∈ heap.storage.map Span.start

namespace Drawn

variable {pools : Nat → Option MallocPool} {big : Nat → Option Nat}
variable {pending : Nat → Option MemoryBlock} {size : Nat} {heap : Heap}
variable {pool : MallocPool}

theorem doExpand (drawn : Drawn pools big pending size heap pool)
    (operatorNew : OperatorNew) :
    Drawn pools big pending size (pool.doExpand operatorNew heap).1
      (pool.doExpand operatorNew heap).2 := by
  obtain ⟨base, after, expanded, grown, -, fresh⟩ :=
    Allocator.doExpand_eq operatorNew heap pool
  have nonempty : 0 < pool.size * pool.count := by
    rw [drawn.fits.sized]
    exact Nat.mul_pos drawn.fits.positive drawn.fits.count_pos
  rw [expanded]
  refine ⟨?_, drawn.fits.of_same rfl rfl, ?_⟩
  · have covered := drawn.covered.expand (Function.update_self ..)
      drawn.stored nonempty fresh
    rw [Function.update_idem] at covered
    rw [grown]
    exact covered
  · intro piece isIn
    rw [grown, List.map_cons]
    rcases List.mem_append.mp isIn with before | new
    · exact List.mem_cons_of_mem _ (drawn.stored piece before)
    · rw [List.mem_singleton.mp new]
      exact List.mem_cons_self

theorem setFreeList (drawn : Drawn pools big pending size heap pool)
    (freeList : List Nat) :
    Drawn pools big pending size heap { pool with freeList } := by
  refine ⟨?_, drawn.fits.of_same rfl rfl, drawn.stored⟩
  have changed := drawn.covered.setFreeList (Function.update_self ..) freeList
  rw [Function.update_idem] at changed
  exact changed

theorem malloc (drawn : Drawn pools big pending size heap pool)
    (operatorNew : OperatorNew) :
    Drawn pools big pending size (pool.malloc operatorNew heap).2.1
      (pool.malloc operatorNew heap).2.2 := by
  have expanded := drawn.doExpand operatorNew
  unfold MallocPool.malloc
  by_cases empty : pool.freeList = []
  · simp only [empty, if_true]
    cases (pool.doExpand operatorNew heap).2.freeList with
    | nil => exact expanded
    | cons ptr freeList => exact expanded.setFreeList freeList
  · simp only [empty, if_false]
    cases pool.freeList with
    | nil => exact drawn
    | cons ptr freeList => exact drawn.setFreeList freeList

end Drawn

namespace Allocator

variable {state : Allocator}

/-- All storage of the manager has an owner. -/
def Covers (state : Allocator) : Prop :=
  Covered state.manager.heap.storage state.ledger.pools state.ledger.big
    state.pending

theorem initial_covers (memory : Nat → UInt8) : (initial memory).Covers where
  distinct := List.nodup_nil
  nonempty := nofun
  pieces := by simp [ledger, initial]
  owned := nofun

variable (sound : state.ledger.Sound) (covers : state.Covers)
include sound covers

/-- The pool of a size, found or created. -/
theorem poolOf_drawn {size : Nat} (positive : 0 < size)
    (small : size < memMaxSize) (operatorNew : OperatorNew) :
    Drawn state.ledger.pools state.ledger.big state.pending size
      (state.manager.poolOf operatorNew size).1
      (state.manager.poolOf operatorNew size).2 := by
  cases known : state.manager.smallList[size]? with
  | some pool =>
      have isKnown : state.ledger.pools size = some pool := known
      simp only [MallocManager.poolOf, known]
      refine ⟨?_, sound.pools size pool known, ?_⟩
      · rw [← isKnown, Function.update_eq_self]
        exact covers
      · intro piece isIn
        obtain ⟨stored, -⟩ := sound.owned (.pool size)
          ⟨piece, pool.size * pool.count⟩ ⟨pool, known, isIn, rfl⟩
        exact List.mem_map.mpr ⟨_, stored, rfl⟩
  | none =>
      have unknown : state.ledger.pools size = none := known
      simp only [MallocManager.poolOf, known]
      have unexpanded : Drawn state.ledger.pools state.ledger.big
          state.pending size state.manager.heap
          (.unexpanded size) := by
        refine ⟨?_, unexpanded_fits positive small, ?_⟩
        · apply Covered.setPool covers List.nodup_nil
          intro pool isKnown
          rw [unknown] at isKnown
          cases isKnown
        · intro piece isIn
          exact absurd isIn List.not_mem_nil
      exact unexpanded.doExpand operatorNew

theorem malloc_covers {thread : Nat} (idle : state.pending thread = none)
    (size : Nat) (operatorNew : OperatorNew) :
    (state.malloc thread size operatorNew).Covers := by
  unfold malloc
  by_cases small : fixSize size < memMaxSize
  · have drawn := (poolOf_drawn sound covers (fixSize_pos size) small
      operatorNew).malloc operatorNew
    simp only [small, if_true, MallocManager.mallocSmall]
    generalize (state.manager.poolOf operatorNew (fixSize size)).2.malloc
      operatorNew (state.manager.poolOf operatorNew (fixSize size)).1 =
        returned at drawn
    obtain ⟨retPtr, heap, pool⟩ := returned
    have covered := drawn.covered
    rw [ledger, ← lookup_insert] at covered
    cases retPtr with
    | none => exact covered
    | some ptr => exact covered
  · simp only [small, if_false]
    have large := Nat.not_lt.mp small
    exact Covered.reserve covers idle
      (show 0 < (MemoryBlock.mk _ size).extent.size from
        Nat.lt_of_lt_of_le (by decide) large)
      (operatorNew.fresh state.manager.heap.storage (fixSize size))

theorem free_covers (ptr : Nat) : (state.free ptr).Covers := by
  by_cases notNull : ptr = 0
  · simp only [free, MallocManager.free, notNull, if_true]
    exact covers
  cases listed : state.manager.smallPtrList[ptr]? with
  | some size =>
      obtain ⟨pool, known⟩ := sound.pooled ptr size listed
      have found : state.manager.smallList[size]? = some pool := known
      have changed := Covered.setFreeList covers known (pool.freeList ++ [ptr])
      rw [ledger, ← lookup_insert] at changed
      simp only [free, MallocManager.free, notNull, if_false, listed, found,
        MallocPool.free]
      exact changed
  | none =>
      cases bigListed : state.manager.bigPtrList[ptr]? with
      | some size =>
          have deleted := Covered.delete covers ptr
          rw [ledger, ← lookup_erase] at deleted
          simp only [free, MallocManager.free, notNull, if_false, listed,
            bigListed]
          exact deleted
      | none =>
          simp only [free, MallocManager.free, notNull, if_false, listed,
            bigListed]
          exact covers

theorem step_covers (action : AllocatorAction) :
    (state.step action).Covers := by
  cases action with
  | malloc thread size operatorNew =>
      simp only [step]
      split
      · exact covers
      · rename_i idle
        exact malloc_covers sound covers idle size operatorNew
  | insertBig thread =>
      simp only [step]
      split
      · rename_i block waits
        have notBig := (sound.pending_unlisted waits).2
        have entered := Covered.enter covers waits notBig
        rw [ledger, ← lookup_insertIfNew notBig] at entered
        exact entered
      · exact covers
  | free ptr => exact free_covers sound covers ptr
  | store address byte => exact covers

omit covers in
/-- A piece of storage that the destructor deletes has an owner. -/
theorem deletion_owned {ptr : Nat} (isIn : ptr ∈ state.manager.deletions) :
    ∃ owner span, state.ledger.Owns owner span ∧ span.start = ptr ∧
      span ∈ state.manager.heap.storage := by
  rcases List.mem_append.mp isIn with pooled | big
  · obtain ⟨⟨size, pool⟩, entry, piece⟩ := List.mem_flatMap.mp pooled
    have known := Std.TreeMap.mem_toList_iff_getElem?_eq_some.mp entry
    have owns : state.ledger.Owns (.pool size)
        ⟨ptr, pool.size * pool.count⟩ := ⟨pool, known, piece, rfl⟩
    exact ⟨_, _, owns, rfl, (sound.owned _ _ owns).1⟩
  · obtain ⟨⟨start, size⟩, entry, rfl⟩ :=
      List.mem_map.mp (List.mem_filter.mp big).1
    have listed := Std.TreeMap.mem_toList_iff_getElem?_eq_some.mp entry
    have owns : state.ledger.Owns .big ⟨start, size⟩ := listed
    exact ⟨_, _, owns, rfl, (sound.owned _ _ owns).1⟩

omit covers in
/-- Storage of different owners starts at different places. -/
theorem owners_disjoint {owner other : StorageOwner} {ptr size otherSize : Nat}
    (owns : state.ledger.Owns owner ⟨ptr, size⟩)
    (otherOwns : state.ledger.Owns other ⟨ptr, otherSize⟩) :
    owner = other := by
  rcases sound.apart owner _ other _ owns otherOwns with ⟨same, -⟩ | apart
  · exact same
  · exact absurd rfl (apart.start_ne (sound.owned _ _ owns).2.2
      (sound.owned _ _ otherOwns).2.2)

theorem deletions_nodup : state.manager.deletions.Nodup := by
  have pooled : ∀ {size : Nat} {pool : MallocPool} {ptr : Nat},
      (size, pool) ∈ state.manager.smallList.toList →
      ptr ∈ pool.allMemList →
        state.ledger.Owns (.pool size) ⟨ptr, pool.size * pool.count⟩ := by
    intro size pool ptr entry piece
    exact ⟨pool, Std.TreeMap.mem_toList_iff_getElem?_eq_some.mp entry, piece,
      rfl⟩
  rw [MallocManager.deletions, List.nodup_append]
  refine ⟨?_, ?_, ?_⟩
  · rw [List.nodup_flatMap]
    constructor
    · rintro ⟨size, pool⟩ entry
      exact covers.pieces size pool
        (Std.TreeMap.mem_toList_iff_getElem?_eq_some.mp entry)
    · have distinct := Std.TreeMap.distinct_keys_toList
        (t := state.manager.smallList)
      refine distinct.imp_of_mem ?_
      rintro ⟨size, pool⟩ ⟨other, otherPool⟩ entry otherEntry different ptr
        piece otherPiece
      have same := owners_disjoint sound (pooled entry piece)
        (pooled otherEntry otherPiece)
      apply different
      rw [StorageOwner.pool.inj same]
      exact Std.ReflCmp.compare_self
  · rw [Std.TreeMap.map_fst_toList_eq_keys]
    exact Std.TreeMap.nodup_keys.filter _
  · intro ptr inPools other inBig same
    subst same
    obtain ⟨⟨size, pool⟩, entry, piece⟩ := List.mem_flatMap.mp inPools
    obtain ⟨⟨start, bigSize⟩, bigEntry, rfl⟩ :=
      List.mem_map.mp (List.mem_filter.mp inBig).1
    have ownsBig : state.ledger.Owns .big ⟨start, bigSize⟩ :=
      Std.TreeMap.mem_toList_iff_getElem?_eq_some.mp bigEntry
    have same := owners_disjoint sound (pooled entry piece) ownsBig
    cases same

/-- Storage that the destructor does not delete belongs to a call that is
under way. -/
theorem deleted_or_pending {span : Span}
    (stored : span ∈ state.manager.heap.storage) :
    span.start ∈ state.manager.deletions ∨
      ∃ thread block, state.pending thread = some block ∧
        span = block.extent := by
  rcases covers.owned span stored with ⟨size, pool, known, piece⟩ | listed |
    waits
  · left
    apply List.mem_append_left
    exact List.mem_flatMap.mpr ⟨(size, pool),
      Std.TreeMap.mem_toList_iff_getElem?_eq_some.mpr known, piece⟩
  · left
    apply List.mem_append_right
    have owns : state.ledger.Owns .big span := listed
    have notNull : span.start ≠ 0 :=
      Nat.ne_of_gt (sound.owned _ _ owns).2.1
    refine List.mem_filter.mpr ⟨?_, decide_eq_true notNull⟩
    exact List.mem_map.mpr ⟨(span.start, span.size),
      Std.TreeMap.mem_toList_iff_getElem?_eq_some.mpr listed, rfl⟩
  · exact .inr waits

end Allocator

/-- However the sections of the threads' calls interleave, `~mallocManager`
deletes nothing twice and nothing but storage that is there; the storage
behind it is that of the calls under way, so that none is left if there are
none. -/
theorem mallocManager_destroy (memory : Nat → UInt8)
    (actions : List AllocatorAction) :
    let state := actions.foldl Allocator.step (Allocator.initial memory)
    state.manager.deletions.Nodup ∧
      (∀ ptr ∈ state.manager.deletions,
        ∃ span ∈ state.manager.heap.storage, span.start = ptr) ∧
      (∀ span ∈ state.manager.destroy.storage,
        ∃ thread block, state.pending thread = some block ∧
          span = block.extent) ∧
      ((∀ thread, state.pending thread = none) →
        state.manager.destroy.storage = []) := by
  intro state
  have kept : state.ledger.Sound ∧ state.Covers := by
    refine List.foldlRecOn
      (motive := fun reached => reached.ledger.Sound ∧ reached.Covers)
      actions Allocator.step
      ⟨Allocator.initial_sound memory, Allocator.initial_covers memory⟩ ?_
    rintro reached ⟨sound, covers⟩ action -
    exact ⟨sound.effects (Allocator.step_effects sound action),
      Allocator.step_covers sound covers action⟩
  obtain ⟨sound, covers⟩ := kept
  have left : ∀ span ∈ state.manager.destroy.storage,
      ∃ thread block, state.pending thread = some block ∧
        span = block.extent := by
    intro span isLeft
    rw [MallocManager.destroy, Heap.deleteArrays_storage] at isLeft
    obtain ⟨stored, kept⟩ := List.mem_filter.mp isLeft
    exact (Allocator.deleted_or_pending sound covers stored).resolve_left
      (of_decide_eq_true kept)
  refine ⟨Allocator.deletions_nodup sound covers, ?_, left, ?_⟩
  · intro ptr isIn
    obtain ⟨owner, span, -, start, stored⟩ :=
      Allocator.deletion_owned sound isIn
    exact ⟨span, stored, start⟩
  · intro idle
    apply List.eq_nil_iff_forall_not_mem.mpr
    intro span isLeft
    obtain ⟨thread, block, waits, -⟩ := left span isLeft
    rw [idle thread] at waits
    cases waits

end EchoServer
