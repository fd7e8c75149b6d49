import EchoServer.MapLookup
import EchoServer.PoolLedger
import Mathlib.Logic.Relation

/-!
# Safety of the allocator

The sections of `malloc` and `free` have the effects of the ledger, so its
invariant holds in every state that the threads can reach.  It follows that
the blocks which callers hold are disjoint, that `avail` recognizes exactly
them, and that `free` refuses everything else.
-/

namespace EchoServer

open MallocManager MapLookup Relation

theorem fixSize_pos (size : Nat) : 0 < fixSize size := by
  rcases Nat.eq_zero_or_pos size with rfl | positive
  · decide
  · exact Nat.lt_of_lt_of_le positive (le_fixSize size)

theorem Ledger.Sound.effects {ledger next : Ledger}
    (sound : ledger.Sound) (effects : ReflTransGen Ledger.Effect ledger next) :
    next.Sound := by
  induction effects with
  | refl => exact sound
  | tail _ effect ih => exact ih.effect effect

namespace Allocator

/-- The lists of the manager as finite maps. -/
def ledger (state : Allocator) : Ledger where
  storage := state.manager.heap.storage
  pools size := state.manager.smallList[size]?
  small ptr := state.manager.smallPtrList[ptr]?
  big ptr := state.manager.bigPtrList[ptr]?
  pending := state.pending
  live := state.live

variable {state : Allocator}

/-- The storage that a pool gets when it expands, with the heap after. -/
theorem doExpand_eq (operatorNew : OperatorNew) (heap : Heap)
    (pool : MallocPool) :
    ∃ base after, pool.doExpand operatorNew heap = (after, pool.expanded base) ∧
      after.storage = ⟨base, pool.size * pool.count⟩ :: heap.storage ∧
        0 < base ∧
          ∀ span ∈ heap.storage, span.Apart ⟨base, pool.size * pool.count⟩ :=
  ⟨_, _, rfl, rfl, operatorNew.address_pos _ _, operatorNew.fresh _ _⟩

theorem carve_eq_cons (size base : Nat) {count : Nat}
    (positive : 0 < count) :
    ∃ rest, Span.carve size base count = base :: rest := by
  cases count with
  | zero => cases positive
  | succ count => exact ⟨_, rfl⟩

theorem unexpanded_fits {size : Nat} (positive : 0 < size)
    (small : size < memMaxSize) :
    Ledger.PoolOf size (.unexpanded size) :=
  ⟨rfl, positive, small, rfl⟩

/-- The pool from which `malloc` takes a block: the one of the size, expanded
if it is new or has no free block. -/
theorem malloc_pool (sound : state.ledger.Sound) {size : Nat}
    (positive : 0 < size) (small : size < memMaxSize)
    (operatorNew : OperatorNew) :
    ∃ pool heap ptr freeList,
      pool.freeList = ptr :: freeList ∧
        (state.manager.poolOf operatorNew size).2.malloc operatorNew
            (state.manager.poolOf operatorNew size).1 =
          (some ptr, heap, { pool with freeList }) ∧
        ReflTransGen Ledger.Effect state.ledger
          { state.ledger with
            storage := heap.storage
            pools := Function.update state.ledger.pools size (some pool) } := by
  have expansion : ∀ pool : MallocPool,
      (state.ledger.pools size = some pool ∨
        state.ledger.pools size = none ∧ pool = .unexpanded size) →
      Ledger.PoolOf size pool → pool.freeList = [] →
      ∃ base after rest,
        pool.doExpand operatorNew state.manager.heap =
            (after, pool.expanded base) ∧
          (pool.expanded base).freeList = base :: rest ∧
          ReflTransGen Ledger.Effect state.ledger
            { state.ledger with
              storage := after.storage
              pools := Function.update state.ledger.pools size
                (some (pool.expanded base)) } := by
    intro pool known fits empty
    obtain ⟨base, after, expanded, grown, basePositive, fresh⟩ :=
      doExpand_eq operatorNew state.manager.heap pool
    obtain ⟨rest, carved⟩ :=
      carve_eq_cons pool.size base fits.count_pos
    refine ⟨base, after, rest, expanded, ?_, ?_⟩
    · rw [MallocPool.expanded, empty]
      exact carved
    · rw [grown]
      exact .single (.expanded known fits empty basePositive fresh)
  cases known : state.manager.smallList[size]? with
  | none =>
      obtain ⟨base, after, rest, expanded, head, effects⟩ :=
        expansion (.unexpanded size) (.inr ⟨known, rfl⟩)
          (unexpanded_fits positive small) rfl
      have created : state.manager.poolOf operatorNew size =
          (after, (MallocPool.unexpanded size).expanded base) := by
        simp only [MallocManager.poolOf, known]
        exact expanded
      refine ⟨_, after, base, rest, head, ?_, effects⟩
      rw [created]
      simp only [MallocPool.malloc, head, reduceCtorEq, if_false]
  | some pool =>
      have found : state.manager.poolOf operatorNew size =
          (state.manager.heap, pool) := by
        simp only [MallocManager.poolOf, known]
      rw [found]
      by_cases empty : pool.freeList = []
      · obtain ⟨base, after, rest, expanded, head, effects⟩ :=
          expansion pool (.inl known) (sound.pools size pool known) empty
        refine ⟨_, after, base, rest, head, ?_, effects⟩
        simp only [MallocPool.malloc, empty, if_true, expanded, head]
      · obtain ⟨ptr, freeList, head⟩ := List.exists_cons_of_ne_nil empty
        refine ⟨pool, state.manager.heap, ptr, freeList, head, ?_, ?_⟩
        · simp only [MallocPool.malloc, head, reduceCtorEq, if_false]
        · have same : Function.update state.ledger.pools size (some pool) =
              state.ledger.pools := by
            rw [← show state.ledger.pools size = some pool from known,
              Function.update_eq_self]
          rw [same]
          exact .refl

theorem mallocSmall_effects (sound : state.ledger.Sound) {size : Nat}
    (small : fixSize size < memMaxSize) (operatorNew : OperatorNew) :
    ∃ start manager,
      state.manager.mallocSmall operatorNew (fixSize size) =
          (some start, manager) ∧
        ReflTransGen Ledger.Effect state.ledger
          (ledger
            { state with
              manager
              live := state.live ++ [{ start, requested := size }] }) := by
  obtain ⟨pool, heap, ptr, freeList, head, returned, effects⟩ :=
    malloc_pool sound (fixSize_pos size) small operatorNew
  have expanded := sound.effects effects
  have known : Function.update state.ledger.pools (fixSize size) (some pool)
      (fixSize size) = some pool := Function.update_self ..
  have unlisted : state.manager.smallPtrList[ptr]? = none :=
    expanded.free_unlisted known (head ▸ List.mem_cons_self)
  refine ⟨ptr, _, by simp only [MallocManager.mallocSmall, returned]; rfl, ?_⟩
  have taken := effects.tail (.taken known head rfl)
  rw [Function.update_idem] at taken
  have pools := lookup_insert state.manager.smallList (fixSize size)
    { pool with freeList }
  have listed := lookup_insertIfNew unlisted (fixSize size)
  simp only [ledger]
  rw [pools, listed]
  exact taken

theorem malloc_effects (sound : state.ledger.Sound) (thread size : Nat)
    (operatorNew : OperatorNew) :
    ReflTransGen Ledger.Effect state.ledger
      (state.malloc thread size operatorNew).ledger := by
  unfold malloc
  by_cases small : fixSize size < memMaxSize
  · obtain ⟨start, manager, returned, effects⟩ :=
      mallocSmall_effects sound small operatorNew
    simp only [small, if_true, returned]
    exact effects
  · simp only [small, if_false]
    let start :=
      operatorNew.address state.manager.heap.storage (fixSize size)
    have large : memMaxSize ≤ (MemoryBlock.mk start size).extent.size :=
      Nat.not_lt.mp small
    exact .single (.reserved large (operatorNew.address_pos _ _)
      (operatorNew.fresh _ _))

theorem insertBig_effect (sound : state.ledger.Sound) {thread : Nat}
    {block : MemoryBlock} (waits : state.pending thread = some block) :
    Ledger.Effect state.ledger (state.insertBig thread block).ledger := by
  have notBig : state.manager.bigPtrList[block.start]? = none :=
    (sound.pending_unlisted waits).2
  have effect : Ledger.Effect state.ledger _ := .entered waits
  have listed := lookup_insertIfNew notBig block.extent.size
  simp only [ledger, insertBig, MallocManager.insertBig]
  rw [listed]
  exact effect

theorem lookups_of_not_live (sound : state.ledger.Sound) {ptr : Nat}
    (notLive : ptr ∉ state.live.map MemoryBlock.start) :
    state.manager.smallPtrList[ptr]? = none ∧
      state.manager.bigPtrList[ptr]? = none := by
  have notAt : ∀ size, ¬ Ledger.LiveAt state.live size ptr := by
    rintro size ⟨block, member, rfl, -⟩
    exact notLive (List.mem_map_of_mem member)
  constructor
  · rw [Option.eq_none_iff_forall_not_mem]
    intro size listed
    exact notAt size ((sound.small ptr size).mp listed).2
  · rw [Option.eq_none_iff_forall_not_mem]
    intro size listed
    exact notAt size ((sound.big ptr size).mp listed).2

/-- `free` refuses an address at which no block starts. -/
theorem free_not_live (sound : state.ledger.Sound) {ptr : Nat}
    (notLive : ptr ∉ state.live.map MemoryBlock.start) :
    state.manager.free ptr = (false, state.manager) := by
  obtain ⟨notSmall, notBig⟩ := lookups_of_not_live sound notLive
  simp only [MallocManager.free, notSmall, notBig, ite_self]

/-- Any other address it accepts. -/
theorem free_live (sound : state.ledger.Sound) {ptr : Nat}
    (live : ptr ∈ state.live.map MemoryBlock.start) :
    (state.manager.free ptr).1 = true ∧
      Ledger.Effect state.ledger (state.free ptr).ledger := by
  have notNull : ptr ≠ 0 := by
    rintro rfl
    obtain ⟨notSmall, notBig⟩ := sound.null_unlisted
    exact sound.not_live notSmall notBig live
  cases listed : state.manager.smallPtrList[ptr]? with
  | some size =>
      obtain ⟨pool, known⟩ := sound.pooled ptr size listed
      have found : state.manager.smallList[size]? = some pool := known
      have pools := lookup_insert state.manager.smallList size
        { pool with freeList := pool.freeList ++ [ptr] }
      have erased := lookup_erase state.manager.smallPtrList ptr
      simp only [ledger, free, MallocManager.free, notNull, if_false, listed,
        found, MallocPool.free, true_and]
      rw [pools, erased]
      exact .freedSmall listed known
  | none =>
      cases bigListed : state.manager.bigPtrList[ptr]? with
      | some size =>
          have erased := lookup_erase state.manager.bigPtrList ptr
          simp only [ledger, free, MallocManager.free, notNull, if_false,
            listed, bigListed, Heap.deleteArray, true_and]
          rw [erased]
          exact .freedBig bigListed
      | none => exact absurd live (sound.not_live listed bigListed)

theorem step_effects (sound : state.ledger.Sound)
    (action : AllocatorAction) :
    ReflTransGen Ledger.Effect state.ledger (state.step action).ledger := by
  cases action with
  | malloc thread size operatorNew =>
      simp only [step]
      split
      · exact .refl
      · exact malloc_effects sound thread size operatorNew
  | insertBig thread =>
      simp only [step]
      split
      · rename_i block waits
        exact .single (insertBig_effect sound waits)
      · exact .refl
  | free ptr =>
      by_cases live : ptr ∈ state.live.map MemoryBlock.start
      · exact .single (free_live sound live).2
      · have refused := free_not_live sound live
        have stays : state.live.filter (·.start ≠ ptr) = state.live := by
          rw [List.filter_eq_self]
          intro block member
          apply decide_eq_true
          rintro rfl
          exact live (List.mem_map_of_mem member)
        simp only [step, free, refused, stays]
        exact .refl
  | store address byte => exact .refl

theorem initial_sound (memory : Nat → UInt8) :
    (initial memory).ledger.Sound where
  owned := by
    rintro (size | _ | thread) span owns
    · obtain ⟨pool, known, -⟩ := owns
      simp [ledger, initial] at known
    · simp [Ledger.Owns, ledger, initial] at owns
    · obtain ⟨block, waits, -⟩ := owns
      cases waits
  apart := by
    rintro (size | _ | thread) span other otherSpan owns otherOwns
    · obtain ⟨pool, known, -⟩ := owns
      simp [ledger, initial] at known
    · simp [Ledger.Owns, ledger, initial] at owns
    · obtain ⟨block, waits, -⟩ := owns
      cases waits
  pools := by simp [ledger, initial]
  partition := by simp [ledger, initial]
  pooled := by simp [ledger, initial]
  small := by simp [ledger, initial, Ledger.LiveAt]
  big := by simp [ledger, initial, Ledger.LiveAt]
  distinct := List.nodup_nil
  pendingBig := by simp [ledger, initial]

theorem sound_foldl (actions : List AllocatorAction) {state : Allocator}
    (sound : state.ledger.Sound) : (actions.foldl step state).ledger.Sound := by
  refine List.foldlRecOn (motive := fun reached => reached.ledger.Sound)
    actions step sound ?_
  intro reached soundReached action _
  exact soundReached.effects (step_effects soundReached action)

/-- The piece of storage that a live block lies in: a pool's, or its own. -/
theorem live_home (sound : state.ledger.Sound) {block : MemoryBlock}
    (live : block ∈ state.live) :
    ∃ owner span, state.ledger.Owns owner span ∧ block.extent.Inside span ∧
      (state.ledger.small block.start = some block.extent.size ∧
          owner = .pool block.extent.size ∨
        owner = .big ∧ span = block.extent) := by
  rcases sound.live_listed live with small | big
  · obtain ⟨pool, known⟩ := sound.pooled _ _ small
    obtain ⟨span, owns, -, inside⟩ :=
      sound.carved_owned known (sound.listed_carved known small)
    exact ⟨_, span, owns, inside, .inl ⟨small, rfl⟩⟩
  · exact ⟨_, _, (sound.big_owned big).1, .refl _, .inr ⟨rfl, rfl⟩⟩

/-- Blocks of one pool that start at different addresses are apart. -/
theorem carved_apart (sound : state.ledger.Sound) {first second size : Nat}
    {pool : MallocPool} (known : state.ledger.pools size = some pool)
    (firstCarved : first ∈ pool.carved) (secondCarved : second ∈ pool.carved)
    (different : first ≠ second) :
    (Span.mk first size).Apart ⟨second, size⟩ := by
  obtain ⟨span, owns, piece, inside⟩ := sound.carved_owned known firstCarved
  obtain ⟨otherSpan, otherOwns, otherPiece, otherInside⟩ :=
    sound.carved_owned known secondCarved
  rcases sound.apart _ _ _ _ owns otherOwns with ⟨-, rfl⟩ | apart
  · exact Span.carve_apart piece otherPiece different
  · exact apart.of_inside inside otherInside

theorem pool_apart (sound : state.ledger.Sound) {first second size : Nat}
    (firstListed : state.ledger.small first = some size)
    (secondListed : state.ledger.small second = some size)
    (different : first ≠ second) :
    (Span.mk first size).Apart ⟨second, size⟩ := by
  obtain ⟨pool, known⟩ := sound.pooled _ _ firstListed
  exact carved_apart sound known (sound.listed_carved known firstListed)
    (sound.listed_carved known secondListed) different

theorem live_apart (sound : state.ledger.Sound) {first second : MemoryBlock}
    (firstLive : first ∈ state.live) (secondLive : second ∈ state.live)
    (different : first.start ≠ second.start) :
    first.extent.Apart second.extent := by
  obtain ⟨owner, span, owns, inside, home⟩ := live_home sound firstLive
  obtain ⟨other, otherSpan, otherOwns, otherInside, otherHome⟩ :=
    live_home sound secondLive
  rcases sound.apart _ _ _ _ owns otherOwns with ⟨rfl, rfl⟩ | apart
  · rcases home with ⟨listed, rfl⟩ | ⟨rfl, own⟩
    · rcases otherHome with ⟨otherListed, same⟩ | ⟨pool, -⟩
      · have sized : second.extent.size = first.extent.size :=
          (StorageOwner.pool.inj same).symm
        rw [sized] at otherListed
        have apart := pool_apart sound listed otherListed different
        rw [show second.extent = ⟨second.start, first.extent.size⟩ from
          Span.ext rfl sized]
        exact apart
      · cases pool
    · rcases otherHome with ⟨-, pool⟩ | ⟨-, otherOwn⟩
      · cases pool
      · exact absurd (congrArg Span.start (own.symm.trans otherOwn)) different
  · exact apart.of_inside inside otherInside

theorem avail_iff (sound : state.ledger.Sound) (ptr : Nat) :
    state.manager.avail ptr = true ↔
      ptr ∈ state.live.map MemoryBlock.start := by
  constructor
  · intro available
    by_contra notLive
    obtain ⟨notSmall, notBig⟩ := lookups_of_not_live sound notLive
    simp only [MallocManager.avail, Std.TreeMap.contains_eq_isSome_getElem?,
      notSmall, notBig, Option.isSome_none, Bool.or_self, Bool.and_false,
      Bool.false_eq_true] at available
  · intro live
    have notNull : ptr ≠ 0 := by
      rintro rfl
      obtain ⟨notSmall, notBig⟩ := sound.null_unlisted
      exact sound.not_live notSmall notBig live
    obtain ⟨block, member, rfl⟩ := List.mem_map.mp live
    simp only [MallocManager.avail, Std.TreeMap.contains_eq_isSome_getElem?,
      Bool.and_eq_true, Bool.or_eq_true, ne_eq, notNull,
      not_false_eq_true, decide_true, true_and]
    rcases sound.live_listed member with small | big
    · exact .inl (Option.isSome_of_mem small)
    · exact .inr (Option.isSome_of_mem big)

end Allocator

/-- The live blocks of the pool of a size. -/
def Allocator.poolBlocks (state : Allocator) (size : Nat) : List Nat :=
  (state.live.filter (·.extent.size = size)).map MemoryBlock.start

/-- What the callers of the allocator rely on. -/
structure Allocator.Safe (state : Allocator) : Prop where
  returned : ∀ size operatorNew, fixSize size < memMaxSize →
    ∃ ptr manager, state.manager.mallocSmall operatorNew (fixSize size) =
      (some ptr, manager)
  room : ∀ block ∈ state.live, block.requested ≤ block.extent.size ∧
    ∃ span ∈ state.manager.heap.storage, block.extent.Inside span
  apart : state.live.Pairwise (·.extent.Apart ·.extent)
  avail : ∀ ptr, state.manager.avail ptr = true ↔
    ∃ block ∈ state.live, block.start = ptr
  refused : ∀ ptr, (∀ block ∈ state.live, block.start ≠ ptr) →
    state.manager.free ptr = (false, state.manager)
  accepted : ∀ block ∈ state.live, (state.manager.free block.start).1 = true
  freeNodup : ∀ (size : Nat) (pool : MallocPool),
    state.manager.smallList[size]? = some pool →
    pool.freeList.Nodup
  carved : ∀ (size : Nat) (pool : MallocPool),
    state.manager.smallList[size]? = some pool →
    ∀ ptr, ptr ∈ pool.carved ↔
      ptr ∈ pool.freeList ∨ ptr ∈ state.poolBlocks size
  freeNotLive : ∀ (size : Nat) (pool : MallocPool),
    state.manager.smallList[size]? = some pool →
    pool.freeList.Disjoint (state.poolBlocks size)

namespace Allocator

variable {state : Allocator}

theorem mem_poolBlocks (sound : state.ledger.Sound) {size : Nat}
    (isSmall : size < memMaxSize) (ptr : Nat) :
    ptr ∈ state.poolBlocks size ↔ state.ledger.small ptr = some size := by
  rw [sound.small, poolBlocks, List.mem_map]
  constructor
  · rintro ⟨block, member, rfl⟩
    obtain ⟨live, sized⟩ := List.mem_filter.mp member
    exact ⟨isSmall, block, live, rfl, of_decide_eq_true sized⟩
  · rintro ⟨-, block, live, rfl, sized⟩
    exact ⟨block, List.mem_filter.mpr ⟨live, decide_eq_true sized⟩, rfl⟩

theorem safe_of_sound (sound : state.ledger.Sound) : state.Safe where
  returned := by
    intro size operatorNew isSmall
    obtain ⟨ptr, manager, returned, -⟩ :=
      mallocSmall_effects sound isSmall operatorNew
    exact ⟨ptr, manager, returned⟩
  room := by
    intro block live
    obtain ⟨owner, span, owns, inside, -⟩ := live_home sound live
    exact ⟨le_fixSize block.requested, span, (sound.owned _ _ owns).1, inside⟩
  apart := by
    have distinct : state.live.Pairwise (·.start ≠ ·.start) :=
      List.pairwise_map.mp sound.distinct
    exact distinct.imp_of_mem fun first second different =>
      live_apart sound first second different
  avail := by
    intro ptr
    rw [avail_iff sound, List.mem_map]
  refused := by
    intro ptr notLive
    apply free_not_live sound
    intro live
    obtain ⟨block, member, start⟩ := List.mem_map.mp live
    exact notLive block member start
  accepted := by
    intro block live
    exact (free_live sound (List.mem_map_of_mem live)).1
  freeNodup := by
    intro size pool known
    exact (sound.partition size pool known).nodup
  carved := by
    intro size pool known ptr
    rw [mem_poolBlocks sound (sound.pools size pool known).small]
    exact (sound.partition size pool known).carved ptr
  freeNotLive := by
    intro size pool known ptr free given
    rw [mem_poolBlocks sound (sound.pools size pool known).small] at given
    exact (sound.partition size pool known).notGiven ptr free given

end Allocator

/-- However the sections of the threads' calls interleave, what the callers
rely on holds in every state. -/
theorem allocatorSafety (memory : Nat → UInt8)
    (actions : List AllocatorAction) :
    (actions.foldl Allocator.step (Allocator.initial memory)).Safe :=
  Allocator.safe_of_sound
    (Allocator.sound_foldl actions (Allocator.initial_sound memory))

-- The first two blocks of a pool, a big block, and a double free.
example :
    (([.malloc 0 5 default, .malloc 1 8 default, .malloc 0 20000 default,
        .insertBig 0, .free 1, .free 1] : List AllocatorAction).foldl
      Allocator.step (Allocator.initial fun _ => 0)).live =
    [⟨9, 8⟩, ⟨10241, 20000⟩] := by
  decide +kernel

end EchoServer
