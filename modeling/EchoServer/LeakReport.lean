import EchoServer.AllocatorReport

/-!
# The report names the blocks that were not given back

As long as callers give back only blocks that `malloc` has returned, there is
one record for each block that is held, with the place where this block was
asked for, in whatever order the sections of the threads come.  And the
counters of a pool differ by the number of its blocks that are held.
-/

namespace EchoServer

open MallocManager MapLookup

namespace PoolHistory

/-- The counters of a pool of which so many blocks are given out. -/
structure Tallies (blocks : Nat) (pool : MallocPool)
    (history : PoolHistory) : Prop where
  carved : history.historyCount =
    UInt64.ofNat (pool.freeList.length + blocks)
  given : history.historyGet =
    history.historyFree + UInt64.ofNat blocks

theorem zero_tallies (size : Nat) : zero.Tallies 0 (.unexpanded size) where
  carved := rfl
  given := rfl

theorem carve_length (size base count : Nat) :
    (Span.carve size base count).length = count := by
  induction count generalizing base with
  | zero => rfl
  | succ count ih => rw [Span.carve, List.length_cons, ih]

namespace Tallies

variable {blocks : Nat} {pool : MallocPool} {history : PoolHistory}

theorem doExpand (tallies : history.Tallies blocks pool)
    (operatorNew : OperatorNew) (heap : Heap) :
    (history.doExpand pool).Tallies blocks
      (pool.doExpand operatorNew heap).2 where
  carved := by
    simp only [PoolHistory.doExpand, MallocPool.doExpand, tallies.carved,
      List.length_append, carve_length, UInt64.ofNat_add]
    rw [UInt64.add_assoc, UInt64.add_comm (UInt64.ofNat blocks),
      UInt64.add_assoc]
  given := tallies.given

theorem take (tallies : history.Tallies blocks pool) {ptr : Nat}
    {freeList : List Nat} (head : pool.freeList = ptr :: freeList) :
    Tallies (blocks + 1) { pool with freeList }
      { history with historyGet := history.historyGet + 1 } where
  carved := by
    rw [tallies.carved, head, List.length_cons, Nat.add_assoc,
      Nat.add_comm 1 blocks]
  given := by
    simp only [tallies.given, UInt64.ofNat_add, UInt64.add_assoc]
    rfl

/-- One block more is given out. -/
theorem malloc {operatorNew : OperatorNew} {heap : Heap} {ptr : Nat}
    (tallies : history.Tallies blocks pool)
    (returned : (pool.malloc operatorNew heap).1 = some ptr) :
    (history.malloc operatorNew heap pool).Tallies (blocks + 1)
      (pool.malloc operatorNew heap).2.2 := by
  unfold PoolHistory.malloc
  rw [returned]
  by_cases empty : pool.freeList = []
  · have expanded := tallies.doExpand operatorNew heap
    simp only [MallocPool.malloc, empty, if_true] at returned ⊢
    cases head : (pool.doExpand operatorNew heap).2.freeList with
    | nil =>
        rw [head] at returned
        cases returned
    | cons first freeList => exact expanded.take head
  · simp only [MallocPool.malloc, empty, if_false] at returned ⊢
    cases head : pool.freeList with
    | nil => exact absurd head empty
    | cons first freeList => exact tallies.take head

/-- A block is given back. -/
theorem free (tallies : history.Tallies (blocks + 1) pool) (ptr : Nat) :
    history.free.Tallies blocks
      { pool with freeList := pool.freeList ++ [ptr] } where
  carved := by
    have carved := tallies.carved
    simp only [PoolHistory.free, List.length_append, List.length_singleton]
    rw [carved, Nat.add_assoc, Nat.add_comm blocks 1]
  given := by
    have given := tallies.given
    simp only [PoolHistory.free, UInt64.ofNat_add] at given ⊢
    rw [given, UInt64.add_comm (UInt64.ofNat blocks), UInt64.add_assoc]
    rfl

end Tallies

end PoolHistory

namespace Reporter

/-- The counters of the pools fit the blocks that are live. -/
def Counted (state : Reporter) : Prop :=
  ∀ (size : Nat) (pool : MallocPool),
    state.allocator.manager.smallList[size]? = some pool →
      (state.histories size).Tallies
        (state.allocator.poolBlocks size).length pool

/-- Each block that is held has its record, and the live blocks are those that
are held and those about to be recorded. -/
structure Recorded (state : Reporter) : Prop where
  pending : ∀ thread block, state.allocator.pending thread = some block →
    ∃ recode, state.calls thread = some { recode, block := none }
  records : ∀ ptr recode, state.ptrRecode[ptr]? = some recode ↔
    ∃ block, (block, recode) ∈ state.held ∧ block.start = ptr
  live : ∀ block, block ∈ state.allocator.live ↔
    (∃ recode, (block, recode) ∈ state.held) ∨
      ∃ thread recode,
        state.calls thread = some { recode, block := some block }
  notHeld : ∀ thread recode block,
    state.calls thread = some { recode, block := some block } →
      ∀ other, (block, other) ∉ state.held
  once : ∀ thread recode block other otherRecode,
    state.calls thread = some { recode, block := some block } →
      state.calls other = some { recode := otherRecode, block := some block } →
        other = thread
  distinct : (state.held.map (·.1.start)).Nodup

/-- A caller gives back no block of a call that has not returned. -/
def FreeReturned (state : Reporter) : ReporterAction → Prop
  | .free ptr => ∀ thread recode block,
      state.calls thread = some { recode, block := some block } →
        block.start ≠ ptr
  | _ => True

/-- Nor does any caller in a run. -/
def FreesReturned : Reporter → List ReporterAction → Prop
  | _, [] => True
  | state, action :: actions =>
      state.FreeReturned action ∧ FreesReturned (state.step action) actions

variable {state : Reporter}

/-- Two live blocks that start at one address are the same. -/
theorem live_unique (sound : state.allocator.ledger.Sound)
    {first second : MemoryBlock} (firstLive : first ∈ state.allocator.live)
    (secondLive : second ∈ state.allocator.live)
    (same : first.start = second.start) : first = second :=
  List.inj_on_of_nodup_map sound.distinct firstLive secondLive same

namespace Recorded

/-- A call that returns a block from `malloc(size)`. -/
theorem returned (recorded : state.Recorded) {allocator : Allocator}
    {histories : Nat → PoolHistory} {thread : Nat} {recode : Recode}
    {block : MemoryBlock}
    (live : allocator.live = state.allocator.live ++ [block])
    (new : block ∉ state.allocator.live)
    (pending : ∀ other waiting, allocator.pending other = some waiting →
      other ≠ thread ∧ state.allocator.pending other = some waiting)
    (waited : ∀ recode block,
      state.calls thread ≠ some { recode, block := some block }) :
    Recorded
      { state with
        allocator
        histories
        calls := Function.update state.calls thread
          (some { recode, block := some block }) } where
  pending := by
    intro other waiting waits
    obtain ⟨different, before⟩ := pending other waiting waits
    simp only [Function.update_of_ne different]
    exact recorded.pending other waiting before
  records := recorded.records
  live := by
    intro any
    rw [live, List.mem_append, List.mem_singleton, recorded.live]
    constructor
    · rintro ((held | ⟨other, otherRecode, called⟩) | rfl)
      · exact .inl held
      · have different : other ≠ thread := by
          rintro rfl
          exact waited otherRecode any called
        refine .inr ⟨other, otherRecode, ?_⟩
        simp only [Function.update_of_ne different]
        exact called
      · exact .inr ⟨thread, recode, Function.update_self ..⟩
    · rintro (held | ⟨other, otherRecode, called⟩)
      · exact .inl (.inl held)
      · simp only [Function.update_apply] at called
        split_ifs at called
        · cases called
          exact .inr rfl
        · exact .inl (.inr ⟨other, otherRecode, called⟩)
  notHeld := by
    intro other otherRecode any called third held
    simp only [Function.update_apply] at called
    split_ifs at called
    · cases called
      exact new ((recorded.live block).mpr (.inl ⟨third, held⟩))
    · exact recorded.notHeld other otherRecode any called third held
  once := by
    intro first firstRecode any second secondRecode called again
    have notYet : ∀ other otherRecode,
        state.calls other ≠
          some { recode := otherRecode, block := some block } := by
      intro other otherRecode otherCalled
      exact new ((recorded.live block).mpr
        (.inr ⟨other, otherRecode, otherCalled⟩))
    simp only [Function.update_apply] at called again
    split_ifs at called again with isFirst isSecond isSecond
    · rw [isFirst, isSecond]
    · cases called
      exact absurd again (notYet second secondRecode)
    · cases again
      exact absurd called (notYet first firstRecode)
    · exact recorded.once first firstRecode any second secondRecode called
        again
  distinct := recorded.distinct

/-- A call that has storage for a big block. -/
theorem reserve (recorded : state.Recorded) {thread : Nat}
    (idle : state.calls thread = none) {manager : MallocManager}
    {recode : Recode} {block : MemoryBlock} :
    Recorded
      { state with
        allocator :=
          { state.allocator with
            manager
            pending :=
              Function.update state.allocator.pending thread (some block) }
        calls := Function.update state.calls thread
          (some { recode, block := none }) } := by
  have others : ∀ other otherRecode any,
      Function.update state.calls thread (some { recode, block := none })
          other = some { recode := otherRecode, block := some any } ↔
        state.calls other =
          some { recode := otherRecode, block := some any } := by
    intro other otherRecode any
    rw [Function.update_apply]
    split_ifs with same
    · subst same
      simp [idle]
    · rfl
  refine
    { pending := ?_
      records := recorded.records
      live := ?_
      notHeld := ?_
      once := ?_
      distinct := recorded.distinct }
  · intro other waiting waits
    simp only [Function.update_apply] at waits ⊢
    split_ifs at waits ⊢
    · exact ⟨recode, rfl⟩
    · exact recorded.pending other waiting waits
  · intro any
    simp only [others]
    exact recorded.live any
  · intro other otherRecode any called
    exact recorded.notHeld other otherRecode any
      ((others other otherRecode any).mp called)
  · intro first firstRecode any second secondRecode called again
    exact recorded.once first firstRecode any second secondRecode
      ((others ..).mp called) ((others ..).mp again)

/-- No block that is held starts where the block of a call does. -/
theorem start_not_held (recorded : state.Recorded)
    (sound : state.allocator.ledger.Sound) {thread : Nat} {recode : Recode}
    {block : MemoryBlock}
    (called : state.calls thread = some { recode, block := some block }) :
    block.start ∉ state.held.map (·.1.start) := by
  intro isIn
  obtain ⟨⟨other, otherRecode⟩, held, same⟩ := List.mem_map.mp isIn
  have live := (recorded.live block).mpr (.inr ⟨thread, recode, called⟩)
  have otherLive := (recorded.live other).mpr (.inl ⟨otherRecode, held⟩)
  obtain rfl := live_unique sound otherLive live same
  exact recorded.notHeld thread recode other called otherRecode held

/-- So its record comes beside those that are there. -/
theorem records_insert (recorded : state.Recorded) {block : MemoryBlock}
    (new : block.start ∉ state.held.map (·.1.start)) (recode other : Recode)
    (ptr : Nat) :
    (state.ptrRecode.insertIfNew block.start recode)[ptr]? = some other ↔
      ∃ held, (held, other) ∈ state.held ++ [(block, recode)] ∧
        held.start = ptr := by
  have absent : state.ptrRecode[block.start]? = none := by
    rw [Option.eq_none_iff_forall_not_mem]
    intro found there
    obtain ⟨held, isHeld, same⟩ := (recorded.records _ _).mp there
    exact new (List.mem_map.mpr ⟨(held, found), isHeld, same⟩)
  have inserted := congrFun (lookup_insertIfNew absent recode) ptr
  simp only [List.mem_append, List.mem_singleton]
  rw [inserted, Function.update_apply]
  split_ifs with same
  · subst same
    constructor
    · rintro ⟨⟩
      exact ⟨block, .inr rfl, rfl⟩
    · rintro ⟨held, before | isNew, start⟩
      · exact absurd (List.mem_map.mpr ⟨(held, other), before, start⟩) new
      · cases isNew
        rfl
  · rw [recorded.records]
    constructor
    · rintro ⟨held, before, start⟩
      exact ⟨held, .inl before, start⟩
    · rintro ⟨held, before | isNew, start⟩
      · exact ⟨held, before, start⟩
      · cases isNew
        exact absurd start.symm same

/-- The section that records a block. -/
theorem record (recorded : state.Recorded)
    (sound : state.allocator.ledger.Sound) {thread : Nat} {recode : Recode}
    {block : MemoryBlock}
    (called : state.calls thread = some { recode, block := some block }) :
    (state.record thread recode block).Recorded where
  pending := by
    intro other waiting waits
    obtain ⟨otherRecode, otherCalled⟩ := recorded.pending other waiting waits
    have different : other ≠ thread := by
      rintro rfl
      rw [called] at otherCalled
      cases otherCalled
    refine ⟨otherRecode, ?_⟩
    simp only [Reporter.record, Function.update_of_ne different]
    exact otherCalled
  records := by
    intro ptr other
    exact recorded.records_insert (recorded.start_not_held sound called)
      recode other ptr
  live := by
    intro any
    change any ∈ state.allocator.live ↔ _
    rw [recorded.live]
    simp only [Reporter.record, List.mem_append, List.mem_singleton]
    constructor
    · rintro (⟨other, held⟩ | ⟨other, otherRecode, otherCalled⟩)
      · exact .inl ⟨other, .inl held⟩
      · by_cases same : other = thread
        · subst same
          rw [called] at otherCalled
          cases otherCalled
          exact .inl ⟨recode, .inr rfl⟩
        · refine .inr ⟨other, otherRecode, ?_⟩
          simp only [Function.update_of_ne same]
          exact otherCalled
    · rintro (⟨other, held | new⟩ | ⟨other, otherRecode, otherCalled⟩)
      · exact .inl ⟨other, held⟩
      · cases new
        exact .inr ⟨thread, recode, called⟩
      · simp only [Function.update_apply] at otherCalled
        split_ifs at otherCalled
        exact .inr ⟨other, otherRecode, otherCalled⟩
  notHeld := by
    intro other otherRecode any otherCalled third isHeld
    simp only [Reporter.record, Function.update_apply] at otherCalled
    split_ifs at otherCalled with same
    rcases List.mem_append.mp isHeld with held | new
    · exact recorded.notHeld other otherRecode any otherCalled third held
    · cases List.mem_singleton.mp new
      exact same
        (recorded.once thread recode block other otherRecode called
          otherCalled)
  once := by
    intro first firstRecode any second secondRecode firstCalled secondCalled
    simp only [Reporter.record, Function.update_apply]
      at firstCalled secondCalled
    split_ifs at firstCalled secondCalled
    exact recorded.once first firstRecode any second secondRecode firstCalled
      secondCalled
  distinct := by
    simp only [Reporter.record, List.map_append, List.map_singleton]
    exact Ledger.nodup_append_one recorded.distinct
      (recorded.start_not_held sound called)

theorem free (recorded : state.Recorded) {ptr : Nat}
    (returned : ∀ thread recode block,
      state.calls thread = some { recode, block := some block } →
        block.start ≠ ptr) :
    (state.free ptr).Recorded := by
  rw [Reporter.free]
  split_ifs
  · exact recorded
  refine
    { pending := recorded.pending
      records := ?_
      live := ?_
      notHeld := ?_
      once := recorded.once
      distinct := recorded.distinct.sublist (List.filter_sublist.map _) }
  · intro other recode
    simp only [erase_getElem?, List.mem_filter, decide_eq_true_eq]
    split_ifs with same
    · subst same
      constructor
      · rintro ⟨⟩
      · rintro ⟨block, ⟨-, different⟩, start⟩
        exact absurd start different
    · rw [recorded.records]
      constructor
      · rintro ⟨block, held, rfl⟩
        exact ⟨block, ⟨held, same⟩, rfl⟩
      · rintro ⟨block, ⟨held, -⟩, start⟩
        exact ⟨block, held, start⟩
  · intro block
    simp only [Allocator.free, List.mem_filter, decide_eq_true_eq]
    rw [recorded.live]
    constructor
    · rintro ⟨⟨recode, held⟩ | called, different⟩
      · exact .inl ⟨recode, held, different⟩
      · exact .inr called
    · rintro (⟨recode, held, different⟩ | ⟨thread, recode, called⟩)
      · exact ⟨.inl ⟨recode, held⟩, different⟩
      · exact ⟨.inr ⟨thread, recode, called⟩,
          returned thread recode block called⟩
  · intro thread recode block called other held
    exact recorded.notHeld thread recode block called other
      (List.mem_filter.mp held).1

end Recorded

section Counting

/-- The live blocks of a pool behind a block that is returned. -/
theorem poolBlocks_append (state : Allocator) {next : Allocator}
    {block : MemoryBlock}
    (live : next.live = state.live ++ [block]) (size : Nat) :
    next.poolBlocks size = state.poolBlocks size ++
      if block.extent.size = size then [block.start] else [] := by
  simp only [Allocator.poolBlocks, live, List.filter_append, List.map_append,
    List.filter_singleton]
  by_cases sized : block.extent.size = size <;> simp [sized]

theorem poolBlocks_free (state : Allocator) (ptr size : Nat) :
    (state.free ptr).poolBlocks size =
      (state.poolBlocks size).filter (· ≠ ptr) := by
  simp only [Allocator.poolBlocks, Allocator.free, List.filter_map,
    List.filter_filter, Function.comp_def, Bool.and_comm]

theorem poolBlocks_nodup {state : Allocator} (sound : state.ledger.Sound)
    (size : Nat) : (state.poolBlocks size).Nodup :=
  sound.distinct.sublist (List.filter_sublist.map _)

theorem filter_of_not_mem {blocks : List Nat} {ptr : Nat}
    (notIn : ptr ∉ blocks) : blocks.filter (· ≠ ptr) = blocks := by
  rw [List.filter_eq_self]
  intro block isIn
  apply decide_eq_true
  rintro rfl
  exact notIn isIn

theorem length_filter_of_mem {blocks : List Nat} {ptr : Nat}
    (distinct : blocks.Nodup) (isIn : ptr ∈ blocks) :
    (blocks.filter (· ≠ ptr)).length + 1 = blocks.length := by
  have erased : blocks.filter (· ≠ ptr) = blocks.erase ptr := by
    rw [distinct.erase_eq_filter]
    apply List.filter_congr
    intro block _
    exact decide_not.trans rfl
  rw [erased, List.length_erase_add_one isIn]

/-- The counters of the pool from which a block comes. -/
theorem countMalloc_tallies (counted : state.Counted)
    (sound : state.allocator.ledger.Sound) {size ptr : Nat}
    (small : size < memMaxSize) {operatorNew : OperatorNew}
    (returned :
      ((state.allocator.manager.poolOf operatorNew size).2.malloc operatorNew
        (state.allocator.manager.poolOf operatorNew size).1).1 = some ptr) :
    (state.countMalloc operatorNew size).Tallies
      ((state.allocator.poolBlocks size).length + 1)
      ((state.allocator.manager.poolOf operatorNew size).2.malloc operatorNew
        (state.allocator.manager.poolOf operatorNew size).1).2.2 := by
  cases known : state.allocator.manager.smallList[size]? with
  | some pool =>
      have found : state.allocator.manager.poolOf operatorNew size =
          (state.allocator.manager.heap, pool) := by
        simp only [MallocManager.poolOf, known]
      simp only [countMalloc, known, found] at returned ⊢
      exact (counted size pool known).malloc returned
  | none =>
      have empty : state.allocator.poolBlocks size = [] := by
        apply List.eq_nil_iff_forall_not_mem.mpr
        intro block isIn
        have listed := (Allocator.mem_poolBlocks sound small block).mp isIn
        obtain ⟨pool, isKnown⟩ := sound.pooled block size listed
        have unknown : state.allocator.ledger.pools size = none := known
        rw [unknown] at isKnown
        cases isKnown
      have created : state.allocator.manager.poolOf operatorNew size =
          (MallocPool.unexpanded size).doExpand operatorNew
            state.allocator.manager.heap := by
        simp only [MallocManager.poolOf, known]
        rfl
      simp only [countMalloc, known, created, empty, List.length_nil]
        at returned ⊢
      exact ((PoolHistory.zero_tallies size).doExpand operatorNew
        state.allocator.manager.heap).malloc returned

/-- The pool that `malloc` leaves in the list. -/
theorem mallocSmall_eq {manager next : MallocManager} {size start : Nat}
    {operatorNew : OperatorNew}
    (returned :
      manager.mallocSmall operatorNew size = (some start, next)) :
    ((manager.poolOf operatorNew size).2.malloc operatorNew
        (manager.poolOf operatorNew size).1).1 = some start ∧
      next.smallList = manager.smallList.insert size
        ((manager.poolOf operatorNew size).2.malloc operatorNew
          (manager.poolOf operatorNew size).1).2.2 := by
  unfold MallocManager.mallocSmall at returned
  dsimp only at returned
  split at returned
  · rename_i ptr took
    cases returned
    exact ⟨took, rfl⟩
  · cases returned

theorem malloc_counted (counted : state.Counted)
    (sound : state.allocator.ledger.Sound) (thread size : Nat)
    (recode : Recode) (operatorNew : OperatorNew) :
    (state.malloc thread size recode operatorNew).Counted := by
  by_cases small : fixSize size < memMaxSize
  · obtain ⟨start, manager, returned, -⟩ :=
      Allocator.mallocSmall_effects sound small operatorNew
    obtain ⟨took, smallList⟩ := mallocSmall_eq returned
    have tallies := countMalloc_tallies counted sound small took
    simp only [Reporter.malloc, Allocator.malloc, small, if_true, returned]
    intro other pool known
    rw [poolBlocks_append state.allocator rfl]
    simp only [smallList, insert_getElem?] at known
    by_cases same : other = fixSize size
    · subst same
      rw [if_pos rfl] at known
      obtain rfl := Option.some.inj known
      simp only [Function.update_self, if_pos, MemoryBlock.extent,
        List.length_append, List.length_singleton]
      exact tallies
    · rw [if_neg same] at known
      have different : (MemoryBlock.mk start size).extent.size ≠ other :=
        Ne.symm same
      simp only [Function.update_of_ne same]
      rw [if_neg different, List.append_nil]
      exact counted other pool known
  · simp only [Reporter.malloc, Allocator.malloc, small, if_false]
    exact counted

theorem insertBig_counted (counted : state.Counted)
    (sound : state.allocator.ledger.Sound) {thread : Nat}
    {block : MemoryBlock}
    (waits : state.allocator.pending thread = some block)
    (calls : Nat → Option RecodeCall) :
    Counted
      { state with
        allocator := state.allocator.insertBig thread block
        calls } := by
  intro size pool known
  have small := (sound.pools size pool known).small
  have large := sound.pendingBig thread block waits
  rw [poolBlocks_append state.allocator rfl,
    if_neg (Nat.ne_of_gt (Nat.lt_of_lt_of_le small large)), List.append_nil]
  exact counted size pool known

theorem free_counted (counted : state.Counted)
    (sound : state.allocator.ledger.Sound) (ptr : Nat) :
    (state.free ptr).Counted := by
  rw [Reporter.free]
  split_ifs with null
  · exact counted
  intro size pool known
  have stays : ptr ∉ state.allocator.poolBlocks size →
      (state.allocator.free ptr).poolBlocks size =
        state.allocator.poolBlocks size := by
    intro notIn
    rw [poolBlocks_free, filter_of_not_mem notIn]
  cases listed : state.allocator.manager.smallPtrList[ptr]? with
  | none =>
      have same : (state.allocator.manager.free ptr).2.smallList =
          state.allocator.manager.smallList := by
        simp only [MallocManager.free, null, if_false, listed]
        split <;> rfl
      have isKnown : state.allocator.manager.smallList[size]? = some pool :=
        same ▸ known
      dsimp only
      rw [stays]
      · exact counted size pool isKnown
      · intro isIn
        have small := (sound.pools size pool isKnown).small
        have found := (Allocator.mem_poolBlocks sound small ptr).mp isIn
        cases listed.symm.trans found
  | some own =>
      obtain ⟨ownPool, ownKnown⟩ := sound.pooled ptr own listed
      have there : state.allocator.manager.smallList[own]? = some ownPool :=
        ownKnown
      have small := (sound.pools own ownPool ownKnown).small
      have isIn := (Allocator.mem_poolBlocks sound small ptr).mpr listed
      simp only [Allocator.free, MallocManager.free, null, if_false, listed,
        there, MallocPool.free, insert_getElem?] at known
      dsimp only
      by_cases same : size = own
      · subst same
        rw [if_pos rfl] at known
        obtain rfl := Option.some.inj known
        have before := counted size ownPool there
        rw [← length_filter_of_mem (poolBlocks_nodup sound size) isIn]
          at before
        rw [Function.update_self, poolBlocks_free]
        exact before.free ptr
      · rw [if_neg same] at known
        rw [Function.update_of_ne same, stays]
        · exact counted size pool known
        · intro alsoIn
          have otherSmall := (sound.pools size pool known).small
          have found :=
            (Allocator.mem_poolBlocks sound otherSmall ptr).mp alsoIn
          exact same (Option.some.inj (found.symm.trans listed))

end Counting

/-- The run invariant. -/
structure Sound (state : Reporter) : Prop where
  ledger : state.allocator.ledger.Sound
  recorded : state.Recorded
  counted : state.Counted

theorem initial_sound (memory : Nat → UInt8) : (initial memory).Sound where
  ledger := Allocator.initial_sound memory
  recorded :=
    { pending := by simp [initial, Allocator.initial]
      records := by simp [initial]
      live := by simp [initial, Allocator.initial]
      notHeld := by simp [initial]
      once := by simp [initial]
      distinct := List.nodup_nil }
  counted := by
    intro size pool known
    simp [initial, Allocator.initial] at known

namespace Sound

theorem malloc (sound : state.Sound) {thread : Nat}
    (idle : state.calls thread = none) (size : Nat) (recode : Recode)
    (operatorNew : OperatorNew) :
    (state.malloc thread size recode operatorNew).Sound := by
  refine ⟨?_, ?_, malloc_counted sound.counted sound.ledger thread size recode
    operatorNew⟩
  · have kept := sound.ledger.effects
      (Allocator.malloc_effects sound.ledger thread size operatorNew)
    unfold Reporter.malloc
    dsimp only
    split_ifs
    · split <;> exact kept
    · exact kept
  · by_cases small : fixSize size < memMaxSize
    · obtain ⟨start, manager, returned, effects⟩ :=
        Allocator.mallocSmall_effects sound.ledger small operatorNew
      have distinct := (sound.ledger.effects effects).distinct
      simp only [Reporter.malloc, Allocator.malloc, small, if_true, returned]
      apply sound.recorded.returned rfl
      · intro before
        simp only [Allocator.ledger, List.map_append] at distinct
        exact List.disjoint_of_nodup_append distinct
          (List.mem_map_of_mem before) List.mem_cons_self
      · intro other waiting waits
        obtain ⟨otherRecode, called⟩ :=
          sound.recorded.pending other waiting waits
        refine ⟨?_, waits⟩
        rintro rfl
        rw [idle] at called
        cases called
      · simp [idle]
    · simp only [Reporter.malloc, Allocator.malloc, small, if_false]
      exact sound.recorded.reserve idle

/-- The second section of a call, under which its block goes into the list. -/
theorem insertBig (sound : state.Sound) {thread : Nat} {recode : Recode}
    {block : MemoryBlock}
    (called : state.calls thread = some { recode, block := none })
    (waits : state.allocator.pending thread = some block) :
    Sound
      { state with
        allocator := state.allocator.insertBig thread block
        calls := Function.update state.calls thread
          (some { recode, block := some block }) } := by
  have ledger := sound.ledger.effect
    (Allocator.insertBig_effect sound.ledger waits)
  refine ⟨ledger, ?_, insertBig_counted sound.counted sound.ledger waits _⟩
  apply sound.recorded.returned rfl
  · intro before
    have distinct := ledger.distinct
    simp only [Allocator.ledger, Allocator.insertBig, List.map_append]
      at distinct
    exact List.disjoint_of_nodup_append distinct
      (List.mem_map_of_mem before) List.mem_cons_self
  · intro other waiting otherWaits
    simp only [Allocator.insertBig, Function.update_apply] at otherWaits
    split_ifs at otherWaits with same
    exact ⟨same, otherWaits⟩
  · simp [called]

theorem step (sound : state.Sound) (action : ReporterAction)
    (returned : state.FreeReturned action) : (state.step action).Sound := by
  cases action with
  | malloc thread size filename line operatorNew =>
      simp only [Reporter.step]
      split
      · exact sound
      · rename_i idle
        exact sound.malloc idle size _ operatorNew
  | insertBig thread =>
      simp only [Reporter.step]
      split
      · rename_i called waits
        exact sound.insertBig called waits
      · exact sound
  | record thread =>
      simp only [Reporter.step]
      split
      · rename_i called
        exact ⟨sound.ledger, sound.recorded.record sound.ledger called,
          sound.counted⟩
      · exact sound
  | free ptr =>
      refine ⟨?_, sound.recorded.free returned,
        free_counted sound.counted sound.ledger ptr⟩
      have kept := sound.ledger.effects
        (Allocator.step_effects sound.ledger (.free ptr))
      simp only [Reporter.step, Reporter.free]
      split_ifs
      · exact sound.ledger
      · exact kept
  | store address byte =>
      exact ⟨sound.ledger, ⟨sound.recorded.pending, sound.recorded.records,
        sound.recorded.live, sound.recorded.notHeld, sound.recorded.once,
        sound.recorded.distinct⟩, sound.counted⟩

theorem foldl (actions : List ReporterAction) (sound : state.Sound)
    (returned : state.FreesReturned actions) :
    (actions.foldl Reporter.step state).Sound := by
  induction actions generalizing state with
  | nil => exact sound
  | cons action actions ih =>
      exact ih (sound.step action returned.1) returned.2

/-- What a caller holds, it may give back. -/
theorem free_held (sound : state.Sound) {block : MemoryBlock}
    {recode : Recode} (held : (block, recode) ∈ state.held) :
    state.FreeReturned (.free block.start) := by
  intro thread otherRecode other called same
  have live := (sound.recorded.live block).mpr (.inl ⟨recode, held⟩)
  have otherLive := (sound.recorded.live other).mpr
    (.inr ⟨thread, otherRecode, called⟩)
  obtain rfl := live_unique sound.ledger otherLive live same
  exact sound.recorded.notHeld thread otherRecode other called recode held

/-- The report has one line for each block that is held. -/
theorem printMemRecode_perm (sound : state.Sound) :
    state.printMemRecode.Perm (state.held.map Prod.snd) := by
  have entries : state.ptrRecode.toList.Perm
      (state.held.map fun held => (held.1.start, held.2)) := by
    refine (List.perm_ext_iff_of_nodup ?_ ?_).mpr ?_
    · have distinct := Std.TreeMap.nodup_keys (t := state.ptrRecode)
      rw [← Std.TreeMap.map_fst_toList_eq_keys] at distinct
      exact distinct.of_map Prod.fst
    · apply List.Nodup.of_map Prod.fst
      rw [List.map_map]
      exact sound.recorded.distinct
    · rintro ⟨ptr, recode⟩
      rw [Std.TreeMap.mem_toList_iff_getElem?_eq_some,
        sound.recorded.records, List.mem_map]
      constructor
      · rintro ⟨block, held, rfl⟩
        exact ⟨(block, recode), held, rfl⟩
      · rintro ⟨⟨block, other⟩, held, same⟩
        cases same
        exact ⟨block, held, rfl⟩
  have lines := entries.map Prod.snd
  rw [List.map_map] at lines
  exact lines

end Sound

end Reporter

/-- However the sections of the threads' calls interleave, as long as callers
give back no block before it is returned to them: `printMemRecode` has one
line for each block that was returned and not given back, with the place where
it was asked for, and these are the live blocks apart from those of calls under
way.  The counters of each pool fit its free list and its live blocks. -/
theorem leakReport (memory : Nat → UInt8) (actions : List ReporterAction)
    (returned : (Reporter.initial memory).FreesReturned actions) :
    let state := actions.foldl Reporter.step (Reporter.initial memory)
    state.printMemRecode.Perm (state.held.map Prod.snd) ∧
      (∀ ptr recode, state.ptrRecode[ptr]? = some recode ↔
        ∃ block, (block, recode) ∈ state.held ∧ block.start = ptr) ∧
      (∀ block, block ∈ state.allocator.live ↔
        (∃ recode, (block, recode) ∈ state.held) ∨
          ∃ thread recode,
            state.calls thread = some { recode, block := some block }) ∧
      ∀ (size : Nat) (pool : MallocPool),
        state.allocator.manager.smallList[size]? = some pool →
          (state.histories size).Tallies
            (state.allocator.poolBlocks size).length pool := by
  intro state
  have sound := (Reporter.initial_sound memory).foldl actions returned
  exact ⟨sound.printMemRecode_perm, sound.recorded.records,
    sound.recorded.live, sound.counted⟩

/-- Of a small block, one that is given back, and a big one whose call is not
finished, the report names the first. -/
theorem leakReport_oneLeft :
    let actions : List ReporterAction :=
      [.malloc 0 5 [97] 10 default, .malloc 1 8 [98] 20 default, .record 1,
        .record 0, .malloc 2 20000 [99] 30 default, .free 9, .insertBig 2]
    ((actions.foldl Reporter.step
      (Reporter.initial fun _ => 0)).printMemRecode).Perm
        [{ filename := [97], line := 10 }] := by
  intro actions
  have sound := (Reporter.initial_sound fun _ => 0).foldl
    (actions.take 5) ⟨trivial, trivial, trivial, trivial, trivial, trivial⟩
  have held : (MemoryBlock.mk 9 8, Recode.mk [98] 20) ∈
      ((actions.take 5).foldl Reporter.step
        (Reporter.initial fun _ => 0)).held := by
    decide +kernel
  have given := sound.free_held held
  have report := (leakReport (fun _ => 0) actions
    ⟨trivial, trivial, trivial, trivial, trivial, given, trivial, trivial⟩).1
  have left : (actions.foldl Reporter.step
      (Reporter.initial fun _ => 0)).held.map Prod.snd =
        [{ filename := [97], line := 10 }] := by
    decide +kernel
  rw [left] at report
  exact report

end EchoServer
