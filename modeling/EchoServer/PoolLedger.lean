import EchoServer.MemoryPool

/-!
# Who owns which memory

The lists of the memory manager as finite maps, with the effects that a
section of `malloc` or `free` can have on them.  Every piece of storage has
one owner: a pool, the list of big blocks, or a thread that is about to enter
its block there.  Pieces of different owners are apart, and each pool's blocks
are free or live, never both.
-/

namespace EchoServer

open MallocManager

/-- The lists of `mallocManager`, with the storage, the big blocks that are
not entered yet, and the blocks that callers hold. -/
structure Ledger where
  storage : List Span
  pools : Nat → Option MallocPool
  small : Nat → Option Nat
  big : Nat → Option Nat
  pending : Nat → Option MemoryBlock
  live : List MemoryBlock

inductive StorageOwner
  | pool (size : Nat)
  | big
  | pending (thread : Nat)
  deriving DecidableEq

namespace MallocPool

/-- A pool before its first expansion. -/
def unexpanded (size : Nat) : MallocPool where
  size := size
  count := getCount size
  allMemList := []
  freeList := []

/-- A pool with one more carved piece of storage. -/
def expanded (base : Nat) (pool : MallocPool) : MallocPool :=
  { pool with
    allMemList := pool.allMemList ++ [base]
    freeList := pool.freeList ++ Span.carve pool.size base pool.count }

theorem mem_carved {pool : MallocPool} {ptr : Nat} :
    ptr ∈ pool.carved ↔
      ∃ base ∈ pool.allMemList, ptr ∈ Span.carve pool.size base pool.count := by
  simp [carved]

theorem mem_carved_expanded {pool : MallocPool} {base ptr : Nat} :
    ptr ∈ (pool.expanded base).carved ↔
      ptr ∈ pool.carved ∨ ptr ∈ Span.carve pool.size base pool.count := by
  simp [carved, expanded]

end MallocPool

namespace Ledger

/-- A piece of storage belongs to an owner. -/
def Owns (ledger : Ledger) (owner : StorageOwner) (span : Span) : Prop :=
  match owner with
  | .pool size => ∃ pool, ledger.pools size = some pool ∧
      span.start ∈ pool.allMemList ∧ span.size = pool.size * pool.count
  | .big => ledger.big span.start = some span.size
  | .pending thread => ∃ block, ledger.pending thread = some block ∧
      span = block.extent

/-- A block of a rounded size starts at the address. -/
def LiveAt (live : List MemoryBlock) (size ptr : Nat) : Prop :=
  ∃ block ∈ live, block.start = ptr ∧ block.extent.size = size

/-- A pool is kept under its size. -/
structure PoolOf (size : Nat) (pool : MallocPool) : Prop where
  sized : pool.size = size
  positive : 0 < size
  small : size < memMaxSize
  counted : pool.count = getCount size

/-- The blocks of a pool are those in its free list and those given out. -/
structure Partitioned (small : Nat → Option Nat) (size : Nat)
    (pool : MallocPool) : Prop where
  nodup : pool.freeList.Nodup
  carved : ∀ ptr, ptr ∈ pool.carved ↔
    ptr ∈ pool.freeList ∨ small ptr = some size
  notGiven : ∀ ptr ∈ pool.freeList, small ptr ≠ some size

/-- Different pieces of storage, or different owners, are apart. -/
structure Apportioned (ledger : Ledger) : Prop where
  owned : ∀ owner span, ledger.Owns owner span →
    span ∈ ledger.storage ∧ 0 < span.start ∧ 0 < span.size
  apart : ∀ owner span other otherSpan, ledger.Owns owner span →
    ledger.Owns other otherSpan →
      (owner = other ∧ span = otherSpan) ∨ span.Apart otherSpan

/-- The invariant of the allocator. -/
structure Sound (ledger : Ledger) : Prop extends Apportioned ledger where
  pools : ∀ size pool, ledger.pools size = some pool → PoolOf size pool
  partition : ∀ size pool, ledger.pools size = some pool →
    Partitioned ledger.small size pool
  pooled : ∀ ptr size, ledger.small ptr = some size →
    ∃ pool, ledger.pools size = some pool
  small : ∀ ptr size, ledger.small ptr = some size ↔
    size < memMaxSize ∧ LiveAt ledger.live size ptr
  big : ∀ ptr size, ledger.big ptr = some size ↔
    memMaxSize ≤ size ∧ LiveAt ledger.live size ptr
  distinct : (ledger.live.map MemoryBlock.start).Nodup
  pendingBig : ∀ thread block, ledger.pending thread = some block →
    memMaxSize ≤ block.extent.size

/-- What one section of a call can do. -/
inductive Effect : Ledger → Ledger → Prop
  | expanded {ledger : Ledger} {size base : Nat} {pool : MallocPool}
      (known : ledger.pools size = some pool ∨
        ledger.pools size = none ∧ pool = .unexpanded size)
      (fits : PoolOf size pool)
      (empty : pool.freeList = [])
      (positive : 0 < base)
      (fresh : ∀ span ∈ ledger.storage,
        span.Apart ⟨base, pool.size * pool.count⟩) :
      Effect ledger
        { ledger with
          storage := ⟨base, pool.size * pool.count⟩ :: ledger.storage
          pools := Function.update ledger.pools size
            (some (pool.expanded base)) }
  | taken {ledger : Ledger} {size ptr requested : Nat} {pool : MallocPool}
      {freeList : List Nat}
      (known : ledger.pools size = some pool)
      (head : pool.freeList = ptr :: freeList)
      (rounded : fixSize requested = size) :
      Effect ledger
        { ledger with
          pools := Function.update ledger.pools size
            (some { pool with freeList })
          small := Function.update ledger.small ptr (some size)
          live := ledger.live ++ [{ start := ptr, requested }] }
  | reserved {ledger : Ledger} {thread : Nat} {block : MemoryBlock}
      (large : memMaxSize ≤ block.extent.size)
      (positive : 0 < block.start)
      (fresh : ∀ span ∈ ledger.storage, span.Apart block.extent) :
      Effect ledger
        { ledger with
          storage := block.extent :: ledger.storage
          pending := Function.update ledger.pending thread (some block) }
  | entered {ledger : Ledger} {thread : Nat} {block : MemoryBlock}
      (waits : ledger.pending thread = some block) :
      Effect ledger
        { ledger with
          big := Function.update ledger.big block.start
            (some block.extent.size)
          pending := Function.update ledger.pending thread none
          live := ledger.live ++ [block] }
  | freedSmall {ledger : Ledger} {size ptr : Nat} {pool : MallocPool}
      (listed : ledger.small ptr = some size)
      (known : ledger.pools size = some pool) :
      Effect ledger
        { ledger with
          pools := Function.update ledger.pools size
            (some { pool with freeList := pool.freeList ++ [ptr] })
          small := Function.update ledger.small ptr none
          live := ledger.live.filter (·.start ≠ ptr) }
  | freedBig {ledger : Ledger} {size ptr : Nat}
      (listed : ledger.big ptr = some size) :
      Effect ledger
        { ledger with
          storage := ledger.storage.filter (·.start ≠ ptr)
          big := Function.update ledger.big ptr none
          live := ledger.live.filter (·.start ≠ ptr) }

variable {ledger next : Ledger}

theorem liveAt_append {live : List MemoryBlock} {block : MemoryBlock}
    {size ptr : Nat} :
    LiveAt (live ++ [block]) size ptr ↔
      LiveAt live size ptr ∨ block.start = ptr ∧ block.extent.size = size := by
  simp [LiveAt, or_and_right, exists_or]

theorem liveAt_filter {live : List MemoryBlock} {freed size ptr : Nat} :
    LiveAt (live.filter (·.start ≠ freed)) size ptr ↔
      ptr ≠ freed ∧ LiveAt live size ptr := by
  constructor
  · rintro ⟨block, member, rfl, sized⟩
    obtain ⟨there, different⟩ := List.mem_filter.mp member
    exact ⟨of_decide_eq_true different, block, there, rfl, sized⟩
  · rintro ⟨different, block, there, rfl, sized⟩
    exact ⟨block, List.mem_filter.mpr ⟨there, decide_eq_true different⟩, rfl,
      sized⟩

section Listing

variable {listing : Nat → Option Nat} {side : Nat → Prop}
variable {live : List MemoryBlock} {block : MemoryBlock}

/-- A new block comes into the list of its side. -/
theorem listing_enter
    (lists : ∀ ptr size, listing ptr = some size ↔
      side size ∧ LiveAt live size ptr)
    (unlisted : listing block.start = none) (onSide : side block.extent.size)
    (ptr size : Nat) :
    Function.update listing block.start (some block.extent.size) ptr =
        some size ↔
      side size ∧ LiveAt (live ++ [block]) size ptr := by
  rw [liveAt_append, Function.update_apply]
  split_ifs with same
  · subst same
    constructor
    · rintro ⟨⟩
      exact ⟨onSide, .inr ⟨rfl, rfl⟩⟩
    · rintro ⟨isOnSide, before | ⟨-, sized⟩⟩
      · have listed := (lists _ _).mpr ⟨isOnSide, before⟩
        rw [unlisted] at listed
        cases listed
      · exact congrArg some sized
  · rw [lists]
    simp [Ne.symm same]

/-- The list of the other side stays as it is. -/
theorem listing_pass
    (lists : ∀ ptr size, listing ptr = some size ↔
      side size ∧ LiveAt live size ptr)
    (offSide : ¬ side block.extent.size) (ptr size : Nat) :
    listing ptr = some size ↔ side size ∧ LiveAt (live ++ [block]) size ptr := by
  rw [liveAt_append, lists]
  constructor
  · rintro ⟨onSide, there⟩
    exact ⟨onSide, .inl there⟩
  · rintro ⟨onSide, there | ⟨-, sized⟩⟩
    · exact ⟨onSide, there⟩
    · exact absurd (sized ▸ onSide) offSide

/-- A block that is freed leaves the list of its side. -/
theorem listing_leave
    (lists : ∀ ptr size, listing ptr = some size ↔
      side size ∧ LiveAt live size ptr) (freed ptr size : Nat) :
    Function.update listing freed none ptr = some size ↔
      side size ∧ LiveAt (live.filter (·.start ≠ freed)) size ptr := by
  rw [liveAt_filter, Function.update_apply]
  split_ifs with same
  · simp [same]
  · rw [lists]
    simp [same]

/-- A list without the block that is freed stays as it is. -/
theorem listing_keep
    (lists : ∀ ptr size, listing ptr = some size ↔
      side size ∧ LiveAt live size ptr)
    {freed : Nat} (unlisted : listing freed = none) (ptr size : Nat) :
    listing ptr = some size ↔
      side size ∧ LiveAt (live.filter (·.start ≠ freed)) size ptr := by
  rw [liveAt_filter]
  by_cases same : ptr = freed
  · rw [same, unlisted]
    simp
  · rw [lists]
    simp [same]

end Listing

theorem nodup_append_one {starts : List Nat} {start : Nat}
    (nodup : starts.Nodup) (new : start ∉ starts) :
    (starts ++ [start]).Nodup := by
  rw [List.nodup_append]
  refine ⟨nodup, List.pairwise_singleton _ _, ?_⟩
  rintro other member _ single rfl
  exact new (List.mem_singleton.mp single ▸ member)

theorem Partitioned.take {small : Nat → Option Nat} {size ptr : Nat}
    {pool : MallocPool} {freeList : List Nat}
    (partition : Partitioned small size pool)
    (head : pool.freeList = ptr :: freeList) :
    Partitioned (Function.update small ptr (some size)) size
      { pool with freeList } := by
  obtain ⟨nodup, carved, notGiven⟩ := partition
  rw [head] at nodup carved notGiven
  obtain ⟨notAgain, restNodup⟩ := List.nodup_cons.mp nodup
  refine ⟨restNodup, ?_, ?_⟩
  · intro other
    refine (carved other).trans ?_
    rw [List.mem_cons, Function.update_apply]
    by_cases same : other = ptr
    · simp [same]
    · simp [same]
  · intro other free
    have different : other ≠ ptr := by
      rintro rfl
      exact notAgain free
    rw [Function.update_of_ne different]
    exact notGiven other (List.mem_cons_of_mem _ free)

theorem Partitioned.give {small : Nat → Option Nat} {size ptr : Nat}
    {pool : MallocPool} (partition : Partitioned small size pool)
    (listed : small ptr = some size) :
    Partitioned (Function.update small ptr none) size
      { pool with freeList := pool.freeList ++ [ptr] } := by
  obtain ⟨nodup, carved, notGiven⟩ := partition
  have notFree : ptr ∉ pool.freeList := by
    intro free
    exact notGiven ptr free listed
  refine ⟨?_, ?_, ?_⟩
  · exact nodup_append_one nodup notFree
  · intro other
    refine (carved other).trans ?_
    rw [List.mem_append, List.mem_singleton, Function.update_apply]
    by_cases same : other = ptr
    · simp [same, listed]
    · simp [same]
  · intro other free
    rcases List.mem_append.mp free with before | added
    · have different : other ≠ ptr := by
        rintro rfl
        exact notFree before
      rw [Function.update_of_ne different]
      exact notGiven other before
    · rw [List.mem_singleton.mp added, Function.update_self]
      exact nofun

/-- What happens to a block of one pool does not concern the others. -/
theorem Partitioned.other {small : Nat → Option Nat} {size ptr : Nat}
    {pool : MallocPool} {listed : Option Nat}
    (partition : Partitioned small size pool)
    (before : small ptr ≠ some size) (after : listed ≠ some size) :
    Partitioned (Function.update small ptr listed) size pool := by
  have same : ∀ other, Function.update small ptr listed other = some size ↔
      small other = some size := by
    intro other
    rw [Function.update_apply]
    split_ifs with isPtr
    · rw [isPtr]
      exact iff_of_false after before
    · rfl
  refine ⟨partition.nodup, ?_, ?_⟩
  · intro other
    rw [same]
    exact partition.carved other
  · intro other free given
    exact partition.notGiven other free ((same other).mp given)

theorem PoolOf.count_pos {size : Nat} {pool : MallocPool}
    (fits : PoolOf size pool) : 0 < pool.count := by
  obtain ⟨rfl, positive, small, counted⟩ := fits
  rw [counted, getCount, if_neg (Nat.not_le.mpr small)]
  exact Nat.div_pos (Nat.le_of_lt small) positive

namespace Sound

/-- Pieces that start at one address have one owner. -/
theorem same_owner (sound : Sound ledger) {owner other : StorageOwner}
    {span otherSpan : Span} {ptr size otherSize : Nat}
    (owns : ledger.Owns owner span) (owns' : ledger.Owns other otherSpan)
    (inside : (Span.mk ptr size).Inside span)
    (inside' : (Span.mk ptr otherSize).Inside otherSpan)
    (positive : 0 < size) (positive' : 0 < otherSize) :
    owner = other ∧ span = otherSpan := by
  rcases sound.apart owner span other otherSpan owns owns' with same | apart
  · exact same
  · exact absurd rfl
      ((apart.of_inside inside inside').start_ne positive positive')

/-- A block of a pool lies in a piece of storage of the pool. -/
theorem carved_owned (sound : Sound ledger) {size ptr : Nat}
    {pool : MallocPool} (known : ledger.pools size = some pool)
    (carved : ptr ∈ pool.carved) :
    ∃ span, ledger.Owns (.pool size) span ∧
      ptr ∈ Span.carve size span.start pool.count ∧
        (Span.mk ptr size).Inside span := by
  obtain ⟨base, member, piece⟩ := MallocPool.mem_carved.mp carved
  have fits := sound.pools size pool known
  refine ⟨⟨base, pool.size * pool.count⟩, ⟨pool, known, member, rfl⟩, ?_⟩
  rw [fits.sized] at piece ⊢
  exact ⟨piece, Span.carve_inside piece⟩

/-- No address is a block of two pools. -/
theorem carved_unique (sound : Sound ledger) {size other ptr : Nat}
    {pool otherPool : MallocPool} (known : ledger.pools size = some pool)
    (otherKnown : ledger.pools other = some otherPool)
    (carved : ptr ∈ pool.carved) (otherCarved : ptr ∈ otherPool.carved) :
    size = other := by
  obtain ⟨span, owns, -, inside⟩ := sound.carved_owned known carved
  obtain ⟨otherSpan, otherOwns, -, otherInside⟩ :=
    sound.carved_owned otherKnown otherCarved
  have same := sound.same_owner owns otherOwns inside otherInside
    (sound.pools size pool known).positive
    (sound.pools other otherPool otherKnown).positive
  exact StorageOwner.pool.inj same.1

theorem big_owned (sound : Sound ledger) {size ptr : Nat}
    (listed : ledger.big ptr = some size) :
    ledger.Owns .big ⟨ptr, size⟩ ∧ 0 < size :=
  ⟨listed, (sound.owned .big ⟨ptr, size⟩ listed).2.2⟩

/-- No address is a block of a pool and a big block. -/
theorem carved_not_big (sound : Sound ledger) {size ptr : Nat}
    {pool : MallocPool} (known : ledger.pools size = some pool)
    (carved : ptr ∈ pool.carved) : ledger.big ptr = none := by
  rw [Option.eq_none_iff_forall_not_mem]
  intro bigSize listed
  obtain ⟨span, owns, -, inside⟩ := sound.carved_owned known carved
  obtain ⟨ownsBig, positive⟩ := sound.big_owned listed
  have same := sound.same_owner owns ownsBig inside (Span.Inside.refl _)
    (sound.pools size pool known).positive positive
  cases same.1

theorem listed_carved (sound : Sound ledger) {size ptr : Nat}
    {pool : MallocPool} (known : ledger.pools size = some pool)
    (listed : ledger.small ptr = some size) : ptr ∈ pool.carved :=
  ((sound.partition size pool known).carved ptr).mpr (.inr listed)

theorem free_carved (sound : Sound ledger) {size ptr : Nat}
    {pool : MallocPool} (known : ledger.pools size = some pool)
    (free : ptr ∈ pool.freeList) : ptr ∈ pool.carved :=
  ((sound.partition size pool known).carved ptr).mpr (.inl free)

/-- A free block is not listed as given out, by no pool. -/
theorem free_unlisted (sound : Sound ledger) {size ptr : Nat}
    {pool : MallocPool} (known : ledger.pools size = some pool)
    (free : ptr ∈ pool.freeList) : ledger.small ptr = none := by
  rw [Option.eq_none_iff_forall_not_mem]
  intro other listed
  obtain ⟨otherPool, otherKnown⟩ := sound.pooled ptr other listed
  have same := sound.carved_unique known otherKnown
    (sound.free_carved known free) (sound.listed_carved otherKnown listed)
  subst same
  exact (sound.partition size pool known).notGiven ptr free listed

/-- A block that starts at an address is listed there. -/
theorem live_listed (sound : Sound ledger) {block : MemoryBlock}
    (member : block ∈ ledger.live) :
    ledger.small block.start = some block.extent.size ∨
      ledger.big block.start = some block.extent.size := by
  rcases Nat.lt_or_ge block.extent.size memMaxSize with isSmall | isBig
  · exact .inl ((sound.small _ _).mpr ⟨isSmall, block, member, rfl, rfl⟩)
  · exact .inr ((sound.big _ _).mpr ⟨isBig, block, member, rfl, rfl⟩)

theorem not_live (sound : Sound ledger) {ptr : Nat}
    (notSmall : ledger.small ptr = none) (notBig : ledger.big ptr = none) :
    ptr ∉ ledger.live.map MemoryBlock.start := by
  intro member
  obtain ⟨block, live, rfl⟩ := List.mem_map.mp member
  rcases sound.live_listed live with listed | listed
  · rw [notSmall] at listed
    cases listed
  · rw [notBig] at listed
    cases listed

/-- Nothing starts at the null pointer. -/
theorem null_unlisted (sound : Sound ledger) :
    ledger.small 0 = none ∧ ledger.big 0 = none := by
  constructor
  · rw [Option.eq_none_iff_forall_not_mem]
    intro size listed
    obtain ⟨pool, known⟩ := sound.pooled 0 size listed
    obtain ⟨span, owns, -, inside⟩ :=
      sound.carved_owned known (sound.listed_carved known listed)
    have positive := (sound.owned _ span owns).2.1
    exact absurd inside.1 (Nat.not_le.mpr positive)
  · rw [Option.eq_none_iff_forall_not_mem]
    intro size listed
    exact absurd (sound.owned .big ⟨0, size⟩ listed).2.1 (Nat.lt_irrefl 0)

/-- The first address of a block about to be entered is not listed. -/
theorem pending_unlisted (sound : Sound ledger) {thread : Nat}
    {block : MemoryBlock} (waits : ledger.pending thread = some block) :
    ledger.small block.start = none ∧ ledger.big block.start = none := by
  have owns : ledger.Owns (.pending thread) block.extent :=
    ⟨block, waits, rfl⟩
  have positive := (sound.owned _ _ owns).2.2
  constructor
  · rw [Option.eq_none_iff_forall_not_mem]
    intro size listed
    obtain ⟨pool, known⟩ := sound.pooled _ size listed
    obtain ⟨span, ownsPool, -, inside⟩ :=
      sound.carved_owned known (sound.listed_carved known listed)
    have same := sound.same_owner owns ownsPool (Span.Inside.refl _) inside
      positive (sound.pools size pool known).positive
    cases same.1
  · rw [Option.eq_none_iff_forall_not_mem]
    intro size listed
    obtain ⟨ownsBig, bigPositive⟩ := sound.big_owned listed
    have same := sound.same_owner owns ownsBig (Span.Inside.refl _)
      (Span.Inside.refl _) positive bigPositive
    cases same.1

end Sound

/-- Fresh storage may get an owner. -/
theorem Apportioned.grow (apportioned : Apportioned ledger)
    {newOwner : StorageOwner} {new : Span}
    (grown : next.storage = new :: ledger.storage)
    (start : 0 < new.start) (size : 0 < new.size)
    (fresh : ∀ span ∈ ledger.storage, span.Apart new)
    (owns : ∀ owner span, next.Owns owner span →
      ledger.Owns owner span ∨ owner = newOwner ∧ span = new) :
    Apportioned next where
  owned owner span owned := by
    rw [grown]
    rcases owns owner span owned with before | ⟨-, rfl⟩
    · obtain ⟨stored, positive⟩ := apportioned.owned owner span before
      exact ⟨List.mem_cons_of_mem _ stored, positive⟩
    · exact ⟨List.mem_cons_self, start, size⟩
  apart owner span other otherSpan owned otherOwned := by
    rcases owns owner span owned with before | ⟨rfl, rfl⟩
    · have stored := (apportioned.owned owner span before).1
      rcases owns other otherSpan otherOwned with otherBefore | ⟨-, rfl⟩
      · exact apportioned.apart owner span other otherSpan before otherBefore
      · exact .inr (fresh span stored)
    · rcases owns other otherSpan otherOwned with otherBefore | ⟨rfl, rfl⟩
      · have stored := (apportioned.owned other otherSpan otherBefore).1
        exact .inr (fresh otherSpan stored).symm
      · exact .inl ⟨rfl, rfl⟩

/-- Owners may give up storage or hand it on. -/
theorem Apportioned.rename (apportioned : Apportioned ledger)
    (rename : StorageOwner → StorageOwner)
    (owns : ∀ owner span, next.Owns owner span →
      ∃ before, ledger.Owns before span ∧ rename before = owner ∧
        span ∈ next.storage) :
    Apportioned next where
  owned owner span owned := by
    obtain ⟨before, was, -, kept⟩ := owns owner span owned
    exact ⟨kept, (apportioned.owned before span was).2⟩
  apart owner span other otherSpan owned otherOwned := by
    obtain ⟨before, was, rfl, -⟩ := owns owner span owned
    obtain ⟨otherBefore, otherWas, rfl, -⟩ := owns other otherSpan otherOwned
    rcases apportioned.apart before span otherBefore otherSpan was otherWas
      with ⟨rfl, rfl⟩ | apart
    · exact .inl ⟨rfl, rfl⟩
    · exact .inr apart

theorem Apportioned.same (apportioned : Apportioned ledger)
    (storage : next.storage = ledger.storage)
    (owns : ∀ owner span, next.Owns owner span → ledger.Owns owner span) :
    Apportioned next := by
  apply apportioned.rename id
  intro owner span owned
  have was := owns owner span owned
  exact ⟨owner, was, rfl, storage ▸ (apportioned.owned owner span was).1⟩

/-- A pool that keeps its pieces of storage keeps its part of the storage. -/
theorem owns_of_update {size : Nat} {pool : MallocPool}
    (changed : MallocPool) (known : ledger.pools size = some pool)
    (pieces : changed.allMemList = pool.allMemList)
    (sized : changed.size = pool.size) (counted : changed.count = pool.count)
    (pools : next.pools = Function.update ledger.pools size (some changed))
    {other : Nat} {span : Span} (owns : next.Owns (.pool other) span) :
    ledger.Owns (.pool other) span := by
  obtain ⟨otherPool, otherKnown, member, extent⟩ := owns
  rw [pools, Function.update_apply] at otherKnown
  split_ifs at otherKnown with same
  · obtain rfl := Option.some.inj otherKnown
    subst same
    rw [pieces] at member
    rw [sized, counted] at extent
    exact ⟨pool, known, member, extent⟩
  · exact ⟨otherPool, otherKnown, member, extent⟩

theorem PoolOf.of_same {size : Nat} {pool changed : MallocPool}
    (fits : PoolOf size pool) (sized : changed.size = pool.size)
    (counted : changed.count = pool.count) : PoolOf size changed where
  sized := sized.trans fits.sized
  positive := fits.positive
  small := fits.small
  counted := counted.trans fits.counted

/-- Every pool is the changed one, or as before. -/
theorem pools_of_update {size : Nat} {changed : MallocPool}
    {Property : Nat → MallocPool → Prop} (holds : Property size changed)
    (others : ∀ other pool, other ≠ size → ledger.pools other = some pool →
      Property other pool) :
    ∀ other pool,
      Function.update ledger.pools size (some changed) other = some pool →
        Property other pool := by
  intro other pool known
  rw [Function.update_apply] at known
  split_ifs at known with same
  · obtain rfl := Option.some.inj known
    exact same ▸ holds
  · exact others other pool same known

theorem known_update {size other : Nat} (changed : MallocPool)
    (known : ∃ pool, ledger.pools other = some pool) :
    ∃ pool, Function.update ledger.pools size (some changed) other =
      some pool := by
  obtain ⟨pool, known⟩ := known
  rw [Function.update_apply]
  split_ifs
  · exact ⟨changed, rfl⟩
  · exact ⟨pool, known⟩

namespace Sound

variable (sound : Sound ledger)
include sound

theorem expanded {size base : Nat} {pool : MallocPool}
    (known : ledger.pools size = some pool ∨
      ledger.pools size = none ∧ pool = .unexpanded size)
    (fits : PoolOf size pool) (empty : pool.freeList = [])
    (positive : 0 < base)
    (fresh : ∀ span ∈ ledger.storage,
      span.Apart ⟨base, pool.size * pool.count⟩) :
    Sound
      { ledger with
        storage := ⟨base, pool.size * pool.count⟩ :: ledger.storage
        pools := Function.update ledger.pools size
          (some (pool.expanded base)) } := by
  have oldCarved : ∀ ptr, ptr ∈ pool.carved ↔
      ledger.small ptr = some size := by
    intro ptr
    rcases known with known | ⟨unknown, rfl⟩
    · simpa [empty] using (sound.partition size pool known).carved ptr
    · constructor
      · intro carved
        simp [MallocPool.carved, MallocPool.unexpanded] at carved
      · intro listed
        obtain ⟨other, otherKnown⟩ := sound.pooled ptr size listed
        rw [unknown] at otherKnown
        cases otherKnown
  have room : 0 < pool.size * pool.count := by
    rw [fits.sized]
    exact Nat.mul_pos fits.positive fits.count_pos
  -- The new blocks lie in fresh storage, so none of them is given out.
  have notListed : ∀ ptr ∈ Span.carve pool.size base pool.count,
      ledger.small ptr ≠ some size := by
    intro ptr piece listed
    obtain ⟨other, otherKnown⟩ := sound.pooled ptr size listed
    obtain ⟨span, owns, -, inside⟩ := sound.carved_owned otherKnown
      (sound.listed_carved otherKnown listed)
    have apart := fresh span (sound.owned _ span owns).1
    have newInside := Span.carve_inside piece
    rw [fits.sized] at newInside
    exact (apart.of_inside inside (fits.sized ▸ newInside)).start_ne
      fits.positive fits.positive rfl
  refine
    { toApportioned := ?_
      pools := pools_of_update (fits.of_same rfl rfl)
        fun other pool _ => sound.pools other pool
      partition := pools_of_update ?_
        fun other pool _ => sound.partition other pool
      pooled := ?_
      small := sound.small
      big := sound.big
      distinct := sound.distinct
      pendingBig := sound.pendingBig }
  · apply sound.toApportioned.grow rfl positive room fresh
    intro owner span owns
    cases owner with
    | pool other =>
        obtain ⟨otherPool, otherKnown, member, extent⟩ := owns
        simp only [Function.update_apply] at otherKnown
        split_ifs at otherKnown with same
        · obtain rfl := Option.some.inj otherKnown
          subst same
          rcases List.mem_append.mp member with old | new
          · rcases known with known | ⟨-, rfl⟩
            · exact .inl ⟨pool, known, old, extent⟩
            · cases old
          · rw [List.mem_singleton] at new
            exact .inr ⟨rfl, Span.ext new extent⟩
        · exact .inl ⟨otherPool, otherKnown, member, extent⟩
    | big => exact .inl owns
    | pending thread => exact .inl owns
  · refine ⟨?_, ?_, ?_⟩
    · rw [MallocPool.expanded, empty]
      exact Span.carve_nodup (fits.sized ▸ fits.positive) base pool.count
    · intro ptr
      rw [MallocPool.mem_carved_expanded, oldCarved, MallocPool.expanded,
        empty]
      exact or_comm
    · rw [MallocPool.expanded, empty]
      exact notListed
  · intro ptr other listed
    exact known_update _ (sound.pooled ptr other listed)

theorem taken {size ptr requested : Nat} {pool : MallocPool}
    {freeList : List Nat} (known : ledger.pools size = some pool)
    (head : pool.freeList = ptr :: freeList)
    (rounded : fixSize requested = size) :
    Sound
      { ledger with
        pools := Function.update ledger.pools size
          (some { pool with freeList })
        small := Function.update ledger.small ptr (some size)
        live := ledger.live ++ [{ start := ptr, requested }] } := by
  subst rounded
  have fits := sound.pools _ pool known
  have isFree : ptr ∈ pool.freeList := head ▸ List.mem_cons_self
  have unlisted := sound.free_unlisted known isFree
  have isSmall : (MemoryBlock.mk ptr requested).extent.size < memMaxSize :=
    fits.small
  have notBig := sound.carved_not_big known (sound.free_carved known isFree)
  refine
    { toApportioned := ?_
      pools := pools_of_update (fits.of_same rfl rfl)
        fun other pool _ => sound.pools other pool
      partition := pools_of_update
        ((sound.partition _ pool known).take head) ?_
      pooled := ?_
      small := listing_enter sound.small unlisted isSmall
      big := listing_pass sound.big (Nat.not_le.mpr isSmall)
      distinct := ?_
      pendingBig := sound.pendingBig }
  · refine Apportioned.same sound.toApportioned rfl ?_
    intro owner span owns
    cases owner with
    | pool other =>
        exact owns_of_update { pool with freeList } known rfl rfl rfl rfl owns
    | big => exact owns
    | pending thread => exact owns
  · intro other otherPool different otherKnown
    apply (sound.partition other otherPool otherKnown).other
    · rw [unlisted]
      exact nofun
    · rintro ⟨⟩
      exact different rfl
  · intro other otherSize listed
    apply known_update
    simp only [Function.update_apply] at listed
    split_ifs at listed with same
    · obtain rfl := Option.some.inj listed
      exact ⟨pool, known⟩
    · exact sound.pooled other otherSize listed
  · rw [List.map_append, List.map_singleton]
    exact nodup_append_one sound.distinct (sound.not_live unlisted notBig)

theorem reserved {thread : Nat} {block : MemoryBlock}
    (large : memMaxSize ≤ block.extent.size) (positive : 0 < block.start)
    (fresh : ∀ span ∈ ledger.storage, span.Apart block.extent) :
    Sound
      { ledger with
        storage := block.extent :: ledger.storage
        pending := Function.update ledger.pending thread (some block) } := by
  have room : 0 < block.extent.size := Nat.lt_of_lt_of_le (by decide) large
  refine
    { toApportioned := ?_
      pools := sound.pools
      partition := sound.partition
      pooled := sound.pooled
      small := sound.small
      big := sound.big
      distinct := sound.distinct
      pendingBig := ?_ }
  · apply sound.toApportioned.grow rfl positive room fresh
    intro owner span owns
    cases owner with
    | pool other => exact .inl owns
    | big => exact .inl owns
    | pending other =>
        obtain ⟨otherBlock, waits, rfl⟩ := owns
        simp only [Function.update_apply] at waits
        split_ifs at waits with same
        · obtain rfl := Option.some.inj waits
          exact .inr ⟨congrArg StorageOwner.pending same, rfl⟩
        · exact .inl ⟨otherBlock, waits, rfl⟩
  · intro other otherBlock waits
    simp only [Function.update_apply] at waits
    split_ifs at waits with same
    · obtain rfl := Option.some.inj waits
      exact large
    · exact sound.pendingBig other otherBlock waits

theorem entered {thread : Nat} {block : MemoryBlock}
    (waits : ledger.pending thread = some block) :
    Sound
      { ledger with
        big := Function.update ledger.big block.start
          (some block.extent.size)
        pending := Function.update ledger.pending thread none
        live := ledger.live ++ [block] } := by
  have large := sound.pendingBig thread block waits
  obtain ⟨notSmall, notBig⟩ := sound.pending_unlisted waits
  refine
    { toApportioned := ?_
      pools := sound.pools
      partition := sound.partition
      pooled := sound.pooled
      small := listing_pass sound.small (Nat.not_lt.mpr large)
      big := listing_enter sound.big notBig large
      distinct := ?_
      pendingBig := ?_ }
  · -- The storage of the thread becomes that of a big block.
    apply sound.toApportioned.rename
      (fun before => if before = .pending thread then .big else before)
    intro owner span owns
    cases owner with
    | pool other =>
        exact ⟨.pool other, owns, rfl,
          (sound.owned (.pool other) span owns).1⟩
    | big =>
        simp only [Owns, Function.update_apply] at owns
        split_ifs at owns with same
        · have extent : span = block.extent :=
            Span.ext same (Option.some.inj owns).symm
          have was : ledger.Owns (.pending thread) span :=
            ⟨block, waits, extent⟩
          exact ⟨_, was, if_pos rfl, (sound.owned _ span was).1⟩
        · exact ⟨.big, owns, rfl, (sound.owned .big span owns).1⟩
    | pending other =>
        obtain ⟨otherBlock, otherWaits, rfl⟩ := owns
        simp only [Function.update_apply] at otherWaits
        split_ifs at otherWaits with same
        have was : ledger.Owns (.pending other) otherBlock.extent :=
          ⟨otherBlock, otherWaits, rfl⟩
        refine ⟨_, was, if_neg ?_, (sound.owned _ _ was).1⟩
        rintro ⟨⟩
        exact same rfl
  · rw [List.map_append, List.map_singleton]
    exact nodup_append_one sound.distinct (sound.not_live notSmall notBig)
  · intro other otherBlock otherWaits
    simp only [Function.update_apply] at otherWaits
    split_ifs at otherWaits
    exact sound.pendingBig other otherBlock otherWaits

theorem freedSmall {size ptr : Nat} {pool : MallocPool}
    (listed : ledger.small ptr = some size)
    (known : ledger.pools size = some pool) :
    Sound
      { ledger with
        pools := Function.update ledger.pools size
          (some { pool with freeList := pool.freeList ++ [ptr] })
        small := Function.update ledger.small ptr none
        live := ledger.live.filter (·.start ≠ ptr) } := by
  have fits := sound.pools size pool known
  have notBig :=
    sound.carved_not_big known (sound.listed_carved known listed)
  refine
    { toApportioned := ?_
      pools := pools_of_update (fits.of_same rfl rfl)
        fun other pool _ => sound.pools other pool
      partition := pools_of_update
        ((sound.partition size pool known).give listed) ?_
      pooled := ?_
      small := listing_leave sound.small ptr
      big := listing_keep sound.big notBig
      distinct := ?_
      pendingBig := sound.pendingBig }
  · refine Apportioned.same sound.toApportioned rfl ?_
    intro owner span owns
    cases owner with
    | pool other =>
        exact owns_of_update { pool with freeList := pool.freeList ++ [ptr] }
          known rfl rfl rfl rfl owns
    | big => exact owns
    | pending thread => exact owns
  · intro other otherPool different otherKnown
    apply (sound.partition other otherPool otherKnown).other
    · rw [listed]
      rintro ⟨⟩
      exact different rfl
    · exact nofun
  · intro other otherSize otherListed
    apply known_update
    simp only [Function.update_apply] at otherListed
    split_ifs at otherListed
    exact sound.pooled other otherSize otherListed
  · exact sound.distinct.sublist (List.filter_sublist.map _)

theorem freedBig {size ptr : Nat} (listed : ledger.big ptr = some size) :
    Sound
      { ledger with
        storage := ledger.storage.filter (·.start ≠ ptr)
        big := Function.update ledger.big ptr none
        live := ledger.live.filter (·.start ≠ ptr) } := by
  obtain ⟨freed, positive⟩ := sound.big_owned listed
  have notSmall : ledger.small ptr = none := by
    rw [Option.eq_none_iff_forall_not_mem]
    intro other otherListed
    obtain ⟨pool, known⟩ := sound.pooled ptr other otherListed
    have notBig := sound.carved_not_big known
      (sound.listed_carved known otherListed)
    rw [notBig] at listed
    cases listed
  refine
    { toApportioned := ?_
      pools := sound.pools
      partition := sound.partition
      pooled := sound.pooled
      small := listing_keep sound.small notSmall
      big := listing_leave sound.big ptr
      distinct := ?_
      pendingBig := sound.pendingBig }
  · have stays : ∀ owner span, ledger.Owns owner span →
        (owner, span) ≠ (.big, ⟨ptr, size⟩) →
          span ∈ ledger.storage.filter (·.start ≠ ptr) := by
      intro owner span owned different
      obtain ⟨stored, -, nonempty⟩ := sound.owned owner span owned
      rcases sound.apart owner span _ _ owned freed with ⟨rfl, rfl⟩ | apart
      · exact absurd rfl different
      · have startNe := apart.start_ne nonempty positive
        exact List.mem_filter.mpr ⟨stored, decide_eq_true startNe⟩
    apply sound.toApportioned.rename id
    intro owner span owns
    cases owner with
    | pool other =>
        exact ⟨.pool other, owns, rfl, stays (.pool other) span owns nofun⟩
    | big =>
        simp only [Owns, Function.update_apply] at owns
        split_ifs at owns with same
        refine ⟨.big, owns, rfl, stays .big span owns ?_⟩
        rintro ⟨⟩
        exact same rfl
    | pending thread =>
        exact ⟨.pending thread, owns, rfl,
          stays (.pending thread) span owns nofun⟩
  · exact sound.distinct.sublist (List.filter_sublist.map _)

theorem effect (effect : Effect ledger next) : Sound next := by
  cases effect with
  | expanded known fits empty positive fresh =>
      exact sound.expanded known fits empty positive fresh
  | taken known head rounded => exact sound.taken known head rounded
  | reserved large positive fresh =>
      exact sound.reserved large positive fresh
  | entered waits => exact sound.entered waits
  | freedSmall listed known => exact sound.freedSmall listed known
  | freedBig listed => exact sound.freedBig listed

end Sound

end Ledger

end EchoServer
