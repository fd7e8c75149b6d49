import EchoServer.LabelledRun
import EchoServer.QueueHistory

/-!
# The lock-free queue

`FreeQueue.h`.  `Push` reads the tail, hangs its node behind it by a
compare-and-swap, and moves the tail on by another; any number of threads push
at the same time, and their steps are interleaved in any order.  `Pop` is run
where no push is between reading the tail and moving it on; that a push may
not come in between is what its own comment doubts.
-/

namespace EchoServer

open LabelledRun QueueHistory

/-- `FreeQueueNode`, with `nullptr` as `none`. -/
structure FreeQueueNode (T : Type) where
  data : T
  next : Option Nat

/-- How far a thread is in `Push`: not in it, with its node made, with the
tail read, or with its node hung behind the tail that it read. -/
inductive PushPoint (T : Type)
  | idle
  | made (n : Nat) (data : T)
  | read (n : Nat) (data : T) (p : Nat)
  | hung (n : Nat) (p : Nat)

namespace PushPoint

variable {T : Type}

/-- A push that has read the tail and has not moved it on yet. -/
def Holding : PushPoint T → Prop
  | .idle => False
  | .made _ _ => False
  | .read _ _ _ => True
  | .hung _ _ => True

/-- The node that a push works on. -/
def node : PushPoint T → Option Nat
  | .idle => none
  | .made n _ => some n
  | .read n _ _ => some n
  | .hung n _ => some n

/-- The thread has hung its node and has not moved the tail on. -/
def Hung (point : PushPoint T) : Prop :=
  ∃ n p, point = .hung n p

end PushPoint

/-- `FreeQueue`, the memory of its nodes, the threads that push, and the
operations in the order in which they took effect. -/
structure FreeQueue (T : Type) where
  memory : Nat → Option (FreeQueueNode T)
  pHead : Nat
  pTail : Nat
  pushes : Nat → PushPoint T
  events : List (QueueEvent T)

/-- What goes wrong: memory that is not allocated is used, or the last loop of
`Pop` never ends. -/
inductive FreeQueueFault
  | wild
  | spins
  deriving DecidableEq

/-- A thread starts to push and gets memory for its node, a thread takes the
next step of its push, or a thread pops. -/
inductive FreeQueueAction (T : Type)
  | push (thread : Nat) (data : T) (address : Nat)
  | advance (thread : Nat)
  | pop

namespace FreeQueue

variable {T : Type}

/-- The constructor: a node for the head, whose data is not set. -/
def new (address : Nat) (unset : T) : FreeQueue T where
  memory := fun place =>
    if place = address then some ⟨unset, none⟩ else none
  pHead := address
  pTail := address
  pushes := fun _ => .idle
  events := []

/-- The memory with another node at an address. -/
def store (memory : Nat → Option (FreeQueueNode T)) (address : Nat)
    (node : Option (FreeQueueNode T)) : Nat → Option (FreeQueueNode T) :=
  fun place => if place = address then node else memory place

/-- The threads with another point for one of them. -/
def moveTo (pushes : Nat → PushPoint T) (thread : Nat)
    (point : PushPoint T) : Nat → PushPoint T :=
  fun other => if other = thread then point else pushes other

/-- The next step of `Push`. -/
def advance (thread : Nat) (queue : FreeQueue T) :
    Except FreeQueueFault (FreeQueue T) :=
  match queue.pushes thread with
  | .idle => .ok queue
  | .made n data =>
      -- `p = _pTail`
      .ok
        { queue with
          pushes := moveTo queue.pushes thread (.read n data queue.pTail) }
  | .read n data p =>
      -- `__sync_bool_compare_and_swap(&p->next, nullptr, n)`
      match queue.memory p with
      | none => .error .wild
      | some node =>
          match node.next with
          | none =>
              .ok
                { queue with
                  memory := store queue.memory p
                    (some { node with next := some n })
                  pushes := moveTo queue.pushes thread (.hung n p)
                  events := queue.events ++ [.enqueue data] }
          | some _ =>
              .ok
                { queue with
                  pushes := moveTo queue.pushes thread (.made n data) }
  | .hung n p =>
      -- `__sync_bool_compare_and_swap(&_pTail, p, n)`
      .ok
        { queue with
          pTail := if queue.pTail = p then n else queue.pTail
          pushes := moveTo queue.pushes thread .idle }

/-- `Pop`, run alone. -/
def pop (queue : FreeQueue T) : Except FreeQueueFault (FreeQueue T) :=
  match queue.memory queue.pHead with
  | none => .error .wild
  | some head =>
      match head.next with
      | none => .ok { queue with events := queue.events ++ [.dequeue none] }
      | some p =>
          match queue.memory p with
          | none => .error .wild
          | some node =>
              let memory := store queue.memory queue.pHead
                (some { head with next := node.next })
              let popped :=
                { queue with
                  memory := store memory p none
                  events := queue.events ++ [.dequeue (some node.data)] }
              match node.next with
              | some _ => .ok popped
              | none =>
                  -- `while (!CAS(&_pTail, p, _pHead))`
                  if queue.pTail = p then
                    .ok { popped with pTail := queue.pHead }
                  else
                    .error .spins

/-- A step of some thread. -/
def step (queue : FreeQueue T) :
    FreeQueueAction T → Except FreeQueueFault (FreeQueue T)
  | .push thread data address =>
      .ok
        { queue with
          memory := store queue.memory address (some ⟨data, none⟩)
          pushes := moveTo queue.pushes thread (.made address data) }
  | .advance thread => queue.advance thread
  | .pop => queue.pop

/-- A thread pushes one value at a time, into memory that the allocator has
not given away, and no push holds a tail while a value is popped. -/
def Allowed (queue : FreeQueue T) : FreeQueueAction T → Prop
  | .push thread _ address =>
      queue.pushes thread = .idle ∧ queue.memory address = none
  | .advance _ => True
  | .pop => ∀ thread, ¬ (queue.pushes thread).Holding

section Memory

variable {memory : Nat → Option (FreeQueueNode T)}

@[simp]
theorem store_self (address : Nat) (node : Option (FreeQueueNode T)) :
    store memory address node address = node :=
  if_pos rfl

theorem store_of_ne {address place : Nat} (apart : place ≠ address)
    (node : Option (FreeQueueNode T)) :
    store memory address node place = memory place :=
  if_neg apart

/-- Nodes that follow each other by `next`, with their data. -/
def Chained (memory : Nat → Option (FreeQueueNode T)) :
    List (Nat × T) → Prop
  | [] => True
  | cell :: cells =>
      memory cell.1 = some ⟨cell.2, cells.head?.map Prod.fst⟩ ∧
        Chained memory cells

/-- Every node of a chain points to the one behind it. -/
theorem Chained.at {front behind : List (Nat × T)} {cell : Nat × T}
    (chained : Chained memory (front ++ cell :: behind)) :
    memory cell.1 = some ⟨cell.2, behind.head?.map Prod.fst⟩ := by
  induction front with
  | nil => exact chained.1
  | cons other front ih => exact ih chained.2

/-- Other memory does not matter to a chain. -/
theorem Chained.store {cells : List (Nat × T)} {address : Nat}
    (chained : Chained memory cells) (outside : address ∉ cells.map Prod.fst)
    (node : Option (FreeQueueNode T)) :
    Chained (store memory address node) cells := by
  induction cells with
  | nil => trivial
  | cons cell cells ih =>
      rw [List.map_cons, List.mem_cons, not_or] at outside
      refine ⟨?_, ih chained.2 outside.2⟩
      rw [store_of_ne (Ne.symm outside.1)]
      exact chained.1

/-- A node is hung behind the last one. -/
theorem Chained.hang {front : List (Nat × T)} {last next : Nat × T}
    (chained : Chained memory (front ++ [last]))
    (nodup : ((front ++ [last]).map Prod.fst).Nodup)
    (fresh : memory next.1 = some ⟨next.2, none⟩)
    (outside : next.1 ∉ (front ++ [last]).map Prod.fst) :
    Chained (FreeQueue.store memory last.1 (some ⟨last.2, some next.1⟩))
      (front ++ [last, next]) := by
  induction front with
  | nil =>
      have apart : next.1 ≠ last.1 := by simpa using outside
      refine ⟨store_self _ _, ?_, trivial⟩
      rw [store_of_ne apart]
      exact fresh
  | cons cell front ih =>
      rw [List.cons_append, List.map_cons] at nodup outside
      rw [List.mem_cons, not_or] at outside
      obtain ⟨notIn, nodup⟩ := List.nodup_cons.mp nodup
      have apart : cell.1 ≠ last.1 := by
        intro same
        apply notIn
        rw [same]
        exact List.mem_map_of_mem (by simp)
      refine ⟨?_, ih chained.2 nodup outside.2⟩
      rw [store_of_ne apart, chained.1]
      cases front <;> rfl

/-- The node behind the first one is taken out. -/
theorem Chained.unlink {first second : Nat × T} {rest : List (Nat × T)}
    (chained : Chained memory (first :: second :: rest))
    (nodup : ((first :: second :: rest).map Prod.fst).Nodup) :
    Chained
      (FreeQueue.store
        (FreeQueue.store memory first.1
          (some ⟨first.2, rest.head?.map Prod.fst⟩)) second.1 none)
      (first :: rest) := by
  simp only [List.map_cons, List.nodup_cons, List.mem_cons, not_or] at nodup
  obtain ⟨⟨apart, firstNotIn⟩, secondNotIn, -⟩ := nodup
  refine ⟨?_, (chained.2.2.store firstNotIn _).store secondNotIn _⟩
  rw [store_of_ne apart, store_self]

end Memory

section Threads

variable {pushes : Nat → PushPoint T} {thread : Nat} {point : PushPoint T}

@[simp]
theorem moveTo_self : moveTo pushes thread point thread = point :=
  if_pos rfl

theorem moveTo_of_ne {other : Nat} (apart : other ≠ thread) :
    moveTo pushes thread point other = pushes other :=
  if_neg apart

/-- What holds of all threads after one of them has moved. -/
theorem forall_moveTo {property : PushPoint T → Prop}
    (moved : property point)
    (others : ∀ other, other ≠ thread → property (pushes other))
    (other : Nat) : property (moveTo pushes thread point other) := by
  by_cases same : other = thread
  · rw [same, moveTo_self]
    exact moved
  · rw [moveTo_of_ne same]
    exact others other same

/-- No two threads work on one node. -/
def Apart (pushes : Nat → PushPoint T) : Prop :=
  ∀ thread other n, (pushes thread).node = some n →
    (pushes other).node = some n → thread = other

theorem Apart.moveTo (apart : Apart pushes)
    (own : ∀ n, point.node = some n → ∀ other, other ≠ thread →
      (pushes other).node ≠ some n) :
    Apart (moveTo pushes thread point) := by
  intro first second n firstNode secondNode
  by_cases firstSame : first = thread <;> by_cases secondSame : second = thread
  · rw [firstSame, secondSame]
  · rw [firstSame, moveTo_self] at firstNode
    rw [moveTo_of_ne secondSame] at secondNode
    exact absurd secondNode (own n firstNode second secondSame)
  · rw [secondSame, moveTo_self] at secondNode
    rw [moveTo_of_ne firstSame] at firstNode
    exact absurd firstNode (own n secondNode first firstSame)
  · rw [moveTo_of_ne firstSame] at firstNode
    rw [moveTo_of_ne secondSame] at secondNode
    exact apart first second n firstNode secondNode

/-- A thread that goes on with its node, or has none any more. -/
theorem Apart.moveTo_on (apart : Apart pushes)
    (same : point.node = (pushes thread).node ∨ point.node = none) :
    Apart (FreeQueue.moveTo pushes thread point) := by
  apply apart.moveTo
  intro n node other notThread otherNode
  rcases same with same | none
  · rw [same] at node
    exact notThread (apart other thread n otherNode node)
  · rw [none] at node
    cases node

end Threads

/-- What holds of a thread: a node that it has made is no node of the queue
yet, a tail that it has read is not behind the tail, and a node that it has
hung is the one behind the tail. -/
def Fits (memory : Nat → Option (FreeQueueNode T))
    (front : List (Nat × T)) (tail : Nat × T) (behind : List (Nat × T)) :
    PushPoint T → Prop
  | .idle => True
  | .made n data =>
      memory n = some ⟨data, none⟩ ∧
        n ∉ (front ++ tail :: behind).map Prod.fst
  | .read n data p =>
      memory n = some ⟨data, none⟩ ∧
        n ∉ (front ++ tail :: behind).map Prod.fst ∧
          p ∈ (front ++ [tail]).map Prod.fst
  | .hung n p => p = tail.1 ∧ behind.map Prod.fst = [n]

/-- Memory that is not a thread's node does not matter to the thread. -/
theorem Fits.store {memory : Nat → Option (FreeQueueNode T)}
    {front behind : List (Nat × T)} {tail : Nat × T} {point : PushPoint T}
    (fits : Fits memory front tail behind point) {address : Nat}
    (elsewhere : point.node ≠ some address)
    (node : Option (FreeQueueNode T)) :
    Fits (store memory address node) front tail behind point := by
  have stays : ∀ n, point.node = some n →
      FreeQueue.store memory address node n = memory n := by
    rintro n isNode
    apply store_of_ne
    rintro rfl
    exact elsewhere isNode
  cases point with
  | idle => trivial
  | made n data => exact ⟨(stays n rfl).trans fits.1, fits.2⟩
  | read n data p => exact ⟨(stays n rfl).trans fits.1, fits.2⟩
  | hung n p => exact fits

/-- A node that is hung behind the tail is not the node of another thread. -/
theorem Fits.hangs {memory : Nat → Option (FreeQueueNode T)}
    {front : List (Nat × T)} {tail : Nat × T} {m : Nat} {data : T}
    (fits : Fits memory front tail [] (.made m data)) (next : Nat × T)
    (notNext : m ≠ next.1) (node : Option (FreeQueueNode T)) :
    Fits (FreeQueue.store memory tail.1 node) front tail [next]
      (.made m data) := by
  obtain ⟨fresh, outside⟩ := fits
  simp only [List.map_append, List.map_cons, List.map_nil, List.mem_append,
    List.mem_cons, List.not_mem_nil, or_false, not_or] at outside
  refine ⟨?_, ?_⟩
  · rw [store_of_ne outside.2]
    exact fresh
  · simp only [List.map_append, List.map_cons, List.map_nil, List.mem_append,
      List.mem_cons, List.not_mem_nil, or_false, not_or]
    exact ⟨outside.1, outside.2, notNext⟩

/-- A thread that works on another node while one is hung behind the tail. -/
theorem Fits.behind {memory : Nat → Option (FreeQueueNode T)}
    {front : List (Nat × T)} {tail : Nat × T} {point : PushPoint T}
    (fits : Fits memory front tail [] point) (next : Nat × T)
    (notNext : point.node ≠ some next.1) (node : Option (FreeQueueNode T)) :
    Fits (FreeQueue.store memory tail.1 node) front tail [next] point := by
  cases point with
  | idle => trivial
  | made m data =>
      exact fits.hangs next (fun same => notNext (congrArg some same)) node
  | read m data p =>
      have made : Fits memory front tail [] (.made m data) :=
        ⟨fits.1, fits.2.1⟩
      obtain ⟨fresh, outside⟩ :=
        made.hangs next (fun same => notNext (congrArg some same)) node
      exact ⟨fresh, outside, fits.2.2⟩
  | hung m p => cases fits.2

/-- A thread that works on another node while the tail moves on. -/
theorem Fits.moveOn {memory : Nat → Option (FreeQueueNode T)}
    {front : List (Nat × T)} {tail cell : Nat × T} {point : PushPoint T}
    (fits : Fits memory front tail [cell] point)
    (notCell : point.node ≠ some cell.1) :
    Fits memory (front ++ [tail]) cell [] point := by
  have same : (front ++ [tail]) ++ cell :: [] = front ++ tail :: [cell] := by
    simp
  cases point with
  | idle => trivial
  | made m data =>
      refine ⟨fits.1, ?_⟩
      rw [same]
      exact fits.2
  | read m data p =>
      refine ⟨fits.1, ?_, ?_⟩
      · rw [same]
        exact fits.2.1
      · rw [List.map_append, List.mem_append]
        exact .inl fits.2.2
  | hung m p =>
      obtain rfl : cell.1 = m := by simpa using fits.2
      exact absurd rfl notCell

/-- A thread that holds no tail while the node behind the head is taken
out. -/
theorem Fits.unlink {memory : Nat → Option (FreeQueueNode T)}
    {front front' rest : List (Nat × T)} {tail tail' first second : Nat × T}
    {point : PushPoint T} (fits : Fits memory front tail [] point)
    (holdsNone : ¬ point.Holding)
    (before : first :: second :: rest = front ++ [tail])
    (after : first :: rest = front' ++ [tail'])
    (node : Option (FreeQueueNode T)) :
    Fits (FreeQueue.store (FreeQueue.store memory first.1 node) second.1 none)
      front' tail' [] point := by
  cases point with
  | idle => trivial
  | made m data =>
      obtain ⟨fresh, outside⟩ := fits
      rw [← before, List.map_cons, List.map_cons, List.mem_cons, List.mem_cons,
        not_or, not_or] at outside
      refine ⟨?_, ?_⟩
      · exact (store_of_ne outside.2.1 _).trans
          ((store_of_ne outside.1 _).trans fresh)
      · rw [← after, List.map_cons, List.mem_cons, not_or]
        exact ⟨outside.1, outside.2.2⟩
  | read m data p => exact absurd trivial holdsNone
  | hung m p => exact absurd trivial holdsNone

/-- What holds between the steps: the nodes are a chain that starts with the
head; the tail is the last of them, or the one before it while a thread has
hung its node and has not moved the tail on; and no two threads work on one
node. -/
structure Arranged (queue : FreeQueue T) (unset : T)
    (content front : List (Nat × T)) (tail : Nat × T)
    (behind : List (Nat × T)) : Prop where
  cells : (queue.pHead, unset) :: content = front ++ tail :: behind
  atTail : tail.1 = queue.pTail
  chained : Chained queue.memory (front ++ tail :: behind)
  nodup : ((front ++ tail :: behind).map Prod.fst).Nodup
  lagging : behind ≠ [] → ∃ thread, (queue.pushes thread).Hung
  fits : ∀ thread,
    Fits queue.memory front tail behind (queue.pushes thread)
  apart : Apart queue.pushes
  serves : Serves [] queue.events (content.map Prod.snd)

/-- The queue is arranged in some way. -/
def Sound (queue : FreeQueue T) : Prop :=
  ∃ unset content front tail behind,
    queue.Arranged unset content front tail behind

theorem new_sound (address : Nat) (unset : T) : (new address unset).Sound := by
  refine ⟨unset, [], [], (address, unset), [], rfl, rfl, ⟨if_pos rfl, trivial⟩,
    ?_, fun more => absurd rfl more, fun _ => trivial, ?_, rfl⟩
  · exact List.nodup_cons.mpr ⟨List.not_mem_nil, List.nodup_nil⟩
  · intro _ _ _ node
    cases node

namespace Arranged

variable {queue : FreeQueue T} {unset : T} {tail : Nat × T}
variable {content front behind : List (Nat × T)} {thread : Nat}

/-- Every node of the queue is allocated. -/
theorem allocated (arranged : queue.Arranged unset content front tail behind)
    {address : Nat}
    (isIn : address ∈ (front ++ tail :: behind).map Prod.fst) :
    ∃ node, queue.memory address = some node := by
  obtain ⟨cell, cellIn, rfl⟩ := List.mem_map.mp isIn
  obtain ⟨first, second, split⟩ := List.append_of_mem cellIn
  have chained := arranged.chained
  rw [split] at chained
  exact ⟨_, chained.at⟩

/-- A tail that a thread has read is allocated. -/
theorem allocated_read
    (arranged : queue.Arranged unset content front tail behind) {p : Nat}
    (within : p ∈ (front ++ [tail]).map Prod.fst) :
    ∃ node, queue.memory p = some node := by
  apply arranged.allocated
  rw [List.map_append, List.mem_append] at within ⊢
  refine within.imp_right fun isTail => ?_
  rw [List.mem_singleton.mp isTail]
  exact List.mem_cons_self

/-- A thread that was not between its compare-and-swaps may move. -/
theorem lagging_moveTo
    (arranged : queue.Arranged unset content front tail behind)
    (point : PushPoint T) (notHung : ¬ (queue.pushes thread).Hung)
    (more : behind ≠ []) :
    ∃ other, (moveTo queue.pushes thread point other).Hung := by
  obtain ⟨other, hung⟩ := arranged.lagging more
  refine ⟨other, ?_⟩
  rw [moveTo_of_ne]
  · exact hung
  · rintro rfl
    exact notHung hung

/-- The node that a thread works on is allocated. -/
theorem node_allocated
    (arranged : queue.Arranged unset content front tail behind) {n : Nat}
    (isNode : (queue.pushes thread).node = some n) :
    ∃ node, queue.memory n = some node := by
  have fits := arranged.fits thread
  cases point : queue.pushes thread with
  | idle =>
      rw [point] at isNode
      cases isNode
  | made m data =>
      rw [point] at fits isNode
      exact ⟨_, Option.some.inj isNode ▸ fits.1⟩
  | read m data p =>
      rw [point] at fits isNode
      exact ⟨_, Option.some.inj isNode ▸ fits.1⟩
  | hung m p =>
      rw [point] at fits isNode
      apply arranged.allocated
      rw [List.map_append, List.map_cons, fits.2, ← Option.some.inj isNode]
      simp

/-- A thread starts to push. -/
theorem push (arranged : queue.Arranged unset content front tail behind)
    {address : Nat} (idle : queue.pushes thread = .idle)
    (free : queue.memory address = none) (data : T) :
    Arranged
      { queue with
        memory := store queue.memory address (some ⟨data, none⟩)
        pushes := moveTo queue.pushes thread (.made address data) }
      unset content front tail behind := by
  have outside : address ∉ (front ++ tail :: behind).map Prod.fst := by
    intro isIn
    obtain ⟨node, found⟩ := arranged.allocated isIn
    rw [free] at found
    cases found
  have unowned : ∀ other, (queue.pushes other).node ≠ some address := by
    intro other isNode
    obtain ⟨node, found⟩ := arranged.node_allocated isNode
    rw [free] at found
    cases found
  refine ⟨arranged.cells, arranged.atTail, arranged.chained.store outside _,
    arranged.nodup, arranged.lagging_moveTo _ ?_, forall_moveTo ?_ ?_,
    arranged.apart.moveTo ?_, arranged.serves⟩
  · rw [idle]
    rintro ⟨n, p, hung⟩
    cases hung
  · exact ⟨store_self _ _, outside⟩
  · intro other _
    exact (arranged.fits other).store (unowned other) _
  · rintro n ⟨⟩ other _
    exact unowned other

/-- A thread reads the tail. -/
theorem readTail (arranged : queue.Arranged unset content front tail behind)
    {n : Nat} {data : T} (made : queue.pushes thread = .made n data) :
    Arranged
      { queue with
        pushes := moveTo queue.pushes thread (.read n data queue.pTail) }
      unset content front tail behind := by
  have fits := arranged.fits thread
  rw [made] at fits
  refine ⟨arranged.cells, arranged.atTail, arranged.chained, arranged.nodup,
    arranged.lagging_moveTo _ ?_, forall_moveTo ?_ fun other _ =>
      arranged.fits other, arranged.apart.moveTo_on ?_, arranged.serves⟩
  · rw [made]
    rintro ⟨n, p, hung⟩
    cases hung
  · refine ⟨fits.1, fits.2, ?_⟩
    rw [← arranged.atTail]
    simp
  · rw [made]
    exact .inl rfl

/-- The tail that a thread has read is the last node no more, and it reads
again. -/
theorem retry (arranged : queue.Arranged unset content front tail behind)
    {n p : Nat} {data : T} (read : queue.pushes thread = .read n data p) :
    Arranged
      { queue with pushes := moveTo queue.pushes thread (.made n data) }
      unset content front tail behind := by
  have fits := arranged.fits thread
  rw [read] at fits
  refine ⟨arranged.cells, arranged.atTail, arranged.chained, arranged.nodup,
    arranged.lagging_moveTo _ ?_, forall_moveTo ⟨fits.1, fits.2.1⟩
      fun other _ => arranged.fits other, arranged.apart.moveTo_on ?_,
    arranged.serves⟩
  · rw [read]
    rintro ⟨n, p, hung⟩
    cases hung
  · rw [read]
    exact .inl rfl

/-- A node that nothing follows is the last one. -/
theorem last_of_next (arranged : queue.Arranged unset content front tail behind)
    {p : Nat} (within : p ∈ (front ++ [tail]).map Prod.fst)
    {node : FreeQueueNode T} (found : queue.memory p = some node)
    (last : node.next = none) :
    behind = [] ∧ p = tail.1 ∧ node = ⟨tail.2, none⟩ := by
  have chained := arranged.chained
  have atTail : p = tail.1 := by
    rw [List.map_append, List.mem_append] at within
    rcases within with inFront | isTail
    · obtain ⟨cell, cellIn, rfl⟩ := List.mem_map.mp inFront
      obtain ⟨first, second, rfl⟩ := List.append_of_mem cellIn
      rw [List.append_assoc, List.cons_append] at chained
      rw [chained.at, Option.some.injEq] at found
      rw [← found] at last
      cases second <;> cases last
    · simpa using isTail
  subst atTail
  rw [chained.at, Option.some.injEq] at found
  subst found
  cases behind with
  | nil => exact ⟨rfl, rfl, rfl⟩
  | cons cell behind => cases last

/-- Where a thread's node does not fit behind the tail that it has read, the
tail has moved on, or another thread has hung its node there. -/
theorem overtaken (arranged : queue.Arranged unset content front tail behind)
    {n p : Nat} {data : T} (read : queue.pushes thread = .read n data p) :
    ∃ node, queue.memory p = some node ∧
      (node.next ≠ none →
        p ≠ queue.pTail ∨ ∃ other, (queue.pushes other).Hung) := by
  have fits := arranged.fits thread
  rw [read] at fits
  obtain ⟨node, found⟩ := arranged.allocated_read fits.2.2
  refine ⟨node, found, ?_⟩
  intro followed
  by_cases current : p = queue.pTail
  · refine .inr (arranged.lagging ?_)
    rintro rfl
    rw [current, ← arranged.atTail, arranged.chained.at,
      Option.some.injEq] at found
    exact followed (found ▸ rfl)
  · exact .inl current

/-- The first compare-and-swap succeeds: the node is the last one now. -/
theorem hang (arranged : queue.Arranged unset content front tail behind)
    {n p : Nat} {data : T} {node : FreeQueueNode T}
    (read : queue.pushes thread = .read n data p)
    (found : queue.memory p = some node) (last : node.next = none) :
    ∃ content front tail behind, Arranged
      { queue with
        memory := store queue.memory p (some { node with next := some n })
        pushes := moveTo queue.pushes thread (.hung n p)
        events := queue.events ++ [.enqueue data] }
      unset content front tail behind := by
  have fits := arranged.fits thread
  rw [read] at fits
  obtain ⟨fresh, outside, within⟩ := fits
  obtain ⟨rfl, rfl, rfl⟩ := arranged.last_of_next within found last
  refine ⟨content ++ [(n, data)], front, tail, [(n, data)], ?_,
    arranged.atTail, ?_, ?_, fun _ => ⟨thread, n, tail.1, moveTo_self⟩,
    forall_moveTo ⟨rfl, rfl⟩ ?_, arranged.apart.moveTo_on ?_, ?_⟩
  · rw [← List.cons_append, arranged.cells, List.append_assoc]
    rfl
  · have isNode : queue.memory (n, data).1 = some ⟨(n, data).2, none⟩ := fresh
    exact arranged.chained.hang arranged.nodup isNode outside
  · have split : front ++ [tail, (n, data)] =
        (front ++ [tail]) ++ [(n, data)] := by simp
    rw [split, List.map_append, List.nodup_append]
    refine ⟨arranged.nodup, List.nodup_cons.mpr
      ⟨List.not_mem_nil, List.nodup_nil⟩, ?_⟩
    intro address isIn other otherIn same
    obtain rfl : other = n := by simpa using otherIn
    exact outside (same ▸ isIn)
  · intro other notThread
    refine (arranged.fits other).behind (n, data) ?_ _
    intro isNode
    apply notThread
    apply arranged.apart other thread n isNode
    rw [read]
    rfl
  · rw [read]
    exact .inl rfl
  · rw [List.map_append]
    exact arranged.serves.enqueue data

/-- The second compare-and-swap: it succeeds, as no other thread can have
moved the tail. -/
theorem swing (arranged : queue.Arranged unset content front tail behind)
    {n p : Nat} (hung : queue.pushes thread = .hung n p) :
    ∃ front tail behind, Arranged
      { queue with
        pTail := if queue.pTail = p then n else queue.pTail
        pushes := moveTo queue.pushes thread .idle }
      unset content front tail behind := by
  have fits := arranged.fits thread
  rw [hung] at fits
  obtain ⟨atTail, node⟩ := fits
  obtain ⟨cell, rfl, rfl⟩ : ∃ cell, behind = [cell] ∧ cell.1 = n := by
    cases behind with
    | nil => cases node
    | cons cell behind =>
        rw [List.map_cons, List.cons.injEq] at node
        refine ⟨cell, ?_, node.1⟩
        rw [List.map_eq_nil_iff.mp node.2]
  have same : front ++ tail :: [cell] = (front ++ [tail]) ++ cell :: [] := by
    simp
  have current : queue.pTail = p := by rw [atTail, arranged.atTail]
  rw [if_pos current]
  refine ⟨front ++ [tail], cell, [], ?_, rfl, ?_, ?_,
    fun more => absurd rfl more, forall_moveTo trivial ?_,
    arranged.apart.moveTo_on (.inr rfl), arranged.serves⟩
  · rw [← same]
    exact arranged.cells
  · rw [← same]
    exact arranged.chained
  · rw [← same]
    exact arranged.nodup
  · intro other notThread
    refine (arranged.fits other).moveOn ?_
    intro isNode
    refine absurd (arranged.apart other thread cell.1 isNode ?_) notThread
    rw [hung]
    rfl

/-- The queue once the node behind the head is taken out, with the tail at the
end of the rest. -/
theorem unlink {second : Nat × T} {rest front' : List (Nat × T)}
    {tail' : Nat × T} {pTail : Nat}
    (arranged : queue.Arranged unset (second :: rest) front tail [])
    (quiet : ∀ thread, ¬ (queue.pushes thread).Holding)
    (cells : (queue.pHead, unset) :: rest = front' ++ [tail'])
    (atTail : tail'.1 = pTail) :
    Arranged
      { queue with
        memory := store (store queue.memory queue.pHead
          (some ⟨unset, rest.head?.map Prod.fst⟩)) second.1 none
        pTail
        events := queue.events ++ [.dequeue (some second.2)] }
      unset rest front' tail' [] := by
  have chained := arranged.chained
  have nodup := arranged.nodup
  rw [← arranged.cells] at chained nodup
  have unlinked := chained.unlink nodup
  rw [cells] at unlinked
  rw [List.map_cons, List.map_cons, List.nodup_cons] at nodup
  obtain ⟨notIn, nodup⟩ := nodup
  refine ⟨cells, atTail, unlinked, ?_, fun more => absurd rfl more, ?_,
    arranged.apart, arranged.serves.dequeue⟩
  · rw [← cells, List.map_cons]
    refine List.nodup_cons.mpr ⟨?_, (List.nodup_cons.mp nodup).2⟩
    exact fun isIn => notIn (List.mem_cons_of_mem _ isIn)
  · intro thread
    exact (arranged.fits thread).unlink (quiet thread) arranged.cells cells _

/-- A value is popped while no push holds a tail. -/
theorem pop (arranged : queue.Arranged unset content front tail behind)
    (quiet : ∀ thread, ¬ (queue.pushes thread).Holding) :
    ∃ after content front tail behind, queue.pop = .ok after ∧
      after.Arranged unset content front tail behind := by
  obtain rfl : behind = [] := by
    by_contra more
    obtain ⟨thread, n, p, hung⟩ := arranged.lagging more
    apply quiet thread
    rw [hung]
    trivial
  have chained := arranged.chained
  rw [← arranged.cells] at chained
  cases content with
  | nil =>
      have empty : queue.pop =
          .ok { queue with events := queue.events ++ [.dequeue none] } := by
        simp only [FreeQueue.pop, chained.1, List.head?_nil, Option.map_none]
      exact ⟨_, [], front, tail, [], empty, arranged.cells, arranged.atTail,
        arranged.chained, arranged.nodup, arranged.lagging, arranged.fits,
        arranged.apart, arranged.serves.dequeue⟩
  | cons second rest =>
      have first : queue.memory queue.pHead =
          some ⟨unset, some second.1⟩ := chained.1
      have popped : queue.memory second.1 =
          some ⟨second.2, rest.head?.map Prod.fst⟩ := chained.2.1
      rcases List.eq_nil_or_concat' rest with rfl | ⟨middle, last, rfl⟩
      · -- The popped node was the tail, and the head is the tail again.
        have split : [(queue.pHead, unset)] ++ [second] = front ++ [tail] :=
          arranged.cells
        obtain rfl : second = tail := by
          simpa using (List.append_inj' split rfl).2
        refine ⟨_, [], [], (queue.pHead, unset), [], ?_,
          arranged.unlink quiet rfl rfl⟩
        simp only [FreeQueue.pop, first, popped, List.head?_nil,
          Option.map_none, ← arranged.atTail]
        rfl
      · have split : ((queue.pHead, unset) :: second :: middle) ++ [last] =
            front ++ [tail] := by
          rw [← arranged.cells]
          rfl
        obtain rfl : last = tail := by
          simpa using (List.append_inj' split rfl).2
        refine ⟨_, middle ++ [last], (queue.pHead, unset) :: middle, last, [],
          ?_, arranged.unlink quiet rfl arranged.atTail⟩
        simp only [FreeQueue.pop, first, popped]
        cases middle <;> rfl

end Arranged

/-- A step that is allowed goes well and keeps the queue arranged. -/
theorem Sound.step {queue : FreeQueue T} (sound : queue.Sound)
    (action : FreeQueueAction T) (allowed : queue.Allowed action) :
    ∃ after, queue.step action = .ok after ∧ after.Sound := by
  obtain ⟨unset, content, front, tail, behind, arranged⟩ := sound
  cases action with
  | push thread data address =>
      obtain ⟨idle, free⟩ := allowed
      exact ⟨_, rfl, unset, content, front, tail, behind,
        arranged.push idle free data⟩
  | advance thread =>
      rw [FreeQueue.step, advance]
      split
      · exact ⟨queue, rfl, unset, content, front, tail, behind, arranged⟩
      · rename_i n data made
        exact ⟨_, rfl, unset, content, front, tail, behind,
          arranged.readTail made⟩
      · rename_i n data p read
        have fits := arranged.fits thread
        rw [read] at fits
        obtain ⟨node, found⟩ := arranged.allocated_read fits.2.2
        simp only [found]
        split
        · rename_i last
          exact ⟨_, rfl, unset, arranged.hang read found last⟩
        · exact ⟨_, rfl, unset, content, front, tail, behind,
            arranged.retry read⟩
      · rename_i n p hung
        exact ⟨_, rfl, unset, content, arranged.swing hung⟩
  | pop =>
      obtain ⟨after, content, front, tail, behind, ran, arranged⟩ :=
        arranged.pop allowed
      exact ⟨after, ran, unset, content, front, tail, behind, arranged⟩

/-- The nodes from the head on hold the values, in order. -/
def Contains (queue : FreeQueue T) (values : List T) : Prop :=
  ∃ unset content, Chained queue.memory ((queue.pHead, unset) :: content) ∧
    content.map Prod.snd = values

/-- What a queue of these values keeps to.  Its operations took effect as those
of a queue do, so that every value that was pushed has been popped once, in
order, or is still there.  A thread that has hung its node finds the tail
unmoved, and a thread whose node does not fit behind the tail that it has read
has been overtaken by another one. -/
structure Queues (queue : FreeQueue T) (values : List T) : Prop where
  contains : queue.Contains values
  serves : Serves [] queue.events values
  conserved : enqueued queue.events = dequeued queue.events ++ values
  unmoved : ∀ thread n p, queue.pushes thread = .hung n p → queue.pTail = p
  overtaken : ∀ thread n data p, queue.pushes thread = .read n data p →
    ∃ node, queue.memory p = some node ∧
      (node.next ≠ none →
        p ≠ queue.pTail ∨ ∃ other, (queue.pushes other).Hung)

theorem Arranged.queues {queue : FreeQueue T} {unset : T} {tail : Nat × T}
    {content front behind : List (Nat × T)}
    (arranged : queue.Arranged unset content front tail behind) :
    queue.Queues (content.map Prod.snd) where
  contains := by
    refine ⟨unset, content, ?_, rfl⟩
    rw [arranged.cells]
    exact arranged.chained
  serves := arranged.serves
  conserved := arranged.serves.conservation
  unmoved := by
    intro thread n p hung
    have fits := arranged.fits thread
    rw [hung] at fits
    rw [fits.1, arranged.atTail]
  overtaken := by
    intro thread n data p read
    exact arranged.overtaken read

/-- Any number of threads push at the same time, their steps in any order, and
values are popped where no push holds a tail: no step uses memory that is not
allocated, the last loop of `Pop` ends, and the queue keeps to what a queue
does.  A push may try again as long as a thread that has hung its node has not
moved the tail on. -/
theorem freeQueue_run (address : Nat) (unset : T)
    (actions : List (FreeQueueAction T))
    (allowed : MeetsAlong step Allowed (new address unset) actions) :
    HoldsThroughout step (fun queue => ∃ values, queue.Queues values)
      (new address unset) actions := by
  have sound : HoldsThroughout step Sound (new address unset) actions :=
    holdsThroughout_of_meetsAlong (fun _ action holds met =>
      holds.step action met) (new_sound address unset) allowed
  apply sound.imp
  rintro queue ⟨unset, content, front, tail, behind, arranged⟩
  exact ⟨content.map Prod.snd, arranged.queues⟩

/-- Two threads push at the same time, one of them has to read the tail again,
and a value is popped. -/
theorem freeQueue_run_twoThreads :
    HoldsThroughout step (fun queue => ∃ values, queue.Queues values)
      (new 1 0)
      [.push 1 10 2, .push 2 20 3, .advance 1, .advance 2, .advance 1,
        .advance 2, .advance 1, .advance 2, .advance 2, .advance 2, .pop] := by
  apply freeQueue_run
  iterate 2
    refine ⟨⟨rfl, rfl⟩, ?_⟩
    rintro _ ⟨⟩
  iterate 8
    refine ⟨trivial, ?_⟩
    rintro _ ⟨⟩
  refine ⟨?_, fun _ _ => trivial⟩
  intro thread
  by_cases first : thread = 1 <;> by_cases second : thread = 2 <;>
    simp [moveTo, new, PushPoint.Holding, first, second]

end FreeQueue

end EchoServer
