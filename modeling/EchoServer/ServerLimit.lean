import EchoServer.ServerRegistration
import Mathlib.Algebra.BigOperators.Intervals

/-!
# The limit on connections

`acceptCallback` compares the limit with the number of connections that the
main thread has counted.  A connection is counted only when its socket comes
back from an IO thread, so any number of others can be accepted before.  The
limit holds if `acceptCallback` lets a connection pass only where those on
their way leave room for it.
-/

namespace EchoServer

open LabelledRun

def MainPackage.isAccept : MainPackage → Bool
  | accept _ => true
  | _ => false

def IOPackage.isAccept : IOPackage → Bool
  | accept _ => true
  | _ => false

namespace ServerState

variable {state next : ServerState}

/-- The connections for which an IO thread has still to create a socket. -/
def waiting (state : ServerState) (thread : Nat) : Nat :=
  (state.ioThreads thread).packList.countP IOPackage.isAccept

/-- The sockets for which the main thread has still to create an agent. -/
def arriving (state : ServerState) : Nat :=
  state.packList.countP MainPackage.isAccept

/-- The connections accepted that have not come back yet. -/
def onTheWay (state : ServerState) : Nat :=
  state.arriving +
    ∑ thread ∈ Finset.range state.nThreadCount, state.waiting thread

/-- `acceptCallback` lets a connection pass only where there is room for it
besides those on their way. -/
def AcceptsWithRoom (state : ServerState) : ServerAction → Prop
  | .acceptCallback _ =>
      state.nNowSocketCount < state.nMaxSockets →
        (state.mapAgents.size + state.onTheWay : Int) < state.nMaxSockets
  | _ => True

/-- The agents, and the connections that may still get one, keep the limit. -/
structure WithinLimit (state : ServerState) : Prop where
  room : (state.mapAgents.size + state.onTheWay : Int) ≤ state.nMaxSockets
  cursor : state.nCurrentThread < state.nThreadCount
  unused : ∀ thread, state.nThreadCount ≤ thread → state.waiting thread = 0

theorem waiting_setIOThread (thread : Nat) (ioThread : IOThread) :
    (state.setIOThread thread ioThread).waiting =
      Function.update state.waiting thread
        (ioThread.packList.countP IOPackage.isAccept) := by
  funext other
  simp only [waiting, setIOThread, Function.update_apply]
  split_ifs <;> rfl

/-- One queue changes. -/
theorem onTheWay_setIOThread {thread : Nat}
    (inRange : thread < state.nThreadCount) (ioThread : IOThread) :
    (state.setIOThread thread ioThread).onTheWay + state.waiting thread =
      state.onTheWay + ioThread.packList.countP IOPackage.isAccept := by
  have member := Finset.mem_range.mpr inRange
  have others := Finset.add_sum_erase _ state.waiting member
  rw [onTheWay, waiting_setIOThread, onTheWay]
  simp only [setIOThread, arriving]
  rw [Finset.sum_update_of_mem member, Finset.sdiff_singleton_eq_erase]
  omega

/-- A package other than `accept` goes into a queue or out of it. -/
theorem waiting_setIOThread_same {thread : Nat} {ioThread : IOThread}
    (same : ioThread.packList.countP IOPackage.isAccept =
      state.waiting thread) :
    (state.setIOThread thread ioThread).waiting = state.waiting := by
  rw [waiting_setIOThread, same, Function.update_eq_self]

theorem waiting_queueIOThread {thread : Nat} {package : IOPackage}
    (other : package.isAccept = false) :
    (state.queueIOThread thread package).waiting = state.waiting := by
  apply waiting_setIOThread_same
  simp [waiting, other]

theorem waiting_pop {thread : Nat} {package : IOPackage}
    {packList : List IOPackage} {needSendList : List Nat}
    (head : (state.ioThreads thread).packList = package :: packList)
    (other : package.isAccept = false) :
    (state.setIOThread thread { packList, needSendList }).waiting =
      state.waiting := by
  apply waiting_setIOThread_same
  simp [waiting, head, other]

theorem arriving_pop {package : MainPackage} {packList : List MainPackage}
    (head : state.packList = package :: packList) :
    state.arriving = packList.countP MainPackage.isAccept +
      if package.isAccept then 1 else 0 := by
  rw [arriving, head, List.countP_cons]

theorem arriving_pop_le {package : MainPackage}
    {packList : List MainPackage}
    (head : state.packList = package :: packList) :
    packList.countP MainPackage.isAccept ≤ state.arriving := by
  rw [arriving_pop head]
  exact Nat.le_add_right _ _

theorem arriving_queueMain {package : MainPackage}
    (other : package.isAccept = false) :
    (state.queueMain package).arriving ≤ state.arriving := by
  simp [arriving, queueMain, other]

theorem WithinLimit.frame (within : WithinLimit state)
    (limit : next.nMaxSockets = state.nMaxSockets)
    (threads : next.nThreadCount = state.nThreadCount)
    (cursor : next.nCurrentThread = state.nCurrentThread)
    (waiting : next.waiting = state.waiting)
    (fewer : next.mapAgents.size + next.arriving ≤
      state.mapAgents.size + state.arriving) : WithinLimit next where
  room := by
    have room := within.room
    simp only [onTheWay] at room ⊢
    rw [limit, threads, waiting]
    omega
  cursor := by
    rw [cursor, threads]
    exact within.cursor
  unused := by
    rw [threads, waiting]
    exact within.unused

theorem size_insert_le (map : Std.TreeMap UInt64 Nat) (fd : UInt64)
    (agent : Nat) : (map.insert fd agent).size ≤ map.size + 1 :=
  Std.TreeMap.size_insert_le

theorem size_erase_le (map : Std.TreeMap UInt64 Nat) (fd : UInt64) :
    (map.erase fd).size ≤ map.size :=
  Std.TreeMap.size_erase_le

/-- A connection that finds room is on its way. -/
theorem WithinLimit.queueAccept (within : WithinLimit state) (fd : UInt64)
    {cursor : Nat} (inRange : cursor < state.nThreadCount)
    (free : (state.mapAgents.size + state.onTheWay : Int) <
      state.nMaxSockets) :
    WithinLimit
      { state.queueIOThread state.nCurrentThread (.accept fd) with
        nCurrentThread := cursor } where
  room := by
    have grown := onTheWay_setIOThread within.cursor
      { state.ioThreads state.nCurrentThread with
        packList :=
          (state.ioThreads state.nCurrentThread).packList ++ [.accept fd] }
    rw [List.countP_append] at grown
    simp only [onTheWay, arriving, waiting, setIOThread, queueIOThread,
      List.countP_singleton, IOPackage.isAccept, if_true] at grown free ⊢
    omega
  cursor := inRange
  unused thread beyond := by
    have other : thread ≠ state.nCurrentThread :=
      Nat.ne_of_gt (Nat.lt_of_lt_of_le within.cursor beyond)
    have same : (state.queueIOThread state.nCurrentThread
        (.accept fd)).waiting thread = state.waiting thread := by
      rw [queueIOThread, waiting_setIOThread, Function.update_of_ne other]
    exact same.trans (within.unused thread beyond)

theorem WithinLimit.acceptCallback (within : WithinLimit state)
    {result : Int}
    (withRoom : AcceptsWithRoom state (.acceptCallback result)) :
    WithinLimit (state.acceptCallback result) := by
  unfold ServerState.acceptCallback
  simp only
  split_ifs with negative full wraps
  · exact within
  · exact within
  · exact within.queueAccept _ (Nat.zero_lt_of_lt within.cursor)
      (withRoom (Int.not_le.mp full))
  · exact within.queueAccept _ (Nat.not_le.mp wraps)
      (withRoom (Int.not_le.mp full))

/-- An IO thread takes an accepted connection and passes it on, or not. -/
theorem WithinLimit.ioAccept (within : WithinLimit state) {thread : Nat}
    {fd : UInt64} {packList : List IOPackage}
    (head : (state.ioThreads thread).packList = .accept fd :: packList)
    (created : Bool) :
    WithinLimit
      (ServerState.ioAccept thread fd created
        (state.setIOThread thread
          { state.ioThreads thread with packList })) := by
  have waits : state.waiting thread =
      packList.countP IOPackage.isAccept + 1 := by
    rw [waiting, head, List.countP_cons]
    rfl
  have inRange : thread < state.nThreadCount := by
    by_contra beyond
    have none := within.unused thread (Nat.not_lt.mp beyond)
    omega
  have fewer := onTheWay_setIOThread inRange
    { state.ioThreads thread with packList }
  have unused : ∀ other, state.nThreadCount ≤ other →
      (state.setIOThread thread
        { state.ioThreads thread with packList }).waiting other = 0 := by
    intro other beyond
    have different : other ≠ thread :=
      Nat.ne_of_gt (Nat.lt_of_lt_of_le inRange beyond)
    rw [waiting_setIOThread, Function.update_of_ne different]
    exact within.unused other beyond
  have room := within.room
  cases created with
  | false =>
      refine ⟨?_, within.cursor, unused⟩
      simp only [ServerState.ioAccept, Bool.false_eq_true, if_false]
      simp only [onTheWay, arriving, waiting, setIOThread]
        at fewer waits room ⊢
      omega
  | true =>
      refine ⟨?_, within.cursor, unused⟩
      simp only [ServerState.ioAccept, if_true]
      simp only [onTheWay, arriving, waiting, setIOThread, queueMain,
        List.countP_append, List.countP_singleton, MainPackage.isAccept,
        if_true] at fewer waits room ⊢
      omega

theorem Sends.withinLimit (sends : Sends state next)
    (within : WithinLimit state) : WithinLimit next := by
  refine sends.preserves ?_ within
  intro state fd agent object target buf within _ _
  exact within.frame rfl rfl rfl (waiting_queueIOThread rfl) (Nat.le_refl _)

theorem WithinLimit.step (within : WithinLimit state) {host : ByteOrder.Host}
    {action : ServerAction} (withRoom : AcceptsWithRoom state action)
    (ran : state.step host action = .ok next) : WithinLimit next := by
  have transition := step_transition ran
  cases transition with
  | idle => exact within
  | acceptQueued =>
      exact Except.ok.inj ran ▸ within.acceptCallback withRoom
  | sent _ sends => exact sends.withinLimit within
  | @accepted _ packList socket object _ _ head _ _ sends =>
      apply sends.withinLimit
      refine within.frame rfl rfl rfl rfl ?_
      have popped : state.arriving =
          packList.countP MainPackage.isAccept + 1 := arriving_pop head
      have grown := size_insert_le state.mapAgents object.fd
        state.agents.length
      calc
        _ ≤ state.mapAgents.size + 1 + packList.countP MainPackage.isAccept :=
          Nat.add_le_add_right grown _
        _ = state.mapAgents.size + state.arriving := by omega
  | acceptRefused _ _ head =>
      exact within.frame rfl rfl rfl rfl
        (Nat.add_le_add_left (arriving_pop_le head) _)
  | received _ _ head _ _ _ sends =>
      have answered := sends.withinLimit (within.frame rfl rfl rfl rfl
        (Nat.add_le_add_left (arriving_pop_le head) _))
      exact answered.frame rfl rfl rfl rfl (Nat.le_refl _)
  | closed _ _ head _ _ _ sends =>
      have answered := sends.withinLimit (within.frame rfl rfl rfl rfl
        (Nat.add_le_add_left (arriving_pop_le head) _))
      exact answered.frame rfl rfl rfl (waiting_queueIOThread rfl)
        (Nat.add_le_add_right (size_erase_le _ _) _)
  | closedAgain _ _ head =>
      exact within.frame rfl rfl rfl (waiting_queueIOThread rfl)
        (Nat.add_le_add_left (arriving_pop_le head) _)
  | ioAccepted created _ head => exact within.ioAccept head created
  | ioSent _ _ head =>
      exact within.frame rfl rfl rfl (waiting_pop head rfl) (Nat.le_refl _)
  | ioClosed _ _ head =>
      exact within.frame rfl rfl rfl (waiting_pop head rfl) (Nat.le_refl _)
  | flushed =>
      exact within.frame rfl rfl rfl (waiting_setIOThread_same rfl)
        (Nat.le_refl _)
  | packetQueued =>
      exact within.frame rfl rfl rfl rfl
        (Nat.add_le_add_left (arriving_queueMain rfl) _)
  | lossReported =>
      exact within.frame rfl rfl rfl rfl
        (Nat.add_le_add_left (arriving_queueMain rfl) _)

theorem initial_withinLimit {nMaxSockets : Int} {nThreadCount : Nat}
    (limit : 1 ≤ nMaxSockets) (threads : 0 < nThreadCount) :
    WithinLimit (initial nMaxSockets nThreadCount) where
  room := by
    simp [initial, onTheWay, arriving, waiting]
    omega
  cursor := threads
  unused _ _ := rfl

/-- No more agents are registered than connections are allowed. -/
def KeepsLimit (state : ServerState) : Prop :=
  (state.mapAgents.size : Int) ≤ state.nMaxSockets

/-- Where `acceptCallback` lets a connection pass only while the agents and
the connections on their way leave room for it, there are never more agents
than the limit allows. -/
theorem serverLimit (host : ByteOrder.Host) {nMaxSockets : Int}
    {nThreadCount : Nat} (limit : 1 ≤ nMaxSockets)
    (threads : 0 < nThreadCount) {actions : List ServerAction}
    (meets : MeetsAlong (step host) AcceptsWithRoom
      (initial nMaxSockets nThreadCount) actions) :
    HoldsWhereReached (step host) KeepsLimit
      (initial nMaxSockets nThreadCount) actions := by
  refine holdsWhereReached_of_meetsAlong ?_ ?_
    (initial_withinLimit limit threads) meets
  · intro state action next within withRoom stepped
    exact within.step withRoom stepped
  · intro state within
    have room := within.room
    unfold KeepsLimit
    omega

instance decidableAcceptsWithRoom (state : ServerState) :
    ∀ action, Decidable (AcceptsWithRoom state action)
  | .acceptCallback _ =>
      inferInstanceAs (Decidable (state.nNowSocketCount < state.nMaxSockets →
        (state.mapAgents.size + state.onTheWay : Int) < state.nMaxSockets))
  | .pairCallback _ _ => isTrue trivial
  | .logic _ => isTrue trivial
  | .ioPairCallback _ _ _ => isTrue trivial
  | .ioFlush _ => isTrue trivial
  | .readCallback _ _ => isTrue trivial
  | .eventCallback _ _ => isTrue trivial

/-- A server with one place that is offered a second connection after the
first has its agent. -/
theorem serverLimit_refused :
    HoldsWhereReached (step .little) KeepsLimit (initial 1 1)
      (opened ++ [.acceptCallback 8]) :=
  serverLimit .little (by decide) (by decide) (by decide +kernel)

/-- Two connections that are accepted before the first comes back. -/
def acceptedTogether : List ServerAction :=
  [.acceptCallback 7, .acceptCallback 8, .ioPairCallback 0 true true,
    .ioPairCallback 0 true true, .pairCallback 0 [], .pairCallback 0 []]

/-- A server with one place gives both of them an agent. -/
theorem serverLimit_acceptedTogether :
    ¬ HoldsWhereReached (step .little) KeepsLimit (initial 1 1)
      acceptedTogether := by
  intro holds
  have exceeds : (match runActions (step .little) (initial 1 1)
        acceptedTogether with
      | .ok final => decide ((final.mapAgents.size : Int) ≤ final.nMaxSockets)
      | .error _ => true) = false := by
    decide +kernel
  cases ran : runActions (step .little) (initial 1 1) acceptedTogether with
  | error fault => simp [ran] at exceeds
  | ok final =>
      have keeps := holds acceptedTogether [] final (by simp) ran
      rw [KeepsLimit] at keeps
      simp [ran, keeps] at exceeds

end ServerState

end EchoServer
