import EchoServer.ServerDescriptors

/-!
# Calls of `accept` that fail

`acceptCallback` keeps the result of `accept` as an unsigned number, so that
the `-1` of a failed call is taken for a descriptor and handed to an IO
thread.  Only at the limit on connections does a failed call end without an
effect.
-/

namespace EchoServer

open LabelledRun

namespace ServerState

variable {state next : ServerState}

/-- `accept` fails only at the limit on connections. -/
def FailsAtLimit (state : ServerState) : ServerAction → Prop
  | .acceptCallback result =>
      result < 0 → state.nMaxSockets ≤ state.nNowSocketCount
  | _ => True

/-- A call of `accept` that succeeds returns a descriptor not in use. -/
def OpensUnused (state : ServerState) : ServerAction → Prop
  | .acceptCallback result =>
      0 ≤ result → ¬ state.DescriptorInUse (UInt64.ofInt result)
  | _ => True

/-- The queues of the threads, the cursor, the counter, and the agents are as
before. -/
structure SameBooks (state next : ServerState) : Prop where
  packList : next.packList = state.packList
  ioThreads : next.ioThreads = state.ioThreads
  nCurrentThread : next.nCurrentThread = state.nCurrentThread
  nNowSocketCount : next.nNowSocketCount = state.nNowSocketCount
  mapAgents : next.mapAgents = state.mapAgents

/-- A failed call of `accept` has no effect. -/
def FailsWithoutEffect (state : ServerState) : ServerAction → Prop
  | .acceptCallback result =>
      result < 0 → SameBooks state (state.acceptCallback result)
  | _ => True

/-- The descriptors that `accept` has returned. -/
def Returned (actions : List ServerAction) (fd : UInt64) : Prop :=
  ∃ result, 0 ≤ result ∧ .acceptCallback result ∈ actions ∧
    fd = UInt64.ofInt result

/-- Agents are registered under descriptors that `accept` has returned, and
different live sockets have different ones. -/
structure ProperKeys (actions : List ServerAction) (state : ServerState) :
    Prop where
  returned : ∀ fd agent, state.mapAgents[fd]? = some agent →
    Returned actions fd
  distinct : ∀ first second firstObject secondObject,
    state.Alive first firstObject → state.Alive second secondObject →
      first ≠ second → firstObject.fd ≠ secondObject.fd

/-- Every descriptor of a socket, or of a connection that gets one, has some
property. -/
structure Descriptors (known : UInt64 → Prop) (state : ServerState) :
    Prop where
  sockets : ∀ object ∈ state.sockets, known object.fd
  queued : ∀ thread fd, .accept fd ∈ (state.ioThreads thread).packList →
    known fd

section Descriptors

variable {known : UInt64 → Prop}

theorem Descriptors.frame (descriptors : Descriptors known state)
    (sockets : ∀ object ∈ next.sockets,
      ∃ before ∈ state.sockets, before.fd = object.fd)
    (queues : ∀ thread fd, .accept fd ∈ (next.ioThreads thread).packList →
      .accept fd ∈ (state.ioThreads thread).packList) :
    Descriptors known next where
  sockets object member := by
    obtain ⟨before, was, fd⟩ := sockets object member
    exact fd ▸ descriptors.sockets before was
  queued thread fd waits :=
    descriptors.queued thread fd (queues thread fd waits)

/-- No socket comes to the list. -/
theorem Descriptors.same (descriptors : Descriptors known state)
    (sockets : next.sockets = state.sockets)
    (queues : ∀ thread fd, .accept fd ∈ (next.ioThreads thread).packList →
      .accept fd ∈ (state.ioThreads thread).packList) :
    Descriptors known next :=
  descriptors.frame (fun object member => ⟨object, sockets ▸ member, rfl⟩)
    queues

theorem Descriptors.queue (descriptors : Descriptors known state)
    {thread : Nat} {package : IOPackage}
    (packageKnown : ∀ fd, package = .accept fd → known fd) :
    Descriptors known (state.queueIOThread thread package) where
  sockets := descriptors.sockets
  queued other fd waits := by
    rcases mem_queueIOThread.mp waits with before | ⟨-, isPackage⟩
    · exact descriptors.queued other fd before
    · exact packageKnown fd isPackage.symm

theorem Descriptors.pop (descriptors : Descriptors known state)
    {thread : Nat} {ioThread : IOThread}
    (shrinks : ioThread.packList ⊆ (state.ioThreads thread).packList) :
    Descriptors known (state.setIOThread thread ioThread) :=
  descriptors.same rfl fun _ _ => mem_setIOThread shrinks

/-- A socket changes, but not its descriptor. -/
theorem Descriptors.set (descriptors : Descriptors known state)
    {socket : Nat} {object changed : SocketObject}
    (alive : state.Alive socket object) (fd : changed.fd = object.fd)
    (sockets : next.sockets = state.sockets.set socket changed)
    (queues : next.ioThreads = state.ioThreads) :
    Descriptors known next := by
  refine descriptors.frame ?_ (by simp [queues])
  intro other member
  rw [sockets] at member
  rcases List.mem_or_eq_of_mem_set member with before | rfl
  · exact ⟨other, before, rfl⟩
  · exact ⟨object, List.mem_of_getElem? alive.1, fd.symm⟩

theorem Sends.descriptors (sends : Sends state next)
    (descriptors : Descriptors known state) : Descriptors known next := by
  refine sends.preserves ?_ descriptors
  intro state fd agent object target buf descriptors _ _
  exact descriptors.queue nofun

theorem Descriptors.transition (descriptors : Descriptors known state)
    {action : ServerAction}
    (opens : ∀ result, action = .acceptCallback result →
      known (UInt64.ofInt result))
    (transition : Transition state action next) : Descriptors known next := by
  cases transition with
  | idle => exact descriptors
  | acceptQueued result cursor =>
      have queued : Descriptors known (state.queueIOThread
          state.nCurrentThread (.accept (UInt64.ofInt result))) := by
        apply descriptors.queue
        rintro fd isAccept
        cases isAccept
        exact opens result rfl
      exact queued.same rfl fun _ _ => id
  | sent _ sends => exact sends.descriptors descriptors
  | accepted _ _ _ _ _ sends =>
      exact sends.descriptors (descriptors.same rfl fun _ _ => id)
  | acceptRefused => exact descriptors.same rfl fun _ _ => id
  | received _ _ _ _ _ _ sends =>
      have answered := sends.descriptors
        (descriptors.same rfl fun _ _ => id)
      exact answered.same rfl fun _ _ => id
  | closed _ _ _ _ _ _ sends =>
      have answered := sends.descriptors
        (descriptors.same rfl fun _ _ => id)
      apply Descriptors.queue
      · exact answered.same rfl fun _ _ => id
      · exact nofun
  | closedAgain =>
      apply Descriptors.queue
      · exact descriptors.same rfl fun _ _ => id
      · exact nofun
  | @ioAccepted packList thread fd created expanded head =>
      have popped : Descriptors known (state.setIOThread thread
          { state.ioThreads thread with packList }) :=
        descriptors.pop (head ▸ List.subset_cons_self _ _)
      cases created with
      | false => exact popped
      | true =>
          refine ⟨?_, popped.queued⟩
          intro object member
          rcases List.mem_append.mp member with before | new
          · exact descriptors.sockets object before
          · obtain rfl := List.mem_singleton.mp new
            exact descriptors.queued thread fd (head ▸ List.mem_cons_self)
  | @ioSent packList thread _ _ _ needSendList _ _ head =>
      have popped : Descriptors known
          (state.setIOThread thread { packList, needSendList }) :=
        descriptors.pop (head ▸ List.subset_cons_self _ _)
      exact popped.same rfl fun _ _ => id
  | @ioClosed packList thread socket object _ _ head alive =>
      have popped : Descriptors known (state.setIOThread thread
          { state.ioThreads thread with packList }) :=
        descriptors.pop (head ▸ List.subset_cons_self _ _)
      have sameFd : { object with destroyed := true }.fd = object.fd := rfl
      have destroyed : Descriptors known
          { state with
            sockets :=
              state.sockets.set socket { object with destroyed := true } } :=
        descriptors.set alive sameFd rfl rfl
      exact ⟨destroyed.sockets, popped.queued⟩
  | flushed => exact descriptors.pop (List.Subset.refl _)
  | packetQueued => exact descriptors.same rfl fun _ _ => id
  | lossReported side alive =>
      exact descriptors.set alive (report_keeps _ side).fd rfl rfl

end Descriptors

/-- Every agent is registered under the descriptor of a socket. -/
theorem Descriptors.keys {known : UInt64 → Prop}
    (descriptors : Descriptors known state)
    (registrations : AgentsRegistered state) {fd : UInt64} {agent : Nat}
    (registered : state.mapAgents[fd]? = some agent) : known fd := by
  obtain ⟨object, target, -, found, rfl⟩ := registrations fd agent registered
  exact descriptors.sockets target (List.mem_of_getElem? found)

/-- What the steps of a run preserve whose calls of `accept` fail at the limit
only. -/
structure Conforming (actions : List ServerAction) (state : ServerState) :
    Prop where
  registrations : AgentsRegistered state
  distinct : DistinctDescriptors state
  descriptors : Descriptors (Returned actions) state

theorem Conforming.properKeys {actions : List ServerAction}
    (conforming : Conforming actions state) : ProperKeys actions state where
  returned _ _ := conforming.descriptors.keys conforming.registrations
  distinct first second firstObject secondObject firstAlive secondAlive
      different fds :=
    different (conforming.distinct.alive first second firstObject
      secondObject firstAlive secondAlive fds)

theorem acceptCallback_atLimit {result : Int}
    (limit : state.nMaxSockets ≤ state.nNowSocketCount) :
    state.acceptCallback result = state := by
  simp only [acceptCallback, limit, ge_iff_le, if_true, ite_self]

/-- Below the limit any result of `accept` is queued. -/
theorem acceptCallback_queues (result : Int)
    (room : state.nNowSocketCount < state.nMaxSockets) :
    (state.acceptCallback result).ioThreads =
      (state.queueIOThread state.nCurrentThread
        (.accept (UInt64.ofInt result))).ioThreads := by
  have notNegative : ¬ UInt64.ofInt result < 0 := UInt64.not_lt_zero
  simp only [acceptCallback, notNegative, if_false,
    Int.not_le.mpr room, ge_iff_le]

/-- A failed call has no effect exactly at the limit. -/
theorem failsWithoutEffect_iff (action : ServerAction) :
    FailsWithoutEffect state action ↔ FailsAtLimit state action := by
  cases action with
  | acceptCallback result =>
      constructor
      · intro unaffected failed
        by_contra room
        have queues := acceptCallback_queues result (Int.not_le.mp room)
        rw [(unaffected failed).ioThreads] at queues
        have longer := congrArg
          (fun threads => (threads state.nCurrentThread).packList.length)
          queues
        simp [queueIOThread_ioThreads] at longer
      · intro atLimit failed
        rw [acceptCallback_atLimit (atLimit failed)]
        exact ⟨rfl, rfl, rfl, rfl, rfl⟩
  | _ => exact Iff.rfl

theorem Conforming.step {actions : List ServerAction}
    (conforming : Conforming actions state) {host : ByteOrder.Host}
    {action : ServerAction} (member : action ∈ actions)
    (opens : OpensUnused state action) (fails : FailsAtLimit state action)
    (ran : state.step host action = .ok next) : Conforming actions next := by
  have transition := step_transition ran
  have registrations := conforming.registrations.transition transition
  by_cases failed : ∃ result, action = .acceptCallback result ∧ result < 0
  · obtain ⟨result, rfl, negative⟩ := failed
    have same : state.acceptCallback result = state :=
      acceptCallback_atLimit (fails negative)
    obtain rfl : state = next := same.symm.trans (Except.ok.inj ran)
    exact conforming
  · have succeeds : ∀ result, action = .acceptCallback result →
        0 ≤ result :=
      fun result called => Int.not_lt.mp fun negative =>
        failed ⟨result, called, negative⟩
    refine ⟨registrations, ?_, ?_⟩
    · refine conforming.distinct.transition ?_ transition
      cases action with
      | acceptCallback result => exact opens (succeeds result rfl)
      | _ => trivial
    · refine conforming.descriptors.transition ?_ transition
      rintro result rfl
      exact ⟨result, succeeds result rfl, member, rfl⟩

theorem initial_conforming (actions : List ServerAction) (nMaxSockets : Int)
    (nThreadCount : Nat) :
    Conforming actions (initial nMaxSockets nThreadCount) where
  registrations := initial_agentsRegistered nMaxSockets nThreadCount
  distinct := initial_distinctDescriptors nMaxSockets nThreadCount
  descriptors := ⟨by simp [initial], by simp [initial]⟩

/-- No failed call of `accept` in a run has an effect, and in every state that
the run comes to the agents have proper keys. -/
structure FailuresHarmless (host : ByteOrder.Host) (state : ServerState)
    (actions : List ServerAction) : Prop where
  noEffect : MeetsAlong (step host) FailsWithoutEffect state actions
  keys : ∀ first second reached, actions = first ++ second →
    runActions (step host) state first = .ok reached →
      ProperKeys first reached

/-- Where the calls of `accept` that succeed return unused descriptors, those
that fail are harmless if and only if they come at the limit only. -/
theorem serverFailedAccept_iff (host : ByteOrder.Host) (nMaxSockets : Int)
    (nThreadCount : Nat) {actions : List ServerAction}
    (opens : MeetsAlong (step host) OpensUnused
      (initial nMaxSockets nThreadCount) actions) :
    FailuresHarmless host (initial nMaxSockets nThreadCount) actions ↔
      MeetsAlong (step host) FailsAtLimit (initial nMaxSockets nThreadCount)
        actions := by
  constructor
  · intro harmless
    exact harmless.noEffect.imp fun _ action =>
      (failsWithoutEffect_iff action).mp
  · intro fails
    refine ⟨fails.imp fun _ action => (failsWithoutEffect_iff action).mpr, ?_⟩
    rintro first second reached rfl ran
    have named : MeetsAlong (step host) (fun _ action => action ∈ first)
        (initial nMaxSockets nThreadCount) first :=
      meetsAlong_of_forall fun action member _ => member
    have meets := (meetsAlong_append opens ran).1.and
      ((meetsAlong_append fails ran).1.and named)
    refine (invariant_of_meetsAlong ?_
      (initial_conforming first nMaxSockets nThreadCount) meets
      ran).properKeys
    rintro state action next conforming ⟨opens, fails, member⟩ stepped
    exact conforming.step member opens fails stepped

instance decidableFailsAtLimit (state : ServerState) :
    ∀ action, Decidable (FailsAtLimit state action)
  | .acceptCallback result =>
      inferInstanceAs (Decidable
        (result < 0 → state.nMaxSockets ≤ state.nNowSocketCount))
  | .pairCallback _ _ => isTrue trivial
  | .logic _ => isTrue trivial
  | .ioPairCallback _ _ _ => isTrue trivial
  | .ioFlush _ => isTrue trivial
  | .readCallback _ _ => isTrue trivial
  | .eventCallback _ _ => isTrue trivial

/-- A server with one place, and a call of `accept` that fails once it is
taken. -/
theorem serverFailedAccept_atLimit :
    FailuresHarmless .little (initial 1 1)
      (opened ++ [.acceptCallback (-1)]) := by
  refine (serverFailedAccept_iff .little 1 1 ?_).mpr (by decide +kernel)
  refine ⟨?_, fun _ _ => meetsAlong_of_forall ?_⟩
  · rintro - (⟨socket, object, alive, -⟩ | ⟨thread, waits⟩)
    · simp [Alive, initial] at alive
    · simp [initial] at waits
  · simp [OpensUnused]

/-- Two calls of `accept` that fail while there is room. -/
def acceptFailsTwice : List ServerAction :=
  [.acceptCallback (-1), .acceptCallback (-1), .ioPairCallback 0 true true,
    .ioPairCallback 0 true true, .pairCallback 0 []]

/-- Each of them makes a socket with the descriptor `-1`, and the first an
agent. -/
theorem serverFailedAccept_failsTwice :
    ¬ FailuresHarmless .little (initial 10 1) acceptFailsTwice := by
  intro harmless
  have phantom : (match runActions (step .little) (initial 10 1)
        acceptFailsTwice with
      | .ok final => final.mapAgents[UInt64.ofInt (-1)]?
      | .error _ => none) = some 0 := by
    decide +kernel
  cases ran : runActions (step .little) (initial 10 1) acceptFailsTwice with
  | error fault => simp [ran] at phantom
  | ok final =>
      simp only [ran] at phantom
      have keys := harmless.keys acceptFailsTwice [] final (by simp) ran
      obtain ⟨result, notNegative, called, -⟩ := keys.returned _ _ phantom
      simp [acceptFailsTwice] at called
      omega

end ServerState

end EchoServer
