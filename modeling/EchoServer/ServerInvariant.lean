import EchoServer.ServerRegistration

/-!
# An invariant of every run of the server

Sockets are created together with their `accept` package, closed by way of
their IO thread's queue, and destroyed when the IO thread takes the `close`
package there.  Whatever the threads do and whatever descriptors `accept`
returns, the socket of a registered agent is alive and no close of it is under
way, so the main thread may use it.
-/

namespace EchoServer

namespace ServerState

variable {state next : ServerState}

/-- A `close` package for a socket waits in the queue of an IO thread. -/
def Closing (state : ServerState) (socket : Nat) : Prop :=
  ∃ thread, IOPackage.close socket ∈ (state.ioThreads thread).packList

/-- A socket that is alive and not about to be destroyed. -/
def Open (state : ServerState) (socket : Nat) : Prop :=
  (∃ object, state.Alive socket object) ∧ ¬ state.Closing socket

theorem queueIOThread_ioThreads (thread other : Nat) (package : IOPackage)
    (state : ServerState) :
    (state.queueIOThread thread package).ioThreads other =
      if other = thread then
        { state.ioThreads thread with
          packList := (state.ioThreads thread).packList ++ [package] }
      else state.ioThreads other := by
  simp [queueIOThread, setIOThread, Function.update_apply]

theorem mem_queueIOThread {thread other : Nat} {package queued : IOPackage} :
    queued ∈ ((state.queueIOThread thread package).ioThreads other).packList ↔
      queued ∈ (state.ioThreads other).packList ∨
        other = thread ∧ queued = package := by
  rw [queueIOThread_ioThreads]
  split_ifs with same
  · simp [same]
  · simp [same]

theorem closing_queueIOThread {thread socket : Nat} {package : IOPackage} :
    (state.queueIOThread thread package).Closing socket ↔
      state.Closing socket ∨ package = .close socket := by
  simp only [Closing, mem_queueIOThread]
  constructor
  · rintro ⟨other, waits | ⟨-, queued⟩⟩
    · exact .inl ⟨other, waits⟩
    · exact .inr queued.symm
  · rintro (⟨other, waits⟩ | queued)
    · exact ⟨other, .inl waits⟩
    · exact ⟨thread, .inr ⟨rfl, queued.symm⟩⟩

/-- What waits in a queue after a package has been taken waited before. -/
theorem mem_setIOThread {thread other : Nat} {ioThread : IOThread}
    {queued : IOPackage}
    (shrinks : ioThread.packList ⊆ (state.ioThreads thread).packList)
    (waits : queued ∈
      ((state.setIOThread thread ioThread).ioThreads other).packList) :
    queued ∈ (state.ioThreads other).packList := by
  simp only [setIOThread, Function.update_apply] at waits
  split_ifs at waits with same
  · subst same
    exact shrinks waits
  · exact waits

theorem closing_setIOThread {thread socket : Nat} {ioThread : IOThread}
    (shrinks : ioThread.packList ⊆ (state.ioThreads thread).packList)
    (closing : (state.setIOThread thread ioThread).Closing socket) :
    state.Closing socket := by
  obtain ⟨other, waits⟩ := closing
  exact ⟨other, mem_setIOThread shrinks waits⟩

theorem Sends.closing {socket : Nat} (sends : Sends state next) :
    next.Closing socket ↔ state.Closing socket := by
  induction sends with
  | done => rfl
  | send buf registered alive rest ih =>
      rw [ih, closing_queueIOThread]
      simp

/-- The main thread takes a `close` package for a socket, and leaves no agent
under the socket's descriptor. -/
def TakesClose (state next : ServerState) (socket : Nat) : Prop :=
  state.packList = .close socket :: next.packList ∧
    ∀ object, state.Alive socket object → next.mapAgents[object.fd]? = none

/-- A close comes to the queue of an IO thread from the main thread only. -/
theorem Transition.closing {action : ServerAction} {socket : Nat}
    (transition : Transition state action next)
    (registrations : AgentsRegistered state)
    (closing : next.Closing socket) :
    state.Closing socket ∨ TakesClose state next socket := by
  cases transition with
  | idle => exact .inl closing
  | acceptQueued _ cursor =>
      have queued : (state.queueIOThread state.nCurrentThread
          (.accept (UInt64.ofInt _))).Closing socket := closing
      rw [closing_queueIOThread] at queued
      exact .inl (by simpa using queued)
  | sent _ sends => exact .inl (sends.closing.mp closing)
  | accepted _ _ _ _ _ sends => exact .inl (sends.closing.mp closing)
  | acceptRefused => exact .inl closing
  | received _ _ _ _ _ _ sends => exact .inl (sends.closing.mp closing)
  | @closed middle _ _ agent _ target agentObject _ _ head alive registered
      targetAlive sends =>
      obtain waits | queued := closing_queueIOThread.mp closing
      · exact .inl (sends.closing.mp waits)
      · cases queued
        refine .inr ⟨head.trans (congrArg _ sends.packList.symm), ?_⟩
        intro object objectAlive
        obtain rfl := Option.some.inj (alive.1.symm.trans objectAlive.1)
        have erased := withoutAgent_lookup middle target.fd target.fd agent
          agentObject
        rw [if_pos rfl] at erased
        exact registrations.target_fd registered targetAlive.1 ▸ erased
  | closedAgain _ _ head alive absent =>
      obtain waits | queued := closing_queueIOThread.mp closing
      · exact .inl waits
      · cases queued
        refine .inr ⟨head, ?_⟩
        intro object objectAlive
        obtain rfl := Option.some.inj (alive.1.symm.trans objectAlive.1)
        exact absent
  | ioAccepted created expanded head =>
      have shrinks := head ▸ List.subset_cons_self _ _
      cases created with
      | true => exact .inl (closing_setIOThread shrinks closing)
      | false => exact .inl (closing_setIOThread shrinks closing)
  | ioSent created expanded head =>
      have shrinks := head ▸ List.subset_cons_self _ _
      exact .inl (closing_setIOThread shrinks closing)
  | ioClosed created expanded head =>
      have shrinks := head ▸ List.subset_cons_self _ _
      exact .inl (closing_setIOThread shrinks closing)
  | flushed =>
      refine .inl (closing_setIOThread ?_ closing)
      exact List.Subset.refl _
  | packetQueued => exact .inl closing
  | lossReported => exact .inl closing

theorem alive_of_sockets {socket : Nat} {object : SocketObject}
    (alive : state.Alive socket object)
    (same : next.sockets = state.sockets) : next.Alive socket object := by
  unfold Alive
  rw [same]
  exact alive

theorem alive_append {socket : Nat} {object : SocketObject}
    {new : List SocketObject} (alive : state.Alive socket object)
    (grown : next.sockets = state.sockets ++ new) :
    next.Alive socket object := by
  refine ⟨?_, alive.2⟩
  have inRange := (List.getElem?_eq_some_iff.mp alive.1).1
  rw [grown, List.getElem?_append_left inRange]
  exact alive.1

theorem alive_set {socket other : Nat} {object changed : SocketObject}
    (alive : state.Alive socket object)
    (updated : next.sockets = state.sockets.set other changed)
    (different : other ≠ socket) : next.Alive socket object := by
  refine ⟨?_, alive.2⟩
  rw [updated, List.getElem?_set_ne different]
  exact alive.1

/-- A socket is destroyed by a `close` package in the queue of an IO thread
only. -/
theorem Transition.alive {action : ServerAction} {socket : Nat}
    {object : SocketObject} (transition : Transition state action next)
    (alive : state.Alive socket object) (notClosing : ¬ state.Closing socket) :
    ∃ kept, next.Alive socket kept ∧ kept.fd = object.fd ∧
      kept.thread = object.thread := by
  have unchanged : next.sockets = state.sockets →
      ∃ kept, next.Alive socket kept ∧ kept.fd = object.fd ∧
        kept.thread = object.thread :=
    fun same => ⟨object, alive_of_sockets alive same, rfl, rfl⟩
  cases transition with
  | idle => exact unchanged rfl
  | acceptQueued => exact unchanged rfl
  | sent _ sends => exact unchanged sends.sockets
  | accepted _ _ _ _ _ sends => exact unchanged sends.sockets
  | acceptRefused => exact unchanged rfl
  | received _ _ _ _ _ _ sends => exact unchanged sends.sockets
  | closed _ _ _ _ _ _ sends => exact unchanged sends.sockets
  | closedAgain => exact unchanged rfl
  | ioAccepted created expanded head =>
      cases created with
      | true => exact ⟨object, alive_append alive rfl, rfl, rfl⟩
      | false => exact unchanged rfl
  | ioSent => exact unchanged rfl
  | @ioClosed _ thread closed _ _ _ head =>
      have different : closed ≠ socket := by
        rintro rfl
        exact notClosing ⟨thread, head ▸ List.mem_cons_self⟩
      exact ⟨object, alive_set alive rfl different, rfl, rfl⟩
  | flushed => exact unchanged rfl
  | packetQueued => exact unchanged rfl
  | @lossReported lost lostObject side lostAlive =>
      by_cases same : lost = socket
      · subst same
        obtain rfl := Option.some.inj (alive.1.symm.trans lostAlive.1)
        have keeps := report_keeps object side
        have inRange := (List.getElem?_eq_some_iff.mp alive.1).1
        have stays := (report_destroyed object side).trans alive.2
        exact ⟨_, ⟨List.getElem?_set_self inRange, stays⟩, keeps.fd,
          keeps.thread⟩
      · exact ⟨object, alive_set alive rfl same, rfl, rfl⟩

/-- A socket stays open until the main thread takes a `close` package for
it. -/
theorem Open.transition {action : ServerAction} {socket : Nat}
    (isOpen : state.Open socket) (transition : Transition state action next)
    (registrations : AgentsRegistered state) :
    next.Open socket ∨ TakesClose state next socket := by
  obtain ⟨⟨object, alive⟩, notClosing⟩ := isOpen
  obtain ⟨kept, keptAlive, -⟩ := transition.alive alive notClosing
  by_cases closing : next.Closing socket
  · obtain before | taken := transition.closing registrations closing
    · exact absurd before notClosing
    · exact .inr taken
  · exact .inl ⟨⟨kept, keptAlive⟩, closing⟩

/-- What a step can add to the queue of the main thread. -/
inductive Queues (state next : ServerState) :
    ServerAction → MainPackage → Prop
  | accept {object : SocketObject} (action : ServerAction)
      (alive : next.Alive state.sockets.length object) :
      Queues state next action (.accept state.sockets.length)
  | recvBuf {socket : Nat} {object : SocketObject} (packet : Bytes)
      (alive : state.Alive socket object)
      (reading : object.readReported = false) :
      Queues state next (.readCallback socket packet)
        (.recvBuf socket packet)
  | close {socket : Nat} {object : SocketObject} (side : BevSide)
      (alive : state.Alive socket object)
      (unreported : SocketSide.reported object side = false)
      (reports : next.sockets[socket]? =
        some (SocketSide.report object side)) :
      Queues state next (.eventCallback socket side) (.close socket)

/-- A step leaves the queue of the main thread as it is, takes its first
package, or adds a package to it. -/
theorem Transition.packList {action : ServerAction}
    (transition : Transition state action next) :
    next.packList = state.packList ∨
      (∃ package, state.packList = package :: next.packList) ∨
      ∃ package, next.packList = state.packList ++ [package] ∧
        Queues state next action package := by
  cases transition with
  | idle => exact .inl rfl
  | acceptQueued => exact .inl rfl
  | sent _ sends => exact .inl sends.packList
  | accepted _ _ head _ _ sends =>
      exact .inr (.inl ⟨_, head.trans (congrArg _ sends.packList.symm)⟩)
  | acceptRefused _ _ head => exact .inr (.inl ⟨_, head⟩)
  | received _ _ head _ _ _ sends =>
      exact .inr (.inl ⟨_, head.trans (congrArg _ sends.packList.symm)⟩)
  | closed _ _ head _ _ _ sends =>
      exact .inr (.inl ⟨_, head.trans (congrArg _ sends.packList.symm)⟩)
  | closedAgain _ _ head => exact .inr (.inl ⟨_, head⟩)
  | ioAccepted created expanded head =>
      cases created with
      | true =>
          exact .inr (.inr ⟨_, rfl, .accept _
            ⟨List.getElem?_concat_length, rfl⟩⟩)
      | false => exact .inl rfl
  | ioSent => exact .inl rfl
  | ioClosed => exact .inl rfl
  | flushed => exact .inl rfl
  | packetQueued packet alive reading =>
      exact .inr (.inr ⟨_, rfl, .recvBuf packet alive reading⟩)
  | lossReported side alive unreported =>
      have inRange := (List.getElem?_eq_some_iff.mp alive.1).1
      exact .inr (.inr ⟨_, rfl, .close side alive unreported
        (List.getElem?_set_self inRange)⟩)

/-- A registered agent has been registered before the step, or the step
registers it for a socket whose `accept` package it takes. -/
theorem Transition.registered {action : ServerAction} {fd : UInt64}
    {agent : Nat} {object : AgentObject}
    (transition : Transition state action next)
    (registrations : AgentsRegistered state)
    (registered : next.Registered fd agent object) :
    state.Registered fd agent object ∨
      state.packList = .accept object.socket :: next.packList := by
  have unchanged : next.mapAgents = state.mapAgents →
      next.agents = state.agents → state.Registered fd agent object := by
    intro map agents
    unfold Registered at registered ⊢
    rw [← map, ← agents]
    exact registered
  cases transition with
  | idle => exact .inl registered
  | acceptQueued => exact .inl registered
  | sent _ sends => exact .inl (unchanged sends.mapAgents sends.agents)
  | @accepted _ packList socket target _ _ head alive absent sends =>
      have new : (registerAgent socket target.fd state).Registered fd agent
          object := by
        unfold Registered at registered ⊢
        rw [sends.mapAgents, sends.agents] at registered
        exact registered
      obtain before | ⟨-, -, rfl⟩ :=
        (registrations.registered_registerAgent absent).mp new
      · exact .inl before
      · exact .inr (head.trans (congrArg _ sends.packList.symm))
  | acceptRefused => exact .inl registered
  | received _ _ _ _ _ _ sends =>
      exact .inl (unchanged sends.mapAgents sends.agents)
  | @closed middle _ _ closedAgent _ target closedObject _ _ _ _ was
      targetAlive sends =>
      have sameFd := registrations.target_fd was targetAlive.1
      have stays : (state.withoutAgent target.fd closedAgent
          closedObject).Registered fd agent object := by
        unfold Registered withoutAgent at registered ⊢
        simp only [queueIOThread, setIOThread] at registered
        rw [sends.mapAgents, sends.agents] at registered
        exact registered
      rw [sameFd] at stays
      exact .inl ((registrations.registered_withoutAgent was).mp stays).1
  | closedAgain => exact .inl registered
  | ioAccepted created expanded head =>
      cases created with
      | true => exact .inl registered
      | false => exact .inl registered
  | ioSent => exact .inl registered
  | ioClosed => exact .inl registered
  | flushed => exact .inl registered
  | packetQueued => exact .inl registered
  | lossReported => exact .inl registered

/-- What holds in every state that the server reaches. -/
structure Sound (state : ServerState) : Prop where
  agents : AgentsRegistered state
  named : ∀ package ∈ state.packList,
    package.socket < state.sockets.length
  closing : ∀ socket, state.Closing socket → socket < state.sockets.length
  acceptFirst : state.packList.Pairwise fun first second =>
    second ≠ .accept first.socket
  acceptOpen : ∀ socket, .accept socket ∈ state.packList →
    state.Open socket
  registeredOpen : ∀ fd agent object, state.Registered fd agent object →
    state.Open object.socket

theorem alive_lt {socket : Nat} {object : SocketObject}
    (alive : state.Alive socket object) : socket < state.sockets.length :=
  (List.getElem?_eq_some_iff.mp alive.1).1

theorem KeepsSockets.lt (keeps : KeepsSockets state next) {socket : Nat}
    (inRange : socket < state.sockets.length) :
    socket < next.sockets.length := by
  obtain ⟨kept, found, -⟩ :=
    keeps socket _ (List.getElem?_eq_getElem inRange)
  exact (List.getElem?_eq_some_iff.mp found).1

theorem initial_sound (nMaxSockets : Int) (nThreadCount : Nat) :
    Sound (initial nMaxSockets nThreadCount) where
  agents := initial_agentsRegistered nMaxSockets nThreadCount
  named := by simp [initial]
  closing := by
    rintro socket ⟨thread, waits⟩
    simp [initial] at waits
  acceptFirst := List.Pairwise.nil
  acceptOpen := by simp [initial]
  registeredOpen := by
    rintro fd agent object ⟨lookup, -⟩
    simp [initial] at lookup

/-- A package in the queue after a step has been in it before, or has been
added by the step. -/
theorem Transition.mem_packList {action : ServerAction}
    {package : MainPackage} (transition : Transition state action next)
    (queued : package ∈ next.packList) :
    package ∈ state.packList ∨ Queues state next action package := by
  obtain same | ⟨taken, popped⟩ | ⟨added, grown, queues⟩ :=
    transition.packList
  · exact .inl (same ▸ queued)
  · exact .inl (popped ▸ List.mem_cons_of_mem _ queued)
  · rw [grown, List.mem_append, List.mem_singleton] at queued
    obtain before | rfl := queued
    · exact .inl before
    · exact .inr queues

section Step

variable {action : ServerAction} (sound : Sound state)
variable (effect : Transition state action next)
include sound effect

theorem Sound.named_transition {package : MainPackage}
    (queued : package ∈ next.packList) :
    package.socket < next.sockets.length := by
  have keeps := effect.keepsSockets
  obtain before | queues := effect.mem_packList queued
  · exact keeps.lt (sound.named package before)
  · cases queues with
    | accept action alive => exact alive_lt alive
    | recvBuf packet alive reading => exact keeps.lt (alive_lt alive)
    | close side alive unreported reports => exact keeps.lt (alive_lt alive)

theorem Sound.closing_transition {socket : Nat}
    (closing : next.Closing socket) : socket < next.sockets.length := by
  have keeps := effect.keepsSockets
  obtain before | ⟨head, -⟩ := effect.closing sound.agents closing
  · exact keeps.lt (sound.closing socket before)
  · exact keeps.lt (sound.named (.close socket) (head ▸ List.mem_cons_self))

theorem Sound.acceptFirst_transition :
    next.packList.Pairwise fun first second =>
      second ≠ .accept first.socket := by
  have ordered := sound.acceptFirst
  obtain same | ⟨taken, popped⟩ | ⟨added, grown, queues⟩ :=
    effect.packList
  · rw [same]
    exact ordered
  · rw [popped] at ordered
    exact (List.pairwise_cons.mp ordered).2
  · rw [grown]
    refine List.pairwise_append.mpr ⟨ordered, List.pairwise_singleton _ _, ?_⟩
    intro first before second isAdded
    rw [List.mem_singleton.mp isAdded]
    cases queues with
    | accept action alive =>
        have inRange := sound.named first before
        simp only [ne_eq, MainPackage.accept.injEq]
        omega
    | recvBuf packet alive reading => simp
    | close side alive unreported reports => simp

theorem Sound.acceptOpen_transition {socket : Nat}
    (queued : MainPackage.accept socket ∈ next.packList) :
    next.Open socket := by
  obtain before | queues := effect.mem_packList queued
  · obtain isOpen | ⟨head, -⟩ :=
      (sound.acceptOpen socket before).transition effect sound.agents
    · exact isOpen
    · have ordered := sound.acceptFirst
      rw [head] at ordered
      have later := (List.pairwise_cons.mp ordered).1 _ queued
      exact absurd rfl later
  · cases queues with
    | accept action alive =>
        refine ⟨⟨_, alive⟩, ?_⟩
        intro closing
        obtain before | ⟨head, -⟩ := effect.closing sound.agents closing
        · exact Nat.lt_irrefl _ (sound.closing _ before)
        · have named := sound.named (.close state.sockets.length)
            (head ▸ List.mem_cons_self)
          exact Nat.lt_irrefl _ named

theorem Sound.registeredOpen_transition {fd : UInt64} {agent : Nat}
    {object : AgentObject} (registered : next.Registered fd agent object) :
    next.Open object.socket := by
  have isOpen : state.Open object.socket := by
    obtain before | head := effect.registered sound.agents registered
    · exact sound.registeredOpen fd agent object before
    · exact sound.acceptOpen _ (head ▸ List.mem_cons_self)
  obtain kept | ⟨-, unregistered⟩ :=
    isOpen.transition effect sound.agents
  · exact kept
  · obtain ⟨⟨target, alive⟩, -⟩ := isOpen
    obtain ⟨kept, found, keeps⟩ := effect.keepsSockets _ _ alive.1
    have fdEq := (sound.agents.transition effect).target_fd registered
      found
    have absent := unregistered target alive
    rw [← keeps.fd, fdEq, registered.1] at absent
    cases absent

theorem Sound.transition : Sound next where
  agents := sound.agents.transition effect
  named _ queued := sound.named_transition effect queued
  closing _ closing := sound.closing_transition effect closing
  acceptFirst := sound.acceptFirst_transition effect
  acceptOpen _ queued := sound.acceptOpen_transition effect queued
  registeredOpen _ _ _ registered :=
    sound.registeredOpen_transition effect registered

end Step

end ServerState

end EchoServer
