import EchoServer.ServerCounting
import EchoServer.ServerDescriptors

/-!
# The server when it has nothing left to do

Packages for the main thread and for the IO threads say what is still to be
done about a connection.  Where no package waits any more, the connections
that were lost are gone, and the books agree about those that are left.
-/

namespace EchoServer

open ByteOrder LabelledRun

/-- The packet that a package brings to the main thread, and its socket. -/
def MainPackage.packet? : MainPackage → Option (Nat × Bytes)
  | .recvBuf socket buf => some (socket, buf)
  | .accept _ => none
  | .close _ => none

/-- The packet that a callback hands to the logic, and its socket. -/
def CallbackCall.packet? : CallbackCall → Option (Nat × Bytes)
  | .onClientRecive socket _ buf => some (socket, buf)
  | .onAcceptClient _ _ => none
  | .onClientClose _ _ => none

namespace ServerState

variable {state next : ServerState} {action : ServerAction}

/-- No package waits in any queue. -/
structure AtRest (state : ServerState) : Prop where
  main : state.packList = []
  threads : ∀ thread, (state.ioThreads thread).packList = []

/-! ### What becomes of the packages -/

theorem closing_keeps {thread socket : Nat} {ioThread : IOThread}
    (keeps : .close socket ∈ (state.ioThreads thread).packList →
      .close socket ∈ ioThread.packList) (closing : state.Closing socket) :
    (state.setIOThread thread ioThread).Closing socket := by
  obtain ⟨other, waits⟩ := closing
  refine ⟨other, ?_⟩
  simp only [setIOThread, Function.update_apply]
  split_ifs with same
  · subst same
    exact keeps waits
  · exact waits

/-- A package that waits behind another one still does when that one is
taken. -/
theorem mem_of_pop {Package : Type} {package other : Package}
    {before packList : List Package} (head : before = other :: packList)
    (different : package ≠ other) (waits : package ∈ before) :
    package ∈ packList := by
  rw [head] at waits
  exact List.mem_of_ne_of_mem different waits

/-- A socket is closed by its IO thread until it is destroyed. -/
theorem Transition.keepsClosing (transition : Transition state action next)
    {socket : Nat} {object : SocketObject} (closing : state.Closing socket)
    (alive : next.Alive socket object) : next.Closing socket := by
  cases transition with
  | idle => exact closing
  | acceptQueued => exact closing_queueIOThread.mpr (.inl closing)
  | sent _ sends => exact sends.closing.mpr closing
  | accepted _ _ _ _ _ sends => exact sends.closing.mpr closing
  | acceptRefused => exact closing
  | received _ _ _ _ _ _ sends => exact sends.closing.mpr closing
  | closed _ _ _ _ _ _ sends =>
      exact closing_queueIOThread.mpr (.inl (sends.closing.mpr closing))
  | closedAgain => exact closing_queueIOThread.mpr (.inl closing)
  | ioAccepted created _ head =>
      cases created with
      | true => exact closing_keeps (mem_of_pop head (by simp)) closing
      | false => exact closing_keeps (mem_of_pop head (by simp)) closing
  | ioSent _ _ head =>
      exact closing_keeps (mem_of_pop head (by simp)) closing
  | @ioClosed _ thread destroyed _ _ _ head wasAlive =>
      by_cases same : destroyed = socket
      · subst same
        have inRange := (List.getElem?_eq_some_iff.mp wasAlive.1).1
        have gone := alive.1
        rw [List.getElem?_set_self inRange] at gone
        obtain rfl := Option.some.inj gone
        cases alive.2
      · exact closing_keeps (mem_of_pop head (by simpa using Ne.symm same))
          closing
  | flushed => exact closing_keeps id closing
  | packetQueued => exact closing
  | lossReported => exact closing

/-- A `close` package waits until the main thread hands it on to the IO
thread. -/
theorem Transition.keepsClose (transition : Transition state action next)
    {socket : Nat} (waits : .close socket ∈ state.packList) :
    .close socket ∈ next.packList ∨ next.Closing socket := by
  cases transition with
  | idle => exact .inl waits
  | acceptQueued => exact .inl waits
  | sent _ sends => exact .inl (sends.packList ▸ waits)
  | accepted _ _ head _ _ sends =>
      exact .inl (sends.packList ▸ mem_of_pop head (by simp) waits)
  | acceptRefused _ _ head => exact .inl (mem_of_pop head (by simp) waits)
  | received _ _ head _ _ _ sends =>
      exact .inl (sends.packList ▸ mem_of_pop head (by simp) waits)
  | @closed _ _ closed _ _ _ _ _ _ head _ _ _ sends =>
      by_cases same : closed = socket
      · subst same
        exact .inr (closing_queueIOThread.mpr (.inr rfl))
      · refine .inl (sends.packList ▸ mem_of_pop head ?_ waits)
        simpa using Ne.symm same
  | @closedAgain _ closed _ _ _ head =>
      by_cases same : closed = socket
      · subst same
        exact .inr (closing_queueIOThread.mpr (.inr rfl))
      · exact .inl (mem_of_pop head (by simpa using Ne.symm same) waits)
  | ioAccepted created =>
      cases created with
      | true => exact .inl (List.mem_append_left _ waits)
      | false => exact .inl waits
  | ioSent => exact .inl waits
  | ioClosed => exact .inl waits
  | flushed => exact .inl waits
  | packetQueued => exact .inl (List.mem_append_left _ waits)
  | lossReported => exact .inl (List.mem_append_left _ waits)

/-- An `accept` package waits until the main thread takes it, and finds or
registers an agent. -/
theorem Transition.keepsAccept (transition : Transition state action next)
    (registrations : AgentsRegistered state) {socket : Nat}
    {object : SocketObject} (waits : .accept socket ∈ state.packList)
    (alive : state.Alive socket object) :
    .accept socket ∈ next.packList ∨
      ∃ agent agentObject, next.Registered object.fd agent agentObject := by
  cases transition with
  | idle => exact .inl waits
  | acceptQueued => exact .inl waits
  | sent _ sends => exact .inl (sends.packList ▸ waits)
  | @accepted _ _ accepted other _ _ head otherAlive absent sends =>
      by_cases same : accepted = socket
      · subst same
        obtain rfl := Option.some.inj (alive.1.symm.trans otherAlive.1)
        refine .inr ⟨state.agents.length, ⟨accepted, false⟩, ?_⟩
        have new : (registerAgent accepted object.fd state).Registered
            object.fd state.agents.length ⟨accepted, false⟩ :=
          (registrations.registered_registerAgent absent).mpr
            (.inr ⟨rfl, rfl, rfl⟩)
        unfold Registered at new ⊢
        rw [sends.mapAgents, sends.agents]
        exact new
      · refine .inl (sends.packList ▸ mem_of_pop head ?_ waits)
        simpa using Ne.symm same
  | @acceptRefused _ accepted agent other _ _ head otherAlive present =>
      by_cases same : accepted = socket
      · subst same
        obtain rfl := Option.some.inj (alive.1.symm.trans otherAlive.1)
        obtain ⟨agentObject, -, registered, -⟩ :=
          registrations object.fd agent present
        exact .inr ⟨agent, agentObject, registered⟩
      · exact .inl (mem_of_pop head (by simpa using Ne.symm same) waits)
  | received _ _ head _ _ _ sends =>
      exact .inl (sends.packList ▸ mem_of_pop head (by simp) waits)
  | closed _ _ head _ _ _ sends =>
      exact .inl (sends.packList ▸ mem_of_pop head (by simp) waits)
  | closedAgain _ _ head => exact .inl (mem_of_pop head (by simp) waits)
  | ioAccepted created =>
      cases created with
      | true => exact .inl (List.mem_append_left _ waits)
      | false => exact .inl waits
  | ioSent => exact .inl waits
  | ioClosed => exact .inl waits
  | flushed => exact .inl waits
  | packetQueued => exact .inl (List.mem_append_left _ waits)
  | lossReported => exact .inl (List.mem_append_left _ waits)

/-- The agent of a live socket is registered until the socket is closed. -/
theorem Transition.keepsRegistered
    (transition : Transition state action next)
    (registrations : AgentsRegistered state)
    (distinct : DistinctDescriptors state) {socket agent : Nat}
    {object : SocketObject} {agentObject : AgentObject}
    (alive : state.Alive socket object)
    (registered : state.Registered object.fd agent agentObject) :
    next.Registered object.fd agent agentObject ∨ next.Closing socket := by
  have unchanged : next.mapAgents = state.mapAgents →
      next.agents = state.agents →
        next.Registered object.fd agent agentObject := by
    intro map agents
    unfold Registered
    rw [map, agents]
    exact registered
  cases transition with
  | idle => exact .inl registered
  | acceptQueued => exact .inl registered
  | sent _ sends => exact .inl (unchanged sends.mapAgents sends.agents)
  | @accepted _ _ accepted acceptedObject _ _ _ _ absent sends =>
      have stays : (registerAgent accepted acceptedObject.fd state).Registered
          object.fd agent agentObject :=
        (registrations.registered_registerAgent absent).mpr (.inl registered)
      unfold Registered at stays ⊢
      rw [sends.mapAgents, sends.agents]
      exact .inl stays
  | acceptRefused => exact .inl registered
  | received _ _ _ _ _ _ sends =>
      exact .inl (unchanged sends.mapAgents sends.agents)
  | @closed _ _ closed closedAgent closedObject target closedAgentObject _ _ _
      closedAlive was targetAlive sends =>
      have sameFd := registrations.target_fd was targetAlive.1
      by_cases same : object.fd = target.fd
      · obtain rfl := distinct.alive _ _ _ _ alive closedAlive
          (same.trans sameFd)
        exact .inr (closing_queueIOThread.mpr (.inr rfl))
      · have stays := (registrations.registered_withoutAgent was).mpr
          ⟨registered, fun again => same (again.trans sameFd.symm)⟩
        unfold Registered withoutAgent at stays ⊢
        simp only [queueIOThread, setIOThread]
        rw [sends.mapAgents, sends.agents, sameFd]
        exact .inl stays
  | closedAgain => exact .inl registered
  | ioAccepted created =>
      cases created with
      | true => exact .inl registered
      | false => exact .inl registered
  | ioSent => exact .inl registered
  | ioClosed => exact .inl registered
  | flushed => exact .inl registered
  | packetQueued => exact .inl registered
  | lossReported => exact .inl registered

/-! ### Where sockets, reports and closes come from -/

/-- A socket that a step creates waits to be accepted. -/
theorem Transition.created (transition : Transition state action next)
    {socket : Nat} {object : SocketObject}
    (new : state.sockets.length ≤ socket)
    (found : next.sockets[socket]? = some object) :
    .accept socket ∈ next.packList ∧ ¬ object.Reported ∧
      object.destroyed = false := by
  have inRange := (List.getElem?_eq_some_iff.mp found).1
  have notNew : next.sockets.length ≠ state.sockets.length :=
    fun same => absurd inRange (by omega)
  cases transition with
  | idle => exact absurd rfl notNew
  | acceptQueued => exact absurd rfl notNew
  | sent _ sends => exact absurd (congrArg _ sends.sockets) notNew
  | accepted _ _ _ _ _ sends => exact absurd (congrArg _ sends.sockets) notNew
  | acceptRefused => exact absurd rfl notNew
  | received _ _ _ _ _ _ sends =>
      exact absurd (congrArg _ sends.sockets) notNew
  | closed _ _ _ _ _ _ sends => exact absurd (congrArg _ sends.sockets) notNew
  | closedAgain => exact absurd rfl notNew
  | ioAccepted created =>
      cases created with
      | true =>
          have last := (List.getElem?_append_right new).symm.trans found
          rw [List.getElem?_singleton] at last
          split_ifs at last with first
          obtain rfl := Option.some.inj last
          obtain rfl : socket = state.sockets.length := by omega
          exact ⟨List.mem_append_right _ (List.mem_singleton_self _),
            by simp [SocketObject.Reported], rfl⟩
      | false => exact absurd rfl notNew
  | ioSent => exact absurd rfl notNew
  | ioClosed => exact absurd List.length_set notNew
  | flushed => exact absurd rfl notNew
  | packetQueued => exact absurd rfl notNew
  | lossReported => exact absurd List.length_set notNew

/-- A socket that a step makes report its loss waits to be closed. -/
theorem Transition.reports (transition : Transition state action next)
    {socket : Nat} {before object : SocketObject}
    (was : state.sockets[socket]? = some before)
    (unreported : ¬ before.Reported)
    (found : next.sockets[socket]? = some object)
    (reported : object.Reported) : .close socket ∈ next.packList := by
  have notSame : next.sockets[socket]? ≠ state.sockets[socket]? := by
    intro same
    obtain rfl := Option.some.inj (found.symm.trans (same.trans was))
    exact unreported reported
  cases transition with
  | idle => exact absurd rfl notSame
  | acceptQueued => exact absurd rfl notSame
  | sent _ sends => exact absurd (congrArg (·[socket]?) sends.sockets) notSame
  | accepted _ _ _ _ _ sends =>
      exact absurd (congrArg (·[socket]?) sends.sockets) notSame
  | acceptRefused => exact absurd rfl notSame
  | received _ _ _ _ _ _ sends =>
      exact absurd (congrArg (·[socket]?) sends.sockets) notSame
  | closed _ _ _ _ _ _ sends =>
      exact absurd (congrArg (·[socket]?) sends.sockets) notSame
  | closedAgain => exact absurd rfl notSame
  | ioAccepted created =>
      cases created with
      | true =>
          have inRange := (List.getElem?_eq_some_iff.mp was).1
          exact absurd (List.getElem?_append_left inRange) notSame
      | false => exact absurd rfl notSame
  | ioSent => exact absurd rfl notSame
  | @ioClosed _ _ closed _ _ _ _ closedAlive =>
      by_cases same : closed = socket
      · subst same
        obtain rfl := Option.some.inj (was.symm.trans closedAlive.1)
        have inRange := (List.getElem?_eq_some_iff.mp was).1
        obtain rfl := Option.some.inj
          ((List.getElem?_set_self inRange).symm.trans found)
        exact absurd reported unreported
      · exact absurd (List.getElem?_set_ne same) notSame
  | flushed => exact absurd rfl notSame
  | packetQueued => exact absurd rfl notSame
  | @lossReported lost =>
      by_cases same : lost = socket
      · subst same
        exact List.mem_append_right _ (List.mem_singleton_self _)
      · exact absurd (List.getElem?_set_ne same) notSame

/-- Only a socket that its IO thread is to close is destroyed. -/
theorem Transition.closing_of_destroyed
    (transition : Transition state action next) {socket : Nat}
    {before object : SocketObject} (alive : state.Alive socket before)
    (found : next.sockets[socket]? = some object)
    (destroyed : object.destroyed = true) : state.Closing socket := by
  by_cases closing : state.Closing socket
  · exact closing
  · obtain ⟨kept, keptAlive, -⟩ := transition.alive alive closing
    obtain rfl := Option.some.inj (keptAlive.1.symm.trans found)
    rw [keptAlive.2] at destroyed
    cases destroyed

theorem Sends.mem_of_close (sends : Sends state next) {thread socket : Nat}
    (waits : .close socket ∈ (next.ioThreads thread).packList) :
    .close socket ∈ (state.ioThreads thread).packList := by
  induction sends with
  | done => exact waits
  | send buf registered alive rest ih =>
      simpa using mem_queueIOThread.mp (ih waits)

/-- A socket is closed by its own IO thread. -/
theorem Transition.queuesClose (transition : Transition state action next)
    {thread socket : Nat}
    (waits : .close socket ∈ (next.ioThreads thread).packList) :
    .close socket ∈ (state.ioThreads thread).packList ∨
      ∃ object, state.Alive socket object ∧ object.thread = thread := by
  cases transition with
  | idle => exact .inl waits
  | acceptQueued =>
      have queued := mem_queueIOThread.mp waits
      exact .inl (by simpa using queued)
  | sent _ sends => exact .inl (sends.mem_of_close waits)
  | accepted _ _ _ _ _ sends => exact .inl (sends.mem_of_close waits)
  | acceptRefused => exact .inl waits
  | received _ _ _ _ _ _ sends => exact .inl (sends.mem_of_close waits)
  | closed _ _ _ alive _ _ sends =>
      obtain before | ⟨onThread, queued⟩ := mem_queueIOThread.mp waits
      · exact .inl (sends.mem_of_close before)
      · cases queued
        exact .inr ⟨_, alive, onThread.symm⟩
  | closedAgain _ _ _ alive =>
      obtain before | ⟨onThread, queued⟩ := mem_queueIOThread.mp waits
      · exact .inl before
      · cases queued
        exact .inr ⟨_, alive, onThread.symm⟩
  | ioAccepted created _ head =>
      have shrinks := head ▸ List.subset_cons_self _ _
      cases created with
      | true => exact .inl (mem_setIOThread shrinks waits)
      | false => exact .inl (mem_setIOThread shrinks waits)
  | ioSent _ _ head =>
      have shrinks := head ▸ List.subset_cons_self _ _
      exact .inl (mem_setIOThread shrinks waits)
  | ioClosed _ _ head =>
      have shrinks := head ▸ List.subset_cons_self _ _
      exact .inl (mem_setIOThread shrinks waits)
  | flushed =>
      refine .inl (mem_setIOThread ?_ waits)
      exact List.Subset.refl _
  | packetQueued => exact .inl waits
  | lossReported => exact .inl waits

/-- Every agent that has not been deleted is registered. -/
def AgentsKept (state : ServerState) : Prop :=
  ∀ (agent : Nat) (object : AgentObject), state.agents[agent]? = some object →
    object.deleted = false → ∃ fd, state.Registered fd agent object

theorem AgentsKept.frame (kept : AgentsKept state)
    (map : next.mapAgents = state.mapAgents)
    (agents : next.agents = state.agents) : AgentsKept next := by
  intro agent object found notDeleted
  unfold Registered
  rw [map, agents]
  exact kept agent object (agents ▸ found) notDeleted

theorem AgentsKept.registerAgent (kept : AgentsKept state)
    (registrations : AgentsRegistered state) {socket : Nat} {fd : UInt64}
    (absent : state.mapAgents[fd]? = none) :
    AgentsKept (state.registerAgent socket fd) := by
  intro agent object found notDeleted
  have registered (key : UInt64) :
      (state.registerAgent socket fd).Registered key agent object ↔ _ :=
    registrations.registered_registerAgent absent
  by_cases old : agent < state.agents.length
  · have was := (List.getElem?_append_left old).symm.trans found
    obtain ⟨key, before⟩ := kept agent object was notDeleted
    exact ⟨key, (registered key).mpr (.inl before)⟩
  · have below := (List.getElem?_eq_some_iff.mp found).1
    have grown : (state.registerAgent socket fd).agents.length =
      state.agents.length + 1 := List.length_append
    obtain rfl : agent = state.agents.length := by omega
    obtain rfl := Option.some.inj
      (List.getElem?_concat_length.symm.trans found)
    exact ⟨fd, (registered fd).mpr (.inr ⟨rfl, rfl, rfl⟩)⟩

theorem AgentsKept.withoutAgent (kept : AgentsKept state)
    (registrations : AgentsRegistered state) {fd : UInt64} {agent : Nat}
    {object : AgentObject} (registered : state.Registered fd agent object) :
    AgentsKept (state.withoutAgent fd agent object) := by
  intro other otherObject found notDeleted
  by_cases same : agent = other
  · subst same
    have inRange := (List.getElem?_eq_some_iff.mp registered.2.1).1
    obtain rfl := Option.some.inj
      ((List.getElem?_set_self inRange).symm.trans found)
    cases notDeleted
  · have was := (List.getElem?_set_ne same).symm.trans found
    obtain ⟨key, before⟩ := kept other otherObject was notDeleted
    refine ⟨key, (registrations.registered_withoutAgent registered).mpr
      ⟨before, ?_⟩⟩
    rintro rfl
    exact same (Option.some.inj (registered.1.symm.trans before.1))

theorem AgentsKept.transition (kept : AgentsKept state)
    (registrations : AgentsRegistered state)
    (transition : Transition state action next) : AgentsKept next := by
  cases transition with
  | idle => exact kept
  | acceptQueued => exact kept.frame rfl rfl
  | sent _ sends => exact kept.frame sends.mapAgents sends.agents
  | accepted _ _ _ _ absent sends =>
      exact (kept.registerAgent registrations absent).frame sends.mapAgents
        sends.agents
  | acceptRefused => exact kept.frame rfl rfl
  | received _ _ _ _ _ _ sends =>
      exact kept.frame sends.mapAgents sends.agents
  | closed _ _ _ _ registered targetAlive sends =>
      have sameFd := registrations.target_fd registered targetAlive.1
      apply (kept.withoutAgent registrations registered).frame
      · simp only [ServerState.withoutAgent, queueIOThread, setIOThread,
          sameFd]
        rw [sends.mapAgents]
        rfl
      · simp only [ServerState.withoutAgent, queueIOThread, setIOThread]
        rw [sends.agents]
        rfl
  | closedAgain => exact kept.frame rfl rfl
  | ioAccepted created =>
      cases created with
      | true => exact kept.frame rfl rfl
      | false => exact kept.frame rfl rfl
  | ioSent => exact kept.frame rfl rfl
  | ioClosed => exact kept.frame rfl rfl
  | flushed => exact kept.frame rfl rfl
  | packetQueued => exact kept.frame rfl rfl
  | lossReported => exact kept.frame rfl rfl

/-! ### What is under way for each socket -/

/-- Every live socket is served or a package is on its way for it, and its
loss, once reported, is on its way to the IO thread that owns the socket. -/
structure Attended (state : ServerState) : Prop where
  served : ∀ socket object, state.Alive socket object →
    .accept socket ∈ state.packList ∨ state.Closing socket ∨
      ∃ agent agentObject, state.Registered object.fd agent agentObject
  lost : ∀ socket object, state.Alive socket object → object.Reported →
    .close socket ∈ state.packList ∨ state.Closing socket
  reported : ∀ (socket : Nat) (object : SocketObject),
    state.sockets[socket]? = some object →
      .close socket ∈ state.packList ∨ state.Closing socket ∨
        object.destroyed = true → object.Reported
  onThread : ∀ thread socket object,
    .close socket ∈ (state.ioThreads thread).packList →
      state.sockets[socket]? = some object → object.thread = thread
  kept : AgentsKept state

theorem initial_attended (nMaxSockets : Int) (nThreadCount : Nat) :
    Attended (initial nMaxSockets nThreadCount) where
  served := by simp [Alive, initial]
  lost := by simp [Alive, initial]
  reported := by simp [initial]
  onThread := by simp [initial]
  kept := by simp [AgentsKept, initial]

/-- A socket after a step was there before, or the step has created it. -/
theorem Transition.origin (transition : Transition state action next)
    {socket : Nat} {object : SocketObject}
    (found : next.sockets[socket]? = some object) :
    (∃ before, state.sockets[socket]? = some before ∧
      KeepsObject before object) ∨ state.sockets.length ≤ socket := by
  by_cases old : socket < state.sockets.length
  · have was := List.getElem?_eq_getElem old
    obtain ⟨kept, there, keeps⟩ := transition.keepsSockets socket _ was
    obtain rfl := Option.some.inj (there.symm.trans found)
    exact .inl ⟨_, was, keeps⟩
  · exact .inr (Nat.le_of_not_lt old)

section Step

variable (attended : Attended state)
variable (effect : Transition state action next)
include attended effect

theorem Attended.lost_transition {socket : Nat} {object : SocketObject}
    (alive : next.Alive socket object) (reported : object.Reported) :
    .close socket ∈ next.packList ∨ next.Closing socket := by
  obtain ⟨before, was, keeps⟩ | new := effect.origin alive.1
  · by_cases earlier : before.Reported
    · obtain waits | closing := attended.lost socket before
        ⟨was, keeps.alive alive.2⟩ earlier
      · exact effect.keepsClose waits
      · exact .inr (effect.keepsClosing closing alive)
    · exact .inl (effect.reports was earlier alive.1 reported)
  · exact absurd reported (effect.created new alive.1).2.1

variable (sound : Sound state)
include sound

theorem Attended.served_transition (distinct : DistinctDescriptors state)
    {socket : Nat} {object : SocketObject}
    (alive : next.Alive socket object) :
    .accept socket ∈ next.packList ∨ next.Closing socket ∨
      ∃ agent agentObject, next.Registered object.fd agent agentObject := by
  obtain ⟨before, was, keeps⟩ | new := effect.origin alive.1
  · have wasAlive : state.Alive socket before := ⟨was, keeps.alive alive.2⟩
    rw [keeps.fd]
    obtain waits | closing | ⟨agent, agentObject, registered⟩ :=
      attended.served socket before wasAlive
    · obtain still | registered :=
        effect.keepsAccept sound.agents waits wasAlive
      · exact .inl still
      · exact .inr (.inr registered)
    · exact .inr (.inl (effect.keepsClosing closing alive))
    · obtain stays | closing :=
        effect.keepsRegistered sound.agents distinct wasAlive registered
      · exact .inr (.inr ⟨agent, agentObject, stays⟩)
      · exact .inr (.inl closing)
  · exact .inl (effect.created new alive.1).1

/-- A socket that was to be closed before the step has reported its loss. -/
theorem Attended.reported_before {socket : Nat} {object : SocketObject}
    (found : next.sockets[socket]? = some object)
    (was : .close socket ∈ state.packList ∨ state.Closing socket) :
    object.Reported := by
  have inRange : socket < state.sockets.length := by
    obtain waits | closing := was
    · exact sound.named (.close socket) waits
    · exact sound.closing socket closing
  obtain ⟨before, there, keeps⟩ | new := effect.origin found
  · refine keeps.reported (attended.reported socket before there ?_)
    exact was.imp_right .inl
  · exact absurd inRange (Nat.not_lt.mpr new)

theorem Attended.reported_of_destroyed {socket : Nat} {object : SocketObject}
    (found : next.sockets[socket]? = some object)
    (destroyed : object.destroyed = true) : object.Reported := by
  obtain ⟨before, was, keeps⟩ | new := effect.origin found
  · cases earlier : before.destroyed with
    | true =>
        exact keeps.reported
          (attended.reported socket before was (.inr (.inr earlier)))
    | false =>
        have closing := effect.closing_of_destroyed ⟨was, earlier⟩ found
          destroyed
        exact attended.reported_before effect sound found (.inr closing)
  · rw [(effect.created new found).2.2] at destroyed
    cases destroyed

theorem Attended.reported_transition {socket : Nat} {object : SocketObject}
    (found : next.sockets[socket]? = some object)
    (handled : .close socket ∈ next.packList ∨ next.Closing socket ∨
      object.destroyed = true) : object.Reported := by
  obtain waits | closing | destroyed := handled
  · obtain before | queues := effect.mem_packList waits
    · exact attended.reported_before effect sound found (.inl before)
    · cases queues with
      | close side alive unreported reports =>
          obtain rfl := Option.some.inj (reports.symm.trans found)
          exact report_reported _ side
  · refine attended.reported_before effect sound found ?_
    obtain before | ⟨head, -⟩ := effect.closing sound.agents closing
    · exact .inr before
    · exact .inl (head ▸ List.mem_cons_self)
  · exact attended.reported_of_destroyed effect sound found destroyed

theorem Attended.onThread_transition {thread socket : Nat}
    {object : SocketObject}
    (waits : .close socket ∈ (next.ioThreads thread).packList)
    (found : next.sockets[socket]? = some object) :
    object.thread = thread := by
  obtain before | ⟨closed, alive, onThread⟩ := effect.queuesClose waits
  · obtain ⟨was, there, keeps⟩ | new := effect.origin found
    · exact keeps.thread.trans
        (attended.onThread thread socket was before there)
    · have inRange := sound.closing socket ⟨thread, before⟩
      exact absurd inRange (Nat.not_lt.mpr new)
  · obtain ⟨kept, there, keeps⟩ := effect.keepsSockets _ _ alive.1
    obtain rfl := Option.some.inj (there.symm.trans found)
    exact keeps.thread.trans onThread

theorem Attended.transition (distinct : DistinctDescriptors state) :
    Attended next where
  served _ _ alive := attended.served_transition effect sound distinct alive
  lost _ _ alive reported := attended.lost_transition effect alive reported
  reported _ _ found handled :=
    attended.reported_transition effect sound found handled
  onThread _ _ _ waits found :=
    attended.onThread_transition effect sound waits found
  kept := attended.kept.transition sound.agents effect

end Step

/-! ### A socket is closed once

How often a socket has been handed to an IO thread to be closed can only grow,
and where it is twice the run does not come to rest: the second package finds
the socket destroyed.
-/

/-- The `close` packages that an IO thread has for a socket, and one more once
the socket is destroyed. -/
def closes (state : ServerState) (thread socket : Nat) : Nat :=
  (state.ioThreads thread).packList.count (.close socket) +
    (state.sockets[socket]?.any (·.destroyed)).toNat

/-- No socket has been handed to an IO thread twice. -/
def ClosedOnce (state : ServerState) : Prop :=
  ∀ thread socket, state.closes thread socket ≤ 1

theorem closes_queueIOThread {thread other socket : Nat}
    {package : IOPackage} :
    (state.queueIOThread other package).closes thread socket =
      state.closes thread socket +
        if thread = other ∧ package = .close socket then 1 else 0 := by
  have count : ((state.queueIOThread other package).ioThreads
        thread).packList.count (.close socket) =
      (state.ioThreads thread).packList.count (.close socket) +
        if thread = other ∧ package = .close socket then 1 else 0 := by
    rw [queueIOThread_ioThreads]
    by_cases onThread : thread = other
    · subst onThread
      by_cases closing : package = .close socket
      · simp [closing]
      · simp [closing]
    · simp [onThread]
  have sockets : (state.queueIOThread other package).sockets =
    state.sockets := rfl
  unfold closes
  rw [count, sockets]
  omega

theorem closes_le_queueIOThread {thread other socket : Nat}
    {package : IOPackage} :
    state.closes thread socket ≤
      (state.queueIOThread other package).closes thread socket := by
  rw [closes_queueIOThread]
  exact Nat.le_add_right _ _

theorem Sends.closes_le (sends : Sends state next) (thread socket : Nat) :
    state.closes thread socket ≤ next.closes thread socket := by
  induction sends with
  | done => exact Nat.le_refl _
  | send buf registered alive rest ih =>
      exact Nat.le_trans closes_le_queueIOThread ih

theorem closes_le_frame {thread socket : Nat}
    (threads : (next.ioThreads thread).packList =
      (state.ioThreads thread).packList)
    (sockets : next.sockets[socket]?.any (·.destroyed) =
      state.sockets[socket]?.any (·.destroyed)) :
    state.closes thread socket ≤ next.closes thread socket := by
  apply Nat.le_of_eq
  unfold closes
  rw [threads, sockets]

section Taking

variable {thread other socket : Nat} {ioThread : IOThread}
variable (threads :
  next.ioThreads = (state.setIOThread other ioThread).ioThreads)
include threads

/-- Taking a package that closes another socket, or none. -/
theorem closes_le_pop {package : IOPackage}
    (head : (state.ioThreads other).packList = package :: ioThread.packList)
    (different : package ≠ .close socket)
    (sockets : next.sockets[socket]?.any (·.destroyed) =
      state.sockets[socket]?.any (·.destroyed)) :
    state.closes thread socket ≤ next.closes thread socket := by
  have count : (next.ioThreads thread).packList.count (.close socket) =
      (state.ioThreads thread).packList.count (.close socket) := by
    rw [threads]
    simp only [setIOThread, Function.update_apply]
    split_ifs with same
    · rw [same, head, List.count_cons_of_ne different]
    · rfl
  apply Nat.le_of_eq
  unfold closes
  rw [count, sockets]

/-- Taking the package that closes a socket destroys it. -/
theorem closes_le_destroy {object : SocketObject}
    (head : (state.ioThreads other).packList =
      .close socket :: ioThread.packList)
    (alive : state.Alive socket object)
    (sockets : next.sockets =
      state.sockets.set socket { object with destroyed := true }) :
    state.closes thread socket ≤ next.closes thread socket := by
  have count : (state.ioThreads thread).packList.count (.close socket) ≤
      (next.ioThreads thread).packList.count (.close socket) + 1 := by
    rw [threads]
    simp only [setIOThread, Function.update_apply]
    split_ifs with same
    · subst same
      exact Nat.le_of_eq (by rw [head, List.count_cons_self])
    · exact Nat.le_succ _
  have inRange := (List.getElem?_eq_some_iff.mp alive.1).1
  unfold closes
  rw [sockets, List.getElem?_set_self inRange, alive.1]
  simp only [Option.any_some, alive.2, Bool.toNat_true, Bool.toNat_false]
  omega

end Taking

theorem any_destroyed_append (sockets : List SocketObject)
    {new : SocketObject} (alive : new.destroyed = false) (socket : Nat) :
    (sockets ++ [new])[socket]?.any (·.destroyed) =
      sockets[socket]?.any (·.destroyed) := by
  rw [List.getElem?_append]
  split_ifs with old
  · rfl
  · rw [List.getElem?_eq_none (Nat.le_of_not_lt old), List.getElem?_singleton]
    split_ifs
    · exact alive
    · rfl

theorem any_destroyed_report {socket : Nat} {object : SocketObject}
    (alive : state.Alive socket object) (side : BevSide) (other : Nat) :
    (state.sockets.set socket (SocketSide.report object side))[other]?.any
        (·.destroyed) =
      state.sockets[other]?.any (·.destroyed) := by
  rw [List.getElem?_set]
  split_ifs with same inRange
  · rw [← same, alive.1]
    exact report_destroyed object side
  · rw [← same, List.getElem?_eq_none (Nat.le_of_not_lt inRange)]
  · rfl

/-- A socket stays handed over as often as it has been. -/
theorem Transition.closes_le (transition : Transition state action next)
    (thread socket : Nat) :
    state.closes thread socket ≤ next.closes thread socket := by
  cases transition with
  | idle => exact Nat.le_refl _
  | acceptQueued => exact closes_le_queueIOThread
  | sent _ sends => exact sends.closes_le thread socket
  | accepted _ _ _ _ _ sends => exact sends.closes_le thread socket
  | acceptRefused => exact Nat.le_refl _
  | received _ _ _ _ _ _ sends => exact sends.closes_le thread socket
  | closed _ _ _ _ _ _ sends =>
      exact Nat.le_trans (sends.closes_le thread socket)
        closes_le_queueIOThread
  | closedAgain => exact closes_le_queueIOThread
  | ioAccepted created _ head =>
      cases created with
      | true =>
          exact closes_le_pop rfl head (by simp)
            (any_destroyed_append state.sockets rfl socket)
      | false => exact closes_le_pop rfl head (by simp) rfl
  | ioSent _ _ head => exact closes_le_pop rfl head (by simp) rfl
  | @ioClosed _ _ closed _ _ _ head alive =>
      by_cases same : closed = socket
      · subst same
        exact closes_le_destroy rfl head alive rfl
      · exact closes_le_pop rfl head (by simpa using same)
          (congrArg _ (List.getElem?_set_ne same))
  | @flushed other =>
      refine closes_le_frame ?_ rfl
      simp only [setIOThread, Function.update_apply]
      split_ifs with same
      · rw [same]
      · rfl
  | packetQueued => exact Nat.le_refl _
  | lossReported side alive =>
      exact closes_le_frame rfl (any_destroyed_report alive side socket)

/-- A step after which no socket has been handed over twice finds an agent for
the `close` package that it takes. -/
theorem ClosedOnce.closesRegistered {host : Host} (once : ClosedOnce next)
    (attended : Attended state) (sound : Sound state)
    (stepped : state.step host action = .ok next) :
    ClosesRegistered state action := by
  cases action with
  | pairCallback now calls =>
      intro socket packList object head alive
      cases lookup : state.mapAgents[object.fd]? with
      | some agent => exact ⟨agent, rfl⟩
      | none =>
          have popped : Alive { state with packList } socket object := alive
          have closed := pairClose_absent calls popped lookup
          simp only [step, pairCallback, head] at stepped
          obtain rfl := Except.ok.inj (stepped.symm.trans closed)
          have twice := once object.thread socket
          rw [closes_queueIOThread] at twice
          obtain waits | ⟨thread, waits⟩ | ⟨agent, agentObject, registered⟩ :=
            attended.served socket object alive
          · have first := sound.acceptFirst
            rw [head] at waits first
            have later : .accept socket ∈ packList := by simpa using waits
            exact absurd rfl ((List.pairwise_cons.mp first).1 _ later)
          · obtain rfl := attended.onThread thread socket object waits alive.1
            have earlier := List.count_pos_iff.mpr waits
            simp [closes] at twice
            omega
          · rw [registered.1] at lookup
            cases lookup
  | _ => trivial

/-! ### Packets on their way to the logic -/

/-- Every packet that the IO threads have queued has been handed to the logic
or waits, in the order of queueing. -/
def PacketsKept (state : ServerState) : Prop :=
  state.history.asynRecived =
    state.history.callbacks.filterMap CallbackCall.packet? ++
      state.packList.filterMap MainPackage.packet?

theorem PacketsKept.taken (kept : PacketsKept state) {package : MainPackage}
    {calls : List CallbackCall}
    (head : state.packList = package :: next.packList)
    (callbacks : next.history.callbacks = state.history.callbacks ++ calls)
    (asynRecived : next.history.asynRecived = state.history.asynRecived)
    (hands : calls.filterMap CallbackCall.packet? = package.packet?.toList) :
    PacketsKept next := by
  unfold PacketsKept at kept ⊢
  rw [asynRecived, callbacks, List.filterMap_append, hands, kept, head]
  cases brings : package.packet? with
  | none => simp [brings]
  | some packet => simp [brings]

theorem PacketsKept.queued (kept : PacketsKept state) {package : MainPackage}
    (packList : next.packList = state.packList ++ [package])
    (callbacks : next.history.callbacks = state.history.callbacks)
    (asynRecived : next.history.asynRecived =
      state.history.asynRecived ++ package.packet?.toList) :
    PacketsKept next := by
  unfold PacketsKept at kept ⊢
  rw [asynRecived, callbacks, packList, List.filterMap_append, kept,
    List.append_assoc]
  cases brings : package.packet? with
  | none => simp [brings]
  | some packet => simp [brings]

theorem PacketsKept.frame (kept : PacketsKept state)
    (packList : next.packList = state.packList)
    (history : next.history.callbacks = state.history.callbacks)
    (asynRecived : next.history.asynRecived = state.history.asynRecived) :
    PacketsKept next := by
  unfold PacketsKept
  rw [packList, history, asynRecived]
  exact kept

theorem PacketsKept.transition (kept : PacketsKept state)
    (transition : Transition state action next) : PacketsKept next := by
  cases transition with
  | idle => exact kept
  | acceptQueued => exact kept.frame rfl rfl rfl
  | sent _ sends =>
      exact kept.frame sends.packList
        (congrArg ServerHistory.callbacks sends.history)
        (congrArg ServerHistory.asynRecived sends.history)
  | accepted _ _ head _ _ sends =>
      have asynRecived := congrArg ServerHistory.asynRecived sends.history
      exact kept.taken (head.trans (congrArg _ sends.packList.symm))
        (congrArg ServerHistory.callbacks sends.history) asynRecived rfl
  | acceptRefused _ _ head =>
      exact kept.taken head (List.append_nil _).symm rfl rfl
  | received _ _ head _ _ _ sends =>
      have asynRecived := congrArg ServerHistory.asynRecived sends.history
      exact kept.taken (head.trans (congrArg _ sends.packList.symm))
        (congrArg ServerHistory.callbacks sends.history) asynRecived rfl
  | closed _ _ head _ _ _ sends =>
      have asynRecived := congrArg ServerHistory.asynRecived sends.history
      exact kept.taken (head.trans (congrArg _ sends.packList.symm))
        (congrArg ServerHistory.callbacks sends.history) asynRecived rfl
  | closedAgain _ _ head =>
      exact kept.taken head (List.append_nil _).symm rfl rfl
  | ioAccepted created =>
      cases created with
      | true => exact kept.queued rfl rfl (List.append_nil _).symm
      | false => exact kept.frame rfl rfl rfl
  | ioSent => exact kept.frame rfl rfl rfl
  | ioClosed => exact kept.frame rfl rfl rfl
  | flushed => exact kept.frame rfl rfl rfl
  | packetQueued => exact kept.queued rfl rfl rfl
  | lossReported => exact kept.queued rfl rfl (List.append_nil _).symm

/-! ### The books at rest -/

/-- What the books of the server say once nothing is left to do.  A socket is
gone exactly if it has reported the loss of its connection; every other socket
has an agent of its own, and every agent that is left serves such a socket.
All the counters count these sockets, and the logic has been given every packet
that was queued, in the order of queueing. -/
structure Settled (state : ServerState) : Prop where
  destroyed : ∀ (socket : Nat) (object : SocketObject),
    state.sockets[socket]? = some object →
      (object.destroyed = true ↔ object.Reported)
  served : ∀ socket object, state.Alive socket object →
    ∃ agent, state.Registered object.fd agent { socket, deleted := false }
  serving : ∀ (agent : Nat) (object : AgentObject),
    state.agents[agent]? = some object → object.deleted = false →
      ∃ target, state.Alive object.socket target ∧
        state.Registered target.fd agent object
  counted : Counted state
  connections : state.nNowSocketCount =
    (state.sockets.filter fun object => !object.destroyed).length
  packets : state.history.asynRecived =
    state.history.callbacks.filterMap CallbackCall.packet?

theorem DistinctDescriptors.nodup_fds (distinct : DistinctDescriptors state) :
    ((state.sockets.filter fun object => !object.destroyed).map
      (·.fd)).Nodup := by
  refine List.pairwise_map.mpr (List.pairwise_filter.mpr
    (List.pairwise_iff_getElem.mpr ?_))
  intro first second inFirst inSecond before firstAlive secondAlive same
  have firstSocket : state.Alive first state.sockets[first] :=
    ⟨List.getElem?_eq_getElem inFirst, by simpa using firstAlive⟩
  have secondSocket : state.Alive second state.sockets[second] :=
    ⟨List.getElem?_eq_getElem inSecond, by simpa using secondAlive⟩
  have one := distinct.alive first second _ _ firstSocket secondSocket same
  omega

namespace AtRest

theorem not_closing (rest : AtRest state) (socket : Nat) :
    ¬ state.Closing socket := by
  rintro ⟨thread, waits⟩
  rw [rest.threads] at waits
  cases waits

theorem closedOnce (rest : AtRest state) : ClosedOnce state := by
  intro thread socket
  unfold closes
  rw [rest.threads, List.count_nil, Nat.zero_add]
  exact Bool.toNat_le _

section Attended

variable (rest : AtRest state) (attended : Attended state)
include rest attended

theorem destroyed_iff {socket : Nat} {object : SocketObject}
    (found : state.sockets[socket]? = some object) :
    object.destroyed = true ↔ object.Reported := by
  constructor
  · intro destroyed
    exact attended.reported socket object found (.inr (.inr destroyed))
  · intro reported
    cases alive : object.destroyed with
    | true => rfl
    | false =>
        obtain waits | closing :=
          attended.lost socket object ⟨found, alive⟩ reported
        · rw [rest.main] at waits
          cases waits
        · exact absurd closing (rest.not_closing socket)

variable (sound : Sound state)
include sound

theorem served (distinct : DistinctDescriptors state) {socket : Nat}
    {object : SocketObject} (alive : state.Alive socket object) :
    ∃ agent, state.Registered object.fd agent
      { socket, deleted := false } := by
  obtain waits | closing | ⟨agent, agentObject, registered⟩ :=
    attended.served socket object alive
  · rw [rest.main] at waits
    cases waits
  · exact absurd closing (rest.not_closing socket)
  · have own := distinct.own_agent sound alive registered
    have notDeleted := registered.2.2
    cases agentObject
    cases own
    cases notDeleted
    exact ⟨agent, registered⟩

/-- The descriptors of the live sockets are the keys of the agent map. -/
theorem size_mapAgents (distinct : DistinctDescriptors state) :
    state.mapAgents.size =
      (state.sockets.filter fun object => !object.destroyed).length := by
  have keys : ((state.sockets.filter fun object => !object.destroyed).map
      (·.fd)).Perm state.mapAgents.keys := by
    refine (List.perm_ext_iff_of_nodup distinct.nodup_fds
      Std.TreeMap.nodup_keys).mpr ?_
    intro fd
    simp only [List.mem_map, List.mem_filter, Std.TreeMap.mem_keys,
      Std.TreeMap.mem_iff_isSome_getElem?, Bool.not_eq_true']
    constructor
    · rintro ⟨object, ⟨there, alive⟩, rfl⟩
      obtain ⟨socket, found⟩ := List.mem_iff_getElem?.mp there
      obtain ⟨agent, registered⟩ :=
        rest.served attended sound distinct ⟨found, alive⟩
      rw [registered.1]
      rfl
    · intro present
      obtain ⟨agent, lookup⟩ := Option.isSome_iff_exists.mp present
      obtain ⟨agentObject, -, registered, -⟩ := sound.agents fd agent lookup
      obtain ⟨⟨object, alive⟩, -⟩ :=
        sound.registeredOpen fd agent agentObject registered
      exact ⟨object, ⟨List.mem_of_getElem? alive.1, alive.2⟩,
        sound.agents.target_fd registered alive.1⟩
  calc
    state.mapAgents.size = state.mapAgents.keys.length :=
      Std.TreeMap.length_keys.symm
    _ = _ := keys.length_eq.symm
    _ = _ := List.length_map _

end Attended

end AtRest

/-- What holds in every state of a run in which `accept` returns no descriptor
that is in use. -/
structure Booked (state : ServerState) : Prop where
  sound : Sound state
  distinct : DistinctDescriptors state
  attended : Attended state
  counted : ClosedOnce state → Counted state
  packets : PacketsKept state

theorem initial_booked (nMaxSockets : Int) (nThreadCount : Nat) :
    Booked (initial nMaxSockets nThreadCount) where
  sound := initial_sound nMaxSockets nThreadCount
  distinct := initial_distinctDescriptors nMaxSockets nThreadCount
  attended := initial_attended nMaxSockets nThreadCount
  counted _ := ⟨by simp [initial], rfl⟩
  packets := rfl

theorem Booked.step {host : Host} (booked : Booked state)
    (meets : AcceptsUnused state action)
    (stepped : state.step host action = .ok next) : Booked next := by
  have effect := step_transition stepped
  refine ⟨booked.sound.transition effect,
    booked.distinct.transition meets effect,
    booked.attended.transition effect booked.sound booked.distinct, ?_,
    booked.packets.transition effect⟩
  intro once
  have earlier : ClosedOnce state := fun thread socket =>
    Nat.le_trans (effect.closes_le thread socket) (once thread socket)
  exact (booked.counted earlier).transition booked.sound.agents effect
    (once.closesRegistered booked.attended booked.sound stepped)

theorem Booked.settled (booked : Booked state) (rest : AtRest state) :
    Settled state := by
  have counted := booked.counted rest.closedOnce
  refine ⟨fun _ _ => rest.destroyed_iff booked.attended,
    fun _ _ => rest.served booked.attended booked.sound booked.distinct,
    ?_, counted, ?_, ?_⟩
  · intro agent object found notDeleted
    obtain ⟨fd, registered⟩ :=
      booked.attended.kept agent object found notDeleted
    obtain ⟨⟨target, alive⟩, -⟩ :=
      booked.sound.registeredOpen fd agent object registered
    refine ⟨target, alive, ?_⟩
    rw [booked.sound.agents.target_fd registered alive.1]
    exact registered
  · rw [counted.agents, rest.size_mapAgents booked.attended booked.sound
      booked.distinct]
  · have kept := booked.packets
    unfold PacketsKept at kept
    rw [kept, rest.main]
    exact List.append_nil _

/-- In every run of the server in which `accept` returns no descriptor that is
in use, the books are in order in each state in which no package waits: what
the threads were told about the connections has reached every one of them. -/
theorem serverAtRest (host : Host) (nMaxSockets : Int) (nThreadCount : Nat)
    (actions : List ServerAction)
    (meets : MeetsAlong (step host) AcceptsUnused
      (initial nMaxSockets nThreadCount) actions)
    {final : ServerState}
    (ran : runActions (step host) (initial nMaxSockets nThreadCount) actions =
      .ok final)
    (rest : AtRest final) : Settled final := by
  have booked : Booked final := by
    refine invariant_of_meetsAlong ?_
      (initial_booked nMaxSockets nThreadCount) meets ran
    intro state action next booked meets stepped
    exact booked.step meets stepped
  exact booked.settled rest

/-- Of two connections one is lost and closed, and the other one stays. -/
def oneStays : List ServerAction :=
  [.acceptCallback 7, .acceptCallback 8, .ioPairCallback 0 true true,
    .ioPairCallback 0 true true, .pairCallback 0 [], .pairCallback 0 [],
    .readCallback 1 [4, 0, 2, 0], .eventCallback 0 .reading,
    .pairCallback 0 [], .pairCallback 0 [], .ioPairCallback 0 true true]

theorem serverAtRest_oneStays :
    ∃ final, runActions (step .little) (initial 10 1) oneStays = .ok final ∧
      Settled final := by
  refine ⟨_, rfl, serverAtRest .little 10 1 oneStays ?_ rfl ⟨rfl, ?_⟩⟩
  · refine ⟨?_, fun first accepted => ⟨?_, fun second _ => ?_⟩⟩
    · rintro (⟨socket, object, alive, -⟩ | ⟨thread, waits⟩)
      · simp [Alive, initial] at alive
      · simp [initial] at waits
    · obtain rfl := Except.ok.inj accepted
      rintro (⟨socket, object, alive, -⟩ | ⟨thread, waits⟩)
      · simp [Alive, acceptCallback, queueIOThread, setIOThread, initial]
          at alive
      · have different : UInt64.ofInt 8 ≠ UInt64.ofInt 7 := by decide
        obtain before | ⟨-, same⟩ := mem_queueIOThread.mp waits
        · simp [initial] at before
        · exact different (IOPackage.accept.inj same)
    · exact meetsAlong_of_forall (by simp [AcceptsUnused])
  · intro thread
    cases thread with
    | zero => rfl
    | succ thread => rfl

end ServerState

end EchoServer
