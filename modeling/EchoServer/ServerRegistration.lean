import EchoServer.MapLookup
import EchoServer.ServerTransitions

/-!
# What the agent map points to

Agents are registered under descriptors and looked up by them.  Whatever the
threads do, an agent in the map has not been deleted, and the socket it was
made for has the descriptor it is registered under.
-/

namespace EchoServer

open LabelledRun

namespace ServerState

variable {state next : ServerState}

theorem registerAgent_lookup (state : ServerState) (socket : Nat)
    (fd key : UInt64) :
    (state.registerAgent socket fd).mapAgents[key]? =
      if key = fd then some state.agents.length
      else state.mapAgents[key]? :=
  MapLookup.insert_getElem? state.mapAgents fd key state.agents.length

theorem registerAgent_agents {agent : Nat} {object : AgentObject}
    (there : state.agents[agent]? = some object) (socket : Nat)
    (fd : UInt64) :
    (state.registerAgent socket fd).agents[agent]? = some object :=
  (List.getElem?_append_left (List.getElem?_eq_some_iff.mp there).1).trans
    there

theorem withoutAgent_lookup (state : ServerState) (fd key : UInt64)
    (agent : Nat) (object : AgentObject) :
    (state.withoutAgent fd agent object).mapAgents[key]? =
      if key = fd then none else state.mapAgents[key]? :=
  MapLookup.erase_getElem? state.mapAgents fd key

/-- Every agent in the map is there and made for a socket with its
descriptor. -/
def AgentsRegistered (state : ServerState) : Prop :=
  ∀ fd agent, state.mapAgents[fd]? = some agent →
    ∃ object target, state.Registered fd agent object ∧
      state.sockets[object.socket]? = some target ∧ target.fd = fd

/-- What a socket keeps over a step: its descriptor and its thread; it is not
brought back to life, and what it has reported stays reported. -/
structure KeepsObject (object kept : SocketObject) : Prop where
  fd : kept.fd = object.fd
  thread : kept.thread = object.thread
  alive : kept.destroyed = false → object.destroyed = false
  reported : object.Reported → kept.Reported

theorem KeepsObject.refl (object : SocketObject) :
    KeepsObject object object :=
  ⟨rfl, rfl, id, id⟩

/-- Every socket stays where it is. -/
def KeepsSockets (state next : ServerState) : Prop :=
  ∀ (socket : Nat) object, state.sockets[socket]? = some object →
    ∃ kept, next.sockets[socket]? = some kept ∧ KeepsObject object kept

theorem KeepsSockets.of_eq (same : next.sockets = state.sockets) :
    KeepsSockets state next := by
  intro socket object found
  exact ⟨object, same ▸ found, .refl object⟩

theorem KeepsSockets.of_append {new : List SocketObject}
    (grown : next.sockets = state.sockets ++ new) :
    KeepsSockets state next := by
  intro socket object found
  refine ⟨object, ?_, .refl object⟩
  rw [grown, List.getElem?_append_left (List.getElem?_eq_some_iff.mp found).1]
  exact found

theorem KeepsSockets.of_set {socket : Nat} {object changed : SocketObject}
    (found : state.sockets[socket]? = some object)
    (updated : next.sockets = state.sockets.set socket changed)
    (keeps : KeepsObject object changed) : KeepsSockets state next := by
  intro other otherObject otherFound
  rw [updated]
  by_cases same : socket = other
  · subst same
    obtain rfl := Option.some.inj (found.symm.trans otherFound)
    have inRange := (List.getElem?_eq_some_iff.mp found).1
    exact ⟨changed, List.getElem?_set_self inRange, keeps⟩
  · exact ⟨otherObject, by rw [List.getElem?_set_ne same, otherFound],
      .refl otherObject⟩

theorem report_keeps (object : SocketObject) (side : BevSide) :
    KeepsObject object (SocketSide.report object side) where
  fd := by cases side <;> rfl
  thread := by cases side <;> rfl
  alive := by cases side <;> exact id
  reported := by
    cases side with
    | reading => exact fun _ => .inl rfl
    | writing => exact fun _ => .inr rfl

theorem report_reported (object : SocketObject) (side : BevSide) :
    (SocketSide.report object side).Reported := by
  cases side with
  | reading => exact .inl rfl
  | writing => exact .inr rfl

theorem report_destroyed (object : SocketObject) (side : BevSide) :
    (SocketSide.report object side).destroyed = object.destroyed := by
  cases side <;> rfl

theorem Transition.keepsSockets {action : ServerAction}
    (transition : Transition state action next) :
    KeepsSockets state next := by
  cases transition with
  | idle => exact .of_eq rfl
  | acceptQueued => exact .of_eq rfl
  | sent _ sends => exact .of_eq sends.sockets
  | accepted _ _ _ _ _ sends =>
      exact .of_eq sends.sockets
  | acceptRefused => exact .of_eq rfl
  | received _ _ _ _ _ _ sends =>
      exact .of_eq sends.sockets
  | closed _ _ _ _ _ _ sends =>
      exact .of_eq sends.sockets
  | closedAgain => exact .of_eq rfl
  | ioAccepted created expanded head =>
      cases created with
      | true => exact .of_append rfl
      | false => exact .of_eq rfl
  | ioSent => exact .of_eq rfl
  | ioClosed _ _ _ alive =>
      exact .of_set alive.1 rfl ⟨rfl, rfl, nofun, id⟩
  | flushed => exact .of_eq rfl
  | packetQueued => exact .of_eq rfl
  | @lossReported _ object side alive =>
      exact .of_set alive.1 rfl (report_keeps object side)

/-- A step that leaves the map and the agents alone keeps the registrations. -/
theorem AgentsRegistered.frame (invariant : AgentsRegistered state)
    (map : next.mapAgents = state.mapAgents)
    (agents : next.agents = state.agents)
    (keeps : KeepsSockets state next) : AgentsRegistered next := by
  intro fd agent lookup
  rw [map] at lookup
  obtain ⟨object, target, registered, found, rfl⟩ := invariant fd agent lookup
  obtain ⟨kept, keptFound, keptObject⟩ := keeps _ _ found
  unfold Registered
  rw [map, agents]
  exact ⟨object, kept, registered, keptFound, keptObject.fd⟩

theorem AgentsRegistered.registerAgent (invariant : AgentsRegistered state)
    {socket : Nat} {object : SocketObject}
    (alive : state.Alive socket object) :
    AgentsRegistered (state.registerAgent socket object.fd) := by
  intro fd agent lookup
  unfold Registered
  have found := lookup
  rw [registerAgent_lookup] at lookup
  split_ifs at lookup with same
  · obtain rfl := Option.some.inj lookup
    refine ⟨_, object, ⟨found, List.getElem?_concat_length, rfl⟩, alive.1,
      same.symm⟩
  · obtain ⟨old, target, ⟨-, there, notDeleted⟩, targetFound, fdEq⟩ :=
      invariant fd agent lookup
    have kept := registerAgent_agents there socket object.fd
    exact ⟨old, target, ⟨found, kept, notDeleted⟩, targetFound, fdEq⟩

/-- The agent under a descriptor was made for a socket with that
descriptor. -/
theorem AgentsRegistered.target_fd (invariant : AgentsRegistered state)
    {fd : UInt64} {agent : Nat} {object : AgentObject}
    {target : SocketObject} (registered : state.Registered fd agent object)
    (found : state.sockets[object.socket]? = some target) :
    target.fd = fd := by
  obtain ⟨again, againTarget, againRegistered, againFound, fdEq⟩ :=
    invariant fd agent registered.1
  obtain rfl :=
    Option.some.inj (registered.2.1.symm.trans againRegistered.2.1)
  obtain rfl := Option.some.inj (found.symm.trans againFound)
  exact fdEq

/-- No agent is registered under two descriptors. -/
theorem AgentsRegistered.key_unique (invariant : AgentsRegistered state)
    {fd key : UInt64} {agent : Nat} {object other : AgentObject}
    (registered : state.Registered fd agent object)
    (again : state.Registered key agent other) : key = fd := by
  obtain rfl := Option.some.inj (registered.2.1.symm.trans again.2.1)
  obtain ⟨found, target, foundRegistered, targetFound, rfl⟩ :=
    invariant fd agent registered.1
  obtain rfl :=
    Option.some.inj (registered.2.1.symm.trans foundRegistered.2.1)
  exact (invariant.target_fd again targetFound).symm

theorem AgentsRegistered.registered_registerAgent
    (invariant : AgentsRegistered state) {socket : Nat} {fd : UInt64}
    (absent : state.mapAgents[fd]? = none) {key : UInt64} {agent : Nat}
    {object : AgentObject} :
    (state.registerAgent socket fd).Registered key agent object ↔
      state.Registered key agent object ∨
        key = fd ∧ agent = state.agents.length ∧
          object = { socket, deleted := false } := by
  constructor
  · rintro ⟨lookup, there, notDeleted⟩
    rw [registerAgent_lookup] at lookup
    split_ifs at lookup with same
    · obtain rfl := Option.some.inj lookup
      have new : (state.registerAgent socket fd).agents[state.agents.length]? =
          some { socket, deleted := false } := List.getElem?_concat_length
      exact .inr ⟨same, rfl, Option.some.inj (there.symm.trans new)⟩
    · obtain ⟨old, _, ⟨_, oldThere, _⟩, _⟩ := invariant key agent lookup
      have kept := registerAgent_agents oldThere socket fd
      obtain rfl := Option.some.inj (kept.symm.trans there)
      exact .inl ⟨lookup, oldThere, notDeleted⟩
  · rintro (⟨lookup, there, notDeleted⟩ | ⟨rfl, rfl, rfl⟩)
    · refine ⟨?_, registerAgent_agents there socket fd, notDeleted⟩
      rw [registerAgent_lookup, if_neg]
      · exact lookup
      · rintro rfl
        rw [absent] at lookup
        cases lookup
    · refine ⟨?_, List.getElem?_concat_length, rfl⟩
      rw [registerAgent_lookup, if_pos rfl]

theorem AgentsRegistered.registered_withoutAgent
    (invariant : AgentsRegistered state) {fd : UInt64} {agent : Nat}
    {object : AgentObject} (registered : state.Registered fd agent object)
    {key : UInt64} {other : Nat} {otherObject : AgentObject} :
    (state.withoutAgent fd agent object).Registered key other otherObject ↔
      state.Registered key other otherObject ∧ key ≠ fd := by
  have deletes : (state.withoutAgent fd agent object).agents =
      state.agents.set agent { object with deleted := true } := rfl
  unfold Registered
  rw [withoutAgent_lookup, deletes, List.getElem?_set]
  constructor
  · rintro ⟨lookup, there, notDeleted⟩
    split_ifs at lookup with same
    split_ifs at there
    · obtain rfl := Option.some.inj there
      cases notDeleted
    · exact ⟨⟨lookup, there, notDeleted⟩, same⟩
  · rintro ⟨stays, different⟩
    have others : agent ≠ other := by
      rintro rfl
      exact different (invariant.key_unique registered stays)
    rw [if_neg different, if_neg others]
    exact stays

/-- Deleting the agent under a descriptor leaves the others, which are
registered under other descriptors. -/
theorem AgentsRegistered.withoutAgent (invariant : AgentsRegistered state)
    {fd : UInt64} {agent : Nat} {object : AgentObject}
    (registered : state.Registered fd agent object) :
    AgentsRegistered (state.withoutAgent fd agent object) := by
  intro key other lookup
  rw [withoutAgent_lookup] at lookup
  split_ifs at lookup with same
  obtain ⟨old, target, oldRegistered, targetFound, fdEq⟩ :=
    invariant key other lookup
  have stays := (invariant.registered_withoutAgent registered).mpr
    ⟨oldRegistered, same⟩
  exact ⟨old, target, stays, targetFound, fdEq⟩

theorem AgentsRegistered.transition (invariant : AgentsRegistered state)
    {action : ServerAction} (transition : Transition state action next) :
    AgentsRegistered next := by
  have keeps := transition.keepsSockets
  cases transition with
  | idle => exact invariant
  | acceptQueued => exact invariant.frame rfl rfl keeps
  | sent _ sends =>
      exact invariant.frame sends.mapAgents
        sends.agents keeps
  | accepted _ _ _ alive _ sends =>
      exact (invariant.registerAgent alive).frame
        sends.mapAgents sends.agents
        (.of_eq sends.sockets)
  | acceptRefused => exact invariant.frame rfl rfl keeps
  | received _ _ _ _ _ _ sends =>
      exact invariant.frame sends.mapAgents
        sends.agents keeps
  | closed _ _ _ _ registered targetAlive sends =>
      have sameFd := invariant.target_fd registered targetAlive.1
      have deleted := invariant.withoutAgent registered
      apply deleted.frame
      · simp only [ServerState.withoutAgent, queueIOThread, setIOThread, sameFd]
        rw [sends.mapAgents]
        rfl
      · simp only [ServerState.withoutAgent, queueIOThread, setIOThread]
        rw [sends.agents]
        rfl
      · exact .of_eq sends.sockets
  | closedAgain => exact invariant.frame rfl rfl keeps
  | ioAccepted created expanded head =>
      cases created with
      | true => exact invariant.frame rfl rfl keeps
      | false => exact invariant.frame rfl rfl keeps
  | ioSent => exact invariant.frame rfl rfl keeps
  | ioClosed => exact invariant.frame rfl rfl keeps
  | flushed => exact invariant.frame rfl rfl keeps
  | packetQueued => exact invariant.frame rfl rfl keeps
  | lossReported => exact invariant.frame rfl rfl keeps

theorem initial_agentsRegistered (nMaxSockets : Int) (nThreadCount : Nat) :
    AgentsRegistered (initial nMaxSockets nThreadCount) := by
  intro fd agent lookup
  simp [initial] at lookup

end ServerState

end EchoServer
