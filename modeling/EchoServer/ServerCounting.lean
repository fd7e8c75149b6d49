import EchoServer.ServerRegistration

/-!
# Counting connections

`ServerSocket` counts its connections, keeps an agent for each of them in
`_mapAgents`, and the `Server` behind the callbacks counts them again.  The
counts drift apart exactly at a `close` package whose socket has no agent any
more, as the second one of a socket that reports its loss on both sides.
-/

namespace EchoServer

open LabelledRun

namespace ServerState

variable {state next : ServerState}

/-- The three counts of the connections agree. -/
structure Counted (state : ServerState) : Prop where
  agents : state.nNowSocketCount = state.mapAgents.size
  server : state.nNowSocketCount = state.server.nSocketCount

/-- A `close` package that the main thread takes finds an agent. -/
def ClosesRegistered (state : ServerState) : ServerAction → Prop
  | .pairCallback _ _ =>
      ∀ socket packList object,
        state.packList = .close socket :: packList →
          state.Alive socket object →
            ∃ agent, state.mapAgents[object.fd]? = some agent
  | _ => True

theorem size_insert_absent {map : Std.TreeMap UInt64 Nat} {fd : UInt64}
    (absent : map[fd]? = none) (agent : Nat) :
    ((map.insert fd agent).size : Int) = map.size + 1 := by
  have notContained : map.contains fd = false := by
    simp [Std.TreeMap.contains_eq_isSome_getElem?, absent]
  simp [Std.TreeMap.size_insert, notContained]

theorem size_erase_present {map : Std.TreeMap UInt64 Nat} {fd : UInt64}
    {agent : Nat} (present : map[fd]? = some agent) :
    ((map.erase fd).size : Int) = map.size - 1 := by
  have contained : map.contains fd = true := by
    simp [Std.TreeMap.contains_eq_isSome_getElem?, present]
  have nonempty : map.size ≠ 0 := by
    intro empty
    rw [← beq_iff_eq, ← Std.TreeMap.isEmpty_eq_size_eq_zero] at empty
    simp [Std.TreeMap.contains_of_isEmpty empty] at contained
  simp only [Std.TreeMap.size_erase, contained, if_true]
  omega

theorem Counted.frame (counted : Counted state)
    (count : next.nNowSocketCount = state.nNowSocketCount)
    (map : next.mapAgents = state.mapAgents)
    (server : next.server.nSocketCount = state.server.nSocketCount) :
    Counted next :=
  ⟨by rw [count, map, counted.agents], by rw [count, server, counted.server]⟩

/-- A step keeps the counts if a `close` package finds an agent. -/
theorem Counted.transition (counted : Counted state)
    (registrations : AgentsRegistered state) {action : ServerAction}
    (transition : Transition state action next)
    (finds : ClosesRegistered state action) : Counted next := by
  cases transition with
  | idle => exact counted
  | acceptQueued => exact counted.frame rfl rfl rfl
  | sent _ sends =>
      exact counted.frame sends.nNowSocketCount sends.mapAgents
        (congrArg Server.nSocketCount sends.server)
  | accepted _ _ _ _ absent sends =>
      constructor
      · rw [sends.nNowSocketCount, sends.mapAgents]
        calc
          state.nNowSocketCount + 1 = state.mapAgents.size + 1 :=
            congrArg (· + 1) counted.agents
          _ = _ := (size_insert_absent absent _).symm
      · rw [sends.nNowSocketCount, sends.server]
        exact congrArg (· + 1) counted.server
  | acceptRefused => exact counted.frame rfl rfl rfl
  | received _ _ _ _ _ count sends =>
      exact counted.frame sends.nNowSocketCount sends.mapAgents
        ((congrArg Server.nSocketCount sends.server).trans count)
  | closed _ _ _ _ registered targetAlive sends =>
      have sameFd := registrations.target_fd registered targetAlive.1
      constructor
      · simp only [withoutAgent, queueIOThread, setIOThread]
        rw [sends.nNowSocketCount, sends.mapAgents, sameFd]
        calc
          state.nNowSocketCount - 1 = state.mapAgents.size - 1 :=
            congrArg (· - 1) counted.agents
          _ = _ := (size_erase_present registered.1).symm
      · simp only [withoutAgent, queueIOThread, setIOThread]
        rw [sends.nNowSocketCount, sends.server]
        exact congrArg (· - 1) counted.server
  | closedAgain _ _ head alive absent =>
      obtain ⟨agent, present⟩ := finds _ _ _ head alive
      rw [absent] at present
      cases present
  | ioAccepted created expanded head =>
      cases created with
      | true => exact counted.frame rfl rfl rfl
      | false => exact counted.frame rfl rfl rfl
  | ioSent => exact counted.frame rfl rfl rfl
  | ioClosed => exact counted.frame rfl rfl rfl
  | flushed => exact counted.frame rfl rfl rfl
  | packetQueued => exact counted.frame rfl rfl rfl
  | lossReported => exact counted.frame rfl rfl rfl

/-- A `close` package without an agent still lowers the counter of
`ServerSocket`. -/
theorem pairClose_absent (calls : List LogicCall) {socket : Nat}
    {object : SocketObject} (alive : state.Alive socket object)
    (absent : state.mapAgents[object.fd]? = none) :
    state.pairClose calls socket =
      .ok (queueIOThread object.thread (.close socket)
        { state with nNowSocketCount := state.nNowSocketCount - 1 }) := by
  let lowered : ServerState :=
    { state with nNowSocketCount := state.nNowSocketCount - 1 }
  have stillAlive : lowered.Alive socket object := alive
  have noAgent : lowered.getAgent socket = .ok none := by
    rw [getAgent_alive stillAlive]
    exact congrArg _ absent
  calc
    state.pairClose calls socket =
        lowered.getAgent socket >>= fun agent =>
          lowered.closeAgent calls socket agent >>= asynClose socket := rfl
    _ = lowered.asynClose socket := by
      rw [noAgent]
      rfl
    _ = .ok (lowered.queueIOThread object.thread (.close socket)) :=
      asynClose_alive stillAlive

/-- One step keeps the counts exactly if a `close` package that it takes finds
an agent. -/
theorem step_counted_iff (host : ByteOrder.Host) (action : ServerAction)
    (registrations : AgentsRegistered state) (counted : Counted state) :
    (∀ next, state.step host action = .ok next → Counted next) ↔
      ClosesRegistered state action := by
  constructor
  · intro keeps
    cases action with
    | pairCallback now calls =>
        intro socket packList object head alive
        cases lookup : state.mapAgents[object.fd]? with
        | some agent => exact ⟨agent, rfl⟩
        | none =>
            have popped : Alive { state with packList } socket object := alive
            have stepped := pairClose_absent calls popped lookup
            have drifted := (keeps _ (by
              simp only [step, pairCallback, head]
              exact stepped)).server
            have agreed := counted.server
            simp only [queueIOThread, setIOThread] at drifted
            omega
    | _ => trivial
  · intro finds next stepped
    exact counted.transition registrations (step_transition stepped) finds

/-- In a run of the server the counts agree in every state that it reaches if
and only if every `close` package taken finds an agent. -/
theorem serverCounting_iff (host : ByteOrder.Host) (nMaxSockets : Int)
    (nThreadCount : Nat) (actions : List ServerAction) :
    HoldsWhereReached (step host) Counted (initial nMaxSockets nThreadCount)
        actions ↔
      MeetsAlong (step host) ClosesRegistered
        (initial nMaxSockets nThreadCount) actions := by
  apply holdsWhereReached_iff
  · intro state action next registrations stepped
    exact AgentsRegistered.transition registrations (step_transition stepped)
  · intro state action registrations counted
    exact step_counted_iff host action registrations counted
  · exact initial_agentsRegistered nMaxSockets nThreadCount
  · exact ⟨by simp [initial], rfl⟩

/-- The second package for the same loss is counted once more. -/
theorem serverCounting_lostOnBothSides :
    ¬ HoldsWhereReached (step .little) Counted (initial 10 1)
      lostOnBothSides := by
  intro holds
  have drifts : (match runActions (step .little) (initial 10 1)
        lostOnBothSides with
      | .ok final =>
          decide (final.nNowSocketCount = final.server.nSocketCount)
      | .error _ => true) = false := by
    decide +kernel
  cases ran : runActions (step .little) (initial 10 1) lostOnBothSides with
  | error fault => simp [ran] at drifts
  | ok final =>
      have counted := holds lostOnBothSides [] final (by simp) ran
      simp [ran, counted.server] at drifts

end ServerState

end EchoServer
