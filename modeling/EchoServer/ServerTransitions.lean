import EchoServer.FaultingComputation
import EchoServer.ServerSteps

/-!
# What a step of the server can do

`Transition` lists the effects that a step without a fault can have, with what
each of them found in the state.  Every such step is one of them, so that the
invariants need not look into the callbacks again.
-/

namespace EchoServer

open ByteOrder FaultingComputation

namespace ServerState

/-- A socket that is there and not destroyed. -/
def Alive (state : ServerState) (socket : Nat) (object : SocketObject) :
    Prop :=
  state.sockets[socket]? = some object ∧ object.destroyed = false

/-- An agent registered under a descriptor and not deleted. -/
def Registered (state : ServerState) (fd : UInt64) (agent : Nat)
    (object : AgentObject) : Prop :=
  state.mapAgents[fd]? = some agent ∧ state.agents[agent]? = some object ∧
    object.deleted = false

theorem derefSocket_ok {state : ServerState} {socket : Nat}
    {object : SocketObject} :
    state.derefSocket socket = .ok object ↔ state.Alive socket object := by
  unfold derefSocket Alive
  cases found : state.sockets[socket]? with
  | none => simp
  | some other =>
      cases destroyed : other.destroyed with
      | false =>
          simp only [destroyed, Bool.false_eq_true, if_false, Except.ok.injEq,
            Option.some.injEq]
          constructor
          · rintro rfl
            exact ⟨rfl, destroyed⟩
          · rintro ⟨rfl, -⟩
            rfl
      | true =>
          simp only [destroyed, if_true, Option.some.injEq]
          constructor
          · intro impossible
            cases impossible
          · rintro ⟨rfl, alive⟩
            rw [destroyed] at alive
            cases alive

theorem derefAgent_ok {state : ServerState} {agent : Nat}
    {object : AgentObject} :
    state.derefAgent agent = .ok object ↔
      state.agents[agent]? = some object ∧ object.deleted = false := by
  unfold derefAgent
  cases found : state.agents[agent]? with
  | none => simp
  | some other =>
      cases deleted : other.deleted with
      | false =>
          simp only [deleted, Bool.false_eq_true, if_false, Except.ok.injEq,
            Option.some.injEq]
          constructor
          · rintro rfl
            exact ⟨rfl, deleted⟩
          · rintro ⟨rfl, -⟩
            rfl
      | true =>
          simp only [deleted, if_true, Option.some.injEq]
          constructor
          · intro impossible
            cases impossible
          · rintro ⟨rfl, alive⟩
            rw [deleted] at alive
            cases alive

theorem getAgent_ok {state : ServerState} {socket : Nat}
    {agent : Option Nat} (ran : state.getAgent socket = .ok agent) :
    ∃ object, state.Alive socket object ∧
      state.mapAgents[object.fd]? = agent := by
  obtain ⟨object, found, returned⟩ := bind_ok ran
  exact ⟨object, derefSocket_ok.mp found, Except.ok.inj returned⟩

theorem getAgent_alive {state : ServerState} {socket : Nat}
    {object : SocketObject} (alive : state.Alive socket object) :
    state.getAgent socket = .ok state.mapAgents[object.fd]? := by
  unfold getAgent
  rw [derefSocket_ok.mpr alive]
  rfl

theorem asynClose_alive {state : ServerState} {socket : Nat}
    {object : SocketObject} (alive : state.Alive socket object) :
    state.asynClose socket =
      .ok (state.queueIOThread object.thread (.close socket)) := by
  unfold asynClose
  rw [derefSocket_ok.mpr alive]
  rfl

theorem asynClose_ok {state next : ServerState} {socket : Nat}
    (ran : state.asynClose socket = .ok next) :
    ∃ object, state.Alive socket object ∧
      next = state.queueIOThread object.thread (.close socket) := by
  obtain ⟨object, found, returned⟩ := bind_ok ran
  exact ⟨object, derefSocket_ok.mp found, (Except.ok.inj returned).symm⟩

theorem send_ok {state next : ServerState} {agent : Nat} {buf : Bytes}
    (ran : state.send agent buf = .ok next) :
    ∃ object target, state.agents[agent]? = some object ∧
      object.deleted = false ∧ state.Alive object.socket target ∧
      next = state.queueIOThread target.thread (.sendBuf object.socket buf) := by
  obtain ⟨object, found, rest⟩ := bind_ok ran
  obtain ⟨target, alive, returned⟩ := bind_ok rest
  obtain ⟨there, notDeleted⟩ := derefAgent_ok.mp found
  exact ⟨object, target, there, notDeleted, derefSocket_ok.mp alive,
    (Except.ok.inj returned).symm⟩

/-- A state in which an agent has been deleted and taken out of the map. -/
def withoutAgent (fd : UInt64) (agent : Nat) (object : AgentObject)
    (state : ServerState) : ServerState :=
  { state with
    mapAgents := state.mapAgents.erase fd
    agents := state.agents.set agent { object with deleted := true } }

theorem deleteAgent_alive {state : ServerState} {agent : Nat}
    {object : AgentObject} {target : SocketObject}
    (there : state.agents[agent]? = some object)
    (notDeleted : object.deleted = false)
    (alive : state.Alive object.socket target) :
    state.deleteAgent agent =
      .ok (state.withoutAgent target.fd agent object) := by
  unfold deleteAgent
  rw [derefAgent_ok.mpr ⟨there, notDeleted⟩]
  simp only [bind, Except.bind]
  rw [derefSocket_ok.mpr alive]
  rfl

theorem deleteAgent_ok {state next : ServerState} {agent : Nat}
    (ran : state.deleteAgent agent = .ok next) :
    ∃ object target, state.agents[agent]? = some object ∧
      object.deleted = false ∧ state.Alive object.socket target ∧
      next = state.withoutAgent target.fd agent object := by
  obtain ⟨object, found, rest⟩ := bind_ok ran
  obtain ⟨target, alive, returned⟩ := bind_ok rest
  obtain ⟨there, notDeleted⟩ := derefAgent_ok.mp found
  exact ⟨object, target, there, notDeleted, derefSocket_ok.mp alive,
    (Except.ok.inj returned).symm⟩

/-- `closeByLogic` never comes to its end: the agent whose socket it asks for
has been deleted. -/
theorem closeByLogic_fails {state next : ServerState} {agent : Nat} :
    state.closeByLogic agent ≠ .ok next := by
  intro ran
  obtain ⟨object, -, ran⟩ := bind_ok ran
  obtain ⟨-, -, ran⟩ := bind_ok ran
  obtain ⟨middle, deleted, ran⟩ := bind_ok ran
  obtain ⟨again, found, -⟩ := bind_ok ran
  obtain ⟨old, target, there, -, -, rfl⟩ := deleteAgent_ok deleted
  obtain ⟨gone, notDeleted⟩ := derefAgent_ok.mp found
  have inRange : agent < List.length
      ((called (.onClientClose object.socket agent)
        { state with
          nNowSocketCount := state.nNowSocketCount - 1
          server := state.server.onClientClose }).agents) :=
    (List.getElem?_eq_some_iff.mp there).1
  simp only [withoutAgent, List.getElem?_set_self inRange,
    Option.some.injEq] at gone
  rw [← gone] at notDeleted
  cases notDeleted

/-- What the logic's calls can do without a fault: send to registered
agents. -/
inductive Sends : ServerState → ServerState → Prop
  | done (state : ServerState) : Sends state state
  | send {state next : ServerState} {fd : UInt64} {agent : Nat}
      {object : AgentObject} {target : SocketObject} (buf : Bytes)
      (registered : state.Registered fd agent object)
      (alive : state.Alive object.socket target)
      (rest : Sends
        (state.queueIOThread target.thread (.sendBuf object.socket buf)) next) :
      Sends state next

theorem Sends.trans {first second third : ServerState}
    (sends : Sends first second) (more : Sends second third) :
    Sends first third := by
  induction sends with
  | done => exact more
  | send buf registered alive rest ih =>
      exact .send buf registered alive (ih more)

theorem send_sends {state next : ServerState} {fd : UInt64} {agent : Nat}
    {buf : Bytes} (registered : state.mapAgents[fd]? = some agent)
    (ran : state.send agent buf = .ok next) : Sends state next := by
  obtain ⟨object, target, there, notDeleted, alive, rfl⟩ := send_ok ran
  exact .send buf ⟨registered, there, notDeleted⟩ alive (.done _)

theorem logicCall_sends {state next : ServerState} {call : LogicCall}
    (ran : state.logicCall call = .ok next) : Sends state next := by
  cases call with
  | send fd buf =>
      simp only [logicCall] at ran
      split at ran
      · rename_i agent found
        exact send_sends found ran
      · cases ran
        exact .done _
  | close fd =>
      simp only [logicCall] at ran
      split at ran
      · exact absurd ran closeByLogic_fails
      · cases ran
        exact .done _

theorem logicCalls_sends {state next : ServerState}
    {calls : List LogicCall} (ran : state.logicCalls calls = .ok next) :
    Sends state next := by
  induction calls generalizing state with
  | nil =>
      cases ran
      exact .done _
  | cons call calls ih =>
      obtain ⟨middle, called, rest⟩ := bind_ok ran
      exact (logicCall_sends called).trans (ih rest)

/-- Sending changes the queues of the IO threads only. -/
theorem Sends.frame {state next : ServerState} (sends : Sends state next) :
    next = { state with ioThreads := next.ioThreads } := by
  induction sends with
  | done => rfl
  | send buf registered alive rest ih => exact ih

section Frame

variable {state next : ServerState} (sends : Sends state next)
include sends

theorem Sends.packList : next.packList = state.packList := by
  rw [sends.frame]

theorem Sends.mapAgents : next.mapAgents = state.mapAgents := by
  rw [sends.frame]

theorem Sends.agents : next.agents = state.agents := by
  rw [sends.frame]

theorem Sends.sockets : next.sockets = state.sockets := by
  rw [sends.frame]

theorem Sends.server : next.server = state.server := by
  rw [sends.frame]

theorem Sends.history : next.history = state.history := by
  rw [sends.frame]

theorem Sends.nNowSocketCount :
    next.nNowSocketCount = state.nNowSocketCount := by
  rw [sends.frame]

end Frame

/-- What one send preserves, any number of them does. -/
theorem Sends.preserves {Invariant : ServerState → Prop}
    (send : ∀ state fd agent object target buf, Invariant state →
      state.Registered fd agent object → state.Alive object.socket target →
        Invariant
          (state.queueIOThread target.thread (.sendBuf object.socket buf)))
    {state next : ServerState} (initially : Invariant state)
    (sends : Sends state next) : Invariant next := by
  induction sends with
  | done => exact initially
  | send buf registered alive rest ih =>
      exact ih (send _ _ _ _ _ buf initially registered alive)

@[simp]
theorem setIOThread_ioThreads (thread : Nat) (ioThread : IOThread)
    (state : ServerState) :
    (state.setIOThread thread ioThread).ioThreads thread = ioThread := by
  simp [setIOThread]

@[simp]
theorem setIOThread_setIOThread (thread : Nat) (first second : IOThread)
    (state : ServerState) :
    (state.setIOThread thread first).setIOThread thread second =
      state.setIOThread thread second := by
  simp [setIOThread]

/-- The effects that a step without a fault can have. -/
inductive Transition : ServerState → ServerAction → ServerState → Prop
  | idle (state : ServerState) (action : ServerAction) :
      Transition state action state
  | acceptQueued (state : ServerState) (result : Int) (cursor : Nat) :
      Transition state (.acceptCallback result)
        { state.queueIOThread state.nCurrentThread
            (.accept (UInt64.ofInt result)) with
          nCurrentThread := cursor }
  | sent {state next : ServerState} (call : LogicCall)
      (sends : Sends state next) :
      Transition state (.logic call) next
  | accepted {state next : ServerState} {packList : List MainPackage}
      {socket : Nat} {object : SocketObject} (now : UInt32)
      (calls : List LogicCall)
      (head : state.packList = .accept socket :: packList)
      (alive : state.Alive socket object)
      (absent : state.mapAgents[object.fd]? = none)
      (sends : Sends
        (called (.onAcceptClient socket state.agents.length)
          (registerAgent socket object.fd { state with packList })) next) :
      Transition state (.pairCallback now calls) next
  | acceptRefused {state : ServerState} {packList : List MainPackage}
      {socket agent : Nat} {object : SocketObject} (now : UInt32)
      (calls : List LogicCall)
      (head : state.packList = .accept socket :: packList)
      (alive : state.Alive socket object)
      (present : state.mapAgents[object.fd]? = some agent) :
      Transition state (.pairCallback now calls) { state with packList }
  | received {state middle : ServerState} {packList : List MainPackage}
      {socket agent : Nat} {buf : Bytes} {object : SocketObject}
      {server : Server} (now : UInt32) (calls : List LogicCall)
      (head : state.packList = .recvBuf socket buf :: packList)
      (alive : state.Alive socket object)
      (present : state.mapAgents[object.fd]? = some agent)
      (count : server.nSocketCount = state.server.nSocketCount)
      (sends : Sends
        (called (.onClientRecive socket agent buf)
          { state with packList, server }) middle) :
      Transition state (.pairCallback now calls) (middle.release buf)
  | closed {state middle : ServerState} {packList : List MainPackage}
      {socket agent : Nat} {object target : SocketObject}
      {agentObject : AgentObject} (now : UInt32) (calls : List LogicCall)
      (head : state.packList = .close socket :: packList)
      (alive : state.Alive socket object)
      (registered : state.Registered object.fd agent agentObject)
      (targetAlive : state.Alive agentObject.socket target)
      (sends : Sends
        (called (.onClientClose socket agent)
          { state with
            packList
            nNowSocketCount := state.nNowSocketCount - 1
            server := state.server.onClientClose }) middle) :
      Transition state (.pairCallback now calls)
        ((middle.withoutAgent target.fd agent agentObject).queueIOThread
          object.thread (.close socket))
  | closedAgain {state : ServerState} {packList : List MainPackage}
      {socket : Nat} {object : SocketObject} (now : UInt32)
      (calls : List LogicCall)
      (head : state.packList = .close socket :: packList)
      (alive : state.Alive socket object)
      (absent : state.mapAgents[object.fd]? = none) :
      Transition state (.pairCallback now calls)
        (queueIOThread object.thread (.close socket)
          { state with
            packList
            nNowSocketCount := state.nNowSocketCount - 1 })
  | ioAccepted {state : ServerState} {packList : List IOPackage}
      {thread : Nat} {fd : UInt64} (created expanded : Bool)
      (head : (state.ioThreads thread).packList = .accept fd :: packList) :
      Transition state (.ioPairCallback thread created expanded)
        (ioAccept thread fd created
          (state.setIOThread thread { state.ioThreads thread with packList }))
  | ioSent {state : ServerState} {packList : List IOPackage}
      {thread socket : Nat} {buf : Bytes} {object : SocketObject}
      {needSendList : List Nat} (created expanded : Bool)
      (head : (state.ioThreads thread).packList =
        .sendBuf socket buf :: packList)
      (alive : state.Alive socket object)
      (needs : needSendList ⊆
        (state.ioThreads thread).needSendList ++ [socket]) :
      Transition state (.ioPairCallback thread created expanded)
        (release buf (state.setIOThread thread { packList, needSendList }))
  | ioClosed {state : ServerState} {packList : List IOPackage}
      {thread socket : Nat} {object : SocketObject} (created expanded : Bool)
      (head : (state.ioThreads thread).packList = .close socket :: packList)
      (alive : state.Alive socket object) :
      Transition state (.ioPairCallback thread created expanded)
        { state.setIOThread thread { state.ioThreads thread with packList } with
          sockets := state.sockets.set socket { object with destroyed := true }
          history :=
            { state.history with
              destroyed := state.history.destroyed ++ [socket] } }
  | flushed (state : ServerState) (thread : Nat) :
      Transition state (.ioFlush thread)
        (state.setIOThread thread
          { state.ioThreads thread with needSendList := [] })
  | packetQueued {state : ServerState} {socket : Nat}
      {object : SocketObject} (packet : Bytes)
      (alive : state.Alive socket object)
      (reading : object.readReported = false) :
      Transition state (.readCallback socket packet)
        (queueMain (.recvBuf socket packet)
          { state with
            history :=
              { state.history with
                asynRecived :=
                  state.history.asynRecived ++ [(socket, packet)] } })
  | lossReported {state : ServerState} {socket : Nat}
      {object : SocketObject} (side : BevSide)
      (alive : state.Alive socket object)
      (unreported : SocketSide.reported object side = false) :
      Transition state (.eventCallback socket side)
        (queueMain (.close socket)
          { state with
            sockets :=
              state.sockets.set socket (SocketSide.report object side) })

theorem pairAccept_transition {state next : ServerState}
    {packList : List MainPackage} {socket : Nat} (now : UInt32)
    {calls : List LogicCall}
    (head : state.packList = .accept socket :: packList)
    (ran : pairAccept calls socket { state with packList } = .ok next) :
    Transition state (.pairCallback now calls) next := by
  obtain ⟨agent, found, ran⟩ := bind_ok ran
  obtain ⟨object, alive, lookup⟩ := getAgent_ok found
  cases agent with
  | some agent =>
      cases ran
      exact .acceptRefused now calls head alive lookup
  | none =>
      obtain ⟨again, foundAgain, ran⟩ := bind_ok ran
      obtain rfl : object = again := by
        have same := (derefSocket_ok.mp foundAgain).1.symm.trans alive.1
        exact (Option.some.inj same).symm
      exact .accepted now calls head alive lookup (logicCalls_sends ran)

theorem onClientRecive_count (host : Host) (now : UInt32)
    (head : ProtocolHead) (buf : Bytes) (server : Server) :
    (server.onClientRecive host now head buf).1.nSocketCount =
      server.nSocketCount := by
  unfold Server.onClientRecive
  split_ifs
  · rfl
  · simp only
    split <;> rfl

theorem sendReply_sends {state next : ServerState} {fd : UInt64}
    {agent : Nat} {reply : Option Bytes}
    (ran : state.sendReply agent reply = .ok next)
    (present : state.mapAgents[fd]? = some agent) : Sends state next := by
  cases reply with
  | some sendbuf => exact send_sends present ran
  | none =>
      cases ran
      exact .done _

theorem onClientRecive_sends {host : Host} {now : UInt32}
    {calls : List LogicCall} {state next : ServerState}
    {socket agent : Nat} {fd : UInt64} {head : ProtocolHead} {buf : Bytes}
    (present : state.mapAgents[fd]? = some agent)
    (ran : state.onClientRecive host now calls socket agent head buf =
      .ok next) :
    ∃ server : Server, server.nSocketCount = state.server.nSocketCount ∧
      Sends (called (.onClientRecive socket agent buf) { state with server })
        next := by
  obtain ⟨middle, replied, ran⟩ := bind_ok ran
  refine ⟨_, onClientRecive_count host now head buf state.server, ?_⟩
  exact (sendReply_sends replied present).trans (logicCalls_sends ran)

theorem pairRecvBuf_transition {host : Host} {state next : ServerState}
    {packList : List MainPackage} {socket : Nat} {buf : Bytes}
    {now : UInt32} {calls : List LogicCall}
    (head : state.packList = .recvBuf socket buf :: packList)
    (ran : pairRecvBuf host now calls socket buf { state with packList } =
      .ok next) :
    Transition state (.pairCallback now calls) next := by
  obtain ⟨agent, found, rest⟩ := bind_ok ran
  obtain ⟨middle, handled, released⟩ := bind_ok rest
  obtain ⟨object, alive, lookup⟩ := getAgent_ok found
  obtain rfl := Except.ok.inj released
  cases agent with
  | none => cases handled
  | some agent =>
      simp only [receiveBy] at handled
      split at handled
      · obtain ⟨server, count, sends⟩ := onClientRecive_sends lookup handled
        exact .received now calls head alive lookup count sends
      · exact absurd handled closeByLogic_fails

theorem pairClose_transition {state next : ServerState}
    {packList : List MainPackage} {socket : Nat} (now : UInt32)
    {calls : List LogicCall}
    (head : state.packList = .close socket :: packList)
    (ran : pairClose calls socket { state with packList } = .ok next) :
    Transition state (.pairCallback now calls) next := by
  obtain ⟨agent, found, rest⟩ := bind_ok ran
  obtain ⟨middle, handled, closed⟩ := bind_ok rest
  obtain ⟨object, alive, lookup⟩ := getAgent_ok found
  obtain ⟨again, aliveAgain, rfl⟩ := asynClose_ok closed
  cases agent with
  | none =>
      obtain rfl := Except.ok.inj handled
      obtain rfl : object = again :=
        Option.some.inj (alive.1.symm.trans aliveAgain.1)
      exact .closedAgain now calls head alive lookup
  | some agent =>
      obtain ⟨answered, called, deleted⟩ := bind_ok handled
      have sends := logicCalls_sends called
      obtain ⟨agentObject, target, there, notDeleted, targetAlive, rfl⟩ :=
        deleteAgent_ok deleted
      unfold Alive at targetAlive aliveAgain
      simp only [withoutAgent] at aliveAgain
      rw [sends.frame] at there targetAlive aliveAgain
      obtain rfl : object = again :=
        Option.some.inj (alive.1.symm.trans aliveAgain.1)
      exact .closed now calls head alive ⟨lookup, there, notDeleted⟩
        targetAlive sends

theorem ioPairCallback_transition {state next : ServerState}
    {thread : Nat} {created expanded : Bool}
    (ran : state.ioPairCallback thread created expanded = .ok next) :
    Transition state (.ioPairCallback thread created expanded) next := by
  unfold ioPairCallback at ran
  cases head : (state.ioThreads thread).packList with
  | nil =>
      rw [head] at ran
      cases ran
      exact .idle _ _
  | cons package packList =>
      rw [head] at ran
      cases package with
      | accept fd =>
          cases ran
          exact .ioAccepted created expanded head
      | sendBuf socket buf =>
          obtain ⟨object, found, ran⟩ := bind_ok ran
          have alive := derefSocket_ok.mp found
          cases expanded with
          | false =>
              cases ran
              exact .ioSent created false head alive
                (List.subset_append_left _ _)
          | true =>
              cases ran
              rw [setIOThread_setIOThread, setIOThread_ioThreads]
              exact .ioSent created true head alive (List.Subset.refl _)
      | close socket =>
          obtain ⟨object, found, ran⟩ := bind_ok ran
          cases ran
          exact .ioClosed created expanded head (derefSocket_ok.mp found)

/-- Every step without a fault is one of the transitions. -/
theorem step_transition {host : Host} {state next : ServerState}
    {action : ServerAction} (ran : state.step host action = .ok next) :
    Transition state action next := by
  cases action with
  | acceptCallback result =>
      cases ran
      unfold acceptCallback
      simp only
      split_ifs
      · exact .idle _ _
      · exact .idle _ _
      · exact .acceptQueued state result _
      · exact .acceptQueued state result _
  | pairCallback now calls =>
      simp only [step, pairCallback] at ran
      split at ran
      · cases ran
        exact .idle _ _
      · rename_i package packList head
        cases package with
        | accept socket => exact pairAccept_transition now head ran
        | recvBuf socket buf => exact pairRecvBuf_transition head ran
        | close socket => exact pairClose_transition now head ran
  | logic call => exact .sent call (logicCall_sends ran)
  | ioPairCallback thread created expanded =>
      exact ioPairCallback_transition ran
  | ioFlush thread =>
      obtain ⟨-, -, ran⟩ := bind_ok ran
      cases ran
      exact .flushed state thread
  | readCallback socket packet =>
      cases ran
      unfold readCallback
      split
      · rename_i object found
        split_ifs with stopped
        · exact .idle _ _
        · simp only [not_or, Bool.not_eq_true] at stopped
          exact .packetQueued packet ⟨found, stopped.1⟩ stopped.2
      · exact .idle _ _
  | eventCallback socket side =>
      cases ran
      unfold eventCallback
      split
      · rename_i object found
        split_ifs with stopped
        · exact .idle _ _
        · simp only [not_or, Bool.not_eq_true] at stopped
          exact .lossReported side ⟨found, stopped.1⟩ stopped.2
      · exact .idle _ _

end ServerState

end EchoServer
