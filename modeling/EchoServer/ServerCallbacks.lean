import EchoServer.ConnectionLifecycle
import EchoServer.ServerDescriptors
import EchoServer.ServerThreads

/-!
# The callbacks of each connection

Every socket of the server lives the life of one connection behind a queue:
the packages that name it are its events, the packets that its IO thread queued
are its messages, and the `ServerSocketCallBack` is the handler.  Each step of
the server is, for each socket, a step of that connection or nothing.  So the
callbacks come in order, and with the agent made for the socket.
-/

namespace EchoServer

open ByteOrder ConnectionLifecycle LabelledRun

/-- What a package says about its socket. -/
def MainPackage.event : MainPackage → Event Bytes
  | .accept _ => .opened
  | .recvBuf _ buf => .message buf
  | .close _ => .closed

/-- The events of one socket in the queue of the main thread. -/
def events (socket : Nat) (packList : List MainPackage) :
    List (Event Bytes) :=
  (packList.filter fun package => package.socket = socket).map
    MainPackage.event

/-- The callback that a call of the handler stands for. -/
def callbackCall (socket : Nat) : Call Nat Bytes → CallbackCall
  | .onOpen agent => .onAcceptClient socket agent
  | .onMessage agent buf => .onClientRecive socket agent buf
  | .onClose agent => .onClientClose socket agent

theorem events_take_own {socket : Nat} (package : MainPackage)
    (own : package.socket = socket) (packList : List MainPackage) :
    events socket (package :: packList) =
      package.event :: events socket packList := by
  simp [events, own]

theorem events_take_other {socket : Nat} (package : MainPackage)
    (other : package.socket ≠ socket) (packList : List MainPackage) :
    events socket (package :: packList) = events socket packList := by
  simp [events, other]

theorem events_queue_own {socket : Nat} (package : MainPackage)
    (own : package.socket = socket) (packList : List MainPackage) :
    events socket (packList ++ [package]) =
      events socket packList ++ [package.event] := by
  simp [events, own]

theorem events_queue_other {socket : Nat} (package : MainPackage)
    (other : package.socket ≠ socket) (packList : List MainPackage) :
    events socket (packList ++ [package]) = events socket packList := by
  simp [events, other]

namespace ServerState

variable {state next : ServerState}

/-- The callbacks made for a socket. -/
def callbacksOf (state : ServerState) (socket : Nat) : List CallbackCall :=
  state.history.callbacks.filter fun call => call.socket = socket

/-- The packets that the IO thread queued for a socket. -/
def packetsOf (state : ServerState) (socket : Nat) : List Bytes :=
  (state.history.asynRecived.filter fun entry => entry.1 = socket).map (·.2)

theorem callbacksOf_own {socket : Nat} {call : CallbackCall}
    (callbacks : next.history.callbacks =
      state.history.callbacks ++ [call])
    (own : call.socket = socket) :
    next.callbacksOf socket = state.callbacksOf socket ++ [call] := by
  simp [callbacksOf, callbacks, own]

theorem callbacksOf_other {socket : Nat} {call : CallbackCall}
    (callbacks : next.history.callbacks =
      state.history.callbacks ++ [call])
    (other : call.socket ≠ socket) :
    next.callbacksOf socket = state.callbacksOf socket := by
  simp [callbacksOf, callbacks, other]

/-- The state of the server shows a socket in the state of a connection. -/
structure Shows (state : ServerState) (socket : Nat)
    (connection : Connection Nat Bytes) : Prop where
  created : connection.created = true ↔ socket < state.sockets.length
  queued : connection.queued = events socket state.packList
  sent : connection.sent = state.packetsOf socket
  agent : ∀ agent, connection.agent = some agent ↔
    ∃ fd, state.Registered fd agent { socket, deleted := false }
  calls : state.callbacksOf socket =
    connection.calls.map (callbackCall socket)

theorem registered_congr (map : next.mapAgents = state.mapAgents)
    (agents : next.agents = state.agents) {fd : UInt64} {agent : Nat}
    {object : AgentObject} :
    next.Registered fd agent object ↔ state.Registered fd agent object := by
  unfold Registered
  rw [map, agents]

theorem initial_shows (nMaxSockets : Int) (nThreadCount socket : Nat) :
    Shows (initial nMaxSockets nThreadCount) socket .initial where
  created := by simp [Connection.initial, initial]
  queued := rfl
  sent := rfl
  agent := by simp [Connection.initial, Registered, initial]
  calls := rfl

/-- A step that registers and deletes no agent and makes no callback. -/
structure SameAgents (state next : ServerState) : Prop where
  map : next.mapAgents = state.mapAgents
  agents : next.agents = state.agents
  callbacks : next.history.callbacks = state.history.callbacks

section Frame

variable {socket : Nat} {connection : Connection Nat Bytes}
variable (shows : Shows state socket connection)
include shows

/-- A step that does not concern a socket leaves its connection as it is. -/
theorem Shows.frame
    (created : socket < next.sockets.length ↔ socket < state.sockets.length)
    (queued : events socket next.packList = events socket state.packList)
    (packets : next.packetsOf socket = state.packetsOf socket)
    (registered : ∀ fd agent,
      next.Registered fd agent { socket, deleted := false } ↔
        state.Registered fd agent { socket, deleted := false })
    (callbacks : next.callbacksOf socket = state.callbacksOf socket) :
    Shows next socket connection where
  created := shows.created.trans created.symm
  queued := shows.queued.trans queued.symm
  sent := shows.sent.trans packets.symm
  agent agent := by
    simp only [registered]
    exact shows.agent agent
  calls := callbacks.trans shows.calls

/-- A step that changes the connection's events and packets only. -/
theorem Shows.update (same : SameAgents state next) {createdNow : Bool}
    {queued : List (Event Bytes)} {sent : List Bytes}
    (created : createdNow = true ↔ socket < next.sockets.length)
    (queuedNow : queued = events socket next.packList)
    (sentNow : sent = next.packetsOf socket) :
    Shows next socket
      { connection with created := createdNow, queued, sent } where
  created := created
  queued := queuedNow
  sent := sentNow
  agent agent := by
    simp only [registered_congr same.map same.agents]
    exact shows.agent agent
  calls := by
    rw [callbacksOf, same.callbacks]
    exact shows.calls

/-- The same where the step concerns another socket. -/
theorem Shows.other (same : SameAgents state next)
    (created : socket < next.sockets.length ↔ socket < state.sockets.length)
    (queued : events socket next.packList = events socket state.packList)
    (packets : next.packetsOf socket = state.packetsOf socket) :
    Shows next socket connection :=
  shows.update same (shows.created.trans created.symm)
    (shows.queued.trans queued.symm) (shows.sent.trans packets.symm)

/-- The agent that serves a live socket's connection is the one under its
descriptor. -/
theorem Shows.agent_iff (sound : Sound state)
    (distinct : DistinctDescriptors state) {object : SocketObject}
    (alive : state.Alive socket object) {agent : Nat} :
    connection.agent = some agent ↔
      state.mapAgents[object.fd]? = some agent := by
  rw [shows.agent]
  constructor
  · rintro ⟨fd, registered⟩
    rw [sound.agents.target_fd registered alive.1]
    exact registered.1
  · intro lookup
    obtain ⟨agentObject, _, registered, _⟩ := sound.agents _ _ lookup
    have own := distinct.own_agent sound alive registered
    have notDeleted := registered.2.2
    cases agentObject
    cases own
    cases notDeleted
    exact ⟨object.fd, registered⟩

theorem Shows.agent_none_iff (sound : Sound state)
    (distinct : DistinctDescriptors state) {object : SocketObject}
    (alive : state.Alive socket object) :
    connection.agent = none ↔ state.mapAgents[object.fd]? = none := by
  simp only [Option.eq_none_iff_forall_ne_some, ne_eq,
    shows.agent_iff sound distinct alive]

end Frame

/-- What a step does to a connection: nothing, or one step of its own. -/
def Follows (connection : Connection Nat Bytes) (next : ServerState)
    (socket : Nat) : Prop :=
  ∃ after, (after = connection ∨ Step connection after) ∧
    Shows next socket after

section Queueing

variable {socket : Nat} {connection : Connection Nat Bytes}
variable (shows : Shows state socket connection)
variable (same : SameAgents state next)
include shows same

theorem Shows.quiet (length : next.sockets.length = state.sockets.length)
    (packList : next.packList = state.packList)
    (packets : next.history.asynRecived = state.history.asynRecived) :
    Follows connection next socket := by
  refine ⟨connection, .inl rfl, shows.other same ?_ ?_ ?_⟩
  · rw [length]
  · rw [packList]
  · rw [packetsOf, packets, packetsOf]

/-- The IO thread creates a socket and queues its `accept` package. -/
theorem Shows.create {new : SocketObject}
    (sockets : next.sockets = state.sockets ++ [new])
    (packList : next.packList =
      state.packList ++ [.accept state.sockets.length])
    (packets : next.history.asynRecived = state.history.asynRecived) :
    Follows connection next socket := by
  have length : next.sockets.length = state.sockets.length + 1 := by
    rw [sockets, List.length_append, List.length_singleton]
  have samePackets : next.packetsOf socket = state.packetsOf socket := by
    rw [packetsOf, packets, packetsOf]
  by_cases own : state.sockets.length = socket
  · have notCreated : connection.created = false := by
      rw [Bool.eq_false_iff, ne_eq, shows.created]
      omega
    refine ⟨_, .inr (.create connection notCreated),
      shows.update same ?_ ?_ (shows.sent.trans samePackets.symm)⟩
    · simp only [length, true_iff]
      omega
    · rw [packList, shows.queued, events_queue_own (.accept _) own]
      rfl
  · refine ⟨connection, .inl rfl, shows.other same ?_ ?_ samePackets⟩
    · rw [length]
      omega
    · rw [packList, events_queue_other (.accept _) own]

/-- `recv` hands over a packet of a live socket. -/
theorem Shows.packet {subject : Nat} {object : SocketObject}
    (alive : state.Alive subject object) (packet : Bytes)
    (sockets : next.sockets = state.sockets)
    (packList : next.packList = state.packList ++ [.recvBuf subject packet])
    (packets : next.history.asynRecived =
      state.history.asynRecived ++ [(subject, packet)]) :
    Follows connection next socket := by
  by_cases own : subject = socket
  · have created := shows.created.mpr (own ▸ alive_lt alive)
    refine ⟨_, .inr (.send connection packet created),
      shows.update same ?_ ?_ ?_⟩
    · rw [sockets]
      exact shows.created
    · rw [packList, events_queue_own (.recvBuf subject packet) own,
        shows.queued]
      rfl
    · simp [packetsOf, packets, shows.sent, own]
  · refine ⟨connection, .inl rfl, shows.other same ?_ ?_ ?_⟩
    · rw [sockets]
    · rw [packList, events_queue_other (.recvBuf subject packet) own]
    · simp [packetsOf, packets, own]

/-- A live socket reports the loss of its connection. -/
theorem Shows.loss {subject : Nat} {object : SocketObject}
    (alive : state.Alive subject object)
    (length : next.sockets.length = state.sockets.length)
    (packList : next.packList = state.packList ++ [.close subject])
    (packets : next.history.asynRecived = state.history.asynRecived) :
    Follows connection next socket := by
  have samePackets : next.packetsOf socket = state.packetsOf socket := by
    rw [packetsOf, packets, packetsOf]
  by_cases own : subject = socket
  · have created := shows.created.mpr (own ▸ alive_lt alive)
    refine ⟨_, .inr (.lose connection created),
      shows.update same ?_ ?_ (shows.sent.trans samePackets.symm)⟩
    · rw [length]
      exact shows.created
    · rw [packList, events_queue_own (.close subject) own, shows.queued]
      rfl
  · refine ⟨connection, .inl rfl, shows.other same ?_ ?_ samePackets⟩
    · rw [length]
    · rw [packList, events_queue_other (.close subject) own]

end Queueing

/-- The first package of the queue is the first event of its socket. -/
theorem Shows.first {socket : Nat} {connection : Connection Nat Bytes}
    (shows : Shows state socket connection) {package : MainPackage}
    {packList : List MainPackage}
    (head : state.packList = package :: packList)
    (own : package.socket = socket) :
    connection.queued = package.event :: events socket packList := by
  rw [shows.queued, head, events_take_own package own]

section Taking

variable {socket subject : Nat} {connection : Connection Nat Bytes}
variable {packList : List MainPackage} {object : SocketObject}
variable (shows : Shows state socket connection) (sound : Sound state)
variable (alive : state.Alive subject object)
variable (sockets : next.sockets = state.sockets)
variable (popped : next.packList = packList)
variable (packets : next.history.asynRecived = state.history.asynRecived)

include shows sockets popped packets

/-- A package taken for another socket. -/
theorem Shows.taken_other {package : MainPackage}
    (head : state.packList = package :: packList)
    (other : package.socket ≠ socket)
    (registered : ∀ fd agent,
      next.Registered fd agent { socket, deleted := false } ↔
        state.Registered fd agent { socket, deleted := false })
    (callbacks : next.callbacksOf socket = state.callbacksOf socket) :
    Follows connection next socket := by
  refine ⟨connection, .inl rfl, shows.frame ?_ ?_ ?_ registered callbacks⟩
  · rw [sockets]
  · rw [popped, head, events_take_other package other]
  · rw [packetsOf, packets, packetsOf]

/-- A package taken for the socket itself. -/
theorem Shows.taken_own (agentNow : Option Nat)
    (callsNow : List (Call Nat Bytes))
    (agent : ∀ agent, agentNow = some agent ↔
      ∃ fd, next.Registered fd agent { socket, deleted := false })
    (calls : next.callbacksOf socket =
      callsNow.map (callbackCall socket)) :
    Shows next socket
      { connection with
        queued := events socket packList
        agent := agentNow
        calls := callsNow } := by
  refine ⟨?_, ?_, ?_, agent, calls⟩
  · rw [sockets]
    exact shows.created
  · rw [popped]
  · exact shows.sent.trans (by rw [packetsOf, packetsOf, packets])

include sound

/-- The main thread registers an agent for a socket. -/
theorem Shows.accepted (order : InOrder connection)
    (head : state.packList = .accept subject :: packList)
    (absent : state.mapAgents[object.fd]? = none)
    (map : next.mapAgents =
      (state.registerAgent subject object.fd).mapAgents)
    (agents : next.agents = (state.registerAgent subject object.fd).agents)
    (callbacks : next.history.callbacks = state.history.callbacks ++
      [.onAcceptClient subject state.agents.length]) :
    Follows connection next socket := by
  have registered : ∀ {fd agent agentObject},
      next.Registered fd agent agentObject ↔
        state.Registered fd agent agentObject ∨
          fd = object.fd ∧ agent = state.agents.length ∧
            agentObject = { socket := subject, deleted := false } :=
    (registered_congr map agents).trans
      (sound.agents.registered_registerAgent absent)
  by_cases own : subject = socket
  · have first := shows.first head own
    have unserved := order.opened_unserved first
    have newAgent : ∀ agent, some state.agents.length = some agent ↔
        ∃ fd, next.Registered fd agent { socket, deleted := false } := by
      intro agent
      simp only [registered]
      constructor
      · intro isNew
        exact ⟨object.fd, .inr ⟨rfl, (Option.some.inj isNew).symm, by rw [own]⟩⟩
      · rintro ⟨fd, before | ⟨-, rfl, -⟩⟩
        · have served := (shows.agent agent).mpr ⟨fd, before⟩
          rw [unserved] at served
          cases served
        · rfl
    refine ⟨_, .inr (.serve state.agents.length first unserved),
      shows.taken_own sockets popped packets _ _ newAgent ?_⟩
    rw [callbacksOf_own callbacks own, shows.calls, List.map_append, own]
    rfl
  · refine shows.taken_other sockets popped packets head own ?_
      (callbacksOf_other callbacks own)
    intro fd agent
    rw [registered]
    constructor
    · rintro (before | ⟨-, -, same⟩)
      · exact before
      · exact absurd (congrArg AgentObject.socket same).symm own
    · exact .inl

variable (distinct : DistinctDescriptors state)
include alive distinct

/-- A packet is handed to the agent under the socket's descriptor. -/
theorem Shows.received {agent : Nat} {buf : Bytes}
    (head : state.packList = .recvBuf subject buf :: packList)
    (present : state.mapAgents[object.fd]? = some agent)
    (map : next.mapAgents = state.mapAgents)
    (agents : next.agents = state.agents)
    (callbacks : next.history.callbacks = state.history.callbacks ++
      [.onClientRecive subject agent buf]) :
    Follows connection next socket := by
  by_cases own : subject = socket
  · have first := shows.first head own
    have served : connection.agent = some agent :=
      (shows.agent_iff sound distinct (own ▸ alive)).mpr present
    have sameAgent : ∀ agent, connection.agent = some agent ↔
        ∃ fd, next.Registered fd agent { socket, deleted := false } := by
      intro agent
      simp only [registered_congr map agents]
      exact shows.agent agent
    refine ⟨_, .inr (.receive first served),
      shows.taken_own sockets popped packets _ _ sameAgent ?_⟩
    rw [callbacksOf_own callbacks own, shows.calls, List.map_append, own]
    rfl
  · refine shows.taken_other sockets popped packets head own ?_
      (callbacksOf_other callbacks own)
    intro fd agent
    exact registered_congr map agents

/-- The agent under the socket's descriptor is told of the close and
deleted. -/
theorem Shows.closed {agent : Nat} {agentObject : AgentObject}
    (head : state.packList = .close subject :: packList)
    (present : state.Registered object.fd agent agentObject)
    (map : next.mapAgents =
      (state.withoutAgent object.fd agent agentObject).mapAgents)
    (agents : next.agents =
      (state.withoutAgent object.fd agent agentObject).agents)
    (callbacks : next.history.callbacks = state.history.callbacks ++
      [.onClientClose subject agent]) :
    Follows connection next socket := by
  have registered : ∀ {fd other otherObject},
      next.Registered fd other otherObject ↔
        state.Registered fd other otherObject ∧ fd ≠ object.fd :=
    (registered_congr map agents).trans
      (sound.agents.registered_withoutAgent present)
  by_cases own : subject = socket
  · have first := shows.first head own
    have served : connection.agent = some agent :=
      (shows.agent_iff sound distinct (own ▸ alive)).mpr present.1
    have noAgent : ∀ agent, none = some agent ↔
        ∃ fd, next.Registered fd agent { socket, deleted := false } := by
      intro other
      simp only [registered, reduceCtorEq, false_iff, not_exists, not_and,
        not_not]
      intro fd otherRegistered
      have found : state.sockets[socket]? = some object := own ▸ alive.1
      exact (sound.agents.target_fd otherRegistered found).symm
    refine ⟨_, .inr (.close first served),
      shows.taken_own sockets popped packets _ _ noAgent ?_⟩
    rw [callbacksOf_own callbacks own, shows.calls, List.map_append, own]
    rfl
  · refine shows.taken_other sockets popped packets head own ?_
      (callbacksOf_other callbacks own)
    intro fd other
    rw [registered, and_iff_left_iff_imp]
    rintro before rfl
    exact own (distinct.own_agent sound alive before).symm

/-- A second close finds no agent. -/
theorem Shows.closedAgain
    (head : state.packList = .close subject :: packList)
    (absent : state.mapAgents[object.fd]? = none)
    (same : SameAgents state next) : Follows connection next socket := by
  by_cases own : subject = socket
  · have first := shows.first head own
    have unserved : connection.agent = none :=
      (shows.agent_none_iff sound distinct (own ▸ alive)).mpr absent
    refine ⟨_, .inr (.closeAgain first unserved),
      shows.update same ?_ ?_ ?_⟩
    · rw [sockets]
      exact shows.created
    · rw [popped]
    · exact shows.sent.trans (by rw [packetsOf, packetsOf, packets])
  · refine shows.taken_other sockets popped packets head own ?_ ?_
    · intro fd agent
      exact registered_congr same.map same.agents
    · rw [callbacksOf, same.callbacks, callbacksOf]

/-- An `accept` package is refused for no socket but one that is served
already, and there is none. -/
theorem Shows.acceptRefused (order : InOrder connection) {agent : Nat}
    (head : state.packList = .accept subject :: packList)
    (present : state.mapAgents[object.fd]? = some agent)
    (same : SameAgents state next) : Follows connection next socket := by
  by_cases own : subject = socket
  · have first := shows.first head own
    have absent := (shows.agent_none_iff sound distinct (own ▸ alive)).mp
      (order.opened_unserved first)
    rw [present] at absent
    cases absent
  · refine shows.taken_other sockets popped packets head own ?_ ?_
    · intro fd agent
      exact registered_congr same.map same.agents
    · rw [callbacksOf, same.callbacks, callbacksOf]

end Taking

/-- Agents stay where they are, with their sockets. -/
def KeepsAgents (state next : ServerState) : Prop :=
  ∀ (agent : Nat) object, state.agents[agent]? = some object →
    ∃ kept, next.agents[agent]? = some kept ∧ kept.socket = object.socket

theorem KeepsAgents.of_eq (same : next.agents = state.agents) :
    KeepsAgents state next := by
  intro agent object there
  exact ⟨object, same ▸ there, rfl⟩

/-- Every callback made so far was given an agent made for its socket. -/
def CallsOwnAgents (state : ServerState) : Prop :=
  ∀ call ∈ state.history.callbacks, ∃ object,
    state.agents[call.agent]? = some object ∧ object.socket = call.socket

theorem CallsOwnAgents.frame (own : CallsOwnAgents state)
    (agents : KeepsAgents state next)
    (callbacks : next.history.callbacks = state.history.callbacks) :
    CallsOwnAgents next := by
  intro call made
  rw [callbacks] at made
  obtain ⟨object, there, socket⟩ := own call made
  obtain ⟨kept, keptThere, keptSocket⟩ := agents _ _ there
  exact ⟨kept, keptThere, keptSocket.trans socket⟩

theorem CallsOwnAgents.call (own : CallsOwnAgents state)
    (agents : KeepsAgents state next) (call : CallbackCall)
    {object : AgentObject} (there : next.agents[call.agent]? = some object)
    (socket : object.socket = call.socket)
    (callbacks : next.history.callbacks =
      state.history.callbacks ++ [call]) :
    CallsOwnAgents next := by
  intro other made
  rw [callbacks, List.mem_append, List.mem_singleton] at made
  obtain before | rfl := made
  · obtain ⟨old, oldThere, oldSocket⟩ := own other before
    obtain ⟨kept, keptThere, keptSocket⟩ := agents _ _ oldThere
    exact ⟨kept, keptThere, keptSocket.trans oldSocket⟩
  · exact ⟨object, there, socket⟩

/-- Each step of the server is, for each socket, a step of its connection or
nothing. -/
theorem Shows.transition {socket : Nat} {connection : Connection Nat Bytes}
    (shows : Shows state socket connection) (sound : Sound state)
    (distinct : DistinctDescriptors state) (order : InOrder connection)
    {action : ServerAction} (transition : Transition state action next) :
    Follows connection next socket := by
  cases transition with
  | idle => exact ⟨connection, .inl rfl, shows⟩
  | acceptQueued => exact shows.quiet ⟨rfl, rfl, rfl⟩ rfl rfl rfl
  | sent _ sends =>
      have history := sends.history
      exact shows.quiet
        ⟨sends.mapAgents, sends.agents, by rw [history]⟩
        (by rw [sends.sockets]) sends.packList (by rw [history])
  | accepted _ _ head alive absent sends =>
      have history := sends.history
      exact shows.accepted sound sends.sockets sends.packList
        (by rw [history]; rfl) order head absent sends.mapAgents
        sends.agents (by rw [history]; rfl)
  | acceptRefused _ _ head alive present =>
      exact shows.acceptRefused sound alive rfl rfl rfl distinct order head
        present ⟨rfl, rfl, rfl⟩
  | received _ _ head alive present _ sends =>
      have history := sends.history
      exact shows.received sound alive sends.sockets sends.packList
        (by simp only [release, history]; rfl) distinct head present
        sends.mapAgents sends.agents (by simp only [release, history]; rfl)
  | closed _ _ head alive registered targetAlive sends =>
      have history := sends.history
      have sameFd := sound.agents.target_fd registered targetAlive.1
      refine shows.closed sound alive sends.sockets sends.packList ?_ distinct
        head registered ?_ ?_ ?_
      · simp only [queueIOThread, setIOThread, withoutAgent, history]
        rfl
      · simp only [queueIOThread, setIOThread, withoutAgent, sameFd]
        rw [sends.mapAgents]
        rfl
      · simp only [queueIOThread, setIOThread, withoutAgent]
        rw [sends.agents]
        rfl
      · simp only [queueIOThread, setIOThread, withoutAgent, history]
        rfl
  | closedAgain _ _ head alive absent =>
      exact shows.closedAgain sound alive rfl rfl rfl distinct head absent
        ⟨rfl, rfl, rfl⟩
  | ioAccepted created expanded head =>
      cases created with
      | true => exact shows.create ⟨rfl, rfl, rfl⟩ rfl rfl rfl
      | false => exact shows.quiet ⟨rfl, rfl, rfl⟩ rfl rfl rfl
  | ioSent => exact shows.quiet ⟨rfl, rfl, rfl⟩ rfl rfl rfl
  | ioClosed => exact shows.quiet ⟨rfl, rfl, rfl⟩ List.length_set rfl rfl
  | flushed => exact shows.quiet ⟨rfl, rfl, rfl⟩ rfl rfl rfl
  | packetQueued packet alive =>
      exact shows.packet ⟨rfl, rfl, rfl⟩ alive packet rfl rfl rfl
  | lossReported side alive =>
      exact shows.loss ⟨rfl, rfl, rfl⟩ alive List.length_set rfl rfl

theorem CallsOwnAgents.transition (own : CallsOwnAgents state)
    (sound : Sound state) (distinct : DistinctDescriptors state)
    {action : ServerAction} (transition : Transition state action next) :
    CallsOwnAgents next := by
  cases transition with
  | idle => exact own
  | acceptQueued => exact own.frame (.of_eq rfl) rfl
  | sent _ sends =>
      exact own.frame (.of_eq sends.agents) (by rw [sends.history])
  | @accepted _ _ socket object _ _ head alive absent sends =>
      have agents := sends.agents
      have new : next.agents[state.agents.length]? =
          some { socket, deleted := false } := by
        rw [agents]
        exact List.getElem?_concat_length
      refine own.call ?_ (.onAcceptClient socket state.agents.length) new rfl
        (by rw [sends.history]; rfl)
      intro agent old there
      refine ⟨old, ?_, rfl⟩
      rw [agents]
      exact registerAgent_agents there socket object.fd
  | acceptRefused => exact own.frame (.of_eq rfl) rfl
  | @received middle _ socket agent buf object server _ _ head alive present _
      sends =>
      obtain ⟨agentObject, _, registered, _⟩ := sound.agents _ _ present
      have made := distinct.own_agent sound alive registered
      have agents := sends.agents
      have there : middle.agents[agent]? = some agentObject :=
        agents ▸ registered.2.1
      refine own.call (.of_eq agents) (.onClientRecive socket agent buf) there
        made ?_
      simp only [release, sends.history]
      rfl
  | @closed middle _ socket agent object target agentObject _ _ head alive
      registered _ sends =>
      have made := distinct.own_agent sound alive registered
      have agents := sends.agents
      have deletes : (middle.withoutAgent target.fd agent agentObject).agents =
          state.agents.set agent { agentObject with deleted := true } :=
        congrArg (·.set agent { agentObject with deleted := true }) agents
      have there : (middle.withoutAgent target.fd agent
          agentObject).agents[agent]? =
            some { agentObject with deleted := true } := by
        rw [deletes]
        exact List.getElem?_set_self
          (List.getElem?_eq_some_iff.mp registered.2.1).1
      refine own.call ?_ (.onClientClose socket agent) there made ?_
      · intro other old found
        by_cases same : agent = other
        · subst same
          obtain rfl := Option.some.inj (registered.2.1.symm.trans found)
          exact ⟨_, there, rfl⟩
        · refine ⟨old, ?_, rfl⟩
          exact (congrArg (·[other]?) deletes).trans
            ((List.getElem?_set_ne same).trans found)
      · simp only [queueIOThread, setIOThread, withoutAgent, sends.history]
        rfl
  | closedAgain => exact own.frame (.of_eq rfl) rfl
  | ioAccepted created expanded head =>
      cases created with
      | true => exact own.frame (.of_eq rfl) rfl
      | false => exact own.frame (.of_eq rfl) rfl
  | ioSent => exact own.frame (.of_eq rfl) rfl
  | ioClosed => exact own.frame (.of_eq rfl) rfl
  | flushed => exact own.frame (.of_eq rfl) rfl
  | packetQueued => exact own.frame (.of_eq rfl) rfl
  | lossReported => exact own.frame (.of_eq rfl) rfl

/-- The callbacks made for a socket: none, or `onAcceptClient` once, then
`onClientRecive` for packets from the beginning of those that its IO thread
queued, then `onClientClose` at most once, all of them with one agent that was
made for the socket. -/
def CallbackContract (state : ServerState) (socket : Nat) : Prop :=
  state.callbacksOf socket = [] ∨
    ∃ agent object bufs closing,
      state.agents[agent]? = some object ∧ object.socket = socket ∧
      state.callbacksOf socket =
        .onAcceptClient socket agent ::
          (bufs.map (.onClientRecive socket agent) ++ closing) ∧
      (closing = [] ∨ closing = [.onClientClose socket agent]) ∧
      bufs <+: state.packetsOf socket

/-- What holds in every state of a run in which `accept` returns no descriptor
that is in use. -/
structure Conforms (state : ServerState) : Prop where
  sound : Sound state
  distinct : DistinctDescriptors state
  own : CallsOwnAgents state
  connections : ∀ socket, ∃ connection,
    InOrder connection ∧ Shows state socket connection

theorem initial_conforms (nMaxSockets : Int) (nThreadCount : Nat) :
    Conforms (initial nMaxSockets nThreadCount) where
  sound := initial_sound nMaxSockets nThreadCount
  distinct := initial_distinctDescriptors nMaxSockets nThreadCount
  own := nofun
  connections socket :=
    ⟨.initial, .absent rfl, initial_shows nMaxSockets nThreadCount socket⟩

theorem Conforms.transition (conforms : Conforms state)
    {action : ServerAction} (meets : AcceptsUnused state action)
    (transition : Transition state action next) : Conforms next where
  sound := conforms.sound.transition transition
  distinct := conforms.distinct.transition meets transition
  own := conforms.own.transition conforms.sound conforms.distinct transition
  connections socket := by
    obtain ⟨connection, order, shows⟩ := conforms.connections socket
    obtain ⟨after, follows, showsAfter⟩ := shows.transition conforms.sound
      conforms.distinct order transition
    refine ⟨after, ?_, showsAfter⟩
    obtain rfl | step := follows
    · exact order
    · exact order.step step

/-- The order of a connection's calls, read as callbacks of its socket. -/
theorem Conforms.callbackContract (conforms : Conforms state)
    (socket : Nat) : CallbackContract state socket := by
  obtain ⟨connection, order, shows⟩ := conforms.connections socket
  obtain none | ⟨agent, bufs, closing, calls, closes, handed⟩ := order.calls_eq
  · refine .inl ?_
    rw [shows.calls, none]
    rfl
  · have callbacks : state.callbacksOf socket =
        .onAcceptClient socket agent ::
          (bufs.map (.onClientRecive socket agent) ++
            closing.map (callbackCall socket)) := by
      rw [shows.calls, calls, List.map_append, servedCalls, List.map_cons,
        List.map_map]
      rfl
    have made : .onAcceptClient socket agent ∈ state.callbacksOf socket :=
      callbacks ▸ List.mem_cons_self
    obtain ⟨object, there, own⟩ :=
      conforms.own _ (List.mem_of_mem_filter made)
    refine .inr ⟨agent, object, bufs, _, there, own, callbacks, ?_,
      shows.sent ▸ handed⟩
    obtain rfl | rfl := closes
    · exact .inl rfl
    · exact .inr rfl

/-- In every run of the server in which `accept` returns no descriptor that is
in use, the callbacks made for each connection are in order and given its own
agent, in every state that the run reaches. -/
theorem serverCallbacks (host : Host) (nMaxSockets : Int)
    (nThreadCount : Nat) (actions : List ServerAction)
    (meets : MeetsAlong (step host) AcceptsUnused
      (initial nMaxSockets nThreadCount) actions) :
    HoldsWhereReached (step host)
      (fun state => ∀ socket, CallbackContract state socket)
      (initial nMaxSockets nThreadCount) actions := by
  rintro first second reached rfl ran
  have conforms : Conforms reached := by
    refine invariant_of_meetsAlong ?_
      (initial_conforms nMaxSockets nThreadCount)
      (meetsAlong_append meets ran).1 ran
    intro state action next conforms meets stepped
    exact conforms.transition meets (step_transition stepped)
  exact conforms.callbackContract

/-- Where there is only one IO thread, `accept` returns no descriptor that is
in use. -/
def AcceptsUnusedAlone (state : ServerState) : ServerAction → Prop
  | .acceptCallback result =>
      (∀ object ∈ state.sockets, object.fd = UInt64.ofInt result →
          object.destroyed = true) ∧
        .accept (UInt64.ofInt result) ∉ (state.ioThreads 0).packList
  | _ => True

instance decidableAcceptsUnusedAlone (state : ServerState) :
    ∀ action, Decidable (AcceptsUnusedAlone state action)
  | .acceptCallback _ => inferInstanceAs (Decidable (_ ∧ _))
  | .pairCallback _ _ => isTrue trivial
  | .logic _ => isTrue trivial
  | .ioPairCallback _ _ _ => isTrue trivial
  | .ioFlush _ => isTrue trivial
  | .readCallback _ _ => isTrue trivial
  | .eventCallback _ _ => isTrue trivial

theorem AcceptsUnusedAlone.acceptsUnused {accepted : Nat}
    {action : ServerAction} (inTurn : InTurn state 1 accepted)
    (unused : AcceptsUnusedAlone state action) :
    AcceptsUnused state action := by
  cases action with
  | acceptCallback result =>
      obtain ⟨noSocket, noPackage⟩ := unused
      rintro (⟨socket, object, alive, same⟩ | ⟨thread, waits⟩)
      · have destroyed :=
          noSocket object (List.mem_of_getElem? alive.1) same
        rw [alive.2] at destroyed
        cases destroyed
      · obtain rfl : thread = 0 := Nat.lt_one_iff.mp (inTurn.thread_lt waits)
        exact noPackage waits
  | _ => trivial

/-- Two connections on one IO thread, each of which brings a packet.  The one
with descriptor 7 is lost and closed, and then the descriptor is returned for a
third connection. -/
def reusedDescriptor : List ServerAction :=
  [.acceptCallback 7, .acceptCallback 8, .ioPairCallback 0 true true,
    .ioPairCallback 0 true true, .readCallback 1 [4, 0, 2, 0],
    .readCallback 0 [4, 0, 1, 0], .pairCallback 0 [], .pairCallback 0 [],
    .pairCallback 0 [], .eventCallback 0 .reading, .pairCallback 0 [],
    .ioPairCallback 0 true true, .ioFlush 0, .pairCallback 0 [],
    .ioPairCallback 0 true true, .acceptCallback 7,
    .ioPairCallback 0 true true, .pairCallback 0 [],
    .readCallback 2 [4, 0, 3, 0], .pairCallback 0 []]

theorem serverCallbacks_reusedDescriptor :
    HoldsWhereReached (step .little)
      (fun state => ∀ socket, CallbackContract state socket) (initial 10 1)
      reusedDescriptor := by
  apply serverCallbacks
  have unused : MeetsAlong (step .little) AcceptsUnusedAlone (initial 10 1)
      reusedDescriptor := by
    decide +kernel
  have creates : MeetsAlong (step .little) CreatesSockets (initial 10 1)
      reusedDescriptor :=
    meetsAlong_of_forall (by simp [reusedDescriptor, CreatesSockets])
  have preserved : ∀ state action next, (∃ accepted, InTurn state 1 accepted) →
      AcceptsUnusedAlone state action ∧ CreatesSockets state action →
        state.step .little action = .ok next →
          ∃ accepted, InTurn next 1 accepted := by
    rintro state action next ⟨accepted, inTurn⟩ meets stepped
    exact inTurn.step Nat.one_pos meets.2 stepped
  refine (unused.and creates).of_invariant preserved ?_
    ⟨0, initial_inTurn 10 1⟩
  rintro state action ⟨accepted, inTurn⟩ meets
  exact meets.1.acceptsUnused inTurn

end ServerState

end EchoServer
