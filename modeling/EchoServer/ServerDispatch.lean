import EchoServer.ServerInvariant

/-!
# The agents that the main thread calls

A step of the main thread fails by its agents if it calls a method of an agent
that is null or has been deleted.  Registered agents and their sockets can be
used throughout, so this happens exactly when a packet comes without an agent,
when it is too short for a head, or when the logic closes an agent.
-/

namespace EchoServer

open ByteOrder FaultingComputation LabelledRun

/-- A method is called on a null or deleted agent. -/
def Fault.ByAgent : Fault → Prop
  | .nullAgent => True
  | .deletedAgent _ => True
  | .destroyedSocket _ => False

namespace ServerState

variable {state next : ServerState}

/-- The agents in the map and their sockets can be used. -/
def Usable (state : ServerState) : Prop :=
  ∀ fd agent, state.mapAgents[fd]? = some agent →
    ∃ object target, state.Registered fd agent object ∧
      state.Alive object.socket target

theorem Sound.usable (sound : Sound state) : Usable state := by
  intro fd agent lookup
  obtain ⟨object, _, registered, _⟩ := sound.agents fd agent lookup
  obtain ⟨⟨target, alive⟩, _⟩ := sound.registeredOpen fd agent object registered
  exact ⟨object, target, registered, alive⟩

theorem Usable.frame (usable : Usable state)
    (map : next.mapAgents = state.mapAgents)
    (agents : next.agents = state.agents)
    (sockets : next.sockets = state.sockets) : Usable next := by
  unfold Usable Registered Alive
  rw [map, agents, sockets]
  exact usable

theorem Usable.registerAgent (usable : Usable state) {socket : Nat}
    {object : SocketObject} (alive : state.Alive socket object) :
    Usable (state.registerAgent socket object.fd) := by
  intro fd agent lookup
  unfold Registered
  have found := lookup
  rw [registerAgent_lookup] at lookup
  split_ifs at lookup
  · obtain rfl := Option.some.inj lookup
    exact ⟨_, object, ⟨found, List.getElem?_concat_length, rfl⟩, alive⟩
  · obtain ⟨old, target, ⟨-, there, notDeleted⟩, oldAlive⟩ :=
      usable fd agent lookup
    have kept := registerAgent_agents there socket object.fd
    exact ⟨old, target, ⟨found, kept, notDeleted⟩, oldAlive⟩

/-- A registered agent can be sent to. -/
theorem Usable.send (usable : Usable state) {fd : UInt64} {agent : Nat}
    (lookup : state.mapAgents[fd]? = some agent) (buf : Bytes) :
    ∃ next, state.send agent buf = .ok next ∧ Sends state next := by
  obtain ⟨object, target, ⟨-, there, notDeleted⟩, alive⟩ :=
    usable fd agent lookup
  have sent : state.send agent buf = .ok
      (state.queueIOThread target.thread (.sendBuf object.socket buf)) := by
    unfold ServerState.send
    rw [derefAgent_ok.mpr ⟨there, notDeleted⟩]
    simp only [bind, Except.bind]
    rw [derefSocket_ok.mpr alive]
    rfl
  exact ⟨_, sent, send_sends lookup sent⟩

/-- A registered agent that the logic closes has been deleted before its last
use. -/
theorem Usable.closeByLogic (usable : Usable state) {fd : UInt64}
    {agent : Nat} (lookup : state.mapAgents[fd]? = some agent) :
    state.closeByLogic agent = .error (.deletedAgent agent) := by
  obtain ⟨object, target, ⟨-, there, notDeleted⟩, alive⟩ :=
    usable fd agent lookup
  have found := derefAgent_ok.mpr ⟨there, notDeleted⟩
  let answered :=
    called (.onClientClose object.socket agent)
      { state with
        nNowSocketCount := state.nNowSocketCount - 1
        server := state.server.onClientClose }
  have answeredAlive : answered.Alive object.socket target := alive
  have deleted := deleteAgent_alive (show answered.agents[agent]? = _
    from there) notDeleted answeredAlive
  have gone : (answered.withoutAgent target.fd agent object).derefAgent
      agent = .error (.deletedAgent agent) := by
    have inRange := (List.getElem?_eq_some_iff.mp there).1
    have marked : (answered.withoutAgent target.fd agent object).agents[agent]?
        = some { object with deleted := true } :=
      List.getElem?_set_self inRange
    unfold derefAgent
    rw [marked]
    rfl
  unfold ServerState.closeByLogic
  rw [found]
  simp only [bind, Except.bind]
  rw [derefSocket_ok.mpr alive]
  change (match answered.deleteAgent agent with | _ => _) = _
  rw [deleted]
  simp only
  rw [gone]

/-- The logic closes no agent of the map. -/
def ClosesNone (map : Std.TreeMap UInt64 Nat) (calls : List LogicCall) :
    Prop :=
  ∀ fd, LogicCall.close fd ∈ calls → map[fd]? = none

theorem closesNone_send (map : Std.TreeMap UInt64 Nat) (fd : UInt64)
    (buf : Bytes) : ClosesNone map [.send fd buf] := by
  intro other member
  cases List.mem_singleton.mp member

theorem closesNone_close {map : Std.TreeMap UInt64 Nat} {fd : UInt64} :
    ClosesNone map [.close fd] ↔ map[fd]? = none := by
  constructor
  · intro none
    exact none fd (List.mem_singleton.mpr rfl)
  · intro absent other member
    cases List.mem_singleton.mp member
    exact absent

theorem closesNone_cons {map : Std.TreeMap UInt64 Nat} {call : LogicCall}
    {calls : List LogicCall} :
    ClosesNone map (call :: calls) ↔
      ClosesNone map [call] ∧ ClosesNone map calls := by
  unfold ClosesNone
  constructor
  · intro none
    exact ⟨fun fd only => none fd (by simp_all),
      fun fd later => none fd (List.mem_cons_of_mem _ later)⟩
  · rintro ⟨first, rest⟩ fd member
    obtain rfl | later := List.mem_cons.mp member
    · exact first fd (List.mem_singleton.mpr rfl)
    · exact rest fd later

/-- A computation that succeeds if a condition holds, and otherwise calls a
null or deleted agent. -/
def FailsUnless {α : Type} (good : Prop) (computation : Except Fault α) :
    Prop :=
  (good ∧ ∃ result, computation = .ok result) ∨
    (¬ good ∧ ∃ fault, computation = .error fault ∧ fault.ByAgent)

theorem FailsUnless.iff {α : Type} {good better : Prop}
    {computation : Except Fault α} (decided : FailsUnless good computation)
    (same : good ↔ better) : FailsUnless better computation := by
  unfold FailsUnless
  rw [← same]
  exact decided

theorem FailsUnless.avoids_iff {α : Type} {good : Prop}
    {computation : Except Fault α} (decided : FailsUnless good computation) :
    Avoids Fault.ByAgent computation ↔ good := by
  obtain ⟨holds, result, rfl⟩ | ⟨fails, fault, rfl, byAgent⟩ := decided
  · simp [holds]
  · simp [fails, byAgent]

/-- What comes after the part that may fail does not fail. -/
theorem FailsUnless.bind {α β : Type} {good : Prop}
    {first : Except Fault α} {second : α → Except Fault β}
    (decided : FailsUnless good first)
    (succeeds : ∀ middle, first = .ok middle →
      ∃ result, second middle = .ok result) :
    FailsUnless good (first >>= second) := by
  obtain ⟨holds, middle, rfl⟩ | ⟨fails, fault, rfl, byAgent⟩ := decided
  · exact .inl ⟨holds, succeeds middle rfl⟩
  · exact .inr ⟨fails, fault, rfl, byAgent⟩

theorem Usable.sends (usable : Usable state) (sends : Sends state next) :
    Usable next :=
  usable.frame sends.mapAgents sends.agents sends.sockets

theorem Usable.logicCall (usable : Usable state) (call : LogicCall) :
    FailsUnless (ClosesNone state.mapAgents [call])
      (state.logicCall call) := by
  cases call with
  | send fd buf =>
      refine .inl ⟨closesNone_send _ fd buf, ?_⟩
      simp only [ServerState.logicCall]
      split
      · rename_i agent lookup
        obtain ⟨next, sent, -⟩ := usable.send lookup buf
        exact ⟨next, sent⟩
      · exact ⟨state, rfl⟩
  | close fd =>
      simp only [ServerState.logicCall, closesNone_close]
      split
      · rename_i agent lookup
        rw [lookup, usable.closeByLogic lookup]
        exact .inr ⟨Option.some_ne_none agent, .deletedAgent agent, rfl,
          trivial⟩
      · rename_i lookup
        exact .inl ⟨lookup, state, rfl⟩

/-- The calls of the logic fail if one of them closes a registered agent. -/
theorem Usable.logicCalls (usable : Usable state) (calls : List LogicCall) :
    FailsUnless (ClosesNone state.mapAgents calls)
      (state.logicCalls calls) := by
  induction calls generalizing state with
  | nil => exact .inl ⟨by simp [ClosesNone], state, rfl⟩
  | cons call calls ih =>
      change FailsUnless _
        (state.logicCall call >>= fun middle => middle.logicCalls calls)
      obtain ⟨harmless, middle, called⟩ | ⟨closes, fault, failed, byAgent⟩ :=
        usable.logicCall call
      · have sends := logicCall_sends called
        rw [called]
        apply (ih (usable.sends sends)).iff
        rw [sends.mapAgents, closesNone_cons]
        exact (and_iff_right harmless).symm
      · rw [failed, closesNone_cons]
        exact .inr ⟨fun none => closes none.1, fault, rfl, byAgent⟩

/-- The condition under which a package for a live socket is handled: a packet
has a head and finds an agent, and the logic closes no agent in the callback
that the package leads to. -/
def Dispatchable (state : ServerState) (calls : List LogicCall)
    (object : SocketObject) : MainPackage → Prop
  | .accept socket =>
      state.mapAgents[object.fd]? = none →
        ClosesNone (state.registerAgent socket object.fd).mapAgents calls
  | .recvBuf _ buf =>
      state.mapAgents[object.fd]? ≠ none ∧ headLen ≤ buf.length ∧
        ClosesNone state.mapAgents calls
  | .close _ =>
      state.mapAgents[object.fd]? ≠ none → ClosesNone state.mapAgents calls

section Packages

variable (usable : Usable state) (calls : List LogicCall)
include usable

theorem Usable.onClientRecive (host : Host) (now : UInt32) (socket : Nat)
    {fd : UInt64} {agent : Nat} (lookup : state.mapAgents[fd]? = some agent)
    (head : ProtocolHead) (buf : Bytes) :
    FailsUnless (ClosesNone state.mapAgents calls)
      (state.onClientRecive host now calls socket agent head buf) := by
  let answer := state.server.onClientRecive host now head buf
  let answered :=
    called (.onClientRecive socket agent buf)
      { state with server := answer.1 }
  have answeredUsable : answered.Usable := usable.frame rfl rfl rfl
  have found : answered.mapAgents[fd]? = some agent := lookup
  have replied : ∃ middle, answered.sendReply agent answer.2 =
      .ok middle := by
    cases answer.2 with
    | none => exact ⟨answered, rfl⟩
    | some sendbuf =>
        obtain ⟨middle, sent, -⟩ := answeredUsable.send found sendbuf
        exact ⟨middle, sent⟩
  obtain ⟨middle, replied⟩ := replied
  have sends := sendReply_sends replied found
  have called := (answeredUsable.sends sends).logicCalls calls
  rw [sends.mapAgents] at called
  change FailsUnless _
    (answered.sendReply agent answer.2 >>= fun middle =>
      middle.logicCalls calls)
  rw [replied]
  exact called

theorem Usable.receiveBy (host : Host) (now : UInt32) (socket : Nat)
    (fd : UInt64) (buf : Bytes) :
    FailsUnless
      (state.mapAgents[fd]? ≠ none ∧ headLen ≤ buf.length ∧
        ClosesNone state.mapAgents calls)
      (state.receiveBy host now calls socket buf state.mapAgents[fd]?) := by
  cases lookup : state.mapAgents[fd]? with
  | none => exact .inr ⟨fun good => good.1 rfl, .nullAgent, rfl, trivial⟩
  | some agent =>
      simp only [ServerState.receiveBy]
      by_cases enough : headLen ≤ buf.length
      · obtain ⟨head, parsed, -⟩ := parseHead_len host buf enough
        rw [parsed]
        apply (usable.onClientRecive calls host now socket lookup head buf).iff
        simp [enough]
      · rw [parseHead_short host buf (by omega), usable.closeByLogic lookup]
        exact .inr ⟨fun good => enough good.2.1, .deletedAgent agent, rfl,
          trivial⟩

theorem Usable.closeAgent (socket : Nat) (fd : UInt64) :
    FailsUnless
      (state.mapAgents[fd]? ≠ none → ClosesNone state.mapAgents calls)
      (state.closeAgent calls socket state.mapAgents[fd]?) := by
  cases lookup : state.mapAgents[fd]? with
  | none => exact .inl ⟨by simp, state, rfl⟩
  | some agent =>
      let answered :=
        called (.onClientClose socket agent)
          { state with server := state.server.onClientClose }
      have answeredUsable : answered.Usable := usable.frame rfl rfl rfl
      have called := answeredUsable.logicCalls calls
      change FailsUnless _
        (answered.logicCalls calls >>= fun middle =>
          middle.deleteAgent agent)
      apply FailsUnless.bind
      · exact called.iff (by simp [answered, ServerState.called])
      · intro middle ran
        have sends := logicCalls_sends ran
        have found : middle.mapAgents[fd]? = some agent := by
          rw [sends.mapAgents]
          exact lookup
        obtain ⟨object, target, ⟨-, there, notDeleted⟩, alive⟩ :=
          answeredUsable.sends sends fd agent found
        exact ⟨_, deleteAgent_alive there notDeleted alive⟩

omit usable in
theorem closeAgent_sockets {socket : Nat} {agent : Option Nat}
    (ran : state.closeAgent calls socket agent = .ok next) :
    next.sockets = state.sockets := by
  cases agent with
  | none => exact congrArg sockets (Except.ok.inj ran).symm
  | some agent =>
      obtain ⟨middle, called, deleted⟩ := bind_ok ran
      obtain ⟨object, target, -, -, -, rfl⟩ := deleteAgent_ok deleted
      exact (logicCalls_sends called).sockets

variable {socket : Nat} {object : SocketObject}
variable (alive : state.Alive socket object)
include alive

theorem Usable.pairAccept :
    FailsUnless (state.Dispatchable calls object (.accept socket))
      (state.pairAccept calls socket) := by
  unfold ServerState.pairAccept Dispatchable
  rw [getAgent_alive alive]
  cases lookup : state.mapAgents[object.fd]? with
  | some agent => exact .inl ⟨nofun, state, rfl⟩
  | none =>
      simp only [bind, Except.bind, forall_const]
      rw [derefSocket_ok.mpr alive]
      let registered :=
        called (.onAcceptClient socket state.agents.length)
          (state.registerAgent socket object.fd)
      have registeredUsable : registered.Usable :=
        (usable.registerAgent alive).frame rfl rfl rfl
      exact registeredUsable.logicCalls calls

theorem Usable.pairRecvBuf (host : Host) (now : UInt32) (buf : Bytes) :
    FailsUnless (state.Dispatchable calls object (.recvBuf socket buf))
      (state.pairRecvBuf host now calls socket buf) := by
  have handled := usable.receiveBy calls host now socket object.fd buf
  unfold ServerState.pairRecvBuf
  rw [getAgent_alive alive]
  exact handled.bind fun middle _ => ⟨middle.release buf, rfl⟩

theorem Usable.pairClose :
    FailsUnless (state.Dispatchable calls object (.close socket))
      (state.pairClose calls socket) := by
  let lowered : ServerState :=
    { state with nNowSocketCount := state.nNowSocketCount - 1 }
  have stillAlive : lowered.Alive socket object := alive
  have loweredUsable : lowered.Usable := usable.frame rfl rfl rfl
  have handled := loweredUsable.closeAgent calls socket object.fd
  change FailsUnless _
    (lowered.getAgent socket >>= fun agent =>
      lowered.closeAgent calls socket agent >>= fun middle =>
        middle.asynClose socket)
  rw [getAgent_alive stillAlive]
  apply handled.bind
  intro middle closed
  exact ⟨_, asynClose_alive
    (alive_of_sockets stillAlive (closeAgent_sockets calls closed))⟩

end Packages

/-- A package for a socket that has been destroyed fails at the socket. -/
theorem getAgent_dead {socket : Nat}
    (dead : ∀ object, ¬ state.Alive socket object) :
    state.getAgent socket = .error (.destroyedSocket socket) := by
  unfold getAgent derefSocket
  cases found : state.sockets[socket]? with
  | none => rfl
  | some object =>
      cases destroyed : object.destroyed with
      | false => exact absurd ⟨found, destroyed⟩ (dead object)
      | true => simp [destroyed, bind, Except.bind]

theorem pairCallback_cons (host : Host) (now : UInt32)
    (calls : List LogicCall) {package : MainPackage}
    {packList : List MainPackage}
    (head : state.packList = package :: packList) :
    state.pairCallback host now calls =
      handle host now calls package { state with packList } := by
  unfold pairCallback
  rw [head]

theorem Usable.handle (usable : Usable state) (host : Host) (now : UInt32)
    (calls : List LogicCall) (package : MainPackage) {object : SocketObject}
    (alive : state.Alive package.socket object) :
    FailsUnless (state.Dispatchable calls object package)
      (state.handle host now calls package) := by
  cases package with
  | accept socket => exact usable.pairAccept calls alive
  | recvBuf socket buf => exact usable.pairRecvBuf calls alive host now buf
  | close socket => exact usable.pairClose calls alive

theorem handle_dead (host : Host) (now : UInt32) (calls : List LogicCall)
    (package : MainPackage)
    (dead : ∀ object, ¬ state.Alive package.socket object) :
    state.handle host now calls package =
      .error (.destroyedSocket package.socket) := by
  cases package with
  | accept socket =>
      have lookup : state.getAgent socket =
          .error (.destroyedSocket socket) := getAgent_dead dead
      simp only [handle, pairAccept]
      rw [lookup]
      rfl
  | recvBuf socket buf =>
      have lookup : state.getAgent socket =
          .error (.destroyedSocket socket) := getAgent_dead dead
      simp only [handle, pairRecvBuf]
      rw [lookup]
      rfl
  | close socket =>
      let lowered : ServerState :=
        { state with nNowSocketCount := state.nNowSocketCount - 1 }
      have stillDead : lowered.getAgent socket =
          .error (.destroyedSocket socket) := getAgent_dead dead
      simp only [handle, pairClose]
      rw [stillDead]
      rfl

/-- The condition under which the main thread keeps to agents that it can
use. -/
def KeepsToAgents (state : ServerState) : ServerAction → Prop
  | .pairCallback _ calls =>
      ∀ package packList object, state.packList = package :: packList →
        state.Alive package.socket object →
          state.Dispatchable calls object package
  | _ => True

/-- What the main thread is to do with a package: it calls no method of a null
or deleted agent, and releases the buffer of a packet. -/
def Dispatched (host : Host) (state : ServerState) : ServerAction → Prop
  | .pairCallback now calls =>
      Avoids Fault.ByAgent (state.pairCallback host now calls) ∧
        ∀ socket buf packList next,
          state.packList = .recvBuf socket buf :: packList →
            state.pairCallback host now calls = .ok next →
              next.history.released = state.history.released ++ [buf]
  | _ => True

theorem receiveBy_released {host : Host} {now : UInt32}
    {calls : List LogicCall} {socket : Nat} {fd : UInt64} {buf : Bytes}
    (ran : state.receiveBy host now calls socket buf state.mapAgents[fd]? =
      .ok next) :
    next.history.released = state.history.released := by
  cases lookup : state.mapAgents[fd]? with
  | none =>
      rw [lookup] at ran
      cases ran
  | some agent =>
      rw [lookup] at ran
      simp only [receiveBy] at ran
      split at ran
      · obtain ⟨server, -, sends⟩ := onClientRecive_sends lookup ran
        rw [sends.history]
        rfl
      · exact absurd ran closeByLogic_fails

/-- The buffer of a packet that has been handled is released. -/
theorem pairRecvBuf_released {host : Host} {now : UInt32}
    {calls : List LogicCall} {socket : Nat} {buf : Bytes}
    (ran : state.pairRecvBuf host now calls socket buf = .ok next) :
    next.history.released = state.history.released ++ [buf] := by
  obtain ⟨agent, found, rest⟩ := bind_ok ran
  obtain ⟨object, -, rfl⟩ := getAgent_ok found
  obtain ⟨middle, handled, released⟩ := bind_ok rest
  obtain rfl := Except.ok.inj released
  exact congrArg (· ++ [buf]) (receiveBy_released handled)

theorem pairCallback_released {host : Host} {now : UInt32}
    {calls : List LogicCall} {socket : Nat} {buf : Bytes}
    {packList : List MainPackage}
    (head : state.packList = .recvBuf socket buf :: packList)
    (ran : state.pairCallback host now calls = .ok next) :
    next.history.released = state.history.released ++ [buf] := by
  rw [pairCallback_cons host now calls head] at ran
  simp only [handle] at ran
  have released := pairRecvBuf_released ran
  exact released

/-- One step dispatches its package exactly if it keeps to agents that it can
use. -/
theorem Usable.dispatched_iff (usable : Usable state) (host : Host)
    (action : ServerAction) :
    Dispatched host state action ↔ KeepsToAgents state action := by
  cases action with
  | pairCallback now calls =>
      have releases : ∀ socket buf packList next,
          state.packList = .recvBuf socket buf :: packList →
            state.pairCallback host now calls = .ok next →
              next.history.released = state.history.released ++ [buf] :=
        fun _ _ _ _ => pairCallback_released
      simp only [Dispatched, KeepsToAgents, and_iff_left releases]
      cases head : state.packList with
      | nil => simp [pairCallback, head]
      | cons package packList =>
          rw [pairCallback_cons host now calls head]
          by_cases alive : ∃ object, state.Alive package.socket object
          · obtain ⟨object, alive⟩ := alive
            have poppedUsable : Usable { state with packList } :=
              usable.frame rfl rfl rfl
            have decided := poppedUsable.handle host now calls package alive
            rw [decided.avoids_iff]
            constructor
            · rintro good _ _ other ⟨⟩ otherAlive
              obtain rfl :=
                Option.some.inj (alive.1.symm.trans otherAlive.1)
              exact good
            · intro good
              exact good package packList object rfl alive
          · rw [not_exists] at alive
            have dead : ∀ object,
                ¬ Alive { state with packList } package.socket object := alive
            rw [handle_dead host now calls package dead, avoids_error]
            refine iff_of_true id ?_
            rintro _ _ object ⟨⟩ objectAlive
            exact absurd objectAlive (alive object)
  | _ => exact Iff.rfl

/-- In a run of the server the main thread dispatches every package that it
takes if and only if every packet comes with a head and finds an agent, and
the logic closes no registered agent in a callback. -/
theorem serverDispatch_iff (host : Host) (nMaxSockets : Int)
    (nThreadCount : Nat) (actions : List ServerAction) :
    MeetsAlong (step host) (Dispatched host)
        (initial nMaxSockets nThreadCount) actions ↔
      MeetsAlong (step host) KeepsToAgents
        (initial nMaxSockets nThreadCount) actions := by
  apply meetsAlong_congr
  · intro state action next sound stepped
    exact Sound.transition sound (step_transition stepped)
  · intro state action sound
    exact (Sound.usable sound).dispatched_iff host action
  · exact initial_sound nMaxSockets nThreadCount

/-- A connection whose writing side fails, and which still brings a packet
before the main thread takes the `close` package. -/
def lostBeforePacket : List ServerAction :=
  opened ++ [.eventCallback 0 .writing, .readCallback 0 [4, 0, 1, 0],
    .pairCallback 0 []]

/-- The packet that comes after the close is handed to a null agent. -/
theorem serverDispatch_lostBeforePacket :
    ¬ MeetsAlong (step .little) (Dispatched .little) (initial 10 1)
      (lostBeforePacket ++ [.pairCallback 0 []]) := by
  intro dispatched
  have stops : (match runActions (step .little) (initial 10 1)
        lostBeforePacket with
      | .ok middle =>
          match middle.pairCallback .little 0 [] with
          | .error .nullAgent => true
          | _ => false
      | .error _ => false) = true := by
    decide +kernel
  cases ran : runActions (step .little) (initial 10 1) lostBeforePacket with
  | error fault => simp [ran] at stops
  | ok middle =>
      have avoids := meetsAlong_iff.mp dispatched lostBeforePacket
        (.pairCallback 0 []) [] middle rfl ran
      simp only [ran] at stops
      split at stops
      · rename_i failed
        exact avoids.1 _ failed trivial
      · cases stops

end ServerState

end EchoServer
