import EchoServer.ClientObject
import EchoServer.LabelledRun
import EchoServer.LatestNews
import EchoServer.ProtocolBase

/-!
# The agents of a client

`ClientSocket.cpp`: the main thread keeps an `AgentServer` for each connection
that the IO threads report.  It looks agents up by the descriptor that their
socket has when a package is handled, which the IO thread may have changed by
then.
-/

namespace EchoServer

open ByteOrder LabelledRun LatestNews

/-- An `AgentServer`. -/
structure AgentServerObject where
  socket : Nat
  deriving DecidableEq

/-- A call of the `ClientSocketCallBack`. -/
inductive ServerCall
  | onConnectServer (agent : AgentServerObject) (flag : Int)
  | onServerRecive (agent : AgentServerObject) (buf : Bytes)
  | onServerClose (agent : AgentServerObject)
  deriving DecidableEq

/-- A `ClientSocket` with the sockets of its IO threads, numbered in the order
of their creation.  The packages in its queue come with their sockets. -/
structure ClientState where
  packList : List (Nat × ClientPackage)
  mapAgents : Std.TreeMap UInt64 AgentServerObject
  sockets : List ClientObject
  calls : List ServerCall

/-- An IO thread takes a `connect` package, a callback of libevent is made for
a socket, or the main thread takes a package. -/
inductive ClientAction
  | connect (recvBuf : Block maxBufferSize) (answers : SystemAnswers)
  | callback (socket : Nat) (callback : ClientCallback)
  | pairCallback

namespace ClientState

def initial : ClientState where
  packList := []
  mapAgents := ∅
  sockets := []
  calls := []

/-- Packages that a socket queues. -/
def queue (socket : Nat) (packages : List ClientPackage)
    (state : ClientState) : ClientState :=
  { state with packList := state.packList ++ packages.map (socket, ·) }

def called (call : ServerCall) (state : ClientState) : ClientState :=
  { state with calls := state.calls ++ [call] }

/-- `ClientSocket::deleteAgent`. -/
def deleteAgent (agent : AgentServerObject) (state : ClientState) : ClientState :=
  match state.sockets[agent.socket]? with
  | some object =>
      { state with mapAgents := state.mapAgents.erase object.socket.nFd }
  | none => state

/-- The branches of `ClientSocket::pairCallback`, for a package of a socket
with the given descriptor. -/
def handle (host : Host) (socket : Nat) (fd : UInt64)
    (package : ClientPackage) (state : ClientState) : ClientState :=
  -- `getAgent`
  match package, state.mapAgents[fd]? with
  | .connectEnd flag, none =>
      called (.onConnectServer { socket } flag)
        { state with mapAgents := state.mapAgents.insert fd { socket } }
  | .connectEnd _, some _ => state
  | .recvBuf buf, some agent =>
      match parseHead host buf with
      | .ok _ => state.called (.onServerRecive agent buf)
      | .error _ => state
  | .recvBuf _, none => state
  | .close, some agent =>
      (state.called (.onServerClose agent)).deleteAgent agent
  | .close, none => state

/-- One package of `ClientSocket::pairCallback`. -/
def pairCallback (host : Host) (state : ClientState) : ClientState :=
  match state.packList with
  | [] => state
  | (socket, package) :: packList =>
      let state := { state with packList }
      match state.sockets[socket]? with
      | some object => state.handle host socket object.socket.nFd package
      | none => state

/-- One step. -/
def step (host : Host) (state : ClientState) :
    ClientAction → Except RecvStop ClientState
  | .connect recvBuf answers =>
      let (object, packages) := (ClientObject.new recvBuf).toConnect answers
      .ok (queue state.sockets.length packages
        { state with sockets := state.sockets ++ [object] })
  | .callback socket callback =>
      match state.sockets[socket]? with
      | some object =>
          match object.callback host callback with
          | .ok (next, packages) =>
              .ok (queue socket packages
                { state with sockets := state.sockets.set socket next })
          | .error stop => .error stop
      | none => .ok state
  | .pairCallback => .ok (state.pairCallback host)

/-- `socket` returns no descriptor that is open, and none is ever closed. -/
def OpensFresh (state : ClientState) (answers : SystemAnswers) : Prop :=
  0 ≤ answers.socket →
    ∀ object ∈ state.sockets, answers.fd ∉ object.descriptors

/-- Every call of `socket` returns a fresh descriptor. -/
def Fresh (state : ClientState) : ClientAction → Prop
  | .connect _ answers => state.OpensFresh answers
  | .callback _ (.reconnectCallback answers) => state.OpensFresh answers
  | _ => True

/-- The timer of a socket does not fire while an agent made for it is
registered, and while a link is up no loss is reported by another bufferevent
than its own. -/
def FollowsLoss (state : ClientState) : ClientAction → Prop
  | .callback socket (.reconnectCallback _) =>
      ∀ object, state.sockets[socket]? = some object →
        object.socket.reConnPending = true →
          ∀ (fd : UInt64) (agent : AgentServerObject),
            state.mapAgents[fd]? = some agent → agent.socket ≠ socket
  | .callback socket (.eventCallback bufferevent events) =>
      ∀ object, state.sockets[socket]? = some object → object.LinkUp →
        ClientObject.Disconnects events →
          bufferevent < object.bufferevents.length →
            bufferevent + 1 = object.bufferevents.length
  | _ => True

/-- The agents are those of the sockets whose link is up, each under the
descriptor of its socket. -/
structure AgentsOfLinks (state : ClientState) : Prop where
  registered : ∀ (socket : Nat) (object : ClientObject),
    state.sockets[socket]? = some object → object.LinkUp →
      state.mapAgents[object.socket.nFd]? = some { socket }
  onlyThese : ∀ (fd : UInt64) (agent : AgentServerObject),
    state.mapAgents[fd]? = some agent → ∃ object : ClientObject,
      state.sockets[agent.socket]? = some object ∧ object.LinkUp ∧
        object.socket.nFd = fd

/-- When no package waits, the agents are those of the links that are up. -/
def TracksLinks (state : ClientState) : Prop :=
  state.packList = [] → AgentsOfLinks state

end ClientState

end EchoServer
