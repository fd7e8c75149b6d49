import EchoServer.HeartbeatRoundTrip
import Mathlib.Logic.Function.Basic

/-!
# Connections of the server between its threads

The main thread accepts connections, keeps an `AgentClient` for each of them,
and calls the logic; IO threads own the `ServerIOSocket`s.  They talk through
one queue of packages for the main thread and one for each IO thread.  The
packages name sockets by pointers, so a step may touch a socket or an agent
that has been destroyed; the model stops there with a fault.
-/

namespace EchoServer

open ByteOrder

/-- A `ServerIOSocket` with its bufferevent.  The bufferevent reports the loss
of the connection at most once on its reading and once on its writing side, and
is freed when the socket is destroyed. -/
structure SocketObject where
  fd : UInt64
  thread : Nat
  readReported : Bool
  writeReported : Bool
  destroyed : Bool
  deriving DecidableEq

namespace SocketObject

/-- The loss of the connection has been reported on one of the sides. -/
def Reported (object : SocketObject) : Prop :=
  object.readReported = true ∨ object.writeReported = true

end SocketObject

/-- An `AgentClient`. -/
structure AgentObject where
  socket : Nat
  deleted : Bool
  deriving DecidableEq

/-- A `threadPackage` for the main thread.  Sockets are numbered in the order
in which they are created. -/
inductive MainPackage
  | accept (socket : Nat)
  | recvBuf (socket : Nat) (buf : Bytes)
  | close (socket : Nat)
  deriving DecidableEq

namespace MainPackage

/-- `p.name.socket`. -/
def socket : MainPackage → Nat
  | accept socket => socket
  | recvBuf socket _ => socket
  | close socket => socket

end MainPackage

/-- A `threadPackage` for an IO thread. -/
inductive IOPackage
  | accept (fd : UInt64)
  | sendBuf (socket : Nat) (buf : Bytes)
  | close (socket : Nat)
  deriving DecidableEq

namespace IOPackage

/-- The socket that a package names; one for an accepted descriptor names
none. -/
def socket? : IOPackage → Option Nat
  | accept _ => none
  | sendBuf socket _ => some socket
  | close socket => some socket

end IOPackage

/-- A `ServerSocketIOThread`: its queue, and the list of sockets that
`pairCallback` flushes after a batch of packages. -/
structure IOThread where
  packList : List IOPackage
  needSendList : List Nat
  deriving DecidableEq

/-- A call of the `ServerSocketCallBack`, for a package that names the given
socket. -/
inductive CallbackCall
  | onAcceptClient (socket agent : Nat)
  | onClientRecive (socket agent : Nat) (buf : Bytes)
  | onClientClose (socket agent : Nat)
  deriving DecidableEq

namespace CallbackCall

def socket : CallbackCall → Nat
  | onAcceptClient socket _ => socket
  | onClientRecive socket _ _ => socket
  | onClientClose socket _ => socket

def agent : CallbackCall → Nat
  | onAcceptClient _ agent => agent
  | onClientRecive _ agent _ => agent
  | onClientClose _ agent => agent

end CallbackCall

/-- What a run has done so far: the callbacks made, the packets that
`asynRecive` queued and for which socket, the package buffers released, and
the sockets destroyed. -/
structure ServerHistory where
  callbacks : List CallbackCall
  asynRecived : List (Nat × Bytes)
  released : List Bytes
  destroyed : List Nat
  deriving DecidableEq

/-- `ServerSocket` with its IO threads, the objects it points to, and the
`Server` that implements its callbacks. -/
structure ServerState where
  nMaxSockets : Int
  nThreadCount : Nat
  nCurrentThread : Nat
  nNowSocketCount : Int
  packList : List MainPackage
  mapAgents : Std.TreeMap UInt64 Nat
  agents : List AgentObject
  sockets : List SocketObject
  ioThreads : Nat → IOThread
  server : Server
  history : ServerHistory

/-- How a step fails: it uses a destroyed socket, a null agent, or a deleted
agent. -/
inductive Fault
  | destroyedSocket (socket : Nat)
  | nullAgent
  | deletedAgent (agent : Nat)
  deriving DecidableEq

/-- A call that the logic makes on the agent registered under a descriptor. -/
inductive LogicCall
  | send (fd : UInt64) (buf : Bytes)
  | close (fd : UInt64)
  deriving DecidableEq

namespace ServerState

/-- `ServerSocket::ServerSocket` and `Server::Server`. -/
def initial (nMaxSockets : Int) (nThreadCount : Nat) : ServerState where
  nMaxSockets := nMaxSockets
  nThreadCount := nThreadCount
  nCurrentThread := 0
  nNowSocketCount := 0
  packList := []
  mapAgents := ∅
  agents := []
  sockets := []
  ioThreads _ := { packList := [], needSendList := [] }
  server := Server.initial
  history :=
    { callbacks := [], asynRecived := [], released := [], destroyed := [] }

/-- The object behind a socket pointer. -/
def derefSocket (state : ServerState) (socket : Nat) :
    Except Fault SocketObject :=
  match state.sockets[socket]? with
  | some object =>
      if object.destroyed then .error (.destroyedSocket socket)
      else .ok object
  | none => .error (.destroyedSocket socket)

/-- The object behind an agent pointer. -/
def derefAgent (state : ServerState) (agent : Nat) :
    Except Fault AgentObject :=
  match state.agents[agent]? with
  | some object =>
      if object.deleted then .error (.deletedAgent agent) else .ok object
  | none => .error (.deletedAgent agent)

/-- Add a package to the queue of the main thread. -/
def queueMain (package : MainPackage) (state : ServerState) : ServerState :=
  { state with packList := state.packList ++ [package] }

def setIOThread (thread : Nat) (ioThread : IOThread) (state : ServerState) :
    ServerState :=
  { state with
    ioThreads := Function.update state.ioThreads thread ioThread }

/-- Add a package to the queue of an IO thread. -/
def queueIOThread (thread : Nat) (package : IOPackage) (state : ServerState) :
    ServerState :=
  state.setIOThread thread
    { state.ioThreads thread with
      packList := (state.ioThreads thread).packList ++ [package] }

/-- Record a callback. -/
def called (call : CallbackCall) (state : ServerState) : ServerState :=
  { state with
    history :=
      { state.history with
        callbacks := state.history.callbacks ++ [call] } }

/-- `__delete(p.buf)`. -/
def release (buf : Bytes) (state : ServerState) : ServerState :=
  { state with
    history :=
      { state.history with released := state.history.released ++ [buf] } }

/-- `ServerSocket::getAgent`. -/
def getAgent (socket : Nat) (state : ServerState) :
    Except Fault (Option Nat) := do
  let object ← state.derefSocket socket
  return state.mapAgents[object.fd]?

/-- `ServerSocket::deleteAgent`. -/
def deleteAgent (agent : Nat) (state : ServerState) :
    Except Fault ServerState := do
  let object ← state.derefAgent agent
  let socket ← state.derefSocket object.socket
  return { state with
    mapAgents := state.mapAgents.erase socket.fd
    agents := state.agents.set agent { object with deleted := true } }

/-- `ServerSocketIOThread::asynClose`, on the socket's own thread. -/
def asynClose (socket : Nat) (state : ServerState) :
    Except Fault ServerState := do
  let object ← state.derefSocket socket
  return state.queueIOThread object.thread (.close socket)

/-- `AgentClient::send`. -/
def send (agent : Nat) (buf : Bytes) (state : ServerState) :
    Except Fault ServerState := do
  let object ← state.derefAgent agent
  let socket ← state.derefSocket object.socket
  return state.queueIOThread socket.thread (.sendBuf object.socket buf)

/-- `AgentClient::close` and with it `ServerSocket::closeByLogic`.  Its last
lines use the agent that `deleteAgent` has destroyed, whose block the memory
pool has filled with zeros. -/
def closeByLogic (agent : Nat) (state : ServerState) :
    Except Fault ServerState := do
  let object ← state.derefAgent agent
  let _ ← state.derefSocket object.socket
  let state :=
    { state with
      nNowSocketCount := state.nNowSocketCount - 1
      server := state.server.onClientClose }
  let state := state.called (.onClientClose object.socket agent)
  let state ← state.deleteAgent agent
  let object ← state.derefAgent agent
  state.asynClose object.socket

/-- One call of the logic.  It holds agents that are registered only. -/
def logicCall (call : LogicCall) (state : ServerState) :
    Except Fault ServerState :=
  match call with
  | .send fd buf =>
      match state.mapAgents[fd]? with
      | some agent => state.send agent buf
      | none => .ok state
  | .close fd =>
      match state.mapAgents[fd]? with
      | some agent => state.closeByLogic agent
      | none => .ok state

/-- The calls that the logic makes inside a callback. -/
def logicCalls (calls : List LogicCall) (state : ServerState) :
    Except Fault ServerState :=
  match calls with
  | [] => .ok state
  | call :: calls => do
      let state ← state.logicCall call
      state.logicCalls calls

end ServerState

end EchoServer
