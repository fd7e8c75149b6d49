import EchoServer.LabelledRun
import EchoServer.ServerConnection

/-!
# The steps of the server's threads

Each callback of the main thread and of the IO threads takes one package, or
reacts to one event of libevent.  What a callback depends on beyond the state
(descriptors, packets, events, what the logic does) is chosen by the run.
-/

namespace EchoServer

open ByteOrder

/-- The two sides of a bufferevent, each of which reports the loss of a
connection. -/
inductive BevSide
  | reading
  | writing
  deriving DecidableEq

/-- What can happen next.  The main thread: a call of `accept` returns, one
package is taken, or the logic calls an agent by itself.  The IO threads: one
package is taken, the sockets to be flushed are flushed, `recv` hands a packet
to `asynRecive`, or a bufferevent reports an event. -/
inductive ServerAction
  | acceptCallback (result : Int)
  | pairCallback (now : UInt32) (calls : List LogicCall)
  | logic (call : LogicCall)
  | ioPairCallback (thread : Nat) (created expanded : Bool)
  | ioFlush (thread : Nat)
  | readCallback (socket : Nat) (packet : Bytes)
  | eventCallback (socket : Nat) (side : BevSide)
  deriving DecidableEq

namespace ServerState

/-- `ServerSocket::acceptCallback` when `accept` returns the given number,
which it keeps as an unsigned one. -/
def acceptCallback (result : Int) (state : ServerState) : ServerState :=
  let clientfd := UInt64.ofInt result
  if clientfd < 0 then
    state
  else if state.nNowSocketCount ≥ state.nMaxSockets then
    state
  else
    let queued := state.queueIOThread state.nCurrentThread (.accept clientfd)
    { queued with
      nCurrentThread :=
        if state.nCurrentThread + 1 ≥ state.nThreadCount then 0
        else state.nCurrentThread + 1 }

/-- A new agent for a socket, under the socket's descriptor. -/
def registerAgent (socket : Nat) (fd : UInt64) (state : ServerState) :
    ServerState :=
  { state with
    nNowSocketCount := state.nNowSocketCount + 1
    agents := state.agents ++ [{ socket, deleted := false }]
    mapAgents := state.mapAgents.insert fd state.agents.length
    server := state.server.onAcceptClient }

/-- `ServerSocket::pairCallback` on an `accept` package. -/
def pairAccept (calls : List LogicCall) (socket : Nat)
    (state : ServerState) : Except Fault ServerState := do
  match ← state.getAgent socket with
  | some _ => return state
  | none =>
      let object ← state.derefSocket socket
      let registered := state.registerAgent socket object.fd
      logicCalls calls
        (registered.called (.onAcceptClient socket state.agents.length))

/-- Send the answer of `Server::onClientRecive`, if there is one. -/
def sendReply (agent : Nat) (reply : Option Bytes) (state : ServerState) :
    Except Fault ServerState :=
  match reply with
  | some sendbuf => state.send agent sendbuf
  | none => .ok state

/-- `ServerSocketCallBack::onClientRecive`: `Server::onClientRecive`, then
what else the logic does. -/
def onClientRecive (host : Host) (now : UInt32) (calls : List LogicCall)
    (socket agent : Nat) (head : ProtocolHead) (buf : Bytes)
    (state : ServerState) : Except Fault ServerState := do
  let answer := state.server.onClientRecive host now head buf
  let state :=
    called (.onClientRecive socket agent buf)
      { state with server := answer.1 }
  let state ← state.sendReply agent answer.2
  state.logicCalls calls

/-- The `recv_buf` branch once `getAgent` has returned: without an agent the
code still calls `agent->close()`. -/
def receiveBy (host : Host) (now : UInt32) (calls : List LogicCall)
    (socket : Nat) (buf : Bytes) (agent : Option Nat) (state : ServerState) :
    Except Fault ServerState :=
  match agent with
  | some agent =>
      match parseHead host buf with
      | .ok head => state.onClientRecive host now calls socket agent head buf
      | .error _ => state.closeByLogic agent
  | none => .error .nullAgent

/-- `ServerSocket::pairCallback` on a `recv_buf` package. -/
def pairRecvBuf (host : Host) (now : UInt32) (calls : List LogicCall)
    (socket : Nat) (buf : Bytes) (state : ServerState) :
    Except Fault ServerState := do
  let agent ← state.getAgent socket
  let state ← state.receiveBy host now calls socket buf agent
  return state.release buf

/-- `ServerSocketCallBack::onClientClose` and `deleteAgent`, if `getAgent` has
found an agent. -/
def closeAgent (calls : List LogicCall) (socket : Nat) (agent : Option Nat)
    (state : ServerState) : Except Fault ServerState :=
  match agent with
  | some agent => do
      let state :=
        called (.onClientClose socket agent)
          { state with server := state.server.onClientClose }
      let state ← state.logicCalls calls
      state.deleteAgent agent
  | none => .ok state

/-- `ServerSocket::pairCallback` on a `close` package. -/
def pairClose (calls : List LogicCall) (socket : Nat)
    (state : ServerState) : Except Fault ServerState := do
  let state := { state with nNowSocketCount := state.nNowSocketCount - 1 }
  let agent ← state.getAgent socket
  let state ← state.closeAgent calls socket agent
  state.asynClose socket

/-- The branches of `ServerSocket::pairCallback`, on a package that has been
taken from the queue. -/
def handle (host : Host) (now : UInt32) (calls : List LogicCall)
    (package : MainPackage) (state : ServerState) :
    Except Fault ServerState :=
  match package with
  | .accept socket => state.pairAccept calls socket
  | .recvBuf socket buf => state.pairRecvBuf host now calls socket buf
  | .close socket => state.pairClose calls socket

/-- One package of `ServerSocket::pairCallback`. -/
def pairCallback (host : Host) (now : UInt32) (calls : List LogicCall)
    (state : ServerState) : Except Fault ServerState :=
  match state.packList with
  | [] => .ok state
  | package :: packList =>
      handle host now calls package { state with packList }

/-- The `accept` branch of `ServerSocketIOThread::pairCallback`; `created`
tells whether `bufferevent_socket_new` succeeded. -/
def ioAccept (thread : Nat) (fd : UInt64) (created : Bool)
    (state : ServerState) : ServerState :=
  if created then
    queueMain (.accept state.sockets.length)
      { state with
        sockets := state.sockets ++
          [{ fd, thread, readReported := false, writeReported := false
             destroyed := false }] }
  else
    state

/-- The `send_buf` branch; `expanded` tells whether the first call of
`expandSendBuf` succeeded, after which the socket is flushed at the end of the
batch. -/
def ioSendBuf (thread socket : Nat) (buf : Bytes) (expanded : Bool)
    (state : ServerState) : Except Fault ServerState := do
  let _ ← state.derefSocket socket
  let ioThread := state.ioThreads thread
  let state :=
    if expanded then
      state.setIOThread thread
        { ioThread with needSendList := ioThread.needSendList ++ [socket] }
    else
      state
  return state.release buf

/-- The `close` branch: `toClose`, then the socket is destroyed. -/
def ioClose (socket : Nat) (state : ServerState) :
    Except Fault ServerState := do
  let object ← state.derefSocket socket
  return { state with
    sockets := state.sockets.set socket { object with destroyed := true }
    history :=
      { state.history with
        destroyed := state.history.destroyed ++ [socket] } }

/-- One package of `ServerSocketIOThread::pairCallback`. -/
def ioPairCallback (thread : Nat) (created expanded : Bool)
    (state : ServerState) : Except Fault ServerState :=
  match (state.ioThreads thread).packList with
  | [] => .ok state
  | package :: packList =>
      let state :=
        state.setIOThread thread { state.ioThreads thread with packList }
      match package with
      | .accept fd => .ok (state.ioAccept thread fd created)
      | .sendBuf socket buf => state.ioSendBuf thread socket buf expanded
      | .close socket => state.ioClose socket

/-- Use every socket of a list. -/
def useSockets (state : ServerState) : List Nat → Except Fault Unit
  | [] => .ok ()
  | socket :: sockets => do
      let _ ← state.derefSocket socket
      state.useSockets sockets

/-- The end of `ServerSocketIOThread::pairCallback`: the sockets in
`needSendList` are flushed. -/
def ioFlush (thread : Nat) (state : ServerState) :
    Except Fault ServerState := do
  state.useSockets (state.ioThreads thread).needSendList
  return state.setIOThread thread
    { state.ioThreads thread with needSendList := [] }

/-- `recv` hands a packet to `ServerSocket::asynRecive`.  There is no read
callback once the bufferevent is freed or reading has ended. -/
def readCallback (socket : Nat) (packet : Bytes) (state : ServerState) :
    ServerState :=
  match state.sockets[socket]? with
  | some object =>
      if object.destroyed ∨ object.readReported then
        state
      else
        queueMain (.recvBuf socket packet)
          { state with
            history :=
              { state.history with
                asynRecived :=
                  state.history.asynRecived ++ [(socket, packet)] } }
  | none => state

namespace SocketSide

def reported (object : SocketObject) : BevSide → Bool
  | .reading => object.readReported
  | .writing => object.writeReported

def report (object : SocketObject) : BevSide → SocketObject
  | .reading => { object with readReported := true }
  | .writing => { object with writeReported := true }

end SocketSide

/-- `ServerSocketIOThread::eventCallback`, for the event that one side of a
bufferevent reports. -/
def eventCallback (socket : Nat) (side : BevSide) (state : ServerState) :
    ServerState :=
  match state.sockets[socket]? with
  | some object =>
      if object.destroyed ∨ SocketSide.reported object side then
        state
      else
        queueMain (.close socket)
          { state with
            sockets :=
              state.sockets.set socket (SocketSide.report object side) }
  | none => state

/-- One step. -/
def step (host : Host) (state : ServerState) :
    ServerAction → Except Fault ServerState
  | .acceptCallback result => .ok (state.acceptCallback result)
  | .pairCallback now calls => state.pairCallback host now calls
  | .logic call => state.logicCall call
  | .ioPairCallback thread created expanded =>
      state.ioPairCallback thread created expanded
  | .ioFlush thread => state.ioFlush thread
  | .readCallback socket packet => .ok (state.readCallback socket packet)
  | .eventCallback socket side => .ok (state.eventCallback socket side)

/-- A connection with descriptor 7 is accepted, gets its socket on the only IO
thread and its agent on the main thread. -/
def opened : List ServerAction :=
  [.acceptCallback 7, .ioPairCallback 0 true true, .pairCallback 0 []]

/-- A connection that is lost on both sides of its bufferevent before the main
thread takes the first package. -/
def lostOnBothSides : List ServerAction :=
  opened ++ [.eventCallback 0 .reading, .eventCallback 0 .writing,
    .pairCallback 0 [], .pairCallback 0 []]

end ServerState

end EchoServer
