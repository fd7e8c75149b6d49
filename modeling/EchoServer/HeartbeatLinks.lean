import EchoServer.HeartbeatRoundTrip
import EchoServer.SendPath
import EchoServer.WebSocketClosing

/-!
# Clients that send heartbeats to one server

The connections of any number of clients to one server, while they are up.  A
heartbeat goes through the queue of the client's IO thread, the send buffer of
the `ClientIOSocket`, the network, the `ServerIOSocket`, and the queue of the
server's main thread, where `Server::onClientRecive` answers it.  The answer
goes the same way back.  Every callback takes as many packages from its queue,
and every read finds as many of the bytes sent, as the run says.
-/

namespace EchoServer

open Buffering ByteOrder

/-- One connection with both of its ends and the bytes in the network, and,
from the start, the timestamps of the heartbeats sent and the calls of
`onServerRecive`. -/
structure HeartbeatLink where
  agent : AgentServer
  clientPackages : List Bytes
  clientSendBuf : SendBuffer maxBufferSize
  upstream : Bytes
  serverSocket : ServerIOSocket
  serverSendBuf : SendBuffer maxBufferSize
  downstream : Bytes
  clientSocket : ClientIOSocket
  clientQueue : List Bytes
  heartbeats : List UInt32
  recived : List (ProtocolHead × Bytes)

/-- What must not happen: a callback of an IO thread goes wrong, or a packet
cannot be built or parsed. -/
inductive LinkFault
  | callback (fault : CallbackFault)
  | stream (stop : StreamStop)

namespace HeartbeatLink

/-- A connection that both ends have just been told of. -/
def connected : HeartbeatLink where
  agent := { nLastHeartTime := 0 }
  clientPackages := []
  clientSendBuf := ServerSender.accepted.sendBuf
  upstream := []
  serverSocket :=
    { status := .connected
      nWebSocketFlag := .wfUnknown
      buffer := { recvBuf := .zero _, nRecvBufLen := 0 } }
  serverSendBuf := ServerSender.accepted.sendBuf
  downstream := []
  clientSocket :=
    { ClientIOSocket.new (.zero _) with
      nStatus := .connected, bev := .enabled }
  clientQueue := []
  heartbeats := []
  recived := []

/-- The sending side of the `ClientIOSocket`. -/
def clientSender (link : HeartbeatLink) : ClientSender where
  bev := link.clientSocket.bev
  sendBuf := link.clientSendBuf
  passedOn := []

/-- The sending side of the `ServerIOSocket`. -/
def serverSender (link : HeartbeatLink) : ServerSender where
  status := link.serverSocket.status
  nWebSocketFlag := link.serverSocket.nWebSocketFlag
  sendBuf := link.serverSendBuf
  passedOn := []
  destroyed := false

/-- `AgentServer::tryHeartBeat`, with the queue of the IO thread that `send`
pushes the packet to. -/
def tryHeartBeat (host : Host) (now : UInt32) (link : HeartbeatLink) :
    Except LinkFault HeartbeatLink :=
  match link.agent.tryHeartBeat host now with
  | .error stop => .error (.stream stop)
  | .ok (agent, none) => .ok { link with agent }
  | .ok (agent, some sendbuf) =>
      .ok
        { link with
          agent
          clientPackages := link.clientPackages ++ [sendbuf]
          heartbeats := link.heartbeats ++ [now] }

/-- `ClientSocketIOThread::pairCallback` on `count` packages for the socket. -/
def clientPairCallback (count : Nat) (link : HeartbeatLink) :
    Except LinkFault HeartbeatLink :=
  match ClientSender.pairCallback.run
      ((link.clientPackages.take count).map (Prod.mk 0))
      [link.clientSender] with
  | .error fault => .error (.callback (.send fault))
  | .ok after =>
      let sender := after.headD link.clientSender
      .ok
        { link with
          clientPackages := link.clientPackages.drop count
          clientSendBuf := sender.sendBuf
          upstream := link.upstream ++ sender.passedOn.flatten }

/-- The bytes that a read callback of the server's socket finds. -/
def serverRead (amount : Nat) (link : HeartbeatLink) : Bytes :=
  link.upstream.take (min amount link.serverSocket.asked)

/-- `ServerSocketIOThread::readCallback`, with the packets handed to
`asynRecive`. -/
def serverReadCallback (host : Host) (doWebSocketHandShake : Bytes → Bool)
    (amount : Nat) (link : HeartbeatLink) :
    Except LinkFault (HeartbeatLink × List Bytes) :=
  match link.serverSocket.recv host doWebSocketHandShake
      (link.serverRead amount) with
  | .error stop => .error (.callback (.recv stop))
  | .ok (_, serverSocket, packets) =>
      .ok
        ({ link with
            serverSocket
            upstream := link.upstream.drop
              (min amount link.serverSocket.asked) },
          packets)

/-- What `ServerSocketIOThread::pairCallback` has made of the sending side of
the `ServerIOSocket`. -/
def withServerSender (link : HeartbeatLink) (sender : ServerSender) :
    HeartbeatLink :=
  { link with
    serverSendBuf := sender.sendBuf
    downstream := link.downstream ++ sender.passedOn.flatten }

/-- The bytes that a read callback of the client's socket finds. -/
def clientRead (amount : Nat) (link : HeartbeatLink) : Bytes :=
  link.downstream.take (min amount link.clientSocket.asked)

/-- `ClientSocketIOThread::readCallback`. -/
def clientReadCallback (host : Host) (amount : Nat) (link : HeartbeatLink) :
    Except LinkFault HeartbeatLink :=
  match link.clientSocket.recv host (link.clientRead amount) with
  | .error stop => .error (.callback (.recv stop))
  | .ok (_, clientSocket, packets) =>
      .ok
        { link with
          clientSocket
          downstream := link.downstream.drop
            (min amount link.clientSocket.asked)
          clientQueue := link.clientQueue ++ packets }

/-- `ClientSocket::pairCallback` on one `recv_buf` package. -/
def clientMainCallback (host : Host) (link : HeartbeatLink) :
    Except LinkFault HeartbeatLink :=
  match link.clientQueue with
  | [] => .ok link
  | buf :: clientQueue =>
      match parseHead host buf with
      | .error stop => .error (.stream stop)
      | .ok head =>
          .ok
            { link with
              clientQueue
              recived := link.recived ++ [(head, buf)] }

end HeartbeatLink

/-- The server with its connections: the `recv_buf` packages for its main
thread, the `send_buf` packages for each IO thread, and, from the start, the
answers given, with the time of each, and the counters printed. -/
structure HeartbeatNetwork where
  links : List HeartbeatLink
  listPackList : List (Nat × Bytes)
  ioPackLists : Nat → List (Nat × Bytes)
  server : Server
  answers : List (Nat × UInt32)
  printed : List Server

/-- A callback of one of the threads, or the timer of the server's main
thread; links and threads go by their numbers. -/
inductive HeartbeatAction
  | tryHeartBeat (link : Nat) (now : UInt32)
  | clientPairCallback (link count : Nat)
  | serverReadCallback (link amount : Nat)
  | serverPairCallback (now : UInt32)
  | ioPairCallback (thread count : Nat)
  | clientReadCallback (link amount : Nat)
  | clientMainCallback (link : Nat)
  | onTimer

namespace HeartbeatNetwork

/-- A server with fresh connections. -/
def initial (count : Nat) : HeartbeatNetwork where
  links := List.replicate count .connected
  listPackList := []
  ioPackLists _ := []
  server := .initial
  answers := []
  printed := []

/-- A callback that concerns one link, if there is such a link. -/
def onLink (name : Nat)
    (callback : HeartbeatLink → Except LinkFault HeartbeatLink)
    (network : HeartbeatNetwork) : Except LinkFault HeartbeatNetwork :=
  match network.links[name]? with
  | none => .ok network
  | some link =>
      match callback link with
      | .error fault => .error fault
      | .ok link => .ok { network with links := network.links.set name link }

/-- A read callback of the server's socket, with the packages that
`asynRecive` pushes. -/
def serverReadCallback (host : Host) (doWebSocketHandShake : Bytes → Bool)
    (name amount : Nat) (network : HeartbeatNetwork) :
    Except LinkFault HeartbeatNetwork :=
  match network.links[name]? with
  | none => .ok network
  | some link =>
      match link.serverReadCallback host doWebSocketHandShake amount with
      | .error fault => .error fault
      | .ok (link, packets) =>
          .ok
            { network with
              links := network.links.set name link
              listPackList :=
                network.listPackList ++ packets.map (Prod.mk name) }

/-- `ServerSocket::pairCallback` on one `recv_buf` package, with the package
that `AgentClient::send` pushes. -/
def serverPairCallback (host : Host) (thread : Nat → Nat) (now : UInt32)
    (network : HeartbeatNetwork) : Except LinkFault HeartbeatNetwork :=
  match network.listPackList with
  | [] => .ok network
  | (name, buf) :: listPackList =>
      match parseHead host buf with
      | .error stop => .error (.stream stop)
      | .ok head =>
          match network.server.onClientRecive host now head buf with
          | (server, none) => .ok { network with server, listPackList }
          | (server, some sendbuf) =>
              .ok
                { network with
                  server
                  listPackList
                  ioPackLists := Function.update network.ioPackLists
                    (thread name)
                    (network.ioPackLists (thread name) ++ [(name, sendbuf)])
                  answers := network.answers ++ [(name, now)] }

/-- `ServerSocketIOThread::pairCallback` on `count` packages of a thread. -/
def ioPairCallback (thread count : Nat) (network : HeartbeatNetwork) :
    Except LinkFault HeartbeatNetwork :=
  match ServerSender.pairCallback.run
      (packagesOf .sendBuf ((network.ioPackLists thread).take count))
      (network.links.map HeartbeatLink.serverSender) with
  | .error fault => .error (.callback (.send fault))
  | .ok senders =>
      .ok
        { network with
          links :=
            List.zipWith HeartbeatLink.withServerSender network.links senders
          ioPackLists := Function.update network.ioPackLists thread
            ((network.ioPackLists thread).drop count) }

/-- `Server::onTimer`, which prints the counters and resets all but the number
of sockets. -/
def onTimer (network : HeartbeatNetwork) : HeartbeatNetwork :=
  { network with
    server := network.server.onTimer
    printed := network.printed ++ [network.server] }

/-- One callback.  `thread` tells which IO thread of the server a connection
was given to, and the two hosts are those of the clients and of the server. -/
def step (clientHost serverHost : Host)
    (doWebSocketHandShake : Bytes → Bool) (thread : Nat → Nat)
    (network : HeartbeatNetwork) :
    HeartbeatAction → Except LinkFault HeartbeatNetwork
  | .tryHeartBeat link now =>
      network.onLink link (·.tryHeartBeat clientHost now)
  | .clientPairCallback link count =>
      network.onLink link (·.clientPairCallback count)
  | .serverReadCallback link amount =>
      network.serverReadCallback serverHost doWebSocketHandShake link amount
  | .serverPairCallback now =>
      network.serverPairCallback serverHost thread now
  | .ioPairCallback thread count => network.ioPairCallback thread count
  | .clientReadCallback link amount =>
      network.onLink link (·.clientReadCallback clientHost amount)
  | .clientMainCallback link =>
      network.onLink link (·.clientMainCallback clientHost)
  | .onTimer => .ok network.onTimer

end HeartbeatNetwork

end EchoServer
