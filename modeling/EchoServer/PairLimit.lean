import EchoServer.ClientObject
import EchoServer.ClientSending
import EchoServer.QueueLoop
import EchoServer.ServerTransitions

/-!
# The limit of packages in one call

`_nPairDealCount` is meant to bound the packages that one call of
`pairCallback` takes, on the main thread of the server and on the IO threads of
both sides.  All three compare the counter before they increment it.
-/

namespace EchoServer

open ByteOrder FaultingComputation

/-- A `threadPackage` for an IO thread of the client. -/
inductive ClientIOPackage
  | connect
  | sendBuf (socket : Nat) (buf : Bytes)

/-- A `ClientIOSocket` with both of its sides. -/
structure ClientEnd where
  object : ClientObject
  sendBuf : SendBuffer maxBufferSize
  passedOn : List Bytes

/-- A `ClientSocketIOThread` with its sockets, numbered in the order in which
they are created; `queued` holds the packages for the `ClientSocket`. -/
structure ClientThread where
  packList : List ClientIOPackage
  needSendList : List Nat
  sockets : List ClientEnd
  queued : List (Nat × ClientPackage)

namespace ClientEnd

/-- The sending side. -/
def sender (clientEnd : ClientEnd) : ClientSender where
  bev := clientEnd.object.socket.bev
  sendBuf := clientEnd.sendBuf
  passedOn := clientEnd.passedOn

/-- What the sending side has become. -/
def withSender (clientEnd : ClientEnd) (sender : ClientSender) : ClientEnd :=
  { clientEnd with sendBuf := sender.sendBuf, passedOn := sender.passedOn }

end ClientEnd

theorem maxBufferSize_pos : 0 < maxBufferSize := by
  decide

namespace ClientThread

/-- The object behind a socket pointer. -/
def derefSocket (thread : ClientThread) (socket : Nat) :
    Except SendFault ClientEnd :=
  match thread.sockets[socket]? with
  | some clientEnd => .ok clientEnd
  | none => .error (.destroyedSocket socket)

def setSender (socket : Nat) (clientEnd : ClientEnd) (sender : ClientSender)
    (thread : ClientThread) : ClientThread :=
  { thread with
    sockets := thread.sockets.set socket (clientEnd.withSender sender) }

/-- The `connect` branch of `ClientSocketIOThread::pairCallback`; the block
for `_pRecvBuf` comes from the allocator. -/
def pairConnect (recvBuf : Block maxBufferSize) (answers : SystemAnswers)
    (thread : ClientThread) : ClientThread :=
  let connected := (ClientObject.new recvBuf).toConnect answers
  { thread with
    sockets := thread.sockets ++
      [{ object := connected.1
         sendBuf := { block := .zero _, used := 0, used_lt := maxBufferSize_pos }
         passedOn := [] }]
    queued := thread.queued ++
      connected.2.map fun package => (thread.sockets.length, package) }

/-- The `send_buf` branch. -/
def pairSendBuf (socket : Nat) (buf : Bytes) (thread : ClientThread) :
    Except SendFault ClientThread := do
  let clientEnd ← thread.derefSocket socket
  let (sender, listed) ←
    ClientSender.collector.collect buf clientEnd.sender
  let thread := thread.setSender socket clientEnd sender
  return { thread with
    needSendList :=
      if listed then thread.needSendList ++ [socket]
      else thread.needSendList }

/-- One package of `ClientSocketIOThread::pairCallback`. -/
def pairCallback (choice : Block maxBufferSize × SystemAnswers)
    (thread : ClientThread) : Except SendFault ClientThread :=
  match thread.packList with
  | [] => .ok thread
  | package :: packList =>
      let thread := { thread with packList }
      match package with
      | .connect => .ok (thread.pairConnect choice.1 choice.2)
      | .sendBuf socket buf => thread.pairSendBuf socket buf

/-- The end of `pairCallback`: the buffers of listed sockets are sent. -/
def sendListed (sockets : List Nat) (thread : ClientThread) :
    Except SendFault ClientThread :=
  match sockets with
  | [] => .ok { thread with needSendList := [] }
  | socket :: sockets => do
      let clientEnd ← thread.derefSocket socket
      let sender ← ClientSender.collector.empty clientEnd.sender
      (thread.setSender socket clientEnd sender).sendListed sockets

/-- `ClientSocketIOThread::pairCallback`. -/
def loop : QueueLoop SendFault ClientIOPackage
    (Block maxBufferSize × SystemAnswers) ClientThread where
  queue := packList
  takeOne := pairCallback
  finish thread := thread.sendListed thread.needSendList

end ClientThread

namespace ServerState

/-- `ServerSocket::pairCallback`.  For each package, the run chooses the time
and what the logic does. -/
def loop (host : Host) :
    QueueLoop Fault MainPackage (UInt32 × List LogicCall) ServerState where
  queue := packList
  takeOne choice state := state.pairCallback host choice.1 choice.2
  finish := .ok

/-- `ServerSocketIOThread::pairCallback`.  The run chooses whether
`bufferevent_socket_new` succeeds, without which the round ends with a
`continue`, and whether a package fits the send buffer. -/
def ioLoop (thread : Nat) :
    QueueLoop Fault IOPackage (Bool × Bool) ServerState where
  queue state := (state.ioThreads thread).packList
  takeOne choice state := state.ioPairCallback thread choice.1 choice.2
  finish state := state.ioFlush thread

variable {host : Host} {state next : ServerState}

theorem pairAccept_packList {calls : List LogicCall} {socket : Nat}
    (ran : state.pairAccept calls socket = .ok next) :
    next.packList = state.packList := by
  obtain ⟨agent, -, ran⟩ := bind_ok ran
  cases agent with
  | some agent =>
      cases ran
      rfl
  | none =>
      obtain ⟨object, -, ran⟩ := bind_ok ran
      exact (logicCalls_sends ran).packList

theorem pairRecvBuf_packList {now : UInt32} {calls : List LogicCall}
    {socket : Nat} {buf : Bytes}
    (ran : state.pairRecvBuf host now calls socket buf = .ok next) :
    next.packList = state.packList := by
  obtain ⟨agent, found, ran⟩ := bind_ok ran
  obtain ⟨middle, handled, ran⟩ := bind_ok ran
  cases ran
  cases agent with
  | none => cases handled
  | some agent =>
      obtain ⟨object, -, lookup⟩ := getAgent_ok found
      rw [receiveBy] at handled
      split at handled
      · obtain ⟨server, -, sends⟩ := onClientRecive_sends lookup handled
        exact sends.packList
      · exact absurd handled closeByLogic_fails

theorem pairClose_packList {calls : List LogicCall} {socket : Nat}
    (ran : state.pairClose calls socket = .ok next) :
    next.packList = state.packList := by
  obtain ⟨agent, -, ran⟩ := bind_ok ran
  obtain ⟨middle, closed, ran⟩ := bind_ok ran
  obtain ⟨object, -, rfl⟩ := asynClose_ok ran
  cases agent with
  | none =>
      cases closed
      rfl
  | some agent =>
      obtain ⟨answered, called, deleted⟩ := bind_ok closed
      obtain ⟨agentObject, target, -, -, -, rfl⟩ := deleteAgent_ok deleted
      exact (logicCalls_sends called).packList

/-- The main thread pushes nothing onto its own queue. -/
theorem loop_pops (host : Host) : (loop host).Pops where
  takeOne choice state next package rest head ran := by
    have queued : state.packList = package :: rest := head
    have handled : handle host choice.1 choice.2 package
        { state with packList := rest } = .ok next := by
      have ran : state.pairCallback host choice.1 choice.2 = .ok next := ran
      rwa [pairCallback, queued] at ran
    change next.packList = rest
    cases package with
    | accept socket => exact pairAccept_packList handled
    | recvBuf socket buf => exact pairRecvBuf_packList handled
    | close socket => exact pairClose_packList handled
  finish state next ran := by
    cases ran
    rfl

/-- Nor does an IO thread. -/
theorem ioLoop_pops (thread : Nat) : (ioLoop thread).Pops where
  takeOne choice state next package rest head ran := by
    have queued : (state.ioThreads thread).packList = package :: rest := head
    have ran : state.ioPairCallback thread choice.1 choice.2 = .ok next := ran
    rw [ioPairCallback, queued] at ran
    change (next.ioThreads thread).packList = rest
    cases package with
    | accept fd =>
        cases ran
        rw [ioAccept]
        split_ifs
        · simp [queueMain]
        · simp
    | sendBuf socket buf =>
        obtain ⟨object, -, ran⟩ := bind_ok ran
        cases ran
        split_ifs
        · simp [release]
        · simp [release]
    | close socket =>
        obtain ⟨object, -, ran⟩ := bind_ok ran
        cases ran
        simp
  finish state next ran := by
    have ran : state.ioFlush thread = .ok next := ran
    obtain ⟨-, -, ran⟩ := bind_ok ran
    cases ran
    change ((setIOThread thread _ state).ioThreads thread).packList = _
    rw [setIOThread_ioThreads]
    rfl

end ServerState

namespace ClientThread

variable {thread next : ClientThread}

theorem pairSendBuf_packList {socket : Nat} {buf : Bytes}
    (ran : thread.pairSendBuf socket buf = .ok next) :
    next.packList = thread.packList := by
  obtain ⟨clientEnd, -, ran⟩ := bind_ok ran
  obtain ⟨collected, -, ran⟩ := bind_ok ran
  cases ran
  rfl

theorem sendListed_packList {sockets : List Nat}
    (ran : thread.sendListed sockets = .ok next) :
    next.packList = thread.packList := by
  induction sockets generalizing thread with
  | nil =>
      cases ran
      rfl
  | cons socket sockets ih =>
      obtain ⟨clientEnd, -, ran⟩ := bind_ok ran
      obtain ⟨sender, -, ran⟩ := bind_ok ran
      have rest := ih ran
      exact rest

/-- An IO thread of the client pushes nothing onto its own queue. -/
theorem loop_pops : loop.Pops where
  takeOne choice thread next package rest head ran := by
    have queued : thread.packList = package :: rest := head
    have ran : thread.pairCallback choice = .ok next := ran
    rw [pairCallback, queued] at ran
    change next.packList = rest
    cases package with
    | connect =>
        cases ran
        rfl
    | sendBuf socket buf => exact pairSendBuf_packList ran
  finish thread next ran := sendListed_packList ran

end ClientThread

/-- On all three threads, a call of `pairCallback` in which no branch goes
wrong takes as many packages as are queued, up to `_nPairDealCount`, and leaves
the rest in order, if and only if there are not more than `_nPairDealCount`,
nor so many that the counter overflows. -/
theorem pairCallback_takes_iff {nPairDealCount : Int}
    (nonneg : 0 ≤ nPairDealCount) :
    (∀ host choice (state : ServerState),
      (ServerState.loop host).BranchesReturn nPairDealCount choice state →
      ((ServerState.loop host).TakesUpTo nPairDealCount choice state ↔
        state.packList.length ≤ nPairDealCount ∧
          state.packList.length < 2 ^ 31 - 1)) ∧
    (∀ thread choice (state : ServerState),
      (ServerState.ioLoop thread).BranchesReturn nPairDealCount choice state →
      ((ServerState.ioLoop thread).TakesUpTo nPairDealCount choice state ↔
        (state.ioThreads thread).packList.length ≤ nPairDealCount ∧
          (state.ioThreads thread).packList.length < 2 ^ 31 - 1)) ∧
    ∀ choice (thread : ClientThread),
      ClientThread.loop.BranchesReturn nPairDealCount choice thread →
      (ClientThread.loop.TakesUpTo nPairDealCount choice thread ↔
        thread.packList.length ≤ nPairDealCount ∧
          thread.packList.length < 2 ^ 31 - 1) := by
  refine ⟨?_, ?_, ?_⟩
  · intro host choice state returns
    exact QueueLoop.takesUpTo_iff (ServerState.loop_pops host) nonneg returns
  · intro thread choice state returns
    exact QueueLoop.takesUpTo_iff (ServerState.ioLoop_pops thread) nonneg
      returns
  · intro choice thread returns
    exact QueueLoop.takesUpTo_iff ClientThread.loop_pops nonneg returns

/-- A package for an accepted socket waits on the main thread, and one for an
accepted descriptor on the only IO thread. -/
def bothWait : ServerState :=
  { ServerState.initial 5000 1 with
    packList := [.accept 0]
    sockets :=
      [{ fd := 7, thread := 0, readReported := false, writeReported := false
         destroyed := false }]
    ioThreads := fun _ => { packList := [.accept 8], needSendList := [] } }

/-- An IO thread of the client that is to connect. -/
def connectWaits : ClientThread where
  packList := [.connect]
  needSendList := []
  sockets := []
  queued := []

/-- The logic does nothing. -/
def quietly (_ : Nat) : UInt32 × List LogicCall :=
  (0, [])

/-- `bufferevent_socket_new` fails. -/
def refused (_ : Nat) : Bool × Bool :=
  (false, true)

/-- Every call succeeds. -/
def connecting (_ : Nat) : Block maxBufferSize × SystemAnswers :=
  (.zero _, .succeed 9)

/-- Packages of several kinds wait on both threads. -/
def severalWait : ServerState :=
  { bothWait with
    packList := [.accept 0, .recvBuf 0 [4, 0, 1, 0], .close 0]
    ioThreads := fun _ =>
      { packList := [.accept 8, .sendBuf 0 [1, 2]], needSendList := [] } }

/-- An IO thread of the client that is to connect twice and to send. -/
def severalConnect : ClientThread :=
  { connectWaits with
    packList := [.connect, .connect, .sendBuf 0 [1, 2]] }

section Waiting

variable {limit : Int}

theorem bothWait_returns :
    (ServerState.loop .little).BranchesReturn limit quietly bothWait := by
  have drained : (ServerState.loop .little).drains (0, []) 1 bothWait =
      true := by
    decide +kernel
  exact QueueLoop.branchesReturn_of_drains drained

theorem bothWait_ioReturns :
    (ServerState.ioLoop 0).BranchesReturn limit refused bothWait := by
  have drained : (ServerState.ioLoop 0).drains (false, true) 1 bothWait =
      true := by
    decide +kernel
  exact QueueLoop.branchesReturn_of_drains drained

theorem connectWaits_returns :
    ClientThread.loop.BranchesReturn limit connecting connectWaits := by
  have drained : ClientThread.loop.drains (.zero _, .succeed 9) 1 connectWaits =
      true := by
    decide +kernel
  exact QueueLoop.branchesReturn_of_drains drained

theorem severalWait_returns :
    (ServerState.loop .little).BranchesReturn limit quietly severalWait := by
  have drained : (ServerState.loop .little).drains (0, []) 3 severalWait =
      true := by
    decide +kernel
  exact QueueLoop.branchesReturn_of_drains drained

theorem severalWait_ioReturns :
    (ServerState.ioLoop 0).BranchesReturn limit refused severalWait := by
  have drained : (ServerState.ioLoop 0).drains (false, true) 2 severalWait =
      true := by
    decide +kernel
  exact QueueLoop.branchesReturn_of_drains drained

theorem severalConnect_returns :
    ClientThread.loop.BranchesReturn limit connecting severalConnect := by
  have drained : ClientThread.loop.drains (.zero _, .succeed 9) 3
      severalConnect = true := by
    decide +kernel
  exact QueueLoop.branchesReturn_of_drains drained

end Waiting

/-- A limit of 3. -/
theorem pairCallback_takes_several :
    (ServerState.loop .little).TakesUpTo 3 quietly severalWait ∧
      (ServerState.ioLoop 0).TakesUpTo 3 refused severalWait ∧
        ClientThread.loop.TakesUpTo 3 connecting severalConnect := by
  obtain ⟨server, io, client⟩ :=
    pairCallback_takes_iff (show (0 : Int) ≤ 3 by decide)
  refine ⟨?_, ?_, ?_⟩
  · exact (server .little quietly severalWait severalWait_returns).mpr
      (by decide)
  · exact (io 0 refused severalWait severalWait_ioReturns).mpr (by decide)
  · exact (client connecting severalConnect severalConnect_returns).mpr
      (by decide)

/-- A limit of 0: each of the calls takes the package, on the IO thread of the
server in a round that ends with a `continue`. -/
theorem pairCallback_takes_none :
    ¬ (ServerState.loop .little).TakesUpTo 0 quietly bothWait ∧
      ¬ (ServerState.ioLoop 0).TakesUpTo 0 refused bothWait ∧
        ¬ ClientThread.loop.TakesUpTo 0 connecting connectWaits := by
  refine ⟨?_, ?_, ?_⟩
  · rw [QueueLoop.takesUpTo_iff (ServerState.loop_pops .little) (Int.le_refl 0)
      bothWait_returns]
    decide
  · rw [QueueLoop.takesUpTo_iff (ServerState.ioLoop_pops 0) (Int.le_refl 0)
      bothWait_ioReturns]
    decide
  · rw [QueueLoop.takesUpTo_iff ClientThread.loop_pops (Int.le_refl 0)
      connectWaits_returns]
    decide

end EchoServer
