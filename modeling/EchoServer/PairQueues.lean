import EchoServer.ServerConnection
import EchoServer.SignalledQueue

/-!
# The queues between the threads and their socket pairs

`asynAccept`, `asynRecive`, `asynSend`, and `asynClose` push a package under
the lock and send a byte into the socket pair of the thread that owns the
queue.  Its `pairCallback` reads up to 16 bytes, takes at most
`_nPairDealCount + 1` packages, and sends a byte itself if the queue is not
empty then.
-/

namespace EchoServer

variable {Producer : Type} [DecidableEq Producer]

/-- The queue of the main thread, with `_fdPair`. -/
abbrev MainQueue (Producer : Type) :=
  SignalledQueue Producer MainPackage

/-- The queue of an IO thread. -/
abbrev IOQueue (Producer : Type) :=
  SignalledQueue Producer IOPackage

/-- What happens at once: a producer's section under the lock, its send, or a
part of `ServerSocket::pairCallback`. -/
inductive MainQueueAction (Producer : Type)
  | asynAccept (producer : Producer) (socket : Nat)
  | asynRecive (producer : Producer) (socket : Nat) (buf : Bytes)
  | asynClose (producer : Producer) (socket : Nat)
  | send (producer : Producer) (fails : Bool)
  | recvPair (count : Nat)
  | popPackage
  | sendPair (fails : Bool)

/-- The same for the queue of a `ServerSocketIOThread`. -/
inductive IOQueueAction (Producer : Type)
  | asynAccept (producer : Producer) (fd : UInt64)
  | asynSend (producer : Producer) (socket : Nat) (buf : Bytes)
  | asynClose (producer : Producer) (socket : Nat)
  | send (producer : Producer) (fails : Bool)
  | recvPair (count : Nat)
  | popPackage
  | sendPair (fails : Bool)

/-- `char buf[16]` of both callbacks. -/
def pairBufferSize : Nat := 16

namespace MainQueue

/-- The queue of `ServerSocket`. -/
def step (nPairDealCount : Int) (state : MainQueue Producer) :
    MainQueueAction Producer → MainQueue Producer
  | .asynAccept producer socket => state.push producer (.accept socket)
  | .asynRecive producer socket buf => state.push producer (.recvBuf socket buf)
  | .asynClose producer socket => state.push producer (.close socket)
  | .send producer fails => state.send producer fails
  | .recvPair count => state.recv pairBufferSize count
  | .popPackage => state.pop nPairDealCount
  | .sendPair fails => state.resend fails

theorem step_live (nPairDealCount : Int) {state : MainQueue Producer}
    (live : state.Live) (action : MainQueueAction Producer) :
    (step nPairDealCount state action).Live := by
  cases action with
  | asynAccept producer socket => exact live.push producer _
  | asynRecive producer socket buf => exact live.push producer _
  | asynClose producer socket => exact live.push producer _
  | send producer fails => exact live.send producer fails
  | recvPair count => exact live.recv pairBufferSize count
  | popPackage => exact live.pop nPairDealCount
  | sendPair fails => exact live.resend fails

theorem run_live (nPairDealCount : Int)
    (actions : List (MainQueueAction Producer)) {state : MainQueue Producer}
    (live : state.Live) :
    (actions.foldl (step nPairDealCount) state).Live := by
  refine List.foldlRecOn (motive := SignalledQueue.Live) actions
    (step nPairDealCount) live ?_
  intro reached reachedLive action _
  exact step_live nPairDealCount reachedLive action

end MainQueue

namespace IOQueue

/-- The queue of `ServerSocketIOThread`. -/
def step (nPairDealCount : Int) (state : IOQueue Producer) :
    IOQueueAction Producer → IOQueue Producer
  | .asynAccept producer fd => state.push producer (.accept fd)
  | .asynSend producer socket buf => state.push producer (.sendBuf socket buf)
  | .asynClose producer socket => state.push producer (.close socket)
  | .send producer fails => state.send producer fails
  | .recvPair count => state.recv pairBufferSize count
  | .popPackage => state.pop nPairDealCount
  | .sendPair fails => state.resend fails

theorem step_live (nPairDealCount : Int) {state : IOQueue Producer}
    (live : state.Live) (action : IOQueueAction Producer) :
    (step nPairDealCount state action).Live := by
  cases action with
  | asynAccept producer fd => exact live.push producer _
  | asynSend producer socket buf => exact live.push producer _
  | asynClose producer socket => exact live.push producer _
  | send producer fails => exact live.send producer fails
  | recvPair count => exact live.recv pairBufferSize count
  | popPackage => exact live.pop nPairDealCount
  | sendPair fails => exact live.resend fails

theorem run_live (nPairDealCount : Int)
    (actions : List (IOQueueAction Producer)) {state : IOQueue Producer}
    (live : state.Live) :
    (actions.foldl (step nPairDealCount) state).Live := by
  refine List.foldlRecOn (motive := SignalledQueue.Live) actions
    (step nPairDealCount) live ?_
  intro reached reachedLive action _
  exact step_live nPairDealCount reachedLive action

end IOQueue

/-- On both kinds of queues, and however the producers and the consumer
interleave, packages that wait are signalled, and each is popped once, in the
order of the pushes. -/
theorem noLostWakeUp (nPairDealCount : Int) (pipe : Pipe) :
    (∀ actions : List (MainQueueAction Producer),
      let state := actions.foldl (MainQueue.step nPairDealCount) (.initial pipe)
      state.Signalled ∧ state.InOrder) ∧
    ∀ actions : List (IOQueueAction Producer),
      let state := actions.foldl (IOQueue.step nPairDealCount) (.initial pipe)
      state.Signalled ∧ state.InOrder := by
  constructor
  · intro actions
    have live := MainQueue.run_live nPairDealCount actions
      (SignalledQueue.initial_live pipe)
    exact ⟨live.signalled, live.inOrder⟩
  · intro actions
    have live := IOQueue.run_live nPairDealCount actions
      (SignalledQueue.initial_live pipe)
    exact ⟨live.signalled, live.inOrder⟩

-- A full pipe refuses the second signal, and the callback with a limit of 0
-- leaves the second package: it sends a byte for it.
example :
    let state := ([.asynClose true 3, .send true false, .asynClose false 4,
        .send false true, .recvPair 1, .popPackage, .popPackage,
        .sendPair false] : List (MainQueueAction Bool)).foldl
      (MainQueue.step 0) (.initial ⟨1, 0, Nat.one_pos⟩)
    state.popped = [.close 3] ∧ state.queue = [.close 4] ∧
      state.pipe.bytes = 1 := by
  decide

end EchoServer
