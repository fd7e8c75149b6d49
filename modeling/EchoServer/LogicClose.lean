import EchoServer.AllocatorSafety
import EchoServer.ServerInvariant

/-!
# Connections closed by the logic

`ServerSocket::closeByLogic` deletes the agent and then asks it for its
socket.  The agent's block has gone back to its pool by then, which has filled
it with zeros, so the socket pointer found there is null and no close package
is queued.
-/

namespace EchoServer

open ByteOrder FaultingComputation LabelledRun MallocManager

/-- `sizeof(AgentClient)`: a pointer and two `int`s. -/
def agentClientSize : Nat := 16

/-- `AgentClient::getSocket`: the pointer in the first field of the object at
an address. -/
def AgentClient.getSocket (memory : Nat → UInt8) (agent : Nat) : Nat :=
  littleEndianValue ((List.range 8).map fun offset => memory (agent + offset))

namespace Allocator

variable {state : Allocator}

/-- A block of a pool is filled with zeros when it is given back. -/
theorem free_clears (sound : state.ledger.Sound) {block : MemoryBlock}
    (live : block ∈ state.live) (small : block.extent.size < memMaxSize)
    {address : Nat} (notBefore : block.start ≤ address)
    (notBehind : address < block.start + block.extent.size) :
    (state.free block.start).manager.heap.memory address = 0 := by
  have notNull : block.start ≠ 0 := by
    intro null
    obtain ⟨notSmall, notBig⟩ := sound.null_unlisted
    exact sound.not_live notSmall notBig
      (null ▸ List.mem_map_of_mem (f := MemoryBlock.start) live)
  have listed : state.manager.smallPtrList[block.start]? =
      some block.extent.size :=
    (sound.small _ _).mpr ⟨small, block, live, rfl, rfl⟩
  obtain ⟨pool, known⟩ := sound.pooled _ _ listed
  have found : state.manager.smallList[block.extent.size]? = some pool :=
    known
  have sized := (sound.pools _ _ known).sized
  simp only [free, MallocManager.free, notNull, if_false, listed, found,
    MallocPool.free, Heap.clear, sized, notBefore, notBehind, and_self,
    if_true]

/-- Wherever an agent lies, its pointer to a socket is null once its block has
been given back. -/
def FreesToNull (state : Allocator) : Prop :=
  ∀ block ∈ state.live, block.requested = agentClientSize →
    AgentClient.getSocket (state.free block.start).manager.heap.memory
      block.start = 0

theorem getSocket_freed (sound : state.ledger.Sound) {block : MemoryBlock}
    (live : block ∈ state.live) (sized : block.requested = agentClientSize) :
    AgentClient.getSocket (state.free block.start).manager.heap.memory
      block.start = 0 := by
  have size : block.extent.size = 16 := by
    rw [MemoryBlock.extent, sized]
    rfl
  have zero : ∀ offset < 8,
      (state.free block.start).manager.heap.memory (block.start + offset) =
        0 := by
    intro offset inPointer
    exact free_clears sound live (by rw [size]; decide)
      (Nat.le_add_right _ _) (by omega)
  have zeros : (List.range 8).map (fun offset =>
      (state.free block.start).manager.heap.memory (block.start + offset)) =
        List.replicate 8 0 := by
    rw [List.eq_replicate_iff]
    refine ⟨rfl, ?_⟩
    intro byte member
    obtain ⟨offset, inRange, rfl⟩ := List.mem_map.mp member
    exact zero offset (List.mem_range.mp inRange)
  rw [AgentClient.getSocket, zeros]
  rfl

end Allocator

namespace ServerState

variable {state : ServerState}

/-- What a close by the logic should do: take the agent out of the map, tell
the logic once, and queue a close package for the agent's socket on the
socket's own thread. -/
def ClosesByLogic (state : ServerState) (fd : UInt64) (agent : Nat) : Prop :=
  ∃ object target next, state.Registered fd agent object ∧
    state.sockets[object.socket]? = some target ∧
    state.closeByLogic agent = .ok next ∧
    next.mapAgents = state.mapAgents.erase fd ∧
    next.history.callbacks =
      state.history.callbacks ++ [.onClientClose object.socket agent] ∧
    (next.ioThreads target.thread).packList =
      (state.ioThreads target.thread).packList ++ [.close object.socket]

theorem derefAgent_withoutAgent {agent : Nat} {object : AgentObject}
    (there : state.agents[agent]? = some object) (fd : UInt64) :
    (state.withoutAgent fd agent object).derefAgent agent =
      .error (.deletedAgent agent) := by
  have inRange := (List.getElem?_eq_some_iff.mp there).1
  simp only [derefAgent, withoutAgent, List.getElem?_set_self inRange,
    if_true]

/-- The agent is read after it has been deleted. -/
theorem closeByLogic_registered {fd : UInt64} {agent : Nat}
    {object : AgentObject} {target : SocketObject}
    (registered : state.Registered fd agent object)
    (alive : state.Alive object.socket target) :
    state.closeByLogic agent = .error (.deletedAgent agent) := by
  obtain ⟨-, there, notDeleted⟩ := registered
  let told := called (.onClientClose object.socket agent)
    { state with
      nNowSocketCount := state.nNowSocketCount - 1
      server := state.server.onClientClose }
  have deleted : told.deleteAgent agent =
      .ok (told.withoutAgent target.fd agent object) :=
    deleteAgent_alive there notDeleted alive
  have gone : (told.withoutAgent target.fd agent object).derefAgent agent =
      .error (.deletedAgent agent) :=
    derefAgent_withoutAgent there target.fd
  unfold closeByLogic
  rw [derefAgent_ok.mpr ⟨there, notDeleted⟩]
  simp only [bind, Except.bind]
  rw [derefSocket_ok.mpr alive]
  simp only
  rw [show deleteAgent agent _ = _ from deleted]
  simp only
  rw [gone]

/-- In every state that the server reaches, a registered agent belongs to a
socket that is alive. -/
theorem registered_alive (sound : Sound state) {fd : UInt64} {agent : Nat}
    (lookup : state.mapAgents[fd]? = some agent) :
    ∃ object target, state.Registered fd agent object ∧
      state.Alive object.socket target := by
  obtain ⟨object, target, registered, -⟩ := sound.agents fd agent lookup
  obtain ⟨⟨found, alive⟩, -⟩ :=
    sound.registeredOpen fd agent object registered
  exact ⟨object, found, registered, alive⟩

theorem sound_of_run {host : Host} {nMaxSockets : Int} {nThreadCount : Nat}
    {actions : List ServerAction}
    (ran : runActions (step host) (initial nMaxSockets nThreadCount)
      actions = .ok state) : Sound state := by
  refine invariant_of_run ?_ (initial_sound nMaxSockets nThreadCount) ran
  intro before action next sound stepped
  exact sound.transition (step_transition stepped)

/-- No close by the logic works: `closeByLogic` reads the agent that it has
deleted, and what it finds in the freed block is a null pointer. -/
theorem logicClose (host : Host) (nMaxSockets : Int) (nThreadCount : Nat)
    (actions : List ServerAction) (state : ServerState) (fd : UInt64)
    (agent : Nat)
    (ran : runActions (step host) (initial nMaxSockets nThreadCount)
      actions = .ok state)
    (registered : state.mapAgents[fd]? = some agent) :
    ¬ state.ClosesByLogic fd agent ∧
      state.closeByLogic agent = .error (.deletedAgent agent) ∧
      ∀ (memory : Nat → UInt8) (allocations : List AllocatorAction),
        (allocations.foldl Allocator.step
          (Allocator.initial memory)).FreesToNull := by
  obtain ⟨object, target, found, alive⟩ :=
    registered_alive (sound_of_run ran) registered
  have failed := closeByLogic_registered found alive
  refine ⟨?_, failed, ?_⟩
  · rintro ⟨-, -, next, -, -, closed, -⟩
    exact closeByLogic_fails closed
  · intro memory allocations block live sized
    exact Allocator.getSocket_freed
      (Allocator.sound_foldl allocations (Allocator.initial_sound memory))
      live sized

/-- The logic closes the only connection of a server. -/
theorem logicClose_opened :
    ∃ state, runActions (step .little) (initial 10 1) opened = .ok state ∧
      state.mapAgents[(7 : UInt64)]? = some 0 ∧
      ¬ state.ClosesByLogic 7 0 ∧
      state.closeByLogic 0 = .error (.deletedAgent 0) ∧
      ∀ (memory : Nat → UInt8) (allocations : List AllocatorAction),
        (allocations.foldl Allocator.step
          (Allocator.initial memory)).FreesToNull :=
  ⟨_, rfl, rfl, logicClose .little 10 1 opened _ 7 0 rfl rfl⟩

/-- That close does not do what it should. -/
theorem logicClose_counterexample :
    ∃ state, runActions (step .little) (initial 10 1) opened = .ok state ∧
      state.mapAgents[(7 : UInt64)]? = some 0 ∧
      ¬ state.ClosesByLogic 7 0 := by
  refine ⟨_, rfl, rfl, ?_⟩
  rintro ⟨-, -, next, -, -, closed, -⟩
  exact closeByLogic_fails closed

end ServerState

end EchoServer
