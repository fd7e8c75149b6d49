import EchoServer.RoundRobin
import EchoServer.ServerLimit

/-!
# Connections and IO threads

`acceptCallback` gives accepted descriptors to the IO threads in turn.  Each
thread creates the sockets for its own descriptors and keeps them, so in every
run the threads have been given the same number of connections, up to one, and
no thread is named that is not there.
-/

namespace EchoServer

open LabelledRun RoundRobin

namespace ServerState

variable {state next : ServerState}

/-- The connections that an IO thread has been given: those for which it has
still to create a socket, and those for which it has created one. -/
def given (state : ServerState) (thread : Nat) : Nat :=
  state.waiting thread + (state.sockets.map (·.thread)).count thread

/-- All the connections that have been given to IO threads. -/
def handedOut (nThreadCount : Nat) (state : ServerState) : Nat :=
  ∑ thread ∈ Finset.range nThreadCount, state.given thread

/-- `bufferevent_socket_new` succeeds. -/
def CreatesSockets (_ : ServerState) : ServerAction → Prop
  | .ioPairCallback _ created _ => created = true
  | _ => True

/-- So many connections have been given to the IO threads, in turn. -/
structure InTurn (state : ServerState) (nThreadCount accepted : Nat) :
    Prop where
  threads : state.nThreadCount = nThreadCount
  cursor : state.nCurrentThread = accepted % nThreadCount
  given : ∀ thread, state.given thread = share nThreadCount accepted thread

theorem initial_inTurn (nMaxSockets : Int) (nThreadCount : Nat) :
    InTurn (initial nMaxSockets nThreadCount) nThreadCount 0 where
  threads := rfl
  cursor := (Nat.zero_mod nThreadCount).symm
  given thread := (share_zero nThreadCount thread).symm

/-- A step that gives no connection to a thread. -/
structure SameSpread (state next : ServerState) : Prop where
  threads : next.nThreadCount = state.nThreadCount
  cursor : next.nCurrentThread = state.nCurrentThread
  given : ∀ thread, next.given thread = state.given thread

theorem SameSpread.of_eq (threads : next.nThreadCount = state.nThreadCount)
    (cursor : next.nCurrentThread = state.nCurrentThread)
    (waiting : next.waiting = state.waiting)
    (sockets : next.sockets.map (·.thread) = state.sockets.map (·.thread)) :
    SameSpread state next := by
  refine ⟨threads, cursor, ?_⟩
  intro thread
  rw [ServerState.given, waiting, sockets]
  rfl

theorem SameSpread.trans {third : ServerState}
    (first : SameSpread state next) (second : SameSpread next third) :
    SameSpread state third where
  threads := second.threads.trans first.threads
  cursor := second.cursor.trans first.cursor
  given thread := (second.given thread).trans (first.given thread)

theorem Sends.sameSpread (sends : Sends state next) :
    SameSpread state next := by
  refine sends.preserves ?_ (.of_eq rfl rfl rfl rfl)
  intro reached fd agent object target buf spread _ _
  exact spread.trans (.of_eq rfl rfl (waiting_queueIOThread rfl) rfl)

/-- Sockets stay on their threads. -/
theorem KeepsSockets.threads (keeps : KeepsSockets state next)
    (length : next.sockets.length = state.sockets.length) :
    next.sockets.map (·.thread) = state.sockets.map (·.thread) := by
  apply List.ext_getElem
  · rw [List.length_map, List.length_map, length]
  · intro socket inNext inState
    rw [List.length_map] at inNext inState
    obtain ⟨kept, found, keepsObject⟩ :=
      keeps socket _ (List.getElem?_eq_getElem inState)
    obtain rfl := Option.some.inj
      ((List.getElem?_eq_getElem inNext).symm.trans found)
    rw [List.getElem_map, List.getElem_map]
    exact keepsObject.thread

/-- The socket that an IO thread creates takes the place of the package that
waited for it. -/
theorem sameSpread_ioAccept {thread : Nat} {fd : UInt64}
    {packList : List IOPackage}
    (head : (state.ioThreads thread).packList = .accept fd :: packList) :
    SameSpread state
      (ioAccept thread fd true
        (state.setIOThread thread
          { state.ioThreads thread with packList })) := by
  refine ⟨rfl, rfl, ?_⟩
  intro other
  have waits : (ioAccept thread fd true (state.setIOThread thread
      { state.ioThreads thread with packList })).waiting other =
        Function.update state.waiting thread
          (packList.countP IOPackage.isAccept) other :=
    congrFun (waiting_setIOThread thread _) other
  have sockets : (ioAccept thread fd true (state.setIOThread thread
      { state.ioThreads thread with packList })).sockets.map (·.thread) =
        state.sockets.map (·.thread) ++ [thread] := List.map_append
  rw [given, waits, sockets, List.count_append, List.count_singleton, given]
  by_cases same : thread = other
  · subst same
    have before : state.waiting thread =
        packList.countP IOPackage.isAccept + 1 := by
      rw [waiting, head, List.countP_cons]
      rfl
    rw [Function.update_self, before, if_pos (beq_self_eq_true thread)]
    omega
  · have different : ¬ (thread == other) = true := by simpa using same
    rw [Function.update_of_ne (Ne.symm same), if_neg different]
    rfl

/-- Only `acceptCallback` gives a connection to a thread. -/
theorem Transition.sameSpread {action : ServerAction}
    (transition : Transition state action next)
    (creates : CreatesSockets state action)
    (other : ∀ result, action ≠ .acceptCallback result) :
    SameSpread state next := by
  have keeps := transition.keepsSockets
  cases transition with
  | idle => exact .of_eq rfl rfl rfl rfl
  | acceptQueued result => exact absurd rfl (other result)
  | sent _ sends => exact sends.sameSpread
  | accepted _ _ _ _ _ sends =>
      refine SameSpread.trans ?_ sends.sameSpread
      exact .of_eq rfl rfl rfl rfl
  | acceptRefused => exact .of_eq rfl rfl rfl rfl
  | received _ _ _ _ _ _ sends =>
      refine SameSpread.trans ?_ (sends.sameSpread.trans ?_)
      · exact .of_eq rfl rfl rfl rfl
      · exact .of_eq rfl rfl rfl rfl
  | closed _ _ _ _ _ _ sends =>
      refine SameSpread.trans ?_ (sends.sameSpread.trans ?_)
      · exact .of_eq rfl rfl rfl rfl
      · exact .of_eq rfl rfl (waiting_queueIOThread rfl) rfl
  | closedAgain =>
      exact .of_eq rfl rfl (waiting_queueIOThread rfl) rfl
  | ioAccepted created _ head =>
      cases creates
      exact sameSpread_ioAccept head
  | ioSent _ _ head => exact .of_eq rfl rfl (waiting_pop head rfl) rfl
  | ioClosed _ _ head =>
      exact .of_eq rfl rfl (waiting_pop head rfl)
        (keeps.threads List.length_set)
  | flushed => exact .of_eq rfl rfl (waiting_setIOThread_same rfl) rfl
  | packetQueued => exact .of_eq rfl rfl rfl rfl
  | lossReported =>
      exact .of_eq rfl rfl rfl (keeps.threads List.length_set)

theorem InTurn.frame {nThreadCount accepted : Nat}
    (inTurn : InTurn state nThreadCount accepted)
    (spread : SameSpread state next) : InTurn next nThreadCount accepted where
  threads := spread.threads.trans inTurn.threads
  cursor := spread.cursor.trans inTurn.cursor
  given thread := (spread.given thread).trans (inTurn.given thread)

/-- A thread that has been given a connection is there. -/
theorem InTurn.lt_of_given {nThreadCount accepted : Nat}
    (inTurn : InTurn state nThreadCount accepted) {thread : Nat}
    (some : 0 < state.given thread) : thread < nThreadCount := by
  by_contra beyond
  rw [inTurn.given, share_of_le (Nat.not_lt.mp beyond)] at some
  exact absurd some (Nat.lt_irrefl 0)

/-- No descriptor waits for a thread that is not there. -/
theorem InTurn.thread_lt {nThreadCount accepted : Nat}
    (inTurn : InTurn state nThreadCount accepted) {thread : Nat}
    {fd : UInt64} (waits : .accept fd ∈ (state.ioThreads thread).packList) :
    thread < nThreadCount := by
  have counted : 0 < state.waiting thread :=
    List.countP_pos_iff.mpr ⟨_, waits, rfl⟩
  exact inTurn.lt_of_given (Nat.add_pos_left counted _)

/-- A descriptor goes to the thread whose turn it is. -/
theorem InTurn.queueAccept {nThreadCount accepted : Nat}
    (some : 0 < nThreadCount) (inTurn : InTurn state nThreadCount accepted)
    (fd : UInt64) {cursor : Nat}
    (turn : cursor = nextTurn nThreadCount state.nCurrentThread) :
    InTurn
      { state.queueIOThread state.nCurrentThread (.accept fd) with
        nCurrentThread := cursor }
      nThreadCount (accepted + 1) where
  threads := inTurn.threads
  cursor := by
    rw [turn, inTurn.cursor]
    exact nextTurn_mod some accepted
  given thread := by
    have waits : (state.queueIOThread state.nCurrentThread
        (.accept fd)).waiting thread =
          state.waiting thread +
            if state.nCurrentThread = thread then 1 else 0 := by
      rw [queueIOThread, waiting_setIOThread, List.countP_append]
      by_cases same : state.nCurrentThread = thread
      · rw [same, Function.update_self, if_pos rfl]
        rfl
      · rw [Function.update_of_ne (Ne.symm same), if_neg same]
        rfl
    rw [share_succ some, ← inTurn.given, ← inTurn.cursor]
    exact (congrArg (· + (state.sockets.map (·.thread)).count thread)
      waits).trans (Nat.add_right_comm ..)

theorem InTurn.acceptCallback {nThreadCount accepted : Nat}
    (some : 0 < nThreadCount) (inTurn : InTurn state nThreadCount accepted)
    (result : Int) :
    ∃ accepted, InTurn (state.acceptCallback result) nThreadCount
      accepted := by
  have threads := inTurn.threads
  unfold ServerState.acceptCallback
  simp only
  split_ifs with negative full wraps
  · exact ⟨accepted, inTurn⟩
  · exact ⟨accepted, inTurn⟩
  · refine ⟨accepted + 1, inTurn.queueAccept some _ ?_⟩
    rw [nextTurn, if_pos (threads ▸ wraps)]
  · refine ⟨accepted + 1, inTurn.queueAccept some _ ?_⟩
    rw [nextTurn, if_neg (threads ▸ wraps)]

theorem InTurn.step {nThreadCount accepted : Nat} (some : 0 < nThreadCount)
    (inTurn : InTurn state nThreadCount accepted) {host : ByteOrder.Host}
    {action : ServerAction} (creates : CreatesSockets state action)
    (stepped : state.step host action = .ok next) :
    ∃ accepted, InTurn next nThreadCount accepted := by
  cases action with
  | acceptCallback result =>
      cases stepped
      exact inTurn.acceptCallback some result
  | _ =>
      have spread := (step_transition stepped).sameSpread creates (by simp)
      exact ⟨accepted, inTurn.frame spread⟩

/-- Of the connections handed out, each IO thread has been given its share, the
shares differ by one at most, and no thread is named that is not there. -/
structure SpreadEvenly (nThreadCount : Nat) (state : ServerState) :
    Prop where
  cursor : state.nCurrentThread < nThreadCount
  sockets : ∀ (socket : Nat) (object : SocketObject),
    state.sockets[socket]? = some object → object.thread < nThreadCount
  shares : ∀ thread,
    state.given thread =
      share nThreadCount (state.handedOut nThreadCount) thread
  even : ∀ first second, first < nThreadCount → second < nThreadCount →
    state.given first ≤ state.given second + 1

theorem InTurn.handedOut {nThreadCount accepted : Nat}
    (some : 0 < nThreadCount) (inTurn : InTurn state nThreadCount accepted) :
    state.handedOut nThreadCount = accepted := by
  simp only [ServerState.handedOut, inTurn.given]
  exact sum_share some accepted

theorem InTurn.spreadEvenly {nThreadCount accepted : Nat}
    (some : 0 < nThreadCount) (inTurn : InTurn state nThreadCount accepted) :
    SpreadEvenly nThreadCount state where
  cursor := by
    rw [inTurn.cursor]
    exact Nat.mod_lt accepted some
  sockets socket object found := by
    have isIn : object.thread ∈ state.sockets.map (·.thread) :=
      List.mem_map_of_mem (List.mem_of_getElem? found)
    have counted := List.count_pos_iff.mpr isIn
    exact inTurn.lt_of_given (Nat.add_pos_right _ counted)
  shares thread := by
    rw [inTurn.handedOut some]
    exact inTurn.given thread
  even first second isThread isOther := by
    rw [inTurn.given, inTurn.given]
    exact share_le isThread isOther accepted

/-- In every run of a server with at least one IO thread, in which libevent
creates the bufferevents it is asked for, the connections are spread evenly
over the threads. -/
theorem serverThreads (host : ByteOrder.Host) (nMaxSockets : Int)
    {nThreadCount : Nat} (some : 0 < nThreadCount)
    (actions : List ServerAction)
    (creates : MeetsAlong (step host) CreatesSockets
      (initial nMaxSockets nThreadCount) actions) :
    HoldsWhereReached (step host) (SpreadEvenly nThreadCount)
      (initial nMaxSockets nThreadCount) actions := by
  rintro first second reached rfl ran
  have preserved : ∀ state action next,
      (∃ accepted, InTurn state nThreadCount accepted) →
        CreatesSockets state action → state.step host action = .ok next →
          ∃ accepted, InTurn next nThreadCount accepted := by
    rintro state action next ⟨accepted, inTurn⟩ creates stepped
    exact inTurn.step some creates stepped
  obtain ⟨accepted, inTurn⟩ := invariant_of_meetsAlong preserved
    ⟨0, initial_inTurn nMaxSockets nThreadCount⟩
    (meetsAlong_append creates ran).1 ran
  exact inTurn.spreadEvenly some

/-- Three connections on two threads, one of which is lost. -/
def threeConnections : List ServerAction :=
  [.acceptCallback 7, .acceptCallback 8, .ioPairCallback 0 true true,
    .ioPairCallback 1 true true, .acceptCallback 9, .pairCallback 0 [],
    .eventCallback 0 .reading, .ioPairCallback 0 true true]

theorem serverThreads_threeConnections :
    HoldsWhereReached (step .little) (SpreadEvenly 2) (initial 10 2)
      threeConnections := by
  apply serverThreads .little 10 (by decide)
  exact meetsAlong_of_forall (by simp [threeConnections, CreatesSockets])

end ServerState

end EchoServer
