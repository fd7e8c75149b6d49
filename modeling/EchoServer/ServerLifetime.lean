import EchoServer.ServerDispatch

/-!
# Lifetime of the server's sockets

A `ServerIOSocket` is destroyed by a handshake: its bufferevent reports the
loss to the main thread, the main thread asks the IO thread to close it, and
the IO thread destroys it.  If each loss is reported once, nothing is read
after it, and no socket is destroyed that still has to be flushed, then every
package names a socket that is alive when it is taken.
-/

namespace EchoServer

open ByteOrder FaultingComputation LabelledRun

/-- A destroyed socket is used. -/
def Fault.BySocket : Fault → Prop
  | .destroyedSocket _ => True
  | .nullAgent => False
  | .deletedAgent _ => False

namespace ServerState

variable {state next : ServerState}

/-! ### The queues of the IO threads -/

/-- A socket that is alive and belongs to an IO thread. -/
def OnThread (state : ServerState) (thread socket : Nat) : Prop :=
  ∃ object, state.Alive socket object ∧ object.thread = thread

/-- The packages of an IO thread and the sockets that it will flush are its
own, and a `close` package is the last that names its socket. -/
structure IOOrderly (state : ServerState) : Prop where
  named : ∀ thread package socket,
    package ∈ (state.ioThreads thread).packList →
      package.socket? = some socket → state.OnThread thread socket
  closeLast : ∀ thread,
    (state.ioThreads thread).packList.Pairwise fun first second =>
      ∀ socket, first = .close socket → second.socket? ≠ some socket
  needed : ∀ thread, ∀ socket ∈ (state.ioThreads thread).needSendList,
    state.OnThread thread socket

theorem IOOrderly.frame (orderly : IOOrderly state)
    (same : next.ioThreads = state.ioThreads)
    (alive : ∀ thread socket, state.OnThread thread socket →
      next.OnThread thread socket) : IOOrderly next where
  named thread package socket queued names := by
    rw [same] at queued
    exact alive _ _ (orderly.named thread package socket queued names)
  closeLast := by
    rw [same]
    exact orderly.closeLast
  needed thread socket needs := by
    rw [same] at needs
    exact alive _ _ (orderly.needed thread socket needs)

theorem onThread_of_sockets {thread socket : Nat}
    (on : state.OnThread thread socket)
    (same : next.sockets = state.sockets) : next.OnThread thread socket := by
  obtain ⟨object, alive, onThread⟩ := on
  exact ⟨object, alive_of_sockets alive same, onThread⟩

/-- A package that names an open socket of the thread may be queued. -/
theorem IOOrderly.queue (orderly : IOOrderly state) {thread : Nat}
    {package : IOPackage}
    (names : ∀ socket, package.socket? = some socket →
      state.OnThread thread socket ∧ ¬ state.Closing socket) :
    IOOrderly (state.queueIOThread thread package) where
  named other queued socket member namesSocket := by
    obtain before | ⟨rfl, rfl⟩ := mem_queueIOThread.mp member
    · exact orderly.named other queued socket before namesSocket
    · exact (names socket namesSocket).1
  closeLast other := by
    rw [queueIOThread_ioThreads]
    split_ifs with same
    · subst same
      refine List.pairwise_append.mpr
        ⟨orderly.closeLast other, List.pairwise_singleton _ _, ?_⟩
      rintro first before second isAdded socket rfl namesSocket
      rw [List.mem_singleton.mp isAdded] at namesSocket
      exact (names socket namesSocket).2 ⟨other, before⟩
    · exact orderly.closeLast other
  needed other socket needs := by
    rw [queueIOThread_ioThreads] at needs
    split_ifs at needs with same
    · exact orderly.needed other socket (same ▸ needs)
    · exact orderly.needed other socket needs

/-- Taking the first package of a thread. -/
theorem IOOrderly.pop (orderly : IOOrderly state) {thread : Nat}
    {ioThread : IOThread}
    (shrinks : ioThread.packList.Sublist (state.ioThreads thread).packList)
    (needs : ∀ socket ∈ ioThread.needSendList,
      state.OnThread thread socket) :
    IOOrderly (state.setIOThread thread ioThread) where
  named other package socket member names :=
    orderly.named other package socket
      (mem_setIOThread shrinks.subset member) names
  closeLast other := by
    simp only [setIOThread, Function.update_apply]
    split_ifs with same
    · subst same
      exact (orderly.closeLast other).sublist shrinks
    · exact orderly.closeLast other
  needed other socket member := by
    simp only [setIOThread, Function.update_apply] at member
    split_ifs at member with same
    · subst same
      exact needs socket member
    · exact orderly.needed other socket member

/-- Registered agents have open sockets; sending keeps it so. -/
def RegisteredOpen (state : ServerState) : Prop :=
  ∀ fd agent object, state.Registered fd agent object →
    state.Open object.socket

theorem Sends.ioOrderly (sends : Sends state next)
    (orderly : IOOrderly state) (registeredOpen : RegisteredOpen state) :
    IOOrderly next := by
  induction sends with
  | done => exact orderly
  | @send state _ fd agent object target buf registered alive rest ih =>
      apply ih
      · apply orderly.queue
        intro socket names
        cases names
        exact ⟨⟨target, alive, rfl⟩,
          (registeredOpen fd agent object registered).2⟩
      · intro otherFd other otherObject otherRegistered
        obtain ⟨found, notClosing⟩ :=
          registeredOpen otherFd other otherObject otherRegistered
        refine ⟨found, ?_⟩
        rw [closing_queueIOThread]
        simpa using notClosing

/-- The condition under which a step starts no second close of a socket: its
bufferevent reports one loss only, nothing is read after it, and an IO thread
destroys no socket that it still has to flush. -/
def ClosesOnce (state : ServerState) : ServerAction → Prop
  | .eventCallback socket side =>
      ∀ object, state.Alive socket object →
        SocketSide.reported object side = false → ¬ object.Reported
  | .readCallback socket _ =>
      ∀ object, state.Alive socket object →
        object.readReported = false → ¬ object.Reported
  | .ioPairCallback thread _ _ =>
      ∀ socket packList,
        (state.ioThreads thread).packList = .close socket :: packList →
          socket ∉ (state.ioThreads thread).needSendList
  | _ => True

/-- What an IO thread does when it destroys a socket that it has not to
flush. -/
theorem IOOrderly.destroy (orderly : IOOrderly state) {thread closed : Nat}
    {packList : List IOPackage} {changed : SocketObject}
    (head : (state.ioThreads thread).packList = .close closed :: packList)
    (unneeded : closed ∉ (state.ioThreads thread).needSendList)
    (threads : next.ioThreads = (state.setIOThread thread
      { state.ioThreads thread with packList }).ioThreads)
    (sockets : next.sockets = state.sockets.set closed changed) :
    IOOrderly next := by
  have popped : IOOrderly
      (state.setIOThread thread { state.ioThreads thread with packList }) :=
    orderly.pop (head ▸ List.sublist_cons_self _ _)
      (orderly.needed thread)
  have ownThread : ∀ other, state.OnThread other closed → other = thread := by
    rintro other ⟨otherObject, otherAlive, rfl⟩
    obtain ⟨again, againAlive, rfl⟩ := orderly.named thread
      (.close closed) closed (head ▸ List.mem_cons_self) rfl
    rw [Option.some.inj (otherAlive.1.symm.trans againAlive.1)]
  have kept : ∀ other socket, state.OnThread other socket →
      closed ≠ socket → next.OnThread other socket := by
    rintro other socket ⟨otherObject, otherAlive, onThread⟩ different
    exact ⟨otherObject, alive_set otherAlive sockets different, onThread⟩
  refine ⟨?_, threads ▸ popped.closeLast, ?_⟩
  · intro other package socket queued names
    rw [threads] at queued
    have on := popped.named other package socket queued names
    apply kept other socket on
    rintro rfl
    obtain rfl := ownThread other on
    rw [setIOThread_ioThreads] at queued
    have last := orderly.closeLast other
    rw [head] at last
    exact (List.pairwise_cons.mp last).1 package queued closed rfl names
  · intro other socket needs
    rw [threads] at needs
    have on := popped.needed other socket needs
    apply kept other socket on
    rintro rfl
    obtain rfl := ownThread other on
    rw [setIOThread_ioThreads] at needs
    exact unneeded needs

theorem IOOrderly.transition (orderly : IOOrderly state)
    (sound : Sound state)
    (namedOpen : ∀ package ∈ state.packList, state.Open package.socket)
    {action : ServerAction} (meets : ClosesOnce state action)
    (transition : Transition state action next) : IOOrderly next := by
  have unchanged : ∀ {other : ServerState},
      other.sockets = state.sockets → ∀ thread socket,
        state.OnThread thread socket → other.OnThread thread socket :=
    fun same _ _ on => onThread_of_sockets on same
  cases transition with
  | idle => exact orderly
  | acceptQueued result cursor =>
      have queued : IOOrderly (state.queueIOThread state.nCurrentThread
          (.accept (UInt64.ofInt result))) := orderly.queue nofun
      exact queued.frame rfl (fun _ _ on => on)
  | sent _ sends => exact sends.ioOrderly orderly sound.registeredOpen
  | accepted now calls head alive absent sends =>
      have registered := sound.transition
        (.accepted now calls head alive absent (.done _))
      exact sends.ioOrderly (orderly.frame rfl (unchanged rfl))
        registered.registeredOpen
  | acceptRefused => exact orderly.frame rfl (unchanged rfl)
  | received _ _ _ _ _ _ sends =>
      have answered := sends.ioOrderly (orderly.frame rfl (unchanged rfl))
        sound.registeredOpen
      exact answered.frame rfl (fun _ _ on => on)
  | @closed middle _ socket agent object target agentObject _ _ head alive _ _
      sends =>
      have answered := sends.ioOrderly (orderly.frame rfl (unchanged rfl))
        sound.registeredOpen
      have deleted : IOOrderly
          (middle.withoutAgent target.fd agent agentObject) :=
        answered.frame rfl (fun _ _ on => on)
      apply deleted.queue
      intro other names
      cases names
      have isOpen := namedOpen (.close socket) (head ▸ List.mem_cons_self)
      refine ⟨⟨object, alive_of_sockets alive sends.sockets, rfl⟩, ?_⟩
      intro closing
      exact isOpen.2 (sends.closing.mp closing)
  | @closedAgain _ socket object _ _ head alive =>
      have isOpen := namedOpen (.close socket) (head ▸ List.mem_cons_self)
      apply IOOrderly.queue
      · exact orderly.frame rfl (unchanged rfl)
      · intro other names
        cases names
        exact ⟨⟨object, alive, rfl⟩, isOpen.2⟩
  | @ioAccepted packList thread fd created expanded head =>
      have popped : IOOrderly (state.setIOThread thread
          { state.ioThreads thread with packList }) :=
        orderly.pop (head ▸ List.sublist_cons_self _ _)
          (orderly.needed thread)
      cases created with
      | false => exact popped
      | true =>
          refine popped.frame rfl ?_
          rintro other socket ⟨object, alive, onThread⟩
          exact ⟨object, alive_append alive rfl, onThread⟩
  | @ioSent packList thread socket buf object needSendList _ _ head alive
      needs =>
      have popped : IOOrderly
          (state.setIOThread thread { packList, needSendList }) := by
        apply orderly.pop (head ▸ List.sublist_cons_self _ _)
        intro other needed
        obtain before | isSocket := List.mem_append.mp (needs needed)
        · exact orderly.needed thread other before
        · rw [List.mem_singleton.mp isSocket]
          exact orderly.named thread (.sendBuf socket buf) socket
            (head ▸ List.mem_cons_self) rfl
      exact popped.frame rfl (fun _ _ on => on)
  | ioClosed _ _ head =>
      exact orderly.destroy head (meets _ _ head) rfl rfl
  | flushed =>
      exact orderly.pop (List.Sublist.refl _) (by simp)
  | packetQueued => exact orderly.frame rfl (unchanged rfl)
  | @lossReported socket object side alive =>
      refine orderly.frame rfl ?_
      rintro thread other ⟨otherObject, otherAlive, rfl⟩
      by_cases same : socket = other
      · subst same
        obtain rfl := Option.some.inj (alive.1.symm.trans otherAlive.1)
        have inRange := (List.getElem?_eq_some_iff.mp alive.1).1
        exact ⟨_, ⟨List.getElem?_set_self inRange,
          (report_destroyed object side).trans alive.2⟩,
          (report_keeps object side).thread⟩
      · exact ⟨otherObject, alive_set otherAlive rfl same, rfl⟩

/-! ### The handshake -/

/-- What holds of every state in which no socket has been closed twice: the
packages for the main thread name open sockets, a `close` package is the last
of its socket, and only sockets that have reported their loss are closed. -/
structure Lifetime (state : ServerState) : Prop where
  sound : Sound state
  orderly : IOOrderly state
  named : ∀ package ∈ state.packList, state.Open package.socket
  closeLast : state.packList.Pairwise fun first second =>
    first ≠ .close second.socket
  closeReported : ∀ (socket : Nat) object, .close socket ∈ state.packList →
    state.sockets[socket]? = some object → object.Reported
  closingReported : ∀ (socket : Nat) object, state.Closing socket →
    state.sockets[socket]? = some object → object.Reported

theorem initial_lifetime (nMaxSockets : Int) (nThreadCount : Nat) :
    Lifetime (initial nMaxSockets nThreadCount) where
  sound := initial_sound nMaxSockets nThreadCount
  orderly :=
    { named := by simp [initial]
      closeLast := by simp [initial]
      needed := by simp [initial] }
  named := by simp [initial]
  closeLast := List.Pairwise.nil
  closeReported := by simp [initial]
  closingReported := by simp [initial]

/-- What a socket has reported before a step it has reported after it. -/
theorem KeepsSockets.reported (keeps : KeepsSockets state next)
    {socket : Nat} (inRange : socket < state.sockets.length)
    (before : ∀ object, state.sockets[socket]? = some object →
      object.Reported) {object : SocketObject}
    (found : next.sockets[socket]? = some object) : object.Reported := by
  have there := List.getElem?_eq_getElem inRange
  obtain ⟨kept, keptFound, keepsObject⟩ := keeps socket _ there
  obtain rfl := Option.some.inj (found.symm.trans keptFound)
  exact keepsObject.reported (before _ there)

section Step

variable {action : ServerAction} (lifetime : Lifetime state)
include lifetime

/-- A socket that has not reported its loss is open, and no `close` package
names it. -/
theorem Lifetime.open_of_unreported {socket : Nat} {object : SocketObject}
    (alive : state.Alive socket object) (unreported : ¬ object.Reported) :
    state.Open socket ∧ .close socket ∉ state.packList := by
  refine ⟨⟨⟨object, alive⟩, ?_⟩, ?_⟩
  · intro closing
    exact unreported (lifetime.closingReported socket object closing alive.1)
  · intro queued
    exact unreported (lifetime.closeReported socket object queued alive.1)

variable (meets : ClosesOnce state action)
variable (effect : Transition state action next)
include meets effect

/-- What a step adds to the queue is the `accept` package of a new socket, or
names a socket that is open and that no `close` package names. -/
theorem Lifetime.queues_open {package : MainPackage}
    (queues : Queues state next action package) :
    package = .accept state.sockets.length ∨
      state.Open package.socket ∧
        .close package.socket ∉ state.packList := by
  cases queues with
  | accept action alive => exact .inl rfl
  | recvBuf packet alive reading =>
      exact .inr (lifetime.open_of_unreported alive
        (meets _ alive reading))
  | close side alive unreported reports =>
      exact .inr (lifetime.open_of_unreported alive
        (meets _ alive unreported))

theorem Lifetime.named_transition {package : MainPackage}
    (queued : package ∈ next.packList) : next.Open package.socket := by
  have sound := lifetime.sound
  obtain before | queues := effect.mem_packList queued
  · obtain isOpen | ⟨head, -⟩ :=
      (lifetime.named package before).transition effect sound.agents
    · exact isOpen
    · have last := lifetime.closeLast
      rw [head] at last
      exact absurd rfl ((List.pairwise_cons.mp last).1 package queued)
  · obtain rfl | ⟨isOpen, unnamed⟩ := lifetime.queues_open meets effect queues
    · exact (sound.transition effect).acceptOpen _ queued
    · obtain stays | ⟨head, -⟩ := isOpen.transition effect sound.agents
      · exact stays
      · exact absurd (head ▸ List.mem_cons_self) unnamed

theorem Lifetime.closeLast_transition :
    next.packList.Pairwise fun first second =>
      first ≠ .close second.socket := by
  have last := lifetime.closeLast
  obtain same | ⟨taken, popped⟩ | ⟨added, grown, queues⟩ := effect.packList
  · rw [same]
    exact last
  · rw [popped] at last
    exact (List.pairwise_cons.mp last).2
  · rw [grown]
    refine List.pairwise_append.mpr ⟨last, List.pairwise_singleton _ _, ?_⟩
    rintro first before second isAdded rfl
    rw [List.mem_singleton.mp isAdded] at before
    obtain rfl | ⟨-, unnamed⟩ := lifetime.queues_open meets effect queues
    · exact Nat.lt_irrefl _ (lifetime.sound.named _ before)
    · exact unnamed before

omit meets in
theorem Lifetime.closeReported_transition {socket : Nat}
    {object : SocketObject}
    (queued : MainPackage.close socket ∈ next.packList)
    (found : next.sockets[socket]? = some object) : object.Reported := by
  obtain before | queues := effect.mem_packList queued
  · exact effect.keepsSockets.reported (lifetime.sound.named _ before)
      (fun old => lifetime.closeReported socket old before) found
  · cases queues with
    | close side alive unreported reports =>
        rw [Option.some.inj (found.symm.trans reports)]
        exact report_reported _ side

omit meets in
theorem Lifetime.closingReported_transition {socket : Nat}
    {object : SocketObject} (closing : next.Closing socket)
    (found : next.sockets[socket]? = some object) : object.Reported := by
  have sound := lifetime.sound
  obtain before | ⟨head, -⟩ := effect.closing sound.agents closing
  · exact effect.keepsSockets.reported (sound.closing socket before)
      (fun old => lifetime.closingReported socket old before) found
  · have taken : .close socket ∈ state.packList :=
      head ▸ List.mem_cons_self
    exact effect.keepsSockets.reported (sound.named _ taken)
      (fun old => lifetime.closeReported socket old taken) found

theorem Lifetime.transition : Lifetime next where
  sound := lifetime.sound.transition effect
  orderly := lifetime.orderly.transition lifetime.sound lifetime.named meets
    effect
  named _ queued := lifetime.named_transition meets effect queued
  closeLast := lifetime.closeLast_transition meets effect
  closeReported _ _ queued found :=
    lifetime.closeReported_transition effect queued found
  closingReported _ _ closing found :=
    lifetime.closingReported_transition effect closing found

end Step

/-! ### No step uses a destroyed socket -/

theorem FailsUnless.avoids_socket {α : Type} {good : Prop}
    {computation : Except Fault α} (decided : FailsUnless good computation) :
    Avoids Fault.BySocket computation := by
  obtain ⟨-, result, rfl⟩ | ⟨-, fault, rfl, byAgent⟩ := decided
  · exact avoids_ok result
  · rw [avoids_error]
    cases fault with
    | destroyedSocket socket => exact byAgent.elim
    | nullAgent => exact id
    | deletedAgent agent => exact id

theorem derefSocket_avoids {socket : Nat} {object : SocketObject}
    (alive : state.Alive socket object) :
    Avoids Fault.BySocket (state.derefSocket socket) := by
  rw [derefSocket_ok.mpr alive]
  exact avoids_ok object

theorem useSockets_avoids {sockets : List Nat}
    (alive : ∀ socket ∈ sockets, ∃ object, state.Alive socket object) :
    Avoids Fault.BySocket (state.useSockets sockets) := by
  induction sockets with
  | nil => exact avoids_ok ()
  | cons socket sockets ih =>
      obtain ⟨object, first⟩ := alive socket List.mem_cons_self
      apply (derefSocket_avoids first).bind
      intro _ _
      exact ih fun other later => alive other (List.mem_cons_of_mem _ later)

theorem Lifetime.pairCallback_avoids (lifetime : Lifetime state)
    (host : Host) (now : UInt32) (calls : List LogicCall) :
    Avoids Fault.BySocket (state.pairCallback host now calls) := by
  cases head : state.packList with
  | nil =>
      unfold pairCallback
      rw [head]
      exact avoids_ok state
  | cons package packList =>
      rw [pairCallback_cons host now calls head]
      have named := lifetime.named package (head ▸ List.mem_cons_self)
      obtain ⟨⟨object, alive⟩, -⟩ := named
      have popped : Usable { state with packList } :=
        lifetime.sound.usable.frame rfl rfl rfl
      exact (popped.handle host now calls package alive).avoids_socket

theorem IOOrderly.ioPairCallback_avoids (orderly : IOOrderly state)
    (thread : Nat) (created expanded : Bool) :
    Avoids Fault.BySocket (state.ioPairCallback thread created expanded) := by
  unfold ioPairCallback
  cases head : (state.ioThreads thread).packList with
  | nil => exact avoids_ok state
  | cons package packList =>
      have named := orderly.named thread package
      rw [head] at named
      cases package with
      | accept fd => exact avoids_ok _
      | sendBuf socket buf =>
          obtain ⟨object, alive, -⟩ := named socket List.mem_cons_self rfl
          apply (derefSocket_avoids (alive_of_sockets alive rfl)).bind
          intro _ _
          exact avoids_ok _
      | close socket =>
          obtain ⟨object, alive, -⟩ := named socket List.mem_cons_self rfl
          apply (derefSocket_avoids (alive_of_sockets alive rfl)).bind
          intro _ _
          exact avoids_ok _

theorem Lifetime.step_avoids (lifetime : Lifetime state) (host : Host)
    (action : ServerAction) :
    Avoids Fault.BySocket (state.step host action) := by
  cases action with
  | acceptCallback result => exact avoids_ok _
  | pairCallback now calls => exact lifetime.pairCallback_avoids host now calls
  | logic call => exact (lifetime.sound.usable.logicCall call).avoids_socket
  | ioPairCallback thread created expanded =>
      exact lifetime.orderly.ioPairCallback_avoids thread created expanded
  | ioFlush thread =>
      apply Avoids.bind
      · apply useSockets_avoids
        intro socket needs
        obtain ⟨object, alive, -⟩ := lifetime.orderly.needed thread socket needs
        exact ⟨object, alive⟩
      · intro _ _
        exact avoids_ok _
  | readCallback socket packet => exact avoids_ok _
  | eventCallback socket side => exact avoids_ok _

/-! ### Sockets are destroyed once -/

/-- The sockets recorded as destroyed are destroyed, and recorded once. -/
structure DestroyedOnce (state : ServerState) : Prop where
  nodup : state.history.destroyed.Nodup
  destroyed : ∀ socket ∈ state.history.destroyed, ∃ object,
    state.sockets[socket]? = some object ∧ object.destroyed = true

theorem DestroyedOnce.frame (once : DestroyedOnce state)
    (same : next.history.destroyed = state.history.destroyed)
    (keeps : KeepsSockets state next) : DestroyedOnce next where
  nodup := same ▸ once.nodup
  destroyed socket member := by
    rw [same] at member
    obtain ⟨object, found, destroyed⟩ := once.destroyed socket member
    obtain ⟨kept, keptFound, keepsObject⟩ := keeps socket object found
    refine ⟨kept, keptFound, ?_⟩
    by_contra revived
    have wasAlive := keepsObject.alive (by simpa using revived)
    rw [destroyed] at wasAlive
    cases wasAlive

theorem DestroyedOnce.transition (once : DestroyedOnce state)
    {action : ServerAction} (transition : Transition state action next) :
    DestroyedOnce next := by
  have keeps := transition.keepsSockets
  have sent : ∀ {first second : ServerState}, Sends first second →
      second.history.destroyed = first.history.destroyed :=
    fun sends => congrArg ServerHistory.destroyed sends.history
  cases transition with
  | idle => exact once
  | acceptQueued => exact once.frame rfl keeps
  | sent _ sends =>
      have kept := sent sends
      exact once.frame kept keeps
  | accepted _ _ _ _ _ sends =>
      have kept := sent sends
      exact once.frame kept keeps
  | acceptRefused => exact once.frame rfl keeps
  | received _ _ _ _ _ _ sends =>
      have kept := sent sends
      exact once.frame kept keeps
  | closed _ _ _ _ _ _ sends =>
      have kept := sent sends
      exact once.frame kept keeps
  | closedAgain => exact once.frame rfl keeps
  | ioAccepted created =>
      cases created with
      | true => exact once.frame rfl keeps
      | false => exact once.frame rfl keeps
  | ioSent => exact once.frame rfl keeps
  | @ioClosed packList thread socket object _ _ _ alive =>
      have unrecorded : socket ∉ state.history.destroyed := by
        intro recorded
        obtain ⟨other, found, destroyed⟩ := once.destroyed socket recorded
        rw [Option.some.inj (found.symm.trans alive.1), alive.2] at destroyed
        cases destroyed
      -- the sockets are marked first, then the new one is recorded
      have marked : DestroyedOnce
          { state with
            sockets := state.sockets.set socket
              { object with destroyed := true } } :=
        once.frame rfl (.of_set alive.1 rfl ⟨rfl, rfl, nofun, id⟩)
      refine ⟨?_, ?_⟩
      · exact List.nodup_append.mpr ⟨once.nodup, by simp,
          fun _ before _ isSocket same =>
            unrecorded (List.mem_singleton.mp isSocket ▸ same ▸ before)⟩
      · intro other member
        obtain before | isSocket := List.mem_append.mp member
        · exact marked.destroyed other before
        · rw [List.mem_singleton.mp isSocket]
          have inRange := (List.getElem?_eq_some_iff.mp alive.1).1
          exact ⟨_, List.getElem?_set_self inRange, rfl⟩
  | flushed => exact once.frame rfl keeps
  | packetQueued => exact once.frame rfl keeps
  | lossReported => exact once.frame rfl keeps

/-- Every socket is destroyed at most once, in every run. -/
theorem destroyed_nodup (host : Host) (nMaxSockets : Int) (nThreadCount : Nat)
    (actions : List ServerAction) :
    HoldsWhereReached (step host)
      (fun state => state.history.destroyed.Nodup)
      (initial nMaxSockets nThreadCount) actions := by
  intro first second reached split ran
  have initially : DestroyedOnce (initial nMaxSockets nThreadCount) :=
    ⟨List.nodup_nil, nofun⟩
  have once : DestroyedOnce reached := by
    refine invariant_of_run ?_ initially ran
    intro state action next once stepped
    exact once.transition (step_transition stepped)
  exact once.nodup

/-- In every run of the server whose steps start no second close of a socket,
no step uses a socket that has been destroyed, and every socket is destroyed at
most once. -/
theorem serverLifetime (host : Host) (nMaxSockets : Int) (nThreadCount : Nat)
    (actions : List ServerAction)
    (meets : MeetsAlong (step host) ClosesOnce
      (initial nMaxSockets nThreadCount) actions) :
    Avoids Fault.BySocket
        (runActions (step host) (initial nMaxSockets nThreadCount) actions) ∧
      HoldsWhereReached (step host)
        (fun state => state.history.destroyed.Nodup)
        (initial nMaxSockets nThreadCount) actions := by
  constructor
  · refine avoids_of_meetsAlong ?_ ?_
      (initial_lifetime nMaxSockets nThreadCount) meets
    · intro state action next lifetime meets stepped
      exact lifetime.transition meets (step_transition stepped)
    · intro state action lifetime _
      exact lifetime.step_avoids host action
  · exact destroyed_nodup host nMaxSockets nThreadCount actions

instance decidableClosesOnce (state : ServerState) :
    ∀ action, Decidable (ClosesOnce state action)
  | .eventCallback socket side =>
      decidable_of_iff
        (∀ object ∈ state.sockets[socket]?, object.destroyed = false →
          SocketSide.reported object side = false →
            ¬ (object.readReported = true ∨ object.writeReported = true))
        (by simp [ClosesOnce, Alive, SocketObject.Reported])
  | .readCallback socket _ =>
      decidable_of_iff
        (∀ object ∈ state.sockets[socket]?, object.destroyed = false →
          object.readReported = false →
            ¬ (object.readReported = true ∨ object.writeReported = true))
        (by simp [ClosesOnce, Alive, SocketObject.Reported])
  | .ioPairCallback thread _ _ =>
      decidable_of_iff
        (∀ socket ∈ (state.ioThreads thread).needSendList,
          (state.ioThreads thread).packList.head? ≠ some (.close socket))
        (by
          simp only [ClosesOnce, ne_eq, List.head?_eq_some_iff, not_exists]
          constructor
          · intro unneeded socket packList head needs
            exact unneeded socket needs packList head
          · intro unneeded socket needs packList head
            exact unneeded socket packList head needs)
  | .acceptCallback _ => isTrue trivial
  | .pairCallback _ _ => isTrue trivial
  | .logic _ => isTrue trivial
  | .ioFlush _ => isTrue trivial

/-- A connection that sends a packet, is lost on its reading side and is
closed, with the answer sent before. -/
def lostOnce : List ServerAction :=
  opened ++ [.readCallback 0 [4, 0, 1, 0], .eventCallback 0 .reading,
    .pairCallback 0 [], .pairCallback 0 [], .ioPairCallback 0 true true,
    .ioFlush 0, .ioPairCallback 0 true true, .ioFlush 0]

theorem serverLifetime_lostOnce :
    Avoids Fault.BySocket
        (runActions (step .little) (initial 10 1) lostOnce) ∧
      HoldsWhereReached (step .little)
        (fun state => state.history.destroyed.Nodup) (initial 10 1)
        lostOnce :=
  serverLifetime .little 10 1 lostOnce (by decide +kernel)

/-- A connection lost on both sides is closed twice, and the IO thread takes
the second package after it has destroyed the socket. -/
theorem serverLifetime_lostOnBothSides :
    ¬ Avoids Fault.BySocket
      (runActions (step .little) (initial 10 1)
        (lostOnBothSides ++
          [.ioPairCallback 0 true true, .ioPairCallback 0 true true])) := by
  have stops : (match runActions (step .little) (initial 10 1)
        (lostOnBothSides ++
          [.ioPairCallback 0 true true, .ioPairCallback 0 true true]) with
      | .error (.destroyedSocket _) => true
      | _ => false) = true := by
    decide +kernel
  intro avoids
  split at stops
  · rename_i failed
    exact avoids _ failed trivial
  · cases stops

end ServerState

end EchoServer
