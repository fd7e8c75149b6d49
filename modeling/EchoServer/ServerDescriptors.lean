import EchoServer.ServerInvariant

/-!
# Descriptors of the server's connections

A descriptor is in use from the `accept` call until its socket is destroyed.
If `accept` returns no descriptor that is in use, no two live sockets have one
descriptor, and the agent found under a live socket's descriptor was made for
that very socket.
-/

namespace EchoServer

namespace ServerState

variable {state next : ServerState}

/-- A descriptor of a live socket, or of one that an IO thread is to create. -/
def DescriptorInUse (state : ServerState) (fd : UInt64) : Prop :=
  (∃ socket object, state.Alive socket object ∧ object.fd = fd) ∨
    ∃ thread, .accept fd ∈ (state.ioThreads thread).packList

/-- `accept` returns no descriptor that is in use. -/
def AcceptsUnused (state : ServerState) : ServerAction → Prop
  | .acceptCallback result =>
      ¬ state.DescriptorInUse (UInt64.ofInt result)
  | _ => True

/-- Every descriptor in use belongs to one socket, or to one package that
waits in the queue of an IO thread. -/
structure DistinctDescriptors (state : ServerState) : Prop where
  alive : ∀ first second firstObject secondObject,
    state.Alive first firstObject → state.Alive second secondObject →
      firstObject.fd = secondObject.fd → first = second
  pending : ∀ thread socket object, state.Alive socket object →
    .accept object.fd ∉ (state.ioThreads thread).packList
  threads : ∀ first second fd,
    .accept fd ∈ (state.ioThreads first).packList →
      .accept fd ∈ (state.ioThreads second).packList → first = second
  once : ∀ thread,
    (state.ioThreads thread).packList.Pairwise fun first second =>
      ∀ fd, first = .accept fd → second ≠ .accept fd

/-- No socket comes to life with another descriptor than it had. -/
def KeepsDescriptors (state next : ServerState) : Prop :=
  ∀ socket object, next.Alive socket object →
    ∃ before, state.Alive socket before ∧ before.fd = object.fd

theorem KeepsSockets.keepsDescriptors (keeps : KeepsSockets state next)
    (length : next.sockets.length = state.sockets.length) :
    KeepsDescriptors state next := by
  intro socket object alive
  have inRange : socket < state.sockets.length :=
    length ▸ alive_lt alive
  have there := List.getElem?_eq_getElem inRange
  obtain ⟨kept, found, keepsObject⟩ := keeps socket _ there
  obtain rfl := Option.some.inj (alive.1.symm.trans found)
  exact ⟨_, ⟨there, keepsObject.alive alive.2⟩, keepsObject.fd.symm⟩

theorem DistinctDescriptors.frame (distinct : DistinctDescriptors state)
    (same : next.ioThreads = state.ioThreads)
    (keeps : KeepsDescriptors state next) : DistinctDescriptors next where
  alive first second firstObject secondObject firstAlive secondAlive fds := by
    obtain ⟨firstBefore, firstWas, firstFd⟩ := keeps first _ firstAlive
    obtain ⟨secondBefore, secondWas, secondFd⟩ := keeps second _ secondAlive
    exact distinct.alive first second _ _ firstWas secondWas
      (firstFd.trans (fds.trans secondFd.symm))
  pending thread socket object alive := by
    obtain ⟨before, was, fd⟩ := keeps socket object alive
    rw [same, ← fd]
    exact distinct.pending thread socket before was
  threads := by
    rw [same]
    exact distinct.threads
  once := by
    rw [same]
    exact distinct.once

/-- A package may be queued unless it brings a descriptor that is in use. -/
theorem DistinctDescriptors.queue (distinct : DistinctDescriptors state)
    {thread : Nat} {package : IOPackage}
    (unused : ∀ fd, package = .accept fd → ¬ state.DescriptorInUse fd) :
    DistinctDescriptors (state.queueIOThread thread package) where
  alive := distinct.alive
  pending other socket object alive queued := by
    obtain before | ⟨-, isPackage⟩ := mem_queueIOThread.mp queued
    · exact distinct.pending other socket object alive before
    · exact unused _ isPackage.symm (.inl ⟨socket, object, alive, rfl⟩)
  threads first second fd inFirst inSecond := by
    obtain first' | ⟨rfl, isFirst⟩ := mem_queueIOThread.mp inFirst
    · obtain second' | ⟨-, isSecond⟩ := mem_queueIOThread.mp inSecond
      · exact distinct.threads first second fd first' second'
      · exact absurd (.inr ⟨first, first'⟩) (unused fd isSecond.symm)
    · obtain second' | ⟨rfl, -⟩ := mem_queueIOThread.mp inSecond
      · exact absurd (.inr ⟨second, second'⟩) (unused fd isFirst.symm)
      · rfl
  once other := by
    rw [queueIOThread_ioThreads]
    split_ifs with same
    · subst same
      refine List.pairwise_append.mpr
        ⟨distinct.once other, List.pairwise_singleton _ _, ?_⟩
      rintro first before second isAdded fd rfl rfl
      exact unused fd (List.mem_singleton.mp isAdded).symm
        (.inr ⟨other, before⟩)
    · exact distinct.once other

theorem DistinctDescriptors.pop (distinct : DistinctDescriptors state)
    {thread : Nat} {ioThread : IOThread}
    (shrinks : ioThread.packList.Sublist
      (state.ioThreads thread).packList) :
    DistinctDescriptors (state.setIOThread thread ioThread) where
  alive := distinct.alive
  pending other socket object alive queued :=
    distinct.pending other socket object alive
      (mem_setIOThread shrinks.subset queued)
  threads first second fd inFirst inSecond :=
    distinct.threads first second fd
      (mem_setIOThread shrinks.subset inFirst)
      (mem_setIOThread shrinks.subset inSecond)
  once other := by
    simp only [setIOThread, Function.update_apply]
    split_ifs with same
    · subst same
      exact (distinct.once other).sublist shrinks
    · exact distinct.once other

theorem Sends.distinctDescriptors (sends : Sends state next)
    (distinct : DistinctDescriptors state) : DistinctDescriptors next := by
  refine sends.preserves ?_ distinct
  intro state fd agent object target buf distinct registered alive
  exact distinct.queue nofun

/-- A socket with a descriptor that is not in use any more elsewhere. -/
theorem DistinctDescriptors.create (distinct : DistinctDescriptors state)
    {fd : UInt64} {new : SocketObject} (newFd : new.fd = fd)
    (unused : ¬ state.DescriptorInUse fd)
    (threads : next.ioThreads = state.ioThreads)
    (grown : next.sockets = state.sockets ++ [new]) :
    DistinctDescriptors next := by
  have cases_alive : ∀ {socket object}, next.Alive socket object →
      state.Alive socket object ∨
        socket = state.sockets.length ∧ object.fd = fd := by
    rintro socket object ⟨found, alive⟩
    rw [grown, List.getElem?_append] at found
    split_ifs at found with inRange
    · exact .inl ⟨found, alive⟩
    · rw [List.getElem?_singleton] at found
      split_ifs at found
      obtain rfl := Option.some.inj found
      exact .inr ⟨by omega, newFd⟩
  have notAlive : ∀ {socket object}, state.Alive socket object →
      object.fd ≠ fd :=
    fun alive same => unused (.inl ⟨_, _, alive, same⟩)
  refine ⟨?_, ?_, threads ▸ distinct.threads, threads ▸ distinct.once⟩
  · intro first second firstObject secondObject firstAlive secondAlive fds
    obtain firstOld | ⟨rfl, firstFd⟩ := cases_alive firstAlive
    · obtain secondOld | ⟨-, secondFd⟩ := cases_alive secondAlive
      · exact distinct.alive first second _ _ firstOld secondOld fds
      · exact absurd (fds.trans secondFd) (notAlive firstOld)
    · obtain secondOld | ⟨rfl, -⟩ := cases_alive secondAlive
      · exact absurd (fds.symm.trans firstFd) (notAlive secondOld)
      · rfl
  · intro thread socket object alive
    rw [threads]
    obtain old | ⟨-, objectFd⟩ := cases_alive alive
    · exact distinct.pending thread socket object old
    · rw [objectFd]
      exact fun queued => unused (.inr ⟨thread, queued⟩)

/-- The IO thread takes the descriptor that it creates a socket for. -/
theorem DistinctDescriptors.unused_pop
    (distinct : DistinctDescriptors state) {thread : Nat} {fd : UInt64}
    {packList : List IOPackage}
    (head : (state.ioThreads thread).packList = .accept fd :: packList) :
    ¬ DescriptorInUse
      (state.setIOThread thread { state.ioThreads thread with packList })
      fd := by
  have queued : .accept fd ∈ (state.ioThreads thread).packList :=
    head ▸ List.mem_cons_self
  rintro (⟨socket, object, alive, rfl⟩ | ⟨other, waits⟩)
  · exact distinct.pending thread socket object alive queued
  · have shrinks : packList ⊆ (state.ioThreads thread).packList :=
      head ▸ List.subset_cons_self _ _
    obtain rfl := distinct.threads other thread fd
      (mem_setIOThread shrinks waits) queued
    rw [setIOThread_ioThreads] at waits
    have once := distinct.once other
    rw [head] at once
    exact (List.pairwise_cons.mp once).1 _ waits fd rfl rfl

theorem DistinctDescriptors.transition (distinct : DistinctDescriptors state)
    {action : ServerAction} (meets : AcceptsUnused state action)
    (transition : Transition state action next) :
    DistinctDescriptors next := by
  have keeps := transition.keepsSockets
  cases transition with
  | idle => exact distinct
  | acceptQueued result cursor =>
      have queued : DistinctDescriptors (state.queueIOThread
          state.nCurrentThread (.accept (UInt64.ofInt result))) := by
        apply distinct.queue
        intro fd isAccept
        cases isAccept
        exact meets
      exact queued.frame rfl (keeps.keepsDescriptors rfl)
  | sent _ sends => exact sends.distinctDescriptors distinct
  | accepted _ _ _ _ _ sends =>
      apply sends.distinctDescriptors
      exact distinct.frame rfl (KeepsSockets.keepsDescriptors (.of_eq rfl) rfl)
  | acceptRefused => exact distinct.frame rfl (keeps.keepsDescriptors rfl)
  | received _ _ _ _ _ _ sends =>
      have answered := sends.distinctDescriptors
        (distinct.frame rfl (KeepsSockets.keepsDescriptors (.of_eq rfl) rfl))
      exact answered.frame rfl
        (KeepsSockets.keepsDescriptors (.of_eq rfl) rfl)
  | closed _ _ _ _ _ _ sends =>
      have answered := sends.distinctDescriptors
        (distinct.frame rfl (KeepsSockets.keepsDescriptors (.of_eq rfl) rfl))
      apply DistinctDescriptors.queue
      · exact answered.frame rfl
          (KeepsSockets.keepsDescriptors (.of_eq rfl) rfl)
      · exact nofun
  | closedAgain =>
      apply DistinctDescriptors.queue
      · exact distinct.frame rfl
          (KeepsSockets.keepsDescriptors (.of_eq rfl) rfl)
      · exact nofun
  | @ioAccepted packList thread fd created expanded head =>
      have popped : DistinctDescriptors (state.setIOThread thread
          { state.ioThreads thread with packList }) :=
        distinct.pop (head ▸ List.sublist_cons_self _ _)
      cases created with
      | false => exact popped
      | true => exact popped.create rfl (distinct.unused_pop head) rfl rfl
  | @ioSent packList thread _ _ _ needSendList _ _ head =>
      have popped : DistinctDescriptors
          (state.setIOThread thread { packList, needSendList }) :=
        distinct.pop (head ▸ List.sublist_cons_self _ _)
      exact popped.frame rfl (KeepsSockets.keepsDescriptors (.of_eq rfl) rfl)
  | @ioClosed packList thread _ _ _ _ head alive =>
      have popped : DistinctDescriptors (state.setIOThread thread
          { state.ioThreads thread with packList }) :=
        distinct.pop (head ▸ List.sublist_cons_self _ _)
      exact popped.frame rfl (keeps.keepsDescriptors (List.length_set))
  | flushed =>
      exact distinct.pop (List.Sublist.refl _)
  | packetQueued => exact distinct.frame rfl (keeps.keepsDescriptors rfl)
  | lossReported =>
      exact distinct.frame rfl (keeps.keepsDescriptors List.length_set)

theorem initial_distinctDescriptors (nMaxSockets : Int)
    (nThreadCount : Nat) :
    DistinctDescriptors (initial nMaxSockets nThreadCount) where
  alive := by simp [Alive, initial]
  pending := by simp [initial]
  threads := by simp [initial]
  once := by simp [initial]

/-- The agent found under a live socket's descriptor was made for that
socket. -/
theorem DistinctDescriptors.own_agent (distinct : DistinctDescriptors state)
    (sound : Sound state) {socket agent : Nat} {object : SocketObject}
    {agentObject : AgentObject} (alive : state.Alive socket object)
    (registered : state.Registered object.fd agent agentObject) :
    agentObject.socket = socket := by
  obtain ⟨⟨target, targetAlive⟩, -⟩ :=
    sound.registeredOpen object.fd agent agentObject registered
  have fd := sound.agents.target_fd registered targetAlive.1
  exact distinct.alive _ _ target object targetAlive alive fd

end ServerState

end EchoServer
