import EchoServer.ClientAgents
import EchoServer.MapLookup

/-!
# Whether the agents follow the connections

What the queue of the main thread says last about a socket is whether its link
is up; where it says nothing, the agents are right already.  This is kept as
long as a socket gets another descriptor only without an agent, and a loss is
reported by the bufferevent of the link only.
-/

namespace EchoServer

open ByteOrder LabelledRun LatestNews

/-- What a package tells about the link of its socket. -/
def ClientPackage.news : ClientPackage → Option Bool
  | connectEnd _ => some true
  | recvBuf _ => none
  | close => some false

theorem filterMap_news_recvBuf (packets : List Bytes) :
    (packets.map ClientPackage.recvBuf).filterMap ClientPackage.news = [] := by
  rw [List.filterMap_map, List.filterMap_eq_nil_iff]
  exact fun _ _ => rfl

namespace ClientObject

variable {object : ClientObject} {answers : SystemAnswers}

/-- What holds of every object: its descriptors are non-negative, its
bufferevents are on them, and so is the socket unless it has none. -/
structure Orderly (object : ClientObject) : Prop where
  descriptors : ∀ fd ∈ object.descriptors, fd.toNat < 2 ^ 31
  bufferevents : ∀ bufferevent ∈ object.bufferevents,
    bufferevent.fd ∈ object.descriptors
  nFd : object.socket.nFd ∈ object.descriptors ∨
    object.socket.nFd = UInt64.ofInt (-1)

theorem new_orderly (recvBuf : Block maxBufferSize) :
    (new recvBuf).Orderly where
  descriptors := nofun
  bufferevents := nofun
  nFd := .inr rfl

theorem fd_toNat_lt (obtained : 0 ≤ answers.socket) :
    answers.fd.toNat < 2 ^ 31 := by
  have range := answers.socketRange.2
  obtain ⟨value, valueEq⟩ := Int.eq_ofNat_of_zero_le obtained
  rw [SystemAnswers.fd, valueEq]
  simp only [UInt64.ofInt, UInt64.toNat_ofNat']
  omega

theorem fd_eq_minusOne (failed : answers.socket < 0) :
    answers.fd = UInt64.ofInt (-1) := by
  have range := answers.socketRange.1
  have minusOne : answers.socket = -1 := by omega
  rw [SystemAnswers.fd, minusOne]

theorem ne_minusOne {fd : UInt64} (small : fd.toNat < 2 ^ 31) :
    fd ≠ UInt64.ofInt (-1) := by
  rintro rfl
  exact absurd small (by decide)

theorem Orderly.toConnect (orderly : object.Orderly)
    (answers : SystemAnswers) : (object.toConnect answers).1.Orderly := by
  have nFd := object.toConnect_nFd answers
  obtain ⟨descriptors, bufferevents, -⟩ := orderly
  by_cases obtained : 0 ≤ answers.socket
  · have grown : (object.toConnect answers).1.descriptors =
        object.descriptors ++ [answers.fd] := by
      simp only [ClientObject.toConnect, obtained, if_true] at nFd ⊢
      rw [nFd]
    refine ⟨?_, ?_, ?_⟩
    · intro fd member
      rw [grown] at member
      rcases List.mem_append.mp member with before | new
      · exact descriptors fd before
      · obtain rfl := List.mem_singleton.mp new
        exact fd_toNat_lt obtained
    · intro bufferevent member
      rw [grown, List.mem_append, List.mem_singleton]
      simp only [ClientObject.toConnect] at member nFd
      split_ifs at member with allocates
      · rcases List.mem_append.mp member with before | new
        · exact .inl (bufferevents bufferevent before)
        · obtain rfl := List.mem_singleton.mp new
          exact .inr nFd
      · exact .inl (bufferevents bufferevent member)
    · rw [nFd, grown]
      exact .inl (List.mem_append_right _ List.mem_cons_self)
  · have refused := answers.connectInvalid (Int.not_le.mp obtained)
    have notAllocated : ¬ answers.Allocates := fun allocates =>
      allocates.2.1 refused
    refine ⟨?_, ?_, .inr (nFd.trans (fd_eq_minusOne (Int.not_le.mp obtained)))⟩
    · simp only [ClientObject.toConnect, obtained, if_false]
      exact descriptors
    · simp only [ClientObject.toConnect, obtained, notAllocated, if_false]
      exact bufferevents

/-- A fresh descriptor is that of no bufferevent. -/
theorem Orderly.bufferevent_fd (orderly : object.Orderly)
    (fresh : 0 ≤ answers.socket → answers.fd ∉ object.descriptors) :
    ∀ bufferevent ∈ object.bufferevents, bufferevent.fd ≠ answers.fd := by
  intro bufferevent member same
  have obtained := orderly.bufferevents bufferevent member
  by_cases opens : 0 ≤ answers.socket
  · exact fresh opens (same ▸ obtained)
  · have failed := fd_eq_minusOne (Int.not_le.mp opens)
    exact ne_minusOne (orderly.descriptors _ obtained) (same.trans failed)

theorem LinkUp.nFd_ne (linkUp : object.LinkUp) (orderly : object.Orderly)
    (fresh : 0 ≤ answers.socket → answers.fd ∉ object.descriptors) :
    object.socket.nFd ≠ answers.fd := by
  obtain ⟨-, current, last, fd, -⟩ := linkUp
  rw [← fd]
  exact orderly.bufferevent_fd fresh current (List.mem_of_getLast? last)

theorem Orderly.nFd_ne (orderly : object.Orderly)
    (opens : 0 ≤ answers.socket)
    (fresh : 0 ≤ answers.socket → answers.fd ∉ object.descriptors) :
    object.socket.nFd ≠ answers.fd := by
  rcases orderly.nFd with obtained | none
  · intro same
    exact fresh opens (same ▸ obtained)
  · rw [none]
    exact (ne_minusOne (fd_toNat_lt opens)).symm

theorem not_succeed_of_fails (fails : answers.Fails) : ¬ answers.Succeed := by
  rintro ⟨-, connects, nonblocking, -⟩
  exact fails.2.elim connects nonblocking

theorem not_succeed_of_givesUp (givesUp : answers.GivesUp) :
    ¬ answers.Succeed := by
  rintro ⟨valid, -, -, allocates, enables⟩
  rcases givesUp with invalid | ⟨-, -, noBufferevent | disabled⟩
  · exact valid invalid
  · rw [allocates] at noBufferevent
    cases noBufferevent
  · exact enables disabled

/-- The loss that the bufferevent of the link reports takes the link down,
and no report of another one brings it up. -/
theorem not_linkUp_of_lost {bufferevent : Nat}
    {reporting : BuffereventObject} {socket : ClientIOSocket}
    (bev : socket.bev = object.socket.bev)
    (nFd : socket.nFd = object.socket.nFd)
    (there : object.bufferevents[bufferevent]? = some reporting)
    (own : object.LinkUp → bufferevent + 1 = object.bufferevents.length) :
    ¬ LinkUp
      { object with
        socket
        bufferevents :=
          object.bufferevents.set bufferevent
            { reporting with lost := true } } := by
  rintro ⟨enabled, current, last, fd, unlost⟩
  have inRange := (List.getElem?_eq_some_iff.mp there).1
  simp only [List.getLast?_eq_getElem?, List.length_set] at last
  by_cases isLast : bufferevent + 1 = object.bufferevents.length
  · have index : object.bufferevents.length - 1 = bufferevent := by omega
    rw [index, List.getElem?_set_self inRange] at last
    rw [← Option.some.inj last] at unlost
    cases unlost
  · rw [List.getElem?_set_ne (by omega)] at last
    refine isLast (own ⟨bev ▸ enabled, current, ?_, nFd ▸ fd, unlost⟩)
    rw [List.getLast?_eq_getElem?]
    exact last

end ClientObject

namespace ClientState

variable {state next : ClientState}

/-- What holds in every state of a run in which losses are followed. -/
structure Tracked (state : ClientState) : Prop where
  named : ∀ (socket : Nat) (package : ClientPackage),
    (socket, package) ∈ state.packList → socket < state.sockets.length
  orderly : ∀ (socket : Nat) (object : ClientObject),
    state.sockets[socket]? = some object → object.Orderly
  keyed : ∀ (fd : UInt64) (agent : AgentServerObject),
    state.mapAgents[fd]? = some agent → ∃ object : ClientObject,
      state.sockets[agent.socket]? = some object ∧ object.socket.nFd = fd
  distinct : ∀ (socket other : Nat) (object otherObject : ClientObject),
    state.sockets[socket]? = some object → object.LinkUp →
      state.sockets[other]? = some otherObject →
        otherObject.socket.nFd = object.socket.nFd → other = socket
  idle : ∀ (socket : Nat) (object : ClientObject),
    state.sockets[socket]? = some object → object.LinkUp →
      object.socket.reConnPending = false
  settles : ∀ (socket : Nat) (object : ClientObject),
    state.sockets[socket]? = some object →
      Settles (latest ClientPackage.news socket state.packList)
        (state.mapAgents[object.socket.nFd]? = some { socket }) object.LinkUp

theorem Tracked.tracksLinks (tracked : Tracked state) : TracksLinks state := by
  intro empty
  have settled : ∀ (socket : Nat) (object : ClientObject),
      state.sockets[socket]? = some object →
        (state.mapAgents[object.socket.nFd]? = some { socket } ↔
          object.LinkUp) := by
    intro socket object there
    have settles := tracked.settles socket object there
    rw [empty] at settles
    exact settles.settled
  constructor
  · intro socket object there linkUp
    exact (settled socket object there).mpr linkUp
  · intro fd agent registered
    obtain ⟨object, there, nFd⟩ := tracked.keyed fd agent registered
    refine ⟨object, there, ?_, nFd⟩
    apply (settled agent.socket object there).mp
    rw [nFd]
    exact registered

section Update

variable {socket : Nat} {object : ClientObject}
  {packages : List ClientPackage}

/-- A socket is the one that has changed, or as it was. -/
theorem update_cases
    (lookup : ∀ other : Nat, next.sockets[other]? =
      if other = socket then some object else state.sockets[other]?)
    {other : Nat} {otherObject : ClientObject}
    (there : next.sockets[other]? = some otherObject) :
    other = socket ∧ otherObject = object ∨
      other ≠ socket ∧ state.sockets[other]? = some otherObject := by
  rw [lookup] at there
  split_ifs at there with same
  · exact .inl ⟨same, (Option.some.inj there).symm⟩
  · exact .inr ⟨same, there⟩

theorem Tracked.update_named (tracked : Tracked state)
    (lookup : ∀ other : Nat, next.sockets[other]? =
      if other = socket then some object else state.sockets[other]?)
    (queued : next.packList = state.packList ++ packages.map (socket, ·))
    (other : Nat) (package : ClientPackage)
    (waits : (other, package) ∈ next.packList) :
    other < next.sockets.length := by
  have own : socket < next.sockets.length := by
    have there := lookup socket
    rw [if_pos rfl] at there
    exact (List.getElem?_eq_some_iff.mp there).1
  rw [queued] at waits
  rcases List.mem_append.mp waits with before | new
  · have inRange := tracked.named other package before
    by_cases same : other = socket
    · exact same ▸ own
    · have there := lookup other
      rw [if_neg same, List.getElem?_eq_getElem inRange] at there
      exact (List.getElem?_eq_some_iff.mp there).1
  · obtain ⟨_, _, same⟩ := List.mem_map.mp new
    rw [← (Prod.mk.inj same).1]
    exact own

theorem Tracked.update_distinct (tracked : Tracked state)
    (lookup : ∀ other : Nat, next.sockets[other]? =
      if other = socket then some object else state.sockets[other]?)
    (apart : ∀ (other : Nat) (otherObject : ClientObject), other ≠ socket →
      state.sockets[other]? = some otherObject →
        object.LinkUp ∨ otherObject.LinkUp →
          otherObject.socket.nFd ≠ object.socket.nFd)
    (first second : Nat) (firstObject secondObject : ClientObject)
    (firstThere : next.sockets[first]? = some firstObject)
    (linkUp : firstObject.LinkUp)
    (secondThere : next.sockets[second]? = some secondObject)
    (sameFd : secondObject.socket.nFd = firstObject.socket.nFd) :
    second = first := by
  rcases update_cases lookup firstThere with
    ⟨rfl, rfl⟩ | ⟨firstOther, firstBefore⟩
  · rcases update_cases lookup secondThere with ⟨rfl, -⟩ | ⟨different, before⟩
    · rfl
    · exact absurd sameFd
        (apart second secondObject different before (.inl linkUp))
  · rcases update_cases lookup secondThere with ⟨rfl, rfl⟩ | ⟨-, before⟩
    · exact absurd sameFd.symm
        (apart first firstObject firstOther firstBefore (.inr linkUp))
    · exact tracked.distinct first second firstObject secondObject
        firstBefore linkUp before sameFd

/-- One socket changes and queues packages, or is new. -/
theorem Tracked.update (tracked : Tracked state)
    (lookup : ∀ other : Nat, next.sockets[other]? =
      if other = socket then some object else state.sockets[other]?)
    (queued : next.packList = state.packList ++ packages.map (socket, ·))
    (agents : next.mapAgents = state.mapAgents)
    (orderly : object.Orderly)
    (keyed : ∀ (fd : UInt64) (agent : AgentServerObject),
      state.mapAgents[fd]? = some agent → agent.socket = socket →
        object.socket.nFd = fd)
    (apart : ∀ (other : Nat) (otherObject : ClientObject), other ≠ socket →
      state.sockets[other]? = some otherObject →
        object.LinkUp ∨ otherObject.LinkUp →
          otherObject.socket.nFd ≠ object.socket.nFd)
    (idle : object.LinkUp → object.socket.reConnPending = false)
    (settles : Settles
      ((packages.filterMap ClientPackage.news).getLast?.or
        (latest ClientPackage.news socket state.packList))
      (state.mapAgents[object.socket.nFd]? = some { socket })
      object.LinkUp) : Tracked next where
  named := tracked.update_named lookup queued
  orderly := by
    intro other otherObject there
    rcases update_cases lookup there with ⟨-, rfl⟩ | ⟨-, before⟩
    · exact orderly
    · exact tracked.orderly other otherObject before
  keyed := by
    intro fd agent registered
    rw [agents] at registered
    by_cases same : agent.socket = socket
    · refine ⟨object, ?_, keyed fd agent registered same⟩
      rw [lookup, if_pos same]
    · obtain ⟨otherObject, there, nFd⟩ := tracked.keyed fd agent registered
      refine ⟨otherObject, ?_, nFd⟩
      rw [lookup, if_neg same]
      exact there
  distinct := tracked.update_distinct lookup apart
  idle := by
    intro other otherObject there linkUp
    rcases update_cases lookup there with ⟨-, rfl⟩ | ⟨-, before⟩
    · exact idle linkUp
    · exact tracked.idle other otherObject before linkUp
  settles := by
    intro other otherObject there
    rw [queued, agents]
    rcases update_cases lookup there with ⟨rfl, rfl⟩ | ⟨different, before⟩
    · rw [latest_append_own]
      exact settles
    · rw [latest_append_other different.symm]
      exact tracked.settles other otherObject before

end Update

/-- A call of `toConnect` for a socket without an agent and without a link. -/
theorem Tracked.toConnect (tracked : Tracked state) {socket : Nat}
    {object : ClientObject} {answers : SystemAnswers}
    (orderly : object.Orderly)
    (pending : object.socket.reConnPending = false)
    (fresh : state.OpensFresh answers)
    (ownFresh : 0 ≤ answers.socket → answers.fd ∉ object.descriptors)
    (lookup : ∀ other : Nat, next.sockets[other]? =
      if other = socket then some (object.toConnect answers).1
      else state.sockets[other]?)
    (queued : next.packList =
      state.packList ++ (object.toConnect answers).2.map (socket, ·))
    (agents : next.mapAgents = state.mapAgents)
    (noAgent : ∀ (fd : UInt64) (agent : AgentServerObject),
      state.mapAgents[fd]? = some agent → agent.socket ≠ socket)
    (down : Settles (latest ClientPackage.news socket state.packList)
      False False) : Tracked next := by
  have connected : (object.toConnect answers).1.LinkUp → answers.Succeed :=
    fun linkUp =>
      object.succeed_of_linkUp linkUp (orderly.bufferevent_fd ownFresh)
  have nFd := object.toConnect_nFd answers
  have unregistered : ¬ state.mapAgents[
      (object.toConnect answers).1.socket.nFd]? = some { socket } :=
    fun registered => noAgent _ _ registered rfl
  refine tracked.update lookup queued agents (orderly.toConnect answers)
    ?_ ?_ ?_ ?_
  · intro fd agent registered same
    exact absurd same (noAgent fd agent registered)
  · intro other otherObject different there linkUp
    rw [nFd]
    have otherOrderly := tracked.orderly other otherObject there
    have otherFresh : 0 ≤ answers.socket →
        answers.fd ∉ otherObject.descriptors :=
      fun opens => fresh opens otherObject (List.mem_of_getElem? there)
    rcases linkUp with new | old
    · have opens : 0 ≤ answers.socket := by
        by_contra failed
        exact (connected new).2.1
          (answers.connectInvalid (Int.not_le.mp failed))
      exact otherOrderly.nFd_ne opens otherFresh
    · exact old.nFd_ne otherOrderly otherFresh
  · intro linkUp
    exact (object.toConnect_connected (connected linkUp)).2.1.trans pending
  · rcases answers.outcome with succeeds | fails | givesUp
    · obtain ⟨linkUp, -, packages⟩ := object.toConnect_connected succeeds
      rw [packages]
      exact Settles.of_told (iff_of_true rfl linkUp) _ _
    · obtain ⟨-, -, -, packages⟩ := object.toConnect_retries fails
      rw [packages]
      refine Settles.of_told (iff_of_false Bool.false_ne_true ?_) _ _
      exact fun linkUp =>
        ClientObject.not_succeed_of_fails fails (connected linkUp)
    · obtain ⟨-, -, packages⟩ := object.toConnect_givesUp givesUp
      rw [packages]
      refine down.of_down not_false unregistered ?_
      exact fun linkUp =>
        ClientObject.not_succeed_of_givesUp givesUp (connected linkUp)

/-- The main thread handles the first package. -/
theorem Tracked.pop (tracked : Tracked state) {socket : Nat}
    {package : ClientPackage}
    (head : state.packList = (socket, package) :: next.packList)
    (sockets : next.sockets = state.sockets)
    (keyed : ∀ (fd : UInt64) (agent : AgentServerObject),
      next.mapAgents[fd]? = some agent →
        state.mapAgents[fd]? = some agent ∨
          agent = { socket } ∧ ∃ object : ClientObject,
            state.sockets[socket]? = some object ∧ object.socket.nFd = fd)
    (own : ∀ object : ClientObject, state.sockets[socket]? = some object →
      Settles package.news
          (state.mapAgents[object.socket.nFd]? = some { socket })
          object.LinkUp →
        (next.mapAgents[object.socket.nFd]? = some { socket } ↔
          object.LinkUp))
    (others : ∀ (other : Nat) (object : ClientObject), other ≠ socket →
      state.sockets[other]? = some object →
        (state.mapAgents[object.socket.nFd]? = some { socket := other } ↔
          object.LinkUp) →
        (next.mapAgents[object.socket.nFd]? = some { socket := other } ↔
          object.LinkUp)) : Tracked next where
  named other package waits := by
    rw [sockets]
    exact tracked.named other package (head ▸ List.mem_cons_of_mem _ waits)
  orderly := by
    rw [sockets]
    exact tracked.orderly
  keyed fd agent registered := by
    rw [sockets]
    rcases keyed fd agent registered with before | ⟨rfl, new⟩
    · exact tracked.keyed fd agent before
    · exact new
  distinct := by
    rw [sockets]
    exact tracked.distinct
  idle := by
    rw [sockets]
    exact tracked.idle
  settles other object there := by
    rw [sockets] at there
    have settles := tracked.settles other object there
    rw [head] at settles
    by_cases same : other = socket
    · subst same
      rw [latest_cons_own] at settles
      exact settles.handle fun _ first => own object there first
    · rw [latest_cons_other (Ne.symm same)] at settles
      exact settles.change (others other object same there)

section PairCallback

variable {packList : List (Nat × ClientPackage)} {socket : Nat}
  {object : ClientObject}

/-- A `connect_end` package of a socket without an agent. -/
theorem Tracked.connectEnd (tracked : Tracked state) {flag : Int}
    (head : state.packList = (socket, .connectEnd flag) :: packList)
    (there : state.sockets[socket]? = some object)
    (absent : state.mapAgents[object.socket.nFd]? = none)
    (packs : next.packList = packList) (sockets : next.sockets = state.sockets)
    (agents : next.mapAgents =
      state.mapAgents.insert object.socket.nFd { socket }) : Tracked next := by
  have lookup := MapLookup.insert_getElem? state.mapAgents object.socket.nFd
  refine tracked.pop (packs ▸ head) sockets ?_ ?_ ?_
  · intro fd agent registered
    rw [agents, lookup] at registered
    split_ifs at registered with same
    · exact .inr ⟨(Option.some.inj registered).symm, object, there, same.symm⟩
    · exact .inl registered
  · intro again alsoThere told
    obtain rfl := Option.some.inj (there.symm.trans alsoThere)
    have linkUp : object.LinkUp := Iff.mp told rfl
    rw [agents, lookup, if_pos rfl]
    exact iff_of_true rfl linkUp
  · intro other otherObject different _ settled
    rw [agents, lookup]
    split_ifs with same
    · rw [same, absent] at settled
      refine iff_of_false ?_ ((iff_false_left nofun).mp settled)
      intro isOther
      exact different (AgentServerObject.mk.inj (Option.some.inj isOther)).symm
    · exact settled

/-- A `close` package of a socket under whose descriptor there is an agent. -/
theorem Tracked.close (tracked : Tracked state)
    (head : state.packList = (socket, .close) :: packList)
    (there : state.sockets[socket]? = some object)
    (packs : next.packList = packList) (sockets : next.sockets = state.sockets)
    (agents : next.mapAgents = state.mapAgents.erase object.socket.nFd) :
    Tracked next := by
  have lookup := MapLookup.erase_getElem? state.mapAgents object.socket.nFd
  refine tracked.pop (packs ▸ head) sockets ?_ ?_ ?_
  · intro fd agent registered
    rw [agents, lookup] at registered
    split_ifs at registered with same
    exact .inl registered
  · intro again alsoThere told
    obtain rfl := Option.some.inj (there.symm.trans alsoThere)
    have down : ¬ object.LinkUp := fun linkUp =>
      Bool.false_ne_true (Iff.mpr told linkUp)
    rw [agents, lookup, if_pos rfl]
    exact iff_of_false nofun down
  · intro other otherObject different otherThere settled
    rw [agents, lookup]
    split_ifs with same
    · refine iff_of_false nofun fun linkUp => different ?_
      exact (tracked.distinct other socket otherObject object otherThere linkUp
        there same.symm).symm
    · exact settled

/-- A package that leaves the agents as they are. -/
theorem Tracked.ignore (tracked : Tracked state) {package : ClientPackage}
    (head : state.packList = (socket, package) :: packList)
    (packs : next.packList = packList) (sockets : next.sockets = state.sockets)
    (agents : next.mapAgents = state.mapAgents)
    (own : ∀ object : ClientObject, state.sockets[socket]? = some object →
      Settles package.news
          (state.mapAgents[object.socket.nFd]? = some { socket })
          object.LinkUp →
        (state.mapAgents[object.socket.nFd]? = some { socket } ↔
          object.LinkUp)) : Tracked next := by
  refine tracked.pop (packs ▸ head) sockets ?_ ?_ ?_
  · intro fd agent registered
    rw [agents] at registered
    exact .inl registered
  · rw [agents]
    exact own
  · rw [agents]
    exact fun _ _ _ _ settled => settled

end PairCallback

theorem Tracked.pairCallback (tracked : Tracked state) (host : Host) :
    Tracked (state.pairCallback host) := by
  unfold ClientState.pairCallback
  split
  · exact tracked
  rename_i socket package packList head
  have inRange := tracked.named socket package (head ▸ List.mem_cons_self)
  have there := List.getElem?_eq_getElem inRange
  generalize state.sockets[socket] = object at there
  simp only [there]
  cases lookup : state.mapAgents[object.socket.nFd]? with
  | none =>
      cases package with
      | connectEnd flag =>
          simp only [handle, lookup]
          exact tracked.connectEnd head there lookup rfl rfl rfl
      | recvBuf buf =>
          simp only [handle, lookup]
          exact tracked.ignore head rfl rfl rfl fun _ _ settles => settles
      | close =>
          simp only [handle, lookup]
          refine tracked.ignore head rfl rfl rfl ?_
          intro again alsoThere told
          obtain rfl := Option.some.inj (there.symm.trans alsoThere)
          rw [lookup]
          refine iff_of_false nofun fun linkUp => ?_
          exact Bool.false_ne_true (Iff.mpr told linkUp)
  | some agent =>
      obtain ⟨agentObject, agentThere, agentFd⟩ :=
        tracked.keyed _ agent lookup
      cases package with
      | connectEnd flag =>
          simp only [handle, lookup]
          refine tracked.ignore head rfl rfl rfl ?_
          intro again alsoThere told
          obtain rfl := Option.some.inj (there.symm.trans alsoThere)
          have linkUp : object.LinkUp := Iff.mp told rfl
          have own := tracked.distinct socket agent.socket object agentObject
            there linkUp agentThere agentFd
          rw [lookup, ← own]
          exact iff_of_true rfl linkUp
      | recvBuf buf =>
          simp only [handle, lookup]
          split
          · exact tracked.ignore head rfl rfl rfl fun _ _ settles => settles
          · exact tracked.ignore head rfl rfl rfl fun _ _ settles => settles
      | close =>
          simp only [handle, lookup, deleteAgent, called, agentThere, agentFd]
          exact tracked.close head there rfl rfl rfl

theorem lookup_append (sockets : List ClientObject) (object : ClientObject)
    (other : Nat) :
    (sockets ++ [object])[other]? =
      if other = sockets.length then some object else sockets[other]? := by
  rw [List.getElem?_append]
  split_ifs with inRange isLast isLast
  · omega
  · rfl
  · simp [isLast]
  · rw [List.getElem?_singleton, if_neg (by omega),
      List.getElem?_eq_none (by omega)]

theorem lookup_set {sockets : List ClientObject} {socket : Nat}
    {object : ClientObject} (there : sockets[socket]? = some object)
    (changed : ClientObject) (other : Nat) :
    (sockets.set socket changed)[other]? =
      if other = socket then some changed else sockets[other]? := by
  have inRange := (List.getElem?_eq_some_iff.mp there).1
  split_ifs with same
  · rw [same, List.getElem?_set_self inRange]
  · rw [List.getElem?_set_ne (Ne.symm same)]

/-- An IO thread creates a socket and connects it. -/
theorem Tracked.connect (tracked : Tracked state)
    (recvBuf : Block maxBufferSize) {answers : SystemAnswers}
    (fresh : state.OpensFresh answers)
    (lookup : ∀ other : Nat, next.sockets[other]? =
      if other = state.sockets.length then
        some ((ClientObject.new recvBuf).toConnect answers).1
      else state.sockets[other]?)
    (queued : next.packList = state.packList ++
      ((ClientObject.new recvBuf).toConnect answers).2.map
        (state.sockets.length, ·))
    (agents : next.mapAgents = state.mapAgents) : Tracked next := by
  refine tracked.toConnect (ClientObject.new_orderly recvBuf) rfl fresh
    (fun _ => nofun) lookup queued agents ?_ ?_
  · intro fd agent registered
    obtain ⟨object, there, -⟩ := tracked.keyed fd agent registered
    exact Nat.ne_of_lt (List.getElem?_eq_some_iff.mp there).1
  · rw [latest_of_unnamed fun entry waits =>
      Nat.ne_of_lt (tracked.named entry.1 entry.2 waits)]
    exact Iff.rfl

section Callback

variable {socket : Nat} {object changed : ClientObject}
  {packages : List ClientPackage}

/-- The timer of a socket without an agent fires. -/
theorem Tracked.reconnected (tracked : Tracked state)
    {answers : SystemAnswers} (there : state.sockets[socket]? = some object)
    (pending : object.socket.reConnPending = true)
    (fresh : state.OpensFresh answers)
    (noAgent : ∀ (fd : UInt64) (agent : AgentServerObject),
      state.mapAgents[fd]? = some agent → agent.socket ≠ socket) :
    Tracked (queue socket (object.fired.toConnect answers).2
      { state with
        sockets :=
          state.sockets.set socket (object.fired.toConnect answers).1 }) := by
  have orderly := tracked.orderly socket object there
  have firedOrderly : object.fired.Orderly :=
    ⟨orderly.descriptors, orderly.bufferevents, orderly.nFd⟩
  have ownFresh : 0 ≤ answers.socket →
      answers.fd ∉ object.fired.descriptors :=
    fun opens => fresh opens object (List.mem_of_getElem? there)
  refine tracked.toConnect firedOrderly rfl fresh ownFresh
    (lookup_set there _) rfl rfl noAgent ?_
  refine (tracked.settles socket object there).of_down ?_ not_false not_false
  intro linkUp
  rw [tracked.idle socket object there linkUp] at pending
  cases pending

/-- A loss is reported. -/
theorem Tracked.lost (tracked : Tracked state) {bufferevent : Nat}
    {reporting : BuffereventObject} {clientSocket : ClientIOSocket}
    (there : state.sockets[socket]? = some object)
    (reports : object.bufferevents[bufferevent]? = some reporting)
    (bev : clientSocket.bev = object.socket.bev)
    (nFd : clientSocket.nFd = object.socket.nFd)
    (own : object.LinkUp → bufferevent + 1 = object.bufferevents.length) :
    Tracked (queue socket [.close]
      { state with
        sockets :=
          state.sockets.set socket
            { object with
              socket := clientSocket
              bufferevents :=
                object.bufferevents.set bufferevent
                  { reporting with lost := true } } }) := by
  have down := ClientObject.not_linkUp_of_lost bev nFd reports own
  have orderly := tracked.orderly socket object there
  refine tracked.update (lookup_set there _) rfl rfl ?_ ?_ ?_ ?_ ?_
  · refine ⟨orderly.descriptors, ?_, nFd ▸ orderly.nFd⟩
    intro other member
    rcases List.mem_or_eq_of_mem_set member with before | rfl
    · exact orderly.bufferevents other before
    · have reported :=
        orderly.bufferevents reporting (List.mem_of_getElem? reports)
      exact reported
  · intro fd agent registered same
    obtain ⟨agentObject, agentThere, agentFd⟩ :=
      tracked.keyed fd agent registered
    rw [same, there] at agentThere
    rw [nFd, Option.some.inj agentThere]
    exact agentFd
  · intro other otherObject different otherThere linkUp sameFd
    rcases linkUp with impossible | otherUp
    · exact down impossible
    · rw [nFd] at sameFd
      exact different (tracked.distinct other socket otherObject object
        otherThere otherUp there sameFd.symm).symm
  · exact fun linkUp => absurd linkUp down
  · exact Settles.of_told (iff_of_false Bool.false_ne_true down) _ _

/-- A socket reads, or does nothing. -/
theorem Tracked.read (tracked : Tracked state) (buffer : RecvBuffer)
    (packets : List Bytes) (there : state.sockets[socket]? = some object) :
    Tracked (queue socket (packets.map .recvBuf)
      { state with
        sockets :=
          state.sockets.set socket
            { object with socket := { object.socket with buffer } } }) := by
  have orderly := tracked.orderly socket object there
  refine tracked.update (lookup_set there _) rfl rfl ?_ ?_ ?_ ?_ ?_
  · exact ⟨orderly.descriptors, orderly.bufferevents, orderly.nFd⟩
  · intro fd agent registered same
    obtain ⟨agentObject, agentThere, agentFd⟩ :=
      tracked.keyed fd agent registered
    rw [same, there] at agentThere
    rw [← agentFd, ← Option.some.inj agentThere]
  · intro other otherObject different otherThere linkUp sameFd
    rcases linkUp with ownUp | otherUp
    · exact different (tracked.distinct socket other object otherObject there
        ownUp otherThere sameFd)
    · exact different (tracked.distinct other socket otherObject object
        otherThere otherUp there sameFd.symm).symm
  · exact tracked.idle socket object there
  · rw [filterMap_news_recvBuf]
    exact tracked.settles socket object there

end Callback

theorem Tracked.step (tracked : Tracked state) {host : Host}
    {action : ClientAction} (fresh : state.Fresh action)
    (follows : state.FollowsLoss action)
    (ran : state.step host action = .ok next) : Tracked next := by
  cases action with
  | connect recvBuf answers =>
      obtain rfl := Except.ok.inj ran
      exact tracked.connect recvBuf fresh (lookup_append _ _) rfl rfl
  | callback socket callback =>
      simp only [ClientState.step] at ran
      split at ran
      · rename_i object there
        split at ran
        · rename_i changed packages called
          obtain rfl := Except.ok.inj ran
          cases ClientObject.callback_effect called with
          | idle => exact tracked.read object.socket.buffer [] there
          | reconnected answers pending =>
              exact tracked.reconnected there pending fresh
                (follows object there pending)
          | lost reports disconnects =>
              have inRange := (List.getElem?_eq_some_iff.mp reports).1
              refine tracked.lost there reports rfl rfl fun linkUp => ?_
              exact follows object there linkUp disconnects inRange
          | read _ buffer packets =>
              exact tracked.read buffer packets there
        · cases ran
      · obtain rfl := Except.ok.inj ran
        exact tracked
  | pairCallback =>
      obtain rfl := Except.ok.inj ran
      exact tracked.pairCallback host

theorem initial_tracked : Tracked initial where
  named := nofun
  orderly := by simp [initial]
  keyed := by simp [initial]
  distinct := by simp [initial]
  idle := by simp [initial]
  settles := by simp [initial]

/-- Where the system returns fresh descriptors, the agents are those of the
links whenever no package waits, in every run whose timers fire only when no
agent of their socket is registered, and in which a link that is up is lost by
a report of its own bufferevent only. -/
theorem clientTracking (host : Host) {actions : List ClientAction}
    (fresh : MeetsAlong (ClientState.step host) Fresh initial actions)
    (follows : MeetsAlong (ClientState.step host) FollowsLoss initial
      actions) :
    HoldsWhereReached (ClientState.step host) TracksLinks initial actions := by
  refine holdsWhereReached_of_meetsAlong ?_ ?_ initial_tracked
    (fresh.and follows)
  · rintro state action next tracked ⟨fresh, follows⟩ ran
    exact tracked.step fresh follows ran
  · exact fun state tracked => tracked.tracksLinks

instance decidableFresh (state : ClientState) :
    ∀ action, Decidable (state.Fresh action)
  | .connect _ answers =>
      inferInstanceAs (Decidable (0 ≤ answers.socket →
        ∀ object ∈ state.sockets, answers.fd ∉ object.descriptors))
  | .callback _ (.reconnectCallback answers) =>
      inferInstanceAs (Decidable (0 ≤ answers.socket →
        ∀ object ∈ state.sockets, answers.fd ∉ object.descriptors))
  | .callback _ (.eventCallback _ _) => isTrue trivial
  | .callback _ (.readCallback _) => isTrue trivial
  | .pairCallback => isTrue trivial

instance decidableLinkUp (object : ClientObject) : Decidable object.LinkUp :=
  decidable_of_iff
    (object.socket.bev = .enabled ∧
      ∃ current ∈ object.bufferevents.getLast?,
        current.fd = object.socket.nFd ∧ current.lost = false)
    (by simp [ClientObject.LinkUp])

instance decidableFollowsLoss (state : ClientState) :
    ∀ action, Decidable (state.FollowsLoss action)
  | .connect _ _ => isTrue trivial
  | .callback socket (.reconnectCallback _) =>
      decidable_of_iff
        (∀ object ∈ state.sockets[socket]?,
          object.socket.reConnPending = true →
            ∀ entry ∈ state.mapAgents.toList, entry.2.socket ≠ socket)
        (by
          simp [FollowsLoss, Prod.forall,
            Std.TreeMap.mem_toList_iff_getElem?_eq_some])
  | .callback socket (.eventCallback bufferevent events) =>
      decidable_of_iff
        (∀ object ∈ state.sockets[socket]?, object.LinkUp →
          ClientObject.Disconnects events →
            bufferevent < object.bufferevents.length →
              bufferevent + 1 = object.bufferevents.length)
        (by simp [FollowsLoss])
  | .callback _ (.readCallback _) => isTrue trivial
  | .pairCallback => isTrue trivial

/-- A connection that is lost, whose agent is deleted before the timer fires,
and that is opened again. -/
def reopened : List ClientAction :=
  [.connect (Block.zero maxBufferSize) (.succeed 3), .pairCallback,
    .callback 0 (.eventCallback 0 ClientIOSocket.eventEof), .pairCallback,
    .callback 0 (.reconnectCallback (.succeed 4)), .pairCallback]

theorem clientTracking_reopened :
    HoldsWhereReached (ClientState.step .little) TracksLinks initial
      reopened :=
  clientTracking .little (by decide +kernel) (by decide +kernel)

/-- The same connection when the timer fires first. -/
def reopenedEarly : List ClientAction :=
  [.connect (Block.zero maxBufferSize) (.succeed 3), .pairCallback,
    .callback 0 (.eventCallback 0 ClientIOSocket.eventEof),
    .callback 0 (.reconnectCallback (.succeed 4)), .pairCallback,
    .pairCallback]

/-- The agent of the lost connection stays under its old descriptor. -/
theorem clientTracking_reopenedEarly :
    MeetsAlong (ClientState.step .little) Fresh initial reopenedEarly ∧
      ¬ HoldsWhereReached (ClientState.step .little) TracksLinks initial
        reopenedEarly := by
  refine ⟨by decide +kernel, fun holds => ?_⟩
  have stale : (match runActions (ClientState.step .little) initial
        reopenedEarly with
      | .ok final =>
          decide (final.packList = [] ∧
            final.mapAgents[(3 : UInt64)]? = some { socket := 0 } ∧
            final.sockets[0]?.map (·.socket.nFd) = some 4)
      | .error _ => false) = true := by
    decide +kernel
  cases ran : runActions (ClientState.step .little) initial reopenedEarly with
  | error stop => simp [ran] at stale
  | ok final =>
      simp only [ran, decide_eq_true_eq] at stale
      obtain ⟨empty, registered, nFd⟩ := stale
      have tracks := holds reopenedEarly [] final (by simp) ran empty
      obtain ⟨object, there, -, current⟩ := tracks.onlyThese 3 _ registered
      rw [there, Option.map_some, current] at nFd
      cases nFd

end ClientState

end EchoServer
