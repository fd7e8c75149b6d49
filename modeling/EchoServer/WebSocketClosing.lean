import EchoServer.LabelledRun
import EchoServer.ServerBatches
import EchoServer.WebSocketUpgrade

/-!
# A websocket that is about to be closed

A close frame sets `_status` to `while_Close`, which `SocketBase.h` describes
as the state in which a socket may still send but not receive.  `recv` indeed
returns at once then; but `toSend` too tests whether the status is `connected`,
and `consumeSendBuf` clears the buffer whatever `toSend` has done with it.
-/

namespace EchoServer

open ByteOrder DispatchLoop FaultingComputation LabelledRun

/-- How a callback of an IO thread goes wrong. -/
inductive CallbackFault
  | recv (stop : RecvStop)
  | send (fault : SendFault)

/-- A `ServerIOSocket` with both of its sides: the bytes that `consumeSendBuf`
has passed on, and the packets handed to `asynRecive`.  What the handshake
writes is not among the bytes. -/
structure ThreadSocket where
  socket : ServerIOSocket
  sendBuf : SendBuffer maxBufferSize
  passedOn : List Bytes
  destroyed : Bool
  asynRecived : List Bytes

/-- The callbacks for a socket: `readCallback` with the bytes that
`bufferevent_read` returns, and `pairCallback` with the packages that it takes
for the socket. -/
inductive ThreadCallback
  | readCallback (read : Bytes)
  | pairCallback (packages : List SocketPackage)

namespace ThreadSocket

/-- The socket when the `accept` branch of `pairCallback` is done with it. -/
def accepted (recvBuf : Block maxBufferSize) : ThreadSocket where
  socket :=
    { status := .connected, nWebSocketFlag := .wfUnknown
      buffer := { recvBuf, nRecvBufLen := 0 } }
  sendBuf := ServerSender.accepted.sendBuf
  passedOn := []
  destroyed := false
  asynRecived := []

/-- The sending side. -/
def sender (state : ThreadSocket) : ServerSender where
  status := state.socket.status
  nWebSocketFlag := state.socket.nWebSocketFlag
  sendBuf := state.sendBuf
  passedOn := state.passedOn
  destroyed := state.destroyed

/-- What the sending side has become. -/
def withSender (state : ThreadSocket) (sender : ServerSender) :
    ThreadSocket :=
  { state with
    socket := { state.socket with
      status := sender.status, nWebSocketFlag := sender.nWebSocketFlag }
    sendBuf := sender.sendBuf
    passedOn := sender.passedOn
    destroyed := sender.destroyed }

/-- One callback. -/
def step (host : Host) (doWebSocketHandShake : Bytes → Bool)
    (state : ThreadSocket) :
    ThreadCallback → Except CallbackFault ThreadSocket
  | .readCallback read =>
      if state.destroyed then .error (.send (.destroyedSocket 0))
      else
        match state.socket.recv host doWebSocketHandShake read with
        | .error stop => .error (.recv stop)
        | .ok (_, socket, packets) =>
            .ok { state with
              socket, asynRecived := state.asynRecived ++ packets }
  | .pairCallback packages =>
      match ServerSender.pairCallback.run
        (packages.map fun package => (0, package)) [state.sender] with
      | .error fault => .error (.send fault)
      | .ok after => .ok (state.withSender (after.headD state.sender))

/-- The callback returns, hands no packet to `asynRecive`, and has passed on
what it was given to send. -/
def StillSends (host : Host) (doWebSocketHandShake : Bytes → Bool)
    (state : ThreadSocket) (callback : ThreadCallback) : Prop :=
  ∃ next, step host doWebSocketHandShake state callback = .ok next ∧
    next.asynRecived = state.asynRecived ∧
    match callback with
    | .readCallback _ => True
    | .pairCallback packages =>
        next.passedOn.flatten = state.passedOn.flatten ++
          (packages.filterMap SocketPackage.buf?).flatten

/-- The law of `while_Close`: the socket may still send, but not receive. -/
def ClosingLaw (host : Host) (doWebSocketHandShake : Bytes → Bool)
    (state : ThreadSocket) (callback : ThreadCallback) : Prop :=
  state.socket.status = .whileClose →
    StillSends host doWebSocketHandShake state callback

/-- In `while_Close`, nothing is sent, and the package that closes the socket
comes alone. -/
def ClosesQuietly (state : ThreadSocket) (callback : ThreadCallback) :
    Prop :=
  state.socket.status = .whileClose →
    match callback with
    | .readCallback _ => True
    | .pairCallback packages =>
        packages = [.close] ∨ ∀ package ∈ packages, package = .sendBuf []

/-- Between callbacks nothing waits in the send buffer, and a destroyed socket
is closed. -/
structure Settled (state : ThreadSocket) : Prop where
  empty : state.sendBuf.used = 0
  closed : state.destroyed = true → state.socket.status = .closed

end ThreadSocket

namespace ServerSender

variable {sender sender' : ServerSender} {packages : List SocketPackage}

/-- The parts of `pairCallback` preserve a property of the socket. -/
structure Preserves (Property : ServerSender → Prop) : Prop where
  expand : ∀ sender sendBuf, Property sender →
    Property { sender with sendBuf }
  consume : ∀ sender, Property sender → Property sender.consumeSendBuf
  close : ∀ sender, Property sender →
    Property { sender.toClose with destroyed := true }

namespace Preserves

variable {Property : ServerSender → Prop}

theorem expandSendBuf (preserves : Preserves Property)
    (has : Property sender) {buf : Bytes}
    (expanded : sender.expandSendBuf buf = .ok (some sender')) :
    Property sender' := by
  rw [ServerSender.expandSendBuf] at expanded
  split at expanded
  · cases expanded
    exact preserves.expand _ _ has
  · cases expanded
  · cases expanded

theorem deal (preserves : Preserves Property) {package : SocketPackage}
    {listed : Bool} (has : Property sender)
    (dealt : pairCallback.deal package sender = .ok (sender', listed)) :
    Property sender' := by
  cases package with
  | close =>
      cases dealt
      exact preserves.close _ has
  | sendBuf buf =>
      obtain ⟨first, expanded, dealt⟩ := bind_ok dealt
      cases first with
      | some one =>
          cases dealt
          exact preserves.expandSendBuf has expanded
      | none =>
          obtain ⟨consumed, isConsumed, dealt⟩ := bind_ok dealt
          cases isConsumed
          have hasConsumed := preserves.consume _ has
          obtain ⟨second, again, dealt⟩ := bind_ok dealt
          cases second with
          | some two =>
              cases dealt
              exact preserves.expandSendBuf hasConsumed again
          | none =>
              cases dealt
              exact hasConsumed

theorem visit (preserves : Preserves Property) (has : Property sender)
    (visited : pairCallback.visit sender = .ok sender') :
    Property sender' := by
  change collector.empty sender = .ok sender' at visited
  rw [Collector.empty] at visited
  split_ifs at visited
  · cases visited
    exact preserves.consume _ has
  · cases visited
    exact has

/-- A socket that the packages of a call all name. -/
theorem run (preserves : Preserves Property)
    {batch : List (Nat × SocketPackage)} {after : List ServerSender}
    (ran : pairCallback.run batch [sender] = .ok after)
    (has : Property sender) : ∃ final, after = [final] ∧ Property final := by
  obtain ⟨single, all⟩ := run_allHave
    (fun _ _ _ _ has => preserves.deal has) (fun _ _ => preserves.visit) ran
    (by simpa using has)
  obtain ⟨final, rfl⟩ := List.length_eq_one_iff.mp single
  exact ⟨final, rfl, all final List.mem_cons_self⟩

end Preserves

/-- A socket that is not connected passes nothing on. -/
theorem preserves_unconnected (passedOn : List Bytes) :
    Preserves fun sender =>
      sender.status ≠ .connected ∧ sender.passedOn = passedOn where
  expand _ _ has := has
  consume sender has := by
    obtain ⟨unconnected, same⟩ := has
    rw [consumeSendBuf, toSend, if_pos unconnected]
    split_ifs
    · exact ⟨unconnected, same⟩
    · exact ⟨unconnected, same⟩
  close _ has := ⟨by simp [toClose], has.2⟩

/-- A destroyed socket is closed. -/
theorem preserves_closed :
    Preserves fun sender =>
      sender.destroyed = true → sender.status = .closed where
  expand _ _ has := has
  consume sender has := by
    rw [consumeSendBuf, toSend]
    split_ifs
    · exact has
    · exact has
    · exact has
  close _ _ _ := rfl

section Alone

variable {after : List ServerSender}

/-- Behind the `close` of a socket there is no package for it. -/
theorem close_last {before behind : List SocketPackage}
    {state result : ServerSender × Bool}
    (served : pairCallback.serveAll 0 (before ++ .close :: behind) state =
      .ok result) : behind = [] ∧ result.1.destroyed = true := by
  have split : before ++ SocketPackage.close :: behind =
      before ++ ([.close] ++ behind) := rfl
  rw [split, serveAll_append] at served
  obtain ⟨middle, -, served⟩ := bind_ok served
  rw [serveAll_append] at served
  obtain ⟨closed, servedClose, servedBehind⟩ := bind_ok served
  have destroyed : closed.1.destroyed = true := by
    obtain ⟨first, servedFirst, servedNone⟩ := bind_ok servedClose
    cases servedNone
    rw [serveOne] at servedFirst
    split_ifs at servedFirst
    cases servedFirst
    rfl
  cases behind with
  | nil =>
      cases servedBehind
      exact ⟨rfl, destroyed⟩
  | cons package behind =>
      have unusable : ¬ pairCallback.usable closed.1 = true := by
        rw [pairCallback_usable, Live, destroyed]
        exact Bool.noConfusion
      rw [serveAll, List.foldlM_cons, serveOne, if_neg unusable]
        at servedBehind
      cases servedBehind

/-- Packages that carry no byte and do not close are empty. -/
theorem all_empty (stays : .close ∉ packages)
    (nothing : (packages.filterMap SocketPackage.buf?).flatten = []) :
    ∀ package ∈ packages, package = .sendBuf [] := by
  intro package isIn
  cases package with
  | close => exact absurd isIn stays
  | sendBuf buf =>
      have carried : buf ∈ packages.filterMap SocketPackage.buf? :=
        List.mem_filterMap.mpr ⟨_, isIn, rfl⟩
      rw [List.flatten_eq_nil_iff.mp nothing buf carried]

theorem flatten_empties (all : ∀ package ∈ packages, package = .sendBuf []) :
    (packages.filterMap SocketPackage.buf?).flatten = [] := by
  apply List.flatten_eq_nil_iff.mpr
  intro buf isIn
  obtain ⟨package, packageIn, carried⟩ := List.mem_filterMap.mp isIn
  rw [all package packageIn] at carried
  exact (Option.some.inj carried).symm

theorem map_replicate_nil
    (all : ∀ package ∈ packages, package = .sendBuf []) :
    packages = (List.replicate packages.length []).map .sendBuf := by
  rw [List.map_replicate]
  exact List.eq_replicate_of_mem all

/-- An empty package fits an empty buffer. -/
theorem room (sender : ServerSender) :
    0 + sender.line.reserve < sender.line.capacity :=
  Nat.lt_of_le_of_lt (Nat.add_le_add_left sender.wsLenAdd_le 0)
    (show 0 + 10 < maxBufferSize by decide)

/-- Empty packages stay within 32 bits. -/
theorem withinWord_replicate_nil (empty : sender.sendBuf.used = 0)
    (count : Nat) : sender.line.WithinWord (List.replicate count []) := by
  apply Line.withinWord_of_length
  · rw [line_waiting_length, empty]
    exact sender.room
  · intro chunk isIn
    rw [List.eq_of_mem_replicate isIn]
    exact (show 0 + maxBufferSize ≤ 2 ^ 32 by decide)

/-- An empty package puts its socket on the list. -/
theorem lists_replicate_nil (empty : sender.sendBuf.used = 0) {count : Nat}
    (unlisted : sender.line.lists (List.replicate count []) = false) :
    count = 0 := by
  have waiting := sender.line_waiting_eq_nil.mpr empty
  cases count with
  | zero => rfl
  | succ count =>
      have listed : sender.line.lists (List.replicate (count + 1) []) = true :=
        (Line.lists_iff waiting).mpr ⟨[], by simp, sender.room⟩
      rw [unlisted] at listed
      cases listed

/-- A call that closes a socket, and otherwise has nothing but empty packages
for it, has no other package for it. -/
theorem closes_alone (live : sender.Live) (empty : sender.sendBuf.used = 0)
    (ran : pairCallback.run (packages.map fun package => (0, package))
      [sender] = .ok after)
    (nothing : (packages.filterMap SocketPackage.buf?).flatten = [])
    (closes : .close ∈ packages) : packages = [.close] := by
  obtain ⟨desk, -, outcome⟩ := run_ok ran
  obtain ⟨sender', listed, -, served, usable⟩ := outcome 0 sender rfl
  rw [own_alone] at served
  obtain ⟨before, behind, rfl, first⟩ :=
    List.eq_append_cons_of_mem closes
  obtain ⟨rfl, destroyed⟩ := close_last served
  have unlisted : listed = false := by
    rw [Bool.eq_false_iff]
    intro isListed
    have isLive := pairCallback_usable.mp (usable isListed)
    rw [Live, destroyed] at isLive
    cases isLive
  have nothingBefore : (before.filterMap SocketPackage.buf?).flatten = [] := by
    simpa [SocketPackage.buf?] using nothing
  have replicated := map_replicate_nil (all_empty first nothingBefore)
  obtain ⟨middle, servedBefore, -, live'⟩ := pairCallback_buffering.serveAll 0
    false live (withinWord_replicate_nil empty before.length)
  rw [← replicated, Bool.false_or] at servedBefore
  rw [serveAll_append, servedBefore] at served
  have sameListed := (serve_close live' _).symm.trans served
  cases sameListed
  rw [List.eq_nil_of_length_eq_zero (lists_replicate_nil empty unlisted)]
  rfl

/-- A call that only closes a socket returns. -/
theorem run_close (live : sender.Live) :
    ∃ after, pairCallback.run ([SocketPackage.close].map (Prod.mk 0))
      [sender] = .ok after := by
  have serves : ∀ package ∈ [SocketPackage.close].map (Prod.mk 0),
      ∃ object object' listed, [sender][package.1]? = some object ∧
        pairCallback.serveAll package.1
            (own package.1 ([SocketPackage.close].map (Prod.mk 0)))
            (object, false) = .ok (object', listed) ∧
        (listed = true →
          ∃ settled, pairCallback.Settles object' settled) := by
    intro package isIn
    obtain rfl := List.mem_singleton.mp isIn
    refine ⟨sender, { sender.toClose with destroyed := true }, false, rfl, ?_,
      (nomatch ·)⟩
    rw [own_alone]
    exact serve_close live false
  obtain ⟨after, ran, -⟩ := run_of_serveAll serves
  exact ⟨after, ran⟩

/-- A call that has only empty packages for a socket returns. -/
theorem run_empties (live : sender.Live) (empty : sender.sendBuf.used = 0)
    (all : ∀ package ∈ packages, package = .sendBuf []) :
    ∃ after, pairCallback.run (packages.map fun package => (0, package))
      [sender] = .ok after := by
  have idle : ∀ chunk ∈ List.replicate packages.length (0, ([] : Bytes)),
      ∃ object, [sender][chunk.1]? = some object ∧
        Buffering.Idle line Live (own chunk.1
          (List.replicate packages.length (0, ([] : Bytes)))) object := by
    intro chunk isIn
    obtain rfl := List.eq_of_mem_replicate isIn
    refine ⟨sender, rfl, live, sender.line_waiting_eq_nil.mpr empty, ?_⟩
    have alone : List.replicate packages.length (0, ([] : Bytes)) =
        (List.replicate packages.length []).map (Prod.mk 0) :=
      List.map_replicate.symm
    rw [alone, own_alone]
    exact withinWord_replicate_nil empty _
  obtain ⟨after, ran, -⟩ := pairCallback_buffering.run idle
  refine ⟨after, ?_⟩
  have same : packages.map (fun package => (0, package)) =
      Buffering.packagesOf SocketPackage.sendBuf
        (List.replicate packages.length (0, [])) := by
    rw [Buffering.packagesOf, List.map_replicate]
    conv_lhs => rw [List.eq_replicate_of_mem all, List.map_replicate]
  rw [same, ran]

end Alone

end ServerSender

namespace ThreadSocket

variable {host : Host} {doWebSocketHandShake : Bytes → Bool}
variable {state next : ThreadSocket} {packages : List SocketPackage}

theorem settled_accepted (recvBuf : Block maxBufferSize) :
    (accepted recvBuf).Settled where
  empty := rfl
  closed := by simp [accepted]

/-- `pairCallback` preserves what its parts preserve. -/
theorem step_pairCallback {Property : ServerSender → Prop}
    (preserves : ServerSender.Preserves Property)
    (stepped : step host doWebSocketHandShake state (.pairCallback packages) =
      .ok next) (has : Property state.sender) :
    ∃ final, ServerSender.pairCallback.run
        (packages.map (Prod.mk 0)) [state.sender] = .ok [final] ∧
      next = state.withSender final ∧ Property final := by
  rw [step] at stepped
  split at stepped
  · cases stepped
  · next after ran =>
      cases stepped
      obtain ⟨final, rfl, hasFinal⟩ := preserves.run ran has
      exact ⟨final, ran, rfl, hasFinal⟩

theorem settled_step {callback : ThreadCallback} (settled : state.Settled)
    (stepped : step host doWebSocketHandShake state callback = .ok next) :
    next.Settled := by
  cases callback with
  | readCallback read =>
      rw [step] at stepped
      split_ifs at stepped with destroyed
      split at stepped
      · cases stepped
      · cases stepped
        exact ⟨settled.empty, fun isDestroyed => absurd isDestroyed destroyed⟩
  | pairCallback packages =>
      obtain ⟨final, ran, rfl, closed⟩ := step_pairCallback
        ServerSender.preserves_closed stepped settled.closed
      have first : [state.sender][0]? = some state.sender := rfl
      obtain ⟨same, found, empty⟩ :=
        ServerSender.run_empty ran first settled.empty
      cases found
      exact ⟨empty, closed⟩

/-- A socket in `while_Close` has not been destroyed. -/
theorem Settled.live (settled : state.Settled)
    (closing : state.socket.status = .whileClose) : state.sender.Live := by
  cases destroyed : state.destroyed with
  | false => exact destroyed
  | true =>
      have closed := settled.closed destroyed
      rw [closing] at closed
      cases closed

/-- A socket in `while_Close` receives nothing. -/
theorem stillSends_readCallback (read : Bytes) (settled : state.Settled)
    (closing : state.socket.status = .whileClose) :
    StillSends host doWebSocketHandShake state (.readCallback read) := by
  have live : ¬ state.destroyed = true :=
    Bool.eq_false_iff.mp (settled.live closing)
  have refused : state.socket.recv host doWebSocketHandShake read =
      .ok (-1, state.socket, []) := by
    rw [ServerIOSocket.recv, if_pos]
    rw [closing]
    exact IOSocketStatus.noConfusion
  refine ⟨state, ?_, rfl, trivial⟩
  rw [step, if_neg live, refused]
  simp only [List.append_nil]

/-- A socket in `while_Close` passes nothing on. -/
theorem stillSends_pairCallback (closing : state.socket.status = .whileClose) :
    StillSends host doWebSocketHandShake state (.pairCallback packages) ↔
      (∃ after, ServerSender.pairCallback.run
        (packages.map (Prod.mk 0)) [state.sender] = .ok after) ∧
        (packages.filterMap SocketPackage.buf?).flatten = [] := by
  have unconnected : state.sender.status ≠ .connected := by
    change state.socket.status ≠ .connected
    rw [closing]
    exact IOSocketStatus.noConfusion
  have preserves := ServerSender.preserves_unconnected state.passedOn
  constructor
  · rintro ⟨next, stepped, -, sent⟩
    obtain ⟨final, ran, rfl, -, same⟩ :=
      step_pairCallback preserves stepped ⟨unconnected, rfl⟩
    refine ⟨⟨[final], ran⟩, ?_⟩
    change final.passedOn.flatten = _ at sent
    rw [same] at sent
    exact List.self_eq_append_right.mp sent
  · rintro ⟨⟨after, ran⟩, nothing⟩
    obtain ⟨final, rfl, -, same⟩ := preserves.run ran ⟨unconnected, rfl⟩
    refine ⟨state.withSender final, ?_, rfl, ?_⟩
    · rw [step, ran]
      rfl
    · change final.passedOn.flatten = _
      rw [same, nothing, List.append_nil]

theorem closingLaw_iff (settled : state.Settled)
    (callback : ThreadCallback) :
    ClosingLaw host doWebSocketHandShake state callback ↔
      state.ClosesQuietly callback := by
  refine forall_congr' fun closing => ?_
  have live := settled.live closing
  cases callback with
  | readCallback read =>
      exact iff_of_true (stillSends_readCallback read settled closing) trivial
  | pairCallback packages =>
      rw [stillSends_pairCallback closing]
      constructor
      · rintro ⟨⟨after, ran⟩, nothing⟩
        by_cases closes : .close ∈ packages
        · exact .inl
            (ServerSender.closes_alone live settled.empty ran nothing closes)
        · exact .inr (ServerSender.all_empty closes nothing)
      · rintro (rfl | all)
        · exact ⟨ServerSender.run_close live, rfl⟩
        · refine ⟨ServerSender.run_empties live settled.empty all, ?_⟩
          exact ServerSender.flatten_empties all

end ThreadSocket

/-- In a run of callbacks for a socket, every callback in `while_Close` passes
on what it is given to send, and hands on no packet, if and only if no
callback in `while_Close` is given something to send, and the package that
closes the socket then comes alone. -/
theorem whileClose_stillSends_iff (host : Host)
    (doWebSocketHandShake : Bytes → Bool) (recvBuf : Block maxBufferSize)
    (callbacks : List ThreadCallback) :
    MeetsAlong (ThreadSocket.step host doWebSocketHandShake)
        (ThreadSocket.ClosingLaw host doWebSocketHandShake)
        (.accepted recvBuf) callbacks ↔
      MeetsAlong (ThreadSocket.step host doWebSocketHandShake)
        ThreadSocket.ClosesQuietly (.accepted recvBuf) callbacks :=
  meetsAlong_congr (fun _ _ _ => ThreadSocket.settled_step)
    (fun _ callback settled => ThreadSocket.closingLaw_iff settled callback)
    (ThreadSocket.settled_accepted recvBuf)

/-- A handshake, a close frame, and a packet to send. -/
theorem whileClose_stillSends_packet :
    ¬ MeetsAlong (ThreadSocket.step .little fun _ => true)
      (ThreadSocket.ClosingLaw .little fun _ => true)
      (.accepted (.zero maxBufferSize))
      [.readCallback UpgradeState.sampleRequest.bytes,
        .readCallback [0x88, 0x80, 7, 8, 9, 10],
        .pairCallback [.sendBuf [4, 0, 1, 0]]] := by
  intro meets
  have closing : (runActions (ThreadSocket.step .little fun _ => true)
      (.accepted (.zero maxBufferSize))
      [.readCallback UpgradeState.sampleRequest.bytes,
        .readCallback [0x88, 0x80, 7, 8, 9, 10]]).toOption.map
          (fun state => state.socket.status) = some .whileClose := by
    decide +kernel
  cases ran : runActions (ThreadSocket.step .little fun _ => true)
      (.accepted (.zero maxBufferSize))
      [.readCallback UpgradeState.sampleRequest.bytes,
        .readCallback [0x88, 0x80, 7, 8, 9, 10]] with
  | error fault =>
      rw [ran] at closing
      cases closing
  | ok state =>
      rw [ran] at closing
      have settled := invariant_of_run
        (fun _ _ _ => ThreadSocket.settled_step)
        (ThreadSocket.settled_accepted _) ran
      obtain ⟨law, -⟩ := (meetsAlong_append meets ran).2
      have quiet := (ThreadSocket.closingLaw_iff settled _).mp law
        (Option.some.inj closing)
      simp at quiet

end EchoServer
