import EchoServer.ClientIOSocket
import Mathlib.Algebra.Group.Int.Defs
import Mathlib.Algebra.GroupWithZero.Nat

/-!
# Client sockets with what they have obtained

`toConnect` obtains a descriptor from the system and allocates a bufferevent
for it.  A bufferevent stays allocated and may report events as long as nobody
frees it, also when `_pBev` points to another one.
-/

namespace EchoServer

open ByteOrder

/-- Answers that the system can give: `socket` returns an `int` that is not
below `-1`, and `connect` fails on an invalid descriptor. -/
structure SystemAnswers extends ConnectAnswers where
  socketRange : -1 ≤ socket ∧ socket < 2 ^ 31
  connectInvalid : socket < 0 → connect = -1

theorem descriptors_ne_zero : 2 ^ 31 ≠ 0 := by
  decide

/-- Descriptors are written as numerals. -/
instance descriptors_neZero : NeZero (2 ^ 31) :=
  ⟨descriptors_ne_zero⟩

namespace SystemAnswers

/-- Every call succeeds, and `socket` returns the given descriptor. -/
def succeed (descriptor : Fin (2 ^ 31)) : SystemAnswers where
  socket := descriptor.val
  connect := 0
  nonblocking := 0
  bufferevent := true
  enable := 0
  socketRange := by
    have := descriptor.isLt
    omega
  connectInvalid := by
    intro negative
    omega

/-- The descriptor as the socket keeps it. -/
def fd (answers : SystemAnswers) : UInt64 :=
  UInt64.ofInt answers.socket

/-- `connect` or the change to non-blocking mode fails, after which the
socket tries again later. -/
def Fails (answers : SystemAnswers) : Prop :=
  ¬ answers.fd ≤ 0 ∧ (answers.connect = -1 ∨ answers.nonblocking = -1)

/-- `toConnect` comes to `bufferevent_socket_new`, and it succeeds. -/
def Allocates (answers : SystemAnswers) : Prop :=
  ¬ answers.fd ≤ 0 ∧ answers.connect ≠ -1 ∧ answers.nonblocking ≠ -1 ∧
    answers.bufferevent = true

/-- `toConnect` returns an error without setting the timer. -/
def GivesUp (answers : SystemAnswers) : Prop :=
  answers.fd ≤ 0 ∨
    answers.connect ≠ -1 ∧ answers.nonblocking ≠ -1 ∧
      (answers.bufferevent = false ∨ answers.enable < 0)

instance (answers : SystemAnswers) : Decidable answers.Allocates :=
  inferInstanceAs (Decidable (_ ∧ _ ∧ _ ∧ _))

instance (answers : SystemAnswers) : Decidable answers.GivesUp :=
  inferInstanceAs (Decidable (_ ∨ _ ∧ _ ∧ (_ ∨ _)))

/-- How a call of `toConnect` can end. -/
inductive Outcome (answers : SystemAnswers) : Prop
  | connected (succeeds : answers.Succeed)
  | retries (fails : answers.Fails)
  | givesUp (givesUp : answers.GivesUp)

theorem outcome (answers : SystemAnswers) : answers.Outcome := by
  by_cases invalid : answers.fd ≤ 0
  · exact .givesUp (.inl invalid)
  by_cases refused : answers.connect = -1 ∨ answers.nonblocking = -1
  · exact .retries ⟨invalid, refused⟩
  obtain ⟨connects, nonblocking⟩ := not_or.mp refused
  by_cases ends : answers.bufferevent = false ∨ answers.enable < 0
  · exact .givesUp (.inr ⟨connects, nonblocking, ends⟩)
  · obtain ⟨allocates, enables⟩ := not_or.mp ends
    exact .connected ⟨invalid, connects, nonblocking,
      Bool.not_eq_false _ ▸ allocates, enables⟩

end SystemAnswers

/-- A bufferevent that `toConnect` has created, and whether it has reported
that its connection is lost. -/
structure BuffereventObject where
  fd : UInt64
  lost : Bool
  deriving DecidableEq

/-- A `ClientIOSocket` with the descriptors and the bufferevents that it has
obtained and not given back, in the order in which it obtained them. -/
structure ClientObject where
  socket : ClientIOSocket
  descriptors : List UInt64
  bufferevents : List BuffereventObject

/-- A callback of libevent on the socket's IO thread.  The second one comes
from any bufferevent that is allocated. -/
inductive ClientCallback
  | reconnectCallback (answers : SystemAnswers)
  | eventCallback (bufferevent : Nat) (events : UInt16)
  | readCallback (read : Bytes)

namespace ClientObject

open ClientIOSocket

/-- The constructor. -/
def new (recvBuf : Block maxBufferSize) : ClientObject where
  socket := ClientIOSocket.new recvBuf
  descriptors := []
  bufferevents := []

def toConnect (answers : SystemAnswers) (object : ClientObject) :
    ClientObject × List ClientPackage :=
  let (_, socket, packages) :=
    object.socket.toConnect answers.toConnectAnswers
  ({ socket
     descriptors :=
       if 0 ≤ answers.socket then object.descriptors ++ [socket.nFd]
       else object.descriptors
     bufferevents :=
       if answers.Allocates then
         object.bufferevents ++ [{ fd := socket.nFd, lost := false }]
       else object.bufferevents },
    packages)

/-- The timer has fired, and waits no more. -/
def fired (object : ClientObject) : ClientObject :=
  { object with socket := { object.socket with reConnPending := false } }

/-- `reconnectCallback`, which is not called while the timer is not set. -/
def reconnectCallback (answers : SystemAnswers) (object : ClientObject) :
    ClientObject × List ClientPackage :=
  if object.socket.reConnPending then object.fired.toConnect answers
  else (object, [])

/-- The events that `eventCallback` takes for the loss of the connection. -/
def Disconnects (events : UInt16) : Prop :=
  events &&& eventTimeout ≠ 0 ∨ events &&& eventError ≠ 0 ∨
    events &&& eventEof ≠ 0

instance (events : UInt16) : Decidable (Disconnects events) :=
  inferInstanceAs (Decidable (_ ∨ _ ∨ _))

def eventCallback (bufferevent : Nat) (events : UInt16)
    (object : ClientObject) : ClientObject × List ClientPackage :=
  match object.bufferevents[bufferevent]? with
  | some reporting =>
      let (socket, packages) := object.socket.eventCallback events
      ({ object with
         socket
         bufferevents :=
           if Disconnects events then
             object.bufferevents.set bufferevent
               { reporting with lost := true }
           else object.bufferevents },
        packages)
  | none => (object, [])

/-- `readCallback`, when `bufferevent_read` returns the given bytes. -/
def readCallback (host : Host) (read : Bytes) (object : ClientObject) :
    Except RecvStop (ClientObject × List ClientPackage) :=
  match object.socket.recv host read with
  | .ok (_, socket, packets) =>
      .ok ({ object with socket }, packets.map .recvBuf)
  | .error stop => .error stop

/-- One callback: the object after it, and the packages that it queues. -/
def callback (host : Host) (object : ClientObject) :
    ClientCallback → Except RecvStop (ClientObject × List ClientPackage)
  | .reconnectCallback answers => .ok (object.reconnectCallback answers)
  | .eventCallback bufferevent events =>
      .ok (object.eventCallback bufferevent events)
  | .readCallback read => object.readCallback host read

/-- The socket once `ClientSocketIOThread::pairCallback` has taken the
`connect` package for it. -/
def opened (recvBuf : Block maxBufferSize) (answers : SystemAnswers) :
    ClientObject :=
  ((new recvBuf).toConnect answers).1

/-- The object after a callback. -/
def step (host : Host) (object : ClientObject)
    (callback : ClientCallback) : Except RecvStop ClientObject :=
  match object.callback host callback with
  | .ok (next, _) => .ok next
  | .error stop => .error stop

/-- There is an enabled bufferevent on the current descriptor that has
reported no loss. -/
def LinkUp (object : ClientObject) : Prop :=
  object.socket.bev = .enabled ∧
    ∃ current, object.bufferevents.getLast? = some current ∧
      current.fd = object.socket.nFd ∧ current.lost = false

section ToConnect

variable (object : ClientObject) {answers : SystemAnswers}

theorem toConnect_nFd (answers : SystemAnswers) :
    (object.toConnect answers).1.socket.nFd = answers.fd := by
  simp only [toConnect, ClientIOSocket.toConnect]
  split_ifs <;> rfl

theorem toConnect_connected (succeeds : answers.Succeed) :
    (object.toConnect answers).1.LinkUp ∧
      (object.toConnect answers).1.socket.reConnPending =
        object.socket.reConnPending ∧
      (object.toConnect answers).2 = [.connectEnd 0] := by
  obtain ⟨valid, connects, nonblocking, allocates, enables⟩ := succeeds
  have allocated : answers.Allocates :=
    ⟨valid, connects, nonblocking, allocates⟩
  simp [toConnect, ClientIOSocket.toConnect, LinkUp, valid, connects,
    nonblocking, allocates, enables, allocated]

theorem toConnect_retries (fails : answers.Fails) :
    (object.toConnect answers).1.socket.reConnPending = true ∧
      (object.toConnect answers).1.socket.bev = object.socket.bev ∧
      (object.toConnect answers).1.bufferevents = object.bufferevents ∧
      (object.toConnect answers).2 = [.close] := by
  obtain ⟨valid, refused⟩ := fails
  have notAllocated : ¬ answers.Allocates := by
    rintro ⟨-, connects, nonblocking, -⟩
    exact refused.elim connects nonblocking
  have valid' : ¬ UInt64.ofInt answers.socket ≤ 0 := valid
  by_cases connects : answers.connect = -1
  · simp [toConnect, ClientIOSocket.toConnect, toReConnect, valid', connects,
      notAllocated]
  · have nonblocking := refused.resolve_left connects
    simp [toConnect, ClientIOSocket.toConnect, toReConnect, valid', connects,
      nonblocking, notAllocated]

theorem toConnect_givesUp (givesUp : answers.GivesUp) :
    (object.toConnect answers).1.socket.reConnPending =
        object.socket.reConnPending ∧
      ((object.toConnect answers).1.socket.bev = .enabled →
        (object.toConnect answers).1.bufferevents = object.bufferevents ∧
          answers.fd ≤ 0) ∧
      (object.toConnect answers).2 = [] := by
  by_cases invalid : UInt64.ofInt answers.socket ≤ 0
  · have notAllocated : ¬ answers.Allocates := fun allocated =>
      allocated.1 invalid
    simp [toConnect, ClientIOSocket.toConnect, SystemAnswers.fd, invalid,
      notAllocated]
  · obtain ⟨connects, nonblocking, ends⟩ := givesUp.resolve_left invalid
    by_cases allocates : answers.bufferevent = true
    · have notEnabled : answers.enable < 0 :=
        ends.resolve_left (by simp [allocates])
      simp [toConnect, ClientIOSocket.toConnect, invalid, connects,
        nonblocking, allocates, notEnabled]
    · simp [toConnect, ClientIOSocket.toConnect, invalid, connects,
        nonblocking, allocates]

/-- A call of `toConnect` that does not succeed leaves no link, unless an
earlier bufferevent has the new descriptor. -/
theorem succeed_of_linkUp (linkUp : (object.toConnect answers).1.LinkUp)
    (unused : ∀ bufferevent ∈ object.bufferevents,
      bufferevent.fd ≠ answers.fd) : answers.Succeed := by
  obtain ⟨enabled, current, last, fd, -⟩ := linkUp
  rw [toConnect_nFd] at fd
  have notBefore :
      (object.toConnect answers).1.bufferevents ≠ object.bufferevents := by
    intro same
    rw [same] at last
    exact unused current (List.mem_of_getLast? last) fd
  rcases answers.outcome with succeeds | fails | givesUp
  · exact succeeds
  · exact absurd (object.toConnect_retries fails).2.2.1 notBefore
  · exact absurd ((object.toConnect_givesUp givesUp).2.1 enabled).1 notBefore

end ToConnect

section EventCallback

variable (object : ClientObject) (bufferevent : Nat) {events : UInt16}

/-- An event that is not taken for a loss changes nothing. -/
theorem eventCallback_ignored (ignored : ¬ Disconnects events) :
    object.eventCallback bufferevent events = (object, []) := by
  have unchanged : object.socket.eventCallback events =
      (object.socket, []) := by
    simp only [ClientIOSocket.eventCallback]
    exact if_neg ignored
  unfold eventCallback
  cases object.bufferevents[bufferevent]? with
  | none => rfl
  | some reporting => simp only [unchanged, ignored, if_false]

variable {bufferevent} in
theorem eventCallback_lost {reporting : BuffereventObject}
    (there : object.bufferevents[bufferevent]? = some reporting)
    (lost : Disconnects events) :
    object.eventCallback bufferevent events =
      ({ object with
         socket :=
           { object.socket with
             nStatus := .waitConnect
             reConnPending := true }
         bufferevents :=
           object.bufferevents.set bufferevent { reporting with lost := true } },
        [.close]) := by
  have reports : object.socket.eventCallback events =
      ({ object.socket with nStatus := .waitConnect }.toReConnect,
        [.close]) := by
    simp only [ClientIOSocket.eventCallback]
    exact if_pos lost
  unfold eventCallback
  simp only [there, reports, lost, if_true, toReConnect]

end EventCallback

/-- Reading changes the receive buffer only. -/
theorem readCallback_ok {host : Host} {read : Bytes}
    {object next : ClientObject} {packages : List ClientPackage}
    (ran : object.readCallback host read = .ok (next, packages)) :
    ∃ (buffer : RecvBuffer) (packets : List Bytes),
      next = { object with socket := { object.socket with buffer } } ∧
        packages = packets.map .recvBuf := by
  unfold readCallback ClientIOSocket.recv at ran
  by_cases overflows : object.socket.asked < read.length
  · simp only [overflows, if_true] at ran
    cases ran
  · simp only [overflows, if_false] at ran
    generalize (object.socket.buffer.append read).extract host stops _ =
      extracted at ran
    cases extracted with
    | error stop => cases ran
    | ok result =>
        cases ran
        exact ⟨_, _, rfl, rfl⟩

/-- The effects that a callback can have. -/
inductive Effect (object : ClientObject) :
    ClientCallback → ClientObject → List ClientPackage → Prop
  | idle (callback : ClientCallback) : Effect object callback object []
  | reconnected (answers : SystemAnswers)
      (pending : object.socket.reConnPending = true) :
      Effect object (.reconnectCallback answers)
        (object.fired.toConnect answers).1 (object.fired.toConnect answers).2
  | lost {bufferevent : Nat} {events : UInt16}
      {reporting : BuffereventObject}
      (there : object.bufferevents[bufferevent]? = some reporting)
      (disconnects : Disconnects events) :
      Effect object (.eventCallback bufferevent events)
        { object with
          socket :=
            { object.socket with
              nStatus := .waitConnect
              reConnPending := true }
          bufferevents :=
            object.bufferevents.set bufferevent
              { reporting with lost := true } }
        [.close]
  | read (read : Bytes) (buffer : RecvBuffer) (packets : List Bytes) :
      Effect object (.readCallback read)
        { object with socket := { object.socket with buffer } }
        (packets.map .recvBuf)

/-- Every callback that returns has one of the effects. -/
theorem callback_effect {host : Host} {object next : ClientObject}
    {callback : ClientCallback} {packages : List ClientPackage}
    (ran : object.callback host callback = .ok (next, packages)) :
    Effect object callback next packages := by
  cases callback with
  | reconnectCallback answers =>
      have returned : object.reconnectCallback answers = (next, packages) :=
        Except.ok.inj ran
      unfold reconnectCallback at returned
      by_cases pending : object.socket.reConnPending = true
      · rw [if_pos pending] at returned
        have effect : Effect object (.reconnectCallback answers) _ _ :=
          .reconnected answers pending
        rw [returned] at effect
        exact effect
      · rw [if_neg pending] at returned
        obtain ⟨rfl, rfl⟩ := Prod.mk.inj returned
        exact .idle _
  | eventCallback bufferevent events =>
      have returned := Except.ok.inj ran
      by_cases disconnects : Disconnects events
      · cases there : object.bufferevents[bufferevent]? with
        | none =>
            simp only [eventCallback, there] at returned
            obtain ⟨rfl, rfl⟩ := Prod.mk.inj returned
            exact .idle _
        | some reporting =>
            rw [object.eventCallback_lost there disconnects] at returned
            obtain ⟨rfl, rfl⟩ := Prod.mk.inj returned
            exact .lost there disconnects
      · rw [object.eventCallback_ignored bufferevent disconnects] at returned
        obtain ⟨rfl, rfl⟩ := Prod.mk.inj returned
        exact .idle _
  | readCallback read =>
      obtain ⟨buffer, packets, rfl, rfl⟩ := readCallback_ok ran
      exact .read read buffer packets

theorem step_effect {host : Host} {object next : ClientObject}
    {callback : ClientCallback}
    (ran : object.step host callback = .ok next) :
    ∃ packages, object.Effect callback next packages := by
  unfold step at ran
  split at ran
  · rename_i packages called
    obtain rfl := Except.ok.inj ran
    exact ⟨packages, callback_effect called⟩
  · cases ran

theorem step_reconnects (host : Host) {object : ClientObject}
    (answers : SystemAnswers)
    (pending : object.socket.reConnPending = true) :
    object.step host (.reconnectCallback answers) =
      .ok (object.fired.toConnect answers).1 := by
  simp only [step, callback, reconnectCallback, pending, if_true]

end ClientObject

end EchoServer
