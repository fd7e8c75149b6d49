import EchoServer.ClientFraming

/-!
# A client link over its connections

A client opens its connection again when it is lost.  `toConnect` leaves the
receive buffer as it is, so what a lost connection left unsplit is taken for
the beginning of the next connection's bytes.
-/

namespace EchoServer

open ByteOrder Framing LabelledRun

/-- The bytes that a peer sends on one connection. -/
structure PacketStream where
  bytes : Bytes
  headers : packetFormat.HeadersSatisfy ClientIOSocket.Announceable bytes

/-- One connection of a link: what the peer sends, how many bytes of it have
been read, and the packets handed to `asynRecive` meanwhile. -/
structure Connection where
  sent : PacketStream
  readCount : Nat
  asynRecived : List Bytes

namespace Connection

def received (connection : Connection) : Bytes :=
  connection.sent.bytes.take connection.readCount

/-- The packets handed out are the frames of this connection's bytes. -/
def Framed (connection : Connection) : Prop :=
  connection.asynRecived = packetFormat.frames connection.received

instance (connection : Connection) : Decidable connection.Framed :=
  inferInstanceAs (Decidable (_ = _))

end Connection

/-- A client socket, the packages it has queued, and its connections, the
latest first. -/
structure ClientLink where
  socket : ClientIOSocket
  packList : List ClientPackage
  connections : List Connection

/-- What can happen to a link: the first `toConnect`, the reconnect timer,
bytes to read, and the events of a bufferevent. -/
inductive LinkAction
  | toConnect (answers : ConnectAnswers) (sent : PacketStream)
  | reconnectCallback (answers : ConnectAnswers) (sent : PacketStream)
  | readCallback (amount : Nat)
  | eventCallback (events : UInt16)

namespace ClientLink

def start (recvBuf : Block maxBufferSize) : ClientLink where
  socket := ClientIOSocket.new recvBuf
  packList := []
  connections := []

/-- A call of `toConnect`; if it brings a connection up, its peer sends the
given bytes. -/
def connect (answers : ConnectAnswers) (sent : PacketStream)
    (link : ClientLink) : ClientLink :=
  let (code, socket, packages) := link.socket.toConnect answers
  { socket
    packList := link.packList ++ packages
    connections :=
      if code = 0 then
        { sent, readCount := 0, asynRecived := [] } :: link.connections
      else link.connections }

/-- The bytes that `bufferevent_read` returns on a connection. -/
def read (socket : ClientIOSocket) (connection : Connection)
    (amount : Nat) : Bytes :=
  (connection.sent.bytes.drop connection.readCount).take
    (min amount socket.asked)

/-- A call of `recv`. -/
def receive (host : Host) (connection : Connection)
    (earlier : List Connection) (amount : Nat) (link : ClientLink) :
    Except RecvStop ClientLink :=
  let bytes := read link.socket connection amount
  match link.socket.recv host bytes with
  | .error stop => .error stop
  | .ok (_, socket, packets) =>
      .ok
        { socket
          packList := link.packList ++ packets.map .recvBuf
          connections :=
            { connection with
              readCount := connection.readCount + bytes.length
              asynRecived := connection.asynRecived ++ packets } ::
              earlier }

/-- One callback on the IO thread.  A callback that is not due, such as that
of a timer that is not waiting, changes nothing. -/
def step (host : Host) (link : ClientLink) :
    LinkAction → Except RecvStop ClientLink
  | .toConnect answers sent =>
      if link.socket.nStatus = .unconnected then
        .ok (link.connect answers sent)
      else
        .ok link
  | .reconnectCallback answers sent =>
      if link.socket.reConnPending then
        -- The timer is not persistent: once it has fired it waits no more.
        .ok (connect answers sent
          { link with socket := { link.socket with reConnPending := false } })
      else
        .ok link
  | .readCallback amount =>
      match link.socket.bev, link.connections with
      | .enabled, connection :: earlier =>
          link.receive host connection earlier amount
      | _, _ => .ok link
  | .eventCallback events =>
      let (socket, packages) := link.socket.eventCallback events
      .ok { link with socket, packList := link.packList ++ packages }

/-- The bytes that wait in the buffer, as the connections have it: the unsplit
tail of the latest one. -/
def unsplit (connections : List Connection) : Bytes :=
  match connections with
  | [] => []
  | latest :: _ => packetFormat.tail latest.received

/-- On every connection the packets handed out are the frames of its bytes,
and what waits in the buffer is the tail of the latest connection's. -/
structure Framing (link : ClientLink) : Prop where
  framed : ∀ connection ∈ link.connections, connection.Framed
  retained : link.socket.buffer.Keeps (unsplit link.connections)

/-- An action that brings a connection up does so when nothing waits in the
buffer. -/
def ConnectsAtBoundary (link : ClientLink) : LinkAction → Prop
  | .toConnect answers _ =>
      link.socket.nStatus = .unconnected → answers.Succeed →
        link.socket.buffer.nRecvBufLen = 0
  | .reconnectCallback answers _ =>
      link.socket.reConnPending = true → answers.Succeed →
        link.socket.buffer.nRecvBufLen = 0
  | .readCallback _ => True
  | .eventCallback _ => True

variable {host : Host} {link : ClientLink}

theorem received_zero (sent : PacketStream) :
    Connection.received ⟨sent, 0, []⟩ = [] :=
  List.take_zero

/-- `toConnect` keeps the framing exactly when nothing waits in the buffer, or
no connection comes up. -/
theorem connect_framing_iff (answers : ConnectAnswers) (sent : PacketStream)
    (framing : Framing link) :
    Framing (link.connect answers sent) ↔
      (answers.Succeed → link.socket.buffer.nRecvBufLen = 0) := by
  have code := link.socket.toConnect_code answers
  have buffer := link.socket.toConnect_buffer answers
  by_cases succeed : answers.Succeed
  · have zero := code.mpr succeed
    have connections : (link.connect answers sent).connections =
        ⟨sent, 0, []⟩ :: link.connections := by
      simp only [connect, zero, if_true]
    have tailNil : packetFormat.tail [] = [] := rfl
    constructor
    · rintro ⟨-, retained⟩ -
      rw [connections, unsplit, received_zero, tailNil] at retained
      rw [← buffer]
      exact retained.nRecvBufLen_eq
    · intro empty
      constructor
      · rw [connections]
        intro connection member
        rcases List.mem_cons.mp member with rfl | old
        · rw [Connection.Framed, received_zero]
          rfl
        · exact framing.framed connection old
      · rw [connections, unsplit, received_zero, tailNil]
        apply RecvBuffer.keeps_nil
        rw [← empty succeed, ← buffer]
        rfl
  · have notZero := code.not.mpr succeed
    have connections : (link.connect answers sent).connections =
        link.connections := by
      simp only [connect, notZero, if_false]
    constructor
    · intro _ succeeded
      exact absurd succeeded succeed
    · intro _
      refine ⟨connections ▸ framing.framed, ?_⟩
      rw [connections, connect]
      simp only [buffer]
      exact framing.retained

/-- Reading adds to the bytes of a connection. -/
theorem received_read (socket : ClientIOSocket) (connection : Connection)
    (amount : Nat) (packets : List Bytes) :
    Connection.received
        { connection with
          readCount := connection.readCount +
            (read socket connection amount).length
          asynRecived := packets } =
      connection.received ++ read socket connection amount := by
  have begins : read socket connection amount <+:
      connection.sent.bytes.drop connection.readCount := List.take_prefix _ _
  rw [Connection.received, List.take_add,
    ← List.prefix_iff_eq_take.mp begins]
  rfl

/-- A call of `recv` keeps the framing. -/
theorem receive_framing (host : Host) {connection : Connection}
    {earlier : List Connection} (amount : Nat)
    (latest : link.connections = connection :: earlier)
    (framing : Framing link) :
    ∃ next, link.receive host connection earlier amount = .ok next ∧
      Framing next := by
  obtain ⟨framed, retained⟩ := framing
  rw [latest] at framed retained
  have headers : packetFormat.HeadersSatisfy ClientIOSocket.Announceable
      (connection.received ++ read link.socket connection amount) := by
    have sent := connection.sent.headers
    rw [← List.take_append_drop (connection.readCount +
      (read link.socket connection amount).length)
        connection.sent.bytes] at sent
    rw [← received_read link.socket connection amount []]
    exact sent.beginning
  have fits : (read link.socket connection amount).length ≤
      link.socket.asked := by
    simp only [read, List.length_take]
    omega
  obtain ⟨buffer, packets, received, frames, keeps⟩ :=
    ClientIOSocket.recv_eq host retained fits headers
  refine ⟨_, by simp only [receive, received]; rfl, ?_, ?_⟩
  · intro other member
    rcases List.mem_cons.mp member with rfl | old
    · rw [Connection.Framed, received_read, frames]
      rw [framed connection (List.mem_cons_self)]
    · exact framed other (List.mem_cons_of_mem _ old)
  · rw [unsplit, received_read]
    exact keeps

/-- One callback keeps the framing exactly when it brings no connection up
while bytes wait in the buffer. -/
theorem step_exact (host : Host) (action : LinkAction)
    (framing : Framing link) :
    (∃ next, link.step host action = .ok next ∧ Framing next) ↔
      ConnectsAtBoundary link action := by
  have unchanged : ∃ next,
      (.ok link : Except RecvStop ClientLink) = .ok next ∧ Framing next :=
    ⟨link, rfl, framing⟩
  cases action with
  | toConnect answers sent =>
      simp only [step, ConnectsAtBoundary]
      split_ifs with first
      · simp only [Except.ok.injEq, exists_eq_left', first, forall_const]
        exact connect_framing_iff answers sent framing
      · simpa [first] using framing
  | reconnectCallback answers sent =>
      simp only [step, ConnectsAtBoundary]
      split_ifs with pending
      · simp only [Except.ok.injEq, exists_eq_left', pending, forall_const]
        exact connect_framing_iff answers sent
          ⟨framing.framed, framing.retained⟩
      · simpa [pending] using framing
  | readCallback amount =>
      simp only [step, ConnectsAtBoundary, iff_true]
      split
      · rename_i connection earlier enabled latest
        exact receive_framing host amount latest framing
      · exact unchanged
  | eventCallback events =>
      have buffer := link.socket.eventCallback_buffer events
      simp only [step, ConnectsAtBoundary, iff_true, Except.ok.injEq,
        exists_eq_left']
      exact ⟨framing.framed, buffer ▸ framing.retained⟩

/-- Over all its connections a link hands out the frames of each connection's
own bytes, and lets none of them wait for the next connection, if and only if
connections come up only when nothing waits in the buffer. -/
theorem framing_iff (host : Host) (recvBuf : Block maxBufferSize)
    (actions : List LinkAction) :
    HoldsThroughout (step host) Framing (start recvBuf) actions ↔
      MeetsAlong (step host) ConnectsAtBoundary (start recvBuf) actions := by
  apply holdsThroughout_iff
  · intro link action framing
    exact step_exact host action framing
  · exact ⟨by simp [start], RecvBuffer.keeps_nil rfl⟩

/-- Where connections come up only when nothing waits in the buffer, the
packets of every connection are the frames of its own bytes. -/
theorem framed_of_connectsAtBoundary (host : Host)
    (recvBuf : Block maxBufferSize) {actions : List LinkAction}
    (meets : MeetsAlong (step host) ConnectsAtBoundary (start recvBuf)
      actions) :
    HoldsThroughout (step host)
      (fun link => ∀ connection ∈ link.connections, connection.Framed)
      (start recvBuf) actions := by
  have framing : HoldsThroughout (step host) Framing (start recvBuf)
      actions := by
    refine holdsThroughout_of_meetsAlong ?_ ?_ meets
    · intro link action framing atBoundary
      exact (step_exact host action framing).mpr atBoundary
    · exact ⟨by simp [start], RecvBuffer.keeps_nil rfl⟩
  exact framing.imp fun _ isFraming => isFraming.framed

/-- Every call that `toConnect` makes succeeds. -/
def allSucceed : ConnectAnswers where
  socket := 3
  connect := 0
  nonblocking := 0
  bufferevent := true
  enable := 0

/-- A stream of one packet. -/
def onePacket (packet : Bytes)
    (single : packetFormat.greedySplit packet = ([packet], []))
    (announceable : ClientIOSocket.Announceable packet.length) :
    PacketStream where
  bytes := packet
  headers := by
    have noHead : packetFormat.announced [] = none := by decide
    constructor
    · simpa [Format.frames, single] using announceable
    · simp [Format.tail, single, noHead]

/-- A connection lost after two bytes of a packet, and another one with a
whole packet. -/
def lostInHead : List LinkAction :=
  [.toConnect allSucceed
      (onePacket [5, 0, 1, 0, 9] (by decide) ⟨by decide, by decide⟩),
    .readCallback 2,
    .eventCallback ClientIOSocket.eventEof,
    .reconnectCallback allSucceed
      (onePacket [4, 0, 1, 0] (by decide) ⟨by decide, by decide⟩),
    .readCallback 4]

/-- The two bytes of the lost connection become part of a packet of the
next. -/
theorem framing_lostInHead :
    ¬ HoldsThroughout (step .little)
      (fun link => ∀ connection ∈ link.connections, connection.Framed)
      (start (Block.zero maxBufferSize)) lostInHead := by
  intro holds
  obtain ⟨final, ran, framed⟩ := holds lostInHead [] (by simp)
  have mixed :
      (match runActions (step .little) (start (Block.zero maxBufferSize))
          lostInHead with
        | .ok link =>
            link.connections.all fun connection => decide connection.Framed
        | .error _ => true) = false := by
    decide +kernel
  rw [ran] at mixed
  simp only [List.all_eq_false] at mixed
  obtain ⟨connection, member, notFramed⟩ := mixed
  exact notFramed (decide_eq_true (framed connection member))

end ClientLink

end EchoServer
