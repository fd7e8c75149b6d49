import EchoServer.Reception

/-!
# The client's connection

`ClientIOSocket.cpp`: the receiving side of a connection that a client opens
and opens again when it is lost.
-/

namespace EchoServer

open ByteOrder Framing

/-- `bufferevent* _pBev`, with whether `bufferevent_enable` succeeded on it. -/
inductive ClientBufferevent
  | null
  | disabled
  | enabled
  deriving DecidableEq

/-- A `threadPackage` that a `ClientIOSocket` queues for the `ClientSocket`,
naming itself. -/
inductive ClientPackage
  | connectEnd (flag : Int)
  | recvBuf (buf : Bytes)
  | close
  deriving DecidableEq

/-- What the calls that `toConnect` makes return; for
`bufferevent_socket_new`, whether it is a bufferevent. -/
structure ConnectAnswers where
  socket : Int
  connect : Int
  nonblocking : Int
  bufferevent : Bool
  enable : Int
  deriving DecidableEq

/-- Every call succeeds.  The descriptor is kept as an unsigned number, so
only zero counts as a failure. -/
def ConnectAnswers.Succeed (answers : ConnectAnswers) : Prop :=
  ¬ UInt64.ofInt answers.socket ≤ 0 ∧ answers.connect ≠ -1 ∧
    answers.nonblocking ≠ -1 ∧ answers.bufferevent = true ∧
    ¬ answers.enable < 0

/-- The fields of `ClientIOSocket` on the receiving side.  `reConnPending`
tells whether the timer `_pReConnEvent` is waiting to fire. -/
structure ClientIOSocket where
  nStatus : IOSocketStatus
  nFd : UInt64
  bev : ClientBufferevent
  reConnPending : Bool
  buffer : RecvBuffer

namespace ClientIOSocket

/-- `ClientIOSocket::ClientIOSocket`; the block for `_pRecvBuf` comes from the
allocator. -/
def new (recvBuf : Block maxBufferSize) : ClientIOSocket where
  nStatus := .unconnected
  nFd := -1
  bev := .null
  reConnPending := false
  buffer := { recvBuf, nRecvBufLen := 0 }

/-- `ClientIOSocket::toReConnect`. -/
def toReConnect (socket : ClientIOSocket) : ClientIOSocket :=
  { socket with reConnPending := true }

/-- `ClientIOSocket::toConnect`: the code returned, the socket, and the
packages queued. -/
def toConnect (answers : ConnectAnswers) (socket : ClientIOSocket) :
    Int × ClientIOSocket × List ClientPackage :=
  let socket :=
    { socket with
      nStatus := .waitConnect
      nFd := UInt64.ofInt answers.socket }
  if socket.nFd ≤ 0 then
    (-1, socket, [])
  else if answers.connect = -1 then
    (-1, socket.toReConnect, [.close])
  else if answers.nonblocking = -1 then
    (-1, socket.toReConnect, [.close])
  else if ¬ answers.bufferevent then
    (-1, { socket with bev := .null }, [])
  else if answers.enable < 0 then
    (-1, { socket with bev := .disabled }, [])
  else
    (0, { socket with bev := .enabled }, [.connectEnd 0])

/-- `BEV_EVENT_EOF`, `BEV_EVENT_ERROR` and `BEV_EVENT_TIMEOUT`. -/
def eventEof : UInt16 := 0x10
def eventError : UInt16 := 0x20
def eventTimeout : UInt16 := 0x40

/-- `ClientIOSocket::eventCallback`.  Its three branches for a lost connection
differ in what they log. -/
def eventCallback (events : UInt16) (socket : ClientIOSocket) :
    ClientIOSocket × List ClientPackage :=
  if events &&& eventTimeout ≠ 0 ∨ events &&& eventError ≠ 0 ∨
      events &&& eventEof ≠ 0 then
    ({ socket with nStatus := .waitConnect }.toReConnect, [.close])
  else
    (socket, [])

/-- The bytes `recv` asks `bufferevent_read` for. -/
def asked (socket : ClientIOSocket) : Nat :=
  maxBufferSize - socket.buffer.nRecvBufLen

/-- `int(_nRecvBufLen - tmpIndex) < HEADLEN`. -/
def stops (remaining : Int) : Bool :=
  decide (remaining < headLen)

/-- `ClientIOSocket::recv` when `bufferevent_read` returns the given bytes:
the code returned, the socket, and the packets handed to `asynRecive`. -/
def recv (host : Host) (read : Bytes) (socket : ClientIOSocket) :
    Except RecvStop (Int × ClientIOSocket × List Bytes) :=
  if socket.asked < read.length then
    .error .outOfBounds
  else
    let buffer := socket.buffer.append read
    -- `bis.attach(_pRecvBuf + tmpIndex, HEADLEN)`
    match buffer.extract host stops
        (fun tmpIndex => buffer.recvBuf.slice tmpIndex headLen) with
    | .error stop => .error stop
    | .ok (buffer, packets) => .ok (0, { socket with buffer }, packets)

/-- The lengths a header may announce. -/
def Announceable (size : Nat) : Prop :=
  headLen ≤ size ∧ size ≤ maxBufferSize

/-- The client's loop looks for heads at packet boundaries. -/
theorem follows_packetFormat (host : Host) {buffer : RecvBuffer}
    (within : buffer.nRecvBufLen ≤ maxBufferSize) :
    buffer.Follows packetFormat
      (buffer.extractPass host stops
        (fun tmpIndex => buffer.recvBuf.slice tmpIndex headLen)) := by
  intro extraction reached positive
  have leftLength :
      (buffer.retained.drop extraction.tmpIndex).length =
        buffer.nRecvBufLen - extraction.tmpIndex := by
    rw [List.length_drop, RecvBuffer.retained_length within]
  by_cases enough :
      headLen ≤ buffer.nRecvBufLen - extraction.tmpIndex
  · have windowEq := RecvBuffer.slice_eq_retained
      (show extraction.tmpIndex + headLen ≤ buffer.nRecvBufLen by
        simp only [headLen] at enough ⊢; omega)
    obtain ⟨head, parsed, lenEq⟩ := parseHead_len host
      ((buffer.retained.drop extraction.tmpIndex).take headLen)
      (by rw [List.length_take, leftLength]; omega)
    rw [List.take_take, Nat.min_eq_left (by decide)] at lenEq
    have announcement : packetFormat.announced
        (buffer.retained.drop extraction.tmpIndex) =
          some head.len.toNat := by
      simp only [packetFormat, leftLength, enough, if_true, lenEq]
    rw [← windowEq] at parsed
    apply RecvBuffer.extractPass_parsed within reached parsed announcement
      (positive _ announcement)
    intro fits
    exact decide_eq_false (by omega)
  · have remaining := intDiff_eq reached
      (by simp only [maxBufferSize] at within; omega)
    have noHead : packetFormat.announced
        (buffer.retained.drop extraction.tmpIndex) = none := by
      simp only [packetFormat, leftLength, enough, if_false]
    have stopped : ((buffer.nRecvBufLen - extraction.tmpIndex : Nat) :
        Int) < headLen := by omega
    simp only [RecvBuffer.extractPass, stops, remaining, stopped,
      decide_true, if_true, Format.firstFrame, noHead]

/-- One call of `recv` on a buffer that holds the unsplit tail of what was
received hands out the packets that become complete. -/
theorem recv_eq (host : Host) {socket : ClientIOSocket}
    {received read : Bytes}
    (keeps : socket.buffer.Keeps (packetFormat.tail received))
    (fits : read.length ≤ socket.asked)
    (headers : packetFormat.HeadersSatisfy Announceable
      (received ++ read)) :
    ∃ buffer packets,
      recv host read socket = .ok (0, { socket with buffer }, packets) ∧
        packetFormat.frames (received ++ read) =
          packetFormat.frames received ++ packets ∧
        buffer.Keeps (packetFormat.tail (received ++ read)) := by
  have room : socket.buffer.nRecvBufLen + read.length ≤ maxBufferSize := by
    have := keeps.1
    simp only [asked] at fits
    omega
  have appended := keeps.append room
  have positive : packetFormat.HeadersSatisfy (0 < ·)
      (packetFormat.tail received ++ read) := by
    apply headers.behind.imp
    rintro size ⟨atLeastHead, -⟩
    simp only [headLen] at atLeastHead
    omega
  obtain ⟨after, extracted, kept⟩ := RecvBuffer.extract_follows
    (follows_packetFormat host appended.1) appended.1
    (appended.2.symm ▸ positive)
  rw [appended.2] at extracted kept
  refine ⟨after, _, ?_, Format.frames_append received read, ?_⟩
  · simp only [recv, Nat.not_lt.mpr fits, if_false, extracted]
  · rw [Format.tail_append]
    exact kept

theorem toConnect_code (answers : ConnectAnswers)
    (socket : ClientIOSocket) :
    (socket.toConnect answers).1 = 0 ↔ answers.Succeed := by
  simp only [toConnect, ConnectAnswers.Succeed]
  split_ifs <;> simp_all

/-- No call of `toConnect` touches the receive buffer. -/
theorem toConnect_buffer (answers : ConnectAnswers)
    (socket : ClientIOSocket) :
    (socket.toConnect answers).2.1.buffer = socket.buffer := by
  simp only [toConnect]
  split_ifs <;> rfl

theorem eventCallback_buffer (events : UInt16) (socket : ClientIOSocket) :
    (socket.eventCallback events).1.buffer = socket.buffer := by
  simp only [eventCallback]
  split_ifs <;> rfl

end ClientIOSocket

end EchoServer
