import EchoServer.BufferedSending
import EchoServer.ServerIOSocket

/-!
# The server's sending

`ServerSocketIOThread::pairCallback` and the sending side of
`ServerIOSocket.cpp`.  A `send_buf` package goes into the send buffer of the
socket that it names; the sockets whose buffers are to be sent are listed in
`needSendList`, and their buffers are sent behind the loop.  A `close` package
destroys its socket at once.
-/

namespace EchoServer

open ByteOrder DispatchLoop FaultingComputation

/-- What goes wrong: a destroyed socket is used, a copy leaves the send
buffer, or there is no bufferevent. -/
inductive SendFault
  | destroyedSocket (socket : Nat)
  | outOfBounds
  | nullBufferevent
  deriving DecidableEq

/-- The fields of `ServerIOSocket` on the sending side, with the bytes that
`toSend` has passed on, call by call.  On a websocket each call puts its bytes
into a frame of their own. -/
structure ServerSender where
  status : IOSocketStatus
  nWebSocketFlag : WebSocketFlag
  sendBuf : SendBuffer maxBufferSize
  passedOn : List Bytes
  destroyed : Bool

/-- A `threadPackage` for a socket that exists already. -/
inductive SocketPackage
  | sendBuf (buf : Bytes)
  | close
  deriving DecidableEq

namespace ServerSender

/-- A socket when the `accept` branch of `pairCallback` is done with it. -/
def accepted : ServerSender where
  status := .connected
  nWebSocketFlag := .wfUnknown
  sendBuf := { block := .zero _, used := 0, used_lt := by decide }
  passedOn := []
  destroyed := false

/-- `wsLenAdd` in `expandSendBuf`. -/
def wsLenAdd (sender : ServerSender) : Nat :=
  match sender.nWebSocketFlag with
  | .isWebSocket _ => 10
  | _ => 0

/-- `ServerIOSocket::toSend`; `consumeSendBuf` ignores the code that it
returns. -/
def toSend (buf : Bytes) (sender : ServerSender) : ServerSender :=
  if sender.status ≠ .connected then sender
  else { sender with passedOn := sender.passedOn ++ [buf] }

/-- `ServerIOSocket::hadSendBufData`. -/
def hadSendBufData (sender : ServerSender) : Bool :=
  0 < sender.sendBuf.used

/-- `ServerIOSocket::expandSendBuf`; nothing if it returns `false`. -/
def expandSendBuf (buf : Bytes) (sender : ServerSender) :
    Except SendFault (Option ServerSender) :=
  match sender.sendBuf.expand sender.wsLenAdd buf with
  | .expanded sendBuf => .ok (some { sender with sendBuf })
  | .full => .ok none
  | .outOfBounds => .error .outOfBounds

/-- `ServerIOSocket::consumeSendBuf`. -/
def consumeSendBuf (sender : ServerSender) : ServerSender :=
  if sender.hadSendBufData then
    { sender.toSend sender.sendBuf.contents with
      sendBuf := sender.sendBuf.clear }
  else
    sender

/-- `ServerIOSocket::toClose`. -/
def toClose (sender : ServerSender) : ServerSender :=
  { sender with status := .closed }

/-- The operations on the send buffer. -/
def collector : Collector SendFault ServerSender where
  expand := expandSendBuf
  hasData := hadSendBufData
  consume sender := .ok sender.consumeSendBuf

/-- The branches of `ServerSocketIOThread::pairCallback`, with whether the
socket goes into `needSendList`. -/
def deal (package : SocketPackage) (sender : ServerSender) :
    Except SendFault (ServerSender × Bool) :=
  match package with
  | .sendBuf buf => collector.collect buf sender
  | .close => .ok ({ sender.toClose with destroyed := true }, false)

/-- `ServerSocketIOThread::pairCallback` on the packages for its sockets. -/
def pairCallback : DispatchLoop SendFault SocketPackage ServerSender where
  usable sender := !sender.destroyed
  dangling := .destroyedSocket
  deal := deal
  visit := collector.empty

/-- The bytes that wait and those passed on. -/
def line (sender : ServerSender) : Line where
  capacity := maxBufferSize
  reserve := sender.wsLenAdd
  passes := decide (sender.status = .connected)
  waiting := sender.sendBuf.contents
  sent := sender.passedOn.flatten

/-- The socket exists. -/
def Live (sender : ServerSender) : Prop :=
  sender.destroyed = false

variable {sender : ServerSender} {buf : Bytes}

theorem hadSendBufData_eq_false (sender : ServerSender) :
    sender.hadSendBufData = false ↔ sender.sendBuf.contents = [] := by
  rw [SendBuffer.contents_eq_nil, hadSendBufData, decide_eq_false_iff_not,
    Nat.not_lt, Nat.le_zero]

@[simp]
theorem line_waiting_length (sender : ServerSender) :
    sender.line.waiting.length = sender.sendBuf.used :=
  sender.sendBuf.contents_length

/-- Nothing waits in a buffer without bytes. -/
theorem line_waiting_eq_nil (sender : ServerSender) :
    sender.line.waiting = [] ↔ sender.sendBuf.used = 0 :=
  sender.sendBuf.contents_eq_nil

theorem wsLenAdd_le (sender : ServerSender) : sender.wsLenAdd ≤ 10 := by
  rw [wsLenAdd]
  split <;> decide

theorem consumeSendBuf_destroyed (sender : ServerSender) :
    sender.consumeSendBuf.destroyed = sender.destroyed := by
  rw [consumeSendBuf, toSend]
  split_ifs <;> rfl

/-- `consumeSendBuf` empties the buffer, and passes on what was in it if the
socket is connected. -/
theorem consumeSendBuf_line (sender : ServerSender) :
    sender.consumeSendBuf.line = sender.line.flush := by
  rw [consumeSendBuf, toSend]
  split_ifs with hadData unconnected
  · simp [line, Line.flush, unconnected, wsLenAdd]
  · simp only [ne_eq, not_not] at unconnected
    simp [line, Line.flush, unconnected, wsLenAdd]
  · have empty := (hadSendBufData_eq_false sender).mp
      (Bool.eq_false_iff.mpr hadData)
    simp [line, Line.flush, empty]

theorem expandSendBuf_fits (within : ¬ sender.line.Wraps buf)
    (fits : sender.line.Fits buf) :
    ∃ sender', sender.expandSendBuf buf = .ok (some sender') ∧
      sender'.line =
        { sender.line with waiting := sender.line.waiting ++ buf } ∧
      sender'.destroyed = sender.destroyed := by
  simp only [Line.Wraps, Line.Fits, line_waiting_length] at within fits
  obtain ⟨sendBuf, expanded, contents⟩ :=
    SendBuffer.expand_fits (Nat.not_le.mp within) fits
  refine ⟨{ sender with sendBuf }, ?_, ?_, rfl⟩
  · rw [expandSendBuf]
    simp only [line] at expanded
    rw [expanded]
  · simp [line, contents, wsLenAdd]

theorem expandSendBuf_full (within : ¬ sender.line.Wraps buf)
    (full : ¬ sender.line.Fits buf) :
    sender.expandSendBuf buf = .ok none := by
  simp only [Line.Wraps, Line.Fits, line_waiting_length] at within full
  have refused := SendBuffer.expand_full (Nat.not_le.mp within)
    (Nat.not_lt.mp full)
  simp only [line] at refused
  rw [expandSendBuf, refused]

theorem collector_follows : collector.Follows line Live where
  fits sender buf live within fits := by
    obtain ⟨sender', expanded, appended, destroyed⟩ :=
      expandSendBuf_fits within fits
    exact ⟨sender', expanded, appended, destroyed.trans live⟩
  full sender buf _ := expandSendBuf_full
  hasData := hadSendBufData_eq_false
  consume sender live :=
    ⟨sender.consumeSendBuf, rfl, sender.consumeSendBuf_line,
      sender.consumeSendBuf_destroyed.trans live⟩

theorem pairCallback_usable :
    pairCallback.usable sender = true ↔ sender.Live := by
  change (!sender.destroyed) = true ↔ sender.Live
  rw [Bool.not_eq_true', Live]

/-- `pairCallback` follows the lines of the sockets. -/
theorem pairCallback_buffering :
    Buffering pairCallback SocketPackage.sendBuf line Live where
  usable _ := pairCallback_usable.mpr
  deal _ _ := collector_follows.collect
  visit _ := collector_follows.empty

/-- A package whose length wraps around in `expandSendBuf` is copied out of
bounds. -/
theorem deal_wraps (isWord : buf.length < 2 ^ 32)
    (wraps : sender.line.Wraps buf) :
    deal (.sendBuf buf) sender = .error .outOfBounds := by
  have reserve := sender.wsLenAdd_le
  simp only [Line.Wraps, line_waiting_length] at wraps
  have outcome : sender.sendBuf.expand sender.wsLenAdd buf = .outOfBounds ∨
      sender.sendBuf.expand sender.wsLenAdd buf = .full ∧
        ∀ emptied : SendBuffer maxBufferSize, emptied.used = 0 →
          emptied.expand sender.wsLenAdd buf = .outOfBounds :=
    SendBuffer.expand_wraps (by simp only [maxBufferSize]; omega)
      (by simp only [maxBufferSize]; omega) isWord wraps
  obtain outOfBounds | ⟨full, again⟩ := outcome
  · have fails : collector.expand buf sender = .error .outOfBounds := by
      change expandSendBuf buf sender = .error .outOfBounds
      rw [expandSendBuf, outOfBounds]
    rw [deal, Collector.collect, fails]
    rfl
  · have refused : collector.expand buf sender = .ok none := by
      change expandSendBuf buf sender = .ok none
      rw [expandSendBuf, full]
    have consumed : collector.consume sender = .ok sender.consumeSendBuf := rfl
    have sameReserve : sender.consumeSendBuf.wsLenAdd = sender.wsLenAdd :=
      congrArg Line.reserve sender.consumeSendBuf_line
    have empty : sender.consumeSendBuf.sendBuf.used = 0 :=
      (line_waiting_eq_nil _).mp
        (congrArg Line.waiting sender.consumeSendBuf_line)
    have fails : collector.expand buf sender.consumeSendBuf =
        .error .outOfBounds := by
      change expandSendBuf buf sender.consumeSendBuf = .error .outOfBounds
      rw [expandSendBuf, sameReserve, again _ empty]
    rw [deal, Collector.collect, refused]
    dsimp only [bind, Except.bind]
    rw [consumed]
    dsimp only
    rw [fails]

/-- A package leaves an empty buffer empty, or lists its socket. -/
theorem deal_empty {package : SocketPackage} {sender' : ServerSender}
    {listed : Bool} (dealt : deal package sender = .ok (sender', listed))
    (empty : sender.sendBuf.used = 0) :
    sender'.sendBuf.used = 0 ∨ listed = true := by
  cases package with
  | close =>
      cases dealt
      exact .inl empty
  | sendBuf buf =>
      have nothing : sender.hadSendBufData = false :=
        (hadSendBufData_eq_false sender).mpr
          (sender.line_waiting_eq_nil.mpr empty)
      have unchanged : sender.consumeSendBuf = sender := by
        rw [consumeSendBuf, if_neg (Bool.eq_false_iff.mp nothing)]
      obtain ⟨expansion, expanded, dealt⟩ := bind_ok dealt
      cases expansion with
      | some expandedSender =>
          cases dealt
          exact .inr rfl
      | none =>
          obtain ⟨consumed, consumedEq, dealt⟩ := bind_ok dealt
          obtain rfl : sender = consumed := by
            rw [← unchanged]
            exact Except.ok.inj consumedEq
          rw [expanded] at dealt
          cases dealt
          exact .inl empty

theorem serveAll_empty {name : Nat} {packages : List SocketPackage}
    {state result : ServerSender × Bool}
    (served : pairCallback.serveAll name packages state = .ok result)
    (empty : state.1.sendBuf.used = 0 ∨ state.2 = true) :
    result.1.sendBuf.used = 0 ∨ result.2 = true := by
  induction packages generalizing state with
  | nil =>
      cases served
      exact empty
  | cons package packages ih =>
      obtain ⟨middle, first, rest⟩ := bind_ok served
      apply ih rest
      rw [serveOne] at first
      split_ifs at first
      cases dealt : pairCallback.deal package state.1 with
      | error fault =>
          rw [dealt] at first
          cases first
      | ok outcome =>
          rw [dealt] at first
          cases first
          obtain isEmpty | isListed := empty
          · obtain stillEmpty | listed := deal_empty dealt isEmpty
            · exact .inl stillEmpty
            · exact .inr (by simp [listed])
          · exact .inr (by simp [isListed])

/-- Whatever the packages, an empty buffer is empty again when `pairCallback`
returns. -/
theorem run_empty {batch : List (Nat × SocketPackage)}
    {sockets after : List ServerSender} {name : Nat}
    (ran : pairCallback.run batch sockets = .ok after)
    (found : sockets[name]? = some sender)
    (empty : sender.sendBuf.used = 0) :
    ∃ final, after[name]? = some final ∧ final.sendBuf.used = 0 := by
  obtain ⟨desk, dealt, visited⟩ := bind_ok ran
  obtain ⟨sender', found', served⟩ := dealAll_project dealt found
  have settles : ∀ socket ∈ desk.list, ∃ object object' : ServerSender,
      desk.objects[socket]? = some object ∧
        pairCallback.Settles object object' := by
    intro socket onList
    obtain ⟨object, objectFound, usable⟩ := visitAll_usable visited onList
    have live : object.Live := pairCallback_usable.mp usable
    obtain ⟨object', isSettled, -⟩ := pairCallback_buffering.settles live
    exact ⟨object, object', objectFound, isSettled⟩
  obtain ⟨after', visited', outcome⟩ := visitAll_settles settles
  rw [visited] at visited'
  obtain rfl := Except.ok.inj visited'
  obtain ⟨final, finalFound, visits, untouched⟩ :=
    outcome name sender' found'
  refine ⟨final, finalFound, ?_⟩
  by_cases onList : name ∈ desk.list
  · obtain ⟨object, objectFound, usable⟩ := visitAll_usable visited onList
    rw [found'] at objectFound
    obtain rfl := Option.some.inj objectFound
    have live : sender'.Live := pairCallback_usable.mp usable
    obtain ⟨emptied, visit, -, flushed, -⟩ :=
      pairCallback_buffering.visit sender' live
    rw [visits onList] at visit
    obtain rfl := Except.ok.inj visit
    exact (line_waiting_eq_nil _).mp (congrArg Line.waiting flushed)
  · rw [untouched onList]
    obtain isEmpty | isListed := serveAll_empty served (.inl empty)
    · exact isEmpty
    · exact absurd (of_decide_eq_true isListed) onList

end ServerSender

end EchoServer
