import EchoServer.ClientIOSocket
import EchoServer.ServerSending

/-!
# The client's sending

`ClientSocketIOThread::pairCallback` and the sending side of
`ClientIOSocket.cpp`.  Here sockets are not destroyed, there is no websocket,
and `toSend` does not look at the status.
-/

namespace EchoServer

open ByteOrder

/-- The fields of `ClientIOSocket` on the sending side, with the bytes that
`toSend` has passed on, call by call. -/
structure ClientSender where
  bev : ClientBufferevent
  sendBuf : SendBuffer maxBufferSize
  passedOn : List Bytes

namespace ClientSender

/-- `ClientIOSocket::toSend`. -/
def toSend (buf : Bytes) (sender : ClientSender) :
    Except SendFault ClientSender :=
  match sender.bev with
  | .null => .error .nullBufferevent
  | _ => .ok { sender with passedOn := sender.passedOn ++ [buf] }

/-- `ClientIOSocket::hadSendBufData`. -/
def hadSendBufData (sender : ClientSender) : Bool :=
  0 < sender.sendBuf.used

/-- `ClientIOSocket::expandSendBuf`; nothing if it returns `false`. -/
def expandSendBuf (buf : Bytes) (sender : ClientSender) :
    Except SendFault (Option ClientSender) :=
  match sender.sendBuf.expand 0 buf with
  | .expanded sendBuf => .ok (some { sender with sendBuf })
  | .full => .ok none
  | .outOfBounds => .error .outOfBounds

/-- `ClientIOSocket::consumeSendBuf`. -/
def consumeSendBuf (sender : ClientSender) :
    Except SendFault ClientSender :=
  if sender.hadSendBufData then do
    let sender ← sender.toSend sender.sendBuf.contents
    return { sender with sendBuf := sender.sendBuf.clear }
  else
    .ok sender

/-- The operations on the send buffer. -/
def collector : Collector SendFault ClientSender where
  expand := expandSendBuf
  hasData := hadSendBufData
  consume := consumeSendBuf

/-- `ClientSocketIOThread::pairCallback` on `send_buf` packages. -/
def pairCallback : DispatchLoop SendFault Bytes ClientSender where
  usable _ := true
  dangling := .destroyedSocket
  deal := collector.collect
  visit := collector.empty

/-- The bytes that wait and those passed on. -/
def line (sender : ClientSender) : Line where
  capacity := maxBufferSize
  reserve := 0
  passes := true
  waiting := sender.sendBuf.contents
  sent := sender.passedOn.flatten

/-- The socket has a bufferevent. -/
def Live (sender : ClientSender) : Prop :=
  sender.bev ≠ .null

variable {sender : ClientSender} {buf : Bytes}

theorem toSend_live (live : sender.Live) :
    sender.toSend buf =
      .ok { sender with passedOn := sender.passedOn ++ [buf] } := by
  rw [toSend]
  cases bev : sender.bev with
  | null => exact absurd bev live
  | disabled => rfl
  | enabled => rfl

theorem hadSendBufData_eq_false (sender : ClientSender) :
    sender.hadSendBufData = false ↔ sender.sendBuf.contents = [] := by
  rw [SendBuffer.contents_eq_nil, hadSendBufData, decide_eq_false_iff_not,
    Nat.not_lt, Nat.le_zero]

@[simp]
theorem line_waiting_length (sender : ClientSender) :
    sender.line.waiting.length = sender.sendBuf.used :=
  sender.sendBuf.contents_length

theorem line_waiting_eq_nil (sender : ClientSender) :
    sender.line.waiting = [] ↔ sender.sendBuf.used = 0 :=
  sender.sendBuf.contents_eq_nil

theorem consumeSendBuf_live (live : sender.Live) :
    ∃ sender', sender.consumeSendBuf = .ok sender' ∧
      sender'.line = sender.line.flush ∧ sender'.Live := by
  rw [consumeSendBuf, toSend_live live]
  split_ifs with hadData
  · refine ⟨_, rfl, ?_, live⟩
    simp [line, Line.flush]
  · have empty := (hadSendBufData_eq_false sender).mp
      (Bool.eq_false_iff.mpr hadData)
    refine ⟨sender, rfl, ?_, live⟩
    simp [line, Line.flush, empty]

theorem collector_follows : collector.Follows line Live where
  fits sender buf live within fits := by
    simp only [Line.Wraps, Line.Fits, line_waiting_length] at within fits
    obtain ⟨sendBuf, expanded, contents⟩ :=
      SendBuffer.expand_fits (Nat.not_le.mp within) fits
    refine ⟨{ sender with sendBuf }, ?_, ?_, live⟩
    · change expandSendBuf buf sender = _
      simp only [line] at expanded
      rw [expandSendBuf, expanded]
    · simp [line, contents]
  full sender buf live within full := by
    simp only [Line.Wraps, Line.Fits, line_waiting_length] at within full
    have refused := SendBuffer.expand_full (Nat.not_le.mp within)
      (Nat.not_lt.mp full)
    change expandSendBuf buf sender = _
    simp only [line] at refused
    rw [expandSendBuf, refused]
  hasData := hadSendBufData_eq_false
  consume _ := consumeSendBuf_live

/-- `pairCallback` follows the lines of the sockets. -/
theorem pairCallback_buffering : Buffering pairCallback id line Live where
  usable _ _ := rfl
  deal _ _ := collector_follows.collect
  visit _ := collector_follows.empty

end ClientSender

end EchoServer
