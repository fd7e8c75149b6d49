import EchoServer.LabelledRun
import EchoServer.WebSocketFrame
import EchoServer.WebSocketHandShake

/-!
# The upgrade to a websocket, read in pieces

Whether a connection is a websocket is decided once, on the bytes of its first
read, and what that read holds behind the request is lost.  Later reads are
taken as frames, one frame a read.  So the upgrade succeeds if the first read
holds the key and ends within the request, and every read behind the request
starts where a frame starts and ends within it.
-/

namespace EchoServer

open ByteOrder LabelledRun

/-- The bytes of a request with a key. -/
def requestBytes (before key after : Bytes) : Bytes :=
  before ++ keyName ++ text ": " ++ key ++ after

/-- A request for an upgrade: it starts with `GET`, has a line that holds the
key, and ends with an empty line. -/
structure UpgradeRequest where
  before : Bytes
  key : Bytes
  after : Bytes
  startsWithGet : getText <+: before
  startsLine : text "\r\n" <:+ before
  key_length : key.length = 24
  endsLine : text "\r\n" <+: after
  endsBlank : text "\r\n\r\n" <:+ requestBytes before key after
  noZero : ∀ byte ∈ requestBytes before key after, byte ≠ 0
  short : (requestBytes before key after).length < maxBufferSize

namespace UpgradeRequest

def bytes (request : UpgradeRequest) : Bytes :=
  requestBytes request.before request.key request.after

/-- Where the key ends. -/
def keyEnd (request : UpgradeRequest) : Nat :=
  request.before.length + 19 + 24

/-- The name of the field does not occur in front of the field. -/
def NameFirst (request : UpgradeRequest) : Prop :=
  ∀ place < request.before.length,
    ¬ keyName <+: request.bytes.drop place

instance (request : UpgradeRequest) : Decidable request.NameFirst :=
  inferInstanceAs (Decidable (∀ _, _))

/-- The answer to the request. -/
def answer (sha1 : Bytes → Digest) (request : UpgradeRequest) : Bytes :=
  (switchingProtocols (acceptKey sha1 request.key)).bytes

end UpgradeRequest

/-- A masked binary frame with a payload of any length. -/
structure ClientFrame where
  fin : Bool
  key : WebSocketProtocol.MaskingKey
  payload : Bytes

namespace ClientFrame

def bytes (frame : ClientFrame) : Bytes :=
  (WebSocketProtocol.clientFrame frame.fin frame.key frame.payload).encode

/-- The bytes of frames. -/
def wire (frames : List ClientFrame) : Bytes :=
  (frames.map bytes).flatten

/-- The places where frames start if the first one starts at `place`. -/
def starts : Nat → List ClientFrame → List Nat
  | _, [] => []
  | place, frame :: frames =>
      place :: starts (place + frame.bytes.length) frames

end ClientFrame

/-- What became of the bytes of a read: the place of the first of them in the
stream, their number, and how many were taken as a frame.  The others were
dropped, or taken as plain data. -/
structure ReadFate where
  start : Nat
  length : Nat
  framed : Nat

/-- A socket, the bytes that it has not read yet, the number of those that it
has, what became of them, and what it has written. -/
structure UpgradeState where
  socket : ServerIOSocket
  incoming : Bytes
  received : Nat
  fates : List ReadFate
  written : List Bytes

/-- The length of the frame that a read starts, with its head, as the code
takes it from `_tmpBuf`. -/
def framedLength (tmpBuf : Block maxWsTmpBufferSize) (read : Bytes) : Nat :=
  let length := payloadLength (frameBuffer tmpBuf read)
  1 + length.playloadByteNum + 4 + length.len

namespace ServerIOSocket

/-- The call of `doWebSocketHandShake` in `recv`, if there is one: what it
returns and what it writes. -/
def handShake (host : Host) (sha1 : Bytes → Digest)
    (buffereventWrite : Bytes → Int) (read : Bytes)
    (socket : ServerIOSocket) : Except RecvStop (Bool × List Bytes) :=
  let recvBuf :=
    socket.buffer.recvBuf.overwrite socket.buffer.nRecvBufLen read
  match socket.nWebSocketFlag with
  | .wfUnknown =>
      if socket.status = .connected ∧ getText <:+: cString recvBuf.bytes then
        doWebSocketHandShake host sha1 buffereventWrite recvBuf.bytes socket
      else
        .ok (false, [])
  | _ => .ok (false, [])

/-- The number of bytes at the start of a read that `recv` takes as a
frame. -/
def framed (read : Bytes) (socket : ServerIOSocket) : Nat :=
  match socket.nWebSocketFlag with
  | .isWebSocket tmpBuf =>
      let removal :=
        removeWebSocketHead (frameBuffer tmpBuf read) socket.status
      if socket.status = .connected ∧ removal.accepted then
        min read.length (framedLength tmpBuf read)
      else 0
  | _ => 0

end ServerIOSocket

namespace UpgradeState

variable (host : Host) (sha1 : Bytes → Digest)
variable (buffereventWrite : Bytes → Int)

/-- A new connection. -/
def start (incoming : Bytes) : UpgradeState where
  socket :=
    { status := .connected
      nWebSocketFlag := .wfUnknown
      buffer := ⟨Block.zero maxBufferSize, 0⟩ }
  incoming := incoming
  received := 0
  fates := []
  written := []

/-- The bytes that the next read finds. -/
def read (amount : Nat) (state : UpgradeState) : Bytes :=
  state.incoming.take (min amount state.socket.asked)

/-- One read callback. -/
def step (state : UpgradeState) (amount : Nat) :
    Except RecvStop UpgradeState :=
  let bytes := state.read amount
  match state.socket.handShake host sha1 buffereventWrite bytes with
  | .error stop => .error stop
  | .ok (answered, written) =>
      match state.socket.recv host (fun _ => answered) bytes with
      | .error stop => .error stop
      | .ok (_, socket, _) =>
          .ok
            { socket
              incoming := state.incoming.drop bytes.length
              received := state.received + bytes.length
              fates := state.fates ++
                [⟨state.received, bytes.length, state.socket.framed bytes⟩]
              written := state.written ++ written }

/-- Once the request has been read the socket is a websocket and has answered
it once; and a read that reaches behind the request starts where a frame
starts and is taken as a frame. -/
def Upgrades (request : UpgradeRequest) (frames : List ClientFrame)
    (state : UpgradeState) : Prop :=
  (request.bytes.length ≤ state.received →
    (∃ tmpBuf, state.socket.nWebSocketFlag = .isWebSocket tmpBuf) ∧
      state.written = [request.answer sha1]) ∧
  ∀ fate ∈ state.fates, 0 < fate.length →
    request.bytes.length < fate.start + fate.length →
      fate.start ∈ ClientFrame.starts request.bytes.length frames ∧
        fate.length ≤ fate.framed

/-- `recv` returns from a read of a websocket: the copies stay inside their
objects, and the head in front of the retained and the new bytes does not
announce an empty packet. -/
def Returns (tmpBuf : Block maxWsTmpBufferSize) (read : Bytes)
    (socket : ServerIOSocket) : Prop :=
  let removal :=
    removeWebSocketHead (frameBuffer tmpBuf read) socket.status
  let data := removal.buf.slice 0 removal.len
  socket.status = .connected →
    (∀ access ∈ removal.reads ++ removal.writes, access.Inside) ∧
      (removal.accepted = true →
        socket.buffer.nRecvBufLen + removal.len ≤ maxBufferSize ∧
          ServerIOSocket.uniformLength data.length
            (socket.buffer.retained ++ data) ≠ some 0)

instance (tmpBuf : Block maxWsTmpBufferSize) (read : Bytes)
    (socket : ServerIOSocket) : Decidable (Returns tmpBuf read socket) :=
  inferInstanceAs (Decidable (_ → _ ∧ (_ → _ ∧ _)))

/-- The condition on a read.  The first one ends behind the key and within the
request; one that reaches behind the request starts where a frame starts, on a
connected socket, and stays within that frame. -/
def SuitsAs (request : UpgradeRequest) (frames : List ClientFrame)
    (state : UpgradeState) (read : Bytes) : WebSocketFlag → Prop
  | .isWebSocket tmpBuf =>
      Returns tmpBuf read state.socket ∧
        (0 < read.length →
          request.bytes.length < state.received + read.length →
            state.received ∈
                ClientFrame.starts request.bytes.length frames ∧
              state.socket.status = .connected ∧
                read.length ≤ framedLength tmpBuf read)
  | _ =>
      request.NameFirst ∧ request.keyEnd ≤ read.length ∧
        read.length ≤ request.bytes.length

instance (request : UpgradeRequest) (frames : List ClientFrame)
    (state : UpgradeState) (read : Bytes) :
    ∀ flag, Decidable (SuitsAs request frames state read flag)
  | .isWebSocket _ => inferInstanceAs (Decidable (_ ∧ (_ → _ → _ ∧ _ ∧ _)))
  | .wfUnknown | .notWebSocket => inferInstanceAs (Decidable (_ ∧ _ ∧ _))

def Suits (request : UpgradeRequest) (frames : List ClientFrame)
    (state : UpgradeState) (amount : Nat) : Prop :=
  SuitsAs request frames state (state.read amount)
    state.socket.nWebSocketFlag

instance (request : UpgradeRequest) (frames : List ClientFrame)
    (state : UpgradeState) (amount : Nat) :
    Decidable (Suits request frames state amount) :=
  inferInstanceAs (Decidable (SuitsAs _ _ _ _ _))

end UpgradeState

namespace UpgradeRequest

variable (request : UpgradeRequest)

/-- What starts a request behind its key is a request with the same key. -/
theorem take_bytes {length : Nat} (behindKey : request.keyEnd ≤ length) :
    request.bytes.take length =
      requestBytes request.before request.key
        (request.after.take (length - request.keyEnd)) := by
  have front : (request.before ++ keyName ++ text ": " ++
      request.key).length = request.keyEnd := by
    have nameLength : (keyName ++ text ": ").length = 19 := by decide
    rw [List.length_append] at nameLength
    simp only [List.length_append, request.key_length, keyEnd]
    omega
  rw [bytes, requestBytes, List.take_append, front,
    List.take_of_length_le (by omega)]
  rfl

/-- The first read finds a text that starts with `GET` and holds the key. -/
theorem handShake_answer (host : Host) (sha1 : Bytes → Digest)
    {buffereventWrite : Bytes → Int} (writes : ∀ bytes,
      buffereventWrite bytes = 0) (socket : ServerIOSocket)
    (connected : socket.status = .connected)
    (unknown : socket.nWebSocketFlag = .wfUnknown)
    (nameFirst : request.NameFirst) {length : Nat}
    (behindKey : request.keyEnd ≤ length) (behind : Bytes) :
    getText <:+: cString (request.bytes.take length ++ 0 :: behind) ∧
      doWebSocketHandShake host sha1 buffereventWrite
          (request.bytes.take length ++ 0 :: behind) socket =
        .ok (true, [request.answer sha1]) := by
  have noZero : ∀ byte ∈ request.bytes.take length, byte ≠ 0 :=
    fun byte member => request.noZero byte (List.mem_of_mem_take member)
  have first : ∀ place < request.before.length,
      ¬ keyName <+: (request.bytes.take length).drop place := by
    intro place before there
    apply nameFirst place before
    rw [← List.take_append_drop length request.bytes, List.drop_append]
    exact there.trans (List.prefix_append _ _)
  have taken := request.take_bytes behindKey
  constructor
  · rw [cString_append noZero, taken]
    have getFirst : getText <+: request.before ++ (keyName ++ (text ": " ++
        (request.key ++ request.after.take (length - request.keyEnd)))) :=
      request.startsWithGet.trans (List.prefix_append _ _)
    simpa only [requestBytes, List.append_assoc] using getFirst.isInfix
  · rw [taken] at noZero first ⊢
    have answered := webSocketHandShake host sha1 buffereventWrite socket
      request.before request.key
      (request.after.take (length - request.keyEnd)) behind connected
      (fun _ => by simp [unknown]) noZero first request.key_length
    dsimp only at answered
    rw [writes] at answered
    exact answered

end UpgradeRequest

namespace ClientFrame

theorem wire_cons (frame : ClientFrame) (frames : List ClientFrame) :
    wire (frame :: frames) = frame.bytes ++ wire frames :=
  rfl

/-- The first byte of a frame names the opcode. -/
theorem firstByte_binary (frame : ClientFrame) (behind : Bytes) :
    (frame.bytes ++ behind).getD 0 0 &&& 0x0F = 2 := by
  have both : ∀ fin : Bool,
      (if fin then 0x82 else 0x02 : UInt8) &&& 0x0F = 2 := by decide
  have first : (frame.bytes ++ behind).getD 0 0 =
      if frame.fin then 0x82 else 0x02 :=
    WebSocketProtocol.clientFrame_firstByte
  rw [first]
  exact both frame.fin

/-- Where a frame starts there is the first byte of a frame. -/
theorem binary_of_starts {frames : List ClientFrame} {start place : Nat}
    (member : place ∈ starts start frames) :
    start ≤ place ∧
      ((wire frames).drop (place - start)).getD 0 0 &&& 0x0F = 2 := by
  induction frames generalizing start with
  | nil => cases member
  | cons frame frames ih =>
      rcases List.mem_cons.mp member with rfl | later
      · rw [Nat.sub_self, List.drop_zero, wire_cons]
        exact ⟨le_refl _, frame.firstByte_binary _⟩
      · obtain ⟨reached, binary⟩ := ih later
        have behind : (wire (frame :: frames)).drop (place - start) =
            (wire frames).drop (place - (start + frame.bytes.length)) := by
          rw [wire_cons, List.drop_append,
            List.drop_eq_nil_of_le (by omega), List.nil_append, Nat.sub_sub]
        exact ⟨by omega, behind ▸ binary⟩

end ClientFrame

namespace ServerIOSocket

variable {host : Host} {doWebSocketHandShake : Bytes → Bool}
variable {read : Bytes} {code : Int} {packets : List Bytes}
variable {socket after : ServerIOSocket}

/-- The end of `recv` returns if there is room and the head does not announce
an empty packet. -/
theorem extract_returns {data : Bytes}
    (room : socket.buffer.nRecvBufLen + data.length ≤ maxBufferSize)
    (positive : uniformLength data.length (socket.buffer.retained ++ data) ≠
      some 0) :
    ∃ code after packets, socket.extract host data =
      .ok (code, after, packets) := by
  have keeps : socket.buffer.Keeps socket.buffer.retained :=
    ⟨by omega, rfl⟩
  obtain ⟨buffer, extracted, -⟩ := extract_eq host keeps room positive
  exact ⟨_, _, _, extracted⟩

/-- `recv` returns under the condition for it. -/
theorem recv_returns (host : Host) (doWebSocketHandShake : Bytes → Bool)
    {tmpBuf : Block maxWsTmpBufferSize}
    (webSocket : socket.nWebSocketFlag = .isWebSocket tmpBuf)
    (short : read.length ≤ maxWsTmpBufferSize)
    (returns : UpgradeState.Returns tmpBuf read socket) :
    ∃ code after packets, socket.recv host doWebSocketHandShake read =
      .ok (code, after, packets) := by
  by_cases connected : socket.status = .connected
  · obtain ⟨inside, frame⟩ := returns connected
    have asks : ¬ socket.asked < read.length := by
      simp only [asked, webSocket]
      omega
    rw [recv, if_neg (not_not_intro connected), if_neg asks]
    simp only [webSocket, recvWebSocket]
    rw [if_neg (not_not_intro inside)]
    split_ifs with accepted copied
    · obtain ⟨room, positive⟩ := frame accepted
      refine extract_returns (Nat.le_trans ?_ room) positive
      simp only [Block.slice, List.length_take]
      omega
    · exact absurd (frame accepted).1 copied
    · exact ⟨_, _, _, rfl⟩
  · exact ⟨_, _, _, if_pos connected⟩

/-- A read that starts with the first byte of a binary frame and stays within
the frame is taken as one. -/
theorem framed_of_binary {tmpBuf : Block maxWsTmpBufferSize}
    (webSocket : socket.nWebSocketFlag = .isWebSocket tmpBuf)
    (connected : socket.status = .connected)
    (binary : (frameBuffer tmpBuf read).bytes.getD 0 0 &&& 0x0F = 2)
    (within : read.length ≤ framedLength tmpBuf read) :
    read.length ≤ socket.framed read := by
  have accepted := (removeWebSocketHead_binary socket.status binary).1
  rw [connected] at accepted
  simp only [framed, webSocket, connected, accepted, and_self, if_true]
  exact Nat.le_min.mpr ⟨le_refl _, within⟩

/-- The read that finds the request makes the socket a websocket. -/
theorem recv_upgrades (host : Host) (connected : socket.status = .connected)
    (unknown : socket.nWebSocketFlag = .wfUnknown)
    (fits : socket.buffer.nRecvBufLen + read.length ≤ maxBufferSize)
    (holdsGet : getText <:+: cString (socket.buffer.recvBuf.overwrite
      socket.buffer.nRecvBufLen read).bytes) :
    ∃ after, socket.recv host (fun _ => true) read = .ok (-3, after, []) ∧
      ∃ tmpBuf, after.nWebSocketFlag = .isWebSocket tmpBuf := by
  have asked : ¬ socket.asked < read.length := by
    simp only [ServerIOSocket.asked, unknown]
    omega
  refine ⟨{ socket with
    nWebSocketFlag := .isWebSocket (Block.zero maxWsTmpBufferSize)
    buffer := { socket.buffer with
      recvBuf := socket.buffer.recvBuf.overwrite
        socket.buffer.nRecvBufLen read } }, ?_, _, rfl⟩
  simp only [recv, connected, ne_eq, not_true_eq_false, if_false, asked,
    unknown, recvPlain, doWebSocket, holdsGet, and_self, if_true,
    Bool.false_eq_true]

end ServerIOSocket

namespace UpgradeState

variable {host : Host} {sha1 : Bytes → Digest}
variable {buffereventWrite : Bytes → Int} {request : UpgradeRequest}
variable {frames : List ClientFrame} {more : Bytes}
variable {state next : UpgradeState} {amount : Nat}

/-- The first read of a connection. -/
theorem first_upgrades (host : Host)
    (writes : ∀ bytes, buffereventWrite bytes = 0)
    (suits : Suits request frames (start (request.bytes ++ more)) amount) :
    ∃ next, step host sha1 buffereventWrite
        (start (request.bytes ++ more)) amount = .ok next ∧
      (∃ tmpBuf, next.socket.nWebSocketFlag = .isWebSocket tmpBuf) ∧
      next.written = [request.answer sha1] ∧
      ∀ fate ∈ next.fates,
        fate.start + fate.length ≤ request.bytes.length := by
  obtain ⟨nameFirst, behindKey, within⟩ := suits
  let socket := (start (request.bytes ++ more)).socket
  let read := (start (request.bytes ++ more)).read amount
  have readEq : read = request.bytes.take read.length := by
    have cut : read <+: request.bytes ++ more := List.take_prefix _ _
    calc
      read = (request.bytes ++ more).take read.length :=
        List.prefix_iff_eq_take.mp cut
      _ = request.bytes.take read.length := List.take_append_of_le_length within
  have short : read.length < maxBufferSize :=
    Nat.lt_of_le_of_lt within request.short
  have bufferEq : (socket.buffer.recvBuf.overwrite
      socket.buffer.nRecvBufLen read).bytes =
        request.bytes.take read.length ++
          0 :: List.replicate (maxBufferSize - read.length - 1) 0 := by
    rw [← readEq]
    exact Block.zero_overwrite_bytes short
  obtain ⟨holdsGet, answered⟩ := request.handShake_answer host sha1 writes
    socket rfl rfl nameFirst behindKey
      (List.replicate (maxBufferSize - read.length - 1) 0)
  rw [← bufferEq] at holdsGet answered
  obtain ⟨after, received, webSocket⟩ := socket.recv_upgrades host rfl rfl
    (by simp only [socket, start]; omega) holdsGet
  have shook : socket.handShake host sha1 buffereventWrite read =
      .ok (true, [request.answer sha1]) := by
    simp only [ServerIOSocket.handShake]
    rw [← answered]
    exact if_pos ⟨rfl, holdsGet⟩
  rw [step, shook]
  dsimp only
  rw [received]
  refine ⟨_, rfl, webSocket, rfl, ?_⟩
  intro fate member
  have only : fate = ⟨0, read.length, socket.framed read⟩ :=
    List.mem_singleton.mp member
  rw [only, Nat.zero_add]
  exact within

/-- A read that starts where a frame starts begins with a binary frame. -/
theorem binary_of_read {tmpBuf : Block maxWsTmpBufferSize}
    (webSocket : state.socket.nWebSocketFlag = .isWebSocket tmpBuf)
    (incoming : state.incoming =
      (request.bytes ++ ClientFrame.wire frames).drop state.received)
    (nonempty : 0 < (state.read amount).length)
    (starts : state.received ∈
      ClientFrame.starts request.bytes.length frames) :
    (frameBuffer tmpBuf (state.read amount)).bytes.getD 0 0 &&& 0x0F = 2 := by
  obtain ⟨reached, binary⟩ := ClientFrame.binary_of_starts starts
  have short : (state.read amount).length ≤ maxWsTmpBufferSize := by
    simp only [read, ServerIOSocket.asked, webSocket, List.length_take]
    omega
  have behind : state.incoming =
      (ClientFrame.wire frames).drop
        (state.received - request.bytes.length) := by
    rw [incoming, List.drop_append, List.drop_eq_nil_of_le reached,
      List.nil_append]
  have firstByte : (state.read amount).getD 0 0 = state.incoming.getD 0 0 := by
    simp only [read, List.length_take] at nonempty
    rw [read, List.getD_eq_getElem?_getD, List.getD_eq_getElem?_getD,
      List.getElem?_take_of_lt (by omega)]
  rw [frameBuffer_getD _ _ 0 nonempty short, firstByte, behind]
  exact binary

/-- A later read. -/
theorem later_upgrades (host : Host) (sha1 : Bytes → Digest)
    (buffereventWrite : Bytes → Int) {tmpBuf : Block maxWsTmpBufferSize}
    (webSocket : state.socket.nWebSocketFlag = .isWebSocket tmpBuf)
    (incoming : state.incoming =
      (request.bytes ++ ClientFrame.wire frames).drop state.received)
    (suits : Suits request frames state amount) :
    ∃ next, step host sha1 buffereventWrite state amount = .ok next ∧
      (∃ newTmpBuf, next.socket.nWebSocketFlag = .isWebSocket newTmpBuf) ∧
      next.written = state.written ∧
      ∃ fate, next.fates = state.fates ++ [fate] ∧
        (0 < fate.length → request.bytes.length < fate.start + fate.length →
          fate.start ∈ ClientFrame.starts request.bytes.length frames ∧
            fate.length ≤ fate.framed) := by
  have shook : state.socket.handShake host sha1 buffereventWrite
      (state.read amount) = .ok (false, []) := by
    simp only [ServerIOSocket.handShake, webSocket]
  have short : (state.read amount).length ≤ maxWsTmpBufferSize := by
    simp only [read, ServerIOSocket.asked, webSocket, List.length_take]
    omega
  rw [Suits, webSocket] at suits
  obtain ⟨returns, behindRequest⟩ := suits
  obtain ⟨code, after, packets, received⟩ :=
    ServerIOSocket.recv_returns host (fun _ => false) webSocket short returns
  rw [step, shook]
  dsimp only
  rw [received]
  refine ⟨_, rfl, ServerIOSocket.recv_isWebSocket webSocket received,
    List.append_nil _, _, rfl, ?_⟩
  intro nonempty behind
  obtain ⟨starts, connected, within⟩ := behindRequest nonempty behind
  exact ⟨starts, ServerIOSocket.framed_of_binary webSocket connected
    (binary_of_read webSocket incoming nonempty starts) within⟩

/-- The bytes of the stream come in order. -/
theorem step_incoming {stream : Bytes}
    (incoming : state.incoming = stream.drop state.received)
    (stepped : step host sha1 buffereventWrite state amount = .ok next) :
    next.incoming = stream.drop next.received := by
  unfold step at stepped
  dsimp only at stepped
  split at stepped
  · cases stepped
  · split at stepped
    · cases stepped
    · cases stepped
      rw [incoming, List.drop_drop]

/-- What every suitable read preserves: nothing has been read yet, or the
socket is a websocket. -/
def Progresses (sha1 : Bytes → Digest) (request : UpgradeRequest)
    (frames : List ClientFrame) (state : UpgradeState) : Prop :=
  state.incoming =
      (request.bytes ++ ClientFrame.wire frames).drop state.received ∧
    (state = start (request.bytes ++ ClientFrame.wire frames) ∨
      (∃ tmpBuf, state.socket.nWebSocketFlag = .isWebSocket tmpBuf) ∧
        state.written = [request.answer sha1] ∧
          Upgrades sha1 request frames state)

theorem Progresses.upgrades
    (progresses : Progresses sha1 request frames state) :
    Upgrades sha1 request frames state := by
  rcases progresses with ⟨-, rfl | ⟨-, -, upgrades⟩⟩
  · refine ⟨fun ended => ?_, by simp [start]⟩
    have nonempty : 0 < request.bytes.length := by
      have nameLength : 0 < keyName.length := by decide
      simp only [UpgradeRequest.bytes, requestBytes, List.length_append]
      omega
    exact absurd (Nat.lt_of_lt_of_le nonempty ended) (Nat.lt_irrefl _)
  · exact upgrades

theorem Progresses.step (writes : ∀ bytes, buffereventWrite bytes = 0)
    (progresses : Progresses sha1 request frames state)
    (suits : Suits request frames state amount) :
    ∃ next, state.step host sha1 buffereventWrite amount = .ok next ∧
      Progresses sha1 request frames next := by
  obtain ⟨incoming, initial | ⟨⟨tmpBuf, webSocket⟩, written, -, handled⟩⟩ :=
    progresses
  · subst initial
    obtain ⟨next, stepped, webSocket, written, fates⟩ :=
      first_upgrades host writes suits
    refine ⟨next, stepped, step_incoming incoming stepped, .inr
      ⟨webSocket, written, fun _ => ⟨webSocket, written⟩, ?_⟩⟩
    intro fate member _ behind
    exact absurd (fates fate member) (Nat.not_le.mpr behind)
  · obtain ⟨next, stepped, stays, same, fate, fates, newHandled⟩ :=
      later_upgrades host sha1 buffereventWrite webSocket incoming suits
    have written := same.trans written
    refine ⟨next, stepped, step_incoming incoming stepped, .inr
      ⟨stays, written, fun _ => ⟨stays, written⟩, ?_⟩⟩
    intro other member
    rw [fates] at member
    rcases List.mem_append.mp member with before | new
    · exact handled other before
    · rw [List.mem_singleton.mp new]
      exact newHandled

/-- If every read suits, every read returns, the request is answered once and
the socket is a websocket when it ends, and no byte behind it is dropped or
taken as plain data. -/
theorem webSocketUpgrade (host : Host) (sha1 : Bytes → Digest)
    (buffereventWrite : Bytes → Int)
    (writes : ∀ bytes, buffereventWrite bytes = 0)
    (request : UpgradeRequest) (frames : List ClientFrame)
    (amounts : List Nat)
    (suits : MeetsAlong (step host sha1 buffereventWrite)
      (Suits request frames)
      (start (request.bytes ++ ClientFrame.wire frames)) amounts) :
    HoldsThroughout (step host sha1 buffereventWrite)
      (Upgrades sha1 request frames)
      (start (request.bytes ++ ClientFrame.wire frames)) amounts := by
  have initially : Progresses sha1 request frames
      (start (request.bytes ++ ClientFrame.wire frames)) :=
    ⟨rfl, .inl rfl⟩
  have progressing : HoldsThroughout (step host sha1 buffereventWrite)
      (Progresses sha1 request frames)
      (start (request.bytes ++ ClientFrame.wire frames)) amounts := by
    apply holdsThroughout_of_meetsAlong _ initially suits
    intro state amount progresses suits
    exact progresses.step writes suits
  apply progressing.imp
  intro state progresses
  exact progresses.upgrades

/-- A request as a browser sends it. -/
def sampleRequest : UpgradeRequest where
  before := text "GET / HTTP/1.1\r\nHost: a\r\nUpgrade: websocket\r\n"
  key := text "dGhlIHNhbXBsZSBub25jZQ=="
  after := text "\r\nConnection: Upgrade\r\n\r\n"
  startsWithGet := by decide
  startsLine := by decide
  key_length := by decide
  endsLine := by decide
  endsBlank := by decide +kernel
  noZero := by decide +kernel
  short := by decide +kernel

/-- The frame of a packet of four bytes. -/
def sampleFrame : ClientFrame where
  fin := true
  key := ⟨[7, 8, 9, 10], rfl⟩
  payload := [4, 0, 1, 0]

/-- The request and two frames in a read each. -/
theorem webSocketUpgrade_wholeReads :
    HoldsThroughout (step .little (fun _ => #v[1, 2, 3, 4, 5]) (fun _ => 0))
      (Upgrades (fun _ => #v[1, 2, 3, 4, 5]) sampleRequest
        [sampleFrame, sampleFrame])
      (start (sampleRequest.bytes ++
        ClientFrame.wire [sampleFrame, sampleFrame]))
      [sampleRequest.bytes.length, 10, 10] :=
  webSocketUpgrade .little (fun _ => #v[1, 2, 3, 4, 5]) (fun _ => 0)
    (fun _ => rfl) sampleRequest [sampleFrame, sampleFrame]
    [sampleRequest.bytes.length, 10, 10] (by decide +kernel)

/-- Whether a socket is a websocket. -/
def isWebSocket (state : UpgradeState) : Bool :=
  match state.socket.nWebSocketFlag with
  | .isWebSocket _ => true
  | _ => false

/-- The request in two reads, the first of which has only two letters. -/
theorem webSocketUpgrade_twoReads :
    ¬ HoldsThroughout
      (step .little (fun _ => #v[1, 2, 3, 4, 5]) (fun _ => 0))
      (Upgrades (fun _ => #v[1, 2, 3, 4, 5]) sampleRequest [])
      (start (sampleRequest.bytes ++ ClientFrame.wire []))
      [2, sampleRequest.bytes.length - 2] := by
  intro holds
  have ended : (runActions
      (step .little (fun _ => #v[1, 2, 3, 4, 5]) (fun _ => 0))
      (start (sampleRequest.bytes ++ ClientFrame.wire []))
      [2, sampleRequest.bytes.length - 2]).toOption.map
        (fun state => (state.received, state.isWebSocket)) =
          some (sampleRequest.bytes.length, false) := by decide +kernel
  obtain ⟨reached, ran, answered, -⟩ := holds _ [] (List.append_nil _).symm
  rw [ran] at ended
  obtain ⟨received, plain⟩ := Prod.ext_iff.mp (Option.some.inj ended)
  obtain ⟨⟨tmpBuf, webSocket⟩, -⟩ := answered (Nat.le_of_eq received.symm)
  simp [isWebSocket, webSocket] at plain

end UpgradeState

end EchoServer
