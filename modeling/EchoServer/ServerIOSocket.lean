import EchoServer.CStrings
import EchoServer.Reception

/-!
# The server's end of a connection

`ServerIOSocket.cpp`, the receiving side.  A connection starts as one of
unknown kind; its first bytes tell whether it is a websocket.  The bytes of a
websocket go through a buffer of their own, where the head of the frame is
removed.
-/

namespace EchoServer

open ByteOrder Framing

/-- `_nWebSocketFlag`, with the block `_tmpBuf`, which is allocated when the
flag becomes `isWebSocket`. -/
inductive WebSocketFlag
  | wfUnknown
  | notWebSocket
  | isWebSocket (tmpBuf : Block maxWsTmpBufferSize)

instance (flag : WebSocketFlag) : Decidable (flag = .notWebSocket) :=
  match flag with
  | .notWebSocket => isTrue rfl
  | .wfUnknown => isFalse nofun
  | .isWebSocket _ => isFalse nofun

/-- The objects in memory that the removal of a frame's head touches. -/
inductive FrameObject
  | tmpBuf
  | shortTmpLen
  | intTmpLen
  | maskKey
  | recvBuf
  deriving DecidableEq

/-- The size of an object in bytes. -/
def FrameObject.size : FrameObject → Nat
  | tmpBuf => maxWsTmpBufferSize
  | shortTmpLen => 2
  | intTmpLen => 4
  | maskKey => 4
  | recvBuf => maxBufferSize

/-- An access to `length` bytes of an object from `offset` on. -/
structure Access where
  object : FrameObject
  offset : Nat
  length : Nat
  deriving DecidableEq

namespace Access

def Inside (access : Access) : Prop :=
  access.offset + access.length ≤ access.object.size

instance (access : Access) : Decidable access.Inside :=
  inferInstanceAs (Decidable (_ ≤ _))

end Access

/-- The length field of a frame: the payload length, the number of bytes that
spell it, and the accesses made to find it. -/
structure PayloadLength where
  len : Nat
  playloadByteNum : Nat
  reads : List Access
  writes : List Access

/-- What `removeWebSocketHead` does: its result, `len`, `_tmpBuf` and
`_status` afterwards, the parts of `_tmpBuf` that it takes the frame from, and
the copies and stores that it makes. -/
structure HeadRemoval where
  accepted : Bool
  len : Nat
  buf : Block maxWsTmpBufferSize
  status : IOSocketStatus
  reads : List Access
  writes : List Access

/-- A number in network byte order. -/
def networkValue (bytes : Bytes) : Nat :=
  littleEndianValue bytes.reverse

/-- `buf[i] ^ maskKey[i % maskKeyLen]` for every `i`. -/
def applyMask (maskKey payload : Bytes) : Bytes :=
  payload.mapIdx fun i byte => byte ^^^ maskKey.getD (i % 4) 0

/-- The length field in `removeWebSocketHead`. -/
def payloadLength (buf : Block maxWsTmpBufferSize) : PayloadLength :=
  let len := (buf.bytes.getD 1 0 &&& 0x7F).toNat
  if len = 126 then
    { len := networkValue (buf.slice 2 2)
      playloadByteNum := 3
      reads := [⟨.tmpBuf, 2, 2⟩]
      writes := [⟨.shortTmpLen, 0, 2⟩] }
  else if len = 127 then
    -- `memcpy(&tmpLen, buf + 2, 8)` into an `unsigned int`, which takes the
    -- first four of the eight bytes.
    { len := networkValue (buf.slice 2 4)
      playloadByteNum := 9
      reads := [⟨.tmpBuf, 2, 8⟩]
      writes := [⟨.intTmpLen, 0, 8⟩] }
  else
    { len, playloadByteNum := 1, reads := [], writes := [] }

/-- `ServerIOSocket::removeWebSocketHead`. -/
def removeWebSocketHead (buf : Block maxWsTmpBufferSize)
    (status : IOSocketStatus) : HeadRemoval :=
  let nOpcode := buf.bytes.getD 0 0 &&& 0x0F
  let length := payloadLength buf
  let reads := ⟨.tmpBuf, 0, 2⟩ :: length.reads
  match WebSocketOpCode.ofNibble nOpcode with
  | .binaryFrame =>
      let start := 1 + length.playloadByteNum
      let maskKey := buf.slice start 4
      let moved := buf.moveToFront (start + 4) length.len
      let unmasked :=
        moved.overwrite 0 (applyMask maskKey (moved.slice 0 length.len))
      { accepted := true
        len := length.len
        buf := unmasked.overwrite length.len [0]
        status
        reads := reads ++
          [⟨.tmpBuf, start, 4⟩, ⟨.tmpBuf, start + 4, length.len⟩]
        writes := length.writes ++
          [⟨.maskKey, 0, 4⟩, ⟨.tmpBuf, 0, length.len⟩,
            ⟨.tmpBuf, length.len, 1⟩] }
  | .closeFrame =>
      { accepted := false, len := length.len, buf, status := .whileClose
        reads, writes := length.writes }
  | _ =>
      { accepted := false, len := length.len, buf, status
        reads, writes := length.writes }

/-- The fields of `ServerIOSocket` on the receiving side. -/
structure ServerIOSocket where
  status : IOSocketStatus
  nWebSocketFlag : WebSocketFlag
  buffer : RecvBuffer

/-- `_tmpBuf` after a read. -/
def frameBuffer (tmpBuf : Block maxWsTmpBufferSize) (read : Bytes) :
    Block maxWsTmpBufferSize :=
  tmpBuf.overwrite 0 read

/-- `"GET"`. -/
def getText : Bytes :=
  [71, 69, 84]

namespace ServerIOSocket

/-- The bytes `recv` asks `bufferevent_read` for. -/
def asked (socket : ServerIOSocket) : Nat :=
  match socket.nWebSocketFlag with
  | .isWebSocket _ => maxWsTmpBufferSize
  | _ => maxBufferSize - socket.buffer.nRecvBufLen

/-- `ServerIOSocket::doWebSocket`: the flag afterwards, and whether the bytes
are kept.  `doWebSocketHandShake` tells whether the request could be
answered. -/
def doWebSocket (doWebSocketHandShake : Bytes → Bool)
    (flag : WebSocketFlag) (buf : Bytes) : WebSocketFlag × Bool :=
  match flag with
  | .wfUnknown =>
      if getText <:+: cString buf ∧ doWebSocketHandShake buf then
        (.isWebSocket (Block.zero maxWsTmpBufferSize), false)
      else
        (.notWebSocket, true)
  | flag => (flag, true)

/-- `int(_nRecvBufLen - tmpIndex) <= 0`. -/
def stops (remaining : Int) : Bool :=
  decide (remaining ≤ 0)

/-- The end of `recv`, from `_nRecvBufLen += len` on, with `len` bytes copied
behind the retained ones. -/
def extract (host : Host) (data : Bytes) (socket : ServerIOSocket) :
    Except RecvStop (Int × ServerIOSocket × List Bytes) :=
  let buffer := socket.buffer.append data
  -- `bis.attach(_pRecvBuf, len)`
  match buffer.extract host stops
      (fun _ => buffer.recvBuf.slice 0 data.length) with
  | .error stop => .error stop
  | .ok (buffer, packets) => .ok (0, { socket with buffer }, packets)

/-- The websocket branch of `recv`. -/
def recvWebSocket (host : Host) (tmpBuf : Block maxWsTmpBufferSize)
    (read : Bytes) (socket : ServerIOSocket) :
    Except RecvStop (Int × ServerIOSocket × List Bytes) :=
  let removal :=
    removeWebSocketHead (frameBuffer tmpBuf read) socket.status
  if ¬ ∀ access ∈ removal.reads ++ removal.writes, access.Inside then
    .error .outOfBounds
  else
    let socket :=
      { socket with
        status := removal.status
        nWebSocketFlag := .isWebSocket removal.buf }
    if removal.accepted then
      -- `memcpy(_pRecvBuf+_nRecvBufLen, _tmpBuf, len)`
      if Access.Inside ⟨.recvBuf, socket.buffer.nRecvBufLen, removal.len⟩ then
        socket.extract host (removal.buf.slice 0 removal.len)
      else
        .error .outOfBounds
    else
      .ok (-2, socket, [])

/-- The other branch of `recv`. -/
def recvPlain (host : Host) (doWebSocketHandShake : Bytes → Bool)
    (read : Bytes) (socket : ServerIOSocket) :
    Except RecvStop (Int × ServerIOSocket × List Bytes) :=
  let recvBuf :=
    socket.buffer.recvBuf.overwrite socket.buffer.nRecvBufLen read
  let (nWebSocketFlag, kept) :=
    doWebSocket doWebSocketHandShake socket.nWebSocketFlag recvBuf.bytes
  let socket := { socket with nWebSocketFlag }
  if kept then
    socket.extract host read
  else
    .ok (-3, { socket with buffer := { socket.buffer with recvBuf } }, [])

/-- `ServerIOSocket::recv` when `bufferevent_read` returns the given bytes:
the code returned, the socket, and the packets handed to `asynRecive`. -/
def recv (host : Host) (doWebSocketHandShake : Bytes → Bool) (read : Bytes)
    (socket : ServerIOSocket) :
    Except RecvStop (Int × ServerIOSocket × List Bytes) :=
  if socket.status ≠ .connected then
    .ok (-1, socket, [])
  else if socket.asked < read.length then
    .error .outOfBounds
  else
    match socket.nWebSocketFlag with
    | .isWebSocket tmpBuf => socket.recvWebSocket host tmpBuf read
    | _ => socket.recvPlain host doWebSocketHandShake read

/-- The length that the loop of `recv` takes for every packet: that of the
head at the start of the buffer, if the last `length` bytes read are enough
for a head. -/
def uniformLength (length : Nat) (retained : Bytes) : Option Nat :=
  if headLen ≤ length then some (littleEndianValue (retained.take 2))
  else none

/-- The server's loop takes all packets to be as long as the first. -/
theorem follows_fixed (host : Host) {buffer : RecvBuffer} {length : Nat}
    (within : buffer.nRecvBufLen ≤ maxBufferSize)
    (le : length ≤ buffer.nRecvBufLen) :
    buffer.Follows
      (Format.fixed (uniformLength length buffer.retained))
      (buffer.extractPass host stops
        (fun _ => buffer.recvBuf.slice 0 length)) := by
  intro extraction reached positive
  have windowEq := RecvBuffer.slice_eq_retained
    (show 0 + length ≤ buffer.nRecvBufLen by omega)
  rw [List.drop_zero] at windowEq
  by_cases enough : headLen ≤ length
  · obtain ⟨head, parsed, lenEq⟩ := parseHead_len host
      (buffer.retained.take length)
      (by rw [List.length_take, RecvBuffer.retained_length within]; omega)
    rw [List.take_take, Nat.min_eq_left (by simp [headLen] at enough; omega)]
      at lenEq
    have announcement : uniformLength length buffer.retained =
        some head.len.toNat := by
      simp only [uniformLength, enough, if_true, lenEq]
    have nonempty : 0 < head.len.toNat := positive _ announcement
    rw [← windowEq] at parsed
    apply RecvBuffer.extractPass_parsed within reached parsed announcement
      nonempty
    intro fits
    exact decide_eq_false (by omega)
  · have tooShort := parseHead_short host (buffer.retained.take length)
      (by rw [List.length_take]; omega)
    have noLength : uniformLength length buffer.retained = none := by
      simp only [uniformLength, enough, if_false]
    simp only [RecvBuffer.extractPass, windowEq, tooShort, ite_self,
      noLength, Format.firstFrame, Format.fixed]

/-- What the end of `recv` hands out and retains. -/
theorem extract_eq (host : Host) {socket : ServerIOSocket}
    {bytes data : Bytes} (keeps : socket.buffer.Keeps bytes)
    (fits : socket.buffer.nRecvBufLen + data.length ≤ maxBufferSize)
    (positive : uniformLength data.length (bytes ++ data) ≠ some 0) :
    ∃ buffer,
      socket.extract host data =
          .ok (0, { socket with buffer },
            (Format.fixed (uniformLength data.length (bytes ++ data))).frames
              (bytes ++ data)) ∧
        buffer.Keeps
          ((Format.fixed (uniformLength data.length (bytes ++ data))).tail
            (bytes ++ data)) := by
  have appended := keeps.append fits
  have follows := follows_fixed host appended.1
    (show data.length ≤ (socket.buffer.append data).nRecvBufLen from
      Nat.le_add_left _ _)
  rw [appended.2] at follows
  have nonempty : ∀ length,
      uniformLength data.length (bytes ++ data) = some length →
        0 < length := by
    rintro length announcement
    rw [announcement] at positive
    exact Nat.pos_of_ne_zero (fun empty => positive (by rw [empty]))
  obtain ⟨buffer, extracted, kept⟩ :=
    RecvBuffer.extract_follows follows appended.1
      (Format.fixed_headersSatisfy nonempty _)
  rw [appended.2] at extracted kept
  refine ⟨buffer, ?_, kept⟩
  simp only [extract, extracted]

section Flag

variable {host : Host} {doWebSocketHandShake : Bytes → Bool}
variable {read : Bytes} {code : Int} {packets : List Bytes}
variable {socket after : ServerIOSocket}

theorem extract_nWebSocketFlag {data : Bytes}
    (extracted : socket.extract host data = .ok (code, after, packets)) :
    after.nWebSocketFlag = socket.nWebSocketFlag := by
  unfold extract at extracted
  simp only at extracted
  split at extracted
  · cases extracted
  · cases extracted
    rfl

/-- A websocket stays one. -/
theorem recv_isWebSocket {tmpBuf : Block maxWsTmpBufferSize}
    (webSocket : socket.nWebSocketFlag = .isWebSocket tmpBuf)
    (received : socket.recv host doWebSocketHandShake read =
      .ok (code, after, packets)) :
    ∃ newTmpBuf, after.nWebSocketFlag = .isWebSocket newTmpBuf := by
  simp only [recv, webSocket] at received
  split_ifs at received
  · cases received
    exact ⟨tmpBuf, webSocket⟩
  · simp only [recvWebSocket] at received
    split_ifs at received
    · exact ⟨_, extract_nWebSocketFlag received⟩
    · cases received
      exact ⟨_, rfl⟩

end Flag

end ServerIOSocket

end EchoServer
