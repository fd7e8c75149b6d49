import EchoServer.ServerIOSocket

/-!
# What a websocket frame makes the server access

`removeWebSocketHead` takes the payload length from the frame and replaces the
number of bytes read by it.  It checks neither that so many bytes were read nor
that the receive buffer has room for them, and the eight bytes of the longest
length form go into a variable of four.
-/

namespace EchoServer

open ByteOrder

namespace WebSocketOpCode

theorem ofNibble_eq_binaryFrame {nOpcode : UInt8} :
    ofNibble nOpcode = .binaryFrame ↔ nOpcode = 2 := by
  unfold ofNibble
  constructor
  · intro named
    split_ifs at named with isContinue isText isBinary
    exact isBinary
  · rintro rfl
    decide

end WebSocketOpCode

/-- If `removeWebSocketHead` accepts the frame, it takes it from the bytes just
read, its copies and stores stay inside their objects, and the receive buffer
has room for the payload; and no call of `recv` returns with more bytes in the
buffer than it can hold. -/
def WebSocketInBounds (host : Host) (doWebSocketHandShake : Bytes → Bool)
    (tmpBuf : Block maxWsTmpBufferSize) (read : Bytes)
    (socket : ServerIOSocket) : Prop :=
  let removal :=
    removeWebSocketHead (frameBuffer tmpBuf read) socket.status
  (removal.accepted = true →
    (∀ access ∈ removal.reads,
      access.offset + access.length ≤ read.length) ∧
    (∀ access ∈ removal.writes, access.Inside) ∧
    socket.buffer.nRecvBufLen + removal.len ≤ maxBufferSize) ∧
  ∀ code after packets,
    socket.recv host doWebSocketHandShake read =
        .ok (code, after, packets) →
      after.buffer.nRecvBufLen ≤ maxBufferSize

/-- The buffer does not start with a binary frame, or with one whose payload
length takes one or three bytes, which lies inside the `count` bytes read and
whose payload fits behind the retained bytes. -/
def FrameFits (buf : Block maxWsTmpBufferSize) (count nRecvBufLen : Nat) :
    Prop :=
  buf.bytes.getD 0 0 &&& 0x0F ≠ 2 ∨
    ((buf.bytes.getD 1 0 &&& 0x7F).toNat < 126 ∧
      6 + (buf.bytes.getD 1 0 &&& 0x7F).toNat ≤ count ∧
      nRecvBufLen + (buf.bytes.getD 1 0 &&& 0x7F).toNat ≤ maxBufferSize) ∨
    ((buf.bytes.getD 1 0 &&& 0x7F).toNat = 126 ∧
      8 + networkValue (buf.slice 2 2) ≤ count ∧
      nRecvBufLen + networkValue (buf.slice 2 2) ≤ maxBufferSize)

instance (buf : Block maxWsTmpBufferSize) (count nRecvBufLen : Nat) :
    Decidable (FrameFits buf count nRecvBufLen) :=
  inferInstanceAs (Decidable (_ ∨ _ ∨ _))

/-- A read begins the bytes that `removeWebSocketHead` works on. -/
theorem frameBuffer_bytes (tmpBuf : Block maxWsTmpBufferSize) (read : Bytes)
    (fits : read.length ≤ maxWsTmpBufferSize) :
    (frameBuffer tmpBuf read).bytes =
      read ++ tmpBuf.bytes.drop read.length := by
  have bytes : (tmpBuf.overwrite 0 read).bytes =
      tmpBuf.bytes.take 0 ++ read ++ tmpBuf.bytes.drop (0 + read.length) :=
    Block.overwrite_bytes (by omega)
  simpa [frameBuffer] using bytes

theorem frameBuffer_getD (tmpBuf : Block maxWsTmpBufferSize) (read : Bytes)
    (index : Nat) (inRead : index < read.length)
    (fits : read.length ≤ maxWsTmpBufferSize) :
    (frameBuffer tmpBuf read).bytes.getD index 0 = read.getD index 0 := by
  rw [frameBuffer_bytes tmpBuf read fits, List.getD_eq_getElem?_getD,
    List.getElem?_append_left inRead, ← List.getD_eq_getElem?_getD]

variable {buf : Block maxWsTmpBufferSize} (status : IOSocketStatus)

/-- Frames of other kinds are not accepted. -/
theorem removeWebSocketHead_rejects
    (other : buf.bytes.getD 0 0 &&& 0x0F ≠ 2) :
    (removeWebSocketHead buf status).accepted = false := by
  have notBinary := WebSocketOpCode.ofNibble_eq_binaryFrame.not.mpr other
  unfold removeWebSocketHead
  cases kind : WebSocketOpCode.ofNibble (buf.bytes.getD 0 0 &&& 0x0F) with
  | binaryFrame => exact absurd kind notBinary
  | continueFrame => simp only [kind]
  | textFrame => simp only [kind]
  | closeFrame => simp only [kind]
  | pingFrame => simp only [kind]
  | pongFrame => simp only [kind]
  | unnamed => simp only [kind]

/-- A binary frame is accepted whatever its length. -/
theorem removeWebSocketHead_binary
    (binary : buf.bytes.getD 0 0 &&& 0x0F = 2) :
    (removeWebSocketHead buf status).accepted = true ∧
      (removeWebSocketHead buf status).len = (payloadLength buf).len ∧
      (removeWebSocketHead buf status).status = status ∧
      (removeWebSocketHead buf status).reads =
        ⟨.tmpBuf, 0, 2⟩ :: (payloadLength buf).reads ++
          [⟨.tmpBuf, 1 + (payloadLength buf).playloadByteNum, 4⟩,
            ⟨.tmpBuf, 1 + (payloadLength buf).playloadByteNum + 4,
              (payloadLength buf).len⟩] ∧
      (removeWebSocketHead buf status).writes =
        (payloadLength buf).writes ++
          [⟨.maskKey, 0, 4⟩, ⟨.tmpBuf, 0, (payloadLength buf).len⟩,
            ⟨.tmpBuf, (payloadLength buf).len, 1⟩] := by
  have named := WebSocketOpCode.ofNibble_eq_binaryFrame.mpr binary
  simp only [removeWebSocketHead, named, List.cons_append, and_self]

namespace ServerIOSocket

/-- The end of `recv` does not leave more bytes than it was given. -/
theorem extract_within {host : Host} {data : Bytes} {code : Int}
    {socket after : ServerIOSocket} {packets : List Bytes}
    (extracted : socket.extract host data = .ok (code, after, packets)) :
    after.buffer.nRecvBufLen ≤
      socket.buffer.nRecvBufLen + data.length := by
  unfold extract at extracted
  simp only at extracted
  split at extracted
  · cases extracted
  · rename_i buffer packets' found
    cases extracted
    unfold RecvBuffer.extract at found
    split at found
    · cases found
    · rename_i extraction looped
      cases found
      rw [RecvBuffer.compact_nRecvBufLen]
      exact Nat.sub_le _ _

/-- On a websocket `recv` returns with no more bytes in its buffer than this
can hold. -/
theorem recv_webSocket_within {host : Host}
    {doWebSocketHandShake : Bytes → Bool} {read : Bytes} {code : Int}
    {socket after : ServerIOSocket} {packets : List Bytes}
    {tmpBuf : Block maxWsTmpBufferSize}
    (webSocket : socket.nWebSocketFlag = .isWebSocket tmpBuf)
    (within : socket.buffer.nRecvBufLen ≤ maxBufferSize)
    (received : socket.recv host doWebSocketHandShake read =
      .ok (code, after, packets)) :
    after.buffer.nRecvBufLen ≤ maxBufferSize := by
  simp only [recv, webSocket] at received
  split_ifs at received
  · cases received
    exact within
  · simp only [recvWebSocket] at received
    split_ifs at received with outside accepted room
    · have bounded := extract_within received
      have copied : ((removeWebSocketHead (frameBuffer tmpBuf read)
          socket.status).buf.slice 0 (removeWebSocketHead
            (frameBuffer tmpBuf read) socket.status).len).length ≤
          (removeWebSocketHead (frameBuffer tmpBuf read)
            socket.status).len := by
        simp only [Block.slice, List.length_take]
        omega
      simp only [Access.Inside, FrameObject.size] at room
      simp only at bounded
      omega
    · cases received
      exact within

end ServerIOSocket

/-- The three forms of the length field. -/
theorem payloadLength_short
    (short : (buf.bytes.getD 1 0 &&& 0x7F).toNat < 126) :
    payloadLength buf =
      { len := (buf.bytes.getD 1 0 &&& 0x7F).toNat
        playloadByteNum := 1
        reads := []
        writes := [] } := by
  have notTwo : (buf.bytes.getD 1 0 &&& 0x7F).toNat ≠ 126 := by omega
  have notEight : (buf.bytes.getD 1 0 &&& 0x7F).toNat ≠ 127 := by omega
  simp only [payloadLength, notTwo, notEight, if_false]

theorem payloadLength_two
    (two : (buf.bytes.getD 1 0 &&& 0x7F).toNat = 126) :
    payloadLength buf =
      { len := networkValue (buf.slice 2 2)
        playloadByteNum := 3
        reads := [⟨.tmpBuf, 2, 2⟩]
        writes := [⟨.shortTmpLen, 0, 2⟩] } := by
  simp only [payloadLength, two, if_true]

theorem payloadLength_eight
    (eight : (buf.bytes.getD 1 0 &&& 0x7F).toNat = 127) :
    payloadLength buf =
      { len := networkValue (buf.slice 2 4)
        playloadByteNum := 9
        reads := [⟨.tmpBuf, 2, 8⟩]
        writes := [⟨.intTmpLen, 0, 8⟩] } := by
  simp only [payloadLength, eight, Nat.reduceEqDiff, if_false, if_true]

/-- Seven bits spell at most 127. -/
theorem sevenBits_cases (byte : UInt8) :
    (byte &&& 0x7F).toNat < 126 ∨ (byte &&& 0x7F).toNat = 126 ∨
      (byte &&& 0x7F).toNat = 127 := by
  have bound : (byte &&& 0x7F).toNat ≤ 127 := by
    rw [UInt8.toNat_and]
    exact Nat.and_le_right
  omega

/-- A binary frame is accessed in bounds exactly when it fits. -/
theorem binary_inBounds_iff {count nRecvBufLen : Nat}
    (binary : buf.bytes.getD 0 0 &&& 0x0F = 2)
    (countFits : count ≤ maxWsTmpBufferSize) :
    ((∀ access ∈ (removeWebSocketHead buf status).reads,
        access.offset + access.length ≤ count) ∧
      (∀ access ∈ (removeWebSocketHead buf status).writes,
        access.Inside) ∧
      nRecvBufLen + (removeWebSocketHead buf status).len ≤
        maxBufferSize) ↔
      FrameFits buf count nRecvBufLen := by
  obtain ⟨-, lenEq, -, readsEq, writesEq⟩ :=
    removeWebSocketHead_binary status binary
  rw [lenEq, readsEq, writesEq]
  simp only [maxWsTmpBufferSize] at countFits
  obtain short | two | eight := sevenBits_cases (buf.bytes.getD 1 0)
  · have notTwo : (buf.bytes.getD 1 0 &&& 0x7F).toNat ≠ 126 := by omega
    simp only [payloadLength_short short, FrameFits, binary, short, notTwo,
      Access.Inside, FrameObject.size, maxWsTmpBufferSize, List.cons_append,
      List.nil_append, List.forall_mem_cons, List.not_mem_nil,
      false_implies, implies_true, ne_eq, not_true_eq_false, true_and,
      false_and, false_or, or_false, and_true]
    omega
  · simp only [payloadLength_two two, FrameFits, binary, two,
      Access.Inside, FrameObject.size, maxWsTmpBufferSize, List.cons_append,
      List.nil_append, List.forall_mem_cons, List.not_mem_nil,
      false_implies, implies_true, ne_eq, not_true_eq_false, true_and,
      false_or, and_true]
    omega
  · have notShort : ¬ (buf.bytes.getD 1 0 &&& 0x7F).toNat < 126 := by omega
    have notTwo : (buf.bytes.getD 1 0 &&& 0x7F).toNat ≠ 126 := by omega
    -- The copy of eight bytes leaves the variable of four.
    have overflows : ¬ Access.Inside ⟨.intTmpLen, 0, 8⟩ := by decide
    simp only [payloadLength_eight eight, FrameFits, binary, notShort,
      notTwo, overflows, List.cons_append, List.nil_append,
      List.forall_mem_cons, ne_eq, not_true_eq_false, false_and, and_false,
      or_self]

/-- On a connected websocket the removal of a frame's head, and `recv` with
it, stay in bounds exactly when the frame fits. -/
theorem webSocketInBounds_iff (host : Host)
    (doWebSocketHandShake : Bytes → Bool) (socket : ServerIOSocket)
    (tmpBuf : Block maxWsTmpBufferSize) (read : Bytes)
    (webSocket : socket.nWebSocketFlag = .isWebSocket tmpBuf)
    (within : socket.buffer.nRecvBufLen ≤ maxBufferSize)
    (readFits : read.length ≤ maxWsTmpBufferSize) :
    WebSocketInBounds host doWebSocketHandShake tmpBuf read socket ↔
      FrameFits (frameBuffer tmpBuf read) read.length
        socket.buffer.nRecvBufLen := by
  have returns : ∀ code after packets,
      socket.recv host doWebSocketHandShake read =
          .ok (code, after, packets) →
        after.buffer.nRecvBufLen ≤ maxBufferSize :=
    fun _ _ _ => ServerIOSocket.recv_webSocket_within webSocket within
  by_cases binary :
      (frameBuffer tmpBuf read).bytes.getD 0 0 &&& 0x0F = 2
  · have accepted := (removeWebSocketHead_binary socket.status binary).1
    rw [← binary_inBounds_iff socket.status binary readFits]
    constructor
    · rintro ⟨inBounds, -⟩
      exact inBounds accepted
    · intro inBounds
      exact ⟨fun _ => inBounds, returns⟩
  · have rejected := removeWebSocketHead_rejects socket.status binary
    constructor
    · intro _
      exact .inl binary
    · intro _
      refine ⟨?_, returns⟩
      intro accepted
      rw [rejected] at accepted
      exact absurd accepted (by decide)

/-- A connected websocket whose buffers are empty. -/
def webSocket : ServerIOSocket where
  status := .connected
  nWebSocketFlag := .isWebSocket (Block.zero maxWsTmpBufferSize)
  buffer := { recvBuf := Block.zero maxBufferSize, nRecvBufLen := 0 }

/-- A whole frame with a payload of 130 bytes, whose length takes three
bytes. -/
def longerFrame : Bytes :=
  [0x82, 0xFE, 0, 130, 1, 2, 3, 4] ++ List.replicate 130 9

theorem webSocketInBounds_longerFrame :
    WebSocketInBounds .little (fun _ => false)
      (Block.zero maxWsTmpBufferSize) longerFrame webSocket :=
  (webSocketInBounds_iff .little (fun _ => false) webSocket
    (Block.zero maxWsTmpBufferSize) longerFrame rfl (Nat.zero_le _)
    (by decide +kernel)).mpr (by decide +kernel)

/-- The head of a frame that announces a payload of 125 bytes, read without
the payload. -/
theorem webSocketInBounds_headOnly :
    ¬ WebSocketInBounds .little (fun _ => false)
      (Block.zero maxWsTmpBufferSize) [0x82, 0xFD, 1, 2, 3, 4]
      webSocket := by
  intro inBounds
  have first := frameBuffer_getD (Block.zero maxWsTmpBufferSize)
    [0x82, 0xFD, 1, 2, 3, 4] 0 (by decide) (by decide)
  have second := frameBuffer_getD (Block.zero maxWsTmpBufferSize)
    [0x82, 0xFD, 1, 2, 3, 4] 1 (by decide) (by decide)
  have binary : (frameBuffer (Block.zero maxWsTmpBufferSize)
      [0x82, 0xFD, 1, 2, 3, 4]).bytes.getD 0 0 &&& 0x0F = 2 := by
    rw [first]
    decide
  have fits := (binary_inBounds_iff webSocket.status binary
    (by decide)).mp
      (inBounds.1 (removeWebSocketHead_binary webSocket.status binary).1)
  simp only [FrameFits, first, second] at fits
  obtain other | ⟨-, long, -⟩ | ⟨two, -⟩ := fits
  · exact other (by decide)
  · exact absurd long (by decide)
  · exact absurd two (by decide)

end EchoServer
