import EchoServer.WebSocketBounds
import EchoServer.WebSocketProtocol

/-!
# Binary websocket frames and the removal of their heads

A masked binary frame as a client sends it, with the shortest length field,
and what `removeWebSocketHead` makes of a read that begins with such a frame.
-/

namespace EchoServer

open ByteOrder

/-- A masked binary frame of at most `MAX_WS_TMP_BUFFER_SIZE` bytes. -/
structure BinaryFrame where
  fin : Bool
  maskKey : Bytes
  payload : Bytes
  maskKey_length : maskKey.length = 4
  payload_length : 8 + payload.length ≤ maxWsTmpBufferSize

namespace BinaryFrame

/-- The length field: one byte, or three for 126 bytes and more; the high bit
of its first byte says that the payload is masked. -/
def lengthField (length : Nat) : Bytes :=
  if length < 126 then [0x80 ||| UInt8.ofNat length]
  else (0x80 ||| 126) :: (littleEndian 2 length).reverse

/-- The bytes of a frame on the wire. -/
def bytes (frame : BinaryFrame) : Bytes :=
  (if frame.fin then 0x82 else 0x02) ::
    (lengthField frame.payload.length ++ frame.maskKey ++
      applyMask frame.maskKey frame.payload)

end BinaryFrame

/-- The loop of `removeWebSocketHead` masks as the protocol does. -/
theorem applyMask_eq_mask (maskKey payload : Bytes) :
    applyMask maskKey payload = WebSocketProtocol.mask maskKey payload :=
  rfl

@[simp]
theorem applyMask_length (maskKey payload : Bytes) :
    (applyMask maskKey payload).length = payload.length := by
  rw [applyMask_eq_mask, WebSocketProtocol.mask_length]

theorem applyMask_applyMask (maskKey payload : Bytes) :
    applyMask maskKey (applyMask maskKey payload) = payload := by
  rw [applyMask_eq_mask, applyMask_eq_mask, WebSocketProtocol.mask_mask]

namespace Block

variable {size : Nat} {block : Block size}

/-- The middle of a block's bytes. -/
theorem slice_append {front middle back : Bytes} {offset length : Nat}
    (split : block.bytes = front ++ (middle ++ back))
    (atOffset : front.length = offset) (ofLength : middle.length = length) :
    block.slice offset length = middle := by
  rw [slice, split, ← atOffset, List.drop_left, ← ofLength, List.take_left]

/-- Bytes copied to the start of a block are found there. -/
theorem slice_overwrite_start {data : Bytes} {length : Nat}
    (ofLength : data.length = length) (within : length ≤ size) :
    (block.overwrite 0 data).slice 0 length = data := by
  subst ofLength
  have taken : (block.overwrite 0 data).bytes.take (0 + data.length) =
      block.bytes.take 0 ++ data :=
    take_overwrite (by omega)
  simpa [slice] using taken

/-- A store behind the first bytes leaves them. -/
theorem slice_overwrite_before {offset : Nat} {data : Bytes}
    (within : offset + data.length ≤ size) :
    (block.overwrite offset data).slice 0 offset =
      block.slice 0 offset := by
  have := block.bytes_length
  rw [slice, slice, List.drop_zero, overwrite_bytes within,
    List.append_assoc, List.take_left']
  · rfl
  · simp only [List.length_take]
    omega

end Block

/-- A frame whose length field, mask and payload lie in the buffer leaves its
payload at the start of the buffer. -/
theorem removeWebSocketHead_payload
    {buf : Block maxWsTmpBufferSize} (status : IOSocketStatus)
    {maskKey payload : Bytes}
    (binary : buf.bytes.getD 0 0 &&& 0x0F = 2)
    (length : (payloadLength buf).len = payload.length)
    (mask : buf.slice (1 + (payloadLength buf).playloadByteNum) 4 = maskKey)
    (masked :
      buf.slice (1 + (payloadLength buf).playloadByteNum + 4)
        payload.length = applyMask maskKey payload)
    (inside : 1 + (payloadLength buf).playloadByteNum + 4 +
      payload.length ≤ maxWsTmpBufferSize) :
    (removeWebSocketHead buf status).buf.slice 0 payload.length =
      payload := by
  have named := WebSocketOpCode.ofNibble_eq_binaryFrame.mpr binary
  have moved : (buf.moveToFront
      (1 + (payloadLength buf).playloadByteNum + 4)
        payload.length).slice 0 payload.length =
          applyMask maskKey payload := by
    rw [Block.slice, List.drop_zero, Block.take_moveToFront inside, masked]
  simp only [removeWebSocketHead, named, length, mask, moved,
    applyMask_applyMask]
  rw [Block.slice_overwrite_before (by simp only [List.length_singleton]; omega)]
  exact Block.slice_overwrite_start rfl (by omega)

namespace BinaryFrame

variable {buf : Block maxWsTmpBufferSize} {frame : BinaryFrame}
variable {more : Bytes}

theorem binary (begins : buf.bytes = frame.bytes ++ more) :
    buf.bytes.getD 0 0 &&& 0x0F = 2 := by
  rw [begins]
  cases fin : frame.fin <;> simp [bytes, fin] <;> decide

/-- The short length field is one byte that spells the length. -/
theorem shortLength (length : Nat) (short : length < 126) :
    ((0x80 ||| UInt8.ofNat length) &&& 0x7F).toNat = length := by
  have spelled : ∀ length : Fin 126,
      ((0x80 ||| UInt8.ofNat length) &&& 0x7F).toNat = length := by decide
  exact spelled ⟨length, short⟩

/-- The length field of the frame is read back. -/
theorem payloadLength_eq (begins : buf.bytes = frame.bytes ++ more) :
    (payloadLength buf).len = frame.payload.length ∧
      (payloadLength buf).playloadByteNum =
        (lengthField frame.payload.length).length ∧
      ∀ access ∈ (payloadLength buf).reads ++ (payloadLength buf).writes,
        access.Inside := by
  have room := frame.payload_length
  simp only [maxWsTmpBufferSize] at room
  by_cases short : frame.payload.length < 126
  · have second : buf.bytes.getD 1 0 =
        0x80 ||| UInt8.ofNat frame.payload.length := by
      rw [begins]
      simp [bytes, lengthField, short]
    have lengthEq := shortLength frame.payload.length short
    rw [← second] at lengthEq
    rw [payloadLength_short (by rw [lengthEq]; exact short)]
    exact ⟨lengthEq, by simp [lengthField, short], by simp⟩
  · have second : (buf.bytes.getD 1 0 &&& 0x7F).toNat = 126 := by
      rw [begins]
      simp [bytes, lengthField, short]
    have spelled : buf.slice 2 2 =
        (littleEndian 2 frame.payload.length).reverse := by
      have split : buf.bytes =
          [if frame.fin then 0x82 else 0x02, 0x80 ||| 126] ++
            ((littleEndian 2 frame.payload.length).reverse ++
              (frame.maskKey ++
                (applyMask frame.maskKey frame.payload ++ more))) := by
        rw [begins]
        simp [bytes, lengthField, short]
      exact Block.slice_append split rfl (by simp)
    rw [payloadLength_two second]
    simp only [spelled, networkValue, List.reverse_reverse]
    rw [littleEndianValue_littleEndian (by omega)]
    refine ⟨rfl, by simp [lengthField, short], by decide⟩

end BinaryFrame

/-- A read that begins with a whole frame: `removeWebSocketHead` accepts the
frame, stays in bounds, and leaves the payload at the start of the buffer. -/
theorem removeWebSocketHead_frame {buf : Block maxWsTmpBufferSize}
    (status : IOSocketStatus) {frame : BinaryFrame} {more : Bytes}
    (begins : buf.bytes = frame.bytes ++ more) :
    (removeWebSocketHead buf status).accepted = true ∧
      (removeWebSocketHead buf status).len = frame.payload.length ∧
      (removeWebSocketHead buf status).status = status ∧
      (removeWebSocketHead buf status).buf.slice 0 frame.payload.length =
        frame.payload ∧
      ∀ access ∈ (removeWebSocketHead buf status).reads ++
          (removeWebSocketHead buf status).writes,
        access.Inside := by
  obtain ⟨lengthEq, byteNum, lengthInside⟩ :=
    BinaryFrame.payloadLength_eq begins
  have binary := BinaryFrame.binary begins
  obtain ⟨accepted, lenEq, statusEq, readsEq, writesEq⟩ :=
    removeWebSocketHead_binary status binary
  have fieldLength :
      (BinaryFrame.lengthField frame.payload.length).length ≤ 3 := by
    unfold BinaryFrame.lengthField
    split <;> simp
  have room := frame.payload_length
  have mask : buf.slice (1 + (payloadLength buf).playloadByteNum) 4 =
      frame.maskKey := by
    have split : buf.bytes =
        ((if frame.fin then 0x82 else 0x02) ::
          BinaryFrame.lengthField frame.payload.length) ++
            (frame.maskKey ++
              (applyMask frame.maskKey frame.payload ++ more)) := by
      rw [begins]
      simp [BinaryFrame.bytes]
    exact Block.slice_append split (by simp [byteNum]; omega)
      frame.maskKey_length
  have masked : buf.slice (1 + (payloadLength buf).playloadByteNum + 4)
      frame.payload.length = applyMask frame.maskKey frame.payload := by
    have split : buf.bytes =
        ((if frame.fin then 0x82 else 0x02) ::
          BinaryFrame.lengthField frame.payload.length ++ frame.maskKey) ++
            (applyMask frame.maskKey frame.payload ++ more) := by
      rw [begins]
      simp [BinaryFrame.bytes]
    exact Block.slice_append split
      (by simp [byteNum, frame.maskKey_length]; omega) (by simp)
  refine ⟨accepted, lenEq.trans lengthEq, statusEq, ?_, ?_⟩
  · exact removeWebSocketHead_payload status binary lengthEq mask masked
      (by omega)
  · intro access member
    simp only [readsEq, writesEq, List.mem_append, List.mem_cons,
      List.not_mem_nil, or_false] at member lengthInside
    simp only [maxWsTmpBufferSize] at room
    rcases member with ((rfl | read) | rfl | rfl) |
      write | rfl | rfl | rfl
    · decide
    · exact lengthInside access (.inl read)
    · simp only [Access.Inside, FrameObject.size, maxWsTmpBufferSize]
      omega
    · simp only [Access.Inside, FrameObject.size, maxWsTmpBufferSize]
      omega
    · exact lengthInside access (.inr write)
    · decide
    · simp only [Access.Inside, FrameObject.size, maxWsTmpBufferSize]
      omega
    · simp only [Access.Inside, FrameObject.size, maxWsTmpBufferSize]
      omega

namespace WebSocketProtocol

variable {fin : Bool} {key : MaskingKey} {payload : Bytes}

/-- A frame that fits in `_tmpBuf` does not need the longest length form. -/
theorem clientFrame_length
    (fits : (clientFrame fin key payload).encode.length ≤
      maxWsTmpBufferSize) : 8 + payload.length ≤ maxWsTmpBufferSize := by
  have keyLength := key.property
  have lengthEq : (clientFrame fin key payload).encode.length =
      1 + (encodeLength true payload.length).length + 4 +
        payload.length := by
    rw [Frame.encode_length]
    simp [clientFrame, keyBytes, keyLength]
  rw [lengthEq, encodeLength_length] at fits
  simp only [maxWsTmpBufferSize] at fits ⊢
  split_ifs at fits <;> omega

theorem clientFrame_firstByte :
    (clientFrame fin key payload).firstByte = if fin then 0x82 else 0x02 := by
  have all : ∀ fin : Bool,
      ((if fin then 0x80 else 0) ||| UInt8.ofNat (2 : Fin 16) : UInt8) =
        if fin then 0x82 else 0x02 := by decide
  exact all fin

/-- The bytes of such a frame in either description. -/
theorem clientFrame_encode
    (fits : 8 + payload.length ≤ maxWsTmpBufferSize) :
    (clientFrame fin key payload).encode =
      BinaryFrame.bytes
        { fin, maskKey := key, payload, maskKey_length := key.property
          payload_length := fits } := by
  have lengthEq : encodeLength true payload.length =
      BinaryFrame.lengthField payload.length := by
    simp only [maxWsTmpBufferSize] at fits
    simp only [encodeLength, BinaryFrame.lengthField, maskBit, if_true]
    split_ifs with oneByte twoBytes
    · rfl
    · rfl
    · omega
  rw [Frame.encode, clientFrame_firstByte]
  simp only [clientFrame, BinaryFrame.bytes, Option.isSome_some, keyBytes,
    maskWith, lengthEq]
  rfl

end WebSocketProtocol

open WebSocketProtocol in
/-- A whole frame at the start of `_tmpBuf`, whatever is behind it, is replaced
by its payload. -/
theorem webSocketOneFrame (fin : Bool) (key : MaskingKey) (payload : Bytes)
    (more : Bytes) (buf : Block maxWsTmpBufferSize) (status : IOSocketStatus)
    (begins : buf.bytes = (clientFrame fin key payload).encode ++ more) :
    (removeWebSocketHead buf status).accepted = true ∧
      (removeWebSocketHead buf status).len = payload.length ∧
      (removeWebSocketHead buf status).buf.bytes.take payload.length =
        payload ∧
      ∀ access ∈ (removeWebSocketHead buf status).reads ++
          (removeWebSocketHead buf status).writes,
        access.Inside := by
  have size := buf.bytes_length
  rw [begins, List.length_append] at size
  have fits := clientFrame_length (show
    (clientFrame fin key payload).encode.length ≤ maxWsTmpBufferSize by omega)
  rw [clientFrame_encode fits] at begins
  obtain ⟨accepted, lenEq, -, payloadEq, inside⟩ :=
    removeWebSocketHead_frame status begins
  exact ⟨accepted, lenEq, payloadEq, inside⟩

open WebSocketProtocol in
/-- Three bytes, masked, in an otherwise empty buffer. -/
theorem webSocketOneFrame_threeBytes :
    let buf := frameBuffer (Block.zero maxWsTmpBufferSize)
      (clientFrame true ⟨[7, 8, 9, 10], rfl⟩ [1, 2, 3]).encode
    (removeWebSocketHead buf .connected).accepted = true ∧
      (removeWebSocketHead buf .connected).len = 3 ∧
      (removeWebSocketHead buf .connected).buf.bytes.take 3 = [1, 2, 3] ∧
      ∀ access ∈ (removeWebSocketHead buf .connected).reads ++
          (removeWebSocketHead buf .connected).writes,
        access.Inside :=
  webSocketOneFrame true ⟨[7, 8, 9, 10], rfl⟩ [1, 2, 3] _ _ .connected
    (frameBuffer_bytes (Block.zero maxWsTmpBufferSize) _ (by decide))

end EchoServer
