import EchoServer.ServerIOSocket
import EchoServer.WebSocketProtocol

/-!
# Frames that the server sends

`ServerIOSocket::toSend` and `sendWebSocketBuff`, on a platform where `long`
has eight bytes.  The head of a frame has one of three layouts.  In the
longest, `htonl` converts only the four low bytes of the eight that are
copied.
-/

namespace EchoServer

open ByteOrder

/-- `htons` and `htonl`: the number whose bytes in the memory of the host are
in network order. -/
def hostToNetwork (host : Host) (width number : Nat) : Nat :=
  hostValue host (littleEndian width number).reverse

/-- What `sendWebSocketBuff` returns, `len` afterwards, and what it gives to
`bufferevent_write`. -/
structure FrameSending where
  accepted : Bool
  len : Nat
  written : List Bytes

/-- The bytes from `sendbuf[1]` on that spell the length, and `weblen`. -/
def bodyLength (host : Host) (len : Nat) : Bytes × Nat :=
  if len ≥ 65536 then
    -- `long exlen = htonl((unsigned long)len)`, of which 8 bytes are copied
    (127 :: hostBytes host 8 (hostToNetwork host 4 len), 10)
  else if len ≥ 126 then
    (126 :: hostBytes host 2 (hostToNetwork host 2 len), 4)
  else
    ([UInt8.ofNat len], 2)

/-- `ServerIOSocket::sendWebSocketBuff`; `bev` tells whether there is a
bufferevent. -/
def sendWebSocketBuff (host : Host) (bev : Bool) (flag : WebSocketFlag)
    (buf : Bytes) (len : Nat) : FrameSending :=
  let opcode : UInt8 :=
    match flag with
    | .isWebSocket _ => 0x2
    | _ => 0x1
  let (field, weblen) := bodyLength host len
  -- `__new(len + 16)`, whose memory is filled with zeros
  let sendbuf := Block.zero ((len + 16) % 2 ^ 32)
  let sendbuf := sendbuf.overwrite 0 [0x80 ||| opcode]
  let sendbuf := sendbuf.overwrite 1 field
  let sendbuf := sendbuf.overwrite weblen (buf.take len)
  let len := (len + weblen) % 2 ^ 32
  if bev then
    { accepted := true, len, written := [sendbuf.bytes.take len] }
  else
    { accepted := false, len, written := [] }

/-- `ServerIOSocket::toSend`: the code returned, and what is given to
`bufferevent_write`, which returns a code of its own. -/
def ServerIOSocket.toSend (host : Host) (buffereventWrite : Bytes → Int)
    (buf : Bytes) (len : Nat) (socket : ServerIOSocket) : Int × List Bytes :=
  if socket.status ≠ .connected then
    (-1, [])
  else
    match socket.nWebSocketFlag with
    | .isWebSocket tmpBuf =>
        let sending :=
          sendWebSocketBuff host true (.isWebSocket tmpBuf) buf len
        (if sending.accepted then 1 else 0, sending.written)
    | _ => (buffereventWrite (buf.take len), [buf.take len])

open WebSocketProtocol

/-- In the memory of every host a converted number lies in network order. -/
theorem hostBytes_hostToNetwork (host : Host) (width number : Nat) :
    hostBytes host width (hostToNetwork host width number) =
      (littleEndian width number).reverse := by
  have written := hostBytes_hostValue host (littleEndian width number).reverse
  rw [List.length_reverse, littleEndian_length] at written
  exact written

/-- `weblen` counts the bytes in front of the payload. -/
theorem bodyLength_weblen (host : Host) (len : Nat) :
    (bodyLength host len).2 = 1 + (bodyLength host len).1.length := by
  unfold bodyLength
  split_ifs <;> simp

theorem weblen_le (host : Host) (len : Nat) :
    (bodyLength host len).2 ≤ 10 := by
  unfold bodyLength
  split_ifs <;> simp

/-- On a websocket one frame is written: the first byte, the length and the
payload. -/
theorem sendWebSocketBuff_written (host : Host)
    (tmpBuf : Block maxWsTmpBufferSize) {buf : Bytes} {len : Nat}
    (there : len ≤ buf.length) (fits : len + 16 < 2 ^ 32) :
    (sendWebSocketBuff host true (.isWebSocket tmpBuf) buf len).written =
      [0x82 :: ((bodyLength host len).1 ++ buf.take len)] := by
  have weblen := bodyLength_weblen host len
  have weblenBound := weblen_le host len
  have payload : (buf.take len).length = len := List.length_take_of_le there
  have size : (len + 16) % 2 ^ 32 = len + 16 := Nat.mod_eq_of_lt fits
  have total : (len + (bodyLength host len).2) % 2 ^ 32 =
      ([0x82] ++ (bodyLength host len).1 ++ buf.take len).length := by
    rw [Nat.mod_eq_of_lt (by omega), weblen]
    simp only [List.length_append, List.length_singleton, payload]
    omega
  let first := (Block.zero ((len + 16) % 2 ^ 32)).overwrite 0 [0x82]
  let headed := first.overwrite 1 (bodyLength host len).1
  have firstFilled : first.bytes.take 1 = [0x82] :=
    Block.take_overwrite_behind [] [0x82] rfl
      (by simp only [List.length_nil, List.length_singleton]; omega)
  have headFilled : headed.bytes.take
      ([0x82] ++ (bodyLength host len).1).length =
        [0x82] ++ (bodyLength host len).1 :=
    Block.take_overwrite_behind [0x82] _ firstFilled
      (by simp only [List.length_singleton]; omega)
  have headLength : ([0x82] ++ (bodyLength host len).1).length =
      (bodyLength host len).2 := by
    rw [weblen, List.length_append, List.length_singleton]
  have allFilled := Block.take_overwrite_behind _ (buf.take len) headFilled
    (by rw [headLength, payload]; omega)
  rw [headLength] at allFilled
  simp only [sendWebSocketBuff, if_true, total]
  exact congrArg (fun bytes => [bytes]) allFilled

/-- Below 65536 bytes what is written is a frame. -/
theorem encode_of_short (tmpBuf : Block maxWsTmpBufferSize) {buf : Bytes}
    {len : Nat} (there : len ≤ buf.length) (short : len < 65536) :
    (sendWebSocketBuff .little true (.isWebSocket tmpBuf) buf len).written =
      [Frame.encode
        { fin := true, opcode := 2, maskingKey := none
          payload := buf.take len }] := by
  have payload : (buf.take len).length = len := List.length_take_of_le there
  rw [sendWebSocketBuff_written .little tmpBuf there (by omega)]
  have notMasked : ∀ byte : UInt8, maskBit false ||| byte = byte :=
    fun _ => UInt8.zero_or
  have field : (bodyLength .little len).1 = encodeLength false len := by
    unfold bodyLength encodeLength
    rw [if_neg (by omega)]
    by_cases oneByte : len < 126
    · rw [if_neg (by omega), if_pos oneByte, notMasked]
    · rw [if_pos (by omega), if_neg oneByte, if_pos short, notMasked,
        hostBytes_hostToNetwork]
  have first : Frame.firstByte
      { fin := true, opcode := 2, maskingKey := none
        payload := buf.take len } = 0x82 := by
    simp only [Frame.firstByte]
    decide
  rw [field]
  simp only [Frame.encode, first, payload, Option.isSome_none, keyBytes,
    maskWith, List.append_nil]

/-- From 65536 bytes on, the number in the length field is too large. -/
theorem parse_of_long {buf : Bytes} {len : Nat} (there : len ≤ buf.length)
    (fits : len < 2 ^ 32) (long : 65536 ≤ len) :
    parse (0x82 :: ((bodyLength .little len).1 ++ buf.take len)) = none := by
  have payload : (buf.take len).length = len := List.length_take_of_le there
  have converted : hostToNetwork .little 4 len < 256 ^ 4 := by
    have bound := littleEndianValue_lt (littleEndian 4 len).reverse
    rw [List.length_reverse, littleEndian_length] at bound
    exact bound
  have spelled : hostBytes .little 8 (hostToNetwork .little 4 len) =
      (littleEndian 4 len).reverse ++ List.replicate 4 0 := by
    have low := hostBytes_hostToNetwork .little 4 len
    simp only [hostBytes] at low ⊢
    rw [littleEndian_add converted 4, low]
  have number : parseNumber 8
      ((littleEndian 4 len).reverse ++ List.replicate 4 0 ++
        buf.take len) = some (2 ^ 32 * len, buf.take len) := by
    have split := splitOff_append (buf.take len)
      (show ((littleEndian 4 len).reverse ++
        List.replicate 4 0).length = 8 by simp)
    have value : littleEndianValue
        (List.replicate 4 0 ++ littleEndian 4 len) = 2 ^ 32 * len := by
      rw [littleEndianValue_append,
        littleEndianValue_littleEndian (show len < 256 ^ 4 by omega)]
      have power : 256 ^ 4 = 2 ^ 32 := by decide
      rw [show littleEndianValue (List.replicate 4 0) = 0 from rfl,
        List.length_replicate, Nat.zero_add, power]
    simp only [parseNumber, split, Option.map_some, List.reverse_append,
      List.reverse_replicate, List.reverse_reverse, value]
  have field : (bodyLength .little len).1 =
      127 :: ((littleEndian 4 len).reverse ++ List.replicate 4 0) := by
    unfold bodyLength
    rw [if_pos long, spelled]
  rw [field]
  apply parse_cut
  intro length rest parsed
  rw [parseLength] at parsed
  simp only [show ((127 : UInt8) &&& 0x7F).toNat = 127 from rfl,
    show ¬ (127 : Nat) < 126 by decide, show ¬ (127 : Nat) = 126 by decide,
    if_false, List.append_eq, number, bind, Option.bind] at parsed
  split at parsed
  · cases parsed
    rw [payload]
    omega
  · cases parsed

/-- With a live bufferevent on a little-endian host, what is written is one
final, binary and unmasked frame with the given payload if and only if the
payload is shorter than 65536 bytes. -/
theorem webSocketEncoding_iff (tmpBuf : Block maxWsTmpBufferSize)
    (buf : Bytes) (len : Nat) (there : len ≤ buf.length)
    (fits : len + 16 < 2 ^ 32) :
    (∃ wire,
        (sendWebSocketBuff .little true (.isWebSocket tmpBuf) buf
          len).written = [wire] ∧
        parse wire = some
          ({ fin := true, opcode := 2, maskingKey := none
             payload := buf.take len }, [])) ↔
      len < 65536 := by
  constructor
  · rintro ⟨wire, written, parsed⟩
    by_contra notShort
    rw [sendWebSocketBuff_written .little tmpBuf there fits] at written
    obtain rfl := List.head_eq_of_cons_eq written
    rw [parse_of_long there (by omega) (Nat.le_of_not_lt notShort)] at parsed
    cases parsed
  · intro short
    refine ⟨_, encode_of_short tmpBuf there short, ?_⟩
    have parsed := parse_encode
      { fin := true, opcode := 2, maskingKey := none
        payload := buf.take len } []
      (by simp only [List.length_take]; omega)
    rw [List.append_nil] at parsed
    exact parsed

/-- Of a buffer of 300 bytes, 200 are sent, with a length of two bytes. -/
theorem webSocketEncoding_twoBytes :
    ∃ wire,
      (sendWebSocketBuff .little true
          (.isWebSocket (Block.zero maxWsTmpBufferSize))
          (List.replicate 300 7) 200).written = [wire] ∧
        parse wire = some
          ({ fin := true, opcode := 2, maskingKey := none
             payload := (List.replicate 300 7).take 200 }, []) :=
  (webSocketEncoding_iff (Block.zero maxWsTmpBufferSize)
    (List.replicate 300 7) 200
    (by rw [List.length_replicate]; decide) (by decide)).mpr (by decide)

/-- The shortest payload that needs the longest form. -/
def longPayload : Bytes :=
  List.replicate 65536 0

/-- This payload is not sent as a frame. -/
theorem webSocketEncoding_longPayload :
    longPayload.length = 65536 ∧
      ¬ ∃ wire,
        (sendWebSocketBuff .little true
          (.isWebSocket (Block.zero maxWsTmpBufferSize)) longPayload
          65536).written = [wire] ∧
        parse wire = some
          ({ fin := true, opcode := 2, maskingKey := none
             payload := longPayload.take 65536 }, []) := by
  have length : longPayload.length = 65536 := List.length_replicate
  refine ⟨length, ?_⟩
  rintro ⟨wire, written, parsed⟩
  rw [sendWebSocketBuff_written .little _ (Nat.le_of_eq length.symm)
    (by decide)] at written
  obtain rfl := List.head_eq_of_cons_eq written
  rw [parse_of_long (Nat.le_of_eq length.symm) (by decide) (by decide)]
    at parsed
  cases parsed

end EchoServer
