import EchoServer.EncodeBase64
import EchoServer.WebSocketEncoding

/-!
# The answer to a websocket request

`ServerIOSocket::doWebSocketHandShake`.  The key of the request is found by
its name and has a fixed place and length behind it.  What the class `SHA1`
computes is a parameter: the five words that `Result` stores for the bytes fed
to it.
-/

namespace EchoServer

open ByteOrder

/-- The words of a digest, in the order in which `SHA1::Result` stores them. -/
abbrev Digest := Vector UInt32 5

/-- The twenty bytes of a digest, every word with its highest byte first. -/
def Digest.bytes (digest : Digest) : Bytes :=
  digest.toList.flatMap fun word => (littleEndian 4 word.toNat).reverse

/-- `message_digest`, in the memory of the host, after `htonl` of every
word. -/
def networkDigest (host : Host) (digest : Digest) : Bytes :=
  digest.toList.flatMap fun word =>
    hostBytes host 4 (hostToNetwork host 4 word.toNat)

/-- The field of a request that holds the key. -/
def keyName : Bytes :=
  text "Sec-WebSocket-Key"

/-- What is appended to the key. -/
def keySuffix : Bytes :=
  text "258EAFA5-E914-47DA-95CA-C5AB0DC85B11"

/-- `strstr`, as an offset from the start of the buffer. -/
def strstr (buf pattern : Bytes) : Option Nat :=
  firstOccurrence pattern (cString buf)

/-- The text that `sprintf` makes of `key`. -/
def response (key : Bytes) : Bytes :=
  text "HTTP/1.1 101 Switching Protocols\r\n" ++
    text "Upgrade: websocket\r\n" ++
    text "Connection: Upgrade\r\n" ++
    text "Sec-WebSocket-Accept: " ++ cString key ++ text "\r\n\r\n"

/-- `ServerIOSocket::doWebSocketHandShake`: its result, and what is given to
`bufferevent_write`. -/
def doWebSocketHandShake (host : Host) (sha1 : Bytes → Digest)
    (buffereventWrite : Bytes → Int) (buf : Bytes) (socket : ServerIOSocket) :
    Except RecvStop (Bool × List Bytes) :=
  match strstr buf keyName with
  | none => .ok (false, [])
  | some pos =>
      -- `memcpy(reqKey, pos + 19, 24)`
      if buf.length < pos + 19 + 24 then
        .error .outOfBounds
      else
        let reqKey := (buf.drop (pos + 19)).take 24
        let realKey := cString reqKey ++ keySuffix
        -- `sha << realKey` feeds the bytes in front of the terminator.
        let messageDigest := networkDigest host (sha1 (cString realKey))
        let key := (encodeBase64 messageDigest).2
        let answer := response key
        let (code, written) := socket.toSend host buffereventWrite answer
          (cString answer).length
        .ok (decide (code = 0), written)

/-- The head of a message: its first line and its fields. -/
structure MessageHead where
  startLine : Bytes
  fields : List (Bytes × Bytes)

/-- Every line ends with a carriage return and a line feed, and an empty line
ends the head. -/
def MessageHead.bytes (head : MessageHead) : Bytes :=
  head.startLine ++ text "\r\n" ++
    (head.fields.flatMap fun field =>
      field.1 ++ text ": " ++ field.2 ++ text "\r\n") ++ text "\r\n"

/-- The answer that accepts the upgrade to a websocket. -/
def switchingProtocols (accept : Bytes) : MessageHead where
  startLine := text "HTTP/1.1 101 Switching Protocols"
  fields :=
    [(text "Upgrade", text "websocket"), (text "Connection", text "Upgrade"),
      (text "Sec-WebSocket-Accept", accept)]

/-- The value that a client expects for its key. -/
def acceptKey (sha1 : Bytes → Digest) (key : Bytes) : Bytes :=
  Base64.encode (sha1 (key ++ keySuffix)).bytes

/-- On every host, the converted digest lies in memory as its bytes. -/
theorem networkDigest_eq (host : Host) (digest : Digest) :
    networkDigest host digest = digest.bytes := by
  simp only [networkDigest, Digest.bytes, hostBytes_hostToNetwork]

theorem Digest.bytes_length (digest : Digest) : digest.bytes.length = 20 := by
  simp [bytes, List.length_flatMap]

/-- The value in the answer is base64. -/
theorem encodeBase64_digest (digest : Digest) :
    cString (encodeBase64 digest.bytes).2 = Base64.encode digest.bytes := by
  have length := digest.bytes_length
  rw [encodeBase64_eq (by omega) (by omega)]
  exact cString_append (Base64.encode_ne_zero _) []

/-- What is printed is the head of an answer. -/
theorem response_eq {key accept : Bytes} (value : cString key = accept) :
    response key = (switchingProtocols accept).bytes := by
  have start : text "HTTP/1.1 101 Switching Protocols\r\n" =
      text "HTTP/1.1 101 Switching Protocols" ++ text "\r\n" := by decide
  have upgrade : text "Upgrade: websocket\r\n" =
      text "Upgrade" ++ text ": " ++ text "websocket" ++ text "\r\n" := by
    decide
  have connection : text "Connection: Upgrade\r\n" =
      text "Connection" ++ text ": " ++ text "Upgrade" ++ text "\r\n" := by
    decide
  have name : text "Sec-WebSocket-Accept: " =
      text "Sec-WebSocket-Accept" ++ text ": " := by decide
  have lastLines : text "\r\n\r\n" = text "\r\n" ++ text "\r\n" := by decide
  rw [response, value, start, upgrade, connection, name, lastLines]
  simp only [MessageHead.bytes, switchingProtocols, List.flatMap_cons,
    List.flatMap_nil, List.append_nil, List.append_assoc]

theorem cString_response {key accept : Bytes} (value : cString key = accept)
    (noZero : ∀ byte ∈ accept, byte ≠ 0) :
    cString (response key) = response key := by
  have front : 0 ∉ text "HTTP/1.1 101 Switching Protocols\r\n" ++
      text "Upgrade: websocket\r\n" ++ text "Connection: Upgrade\r\n" ++
      text "Sec-WebSocket-Accept: " := by decide
  have back : 0 ∉ text "\r\n\r\n" := by decide
  apply cString_eq_self
  intro byte member
  rw [response, value, List.mem_append, List.mem_append] at member
  rcases member with (inFront | inValue) | inBack
  · exact fun zero => front (zero ▸ inFront)
  · exact noZero byte inValue
  · exact fun zero => back (zero ▸ inBack)

/-- On a connected socket that is not a websocket, text is sent as it is. -/
theorem ServerIOSocket.toSend_plain (host : Host)
    (buffereventWrite : Bytes → Int) {socket : ServerIOSocket}
    (connected : socket.status = .connected)
    (plain : ∀ tmpBuf, socket.nWebSocketFlag ≠ .isWebSocket tmpBuf)
    (buf : Bytes) :
    socket.toSend host buffereventWrite buf buf.length =
      (buffereventWrite buf, [buf]) := by
  rw [toSend, if_neg (not_not_intro connected)]
  split
  · rename_i tmpBuf flag
    exact absurd flag (plain tmpBuf)
  · rw [List.take_length]

/-- A request with a key is answered once, with the value that belongs to the
key. -/
theorem webSocketHandShake (host : Host) (sha1 : Bytes → Digest)
    (buffereventWrite : Bytes → Int) (socket : ServerIOSocket)
    (before key after behind : Bytes)
    (connected : socket.status = .connected)
    (plain : ∀ tmpBuf, socket.nWebSocketFlag ≠ .isWebSocket tmpBuf)
    (noZero : ∀ byte ∈ before ++ keyName ++ text ": " ++ key ++ after,
      byte ≠ 0)
    (first : ∀ place < before.length,
      ¬ keyName <+:
        (before ++ keyName ++ text ": " ++ key ++ after).drop place)
    (keyLength : key.length = 24) :
    let answer := (switchingProtocols (acceptKey sha1 key)).bytes
    doWebSocketHandShake host sha1 buffereventWrite
        (before ++ keyName ++ text ": " ++ key ++ after ++ 0 :: behind)
        socket =
      .ok (decide (buffereventWrite answer = 0), [answer]) := by
  have nameLength : (keyName ++ text ": ").length = 19 := by decide
  have found : strstr
      (before ++ keyName ++ text ": " ++ key ++ after ++ 0 :: behind)
        keyName = some before.length := by
    rw [strstr, cString_append noZero]
    apply firstOccurrence_eq _ _ first
    · simp only [List.append_assoc, List.drop_left]
      exact List.prefix_append _ _
    · simp only [List.append_assoc, List.length_append]
      omega
  have reqKey : ((before ++ keyName ++ text ": " ++ key ++ after ++
      0 :: behind).drop (before.length + 19)).take 24 = key := by
    have split : before ++ keyName ++ text ": " ++ key ++ after ++
        0 :: behind =
          (before ++ (keyName ++ text ": ")) ++
            (key ++ (after ++ 0 :: behind)) := by
      simp only [List.append_assoc]
    rw [split, List.drop_left' (by rw [List.length_append, nameLength])]
    exact List.take_left' keyLength
  have inside : ¬ (before ++ keyName ++ text ": " ++ key ++ after ++
      0 :: behind).length < before.length + 19 + 24 := by
    rw [List.length_append] at nameLength
    simp only [List.length_append, keyLength]
    omega
  have keyNoZero : ∀ byte ∈ key, byte ≠ 0 := by
    intro byte member
    exact noZero byte (by simp [member])
  have suffixNoZero : 0 ∉ keySuffix := by decide
  have realKey : cString (cString key ++ keySuffix) = key ++ keySuffix := by
    rw [cString_eq_self keyNoZero]
    apply cString_eq_self
    intro byte member
    rcases List.mem_append.mp member with inKey | inSuffix
    · exact keyNoZero byte inKey
    · exact fun zero => suffixNoZero (zero ▸ inSuffix)
  have value := encodeBase64_digest (sha1 (key ++ keySuffix))
  have sent := socket.toSend_plain host buffereventWrite connected plain
    (response (encodeBase64 (sha1 (key ++ keySuffix)).bytes).2)
  simp only [doWebSocketHandShake, found, if_neg inside, reqKey, realKey,
    networkDigest_eq, cString_response value (Base64.encode_ne_zero _), sent]
  rw [response_eq value]
  rfl

/-- A request with a key whose answer is known. -/
theorem webSocketHandShake_sample :
    let sha1 : Bytes → Digest := fun _ =>
      #v[0xb37a4f2c, 0xc0624f16, 0x90f64606, 0xcf385945, 0xb2bec4ea]
    let socket : ServerIOSocket :=
      { status := .connected, nWebSocketFlag := .wfUnknown
        buffer := ⟨Block.zero maxBufferSize, 0⟩ }
    let answer := (switchingProtocols
      (text "s3pPLMBiTxaQ9kYGzzhZRbK+xOo=")).bytes
    doWebSocketHandShake .little sha1 (fun _ => 0)
        (text "GET / HTTP/1.1\r\n" ++ keyName ++ text ": " ++
          text "dGhlIHNhbXBsZSBub25jZQ==" ++ text "\r\n\r\n" ++ 0 :: [])
        socket =
      .ok (true, [answer]) := by
  intro sha1 socket answer
  have value : acceptKey sha1 (text "dGhlIHNhbXBsZSBub25jZQ==") =
      text "s3pPLMBiTxaQ9kYGzzhZRbK+xOo=" := by decide +kernel
  have answered := webSocketHandShake .little sha1 (fun _ => 0) socket
    (text "GET / HTTP/1.1\r\n") (text "dGhlIHNhbXBsZSBub25jZQ==")
    (text "\r\n\r\n") [] rfl (fun _ => nofun) (by decide +kernel)
    (by decide +kernel) (by decide)
  rw [value] at answered
  exact answered

end EchoServer
