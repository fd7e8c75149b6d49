import EchoServer.Sha1Calls
import EchoServer.WebSocketHandShake

/-!
# The answer to a websocket request, with its digest

`doWebSocketHandShake` with the class `SHA1` that it uses.  Whatever follows
the name of the key in a request, the answer holds the base64 text of the
digest that the standard defines, and every array of the function is large
enough.
-/

namespace EchoServer

open SecureHash

/-- `message_digest` after `sha.Reset()`, `sha << realKey` and
`sha.Result(message_digest)`, in memory that holds any block and any words. -/
def Sha1.messageDigest (messageBlock : Block 64) (stale : Digest)
    (realKey : Bytes) : Digest :=
  let answer : Except Sha1Fault (Option Words × Sha1) := do
    let sha ← (Sha1.new messageBlock).reset.insertion realKey
    sha.result
  match answer with
  | .ok (some digest, _) => digest
  | _ => stale

/-- The words are those of the digest, and nothing of the memory is left. -/
theorem Sha1.messageDigest_eq (messageBlock : Block 64) (stale : Digest)
    (realKey : Bytes) (admissible : Admissible (cString realKey)) :
    messageDigest messageBlock stale realKey = sha1 (cString realKey) := by
  have start : (Sha1.new messageBlock).reset.Represents (.taking []) :=
    reset_holds _
  obtain ⟨fed, inserted, holds⟩ :=
    inputEach_represents start (cString realKey)
  rw [Hashing.feed, List.nil_append, if_pos admissible] at holds
  obtain ⟨after, answered, -⟩ := result_represents holds
  rw [messageDigest, insertion, inserted]
  simp only [bind, Except.bind, answered, Hashing.digest]

/-- Three bytes take four letters, and so does what is left. -/
theorem Base64.encode_length (bytes : Bytes) :
    (encode bytes).length = 4 * ((bytes.length + 2) / 3) := by
  induction bytes using encode.induct with
  | case1 => rfl
  | case2 first => simp [encode]
  | case3 first second => simp [encode]
  | case4 first second third rest ih =>
      rw [encode, List.length_append, ih]
      simp only [List.length_cons, List.length_nil]
      omega

theorem acceptKey_length (sha1 : Bytes → Digest) (key : Bytes) :
    (acceptKey sha1 key).length = 28 := by
  rw [acceptKey, Base64.encode_length, Digest.bytes_length]

theorem switchingProtocols_length (accept : Bytes) :
    (switchingProtocols accept).bytes.length = 101 + accept.length := by
  have texts : (text "HTTP/1.1 101 Switching Protocols").length = 32 ∧
      (text "\r\n").length = 2 ∧ (text ": ").length = 2 ∧
      (text "Upgrade").length = 7 ∧ (text "websocket").length = 9 ∧
      (text "Connection").length = 10 ∧
      (text "Sec-WebSocket-Accept").length = 20 := by decide
  obtain ⟨startLine, lineEnd, colon, upgrade, websocket, connection, name⟩ :=
    texts
  simp only [switchingProtocols, MessageHead.bytes, List.flatMap_cons,
    List.flatMap_nil, List.length_append, List.length_nil, startLine, lineEnd,
    colon, upgrade, websocket, connection, name]
  omega

/-- The text that is hashed: the key up to a zero byte, and the suffix. -/
theorem cString_realKey (reqKey : Bytes) :
    cString (cString reqKey ++ keySuffix) = cString reqKey ++ keySuffix := by
  have suffixNoZero : 0 ∉ keySuffix := by decide
  apply cString_eq_self
  intro byte member
  rcases List.mem_append.mp member with inKey | inSuffix
  · simpa using List.mem_takeWhile_imp inKey
  · exact fun zero => suffixNoZero (zero ▸ inSuffix)

/-- Every request in which the name of the key is found, and 24 bytes behind
its place, is answered with the base64 text of the digest of the key and the
suffix.  The arrays `realKey`, `key` and `response` hold their texts with the
terminators. -/
theorem webSocketAccept (host : ByteOrder.Host) (messageBlock : Block 64)
    (stale : Digest) (buffereventWrite : Bytes → Int)
    (socket : ServerIOSocket) (connected : socket.status = .connected)
    (plain : ∀ tmpBuf, socket.nWebSocketFlag ≠ .isWebSocket tmpBuf)
    (buf : Bytes) (pos : Nat) (found : strstr buf keyName = some pos)
    (inside : pos + 19 + 24 ≤ buf.length) :
    let key := cString ((buf.drop (pos + 19)).take 24)
    let accept := Base64.encode (Digest.bytes (sha1 (key ++ keySuffix)))
    let answer := (switchingProtocols accept).bytes
    doWebSocketHandShake host (Sha1.messageDigest messageBlock stale)
        buffereventWrite buf socket =
      .ok (decide (buffereventWrite answer = 0), [answer]) ∧
      (key ++ keySuffix).length < 128 ∧ accept.length < 32 ∧
        answer.length < 1024 := by
  intro key accept answer
  have keyLength : key.length ≤ 24 :=
    ((List.takeWhile_sublist _).length_le).trans (List.length_take_le _ _)
  have suffixLength : keySuffix.length = 36 := by decide
  have realKeyLength : (key ++ keySuffix).length ≤ 60 := by
    rw [List.length_append, suffixLength]
    omega
  have acceptLength : accept.length = 28 := acceptKey_length sha1 key
  have answerLength : answer.length = 129 := by
    rw [switchingProtocols_length, acceptLength]
  have realKey : cString (key ++ keySuffix) = key ++ keySuffix :=
    cString_realKey _
  have digest : Sha1.messageDigest messageBlock stale (key ++ keySuffix) =
      sha1 (key ++ keySuffix) := by
    rw [Sha1.messageDigest_eq]
    · rw [realKey]
    · rw [realKey, Admissible]
      omega
  have value : cString (encodeBase64 (Digest.bytes
      (sha1 (key ++ keySuffix)))).2 = accept := encodeBase64_digest _
  have terminated : cString answer = answer := by
    have printed := cString_response value (Base64.encode_ne_zero _)
    rwa [response_eq value] at printed
  have sent := socket.toSend_plain host buffereventWrite connected plain answer
  refine ⟨?_, by omega, by omega, by omega⟩
  simp only [doWebSocketHandShake, found, if_neg (Nat.not_lt.mpr inside)]
  rw [show cString ((buf.drop (pos + 19)).take 24) = key from rfl, realKey,
    digest, networkDigest_eq, response_eq value, terminated, sent]

/-- The key and the value that the protocol gives as an example. -/
theorem webSocketAccept_sample :
    doWebSocketHandShake .little
        (Sha1.messageDigest (Block.zero 64) (fiveWords 0 0 0 0 0)) (fun _ => 0)
        (text "GET / HTTP/1.1\r\n" ++ keyName ++ text ": " ++
          text "dGhlIHNhbXBsZSBub25jZQ==" ++ text "\r\n\r\n")
        { status := .connected, nWebSocketFlag := .wfUnknown
          buffer := ⟨Block.zero maxBufferSize, 0⟩ } =
      .ok (true, [(switchingProtocols
        (text "s3pPLMBiTxaQ9kYGzzhZRbK+xOo=")).bytes]) := by
  let request := text "GET / HTTP/1.1\r\n" ++ keyName ++ text ": " ++
    text "dGhlIHNhbXBsZSBub25jZQ==" ++ text "\r\n\r\n"
  let realKey := cString ((request.drop (16 + 19)).take 24) ++ keySuffix
  have value : Base64.encode (Digest.bytes (sha1 realKey)) =
      text "s3pPLMBiTxaQ9kYGzzhZRbK+xOo=" := by
    have whole : cString realKey = realKey := cString_realKey _
    have digest := Sha1.messageDigest_eq (Block.zero 64)
      (fiveWords 0 0 0 0 0) realKey (by decide +kernel)
    rw [whole] at digest
    rw [← digest]
    decide +kernel
  have answered := (webSocketAccept .little (Block.zero 64)
    (fiveWords 0 0 0 0 0) (fun _ => 0)
    { status := .connected, nWebSocketFlag := .wfUnknown
      buffer := ⟨Block.zero maxBufferSize, 0⟩ } rfl (fun _ => nofun) request
    16 (by decide +kernel) (by decide +kernel)).1
  rw [value] at answered
  exact answered

end EchoServer
