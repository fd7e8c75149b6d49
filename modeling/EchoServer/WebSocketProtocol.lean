import EchoServer.ByteOrder
import Mathlib.Data.List.TakeWhile

/-!
# Frames of the websocket protocol

A frame has a final bit, an opcode, an optional masking key and a payload.  On
the wire the payload length is spelled in the shortest of three forms.  Parsing
takes one frame from the front of a byte string; it inverts encoding.
-/

namespace EchoServer

namespace WebSocketProtocol

open ByteOrder

/-- The four bytes with which a payload is masked. -/
abbrev MaskingKey := { key : Bytes // key.length = 4 }

/-- A frame, with its payload in the clear. -/
structure Frame where
  fin : Bool
  opcode : Fin 16
  maskingKey : Option MaskingKey
  payload : Bytes
  deriving DecidableEq

/-- The exclusive or of a payload with the repeated key. -/
def mask (key payload : Bytes) : Bytes :=
  payload.mapIdx fun i byte => byte ^^^ key.getD (i % 4) 0

/-- The payload as it is on the wire. -/
def maskWith : Option MaskingKey → Bytes → Bytes
  | none, payload => payload
  | some key, payload => mask key payload

def maskBit (masked : Bool) : UInt8 :=
  if masked then 0x80 else 0

/-- The payload length in its shortest form, behind the bit that tells whether
there is a key. -/
def encodeLength (masked : Bool) (length : Nat) : Bytes :=
  if length < 126 then [maskBit masked ||| UInt8.ofNat length]
  else if length < 65536 then
    (maskBit masked ||| 126) :: (littleEndian 2 length).reverse
  else (maskBit masked ||| 127) :: (littleEndian 8 length).reverse

def keyBytes : Option MaskingKey → Bytes
  | none => []
  | some key => key

namespace Frame

def firstByte (frame : Frame) : UInt8 :=
  (if frame.fin then 0x80 else 0) ||| UInt8.ofNat frame.opcode

def encode (frame : Frame) : Bytes :=
  frame.firstByte ::
    (encodeLength frame.maskingKey.isSome frame.payload.length ++
      keyBytes frame.maskingKey ++
      maskWith frame.maskingKey frame.payload)

end Frame

/-- Split off the first bytes, if there are enough. -/
def splitOff (count : Nat) (bytes : Bytes) :
    Option ({ front : Bytes // front.length = count } × Bytes) :=
  if enough : count ≤ bytes.length then
    some (⟨bytes.take count, List.length_take_of_le enough⟩,
      bytes.drop count)
  else
    none

/-- A number of the given width, most significant byte first. -/
def parseNumber (width : Nat) (bytes : Bytes) : Option (Nat × Bytes) :=
  (splitOff width bytes).map fun (front, rest) =>
    (littleEndianValue front.val.reverse, rest)

/-- The payload length, of which the first byte has been taken.  Only the
shortest form is valid, and the longest has its highest bit clear. -/
def parseLength (second : UInt8) (bytes : Bytes) : Option (Nat × Bytes) :=
  let short := (second &&& 0x7F).toNat
  if short < 126 then
    some (short, bytes)
  else if short = 126 then do
    let (length, rest) ← parseNumber 2 bytes
    if 126 ≤ length then some (length, rest) else none
  else do
    let (length, rest) ← parseNumber 8 bytes
    if 65536 ≤ length ∧ length < 2 ^ 63 then some (length, rest) else none

def parseKey (masked : Bool) (bytes : Bytes) :
    Option (Option MaskingKey × Bytes) :=
  if masked then
    (splitOff 4 bytes).map fun (key, rest) => (some key, rest)
  else
    some (none, bytes)

/-- The frame at the front of a byte string, and the bytes behind it.  The
three reserved bits have to be clear. -/
def parse : Bytes → Option (Frame × Bytes)
  | first :: second :: rest =>
      if first &&& 0x70 ≠ 0 then
        none
      else do
        let (length, rest) ← parseLength second rest
        let (maskingKey, rest) ← parseKey (second &&& 0x80 != 0) rest
        let (payload, rest) ← splitOff length rest
        some
          ({ fin := first &&& 0x80 != 0
             opcode := Fin.ofNat 16 (first &&& 0x0F).toNat
             maskingKey
             payload := maskWith maskingKey payload.val },
            rest)
  | _ => none

/-- A masked binary frame that holds the given payload. -/
def clientFrame (fin : Bool) (key : MaskingKey) (payload : Bytes) : Frame where
  fin := fin
  opcode := 2
  maskingKey := some key
  payload := payload

@[simp]
theorem mask_length (key payload : Bytes) :
    (mask key payload).length = payload.length := by
  simp [mask]

/-- Masking twice gives the payload back. -/
theorem mask_mask (key payload : Bytes) :
    mask key (mask key payload) = payload := by
  apply List.ext_getElem
  · simp
  · intro index inMasked inPayload
    simp only [mask, List.getElem_mapIdx, UInt8.xor_assoc, UInt8.xor_self,
      UInt8.xor_zero]

@[simp]
theorem maskWith_length (maskingKey : Option MaskingKey) (payload : Bytes) :
    (maskWith maskingKey payload).length = payload.length := by
  cases maskingKey with
  | none => rfl
  | some key => exact mask_length key payload

theorem maskWith_maskWith (maskingKey : Option MaskingKey)
    (payload : Bytes) :
    maskWith maskingKey (maskWith maskingKey payload) = payload := by
  cases maskingKey with
  | none => rfl
  | some key => exact mask_mask key payload

theorem encodeLength_length (masked : Bool) (length : Nat) :
    (encodeLength masked length).length =
      if length < 126 then 1 else if length < 65536 then 3 else 9 := by
  unfold encodeLength
  split_ifs <;> simp

theorem Frame.encode_length (frame : Frame) :
    frame.encode.length =
      1 + (encodeLength frame.maskingKey.isSome
        frame.payload.length).length +
          (keyBytes frame.maskingKey).length + frame.payload.length := by
  simp only [Frame.encode, List.length_cons, List.length_append,
    maskWith_length]
  omega

theorem splitOff_append {front : Bytes} {count : Nat} (rest : Bytes)
    (length : front.length = count) :
    splitOff count (front ++ rest) = some (⟨front, length⟩, rest) := by
  subst length
  simp [splitOff]

theorem splitOff_short {count : Nat} {bytes : Bytes}
    (short : bytes.length < count) : splitOff count bytes = none :=
  dif_neg (Nat.not_le.mpr short)

theorem parseNumber_append {width number : Nat} (rest : Bytes)
    (fits : number < 256 ^ width) :
    parseNumber width ((littleEndian width number).reverse ++ rest) =
      some (number, rest) := by
  have split := splitOff_append rest
    (show (littleEndian width number).reverse.length = width by simp)
  simp only [parseNumber, split, Option.map_some, List.reverse_reverse,
    littleEndianValue_littleEndian fits]

theorem splitOff_length {count : Nat} {bytes rest : Bytes}
    {front : { front : Bytes // front.length = count }}
    (split : splitOff count bytes = some (front, rest)) :
    count + rest.length = bytes.length := by
  unfold splitOff at split
  split at split
  · cases split
    rw [List.length_drop]
    omega
  · cases split

theorem parseKey_length {masked : Bool} {bytes rest : Bytes}
    {maskingKey : Option MaskingKey}
    (parsed : parseKey masked bytes = some (maskingKey, rest)) :
    rest.length ≤ bytes.length := by
  cases masked with
  | false =>
      cases parsed
      exact Nat.le_refl _
  | true =>
      simp only [parseKey, if_true, Option.map_eq_some_iff] at parsed
      obtain ⟨⟨key, behind⟩, split, same⟩ := parsed
      have lengths := splitOff_length split
      have restEq : behind = rest := congrArg Prod.snd same
      subst restEq
      omega

/-- There is no frame at the front of a byte string that ends before the
announced payload does. -/
theorem parse_cut (first : UInt8) {second : UInt8} {bytes : Bytes}
    (cut : ∀ length rest, parseLength second bytes = some (length, rest) →
      rest.length < length) : parse (first :: second :: bytes) = none := by
  rw [parse]
  split
  · rfl
  · cases lengthParsed : parseLength second bytes with
    | none => rfl
    | some parsed =>
        obtain ⟨length, rest⟩ := parsed
        have short := cut length rest lengthParsed
        cases keyParsed : parseKey (second &&& 0x80 != 0) rest with
        | none => simp only [bind, Option.bind, keyParsed]
        | some keyed =>
            obtain ⟨maskingKey, behind⟩ := keyed
            have le := parseKey_length keyParsed
            have missing : splitOff length behind = none :=
              splitOff_short (by omega)
            simp only [bind, Option.bind, keyParsed, missing]

/-- The second byte of a frame holds the bit and seven bits of the length. -/
theorem second_byte (masked : Bool) {short : Nat} (fits : short < 128) :
    ((maskBit masked ||| UInt8.ofNat short) &&& 0x7F).toNat = short ∧
      ((maskBit masked ||| UInt8.ofNat short) &&& 0x80 != 0) = masked := by
  have all : ∀ (masked : Bool) (short : Fin 128),
      ((maskBit masked ||| UInt8.ofNat short) &&& 0x7F).toNat = short ∧
        ((maskBit masked ||| UInt8.ofNat short) &&& 0x80 != 0) =
          masked := by decide
  exact all masked ⟨short, fits⟩

theorem first_byte (frame : Frame) :
    frame.firstByte &&& 0x70 = 0 ∧
      (frame.firstByte &&& 0x80 != 0) = frame.fin ∧
      Fin.ofNat 16 (frame.firstByte &&& 0x0F).toNat = frame.opcode := by
  have all : ∀ (fin : Bool) (opcode : Fin 16),
      let byte : UInt8 := (if fin then 0x80 else 0) ||| UInt8.ofNat opcode
      byte &&& 0x70 = 0 ∧ (byte &&& 0x80 != 0) = fin ∧
        Fin.ofNat 16 (byte &&& 0x0F).toNat = opcode := by decide
  exact all frame.fin frame.opcode

/-- A length is parsed from its encoding, and so is the bit in front of it. -/
theorem parseLength_encodeLength (masked : Bool) {length : Nat}
    (fits : length < 2 ^ 63) (rest : Bytes) :
    ∃ second more, encodeLength masked length ++ rest = second :: more ∧
      (second &&& 0x80 != 0) = masked ∧
      parseLength second more = some (length, rest) := by
  unfold encodeLength
  by_cases oneByte : length < 126
  · obtain ⟨lengthEq, maskEq⟩ :=
      second_byte masked (show length < 128 by omega)
    rw [if_pos oneByte]
    refine ⟨_, rest, rfl, maskEq, ?_⟩
    simp only [parseLength, lengthEq, oneByte, if_true]
  rw [if_neg oneByte]
  by_cases twoBytes : length < 65536
  · obtain ⟨lengthEq, maskEq⟩ := second_byte masked (show 126 < 128 by decide)
    have number := parseNumber_append rest
      (show length < 256 ^ 2 by omega)
    rw [if_pos twoBytes]
    refine ⟨_, (littleEndian 2 length).reverse ++ rest, rfl, maskEq, ?_⟩
    have notShort : ¬ (126 : Nat) < 126 := by decide
    simp only [parseLength, show UInt8.ofNat 126 = 126 from rfl] at lengthEq ⊢
    simp only [lengthEq, notShort, if_false, if_true, bind, Option.bind,
      number, Nat.le_of_not_lt oneByte]
  · obtain ⟨lengthEq, maskEq⟩ := second_byte masked (show 127 < 128 by decide)
    have number := parseNumber_append rest
      (show length < 256 ^ 8 by omega)
    rw [if_neg twoBytes]
    refine ⟨_, (littleEndian 8 length).reverse ++ rest, rfl, maskEq, ?_⟩
    have notShort : ¬ (127 : Nat) < 126 ∧ ¬ (127 : Nat) = 126 := by decide
    simp only [parseLength, show UInt8.ofNat 127 = 127 from rfl] at lengthEq ⊢
    simp only [lengthEq, notShort.1, notShort.2, if_false, if_true, bind,
      Option.bind, number, Nat.le_of_not_lt twoBytes, fits, and_self]

theorem parseKey_keyBytes (maskingKey : Option MaskingKey) (rest : Bytes) :
    parseKey maskingKey.isSome (keyBytes maskingKey ++ rest) =
      some (maskingKey, rest) := by
  cases maskingKey with
  | none => rfl
  | some key =>
      have split := splitOff_append rest key.property
      simp only [parseKey, Option.isSome_some, if_true, keyBytes, split,
        Option.map_some]

/-- A frame is parsed from the front of any byte string that begins with its
encoding. -/
theorem parse_encode (frame : Frame) (rest : Bytes)
    (fits : frame.payload.length < 2 ^ 63) :
    parse (frame.encode ++ rest) = some (frame, rest) := by
  obtain ⟨reserved, finEq, opcodeEq⟩ := first_byte frame
  obtain ⟨second, more, split, maskedEq, lengthParsed⟩ :=
    parseLength_encodeLength frame.maskingKey.isSome fits
      (keyBytes frame.maskingKey ++
        (maskWith frame.maskingKey frame.payload ++ rest))
  have wire : frame.encode ++ rest = frame.firstByte :: second :: more := by
    rw [← split]
    simp only [Frame.encode, List.cons_append, List.append_assoc]
  have keyParsed := parseKey_keyBytes frame.maskingKey
    (maskWith frame.maskingKey frame.payload ++ rest)
  have payloadSplit := splitOff_append rest
    (maskWith_length frame.maskingKey frame.payload)
  rw [wire]
  simp only [parse, reserved, ne_eq, not_true_eq_false, if_false, bind,
    Option.bind, lengthParsed, maskedEq, keyParsed, payloadSplit, finEq,
    opcodeEq, maskWith_maskWith]

end WebSocketProtocol

end EchoServer
