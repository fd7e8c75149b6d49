import EchoServer.ByteBlock
import EchoServer.CStrings
import EchoServer.SecureHash

/-!
# The class `SHA1`

`sha1.cpp`.  The message comes in pieces and is kept in a block of 64 bytes
until the block is full; the number of its bits is counted in two words.  A
write behind the end of `Message_Block` is a fault of its own.
-/

namespace EchoServer

open SecureHash (Words fiveWords nth)

/-- A write behind the end of `Message_Block`. -/
inductive Sha1Fault
  | outOfBlock
  deriving DecidableEq

/-- `SHA1`. -/
structure Sha1 where
  h : Words
  lengthLow : UInt32
  lengthHigh : UInt32
  messageBlock : Block 64
  messageBlockIndex : Nat
  computed : Bool
  corrupted : Bool

/-- `SHA1::CircularShift`. -/
def circularShift (bits word : UInt32) : UInt32 :=
  ((word <<< bits) &&& 0xFFFFFFFF) |||
    ((word &&& 0xFFFFFFFF) >>> (32 - bits))

/-- The variables `A` to `E` of `SHA1::ProcessMessageBlock`. -/
structure WordBuffers where
  a : UInt32
  b : UInt32
  c : UInt32
  d : UInt32
  e : UInt32

/-- A pass of one of the four loops over the buffers, with the function that
its first line applies to `B`, `C` and `D`. -/
def WordBuffers.pass (f : UInt32 → UInt32 → UInt32 → UInt32) (k w : UInt32)
    (buffers : WordBuffers) : WordBuffers :=
  let temp := circularShift 5 buffers.a +
    f buffers.b buffers.c buffers.d + buffers.e + w + k
  { e := buffers.d
    d := buffers.c
    c := circularShift 30 buffers.b
    b := buffers.a
    a := temp &&& 0xFFFFFFFF }

/-- A loop from `first` on, of twenty passes. -/
def WordBuffers.loop (f : UInt32 → UInt32 → UInt32 → UInt32) (k : UInt32)
    (w : List UInt32) (first : Nat) (buffers : WordBuffers) : WordBuffers :=
  (List.range' first 20).foldl
    (fun buffers t => buffers.pass f k (w.getD t 0)) buffers

namespace Sha1

/-- The loops that fill `W`.  The words are appended in the order in which
they are computed. -/
def wordSequence (messageBlock : Block 64) : List UInt32 :=
  let byte (index : Nat) : UInt32 :=
    (messageBlock.bytes.getD index 0).toUInt32
  let first := (List.range 16).map fun t =>
    (byte (t * 4) <<< 24) ||| (byte (t * 4 + 1) <<< 16) |||
      (byte (t * 4 + 2) <<< 8) ||| byte (t * 4 + 3)
  (List.range' 16 64).foldl
    (fun w t => w ++
      [circularShift 1 (w.getD (t - 3) 0 ^^^ w.getD (t - 8) 0 ^^^
        w.getD (t - 14) 0 ^^^ w.getD (t - 16) 0)])
    first

/-- `SHA1::ProcessMessageBlock`. -/
def processMessageBlock (sha : Sha1) : Sha1 :=
  let w := wordSequence sha.messageBlock
  let buffers : WordBuffers :=
    { a := nth sha.h 0
      b := nth sha.h 1
      c := nth sha.h 2
      d := nth sha.h 3
      e := nth sha.h 4 }
  let buffers := buffers.loop (fun b c d => (b &&& c) ||| (~~~b &&& d))
    0x5A827999 w 0
  let buffers := buffers.loop (fun b c d => b ^^^ c ^^^ d) 0x6ED9EBA1 w 20
  let buffers := buffers.loop
    (fun b c d => (b &&& c) ||| (b &&& d) ||| (c &&& d)) 0x8F1BBCDC w 40
  let buffers := buffers.loop (fun b c d => b ^^^ c ^^^ d) 0xCA62C1D6 w 60
  { sha with
    h := fiveWords ((nth sha.h 0 + buffers.a) &&& 0xFFFFFFFF)
      ((nth sha.h 1 + buffers.b) &&& 0xFFFFFFFF)
      ((nth sha.h 2 + buffers.c) &&& 0xFFFFFFFF)
      ((nth sha.h 3 + buffers.d) &&& 0xFFFFFFFF)
      ((nth sha.h 4 + buffers.e) &&& 0xFFFFFFFF)
    messageBlockIndex := 0 }

/-- `SHA1::Reset`.  It leaves `Message_Block` as it is. -/
def reset (sha : Sha1) : Sha1 where
  h := fiveWords 0x67452301 0xEFCDAB89 0x98BADCFE 0x10325476 0xC3D2E1F0
  lengthLow := 0
  lengthHigh := 0
  messageBlock := sha.messageBlock
  messageBlockIndex := 0
  computed := false
  corrupted := false

/-- `Message_Block[Message_Block_Index++] = byte`. -/
def put (byte : UInt8) (sha : Sha1) : Except Sha1Fault Sha1 :=
  if sha.messageBlockIndex < 64 then
    .ok
      { sha with
        messageBlock :=
          sha.messageBlock.overwrite sha.messageBlockIndex [byte]
        messageBlockIndex := sha.messageBlockIndex + 1 }
  else
    .error .outOfBlock

/-- The words that count the bits, after one more byte. -/
def countByte (sha : Sha1) : Sha1 :=
  let lengthLow := (sha.lengthLow + 8) &&& 0xFFFFFFFF
  if lengthLow = 0 then
    let lengthHigh := (sha.lengthHigh + 1) &&& 0xFFFFFFFF
    { sha with
      lengthLow, lengthHigh
      corrupted := if lengthHigh = 0 then true else sha.corrupted }
  else
    { sha with lengthLow }

/-- The body of the loop of `SHA1::Input`. -/
def inputByte (byte : UInt8) (sha : Sha1) : Except Sha1Fault Sha1 := do
  let sha ← sha.put (byte &&& 0xFF)
  let sha := sha.countByte
  if sha.messageBlockIndex = 64 then
    .ok sha.processMessageBlock
  else
    .ok sha

/-- The loop of `SHA1::Input`. -/
def inputLoop : Bytes → Sha1 → Except Sha1Fault Sha1
  | [], sha => .ok sha
  | byte :: messageArray, sha =>
      if sha.corrupted then
        .ok sha
      else do
        let sha ← sha.inputByte byte
        inputLoop messageArray sha

/-- `SHA1::Input`. -/
def input (messageArray : Bytes) (sha : Sha1) : Except Sha1Fault Sha1 :=
  if messageArray.length = 0 then
    .ok sha
  else if sha.computed || sha.corrupted then
    .ok { sha with corrupted := true }
  else
    sha.inputLoop messageArray

/-- The loop of `operator<<`, up to the terminator. -/
def inputEach : Bytes → Sha1 → Except Sha1Fault Sha1
  | [], sha => .ok sha
  | byte :: messageArray, sha => do
      let sha ← sha.input [byte]
      inputEach messageArray sha

/-- `SHA1::operator<<` of a character array. -/
def insertion (messageArray : Bytes) (sha : Sha1) : Except Sha1Fault Sha1 :=
  sha.inputEach (cString messageArray)

/-- `while (Message_Block_Index < upTo)`.  Every pass moves the index on, so
that as many passes as the index may be large are enough. -/
def fillZeros (upTo : Nat) : Nat → Sha1 → Except Sha1Fault Sha1
  | 0, sha => .ok sha
  | passes + 1, sha =>
      if sha.messageBlockIndex < upTo then do
        let sha ← sha.put 0
        fillZeros upTo passes sha
      else
        .ok sha

/-- `(word >> shift) & 0xFF`. -/
def byteOf (word shift : UInt32) : UInt8 :=
  ((word >>> shift) &&& 0xFF).toUInt8

/-- The eight assignments that store the length of the message. -/
def storeLength (sha : Sha1) : Sha1 :=
  { sha with
    messageBlock := sha.messageBlock.overwrite 56
      [byteOf sha.lengthHigh 24, byteOf sha.lengthHigh 16,
        byteOf sha.lengthHigh 8, byteOf sha.lengthHigh 0,
        byteOf sha.lengthLow 24, byteOf sha.lengthLow 16,
        byteOf sha.lengthLow 8, byteOf sha.lengthLow 0] }

/-- `SHA1::PadMessage`. -/
def padMessage (sha : Sha1) : Except Sha1Fault Sha1 := do
  let sha ←
    if sha.messageBlockIndex > 55 then do
      let sha ← sha.put 0x80
      let sha ← sha.fillZeros 64 64
      sha.processMessageBlock.fillZeros 56 64
    else do
      let sha ← sha.put 0x80
      sha.fillZeros 56 64
  .ok sha.storeLength.processMessageBlock

/-- `SHA1::Result`: what it returns, and the digest if it stores one. -/
def result (sha : Sha1) :
    Except Sha1Fault (Option (Words) × Sha1) :=
  if sha.corrupted then
    .ok (none, sha)
  else do
    let sha ←
      if !sha.computed then do
        let sha ← sha.padMessage
        .ok { sha with computed := true }
      else
        .ok sha
    .ok (some sha.h, sha)

/-- The constructor, in memory that holds any block. -/
def new (messageBlock : Block 64) : Sha1 :=
  reset ⟨Vector.replicate 5 0, 0, 0, messageBlock, 0, false, false⟩

end Sha1

end EchoServer
