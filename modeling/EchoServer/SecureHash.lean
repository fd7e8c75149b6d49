import EchoServer.ChainedBlocks
import Mathlib.Algebra.Group.Nat.Defs

/-!
# The Secure Hash Standard

SHA-1 as the standard defines it.  A message is padded to whole blocks of 64
bytes, and the blocks are compressed one after the other into five words,
each block in 80 rounds.
-/

namespace EchoServer

namespace SecureHash

open ByteOrder ChainedBlocks

/-- The words of a digest. -/
abbrev Words := Vector UInt32 5

def fiveWords (first second third fourth fifth : UInt32) : Words :=
  #v[first, second, third, fourth, fifth]

/-- The word at a place. -/
def nth (words : Words) (place : Nat) : UInt32 :=
  words.toList.getD place 0

/-- The number of bytes in a block. -/
def blockSize : Nat :=
  64

/-- The circular shift to the left. -/
def rotateLeft (bits : Nat) (word : UInt32) : UInt32 :=
  UInt32.ofBitVec (word.toBitVec.rotateLeft bits)

/-- The word at a place of a block, its highest byte first. -/
def wordAt (block : Bytes) (place : Nat) : UInt32 :=
  UInt32.ofNat
    (littleEndianValue ((block.drop (4 * place)).take 4).reverse)

/-- The words of the rounds of a block. -/
def schedule (block : Bytes) (round : Nat) : UInt32 :=
  if round < 16 then
    wordAt block round
  else
    rotateLeft 1
      (schedule block (round - 3) ^^^ schedule block (round - 8) ^^^
        schedule block (round - 14) ^^^ schedule block (round - 16))
termination_by round

/-- The function of a round. -/
def roundFunction (round : Nat) (b c d : UInt32) : UInt32 :=
  if round < 20 then (b &&& c) ||| (~~~b &&& d)
  else if round < 40 then b ^^^ c ^^^ d
  else if round < 60 then (b &&& c) ||| (b &&& d) ||| (c &&& d)
  else b ^^^ c ^^^ d

/-- The constant of a round. -/
def roundConstant (round : Nat) : UInt32 :=
  if round < 20 then 0x5A827999
  else if round < 40 then 0x6ED9EBA1
  else if round < 60 then 0x8F1BBCDC
  else 0xCA62C1D6

/-- One round with its word. -/
def hashRound (word : UInt32) (words : Words) (number : Nat) : Words :=
  fiveWords
    (rotateLeft 5 (nth words 0) +
      roundFunction number (nth words 1) (nth words 2) (nth words 3) +
        nth words 4 + word + roundConstant number)
    (nth words 0) (rotateLeft 30 (nth words 1)) (nth words 2) (nth words 3)

/-- The rounds of a block, and the sums of the words with those before. -/
def compress (words : Words) (block : Bytes) : Words :=
  let final := (List.range 80).foldl
    (fun words number => hashRound (schedule block number) words number) words
  words.zipWith (· + ·) final

/-- The words before the first block. -/
def initial : Words :=
  fiveWords 0x67452301 0xEFCDAB89 0x98BADCFE 0x10325476 0xC3D2E1F0

/-- The zeros between the bit that ends a message and its length. -/
def paddingZeros (length : Nat) : Nat :=
  (119 - length % 64) % 64

/-- What is appended to a message: a one bit, zeros, and the number of its
bits. -/
def padding (length : Nat) : Bytes :=
  0x80 :: List.replicate (paddingZeros length) 0 ++
    (littleEndian 8 (8 * length)).reverse

/-- The number of the bits fits in its eight bytes. -/
def Admissible (message : Bytes) : Prop :=
  8 * message.length < 2 ^ 64

instance (message : Bytes) : Decidable (Admissible message) :=
  inferInstanceAs (Decidable (_ < _))

/-- The digest of a message. -/
def sha1 (message : Bytes) : Words :=
  let padded := message ++ padding message.length
  chainBlocks compress blockSize (padded.length / blockSize) padded initial

theorem padding_length (length : Nat) :
    (padding length).length = paddingZeros length + 9 := by
  simp only [padding, List.length_append, List.length_cons,
    List.length_replicate, List.length_reverse, littleEndian_length]

/-- The padded message is made of whole blocks. -/
theorem padded_length_mod (length : Nat) :
    (length + (padding length).length) % 64 = 0 := by
  rw [padding_length, paddingZeros]
  omega

/-- The digest is what is left of a message that is fed with its padding. -/
theorem absorb_padded (message : Bytes) :
    absorb compress blockSize ⟨initial, []⟩
        (message ++ padding message.length) =
      ⟨sha1 message, []⟩ := by
  have whole := padded_length_mod message.length
  rw [← List.length_append] at whole
  apply absorb_blocks (by decide)
  rw [Nat.div_mul_cancel]
  exact Nat.dvd_of_mod_eq_zero whole

end SecureHash

end EchoServer
