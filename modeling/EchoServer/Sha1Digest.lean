import EchoServer.Sha1
import Mathlib.Tactic.Linarith

/-!
# What `SHA1` computes

Processing a block is compressing it as the standard says, padding appends
what the standard appends, and the message may come in any pieces.  So the
object stands for the message that it has been given since it was reset, and
the digest is that of the whole message.
-/

namespace EchoServer

open SecureHash ByteOrder ChainedBlocks

section Words

theorem and_allOnes (word : UInt32) : word &&& 0xFFFFFFFF = word := by
  apply UInt32.toBitVec_inj.mp
  rw [UInt32.toBitVec_and]
  exact BitVec.and_allOnes

theorem circularShift_one (word : UInt32) :
    circularShift 1 word = rotateLeft 1 word := by
  rw [circularShift, and_allOnes, and_allOnes]
  rfl

theorem circularShift_five (word : UInt32) :
    circularShift 5 word = rotateLeft 5 word := by
  rw [circularShift, and_allOnes, and_allOnes]
  rfl

theorem circularShift_thirty (word : UInt32) :
    circularShift 30 word = rotateLeft 30 word := by
  rw [circularShift, and_allOnes, and_allOnes]
  rfl

/-- Two digits side by side, joined by `|`. -/
theorem shiftLeft_or_shiftLeft (more width : Nat) {high low : Nat}
    (fits : low < 2 ^ width) :
    (high <<< (more + width)) ||| (low <<< more) =
      (high * 2 ^ width + low) <<< more := by
  have below : low <<< more < 2 ^ (more + width) := by
    rw [Nat.shiftLeft_eq, Nat.pow_add, Nat.mul_comm]
    exact Nat.mul_lt_mul_of_pos_left fits (Nat.two_pow_pos more)
  rw [← Nat.shiftLeft_add_eq_or_of_lt below, Nat.shiftLeft_eq,
    Nat.shiftLeft_eq, Nat.shiftLeft_eq, Nat.pow_add, Nat.add_mul,
    Nat.mul_assoc, Nat.mul_comm (2 ^ more)]

/-- A byte that is shifted inside a word loses no bit. -/
theorem toNat_byte_shiftLeft (byte : UInt8) {bits : UInt32}
    (inside : bits.toNat ≤ 24) :
    (byte.toUInt32 <<< bits).toNat = byte.toNat <<< bits.toNat := by
  have small : bits.toNat % 32 = bits.toNat := Nat.mod_eq_of_lt (by omega)
  rw [UInt32.toNat_shiftLeft, UInt8.toNat_toUInt32, small]
  apply Nat.mod_eq_of_lt
  rw [Nat.shiftLeft_eq]
  calc byte.toNat * 2 ^ bits.toNat
      < 2 ^ 8 * 2 ^ bits.toNat :=
        Nat.mul_lt_mul_of_pos_right byte.toNat_lt (Nat.two_pow_pos _)
    _ ≤ 2 ^ 8 * 2 ^ 24 :=
        Nat.mul_le_mul_left _ (Nat.pow_le_pow_right (by decide) inside)

/-- Four bytes joined into a word, the first one highest. -/
theorem joinBytes_eq (first second third fourth : UInt8) :
    (first.toUInt32 <<< 24) ||| (second.toUInt32 <<< 16) |||
        (third.toUInt32 <<< 8) ||| fourth.toUInt32 =
      UInt32.ofNat
        (littleEndianValue [fourth, third, second, first]) := by
  have := first.toNat_lt
  have secondLt := second.toNat_lt
  have thirdLt := third.toNat_lt
  have fourthLt := fourth.toNat_lt
  have firstTwo : (first.toNat <<< 24) ||| (second.toNat <<< 16) =
      (first.toNat * 256 + second.toNat) <<< 16 :=
    shiftLeft_or_shiftLeft 16 8 secondLt
  have firstThree :
      ((first.toNat * 256 + second.toNat) <<< 16) ||| (third.toNat <<< 8) =
        ((first.toNat * 256 + second.toNat) * 256 + third.toNat) <<< 8 :=
    shiftLeft_or_shiftLeft 8 8 thirdLt
  have all :
      (((first.toNat * 256 + second.toNat) * 256 + third.toNat) <<< 8) |||
          fourth.toNat =
        ((first.toNat * 256 + second.toNat) * 256 + third.toNat) * 256 +
          fourth.toNat :=
    shiftLeft_or_shiftLeft 0 8 fourthLt
  apply UInt32.toNat_inj.mp
  rw [UInt32.toNat_or, UInt32.toNat_or, UInt32.toNat_or,
    toNat_byte_shiftLeft first (by decide),
    toNat_byte_shiftLeft second (by decide),
    toNat_byte_shiftLeft third (by decide), UInt8.toNat_toUInt32]
  have shifts : UInt32.toNat 24 = 24 ∧ UInt32.toNat 16 = 16 ∧
      UInt32.toNat 8 = 8 := by decide
  rw [shifts.1, shifts.2.1, shifts.2.2, firstTwo, firstThree, all,
    UInt32.toNat_ofNat']
  simp only [littleEndianValue]
  omega

end Words

section Rounds

variable (messageBlock : Block 64)

theorem drop_take_four {bytes : Bytes} {place : Nat}
    (inside : place + 3 < bytes.length) :
    (bytes.drop place).take 4 =
      [bytes.getD place 0, bytes.getD (place + 1) 0,
        bytes.getD (place + 2) 0, bytes.getD (place + 3) 0] := by
  have first : place < bytes.length := by omega
  have second : place + 1 < bytes.length := by omega
  have third : place + 2 < bytes.length := by omega
  have four : bytes.drop place =
      bytes.getD place 0 :: bytes.getD (place + 1) 0 ::
        bytes.getD (place + 2) 0 :: bytes.getD (place + 3) 0 ::
          bytes.drop (place + 4) := by
    rw [List.drop_eq_getElem_cons first, List.drop_eq_getElem_cons second,
      List.drop_eq_getElem_cons third, List.drop_eq_getElem_cons inside]
    simp [first, second, third, inside]
  rw [four]
  rfl

/-- The words that a block starts with. -/
theorem joinedWord_eq {t : Nat} (inside : t < 16) :
    ((messageBlock.bytes.getD (t * 4) 0).toUInt32 <<< 24) |||
        ((messageBlock.bytes.getD (t * 4 + 1) 0).toUInt32 <<< 16) |||
        ((messageBlock.bytes.getD (t * 4 + 2) 0).toUInt32 <<< 8) |||
        (messageBlock.bytes.getD (t * 4 + 3) 0).toUInt32 =
      schedule messageBlock.bytes t := by
  have length := messageBlock.bytes_length
  rw [schedule, if_pos inside, joinBytes_eq, wordAt, Nat.mul_comm 4 t,
    drop_take_four (by omega)]
  rfl

/-- The second loop appends the words in order. -/
theorem wordSequence_loop (count : Nat) :
    (List.range' 16 count).foldl
        (fun w t => w ++
          [circularShift 1 (w.getD (t - 3) 0 ^^^ w.getD (t - 8) 0 ^^^
            w.getD (t - 14) 0 ^^^ w.getD (t - 16) 0)])
        ((List.range 16).map (schedule messageBlock.bytes)) =
      (List.range (16 + count)).map (schedule messageBlock.bytes) := by
  induction count with
  | zero => rfl
  | succ count ih =>
      have older (place : Nat) (before : place < 16 + count) :
          ((List.range (16 + count)).map
            (schedule messageBlock.bytes)).getD place 0 =
              schedule messageBlock.bytes place := by
        rw [List.getD_eq_getElem?_getD, List.getElem?_map,
          List.getElem?_range before]
        rfl
      have next : schedule messageBlock.bytes (16 + count) =
          rotateLeft 1 (schedule messageBlock.bytes (16 + count - 3) ^^^
            schedule messageBlock.bytes (16 + count - 8) ^^^
            schedule messageBlock.bytes (16 + count - 14) ^^^
            schedule messageBlock.bytes (16 + count - 16)) := by
        rw [schedule, if_neg (by omega)]
      rw [List.range'_1_concat, List.foldl_append, ih, List.foldl_cons,
        List.foldl_nil, older _ (by omega), older _ (by omega),
        older _ (by omega), older _ (by omega), circularShift_one, ← next,
        ← Nat.add_assoc, List.range_succ, List.map_append, List.map_singleton]

/-- `W` holds the words of the rounds. -/
theorem wordSequence_getD {t : Nat} (isRound : t < 80) :
    (Sha1.wordSequence messageBlock).getD t 0 =
      schedule messageBlock.bytes t := by
  have first : ((List.range 16).map fun t =>
      ((messageBlock.bytes.getD (t * 4) 0).toUInt32 <<< 24) |||
        ((messageBlock.bytes.getD (t * 4 + 1) 0).toUInt32 <<< 16) |||
        ((messageBlock.bytes.getD (t * 4 + 2) 0).toUInt32 <<< 8) |||
        (messageBlock.bytes.getD (t * 4 + 3) 0).toUInt32) =
      (List.range 16).map (schedule messageBlock.bytes) := by
    apply List.map_congr_left
    intro t isIn
    exact joinedWord_eq messageBlock (List.mem_range.mp isIn)
  rw [Sha1.wordSequence, first, wordSequence_loop,
    List.getD_eq_getElem?_getD, List.getElem?_map,
    List.getElem?_range (by omega)]
  rfl

/-- The buffers as the words of a digest. -/
def WordBuffers.words (buffers : WordBuffers) : Words :=
  fiveWords buffers.a buffers.b buffers.c buffers.d buffers.e

/-- A pass is a round. -/
theorem WordBuffers.pass_words (buffers : WordBuffers)
    {f : UInt32 → UInt32 → UInt32 → UInt32} {k : UInt32} {number : Nat}
    (function : f = roundFunction number) (constant : k = roundConstant number)
    (w : UInt32) :
    (buffers.pass f k w).words = hashRound w buffers.words number := by
  subst function constant
  simp only [words, pass, hashRound, circularShift_five, circularShift_thirty,
    and_allOnes]
  rfl

/-- Twenty rounds that share a function and a constant. -/
theorem WordBuffers.loop_words (buffers : WordBuffers)
    (f : UInt32 → UInt32 → UInt32 → UInt32) (k : UInt32) (first : Nat)
    (inside : first + 20 ≤ 80)
    (shared : ∀ t, first ≤ t → t < first + 20 →
      f = roundFunction t ∧ k = roundConstant t) :
    (buffers.loop f k (Sha1.wordSequence messageBlock) first).words =
      (List.range' first 20).foldl
        (fun words number =>
          hashRound (schedule messageBlock.bytes number) words number)
        buffers.words := by
  have each : ∀ t ∈ List.range' first 20, first ≤ t ∧ t < first + 20 := by
    intro t isIn
    simpa using isIn
  rw [loop]
  generalize List.range' first 20 = numbers at each ⊢
  induction numbers generalizing buffers with
  | nil => rfl
  | cons t numbers ih =>
      obtain ⟨after, before⟩ := each t (List.mem_cons_self)
      obtain ⟨function, constant⟩ := shared t after before
      rw [List.foldl_cons, List.foldl_cons,
        ih _ fun t isIn => each t (List.mem_cons_of_mem _ isIn),
        wordSequence_getD messageBlock (by omega),
        buffers.pass_words function constant]

theorem zipWith_fiveWords (a b c d e a' b' c' d' e' : UInt32) :
    (fiveWords a b c d e).zipWith (· + ·) (fiveWords a' b' c' d' e') =
      fiveWords (a + a') (b + b') (c + c') (d + d') (e + e') := by
  apply Vector.toList_inj.mp
  simp [fiveWords]

theorem fiveWords_nth (words : Words) :
    fiveWords (nth words 0) (nth words 1) (nth words 2) (nth words 3)
      (nth words 4) = words := by
  apply Vector.toList_inj.mp
  obtain ⟨⟨list⟩, size⟩ := words
  match list, size with
  | [_, _, _, _, _], _ => rfl

/-- Processing a block is compressing it. -/
theorem processMessageBlock_h (sha : Sha1) :
    sha.processMessageBlock.h = compress sha.h sha.messageBlock.bytes := by
  have numbers : List.range 80 = List.range' 0 20 ++ List.range' 20 20 ++
      List.range' 40 20 ++ List.range' 60 20 := by decide
  let start : WordBuffers :=
    ⟨nth sha.h 0, nth sha.h 1, nth sha.h 2, nth sha.h 3, nth sha.h 4⟩
  have loops := fun (buffers : WordBuffers) f k first inside shared =>
    (buffers.loop_words sha.messageBlock f k first inside shared).symm
  rw [compress, numbers, List.foldl_append, List.foldl_append,
    List.foldl_append, show sha.h = start.words from (fiveWords_nth _).symm,
    loops start (fun b c d => (b &&& c) ||| (~~~b &&& d)) 0x5A827999 0
      (by decide) ?first,
    loops _ (fun b c d => b ^^^ c ^^^ d) 0x6ED9EBA1 20 (by decide) ?second,
    loops _ (fun b c d => (b &&& c) ||| (b &&& d) ||| (c &&& d)) 0x8F1BBCDC
      40 (by decide) ?third,
    loops _ (fun b c d => b ^^^ c ^^^ d) 0xCA62C1D6 60 (by decide) ?fourth]
  · rw [WordBuffers.words, WordBuffers.words, zipWith_fiveWords]
    simp only [Sha1.processMessageBlock, and_allOnes]
    rfl
  case first =>
    intro t _ before
    rw [roundConstant, if_pos (by omega)]
    refine ⟨?_, rfl⟩
    funext b c d
    rw [roundFunction, if_pos (by omega)]
  case second =>
    intro t after before
    rw [roundConstant, if_neg (by omega), if_pos (by omega)]
    refine ⟨?_, rfl⟩
    funext b c d
    rw [roundFunction, if_neg (by omega), if_pos (by omega)]
  case third =>
    intro t after before
    rw [roundConstant, if_neg (by omega), if_neg (by omega),
      if_pos (by omega)]
    refine ⟨?_, rfl⟩
    funext b c d
    rw [roundFunction, if_neg (by omega), if_neg (by omega),
      if_pos (by omega)]
  case fourth =>
    intro t after before
    rw [roundConstant, if_neg (by omega), if_neg (by omega),
      if_neg (by omega)]
    refine ⟨?_, rfl⟩
    funext b c d
    rw [roundFunction, if_neg (by omega), if_neg (by omega),
      if_neg (by omega)]

end Rounds

namespace Sha1

/-- The chaining value, and the bytes of the block that is not full. -/
def absorbed (sha : Sha1) : Absorbed Words :=
  ⟨sha.h, sha.messageBlock.bytes.take sha.messageBlockIndex⟩

/-- The number of bits that the two words count. -/
def bits (sha : Sha1) : Nat :=
  sha.lengthHigh.toNat * 2 ^ 32 + sha.lengthLow.toNat

theorem absorbed_rest_length {sha : Sha1}
    (inside : sha.messageBlockIndex ≤ 64) :
    sha.absorbed.rest.length = sha.messageBlockIndex :=
  Block.take_length inside

theorem put_ok (byte : UInt8) (sha : Sha1)
    (inside : sha.messageBlockIndex < 64) :
    ∃ block : Block 64,
      sha.put byte = .ok
        { sha with
          messageBlock := block
          messageBlockIndex := sha.messageBlockIndex + 1 } ∧
      block.bytes.take (sha.messageBlockIndex + 1) =
        sha.messageBlock.bytes.take sha.messageBlockIndex ++ [byte] := by
  refine ⟨_, if_pos inside, ?_⟩
  have room : sha.messageBlockIndex + [byte].length ≤ 64 := inside
  exact Block.take_overwrite room

/-- The zeros reach up to where they should. -/
theorem fillZeros_ok (upTo passes : Nat) (sha : Sha1)
    (before : sha.messageBlockIndex ≤ upTo) (inside : upTo ≤ 64)
    (enough : upTo ≤ sha.messageBlockIndex + passes) :
    ∃ block : Block 64,
      sha.fillZeros upTo passes = .ok
        { sha with messageBlock := block, messageBlockIndex := upTo } ∧
      block.bytes.take upTo =
        sha.messageBlock.bytes.take sha.messageBlockIndex ++
          List.replicate (upTo - sha.messageBlockIndex) 0 := by
  induction passes generalizing sha with
  | zero =>
      obtain rfl : upTo = sha.messageBlockIndex := by omega
      refine ⟨sha.messageBlock, rfl, ?_⟩
      rw [Nat.sub_self, List.replicate_zero, List.append_nil]
  | succ passes ih =>
      rw [fillZeros]
      by_cases more : sha.messageBlockIndex < upTo
      · obtain ⟨first, put, firstTake⟩ := put_ok 0 sha (by omega)
        obtain ⟨block, filled, blockTake⟩ := ih
          { sha with
            messageBlock := first
            messageBlockIndex := sha.messageBlockIndex + 1 }
          (show sha.messageBlockIndex + 1 ≤ upTo by omega)
          (show upTo ≤ sha.messageBlockIndex + 1 + passes by omega)
        refine ⟨block, ?_, ?_⟩
        · rw [if_pos more, put]
          exact filled
        · have zeros : upTo - sha.messageBlockIndex =
              upTo - (sha.messageBlockIndex + 1) + 1 := by omega
          rw [blockTake, zeros, List.replicate_succ]
          simp only [firstTake, List.append_assoc, List.singleton_append]
      · obtain rfl : upTo = sha.messageBlockIndex := by omega
        refine ⟨sha.messageBlock, if_neg more, ?_⟩
        rw [Nat.sub_self, List.replicate_zero, List.append_nil]

theorem byteOf_eq {word shift : UInt32} (inside : shift.toNat < 32) :
    byteOf word shift =
      UInt8.ofNat (word.toNat / 2 ^ shift.toNat) := by
  apply UInt8.toNat_inj.mp
  have small : shift.toNat % 32 = shift.toNat := Nat.mod_eq_of_lt inside
  have mask : UInt32.toNat 0xFF = 2 ^ 8 - 1 := rfl
  rw [byteOf, UInt32.toNat_toUInt8, UInt32.toNat_and,
    UInt32.toNat_shiftRight, small, mask, Nat.and_two_pow_sub_one_eq_mod,
    Nat.shiftRight_eq_div_pow, UInt8.toNat_ofNat', Nat.mod_mod]

/-- The length is stored with its highest byte first. -/
theorem storedLength_eq (sha : Sha1) :
    [byteOf sha.lengthHigh 24, byteOf sha.lengthHigh 16,
        byteOf sha.lengthHigh 8, byteOf sha.lengthHigh 0,
        byteOf sha.lengthLow 24, byteOf sha.lengthLow 16,
        byteOf sha.lengthLow 8, byteOf sha.lengthLow 0] =
      (littleEndian 8 sha.bits).reverse := by
  have highLt := sha.lengthHigh.toNat_lt
  have lowLt := sha.lengthLow.toNat_lt
  simp only [byteOf_eq (by decide : UInt32.toNat 24 < 32),
    byteOf_eq (by decide : UInt32.toNat 16 < 32),
    byteOf_eq (by decide : UInt32.toNat 8 < 32),
    byteOf_eq (by decide : UInt32.toNat 0 < 32)]
  have shifts : UInt32.toNat 24 = 24 ∧ UInt32.toNat 16 = 16 ∧
      UInt32.toNat 8 = 8 ∧ UInt32.toNat 0 = 0 := by decide
  rw [shifts.1, shifts.2.1, shifts.2.2.1, shifts.2.2.2]
  simp only [littleEndian, List.reverse_cons, List.reverse_nil,
    List.nil_append, List.cons_append, List.cons.injEq, and_true, bits]
  refine ⟨?_, ?_, ?_, ?_, ?_, ?_, ?_, ?_⟩ <;>
    (apply UInt8.toNat_inj.mp
     rw [UInt8.toNat_ofNat', UInt8.toNat_ofNat']
     omega)

/-- The block with the length behind 56 bytes. -/
theorem storeLength_bytes (sha : Sha1) :
    sha.storeLength.messageBlock.bytes =
      sha.messageBlock.bytes.take 56 ++ (littleEndian 8 sha.bits).reverse := by
  have length := sha.messageBlock.bytes_length
  have stored : (littleEndian 8 sha.bits).reverse.length = 8 := by
    rw [List.length_reverse, littleEndian_length]
  rw [storeLength, storedLength_eq, Block.overwrite_bytes (by omega), stored,
    List.drop_of_length_le (by omega), List.append_nil]

/-- A block that is full when the length is stored. -/
theorem storeLength_processed {sha : Sha1} {front : Bytes} {chain : Words}
    {more : Bytes} (filled : sha.messageBlock.bytes.take 56 = front ++ more)
    (short : front.length < 64) (chained : sha.h = chain) :
    sha.storeLength.processMessageBlock.h =
      (absorb compress blockSize ⟨chain, front⟩
        (more ++ (littleEndian 8 sha.bits).reverse)).chain := by
  have length : (sha.messageBlock.bytes.take 56).length = 56 :=
    Block.take_length (by decide)
  rw [filled, List.length_append] at length
  have stored : (littleEndian 8 sha.bits).reverse.length = 8 := by
    rw [List.length_reverse, littleEndian_length]
  rw [absorb_full short]
  · rw [processMessageBlock_h, storeLength_bytes, filled, ← chained,
      List.append_assoc]
    rfl
  · show front.length + _ = 64
    rw [List.length_append]
    omega

/-- The block is filled up, and the length goes into one more block. -/
theorem padMessage_full {sha : Sha1} (inside : sha.messageBlockIndex < 64)
    (behind : sha.messageBlockIndex > 55) :
    ∃ padded, sha.padMessage = .ok padded ∧
      padded.corrupted = sha.corrupted ∧
      padded.h =
        (absorb compress blockSize sha.absorbed
          (0x80 :: List.replicate (paddingZeros sha.messageBlockIndex) 0 ++
            (littleEndian 8 sha.bits).reverse)).chain := by
  have restLength := absorbed_rest_length inside.le
  obtain ⟨first, put, firstTake⟩ := put_ok 0x80 sha inside
  have zeros : paddingZeros sha.messageBlockIndex =
      64 - (sha.messageBlockIndex + 1) + 56 := by
    rw [paddingZeros]
    omega
  obtain ⟨second, filled, secondTake⟩ := fillZeros_ok 64 64
    { sha with
      messageBlock := first
      messageBlockIndex := sha.messageBlockIndex + 1 }
    (show sha.messageBlockIndex + 1 ≤ 64 by omega) (by decide)
    (show 64 ≤ sha.messageBlockIndex + 1 + 64 by omega)
  have secondBytes : second.bytes = sha.absorbed.rest ++
      (0x80 :: List.replicate (64 - (sha.messageBlockIndex + 1)) 0) := by
    rw [List.take_of_length_le (by rw [second.bytes_length])] at secondTake
    rw [secondTake]
    simp only [firstTake, List.append_assoc, List.singleton_append]
    rfl
  let processed := processMessageBlock
    { sha with messageBlock := second, messageBlockIndex := 64 }
  have processed_h : processed.h = compress sha.h second.bytes :=
    processMessageBlock_h _
  obtain ⟨third, zeroed, thirdTake⟩ := fillZeros_ok 56 64 processed
    (show 0 ≤ 56 by decide) (by decide) (show 56 ≤ 0 + 64 by decide)
  let last : Sha1 :=
    { processed with messageBlock := third, messageBlockIndex := 56 }
  have lastTake : last.messageBlock.bytes.take 56 =
      [] ++ List.replicate 56 0 := thirdTake
  refine ⟨last.storeLength.processMessageBlock, ?_, rfl, ?_⟩
  · rw [padMessage, if_pos behind, put]
    simp only [bind, Except.bind, filled]
    rw [zeroed]
  · have filledUp : absorb compress blockSize sha.absorbed
        (0x80 :: List.replicate (64 - (sha.messageBlockIndex + 1)) 0) =
          ⟨compress sha.h second.bytes, []⟩ := by
      rw [absorb_full (by rw [restLength]; exact inside), secondBytes]
      · rfl
      · rw [restLength, List.length_cons, List.length_replicate]
        show _ = 64
        omega
    rw [storeLength_processed lastTake (by decide) processed_h, zeros,
      List.replicate_add, ← List.cons_append, List.append_assoc,
      absorb_append sha.absorbed, filledUp]
    rfl

/-- The length has room in the block. -/
theorem padMessage_room {sha : Sha1}
    (room : sha.messageBlockIndex ≤ 55) :
    ∃ padded, sha.padMessage = .ok padded ∧
      padded.corrupted = sha.corrupted ∧
      padded.h =
        (absorb compress blockSize sha.absorbed
          (0x80 :: List.replicate (paddingZeros sha.messageBlockIndex) 0 ++
            (littleEndian 8 sha.bits).reverse)).chain := by
  have inside : sha.messageBlockIndex < 64 := by omega
  obtain ⟨first, put, firstTake⟩ := put_ok 0x80 sha inside
  have zeros : paddingZeros sha.messageBlockIndex =
      56 - (sha.messageBlockIndex + 1) := by
    rw [paddingZeros]
    omega
  obtain ⟨second, filled, secondTake⟩ := fillZeros_ok 56 64
    { sha with
      messageBlock := first
      messageBlockIndex := sha.messageBlockIndex + 1 }
    (show sha.messageBlockIndex + 1 ≤ 56 by omega) (by decide)
    (show 56 ≤ sha.messageBlockIndex + 1 + 64 by omega)
  simp only [firstTake, List.append_assoc, List.singleton_append]
    at secondTake
  let last : Sha1 :=
    { sha with messageBlock := second, messageBlockIndex := 56 }
  have lastTake : last.messageBlock.bytes.take 56 =
      sha.absorbed.rest ++ 0x80 ::
        List.replicate (56 - (sha.messageBlockIndex + 1)) 0 := secondTake
  refine ⟨last.storeLength.processMessageBlock, ?_, rfl, ?_⟩
  · rw [padMessage, if_neg (Nat.not_lt.mpr room), put]
    simp only [bind, Except.bind, filled]
    rfl
  · have short : sha.absorbed.rest.length < 64 := by
      rw [absorbed_rest_length inside.le]
      exact inside
    rw [storeLength_processed lastTake short rfl, zeros]
    rfl

/-- Padding feeds what the standard appends. -/
theorem padMessage_ok {sha : Sha1} (inside : sha.messageBlockIndex < 64) :
    ∃ padded, sha.padMessage = .ok padded ∧
      padded.corrupted = sha.corrupted ∧
      padded.h =
        (absorb compress blockSize sha.absorbed
          (0x80 :: List.replicate (paddingZeros sha.messageBlockIndex) 0 ++
            (littleEndian 8 sha.bits).reverse)).chain := by
  by_cases behind : sha.messageBlockIndex > 55
  · exact padMessage_full inside behind
  · exact padMessage_room (Nat.not_lt.mp behind)

/-- The object has been given a message since it was reset, and can take
more. -/
structure Holds (message : Bytes) (sha : Sha1) : Prop where
  open_ : sha.computed = false
  sound : sha.corrupted = false
  inside : sha.messageBlockIndex < 64
  absorbed : sha.absorbed =
    absorb compress blockSize ⟨initial, []⟩ message
  bits : sha.bits = 8 * message.length

theorem reset_holds (sha : Sha1) : sha.reset.Holds [] where
  open_ := rfl
  sound := rfl
  inside := Nat.zero_lt_succ 63
  absorbed := rfl
  bits := by simp [Sha1.bits, reset]

theorem Holds.index {message : Bytes} {sha : Sha1}
    (holds : sha.Holds message) :
    sha.messageBlockIndex = message.length % 64 := by
  have length := absorbed_rest_length holds.inside.le
  rw [holds.absorbed, absorb_rest_length (by decide)] at length
  rw [← length]
  exact congrArg (· % 64) (Nat.zero_add _)

/-- The digest is that of the message. -/
theorem Holds.padMessage {message : Bytes} {sha : Sha1}
    (holds : sha.Holds message) :
    ∃ padded, sha.padMessage = .ok padded ∧ padded.corrupted = false ∧
      padded.h = sha1 message := by
  obtain ⟨padded, ran, corrupted, h⟩ := padMessage_ok holds.inside
  refine ⟨padded, ran, corrupted.trans holds.sound, ?_⟩
  have zeros : paddingZeros sha.messageBlockIndex =
      paddingZeros message.length := by
    rw [holds.index, paddingZeros, paddingZeros, Nat.mod_mod]
  rw [h, holds.absorbed, holds.bits, zeros, ← absorb_append]
  exact congrArg Absorbed.chain (absorb_padded message)

/-- One more byte is counted, unless the words are full. -/
theorem countByte_eq (sha : Sha1) (whole : sha.bits % 8 = 0) :
    ∃ low high,
      sha.countByte =
        { sha with
          lengthLow := low
          lengthHigh := high
          corrupted := decide (2 ^ 64 ≤ sha.bits + 8) || sha.corrupted } ∧
      (sha.bits + 8 < 2 ^ 64 →
        high.toNat * 2 ^ 32 + low.toNat = sha.bits + 8) := by
  have lowLt := sha.lengthLow.toNat_lt
  have highLt := sha.lengthHigh.toNat_lt
  have low : (sha.lengthLow + 8).toNat =
      (sha.lengthLow.toNat + 8) % 2 ^ 32 := UInt32.toNat_add ..
  have high : (sha.lengthHigh + 1).toNat =
      (sha.lengthHigh.toNat + 1) % 2 ^ 32 := UInt32.toNat_add ..
  have bitsEq : sha.bits =
      sha.lengthHigh.toNat * 2 ^ 32 + sha.lengthLow.toNat := rfl
  rw [bitsEq] at whole ⊢
  rw [countByte, and_allOnes, and_allOnes]
  by_cases wraps : sha.lengthLow + 8 = 0
  · have lowZero : (sha.lengthLow.toNat + 8) % 2 ^ 32 = 0 := by
      rw [← low, wraps]
      rfl
    rw [if_pos wraps]
    dsimp only
    refine ⟨sha.lengthLow + 8, sha.lengthHigh + 1, ?_, ?_⟩
    · by_cases full : sha.lengthHigh + 1 = 0
      · have highZero : (sha.lengthHigh.toNat + 1) % 2 ^ 32 = 0 := by
          rw [← high, full]
          rfl
        have reached : 2 ^ 64 ≤ sha.lengthHigh.toNat * 2 ^ 32 +
            sha.lengthLow.toNat + 8 := by omega
        rw [if_pos full, decide_eq_true reached]
        rfl
      · have highPos : (sha.lengthHigh.toNat + 1) % 2 ^ 32 ≠ 0 := by
          rw [← high]
          exact fun zero => full (UInt32.toNat_inj.mp zero)
        have room : ¬ 2 ^ 64 ≤ sha.lengthHigh.toNat * 2 ^ 32 +
            sha.lengthLow.toNat + 8 := by omega
        rw [if_neg full, decide_eq_false room]
        rfl
    · intro room
      rw [low, high]
      omega
  · have lowPos : (sha.lengthLow.toNat + 8) % 2 ^ 32 ≠ 0 := by
      rw [← low]
      exact fun zero => wraps (UInt32.toNat_inj.mp zero)
    have room : ¬ 2 ^ 64 ≤ sha.lengthHigh.toNat * 2 ^ 32 +
        sha.lengthLow.toNat + 8 := by omega
    rw [if_neg wraps]
    refine ⟨sha.lengthLow + 8, sha.lengthHigh, ?_, ?_⟩
    · rw [decide_eq_false room]
      rfl
    · intro _
      rw [low]
      omega

theorem Holds.admissible {message : Bytes} {sha : Sha1}
    (holds : sha.Holds message) : Admissible message := by
  have low := sha.lengthLow.toNat_lt
  have high := sha.lengthHigh.toNat_lt
  have bits := holds.bits
  rw [Sha1.bits] at bits
  rw [Admissible]
  omega

theorem low_byte (byte : UInt8) : byte &&& 0xFF = byte := by
  apply UInt8.toBitVec_inj.mp
  rw [UInt8.toBitVec_and]
  exact BitVec.and_allOnes

theorem Holds.admissible_iff {message : Bytes} {sha : Sha1}
    (holds : sha.Holds message) (byte : UInt8) :
    Admissible (message ++ [byte]) ↔ sha.bits + 8 < 2 ^ 64 := by
  rw [Admissible, List.length_append, List.length_singleton, holds.bits]
  omega

/-- What a byte leaves before a block that is full then is processed. -/
theorem Holds.stored {message : Bytes} {sha : Sha1}
    (holds : sha.Holds message) (byte : UInt8) :
    ∃ stored : Sha1,
      sha.inputByte byte =
        (if stored.messageBlockIndex = 64 then .ok stored.processMessageBlock
        else .ok stored) ∧
      (stored.h = sha.h ∧ stored.computed = false ∧
        stored.messageBlockIndex = sha.messageBlockIndex + 1) ∧
      stored.messageBlock.bytes.take (sha.messageBlockIndex + 1) =
        sha.absorbed.rest ++ [byte] ∧
      (stored.corrupted = false ↔ Admissible (message ++ [byte])) ∧
      (Admissible (message ++ [byte]) →
        stored.bits = 8 * (message ++ [byte]).length) := by
  obtain ⟨block, put, blockTake⟩ := put_ok byte sha holds.inside
  have whole : sha.bits % 8 = 0 := by
    rw [holds.bits]
    exact Nat.mul_mod_right 8 _
  obtain ⟨low, high, counted, bits⟩ := countByte_eq
    { sha with
      messageBlock := block
      messageBlockIndex := sha.messageBlockIndex + 1 } whole
  refine ⟨{ sha with
            lengthLow := low
            lengthHigh := high
            messageBlock := block
            messageBlockIndex := sha.messageBlockIndex + 1
            corrupted := decide (2 ^ 64 ≤ sha.bits + 8) || sha.corrupted },
    ?_, ⟨rfl, holds.open_, rfl⟩, blockTake, ?_, ?_⟩
  · rw [Sha1.inputByte, low_byte, put]
    simp only [bind, Except.bind, counted]
    rfl
  · rw [holds.admissible_iff, holds.sound, Bool.or_false,
      decide_eq_false_iff_not, Nat.not_le]
  · intro admissible
    rw [List.length_append, List.length_singleton, Nat.mul_add, ← holds.bits]
    exact bits ((holds.admissible_iff byte).mp admissible)

/-- One more byte of the message. -/
theorem Holds.inputByte {message : Bytes} {sha : Sha1}
    (holds : sha.Holds message) (byte : UInt8) :
    ∃ after, sha.inputByte byte = .ok after ∧
      (Admissible (message ++ [byte]) → after.Holds (message ++ [byte])) ∧
      (¬ Admissible (message ++ [byte]) → after.corrupted = true) := by
  obtain ⟨stored, ran, ⟨chain, open_, index⟩, taken, sound, bits⟩ :=
    holds.stored byte
  have restLength := absorbed_rest_length holds.inside.le
  have fed : absorb compress blockSize ⟨initial, []⟩ (message ++ [byte]) =
      feed compress blockSize sha.absorbed byte := by
    rw [absorb_append, ← holds.absorbed, absorb_cons, absorb_nil]
  have spoiled (notAdmissible : ¬ Admissible (message ++ [byte])) :
      stored.corrupted = true := by
    rw [← sound, Bool.not_eq_false] at notAdmissible
    exact notAdmissible
  by_cases full : sha.messageBlockIndex + 1 = 64
  · refine ⟨stored.processMessageBlock,
      ran.trans (if_pos (index.trans full)), ?_, spoiled⟩
    intro admissible
    refine ⟨open_, sound.mpr admissible, Nat.zero_lt_succ 63, ?_,
      bits admissible⟩
    have blockBytes : stored.messageBlock.bytes =
        sha.absorbed.rest ++ [byte] := by
      rw [full, List.take_of_length_le
        (by rw [stored.messageBlock.bytes_length])] at taken
      exact taken
    have processed := processMessageBlock_h stored
    rw [chain, blockBytes] at processed
    rw [fed, feed, restLength, blockSize, if_pos full]
    exact congrArg (Absorbed.mk · []) processed
  · have notFull : stored.messageBlockIndex ≠ 64 := index ▸ full
    refine ⟨stored, ran.trans (if_neg notFull), ?_, spoiled⟩
    intro admissible
    have inside : stored.messageBlockIndex < 64 := by
      have before := holds.inside
      omega
    refine ⟨open_, sound.mpr admissible, inside, ?_, bits admissible⟩
    rw [fed, feed, restLength, blockSize, if_neg full, Sha1.absorbed, chain,
      index, taken]
    rfl

/-- A piece of the message. -/
theorem Holds.inputLoop {message : Bytes} {sha : Sha1}
    (holds : sha.Holds message) (piece : Bytes) :
    ∃ after, sha.inputLoop piece = .ok after ∧
      (Admissible (message ++ piece) → after.Holds (message ++ piece)) ∧
      (¬ Admissible (message ++ piece) → after.corrupted = true) := by
  induction piece generalizing message sha with
  | nil =>
      rw [List.append_nil]
      exact ⟨sha, rfl, fun _ => holds, fun not => absurd holds.admissible not⟩
  | cons byte piece ih =>
      obtain ⟨next, stepped, kept, spoiled⟩ := holds.inputByte byte
      have split : message ++ byte :: piece = (message ++ [byte]) ++ piece :=
        List.append_cons ..
      have ran : sha.inputLoop (byte :: piece) = next.inputLoop piece := by
        rw [Sha1.inputLoop, holds.sound, stepped]
        rfl
      rw [ran, split]
      by_cases admissible : Admissible (message ++ [byte])
      · exact ih (kept admissible)
      · have corrupted := spoiled admissible
        have stops : next.inputLoop piece = .ok next := by
          cases piece with
          | nil => rfl
          | cons other piece => rw [Sha1.inputLoop, if_pos corrupted]
        have tooLong : ¬ Admissible (message ++ [byte] ++ piece) := by
          rw [Admissible, List.length_append]
          rw [Admissible] at admissible
          omega
        exact ⟨next, stops, fun isAdmissible => absurd isAdmissible tooLong,
          fun _ => corrupted⟩

end Sha1

end EchoServer
