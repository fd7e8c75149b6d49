import EchoServer.EncodeBase64

/-!
# `DecodeBase64`

`base64.cpp`, the decoder.  It collects the digits of a group, counts the
padding signs, and writes as many bytes of the group as the padding leaves.
What the encoder makes of a byte string is decoded to this string unless the
last group has one byte, or the text is too long for its length to be an
`int`.
-/

namespace EchoServer

def myBase64Map : Bytes :=
  [255, 255, 255, 255, 255, 255, 255, 255, 255, 255, 255, 255,
   255, 255, 255, 255, 255, 255, 255, 255, 255, 255, 255, 255,
   255, 255, 255, 255, 255, 255, 255, 255, 255, 255, 255, 255,
   255, 255, 255, 255, 255, 255, 255, 62, 255, 255, 255, 63,
   52, 53, 54, 55, 56, 57, 58, 59, 60, 61, 255, 255,
   255, 254, 255, 255, 255, 0, 1, 2, 3, 4, 5, 6,
   7, 8, 9, 10, 11, 12, 13, 14, 15, 16, 17, 18,
   19, 20, 21, 22, 23, 24, 25, 255, 255, 255, 255, 255,
   255, 26, 27, 28, 29, 30, 31, 32, 33, 34, 35, 36,
   37, 38, 39, 40, 41, 42, 43, 44, 45, 46, 47, 48,
   49, 50, 51, 255, 255, 255, 255, 255, 255, 255, 255, 255,
   255, 255, 255, 255, 255, 255, 255, 255, 255, 255, 255, 255,
   255, 255, 255, 255, 255, 255, 255, 255, 255, 255, 255, 255,
   255, 255, 255, 255, 255, 255, 255, 255, 255, 255, 255, 255,
   255, 255, 255, 255, 255, 255, 255, 255, 255, 255, 255, 255,
   255, 255, 255, 255, 255, 255, 255, 255, 255, 255, 255, 255,
   255, 255, 255, 255, 255, 255, 255, 255, 255, 255, 255, 255,
   255, 255, 255, 255, 255, 255, 255, 255, 255, 255, 255, 255,
   255, 255, 255, 255, 255, 255, 255, 255, 255, 255, 255, 255,
   255, 255, 255, 255, 255, 255, 255, 255, 255, 255, 255, 255,
   255, 255, 255, 255, 255, 255, 255, 255, 255, 255, 255, 255,
   255, 255, 255, 255]

/-- The variables of the loop in `DecodeBase64`, with what it has written. -/
structure Decoding where
  pDst : Bytes
  ncode : Nat
  dc : Nat
  nc : Nat
  deriving DecidableEq

namespace Decoding

/-- In front of the loop. -/
def start : Decoding where
  pDst := []
  ncode := 0
  dc := 0
  nc := 0

/-- The bytes of a group that the padding signs leave. -/
def groupBytes (ncode dc : Nat) : Bytes :=
  [UInt8.ofNat (ncode >>> 16 &&& 0xff)] ++
    (if dc < 2 then [UInt8.ofNat (ncode >>> 8 &&& 0xff)] else []) ++
    (if dc < 1 then [UInt8.ofNat (ncode &&& 0xff)] else [])

/-- What a pass does with a digit, once the padding signs are counted. -/
def collect (digit dc : Nat) (decoding : Decoding) : Decoding :=
  let ncode := (decoding.ncode <<< 6) ||| digit
  if decoding.nc + 1 = 4 then
    { pDst := decoding.pDst ++ groupBytes ncode dc
      ncode := 0
      dc
      nc := 0 }
  else
    { decoding with ncode, dc, nc := decoding.nc + 1 }

/-- One pass of the loop. -/
def take (decoding : Decoding) (letter : UInt8) : Decoding :=
  let pc := myBase64Map.getD letter.toNat 0
  if pc = 0xff then decoding
  else if pc = 0xfe then decoding.collect 0 (decoding.dc + 1)
  else decoding.collect pc.toNat decoding.dc

end Decoding

/-- `DecodeBase64` of `nSrcLen` bytes: the length returned, and what is
written to `pDst`. -/
def decodeBase64 (pSrc : Bytes) (nSrcLen : Int) : Int × Bytes :=
  if nSrcLen = 0 then
    (-1, [])
  else
    let decoding :=
      (pSrc.take nSrcLen.toNat).foldl Decoding.take Decoding.start
    (Int.bmod decoding.pDst.length (2 ^ 32), decoding.pDst)

open Base64

/-- The map finds the digit of a letter. -/
theorem myBase64Map_letter {digit : Nat} (isDigit : digit < 64) :
    myBase64Map.getD (letter digit).toNat 0 = UInt8.ofNat digit := by
  revert digit
  decide

theorem myBase64Map_padding : myBase64Map.getD padding.toNat 0 = 0xfe := by
  decide

namespace Decoding

theorem take_letter (decoding : Decoding) {digit : Nat}
    (isDigit : digit < 64) :
    decoding.take (letter digit) = decoding.collect digit decoding.dc := by
  have number : (UInt8.ofNat digit).toNat = digit :=
    UInt8.toNat_ofNat_of_lt' (Nat.lt_trans isDigit (by decide))
  have notSkipped : UInt8.ofNat digit ≠ 0xff := by
    revert digit
    decide
  have notPadding : UInt8.ofNat digit ≠ 0xfe := by
    revert digit
    decide
  rw [take]
  simp only [myBase64Map_letter isDigit, if_neg notSkipped, if_neg notPadding,
    number]

theorem take_padding (decoding : Decoding) :
    decoding.take padding = decoding.collect 0 (decoding.dc + 1) := by
  rw [take]
  simp only [myBase64Map_padding]
  rfl

theorem take_letterAt (decoding : Decoding) (number place : Nat) :
    decoding.take (letterAt number place) =
      decoding.collect (number / 64 ^ place % 64) decoding.dc :=
  take_letter decoding (Nat.mod_lt _ (by decide))

/-- Digits are put behind each other. -/
theorem shift_or {high low : Nat} (isDigit : low < 64) :
    (high <<< 6) ||| low = high * 64 + low := by
  rw [← Nat.shiftLeft_add_eq_or_of_lt isDigit, Nat.shiftLeft_eq]

theorem collect_eq (decoding : Decoding) {digit : Nat} (dc : Nat)
    (isDigit : digit < 64) :
    decoding.collect digit dc =
      if decoding.nc = 3 then
        { pDst := decoding.pDst ++
            groupBytes (decoding.ncode * 64 + digit) dc
          ncode := 0
          dc
          nc := 0 }
      else
        { decoding with
          ncode := decoding.ncode * 64 + digit
          dc
          nc := decoding.nc + 1 } := by
  simp only [collect, shift_or isDigit, Nat.reduceEqDiff]

/-- Between two groups, with no padding sign so far. -/
def between (pDst : Bytes) : Decoding :=
  { start with pDst }

/-- Three letters of a group are collected. -/
theorem take_threeLetters (pDst : Bytes) {number : Nat}
    (bound : number < 64 ^ 4) :
    take (take (take (between pDst) (letterAt number 3)) (letterAt number 2))
        (letterAt number 1) =
      { pDst, ncode := number / 64, dc := 0, nc := 3 } := by
  have digit : ∀ place, number / 64 ^ place % 64 < 64 :=
    fun place => Nat.mod_lt _ (by decide)
  have joined : ((0 * 64 + number / 64 ^ 3 % 64) * 64 +
      number / 64 ^ 2 % 64) * 64 + number / 64 ^ 1 % 64 = number / 64 := by
    omega
  simp only [take_letterAt, collect_eq _ _ (digit _), between, start,
    Nat.reduceEqDiff, if_false, joined]

theorem and_byte (number : Nat) : number &&& 0xff = number % 256 :=
  Nat.and_two_pow_sub_one_eq_mod number 8

/-- The bytes of a group, as far as the padding signs leave them. -/
theorem groupBytes_group (first second third : UInt8) :
    groupBytes (group first second third) 0 = [first, second, third] ∧
      groupBytes (group first second third) 1 = [first, second] := by
  have := first.toNat_lt
  have := second.toNat_lt
  have := third.toNat_lt
  have high : group first second third >>> 16 % 256 = first.toNat := by
    rw [Nat.shiftRight_eq_div_pow, group]
    omega
  have middle : group first second third >>> 8 % 256 = second.toNat := by
    rw [Nat.shiftRight_eq_div_pow, group]
    omega
  have low : group first second third % 256 = third.toNat := by
    rw [group]
    omega
  constructor <;>
    simp [groupBytes, and_byte, high, middle, low, UInt8.ofNat_toNat]

theorem group_lt (first second third : UInt8) :
    group first second third < 64 ^ 4 := by
  have := first.toNat_lt
  have := second.toNat_lt
  have := third.toNat_lt
  rw [group]
  omega

/-- The letters of a group are decoded to its bytes. -/
theorem take_group (pDst : Bytes) (first second third : UInt8) :
    [firstLetter first, secondLetter first second, thirdLetter second third,
        fourthLetter third].foldl take (between pDst) =
      between (pDst ++ [first, second, third]) := by
  have joined : group first second third / 64 * 64 +
      group first second third / 64 ^ 0 % 64 = group first second third := by
    omega
  rw [List.foldl_cons, List.foldl_cons, List.foldl_cons, List.foldl_cons,
    List.foldl_nil, firstLetter_eq first second third,
    secondLetter_eq first second third, thirdLetter_eq first second third,
    fourthLetter_eq first second third,
    take_threeLetters pDst (group_lt first second third), take_letterAt,
    collect_eq _ _ (Nat.mod_lt _ (by decide))]
  simp only [if_true, joined, (groupBytes_group first second third).1,
    between, start]

/-- A last group with one padding sign is decoded to two bytes. -/
theorem take_lastGroup (pDst : Bytes) (first second : UInt8) :
    ([firstLetter first, secondLetter first second, thirdLetter second 0,
        padding].foldl take (between pDst)).pDst =
      pDst ++ [first, second] := by
  -- The digit that the padding sign stands for is zero.
  have joined : group first second 0 / 64 * 64 + 0 = group first second 0 := by
    have : (0 : UInt8).toNat = 0 := rfl
    simp only [group, this]
    omega
  rw [List.foldl_cons, List.foldl_cons, List.foldl_cons, List.foldl_cons,
    List.foldl_nil, firstLetter_eq first second 0,
    secondLetter_eq first second 0, thirdLetter_eq first second 0,
    take_threeLetters pDst (group_lt first second 0), take_padding,
    collect_eq _ _ (by decide)]
  simp only [if_true, joined, (groupBytes_group first second 0).2]

/-- The text of a byte string is decoded to the string, with a zero behind it
if its last group has one byte. -/
theorem take_encodeLetters (pSrc : Bytes) : ∀ pDst,
    ((encodeLetters pSrc).foldl take (between pDst)).pDst =
      pDst ++ pSrc ++ if pSrc.length % 3 = 1 then [0] else [] := by
  induction pSrc using encode.induct with
  | case1 =>
      intro pDst
      simp [encodeLetters, encodeGroups, encodeRemainder, between]
  | case2 first =>
      intro pDst
      rw [encodeLetters_one]
      exact (take_lastGroup pDst first 0).trans (by simp)
  | case3 first second =>
      intro pDst
      rw [encodeLetters_two]
      exact (take_lastGroup pDst first second).trans (by simp)
  | case4 first second third rest ih =>
      intro pDst
      have remainder : (first :: second :: third :: rest).length % 3 =
          rest.length % 3 := by
        simp only [List.length_cons]
        omega
      rw [encodeLetters_group, List.foldl_append, take_group, ih, remainder]
      simp

end Decoding

theorem encodeLetters_length (pSrc : Bytes) :
    (encodeLetters pSrc).length = 4 * ((pSrc.length + 2) / 3) := by
  induction pSrc using encode.induct with
  | case1 => rfl
  | case2 first => simp [encodeLetters_one]
  | case3 first second => simp [encodeLetters_two]
  | case4 first second third rest ih =>
      rw [encodeLetters_group, List.length_append, ih]
      simp only [List.length_cons, List.length_nil]
      omega

/-- For every byte string whose length is a positive `int`, `DecodeBase64`
returns the length of the string and reproduces it from what `EncodeBase64`
wrote if and only if its last group does not have one byte and the length of
the text is an `int` too. -/
theorem decodeBase64_encodeBase64_iff (s : Bytes) (nonempty : s ≠ [])
    (bound : s.length < 2 ^ 31) :
    decodeBase64 (encodeBase64 s).2 (encodeBase64 s).1 =
        ((s.length : Int), s) ↔
      s.length % 3 ≠ 1 ∧ 4 * ((s.length + 2) / 3) < 2 ^ 31 := by
  have someBytes : s.length ≠ 0 := by simpa using nonempty
  have length := encodeLetters_length s
  rw [encodeBase64_letters someBytes, decodeBase64]
  by_cases fits : 4 * ((s.length + 2) / 3) < 2 ^ 31
  · have returned :
        Int.bmod (encodeLetters s).length (2 ^ 32) =
          ((encodeLetters s).length : Int) := by
      rw [Int.bmod]
      omega
    have wholeText : (encodeLetters s ++ [0]).take
        ((encodeLetters s).length : Int).toNat = encodeLetters s := by
      rw [Int.toNat_natCast, List.take_left]
    have decoded : ((encodeLetters s).foldl Decoding.take
        Decoding.start).pDst = s ++ if s.length % 3 = 1 then [0] else [] :=
      Decoding.take_encodeLetters s []
    rw [returned, if_neg (by omega)]
    simp only [wholeText, decoded]
    by_cases one : s.length % 3 = 1
    · refine iff_of_false (fun same => ?_) (fun holds => holds.1 one)
      have bytes := congrArg List.length (Prod.mk.inj same).2
      rw [if_pos one, List.length_append] at bytes
      simp at bytes
    · refine iff_of_true ?_ ⟨one, fits⟩
      have number : Int.bmod s.length (2 ^ 32) = s.length := by
        rw [Int.bmod]
        omega
      rw [if_neg one, List.append_nil, number]
  · refine iff_of_false (fun same => ?_) (fun holds => fits holds.2)
    have negative : Int.bmod (encodeLetters s).length (2 ^ 32) < 0 := by
      rw [Int.bmod]
      omega
    -- The decoder takes no byte of a text of negative length.
    rw [if_neg (by omega), Int.toNat_of_nonpos (by omega),
      List.take_zero] at same
    exact nonempty (Prod.mk.inj same).2.symm

/-- Eight bytes, the last two of which make a group of their own. -/
theorem decodeBase64_encodeBase64_eight :
    decodeBase64 (encodeBase64 [1, 2, 3, 0, 255, 128, 7, 8]).2
        (encodeBase64 [1, 2, 3, 0, 255, 128, 7, 8]).1 =
      (8, [1, 2, 3, 0, 255, 128, 7, 8]) :=
  (decodeBase64_encodeBase64_iff [1, 2, 3, 0, 255, 128, 7, 8] (by decide)
    (by decide)).mpr (by decide)

/-- A single byte comes back with a zero behind it. -/
theorem decodeBase64_encodeBase64_one :
    ([77] : Bytes) ≠ [] ∧ ([77] : Bytes).length < 2 ^ 31 ∧
      decodeBase64 (encodeBase64 [77]).2 (encodeBase64 [77]).1 =
        (2, [77, 0]) ∧
      decodeBase64 (encodeBase64 [77]).2 (encodeBase64 [77]).1 ≠
        ((([77] : Bytes).length : Int), [77]) := by
  decide

end EchoServer
