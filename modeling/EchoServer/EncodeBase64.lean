import EchoServer.Base64Groups

/-!
# `EncodeBase64`

`base64.cpp`, the encoder.  It takes the digits of a group out of its bytes by
shifts and masks.  A last group of one byte gets three letters and one padding
sign, so that its text differs from base64; every other text is base64.
-/

namespace EchoServer

def myBase64Table : Bytes :=
  text "ABCDEFGHIJKLMNOPQRSTUVWXYZabcdefghijklmnopqrstuvwxyz0123456789+/"

/-- `myBase64Table[index]`. -/
def tableLetter (index : Nat) : UInt8 :=
  myBase64Table.getD index 0

/-- `myBase64Table[c1 >> 2]`. -/
def firstLetter (c1 : UInt8) : UInt8 :=
  tableLetter (c1.toNat >>> 2)

/-- `myBase64Table[((c1 << 4) | c2 >> 4) & 0x3f]`. -/
def secondLetter (c1 c2 : UInt8) : UInt8 :=
  tableLetter (((c1.toNat <<< 4) ||| (c2.toNat >>> 4)) &&& 0x3f)

/-- `myBase64Table[((c2 << 2) | c3 >> 6) & 0x3f]`. -/
def thirdLetter (c2 c3 : UInt8) : UInt8 :=
  tableLetter (((c2.toNat <<< 2) ||| (c3.toNat >>> 6)) &&& 0x3f)

/-- `myBase64Table[c3 & 0x3f]`. -/
def fourthLetter (c3 : UInt8) : UInt8 :=
  tableLetter (c3.toNat &&& 0x3f)

/-- The loop of `EncodeBase64`: what is written in `nDiv` rounds, and what
`pSrc` points to afterwards. -/
def encodeGroups : Nat → Bytes → Bytes × Bytes
  | 0, pSrc => ([], pSrc)
  | nDiv + 1, pSrc =>
      let c1 := pSrc.getD 0 0
      let c2 := pSrc.getD 1 0
      let c3 := pSrc.getD 2 0
      let (written, pSrc) := encodeGroups nDiv (pSrc.drop 3)
      ([firstLetter c1, secondLetter c1 c2, thirdLetter c2 c3,
        fourthLetter c3] ++ written, pSrc)

/-- What `EncodeBase64` writes after the loop. -/
def encodeRemainder (nMod : Nat) (pSrc : Bytes) : Bytes :=
  let c1 := pSrc.getD 0 0
  if nMod = 1 then
    [firstLetter c1, secondLetter c1 0, thirdLetter 0 0, 61]
  else if nMod = 2 then
    let c2 := pSrc.getD 1 0
    [firstLetter c1, secondLetter c1 c2, thirdLetter c2 0, 61]
  else
    []

/-- `EncodeBase64` of all bytes of `pSrc`: the length returned, and what is
written to `pDst`. -/
def encodeBase64 (pSrc : Bytes) : Int × Bytes :=
  if pSrc.length = 0 then
    (-1, [])
  else
    let (written, rest) := encodeGroups (pSrc.length / 3) pSrc
    let pDst := written ++ encodeRemainder (pSrc.length % 3) rest
    -- `return nDstLen`, an `unsigned int`.
    (Int.bmod pDst.length (2 ^ 32), pDst ++ [0])

open Base64

/-- The table holds the letters of the digits. -/
theorem tableLetter_eq {digit : Nat} (isDigit : digit < 64) :
    tableLetter digit = letter digit := by
  revert digit
  decide

/-- Two parts of a number, joined by `|` and cut to six bits. -/
theorem join_and_mask {high low width : Nat} (fits : low < 2 ^ width) :
    ((high <<< width) ||| low) &&& 0x3f = (high * 2 ^ width + low) % 64 := by
  rw [← Nat.shiftLeft_add_eq_or_of_lt fits, Nat.shiftLeft_eq]
  exact Nat.and_two_pow_sub_one_eq_mod _ 6

section

variable (c1 c2 c3 : UInt8)

theorem firstLetter_eq : firstLetter c1 = letterAt (group c1 c2 c3) 3 := by
  have := c1.toNat_lt
  have := c2.toNat_lt
  have := c3.toNat_lt
  have digit : c1.toNat >>> 2 = group c1 c2 c3 / 64 ^ 3 % 64 := by
    rw [Nat.shiftRight_eq_div_pow]
    simp only [group]
    omega
  rw [firstLetter, digit, tableLetter_eq (Nat.mod_lt _ (by decide)), letterAt]

theorem secondLetter_eq :
    secondLetter c1 c2 = letterAt (group c1 c2 c3) 2 := by
  have := c1.toNat_lt
  have := c2.toNat_lt
  have := c3.toNat_lt
  have high : c2.toNat >>> 4 = c2.toNat / 16 :=
    Nat.shiftRight_eq_div_pow _ _
  have digit : ((c1.toNat <<< 4) ||| (c2.toNat >>> 4)) &&& 0x3f =
      group c1 c2 c3 / 64 ^ 2 % 64 := by
    rw [join_and_mask (by omega), high]
    simp only [group]
    omega
  rw [secondLetter, digit, tableLetter_eq (Nat.mod_lt _ (by decide)),
    letterAt]

theorem thirdLetter_eq : thirdLetter c2 c3 = letterAt (group c1 c2 c3) 1 := by
  have := c1.toNat_lt
  have := c2.toNat_lt
  have := c3.toNat_lt
  have high : c3.toNat >>> 6 = c3.toNat / 64 :=
    Nat.shiftRight_eq_div_pow _ _
  have digit : ((c2.toNat <<< 2) ||| (c3.toNat >>> 6)) &&& 0x3f =
      group c1 c2 c3 / 64 ^ 1 % 64 := by
    rw [join_and_mask (by omega), high]
    simp only [group]
    omega
  rw [thirdLetter, digit, tableLetter_eq (Nat.mod_lt _ (by decide)), letterAt]

theorem fourthLetter_eq : fourthLetter c3 = letterAt (group c1 c2 c3) 0 := by
  have digit : c3.toNat &&& 0x3f = group c1 c2 c3 / 64 ^ 0 % 64 := by
    rw [show (0x3f : Nat) = 2 ^ 6 - 1 from rfl,
      Nat.and_two_pow_sub_one_eq_mod]
    simp only [group]
    omega
  rw [fourthLetter, digit, tableLetter_eq (Nat.mod_lt _ (by decide)),
    letterAt]

end

/-- What is written in front of the terminator. -/
def encodeLetters (pSrc : Bytes) : Bytes :=
  (encodeGroups (pSrc.length / 3) pSrc).1 ++
    encodeRemainder (pSrc.length % 3) (encodeGroups (pSrc.length / 3) pSrc).2

theorem encodeLetters_one (first : UInt8) :
    encodeLetters [first] =
      [firstLetter first, secondLetter first 0, thirdLetter 0 0, 61] := by
  simp [encodeLetters, encodeGroups, encodeRemainder]

theorem encodeLetters_two (first second : UInt8) :
    encodeLetters [first, second] =
      [firstLetter first, secondLetter first second, thirdLetter second 0,
        61] := by
  simp [encodeLetters, encodeGroups, encodeRemainder]

theorem encodeLetters_group (first second third : UInt8) (rest : Bytes) :
    encodeLetters (first :: second :: third :: rest) =
      [firstLetter first, secondLetter first second,
        thirdLetter second third, fourthLetter third] ++
          encodeLetters rest := by
  have rounds : (first :: second :: third :: rest).length / 3 =
      rest.length / 3 + 1 := by
    simp only [List.length_cons]
    omega
  have remainder : (first :: second :: third :: rest).length % 3 =
      rest.length % 3 := by
    simp only [List.length_cons]
    omega
  rw [encodeLetters, rounds, remainder]
  simp only [encodeGroups, List.getD_cons_zero, List.getD_cons_succ,
    List.drop_succ_cons, List.drop_zero, List.append_assoc, encodeLetters]

theorem encodeBase64_letters {pSrc : Bytes} (nonempty : pSrc.length ≠ 0) :
    encodeBase64 pSrc =
      (Int.bmod (encodeLetters pSrc).length (2 ^ 32),
        encodeLetters pSrc ++ [0]) := by
  simp only [encodeBase64, if_neg nonempty, encodeLetters]

/-- What is written in front of the terminator is base64, unless the last
group has one byte: it gets one padding sign where base64 has two. -/
theorem encodeLetters_iff (pSrc : Bytes) :
    encodeLetters pSrc = encode pSrc ↔ pSrc.length % 3 ≠ 1 := by
  induction pSrc using encode.induct with
  | case1 => exact iff_of_true rfl (by decide)
  | case2 first =>
      refine iff_of_false (fun same => ?_) (by simp)
      have third := congrArg (fun letters => letters.getD 2 0)
        ((encodeLetters_one first).symm.trans same)
      simp only [encode, List.getD_cons_succ, List.getD_cons_zero] at third
      exact absurd third (by decide)
  | case3 first second =>
      refine iff_of_true ?_ (by simp)
      rw [encodeLetters_two, firstLetter_eq first second 0,
        secondLetter_eq first second 0, thirdLetter_eq first second 0]
      rfl
  | case4 first second third rest ih =>
      have remainder : (first :: second :: third :: rest).length % 3 =
          rest.length % 3 := by
        simp only [List.length_cons]
        omega
      rw [encodeLetters_group, remainder, ← ih, encode,
        firstLetter_eq first second third,
        secondLetter_eq first second third, thirdLetter_eq first second third,
        fourthLetter_eq first second third, List.append_cancel_left_eq]

/-- The encoder on byte strings that do not leave one byte over. -/
theorem encodeBase64_eq {pSrc : Bytes} (nonempty : pSrc.length ≠ 0)
    (notOne : pSrc.length % 3 ≠ 1) :
    encodeBase64 pSrc =
      (Int.bmod (encode pSrc).length (2 ^ 32), encode pSrc ++ [0]) := by
  rw [encodeBase64_letters nonempty, (encodeLetters_iff pSrc).mpr notOne]

end EchoServer
