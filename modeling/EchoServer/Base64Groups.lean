import EchoServer.CStrings

/-!
# Base64

Three bytes are a number of 24 bits, and its four digits to the base 64 are
written with letters.  Where the bytes end inside a group, the group is filled
with zeros, and a digit that holds nothing else is written as a padding sign.
-/

namespace EchoServer

namespace Base64

/-- The letter of a digit. -/
def letter (digit : Nat) : UInt8 :=
  if digit < 26 then UInt8.ofNat (65 + digit)
  else if digit < 52 then UInt8.ofNat (71 + digit)
  else if digit < 62 then UInt8.ofNat (digit - 4)
  else if digit = 62 then 43
  else 47

/-- The sign `=`. -/
def padding : UInt8 :=
  61

/-- The number that three bytes write. -/
def group (first second third : UInt8) : Nat :=
  first.toNat * 65536 + second.toNat * 256 + third.toNat

/-- The letter at a place of a group, counted from the last one. -/
def letterAt (number place : Nat) : UInt8 :=
  letter (number / 64 ^ place % 64)

/-- The base64 text of a byte string. -/
def encode : Bytes → Bytes
  | [] => []
  | [first] =>
      let number := group first 0 0
      [letterAt number 3, letterAt number 2, padding, padding]
  | [first, second] =>
      let number := group first second 0
      [letterAt number 3, letterAt number 2, letterAt number 1, padding]
  | first :: second :: third :: rest =>
      let number := group first second third
      [letterAt number 3, letterAt number 2, letterAt number 1,
        letterAt number 0] ++ encode rest

theorem letter_ne_zero {digit : Nat} (isDigit : digit < 64) :
    letter digit ≠ 0 := by
  revert digit
  decide

theorem letterAt_ne_zero (number place : Nat) :
    letterAt number place ≠ 0 :=
  letter_ne_zero (Nat.mod_lt _ (by decide))

/-- The text holds no zero byte. -/
theorem encode_ne_zero (bytes : Bytes) : ∀ byte ∈ encode bytes, byte ≠ 0 := by
  induction bytes using encode.induct with
  | case1 => simp [encode]
  | case2 first => simp [encode, letterAt_ne_zero, padding]
  | case3 first second => simp [encode, letterAt_ne_zero, padding]
  | case4 first second third rest ih =>
      intro byte member
      rcases List.mem_append.mp member with inGroup | inRest
      · simp only [List.mem_cons, List.not_mem_nil, or_false] at inGroup
        rcases inGroup with rfl | rfl | rfl | rfl <;>
          exact letterAt_ne_zero _ _
      · exact ih byte inRest

example : encode (text "foobar") = text "Zm9vYmFy" := by decide

example : encode (text "fooba") = text "Zm9vYmE=" := by decide

example : encode (text "foob") = text "Zm9vYg==" := by decide

end Base64

end EchoServer
