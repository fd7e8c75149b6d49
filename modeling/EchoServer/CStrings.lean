import EchoServer.ByteOrder
import Mathlib.Algebra.Group.Int.Defs
import Mathlib.Data.List.Infix
import Mathlib.Data.List.TakeWhile

/-!
# Texts that end with a zero byte

A text in memory ends in front of the first zero byte; what is behind it does
not belong to the text, whatever it is.  A pattern is looked for from the
start of a text.
-/

namespace EchoServer

/-- The bytes of a text of one-byte characters. -/
def text (characters : String) : Bytes :=
  characters.toList.map fun character => UInt8.ofNat character.toNat

/-- The text that starts a byte string: the bytes in front of the first
zero. -/
def cString (bytes : Bytes) : Bytes :=
  bytes.takeWhile (· ≠ 0)

/-- The first place in a text where a pattern begins. -/
def firstOccurrence (pattern : Bytes) : Bytes → Option Nat
  | [] => if pattern <+: [] then some 0 else none
  | byte :: bytes =>
      if pattern <+: byte :: bytes then some 0
      else (firstOccurrence pattern bytes).map (· + 1)

/-- `isspace`. -/
def isSpace (byte : UInt8) : Bool :=
  byte = 32 || (9 ≤ byte && byte ≤ 13)

/-- The number that the digits at the start of a text spell. -/
def digitsValue (text : Bytes) : Nat :=
  (text.takeWhile fun byte => 48 ≤ byte && byte ≤ 57).foldl
    (fun value digit => 10 * value + (digit.toNat - 48)) 0

/-- The number at the start of a text, behind white space and a sign. -/
def leadingNumber (text : Bytes) : Int :=
  match text.dropWhile isSpace with
  | 45 :: digits => -digitsValue digits
  | 43 :: digits => digitsValue digits
  | digits => digitsValue digits

/-- `atoi`.  What it returns for a number that is not an `int` is not
defined. -/
def atoi (unrepresentable : Int → Int) (bytes : Bytes) : Int :=
  let number := leadingNumber (cString bytes)
  if -2 ^ 31 ≤ number ∧ number < 2 ^ 31 then number
  else unrepresentable number

variable {bytes pattern : Bytes}

theorem cString_eq_self (noZero : ∀ byte ∈ bytes, byte ≠ 0) :
    cString bytes = bytes := by
  apply List.takeWhile_eq_self_iff.mpr
  intro byte member
  simpa using noZero byte member

/-- A text ends at the first zero. -/
theorem cString_append (noZero : ∀ byte ∈ bytes, byte ≠ 0) (more : Bytes) :
    cString (bytes ++ 0 :: more) = bytes := by
  rw [cString, List.takeWhile_append_of_pos]
  · simp
  · intro byte member
    simpa using noZero byte member

theorem firstOccurrence_eq {place : Nat} (here : pattern <+: bytes.drop place)
    (le : place ≤ bytes.length)
    (first : ∀ earlier < place, ¬ pattern <+: bytes.drop earlier) :
    firstOccurrence pattern bytes = some place := by
  induction bytes generalizing place with
  | nil =>
      obtain rfl : place = 0 := Nat.le_zero.mp le
      exact if_pos here
  | cons byte bytes ih =>
      cases place with
      | zero => exact if_pos here
      | succ place =>
          have notHere := first 0 (Nat.succ_pos place)
          rw [List.drop_zero] at notHere
          have found : firstOccurrence pattern bytes = some place :=
            ih here (Nat.le_of_succ_le_succ le) fun earlier before =>
              first (earlier + 1) (Nat.succ_lt_succ before)
          rw [firstOccurrence, if_neg notHere, found]
          rfl

end EchoServer
