import Mathlib.Algebra.Group.Nat.Defs
import Mathlib.Data.List.Basic
import Mathlib.Tactic.Common

/-!
# Unsigned numbers as bytes

Conversion between natural numbers and fixed-width byte strings, least
significant byte first.  A machine of either byte order stores a number as
these bytes or as their reverse, so one pair of mutually inverse functions
serves both orders.
-/

namespace EchoServer

abbrev Bytes := List UInt8

namespace ByteOrder

/-- The `width` low bytes of a number, least significant first. -/
def littleEndian : Nat → Nat → Bytes
  | 0, _ => []
  | width + 1, number =>
      UInt8.ofNat number :: littleEndian width (number / 256)

/-- The number written by a byte string, least significant byte first. -/
def littleEndianValue : Bytes → Nat
  | [] => 0
  | byte :: bytes => byte.toNat + 256 * littleEndianValue bytes

@[simp]
theorem littleEndian_length (width number : Nat) :
    (littleEndian width number).length = width := by
  induction width generalizing number with
  | zero => rfl
  | succ width ih => simp [littleEndian, ih]

theorem littleEndianValue_lt (bytes : Bytes) :
    littleEndianValue bytes < 256 ^ bytes.length := by
  induction bytes with
  | nil => simp [littleEndianValue]
  | cons byte bytes ih =>
      have byteBound := byte.toNat_lt
      simp only [littleEndianValue, List.length_cons, Nat.pow_succ]
      omega

/-- A number that fits in the width is recovered from its bytes. -/
theorem littleEndianValue_littleEndian {width number : Nat}
    (fits : number < 256 ^ width) :
    littleEndianValue (littleEndian width number) = number := by
  induction width generalizing number with
  | zero =>
      simp only [Nat.pow_zero] at fits
      simp [littleEndian, littleEndianValue]
      omega
  | succ width ih =>
      have quotientFits : number / 256 < 256 ^ width := by
        rw [Nat.pow_succ] at fits
        exact Nat.div_lt_of_lt_mul (by omega)
      simp only [littleEndian, littleEndianValue, ih quotientFits,
        UInt8.toNat_ofNat']
      omega

/-- Bytes are recovered from the number that they write. -/
theorem littleEndian_littleEndianValue (bytes : Bytes) :
    littleEndian bytes.length (littleEndianValue bytes) = bytes := by
  induction bytes with
  | nil => rfl
  | cons byte bytes ih =>
      have byteBound := byte.toNat_lt
      have quotient : (byte.toNat + 256 * littleEndianValue bytes) / 256 =
          littleEndianValue bytes := by omega
      have low : UInt8.ofNat (byte.toNat + 256 * littleEndianValue bytes) =
          byte := by
        apply UInt8.toNat_inj.mp
        rw [UInt8.toNat_ofNat']
        omega
      simp only [List.length_cons, littleEndianValue, littleEndian, quotient,
        low, ih]

theorem littleEndian_zero (width : Nat) :
    littleEndian width 0 = List.replicate width 0 := by
  induction width with
  | zero => rfl
  | succ width ih =>
      rw [littleEndian, ih]
      rfl

/-- Behind the bytes that are enough for a number come zeros. -/
theorem littleEndian_add {width number : Nat} (fits : number < 256 ^ width)
    (more : Nat) :
    littleEndian (width + more) number =
      littleEndian width number ++ List.replicate more 0 := by
  induction width generalizing number with
  | zero =>
      have zero : number = 0 := by
        simp only [Nat.pow_zero] at fits
        omega
      rw [zero, Nat.zero_add, littleEndian_zero]
      rfl
  | succ width ih =>
      have quotientFits : number / 256 < 256 ^ width := by
        rw [Nat.pow_succ] at fits
        exact Nat.div_lt_of_lt_mul (by omega)
      rw [Nat.succ_add, littleEndian, littleEndian, ih quotientFits]
      rfl

theorem littleEndianValue_append (low high : Bytes) :
    littleEndianValue (low ++ high) =
      littleEndianValue low + 256 ^ low.length * littleEndianValue high := by
  induction low with
  | nil => simp [littleEndianValue]
  | cons byte low ih =>
      simp only [List.cons_append, littleEndianValue, ih, List.length_cons,
        Nat.pow_succ]
      rw [Nat.mul_add, Nat.add_assoc, Nat.mul_comm (256 ^ low.length) 256,
        Nat.mul_assoc]

/-- The byte order of the machine that runs the code. -/
inductive Host
  | little
  | big
  deriving DecidableEq

/-- The bytes of a `width`-byte unsigned number in the memory of a host. -/
def hostBytes (host : Host) (width number : Nat) : Bytes :=
  match host with
  | .little => littleEndian width number
  | .big => (littleEndian width number).reverse

/-- The unsigned number that a host reads from its memory. -/
def hostValue (host : Host) (bytes : Bytes) : Nat :=
  match host with
  | .little => littleEndianValue bytes
  | .big => littleEndianValue bytes.reverse

@[simp]
theorem hostBytes_length (host : Host) (width number : Nat) :
    (hostBytes host width number).length = width := by
  cases host <;> simp [hostBytes]

/-- Whatever bytes a host reads a number from, it writes them back. -/
theorem hostBytes_hostValue (host : Host) (bytes : Bytes) :
    hostBytes host bytes.length (hostValue host bytes) = bytes := by
  cases host with
  | little => exact littleEndian_littleEndianValue bytes
  | big =>
      have reversed := littleEndian_littleEndianValue bytes.reverse
      rw [List.length_reverse] at reversed
      simp only [hostBytes, hostValue, reversed, List.reverse_reverse]

end ByteOrder

end EchoServer
