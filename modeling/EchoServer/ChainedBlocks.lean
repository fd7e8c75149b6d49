import EchoServer.ByteOrder

/-!
# Hashing a message block by block

A hash of this kind keeps a chaining value.  Every full block of the message
is compressed into it, and what does not fill a block yet is kept aside.
However a message is cut into pieces, feeding them one after the other leaves
the same chaining value as cutting the whole message into blocks.
-/

namespace EchoServer

namespace ChainedBlocks

variable {Chain : Type} (compress : Chain → Bytes → Chain) (size : Nat)

/-- A chaining value, and the bytes behind the last full block. -/
structure Absorbed (Chain : Type) where
  chain : Chain
  rest : Bytes

/-- One more byte. -/
def feed (absorbed : Absorbed Chain) (byte : UInt8) : Absorbed Chain :=
  if absorbed.rest.length + 1 = size then
    ⟨compress absorbed.chain (absorbed.rest ++ [byte]), []⟩
  else
    ⟨absorbed.chain, absorbed.rest ++ [byte]⟩

/-- The bytes of a piece, one after the other. -/
def absorb (absorbed : Absorbed Chain) (piece : Bytes) : Absorbed Chain :=
  piece.foldl (feed compress size) absorbed

/-- Compress the first blocks of a message. -/
def chainBlocks : Nat → Bytes → Chain → Chain
  | 0, _, chain => chain
  | count + 1, message, chain =>
      chainBlocks count (message.drop size)
        (compress chain (message.take size))

variable {compress size} {absorbed : Absorbed Chain} {piece : Bytes}

@[simp]
theorem absorb_nil : absorb compress size absorbed [] = absorbed :=
  rfl

theorem absorb_cons (byte : UInt8) :
    absorb compress size absorbed (byte :: piece) =
      absorb compress size (feed compress size absorbed byte) piece :=
  List.foldl_cons ..

/-- Pieces fed one after the other are one piece. -/
theorem absorb_append (absorbed : Absorbed Chain) (first second : Bytes) :
    absorb compress size absorbed (first ++ second) =
      absorb compress size (absorb compress size absorbed first) second :=
  List.foldl_append

/-- A piece that does not fill the block is kept aside. -/
theorem absorb_short (short : absorbed.rest.length + piece.length < size) :
    absorb compress size absorbed piece =
      ⟨absorbed.chain, absorbed.rest ++ piece⟩ := by
  induction piece generalizing absorbed with
  | nil => simp
  | cons byte piece ih =>
      rw [List.length_cons] at short
      have fed : feed compress size absorbed byte =
          ⟨absorbed.chain, absorbed.rest ++ [byte]⟩ :=
        if_neg (by omega)
      rw [absorb_cons, fed, ih]
      · simp
      · rw [List.length_append, List.length_singleton]
        omega

/-- A piece that just fills the block. -/
theorem absorb_full (notFull : absorbed.rest.length < size)
    (fills : absorbed.rest.length + piece.length = size) :
    absorb compress size absorbed piece =
      ⟨compress absorbed.chain (absorbed.rest ++ piece), []⟩ := by
  rcases List.eq_nil_or_concat piece with rfl | ⟨front, last, rfl⟩
  · rw [List.length_nil] at fills
    omega
  · rw [List.concat_eq_append, List.length_append,
      List.length_singleton] at fills
    have front_short : absorbed.rest.length + front.length < size := by omega
    rw [List.concat_eq_append, absorb_append, absorb_short front_short,
      absorb_cons, absorb_nil, feed, if_pos, List.append_assoc]
    rw [List.length_append]
    omega

/-- What is kept aside never fills a block. -/
theorem absorb_rest_length (notFull : absorbed.rest.length < size) :
    (absorb compress size absorbed piece).rest.length =
      (absorbed.rest.length + piece.length) % size := by
  induction piece generalizing absorbed with
  | nil =>
      rw [absorb_nil, List.length_nil, Nat.add_zero,
        Nat.mod_eq_of_lt notFull]
  | cons byte piece ih =>
      rw [absorb_cons, feed, List.length_cons]
      by_cases full : absorbed.rest.length + 1 = size
      · have sum : absorbed.rest.length + (piece.length + 1) =
            0 + piece.length + size := by omega
        rw [if_pos full, ih (by simpa using (by omega : 0 < size)), sum,
          Nat.add_mod_right]
        rfl
      · have sum : absorbed.rest.length + (piece.length + 1) =
            (absorbed.rest ++ [byte]).length + piece.length := by
          rw [List.length_append, List.length_singleton]
          omega
        rw [if_neg full, ih, sum]
        rw [List.length_append, List.length_singleton]
        omega

/-- Whole blocks, however they are cut, are compressed one by one. -/
theorem absorb_blocks (positive : 0 < size) (count : Nat) (chain : Chain)
    (message : Bytes) (whole : message.length = count * size) :
    absorb compress size ⟨chain, []⟩ message =
      ⟨chainBlocks compress size count message chain, []⟩ := by
  induction count generalizing chain message with
  | zero =>
      rw [Nat.zero_mul] at whole
      rw [List.eq_nil_of_length_eq_zero whole]
      rfl
  | succ count ih =>
      rw [Nat.succ_mul] at whole
      have first : (message.take size).length = size := by
        rw [List.length_take]
        omega
      have split : message = message.take size ++ message.drop size :=
        (List.take_append_drop size message).symm
      have filled : absorb compress size ⟨chain, []⟩ (message.take size) =
          ⟨compress chain (message.take size), []⟩ := by
        rw [absorb_full positive]
        · rfl
        · simpa using first
      rw [chainBlocks, ← ih, ← filled, ← absorb_append, ← split]
      rw [List.length_drop]
      omega

end ChainedBlocks

end EchoServer
