import EchoServer.ByteOrder

/-!
# Memory blocks of a fixed size

A block is a byte string of known length.  Copying into a block truncates at
its end, so that the length is kept whatever is copied; whether a copy stays
inside is a separate question for the code that makes it.
-/

namespace EchoServer

/-- A memory block of `size` bytes. -/
structure Block (size : Nat) where
  bytes : Bytes
  bytes_length : bytes.length = size

namespace Block

variable {size : Nat}

/-- A block filled with zeros. -/
def zero (size : Nat) : Block size where
  bytes := List.replicate size 0
  bytes_length := List.length_replicate

/-- The `length` bytes from `offset` on. -/
def slice (block : Block size) (offset length : Nat) : Bytes :=
  (block.bytes.drop offset).take length

/-- Copy bytes to `offset`. -/
def overwrite (block : Block size) (offset : Nat) (data : Bytes) :
    Block size where
  bytes := (block.bytes.take offset ++ data ++
    block.bytes.drop (offset + data.length)).take size
  bytes_length := by
    have := block.bytes_length
    simp only [List.length_take, List.length_append, List.length_drop]
    omega

/-- Move `length` bytes from `offset` on to the start of the block. -/
def moveToFront (block : Block size) (offset length : Nat) : Block size :=
  block.overwrite 0 (block.slice offset length)

theorem slice_length {block : Block size} {offset length : Nat}
    (within : offset + length ≤ size) :
    (block.slice offset length).length = length := by
  have := block.bytes_length
  simp only [slice, List.length_take, List.length_drop]
  omega

theorem take_length {block : Block size} {length : Nat}
    (within : length ≤ size) : (block.bytes.take length).length = length := by
  have := block.bytes_length
  simp only [List.length_take]
  omega

/-- A copy that stays inside replaces exactly the bytes at its place. -/
theorem overwrite_bytes {block : Block size} {offset : Nat} {data : Bytes}
    (within : offset + data.length ≤ size) :
    (block.overwrite offset data).bytes =
      block.bytes.take offset ++ data ++
        block.bytes.drop (offset + data.length) := by
  have := block.bytes_length
  apply List.take_of_length_le
  simp only [List.length_append, List.length_take, List.length_drop]
  omega

/-- Up to its end, a copy leaves what was in front of it, then the data. -/
theorem take_overwrite {block : Block size} {offset : Nat} {data : Bytes}
    (within : offset + data.length ≤ size) :
    (block.overwrite offset data).bytes.take (offset + data.length) =
      block.bytes.take offset ++ data := by
  have := block.bytes_length
  rw [overwrite_bytes within]
  apply List.take_left'
  simp only [List.length_append, List.length_take]
  omega

/-- A block that is filled from its start by consecutive copies. -/
theorem take_overwrite_behind {block : Block size} (front data : Bytes)
    (filled : block.bytes.take front.length = front)
    (within : front.length + data.length ≤ size) :
    (block.overwrite front.length data).bytes.take
        (front ++ data).length = front ++ data := by
  rw [List.length_append, take_overwrite within, filled]

/-- A copy to the start of an empty block that does not fill it. -/
theorem zero_overwrite_bytes {data : Bytes} (short : data.length < size) :
    ((zero size).overwrite 0 data).bytes =
      data ++ 0 :: List.replicate (size - data.length - 1) 0 := by
  have room : size - data.length = (size - data.length - 1) + 1 := by omega
  rw [overwrite_bytes (by omega), ← List.replicate_succ, ← room]
  simp [zero]

theorem take_moveToFront {block : Block size} {offset length : Nat}
    (within : offset + length ≤ size) :
    (block.moveToFront offset length).bytes.take length =
      block.slice offset length := by
  have sliceLength : (block.slice offset length).length = length :=
    slice_length within
  have moved : (block.overwrite 0 (block.slice offset length)).bytes.take
      (0 + (block.slice offset length).length) =
        block.bytes.take 0 ++ block.slice offset length :=
    take_overwrite (by omega)
  simpa [sliceLength, moveToFront] using moved

end Block

end EchoServer
