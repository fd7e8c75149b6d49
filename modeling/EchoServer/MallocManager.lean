import EchoServer.ByteOrder

/-!
# Block sizes of the memory manager

`mallocManager::malloc` rounds every request up with `fixSize` before it takes
a block from a pool.  A block is modelled by its bytes; a fresh one is all
zero, because a pool fills its memory with zeros when it expands and when a
block is given back.
-/

namespace EchoServer

namespace MallocManager

/-- `mem_max_size`. -/
def memMaxSize : Nat := 1024 * 10

/-- `mallocManager::fixSize`. -/
def fixSize (size : Nat) : Nat :=
  if size ≤ 8 then 8
  else if size ≤ 16 then 16
  else if size ≤ 32 then 32
  else if size ≤ 64 then 64
  else if size ≤ 128 then 128
  else if size ≤ 256 then 256
  else if size ≤ 512 then 512
  else if size ≤ 1024 then 1024
  else if size ≤ 2048 then 2048
  else if size ≤ 4096 then 4096
  else if size ≤ 8192 then 8192
  else if size ≤ memMaxSize then memMaxSize
  else size

/-- The memory that `__new(size)` hands out. -/
def newBlock (size : Nat) : Bytes :=
  List.replicate (fixSize size) 0

private theorem le_roundUp {size bound rest : Nat} (le_rest : size ≤ rest) :
    size ≤ if size ≤ bound then bound else rest := by
  split
  · assumption
  · exact le_rest

theorem le_fixSize (size : Nat) : size ≤ fixSize size := by
  unfold fixSize
  repeat apply le_roundUp
  exact Nat.le_refl size

@[simp]
theorem newBlock_length (size : Nat) :
    (newBlock size).length = fixSize size := by
  simp [newBlock]

end MallocManager

end EchoServer
