import EchoServer.ByteOrder

/-!
# The binary stream of `Biosream.h`

`bios` is three pointers into a buffer and a byte-order flag.  Here the buffer
is the byte string between `pbase` and `pend`, and the cursor is the integer
`pcurr - pbase`.  The insertions and extractions of unsigned integers go
through `write_care_endian` and `read_care_endian`, which compare the flag of
the stream with the byte order of the host; the bytes on the wire depend on
the flag alone.
-/

namespace EchoServer

open ByteOrder

/-- `biosexception::BIOSEXCEPTION_CODE`. -/
inductive BiosExceptionCode
  | none
  | «end»
  | overflow
  | stringtoolong
  deriving DecidableEq

/-- How a stream operation stops early: a thrown `biosexception`, or a memory
access before the buffer, which C++ leaves undefined. -/
inductive StreamStop
  | biosexception (cause : BiosExceptionCode)
  | outOfBounds
  deriving DecidableEq

/-- `bios`: the buffer `[pbase, pend)`, the offset of `pcurr` and
`m_bigendian`. -/
structure Bios where
  buffer : Bytes
  curr : Int
  bigEndian : Bool
  deriving DecidableEq

/-- Stream operations may throw; the stream keeps the state it had then. -/
abbrev StreamM := EStateM StreamStop Bios

namespace Bios

/-- `attach(pch, nLength)`, for the bytes of the buffer attached to. -/
def attach (buffer : Bytes) (bigEndian : Bool) : Bios where
  buffer := buffer
  curr := 0
  bigEndian := bigEndian

/-- `avail()`. -/
def avail (stream : Bios) : Int :=
  stream.buffer.length - stream.curr

/-- `length()`. -/
def length (stream : Bios) : Int :=
  stream.curr

/-- `IS_SAME_ENDIAN(bigendian)`. -/
def isSameEndian (host : Host) (bigEndian : Bool) : Bool :=
  (bigEndian && host == .big) || (!bigEndian && !(host == .big))

end Bios

/-- The copy loop shared by `read_order` and `read_opposite`: `len` bytes from
the cursor on.  `len` is the size of an integer type, so its conversion to
`long` is exact. -/
def readBytes (len : Nat) : StreamM Bytes := fun stream =>
  if stream.avail < len then
    .error (.biosexception .overflow) stream
  else if stream.curr < 0 then
    .error .outOfBounds stream
  else
    .ok ((stream.buffer.drop stream.curr.toNat).take len)
      { stream with curr := stream.curr + len }

/-- `bistream::read_order`. -/
def readOrder (len : Nat) : StreamM Bytes :=
  readBytes len

/-- `bistream::read_opposite` fills its destination from the back. -/
def readOpposite (len : Nat) : StreamM Bytes := do
  let bytes ← readBytes len
  return bytes.reverse

/-- `bistream::read_care_endian`. -/
def readCareEndian (host : Host) (len : Nat) : StreamM Bytes := do
  if Bios.isSameEndian host (← get).bigEndian then
    readOrder len
  else
    readOpposite len

/-- `bistream::operator>>` for an unsigned integer type of `width` bytes: the
host reads the destination variable in its own byte order. -/
def readUnsigned (host : Host) (width : Nat) : StreamM Nat := do
  let bytes ← readCareEndian host width
  return hostValue host bytes

/-- The copy loop shared by `write_order` and `write_opposite`. -/
def writeBytes (bytes : Bytes) : StreamM Unit := fun stream =>
  if stream.avail < bytes.length then
    .error (.biosexception .overflow) stream
  else if stream.curr < 0 then
    .error .outOfBounds stream
  else
    .ok ()
      { stream with
        buffer := stream.buffer.take stream.curr.toNat ++ bytes ++
          stream.buffer.drop (stream.curr.toNat + bytes.length)
        curr := stream.curr + bytes.length }

/-- `bostream::write_order`. -/
def writeOrder (bytes : Bytes) : StreamM Unit :=
  writeBytes bytes

/-- `bostream::write_opposite` reads its source from the back. -/
def writeOpposite (bytes : Bytes) : StreamM Unit :=
  writeBytes bytes.reverse

/-- `bostream::write_care_endian`. -/
def writeCareEndian (host : Host) (bytes : Bytes) : StreamM Unit := do
  if Bios.isSameEndian host (← get).bigEndian then
    writeOrder bytes
  else
    writeOpposite bytes

/-- `bostream::operator<<` for an unsigned integer type of `width` bytes. -/
def writeUnsigned (host : Host) (width number : Nat) : StreamM Unit :=
  writeCareEndian host (hostBytes host width number)

/-- The bytes that stand for a number in a stream with the given flag. -/
def wireBytes (bigEndian : Bool) (width number : Nat) : Bytes :=
  if bigEndian then (littleEndian width number).reverse
  else littleEndian width number

/-- The number that such bytes stand for. -/
def wireValue (bigEndian : Bool) (bytes : Bytes) : Nat :=
  if bigEndian then littleEndianValue bytes.reverse
  else littleEndianValue bytes

@[simp]
theorem wireBytes_length (bigEndian : Bool) (width number : Nat) :
    (wireBytes bigEndian width number).length = width := by
  cases bigEndian <;> simp [wireBytes]

/-- A number that fits in the width is recovered from its wire bytes. -/
theorem wireValue_wireBytes (bigEndian : Bool) {width number : Nat}
    (fits : number < 256 ^ width) :
    wireValue bigEndian (wireBytes bigEndian width number) = number := by
  cases bigEndian <;>
    simp [wireValue, wireBytes, littleEndianValue_littleEndian fits]

theorem getStream_eq (stream : Bios) :
    (get : StreamM Bios) stream = .ok stream stream :=
  rfl

/-- Extraction does not depend on the byte order of the host. -/
theorem readUnsigned_eq (host : Host) (width : Nat) (stream : Bios)
    (inRange : 0 ≤ stream.curr)
    (enough : (width : Int) ≤ stream.avail) :
    readUnsigned host width stream =
      .ok (wireValue stream.bigEndian
          ((stream.buffer.drop stream.curr.toNat).take width))
        { stream with curr := stream.curr + width } := by
  have notShort : ¬ stream.avail < (width : Int) := by omega
  have notBefore : ¬ stream.curr < 0 := by omega
  cases host <;> cases flag : stream.bigEndian <;>
    simp [readUnsigned, readCareEndian, readOrder, readOpposite, readBytes,
      Bios.isSameEndian, wireValue, hostValue, bind, EStateM.bind,
      getStream_eq, pure, EStateM.pure, flag, notShort, notBefore]

/-- Extraction of more bytes than are left throws `overflow` and leaves the
stream as it was. -/
theorem readUnsigned_short (host : Host) (width : Nat) (stream : Bios)
    (short : stream.avail < (width : Int)) :
    readUnsigned host width stream =
      .error (.biosexception .overflow) stream := by
  cases host <;> cases flag : stream.bigEndian <;>
    simp [readUnsigned, readCareEndian, readOrder, readOpposite, readBytes,
      Bios.isSameEndian, bind, EStateM.bind, getStream_eq, flag, short]

/-- Insertion writes the wire bytes, whatever the byte order of the host. -/
theorem writeUnsigned_eq (host : Host) (width number : Nat) (stream : Bios)
    (inRange : 0 ≤ stream.curr)
    (enough : (width : Int) ≤ stream.avail) :
    writeUnsigned host width number stream =
      .ok ()
        { stream with
          buffer := stream.buffer.take stream.curr.toNat ++
            wireBytes stream.bigEndian width number ++
            stream.buffer.drop (stream.curr.toNat + width)
          curr := stream.curr + width } := by
  have notShort : ¬ stream.avail < (width : Int) := by omega
  have notBefore : ¬ stream.curr < 0 := by omega
  cases host <;> cases flag : stream.bigEndian <;>
    simp [writeUnsigned, writeCareEndian, writeOrder, writeOpposite,
      writeBytes, Bios.isSameEndian, wireBytes, hostBytes, bind, EStateM.bind,
      getStream_eq, flag, notShort, notBefore]

end EchoServer
