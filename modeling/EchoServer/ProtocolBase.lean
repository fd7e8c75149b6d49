import EchoServer.BinaryStream
import EchoServer.MallocManager

/-!
# Protocol packets

`ProtocolBase.h`: every packet starts with a `ProtocolHead`, whose `len` field
counts the whole packet, and `READXY` extracts a record from the start of the
buffer it is given.  `GET_TEMPLATE_BUF` of `SomeDefine.h` builds a packet by
writing the body behind the head and then the head.
-/

namespace EchoServer

open ByteOrder MallocManager

/-- `HEADLEN`. -/
def headLen : Nat := 4

/-- `PROTOCOL_XYID::XYID_HEARTBEAT`. -/
def xyidHeartbeat : UInt16 := 1

/-- `operator>>` and `operator<<` for `unsigned short`. -/
def readUShort (host : Host) : StreamM UInt16 := do
  return UInt16.ofNat (← readUnsigned host 2)

def writeUShort (host : Host) (value : UInt16) : StreamM Unit :=
  writeUnsigned host 2 value.toNat

/-- `operator>>` and `operator<<` for `unsigned int`. -/
def readUInt (host : Host) : StreamM UInt32 := do
  return UInt32.ofNat (← readUnsigned host 4)

def writeUInt (host : Host) (value : UInt32) : StreamM Unit :=
  writeUnsigned host 4 value.toNat

structure ProtocolHead where
  len : UInt16
  xyid : UInt16
  deriving DecidableEq

namespace ProtocolHead

/-- `operator>>(bistream&, ProtocolHead&)`. -/
def extract (host : Host) : StreamM ProtocolHead := do
  let len ← readUShort host
  let xyid ← readUShort host
  return { len, xyid }

/-- `operator<<(bostream&, const ProtocolHead&)`. -/
def insert (host : Host) (head : ProtocolHead) : StreamM Unit := do
  writeUShort host head.len
  writeUShort host head.xyid

end ProtocolHead

structure Heartbeat where
  timestamp : UInt32
  deriving DecidableEq

namespace Heartbeat

/-- `sizeof(Heartbeat)`. -/
def size : Nat := 4

/-- `operator>>(bistream&, Heartbeat&)`. -/
def extract (host : Host) : StreamM Heartbeat := do
  let timestamp ← readUInt host
  return { timestamp }

/-- `operator<<(bostream&, const Heartbeat&)`. -/
def insert (host : Host) (message : Heartbeat) : StreamM Unit :=
  writeUInt host message.timestamp

end Heartbeat

/-- `READXY(xy, buf, len)`: attach a stream to the whole buffer and extract. -/
def readXY {α : Type} (extract : StreamM α) (buf : Bytes) :
    Except StreamStop α :=
  match extract (Bios.attach buf false) with
  | .ok value _ => .ok value
  | .error stop _ => .error stop

/-- Parse the head of a packet, as the receiving code does. -/
def parseHead (host : Host) (buf : Bytes) : Except StreamStop ProtocolHead :=
  readXY (ProtocolHead.extract host) buf

/-- Attach a stream to `size` bytes of a block from `offset` on, insert, and
return the block and the stream's `length()`. -/
def writeWindow (block : Bytes) (offset size : Nat) (insert : StreamM Unit) :
    Except StreamStop (Bytes × Int) :=
  match insert (Bios.attach ((block.drop offset).take size) false) with
  | .ok _ stream =>
      .ok (block.take offset ++ stream.buffer ++ block.drop (offset + size),
        stream.length)
  | .error stop _ => .error stop

/-- `GET_TEMPLATE_BUF(buf, head, xy)`: the filled buffer and the head. -/
def getTemplateBuf (host : Host) (buf : Bytes) (xyid : UInt16) (size : Nat)
    (insert : StreamM Unit) : Except StreamStop (Bytes × ProtocolHead) := do
  let (buf, length) ← writeWindow buf headLen size insert
  let head : ProtocolHead :=
    { len := UInt16.ofNat (length.toNat + headLen), xyid }
  let (buf, _) ← writeWindow buf 0 headLen (head.insert host)
  return (buf, head)

theorem readUShort_eq (host : Host) (stream : Bios)
    (inRange : 0 ≤ stream.curr) (enough : 2 ≤ stream.avail) :
    readUShort host stream =
      .ok (UInt16.ofNat (wireValue stream.bigEndian
          ((stream.buffer.drop stream.curr.toNat).take 2)))
        { stream with curr := stream.curr + 2 } := by
  simp [readUShort, bind, EStateM.bind, pure, EStateM.pure,
    readUnsigned_eq host 2 stream inRange enough]

theorem readUShort_short (host : Host) (stream : Bios)
    (short : stream.avail < 2) :
    readUShort host stream =
      .error (.biosexception .overflow) stream := by
  simp [readUShort, bind, EStateM.bind,
    readUnsigned_short host 2 stream short]

/-- A successful insertion leaves the stream's buffer in the window. -/
theorem writeWindow_eq {block : Bytes} {offset size : Nat}
    {insert : StreamM Unit} {stream : Bios}
    (inserted :
      insert (Bios.attach ((block.drop offset).take size) false) =
        .ok () stream) :
    writeWindow block offset size insert =
      .ok (block.take offset ++ stream.buffer ++ block.drop (offset + size),
        stream.length) := by
  simp [writeWindow, inserted]

/-- Inserting a number into a window of its width fills the window. -/
theorem writeUnsigned_attach (host : Host) (window : Bytes) (number : Nat) :
    writeUnsigned host window.length number (Bios.attach window false) =
      .ok ()
        { buffer := littleEndian window.length number
          curr := window.length
          bigEndian := false } := by
  rw [writeUnsigned_eq host _ number _ (by simp [Bios.attach])
    (by simp [Bios.avail, Bios.attach])]
  simp [Bios.attach, wireBytes]

/-- The bytes of a head on the wire. -/
def ProtocolHead.bytes (head : ProtocolHead) : Bytes :=
  littleEndian 2 head.len.toNat ++ littleEndian 2 head.xyid.toNat

@[simp]
theorem ProtocolHead.bytes_length (head : ProtocolHead) :
    head.bytes.length = headLen := by
  simp [ProtocolHead.bytes, headLen]

/-- Inserting a head into a window of its size fills the window. -/
theorem ProtocolHead.insert_attach (host : Host) (head : ProtocolHead)
    (window : Bytes) (windowLength : window.length = headLen) :
    head.insert host (Bios.attach window false) =
      .ok ()
        { buffer := head.bytes, curr := headLen, bigEndian := false } := by
  simp only [headLen] at windowLength
  have writeLen := writeUnsigned_eq host 2 head.len.toNat
    (Bios.attach window false) (by simp [Bios.attach])
    (by simp only [Bios.avail, Bios.attach]; omega)
  have writeXyid := writeUnsigned_eq host 2 head.xyid.toNat
    { buffer := littleEndian 2 head.len.toNat ++ window.drop 2
      curr := 2
      bigEndian := false }
    (by simp)
    (by simp [Bios.avail, windowLength])
  simp only [Bios.attach, wireBytes] at writeLen writeXyid
  simp [ProtocolHead.insert, writeUShort, bind, EStateM.bind, Bios.attach,
    writeLen, writeXyid, ProtocolHead.bytes, headLen, windowLength]

/-- Inserting a head at the start of a block replaces its first bytes. -/
theorem writeWindow_head (host : Host) (head : ProtocolHead) (block : Bytes)
    (enough : headLen ≤ block.length) :
    writeWindow block 0 headLen (head.insert host) =
      .ok (head.bytes ++ block.drop headLen, (headLen : Int)) := by
  have inserted := head.insert_attach host ((block.drop 0).take headLen)
    (by simp [Nat.min_eq_left enough])
  simpa [Bios.length] using writeWindow_eq inserted

/-- The head of a buffer that holds at least `HEADLEN` bytes. -/
theorem parseHead_eq (host : Host) (buf : Bytes)
    (enough : headLen ≤ buf.length) :
    parseHead host buf =
      .ok { len := UInt16.ofNat (littleEndianValue (buf.take 2))
            xyid := UInt16.ofNat
              (littleEndianValue ((buf.drop 2).take 2)) } := by
  have lenFits : 2 ≤ (Bios.attach buf false).avail := by
    simp only [headLen] at enough
    simp only [Bios.avail, Bios.attach]
    omega
  have xyidFits :
      2 ≤ ({ Bios.attach buf false with curr := 2 } : Bios).avail := by
    simp only [headLen] at enough
    simp only [Bios.avail, Bios.attach]
    omega
  have readLen := readUShort_eq host (Bios.attach buf false)
    (by simp [Bios.attach]) lenFits
  have readXyid := readUShort_eq host
    { Bios.attach buf false with curr := 2 } (by simp) xyidFits
  simp [Bios.attach, wireValue] at readLen readXyid
  simp [parseHead, readXY, ProtocolHead.extract, Bios.attach, bind,
    EStateM.bind, pure, EStateM.pure, readLen, readXyid]

/-- The `len` field parsed from a buffer is spelled by its first two
bytes. -/
theorem parseHead_len (host : Host) (buf : Bytes)
    (enough : headLen ≤ buf.length) :
    ∃ head, parseHead host buf = .ok head ∧
      head.len.toNat = littleEndianValue (buf.take 2) := by
  refine ⟨_, parseHead_eq host buf enough, ?_⟩
  have bound := littleEndianValue_lt (buf.take 2)
  have width : (buf.take 2).length = 2 := by
    simp only [headLen] at enough
    simp only [List.length_take]
    omega
  rw [width] at bound
  exact Nat.mod_eq_of_lt bound

/-- A buffer shorter than a head makes the extraction throw. -/
theorem parseHead_short (host : Host) (buf : Bytes)
    (short : buf.length < headLen) :
    parseHead host buf = .error (.biosexception .overflow) := by
  simp only [headLen] at short
  by_cases lenShort : buf.length < 2
  · have readLen := readUShort_short host (Bios.attach buf false)
      (by simp only [Bios.avail, Bios.attach]; omega)
    simp [parseHead, readXY, ProtocolHead.extract, bind, EStateM.bind,
      readLen]
  · have readLen := readUShort_eq host (Bios.attach buf false)
      (by simp [Bios.attach])
      (by simp only [Bios.avail, Bios.attach]; omega)
    have readXyid := readUShort_short host
      { Bios.attach buf false with curr := 2 }
      (by simp only [Bios.avail, Bios.attach]; omega)
    simp [Bios.attach, wireValue] at readLen readXyid
    simp [parseHead, readXY, ProtocolHead.extract, Bios.attach, bind,
      EStateM.bind, readLen, readXyid]

/-- The head parsed from a packet is the head whose bytes it starts with. -/
theorem parseHead_bytes (host : Host) (head : ProtocolHead) (body : Bytes) :
    parseHead host (head.bytes ++ body) = .ok head := by
  have lenBound : head.len.toNat < 256 ^ 2 := head.len.toNat_lt
  have xyidBound : head.xyid.toNat < 256 ^ 2 := head.xyid.toNat_lt
  rw [parseHead_eq host _ (by simp)]
  simp [ProtocolHead.bytes, littleEndianValue_littleEndian lenBound,
    littleEndianValue_littleEndian xyidBound]

end EchoServer
