import EchoServer.StreamCursor

/-!
# Inserting and extracting values

The operators `<<` and `>>` of `Biosream.h` for the integer types, `bool` and
strings.  Characters are copied as they are, the other integers in the byte
order of the stream.  A string is announced by its length in one of three
forms, the longest of which is as wide as `unsigned long`.
-/

namespace EchoServer

open ByteOrder

/-- The platforms, by the sizes of `long` and of `size_t`. -/
inductive DataModel
  | ilp32
  | lp64
  | llp64
  deriving DecidableEq

namespace DataModel

def longSize : DataModel → Nat
  | ilp32 => 4
  | lp64 => 8
  | llp64 => 4

def sizeTSize : DataModel → Nat
  | ilp32 => 4
  | lp64 => 8
  | llp64 => 8

/-- `(long)number`. -/
def toLong (model : DataModel) (number : Int) : Int :=
  number.bmod (2 ^ (8 * model.longSize))

/-- `(size_t)number`. -/
def toSizeT (model : DataModel) (number : Int) : Nat :=
  (number % (2 ^ (8 * model.sizeTSize) : Nat)).toNat

end DataModel

inductive IntegerType
  | char
  | signedChar
  | unsignedChar
  | short
  | unsignedShort
  | int
  | unsignedInt
  | long
  | unsignedLong
  | longLong
  | unsignedLongLong
  deriving DecidableEq

namespace IntegerType

def size (model : DataModel) : IntegerType → Nat
  | char | signedChar | unsignedChar => 1
  | short | unsignedShort => 2
  | int | unsignedInt => 4
  | long | unsignedLong => model.longSize
  | longLong | unsignedLongLong => 8

def isChar : IntegerType → Bool
  | char | signedChar | unsignedChar => true
  | _ => false

end IntegerType

/-- A number of an integer type, as the bits that represent it. -/
abbrev IntegerType.Value (type : IntegerType) (model : DataModel) :=
  BitVec (8 * type.size model)

/-- `strlen`, for the bytes from a pointer on up to the end of the string that
it points into. -/
def strlen (s : Bytes) : Nat :=
  (s.takeWhile (· ≠ 0)).length

namespace Bostream

/-- `bostream::write`, for the bytes behind the pointer `p`. -/
def write (model : DataModel) (p : Bytes) (len : Nat) : StreamM Unit :=
  fun stream =>
    if stream.avail < model.toLong len then
      .error (.biosexception .overflow) stream
    else if stream.curr < 0 ∨ stream.avail < len ∨ p.length < len then
      .error .outOfBounds stream
    else
      .ok () (stream.overwrite (p.take len))

/-- `operator<<` for the integer types. -/
def insertInteger (model : DataModel) (host : Host) (type : IntegerType)
    (value : type.Value model) : StreamM Unit :=
  if type.isChar then
    write model (hostBytes host (type.size model) value.toNat)
      (type.size model)
  else
    writeUnsigned host (type.size model) value.toNat

/-- `operator<<(bool)`. -/
def insertBool (model : DataModel) (value : Bool) : StreamM Unit :=
  write model [if value then 1 else 0] 1

/-- The branches of `operator<<(const char*)`, which announce the length. -/
def insertLength (model : DataModel) (host : Host) (slen : Int) :
    StreamM Unit :=
  if slen < 255 then
    insertInteger model host .unsignedChar (.ofInt _ slen)
  else if slen < 0xfffe then do
    insertInteger model host .unsignedChar (.ofInt _ 0xff)
    insertInteger model host .unsignedShort (.ofInt _ slen)
  else do
    insertInteger model host .unsignedChar (.ofInt _ 0xff)
    insertInteger model host .unsignedShort (.ofInt _ 0xffff)
    insertInteger model host .unsignedLong (.ofInt _ slen)

/-- `operator<<(const char*)`. -/
def insertString (model : DataModel) (host : Host) (s : Bytes) :
    StreamM Unit := do
  -- `int slen = (int)strlen(_s)`
  let slen := Int.bmod (strlen s) (2 ^ 32)
  insertLength model host slen
  write model s (model.toSizeT slen)

end Bostream

namespace Bistream

/-- `bistream::read`. -/
def read (model : DataModel) (len : Nat) : StreamM Bytes := fun stream =>
  if stream.avail < model.toLong len then
    .error (.biosexception .«end») stream
  else if stream.curr < 0 ∨ stream.avail < len then
    .error .outOfBounds stream
  else
    .ok (stream.rest.take len) (stream.advance len)

/-- `operator>>` for the integer types. -/
def extractInteger (model : DataModel) (host : Host) (type : IntegerType) :
    StreamM (type.Value model) :=
  if type.isChar then do
    return BitVec.ofNat _ (hostValue host (← read model (type.size model)))
  else do
    return BitVec.ofNat _ (← readUnsigned host (type.size model))

/-- `operator>>(bool&)`. -/
def extractBool (model : DataModel) : StreamM Bool := do
  let bytes ← read model 1
  return bytes ≠ [0]

/-- `operator>>(char*)`: the bytes that are copied to the destination. -/
def extractString (model : DataModel) (host : Host) : StreamM Bytes := do
  let blen ← extractInteger model host .unsignedChar
  if blen.toNat < 0xff then
    read model blen.toNat
  else
    let wlen ← extractInteger model host .unsignedShort
    if wlen.toNat < 0xfffe then
      read model wlen.toNat
    else
      let dwlen ← extractInteger model host .unsignedLong
      read model dwlen.toNat

end Bistream

/-- A value of one of the types that a stream can hold. -/
inductive StreamItem (model : DataModel)
  | integer (type : IntegerType) (value : type.Value model)
  | bool (value : Bool)
  | string (bytes : Bytes)

inductive StreamType
  | integer (type : IntegerType)
  | bool
  | string

namespace StreamItem

variable {model : DataModel}

def type : StreamItem model → StreamType
  | integer type _ => .integer type
  | bool _ => .bool
  | string _ => .string

/-- A string contains no zero and is shorter than 2³¹ bytes. -/
def Insertable : StreamItem model → Prop
  | string bytes => 0 ∉ bytes ∧ bytes.length < 2 ^ 31
  | _ => True

/-- `operator<<`. -/
def insert (host : Host) : StreamItem model → StreamM Unit
  | integer type value => Bostream.insertInteger model host type value
  | bool value => Bostream.insertBool model value
  | string bytes => Bostream.insertString model host bytes

/-- `operator>>` for a variable of a type. -/
def extract (model : DataModel) (host : Host) :
    StreamType → StreamM (StreamItem model)
  | .integer type => do
      return .integer type (← Bistream.extractInteger model host type)
  | .bool => do return .bool (← Bistream.extractBool model)
  | .string => do return .string (← Bistream.extractString model host)

/-- `stream << item << …`. -/
def insertAll (host : Host) : List (StreamItem model) → StreamM Unit
  | [] => pure ()
  | item :: items => do
      item.insert host
      insertAll host items

/-- `stream >> variable >> …`. -/
def extractAll (model : DataModel) (host : Host) :
    List StreamType → StreamM (List (StreamItem model))
  | [] => pure []
  | type :: types => do
      let item ← extract model host type
      let items ← extractAll model host types
      return item :: items

/-- The length in front of a string. -/
def wireLength (model : DataModel) (bigEndian : Bool) (length : Nat) :
    Bytes :=
  if length < 255 then
    wireBytes bigEndian 1 length
  else if length < 0xfffe then
    wireBytes bigEndian 1 0xff ++ wireBytes bigEndian 2 length
  else
    wireBytes bigEndian 1 0xff ++ (wireBytes bigEndian 2 0xffff ++
      wireBytes bigEndian model.longSize length)

/-- The bytes that stand for an item in a stream with the given flag. -/
def wire (bigEndian : Bool) : StreamItem model → Bytes
  | integer type value => wireBytes bigEndian (type.size model) value.toNat
  | bool value => [if value then 1 else 0]
  | string bytes => wireLength model bigEndian bytes.length ++ bytes

end StreamItem

end EchoServer
