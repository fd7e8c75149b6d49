import EchoServer.StreamValues
import Mathlib.Data.List.TakeWhile

/-!
# Reading back what was written

Every insertion writes the wire bytes of its value, whatever the byte order of
the host, and every extraction that meets the wire bytes of a value takes them
and returns it.  So a list of values comes back as it was written, and the
reader stops where the writer stopped.
-/

namespace EchoServer

open ByteOrder

namespace DataModel

theorem toLong_of_lt (model : DataModel) {len : Nat} (short : len < 2 ^ 31) :
    model.toLong len = len := by
  cases model <;> simp only [toLong, longSize, Int.bmod] <;> omega

theorem toSizeT_of_lt (model : DataModel) {len : Nat} (short : len < 2 ^ 31) :
    model.toSizeT len = len := by
  cases model <;> simp only [toSizeT, sizeTSize] <;> omega

end DataModel

/-- One byte is the same in both byte orders. -/
theorem hostBytes_one (host : Host) (bigEndian : Bool) {width : Nat}
    (one : width = 1) (number : Nat) :
    hostBytes host width number = wireBytes bigEndian width number := by
  subst one
  cases host <;> cases bigEndian <;> rfl

theorem hostValue_hostBytes (host : Host) {width number : Nat}
    (fits : number < 256 ^ width) :
    hostValue host (hostBytes host width number) = number := by
  cases host <;>
    simp [hostValue, hostBytes, littleEndianValue_littleEndian fits]

namespace IntegerType

theorem size_of_isChar (model : DataModel) {type : IntegerType}
    (isChar : type.isChar = true) : type.size model = 1 := by
  cases type <;> first | rfl | cases isChar

theorem Value.toNat_lt {model : DataModel} {type : IntegerType}
    (value : type.Value model) : value.toNat < 256 ^ type.size model := by
  have fits := value.isLt
  rw [Nat.pow_mul] at fits
  exact fits

theorem toNat_ofNat (model : DataModel) (type : IntegerType) {number : Nat}
    (fits : number < 256 ^ type.size model) :
    (BitVec.ofNat (8 * type.size model) number).toNat = number := by
  rw [BitVec.toNat_ofNat, Nat.pow_mul]
  exact Nat.mod_eq_of_lt fits

end IntegerType

/-- A string without zeros is as long as its bytes. -/
theorem strlen_eq {s : Bytes} (noZero : 0 ∉ s) : strlen s = s.length := by
  unfold strlen
  rw [List.takeWhile_eq_self_iff.mpr]
  intro byte member
  apply decide_eq_true
  rintro rfl
  exact noZero member

/-- The longest form has room for the lengths of all strings. -/
theorem length_fits (model : DataModel) {length : Nat}
    (short : length < 2 ^ 31) :
    length < 256 ^ IntegerType.unsignedLong.size model := by
  cases model <;>
    simp only [IntegerType.size, DataModel.longSize] <;> omega

/-- The part that `operator>>(char*)` and `readcstring` share: the size of the
last length field that they read, and the length. -/
def readLength (model : DataModel) (host : Host) : StreamM (Nat × Nat) := do
  let blen ← Bistream.extractInteger model host .unsignedChar
  if blen.toNat < 0xff then
    return (IntegerType.unsignedChar.size model, blen.toNat)
  else
    let wlen ← Bistream.extractInteger model host .unsignedShort
    if wlen.toNat < 0xfffe then
      return (IntegerType.unsignedShort.size model, wlen.toNat)
    else
      let dwlen ← Bistream.extractInteger model host .unsignedLong
      return (IntegerType.unsignedLong.size model, dwlen.toNat)

/-- An operation that goes on with the length, as it is written out in
`operator>>(char*)` and in `readcstring`. -/
theorem readLength_bind {α : Type} (model : DataModel) (host : Host)
    (finish : Nat → Nat → StreamM α) :
    (readLength model host >>= fun read => finish read.1 read.2) = (do
      let blen ← Bistream.extractInteger model host .unsignedChar
      if blen.toNat < 0xff then
        finish (IntegerType.unsignedChar.size model) blen.toNat
      else
        let wlen ← Bistream.extractInteger model host .unsignedShort
        if wlen.toNat < 0xfffe then
          finish (IntegerType.unsignedShort.size model) wlen.toNat
        else
          let dwlen ← Bistream.extractInteger model host .unsignedLong
          finish (IntegerType.unsignedLong.size model) dwlen.toNat) := by
  rw [readLength, bind_assoc]
  congr 1
  funext blen
  split_ifs with oneByte
  · rw [pure_bind]
  · rw [bind_assoc]
    congr 1
    funext wlen
    split_ifs with twoBytes
    · rw [pure_bind]
    · simp only [bind_assoc, pure_bind]

theorem extractString_eq (model : DataModel) (host : Host) :
    Bistream.extractString model host =
      readLength model host >>= fun read => Bistream.read model read.2 :=
  (readLength_bind model host fun _ length =>
    Bistream.read model length).symm

section Operators

variable (model : DataModel) (bigEndian : Bool) (host : Host)

theorem write_appends {p : Bytes} {len : Nat} (there : len ≤ p.length)
    (short : len < 2 ^ 31) :
    Appends bigEndian (Bostream.write model p len) (p.take len) := by
  intro stream flag within room
  rw [List.length_take, Nat.min_eq_left there] at room
  have avail := within.avail_eq
  have roomLeft : ¬ stream.avail < model.toLong len := by
    rw [model.toLong_of_lt short]
    omega
  have inside : ¬ (stream.curr < 0 ∨ stream.avail < len ∨
      p.length < len) := by
    have := within.1
    omega
  simp only [Bostream.write, roomLeft, inside, if_false]

theorem read_takes {bytes : Bytes} (short : bytes.length < 2 ^ 31) :
    Takes bigEndian (Bistream.read model bytes.length) bytes bytes := by
  intro stream behind flag within next
  have avail := within.avail_eq
  rw [next, List.length_append] at avail
  have enough : ¬ stream.avail < model.toLong bytes.length := by
    rw [model.toLong_of_lt short]
    omega
  have inside : ¬ (stream.curr < 0 ∨ stream.avail < bytes.length) := by
    have := within.1
    omega
  simp only [Bistream.read, enough, inside, if_false, next, List.take_left]

theorem writeUnsigned_appends (width number : Nat) :
    Appends bigEndian (writeUnsigned host width number)
      (wireBytes bigEndian width number) := by
  intro stream flag within room
  rw [wireBytes_length] at room
  have avail := within.avail_eq
  have written := writeUnsigned_eq host width number stream within.1
    (by omega)
  rw [written, flag]
  simp only [Bios.overwrite, wireBytes_length, flag]

theorem readUnsigned_takes {width number : Nat}
    (fits : number < 256 ^ width) :
    Takes bigEndian (readUnsigned host width)
      (wireBytes bigEndian width number) number := by
  intro stream behind flag within next
  have avail := within.avail_eq
  rw [next, List.length_append, wireBytes_length] at avail
  have taken := readUnsigned_eq host width stream within.1 (by omega)
  have window : (stream.buffer.drop stream.curr.toNat).take width =
      wireBytes bigEndian width number := by
    have front := congrArg (List.take width) next
    rw [List.take_left' (wireBytes_length ..)] at front
    exact front
  rw [taken, window, flag, wireValue_wireBytes _ fits]
  simp only [Bios.advance, wireBytes_length, flag]

theorem insertInteger_appends (type : IntegerType)
    (value : type.Value model) :
    Appends bigEndian (Bostream.insertInteger model host type value)
      (wireBytes bigEndian (type.size model) value.toNat) := by
  unfold Bostream.insertInteger
  split_ifs with isChar
  · have size := IntegerType.size_of_isChar model isChar
    have length := hostBytes_length host (type.size model) value.toNat
    have written := write_appends model bigEndian
      (Nat.le_of_eq length.symm) (by rw [size]; decide)
    rw [List.take_of_length_le (Nat.le_of_eq length),
      hostBytes_one host bigEndian size] at written
    rw [hostBytes_one host bigEndian size]
    exact written
  · exact writeUnsigned_appends bigEndian host _ _

theorem extractInteger_takes (type : IntegerType)
    (value : type.Value model) :
    Takes bigEndian (Bistream.extractInteger model host type)
      (wireBytes bigEndian (type.size model) value.toNat) value := by
  have fits := IntegerType.Value.toNat_lt value
  unfold Bistream.extractInteger
  split_ifs with isChar
  · have size := IntegerType.size_of_isChar model isChar
    have length := hostBytes_length host (type.size model) value.toNat
    have short : (hostBytes host (type.size model) value.toNat).length <
        2 ^ 31 := by
      rw [length, size]
      decide
    have taken := (read_takes model bigEndian short).map
      fun bytes => BitVec.ofNat (8 * type.size model) (hostValue host bytes)
    rw [length, hostValue_hostBytes host fits, BitVec.ofNat_toNat,
      BitVec.setWidth_eq, hostBytes_one host bigEndian size] at taken
    exact taken
  · have taken := (readUnsigned_takes bigEndian host fits).map
      (BitVec.ofNat (8 * type.size model))
    rw [BitVec.ofNat_toNat, BitVec.setWidth_eq] at taken
    exact taken

theorem insertBool_appends (value : Bool) :
    Appends bigEndian (Bostream.insertBool model value)
      [if value then 1 else 0] :=
  write_appends model bigEndian (Nat.le_refl 1) (by decide)

theorem extractBool_takes (value : Bool) :
    Takes bigEndian (Bistream.extractBool model)
      [if value then 1 else 0] value := by
  have short : [if value then (1 : UInt8) else 0].length < 2 ^ 31 := by simp
  have taken := (read_takes model bigEndian short).map
    fun bytes : Bytes => decide (bytes ≠ [0])
  cases value <;> exact taken

theorem insertUnsigned_appends (type : IntegerType) {number : Nat}
    (fits : number < 256 ^ type.size model) :
    Appends bigEndian
      (Bostream.insertInteger model host type (.ofInt _ number))
      (wireBytes bigEndian (type.size model) number) := by
  have appends := insertInteger_appends model bigEndian host type
    (BitVec.ofInt (8 * type.size model) number)
  rw [BitVec.ofInt_natCast, IntegerType.toNat_ofNat model type fits]
    at appends
  rw [BitVec.ofInt_natCast]
  exact appends

theorem extractUnsigned_takes (type : IntegerType) {number : Nat}
    (fits : number < 256 ^ type.size model) :
    Takes bigEndian (Bistream.extractInteger model host type)
      (wireBytes bigEndian (type.size model) number) (.ofNat _ number) := by
  have takes := extractInteger_takes model bigEndian host type
    (BitVec.ofNat (8 * type.size model) number)
  rw [IntegerType.toNat_ofNat model type fits] at takes
  exact takes

theorem insertLength_appends {length : Nat} (short : length < 2 ^ 31) :
    Appends bigEndian (Bostream.insertLength model host length)
      (StreamItem.wireLength model bigEndian length) := by
  have byte {number : Nat} (fits : number < 256) := insertUnsigned_appends
    model bigEndian host .unsignedChar fits
  have word {number : Nat} (fits : number < 65536) := insertUnsigned_appends
    model bigEndian host .unsignedShort fits
  have marked : Appends bigEndian
      (Bostream.insertInteger model host .unsignedChar (.ofInt _ 0xff))
      (wireBytes bigEndian 1 0xff) := byte (show 0xff < 256 by decide)
  have markedAgain : Appends bigEndian
      (Bostream.insertInteger model host .unsignedShort (.ofInt _ 0xffff))
      (wireBytes bigEndian 2 0xffff) := word (show 0xffff < 65536 by decide)
  simp only [Bostream.insertLength, StreamItem.wireLength]
  by_cases oneByte : length < 255
  · rw [if_pos (by omega), if_pos oneByte]
    exact byte (by omega)
  · rw [if_neg (by omega), if_neg oneByte]
    by_cases twoBytes : length < 0xfffe
    · rw [if_pos (by omega), if_pos twoBytes]
      exact marked.append (word (by omega))
    · rw [if_neg (by omega), if_neg twoBytes]
      have long := insertUnsigned_appends model bigEndian host .unsignedLong
        (length_fits model short)
      exact marked.append (markedAgain.append long)

/-- An insertion writes as many bytes of a string as its length converted to
`int` says. -/
theorem insertString_appends_take {s : Bytes} (noZero : 0 ∉ s) {slen : Nat}
    (converted : Int.bmod s.length (2 ^ 32) = slen) :
    Appends bigEndian (Bostream.insertString model host s)
      (StreamItem.wireLength model bigEndian slen ++ s.take slen) := by
  have short : slen < 2 ^ 31 := by
    rw [Int.bmod] at converted
    omega
  have there : slen ≤ s.length := by
    rw [Int.bmod] at converted
    omega
  have written := write_appends model bigEndian there short
  simp only [Bostream.insertString, strlen_eq noZero, converted,
    model.toSizeT_of_lt short]
  exact (insertLength_appends model bigEndian host short).append written

theorem insertString_appends {s : Bytes} (noZero : 0 ∉ s)
    (short : s.length < 2 ^ 31) :
    Appends bigEndian (Bostream.insertString model host s)
      (StreamItem.wireLength model bigEndian s.length ++ s) := by
  have slen : Int.bmod s.length (2 ^ 32) = s.length := by
    rw [Int.bmod]
    omega
  have written := insertString_appends_take model bigEndian host noZero slen
  rw [List.take_length] at written
  exact written

/-- Reading a length takes its wire bytes. -/
theorem readLength_takes {length : Nat} (short : length < 2 ^ 31) :
    ∃ width, Takes bigEndian (readLength model host)
      (StreamItem.wireLength model bigEndian length) (width, length) := by
  have byte {number : Nat} (fits : number < 256) := extractUnsigned_takes
    model bigEndian host .unsignedChar fits
  have word {number : Nat} (fits : number < 65536) := extractUnsigned_takes
    model bigEndian host .unsignedShort fits
  have byteValue {number : Nat} (fits : number < 256) :=
    IntegerType.toNat_ofNat model .unsignedChar fits
  have wordValue {number : Nat} (fits : number < 65536) :=
    IntegerType.toNat_ofNat model .unsignedShort fits
  unfold readLength StreamItem.wireLength
  by_cases oneByte : length < 255
  · refine ⟨IntegerType.unsignedChar.size model, ?_⟩
    rw [if_pos oneByte, ← List.append_nil (wireBytes _ _ _)]
    refine (byte (by omega)).bind ?_
    rw [byteValue (by omega), if_pos oneByte]
    exact Takes.pure _
  · rw [if_neg oneByte]
    have marker := byteValue (show 0xff < 256 by decide)
    by_cases twoBytes : length < 0xfffe
    · refine ⟨IntegerType.unsignedShort.size model, ?_⟩
      rw [if_pos twoBytes, ← List.append_nil (wireBytes _ 2 _)]
      refine (byte (by decide)).bind ?_
      rw [marker, if_neg (by decide)]
      refine (word (by omega)).bind ?_
      rw [wordValue (by omega), if_pos twoBytes]
      exact Takes.pure _
    · refine ⟨IntegerType.unsignedLong.size model, ?_⟩
      rw [if_neg twoBytes, ← List.append_nil (wireBytes _ model.longSize _)]
      have fits := length_fits model short
      refine (byte (by decide)).bind ?_
      rw [marker, if_neg (by decide)]
      refine (word (by decide)).bind ?_
      rw [wordValue (by decide), if_neg (by decide)]
      refine (extractUnsigned_takes model bigEndian host .unsignedLong
        fits).bind ?_
      rw [IntegerType.toNat_ofNat model .unsignedLong fits]
      exact Takes.pure _

theorem extractString_takes {s : Bytes} (short : s.length < 2 ^ 31) :
    Takes bigEndian (Bistream.extractString model host)
      (StreamItem.wireLength model bigEndian s.length ++ s) s := by
  obtain ⟨width, takes⟩ := readLength_takes model bigEndian host short
  rw [extractString_eq]
  exact takes.bind (read_takes model bigEndian short)

end Operators

namespace StreamItem

variable {model : DataModel} (bigEndian : Bool) (host : Host)

theorem insert_appends {item : StreamItem model}
    (insertable : item.Insertable) :
    Appends bigEndian (item.insert host) (item.wire bigEndian) := by
  cases item with
  | integer type value =>
      exact insertInteger_appends model bigEndian host type value
  | bool value => exact insertBool_appends model bigEndian value
  | string s =>
      obtain ⟨noZero, short⟩ := insertable
      exact insertString_appends model bigEndian host noZero short

theorem extract_takes {item : StreamItem model}
    (insertable : item.Insertable) :
    Takes bigEndian (extract model host item.type) (item.wire bigEndian)
      item := by
  cases item with
  | integer type value =>
      have taken := extractInteger_takes model bigEndian host type value
      exact taken.map (StreamItem.integer type)
  | bool value =>
      have taken := extractBool_takes model bigEndian value
      exact taken.map StreamItem.bool
  | string s =>
      have taken := extractString_takes model bigEndian host insertable.2
      exact taken.map StreamItem.string

theorem insertAll_appends {items : List (StreamItem model)}
    (insertable : ∀ item ∈ items, item.Insertable) :
    Appends bigEndian (insertAll host items)
      (items.flatMap (wire bigEndian)) := by
  induction items with
  | nil => exact Appends.nil
  | cons item items ih =>
      obtain ⟨first, others⟩ := List.forall_mem_cons.mp insertable
      exact (insert_appends bigEndian host first).append (ih others)

theorem extractAll_takes {items : List (StreamItem model)}
    (insertable : ∀ item ∈ items, item.Insertable) :
    Takes bigEndian (extractAll model host (items.map type))
      (items.flatMap (wire bigEndian)) items := by
  induction items with
  | nil => exact Takes.pure []
  | cons item items ih =>
      obtain ⟨first, others⟩ := List.forall_mem_cons.mp insertable
      rw [List.map_cons, List.flatMap_cons]
      exact (extract_takes bigEndian host first).bind
        ((ih others).map (item :: ·))

end StreamItem

open StreamItem in
/-- Values written into a large enough buffer are read back from the bytes
written, by a host of either byte order, and the reader ends where the writer
ended. -/
theorem streamRoundTrip (model : DataModel) (writer reader : Host)
    (bigEndian : Bool) (items : List (StreamItem model))
    (insertable : ∀ item ∈ items, item.Insertable) (buffer : Bytes)
    (enough : (items.flatMap (wire bigEndian)).length ≤ buffer.length) :
    ∃ written last,
      insertAll writer items (Bios.attach buffer bigEndian) =
          .ok () written ∧
        extractAll model reader (items.map type)
            (Bios.attach (written.buffer.take written.length.toNat)
              bigEndian) =
          .ok items last ∧
        last.length = written.length := by
  let bytes := items.flatMap (wire bigEndian)
  let start := Bios.attach buffer bigEndian
  have within : start.Within := Bios.attach_within buffer bigEndian
  have inserted := insertAll_appends bigEndian writer insertable start rfl
    within enough
  -- The buffer is written from its beginning, so the bytes written are those
  -- in front of the cursor.
  have front : (start.overwrite bytes).buffer.take
      (start.overwrite bytes).length.toNat = bytes :=
    within.overwrite_take bytes
  have extracted := extractAll_takes bigEndian reader insertable
    (Bios.attach bytes bigEndian) [] rfl (Bios.attach_within bytes bigEndian)
    (List.append_nil bytes).symm
  refine ⟨_, (Bios.attach bytes bigEndian).advance bytes.length, inserted,
    ?_, rfl⟩
  rw [front]
  exact extracted

/-- A negative number, `true` and a string. -/
def threeItems : List (StreamItem .lp64) :=
  [.integer .short (-2), .bool true, .string [72, 105]]

open StreamItem in
/-- From a host of one byte order to one of the other. -/
theorem streamRoundTrip_threeItems :
    ∃ written last,
      insertAll .little threeItems
          (Bios.attach (List.replicate 9 0) true) = .ok () written ∧
        extractAll .lp64 .big (threeItems.map type)
            (Bios.attach (written.buffer.take written.length.toNat) true) =
          .ok threeItems last ∧
        last.length = written.length :=
  streamRoundTrip .lp64 .little .big true threeItems
    (by simp [threeItems, Insertable]) _ (by decide)

end EchoServer
