import EchoServer.MapLookup
import EchoServer.StringUtils

/-!
# Ini files

`ParseIni.h`.  Every line of the file goes through the same trims and cuts,
and is then a title, a pair of a key and its value, or nothing.  The first
value of a key stays.
-/

namespace EchoServer

/-- `parserIni::ConfigMap`. -/
abbrev ConfigMap := Std.TreeMap Bytes Bytes

/-- `parserIni::ConfigDic`. -/
abbrev ConfigDic := Std.TreeMap Bytes ConfigMap

/-! The characters that the parser tells apart. -/

def tab : UInt8 := 9
def lineFeed : UInt8 := 10
def carriageReturn : UInt8 := 13
def space : UInt8 := 32
def hash : UInt8 := 35
def equalsSign : UInt8 := 61
def openingBracket : UInt8 := 91
def closingBracket : UInt8 := 93

/-- `_mapConfigs`, and the `title` that `load` keeps from line to line. -/
structure ParserIni where
  title : Bytes
  mapConfigs : ConfigDic

namespace ParserIni

/-- Before the first line. -/
def start : ParserIni where
  title := []
  mapConfigs := ∅

/-- The lines that `getline` takes from a file one after the other.  What
follows the last line feed is a line if it is not empty. -/
def getlines : Bytes → List Bytes
  | [] => []
  | byte :: rest =>
      if byte = lineFeed then [] :: getlines rest
      else
        match getlines rest with
        | [] => [[byte]]
        | line :: lines => (byte :: line) :: lines

/-- Insert the pair under the title, unless its key is there. -/
def insert (key value : Bytes) (ini : ParserIni) : ParserIni :=
  let config := ini.mapConfigs[ini.title]?.getD ∅
  { ini with
    mapConfigs :=
      ini.mapConfigs.insert ini.title (config.insertIfNew key value) }

/-- What `load` does with a line that has been trimmed.  The first character
of an empty string is a zero. -/
def take (config : Bytes) (ini : ParserIni) :
    Except StringFault ParserIni := do
  if config.getD 0 0 = openingBracket then
    let title :=
      trimTailString (trimHeadString config openingBracket) closingBracket
    return { ini with title }
  if ini.title = [] then
    return ini
  let list ← splitString config [] [equalsSign] 1
  match list with
  | key :: value :: _ => return ini.insert key value
  | _ => return ini

/-- What `load` does with a line. -/
def loadLine (ini : ParserIni) (config : Bytes) :
    Except StringFault ParserIni := do
  let config ← trimString config space
  if config = [] then
    return ini
  if config.getD 0 0 = hash then
    return ini
  let config := trimTailAllString config hash
  let config ← trimString config carriageReturn
  let config ← trimString config tab
  ini.take config

/-- `parserIni::load` of a file that could be opened. -/
def load (file : Bytes) : Except StringFault (Bool × ParserIni) := do
  let ini ← (getlines file).foldlM loadLine start
  return (decide (0 < ini.mapConfigs.size), ini)

/-- `parserIni::getString`: the value, if there is one. -/
def getString (title key : Bytes) (ini : ParserIni) : Option Bytes :=
  match ini.mapConfigs[title]? with
  | none => none
  | some config => config[key]?

/-- `parserIni::getInt`: the value, if there is one that is not empty. -/
def getInt (unrepresentable : Int → Int) (title key : Bytes)
    (ini : ParserIni) : Option Int :=
  match ini.getString title key with
  | none => none
  | some ret => if ret = [] then none else some (atoi unrepresentable ret)

/-- `parserIni::getBool`. -/
def getBool (title key : Bytes) (ini : ParserIni) : Option Bool :=
  match ini.getString title key with
  | none => none
  | some ret =>
      if ret = [] then none else some (stringLow ret = text "true")

variable {ini : ParserIni}

/-- A value that is there stays; the pair is new otherwise. -/
theorem getString_insert (key value title otherKey : Bytes) :
    (ini.insert key value).getString title otherKey =
      (ini.getString title otherKey).or
        (if title = ini.title ∧ otherKey = key then some value else none) := by
  simp only [insert, getString, MapLookup.insert_getElem?]
  by_cases same : title = ini.title
  · subst same
    cases ini.mapConfigs[ini.title]? with
    | none => simp [MapLookup.insertIfNew_getElem?]
    | some config => simp [MapLookup.insertIfNew_getElem?]
  · simp [same]

/-- A map with a value in it is not empty. -/
theorem size_pos {title key value : Bytes}
    (there : ini.getString title key = some value) :
    0 < ini.mapConfigs.size := by
  apply Nat.pos_of_ne_zero
  intro empty
  have isEmpty : ini.mapConfigs.isEmpty := by
    rw [Std.TreeMap.isEmpty_eq_size_eq_zero, empty]
    rfl
  rw [getString, Std.TreeMap.getElem?_of_isEmpty isEmpty] at there
  cases there

theorem getString_of_getInt {unrepresentable : Int → Int}
    {title key : Bytes} {value : Int}
    (there : ini.getInt unrepresentable title key = some value) :
    ∃ ret, ini.getString title key = some ret := by
  rw [getInt] at there
  split at there
  · cases there
  · next ret found => exact ⟨ret, found⟩

end ParserIni

end EchoServer
