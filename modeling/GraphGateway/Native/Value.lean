/-
Values of the embedded engine, and their text.

The text of a value is for people to read: nothing in it is quoted or escaped, so it does not tell
all values apart. What stands inside a value is written in the same way.
-/
import GraphGateway.Calendar.Date
import GraphGateway.Number.Reading

namespace GraphGateway.Native

/-- A row's place in the store. -/
structure InternalId where
  table : UInt64
  offset : UInt64
deriving DecidableEq, Repr

/-- The unit that a point in time is counted in, from the start of 1970. -/
inductive Resolution where
  | seconds
  | milliseconds
  | microseconds
  /-- Microseconds, for points in time that were given with an offset from UTC. -/
  | zoned
  | nanoseconds
deriving DecidableEq, Repr

inductive Value where
  | null
  | bool (value : Bool)
  | int8 (value : Int8)
  | int16 (value : Int16)
  | int32 (value : Int32)
  | int64 (value : Int64)
  | int128 (value : BitVec 128)
  | uint8 (value : UInt8)
  | uint16 (value : UInt16)
  | uint32 (value : UInt32)
  | uint64 (value : UInt64)
  | float (value : Number.Single)
  | double (value : Number.Double)
  | string (value : String)
  /-- Days since 1 January 1970. -/
  | date (days : Int)
  | timestamp (resolution : Resolution) (ticks : Int)
  /-- A length of time in microseconds. -/
  | interval (microseconds : Int)
  | id (value : InternalId)
  | blob (bytes : List UInt8)
  | list (items : List Value)
  | array (items : List Value)
  | struct (fields : List (String × Value))
  | node (id : InternalId) (label : String) (properties : List (String × Value))
  | rel (src dst : InternalId) (label : String) (properties : List (String × Value))
  /-- A path of any length. -/
  | recursive (nodes : List (InternalId × String × List (String × Value)))
      (rels : List ((InternalId × InternalId) × String × List (String × Value)))
  | map (entries : List (Value × Value))
  /-- A value of one of several types. -/
  | union (value : Value)
  | uuid (value : BitVec 128)
  /-- A number with a fixed number of decimal places. -/
  | decimal (unscaled : Int) (scale : Nat)
deriving Inhabited

/-! ## Simple values -/

namespace InternalId

def text (i : InternalId) : List Char :=
  Number.digitChars i.table.toNat ++ [':'] ++ Number.digitChars i.offset.toNat

end InternalId

/-- The nanoseconds of one tick. -/
def Resolution.nanosecondsPerTick : Resolution → Int
  | .seconds => 1000000000
  | .milliseconds => 1000000
  | .microseconds | .zoned => 1000
  | .nanoseconds => 1

/-- A fraction of a second given in nanoseconds: as many places as needed, but at least one. -/
def fractionText (nanoseconds : Nat) : List Char :=
  match ((Calendar.padded 9 nanoseconds).reverse.dropWhile (· == '0')).reverse with
  | [] => ['0']
  | places => places

/-- A point in time in UTC. The hour is not padded. -/
def timestampText (nanoseconds : Int) : List Char :=
  let second := nanoseconds.fdiv 1000000000
  let date := Calendar.Date.ofDays (second.fdiv 86400)
  let time := (second.fmod 86400).toNat
  date.text ++ [' '] ++ Number.digitChars (time / 3600) ++ [':'] ++
    Calendar.padded 2 (time / 60 % 60) ++ [':'] ++ Calendar.padded 2 (time % 60) ++ ['.'] ++
    fractionText (nanoseconds.fmod 1000000000).toNat ++ " +00:00:00".toList

/-- A length of time: the numbers of days, hours and so on, without those that are zero. -/
def intervalText (microseconds : Int) : List Char :=
  let n := microseconds.natAbs
  let parts : List (Nat × String) := [(n / 86400000000, "d"), (n / 3600000000 % 24, "h"),
    (n / 60000000 % 60, "m"), (n / 1000000 % 60, "s"), (n / 1000 % 1000, "ms"), (n % 1000, "µs")]
  if n = 0 then ['0', 's']
  else
    (if microseconds < 0 then ['-'] else []) ++ parts.flatMap fun (count, unit) =>
      if count = 0 then [] else Number.digitChars count ++ unit.toList

/-- Texts with a separator between them. -/
def separated (separator : List Char) (texts : List (List Char)) : List Char :=
  separator.intercalate texts

/-- Bytes in hexadecimal, without padding. -/
def blobText (bytes : List UInt8) : List Char :=
  ['['] ++ separated [',', ' '] (bytes.map fun b => Nat.toDigits 16 b.toNat) ++ [']']

/-- Thirty-two hexadecimal digits in five groups. -/
def uuidText (value : BitVec 128) : List Char :=
  let digits := Nat.toDigits 16 value.toNat
  let digits := List.replicate (32 - digits.length) '0' ++ digits
  separated ['-'] [digits.take 8, (digits.drop 8).take 4, (digits.drop 12).take 4,
    (digits.drop 16).take 4, digits.drop 20]

/-- A number with all its places. -/
def decimalText (unscaled : Int) (scale : Nat) : List Char :=
  let digits := Calendar.padded (scale + 1) unscaled.natAbs
  (if unscaled < 0 then ['-'] else []) ++ digits.take (digits.length - scale) ++
    (if scale = 0 then [] else '.' :: digits.drop (digits.length - scale))

/-! ## All values -/

/-- A node with its properties in text form. -/
def nodeText (place : InternalId) (label : String) (properties : List (List Char)) : List Char :=
  "(label:".toList ++ label.toList ++ [',', ' '] ++ place.text ++ [',', ' ', '\x7b'] ++
    separated [','] properties ++ ['\x7d', ')']

/-- A relationship with its properties in text form. -/
def relText (src dst : InternalId) (label : String) (properties : List (List Char)) : List Char :=
  ['('] ++ src.text ++ ")-[label:".toList ++ label.toList ++ [',', ' ', '\x7b'] ++
    separated [','] properties ++ ['\x7d', ']', '-', '>', '('] ++ dst.text ++ [')']

namespace Value

mutual

/-- The text of a value. -/
def text : Value → List Char
  | .null => []
  | .bool true => "True".toList
  | .bool false => "False".toList
  | .int8 n => Number.intText n.toInt
  | .int16 n => Number.intText n.toInt
  | .int32 n => Number.intText n.toInt
  | .int64 n => Number.intText n.toInt
  | .int128 n => Number.intText n.toInt
  | .uint8 n => Number.intText n.toNat
  | .uint16 n => Number.intText n.toNat
  | .uint32 n => Number.intText n.toNat
  | .uint64 n => Number.intText n.toNat
  | .float x => Number.Layout.plain.text x
  | .double x => Number.Layout.plain.text x
  | .string s => s.toList
  | .date days => (Calendar.Date.ofDays days).text
  | .timestamp resolution ticks => timestampText (ticks * resolution.nanosecondsPerTick)
  | .interval microseconds => intervalText microseconds
  | .id i => i.text
  | .blob bytes => blobText bytes
  | .list items => ['['] ++ separated [','] (itemTexts items) ++ [']']
  | .array items => ['['] ++ separated [','] (itemTexts items) ++ [']']
  | .struct fields => ['\x7b'] ++ separated [',', ' '] (fieldTexts [':', ' '] fields) ++ ['\x7d']
  | .node place label properties => nodeText place label (fieldTexts [':'] properties)
  | .rel src dst label properties => relText src dst label (fieldTexts [':'] properties)
  | .recursive nodes rels =>
    "\x7b_NODES: [".toList ++ separated [','] (nodeTexts nodes) ++ "], _RELS: [".toList ++
      separated [','] (relTexts rels) ++ [']', '\x7d']
  | .map entries => ['\x7b'] ++ separated [',', ' '] (entryTexts entries) ++ ['\x7d']
  | .union value => text value
  | .uuid value => uuidText value
  | .decimal unscaled scale => decimalText unscaled scale

def itemTexts : List Value → List (List Char)
  | [] => []
  | item :: items => text item :: itemTexts items

/-- The texts of fields, with something between the name and the value of each. -/
def fieldTexts (between : List Char) : List (String × Value) → List (List Char)
  | [] => []
  | (name, value) :: fields => (name.toList ++ between ++ text value) :: fieldTexts between fields

def entryTexts : List (Value × Value) → List (List Char)
  | [] => []
  | (key, value) :: entries => (text key ++ ['='] ++ text value) :: entryTexts entries

def nodeTexts : List (InternalId × String × List (String × Value)) → List (List Char)
  | [] => []
  | (place, label, properties) :: nodes =>
    nodeText place label (fieldTexts [':'] properties) :: nodeTexts nodes

def relTexts : List ((InternalId × InternalId) × String × List (String × Value)) → List (List Char)
  | [] => []
  | ((src, dst), label, properties) :: rels =>
    relText src dst label (fieldTexts [':'] properties) :: relTexts rels

end

end Value

example :
    String.ofList (timestampText 1686655530123450000) = "2023-06-13 11:25:30.12345 +00:00:00" ∧
    String.ofList (intervalText (-90061001001)) = "-1d1h1m1s1ms1µs" ∧
    String.ofList (decimalText (-50) 2) = "-0.50" ∧
    String.ofList (blobText [0, 255, 16]) = "[0, ff, 10]" := by decide +kernel

end GraphGateway.Native
