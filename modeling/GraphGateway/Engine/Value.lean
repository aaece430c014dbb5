/-
Values as the graph engine answers them, and their form in transport.

JSON numbers do not carry the full range of 64-bit integers, so integers wider than 32 bits become
text. A double that is not finite has no JSON form and becomes text too.
-/
import GraphGateway.Json.Printer

namespace GraphGateway.Engine

inductive Value where
  | null
  | bool (value : Bool)
  | int32 (value : Int32)
  | uint32 (value : UInt32)
  | int64 (value : Int64)
  | uint64 (value : UInt64)
  | int128 (value : BitVec 128)
  | double (value : Number.Double)
  | string (value : String)
  | list (items : List Value)
  /-- The fields of a structure, a node or a relationship, in order. -/
  | record (fields : List (String × Value))
deriving Inhabited

/-- A row as the engine answers it: columns and their values, in order. -/
abbrev RawRow := List (String × Value)

namespace Value

/-- An integer as decimal text. -/
def wide (n : Int) : Json := .string (String.ofList (Number.intText n))

mutual

/-- The form of a value in transport. -/
def toJson : Value → Json
  | .null => .null
  | .bool b => .bool b
  | .int32 n => .number (.int n.toInt)
  | .uint32 n => .number (.int n.toNat)
  | .int64 n => wide n.toInt
  | .uint64 n => wide n.toNat
  | .int128 n => wide n.toInt
  | .double x =>
    if x.isFinite then .number (.double x)
    else .string (String.ofList (Number.Layout.plain.text x))
  | .string s => .string s
  | .list items => .array (itemsToJson items)
  | .record fields => .object (fieldsToJson fields)

def itemsToJson : List Value → List Json
  | [] => []
  | item :: items => toJson item :: itemsToJson items

def fieldsToJson : List (String × Value) → Members
  | [] => []
  | (name, value) :: fields => (name, toJson value) :: fieldsToJson fields

end

@[simp] theorem itemsToJson_eq_map (items : List Value) : itemsToJson items = items.map toJson := by
  induction items with
  | nil => rfl
  | cons item items ih => simp [itemsToJson, ih]

@[simp] theorem fieldsToJson_eq_map (fields : List (String × Value)) :
    fieldsToJson fields = fields.map fun field => (field.1, toJson field.2) := by
  induction fields with
  | nil => rfl
  | cons field fields ih => simp [fieldsToJson, ih]

/-- The greatest 32-bit integer stays a number, the next wider kind does not. -/
example : toJson (.uint32 0xFFFFFFFF) = .number (.int 4294967295) ∧
    toJson (.int64 1) = .string "1" := by decide +kernel

end Value

/-- The form of a row in transport. -/
def RawRow.toJson (row : RawRow) : Members := Value.fieldsToJson row

end GraphGateway.Engine
