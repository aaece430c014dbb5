/-
What becomes of a value of the embedded engine on its way to a client, place by place.

A place is told by the numbers of the parts on the way to it. Lists, arrays and structures have
parts, and so have nodes and relationships, whose label is the first; both conversions keep them
(`parts_transport`), so that the value in transport has the same places as the value it comes from,
and what stands at a place comes from what stood there (`at?_transport`). What is left is one place:
`Shows` lists, kind by kind, what stands there, and from the list it is read off that a number in
transport is one of at most 32 bits or a finite double, and that a wide integer is text.
-/
import GraphGateway.Native.Database
import GraphGateway.Proofs.Json.Numeral
import GraphGateway.Proofs.Number.Widening

namespace GraphGateway

/-! ## Places -/

/-- What stands at a place, for what has parts: each number of the place chooses one of them, from
the outside to the inside. -/
def partAt? {α : Type} (parts : α → List α) : α → List Nat → Option α
  | a, [] => some a
  | a, n :: place => (parts a)[n]?.bind fun part => partAt? parts part place

/-- A map that keeps the parts keeps the places. -/
theorem partAt?_map {α β : Type} {parts : α → List α} {parts' : β → List β} {f : α → β}
    (h : ∀ a, parts' (f a) = (parts a).map f) (a : α) (place : List Nat) :
    partAt? parts' (f a) place = (partAt? parts a place).map f := by
  induction place generalizing a with
  | nil => rfl
  | cons n place ih =>
    rw [partAt?, partAt?, h, List.getElem?_map]
    cases (parts a)[n]? with
    | none => rfl
    | some part => exact ih part

namespace Json

/-- The values directly inside a value, in order. -/
def parts : Json → List Json
  | .array items => items
  | .object members => members.map Prod.snd
  | _ => []

/-- What stands at a place. -/
def at? (j : Json) (place : List Nat) : Option Json := partAt? parts j place

end Json

namespace Native.Value

/-- The fields of a structure. A node or a relationship has its label in front of its properties. -/
def fields : Value → List (String × Value)
  | .struct fields => fields
  | .node _ label properties | .rel _ _ label properties =>
    ("_label", .string label) :: properties
  | _ => []

/-- The values directly inside a value that are carried over one by one, in order. -/
def parts : Value → List Value
  | .list items | .array items => items
  | v => v.fields.map Prod.snd

/-- What stands at a place. -/
def at? (v : Value) (place : List Nat) : Option Value := partAt? parts v place

/-! ## Kinds -/

/-- The integer of a kind of up to 32 bits. -/
def narrow? : Value → Option Int
  | .int8 n => some n.toInt
  | .int16 n => some n.toInt
  | .int32 n => some n.toInt
  | .uint8 n => some (n.toNat : Int)
  | .uint16 n => some (n.toNat : Int)
  | .uint32 n => some (n.toNat : Int)
  | _ => none

/-- The integer of a kind of 64 bits and more. -/
def wide? : Value → Option Int
  | .int64 n => some n.toInt
  | .uint64 n => some (n.toNat : Int)
  | .int128 n => some n.toInt
  | _ => none

/-- The kinds that transport has no form for: they are told by their text. -/
def isTold : Value → Bool
  | .date _ | .timestamp .. | .interval _ | .id _ | .blob _ | .recursive .. | .map _ | .union _
  | .uuid _ | .decimal .. => true
  | _ => false

/-! ## One place -/

/-- A value that is a number in transport: an integer of up to 32 bits or a finite floating-point
number, and the number is the same. -/
inductive IsNumber : Value → Numeral → Prop
  | integer {v : Value} {n : Int} (h : v.narrow? = some n) (low : -2 ^ 31 ≤ n)
      (high : n ≤ 2 ^ 32 - 1) : IsNumber v (.int n)
  | single {x : Number.Single} {y : Number.Double} (finite : x.isFinite = true)
      (finite' : y.isFinite = true) (sign : y.negative = x.negative)
      (value : y.value? = x.value?) : IsNumber (.float x) (.double y)
  | double {x : Number.Double} (finite : x.isFinite = true) : IsNumber (.double x) (.double x)

/-- What stands in transport in the place of a value, kind by kind. What is inside it stands at
places of its own. -/
inductive Shows : Value → Json → Prop
  | null : Shows .null .null
  | bool (b : Bool) : Shows (.bool b) (.bool b)
  | string (s : String) : Shows (.string s) (.string s)
  | number {v : Value} {n : Numeral} (h : v.IsNumber n) : Shows v (.number n)
  | wide {v : Value} {n : Int} {text : String} (h : v.wide? = some n)
      (reads : Number.intOfText? text.toList = some n) : Shows v (.string text)
  | single {x : Number.Single} (h : x.isFinite = false) :
    Shows (.float x) (.string (String.ofList (text (.float x))))
  | double {x : Number.Double} (h : x.isFinite = false) :
    Shows (.double x) (.string (String.ofList (text (.double x))))
  | list {items : List Value} {shown : List Json} (h : shown.length = items.length) :
    Shows (.list items) (.array shown)
  | array {items : List Value} {shown : List Json} (h : shown.length = items.length) :
    Shows (.array items) (.array shown)
  | struct {fields : List (String × Value)} {members : Members}
      (h : members.map Prod.fst = fields.map Prod.fst) : Shows (.struct fields) (.object members)
  | node {id : InternalId} {label : String} {properties : List (String × Value)} {members : Members}
      (h : members.map Prod.fst = properties.map Prod.fst) :
    Shows (.node id label properties) (.object (("_label", .string label) :: members))
  | rel {src dst : InternalId} {label : String} {properties : List (String × Value)}
      {members : Members} (h : members.map Prod.fst = properties.map Prod.fst) :
    Shows (.rel src dst label properties) (.object (("_label", .string label) :: members))
  | told {v : Value} (h : v.isTold = true) : Shows v (.string (String.ofList v.text))

/-- The form of a value in transport. -/
def transport (v : Value) : Json := v.convert.toJson

section Transport

variable (items : List Value) (fields : List (String × Value)) (label : String)

/-- Fields in transport. -/
def transportFields (fields : List (String × Value)) : Members :=
  fields.map fun field => (field.1, field.2.transport)

theorem transport_list : transport (.list items) = .array (items.map transport) := by
  simp [transport, convert, Engine.Value.toJson]

theorem transport_array : transport (.array items) = .array (items.map transport) := by
  simp [transport, convert, Engine.Value.toJson]

theorem transport_struct : transport (.struct fields) = .object (transportFields fields) := by
  simp [transport, transportFields, convert, Engine.Value.toJson]

theorem transport_node (id : InternalId) : transport (.node id label fields) =
    .object (("_label", .string label) :: transportFields fields) := by
  simp [transport, transportFields, convert, labelled, Engine.Value.toJson]

theorem transport_rel (src dst : InternalId) : transport (.rel src dst label fields) =
    .object (("_label", .string label) :: transportFields fields) := by
  simp [transport, transportFields, convert, labelled, Engine.Value.toJson]

theorem names_transportFields : (transportFields fields).map Prod.fst = fields.map Prod.fst := by
  simp [transportFields]

theorem parts_transportFields : (Json.object (transportFields fields)).parts =
    (fields.map Prod.snd).map transport := by
  simp [Json.parts, transportFields]

end Transport

/-- The parts of a value in transport are the parts of the value in transport. -/
theorem parts_transport (v : Value) : v.transport.parts = v.parts.map transport := by
  have hdouble (x : Number.Double) : (Engine.Value.double x).toJson.parts = [] := by
    rw [Engine.Value.toJson]
    split <;> rfl
  cases v with
  | list items => rw [transport_list]; rfl
  | array items => rw [transport_array]; rfl
  | struct fields =>
    rw [transport_struct]
    exact parts_transportFields fields
  | node id label fields =>
    rw [transport_node]
    exact congrArg (Json.string label :: ·) (parts_transportFields fields)
  | rel src dst label fields =>
    rw [transport_rel]
    exact congrArg (Json.string label :: ·) (parts_transportFields fields)
  | float x => exact hdouble x.widen
  | double x => exact hdouble x
  | _ => rfl

/-- What stands at a place in transport is what stands there in the value, in transport. -/
theorem at?_transport (v : Value) (place : List Nat) :
    v.transport.at? place = (v.at? place).map transport :=
  partAt?_map parts_transport v place

/-! ## What stands there -/

/-- What is not finite has the same text as a single and as a double. -/
theorem text_widen {x : Number.Single} (h : x.isFinite = false) :
    Number.Layout.plain.text x.widen = Number.Layout.plain.text x := by
  unfold Number.Layout.text
  rw [Number.Binary.widen_negative]
  cases hx : x.magnitude with
  | nan => rw [Number.Binary.magnitude_widen_of_nan hx]
  | infinite => rw [Number.Binary.magnitude_widen_of_infinite hx]
  | finite m e =>
    have hfinite := Number.Binary.isFinite_iff_exists.mpr ⟨m, e, hx⟩
    rw [h] at hfinite
    cases hfinite

theorem transport_float (x : Number.Single) : transport (.float x) =
    if x.isFinite then .number (.double x.widen) else .string (String.ofList (text (.float x))) := by
  rw [transport, convert, Engine.Value.toJson, Number.Binary.widen_isFinite]
  cases h : x.isFinite with
  | true => rfl
  | false =>
    rw [text_widen h]
    rfl

theorem shows_float (x : Number.Single) : Shows (.float x) (transport (.float x)) := by
  rw [transport_float]
  cases h : x.isFinite with
  | true =>
    have hfinite : x.widen.isFinite = true := by rw [Number.Binary.widen_isFinite, h]
    exact .number (.single h hfinite x.widen_negative x.widen_value?)
  | false => exact .single h

theorem shows_double (x : Number.Double) : Shows (.double x) (transport (.double x)) := by
  rw [transport, convert, Engine.Value.toJson]
  cases h : x.isFinite with
  | true => exact .number (.double h)
  | false => exact .double h

theorem shows_int32 {v : Value} {n : Int32} (h : v.narrow? = some n.toInt) :
    Shows v (.number (.int n.toInt)) :=
  .number (.integer h n.le_toInt (by have := n.toInt_lt; omega))

theorem shows_uint32 {v : Value} {n : UInt32} (h : v.narrow? = some (n.toNat : Int)) :
    Shows v (.number (.int n.toNat)) :=
  .number (.integer h (by omega) (by have := n.toNat_lt; omega))

/-- The form of a wide integer is a text that it can be read back from. -/
theorem wide_readsBack (n : Int) :
    ∃ text, Engine.Value.wide n = .string text ∧ Number.intOfText? text.toList = some n := by
  refine ⟨String.ofList (Number.intText n), rfl, ?_⟩
  rw [String.toList_ofList, Number.intOfText?_intText]

theorem shows_wide {v : Value} {n : Int} (h : v.wide? = some n) :
    Shows v (Engine.Value.wide n) := by
  obtain ⟨text, htext, hreads⟩ := wide_readsBack n
  rw [htext]
  exact .wide h hreads

/-- A value in transport is what its kind is to be there. -/
theorem shows_transport (v : Value) : Shows v v.transport := by
  cases v with
  | null => exact .null
  | bool b => exact .bool b
  | string s => exact .string s
  | int8 n => exact shows_int32 (n := n.toInt32) (by rw [narrow?, Int8.toInt_toInt32])
  | int16 n => exact shows_int32 (n := n.toInt32) (by rw [narrow?, Int16.toInt_toInt32])
  | int32 n => exact shows_int32 rfl
  | uint8 n => exact shows_uint32 (n := n.toUInt32) (by rw [narrow?, UInt8.toNat_toUInt32])
  | uint16 n => exact shows_uint32 (n := n.toUInt32) (by rw [narrow?, UInt16.toNat_toUInt32])
  | uint32 n => exact shows_uint32 rfl
  | int64 n => exact shows_wide rfl
  | uint64 n => exact shows_wide rfl
  | int128 n => exact shows_wide rfl
  | float x => exact shows_float x
  | double x => exact shows_double x
  | list items =>
    rw [transport_list]
    exact .list (List.length_map _)
  | array items =>
    rw [transport_array]
    exact .array (List.length_map _)
  | struct fields =>
    rw [transport_struct]
    exact .struct (names_transportFields fields)
  | node id label fields =>
    rw [transport_node]
    exact .node (names_transportFields fields)
  | rel src dst label fields =>
    rw [transport_rel]
    exact .rel (names_transportFields fields)
  | date | timestamp | interval | id | blob | recursive | map | union | uuid | decimal =>
    exact .told rfl

theorem Shows.isNumber {v : Value} {n : Numeral} (h : Shows v (.number n)) : v.IsNumber n := by
  cases h with
  | number h => exact h

theorem transport_of_wide {v : Value} {n : Int} (h : v.wide? = some n) :
    v.transport = Engine.Value.wide n := by
  cases v with
  | int64 | uint64 | int128 =>
    cases h
    rfl
  | _ => cases h

/-- **No wide integer is a number in transport.** A value and its form have the same places, and at
each of them stands what the kind of the value there asks for. So a number stands only where an
integer of up to 32 bits or a finite floating-point number stood, and is the same number; and where
a wide integer stood, there is a text that it can be read back from. -/
theorem transport_place_by_place (v : Value) :
    (∀ place, Option.Rel Shows (v.at? place) (v.transport.at? place)) ∧
    (∀ place n, v.transport.at? place = some (.number n) →
      ∃ u, v.at? place = some u ∧ u.IsNumber n) ∧
    ∀ place u n, v.at? place = some u → u.wide? = some n →
      ∃ text, v.transport.at? place = some (.string text) ∧
        Number.intOfText? text.toList = some n := by
  refine ⟨fun place => ?_, fun place n hn => ?_, fun place u n hu hn => ?_⟩
  · rw [at?_transport]
    cases v.at? place with
    | none => exact .none
    | some u => exact .some (shows_transport u)
  · rw [at?_transport, Option.map_eq_some_iff] at hn
    obtain ⟨u, hu, hn⟩ := hn
    exact ⟨u, hu, Shows.isNumber (hn ▸ shows_transport u)⟩
  · obtain ⟨text, htext, hreads⟩ := wide_readsBack n
    refine ⟨text, ?_, hreads⟩
    rw [at?_transport, hu, Option.map_some, transport_of_wide hn, htext]

/-- A node with a wide identifier and a list of small numbers. -/
example : transport (.node ⟨0, 4⟩ "Person"
      [("id", .int64 9007199254740993), ("marks", .list [.uint8 7, .null])]) =
    .object [("_label", .string "Person"), ("id", .string "9007199254740993"),
      ("marks", .array [.number (.int 7), .null])] := by decide +kernel

end Native.Value

end GraphGateway
