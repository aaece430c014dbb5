/-
Typed values out of JSON text and into JSON.

A codec reads a value of its type straight off the text, so that what is wrong with the type and
what is wrong with the text are found in one pass from left to right, and says how the value is
written. A record is a row of fields; it is written as an object, and read from an object in any
order or from an array in the order of the fields. Members that no field asks for are passed over, a
field given twice is refused, and each field says whether it may be left out.
-/
import GraphGateway.Json.Reader

namespace GraphGateway.Json

/-- How values of a type are read off a text, brackets nested at most so deep, and written. -/
structure Codec (α : Type) where
  read : Nat → Reader α
  write : α → Json

/-- The value that a text holds, read by a codec. -/
def Codec.decode {α : Type} (c : Codec α) (text : String) : Except Fault α :=
  readWhole (c.read maxNesting) text

/-! ## What is there in place of what was expected -/

/-- Reads what stands in front, which is not of the kind expected, to say what it is. Of a container
only the opening bracket is looked at. -/
def mismatch (expected : String) (input : List Char) : Fault :=
  match input with
  | [] => .atEnd .endInValue
  | c :: rest =>
    let found (kind : Found) (rest : List Char) : Fault := .before (.wrongType kind expected) rest
    let number (read : Except Fault (Numeral × List Char)) : Fault :=
      match read with
      | .ok (n, rest) => found (.number n) rest
      | .error fault => fault
    let literal (kind : Found) (read : Except Fault (List Char)) : Fault :=
      match read with
      | .ok rest => found kind rest
      | .error fault => fault
    if c = 'n' then literal .null (readLetters ['u', 'l', 'l'] rest)
    else if c = 't' then literal (.bool true) (readLetters ['r', 'u', 'e'] rest)
    else if c = 'f' then literal (.bool false) (readLetters ['a', 'l', 's', 'e'] rest)
    else if c = '-' then number (readNumeral true rest)
    else if c.isDigit then number (readNumeral false (c :: rest))
    else if c = '"' then
      match readString rest with
      | .ok (s, rest) => found (.string s) rest
      | .error fault => fault
    else if c = '[' then found .sequence input
    else if c = '\x7b' then found .map input
    else .on .expectedValue input

/-! ## Simple values -/

namespace Codec

/-- Reads a string where one is expected. -/
def readText (expected : String) : Reader String := fun input =>
  match skipSpace input with
  | '"' :: rest => readString rest
  | input => .error (mismatch expected input)

def text : Codec String where
  read _ := readText "a string"
  write := .string

def flag : Codec Bool where
  read _ input :=
    match skipSpace input with
    | 't' :: rest => (readLetters ['r', 'u', 'e'] rest).map (true, ·)
    | 'f' :: rest => (readLetters ['a', 'l', 's', 'e'] rest).map (false, ·)
    | input => .error (mismatch "a boolean" input)
  write := .bool

/-- An integer from `low` to below `high`. -/
def integer (low high : Int) (expected : String) : Codec Int where
  read _ input :=
    let check (read : Except Fault (Numeral × List Char)) : Except Fault (Int × List Char) :=
      match read with
      | .error fault => .error fault
      | .ok (.double x, rest) => .error (.before (.wrongType (.number (.double x)) expected) rest)
      | .ok (.int n, rest) =>
        if low ≤ n ∧ n < high then .ok (n, rest)
        else .error (.before (.outOfRange n expected) rest)
    match skipSpace input with
    | [] => .error (.atEnd .endInValue)
    | c :: rest =>
      if c = '-' then check (readNumeral true rest)
      else if c.isDigit then check (readNumeral false (c :: rest))
      else .error (mismatch expected (c :: rest))
  write n := .number (.int n)

def int32 : Codec Int := integer (-0x80000000) 0x80000000 "i32"

/-- A count that fits in 64 bits. -/
def count : Codec Nat where
  read levels input :=
    ((integer 0 0x10000000000000000 "usize").read levels input).map fun (n, rest) =>
      (n.toNat, rest)
  write n := .number (.int n)

/-- Any value; the members of its objects are sorted. -/
def any : Codec Json where
  read levels input := (readValue levels input).map fun (j, rest) => (j.canonical, rest)
  write := id

/-- A value made from a string, or the reason why it cannot be made. -/
def parsed {α : Type} (expected : String) (parse : String → Except String α)
    (print : α → String) : Codec α where
  read _ input :=
    match readText expected input with
    | .error fault => .error fault
    | .ok (s, rest) =>
      match parse s with
      | .ok a => .ok (a, rest)
      | .error reason => .error (.before (.malformed reason) rest)
  write a := .string (print a)

/-- A value, or `null` for none. -/
def optional {α : Type} (c : Codec α) : Codec (Option α) where
  read levels input :=
    match skipSpace input with
    | 'n' :: rest => (readLetters ['u', 'l', 'l'] rest).map (none, ·)
    | input => (c.read levels input).map fun (a, rest) => (some a, rest)
  write
    | none => .null
    | some a => c.write a

/-- A value that is there. -/
def present {α : Type} (c : Codec α) : Codec (Option α) where
  read levels input := (c.read levels input).map fun (a, rest) => (some a, rest)
  write
    | none => .null
    | some a => c.write a

/-- An array of values. -/
def list {α : Type} (c : Codec α) : Codec (List α) where
  read levels input :=
    match skipSpace input with
    | '[' :: rest =>
      match levels with
      | 0 => .error (.on .nestedTooDeep ('[' :: rest))
      | levels + 1 => readItems (c.read levels) rest [] rest
    | input => .error (mismatch "a sequence" input)
  write as := .array (as.map c.write)

/-! ## Names out of a list -/

/-- Finds the value of a name that was read up to `rest`. -/
def findName {α : Type} (names : List (String × α)) (name : String) : Reader α := fun rest =>
  match names.lookup name with
  | some a => .ok (a, rest)
  | none => .error (.before (.unknownVariant name (names.map Prod.fst)) rest)

/-- One of several named values: the name as a string, or as the only member of an object with the
value `null`. -/
def choice {α : Type} (names : List (String × α)) (nameOf : α → String) : Codec α where
  read levels input :=
    match skipSpace input with
    | [] => .error (.atEnd .endInValue)
    | '"' :: rest => do
      let (name, rest) ← readString rest
      findName names name rest
    | '\x7b' :: rest =>
      match levels with
      | 0 => .error (.on .nestedTooDeep ('\x7b' :: rest))
      | _ + 1 => do
        let (name, rest) ← match skipSpace rest with
          | [] => .error (.atEnd .endInObject)
          | '"' :: rest => readString rest
          | '\x7d' :: rest => .error (.on .expectedValue ('\x7d' :: rest))
          | rest => .error (.on .keyNotString rest)
        let (a, rest) ← findName names name rest
        let rest ← readColon rest
        let rest ← match skipSpace rest with
          | 'n' :: rest => readLetters ['u', 'l', 'l'] rest
          | input => .error (mismatch "unit" input)
        match skipSpace rest with
        | [] => .error (.atEnd .endInObject)
        | '\x7d' :: rest => .ok (a, rest)
        | rest => .error (.before .expectedValue rest)
    | input => .error (.on .expectedValue input)
  write a := .string (nameOf a)

end Codec

/-! ## Records -/

/-- Whether a field may be left out, and what it is then. -/
inductive Absence (α : Type) where
  | refused
  /-- It may be left out of an object, not of an array. -/
  | inObject (value : α)
  /-- It may be left out of an object, and at the end of an array. -/
  | anywhere (value : α)

/-- A field of a record. -/
structure Field (α : Type) where
  name : String
  codec : Codec α
  absence : Absence α := .refused
  /-- Values that are not written. -/
  omits : α → Bool := fun _ => false

/-- A field that may be left out, and is left out when it is written if there is no value. -/
def Field.optional {α : Type} (name : String) (codec : Codec α) : Field (Option α) where
  name := name
  codec := codec.optional
  absence := .anywhere none
  omits := Option.isNone

/-- A field that may be left out, but is no `null` where it is given. -/
def Field.given {α : Type} (name : String) (codec : Codec α) : Field (Option α) where
  name := name
  codec := codec.present
  absence := .anywhere none
  omits := Option.isNone

/-- The fields of a record whose values are nested pairs that end in `Unit`. -/
inductive Fields : Type → Type 1 where
  | nil : Fields Unit
  | cons {α β : Type} (field : Field α) (rest : Fields β) : Fields (α × β)

namespace Fields

/-- The field values read so far. -/
def Slots : {β : Type} → Fields β → Type
  | _, .nil => Unit
  | _, .cons (α := α) _ rest => Option α × rest.Slots

/-- No field has been read. -/
def noSlots : {β : Type} → (fields : Fields β) → fields.Slots
  | _, .nil => ()
  | _, .cons _ rest => (none, rest.noSlots)

def length : {β : Type} → Fields β → Nat
  | _, .nil => 0
  | _, .cons _ rest => rest.length + 1

/-- What is known about a member's name. -/
inductive Known where
  /-- No field is so called. -/
  | unknown
  /-- The field was read before. -/
  | again
  | fresh
deriving DecidableEq, Repr

def lookup : {β : Type} → (fields : Fields β) → fields.Slots → String → Known
  | _, .nil, _, _ => .unknown
  | _, .cons field rest, slots, name =>
    if field.name = name then (if slots.1.isSome then .again else .fresh)
    else rest.lookup slots.2 name

/-- Reads the value of the field of a name into its slot. -/
def readSlot (levels : Nat) (name : String) :
    {β : Type} → (fields : Fields β) → fields.Slots → Reader fields.Slots
  | _, .nil, _, input => .ok ((), input)
  | _, .cons field rest, slots, input =>
    if field.name = name then
      (field.codec.read levels input).map fun (a, left) => ((some a, slots.2), left)
    else
      (readSlot levels name rest slots.2 input).map fun (others, left) => ((slots.1, others), left)

/-- The values of all fields, or the name of the first that is missing. -/
def close : {β : Type} → (fields : Fields β) → fields.Slots → Except String β
  | _, .nil, _ => .ok ()
  | _, .cons field rest, slots =>
    match slots.1, field.absence with
    | some a, _ | none, .inObject a | none, .anywhere a => (rest.close slots.2).map (a, ·)
    | none, .refused => .error field.name

/-- Reads members up to the closing bracket. The input itself is fuel enough. -/
def readMembers {β : Type} (fields : Fields β) (levels : Nat) :
    List Char → Bool → fields.Slots → Reader β
  | [], _, _, _ => .error (.atEnd .endInObject)
  | _ :: fuel, first, slots, input =>
    match nextKey first input with
    | .error fault => .error fault
    | .ok (.close rest) =>
      match fields.close slots with
      | .ok b => .ok (b, rest)
      | .error name => .error (.before (.missingField name) rest)
    | .ok (.next rest) => do
      let (name, rest) ← readString rest
      match fields.lookup slots name with
      | .again =>
        let rest := skipSpace rest
        let rest := if rest.head? = some '\x7d' then rest.tail else rest
        .error (.before (.duplicateField name) rest)
      | .fresh =>
        let rest ← readColon rest
        let (slots, rest) ← fields.readSlot levels name slots rest
        readMembers fields levels fuel false slots rest
      | .unknown =>
        let rest ← readColon rest
        let rest ← skipValue rest
        readMembers fields levels fuel false slots rest

/-- The values of fields that an array does not reach, or how many elements would have been needed
before the first that is missed. -/
def fill : {β : Type} → Fields β → Nat → Except Nat β
  | _, .nil, _ => .ok ()
  | _, .cons field rest, index =>
    match field.absence with
    | .anywhere a => (rest.fill (index + 1)).map (a, ·)
    | .refused | .inObject _ => .error index

/-- Checks that an array ends behind the elements of all fields. -/
def endArray (input : List Char) : Except Fault (List Char) :=
  match skipSpace input with
  | [] => .error (.atEnd .endInList)
  | c :: rest =>
    if c = ']' then .ok rest
    else if c = ',' then
      let rest := skipSpace rest
      .error (.on (if rest.head? = some ']' then .trailingComma else .trailingCharacters) rest)
    else .error (.on .trailingCharacters (c :: rest))

/-- Reads the fields from `index` on as elements of an array, up to the closing bracket. -/
def readElements (expected : String) (levels : Nat) :
    {β : Type} → Fields β → Nat → Reader β
  | _, .nil, _, input => (endArray input).map ((), ·)
  | _, .cons field rest, index, input =>
    match nextItem (index == 0) input with
    | .error fault => .error fault
    | .ok (.close left) =>
      match (Fields.cons field rest).fill index with
      | .ok b => .ok (b, left)
      | .error count => .error (.before (.wrongLength count expected) left)
    | .ok (.next left) => do
      let (a, left) ← field.codec.read levels left
      let (b, left) ← readElements expected levels rest (index + 1) left
      .ok ((a, b), left)

/-- The members of a record. -/
def write : {β : Type} → Fields β → β → Members
  | _, .nil, () => []
  | _, .cons field rest, (a, b) =>
    if field.omits a then rest.write b else (field.name, field.codec.write a) :: rest.write b

end Fields

/-- A record with a name, made of its field values. -/
def Codec.record {α β : Type} (name : String) (fields : Fields β) (make : β → α) (split : α → β) :
    Codec α where
  read levels input :=
    let expected := "struct " ++ name
    match skipSpace input with
    | '[' :: rest =>
      match levels with
      | 0 => .error (.on .nestedTooDeep ('[' :: rest))
      | levels + 1 =>
        let elements := s!"{expected} with {fields.length} element"
          ++ (if fields.length = 1 then "" else "s")
        (fields.readElements elements levels 0 rest).map fun (b, rest) => (make b, rest)
    | '\x7b' :: rest =>
      match levels with
      | 0 => .error (.on .nestedTooDeep ('\x7b' :: rest))
      | levels + 1 =>
        (fields.readMembers levels rest true fields.noSlots rest).map
          fun (b, rest) => (make b, rest)
    | input => .error (mismatch expected input)
  write a := .object (fields.write (split a))

end GraphGateway.Json
