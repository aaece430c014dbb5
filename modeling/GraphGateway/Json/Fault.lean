/-
What can be wrong with a JSON text, and where.

A reader only knows what is left of its input, so a fault records how many bytes are left behind the
place it names. Against the whole text this gives a line, counted from one, and a column: the number
of bytes of that line up to that place.
-/
import GraphGateway.Json.Printer
import GraphGateway.Text.Quoted

namespace GraphGateway.Json

/-- A value that is of another kind than expected. -/
inductive Found where
  | null
  | bool (value : Bool)
  | number (value : Numeral)
  | string (value : String)
  | sequence
  | map
deriving DecidableEq, Repr

def Found.message : Found → String
  | .null => "null"
  | .bool b => s!"boolean `{b}`"
  | .number (.int n) => s!"integer `{String.ofList (Number.intText n)}`"
  | .number (.double x) => s!"floating point `{String.ofList (Number.Layout.json.text x)}`"
  | .string s => "string " ++ Text.Quoted.quote s
  | .sequence => "sequence"
  | .map => "map"

/-- What is wrong with a text. -/
inductive Cause where
  | endInValue
  | endInList
  | endInObject
  | endInString
  | expectedValue
  | expectedLiteral
  | expectedColon
  | expectedCommaInList
  | expectedCommaInObject
  | keyNotString
  | trailingComma
  | trailingCharacters
  | invalidNumber
  | numberOutOfRange
  | controlCharacter
  | invalidEscape
  | loneSurrogate
  | missingSurrogate
  | nestedTooDeep
  | wrongType (found : Found) (expected : String)
  | outOfRange (value : Int) (expected : String)
  | missingField (name : String)
  | duplicateField (name : String)
  | unknownVariant (name : String) (known : List String)
  /-- An array with too few elements to be read as a record. -/
  | wrongLength (count : Nat) (expected : String)
  /-- A string whose text is not of the form expected, and why. -/
  | malformed (reason : String)
deriving DecidableEq, Repr

/-- Names in backticks, as alternatives. -/
def alternatives : List String → String
  | [] => "there are no variants"
  | [a] => s!"expected `{a}`"
  | [a, b] => s!"expected `{a}` or `{b}`"
  | names => "expected one of " ++ String.intercalate ", " (names.map fun n => s!"`{n}`")

def Cause.message : Cause → String
  | .endInValue => "EOF while parsing a value"
  | .endInList => "EOF while parsing a list"
  | .endInObject => "EOF while parsing an object"
  | .endInString => "EOF while parsing a string"
  | .expectedValue => "expected value"
  | .expectedLiteral => "expected ident"
  | .expectedColon => "expected `:`"
  | .expectedCommaInList => "expected `,` or `]`"
  | .expectedCommaInObject => "expected `,` or `\x7d`"
  | .keyNotString => "key must be a string"
  | .trailingComma => "trailing comma"
  | .trailingCharacters => "trailing characters"
  | .invalidNumber => "invalid number"
  | .numberOutOfRange => "number out of range"
  | .controlCharacter => "control character (\\u0000-\\u001F) found while parsing a string"
  | .invalidEscape => "invalid escape"
  | .loneSurrogate => "lone leading surrogate in hex escape"
  | .missingSurrogate => "unexpected end of hex escape"
  | .nestedTooDeep => "recursion limit exceeded"
  | .wrongType found expected => s!"invalid type: {found.message}, expected {expected}"
  | .outOfRange value expected =>
    s!"invalid value: integer `{String.ofList (Number.intText value)}`, expected {expected}"
  | .missingField name => s!"missing field `{name}`"
  | .duplicateField name => s!"duplicate field `{name}`"
  | .unknownVariant name known => s!"unknown variant `{name}`, {alternatives known}"
  | .wrongLength count expected => s!"invalid length {count}, expected {expected}"
  | .malformed reason => reason

/-- A cause, and how many bytes of the text are left behind the place where it shows. -/
structure Fault where
  cause : Cause
  left : Nat
deriving DecidableEq, Repr

namespace Fault

/-- A fault that shows in front of what is left. -/
def before (cause : Cause) (rest : List Char) : Fault := ⟨cause, Text.Utf8.size rest⟩

/-- A fault that shows on the first byte of what is left; at the end, in front of the end. -/
def on (cause : Cause) (rest : List Char) : Fault := ⟨cause, Text.Utf8.size rest - 1⟩

/-- A fault at the end of the text. -/
def atEnd (cause : Cause) : Fault := ⟨cause, 0⟩

/-- The part of a text up to the place of a fault. -/
def consumed (text : String) (fault : Fault) : List UInt8 :=
  let bytes := Text.Utf8.encode text
  bytes.take (bytes.length - fault.left)

/-- The line of a fault. -/
def line (text : String) (fault : Fault) : Nat := (fault.consumed text).count 0x0A + 1

/-- The bytes of that line up to the place of the fault. -/
def column (text : String) (fault : Fault) : Nat :=
  ((fault.consumed text).reverse.takeWhile (· != 0x0A)).length

/-- The cause and the place of a fault in a text. -/
def message (text : String) (fault : Fault) : String :=
  s!"{fault.cause.message} at line {fault.line text} column {fault.column text}"

end Fault

end GraphGateway.Json
