/-
JSON values out of text.

One pass from left to right: the first fault wins. What is read is what is written, the order of
members and repeated names included. Brackets may be nested 127 deep; a value that is only passed
over may be nested to any depth, for which the open brackets are kept in a list.
-/
import GraphGateway.Json.Lexeme

namespace GraphGateway.Json

/-- How deep the brackets of a value may be nested. -/
def maxNesting : Nat := 127

/-! ## Containers -/

/-- What comes next inside a container: its end, or another element. In both cases with what is left
of the text: behind the closing bracket, in front of the item, or behind the opening quote of the
member's name. -/
inductive Turn where
  | close (rest : List Char)
  | next (rest : List Char)
deriving DecidableEq, Repr

/-- Looks for another item of an array. -/
def nextItem (first : Bool) (input : List Char) : Except Fault Turn :=
  match skipSpace input with
  | [] => .error (.atEnd .endInList)
  | c :: rest =>
    if c = ']' then .ok (.close rest)
    else if first then .ok (.next (c :: rest))
    else if c = ',' then
      match skipSpace rest with
      | [] => .error (.atEnd .endInValue)
      | d :: rest =>
        if d = ']' then .error (.on .trailingComma (d :: rest)) else .ok (.next (d :: rest))
    else .error (.on .expectedCommaInList (c :: rest))

/-- Looks for another member of an object. -/
def nextKey (first : Bool) (input : List Char) : Except Fault Turn :=
  match skipSpace input with
  | [] => .error (.atEnd .endInObject)
  | c :: rest =>
    if c = '\x7d' then .ok (.close rest)
    else if first then
      if c = '"' then .ok (.next rest) else .error (.on .keyNotString (c :: rest))
    else if c = ',' then
      match skipSpace rest with
      | [] => .error (.atEnd .endInValue)
      | d :: rest =>
        if d = '"' then .ok (.next rest)
        else if d = '\x7d' then .error (.on .trailingComma (d :: rest))
        else .error (.on .keyNotString (d :: rest))
    else .error (.on .expectedCommaInObject (c :: rest))

/-- Reads the colon behind a member's name. -/
def readColon (input : List Char) : Except Fault (List Char) :=
  match skipSpace input with
  | [] => .error (.atEnd .endInObject)
  | c :: rest => if c = ':' then .ok rest else .error (.on .expectedColon (c :: rest))

/-- Reads items up to the closing bracket, those before them being `done`, last first. Each step
takes at least one character, so the input itself is fuel enough. -/
def readItems {α : Type} (item : Reader α) : List Char → List α → Reader (List α)
  | [], _, _ => .error (.atEnd .endInList)
  | _ :: fuel, done, input =>
    match nextItem done.isEmpty input with
    | .error fault => .error fault
    | .ok (.close rest) => .ok (done.reverse, rest)
    | .ok (.next rest) =>
      match item rest with
      | .error fault => .error fault
      | .ok (a, rest) => readItems item fuel (a :: done) rest

/-- Reads members up to the closing bracket, those before them being `done`, last first. The input
itself is fuel enough. -/
def readMembers (value : Reader Json) : List Char → Members → Reader Members
  | [], _, _ => .error (.atEnd .endInObject)
  | _ :: fuel, done, input =>
    match nextKey done.isEmpty input with
    | .error fault => .error fault
    | .ok (.close rest) => .ok (done.reverse, rest)
    | .ok (.next rest) => do
      let (name, rest) ← readString rest
      let rest ← readColon rest
      let (v, rest) ← value rest
      readMembers value fuel ((name, v) :: done) rest

/-! ## Values -/

/-- Reads a value whose brackets may be nested `levels` deep. -/
def readValue : Nat → Reader Json
  | levels, input =>
    match skipSpace input with
    | [] => .error (.atEnd .endInValue)
    | c :: rest =>
      if c = 'n' then (readLetters ['u', 'l', 'l'] rest).map (Json.null, ·)
      else if c = 't' then (readLetters ['r', 'u', 'e'] rest).map (Json.bool true, ·)
      else if c = 'f' then (readLetters ['a', 'l', 's', 'e'] rest).map (Json.bool false, ·)
      else if c = '-' then (readNumeral true rest).map fun (n, rest) => (.number n, rest)
      else if c.isDigit then (readNumeral false (c :: rest)).map fun (n, rest) => (.number n, rest)
      else if c = '"' then (readString rest).map fun (s, rest) => (.string s, rest)
      else if c = '[' then
        match levels with
        | 0 => .error (.on .nestedTooDeep (c :: rest))
        | levels + 1 =>
          (readItems (readValue levels) rest [] rest).map fun (items, rest) => (.array items, rest)
      else if c = '\x7b' then
        match levels with
        | 0 => .error (.on .nestedTooDeep (c :: rest))
        | levels + 1 =>
          (readMembers (readValue levels) rest [] rest).map fun (members, rest) =>
            (.object members, rest)
      else .error (.on .expectedValue (c :: rest))

/-! ## Values that are passed over -/

/-- The brackets that a value can stand in. -/
inductive Bracket where
  | square
  | curly
deriving DecidableEq, Repr

/-- Passes over a member's name and colon. -/
def skipKey (input : List Char) : Except Fault (List Char) :=
  match skipSpace input with
  | [] => .error (.atEnd .endInObject)
  | c :: rest =>
    if c = '"' then skipString rest >>= readColon else .error (.on .keyNotString (c :: rest))

mutual

/-- Passes over a value inside open brackets, innermost first, and over all that follows up to the
end of the outermost. Each step takes at least one character, so the input itself is fuel enough. -/
def skipFrom : List Char → List Bracket → List Char → Except Fault (List Char)
  | [], _, _ => .error (.atEnd .endInValue)
  | _ :: fuel, inside, input =>
    match skipSpace input with
    | [] => .error (.atEnd .endInValue)
    | c :: rest =>
      if c = 'n' then readLetters ['u', 'l', 'l'] rest >>= skipAfter fuel inside
      else if c = 't' then readLetters ['r', 'u', 'e'] rest >>= skipAfter fuel inside
      else if c = 'f' then readLetters ['a', 'l', 's', 'e'] rest >>= skipAfter fuel inside
      else if c = '-' then skipNumeral rest >>= skipAfter fuel inside
      else if c.isDigit then skipNumeral (c :: rest) >>= skipAfter fuel inside
      else if c = '"' then skipString rest >>= skipAfter fuel inside
      else if c = '[' then
        match skipSpace rest with
        | [] => .error (.atEnd .endInList)
        | d :: rest =>
          if d = ']' then skipAfter fuel inside rest
          else skipFrom fuel (.square :: inside) (d :: rest)
      else if c = '\x7b' then
        match skipSpace rest with
        | [] => .error (.atEnd .endInObject)
        | d :: rest =>
          if d = '\x7d' then skipAfter fuel inside rest
          else skipKey (d :: rest) >>= skipFrom fuel (.curly :: inside)
      else .error (.on .expectedValue (c :: rest))

/-- Passes over what follows a value inside open brackets. -/
def skipAfter : List Char → List Bracket → List Char → Except Fault (List Char)
  | _, [], input => .ok input
  | [], .square :: _, _ => .error (.atEnd .endInList)
  | [], .curly :: _, _ => .error (.atEnd .endInObject)
  | _ :: fuel, .square :: inside, input =>
    match skipSpace input with
    | [] => .error (.atEnd .endInList)
    | c :: rest =>
      if c = ',' then skipFrom fuel (.square :: inside) rest
      else if c = ']' then skipAfter fuel inside rest
      else .error (.on .expectedCommaInList (c :: rest))
  | _ :: fuel, .curly :: inside, input =>
    match skipSpace input with
    | [] => .error (.atEnd .endInObject)
    | c :: rest =>
      if c = ',' then skipKey rest >>= skipFrom fuel (.curly :: inside)
      else if c = '\x7d' then skipAfter fuel inside rest
      else .error (.on .expectedCommaInObject (c :: rest))

end

/-- Passes over a value of any depth. -/
def skipValue (input : List Char) : Except Fault (List Char) :=
  skipFrom input [] input

/-! ## Whole texts -/

/-- Reads a text that holds one value and blanks around it. -/
def readWhole {α : Type} (read : Reader α) (text : String) : Except Fault α :=
  match read text.toList with
  | .error fault => .error fault
  | .ok (a, rest) =>
    match skipSpace rest with
    | [] => .ok a
    | c :: rest => .error (.on .trailingCharacters (c :: rest))

/-- The value that a text holds. -/
def ofText (text : String) : Except Fault Json := readWhole (readValue maxNesting) text

example : (ofText "[1, \x7b\"b\": 2, \"a\": 1, \"b\": null\x7d]").toOption =
    some (.array [.number (.int 1),
      .object [("b", .number (.int 2)), ("a", .number (.int 1)), ("b", .null)]]) := by
  decide +kernel

/-- A comma needs an item behind it. -/
example : ofText "[1,]" = .error ⟨.trailingComma, 0⟩ := by rfl

end GraphGateway.Json
