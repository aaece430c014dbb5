/-
TOML documents.

A document is read line by line into definitions, from which its table is built. Line ends and
comments may stand between the items of an array or of a table in braces and on both sides of an
equals sign between braces, and a comma behind the last item. A key has no more parts than brackets
may be nested.
-/
import GraphGateway.Toml.Scalar

namespace GraphGateway.Toml

/-! ## Between values -/

/-- What is left behind blanks within a line. -/
def skipSpace (input : List Char) : List Char := input.dropWhile Quoted.isSpace

/-- What is left behind the end of a line, in front of which a comment may stand. -/
def endLine? (input : List Char) : Option (List Char) :=
  let rest := match skipSpace input with
    | '#' :: rest => rest.dropWhile Quoted.isPlain
    | rest => rest
  if rest = [] then some [] else Quoted.lineEnd? rest

/-- What is left behind blanks, line ends and comments. Each round ends a line, so as much fuel as
there is input is enough. -/
def skipLines : Nat → List Char → Option (List Char)
  | 0, _ => none
  | fuel + 1, input =>
    match skipSpace input with
    | [] => some []
    | c :: rest =>
      if c = '#' ∨ c = '\n' ∨ c = '\r' then (endLine? (c :: rest)).bind (skipLines fuel)
      else some (c :: rest)

/-- What is left behind everything that may stand between the items of a container. -/
def skipBetween (input : List Char) : Option (List Char) := skipLines (input.length + 1) input

/-! ## Keys -/

/-- Whether a character may stand in a key without quotes. -/
def isBare (c : Char) : Bool := c.isAlphanum || c = '_' || c = '-'

/-- Reads one part of a key. -/
def readPart : Reader String
  | '"' :: rest => Quoted.readOneLine '"' true rest
  | '\'' :: rest => Quoted.readOneLine '\'' false rest
  | input =>
    let part := input.takeWhile isBare
    if part = [] then none else some (String.ofList part, input.drop part.length)

/-- How deep brackets and braces may be nested, and how many parts a key may have. -/
def maxNesting : Nat := 80

/-- Reads a key with at most so many parts and dots between them, those before being `path`. -/
def readKeyFrom : Nat → List String → Reader (List String × String)
  | 0, _, _ => none
  | parts + 1, path, input =>
    match readPart input with
    | none => none
    | some (part, rest) =>
      match skipSpace rest with
      | '.' :: rest => readKeyFrom parts (path ++ [part]) (skipSpace rest)
      | rest => some ((path, part), rest)

/-- Reads a key and the blanks behind it: the parts in front of the last, and the last. -/
def readKey : Reader (List String × String) := readKeyFrom maxNesting []

/-- Reads a key, an equals sign and a value; `skip` passes over what may stand around the sign. -/
def readEntry (skip : List Char → Option (List Char)) (value : Reader Value) :
    Reader (List String × String × Value) := fun input => do
  let ((path, key), rest) ← readKey input
  match ← skip rest with
  | '=' :: rest =>
    let (v, rest) ← value (← skip rest)
    some ((path, key, v), rest)
  | _ => none

/-! ## Values -/

/-- Reads the items of an array up to its closing bracket, those before being `items`, last
first. -/
def readItems (value : Reader Value) : Nat → List Value → Reader Value
  | 0, _, _ => none
  | fuel + 1, items, input =>
    match skipBetween input with
    | none => none
    | some (']' :: rest) => some (.array items.reverse, rest)
    | some input =>
      match value input with
      | none => none
      | some (item, rest) =>
        match skipBetween rest with
        | some (',' :: rest) => readItems value fuel (item :: items) rest
        | some (']' :: rest) => some (.array (item :: items).reverse, rest)
        | _ => none

/-- Reads the entries of a table up to its closing brace, those before being `entries`. -/
def readBraces (value : Reader Value) : Nat → Entries → Reader Value
  | 0, _, _ => none
  | fuel + 1, entries, input =>
    match skipBetween input with
    | none => none
    | some ('\x7d' :: rest) => some (.table .braces entries, rest)
    | some input =>
      match readEntry skipBetween value input with
      | none => none
      | some ((path, key, v), rest) =>
        match Entries.set path key v .header entries with
        | none => none
        | some (_, entries) =>
          match skipBetween rest with
          | some (',' :: rest) => readBraces value fuel entries rest
          | some ('\x7d' :: rest) => some (.table .braces entries, rest)
          | _ => none

/-- Reads a value with brackets and braces nested at most so deep. -/
def readValue : Nat → Reader Value
  | levels, input =>
    match input with
    | '"' :: rest => (Quoted.readBehind '"' true rest).map fun (s, rest) => (.string s, rest)
    | '\'' :: rest => (Quoted.readBehind '\'' false rest).map fun (s, rest) => (.string s, rest)
    | '[' :: rest =>
      match levels with
      | 0 => none
      | levels + 1 => readItems (readValue levels) (rest.length + 1) [] rest
    | '\x7b' :: rest =>
      match levels with
      | 0 => none
      | levels + 1 => readBraces (readValue levels) (rest.length + 1) [] rest
    | input => Scalar.read input

/-! ## Lines -/

/-- Reads what a line defines. -/
def readDefinition : Reader Definition
  | '[' :: '[' :: rest =>
    match readKey (skipSpace rest) with
    | some ((path, key), ']' :: ']' :: rest) => some (.element path key, rest)
    | _ => none
  | '[' :: rest =>
    match readKey (skipSpace rest) with
    | some ((path, key), ']' :: rest) => some (.table path key, rest)
    | _ => none
  | input =>
    (readEntry (some ∘ skipSpace) (readValue maxNesting) input).map fun ((path, key, v), rest) =>
      (.entry path key v, rest)

/-- Reads the definitions of a document, those before being `done`, last first. -/
def readDefinitions : Nat → List Definition → List Char → Option (List Definition)
  | 0, _, _ => none
  | fuel + 1, done, input =>
    match skipBetween input with
    | none => none
    | some [] => some done.reverse
    | some input =>
      match readDefinition input with
      | none => none
      | some (definition, rest) =>
        (endLine? rest).bind (readDefinitions fuel (definition :: done))

/-- The table of a document. A byte order mark in front of it is passed over. -/
def ofText? (text : String) : Option Entries :=
  let input := match text.toList with
    | '\ufeff' :: rest => rest
    | input => input
  (readDefinitions (input.length + 1) [] input).bind (build [] [])

end GraphGateway.Toml
