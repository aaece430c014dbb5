/-
TOML strings, read and written.

A string stands between double quotes, where a backslash starts an escape, or between single quotes,
where it does not; three quotes of a kind let it run over several lines. What is written reads back:
the first form is taken that can hold the text without escapes other than that of the tab, and the
last one escapes whatever needs it.
-/
import GraphGateway.Json.Lexeme

namespace GraphGateway.Toml

/-- Reads a part off the front of a text and returns what is left, if it is there. -/
abbrev Reader (α : Type) := List Char → Option (α × List Char)

namespace Quoted

/-- Whether a character may stand for itself in a string of one line: it is no control character,
or it is a tab. -/
def isPlain (c : Char) : Bool := c = '\t' || (0x20 ≤ c.toNat && c.toNat != 0x7F)

/-! ## Reading -/

/-- The character of a code point in hexadecimal digits. -/
def charOfHex? (digits : List Char) : Option Char :=
  match digits.mapM Json.hexValue? with
  | none => none
  | some values =>
    let n := values.foldl (fun n v => n * 16 + v) 0
    if n < 0xD800 ∨ (0xDFFF < n ∧ n < 0x110000) then some (Char.ofNat n) else none

/-- Reads a code point of a fixed number of digits. -/
def readHex (count : Nat) : Reader Char := fun input =>
  if input.length < count then none
  else (charOfHex? (input.take count)).map (·, input.drop count)

/-- Reads what follows a backslash. -/
def readEscape : Reader Char
  | [] => none
  | c :: rest =>
    if c = 'b' then some ('\x08', rest)
    else if c = 't' then some ('\t', rest)
    else if c = 'n' then some ('\n', rest)
    else if c = 'f' then some ('\x0c', rest)
    else if c = 'r' then some ('\r', rest)
    else if c = 'e' then some ('\x1b', rest)
    else if c = '"' ∨ c = '\\' then some (c, rest)
    else if c = 'x' then readHex 2 rest
    else if c = 'u' then readHex 4 rest
    else if c = 'U' then readHex 8 rest
    else none

/-- Reads the characters of a string of one line up to its closing quote, those before it being
`done`, last first. -/
def readLine (quote : Char) (escapes : Bool) : Nat → List Char → Reader String
  | 0, _, _ => none
  | _ + 1, _, [] => none
  | fuel + 1, done, c :: rest =>
    if c = quote then some (String.ofList done.reverse, rest)
    else if c = '\\' ∧ escapes then
      match readEscape rest with
      | some (d, rest) => readLine quote escapes fuel (d :: done) rest
      | none => none
    else if isPlain c then readLine quote escapes fuel (c :: done) rest
    else none

/-- Whether a character is a blank within a line. -/
def isSpace (c : Char) : Bool := c = ' ' || c = '\t'

/-- What is left behind a line end in front. -/
def lineEnd? : List Char → Option (List Char)
  | '\n' :: rest => some rest
  | '\r' :: '\n' :: rest => some rest
  | _ => none

/-- What is left behind blanks and line ends. -/
def skipBlankLines : List Char → List Char
  | [] => []
  | [c] => if isSpace c ∨ c = '\n' then [] else [c]
  | c :: d :: rest =>
    if isSpace c ∨ c = '\n' ∨ (c = '\r' ∧ d = '\n') then skipBlankLines (d :: rest)
    else c :: d :: rest

/-- What is left behind a line end that a backslash in front of it hides, with all blanks around. -/
def hiddenLineEnd? (input : List Char) : Option (List Char) :=
  (lineEnd? (input.dropWhile isSpace)).map skipBlankLines

/-- Reads the characters of a string of several lines up to its closing quotes, those before it
being `done`, last first. Up to two quotes in front of the closing ones belong to the string. -/
def readLines (quote : Char) (escapes : Bool) : Nat → List Char → Reader String
  | 0, _, _ => none
  | _ + 1, _, [] => none
  | fuel + 1, done, c :: rest =>
    if c = quote then
      let more := (rest.takeWhile (· == quote)).length
      if more < 2 then
        readLines quote escapes fuel (List.replicate (more + 1) quote ++ done) (rest.drop more)
      else if more < 5 then
        some (String.ofList (List.replicate (more - 2) quote ++ done).reverse, rest.drop more)
      else none
    else if c = '\\' ∧ escapes then
      match hiddenLineEnd? rest with
      | some rest => readLines quote escapes fuel done rest
      | none =>
        match readEscape rest with
        | some (d, rest) => readLines quote escapes fuel (d :: done) rest
        | none => none
    else if c = '\n' ∨ isPlain c ∨ (c = '\r' ∧ rest.head? = some '\n') then
      readLines quote escapes fuel (c :: done) rest
    else none

/-- Reads a string of either kind of quote behind its first quote. -/
def readBehind (quote : Char) (escapes : Bool) : Reader String := fun input =>
  if [quote, quote].isPrefixOf input then
    let rest := input.drop 2
    let rest := (lineEnd? rest).getD rest
    readLines quote escapes (rest.length + 1) [] rest
  else readLine quote escapes (input.length + 1) [] input

/-- Reads a string of one line behind its quote. -/
def readOneLine (quote : Char) (escapes : Bool) : Reader String := fun input =>
  readLine quote escapes (input.length + 1) [] input

/-! ## Writing -/

/-- The greatest number of a character in a row, so many of them standing in front. -/
def longestRun (quote : Char) : Nat → List Char → Nat
  | n, [] => n
  | n, c :: cs => if c = quote then longestRun quote (n + 1) cs else max n (longestRun quote 0 cs)

/-- The written form of a character that cannot stand for itself. -/
def escape (c : Char) : List Char :=
  if c = '\x08' then ['\\', 'b']
  else if c = '\t' then ['\\', 't']
  else if c = '\n' then ['\\', 'n']
  else if c = '\x0c' then ['\\', 'f']
  else if c = '\r' then ['\\', 'r']
  else if c = '\\' then ['\\', '\\']
  else if c = '"' then ['\\', '"']
  else ['\\', 'u', '0', '0', (Nat.digitChar (c.toNat / 16)).toUpper,
    (Nat.digitChar (c.toNat % 16)).toUpper]

/-- The characters of a string in double quotes on one line. -/
def writeLine (cs : List Char) : List Char :=
  cs.flatMap fun c => if c = '\t' ∨ !isPlain c ∨ c = '\\' ∨ c = '"' then escape c else [c]

/-- The characters of a string in three double quotes. Of three double quotes in a row, so many of
which stand in front, the last is escaped. -/
def writeLines : Nat → List Char → List Char
  | _, [] => []
  | quotes, c :: cs =>
    if c = '"' then
      if 2 ≤ quotes then escape c ++ writeLines 0 cs else c :: writeLines (quotes + 1) cs
    else if c = '\n' then c :: writeLines 0 cs
    else if c = '\t' ∨ !isPlain c ∨ c = '\\' then escape c ++ writeLines 0 cs
    else c :: writeLines 0 cs

/-- The ways to write a string. -/
inductive Form where
  | double
  | single
  | tripleDouble
  | tripleSingle
deriving DecidableEq, Repr

/-- The form that a text is written in. -/
def formOf (cs : List Char) : Form :=
  if cs.all fun c => isPlain c || c = '\n' then
    if !cs.contains '\\' && !cs.contains '"' && !cs.contains '\n' then .double
    else if !cs.contains '\'' && !cs.contains '\n' then .single
    else if !cs.contains '\\' && longestRun '"' 0 cs ≤ 2 then .tripleDouble
    else if longestRun '\'' 0 cs ≤ 2 then .tripleSingle
    else if cs.contains '\n' then .tripleDouble
    else .double
  else if cs.contains '\n' then .tripleDouble
  else .double

/-- The written form of a text. A text of several lines starts on a line of its own. -/
def write (cs : List Char) : List Char :=
  let firstLine := if cs.contains '\n' then ['\n'] else []
  match formOf cs with
  | .double => ['"'] ++ writeLine cs ++ ['"']
  | .single => ['\''] ++ cs ++ ['\'']
  | .tripleDouble => ['"', '"', '"'] ++ firstLine ++ writeLines 0 cs ++ ['"', '"', '"']
  | .tripleSingle => ['\'', '\'', '\''] ++ firstLine ++ cs ++ ['\'', '\'', '\'']

example : String.ofList (write "a\tb".toList) = "\"a\\tb\"" ∧
    String.ofList (write "c:\\x".toList) = "'c:\\x'" ∧
    String.ofList (write "it's \"so\"".toList) = "\"\"\"it's \"so\"\"\"\"" := by decide +kernel

end Quoted

end GraphGateway.Toml
