/-
JSON values as text.

Compact text has no spaces at all. Indented text puts every item of an array and every member of an
object on a line of its own, two spaces further in than its container, and a space after each colon;
an empty container is written without a line end in both. The two differ only in what stands between
the tokens, so one printer serves both.
-/
import GraphGateway.Json.Basic
import GraphGateway.Number.Reading

namespace GraphGateway.Json

/-! ## Strings -/

/-- The written form of a character inside a string: quotes and backslashes behind a backslash,
the characters below U+0020 by a letter or by four hexadecimal digits, all else as it is. -/
def escapeChar (c : Char) : List Char :=
  if c = '"' then ['\\', '"']
  else if c = '\\' then ['\\', '\\']
  else if 0x20 ≤ c.toNat then [c]
  else if c = '\x08' then ['\\', 'b']
  else if c = '\t' then ['\\', 't']
  else if c = '\n' then ['\\', 'n']
  else if c = '\x0c' then ['\\', 'f']
  else if c = '\r' then ['\\', 'r']
  else ['\\', 'u', '0', '0', Nat.digitChar (c.toNat / 16), Nat.digitChar (c.toNat % 16)]

/-- A string with its quotes. -/
def stringText (s : String) : List Char := '"' :: (s.toList.flatMap escapeChar ++ ['"'])

/-- A number in decimal. -/
def numeralText : Numeral → List Char
  | .int n => Number.intText n
  | .double x => Number.Layout.json.text x

/-! ## Values -/

/-- What stands between the tokens. -/
inductive Spacing where
  | compact
  | indented
deriving DecidableEq, Repr

/-- What stands in front of an item, or of the bracket that closes a container, at a depth. -/
def Spacing.lineBreak : Spacing → Nat → List Char
  | .compact, _ => []
  | .indented, depth => '\n' :: List.replicate (2 * depth) ' '

/-- What stands between a member's name and its value. -/
def Spacing.colon : Spacing → List Char
  | .compact => [':']
  | .indented => [':', ' ']

mutual

/-- The text of a value at a depth. -/
def write (sp : Spacing) (depth : Nat) : Json → List Char
  | .null => ['n', 'u', 'l', 'l']
  | .bool true => ['t', 'r', 'u', 'e']
  | .bool false => ['f', 'a', 'l', 's', 'e']
  | .number n => numeralText n
  | .string s => stringText s
  | .array [] => ['[', ']']
  | .array (item :: items) =>
    '[' :: (sp.lineBreak (depth + 1) ++ write sp (depth + 1) item ++
      writeItems sp (depth + 1) items ++ sp.lineBreak depth ++ [']'])
  | .object [] => ['\x7b', '\x7d']
  | .object ((name, value) :: members) =>
    '\x7b' :: (sp.lineBreak (depth + 1) ++ stringText name ++ sp.colon ++
      write sp (depth + 1) value ++ writeMembers sp (depth + 1) members ++
      sp.lineBreak depth ++ ['\x7d'])

/-- The text of the items after the first, each behind a comma. -/
def writeItems (sp : Spacing) (depth : Nat) : List Json → List Char
  | [] => []
  | item :: items =>
    ',' :: (sp.lineBreak depth ++ write sp depth item ++ writeItems sp depth items)

/-- The text of the members after the first, each behind a comma. -/
def writeMembers (sp : Spacing) (depth : Nat) : Members → List Char
  | [] => []
  | (name, value) :: members =>
    ',' :: (sp.lineBreak depth ++ stringText name ++ sp.colon ++ write sp depth value ++
      writeMembers sp depth members)

end

/-- The text without spaces. -/
def compact (j : Json) : String := String.ofList (j.write .compact 0)

/-- The text on several lines. -/
def indented (j : Json) : String := String.ofList (j.write .indented 0)

example : compact (.object [("a", .array [.number (.int (-7)), .null]), ("b", .string "x\ty")]) =
    "\x7b\"a\":[-7,null],\"b\":\"x\\ty\"\x7d" := by decide +kernel

example : indented (.object [("a", .array []), ("b", .bool true)]) =
    "\x7b\n  \"a\": [],\n  \"b\": true\n\x7d" := by decide +kernel

end GraphGateway.Json
