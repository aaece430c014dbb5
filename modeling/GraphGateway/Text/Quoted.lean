/-
Text between double quotes, for people to read: line ends, tabs, quotes, backslashes and NUL are
written with a backslash, every other character that does not show on its own by its code point in
hexadecimal, and all else as it is. An apostrophe needs no escape.
-/
import GraphGateway.Text.Hidden
import GraphGateway.Text.Utf8

namespace GraphGateway.Text.Quoted

/-- A number in lower-case hexadecimal, without padding. -/
def hex (n : Nat) : List Char := Nat.toDigits 16 n

/-- The written form of one character between the quotes. -/
def escape (c : Char) : List Char :=
  if c = '\t' then ['\\', 't']
  else if c = '\r' then ['\\', 'r']
  else if c = '\n' then ['\\', 'n']
  else if c = '"' then ['\\', '"']
  else if c = '\\' then ['\\', '\\']
  else if c = '\x00' then ['\\', '0']
  else if isHidden c then ['\\', 'u', '\x7b'] ++ hex c.toNat ++ ['\x7d']
  else [c]

/-- A text in double quotes. -/
def quote (s : String) : String :=
  String.ofList (['"'] ++ s.toList.flatMap escape ++ ['"'])

/-- Two upper-case hexadecimal digits of a byte, after `\x`. -/
def escapeByte (b : UInt8) : List Char :=
  let digits := Nat.toDigits 16 b.toNat
  ['\\', 'x'] ++ (List.replicate (2 - digits.length) '0' ++ digits).map Char.toUpper

/-- A byte sequence in double quotes: its characters as in `quote`, and each byte that belongs to
none by its two hexadecimal digits. -/
def quoteBytes (bytes : List UInt8) : String :=
  String.ofList (['"'] ++ (Utf8.pieces bytes).flatMap (fun piece =>
    match piece with
    | .char c => escape c
    | .broken bad => bad.flatMap escapeByte
    | .cut bad => bad.flatMap escapeByte) ++ ['"'])

/-- A newline is escaped, an apostrophe and a letter are not, and a soft hyphen shows its code. -/
example : quote "it's\n\u00ad" = "\"it's\\n\\u\x7bad\x7d\"" := by decide +kernel

end GraphGateway.Text.Quoted
