/-
The tokens of a JSON text: blanks, literals, numbers and strings.

Each reader takes what is left of the text and returns what it read with what is left then. Inside a
member that nobody asked for, tokens are only passed over: escapes, control characters and the shape
of numbers are still checked, but a string may hold half a surrogate pair and a number may have any
magnitude.
-/
import GraphGateway.Json.Fault

namespace GraphGateway.Json

/-- Reads a value off the front of a text and returns what is left. -/
abbrev Reader (α : Type) := List Char → Except Fault (α × List Char)

/-! ## Blanks and literals -/

/-- The blanks of JSON, fewer than those of Unicode. -/
def isSpace (c : Char) : Bool := c == ' ' || c == '\t' || c == '\n' || c == '\r'

/-- What is left behind blanks. -/
def skipSpace (input : List Char) : List Char := input.dropWhile isSpace

/-- Reads the remaining letters of a literal. -/
def readLetters : List Char → List Char → Except Fault (List Char)
  | [], input => .ok input
  | _ :: _, [] => .error (.atEnd .endInValue)
  | letter :: letters, c :: rest =>
    if c = letter then readLetters letters rest else .error (.on .expectedLiteral (c :: rest))

/-! ## Numbers -/

/-- The digits at the front, and what is left behind them. -/
def spanDigits (input : List Char) : List Char × List Char :=
  (input.takeWhile Char.isDigit, input.dropWhile Char.isDigit)

/-- The value of as many digits as fit in 64 bits behind those already in `value`, and how many
digits are left over. -/
def fitDigits (value : Nat) : List Char → Nat × Nat
  | [] => (value, 0)
  | c :: cs =>
    let next := value * 10 + Number.digitValue c
    if next < 1 <<< 64 then fitDigits next cs else (value, cs.length + 1)

/-- The largest exponent that is read. -/
def maxExponent : Nat := 2147483647

/-- The value of an exponent's digits, or what is left behind the digit that makes it too large. -/
def fitExponent (value : Nat) : List Char → List Char → Except (List Char) Nat
  | [], _ => .ok value
  | c :: cs, rest =>
    let next := value * 10 + Number.digitValue c
    if next ≤ maxExponent then fitExponent next cs rest else .error (cs ++ rest)

/-- The number of a significand and an exponent, read up to `rest`. -/
def scaled (negative : Bool) (significand : Nat) (exponent : Int) : Reader Numeral := fun rest =>
  match Number.Binary.scaleByTen negative significand exponent with
  | some x => .ok (.double x, rest)
  | none => .error (.before .numberOutOfRange rest)

/-- Reads the sign and the digits of an exponent, behind its letter. -/
def readExponent (negative : Bool) (significand : Nat) (exponent : Int) : Reader Numeral :=
  fun input =>
    let (down, unsigned) := match input with
      | '-' :: rest => (true, rest)
      | '+' :: rest => (false, rest)
      | _ => (false, input)
    match unsigned with
    | [] => .error (.atEnd .endInValue)
    | c :: _ =>
      if c.isDigit then
        let (digits, rest) := spanDigits unsigned
        match fitExponent 0 digits rest with
        | .ok e => scaled negative significand (if down then exponent - e else exponent + e) rest
        | .error left =>
          if significand ≠ 0 ∧ down = false then .error (.before .numberOutOfRange left)
          else .ok (.double (.zero negative), rest)
      else .error (.on .invalidNumber unsigned)

/-- Reads what follows the whole digits of a number: a fraction, an exponent, or nothing. The whole
digits gave `significand`, and `extra` of them did not fit. -/
def readAfterWhole (negative : Bool) (significand extra : Nat) : Reader Numeral
  | '.' :: input =>
    let (digits, rest) := spanDigits input
    if digits = [] then
      .error (if rest = [] then .atEnd .endInValue else .on .invalidNumber rest)
    else
      let (significand, dropped) := fitDigits significand digits
      let exponent : Int := extra - (digits.length - dropped : Nat)
      match rest with
      | 'e' :: rest => readExponent negative significand exponent rest
      | 'E' :: rest => readExponent negative significand exponent rest
      | _ => scaled negative significand exponent rest
  | 'e' :: rest => readExponent negative significand extra rest
  | 'E' :: rest => readExponent negative significand extra rest
  | rest =>
    if extra ≠ 0 then scaled negative significand extra rest
    else if negative = false then .ok (.int significand, rest)
    else if significand = 0 ∨ 1 <<< 63 < significand then scaled true significand 0 rest
    else .ok (.int (-significand), rest)

/-- Reads a number behind its sign. A leading zero stands alone. -/
def readNumeral (negative : Bool) : Reader Numeral
  | [] => .error (.atEnd .endInValue)
  | c :: rest =>
    if c = '0' then
      match rest with
      | d :: _ =>
        if d.isDigit then .error (.on .invalidNumber rest)
        else readAfterWhole negative 0 0 rest
      | [] => readAfterWhole negative 0 0 rest
    else if c.isDigit then
      let (digits, rest) := spanDigits (c :: rest)
      let (significand, extra) := fitDigits 0 digits
      readAfterWhole negative significand extra rest
    else .error (.on .invalidNumber (c :: rest))

/-- Passes over an exponent behind its letter. -/
def skipExponent (input : List Char) : Except Fault (List Char) :=
  let unsigned := match input with
    | '-' :: rest => rest
    | '+' :: rest => rest
    | _ => input
  match spanDigits unsigned with
  | ([], _) => .error (.on .invalidNumber unsigned)
  | (_, rest) => .ok rest

/-- Passes over what may follow the digits of a number. -/
def skipAfterDigits : List Char → Except Fault (List Char)
  | 'e' :: rest => skipExponent rest
  | 'E' :: rest => skipExponent rest
  | rest => .ok rest

/-- Passes over what may follow the whole digits of a number. -/
def skipAfterWhole : List Char → Except Fault (List Char)
  | '.' :: input =>
    match spanDigits input with
    | ([], _) => .error (.on .invalidNumber input)
    | (_, rest) => skipAfterDigits rest
  | rest => skipAfterDigits rest

/-- Passes over a number behind its sign. -/
def skipNumeral : List Char → Except Fault (List Char)
  | [] => .error (.atEnd .invalidNumber)
  | c :: rest =>
    if c = '0' then
      match rest with
      | d :: _ => if d.isDigit then .error (.on .invalidNumber rest) else skipAfterWhole rest
      | [] => .ok []
    else if c.isDigit then skipAfterWhole (rest.dropWhile Char.isDigit)
    else .error (.on .invalidNumber (c :: rest))

/-! ## Strings -/

/-- The value of a hexadecimal digit. -/
def hexValue? (c : Char) : Option Nat :=
  if c.isDigit then some (c.toNat - '0'.toNat)
  else if 'a' ≤ c ∧ c ≤ 'f' then some (c.toNat - 'a'.toNat + 10)
  else if 'A' ≤ c ∧ c ≤ 'F' then some (c.toNat - 'A'.toNat + 10)
  else none

/-- The value of four hexadecimal digits. -/
def hexValues? : List Char → Option (Nat × List Char)
  | a :: b :: c :: d :: rest =>
    match hexValue? a, hexValue? b, hexValue? c, hexValue? d with
    | some a, some b, some c, some d => some (((a * 16 + b) * 16 + c) * 16 + d, rest)
    | _, _, _, _ => none
  | _ => none

/-- Reads four hexadecimal digits. Four bytes are looked at in any case. -/
def readHex : Reader Nat := fun input =>
  match hexValues? input with
  | some found => .ok found
  | none =>
    let size := Text.Utf8.size input
    if size < 4 then .error (.atEnd .endInString) else .error ⟨.invalidEscape, size - 4⟩

/-- The character that a letter stands for behind a backslash. -/
def unescape? (c : Char) : Option Char :=
  if c = '"' then some '"'
  else if c = '\\' then some '\\'
  else if c = '/' then some '/'
  else if c = 'b' then some '\x08'
  else if c = 'f' then some '\x0c'
  else if c = 'n' then some '\n'
  else if c = 'r' then some '\r'
  else if c = 't' then some '\t'
  else none

/-- Reads a code point behind `\u`: four digits, or twice four for a surrogate pair. -/
def readUnicodeEscape : Reader Char := fun input => do
  let (high, rest) ← readHex input
  if 0xDC00 ≤ high ∧ high ≤ 0xDFFF then .error (.before .loneSurrogate rest)
  else if high < 0xD800 ∨ 0xDBFF < high then .ok (Char.ofNat high, rest)
  else
    match rest with
    | [] => .error (.atEnd .endInString)
    | '\\' :: rest =>
      match rest with
      | [] => .error (.atEnd .endInString)
      | 'u' :: rest =>
        let (low, rest) ← readHex rest
        if 0xDC00 ≤ low ∧ low ≤ 0xDFFF then
          .ok (Char.ofNat ((high - 0xD800) * 0x400 + (low - 0xDC00) + 0x10000), rest)
        else .error (.before .loneSurrogate rest)
      | _ => .error (.on .missingSurrogate rest)
    | _ => .error (.on .missingSurrogate rest)

/-- Reads what follows a backslash. -/
def readEscape : Reader Char
  | [] => .error (.atEnd .endInString)
  | c :: rest =>
    if c = 'u' then readUnicodeEscape rest
    else
      match unescape? c with
      | some d => .ok (d, rest)
      | none => .error (.on .invalidEscape (c :: rest))

/-- Reads the characters of a string up to its closing quote, those before it being `done`, last
first. Each step takes at least one character, so the input itself is fuel enough. -/
def readChars : List Char → List Char → Reader String
  | [], _, _ => .error (.atEnd .endInString)
  | _ :: _, _, [] => .error (.atEnd .endInString)
  | _ :: fuel, done, c :: rest =>
    if c = '"' then .ok (String.ofList done.reverse, rest)
    else if c = '\\' then
      match readEscape rest with
      | .ok (d, rest) => readChars fuel (d :: done) rest
      | .error fault => .error fault
    else if c.toNat < 0x20 then .error (.on .controlCharacter (c :: rest))
    else readChars fuel (c :: done) rest

/-- Reads a string behind its opening quote. -/
def readString : Reader String := fun input => readChars input [] input

/-- Passes over a string behind its opening quote. A control character is reported in front of it.
The digits behind `\u` are no special characters of a string, so they need not be dropped. -/
def skipString : List Char → Except Fault (List Char)
  | [] => .error (.atEnd .endInString)
  | [c] =>
    if c = '"' then .ok []
    else if c = '\\' ∨ 0x20 ≤ c.toNat then .error (.atEnd .endInString)
    else .error (.before .controlCharacter [c])
  | c :: e :: rest =>
    if c = '"' then .ok (e :: rest)
    else if c = '\\' then
      if e = 'u' then
        match readHex rest with
        | .ok _ => skipString rest
        | .error fault => .error fault
      else if (unescape? e).isSome then skipString rest
      else .error (.on .invalidEscape (e :: rest))
    else if c.toNat < 0x20 then .error (.before .controlCharacter (c :: e :: rest))
    else skipString (e :: rest)

end GraphGateway.Json
