/-
TOML values that are written without quotes: truth values, numbers, dates and times.

A token runs as far as letters, digits and a few marks go, and is then looked at as a whole. One
blank may stand between a date and a time, and only there.
-/
import GraphGateway.Calendar.Date
import GraphGateway.Toml.Quoted
import GraphGateway.Toml.Value

namespace GraphGateway.Toml

namespace Scalar

/-! ## Digits -/

/-- Whether a text is digits of some kind, with single underscores between them. -/
def isDigits (isDigit : Char → Bool) : List Char → Bool
  | [] => false
  | [c] => isDigit c
  | c :: d :: cs =>
    isDigit c && (if d = '_' then isDigits isDigit cs else isDigits isDigit (d :: cs))

/-- The text without underscores. -/
def withoutUnderscores (cs : List Char) : List Char := cs.filter (· != '_')

/-- A sign in front, and what follows it. -/
def splitSign : List Char → Option Char × List Char
  | '+' :: cs => (some '+', cs)
  | '-' :: cs => (some '-', cs)
  | cs => (none, cs)

/-- Decimal digits that do not start with an idle zero. -/
def isWhole (cs : List Char) : Bool :=
  isDigits Char.isDigit cs && (cs.length = 1 || cs.head? != some '0')

/-! ## Numbers -/

/-- The value of digits in a base. -/
def valueIn (base : Nat) (cs : List Char) : Nat :=
  (withoutUnderscores cs).foldl (fun n c => n * base + (Json.hexValue? c).getD 0) 0

/-- An integer: in decimal with an optional sign, or without one in base 16, 8 or 2. -/
def integer? : List Char → Option Int
  | '0' :: 'x' :: cs =>
    if isDigits (fun c => (Json.hexValue? c).isSome) cs then some (valueIn 16 cs) else none
  | '0' :: 'o' :: cs =>
    if isDigits (fun c => '0' ≤ c && c ≤ '7') cs then some (valueIn 8 cs) else none
  | '0' :: 'b' :: cs =>
    if isDigits (fun c => c = '0' || c = '1') cs then some (valueIn 2 cs) else none
  | cs =>
    let (sign, digits) := splitSign cs
    if isWhole digits then
      some (if sign = some '-' then -(valueIn 10 digits : Int) else valueIn 10 digits)
    else none

/-- Whether an integer is one of the widest kind that is kept. -/
def inRange (n : Int) : Bool := -(1 <<< 127 : Nat) ≤ n && n < (1 <<< 128 : Nat)

/-- Whether a text is the fraction and the exponent of a number, one of which may be missing. -/
def isFractionAndExponent (cs : List Char) : Bool :=
  let exponentOk (cs : List Char) : Bool := isDigits Char.isDigit (splitSign cs).2
  match cs with
  | '.' :: cs =>
    let fraction := cs.takeWhile fun c => c ≠ 'e' && c ≠ 'E'
    isDigits Char.isDigit fraction &&
      (match cs.drop fraction.length with
        | [] => true
        | _ :: exponent => exponentOk exponent)
  | 'e' :: exponent | 'E' :: exponent => exponentOk exponent
  | _ => false

/-- Whether a text is a floating-point number. One that is too great for a double is none. -/
def isFloat (cs : List Char) : Bool :=
  let unsigned := (splitSign cs).2
  if unsigned = ['i', 'n', 'f'] ∨ unsigned = ['n', 'a', 'n'] then true
  else
    let whole := unsigned.takeWhile fun c => c.isDigit || c = '_'
    isWhole whole && isFractionAndExponent (unsigned.drop whole.length) &&
      ((Number.Binary.ofText? .double (String.ofList (withoutUnderscores cs))).any
        Number.Binary.isFinite)

/-! ## Dates and times -/

/-- The number of two digits. -/
def pair? (a b : Char) : Option Nat :=
  if a.isDigit && b.isDigit then some (Number.digitValue a * 10 + Number.digitValue b) else none

/-- Whether ten characters are a date. -/
def isDate : List Char → Bool
  | [y1, y2, y3, y4, '-', m1, m2, '-', d1, d2] =>
    match pair? y1 y2, pair? y3 y4, pair? m1 m2, pair? d1 d2 with
    | some century, some year, some month, some day =>
      Calendar.Date.isValid ⟨century * 100 + year, month, day⟩
    | _, _, _, _ => false
  | _ => false

/-- Hours and minutes, and what follows them. -/
def readHourMinute : List Char → Option (List Char)
  | h1 :: h2 :: ':' :: m1 :: m2 :: rest =>
    match pair? h1 h2, pair? m1 m2 with
    | some hour, some minute => if hour < 24 ∧ minute < 60 then some rest else none
    | _, _ => none
  | _ => none

/-- What follows a time of day. Seconds may be missing, and they may have a fraction. -/
def readTime (cs : List Char) : Option (List Char) :=
  match readHourMinute cs with
  | none => none
  | some (':' :: s1 :: s2 :: rest) =>
    match pair? s1 s2 with
    | none => none
    | some second =>
      if 60 < second then none
      else
        match rest with
        | '.' :: rest =>
          let fraction := rest.takeWhile Char.isDigit
          if fraction = [] then none else some (rest.drop fraction.length)
        | rest => some rest
  | some (':' :: _) => none
  | some rest => some rest

/-- Whether a text is an offset from UTC, or nothing. -/
def isOffset : List Char → Bool
  | [] => true
  | ['Z'] | ['z'] => true
  | '+' :: cs | '-' :: cs => readHourMinute cs == some []
  | _ => false

/-- Whether a text is a date, a time, or both with an optional offset. -/
def isMoment (cs : List Char) : Bool :=
  if isDate (cs.take 10) then
    match cs.drop 10 with
    | [] => true
    | c :: time => (c = 'T' || c = 't' || c = ' ') && (readTime time).any isOffset
  else readTime cs == some []

/-! ## Tokens -/

/-- Whether a character may belong to a token. -/
def isTokenChar (c : Char) : Bool :=
  c.isAlphanum || c = '_' || c = '+' || c = '-' || c = '.' || c = ':'

/-- The token in front, with a time that follows a date behind one blank. -/
def token (input : List Char) : List Char :=
  let first := input.takeWhile isTokenChar
  if isDate first then
    match input.drop first.length with
    | ' ' :: rest =>
      if rest.head?.any Char.isDigit then first ++ ' ' :: rest.takeWhile isTokenChar else first
    | _ => first
  else first

/-- The value that a token stands for. -/
def value? (token : List Char) : Option Value :=
  if token = ['t', 'r', 'u', 'e'] then some (.flag true)
  else if token = ['f', 'a', 'l', 's', 'e'] then some (.flag false)
  else
    match integer? token with
    | some n => if inRange n then some (.integer n) else none
    | none =>
      if isFloat token then some (.float (String.ofList token))
      else if isMoment token then some (.moment (String.ofList token))
      else none

/-- Reads a value without quotes. -/
def read : Reader Value := fun input =>
  let token := token input
  (value? token).map (·, input.drop token.length)

example : (value? "1_000".toList).isSome ∧ (value? "01".toList).isNone ∧
    (value? "-0.5e+1_0".toList).isSome ∧ (value? "1.".toList).isNone ∧
    (value? "1979-05-27T07:32:00.5-07:00".toList).isSome ∧
    (value? "1979-02-29".toList).isNone := by decide +kernel

end Scalar

end GraphGateway.Toml
