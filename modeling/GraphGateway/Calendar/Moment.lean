/-
Moments in time, and the text of RFC 3339.

A moment is printed in UTC with as many groups of three places as its fraction needs. Reading is
lenient: blanks may stand between the parts, a blank or a small letter may stand for `T`, and any
offset from UTC is taken into account. A second numbered 60 is the second before it, stretched, and
is printed as 60 again.
-/
import GraphGateway.Calendar.Date
import GraphGateway.Text.Blank

namespace GraphGateway.Calendar

/-- A moment: whole seconds since the start of 1970 in UTC, and nanoseconds; a leap second has a
second's worth of them more. -/
structure Moment where
  seconds : Int
  nanos : Nat
deriving DecidableEq, Repr

namespace Moment

/-- How many seconds a day has. -/
def secondsPerDay : Int := 86400

/-- The fraction of a second, in groups of three places. -/
def fractionText (nanos : Nat) : List Char :=
  if nanos = 0 then []
  else if nanos % 1000000 = 0 then '.' :: padded 3 (nanos / 1000000)
  else if nanos % 1000 = 0 then '.' :: padded 6 (nanos / 1000)
  else '.' :: padded 9 nanos

/-- The moment in UTC, as RFC 3339 writes it. -/
def text (m : Moment) : String :=
  let date := Date.ofDays (m.seconds.fdiv secondsPerDay)
  let second := (m.seconds.fmod secondsPerDay).toNat
  let stretched := m.nanos / 1000000000
  String.ofList (date.text ++ ['T'] ++ padded 2 (second / 3600) ++ [':'] ++
    padded 2 (second / 60 % 60) ++ [':'] ++ padded 2 (second % 60 + stretched) ++
    fractionText (m.nanos % 1000000000) ++ ['Z'])

/-! ## Reading -/

/-- Why a text names no moment. -/
inductive Fault where
  | outOfRange
  | invalid
  | tooShort
  | tooLong
  /-- The moment in UTC lies outside the years that dates are kept for. -/
  | impossible
deriving DecidableEq, Repr

def Fault.message : Fault → String
  | .outOfRange => "input is out of range"
  | .invalid => "input contains invalid characters"
  | .tooShort => "premature end of input"
  | .tooLong => "trailing input"
  | .impossible => "no possible date and time matching input"

/-- Reads a part off the front of a text and returns what is left. -/
abbrev Reader (α : Type) := List Char → Except Fault (α × List Char)

/-- What is left behind blanks. -/
def skipBlanks (input : List Char) : List Char := input.dropWhile Text.isBlank

/-- Reads one to `most` digits. -/
def readDigits (most : Option Nat) : Reader Nat := fun input =>
  match input with
  | [] => .error .tooShort
  | _ =>
    let digits := match most with
      | some n => (input.take n).takeWhile Char.isDigit
      | none => input.takeWhile Char.isDigit
    if digits = [] then .error .invalid
    else if 1 <<< 63 ≤ Number.valueOfDigits digits then .error .outOfRange
    else .ok (Number.valueOfDigits digits, input.drop digits.length)

/-- Reads a number of one to `most` digits behind blanks, and checks its bounds. -/
def readNumber (most low high : Nat) : Reader Nat := fun input => do
  let (n, rest) ← readDigits (some most) (skipBlanks input)
  if low ≤ n ∧ n ≤ high then .ok (n, rest) else .error .outOfRange

/-- Reads a year: up to four digits, or any number of them behind a sign. -/
def readYear : Reader Int := fun input => do
  let (year, rest) ← match skipBlanks input with
    | '-' :: rest => (readDigits none rest).map fun (n, rest) => (-(n : Int), rest)
    | '+' :: rest => (readDigits none rest).map fun (n, rest) => ((n : Int), rest)
    | rest => (readDigits (some 4) rest).map fun (n, rest) => ((n : Int), rest)
  if -0x80000000 ≤ year ∧ year < 0x80000000 then .ok (year, rest) else .error .outOfRange

/-- Reads a mark behind blanks. -/
def readMark (mark : Char) (input : List Char) : Except Fault (List Char) :=
  match skipBlanks input with
  | [] => .error .tooShort
  | c :: rest => if c = mark then .ok rest else .error .invalid

/-- Reads the fraction of a second, if there is one; places beyond the ninth are dropped. -/
def readFraction : Reader Nat
  | '.' :: input => do
    let (n, rest) ← readDigits (some 9) input
    .ok (n * Number.tenPow (9 - (input.length - rest.length)), rest.dropWhile Char.isDigit)
  | input => .ok (0, input)

/-- Two digits, the first of them below `limit`. -/
def readPair (limit : Nat) : Reader Nat
  | a :: b :: rest =>
    if a.isDigit ∧ b.isDigit then
      if Number.digitValue a < limit then
        .ok (Number.digitValue a * 10 + Number.digitValue b, rest)
      else .error .outOfRange
    else .error .invalid
  | [c] => .error (if c.utf8Size < 2 then .tooShort else .invalid)
  | [] => .error .tooShort

/-- Reads an offset from UTC, in seconds: `Z`, `UTC`, or hours and minutes behind a sign. -/
def readOffset : Reader Int := fun input =>
  let signed (sign : Int) (input : List Char) : Except Fault (Int × List Char) := do
    let (hours, rest) ← readPair 10 input
    let (minutes, rest) ← readPair 6 (rest.dropWhile fun c => c == ':' || Text.isBlank c)
    .ok (sign * (hours * 3600 + minutes * 60 : Nat), rest)
  match skipBlanks input with
  | [] => .error .tooShort
  | c :: rest =>
    if (String.ofList ((c :: rest).take 3)).toLower = "utc" then .ok (0, (c :: rest).drop 3)
    else if c = 'Z' ∨ c = 'z' then .ok (0, rest)
    else if c = '+' then signed 1 rest
    else if c = '-' ∨ c = '\u2212' then signed (-1) rest
    else .error .invalid

/-- The years that dates are kept for. -/
def yearInRange (year : Int) : Bool := -262143 ≤ year && year ≤ 262142

/-- The moment that a text names. -/
def ofText (s : String) : Except Fault Moment := do
  let (year, rest) ← readYear s.toList
  let rest ← readMark '-' rest
  let (month, rest) ← readNumber 2 1 12 rest
  let rest ← readMark '-' rest
  let (day, rest) ← readNumber 2 1 31 rest
  let rest ← match rest with
    | [] => .error .tooShort
    | c :: rest => if c = 't' ∨ c = 'T' ∨ c = ' ' then .ok rest else .error .invalid
  let (hour, rest) ← readNumber 2 0 23 rest
  let rest ← readMark ':' rest
  let (minute, rest) ← readNumber 2 0 59 rest
  let rest ← readMark ':' rest
  let (second, rest) ← readNumber 2 0 60 rest
  let (nanos, rest) ← readFraction rest
  let (offset, rest) ← readOffset rest
  if skipBlanks rest ≠ [] then .error .tooLong
  else if !(yearInRange year && Date.isValid ⟨year, month, day⟩) ∨ 86400 ≤ offset.natAbs then
    .error .outOfRange
  else
    let days := Date.toDays ⟨year, month, day⟩
    let time := hour * 3600 + minute * 60 + min second 59
    let seconds := days * secondsPerDay + time - offset
    if yearInRange (Date.ofDays (seconds.fdiv secondsPerDay)).year then
      .ok ⟨seconds, nanos + (second - 59) * 1000000000⟩
    else .error .impossible

example : (ofText "2023-12-31T23:59:59-08:00").toOption.map text = some "2024-01-01T07:59:59Z" ∧
    (ofText "1969-12-31T23:59:59.5Z").toOption.map text = some "1969-12-31T23:59:59.500Z" := by
  decide +kernel

end Moment

end GraphGateway.Calendar
