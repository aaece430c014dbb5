/-
How a decimal is laid out as text.

The digits come from `Number.Shortest`; a layout decides where positional writing ends, whether a
whole number shows a point, and how ties between equally near decimals are settled. Beyond the
positional range a number is written with one digit before the point and an exponent that always
has a sign.
-/
import GraphGateway.Number.Shortest

namespace GraphGateway.Number

/-- The decisions of a text form for floating-point numbers. -/
structure Layout where
  /-- Whether a number whose leading digit stands for `10 ^ e` is written positionally. -/
  positional : Int → Bool
  /-- Whether a whole number is written with `.0`. -/
  pointZero : Bool
  tie : Tie

/-- Numbers in JSON: positional from `1e-5` to below `1e16`, with at least one place. -/
def Layout.json : Layout where
  positional e := -5 ≤ e && e < 16
  pointZero := true
  tie := .toEven

/-- Numbers inside other text: always positional, with no more places than needed. -/
def Layout.plain : Layout where
  positional _ := true
  pointZero := false
  tie := .up

/-- The decimal digits of a natural number. -/
def digitChars (n : Nat) : List Char := Nat.toDigits 10 n

/-- A decimal written positionally. -/
def Decimal.positionalText (pointZero : Bool) (d : Decimal) : List Char :=
  let digits := digitChars d.digits
  if 0 ≤ d.exponent then
    digits ++ List.replicate d.exponent.toNat '0' ++ (if pointZero then ['.', '0'] else [])
  else
    let places := (-d.exponent).toNat
    let padded := List.replicate (places + 1 - digits.length) '0' ++ digits
    padded.take (padded.length - places) ++ ['.'] ++ padded.drop (padded.length - places)

/-- A decimal written with an exponent of the leading digit. -/
def Decimal.scientificText (d : Decimal) : List Char :=
  let digits := digitChars d.digits
  let exponent := d.exponent + (digits.length - 1 : Nat)
  digits.take 1 ++ (if digits.length ≤ 1 then [] else '.' :: digits.drop 1) ++
    ['e', if exponent < 0 then '-' else '+'] ++ digitChars exponent.natAbs

/-- A decimal in a layout. -/
def Layout.decimalText (l : Layout) (d : Decimal) : List Char :=
  if l.positional (d.exponent + ((digitChars d.digits).length - 1 : Nat)) then
    d.positionalText l.pointZero
  else d.scientificText

/-- A floating-point number in a layout. -/
def Layout.text {f : Format} (l : Layout) (x : Binary f) : List Char :=
  match x.magnitude with
  | .nan => ['N', 'a', 'N']
  | .infinite => (if x.negative then ['-'] else []) ++ ['i', 'n', 'f']
  | .finite m e => (if x.negative then ['-'] else []) ++ l.decimalText (f.shortest l.tie m e)

/-- Positional writing starts at `1e-5` and ends below `1e16`. -/
example : Layout.json.text (Binary.ofRatio false 1 100000 : Double) = "0.00001".toList ∧
    Layout.json.text (Binary.ofRatio false (10 ^ 15) 1 : Double) = "1000000000000000.0".toList ∧
    Layout.json.text (Binary.ofRatio false (10 ^ 16) 1 : Double) = "1e+16".toList ∧
    Layout.json.text (Binary.ofRatio true 3 (2 * 10 ^ 10) : Double) = "-1.5e-10".toList := by
  decide +kernel

/-- The plain form keeps the sign of zero and shows no places that are not needed. -/
example : Layout.plain.text (Binary.zero true : Double) = "-0".toList ∧
    Layout.plain.text (Binary.ofRatio false 1 (10 ^ 7) : Single) = "0.0000001".toList := by
  decide +kernel

end GraphGateway.Number
