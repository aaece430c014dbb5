/-
Numbers out of decimal text.

`Binary.ofDecimal` rounds the written value once. `Binary.scaleByTen` is the quicker rule that JSON
numbers are read by: the digits are rounded to a double first and then multiplied or divided by a
power of ten, which rounds again.
-/
import GraphGateway.Number.Layout

namespace GraphGateway.Number

/-! ## Digits -/

/-- The value of a decimal digit. -/
def digitValue (c : Char) : Nat := c.toNat - '0'.toNat

/-- The value of a row of decimal digits. -/
def valueOfDigits (cs : List Char) : Nat := cs.foldl (fun n c => n * 10 + digitValue c) 0

/-- A row of at least one decimal digit, as a natural number. -/
def natOfText? (cs : List Char) : Option Nat :=
  if cs ≠ [] ∧ cs.all Char.isDigit then some (valueOfDigits cs) else none

/-- Decimal digits after an optional sign, as an integer. -/
def intOfText? : List Char → Option Int
  | '-' :: cs => (natOfText? cs).map fun n => -(n : Int)
  | '+' :: cs => (natOfText? cs).map fun n => (n : Int)
  | cs => (natOfText? cs).map fun n => (n : Int)

/-- The decimal text of an integer. -/
def intText (n : Int) : List Char :=
  (if n < 0 then ['-'] else []) ++ digitChars n.natAbs

/-! ## Correct rounding -/

/-- The number nearest to `significand * 10 ^ exponent`. Exponents beyond what any format holds give
infinity and zero without the power being formed. -/
def Binary.ofDecimal {f : Format} (negative : Bool) (significand : Nat) (exponent : Int) :
    Binary f :=
  let top := exponent + digitCount significand
  if significand = 0 ∨ top < -400 then .zero negative
  else if 400 < top then ⟨negative, f.infinity⟩
  else .ofRatio negative (significand * tenPow exponent.toNat) (tenPow (-exponent).toNat)

/-- A number without its sign: a word for what has no digits, or digits with an optional point and
exponent. -/
def Binary.ofUnsignedText? (f : Format) (negative : Bool) (cs : List Char) : Option (Binary f) :=
  let word := String.ofList (cs.map Char.toLower)
  if word = "nan" then some ⟨negative, f.notANumber⟩
  else if word = "inf" ∨ word = "infinity" then some ⟨negative, f.infinity⟩
  else
    let mantissa := cs.takeWhile fun c => c ≠ 'e' && c ≠ 'E'
    let exponent? := match cs.drop mantissa.length with
      | [] => some 0
      | _ :: exponent => intOfText? exponent
    let whole := mantissa.takeWhile (· ≠ '.')
    let places := (mantissa.drop whole.length).drop 1
    match exponent?, natOfText? (whole ++ places) with
    | some exponent, some significand =>
      some (.ofDecimal negative significand (exponent - places.length))
    | _, _ => none

/-- The number nearest to a decimal text. -/
def Binary.ofText? (f : Format) (s : String) : Option (Binary f) :=
  match s.toList with
  | '-' :: cs => Binary.ofUnsignedText? f true cs
  | '+' :: cs => Binary.ofUnsignedText? f false cs
  | cs => Binary.ofUnsignedText? f false cs

/-! ## Reading by scaling -/

/-- The word of the product of a finite magnitude and the double nearest to `10 ^ n`. -/
def timesTenPow (word n : Nat) : Nat :=
  match Format.double.magnitude word,
    Format.double.magnitude (Format.double.nearest (tenPow n) 1) with
  | .finite m e, .finite m' e' =>
    Format.double.nearest ((m * m') <<< (e + e').toNat) (1 <<< (-(e + e')).toNat)
  | _, _ => Format.double.infinity

/-- The word of the quotient of a finite magnitude by the double nearest to `10 ^ n`. -/
def overTenPow (word n : Nat) : Nat :=
  match Format.double.magnitude word,
    Format.double.magnitude (Format.double.nearest (tenPow n) 1) with
  | .finite m e, .finite m' e' =>
    Format.double.nearest (m <<< (e - e').toNat) (m' <<< (e' - e).toNat)
  | _, _ => 0

/-- Divides by `10 ^ n`, at most `10 ^ 308` at a time. -/
def overTenPowInSteps (word n : Nat) : Nat :=
  if n ≤ 308 then overTenPow word n
  else if word = 0 then 0
  else overTenPowInSteps (overTenPow word 308) (n - 308)
termination_by n

/-- The double of `significand * 10 ^ exponent`: the significand is rounded first, then scaled by a
power of ten and rounded again. There is none if the product is too great. -/
def Binary.scaleByTen (negative : Bool) (significand : Nat) (exponent : Int) : Option Double :=
  let word := Format.double.nearest significand 1
  if exponent < 0 then some ⟨negative, overTenPowInSteps word exponent.natAbs⟩
  else if word = 0 then some (.zero negative)
  else if 308 < exponent then none
  else
    let product := timesTenPow word exponent.toNat
    if Format.double.infinity ≤ product then none else some ⟨negative, product⟩

end GraphGateway.Number
