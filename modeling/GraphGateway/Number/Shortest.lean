/-
The fewest decimal digits that read back to a binary number.

The reals that round to a finite number form an interval that ends half-way to its neighbours; the
ends belong to it when the significand is even. For one digit, two digits and so on, the number's
two neighbours on the decimal grid of that many digits are tried: the first grid with a neighbour
in the interval gives the digits, of two such neighbours the nearer one, and a tie is settled as
the caller asks.
-/
import GraphGateway.Number.Binary

namespace GraphGateway.Number

/-- Ten to a power. -/
def tenPow (n : Nat) : Nat := Nat.pow 10 n

/-- The number `digits * 10 ^ exponent`. -/
structure Decimal where
  digits : Nat
  exponent : Int
deriving DecidableEq, Repr

/-- Which of two equally near decimals is taken. -/
inductive Tie where
  | toEven
  | up
deriving DecidableEq, Repr

/-- How many decimal digits a natural number has; one for zero. -/
def digitCount (n : Nat) : Nat := (Nat.toDigits 10 n).length

/-- The same number without trailing zeros among its digits. -/
def Decimal.stripZeros : Nat → Decimal → Decimal
  | 0, d => d
  | fuel + 1, d =>
    if d.digits ≠ 0 ∧ d.digits % 10 = 0 then stripZeros fuel ⟨d.digits / 10, d.exponent + 1⟩ else d

/-- A positive finite magnitude with the interval of the reals that round to it: the value is
`4 * significand`, the ends are `low` and `4 * significand + 2`, all times `2 ^ scale`. -/
structure Rounded where
  significand : Nat
  low : Nat
  scale : Int

/-- The interval of a magnitude. Below a power of two the neighbour is half as far away. -/
def Format.rounded (f : Format) (significand : Nat) (scale : Int) : Rounded :=
  let narrow := significand = 1 <<< f.fractionBits ∧ f.minScale < scale
  ⟨significand, if narrow then 4 * significand - 1 else 4 * significand - 2, scale - 2⟩

namespace Rounded

/-- Compares the decimal with `n * 2 ^ x.scale`. -/
def compareTo (x : Rounded) (d : Decimal) (n : Nat) : Ordering :=
  compare ((d.digits * tenPow d.exponent.toNat) <<< (-x.scale).toNat)
    ((n * tenPow (-d.exponent).toNat) <<< x.scale.toNat)

/-- Whether the decimal lies among the reals that round to the magnitude. -/
def readsBack (x : Rounded) (d : Decimal) : Bool :=
  let inclusive := x.significand % 2 = 0
  (match x.compareTo d x.low with
    | .gt => true
    | .eq => inclusive
    | .lt => false) &&
  (match x.compareTo d (4 * x.significand + 2) with
    | .lt => true
    | .eq => inclusive
    | .gt => false)

/-- The magnitude over `10 ^ exponent`, rounded down. -/
def floorAt (x : Rounded) (exponent : Int) : Nat :=
  (4 * x.significand * tenPow (-exponent).toNat) <<< x.scale.toNat /
    tenPow exponent.toNat <<< (-x.scale).toNat

/-- The exponent from which on a power of ten exceeds the magnitude. No magnitude of the formats in
use is below `10 ^ -400`, so the digits of its quotient by that tell. -/
def magnitudeExponent (x : Rounded) : Int := (digitCount (x.floorAt (-400)) : Int) - 400

/-- The neighbour on the grid of `10 ^ exponent` that reads back, if one does: the nearer of the two
if both do. -/
def onGrid (x : Rounded) (tie : Tie) (exponent : Int) : Option Decimal :=
  let below : Decimal := ⟨x.floorAt exponent, exponent⟩
  let above : Decimal := ⟨below.digits + 1, exponent⟩
  match x.readsBack below, x.readsBack above with
  | true, false => some below
  | false, true => some above
  | false, false => none
  | true, true =>
    match x.compareTo ⟨2 * below.digits + 1, exponent⟩ (8 * x.significand) with
    | .lt => some above
    | .gt => some below
    | .eq =>
      match tie with
      | .up => some above
      | .toEven => some (if below.digits % 2 = 0 then below else above)

/-- The magnitude itself as a decimal. -/
def exact (x : Rounded) : Decimal :=
  ⟨(4 * x.significand * Nat.pow 5 (-x.scale).toNat) <<< x.scale.toNat, min 0 x.scale⟩

/-- The shortest decimal that reads back; its last digit is not zero. Seventeen digits always read
back, so the exact value is never needed. -/
def shortest (x : Rounded) (tie : Tie) : Decimal :=
  let top := x.magnitudeExponent
  let found := (List.range 17).findSome? fun n => x.onGrid tie (top - (n + 1 : Nat))
  .stripZeros 20 (found.getD x.exact)

end Rounded

/-- The shortest digits of a finite magnitude; zero has the digit zero. -/
def Format.shortest (f : Format) (tie : Tie) (significand : Nat) (scale : Int) : Decimal :=
  if significand = 0 then ⟨0, 0⟩ else (f.rounded significand scale).shortest tie

/-- The double nearest to a tenth has one digit. -/
example : Format.double.shortest .toEven 0x1999999999999A (-56) = ⟨1, -1⟩ := by decide +kernel

/-- The least double: three and seven would read back too, five is nearest. -/
example : Format.double.shortest .toEven 1 (-1074) = ⟨5, -324⟩ := by decide +kernel

/-- At `2 ^ -25` two decimals of seventeen digits are equally near. -/
example : Format.double.shortest .toEven (2 ^ 52) (-77) = ⟨29802322387695312, -24⟩ ∧
    Format.double.shortest .up (2 ^ 52) (-77) = ⟨29802322387695313, -24⟩ := by decide +kernel

end GraphGateway.Number
