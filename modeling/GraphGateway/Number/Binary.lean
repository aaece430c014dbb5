/-
Binary floating-point numbers as exact values.

A format says how many bits hold the fraction and the exponent. A number is a sign and a magnitude
word; the word names a multiple of a power of two, an infinity or no number at all. Everything is
computed in natural numbers: a magnitude is exact, and `Format.nearest` rounds a quotient of two
naturals once, to the nearest number of the format, a tie to the even one. So the product or the
quotient of two numbers is the exact result, rounded once.
-/
namespace GraphGateway.Number

/-- How a binary floating-point format lays out its magnitude word. -/
structure Format where
  fractionBits : Nat
  exponentBits : Nat
deriving DecidableEq, Repr

namespace Format

/-- Numbers of 64 bits. -/
def double : Format := ⟨52, 11⟩

/-- Numbers of 32 bits. -/
def single : Format := ⟨23, 8⟩

/-- The power of two that the last fraction bit of the smallest numbers stands for. -/
def minScale (f : Format) : Int := 2 - (1 <<< (f.exponentBits - 1) : Nat) - f.fractionBits

/-- The exponent field of the infinities and of what is no number. -/
def special (f : Format) : Nat := 1 <<< f.exponentBits - 1

/-- The magnitude word of the infinities, above those of all finite numbers. -/
def infinity (f : Format) : Nat := f.special <<< f.fractionBits

/-- The magnitude word of the value that is no number. -/
def notANumber (f : Format) : Nat := f.infinity + 1 <<< (f.fractionBits - 1)

end Format

/-- What a magnitude word stands for. -/
inductive Magnitude where
  | nan
  | infinite
  /-- The number `significand * 2 ^ scale`. -/
  | finite (significand : Nat) (scale : Int)
deriving DecidableEq, Repr

/-- The meaning of a magnitude word. -/
def Format.magnitude (f : Format) (word : Nat) : Magnitude :=
  let field := word >>> f.fractionBits
  let fraction := word % 1 <<< f.fractionBits
  if f.special ≤ field then (if fraction = 0 then .infinite else .nan)
  else if field = 0 then .finite fraction f.minScale
  else .finite (1 <<< f.fractionBits + fraction) (f.minScale + (field - 1 : Nat))

/-! ## Rounding -/

/-- The natural number nearest to a quotient, of two equally near the even one. -/
def divHalfEven (num den : Nat) : Nat :=
  let quotient := num / den
  let rest := num % den
  if 2 * rest < den then quotient
  else if den < 2 * rest then quotient + 1
  else quotient + quotient % 2

/-- The quotient `num / (den * 2 ^ scale)`, rounded. -/
def divScaled (num den : Nat) (scale : Int) : Nat :=
  divHalfEven (num <<< (-scale).toNat) (den <<< scale.toNat)

/-- The magnitude word of the number nearest to `num / den`, of two equally near the one with the
even last bit; a quotient half a step or more beyond the greatest number gives infinity. -/
def Format.nearest (f : Format) (num den : Nat) : Nat :=
  if num = 0 then 0
  else
    let guess : Int := (Nat.log2 num : Int) - Nat.log2 den - f.fractionBits
    let top := guess + f.fractionBits
    let reaches := den <<< top.toNat ≤ num <<< (-top).toNat
    let scale := max f.minScale (if reaches then guess else guess - 1)
    min f.infinity (divScaled num den scale + (scale - f.minScale).toNat <<< f.fractionBits)

/-! ## Signed numbers -/

/-- A floating-point number of a format. -/
structure Binary (f : Format) where
  negative : Bool
  word : Nat
deriving DecidableEq, Repr

abbrev Double := Binary .double

abbrev Single := Binary .single

namespace Binary

variable {f : Format}

def magnitude (x : Binary f) : Magnitude := f.magnitude x.word

/-- Neither infinite nor without a value. -/
def isFinite (x : Binary f) : Bool := x.word < f.infinity

/-- A finite number has a significand and a scale, and no other number has. -/
theorem isFinite_iff_exists {x : Binary f} :
    x.isFinite = true ↔ ∃ significand scale, x.magnitude = .finite significand scale := by
  have hfield : x.isFinite = true ↔ ¬f.special ≤ x.word >>> f.fractionBits := by
    rw [isFinite, decide_eq_true_iff, Format.infinity, Nat.shiftLeft_eq, Nat.shiftRight_eq_div_pow,
      Nat.le_div_iff_mul_le (Nat.two_pow_pos _), Nat.not_le]
  rw [hfield]
  unfold magnitude Format.magnitude
  by_cases hspecial : f.special ≤ x.word >>> f.fractionBits
  · by_cases hfraction : x.word % 1 <<< f.fractionBits = 0 <;> simp [hspecial, hfraction]
  · simp only [hspecial, if_false, not_false_iff, true_iff]
    split
    · exact ⟨_, _, rfl⟩
    · exact ⟨_, _, rfl⟩

def zero (negative : Bool) : Binary f := ⟨negative, 0⟩

/-- The number nearest to `num / den`, with a sign. -/
def ofRatio (negative : Bool) (num den : Nat) : Binary f := ⟨negative, f.nearest num den⟩

/-- The same value in the wider format. -/
def widen (x : Single) : Double :=
  match x.magnitude with
  | .nan => ⟨x.negative, Format.double.notANumber⟩
  | .infinite => ⟨x.negative, Format.double.infinity⟩
  | .finite m e => .ofRatio x.negative (m <<< e.toNat) (1 <<< (-e).toNat)

end Binary

/-- One is stored as the first number of its binade. -/
example : Format.double.nearest 1 1 = 0x3FF0000000000000 := by decide +kernel

/-- The least double is half of what rounds to twice it, and a third of it rounds to nothing. -/
example : Format.double.nearest 1 (2 ^ 1074) = 1 ∧ Format.double.nearest 1 (3 * 2 ^ 1074) = 0 := by
  decide +kernel

/-- The greatest double, and the quotient from which on rounding overflows. -/
example : Format.double.nearest (2 ^ 1024 - 2 ^ 970 - 1) 1 = 0x7FEFFFFFFFFFFFFF ∧
    Format.double.nearest (2 ^ 1024 - 2 ^ 970) 1 = Format.double.infinity := by decide +kernel

/-- The single-precision number nearest to a tenth. -/
example : Format.single.nearest 1 10 = 0x3DCCCCCD := by decide +kernel

end GraphGateway.Number
