/-
A number keeps its value in a wider format.

A magnitude word that is neither infinite nor without a value names `significand * 2 ^ scale`, so the
number is a rational (`Binary.value?`). Where the significand has no more bits than a format holds
and the scale is one that it has, rounding does nothing but fill the significand up with zeros
(`Format.magnitude_nearest`): the quotient that is rounded is a whole number, and its leading bit is
where the format wants it. Singles are such numbers to the format of doubles.
-/
import Mathlib.Algebra.Field.Rat
import Mathlib.Algebra.Order.Ring.Rat
import GraphGateway.Number.Binary

namespace GraphGateway.Number

/-! ## Whole quotients -/

theorem shiftLeft_ne_zero {m : Nat} (hm : m ≠ 0) (n : Nat) : m <<< n ≠ 0 := by
  rw [Nat.shiftLeft_eq]
  exact Nat.mul_ne_zero hm (Nat.two_pow_pos n).ne'

theorem log2_shiftLeft {m : Nat} (hm : m ≠ 0) (n : Nat) : (m <<< n).log2 = m.log2 + n := by
  induction n with
  | zero => rfl
  | succ n ih =>
    rw [Nat.shiftLeft_succ, Nat.log2_two_mul (shiftLeft_ne_zero hm n), ih, Nat.add_assoc]

/-- What divides without a rest is not rounded. -/
theorem divHalfEven_mul (q : Nat) {d : Nat} (hd : 0 < d) : divHalfEven (q * d) d = q := by
  simp [divHalfEven, Nat.mul_div_cancel _ hd, hd]

/-- A power of two under the quotient that goes into the dividend leaves a whole number. -/
theorem divScaled_shiftLeft (m : Nat) {a b : Nat} {scale : Int} {k : Nat}
    (h : (a : Int) - b = scale + k) : divScaled (m <<< a) (1 <<< b) scale = m <<< k := by
  have hbits : a + (-scale).toNat = k + (b + scale.toNat) := by omega
  have hnum : m <<< a <<< (-scale).toNat = m <<< k * 2 ^ (b + scale.toNat) := by
    rw [← Nat.shiftLeft_add, hbits, Nat.shiftLeft_add, Nat.shiftLeft_eq]
  have hden : 1 <<< b <<< scale.toNat = 2 ^ (b + scale.toNat) := by
    rw [← Nat.shiftLeft_add, Nat.one_shiftLeft]
  rw [divScaled, hnum, hden, divHalfEven_mul _ (Nat.two_pow_pos _)]

/-- With its leading bit in place, a significand is between two powers of two. -/
theorem shiftLeft_bounds {m bits : Nat} (hm : m ≠ 0) (hbits : m.log2 ≤ bits) :
    2 ^ bits ≤ m <<< (bits - m.log2) ∧ m <<< (bits - m.log2) < 2 ^ (bits + 1) := by
  have hne := shiftLeft_ne_zero hm (bits - m.log2)
  have hlog : (m <<< (bits - m.log2)).log2 = bits := by
    rw [log2_shiftLeft hm]
    omega
  exact ⟨(Nat.le_log2 hne).mp (Nat.le_of_eq hlog.symm),
    (Nat.log2_lt hne).mp (by omega)⟩

namespace Format

variable {f : Format}

/-- The word of a significand with its leading bit in place, so many steps above the smallest
scale. -/
theorem magnitude_word {q j : Nat} (hlow : 2 ^ f.fractionBits ≤ q)
    (hhigh : q < 2 ^ (f.fractionBits + 1)) (hj : j + 1 < f.special) :
    f.magnitude (q + j <<< f.fractionBits) = .finite q (f.minScale + j) := by
  have hpow : 2 ^ (f.fractionBits + 1) = 2 ^ f.fractionBits + 2 ^ f.fractionBits := by
    rw [Nat.pow_succ, Nat.mul_two]
  obtain ⟨fraction, rfl⟩ := Nat.exists_eq_add_of_le hlow
  have hfraction : fraction < 2 ^ f.fractionBits := by omega
  have hword : 2 ^ f.fractionBits + fraction + j <<< f.fractionBits =
      fraction + (j + 1) * 2 ^ f.fractionBits := by
    rw [Nat.shiftLeft_eq, Nat.succ_mul]
    omega
  have hfield : (fraction + (j + 1) * 2 ^ f.fractionBits) >>> f.fractionBits = j + 1 := by
    rw [Nat.shiftRight_eq_div_pow, Nat.add_mul_div_right _ _ (Nat.two_pow_pos _),
      Nat.div_eq_of_lt hfraction, Nat.zero_add]
  have hrest : (fraction + (j + 1) * 2 ^ f.fractionBits) % 2 ^ f.fractionBits = fraction := by
    rw [Nat.add_mul_mod_self_right, Nat.mod_eq_of_lt hfraction]
  have hspecial : ¬f.special ≤ j + 1 := Nat.not_le.mpr hj
  rw [hword]
  simp only [magnitude, hfield, Nat.one_shiftLeft, hrest, hspecial, if_false, Nat.succ_ne_zero,
    Nat.add_sub_cancel]

/-- A number that fits the format is not rounded: its significand is filled up with zeros. -/
theorem magnitude_nearest {m : Nat} {e : Int} (hm : m ≠ 0) (hbits : m.log2 ≤ f.fractionBits)
    (hlow : f.minScale ≤ e - (f.fractionBits - m.log2 : Nat))
    (hhigh : e - (f.fractionBits - m.log2 : Nat) - f.minScale + 1 < f.special) :
    f.magnitude (f.nearest (m <<< e.toNat) (1 <<< (-e).toNat)) =
      .finite (m <<< (f.fractionBits - m.log2)) (e - (f.fractionBits - m.log2 : Nat)) := by
  obtain ⟨k, hk⟩ : ∃ k, k = f.fractionBits - m.log2 := ⟨_, rfl⟩
  obtain ⟨j, hj⟩ : ∃ j : Nat, j = (e - k - f.minScale).toNat := ⟨_, rfl⟩
  obtain ⟨hleading, hnext⟩ := shiftLeft_bounds hm hbits
  rw [← hk] at hlow hhigh hleading hnext ⊢
  have hnum := shiftLeft_ne_zero hm e.toNat
  have hden : (1 <<< (-e).toNat).log2 = (-e).toNat := by rw [Nat.one_shiftLeft, Nat.log2_two_pow]
  -- the quotient has its leading bit where that of the significand is, moved by the scale
  have hguess : (((m <<< e.toNat).log2 : Int) - (1 <<< (-e).toNat).log2 - f.fractionBits) =
      e - k := by
    rw [log2_shiftLeft hm, hden]
    omega
  have htop : e - k + f.fractionBits = m.log2 + e := by omega
  have hreaches : 1 <<< (-e).toNat <<< (m.log2 + e).toNat ≤
      m <<< e.toNat <<< (-(m.log2 + e)).toNat := by
    have hshift : (-e).toNat + (m.log2 + e).toNat =
        m.log2 + (e.toNat + (-(m.log2 + e)).toNat) := by omega
    rw [← Nat.shiftLeft_add, ← Nat.shiftLeft_add, hshift, Nat.one_shiftLeft, Nat.shiftLeft_eq,
      Nat.pow_add]
    exact Nat.mul_le_mul_right _ (Nat.log2_self_le hm)
  have hquotient : divScaled (m <<< e.toNat) (1 <<< (-e).toNat) (e - k) = m <<< k :=
    divScaled_shiftLeft m (by omega)
  have hsteps : j + 1 < f.special := by omega
  have hfinite : m <<< k + j <<< f.fractionBits ≤ f.infinity := by
    have hroom : (j + 2) * 2 ^ f.fractionBits ≤ f.special * 2 ^ f.fractionBits :=
      Nat.mul_le_mul_right _ hsteps
    rw [infinity, Nat.shiftLeft_eq _ f.fractionBits, Nat.shiftLeft_eq _ f.fractionBits]
    rw [Nat.pow_succ, Nat.mul_two] at hnext
    rw [Nat.add_mul] at hroom
    omega
  have hscale : e - k = f.minScale + j := by omega
  unfold nearest
  simp only [hnum, if_false, hguess, htop, hreaches, if_true, Int.max_eq_right hlow, hquotient,
    ← hj, Nat.min_eq_right hfinite]
  rw [magnitude_word hleading hnext hsteps, hscale]

end Format

/-! ## Singles as doubles -/

namespace Binary

variable {f : Format}

/-- The number itself, unless it is infinite or none at all. -/
def value? (x : Binary f) : Option ℚ :=
  match x.magnitude with
  | .finite significand scale =>
    some ((if x.negative then -1 else 1) * (significand * (2 : ℚ) ^ scale))
  | _ => none

theorem isSome_value?_iff {x : Binary f} : x.value?.isSome ↔ x.isFinite = true := by
  rw [isFinite_iff_exists]
  unfold value?
  cases x.magnitude <;> simp

/-- The significands and scales of singles. -/
theorem single_bounds {x : Single} {m : Nat} {e : Int} (h : x.magnitude = .finite m e) :
    m < 2 ^ 24 ∧ -149 ≤ e ∧ e ≤ 104 := by
  have hfraction : x.word % 2 ^ 23 < 2 ^ 23 := Nat.mod_lt _ (by decide)
  have hlow : Format.single.minScale = -149 := by decide
  have hspecial : Format.single.special = 255 := by decide
  have hbits : Format.single.fractionBits = 23 := rfl
  unfold magnitude Format.magnitude at h
  simp only [hlow, hspecial, hbits, Nat.one_shiftLeft] at h
  split at h
  · split at h <;> cases h
  · split at h
    · cases h
      omega
    · cases h
      omega

@[simp] theorem widen_negative (x : Single) : x.widen.negative = x.negative := by
  unfold widen
  split <;> rfl

theorem magnitude_widen_of_nan {x : Single} (h : x.magnitude = .nan) : x.widen.magnitude = .nan := by
  have hword : Format.double.magnitude Format.double.notANumber = .nan := by decide
  rw [widen, h]
  exact hword

theorem magnitude_widen_of_infinite {x : Single} (h : x.magnitude = .infinite) :
    x.widen.magnitude = .infinite := by
  have hword : Format.double.magnitude Format.double.infinity = .infinite := by decide
  rw [widen, h]
  exact hword

/-- Filling a significand up with zeros changes no value. -/
theorem shiftLeft_mul_zpow (m k : Nat) (e : Int) :
    ((m <<< k : Nat) : ℚ) * (2 : ℚ) ^ (e - k) = m * (2 : ℚ) ^ e := by
  have hsplit : (k : Int) + (e - k) = e := by omega
  rw [Nat.shiftLeft_eq, Nat.cast_mul, Nat.cast_pow, Nat.cast_ofNat, mul_assoc, ← zpow_natCast,
    ← zpow_add₀ two_ne_zero, hsplit]

/-- **A single is the same number as a double.** -/
theorem widen_value? (x : Single) : x.widen.value? = x.value? := by
  unfold value?
  rw [widen_negative]
  cases hx : x.magnitude with
  | nan => rw [magnitude_widen_of_nan hx]
  | infinite => rw [magnitude_widen_of_infinite hx]
  | finite m e =>
    obtain ⟨hm, hlow, hhigh⟩ := single_bounds hx
    have hwiden : x.widen.magnitude =
        Format.double.magnitude (Format.double.nearest (m <<< e.toNat) (1 <<< (-e).toNat)) := by
      rw [widen, hx]
      rfl
    by_cases hzero : m = 0
    · subst hzero
      have hword : Format.double.nearest (0 <<< e.toNat) (1 <<< (-e).toNat) = 0 :=
        if_pos (Nat.zero_shiftLeft _)
      have hmagnitude : Format.double.magnitude 0 = .finite 0 (-1074) := by decide
      simp only [hwiden, hword, hmagnitude, Nat.cast_zero, zero_mul]
    · have hlog : m.log2 < 24 := (Nat.log2_lt hzero).mpr hm
      have hbits : Format.double.fractionBits = 52 := rfl
      have hleast : Format.double.minScale = -1074 := by decide
      have hspecial : Format.double.special = 2047 := by decide
      have hmagnitude := Format.magnitude_nearest (f := .double) (e := e) hzero (by omega)
        (by omega) (by omega)
      simp only [hwiden, hmagnitude, shiftLeft_mul_zpow]

@[simp] theorem widen_isFinite (x : Single) : x.widen.isFinite = x.isFinite := by
  rw [Bool.eq_iff_iff, ← isSome_value?_iff, ← isSome_value?_iff, widen_value?]

end Binary

end GraphGateway.Number
