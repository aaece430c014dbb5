/-
Numbers as tokens.

The text of every number is one of the grammar of JSON: a sign if it is negative, whole digits
without a leading zero, then perhaps a fraction, then perhaps an exponent (`IsUnsigned`). Of an
integer the digits tell the value; a double always shows a point or an exponent, so that it is never
taken for an integer. That the digits of a double do not start with a zero needs that its shortest
decimal is not zero, which holds because zero is not among the reals that round to it.
-/
import GraphGateway.Proofs.Json.ReadBack

namespace GraphGateway

/-! ## Digits -/

namespace Number

theorem isDigit_of_mem_digitChars {n : Nat} {c : Char} (h : c ∈ digitChars n) :
    c.isDigit = true :=
  Nat.isDigit_of_mem_toDigits (by decide) (by decide) h

theorem digitChars_ne_nil (n : Nat) : digitChars n ≠ [] := Nat.toDigits_ne_nil

/-- No leading zero. -/
theorem head?_digitChars {n : Nat} (h : n ≠ 0) : (digitChars n).head? ≠ some '0' := by
  induction n using Nat.strongRecOn with
  | ind n ih =>
    rw [digitChars, Nat.toDigits_eq_if (by decide)]
    split
    · next hlt =>
      have hdigit : ∀ m < 10, m ≠ 0 → Nat.digitChar m ≠ '0' := by decide
      simpa using hdigit n hlt h
    · next hge =>
      have hsmaller := ih (n / 10) (by omega) (by omega)
      obtain ⟨c, cs, hcs⟩ := List.exists_cons_of_ne_nil (digitChars_ne_nil (n / 10))
      rw [hcs] at hsmaller
      rw [show Nat.toDigits 10 (n / 10) = c :: cs from hcs]
      exact hsmaller

theorem valueOfDigits_digitChars (n : Nat) : valueOfDigits (digitChars n) = n := by
  have hstep : (fun (n : Nat) c => n * 10 + digitValue c) =
      fun n c => 10 * n + (c.toNat - '0'.toNat) := by
    funext n c
    rw [Nat.mul_comm, digitValue]
  have hvalue := Nat.ofDigitChars_ten_toDigits (n := n)
  rw [Nat.ofDigitChars] at hvalue
  rw [valueOfDigits, hstep]
  exact hvalue

theorem natOfText?_digitChars (n : Nat) : natOfText? (digitChars n) = some n := by
  have hall : (digitChars n).all Char.isDigit = true :=
    List.all_eq_true.mpr fun c hc => isDigit_of_mem_digitChars hc
  rw [natOfText?, if_pos ⟨digitChars_ne_nil n, hall⟩, valueOfDigits_digitChars]

/-- Without a sign in front, text is read as a natural number. -/
theorem intOfText?_of_digit {c : Char} (h : c.isDigit = true) (cs : List Char) :
    intOfText? (c :: cs) = (natOfText? (c :: cs)).map fun n => (n : Int) := by
  unfold intOfText?
  split
  · next heq =>
    cases heq
    cases h
  · next heq =>
    cases heq
    cases h
  · rfl

/-- The text of an integer tells its value. -/
theorem intOfText?_intText (n : Int) : intOfText? (intText n) = some n := by
  unfold intText
  by_cases h : n < 0
  · have hvalue : -(n.natAbs : Int) = n := by omega
    rw [if_pos h, List.singleton_append, intOfText?, natOfText?_digitChars]
    exact congrArg some hvalue
  · rw [if_neg h, List.nil_append]
    obtain ⟨c, cs, hcs⟩ := List.exists_cons_of_ne_nil (digitChars_ne_nil n.natAbs)
    have hc : c.isDigit = true := isDigit_of_mem_digitChars (n := n.natAbs) (by rw [hcs]; simp)
    have hvalue : (n.natAbs : Int) = n := by omega
    rw [hcs, intOfText?_of_digit hc, ← hcs, natOfText?_digitChars]
    exact congrArg some hvalue

end Number

/-! ## The shortest decimal of a number -/

namespace Number

/-- Dropping trailing zeros leaves something of what is not zero. -/
theorem Decimal.digits_stripZeros (fuel : Nat) {d : Decimal} (h : d.digits ≠ 0) :
    (stripZeros fuel d).digits ≠ 0 := by
  induction fuel generalizing d with
  | zero => exact h
  | succ fuel ih =>
    rw [stripZeros]
    split
    · next hzero =>
      refine ih ?_
      show d.digits / 10 ≠ 0
      omega
    · exact h

namespace Rounded

/-- Zero does not round to a positive magnitude. -/
theorem digits_of_readsBack {x : Rounded} {d : Decimal} (hlow : 0 < x.low)
    (h : x.readsBack d = true) : d.digits ≠ 0 := by
  intro hzero
  have hpos : 0 < (x.low * tenPow (-d.exponent).toNat) <<< x.scale.toNat := by
    rw [Nat.shiftLeft_eq]
    exact Nat.mul_pos (Nat.mul_pos hlow (Nat.pow_pos (by decide))) (Nat.pow_pos (by decide))
  have hbelow : x.compareTo d x.low = .lt := by
    rw [compareTo, hzero, Nat.zero_mul, Nat.zero_shiftLeft, Nat.compare_eq_lt]
    exact hpos
  rw [readsBack, hbelow] at h
  cases h

theorem digits_of_onGrid {x : Rounded} (hlow : 0 < x.low) {tie : Tie} {exponent : Int} {d : Decimal}
    (h : x.onGrid tie exponent = some d) : d.digits ≠ 0 := by
  have hbelow := digits_of_readsBack (d := ⟨x.floorAt exponent, exponent⟩) hlow
  have habove : x.floorAt exponent + 1 ≠ 0 := by omega
  unfold onGrid at h
  simp only at h
  split at h
  · next hreads _ => cases h; exact hbelow hreads
  · cases h; exact habove
  · cases h
  · next hreads _ =>
    split at h
    · cases h; exact habove
    · cases h; exact hbelow hreads
    · cases tie with
      | up => cases h; exact habove
      | toEven =>
        simp only at h
        split at h
        · cases h; exact hbelow hreads
        · cases h; exact habove

theorem digits_shortest {x : Rounded} (hlow : 0 < x.low) (hsig : 0 < x.significand) (tie : Tie) :
    (x.shortest tie).digits ≠ 0 := by
  have hexact : x.exact.digits ≠ 0 := by
    have hpos : 0 < x.exact.digits := by
      rw [exact, Nat.shiftLeft_eq]
      exact Nat.mul_pos (Nat.mul_pos (by omega) (Nat.pow_pos (by decide))) (Nat.pow_pos (by decide))
    omega
  refine Decimal.digits_stripZeros 20 ?_
  cases hfound : (List.range 17).findSome? fun n =>
      x.onGrid tie (x.magnitudeExponent - (n + 1 : Nat)) with
  | none => exact hexact
  | some d =>
    obtain ⟨n, -, hgrid⟩ := List.exists_of_findSome?_eq_some hfound
    exact digits_of_onGrid hlow hgrid

end Rounded

/-- The shortest decimal of a magnitude is zero only for zero, and then it is zero itself. -/
theorem Format.shortest_cases (f : Format) (tie : Tie) (significand : Nat) (scale : Int) :
    f.shortest tie significand scale = ⟨0, 0⟩ ∨ (f.shortest tie significand scale).digits ≠ 0 := by
  unfold shortest
  split
  · exact .inl rfl
  · next h =>
    refine .inr (Rounded.digits_shortest ?_ ?_ tie)
    · unfold rounded
      simp only
      split <;> omega
    · show 0 < significand
      omega

end Number

/-! ## The grammar of numbers -/

namespace Json

/-- A row of at least one digit. -/
def IsDigits (cs : List Char) : Prop := cs ≠ [] ∧ ∀ c ∈ cs, c.isDigit = true

/-- Whole digits: a zero in front stands alone. -/
def IsWhole (cs : List Char) : Prop := cs = ['0'] ∨ IsDigits cs ∧ cs.head? ≠ some '0'

/-- A number without its sign that shows a point or an exponent. -/
inductive IsDecimal : List Char → Prop where
  | fraction {whole places : List Char} : IsWhole whole → IsDigits places →
    IsDecimal (whole ++ '.' :: places)
  | exponent {whole digits : List Char} {sign : Char} : IsWhole whole → sign = '+' ∨ sign = '-' →
    IsDigits digits → IsDecimal (whole ++ 'e' :: sign :: digits)
  | scientific {whole places digits : List Char} {sign : Char} : IsWhole whole → IsDigits places →
    sign = '+' ∨ sign = '-' → IsDigits digits →
    IsDecimal (whole ++ '.' :: (places ++ 'e' :: sign :: digits))

/-- A number without its sign. -/
def IsUnsigned (cs : List Char) : Prop := IsWhole cs ∨ IsDecimal cs

/-- What does not begin with a digit. -/
def Stops (rest : List Char) : Prop := ∀ c, rest.head? = some c → c.isDigit = false

theorem stops_cons {c : Char} (h : c.isDigit = false) (rest : List Char) : Stops (c :: rest) := by
  intro d hd
  cases hd
  exact h

theorem isDigit_of_isSpace {c : Char} (h : isSpace c = true) : c.isDigit = false := by
  simp only [isSpace, Bool.or_eq_true, beq_iff_eq] at h
  rcases h with ((rfl | rfl) | rfl) | rfl <;> rfl

theorem Ends.stops {rest : List Char} (h : Ends rest) : Stops rest := by
  intro c hc
  rcases h c hc with hspace | rfl | rfl | rfl
  · exact isDigit_of_isSpace hspace
  · rfl
  · rfl
  · rfl

theorem IsWhole.isDigits {cs : List Char} (h : IsWhole cs) : IsDigits cs := by
  rcases h with rfl | ⟨hdigits, -⟩
  · exact ⟨List.cons_ne_nil _ _, by simp⟩
  · exact hdigits

/-! ## Passing over numbers -/

section Skip

variable {rest : List Char}

theorem dropWhile_of_stops (h : Stops rest) : rest.dropWhile Char.isDigit = rest := by
  cases rest with
  | nil => rfl
  | cons c rest => simp [h c rfl]

theorem spanDigits_append {cs : List Char} (hcs : ∀ c ∈ cs, c.isDigit = true) (h : Stops rest) :
    spanDigits (cs ++ rest) = (cs, rest) := by
  have htake : rest.takeWhile Char.isDigit = [] := by
    cases rest with
    | nil => rfl
    | cons c rest => simp [h c rfl]
  rw [spanDigits, List.takeWhile_append_of_pos hcs, List.dropWhile_append_of_pos hcs, htake,
    dropWhile_of_stops h, List.append_nil]

theorem skipNumeral_whole {whole : List Char} (hw : IsWhole whole) (h : Stops rest) :
    skipNumeral (whole ++ rest) = skipAfterWhole rest := by
  rcases hw with rfl | ⟨⟨hne, hdigits⟩, hzero⟩
  · cases rest with
    | nil => rfl
    | cons c rest =>
      rw [List.singleton_append, skipNumeral, if_pos rfl]
      simp only [h c rfl]
      rfl
  · obtain ⟨c, cs, rfl⟩ := List.exists_cons_of_ne_nil hne
    have hc : c ≠ '0' := fun h => hzero (by rw [h]; rfl)
    have hcs : ∀ d ∈ cs, d.isDigit = true := fun d hd => hdigits d (List.mem_cons_of_mem c hd)
    unfold skipNumeral
    simp only [List.cons_append, hc, hdigits c List.mem_cons_self, if_false, if_true]
    rw [List.dropWhile_append_of_pos hcs, dropWhile_of_stops h]

theorem skipAfterWhole_point {places : List Char} (hp : IsDigits places) (h : Stops rest) :
    skipAfterWhole ('.' :: (places ++ rest)) = skipAfterDigits rest := by
  obtain ⟨c, cs, rfl⟩ := List.exists_cons_of_ne_nil hp.1
  rw [skipAfterWhole, spanDigits_append hp.2 h]

theorem skipAfterDigits_of_ends (h : Ends rest) : skipAfterDigits rest = .ok rest := by
  unfold skipAfterDigits
  split
  · exact absurd (h _ rfl) (by decide)
  · exact absurd (h _ rfl) (by decide)
  · rfl

theorem skipAfterWhole_of_ends (h : Ends rest) : skipAfterWhole rest = .ok rest := by
  unfold skipAfterWhole
  split
  · exact absurd (h _ rfl) (by decide)
  · exact skipAfterDigits_of_ends h

end Skip

/-! ## The texts of numbers -/

theorem isDigits_digitChars (n : Nat) : IsDigits (Number.digitChars n) :=
  ⟨Number.digitChars_ne_nil n, fun _ hc => Number.isDigit_of_mem_digitChars hc⟩

theorem isWhole_digitChars (n : Nat) : IsWhole (Number.digitChars n) := by
  by_cases h : n = 0
  · subst h
    exact .inl rfl
  · exact .inr ⟨isDigits_digitChars n, Number.head?_digitChars h⟩

theorem isDecimal_scientificText {d : Number.Decimal} (h : d.digits ≠ 0) :
    IsDecimal d.scientificText := by
  have hhead := Number.head?_digitChars h
  obtain ⟨c, cs, hcs⟩ := List.exists_cons_of_ne_nil (Number.digitChars_ne_nil d.digits)
  have hdigits := isDigits_digitChars d.digits
  rw [hcs] at hhead hdigits
  have hwhole : IsWhole [c] := by
    refine .inr ⟨⟨List.cons_ne_nil c [], fun a ha => ?_⟩, hhead⟩
    rw [List.mem_singleton.mp ha]
    exact hdigits.2 c List.mem_cons_self
  have hsign (e : Int) :
      (if e < 0 then '-' else '+') = '+' ∨ (if e < 0 then '-' else '+') = '-' := by
    split
    · exact .inr rfl
    · exact .inl rfl
  unfold Number.Decimal.scientificText
  simp only [hcs]
  by_cases hone : cs = []
  · subst hone
    exact .exponent hwhole (hsign _) (isDigits_digitChars _)
  · have hlong : ¬(c :: cs).length ≤ 1 := by
      have := List.length_pos_iff.mpr hone
      rw [List.length_cons]
      omega
    have hplaces : IsDigits cs := ⟨hone, fun a ha => hdigits.2 a (List.mem_cons_of_mem c ha)⟩
    simp only [hlong, if_false]
    simpa using IsDecimal.scientific hwhole hplaces (hsign _) (isDigits_digitChars _)

theorem isDigit_of_mem_zeros {n : Nat} {c : Char} (h : c ∈ List.replicate n '0') :
    c.isDigit = true := by
  rw [List.eq_of_mem_replicate h]
  rfl

/-- What stands in front of the point: the front of the digits, or a zero if there are too few. -/
theorem isWhole_take {digits : List Char} (hd : IsDigits digits) (hzero : digits.head? ≠ some '0')
    (places : Nat) :
    let padded := List.replicate (places + 1 - digits.length) '0' ++ digits
    IsWhole (padded.take (padded.length - places)) := by
  intro padded
  obtain ⟨c, cs, rfl⟩ := List.exists_cons_of_ne_nil hd.1
  by_cases hlong : places < (c :: cs).length
  · have hpad : padded = c :: cs := by
      simp only [padded, show places + 1 - (c :: cs).length = 0 by omega, List.replicate_zero,
        List.nil_append]
    rw [hpad]
    obtain ⟨n, hn⟩ : ∃ n, (c :: cs).length - places = n + 1 :=
      ⟨(c :: cs).length - places - 1, by omega⟩
    rw [hn, List.take_succ_cons]
    refine .inr ⟨⟨List.cons_ne_nil _ _, fun a ha => ?_⟩, hzero⟩
    rw [← List.take_succ_cons] at ha
    exact hd.2 a (List.mem_of_mem_take ha)
  · obtain ⟨n, hn⟩ : ∃ n, places + 1 - (c :: cs).length = n + 1 :=
      ⟨places - (c :: cs).length, by omega⟩
    have hlength : padded.length - places = 1 := by
      simp only [padded, List.length_append, List.length_replicate]
      omega
    have hpad : padded = '0' :: (List.replicate n '0' ++ c :: cs) := by
      simp only [padded, hn, List.replicate_succ, List.cons_append]
    rw [hlength, hpad]
    exact .inl rfl

theorem isDecimal_positionalText {d : Number.Decimal} (h : d = ⟨0, 0⟩ ∨ d.digits ≠ 0) :
    IsDecimal (d.positionalText true) := by
  have hdigits := isDigits_digitChars d.digits
  unfold Number.Decimal.positionalText
  simp only
  split
  · have hwhole : IsWhole (Number.digitChars d.digits ++ List.replicate d.exponent.toNat '0') := by
      rcases h with rfl | hne
      · exact .inl rfl
      · refine .inr ⟨⟨by simp [hdigits.1], fun c hc => ?_⟩, ?_⟩
        · rcases List.mem_append.mp hc with hc | hc
          · exact hdigits.2 c hc
          · exact isDigit_of_mem_zeros hc
        · obtain ⟨c, cs, hcs⟩ := List.exists_cons_of_ne_nil hdigits.1
          have hhead := Number.head?_digitChars hne
          rw [hcs] at hhead ⊢
          exact hhead
    exact .fraction hwhole ⟨List.cons_ne_nil _ _, by simp⟩
  · next hexp =>
    have hne : d.digits ≠ 0 := by
      rcases h with rfl | hne
      · exact absurd (Int.le_refl 0) hexp
      · exact hne
    have hwhole := isWhole_take hdigits (Number.head?_digitChars hne) (-d.exponent).toNat
    simp only at hwhole
    generalize hpadded :
      List.replicate ((-d.exponent).toNat + 1 - (Number.digitChars d.digits).length) '0' ++
        Number.digitChars d.digits = padded at hwhole ⊢
    have hall : ∀ c ∈ padded, c.isDigit = true := by
      rw [← hpadded]
      intro c hc
      rcases List.mem_append.mp hc with hc | hc
      · exact isDigit_of_mem_zeros hc
      · exact hdigits.2 c hc
    have hlength : (-d.exponent).toNat < padded.length := by
      rw [← hpadded, List.length_append, List.length_replicate]
      have := List.length_pos_iff.mpr hdigits.1
      omega
    have hplaces : IsDigits (padded.drop (padded.length - (-d.exponent).toNat)) := by
      refine ⟨List.ne_nil_of_length_pos ?_, fun c hc => hall c (List.mem_of_mem_drop hc)⟩
      rw [List.length_drop]
      omega
    rw [List.append_assoc]
    exact .fraction hwhole hplaces

theorem isDecimal_decimalText {d : Number.Decimal} (h : d = ⟨0, 0⟩ ∨ d.digits ≠ 0) :
    IsDecimal (Number.Layout.json.decimalText d) := by
  unfold Number.Layout.decimalText
  split
  · exact isDecimal_positionalText h
  · next hrange =>
    rcases h with rfl | hne
    · exact absurd rfl hrange
    · exact isDecimal_scientificText hne

/-- The text of a finite double is a sign, if it is negative, and a number that shows a point or an
exponent. -/
theorem text_of_isFinite {x : Number.Double} (h : x.isFinite = true) :
    ∃ token, IsDecimal token ∧
      Number.Layout.json.text x = (if x.negative then ['-'] else []) ++ token := by
  obtain ⟨significand, scale, hx⟩ := Number.Binary.isFinite_iff_exists.mp h
  have hshortest := Number.Format.shortest_cases .double Number.Layout.json.tie significand scale
  refine ⟨_, isDecimal_decimalText hshortest, ?_⟩
  unfold Number.Layout.text
  rw [hx]

theorem IsWhole.exists_digit {cs : List Char} (h : IsWhole cs) :
    ∃ c tail, cs = c :: tail ∧ c.isDigit = true := by
  obtain ⟨c, tail, rfl⟩ := List.exists_cons_of_ne_nil h.isDigits.1
  exact ⟨c, tail, rfl, h.isDigits.2 c List.mem_cons_self⟩

theorem IsDecimal.exists_digit {token : List Char} (h : IsDecimal token) :
    ∃ c tail, token = c :: tail ∧ c.isDigit = true := by
  cases h with
  | fraction hw | exponent hw | scientific hw =>
    obtain ⟨c, tail, rfl, hc⟩ := hw.exists_digit
    exact ⟨c, _, rfl, hc⟩

theorem IsUnsigned.exists_digit {token : List Char} (h : IsUnsigned token) :
    ∃ c tail, token = c :: tail ∧ c.isDigit = true := by
  rcases h with hwhole | hdecimal
  · exact hwhole.exists_digit
  · exact hdecimal.exists_digit

/-- A point or an exponent is no digit. -/
theorem IsDecimal.natOfText?_eq_none {token : List Char} (h : IsDecimal token) :
    Number.natOfText? token = none := by
  refine if_neg fun hdigits => ?_
  have hall := List.all_eq_true.mp hdigits.2
  cases h with
  | fraction | scientific => exact absurd (hall '.' (by simp)) (by decide)
  | exponent => exact absurd (hall 'e' (by simp)) (by decide)

/-- A number is written as digits behind a sign, if it is negative. -/
theorem numeralText_cases {n : Numeral} (h : ∀ x, n = .double x → x.isFinite = true) :
    ∃ sign token, numeralText n = sign ++ token ∧ (sign = [] ∨ sign = ['-']) ∧
      IsUnsigned token := by
  have hsign (negative : Prop) [Decidable negative] :
      (if negative then ['-'] else []) = [] ∨ (if negative then ['-'] else []) = ['-'] := by
    split
    · exact .inr rfl
    · exact .inl rfl
  cases n with
  | int m => exact ⟨_, _, rfl, hsign _, .inl (isWhole_digitChars m.natAbs)⟩
  | double x =>
    obtain ⟨token, htoken, htext⟩ := text_of_isFinite (h x rfl)
    exact ⟨_, token, htext, hsign _, .inr htoken⟩

end Json

end GraphGateway
