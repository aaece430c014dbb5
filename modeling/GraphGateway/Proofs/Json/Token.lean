/-
The grammar of the numbers of JSON, and that what is read or passed over as a number is one.

Numbers are told as they are written (`IsMagnitude`). Every number of the grammar is passed over. Its
value depends on its characters alone: what is read off one text is read off every other that goes on
with what ends a number (`ReadsOff`).
-/
import Mathlib.Data.List.TakeWhile
import GraphGateway.Json.Reader
import GraphGateway.Proofs.Json.Numeral

namespace GraphGateway

theorem bind_eq_ok_iff {ε α β : Type} {x : Except ε α} {f : α → Except ε β} {b : β} :
    x >>= f = .ok b ↔ ∃ a, x = .ok a ∧ f a = .ok b := by
  cases x with
  | error fault => exact ⟨(nomatch ·), fun ⟨_, h, _⟩ => nomatch h⟩
  | ok a => exact ⟨fun h => ⟨a, rfl, h⟩, fun ⟨_, rfl, h⟩ => h⟩

theorem map_eq_ok_iff {ε α β : Type} {x : Except ε α} {f : α → β} {b : β} :
    x.map f = .ok b ↔ ∃ a, x = .ok a ∧ f a = b := by
  cases x with
  | error fault => exact ⟨(nomatch ·), fun ⟨_, h, _⟩ => nomatch h⟩
  | ok a => simp [Except.map]

namespace Json

/-! ## Blanks and literals -/

/-- Blanks stand at the front of a text, and `rest` behind them. -/
inductive Gap : List Char → List Char → Prop where
  | nil (rest : List Char) : Gap rest rest
  | cons {c : Char} {input rest : List Char} (hc : isSpace c = true) (h : Gap input rest) :
    Gap (c :: input) rest

theorem Gap.trans {input behind rest : List Char} (h : Gap input behind) (h' : Gap behind rest) :
    Gap input rest := by
  induction h with
  | nil => exact h'
  | cons hc _ ih => exact .cons hc (ih h')

theorem Gap.subset {input rest : List Char} (h : Gap input rest) : rest ⊆ input := by
  induction h with
  | nil rest => exact List.Subset.refl rest
  | cons _ _ ih => exact List.subset_cons_of_subset _ ih

theorem Gap.eq_of_head {c : Char} {input rest : List Char} (h : Gap (c :: input) rest)
    (hc : isSpace c = false) : rest = c :: input := by
  cases h with
  | nil => rfl
  | cons hspace => exact absurd hspace (by simp [hc])

theorem gap_skipSpace (input : List Char) : Gap input (skipSpace input) := by
  induction input with
  | nil => exact .nil []
  | cons c input ih =>
    cases hc : isSpace c with
    | true =>
      rw [skipSpace, List.dropWhile_cons_of_pos hc]
      exact .cons hc ih
    | false =>
      rw [skipSpace_cons hc]
      exact .nil _

theorem gap_of_skipSpace {input rest : List Char} (h : skipSpace input = rest) : Gap input rest :=
  h ▸ gap_skipSpace input

theorem readLetters_sound {letters input rest : List Char}
    (h : readLetters letters input = .ok rest) : input = letters ++ rest := by
  induction letters generalizing input with
  | nil => exact Except.ok.inj h
  | cons letter letters ih =>
    cases input with
    | nil => cases h
    | cons c input =>
      rw [readLetters] at h
      split at h
      · next heq => rw [heq, ih h, List.cons_append]
      · cases h

/-! ## Numbers -/

/-- The part of a number behind its whole digits up to its exponent: a point and digits, or nothing. -/
def IsFraction (cs : List Char) : Prop := cs = [] ∨ ∃ digits, IsDigits digits ∧ cs = '.' :: digits

/-- The exponent of a number, or nothing. -/
def IsExponent (cs : List Char) : Prop :=
  cs = [] ∨ ∃ letter sign digits, (letter = 'e' ∨ letter = 'E') ∧
    (sign = [] ∨ sign = ['+'] ∨ sign = ['-']) ∧ IsDigits digits ∧ cs = letter :: (sign ++ digits)

/-- A number behind its sign. -/
inductive IsMagnitude : List Char → Prop where
  | mk {whole fraction exponent : List Char} (hwhole : IsWhole whole)
    (hfraction : IsFraction fraction) (hexponent : IsExponent exponent) :
    IsMagnitude (whole ++ (fraction ++ exponent))

/-- The sign and the digits of an exponent. -/
def IsSigned (cs : List Char) : Prop :=
  ∃ sign digits, (sign = [] ∨ sign = ['+'] ∨ sign = ['-']) ∧ IsDigits digits ∧ cs = sign ++ digits

/-- What may follow the whole digits. -/
def IsTail (cs : List Char) : Prop :=
  ∃ fraction exponent, IsFraction fraction ∧ IsExponent exponent ∧ cs = fraction ++ exponent

theorem IsSigned.isExponent {letter : Char} (hletter : letter = 'e' ∨ letter = 'E')
    {cs : List Char} (h : IsSigned cs) : IsExponent (letter :: cs) := by
  obtain ⟨sign, digits, hsign, hdigits, rfl⟩ := h
  exact .inr ⟨_, _, _, hletter, hsign, hdigits, rfl⟩

theorem IsExponent.isTail {cs : List Char} (h : IsExponent cs) : IsTail cs :=
  ⟨[], cs, .inl rfl, h, rfl⟩

theorem IsExponent.isTail_point {digits cs : List Char} (hdigits : IsDigits digits)
    (h : IsExponent cs) : IsTail ('.' :: (digits ++ cs)) :=
  ⟨'.' :: digits, cs, .inr ⟨digits, hdigits, rfl⟩, h, rfl⟩

theorem IsTail.isMagnitude {whole cs : List Char} (hwhole : IsWhole whole) (h : IsTail cs) :
    IsMagnitude (whole ++ cs) := by
  obtain ⟨fraction, exponent, hfraction, hexponent, rfl⟩ := h
  exact .mk hwhole hfraction hexponent

theorem IsExponent.stops {cs rest : List Char} (h : IsExponent cs) (hrest : Stops rest) :
    Stops (cs ++ rest) := by
  rcases h with rfl | ⟨letter, sign, digits, rfl | rfl, -, -, rfl⟩
  · exact hrest
  · exact stops_cons rfl _
  · exact stops_cons rfl _

theorem IsTail.stops {cs rest : List Char} (h : IsTail cs) (hrest : Stops rest) :
    Stops (cs ++ rest) := by
  obtain ⟨fraction, exponent, rfl | ⟨digits, -, rfl⟩, hexponent, rfl⟩ := h
  · exact hexponent.stops hrest
  · exact stops_cons rfl _

/-- The numbers that are written are of the grammar. -/
theorem IsUnsigned.isMagnitude {cs : List Char} (h : IsUnsigned cs) : IsMagnitude cs := by
  have hexponent {sign : Char} {digits : List Char} (hsign : sign = '+' ∨ sign = '-')
      (hdigits : IsDigits digits) : IsExponent ('e' :: sign :: digits) :=
    .inr ⟨'e', [sign], digits, .inl rfl, .inr (by rcases hsign with rfl | rfl <;> simp), hdigits, rfl⟩
  rcases h with hwhole | ⟨hwhole, hplaces⟩ | ⟨hwhole, hsign, hdigits⟩ |
    ⟨hwhole, hplaces, hsign, hdigits⟩
  · simpa using IsExponent.isTail (.inl rfl) |>.isMagnitude hwhole
  · simpa using (IsExponent.isTail_point hplaces (.inl rfl)).isMagnitude hwhole
  · exact (hexponent hsign hdigits).isTail.isMagnitude hwhole
  · exact ((hexponent hsign hdigits).isTail_point hplaces).isMagnitude hwhole

theorem stops_dropWhile (input : List Char) : Stops (input.dropWhile Char.isDigit) := by
  intro c hc
  have hnot := List.head?_dropWhile_not Char.isDigit input
  rw [hc] at hnot
  exact hnot

theorem spanDigits_sound {input digits rest : List Char} (h : spanDigits input = (digits, rest))
    (hne : digits ≠ []) : IsDigits digits ∧ Stops rest ∧ input = digits ++ rest := by
  cases h
  exact ⟨⟨hne, fun c hc => List.mem_takeWhile_imp hc⟩, stops_dropWhile input,
    List.takeWhile_append_dropWhile.symm⟩

/-- Digits that do not begin with a zero are whole ones. -/
theorem exists_whole {c : Char} (hdigit : c.isDigit = true) (hzero : c ≠ '0') (input : List Char) :
    ∃ whole, IsWhole whole ∧ c :: input = whole ++ input.dropWhile Char.isDigit := by
  refine ⟨c :: input.takeWhile Char.isDigit, .inr ⟨⟨List.cons_ne_nil _ _, ?_⟩, ?_⟩, by simp⟩
  · exact List.forall_mem_cons.mpr ⟨hdigit, fun d hd => List.mem_takeWhile_imp hd⟩
  · simpa using hzero

section Skip

variable {input rest : List Char}

theorem skipExponent_sound (h : skipExponent input = .ok rest) :
    ∃ cs, IsSigned cs ∧ input = cs ++ rest := by
  unfold skipExponent at h
  dsimp only at h
  split at h
  · cases h
  · next digits left hne hspan =>
    cases h
    split at hspan <;> obtain ⟨hdigits, -, rfl⟩ := spanDigits_sound hspan hne
    · exact ⟨_, ⟨['-'], digits, .inr (.inr rfl), hdigits, rfl⟩, rfl⟩
    · exact ⟨_, ⟨['+'], digits, .inr (.inl rfl), hdigits, rfl⟩, rfl⟩
    · exact ⟨_, ⟨[], digits, .inl rfl, hdigits, rfl⟩, rfl⟩

theorem skipAfterDigits_sound (h : skipAfterDigits input = .ok rest) :
    ∃ exponent, IsExponent exponent ∧ input = exponent ++ rest := by
  unfold skipAfterDigits at h
  split at h
  · obtain ⟨cs, hcs, rfl⟩ := skipExponent_sound h
    exact ⟨_, hcs.isExponent (.inl rfl), rfl⟩
  · obtain ⟨cs, hcs, rfl⟩ := skipExponent_sound h
    exact ⟨_, hcs.isExponent (.inr rfl), rfl⟩
  · exact ⟨[], .inl rfl, Except.ok.inj h⟩

theorem skipAfterWhole_sound (h : skipAfterWhole input = .ok rest) :
    ∃ tail, IsTail tail ∧ input = tail ++ rest := by
  unfold skipAfterWhole at h
  split at h
  · split at h
    · cases h
    · next digits behind hne hspan =>
      obtain ⟨hdigits, -, rfl⟩ := spanDigits_sound hspan hne
      obtain ⟨exponent, hexponent, rfl⟩ := skipAfterDigits_sound h
      exact ⟨_, hexponent.isTail_point hdigits, by simp⟩
  · obtain ⟨exponent, hexponent, rfl⟩ := skipAfterDigits_sound h
    exact ⟨_, hexponent.isTail, rfl⟩

theorem skipNumeral_sound (h : skipNumeral input = .ok rest) :
    ∃ token, IsMagnitude token ∧ input = token ++ rest := by
  have hbehind {whole behind : List Char} (hwhole : IsWhole whole)
      (h : skipAfterWhole behind = .ok rest) :
      ∃ token, IsMagnitude token ∧ whole ++ behind = token ++ rest := by
    obtain ⟨tail, htail, rfl⟩ := skipAfterWhole_sound h
    exact ⟨_, htail.isMagnitude hwhole, (List.append_assoc _ _ _).symm⟩
  cases input with
  | nil => cases h
  | cons c input =>
    rw [skipNumeral.eq_def] at h
    dsimp only at h
    split at h
    · next hzero =>
      subst hzero
      cases input with
      | nil =>
        cases h
        exact ⟨['0'], .mk (.inl rfl) (.inl rfl) (.inl rfl), rfl⟩
      | cons d input =>
        dsimp only at h
        split at h
        · cases h
        · exact hbehind (.inl rfl) h
    · next hzero =>
      split at h
      · next hdigit =>
        obtain ⟨whole, hwhole, heq⟩ := exists_whole hdigit hzero input
        rw [heq]
        exact hbehind hwhole h
      · cases h

/-! ### Passing over -/

theorem skipExponent_of_isSigned {cs : List Char} (h : IsSigned cs) (hrest : Stops rest) :
    skipExponent (cs ++ rest) = .ok rest := by
  obtain ⟨sign, digits, hsign, hdigits, rfl⟩ := h
  have hspan := spanDigits_append hdigits.2 hrest
  obtain ⟨c, cs, rfl⟩ := List.exists_cons_of_ne_nil hdigits.1
  have hc := hdigits.2 c List.mem_cons_self
  rw [List.cons_append] at hspan
  rcases hsign with rfl | rfl | rfl
  · have hplus : c ≠ '+' := by
      rintro rfl
      cases hc
    have hminus : c ≠ '-' := by
      rintro rfl
      cases hc
    simp [skipExponent, hplus, hminus, hspan]
  · simp [skipExponent, hspan]
  · simp [skipExponent, hspan]

theorem skipAfterDigits_of_isExponent {cs : List Char} (h : IsExponent cs) (hrest : Ends rest) :
    skipAfterDigits (cs ++ rest) = .ok rest := by
  rcases h with rfl | ⟨letter, sign, digits, rfl | rfl, hsign, hdigits, rfl⟩
  · exact skipAfterDigits_of_ends hrest
  · exact skipExponent_of_isSigned ⟨sign, digits, hsign, hdigits, rfl⟩ hrest.stops
  · exact skipExponent_of_isSigned ⟨sign, digits, hsign, hdigits, rfl⟩ hrest.stops

theorem skipAfterWhole_of_isTail {cs : List Char} (h : IsTail cs) (hrest : Ends rest) :
    skipAfterWhole (cs ++ rest) = .ok rest := by
  obtain ⟨fraction, exponent, rfl | ⟨digits, hdigits, rfl⟩, hexponent, rfl⟩ := h
  · rcases hexponent with rfl | hexponent
    · exact skipAfterWhole_of_ends hrest
    · have hletter := skipAfterDigits_of_isExponent (.inr hexponent) hrest
      obtain ⟨letter, sign, digits, rfl | rfl, -, -, rfl⟩ := hexponent <;> exact hletter
  · rw [List.cons_append, List.cons_append, List.append_assoc,
      skipAfterWhole_point hdigits (hexponent.stops hrest.stops)]
    exact skipAfterDigits_of_isExponent hexponent hrest

/-- Every number of the grammar is passed over up to its end. -/
theorem skipNumeral_of_isMagnitude {token : List Char} (h : IsMagnitude token) (hrest : Ends rest) :
    skipNumeral (token ++ rest) = .ok rest := by
  cases h with
  | mk hwhole hfraction hexponent =>
    have htail : IsTail _ := ⟨_, _, hfraction, hexponent, rfl⟩
    rw [List.append_assoc, skipNumeral_whole hwhole (htail.stops hrest.stops)]
    exact skipAfterWhole_of_isTail htail hrest

end Skip

/-- A token is read off the front of a text, and just so off every other text that goes on with what
ends it. -/
def ReadsOff (read : Reader Numeral) (kind : List Char → Prop) (n : Numeral)
    (input rest : List Char) : Prop :=
  ∃ token, kind token ∧ input = token ++ rest ∧
    ∀ rest', Ends rest' → read (token ++ rest') = .ok (n, rest')

section Read

variable {negative : Bool} {significand : Nat} {n : Numeral} {input rest : List Char}

/-- What stands behind a number has no part in its value. -/
theorem scaled_eq_ok {exponent : Int}
    (h : scaled negative significand exponent input = .ok (n, rest)) :
    input = rest ∧ ∀ rest', scaled negative significand exponent rest' = .ok (n, rest') := by
  unfold scaled at h ⊢
  split at h
  · cases h
    exact ⟨rfl, fun _ => rfl⟩
  · cases h

theorem fitExponent_eq_ok {value e : Nat} {digits : List Char}
    (h : fitExponent value digits rest = .ok e) (rest' : List Char) :
    fitExponent value digits rest' = .ok e := by
  induction digits generalizing value with
  | nil => exact h
  | cons c digits ih =>
    rw [fitExponent] at h ⊢
    split at h
    · next hfits =>
      rw [if_pos hfits]
      exact ih h
    · cases h

/-- The number of an exponent with some digits, which were read up to `rest`. -/
def exponentOf (negative : Bool) (significand : Nat) (exponent : Int) (down : Bool)
    (digits : List Char) : Reader Numeral := fun rest =>
  match fitExponent 0 digits rest with
  | .ok e => scaled negative significand (if down then exponent - e else exponent + e) rest
  | .error left =>
    if significand ≠ 0 ∧ down = false then .error (.before .numberOutOfRange left)
    else .ok (.double (.zero negative), rest)

theorem exponentOf_eq_ok {exponent : Int} {down : Bool} {digits : List Char}
    (h : exponentOf negative significand exponent down digits input = .ok (n, rest)) :
    input = rest ∧ ∀ rest',
      exponentOf negative significand exponent down digits rest' = .ok (n, rest') := by
  unfold exponentOf at h
  split at h
  · next e he =>
    obtain ⟨hrest, hscaled⟩ := scaled_eq_ok h
    refine ⟨hrest, fun rest' => ?_⟩
    rw [exponentOf, fitExponent_eq_ok he rest']
    exact hscaled rest'
  · next left hleft =>
    split at h
    · cases h
    · next hzero =>
      cases h
      refine ⟨rfl, fun rest' => ?_⟩
      rw [exponentOf]
      split
      · next e he => cases hleft.symm.trans (fitExponent_eq_ok he input)
      · exact if_neg hzero

theorem readExponent_append {exponent : Int} {sign digits : List Char}
    (hsign : sign = [] ∨ sign = ['+'] ∨ sign = ['-']) (hdigits : IsDigits digits)
    (h : Stops rest) : readExponent negative significand exponent (sign ++ (digits ++ rest)) =
      exponentOf negative significand exponent (sign == ['-']) digits rest := by
  have hspan := spanDigits_append hdigits.2 h
  obtain ⟨c, cs, rfl⟩ := List.exists_cons_of_ne_nil hdigits.1
  have hc := hdigits.2 c List.mem_cons_self
  rw [List.cons_append] at hspan
  rcases hsign with rfl | rfl | rfl
  · have hplus : c ≠ '+' := by
      rintro rfl
      cases hc
    have hminus : c ≠ '-' := by
      rintro rfl
      cases hc
    cases hfit : fitExponent 0 (c :: cs) rest <;>
      simp [readExponent, exponentOf, hplus, hminus, hc, hspan, hfit]
  · cases hfit : fitExponent 0 (c :: cs) rest <;>
      simp [readExponent, exponentOf, hc, hspan, hfit]
  · cases hfit : fitExponent 0 (c :: cs) rest <;>
      simp [readExponent, exponentOf, hc, hspan, hfit]

theorem readExponent_sound {exponent : Int}
    (h : readExponent negative significand exponent input = .ok (n, rest)) :
    ReadsOff (readExponent negative significand exponent) IsSigned n input rest := by
  -- Digits stand behind the sign, else nothing is read.
  obtain ⟨sign, digits, behind, hsign, hdigits, hstops, rfl⟩ : ∃ sign digits behind,
      (sign = [] ∨ sign = ['+'] ∨ sign = ['-']) ∧ IsDigits digits ∧ Stops behind ∧
        input = sign ++ (digits ++ behind) := by
    unfold readExponent at h
    split at h
    next down unsigned hsign =>
    split at h
    · cases h
    · next c behind =>
      split at h
      · next hdigit =>
        have hne : (spanDigits (c :: behind)).1 ≠ [] := by simp [spanDigits, hdigit]
        obtain ⟨hdigits, hstops, hspan⟩ := spanDigits_sound (Prod.eta _).symm hne
        rw [hspan] at hsign
        split at hsign <;> cases hsign
        · exact ⟨['-'], _, _, .inr (.inr rfl), hdigits, hstops, rfl⟩
        · exact ⟨['+'], _, _, .inr (.inl rfl), hdigits, hstops, rfl⟩
        · exact ⟨[], _, _, .inl rfl, hdigits, hstops, rfl⟩
      · cases h
  rw [readExponent_append hsign hdigits hstops] at h
  obtain ⟨rfl, halike⟩ := exponentOf_eq_ok h
  refine ⟨_, ⟨sign, digits, hsign, hdigits, rfl⟩, (List.append_assoc _ _ _).symm, ?_⟩
  intro rest' hends
  rw [List.append_assoc, readExponent_append hsign hdigits hends.stops]
  exact halike rest'

/-- What may follow the digits behind a point. -/
def readAfterPlaces (negative : Bool) (significand : Nat) (exponent : Int) : Reader Numeral :=
  fun rest =>
    match rest with
    | 'e' :: rest => readExponent negative significand exponent rest
    | 'E' :: rest => readExponent negative significand exponent rest
    | _ => scaled negative significand exponent rest

theorem readAfterPlaces_sound {exponent : Int}
    (h : readAfterPlaces negative significand exponent input = .ok (n, rest)) :
    ReadsOff (readAfterPlaces negative significand exponent) IsExponent n input rest := by
  unfold readAfterPlaces at h
  split at h
  · obtain ⟨cs, hcs, rfl, halike⟩ := readExponent_sound h
    exact ⟨_, hcs.isExponent (.inl rfl), rfl, halike⟩
  · obtain ⟨cs, hcs, rfl, halike⟩ := readExponent_sound h
    exact ⟨_, hcs.isExponent (.inr rfl), rfl, halike⟩
  · obtain ⟨rfl, halike⟩ := scaled_eq_ok h
    refine ⟨[], .inl rfl, rfl, fun rest' hends => ?_⟩
    rw [List.nil_append, readAfterPlaces]
    · exact halike rest'
    · rintro behind rfl
      exact absurd (hends _ rfl) (by decide)
    · rintro behind rfl
      exact absurd (hends _ rfl) (by decide)

theorem readAfterWhole_point {digits : List Char} (hdigits : IsDigits digits) (hrest : Stops rest)
    (extra : Nat) : readAfterWhole negative significand extra ('.' :: (digits ++ rest)) =
      readAfterPlaces negative (fitDigits significand digits).1
        (extra - (digits.length - (fitDigits significand digits).2 : Nat)) rest := by
  simp only [readAfterWhole, spanDigits_append hdigits.2 hrest, hdigits.1, if_false]
  rfl

/-- The number of whole digits that nothing follows. -/
def wholeOf (negative : Bool) (significand extra : Nat) : Reader Numeral := fun rest =>
  if extra ≠ 0 then scaled negative significand extra rest
  else if negative = false then .ok (.int significand, rest)
  else if significand = 0 ∨ 1 <<< 63 < significand then scaled true significand 0 rest
  else .ok (.int (-significand), rest)

theorem readAfterWhole_of_ends (h : Ends rest) (extra : Nat) :
    readAfterWhole negative significand extra rest = wholeOf negative significand extra rest := by
  rw [readAfterWhole]
  · rfl
  all_goals
    rintro behind rfl
    exact absurd (h _ rfl) (by decide)

theorem wholeOf_eq_ok {extra : Nat} (h : wholeOf negative significand extra input = .ok (n, rest)) :
    input = rest ∧ ∀ rest', wholeOf negative significand extra rest' = .ok (n, rest') := by
  unfold wholeOf at h ⊢
  split
  · next hextra =>
    rw [if_pos hextra] at h
    exact scaled_eq_ok h
  next hextra =>
  rw [if_neg hextra] at h
  split
  · next hpositive =>
    rw [if_pos hpositive] at h
    cases h
    exact ⟨rfl, fun _ => rfl⟩
  next hnegative =>
  rw [if_neg hnegative] at h
  split
  · next hlarge =>
    rw [if_pos hlarge] at h
    exact scaled_eq_ok h
  · next hsmall =>
    rw [if_neg hsmall] at h
    cases h
    exact ⟨rfl, fun _ => rfl⟩

theorem readAfterWhole_sound {extra : Nat}
    (h : readAfterWhole negative significand extra input = .ok (n, rest)) :
    ReadsOff (readAfterWhole negative significand extra) IsTail n input rest := by
  rw [readAfterWhole.eq_def] at h
  split at h
  · next input =>
    by_cases hne : (spanDigits input).1 = []
    · simp only [hne, if_true] at h
      cases h
    obtain ⟨hdigits, hstops, hspan⟩ := spanDigits_sound (Prod.eta _).symm hne
    have hpoint : readAfterWhole negative significand extra ('.' :: input) = .ok (n, rest) := h
    rw [hspan, readAfterWhole_point hdigits hstops] at hpoint
    obtain ⟨exponent, hexponent, heq, halike⟩ := readAfterPlaces_sound hpoint
    refine ⟨_, hexponent.isTail_point hdigits, ?_, fun rest' hends => ?_⟩
    · rw [List.cons_append, List.append_assoc, ← heq, ← hspan]
    · rw [List.cons_append, List.append_assoc,
        readAfterWhole_point hdigits (hexponent.stops hends.stops)]
      exact halike rest' hends
  · obtain ⟨cs, hcs, rfl, halike⟩ := readExponent_sound h
    exact ⟨_, (hcs.isExponent (.inl rfl)).isTail, rfl, halike⟩
  · obtain ⟨cs, hcs, rfl, halike⟩ := readExponent_sound h
    exact ⟨_, (hcs.isExponent (.inr rfl)).isTail, rfl, halike⟩
  · obtain ⟨rfl, halike⟩ := wholeOf_eq_ok h
    refine ⟨[], IsExponent.isTail (.inl rfl), rfl, fun rest' hends => ?_⟩
    rw [List.nil_append, readAfterWhole_of_ends hends]
    exact halike rest'

theorem readNumeral_whole {whole : List Char} (hwhole : IsWhole whole) (hrest : Stops rest) :
    readNumeral negative (whole ++ rest) =
      readAfterWhole negative (fitDigits 0 whole).1 (fitDigits 0 whole).2 rest := by
  rcases hwhole with rfl | ⟨hdigits, hzero⟩
  · cases rest with
    | nil => rfl
    | cons c rest =>
      rw [List.singleton_append, readNumeral, if_pos rfl]
      simp only [hrest c rfl]
      rfl
  · have hspan := spanDigits_append hdigits.2 hrest
    obtain ⟨c, cs, rfl⟩ := List.exists_cons_of_ne_nil hdigits.1
    have hc : c ≠ '0' := fun h => hzero (by rw [h]; rfl)
    have hdigit := hdigits.2 c List.mem_cons_self
    rw [List.cons_append] at hspan
    rw [readNumeral.eq_def]
    simp only [List.cons_append, hc, hdigit, if_false, if_true, hspan]

theorem readNumeral_sound (h : readNumeral negative input = .ok (n, rest)) :
    ReadsOff (readNumeral negative) IsMagnitude n input rest := by
  -- Whole digits stand in front, else nothing is read.
  obtain ⟨whole, behind, hwhole, hstops, rfl⟩ : ∃ whole behind,
      IsWhole whole ∧ Stops behind ∧ input = whole ++ behind := by
    cases input with
    | nil => cases h
    | cons c input =>
      rw [readNumeral.eq_def] at h
      dsimp only at h
      split at h
      · next hzero =>
        subst hzero
        cases input with
        | nil => exact ⟨['0'], [], .inl rfl, nofun, rfl⟩
        | cons d input =>
          dsimp only at h
          split at h
          · cases h
          · next hd => exact ⟨['0'], _, .inl rfl, stops_cons (by simpa using hd) input, rfl⟩
      · next hzero =>
        split at h
        · next hdigit =>
          obtain ⟨whole, hwhole, heq⟩ := exists_whole hdigit hzero input
          exact ⟨whole, _, hwhole, stops_dropWhile input, heq⟩
        · cases h
  rw [readNumeral_whole hwhole hstops] at h
  obtain ⟨tail, htail, rfl, halike⟩ := readAfterWhole_sound h
  refine ⟨_, htail.isMagnitude hwhole, (List.append_assoc _ _ _).symm, fun rest' hends => ?_⟩
  rw [List.append_assoc, readNumeral_whole hwhole (htail.stops hends.stops)]
  exact halike rest' hends

end Read

end Json

end GraphGateway
