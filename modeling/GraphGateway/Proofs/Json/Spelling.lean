/-
The grammar of the strings of JSON, and that what is read or passed over as a string is one.

Strings are told twice, as they are written (`IsBody`) and with the characters that they stand for
(`Spells`): half a surrogate pair stands for no character, but a string with one in it can be passed
over. Every string of the grammar is passed over, and is read as the characters that it stands for.
-/
import GraphGateway.Proofs.Json.Token

namespace GraphGateway.Json

/-! ## What stands between the quotes -/

/-- A character that stands for itself inside a string. -/
def IsPlain (c : Char) : Prop := c ≠ '"' ∧ c ≠ '\\' ∧ 0x20 ≤ c.toNat

/-- What may stand between the quotes of a string, whether it stands for characters or not. -/
inductive IsBody : List Char → Prop where
  | nil : IsBody []
  | plain {c : Char} {body : List Char} (hc : IsPlain c) (h : IsBody body) : IsBody (c :: body)
  | escape {c : Char} {body : List Char} (hc : (unescape? c).isSome = true) (h : IsBody body) :
    IsBody ('\\' :: c :: body)
  /-- Four hexadecimal digits follow. -/
  | unicode {body : List Char} (hdigits : (hexValues? body).isSome = true) (h : IsBody body) :
    IsBody ('\\' :: 'u' :: body)

/-- A character and what stands for it behind a backslash. -/
inductive Escape : List Char → Char → Prop where
  | letter {c d : Char} (h : unescape? c = some d) : Escape [c] d
  | unicode {digits : List Char} {n : Nat} (h : hexValues? digits = some (n, []))
    (hn : n < 0xD800 ∨ 0xDFFF < n) : Escape ('u' :: digits) (Char.ofNat n)
  | pair {digits digits' : List Char} {high low : Nat} (hhigh : hexValues? digits = some (high, []))
    (hlow : hexValues? digits' = some (low, [])) (hfirst : 0xD800 ≤ high ∧ high ≤ 0xDBFF)
    (hsecond : 0xDC00 ≤ low ∧ low ≤ 0xDFFF) :
    Escape ('u' :: (digits ++ '\\' :: 'u' :: digits'))
      (Char.ofNat ((high - 0xD800) * 0x400 + (low - 0xDC00) + 0x10000))

/-- What stands between the quotes of a string, and the characters that it stands for. -/
inductive Spells : List Char → List Char → Prop where
  | nil : Spells [] []
  | plain {c : Char} {body cs : List Char} (hc : IsPlain c) (h : Spells body cs) :
    Spells (c :: body) (c :: cs)
  | escape {code : List Char} {d : Char} {body cs : List Char} (hd : Escape code d)
    (h : Spells body cs) : Spells ('\\' :: (code ++ body)) (d :: cs)

theorem isPlain_of_hexValue? {c : Char} {n : Nat} (h : hexValue? c = some n) : IsPlain c := by
  have hne {d : Char} (hd : hexValue? d = none) : c ≠ d := by
    rintro rfl
    cases hd.symm.trans h
  refine ⟨hne (by decide), hne (by decide), ?_⟩
  by_contra hcontrol
  have hnone : ∀ n < 0x20, hexValue? (Char.ofNat n) = none := by decide
  have hsame := hnone c.toNat (by omega)
  rw [Char.ofNat_toNat] at hsame
  cases hsame.symm.trans h

theorem exists_of_hexValues? {input rest : List Char} {n : Nat}
    (h : hexValues? input = some (n, rest)) :
    ∃ digits, hexValues? digits = some (n, []) ∧ (∀ c ∈ digits, IsPlain c) ∧
      input = digits ++ rest := by
  unfold hexValues? at h
  split at h
  · next a b c d left =>
    split at h
    · next ha hb hc hd =>
      cases h
      refine ⟨[a, b, c, d], by simp [hexValues?, ha, hb, hc, hd], ?_, rfl⟩
      simp only [List.forall_mem_cons, List.not_mem_nil, false_implies, implies_true, and_true]
      exact ⟨isPlain_of_hexValue? ha, isPlain_of_hexValue? hb, isPlain_of_hexValue? hc,
        isPlain_of_hexValue? hd⟩
    · cases h
  · cases h

theorem hexValues?_append {digits : List Char} {n : Nat} (h : hexValues? digits = some (n, []))
    (rest : List Char) : hexValues? (digits ++ rest) = some (n, rest) := by
  unfold hexValues? at h
  split at h
  · split at h
    · next ha hb hc hd =>
      cases h
      simp [hexValues?, ha, hb, hc, hd]
    · cases h
  · cases h

/-! ## The grammar from reading -/

theorem readHex_sound {input rest : List Char} {n : Nat} (h : readHex input = .ok (n, rest)) :
    hexValues? input = some (n, rest) := by
  unfold readHex at h
  split at h
  · next found hfound =>
    cases h
    exact hfound
  · dsimp only at h
    split at h <;> cases h

theorem readUnicodeEscape_sound {input rest : List Char} {d : Char}
    (h : readUnicodeEscape input = .ok (d, rest)) :
    ∃ code, Escape ('u' :: code) d ∧ input = code ++ rest := by
  unfold readUnicodeEscape at h
  obtain ⟨⟨high, left⟩, hhigh, htold⟩ := bind_eq_ok_iff.mp h
  obtain ⟨digits, hdigits, -, rfl⟩ := exists_of_hexValues? (readHex_sound hhigh)
  clear h
  dsimp only at htold
  split at htold
  · cases htold
  · next hlow =>
    split at htold
    · next hsingle =>
      cases htold
      exact ⟨digits, .unicode hdigits (by omega), rfl⟩
    · next hfirst =>
      split at htold
      · cases htold
      · split at htold
        · cases htold
        · obtain ⟨⟨low, left⟩, hsecond, hpair⟩ := bind_eq_ok_iff.mp htold
          obtain ⟨digits', hdigits', -, rfl⟩ := exists_of_hexValues? (readHex_sound hsecond)
          dsimp only at hpair
          split at hpair
          · next hrange =>
            obtain ⟨rfl, rfl⟩ := Prod.mk.inj (Except.ok.inj hpair)
            exact ⟨_, .pair hdigits hdigits' (by omega) hrange, by simp⟩
          · cases hpair
        · cases htold
      · cases htold

theorem readEscape_sound {input rest : List Char} {d : Char}
    (h : readEscape input = .ok (d, rest)) : ∃ code, Escape code d ∧ input = code ++ rest := by
  cases input with
  | nil => cases h
  | cons c input =>
    rw [readEscape] at h
    split at h
    · next hc =>
      subst hc
      obtain ⟨code, hcode, rfl⟩ := readUnicodeEscape_sound h
      exact ⟨_, hcode, rfl⟩
    · split at h
      · next hd =>
        cases h
        exact ⟨[c], .letter hd, rfl⟩
      · cases h

theorem readChars_sound {fuel done input rest : List Char} {s : String}
    (h : readChars fuel done input = .ok (s, rest)) :
    ∃ body cs, Spells body cs ∧ input = body ++ '"' :: rest ∧ s.toList = done.reverse ++ cs := by
  induction fuel generalizing done input with
  | nil => cases input <;> cases h
  | cons f fuel ih =>
    cases input with
    | nil => cases h
    | cons c input =>
      rw [readChars] at h
      split at h
      · next hc =>
        cases h
        exact ⟨[], [], .nil, by rw [hc]; rfl, by simp⟩
      · next hquote =>
        split at h
        · next hc =>
          subst hc
          split at h
          · next d left hescape =>
            obtain ⟨code, hcode, rfl⟩ := readEscape_sound hescape
            obtain ⟨body, cs, hspells, rfl, hs⟩ := ih h
            exact ⟨_, d :: cs, .escape hcode hspells, by simp, by simp [hs]⟩
          · cases h
        · next hbackslash =>
          split at h
          · cases h
          · next hcontrol =>
            obtain ⟨body, cs, hspells, rfl, hs⟩ := ih h
            exact ⟨c :: body, c :: cs, .plain ⟨hquote, hbackslash, by omega⟩ hspells, rfl,
              by simp [hs]⟩

theorem readString_sound {input rest : List Char} {s : String}
    (h : readString input = .ok (s, rest)) :
    ∃ body, Spells body s.toList ∧ input = body ++ '"' :: rest := by
  obtain ⟨body, cs, hspells, rfl, hs⟩ := readChars_sound h
  exact ⟨body, by rwa [hs], rfl⟩

theorem IsBody.append {body behind : List Char} (hbody : ∀ c ∈ body, IsPlain c)
    (h : IsBody behind) : IsBody (body ++ behind) := by
  induction body with
  | nil => exact h
  | cons c body ih =>
    obtain ⟨hc, hbody⟩ := List.forall_mem_cons.mp hbody
    exact .plain hc (ih hbody)

theorem IsBody.digits {digits behind : List Char} {n : Nat}
    (h : hexValues? digits = some (n, [])) (hbehind : IsBody behind) :
    IsBody ('\\' :: 'u' :: (digits ++ behind)) := by
  obtain ⟨digits', -, hplain, heq⟩ := exists_of_hexValues? h
  rw [List.append_nil] at heq
  subst heq
  exact .unicode (by rw [hexValues?_append h]; rfl) (hbehind.append hplain)

/-- What stands for characters may stand between the quotes of a string. -/
theorem Spells.isBody {body cs : List Char} (h : Spells body cs) : IsBody body := by
  induction h with
  | nil => exact .nil
  | plain hc _ ih => exact .plain hc ih
  | escape hd _ ih =>
    cases hd with
    | letter hd => exact .escape (by rw [hd]; rfl) ih
    | unicode hdigits => exact .digits hdigits ih
    | pair hhigh hlow =>
      rw [List.cons_append, List.append_assoc]
      exact .digits hhigh (.digits hlow ih)

/-- The first character that is spelled stands there as it is, or an escape does. -/
theorem Spells.head_mem {body cs : List Char} {c : Char} (h : Spells body (c :: cs)) :
    c ∈ body ∨ '\\' ∈ body := by
  cases h with
  | plain => exact .inl List.mem_cons_self
  | escape => exact .inr List.mem_cons_self

/-- The digits behind `\u` stand in front of the closing quote. -/
theorem isSome_hexValues? {body rest : List Char}
    (h : (hexValues? (body ++ '"' :: rest)).isSome = true) : (hexValues? body).isSome = true := by
  obtain ⟨⟨n, left⟩, hn⟩ := Option.isSome_iff_exists.mp h
  obtain ⟨digits, hdigits, hplain, heq⟩ := exists_of_hexValues? hn
  rcases List.append_eq_append_iff.mp heq with ⟨others, rfl, hothers⟩ | ⟨others, rfl, -⟩
  · cases others with
    | nil =>
      rw [List.append_nil] at hdigits
      rw [hdigits]
      rfl
    | cons c others =>
      cases hothers
      exact absurd rfl (hplain '"' (by simp)).1
  · rw [hexValues?_append hdigits]
    rfl

theorem skipString_sound {input rest : List Char} (h : skipString input = .ok rest) :
    ∃ body, IsBody body ∧ input = body ++ '"' :: rest := by
  fun_induction skipString input with
  | case2 | case5 =>
    cases h
    exact ⟨[], .nil, rfl⟩
  | case1 | case3 | case4 | case7 | case9 | case10 => cases h
  | case6 left found hread _ ih =>
    obtain ⟨n, behind⟩ := found
    obtain ⟨body, hbody, rfl⟩ := ih h
    have hdigits : (hexValues? (body ++ '"' :: rest)).isSome = true := by
      rw [readHex_sound hread]
      rfl
    exact ⟨_, .unicode (isSome_hexValues? hdigits) hbody, rfl⟩
  | case8 e left _ hescape _ ih =>
    obtain ⟨body, hbody, rfl⟩ := ih h
    exact ⟨_, .escape hescape hbody, rfl⟩
  | case11 c e left hquote hbackslash hcontrol ih =>
    obtain ⟨body, hbody, heq⟩ := ih h
    exact ⟨_, .plain ⟨hquote, hbackslash, by omega⟩ hbody, by rw [heq]; rfl⟩

/-! ## Reading by the grammar -/

theorem readHex_append {digits : List Char} {n : Nat} (h : hexValues? digits = some (n, []))
    (rest : List Char) : readHex (digits ++ rest) = .ok (n, rest) := by
  rw [readHex, hexValues?_append h]

theorem readEscape_append {code : List Char} {d : Char} (h : Escape code d) (rest : List Char) :
    readEscape (code ++ rest) = .ok (d, rest) := by
  cases h with
  | @letter c d h =>
    have hu : c ≠ 'u' := by
      rintro rfl
      cases h
    rw [List.singleton_append, readEscape, if_neg hu, h]
  | unicode hdigits hn =>
    rw [List.cons_append, readEscape, if_pos rfl, readUnicodeEscape, readHex_append hdigits]
    simp only [bind, Except.bind]
    rw [if_neg (by omega), if_pos (by omega)]
  | pair hhigh hlow hfirst hsecond =>
    rw [List.cons_append, List.append_assoc, readEscape, if_pos rfl, readUnicodeEscape,
      readHex_append hhigh]
    simp only [bind, Except.bind]
    rw [if_neg (by omega), if_neg (by omega)]
    simp only [List.cons_append, readHex_append hlow]
    rw [if_pos hsecond]

theorem readChars_of_spells {body cs : List Char} (h : Spells body cs) {fuel : List Char}
    (done rest : List Char) (hfuel : body.length < fuel.length) :
    readChars fuel done (body ++ '"' :: rest) = .ok (String.ofList (done.reverse ++ cs), rest) := by
  induction h generalizing fuel done with
  | nil =>
    obtain ⟨f, fuel, rfl⟩ := List.exists_cons_of_length_pos (by omega : 0 < fuel.length)
    simp [readChars]
  | @plain c body cs hc _ ih =>
    obtain ⟨f, fuel, rfl⟩ := List.exists_cons_of_length_pos (by omega : 0 < fuel.length)
    obtain ⟨hquote, hslash, hlow⟩ := hc
    rw [List.cons_append, readChars, if_neg hquote, if_neg hslash, if_neg (by omega),
      ih _ (Nat.lt_of_succ_lt_succ hfuel)]
    simp
  | @escape code d body cs hd _ ih =>
    obtain ⟨f, fuel, rfl⟩ := List.exists_cons_of_length_pos (by omega : 0 < fuel.length)
    have hshorter : body.length < fuel.length := by
      simp only [List.length_cons, List.length_append] at hfuel
      omega
    rw [List.cons_append, List.append_assoc, readChars, if_neg (by decide), if_pos rfl,
      readEscape_append hd]
    simp only [ih _ hshorter, List.reverse_cons, List.append_assoc, List.singleton_append]

/-- A string is read as the characters that it stands for. -/
theorem readString_of_spells {body : List Char} {s : String} (h : Spells body s.toList)
    (rest : List Char) : readString (body ++ '"' :: rest) = .ok (s, rest) := by
  rw [readString, readChars_of_spells h [] rest (by simp), List.reverse_nil, List.nil_append,
    String.ofList_toList]

theorem skipString_of_isBody {body : List Char} (h : IsBody body) (rest : List Char) :
    skipString (body ++ '"' :: rest) = .ok rest := by
  induction h with
  | nil => cases rest <;> rfl
  | @plain c body hc _ ih =>
    obtain ⟨hquote, hslash, hlow⟩ := hc
    obtain ⟨e, behind, heq⟩ : ∃ e behind, body ++ '"' :: rest = e :: behind :=
      List.exists_cons_of_ne_nil (by simp)
    rw [List.cons_append, heq, skipString, if_neg hquote, if_neg hslash, if_neg (by omega), ← heq]
    exact ih
  | @escape c body hc _ ih =>
    have hu : c ≠ 'u' := by
      rintro rfl
      cases hc
    rw [List.cons_append, List.cons_append, skipString, if_neg (by decide), if_pos rfl, if_neg hu,
      if_pos hc]
    exact ih
  | @unicode body hdigits _ ih =>
    obtain ⟨⟨n, left⟩, hn⟩ := Option.isSome_iff_exists.mp hdigits
    obtain ⟨digits, hfour, -, rfl⟩ := exists_of_hexValues? hn
    rw [List.cons_append, List.cons_append, skipString, if_neg (by decide), if_pos rfl, if_pos rfl]
    rw [List.append_assoc, readHex_append hfour]
    rw [List.append_assoc] at ih
    exact ih

end GraphGateway.Json
