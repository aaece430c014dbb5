/-
Strings read back as they were written.

Which characters between its quotes stand for a text is told by one relation for strings of one line
(`InLine`) and one for strings of several (`InLines`). The second one counts the quotes that stand
directly in front, because a reader takes a row of quotes at once: two of them may end the text,
three of them end the string. A reader follows the relation by induction, and so does each of the
four forms that are written.
-/
import GraphGateway.Toml.Quoted

namespace GraphGateway.Toml.Quoted

variable {quote c : Char} {escapes : Bool} {body cs rest code : List Char} {quotes : Nat}

/-! ## Escapes -/

/-- What stands for a character behind a backslash, and hides no line end. -/
structure IsEscape (code : List Char) (c : Char) : Prop where
  read (rest : List Char) : readEscape (code ++ rest) = some (c, rest)
  shown (rest : List Char) : hiddenLineEnd? (code ++ rest) = none

theorem hexValue?_toUpper : ∀ n < 16, Json.hexValue? (Nat.digitChar n).toUpper = some n := by
  decide

theorem charOfHex?_digits {n : Nat} (h : n < 0x80) :
    charOfHex? ['0', '0', (Nat.digitChar (n / 16)).toUpper, (Nat.digitChar (n % 16)).toUpper] =
      some (Char.ofNat n) := by
  have hhigh := hexValue?_toUpper (n / 16) (by omega)
  have hlow := hexValue?_toUpper (n % 16) (by omega)
  have hzero : Json.hexValue? '0' = some 0 := by decide
  have hvalue : ((0 * 16 + 0) * 16 + 0) * 16 + n / 16 = n / 16 := by omega
  have hn : n / 16 * 16 + n % 16 = n := by omega
  simp only [charOfHex?, List.mapM_cons, List.mapM_nil, hzero, hhigh, hlow, Option.pure_def,
    Option.bind_eq_bind, Option.bind_some, List.foldl_cons, List.foldl_nil, hvalue, hn]
  rw [if_pos (.inl (by omega))]

/-- What has to be escaped between double quotes on one line. -/
def NeedsEscape (c : Char) : Prop := isPlain c = false ∨ c = '\t' ∨ c = '\\' ∨ c = '"'

theorem toNat_lt_of_not_plain (h : isPlain c = false) : c.toNat < 0x80 := by
  simp only [isPlain, Bool.or_eq_false_iff, Bool.and_eq_false_iff, decide_eq_false_iff_not,
    bne_eq_false_iff_eq] at h
  omega

/-- A character is escaped by something that stands for it. -/
theorem exists_escape (h : NeedsEscape c) : ∃ code, escape c = '\\' :: code ∧ IsEscape code c := by
  unfold escape
  iterate 7
    split
    · next h =>
      subst h
      exact ⟨_, rfl, fun _ => rfl, fun _ => rfl⟩
  next _ htab _ _ _ hslash hquote =>
    have hplain : isPlain c = false := by simpa [NeedsEscape, htab, hslash, hquote] using h
    have hhex := charOfHex?_digits (toNat_lt_of_not_plain hplain)
    rw [Char.ofNat_toNat] at hhex
    refine ⟨_, rfl, fun rest => ?_, fun _ => rfl⟩
    simp [readEscape, readHex, hhex]

/-! ## Strings of one line -/

/-- Characters that stand for a text between two quotes. -/
inductive InLine (quote : Char) (escapes : Bool) : List Char → List Char → Prop where
  | nil : InLine quote escapes [] []
  | plain {c : Char} {body cs : List Char} (hquote : c ≠ quote)
    (hslash : ¬(c = '\\' ∧ escapes = true)) (hplain : isPlain c = true)
    (h : InLine quote escapes body cs) : InLine quote escapes (c :: body) (c :: cs)
  | escaped {c : Char} {code body cs : List Char} (hescapes : escapes = true)
    (hcode : IsEscape code c) (h : InLine quote escapes body cs) :
    InLine quote escapes ('\\' :: (code ++ body)) (c :: cs)

theorem InLine.length_le (h : InLine quote escapes body cs) : cs.length ≤ body.length := by
  induction h with
  | nil => exact Nat.le_refl 0
  | plain _ _ _ _ ih => exact Nat.succ_le_succ ih
  | escaped _ _ _ ih =>
    rw [List.length_cons, List.length_cons, List.length_append]
    omega

theorem InLine.readLine (h : InLine quote escapes body cs) (hquote : quote ≠ '\\') {fuel : Nat}
    (hfuel : cs.length < fuel) (done rest : List Char) :
    readLine quote escapes fuel done (body ++ quote :: rest) =
      some (String.ofList (done.reverse ++ cs), rest) := by
  induction h generalizing fuel done with
  | nil =>
    obtain ⟨fuel, rfl⟩ := Nat.exists_eq_add_one.mpr hfuel
    rw [List.nil_append, Quoted.readLine, if_pos rfl, List.append_nil]
  | @plain c body cs hne hslash hplain _ ih =>
    obtain ⟨fuel, rfl⟩ := Nat.exists_eq_add_one.mpr (Nat.zero_lt_of_lt hfuel)
    rw [List.cons_append, Quoted.readLine, if_neg hne, if_neg hslash, if_pos hplain,
      ih (Nat.lt_of_succ_lt_succ hfuel), List.reverse_cons, List.append_assoc]
    rfl
  | @escaped c code body cs hescapes hcode _ ih =>
    obtain ⟨fuel, rfl⟩ := Nat.exists_eq_add_one.mpr (Nat.zero_lt_of_lt hfuel)
    rw [List.cons_append, List.append_assoc, Quoted.readLine, if_neg hquote.symm,
      if_pos ⟨rfl, hescapes⟩, hcode.read]
    simp only [ih (Nat.lt_of_succ_lt_succ hfuel), List.reverse_cons, List.append_assoc,
      List.singleton_append]

/-- A string of one line is told from one of several by its quotes. -/
theorem InLine.not_tripled (h : InLine quote escapes body cs) (hquote : quote ≠ '\\')
    (hrest : rest.head? ≠ some quote) :
    [quote, quote].isPrefixOf (body ++ quote :: rest) = false := by
  cases h with
  | nil =>
    cases rest with
    | nil => simp
    | cons d rest =>
      have hd : d ≠ quote := fun h => hrest (congrArg some h)
      simpa [List.isPrefixOf] using Ne.symm hd
  | plain hne => simp [List.isPrefixOf, Ne.symm hne]
  | escaped => simp [List.isPrefixOf, hquote]

theorem InLine.readBehind (h : InLine quote escapes body cs) (hquote : quote ≠ '\\')
    (hrest : rest.head? ≠ some quote) :
    readBehind quote escapes (body ++ quote :: rest) = some (String.ofList cs, rest) := by
  have hlength := h.length_le
  rw [Quoted.readBehind, h.not_tripled hquote hrest, if_neg Bool.false_ne_true,
    h.readLine hquote (by rw [List.length_append]; omega)]
  rfl

theorem inLine_writeLine (cs : List Char) : InLine '"' true (writeLine cs) cs := by
  induction cs with
  | nil => exact .nil
  | cons c cs ih =>
    rw [writeLine, List.flatMap_cons, ← writeLine]
    split
    · next h =>
      have hneeds : NeedsEscape c := by
        simp only [Bool.not_eq_true'] at h
        rcases h with h | h | h | h
        · exact .inr (.inl h)
        · exact .inl h
        · exact .inr (.inr (.inl h))
        · exact .inr (.inr (.inr h))
      obtain ⟨code, hescape, hcode⟩ := exists_escape hneeds
      rw [hescape]
      exact .escaped rfl hcode ih
    · next h =>
      simp only [not_or, Bool.not_eq_true', Bool.not_eq_false] at h
      exact .plain h.2.2.2 (fun hslash => h.2.2.1 hslash.1) h.2.1 ih

theorem inLine_self (h : ∀ c ∈ cs, c ≠ quote ∧ isPlain c = true) : InLine quote false cs cs := by
  induction cs with
  | nil => exact .nil
  | cons c cs ih =>
    obtain ⟨⟨hquote, hplain⟩, hrest⟩ := List.forall_mem_cons.mp h
    exact .plain hquote (fun hslash => Bool.false_ne_true hslash.2) hplain (ih hrest)

/-! ## Strings of several lines -/

/-- Characters that stand for a text between three quotes and three quotes, so many quotes standing
directly in front. -/
inductive InLines (quote : Char) (escapes : Bool) : Nat → List Char → List Char → Prop where
  | nil {quotes : Nat} (hquotes : quotes ≤ 2) : InLines quote escapes quotes [] []
  | quote {quotes : Nat} {body cs : List Char} (h : InLines quote escapes (quotes + 1) body cs) :
    InLines quote escapes quotes (quote :: body) (quote :: cs)
  | char {quotes : Nat} {c : Char} {body cs : List Char} (hquotes : quotes ≤ 2)
    (hquote : c ≠ quote) (hslash : ¬(c = '\\' ∧ escapes = true))
    (hplain : c = '\n' ∨ isPlain c = true) (h : InLines quote escapes 0 body cs) :
    InLines quote escapes quotes (c :: body) (c :: cs)
  | escaped {quotes : Nat} {c : Char} {code body cs : List Char} (hquotes : quotes ≤ 2)
    (hescapes : escapes = true) (hcode : IsEscape code c) (h : InLines quote escapes 0 body cs) :
    InLines quote escapes quotes ('\\' :: (code ++ body)) (c :: cs)

theorem InLines.length_le (h : InLines quote escapes quotes body cs) :
    cs.length ≤ body.length := by
  induction h with
  | nil => exact Nat.le_refl 0
  | quote _ ih => exact Nat.succ_le_succ ih
  | char _ _ _ _ _ ih => exact Nat.succ_le_succ ih
  | escaped _ _ _ _ ih =>
    rw [List.length_cons, List.length_cons, List.length_append]
    omega

/-- A row of quotes that something else follows is read at once. -/
theorem length_takeWhile_replicate (hrest : rest.head? ≠ some quote) (n : Nat) :
    ((List.replicate n quote ++ rest).takeWhile (· == quote)).length = n := by
  rw [List.takeWhile_append_of_pos (by simp)]
  cases rest with
  | nil => simp
  | cons d rest =>
    have hd : d ≠ quote := fun h => hrest (congrArg some h)
    rw [List.takeWhile_cons_of_neg (by simpa using hd)]
    simp

/-- Up to two quotes that something else follows belong to the text. -/
theorem readLines_quotes (escapes : Bool) (hquotes : quotes ≤ 2) (hrest : rest.head? ≠ some quote)
    {left fuel : Nat} (hfuel : quotes + left < fuel) (done : List Char) : ∃ fuel', left ≤ fuel' ∧
      readLines quote escapes fuel done (List.replicate quotes quote ++ rest) =
        readLines quote escapes (fuel' + 1) (List.replicate quotes quote ++ done) rest := by
  obtain ⟨fuel, rfl⟩ := Nat.exists_eq_add_one.mpr (Nat.zero_lt_of_lt hfuel)
  cases quotes with
  | zero => exact ⟨fuel, by omega, rfl⟩
  | succ more =>
    obtain ⟨fuel, rfl⟩ : ∃ fuel', fuel = fuel' + 1 := Nat.exists_eq_add_one.mpr (by omega)
    refine ⟨fuel, by omega, ?_⟩
    rw [List.replicate_succ, List.cons_append, readLines, if_pos rfl,
      length_takeWhile_replicate hrest]
    simp [show more < 2 by omega, List.replicate_succ]

/-- Three quotes with up to two in front of them end the string. -/
theorem readLines_close (hquotes : quotes ≤ 2) (hrest : rest.head? ≠ some quote) {fuel : Nat}
    (hfuel : 0 < fuel) (done : List Char) :
    readLines quote escapes fuel done
        (List.replicate quotes quote ++ quote :: quote :: quote :: rest) =
      some (String.ofList (done.reverse ++ List.replicate quotes quote), rest) := by
  obtain ⟨fuel, rfl⟩ := Nat.exists_eq_add_one.mpr hfuel
  have hrow : List.replicate quotes quote ++ quote :: quote :: quote :: rest =
      quote :: (List.replicate (quotes + 2) quote ++ rest) := by
    rw [← List.cons_append, ← List.replicate_succ]
    simp only [List.replicate_succ', List.append_assoc, List.cons_append, List.nil_append]
  rw [hrow, readLines, if_pos rfl, length_takeWhile_replicate hrest]
  simp [show ¬quotes + 2 < 2 by omega, show quotes + 2 < 5 by omega]

theorem InLines.readLines (h : InLines quote escapes quotes body cs) (hquote : quote ≠ '\\')
    (hrest : rest.head? ≠ some quote) {fuel : Nat} (hfuel : quotes + cs.length < fuel)
    (done : List Char) :
    readLines quote escapes fuel done
        (List.replicate quotes quote ++ (body ++ quote :: quote :: quote :: rest)) =
      some (String.ofList (done.reverse ++ List.replicate quotes quote ++ cs), rest) := by
  induction h generalizing fuel done with
  | nil hquotes =>
    rw [List.nil_append, readLines_close hquotes hrest (Nat.zero_lt_of_lt hfuel), List.append_nil]
  | @quote quotes body cs h ih =>
    -- One more quote in front, which is not read before it is known what follows.
    have hrow (cs : List Char) : List.replicate quotes quote ++ quote :: cs =
        List.replicate (quotes + 1) quote ++ cs := by
      rw [List.replicate_succ', List.append_assoc]
      rfl
    rw [List.length_cons] at hfuel
    rw [List.cons_append, hrow, ih (by omega), List.append_assoc, List.append_assoc, hrow]
  | @char quotes c body cs hquotes hne hslash hplain h ih =>
    have hhead : (c :: (body ++ quote :: quote :: quote :: rest)).head? ≠ some quote := by
      simpa using hne
    have hcases : c = '\n' ∨ isPlain c = true ∨
        c = '\r' ∧ (body ++ quote :: quote :: quote :: rest).head? = some '\n' :=
      hplain.imp_right .inl
    obtain ⟨fuel, hleft, hread⟩ := readLines_quotes escapes hquotes hhead hfuel done
    have hstep := @ih fuel (by rw [Nat.zero_add]; exact hleft)
      (c :: (List.replicate quotes quote ++ done))
    rw [List.cons_append, hread, Quoted.readLines, if_neg hne, if_neg hslash, if_pos hcases]
    simpa using hstep
  | @escaped quotes c code body cs hquotes hescapes hcode h ih =>
    have hhead : ('\\' :: (code ++ body ++ quote :: quote :: quote :: rest)).head? ≠
        some quote := by simpa using hquote.symm
    obtain ⟨fuel, hleft, hread⟩ := readLines_quotes escapes hquotes hhead hfuel done
    have hstep := @ih fuel (by rw [Nat.zero_add]; exact hleft)
      (c :: (List.replicate quotes quote ++ done))
    rw [List.cons_append, hread, Quoted.readLines, if_neg hquote.symm, if_pos ⟨rfl, hescapes⟩,
      List.append_assoc, hcode.shown, hcode.read]
    simpa using hstep

/-- What is written of a text without line ends starts with none. -/
theorem InLines.lineEnd?_eq_none (h : InLines quote escapes quotes body cs) (hcs : '\n' ∉ cs)
    (hquote : quote ≠ '\n' ∧ quote ≠ '\r') :
    lineEnd? (body ++ quote :: quote :: quote :: rest) = none := by
  have hstarts {d : Char} (hnewline : d ≠ '\n') (hreturn : d ≠ '\r') (more : List Char) :
      lineEnd? (d :: more) = none := by
    unfold lineEnd?
    split
    · next h => exact absurd (List.cons.inj h).1 hnewline
    · next h => exact absurd (List.cons.inj h).1 hreturn
    · rfl
  cases h with
  | nil => exact hstarts hquote.1 hquote.2 _
  | quote => exact hstarts hquote.1 hquote.2 _
  | char _ _ _ hplain =>
    have hnewline := Ne.symm (List.ne_of_not_mem_cons hcs)
    refine hstarts hnewline ?_ _
    rintro rfl
    simp [isPlain] at hplain
  | escaped => exact hstarts (by decide) (by decide) _

theorem InLines.readBehind (h : InLines quote escapes 0 body cs) (hquote : quote ≠ '\\')
    (hends : quote ≠ '\n' ∧ quote ≠ '\r') (hrest : rest.head? ≠ some quote) :
    readBehind quote escapes (quote :: quote ::
        ((if cs.contains '\n' then ['\n'] else []) ++ body ++ quote :: quote :: quote :: rest)) =
      some (String.ofList cs, rest) := by
  have hlength := h.length_le
  have hfuel : 0 + cs.length < (body ++ quote :: quote :: quote :: rest).length + 1 := by
    rw [List.length_append]
    omega
  have hread := h.readLines hquote hrest hfuel []
  rw [Quoted.readBehind, if_pos (by simp)]
  by_cases hcs : '\n' ∈ cs
  · simpa [hcs, lineEnd?] using hread
  · have hnone : lineEnd? (body ++ quote :: quote :: quote :: rest) = none :=
      h.lineEnd?_eq_none hcs hends
    simpa [hcs, hnone] using hread

theorem inLines_writeLines (cs : List Char) (hquotes : quotes ≤ 2) :
    InLines '"' true quotes (writeLines quotes cs) cs := by
  induction cs generalizing quotes with
  | nil => exact .nil hquotes
  | cons c cs ih =>
    have hescaped (hneeds : NeedsEscape c) :
        InLines '"' true quotes (escape c ++ writeLines 0 cs) (c :: cs) := by
      obtain ⟨code, hescape, hcode⟩ := exists_escape hneeds
      rw [hescape]
      exact .escaped hquotes rfl hcode (ih (Nat.zero_le 2))
    unfold writeLines
    split
    · next hc =>
      subst hc
      split
      · exact hescaped (.inr (.inr (.inr rfl)))
      · exact .quote (ih (by omega))
    · next hquote =>
      split
      · next hc =>
        subst hc
        exact .char hquotes (by decide) (by decide) (.inl rfl) (ih (Nat.zero_le 2))
      · split
        · next h =>
          simp only [Bool.not_eq_true'] at h
          refine hescaped ?_
          rcases h with h | h | h
          · exact .inr (.inl h)
          · exact .inl h
          · exact .inr (.inr (.inl h))
        · next h =>
          simp only [not_or, Bool.not_eq_true', Bool.not_eq_false] at h
          exact .char hquotes hquote (fun hslash => h.2.2 hslash.1) (.inr h.2.1)
            (ih (Nat.zero_le 2))

theorem inLines_self (h : ∀ c ∈ cs, isPlain c = true ∨ c = '\n')
    (hrun : longestRun quote quotes cs ≤ 2) : InLines quote false quotes cs cs := by
  induction cs generalizing quotes with
  | nil => exact .nil hrun
  | cons c cs ih =>
    obtain ⟨hplain, hrest⟩ := List.forall_mem_cons.mp h
    unfold longestRun at hrun
    split at hrun
    · next hc =>
      subst hc
      exact .quote (ih hrest hrun)
    · next hc =>
      obtain ⟨hquotes, hrun⟩ := Nat.max_le.mp hrun
      exact .char hquotes hc (fun hslash => Bool.false_ne_true hslash.2) hplain.symm
        (ih hrest hrun)

/-! ## The four forms -/

/-- A text between its quotes: what follows the first quote is read back as the text, whatever
follows the string. -/
inductive Writes (text cs : List Char) : Prop where
  | double {body : List Char} (htext : text = '"' :: body)
    (hread : ∀ rest : List Char, rest.head? ≠ some '"' →
      readBehind '"' true (body ++ rest) = some (String.ofList cs, rest))
  | single {body : List Char} (htext : text = '\'' :: body)
    (hread : ∀ rest : List Char, rest.head? ≠ some '\'' →
      readBehind '\'' false (body ++ rest) = some (String.ofList cs, rest))

theorem formOf_cases (cs : List Char) : formOf cs = .double ∨ formOf cs = .tripleDouble ∨
    formOf cs = .single ∧ (∀ c ∈ cs, c ≠ '\'' ∧ isPlain c = true) ∨
    formOf cs = .tripleSingle ∧ (∀ c ∈ cs, isPlain c = true ∨ c = '\n') ∧
      longestRun '\'' 0 cs ≤ 2 := by
  unfold formOf
  split
  · next hall =>
    have hplain : ∀ c ∈ cs, isPlain c = true ∨ c = '\n' := by simpa using hall
    split
    · exact .inl rfl
    split
    · next h =>
      have hnot : '\'' ∉ cs ∧ '\n' ∉ cs := by simpa using h
      refine .inr (.inr (.inl ⟨rfl, fun c hc => ⟨?_, (hplain c hc).resolve_right ?_⟩⟩))
      · rintro rfl
        exact hnot.1 hc
      · rintro rfl
        exact hnot.2 hc
    split
    · exact .inr (.inl rfl)
    split
    · next h => exact .inr (.inr (.inr ⟨rfl, hplain, h⟩))
    split
    · exact .inr (.inl rfl)
    · exact .inl rfl
  · split
    · exact .inr (.inl rfl)
    · exact .inl rfl

/-- **What is written reads back**, whatever the text holds. -/
theorem writes_write (cs : List Char) : Writes (write cs) cs := by
  unfold write
  rcases formOf_cases cs with h | h | ⟨h, hplain⟩ | ⟨h, hplain, hrun⟩
  · simp only [h]
    refine .double rfl fun rest hrest => ?_
    simpa using (inLine_writeLine cs).readBehind (by decide) hrest
  · simp only [h]
    refine .double rfl fun rest hrest => ?_
    simpa using (inLines_writeLines cs (Nat.zero_le 2)).readBehind (by decide) (by decide) hrest
  · simp only [h]
    refine .single rfl fun rest hrest => ?_
    simpa using (inLine_self hplain).readBehind (by decide) hrest
  · simp only [h]
    refine .single rfl fun rest hrest => ?_
    simpa using (inLines_self hplain hrun).readBehind (by decide) (by decide) hrest

end GraphGateway.Toml.Quoted
