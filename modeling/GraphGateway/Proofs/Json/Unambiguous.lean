/-
The grammar is unambiguous, and every value of it is passed over.

The first character of a value tells its kind, and no value begins with a blank or as its container
ends, so at each turn one rule applies only; a token is told from what follows it because the reader
that passes over it stops there. So a text holds one value (`HoldsTree.unique`). The reader that passes
over values takes each of them up to its end, with as much fuel left as there is text
(`IsValue.skip`), and whatever depth it has (`skipValue_of_isValue`).
-/
import GraphGateway.Proofs.Json.Grammar

namespace GraphGateway.Json

/-! ## Lengths -/

theorem Gap.length_le {input rest : List Char} (h : Gap input rest) :
    rest.length ≤ input.length := by
  induction h with
  | nil => exact Nat.le_refl _
  | cons _ _ ih => exact Nat.le_succ_of_le ih

theorem Lead.length_le {first : Bool} {input rest : List Char} (h : Lead first input rest) :
    rest.length ≤ input.length := by
  cases h with
  | first h => exact h.length_le
  | next hcomma h => exact Nat.le_trans h.length_le (Nat.le_of_succ_le hcomma.length_le)

/-- A member's value stands behind its name and a colon. -/
theorem Lead.value_length_lt {first : Bool} {input name colon before value : List Char}
    (hlead : Lead first input ('"' :: (name ++ '"' :: colon))) (hcolon : Gap colon (':' :: before))
    (hgap : Gap before value) : value.length < input.length := by
  have hinput := hlead.length_le
  have hbefore := hcolon.length_le
  have hvalue := hgap.length_le
  simp only [List.length_cons, List.length_append] at hinput hbefore
  omega

mutual

theorem IsValue.length_lt {input rest : List Char} {tree : Tree} :
    IsValue input tree rest → rest.length < input.length
  | .null _ | .true _ | .false _ => by simp only [List.length_cons]; omega
  | .positive (.mk hwhole _ _) _ => by
    have hpos := List.length_pos_iff.mpr hwhole.isDigits.1
    simp only [List.length_append]
    omega
  | .negative _ _ | .string _ _ => by
    simp only [List.length_cons, List.length_append]
    omega
  | .array h => Nat.lt_succ_of_lt h.length_lt
  | .object h => Nat.lt_succ_of_lt h.length_lt

theorem AreItems.length_lt {first : Bool} {input rest : List Char} {items : List Tree} :
    AreItems first input items rest → rest.length < input.length
  | .close h => h.length_le
  | .item hlead hitem h => by
    have hvalue := hlead.length_le
    have hbehind := hitem.length_lt
    have hrest := h.length_lt
    omega

theorem AreMembers.length_lt {first : Bool} {input rest : List Char}
    {members : List (List Char × Tree)} :
    AreMembers first input members rest → rest.length < input.length
  | .close h => h.length_le
  | .member hlead _ hcolon hgap hvalue h => by
    have hbefore := hlead.value_length_lt hcolon hgap
    have hbehind := hvalue.length_lt
    have hrest := h.length_lt
    omega

end

/-! ## First characters -/

/-- The kinds of values that are told by their first character. -/
inductive Kind where
  | null
  | true
  | false
  | number
  | string
  | array
  | object

/-- The kind of the values that begin with a character, if any do. -/
def kindOf? (c : Char) : Option Kind :=
  if c = 'n' then some .null
  else if c = 't' then some .true
  else if c = 'f' then some .false
  else if c = '-' ∨ c.isDigit = true then some .number
  else if c = '"' then some .string
  else if c = '[' then some .array
  else if c = '\x7b' then some .object
  else none

def Tree.kind : Tree → Kind
  | .null => .null
  | .bool true => .true
  | .bool false => .false
  | .number _ => .number
  | .string _ => .string
  | .array _ => .array
  | .object _ => .object

theorem ne_of_isDigit {c d : Char} (hc : c.isDigit = true) (hd : d.isDigit = false) : c ≠ d := by
  rintro rfl
  exact absurd hc (by simp [hd])

theorem kindOf?_of_isDigit {c : Char} (h : c.isDigit = true) : kindOf? c = some .number := by
  rw [kindOf?, if_neg (ne_of_isDigit h rfl), if_neg (ne_of_isDigit h rfl),
    if_neg (ne_of_isDigit h rfl), if_pos (.inr h)]

theorem IsMagnitude.exists_digit {token : List Char} (h : IsMagnitude token) :
    ∃ c tail, token = c :: tail ∧ c.isDigit = true := by
  cases h with
  | mk hwhole =>
    obtain ⟨c, tail, rfl, hc⟩ := hwhole.exists_digit
    exact ⟨c, _, rfl, hc⟩

theorem IsValue.exists_head {value rest : List Char} {tree : Tree} (h : IsValue value tree rest) :
    ∃ c tail, value = c :: tail ∧ kindOf? c = some tree.kind := by
  cases h with
  | null | true | false | negative | string | array | object => exact ⟨_, _, rfl, rfl⟩
  | positive htoken =>
    obtain ⟨c, tail, rfl, hc⟩ := htoken.exists_digit
    exact ⟨c, _, rfl, kindOf?_of_isDigit hc⟩

theorem IsValue.kind_eq {value rest rest' : List Char} {tree tree' : Tree}
    (h : IsValue value tree rest) (h' : IsValue value tree' rest') : tree'.kind = tree.kind := by
  obtain ⟨c, tail, rfl, hkind⟩ := h.exists_head
  obtain ⟨c', tail', heq, hkind'⟩ := h'.exists_head
  cases heq
  exact Option.some.inj (hkind'.symm.trans hkind)

/-- What begins a value is neither blank nor the end of an array. -/
theorem not_close_of_kindOf? {c : Char} {kind : Kind} (h : kindOf? c = some kind) :
    isSpace c = false ∧ c ≠ ']' := by
  constructor
  · by_contra hspace
    simp only [isSpace, Bool.not_eq_false, Bool.or_eq_true, beq_iff_eq] at hspace
    rcases hspace with ((rfl | rfl) | rfl) | rfl <;> cases h
  · rintro rfl
    cases h

/-! ## Turns -/

/-- Blanks in front are dropped. -/
theorem Gap.skipSpace_congr {input rest : List Char} (h : Gap input rest) :
    skipSpace input = skipSpace rest := by
  induction h with
  | nil => rfl
  | cons hspace _ ih =>
    rw [skipSpace, List.dropWhile_cons_of_pos hspace]
    exact ih

theorem Gap.skipSpace_eq {input rest : List Char} {c : Char} (h : Gap input (c :: rest))
    (hc : isSpace c = false) : skipSpace input = c :: rest := by
  rw [h.skipSpace_congr, skipSpace_cons hc]

section Turns

variable {first : Bool} {input rest value : List Char}

theorem nextItem_of_close (h : Gap input (']' :: rest)) :
    nextItem first input = .ok (.close rest) := by
  rw [nextItem, h.skipSpace_eq rfl]
  rfl

theorem nextItem_of_lead {c : Char} (h : Lead first input (c :: value)) (hspace : isSpace c = false)
    (hclose : c ≠ ']') : nextItem first input = .ok (.next (c :: value)) := by
  cases h with
  | first h =>
    rw [nextItem, h.skipSpace_eq hspace]
    exact if_neg hclose
  | next hcomma h =>
    rw [nextItem, hcomma.skipSpace_eq rfl]
    dsimp only
    rw [if_neg (by decide), if_neg Bool.false_ne_true, if_pos rfl, h.skipSpace_eq hspace]
    exact if_neg hclose

theorem nextKey_of_close (h : Gap input ('\x7d' :: rest)) :
    nextKey first input = .ok (.close rest) := by
  rw [nextKey, h.skipSpace_eq rfl]
  rfl

theorem nextKey_of_lead (h : Lead first input ('"' :: rest)) :
    nextKey first input = .ok (.next rest) := by
  cases h with
  | first h =>
    rw [nextKey, h.skipSpace_eq rfl]
    rfl
  | next hcomma h =>
    rw [nextKey, hcomma.skipSpace_eq rfl]
    dsimp only
    rw [if_neg (by decide), if_neg Bool.false_ne_true, if_pos rfl, h.skipSpace_eq rfl]
    rfl

theorem readColon_of_gap (h : Gap input (':' :: rest)) : readColon input = .ok rest := by
  rw [readColon, h.skipSpace_eq rfl]
  rfl

/-- An item is next. -/
theorem nextItem_of_isValue {tree : Tree} {behind : List Char} (hlead : Lead first input value)
    (h : IsValue value tree behind) : nextItem first input = .ok (.next value) := by
  obtain ⟨c, tail, rfl, hkind⟩ := h.exists_head
  obtain ⟨hspace, hclose⟩ := not_close_of_kindOf? hkind
  exact nextItem_of_lead hlead hspace hclose

/-- What follows a value in a container does not continue it. -/
theorem ends_of_gap {c : Char} (h : Gap input (c :: rest)) (hc : c = ',' ∨ c = ']' ∨ c = '\x7d') :
    Ends input := by
  cases h with
  | nil => exact ends_cons (.inr hc) rest
  | cons hspace => exact ends_cons (.inl hspace) _

theorem Gap.ends (h : Gap input []) : Ends input := by
  cases h with
  | nil => exact ends_nil
  | cons hspace => exact ends_cons (.inl hspace) _

theorem Lead.ends (h : Lead first input rest) (hfirst : first = false) : Ends input := by
  cases h with
  | first => cases hfirst
  | next hcomma => exact ends_of_gap hcomma (.inl rfl)

theorem AreItems.ends {items : List Tree} (h : AreItems false input items rest) : Ends input := by
  cases h with
  | close h => exact ends_of_gap h (.inr (.inl rfl))
  | item hlead => exact hlead.ends rfl

theorem AreMembers.ends {members : List (List Char × Tree)}
    (h : AreMembers false input members rest) : Ends input := by
  cases h with
  | close h => exact ends_of_gap h (.inr (.inr rfl))
  | member hlead => exact hlead.ends rfl

end Turns

/-- A value is told from the blanks in front of it. -/
theorem IsValue.skipSpace_eq {input value rest : List Char} {tree : Tree}
    (h : IsValue value tree rest) (hgap : Gap input value) : skipSpace input = value := by
  obtain ⟨c, tail, rfl, hkind⟩ := h.exists_head
  exact hgap.skipSpace_eq (not_close_of_kindOf? hkind).1

/-! ## One value -/

theorem IsMagnitude.ne_minus {token magnitude rest rest' : List Char} (h : IsMagnitude token) :
    token ++ rest ≠ '-' :: (magnitude ++ rest') := by
  obtain ⟨c, tail, rfl, hc⟩ := h.exists_digit
  intro heq
  obtain ⟨rfl, -⟩ := List.cons.inj heq
  cases hc

theorem IsMagnitude.unique {token token' rest rest' : List Char} (h : IsMagnitude token)
    (h' : IsMagnitude token') (hends : Ends rest) (hends' : Ends rest')
    (heq : token ++ rest = token' ++ rest') : token = token' ∧ rest = rest' := by
  have hrest := skipNumeral_of_isMagnitude h hends
  rw [heq, skipNumeral_of_isMagnitude h' hends'] at hrest
  cases hrest
  exact ⟨List.append_cancel_right heq, rfl⟩

theorem IsBody.unique {body body' rest rest' : List Char} (h : IsBody body) (h' : IsBody body')
    (heq : body ++ '"' :: rest = body' ++ '"' :: rest') : body = body' ∧ rest = rest' := by
  have hrest := skipString_of_isBody h rest
  rw [heq, skipString_of_isBody h' rest'] at hrest
  cases hrest
  exact ⟨List.append_cancel_right heq, rfl⟩

theorem Gap.value_unique {input value value' rest rest' : List Char} {tree tree' : Tree}
    (hgap : Gap input value) (hgap' : Gap input value') (h : IsValue value tree rest)
    (h' : IsValue value' tree' rest') : value = value' :=
  (h.skipSpace_eq hgap).symm.trans (h'.skipSpace_eq hgap')

mutual

/-- A text begins with one value. -/
theorem IsValue.unique {input rest : List Char} {tree : Tree} : IsValue input tree rest →
    ∀ {input' tree' rest'}, IsValue input' tree' rest' → input = input' → Ends rest → Ends rest' →
      tree = tree' ∧ rest = rest'
  | .null _, _, _, _, h', heq, _, _ => by
    have hkind := IsValue.kind_eq (.null _) (heq ▸ h')
    cases h' with
    | null => cases heq; exact ⟨rfl, rfl⟩
    | _ => cases hkind
  | .true _, _, _, _, h', heq, _, _ => by
    have hkind := IsValue.kind_eq (.true _) (heq ▸ h')
    cases h' with
    | true => cases heq; exact ⟨rfl, rfl⟩
    | _ => cases hkind
  | .false _, _, _, _, h', heq, _, _ => by
    have hkind := IsValue.kind_eq (.false _) (heq ▸ h')
    cases h' with
    | false => cases heq; exact ⟨rfl, rfl⟩
    | _ => cases hkind
  | .positive htoken _, _, _, _, h', heq, hends, hends' => by
    have hkind := IsValue.kind_eq (.positive htoken _) (heq ▸ h')
    cases h' with
    | positive htoken' =>
      obtain ⟨rfl, rfl⟩ := htoken.unique htoken' hends hends' heq
      exact ⟨rfl, rfl⟩
    | negative => exact absurd heq htoken.ne_minus
    | _ => cases hkind
  | .negative htoken _, _, _, _, h', heq, hends, hends' => by
    have hkind := IsValue.kind_eq (.negative htoken _) (heq ▸ h')
    cases h' with
    | positive htoken' => exact absurd heq.symm htoken'.ne_minus
    | negative htoken' =>
      obtain ⟨rfl, rfl⟩ := htoken.unique htoken' hends hends' (List.cons.inj heq).2
      exact ⟨rfl, rfl⟩
    | _ => cases hkind
  | .string hbody _, _, _, _, h', heq, _, _ => by
    have hkind := IsValue.kind_eq (.string hbody _) (heq ▸ h')
    cases h' with
    | string hbody' =>
      obtain ⟨rfl, rfl⟩ := hbody.unique hbody' (List.cons.inj heq).2
      exact ⟨rfl, rfl⟩
    | _ => cases hkind
  | .array hitems, _, _, _, h', heq, _, _ => by
    have hkind := IsValue.kind_eq (.array hitems) (heq ▸ h')
    cases h' with
    | array hitems' =>
      obtain ⟨rfl, rfl⟩ := hitems.unique hitems' (List.cons.inj heq).2
      exact ⟨rfl, rfl⟩
    | _ => cases hkind
  | .object hmembers, _, _, _, h', heq, _, _ => by
    have hkind := IsValue.kind_eq (.object hmembers) (heq ▸ h')
    cases h' with
    | object hmembers' =>
      obtain ⟨rfl, rfl⟩ := hmembers.unique hmembers' (List.cons.inj heq).2
      exact ⟨rfl, rfl⟩
    | _ => cases hkind

theorem AreItems.unique {first : Bool} {input rest : List Char} {items : List Tree} :
    AreItems first input items rest → ∀ {input' items' rest'},
      AreItems first input' items' rest' → input = input' → items = items' ∧ rest = rest'
  | .close hclose, _, _, _, h', heq => by
    have hturn : nextItem first _ = _ := nextItem_of_close hclose
    cases h' with
    | close hclose' =>
      rw [heq, nextItem_of_close hclose'] at hturn
      cases hturn
      exact ⟨rfl, rfl⟩
    | item hlead' hitem' =>
      rw [heq, nextItem_of_isValue hlead' hitem'] at hturn
      cases hturn
  | .item hlead hitem h, _, _, _, h', heq => by
    have hturn := nextItem_of_isValue hlead hitem
    cases h' with
    | close hclose' =>
      rw [heq, nextItem_of_close hclose'] at hturn
      cases hturn
    | item hlead' hitem' h' =>
      rw [heq, nextItem_of_isValue hlead' hitem'] at hturn
      cases hturn
      obtain ⟨rfl, rfl⟩ := hitem.unique hitem' rfl h.ends h'.ends
      obtain ⟨rfl, rfl⟩ := h.unique h' rfl
      exact ⟨rfl, rfl⟩

theorem AreMembers.unique {first : Bool} {input rest : List Char}
    {members : List (List Char × Tree)} : AreMembers first input members rest →
      ∀ {input' members' rest'}, AreMembers first input' members' rest' → input = input' →
        members = members' ∧ rest = rest'
  | .close hclose, _, _, _, h', heq => by
    have hturn : nextKey first _ = _ := nextKey_of_close hclose
    cases h' with
    | close hclose' =>
      rw [heq, nextKey_of_close hclose'] at hturn
      cases hturn
      exact ⟨rfl, rfl⟩
    | member hlead' =>
      rw [heq, nextKey_of_lead hlead'] at hturn
      cases hturn
  | .member hlead hname hcolon hgap hvalue h, _, _, _, h', heq => by
    have hturn := nextKey_of_lead hlead
    cases h' with
    | close hclose' =>
      rw [heq, nextKey_of_close hclose'] at hturn
      cases hturn
    | member hlead' hname' hcolon' hgap' hvalue' h' =>
      rw [heq, nextKey_of_lead hlead'] at hturn
      obtain ⟨rfl, rfl⟩ := hname.unique hname' (Turn.next.inj (Except.ok.inj hturn)).symm
      have hbefore := readColon_of_gap hcolon
      rw [readColon_of_gap hcolon'] at hbefore
      cases hbefore
      obtain ⟨rfl, rfl⟩ := hvalue.unique hvalue' (hgap.value_unique hgap' hvalue hvalue') h.ends
        h'.ends
      obtain ⟨rfl, rfl⟩ := h.unique h' rfl
      exact ⟨rfl, rfl⟩

end

/-- A text holds one value. -/
theorem HoldsTree.unique {text : String} {tree tree' : Tree} (h : HoldsTree text tree)
    (h' : HoldsTree text tree') : tree = tree' := by
  obtain ⟨value, behind, hgap, hvalue, hend⟩ := h
  obtain ⟨value', behind', hgap', hvalue', hend'⟩ := h'
  exact (hvalue.unique hvalue' (hgap.value_unique hgap' hvalue hvalue') hend.ends hend'.ends).1

/-! ## Passing over -/

theorem skipKey_of_gap {input name colon before : List Char}
    (hgap : Gap input ('"' :: (name ++ '"' :: colon))) (hname : IsBody name)
    (hcolon : Gap colon (':' :: before)) : skipKey input = .ok before := by
  rw [skipKey, hgap.skipSpace_eq rfl]
  dsimp only
  rw [if_pos rfl, skipString_of_isBody hname]
  exact readColon_of_gap hcolon

/-- Blanks and a character take up a step. -/
theorem Gap.exists_fuel {input tail fuel : List Char} {c : Char} (h : Gap input (c :: tail))
    (hfuel : input.length ≤ fuel.length) :
    ∃ f left, fuel = f :: left ∧ tail.length ≤ left.length := by
  have hlength := Nat.le_trans h.length_le hfuel
  rw [List.length_cons] at hlength
  obtain ⟨f, left, rfl⟩ := List.exists_cons_of_length_pos (by omega : 0 < fuel.length)
  exact ⟨f, left, rfl, Nat.le_of_succ_le_succ hlength⟩

/-- Passing over a part of a text inside brackets goes on behind it, with fuel enough for what
follows. -/
def SkipsTo (inside : List Bracket) (rest : List Char) (skipped : Except Fault (List Char)) : Prop :=
  ∃ left, rest.length ≤ left.length ∧ skipped = skipAfter left inside rest

section Tokens

variable {fuel input rest : List Char} (inside : List Bracket)

/-- A token is passed over in one step. -/
theorem SkipsTo.of_token {c : Char} {tail : List Char} (hgap : Gap input (c :: tail))
    (hspace : isSpace c = false) (hfuel : input.length ≤ fuel.length)
    (hrest : rest.length ≤ tail.length)
    (hstep : ∀ f left, skipSpace input = c :: tail →
      skipFrom (f :: left) inside input = skipAfter left inside rest) :
    SkipsTo inside rest (skipFrom fuel inside input) := by
  obtain ⟨f, left, rfl, hleft⟩ := hgap.exists_fuel hfuel
  exact ⟨left, Nat.le_trans hrest hleft, hstep f left (hgap.skipSpace_eq hspace)⟩

end Tokens

mutual

/-- A value is passed over up to its end. -/
theorem IsValue.skip {value rest : List Char} {tree : Tree} : IsValue value tree rest →
    ∀ {fuel input : List Char} (inside : List Bracket), Gap input value → Ends rest →
      input.length ≤ fuel.length → SkipsTo inside rest (skipFrom fuel inside input)
  | .null rest, _, _, inside, hgap, _, hfuel => by
    refine .of_token inside hgap rfl hfuel (by simp only [List.length_cons]; omega)
      fun f left hskip => ?_
    rw [skipFrom, hskip]
    rfl
  | .true rest, _, _, inside, hgap, _, hfuel => by
    refine .of_token inside hgap rfl hfuel (by simp only [List.length_cons]; omega)
      fun f left hskip => ?_
    rw [skipFrom, hskip]
    rfl
  | .false rest, _, _, inside, hgap, _, hfuel => by
    refine .of_token inside hgap rfl hfuel (by simp only [List.length_cons]; omega)
      fun f left hskip => ?_
    rw [skipFrom, hskip]
    rfl
  | .positive htoken rest, _, _, inside, hgap, hends, hfuel => by
    have hnumeral := skipNumeral_of_isMagnitude htoken hends
    obtain ⟨c, tail, rfl, hc⟩ := htoken.exists_digit
    rw [List.cons_append] at hgap hnumeral
    have hkind := kindOf?_of_isDigit hc
    refine .of_token inside hgap (not_close_of_kindOf? hkind).1 hfuel (by simp) fun f left hskip => ?_
    rw [skipFrom, hskip]
    dsimp only
    rw [if_neg (ne_of_isDigit hc rfl), if_neg (ne_of_isDigit hc rfl),
      if_neg (ne_of_isDigit hc rfl), if_neg (ne_of_isDigit hc rfl), if_pos hc, hnumeral]
    rfl
  | .negative htoken rest, _, _, inside, hgap, hends, hfuel => by
    refine .of_token inside hgap rfl hfuel (by simp) fun f left hskip => ?_
    rw [skipFrom, hskip]
    dsimp only
    rw [if_neg (by decide), if_neg (by decide), if_neg (by decide), if_pos rfl,
      skipNumeral_of_isMagnitude htoken hends]
    rfl
  | .string hbody rest, _, _, inside, hgap, _, hfuel => by
    refine .of_token inside hgap rfl hfuel (by simp; omega) fun f left hskip => ?_
    rw [skipFrom, hskip]
    dsimp only
    rw [if_neg (by decide), if_neg (by decide), if_neg (by decide), if_neg (by decide),
      if_neg (by decide), if_pos rfl, skipString_of_isBody hbody]
    rfl
  | .array (.close hclose), _, _, inside, hgap, _, hfuel => by
    refine .of_token inside hgap rfl hfuel (Nat.le_of_succ_le hclose.length_le) fun f left hskip => ?_
    rw [skipFrom, hskip]
    dsimp only
    rw [if_neg (by decide), if_neg (by decide), if_neg (by decide), if_neg (by decide),
      if_neg (by decide), if_neg (by decide), if_pos rfl, hclose.skipSpace_eq rfl]
    rfl
  | .array (.item (.first hlead) hitem h), _, _, inside, hgap, _, hfuel => by
    obtain ⟨f, left, rfl, hleft⟩ := hgap.exists_fuel hfuel
    have hvalue := Nat.le_trans hlead.length_le hleft
    obtain ⟨next, hnext, hskip⟩ := hitem.skip (.square :: inside) (.nil _) h.ends hvalue
    obtain ⟨last, hlast, hskips⟩ := h.skip inside rfl hnext
    refine ⟨last, hlast, ?_⟩
    rw [← hskips, ← hskip, skipFrom, hgap.skipSpace_eq rfl]
    dsimp only
    rw [if_neg (by decide), if_neg (by decide), if_neg (by decide), if_neg (by decide),
      if_neg (by decide), if_neg (by decide), if_pos rfl, hitem.skipSpace_eq hlead]
    obtain ⟨d, tail, rfl, hkind⟩ := hitem.exists_head
    exact if_neg (not_close_of_kindOf? hkind).2
  | .object (.close hclose), _, _, inside, hgap, _, hfuel => by
    refine .of_token inside hgap rfl hfuel (Nat.le_of_succ_le hclose.length_le) fun f left hskip => ?_
    rw [skipFrom, hskip]
    dsimp only
    rw [if_neg (by decide), if_neg (by decide), if_neg (by decide), if_neg (by decide),
      if_neg (by decide), if_neg (by decide), if_neg (by decide), if_pos rfl,
      hclose.skipSpace_eq rfl]
    rfl
  | .object (.member (.first hlead) hname hcolon hbefore hvalue h), _, _, inside, hgap, _, hfuel => by
    obtain ⟨f, left, rfl, hleft⟩ := hgap.exists_fuel hfuel
    have hlength := (Lead.first hlead).value_length_lt hcolon (.nil _)
    have hvalue' := Nat.le_trans (Nat.le_of_lt hlength) hleft
    obtain ⟨next, hnext, hskip⟩ := hvalue.skip (.curly :: inside) hbefore h.ends hvalue'
    obtain ⟨last, hlast, hskips⟩ := h.skip inside rfl hnext
    refine ⟨last, hlast, ?_⟩
    rw [← hskips, ← hskip, skipFrom, hgap.skipSpace_eq rfl]
    dsimp only
    rw [if_neg (by decide), if_neg (by decide), if_neg (by decide), if_neg (by decide),
      if_neg (by decide), if_neg (by decide), if_neg (by decide), if_pos rfl,
      hlead.skipSpace_eq rfl]
    dsimp only
    rw [if_neg (by decide), skipKey_of_gap (.nil _) hname hcolon]
    rfl

theorem AreItems.skip {first : Bool} {input rest : List Char} {items : List Tree} :
    AreItems first input items rest → ∀ {fuel : List Char} (inside : List Bracket), first = false →
      input.length ≤ fuel.length → SkipsTo inside rest (skipAfter fuel (.square :: inside) input)
  | .close hclose, _, inside, _, hfuel => by
    obtain ⟨f, left, rfl, hleft⟩ := hclose.exists_fuel hfuel
    refine ⟨left, hleft, ?_⟩
    rw [skipAfter, hclose.skipSpace_eq rfl]
    rfl
  | .item (.next hcomma hgap) hitem h, _, inside, _, hfuel => by
    obtain ⟨f, left, rfl, hleft⟩ := hcomma.exists_fuel hfuel
    obtain ⟨next, hnext, hskip⟩ := hitem.skip (.square :: inside) hgap h.ends hleft
    obtain ⟨last, hlast, hskips⟩ := h.skip inside rfl hnext
    refine ⟨last, hlast, ?_⟩
    rw [← hskips, ← hskip, skipAfter, hcomma.skipSpace_eq rfl]
    rfl

theorem AreMembers.skip {first : Bool} {input rest : List Char}
    {members : List (List Char × Tree)} : AreMembers first input members rest →
      ∀ {fuel : List Char} (inside : List Bracket), first = false → input.length ≤ fuel.length →
        SkipsTo inside rest (skipAfter fuel (.curly :: inside) input)
  | .close hclose, _, inside, _, hfuel => by
    obtain ⟨f, left, rfl, hleft⟩ := hclose.exists_fuel hfuel
    refine ⟨left, hleft, ?_⟩
    rw [skipAfter, hclose.skipSpace_eq rfl]
    rfl
  | .member (.next hcomma hgap) hname hcolon hbefore hvalue h, _, inside, _, hfuel => by
    obtain ⟨f, left, rfl, hleft⟩ := hcomma.exists_fuel hfuel
    have hlength := (Lead.first hgap).value_length_lt hcolon (.nil _)
    have hvalue' := Nat.le_trans (Nat.le_of_lt hlength) hleft
    obtain ⟨next, hnext, hskip⟩ := hvalue.skip (.curly :: inside) hbefore h.ends hvalue'
    obtain ⟨last, hlast, hskips⟩ := h.skip inside rfl hnext
    refine ⟨last, hlast, ?_⟩
    rw [← hskips, ← hskip, skipAfter, hcomma.skipSpace_eq rfl]
    dsimp only
    rw [if_pos rfl, skipKey_of_gap hgap hname hcolon]
    rfl

end

/-- A value of any depth is passed over. -/
theorem skipValue_of_isValue {input value rest : List Char} {tree : Tree} (hgap : Gap input value)
    (h : IsValue value tree rest) (hends : Ends rest) : skipValue input = .ok rest := by
  obtain ⟨left, -, hskip⟩ := h.skip [] hgap hends (Nat.le_refl _)
  rw [skipValue, hskip, skipAfter]

end GraphGateway.Json
