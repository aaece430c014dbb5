/-
The grammar of JSON values, and that what is read or passed over as a value is one.

A value is told by its tokens, each as it is written (`Tree`), and blanks may stand between any two
of them. The grammar relates a text to what is left behind the value, as the readers do, so that
every step of a reader is one of its rules. Two readers go over values: one gives back what the tokens
mean (`Means`) and stops at a nesting limit, the other only passes over them and keeps the open
brackets in a list. What such a list still asks of the text is `Closes`.
-/
import GraphGateway.Proofs.Json.Spelling

namespace GraphGateway.Json

/-! ## Values -/

/-- A value by its tokens: numbers, strings and names of members are as they are written. -/
inductive Tree where
  | null
  | bool (value : Bool)
  | number (token : List Char)
  | string (body : List Char)
  | array (items : List Tree)
  | object (members : List (List Char × Tree))

/-- What stands in front of an element of a container: blanks, with a comma among them unless the
element is the first. -/
inductive Lead : Bool → List Char → List Char → Prop where
  | first {input rest : List Char} (h : Gap input rest) : Lead true input rest
  | next {input behind rest : List Char} (hcomma : Gap input (',' :: behind))
    (h : Gap behind rest) : Lead false input rest

theorem Lead.gap {first : Bool} {input behind rest : List Char} (h : Lead first input behind)
    (hgap : Gap behind rest) : Lead first input rest := by
  cases h with
  | first h => exact .first (h.trans hgap)
  | next hcomma h => exact .next hcomma (h.trans hgap)

mutual

/-- A value stands at the front of a text, and `rest` behind it. -/
inductive IsValue : List Char → Tree → List Char → Prop where
  | null (rest : List Char) : IsValue ('n' :: 'u' :: 'l' :: 'l' :: rest) .null rest
  | true (rest : List Char) : IsValue ('t' :: 'r' :: 'u' :: 'e' :: rest) (.bool true) rest
  | false (rest : List Char) : IsValue ('f' :: 'a' :: 'l' :: 's' :: 'e' :: rest) (.bool false) rest
  | positive {token : List Char} (h : IsMagnitude token) (rest : List Char) :
    IsValue (token ++ rest) (.number token) rest
  | negative {token : List Char} (h : IsMagnitude token) (rest : List Char) :
    IsValue ('-' :: (token ++ rest)) (.number ('-' :: token)) rest
  | string {body : List Char} (h : IsBody body) (rest : List Char) :
    IsValue ('"' :: (body ++ '"' :: rest)) (.string body) rest
  | array {input rest : List Char} {items : List Tree} (h : AreItems true input items rest) :
    IsValue ('[' :: input) (.array items) rest
  | object {input rest : List Char} {members : List (List Char × Tree)}
    (h : AreMembers true input members rest) : IsValue ('\x7b' :: input) (.object members) rest

/-- Items of an array and its closing bracket; `first` if no item stands before them. -/
inductive AreItems : Bool → List Char → List Tree → List Char → Prop where
  | close {first : Bool} {input rest : List Char} (h : Gap input (']' :: rest)) :
    AreItems first input [] rest
  | item {first : Bool} {input value behind rest : List Char} {item : Tree} {items : List Tree}
    (hlead : Lead first input value) (hitem : IsValue value item behind)
    (h : AreItems false behind items rest) : AreItems first input (item :: items) rest

/-- Members of an object and its closing bracket; `first` if no member stands before them. -/
inductive AreMembers : Bool → List Char → List (List Char × Tree) → List Char → Prop where
  | close {first : Bool} {input rest : List Char} (h : Gap input ('\x7d' :: rest)) :
    AreMembers first input [] rest
  | member {first : Bool} {input name colon before value behind rest : List Char} {tree : Tree}
    {members : List (List Char × Tree)} (hlead : Lead first input ('"' :: (name ++ '"' :: colon)))
    (hname : IsBody name) (hcolon : Gap colon (':' :: before)) (hgap : Gap before value)
    (hvalue : IsValue value tree behind) (h : AreMembers false behind members rest) :
    AreMembers first input ((name, tree) :: members) rest

end

/-- A text that holds a value, with blanks around it. -/
def HoldsTree (text : String) (tree : Tree) : Prop :=
  ∃ value behind, Gap text.toList value ∧ IsValue value tree behind ∧ Gap behind []

/-! What stands behind a part of a text is part of the text. -/

theorem Lead.subset {first : Bool} {input rest : List Char} (h : Lead first input rest) :
    rest ⊆ input := by
  cases h with
  | first h => exact h.subset
  | next hcomma h => exact List.Subset.trans (List.subset_cons_of_subset _ h.subset) hcomma.subset

/-- A member's value stands behind its name and a colon. -/
theorem Lead.value_subset {first : Bool} {input name colon before value : List Char}
    (hlead : Lead first input ('"' :: (name ++ '"' :: colon))) (hcolon : Gap colon (':' :: before))
    (hgap : Gap before value) : value ⊆ input := by
  have hname : value ⊆ colon :=
    List.Subset.trans (List.subset_cons_of_subset _ hgap.subset) hcolon.subset
  refine List.Subset.trans (fun c hc => ?_) hlead.subset
  simp [hname hc]

mutual

theorem IsValue.subset {input rest : List Char} {tree : Tree} :
    IsValue input tree rest → rest ⊆ input
  | .null _ | .true _ | .false _ => fun c hc => by simp [hc]
  | .positive _ _ => List.subset_append_right _ _
  | .negative _ _ => List.subset_cons_of_subset _ (List.subset_append_right _ _)
  | .string _ _ => fun c hc => by simp [hc]
  | .array h => List.subset_cons_of_subset _ h.subset
  | .object h => List.subset_cons_of_subset _ h.subset

theorem AreItems.subset {first : Bool} {input rest : List Char} {items : List Tree} :
    AreItems first input items rest → rest ⊆ input
  | .close h => List.Subset.trans (List.subset_cons_self _ _) h.subset
  | .item hlead hitem h =>
    List.Subset.trans (List.Subset.trans h.subset hitem.subset) hlead.subset

theorem AreMembers.subset {first : Bool} {input rest : List Char}
    {members : List (List Char × Tree)} : AreMembers first input members rest → rest ⊆ input
  | .close h => List.Subset.trans (List.subset_cons_self _ _) h.subset
  | .member hlead _ hcolon hgap hvalue h =>
    List.Subset.trans (List.Subset.trans h.subset hvalue.subset)
      (hlead.value_subset hcolon hgap)

end

theorem IsValue.string_subset {input body rest : List Char}
    (h : IsValue input (.string body) rest) : body ⊆ input := by
  cases h with
  | string => exact fun c hc => by simp [hc]

/-- What stands between the quotes of a member that is a string stands in the text of the members. -/
theorem AreMembers.string_subset {first : Bool} {input rest name body : List Char}
    {members : List (List Char × Tree)} : AreMembers first input members rest →
    (name, .string body) ∈ members → body ⊆ input
  | .close _, hm => nomatch hm
  | .member hlead _ hcolon hgap hvalue h, hm => by
    have hinput := hlead.value_subset hcolon hgap
    rcases List.mem_cons.mp hm with heq | hm
    · cases heq
      exact List.Subset.trans hvalue.string_subset hinput
    · exact List.Subset.trans (List.Subset.trans (h.string_subset hm) hvalue.subset) hinput

/-- A reader takes values off texts. -/
def TakesValues {α : Type} (read : Reader α) (fits : Tree → α → Prop) : Prop :=
  ∀ input a rest, read input = .ok (a, rest) →
    ∃ value tree, Gap input value ∧ IsValue value tree rest ∧ fits tree a

theorem TakesValues.mono {α : Type} {read : Reader α} {fits fits' : Tree → α → Prop}
    (h : TakesValues read fits) (hfits : ∀ tree a, fits tree a → fits' tree a) :
    TakesValues read fits' := by
  intro input a rest hread
  obtain ⟨value, tree, hgap, hvalue, hold⟩ := h input a rest hread
  exact ⟨value, tree, hgap, hvalue, hfits tree a hold⟩

/-! ## Containers -/

/-- A container goes on with its closing bracket, or with an element that begins as told. -/
inductive Goes (closing : Char) (opening : List Char) (first : Bool) (input : List Char) :
    Turn → Prop where
  | close {rest : List Char} (h : Gap input (closing :: rest)) :
    Goes closing opening first input (.close rest)
  | next {rest : List Char} (h : Lead first input (opening ++ rest)) :
    Goes closing opening first input (.next rest)

section Containers

variable {first : Bool} {input rest : List Char}

theorem nextItem_sound {turn : Turn} (h : nextItem first input = .ok turn) :
    Goes ']' [] first input turn := by
  unfold nextItem at h
  split at h
  · cases h
  · next c behind hspace =>
    have hgap := gap_of_skipSpace hspace
    split at h
    · next hc =>
      cases h
      exact .close (hc ▸ hgap)
    · split at h
      · next hfirst =>
        cases h
        subst hfirst
        exact .next (.first hgap)
      · next hfirst =>
        obtain rfl : first = false := by simpa using hfirst
        split at h
        · next hc =>
          subst hc
          split at h
          · cases h
          · next d behind hspace =>
            split at h
            · cases h
            · cases h
              exact .next (.next hgap (gap_of_skipSpace hspace))
        · cases h

theorem nextKey_sound {turn : Turn} (h : nextKey first input = .ok turn) :
    Goes '\x7d' ['"'] first input turn := by
  unfold nextKey at h
  split at h
  · cases h
  · next c behind hspace =>
    have hgap := gap_of_skipSpace hspace
    split at h
    · next hc =>
      cases h
      exact .close (hc ▸ hgap)
    · split at h
      · next hfirst =>
        subst hfirst
        split at h
        · next hc =>
          cases h
          exact .next (.first (hc ▸ hgap))
        · cases h
      · next hfirst =>
        obtain rfl : first = false := by simpa using hfirst
        split at h
        · next hc =>
          subst hc
          split at h
          · cases h
          · next d behind hspace =>
            split at h
            · next hd =>
              cases h
              exact .next (.next hgap (hd ▸ gap_of_skipSpace hspace))
            · split at h <;> cases h
        · cases h

theorem readColon_sound (h : readColon input = .ok rest) : Gap input (':' :: rest) := by
  unfold readColon at h
  split at h
  · cases h
  · next c behind hspace =>
    split at h
    · next hc =>
      cases h
      exact hc ▸ gap_of_skipSpace hspace
    · cases h

theorem readItems_sound {α : Type} {item : Reader α} {fits : Tree → α → Prop}
    (hitem : TakesValues item fits) {fuel : List Char} {done as : List α}
    (h : readItems item fuel done input = .ok (as, rest)) :
    ∃ items new, AreItems done.isEmpty input items rest ∧ as = done.reverse ++ new ∧
      List.Forall₂ fits items new := by
  induction fuel generalizing done input with
  | nil => cases h
  | cons f fuel ih =>
    rw [readItems] at h
    split at h
    · cases h
    · next hnext =>
      cases h
      cases nextItem_sound hnext with
      | close hgap => exact ⟨[], [], .close hgap, by simp, .nil⟩
    · next behind hnext =>
      cases nextItem_sound hnext with
      | next hlead =>
        split at h
        · cases h
        · next a behind hread =>
          obtain ⟨value, tree, hgap, hvalue, hfits⟩ := hitem _ _ _ hread
          obtain ⟨items, new, hitems, has, hnew⟩ := ih h
          exact ⟨tree :: items, a :: new, .item (hlead.gap hgap) hvalue hitems, by simp [has],
            .cons hfits hnew⟩

/-- A member has the name that it spells, and its value is told by a relation. -/
def MemberOf (fits : Tree → Json → Prop) (member : List Char × Tree) (m : String × Json) : Prop :=
  Spells member.1 m.1.toList ∧ fits member.2 m.2

theorem readMembers_sound {value : Reader Json} {fits : Tree → Json → Prop}
    (hvalue : TakesValues value fits) {fuel : List Char} {done ms : Members}
    (h : readMembers value fuel done input = .ok (ms, rest)) :
    ∃ members new, AreMembers done.isEmpty input members rest ∧ ms = done.reverse ++ new ∧
      List.Forall₂ (MemberOf fits) members new := by
  induction fuel generalizing done input with
  | nil => cases h
  | cons f fuel ih =>
    rw [readMembers] at h
    split at h
    · cases h
    · next hnext =>
      cases h
      cases nextKey_sound hnext with
      | close hgap => exact ⟨[], [], .close hgap, by simp, .nil⟩
    · next behind hnext =>
      cases nextKey_sound hnext with
      | next hlead =>
        obtain ⟨⟨name, colon⟩, hname, hcolon⟩ := bind_eq_ok_iff.mp h
        obtain ⟨before, hbefore, hread⟩ := bind_eq_ok_iff.mp hcolon
        obtain ⟨⟨v, behind⟩, hv, hothers⟩ := bind_eq_ok_iff.mp hread
        obtain ⟨body, hspells, rfl⟩ := readString_sound hname
        obtain ⟨text, tree, hgap, htext, hfits⟩ := hvalue _ _ _ hv
        obtain ⟨members, new, hmembers, hms, hnew⟩ := ih hothers
        exact ⟨(body, tree) :: members, (name, v) :: new,
          .member hlead hspells.isBody (readColon_sound hbefore) hgap htext hmembers,
          by simp [hms], .cons ⟨hspells, hfits⟩ hnew⟩

end Containers

/-! ## Values that are read -/

/-- The number of a token, sign included. -/
inductive Numbers : List Char → Numeral → Prop where
  | positive {token : List Char} {n : Numeral} (htoken : IsMagnitude token)
    (h : ∀ rest, Ends rest → readNumeral false (token ++ rest) = .ok (n, rest)) : Numbers token n
  | negative {token : List Char} {n : Numeral} (htoken : IsMagnitude token)
    (h : ∀ rest, Ends rest → readNumeral true (token ++ rest) = .ok (n, rest)) :
    Numbers ('-' :: token) n

/-- What the tokens of a value mean, brackets nested at most so deep. -/
def Means : Nat → Tree → Json → Prop
  | _, .null, .null => True
  | _, .bool value, .bool b => value = b
  | _, .number token, .number n => Numbers token n
  | _, .string body, .string s => Spells body s.toList
  | levels + 1, .array items, .array js => List.Forall₂ (Means levels) items js
  | levels + 1, .object members, .object ms => List.Forall₂ (MemberOf (Means levels)) members ms
  | _, _, _ => False

namespace Means

variable {levels : Nat} {j : Json}

theorem null_iff : Means levels .null j ↔ j = .null := by
  cases j <;> cases levels <;> simp [Means]

theorem bool_iff {b : Bool} : Means levels (.bool b) j ↔ j = .bool b := by
  cases j <;> cases levels <;> simp [Means, eq_comm]

theorem number_iff {token : List Char} :
    Means levels (.number token) j ↔ ∃ n, j = .number n ∧ Numbers token n := by
  cases j <;> cases levels <;> simp [Means]

theorem string_iff {body : List Char} :
    Means levels (.string body) j ↔ ∃ s, j = .string s ∧ Spells body s.toList := by
  cases j <;> cases levels <;> simp [Means]

theorem array_iff {items : List Tree} : Means levels (.array items) j ↔
    ∃ inner js, levels = inner + 1 ∧ j = .array js ∧ List.Forall₂ (Means inner) items js := by
  cases j <;> cases levels <;> simp [Means]

theorem object_iff {members : List (List Char × Tree)} : Means levels (.object members) j ↔
    ∃ inner ms, levels = inner + 1 ∧ j = .object ms ∧
      List.Forall₂ (MemberOf (Means inner)) members ms := by
  cases j <;> cases levels <;> simp [Means]

end Means

/-- What is read as `null` is written so, and nothing else is. -/
def NullAlike (tree : Tree) (j : Json) : Prop := tree = .null ↔ j = .null

theorem Means.nullAlike {levels : Nat} {tree : Tree} {j : Json} (h : Means levels tree j) :
    NullAlike tree j := by
  cases tree <;> cases j <;> simp [NullAlike] <;> cases levels <;> exact h

/-- Letters that stand for one value. -/
theorem map_readLetters_sound {α : Type} {letters input rest : List Char} {v a : α}
    (h : (readLetters letters input).map (v, ·) = .ok (a, rest)) :
    v = a ∧ input = letters ++ rest := by
  obtain ⟨left, hletters, heq⟩ := map_eq_ok_iff.mp h
  cases heq
  exact ⟨rfl, readLetters_sound hletters⟩

theorem readValue_of_inner {levels : Nat}
    (hinner : ∀ inner, levels = inner + 1 → TakesValues (readValue inner) (Means inner)) :
    TakesValues (readValue levels) (Means levels) := by
  intro input j rest h
  unfold readValue at h
  split at h
  · cases h
  next c behind hspace =>
  have hgap := gap_of_skipSpace hspace
  -- The first character tells what the value is; the cases are taken in the reader's order.
  by_cases hc : c = 'n'
  · rw [if_pos hc] at h
    subst hc
    obtain ⟨rfl, rfl⟩ := map_readLetters_sound h
    exact ⟨_, _, hgap, .null rest, by simp [Means]⟩
  rw [if_neg hc] at h
  by_cases hc : c = 't'
  · rw [if_pos hc] at h
    subst hc
    obtain ⟨rfl, rfl⟩ := map_readLetters_sound h
    exact ⟨_, _, hgap, .true rest, by simp [Means]⟩
  rw [if_neg hc] at h
  by_cases hc : c = 'f'
  · rw [if_pos hc] at h
    subst hc
    obtain ⟨rfl, rfl⟩ := map_readLetters_sound h
    exact ⟨_, _, hgap, .false rest, by simp [Means]⟩
  rw [if_neg hc] at h
  by_cases hc : c = '-'
  · rw [if_pos hc] at h
    subst hc
    obtain ⟨⟨n, left⟩, hnumeral, heq⟩ := map_eq_ok_iff.mp h
    cases heq
    obtain ⟨token, htoken, rfl, halike⟩ := readNumeral_sound hnumeral
    refine ⟨_, _, hgap, .negative htoken rest, ?_⟩
    rw [Means]
    exact .negative htoken halike
  rw [if_neg hc] at h
  by_cases hc : c.isDigit = true
  · rw [if_pos hc] at h
    obtain ⟨⟨n, left⟩, hnumeral, heq⟩ := map_eq_ok_iff.mp h
    cases heq
    obtain ⟨token, htoken, hinput, halike⟩ := readNumeral_sound hnumeral
    rw [hinput] at hgap
    refine ⟨_, _, hgap, .positive htoken rest, ?_⟩
    rw [Means]
    exact .positive htoken halike
  rw [if_neg hc] at h
  by_cases hc : c = '"'
  · rw [if_pos hc] at h
    subst hc
    obtain ⟨⟨s, left⟩, hstring, heq⟩ := map_eq_ok_iff.mp h
    cases heq
    obtain ⟨body, hspells, rfl⟩ := readString_sound hstring
    refine ⟨_, _, hgap, .string hspells.isBody rest, ?_⟩
    rw [Means]
    exact hspells
  rw [if_neg hc] at h
  by_cases hc : c = '['
  · rw [if_pos hc] at h
    subst hc
    split at h
    · cases h
    · next inner =>
      obtain ⟨⟨items, left⟩, hread, heq⟩ := map_eq_ok_iff.mp h
      cases heq
      obtain ⟨trees, new, hitems, rfl, hnew⟩ := readItems_sound (hinner inner rfl) hread
      exact ⟨_, _, hgap, .array hitems, hnew⟩
  rw [if_neg hc] at h
  by_cases hc : c = '\x7b'
  · rw [if_pos hc] at h
    subst hc
    split at h
    · cases h
    · next inner =>
      obtain ⟨⟨ms, left⟩, hread, heq⟩ := map_eq_ok_iff.mp h
      cases heq
      obtain ⟨members, new, hmembers, rfl, hnew⟩ := readMembers_sound (hinner inner rfl) hread
      exact ⟨_, _, hgap, .object hmembers, hnew⟩
  rw [if_neg hc] at h
  cases h

theorem readValue_sound (levels : Nat) : TakesValues (readValue levels) (Means levels) := by
  induction levels with
  | zero => exact readValue_of_inner nofun
  | succ levels ih =>
    refine readValue_of_inner fun inner hinner => ?_
    obtain rfl := Nat.succ.inj hinner
    exact ih

/-! ## Values that are passed over -/

/-- What open brackets, innermost first, still ask of a text. -/
inductive Closes : List Bracket → List Char → List Char → Prop where
  | nil (rest : List Char) : Closes [] rest rest
  | square {inside : List Bracket} {input behind rest : List Char} {items : List Tree}
    (hitems : AreItems false input items behind) (h : Closes inside behind rest) :
    Closes (.square :: inside) input rest
  | curly {inside : List Bracket} {input behind rest : List Char}
    {members : List (List Char × Tree)} (hmembers : AreMembers false input members behind)
    (h : Closes inside behind rest) : Closes (.curly :: inside) input rest

/-- A value inside open brackets, and what follows it up to the end of the outermost. -/
def ClosesBehindValue (inside : List Bracket) (input rest : List Char) : Prop :=
  ∃ value tree behind, Gap input value ∧ IsValue value tree behind ∧ Closes inside behind rest

/-- A value inside an array and what follows it are items of the array, and what follows those. -/
theorem ClosesBehindValue.items {inside : List Bracket} {first : Bool}
    {input behind rest : List Char} (h : ClosesBehindValue (.square :: inside) behind rest)
    (hlead : Lead first input behind) :
    ∃ items left, AreItems first input items left ∧ Closes inside left rest := by
  obtain ⟨value, tree, left, hgap, hvalue, hcloses⟩ := h
  cases hcloses with
  | square hitems hcloses => exact ⟨_, _, .item (hlead.gap hgap) hvalue hitems, hcloses⟩

theorem skipKey_sound {input rest : List Char} (h : skipKey input = .ok rest) :
    ∃ name colon, Gap input ('"' :: (name ++ '"' :: colon)) ∧ IsBody name ∧
      Gap colon (':' :: rest) := by
  unfold skipKey at h
  split at h
  · cases h
  · next c behind hspace =>
    split at h
    · next hc =>
      subst hc
      obtain ⟨colon, hname, hcolon⟩ := bind_eq_ok_iff.mp h
      obtain ⟨name, hbody, rfl⟩ := skipString_sound hname
      exact ⟨name, colon, gap_of_skipSpace hspace, hbody, readColon_sound hcolon⟩
    · cases h

/-- A value of an object, behind its name, and what follows it. -/
theorem ClosesBehindValue.members {inside : List Bracket} {first : Bool}
    {input behind before rest : List Char} (h : ClosesBehindValue (.curly :: inside) before rest)
    (hkey : skipKey behind = .ok before) (hlead : Lead first input behind) :
    ∃ members left, AreMembers first input members left ∧ Closes inside left rest := by
  obtain ⟨name, colon, hquote, hname, hcolon⟩ := skipKey_sound hkey
  obtain ⟨value, tree, left, hgap, hvalue, hcloses⟩ := h
  cases hcloses with
  | curly hmembers hcloses =>
    exact ⟨_, _, .member (hlead.gap hquote) hname hcolon hgap hvalue hmembers, hcloses⟩

section Skip

/-- Passing over a value inside brackets, with some fuel, goes by the grammar. -/
def SkipsFrom (fuel : List Char) : Prop := ∀ inside input rest,
  skipFrom fuel inside input = .ok rest → ClosesBehindValue inside input rest

/-- So does passing over what follows a value. -/
def SkipsAfter (fuel : List Char) : Prop := ∀ inside input rest,
  skipAfter fuel inside input = .ok rest → Closes inside input rest

variable {fuel : List Char} (ihFrom : SkipsFrom fuel) (ihAfter : SkipsAfter fuel)
include ihFrom ihAfter

theorem skipsFrom_cons (f : Char) : SkipsFrom (f :: fuel) := by
  intro inside input rest h
  rw [skipFrom] at h
  split at h
  · cases h
  next c behind hspace =>
  have hgap := gap_of_skipSpace hspace
  by_cases hc : c = 'n'
  · rw [if_pos hc] at h
    subst hc
    obtain ⟨left, hletters, hafter⟩ := bind_eq_ok_iff.mp h
    obtain rfl := readLetters_sound hletters
    exact ⟨_, _, _, hgap, .null left, ihAfter _ _ _ hafter⟩
  rw [if_neg hc] at h
  by_cases hc : c = 't'
  · rw [if_pos hc] at h
    subst hc
    obtain ⟨left, hletters, hafter⟩ := bind_eq_ok_iff.mp h
    obtain rfl := readLetters_sound hletters
    exact ⟨_, _, _, hgap, .true left, ihAfter _ _ _ hafter⟩
  rw [if_neg hc] at h
  by_cases hc : c = 'f'
  · rw [if_pos hc] at h
    subst hc
    obtain ⟨left, hletters, hafter⟩ := bind_eq_ok_iff.mp h
    obtain rfl := readLetters_sound hletters
    exact ⟨_, _, _, hgap, .false left, ihAfter _ _ _ hafter⟩
  rw [if_neg hc] at h
  by_cases hc : c = '-'
  · rw [if_pos hc] at h
    subst hc
    obtain ⟨left, hnumeral, hafter⟩ := bind_eq_ok_iff.mp h
    obtain ⟨token, htoken, rfl⟩ := skipNumeral_sound hnumeral
    exact ⟨_, _, _, hgap, .negative htoken left, ihAfter _ _ _ hafter⟩
  rw [if_neg hc] at h
  by_cases hc : c.isDigit = true
  · rw [if_pos hc] at h
    obtain ⟨left, hnumeral, hafter⟩ := bind_eq_ok_iff.mp h
    obtain ⟨token, htoken, hinput⟩ := skipNumeral_sound hnumeral
    rw [hinput] at hgap
    exact ⟨_, _, _, hgap, .positive htoken left, ihAfter _ _ _ hafter⟩
  rw [if_neg hc] at h
  by_cases hc : c = '"'
  · rw [if_pos hc] at h
    subst hc
    obtain ⟨left, hstring, hafter⟩ := bind_eq_ok_iff.mp h
    obtain ⟨body, hbody, rfl⟩ := skipString_sound hstring
    exact ⟨_, _, _, hgap, .string hbody left, ihAfter _ _ _ hafter⟩
  rw [if_neg hc] at h
  by_cases hc : c = '['
  · rw [if_pos hc] at h
    subst hc
    split at h
    · cases h
    next d behind hspace =>
    have hfirst := gap_of_skipSpace hspace
    split at h
    · next hd =>
      subst hd
      exact ⟨_, _, _, hgap, .array (.close hfirst), ihAfter _ _ _ h⟩
    · obtain ⟨items, left, hitems, hcloses⟩ := (ihFrom _ _ _ h).items (.first hfirst)
      exact ⟨_, _, _, hgap, .array hitems, hcloses⟩
  rw [if_neg hc] at h
  by_cases hc : c = '\x7b'
  · rw [if_pos hc] at h
    subst hc
    split at h
    · cases h
    next d behind hspace =>
    have hfirst := gap_of_skipSpace hspace
    split at h
    · next hd =>
      subst hd
      exact ⟨_, _, _, hgap, .object (.close hfirst), ihAfter _ _ _ h⟩
    · obtain ⟨before, hkey, hfrom⟩ := bind_eq_ok_iff.mp h
      obtain ⟨members, left, hmembers, hcloses⟩ :=
        (ihFrom _ _ _ hfrom).members hkey (.first hfirst)
      exact ⟨_, _, _, hgap, .object hmembers, hcloses⟩
  rw [if_neg hc] at h
  cases h

theorem skipsAfter_cons (f : Char) : SkipsAfter (f :: fuel) := by
  intro inside input rest h
  cases inside with
  | nil =>
    rw [skipAfter] at h
    obtain rfl := Except.ok.inj h
    exact .nil _
  | cons bracket inside =>
    cases bracket with
    | square =>
      rw [skipAfter] at h
      split at h
      · cases h
      next c behind hspace =>
      have hgap := gap_of_skipSpace hspace
      split at h
      · next hc =>
        subst hc
        obtain ⟨items, left, hitems, hcloses⟩ :=
          (ihFrom _ _ _ h).items (.next hgap (.nil _))
        exact .square hitems hcloses
      split at h
      · next hc =>
        subst hc
        exact .square (.close hgap) (ihAfter _ _ _ h)
      · cases h
    | curly =>
      rw [skipAfter] at h
      split at h
      · cases h
      next c behind hspace =>
      have hgap := gap_of_skipSpace hspace
      split at h
      · next hc =>
        subst hc
        obtain ⟨before, hkey, hfrom⟩ := bind_eq_ok_iff.mp h
        obtain ⟨members, left, hmembers, hcloses⟩ :=
          (ihFrom _ _ _ hfrom).members hkey (.next hgap (.nil _))
        exact .curly hmembers hcloses
      split at h
      · next hc =>
        subst hc
        exact .curly (.close hgap) (ihAfter _ _ _ h)
      · cases h

end Skip

theorem skips (fuel : List Char) : SkipsFrom fuel ∧ SkipsAfter fuel := by
  induction fuel with
  | nil =>
    refine ⟨nofun, fun inside input rest h => ?_⟩
    cases inside with
    | nil =>
      rw [skipAfter] at h
      obtain rfl := Except.ok.inj h
      exact .nil _
    | cons bracket inside => cases bracket <;> cases h
  | cons f fuel ih => exact ⟨skipsFrom_cons ih.1 ih.2 f, skipsAfter_cons ih.1 ih.2 f⟩

theorem skipValue_sound {input rest : List Char} (h : skipValue input = .ok rest) :
    ∃ value tree, Gap input value ∧ IsValue value tree rest := by
  obtain ⟨value, tree, behind, hgap, hvalue, hcloses⟩ := (skips input).1 _ _ _ h
  cases hcloses
  exact ⟨value, tree, hgap, hvalue⟩

end GraphGateway.Json
