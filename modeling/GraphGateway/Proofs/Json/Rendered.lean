/-
What is printed, as a value of the grammar.

A value is plain if it holds no numbers but integers of the 64-bit ranges and its brackets are not
nested too deep (`Plain`). What is printed for it holds its tokens (`Tree.ofJson`), however it is spaced
out (`holdsTree_write`), and the value is what these mean (`Plain.means`): the digits of an integer are
read as the integer, and escaped characters as the characters.
-/
import GraphGateway.Proofs.Json.Reading

namespace GraphGateway

/-! ## Integers -/

namespace Number

theorem le_valueOfDigits (n : Nat) (cs : List Char) :
    n ≤ cs.foldl (fun n c => n * 10 + digitValue c) n := by
  induction cs generalizing n with
  | nil => exact Nat.le_refl n
  | cons c cs ih =>
    have hstep : n ≤ n * 10 + digitValue c := by omega
    exact Nat.le_trans hstep (ih _)

end Number

namespace Json

/-- Digits whose value fits are all read. -/
theorem fitDigits_eq {value : Nat} {cs : List Char}
    (h : cs.foldl (fun n c => n * 10 + Number.digitValue c) value < 1 <<< 64) :
    fitDigits value cs = (cs.foldl (fun n c => n * 10 + Number.digitValue c) value, 0) := by
  induction cs generalizing value with
  | nil => rfl
  | cons c cs ih =>
    have hnext := Nat.lt_of_le_of_lt (Number.le_valueOfDigits _ cs) h
    rw [fitDigits, if_pos hnext]
    exact ih h

theorem fitDigits_digitChars {n : Nat} (h : n < 1 <<< 64) :
    fitDigits 0 (Number.digitChars n) = (n, 0) := by
  have hvalue : (Number.digitChars n).foldl (fun n c => n * 10 + Number.digitValue c) 0 = n :=
    Number.valueOfDigits_digitChars n
  rw [fitDigits_eq (by rw [hvalue]; exact h), hvalue]

/-- The integers that are read as such. -/
def InRange (n : Int) : Prop := -0x8000000000000000 ≤ n ∧ n < 0x10000000000000000

instance (n : Int) : Decidable (InRange n) := inferInstanceAs (Decidable (_ ∧ _))

theorem InRange.numbers {n : Int} (h : InRange n) : Numbers (Number.intText n) (.int n) := by
  obtain ⟨hlow, hhigh⟩ := h
  have hwhole := isWhole_digitChars n.natAbs
  have hmagnitude := IsUnsigned.isMagnitude (.inl hwhole)
  have hdigits : fitDigits 0 (Number.digitChars n.natAbs) = (n.natAbs, 0) :=
    fitDigits_digitChars (by omega)
  unfold Number.intText
  by_cases hsign : n < 0
  · have hvalue : -(n.natAbs : Int) = n := by omega
    rw [if_pos hsign, List.singleton_append]
    refine .negative hmagnitude fun rest hends => ?_
    rw [readNumeral_whole hwhole hends.stops, readAfterWhole_of_ends hends, hdigits, wholeOf,
      if_neg (by simp), if_neg (by simp), if_neg (by omega), hvalue]
  · have hvalue : (n.natAbs : Int) = n := by omega
    rw [if_neg hsign, List.nil_append]
    refine .positive hmagnitude fun rest hends => ?_
    rw [readNumeral_whole hwhole hends.stops, readAfterWhole_of_ends hends, hdigits, wholeOf,
      if_neg (by simp), if_pos rfl, hvalue]

theorem Numbers.unique {token : List Char} {n m : Numeral} (h : Numbers token n)
    (h' : Numbers token m) : n = m := by
  cases h with
  | positive htoken h =>
    cases h' with
    | positive _ h' => cases (h [] ends_nil).symm.trans (h' [] ends_nil); rfl
    | negative => exact absurd htoken IsMagnitude.not_minus
  | negative _ h =>
    cases h' with
    | positive htoken' => exact absurd htoken' IsMagnitude.not_minus
    | negative _ h' => cases (h [] ends_nil).symm.trans (h' [] ends_nil); rfl

/-! ## Strings -/

/-- A string is spelled by what is printed for it. -/
theorem spells_flatMap (cs : List Char) : Spells (cs.flatMap escapeChar) cs := by
  induction cs with
  | nil => exact .nil
  | cons c cs ih =>
    rw [List.flatMap_cons]
    rcases escapeChar_cases c with ⟨h, hplain⟩ | ⟨code, h, hread⟩
    · rw [h]
      exact .plain hplain ih
    · have hescape := hread []
      rw [List.append_nil] at hescape
      obtain ⟨code', hcode', heq⟩ := readEscape_sound hescape
      rw [h, List.cons_append, heq, List.append_nil]
      exact .escape hcode' ih

/-! ## Values -/

mutual

/-- The tokens that are printed for a value. -/
def Tree.ofJson : Json → Tree
  | .null => .null
  | .bool b => .bool b
  | .number n => .number (numeralText n)
  | .string s => .string (s.toList.flatMap escapeChar)
  | .array items => .array (Tree.ofItems items)
  | .object members => .object (Tree.ofMembers members)

def Tree.ofItems : List Json → List Tree
  | [] => []
  | item :: items => Tree.ofJson item :: Tree.ofItems items

def Tree.ofMembers : Members → List (List Char × Tree)
  | [] => []
  | (name, value) :: members =>
    (name.toList.flatMap escapeChar, Tree.ofJson value) :: Tree.ofMembers members

end

/-- Brackets are nested at most so deep, and all numbers are integers that are read as such. -/
def Plain : Nat → Json → Prop
  | _, .null | _, .bool _ | _, .string _ => True
  | _, .number (.int n) => InRange n
  | _, .number (.double _) => False
  | levels + 1, .array items => ∀ item ∈ items, Plain levels item
  | levels + 1, .object members => ∀ m ∈ members, Plain levels m.2
  | 0, .array _ | 0, .object _ => False

mutual

/-- A value is what its tokens mean. -/
theorem Plain.means : ∀ {levels : Nat} {j : Json}, Plain levels j → Means levels (Tree.ofJson j) j
  | _, .null, _ => Means.null_iff.mpr rfl
  | _, .bool _, _ => Means.bool_iff.mpr rfl
  | _, .number (.int n), h => by
    rw [Plain] at h
    exact Means.number_iff.mpr ⟨_, rfl, h.numbers⟩
  | _, .number (.double _), h => by
    rw [Plain] at h
    exact h.elim
  | _, .string s, _ => Means.string_iff.mpr ⟨s, rfl, spells_flatMap s.toList⟩
  | levels + 1, .array items, h => Means.array_iff.mpr ⟨levels, items, rfl, rfl, means_ofItems h⟩
  | levels + 1, .object ms, h => Means.object_iff.mpr ⟨levels, ms, rfl, rfl, means_ofMembers h⟩

theorem means_ofItems {levels : Nat} : ∀ {items : List Json}, (∀ item ∈ items, Plain levels item) →
    List.Forall₂ (Means levels) (Tree.ofItems items) items
  | [], _ => .nil
  | _ :: _, h =>
    .cons (h _ List.mem_cons_self).means (means_ofItems fun _ hi => h _ (List.mem_cons_of_mem _ hi))

theorem means_ofMembers {levels : Nat} : ∀ {ms : Members}, (∀ m ∈ ms, Plain levels m.2) →
    List.Forall₂ (MemberOf (Means levels)) (Tree.ofMembers ms) ms
  | [], _ => .nil
  | (name, _) :: _, h =>
    .cons ⟨spells_flatMap name.toList, (h _ List.mem_cons_self).means⟩
      (means_ofMembers fun _ hm => h _ (List.mem_cons_of_mem _ hm))

end

/-- The names of what is printed for an object are those of its members. -/
theorem named_ofMembers (ms : Members) :
    Named (Tree.ofMembers ms) (ms.map fun m => (m.1, Tree.ofJson m.2)) := by
  induction ms with
  | nil => exact .nil
  | cons m ms ih => exact .cons ⟨spells_flatMap m.1.toList, rfl⟩ ih

/-! ## Printed texts -/

theorem gap_of_blanks {blanks : List Char} (h : blanks.all isSpace = true) (rest : List Char) :
    Gap (blanks ++ rest) rest := by
  induction blanks with
  | nil => exact .nil rest
  | cons c blanks ih =>
    rw [List.all_cons, Bool.and_eq_true] at h
    exact .cons h.1 (ih h.2)

theorem gap_lineBreak (sp : Spacing) (depth : Nat) (rest : List Char) :
    Gap (sp.lineBreak depth ++ rest) rest :=
  gap_of_blanks (isSpace_lineBreak sp depth) rest

theorem Numbers.isValue {token : List Char} {n : Numeral} (h : Numbers token n) (rest : List Char) :
    IsValue (token ++ rest) (.number token) rest := by
  cases h with
  | positive htoken => exact .positive htoken rest
  | negative htoken => exact .negative htoken rest

/-- A name, a colon and a value. -/
theorem AreMembers.of_printed {first : Bool} {sp : Spacing} {name : String} {tree : Tree}
    {members : List (List Char × Tree)} {input value behind rest : List Char}
    (hlead : Lead first input (stringText name ++ (sp.colon ++ value)))
    (hvalue : IsValue value tree behind) (h : AreMembers false behind members rest) :
    AreMembers first input ((name.toList.flatMap escapeChar, tree) :: members) rest := by
  rw [stringText_append] at hlead
  have hname := (spells_flatMap name.toList).isBody
  cases sp with
  | compact => exact .member hlead hname (.nil _) (.nil _) hvalue h
  | indented => exact .member hlead hname (.nil _) (.cons rfl (.nil _)) hvalue h

mutual

/-- The text of a value holds its tokens. -/
theorem Plain.isValue (sp : Spacing) : ∀ {levels : Nat} (depth : Nat) {j : Json}, Plain levels j →
    ∀ rest, IsValue (write sp depth j ++ rest) (Tree.ofJson j) rest
  | _, _, .null, _, rest => .null rest
  | _, _, .bool true, _, rest => .true rest
  | _, _, .bool false, _, rest => .false rest
  | _, _, .number (.int n), h, rest => by
    rw [Plain] at h
    exact h.numbers.isValue rest
  | _, _, .number (.double _), h, _ => by
    rw [Plain] at h
    exact h.elim
  | _, _, .string s, _, rest => by
    rw [write, stringText_append]
    exact .string (spells_flatMap s.toList).isBody rest
  | _, _, .array [], _, rest => .array (.close (.nil _))
  | levels + 1, depth, .array (item :: items), h, rest => by
    have hlead := gap_lineBreak sp (depth + 1)
    have hitems := areItems_write sp depth (fun _ hi => h _ (List.mem_cons_of_mem _ hi)) rest
    have hitem := (h _ List.mem_cons_self).isValue sp (depth + 1)
    simp only [write, List.cons_append, List.append_assoc, List.nil_append]
    exact .array (.item (.first (hlead _)) (hitem _) hitems)
  | _, _, .object [], _, rest => .object (.close (.nil _))
  | levels + 1, depth, .object ((name, value) :: ms), h, rest => by
    have hlead := gap_lineBreak sp (depth + 1)
    have hmembers := areMembers_write sp depth (fun _ hm => h _ (List.mem_cons_of_mem _ hm)) rest
    have hvalue := (h _ List.mem_cons_self).isValue sp (depth + 1)
    simp only [write, List.cons_append, List.append_assoc, List.nil_append]
    exact .object (.of_printed (.first (hlead _)) (hvalue _) hmembers)

theorem areItems_write (sp : Spacing) {levels : Nat} (depth : Nat) : ∀ {items : List Json},
    (∀ item ∈ items, Plain levels item) → ∀ rest,
      AreItems false (writeItems sp (depth + 1) items ++ (sp.lineBreak depth ++ ']' :: rest))
        (Tree.ofItems items) rest
  | [], _, rest => .close (gap_lineBreak sp depth _)
  | item :: items, h, rest => by
    have hitems := areItems_write sp depth (fun _ hi => h _ (List.mem_cons_of_mem _ hi)) rest
    have hitem := (h _ List.mem_cons_self).isValue sp (depth + 1)
    simp only [writeItems, List.cons_append, List.append_assoc]
    exact .item (.next (.nil _) (gap_lineBreak sp (depth + 1) _)) (hitem _) hitems

theorem areMembers_write (sp : Spacing) {levels : Nat} (depth : Nat) : ∀ {ms : Members},
    (∀ m ∈ ms, Plain levels m.2) → ∀ rest,
      AreMembers false (writeMembers sp (depth + 1) ms ++ (sp.lineBreak depth ++ '\x7d' :: rest))
        (Tree.ofMembers ms) rest
  | [], _, rest => .close (gap_lineBreak sp depth _)
  | (name, value) :: ms, h, rest => by
    have hmembers := areMembers_write sp depth (fun _ hm => h _ (List.mem_cons_of_mem _ hm)) rest
    have hvalue := (h _ List.mem_cons_self).isValue sp (depth + 1)
    simp only [writeMembers, List.cons_append, List.append_assoc]
    exact .of_printed (.next (.nil _) (gap_lineBreak sp (depth + 1) _)) (hvalue _) hmembers

end

theorem holdsTree_write (sp : Spacing) {levels : Nat} {j : Json} (h : Plain levels j) :
    HoldsTree (String.ofList (write sp 0 j)) (Tree.ofJson j) := by
  have hvalue := h.isValue sp 0 []
  rw [List.append_nil] at hvalue
  exact ⟨_, [], by rw [String.toList_ofList]; exact .nil _, hvalue, .nil []⟩

end Json

end GraphGateway
