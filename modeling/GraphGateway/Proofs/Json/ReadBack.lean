/-
What a codec writes it reads back.

The text of a value may stand behind blanks and be followed by anything that does not continue it;
a codec that reads a value back (`Codec.ReadsBack`) gives that value and leaves what follows. Codecs
that are made of others read back what these do: a list its items, a record its fields, as long as
the fields have different names and what is left out when it is written is what is put in when it is
missing. Brackets use up levels of nesting, one for each container.

Only the first character of a text is looked at to tell its kind, so the text of every value but a
number is told apart by that (`Json.opening?`).
-/
import Mathlib.Data.List.Forall2
import GraphGateway.Json.Codec

namespace GraphGateway.Json

/-! ## Blanks -/

theorem skipSpace_append {blanks : List Char} (h : blanks.all isSpace = true) (input : List Char) :
    skipSpace (blanks ++ input) = skipSpace input := by
  rw [skipSpace, List.dropWhile_append_of_pos (List.all_eq_true.mp h)]
  rfl

theorem skipSpace_cons {c : Char} (h : isSpace c = false) (rest : List Char) :
    skipSpace (c :: rest) = c :: rest := by simp [skipSpace, h]

/-- Blanks in front of a character that is none. -/
theorem skipSpace_before {c : Char} (hc : isSpace c = false) {blanks : List Char}
    (hb : blanks.all isSpace = true) (rest : List Char) :
    skipSpace (blanks ++ c :: rest) = c :: rest := by
  rw [skipSpace_append hb, skipSpace_cons hc]

theorem isSpace_lineBreak (sp : Spacing) (depth : Nat) :
    (sp.lineBreak depth).all isSpace = true := by
  cases sp with
  | compact => rfl
  | indented => simp [Spacing.lineBreak, isSpace]

/-! ## Strings -/

theorem hexValue?_digitChar : ∀ n < 16, hexValue? (Nat.digitChar n) = some n := by decide

theorem hexValues?_digitChars {n : Nat} (h : n < 0x20) (rest : List Char) :
    hexValues? ('0' :: '0' :: Nat.digitChar (n / 16) :: Nat.digitChar (n % 16) :: rest) =
      some (n, rest) := by
  have hhigh := hexValue?_digitChar (n / 16) (by omega)
  have hlow := hexValue?_digitChar (n % 16) (by omega)
  have hzero : hexValue? '0' = some 0 := by decide
  simp only [hexValues?, hzero, hhigh, hlow]
  congr 2
  omega

/-- A character is written as it is, or behind a backslash as something that stands for it. -/
theorem escapeChar_cases (c : Char) :
    (escapeChar c = [c] ∧ c ≠ '"' ∧ c ≠ '\\' ∧ 0x20 ≤ c.toNat) ∨
      ∃ code, escapeChar c = '\\' :: code ∧ ∀ rest, readEscape (code ++ rest) = .ok (c, rest) := by
  unfold escapeChar
  split
  · next h => subst h; exact .inr ⟨_, rfl, fun _ => rfl⟩
  split
  · next h => subst h; exact .inr ⟨_, rfl, fun _ => rfl⟩
  split
  · next hquote hslash h => exact .inl ⟨rfl, hquote, hslash, h⟩
  split
  · next h => subst h; exact .inr ⟨_, rfl, fun _ => rfl⟩
  split
  · next h => subst h; exact .inr ⟨_, rfl, fun _ => rfl⟩
  split
  · next h => subst h; exact .inr ⟨_, rfl, fun _ => rfl⟩
  split
  · next h => subst h; exact .inr ⟨_, rfl, fun _ => rfl⟩
  split
  · next h => subst h; exact .inr ⟨_, rfl, fun _ => rfl⟩
  · next hlow _ _ _ _ _ =>
    refine .inr ⟨_, rfl, fun rest => ?_⟩
    have hn : c.toNat < 0x20 := by omega
    have hhex := hexValues?_digitChars hn rest
    simp only [List.cons_append, List.nil_append, readEscape, readUnicodeEscape, readHex, if_true,
      hhex]
    simp only [bind, Except.bind]
    rw [if_neg (by omega), if_pos (by omega), Char.ofNat_toNat]

theorem readChars_escapeChar (c f : Char) (fuel done rest : List Char) :
    readChars (f :: fuel) done (escapeChar c ++ rest) = readChars fuel (c :: done) rest := by
  rcases escapeChar_cases c with ⟨h, hquote, hslash, hprinted⟩ | ⟨code, h, hread⟩
  · rw [h, List.singleton_append, readChars, if_neg hquote, if_neg hslash, if_neg (by omega)]
  · rw [h, List.cons_append, readChars, if_neg (by decide), if_pos rfl, hread]

theorem readChars_flatMap (cs : List Char) :
    ∀ {fuel : List Char} (done rest : List Char), cs.length < fuel.length →
      readChars fuel done (cs.flatMap escapeChar ++ '"' :: rest) =
        .ok (String.ofList (done.reverse ++ cs), rest) := by
  induction cs with
  | nil =>
    intro fuel done rest h
    cases fuel with
    | nil => exact absurd h (Nat.lt_irrefl 0)
    | cons f fuel => simp [readChars]
  | cons c cs ih =>
    intro fuel done rest h
    cases fuel with
    | nil => exact absurd h (Nat.not_lt_zero _)
    | cons f fuel =>
      rw [List.flatMap_cons, List.append_assoc, readChars_escapeChar,
        ih _ _ (Nat.lt_of_succ_lt_succ h)]
      simp

theorem length_le_flatMap_escapeChar (cs : List Char) :
    cs.length ≤ (cs.flatMap escapeChar).length := by
  induction cs with
  | nil => exact Nat.le_refl 0
  | cons c cs ih =>
    have hc : 1 ≤ (escapeChar c).length := by
      rcases escapeChar_cases c with ⟨h, -⟩ | ⟨code, h, -⟩ <;> simp [h]
    rw [List.flatMap_cons, List.length_append, List.length_cons]
    omega

theorem stringText_append (s : String) (rest : List Char) :
    stringText s ++ rest = '"' :: (s.toList.flatMap escapeChar ++ '"' :: rest) := by
  simp [stringText]

/-- A string is read back from the text behind its opening quote. -/
theorem readString_stringText (s : String) (rest : List Char) :
    readString (s.toList.flatMap escapeChar ++ '"' :: rest) = .ok (s, rest) := by
  have hfuel : s.toList.length < (s.toList.flatMap escapeChar ++ '"' :: rest).length := by
    have := length_le_flatMap_escapeChar s.toList
    rw [List.length_append, List.length_cons]
    omega
  rw [readString, readChars_flatMap _ _ _ hfuel, List.reverse_nil, List.nil_append,
    String.ofList_toList]

/-! ## First characters -/

/-- The first character of a value's text, for values that are no numbers. -/
def opening? : Json → Option Char
  | .null => some 'n'
  | .bool true => some 't'
  | .bool false => some 'f'
  | .number _ => none
  | .string _ => some '"'
  | .array _ => some '['
  | .object _ => some '\x7b'

theorem write_of_opening {j : Json} {c : Char} (h : j.opening? = some c) (sp : Spacing)
    (depth : Nat) : ∃ tail, write sp depth j = c :: tail := by
  cases j with
  | null => cases h; exact ⟨_, rfl⟩
  | bool b => cases b <;> cases h <;> exact ⟨_, rfl⟩
  | number n => cases h
  | string s => cases h; exact ⟨_, rfl⟩
  | array items => cases items <;> cases h <;> exact ⟨_, rfl⟩
  | object members =>
    cases h
    cases members with
    | nil => exact ⟨_, rfl⟩
    | cons member members => exact ⟨_, rfl⟩

theorem not_isSpace_opening {j : Json} {c : Char} (h : j.opening? = some c) :
    isSpace c = false := by
  cases j with
  | bool b => cases b <;> cases h <;> rfl
  | number n => cases h
  | null | string | array | object => cases h; rfl

theorem opening_ne_close {j : Json} {c : Char} (h : j.opening? = some c) : c ≠ ']' := by
  cases j with
  | bool b => cases b <;> cases h <;> decide
  | number n => cases h
  | null | string | array | object => cases h; decide

/-- What may follow a value: nothing that could continue it. -/
def Ends (rest : List Char) : Prop :=
  ∀ c, rest.head? = some c → isSpace c = true ∨ c = ',' ∨ c = ']' ∨ c = '\x7d'

theorem ends_nil : Ends [] := fun _ h => nomatch h

theorem ends_cons {c : Char} (h : isSpace c = true ∨ c = ',' ∨ c = ']' ∨ c = '\x7d')
    (rest : List Char) : Ends (c :: rest) := by
  intro d hd
  cases hd
  exact h

/-- The line break in front of a bracket ends a value, and so does the bracket itself. -/
theorem ends_lineBreak (sp : Spacing) (depth : Nat) {c : Char} (h : c = ']' ∨ c = '\x7d')
    (rest : List Char) : Ends (sp.lineBreak depth ++ c :: rest) := by
  cases sp with
  | compact => exact ends_cons (.inr (.inr h)) rest
  | indented => exact ends_cons (.inl rfl) _

/-! ## Items -/

section Items

variable {β : Type} {read : Reader β} {sp : Spacing} {depth : Nat}

theorem nextItem_close (first : Bool) {blanks : List Char} (hb : blanks.all isSpace = true)
    (rest : List Char) : nextItem first (blanks ++ ']' :: rest) = .ok (.close rest) := by
  rw [nextItem, skipSpace_before rfl hb]
  rfl

/-- A reader takes a value off its text, which does not begin as an array ends, and leaves what does
not continue it. -/
structure Takes (read : Reader β) (sp : Spacing) (depth : Nat) (j : Json) (b : β) : Prop where
  head : ∃ c tail, write sp depth j = c :: tail ∧ isSpace c = false ∧ c ≠ ']'
  back : ∀ rest, Ends rest → read (write sp depth j ++ rest) = .ok (b, rest)

namespace Takes

variable {j : Json} {b : β}

theorem of_opening {c : Char} (h : j.opening? = some c)
    (back : ∀ rest, Ends rest → read (write sp depth j ++ rest) = .ok (b, rest)) :
    Takes read sp depth j b where
  head := by
    obtain ⟨tail, htail⟩ := write_of_opening h sp depth
    exact ⟨c, tail, htail, not_isSpace_opening h, opening_ne_close h⟩
  back := back

theorem length_pos (h : Takes read sp depth j b) : 0 < (write sp depth j).length := by
  obtain ⟨c, tail, htail, -⟩ := h.head
  rw [htail]
  exact Nat.succ_pos _

/-- An item is told by its first character. -/
theorem nextItem_first (h : Takes read sp depth j b) (rest : List Char) :
    nextItem true (sp.lineBreak depth ++ (write sp depth j ++ rest)) =
      .ok (.next (write sp depth j ++ rest)) := by
  obtain ⟨c, tail, htail, hspace, hclose⟩ := h.head
  rw [htail, List.cons_append, nextItem, skipSpace_before hspace (isSpace_lineBreak sp depth)]
  exact if_neg hclose

theorem nextItem_comma (h : Takes read sp depth j b) (rest : List Char) :
    nextItem false (',' :: (sp.lineBreak depth ++ (write sp depth j ++ rest))) =
      .ok (.next (write sp depth j ++ rest)) := by
  obtain ⟨c, tail, htail, hspace, hclose⟩ := h.head
  rw [htail, List.cons_append, nextItem, skipSpace_cons rfl]
  dsimp only
  rw [if_neg (by decide), if_neg Bool.false_ne_true, if_pos rfl,
    skipSpace_before hspace (isSpace_lineBreak sp depth)]
  exact if_neg hclose

end Takes

/-- What stands behind the first item of an array, and behind the array. -/
def afterItems (sp : Spacing) (depth : Nat) (items : List Json) (rest : List Char) : List Char :=
  writeItems sp (depth + 1) items ++ (sp.lineBreak depth ++ ']' :: rest)

theorem afterItems_cons (sp : Spacing) (depth : Nat) (item : Json) (items : List Json)
    (rest : List Char) : afterItems sp depth (item :: items) rest =
      ',' :: (sp.lineBreak (depth + 1) ++
        (write sp (depth + 1) item ++ afterItems sp depth items rest)) := by
  simp [afterItems, writeItems]

theorem ends_afterItems (sp : Spacing) (depth : Nat) (items : List Json) (rest : List Char) :
    Ends (afterItems sp depth items rest) := by
  cases items with
  | nil => exact ends_lineBreak sp depth (.inl rfl) rest
  | cons item items => exact ends_cons (.inr (.inl rfl)) _

theorem length_lt_afterItems (sp : Spacing) (depth : Nat) (items : List Json) (rest : List Char) :
    items.length < (afterItems sp depth items rest).length := by
  induction items with
  | nil =>
    simp only [afterItems, List.length_append, List.length_cons, List.length_nil]
    omega
  | cons item items ih =>
    rw [afterItems_cons]
    simp only [List.length_cons, List.length_append]
    omega

/-- An item that is next is read. -/
theorem readItems_item {item : Json} {b : β} (h : Takes read sp (depth + 1) item b)
    (items : List Json) (rest : List Char) {f : Char} {fuel input : List Char} {done : List β}
    (hnext : nextItem done.isEmpty input =
      .ok (.next (write sp (depth + 1) item ++ afterItems sp depth items rest))) :
    readItems read (f :: fuel) done input =
      readItems read fuel (b :: done) (afterItems sp depth items rest) := by
  have hitem := h.back _ (ends_afterItems sp depth items rest)
  rw [readItems, hnext]
  simp only [hitem]

theorem readItems_afterItems {items : List Json} {bs : List β}
    (h : List.Forall₂ (Takes read sp (depth + 1)) items bs) (rest : List Char) {fuel : List Char}
    {done : List β} (hfuel : items.length < fuel.length) (hdone : done ≠ []) :
    readItems read fuel done (afterItems sp depth items rest) = .ok (done.reverse ++ bs, rest) := by
  induction h generalizing fuel done with
  | nil =>
    cases fuel with
    | nil => exact absurd hfuel (Nat.lt_irrefl 0)
    | cons f fuel =>
      have hclose := nextItem_close done.isEmpty (isSpace_lineBreak sp depth) rest
      rw [readItems, afterItems, writeItems, List.nil_append, hclose]
      simp
  | @cons item b items bs hitem _ ih =>
    cases fuel with
    | nil => exact absurd hfuel (Nat.not_lt_zero _)
    | cons f fuel =>
      have hnext := hitem.nextItem_comma (afterItems sp depth items rest)
      rw [← List.isEmpty_eq_false_iff.mpr hdone] at hnext
      have hrest := ih (Nat.lt_of_succ_lt_succ hfuel) (List.cons_ne_nil b done)
      rw [afterItems_cons, readItems_item hitem items rest hnext, hrest, List.reverse_cons,
        List.append_assoc, List.singleton_append]

/-- The first item is not behind a comma. -/
theorem readItems_first {item : Json} {items : List Json} {b : β} {bs : List β}
    (hitem : Takes read sp (depth + 1) item b)
    (hitems : List.Forall₂ (Takes read sp (depth + 1)) items bs) (rest : List Char)
    {fuel : List Char} (hfuel : items.length + 1 < fuel.length) :
    readItems read fuel [] (sp.lineBreak (depth + 1) ++
      (write sp (depth + 1) item ++ afterItems sp depth items rest)) = .ok (b :: bs, rest) := by
  cases fuel with
  | nil => exact absurd hfuel (Nat.not_lt_zero _)
  | cons f fuel =>
    have hnext : nextItem ([] : List β).isEmpty _ = _ :=
      hitem.nextItem_first (afterItems sp depth items rest)
    rw [readItems_item hitem items rest hnext]
    exact readItems_afterItems hitems rest (Nat.lt_of_succ_lt_succ hfuel) (List.cons_ne_nil b [])

/-- The items of an array are read behind its bracket, the text itself being fuel enough. -/
theorem readItems_array {items : List Json} {bs : List β}
    (h : List.Forall₂ (Takes read sp (depth + 1)) items bs) (rest : List Char) :
    ∃ body, write sp depth (.array items) ++ rest = '[' :: body ∧
      readItems read body [] body = .ok (bs, rest) := by
  cases h with
  | nil => exact ⟨']' :: rest, rfl, rfl⟩
  | @cons item b items bs hitem hitems =>
    refine ⟨_, ?_, readItems_first hitem hitems rest ?_⟩
    · simp [write, afterItems]
    · have hafter := length_lt_afterItems sp depth items rest
      have hpos := hitem.length_pos
      simp only [List.length_append]
      omega

end Items

/-! ## Simple values -/

namespace Codec

variable {α β : Type} {c : Codec α} {levels : Nat} {a : α}

/-- The codec reads the value off each of its texts, behind blanks and in front of whatever does not
continue it. -/
def ReadsBack (c : Codec α) (levels : Nat) (a : α) : Prop :=
  ∀ (sp : Spacing) (depth : Nat) (blanks rest : List Char), blanks.all isSpace = true → Ends rest →
    c.read levels (blanks ++ (Json.write sp depth (c.write a) ++ rest)) = .ok (a, rest)

/-- Behind blanks, a value is told by its first character. -/
theorem skipSpace_write {j : Json} {first : Char} (h : j.opening? = some first) (sp : Spacing)
    (depth : Nat) {blanks : List Char} (hb : blanks.all isSpace = true) (rest : List Char) :
    skipSpace (blanks ++ (Json.write sp depth j ++ rest)) = Json.write sp depth j ++ rest := by
  obtain ⟨tail, htail⟩ := write_of_opening h sp depth
  rw [htail, List.cons_append, skipSpace_before (not_isSpace_opening h) hb]

theorem readText_stringText (expected s : String) {blanks : List Char}
    (hb : blanks.all isSpace = true) (rest : List Char) :
    readText expected (blanks ++ (stringText s ++ rest)) = .ok (s, rest) := by
  rw [readText, stringText_append, skipSpace_before rfl hb]
  exact readString_stringText s rest

theorem text_readsBack (s : String) : text.ReadsBack levels s :=
  fun _ _ _ rest hb _ => readText_stringText "a string" s hb rest

theorem flag_readsBack (b : Bool) : flag.ReadsBack levels b := by
  intro sp depth blanks rest hb _
  cases b
  all_goals
    show flag.read levels (blanks ++ (_ :: _)) = _
    simp only [flag, skipSpace_append hb]
    rfl

theorem choice_readsBack {names : List (String × α)} {nameOf : α → String}
    (h : names.lookup (nameOf a) = some a) : (choice names nameOf).ReadsBack levels a := by
  intro sp depth blanks rest hb _
  show (choice names nameOf).read levels (blanks ++ (stringText (nameOf a) ++ rest)) = _
  simp only [choice]
  rw [stringText_append, skipSpace_before rfl hb]
  simp only [readString_stringText, findName, h, bind, Except.bind]

/-- A value whose text does not begin as `null` does. -/
theorem optional_readsBack_some {first : Char} (h : c.ReadsBack levels a)
    (ho : (c.write a).opening? = some first) (hn : first ≠ 'n') :
    c.optional.ReadsBack levels (some a) := by
  intro sp depth blanks rest hb hrest
  have hread := h sp depth [] rest rfl hrest
  obtain ⟨tail, htail⟩ := write_of_opening ho sp depth
  have hskip := skipSpace_write ho sp depth hb rest
  simp only [optional]
  rw [hskip]
  rw [htail] at hread ⊢
  split
  · next heq =>
    cases heq
    exact absurd rfl hn
  · show Except.map _ (c.read levels ([] ++ (first :: tail ++ rest))) = _
    rw [hread]
    rfl

theorem present_readsBack (h : c.ReadsBack levels a) : c.present.ReadsBack levels (some a) := by
  intro sp depth blanks rest hb hrest
  show Except.map _ (c.read levels (blanks ++ (Json.write sp depth (c.write a) ++ rest))) = _
  rw [h sp depth blanks rest hb hrest]
  rfl

/-! ## Lists -/

/-- A list is read back if its items are and none of them is a number. -/
theorem list_readsBack {as : List α} (hread : ∀ a ∈ as, c.ReadsBack levels a)
    (hopen : ∀ a ∈ as, (c.write a).opening?.isSome = true) :
    c.list.ReadsBack (levels + 1) as := by
  intro sp depth blanks rest hb _
  have htakes : List.Forall₂ (Takes (c.read levels) sp (depth + 1)) (as.map c.write) as := by
    rw [List.forall₂_map_left_iff, List.forall₂_same]
    intro a ha
    obtain ⟨first, hfirst⟩ := Option.isSome_iff_exists.mp (hopen a ha)
    exact .of_opening hfirst (hread a ha sp (depth + 1) [] · rfl)
  obtain ⟨body, hbody, hitems⟩ := readItems_array htakes rest
  show c.list.read (levels + 1) (blanks ++ (Json.write sp depth (.array (as.map c.write)) ++ rest)) = _
  rw [hbody]
  simp only [list, skipSpace_before (c := '[') rfl hb]
  exact hitems

end Codec

/-! ## Members -/

theorem nextKey_close (first : Bool) {blanks : List Char} (hb : blanks.all isSpace = true)
    (rest : List Char) : nextKey first (blanks ++ '\x7d' :: rest) = .ok (.close rest) := by
  rw [nextKey, skipSpace_before rfl hb]
  rfl

theorem nextKey_first (name : String) {blanks : List Char} (hb : blanks.all isSpace = true)
    (rest : List Char) : nextKey true (blanks ++ (stringText name ++ rest)) =
      .ok (.next (name.toList.flatMap escapeChar ++ '"' :: rest)) := by
  rw [nextKey, stringText_append, skipSpace_before rfl hb]
  rfl

theorem nextKey_comma (name : String) {blanks : List Char} (hb : blanks.all isSpace = true)
    (rest : List Char) : nextKey false (',' :: (blanks ++ (stringText name ++ rest))) =
      .ok (.next (name.toList.flatMap escapeChar ++ '"' :: rest)) := by
  rw [nextKey, skipSpace_cons rfl]
  dsimp only
  rw [if_neg (by decide), if_neg Bool.false_ne_true, if_pos rfl, stringText_append,
    skipSpace_before rfl hb]
  rfl

/-- What stands between the colon and a member's value. -/
def Spacing.gap : Spacing → List Char
  | .compact => []
  | .indented => [' ']

theorem isSpace_gap (sp : Spacing) : sp.gap.all isSpace = true := by cases sp <;> rfl

theorem readColon_colon (sp : Spacing) (rest : List Char) :
    readColon (sp.colon ++ rest) = .ok (sp.gap ++ rest) := by
  cases sp <;> rfl

/-! ## Records -/

namespace Field

variable {α : Type} {levels : Nat}

/-- If the field is written, its value is read back; if not, the value is what the field is when it
is missing from an object. -/
def ReadsBack (levels : Nat) (field : Field α) (a : α) : Prop :=
  if field.omits a then field.absence = .inObject a ∨ field.absence = .anywhere a
  else field.codec.ReadsBack levels a

/-- A field that is left out if it has no value. -/
theorem optional_readsBack {name : String} {c : Codec α} {value : Option α}
    (h : ∀ a, value = some a → c.ReadsBack levels a)
    (ho : ∀ a, value = some a → ∃ first, (c.write a).opening? = some first ∧ first ≠ 'n') :
    (Field.optional name c).ReadsBack levels value := by
  cases value with
  | none => exact .inr rfl
  | some a =>
    obtain ⟨first, hfirst, hne⟩ := ho a rfl
    exact Codec.optional_readsBack_some (h a rfl) hfirst hne

theorem given_readsBack {name : String} {c : Codec α} (h : ∀ a, c.ReadsBack levels a)
    (value : Option α) : (Field.given name c).ReadsBack levels value := by
  cases value with
  | none => exact .inr rfl
  | some a => exact Codec.present_readsBack (h a)

end Field

namespace Fields

variable {α β : Type} {fields : Fields β} {levels : Nat} {b : β} {done done' : List String}

def names : {β : Type} → Fields β → List String
  | _, .nil => []
  | _, .cons field rest => field.name :: rest.names

/-- The slots when the fields of some names have been read. -/
def slotsFor (done : List String) : {β : Type} → (fields : Fields β) → β → fields.Slots
  | _, .nil, _ => ()
  | _, .cons field rest, (a, b) =>
    (if field.name ∈ done then some a else none, slotsFor done rest b)

theorem slotsFor_nil (fields : Fields β) (b : β) : fields.slotsFor [] b = fields.noSlots := by
  induction fields with
  | nil => rfl
  | cons field rest ih =>
    obtain ⟨a, b⟩ := b
    simp only [slotsFor, noSlots, ih, List.not_mem_nil, if_false]
    rfl

theorem slotsFor_congr (h : ∀ name ∈ fields.names, name ∈ done ↔ name ∈ done') :
    fields.slotsFor done b = fields.slotsFor done' b := by
  induction fields with
  | nil => rfl
  | cons field rest ih =>
    obtain ⟨a, b⟩ := b
    have hrest := ih (b := b) fun name hname => h name (List.mem_cons_of_mem _ hname)
    have hfirst := h field.name List.mem_cons_self
    simp only [slotsFor, hrest, hfirst]
    rfl

theorem lookup_slotsFor {name : String} (h : name ∈ fields.names) (hd : name ∉ done) :
    fields.lookup (fields.slotsFor done b) name = .fresh := by
  induction fields with
  | nil => cases h
  | cons field rest ih =>
    obtain ⟨a, b⟩ := b
    rw [lookup]
    split
    · next heq =>
      subst heq
      simp [slotsFor, hd]
    · next hne =>
      exact ih ((List.mem_cons.mp h).resolve_left (Ne.symm hne))

theorem name_mem_of_mem_write {m : String × Json} (h : m ∈ fields.write b) :
    m.1 ∈ fields.names := by
  induction fields with
  | nil => cases h
  | cons field rest ih =>
    obtain ⟨a, b⟩ := b
    rw [write] at h
    split at h
    · exact List.mem_cons_of_mem _ (ih h)
    · rcases List.mem_cons.mp h with rfl | h
      · exact List.mem_cons_self
      · exact List.mem_cons_of_mem _ (ih h)

theorem nodup_write (h : fields.names.Nodup) : ((fields.write b).map Prod.fst).Nodup := by
  induction fields with
  | nil => exact List.nodup_nil
  | cons field rest ih =>
    obtain ⟨a, b⟩ := b
    obtain ⟨hfield, hrest⟩ := List.nodup_cons.mp h
    rw [write]
    split
    · exact ih hrest
    · refine List.nodup_cons.mpr ⟨fun hmem => hfield ?_, ih hrest⟩
      obtain ⟨m, hm, hname⟩ := List.mem_map.mp hmem
      have hmember := name_mem_of_mem_write hm
      rwa [hname] at hmember

/-- Each field is read back. -/
def ReadsBack (levels : Nat) : {β : Type} → Fields β → β → Prop
  | _, .nil, _ => True
  | _, .cons field rest, (a, b) => field.ReadsBack levels a ∧ ReadsBack levels rest b

theorem readSlot_write (h : fields.ReadsBack levels b) (hnames : fields.names.Nodup)
    {m : String × Json} (hm : m ∈ fields.write b) (done : List String) (sp : Spacing) (depth : Nat)
    {blanks rest : List Char} (hb : blanks.all isSpace = true) (hrest : Ends rest) :
    fields.readSlot levels m.1 (fields.slotsFor done b)
        (blanks ++ (Json.write sp depth m.2 ++ rest)) =
      .ok (fields.slotsFor (m.1 :: done) b, rest) := by
  induction fields with
  | nil => cases hm
  | cons field others ih =>
    obtain ⟨a, b⟩ := b
    obtain ⟨hfield, hothers⟩ := List.nodup_cons.mp hnames
    obtain ⟨hthis, hafter⟩ := h
    have hread (hm : m ∈ others.write b) : readSlot levels m.1 (.cons field others)
        (slotsFor done (.cons field others) (a, b)) (blanks ++ (Json.write sp depth m.2 ++ rest)) =
          .ok (slotsFor (m.1 :: done) (.cons field others) (a, b), rest) := by
      have hne : field.name ≠ m.1 := fun heq => hfield (heq ▸ name_mem_of_mem_write hm)
      rw [readSlot, if_neg hne]
      simp only [slotsFor, ih hafter hothers hm, Except.map, List.mem_cons, hne, false_or]
    rw [write] at hm
    split at hm
    · exact hread hm
    · next homits =>
      rcases List.mem_cons.mp hm with rfl | hm
      · rw [Field.ReadsBack, if_neg homits] at hthis
        rw [readSlot, if_pos rfl, hthis sp depth blanks rest hb hrest]
        have hsame : slotsFor (field.name :: done) others b = slotsFor done others b :=
          slotsFor_congr fun name hname => by
            have hne : name ≠ field.name := fun heq => hfield (heq ▸ hname)
            simp [hne]
        simp only [slotsFor, hsame, Except.map, List.mem_cons, true_or, if_true]
      · exact hread hm

/-- Once all members are read, the fields that are still missing are those that are left out. -/
theorem close_slotsFor (h : fields.ReadsBack levels b)
    (hd : ∀ m ∈ fields.write b, m.1 ∈ done) :
    fields.close (fields.slotsFor done b) = .ok b := by
  induction fields with
  | nil => rfl
  | cons field others ih =>
    obtain ⟨a, b⟩ := b
    obtain ⟨hthis, hafter⟩ := h
    rw [write] at hd
    rw [close]
    split at hd
    · next homits =>
      rw [Field.ReadsBack, if_pos homits] at hthis
      have hrest := ih hafter hd
      simp only [slotsFor, hrest, Except.map]
      by_cases hdone : field.name ∈ done
      · rw [if_pos hdone]
      · rw [if_neg hdone]
        rcases hthis with h | h <;> rw [h]
    · next homits =>
      have hmem := hd _ List.mem_cons_self
      have hrest := ih hafter fun m hm => hd m (List.mem_cons_of_mem _ hm)
      simp only [slotsFor, hmem, if_true, hrest, Except.map]

/-- What stands behind the first member of a record that is written, and behind the record. -/
def afterMember (sp : Spacing) (depth : Nat) (ms : Members) (rest : List Char) : List Char :=
  writeMembers sp (depth + 1) ms ++ (sp.lineBreak depth ++ '\x7d' :: rest)

theorem afterMember_cons (sp : Spacing) (depth : Nat) (m : String × Json) (ms : Members)
    (rest : List Char) : afterMember sp depth (m :: ms) rest =
      ',' :: (sp.lineBreak (depth + 1) ++ (stringText m.1 ++ (sp.colon ++
        (Json.write sp (depth + 1) m.2 ++ afterMember sp depth ms rest)))) := by
  simp [afterMember, writeMembers]

theorem ends_afterMember (sp : Spacing) (depth : Nat) (ms : Members) (rest : List Char) :
    Ends (afterMember sp depth ms rest) := by
  cases ms with
  | nil => exact ends_lineBreak sp depth (.inr rfl) rest
  | cons m ms => exact ends_cons (.inr (.inl rfl)) _

theorem length_lt_afterMember (sp : Spacing) (depth : Nat) (ms : Members) (rest : List Char) :
    ms.length < (afterMember sp depth ms rest).length := by
  induction ms with
  | nil =>
    simp only [afterMember, List.length_append, List.length_cons, List.length_nil]
    omega
  | cons m ms ih =>
    rw [afterMember_cons]
    simp only [List.length_cons, List.length_append]
    omega

section Members

variable (h : fields.ReadsBack levels b) (hnames : fields.names.Nodup) (sp : Spacing) (depth : Nat)
  (rest : List Char)
include h hnames

/-- A member that is next and whose field has not been read yet is read into its slot. -/
theorem readMembers_member {m : String × Json} (hm : m ∈ fields.write b) (hfresh : m.1 ∉ done)
    (ms : Members) {first : Bool} {f : Char} {fuel input : List Char}
    (hnext : nextKey first input = .ok (.next (m.1.toList.flatMap escapeChar ++
      '"' :: (sp.colon ++ (Json.write sp (depth + 1) m.2 ++ afterMember sp depth ms rest))))) :
    readMembers fields levels (f :: fuel) first (fields.slotsFor done b) input =
      readMembers fields levels fuel false (fields.slotsFor (m.1 :: done) b)
        (afterMember sp depth ms rest) := by
  have hlookup := lookup_slotsFor (b := b) (name_mem_of_mem_write hm) hfresh
  have hslot := readSlot_write h hnames hm done sp (depth + 1) (isSpace_gap sp)
    (ends_afterMember sp depth ms rest)
  rw [readMembers, hnext]
  simp only [readString_stringText, readColon_colon, hlookup, hslot, bind, Except.bind]

/-- Of the members of a record, those `before` have been read, the last one first. -/
theorem readMembers_afterMember (before ms : Members) (hw : fields.write b = before.reverse ++ ms)
    {fuel : List Char} (hfuel : ms.length < fuel.length) :
    readMembers fields levels fuel false (fields.slotsFor (before.map Prod.fst) b)
      (afterMember sp depth ms rest) = .ok (b, rest) := by
  induction ms generalizing before fuel with
  | nil =>
    cases fuel with
    | nil => exact absurd hfuel (Nat.lt_irrefl 0)
    | cons f fuel =>
      have hclosed : fields.close (fields.slotsFor (before.map Prod.fst) b) = .ok b := by
        refine close_slotsFor h fun m hm => List.mem_map_of_mem ?_
        rw [hw, List.append_nil] at hm
        exact List.mem_reverse.mp hm
      rw [readMembers, afterMember, writeMembers, List.nil_append,
        nextKey_close false (isSpace_lineBreak sp depth)]
      simp only [hclosed]
  | cons m ms ih =>
    cases fuel with
    | nil => exact absurd hfuel (Nat.not_lt_zero _)
    | cons f fuel =>
      have hm : m ∈ fields.write b := by simp [hw]
      have hfresh : m.1 ∉ before.map Prod.fst := by
        have hnodup := nodup_write (b := b) hnames
        rw [hw, List.map_append, List.nodup_append] at hnodup
        intro hmem
        exact hnodup.2.2 m.1 (by simpa using hmem) m.1 (by simp) rfl
      have hnext := nextKey_comma m.1 (isSpace_lineBreak sp (depth + 1)) (sp.colon ++
        (Json.write sp (depth + 1) m.2 ++ afterMember sp depth ms rest))
      rw [afterMember_cons, readMembers_member h hnames sp depth rest hm hfresh ms hnext]
      exact ih (m :: before) (by simp [hw]) (Nat.lt_of_succ_lt_succ hfuel)

/-- The first member is not behind a comma. -/
theorem readMembers_first {m : String × Json} {ms : Members} (hw : fields.write b = m :: ms)
    {fuel : List Char} (hfuel : ms.length + 1 < fuel.length) :
    readMembers fields levels fuel true fields.noSlots (sp.lineBreak (depth + 1) ++
      (stringText m.1 ++ (sp.colon ++
        (Json.write sp (depth + 1) m.2 ++ afterMember sp depth ms rest)))) = .ok (b, rest) := by
  cases fuel with
  | nil => exact absurd hfuel (Nat.not_lt_zero _)
  | cons f fuel =>
    have hm : m ∈ fields.write b := by simp [hw]
    have hnext := nextKey_first m.1 (isSpace_lineBreak sp (depth + 1)) (sp.colon ++
      (Json.write sp (depth + 1) m.2 ++ afterMember sp depth ms rest))
    rw [← slotsFor_nil fields b,
      readMembers_member h hnames sp depth rest hm List.not_mem_nil ms hnext]
    exact readMembers_afterMember h hnames sp depth rest [m] ms hw (Nat.lt_of_succ_lt_succ hfuel)

end Members

end Fields

namespace Codec

section Record

variable {α β : Type} {name : String} {fields : Fields β} {make : β → α} {split : α → β}
  {levels : Nat} {a : α}

theorem record_read_object {blanks : List Char} (hb : blanks.all isSpace = true)
    (input : List Char) :
    (record name fields make split).read (levels + 1) (blanks ++ '\x7b' :: input) =
      (fields.readMembers levels input true fields.noSlots input).map
        fun (b, rest) => (make b, rest) := by
  simp only [record]
  rw [skipSpace_before rfl hb]
  rfl

/-- A record is read back if its fields are and have different names. -/
theorem record_readsBack (h : fields.ReadsBack levels (split a)) (hnames : fields.names.Nodup)
    (hmake : make (split a) = a) : (record name fields make split).ReadsBack (levels + 1) a := by
  intro sp depth blanks rest hb _
  have hwrite : (record name fields make split).write a = .object (fields.write (split a)) := rfl
  rw [hwrite]
  cases hw : fields.write (split a) with
  | nil =>
    have hclosed : fields.close fields.noSlots = .ok (split a) := by
      rw [← Fields.slotsFor_nil fields (split a)]
      refine Fields.close_slotsFor h fun m hm => ?_
      rw [hw] at hm
      cases hm
    show (record name fields make split).read (levels + 1) (blanks ++ '\x7b' :: '\x7d' :: rest) = _
    have hclose : nextKey true ('\x7d' :: rest) = .ok (.close rest) := rfl
    rw [record_read_object hb, Fields.readMembers, hclose]
    simp only [hclosed, Except.map, hmake]
  | cons m ms =>
    have htext : Json.write sp depth (.object (m :: ms)) ++ rest =
        '\x7b' :: (sp.lineBreak (depth + 1) ++ (stringText m.1 ++ (sp.colon ++
          (Json.write sp (depth + 1) m.2 ++ Fields.afterMember sp depth ms rest)))) := by
      simp [Json.write, Fields.afterMember]
    have hfuel : ms.length + 1 < (sp.lineBreak (depth + 1) ++ (stringText m.1 ++ (sp.colon ++
        (Json.write sp (depth + 1) m.2 ++ Fields.afterMember sp depth ms rest)))).length := by
      have hrest := Fields.length_lt_afterMember sp depth ms rest
      simp only [stringText, List.length_append, List.length_cons]
      omega
    rw [htext, record_read_object hb, Fields.readMembers_first h hnames sp depth rest hw hfuel]
    simp only [Except.map, hmake]

end Record

/-! ## Whole texts -/

/-- What is written is decoded, on one line or on several. -/
theorem ReadsBack.decode {α : Type} {c : Codec α} {a : α} (h : c.ReadsBack maxNesting a) :
    c.decode (c.write a).compact = .ok a ∧ c.decode (c.write a).indented = .ok a := by
  have hread (sp : Spacing) :
      c.decode (String.ofList (Json.write sp 0 (c.write a))) = .ok a := by
    have htext := h sp 0 [] [] rfl ends_nil
    rw [List.nil_append, List.append_nil] at htext
    rw [Codec.decode, readWhole, String.toList_ofList, htext]
    rfl
  exact ⟨hread .compact, hread .indented⟩

end Codec

end GraphGateway.Json
