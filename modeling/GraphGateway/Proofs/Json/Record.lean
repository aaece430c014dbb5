/-
Which texts a record is read off.

They are of two forms. In an object, a field takes the value of the one member that is so called, or
is what it is when it is left out; members that no field asks for may be any values, and two members
for one field are refused (`Gives`). In an array, the fields take the items in their order, and those
at the end may be left out (`GivesInOrder`). What a field's value says about the part of the text
that it was taken from is told for each field (`Fits`).
-/
import GraphGateway.Json.Codec
import GraphGateway.Proofs.Json.ReadBack
import GraphGateway.Proofs.Json.Unambiguous

namespace GraphGateway.Json

/-! ## Simple values -/

/-- A value is a string of these characters. -/
def IsText (tree : Tree) (s : String) : Prop := ∃ body, tree = .string body ∧ Spells body s.toList

namespace Codec

theorem readText_takesValues (expected : String) : TakesValues (readText expected) IsText := by
  intro input s rest h
  unfold readText at h
  split at h
  · next behind hspace =>
    obtain ⟨body, hspells, rfl⟩ := readString_sound h
    exact ⟨_, _, gap_of_skipSpace hspace, .string hspells.isBody rest, body, rfl, hspells⟩
  · cases h

theorem text_takesValues (levels : Nat) : TakesValues (text.read levels) IsText :=
  readText_takesValues "a string"

/-- A number of these bounds, as its token says. -/
def IntegerOf (low high : Int) (tree : Tree) (n : Int) : Prop :=
  ∃ token, tree = .number token ∧ Numbers token (.int n) ∧ low ≤ n ∧ n < high

theorem integer_takesValues (low high : Int) (expected : String) (levels : Nat) :
    TakesValues ((integer low high expected).read levels) (IntegerOf low high) := by
  intro input n rest h
  simp only [integer] at h
  split at h
  · cases h
  · next c behind hspace =>
    have hgap := gap_of_skipSpace hspace
    split at h
    · next hc =>
      subst hc
      split at h
      · cases h
      · cases h
      · next m left hnumeral =>
        obtain ⟨token, htoken, rfl, hread⟩ := readNumeral_sound hnumeral
        split at h
        · next hrange =>
          cases h
          exact ⟨_, _, hgap, .negative htoken rest, _, rfl, .negative htoken hread, hrange⟩
        · cases h
    · split at h
      · split at h
        · cases h
        · cases h
        · next m left hnumeral =>
          obtain ⟨token, htoken, hinput, hread⟩ := readNumeral_sound hnumeral
          rw [hinput] at hgap
          split at h
          · next hrange =>
            cases h
            exact ⟨_, _, hgap, .positive htoken rest, _, rfl, .positive htoken hread, hrange⟩
          · cases h
      · cases h

theorem canonical_eq_null_iff {j : Json} : j.canonical = .null ↔ j = .null := by
  cases j <;> simp [canonical]

/-- What a value means, with the members of its objects sorted. -/
def AnyOf (levels : Nat) (tree : Tree) (j : Json) : Prop := ∃ i, Means levels tree i ∧ i.canonical = j

theorem AnyOf.nullAlike {levels : Nat} {tree : Tree} {j : Json} (h : AnyOf levels tree j) :
    NullAlike tree j := by
  obtain ⟨i, hmeans, rfl⟩ := h
  exact hmeans.nullAlike.trans canonical_eq_null_iff.symm

theorem any_takesValues (levels : Nat) : TakesValues (any.read levels) (AnyOf levels) := by
  intro input j rest h
  obtain ⟨⟨i, left⟩, hread, heq⟩ := map_eq_ok_iff.mp h
  cases heq
  obtain ⟨value, tree, hgap, hvalue, hmeans⟩ := readValue_sound levels _ _ _ hread
  exact ⟨value, tree, hgap, hvalue, i, hmeans, rfl⟩

/-- There is no value where `null` is written, else a value that is told by a relation. -/
def OptionalOf {α : Type} (fits : Tree → α → Prop) (tree : Tree) : Option α → Prop
  | none => tree = .null
  | some a => tree ≠ .null ∧ fits tree a

theorem optional_takesValues {α : Type} {c : Codec α} {fits : Tree → α → Prop} {levels : Nat}
    (hc : TakesValues (c.read levels) fits) :
    TakesValues (c.optional.read levels) (OptionalOf fits) := by
  intro input a rest h
  simp only [optional] at h
  split at h
  · next behind hspace =>
    obtain ⟨left, hletters, heq⟩ := map_eq_ok_iff.mp h
    cases heq
    obtain rfl := readLetters_sound hletters
    exact ⟨_, _, gap_of_skipSpace hspace, .null rest, rfl⟩
  · next hother =>
    obtain ⟨⟨b, left⟩, hread, heq⟩ := map_eq_ok_iff.mp h
    cases heq
    obtain ⟨value, tree, hgap, hvalue, hfits⟩ := hc _ _ _ hread
    have hgap' := (gap_skipSpace input).trans hgap
    refine ⟨value, tree, hgap', hvalue, ?_, hfits⟩
    rintro rfl
    cases hvalue with
    | null => exact hother _ (hgap'.skipSpace_eq rfl)

end Codec

/-! ## Members -/

/-- The members of an object with the characters of their names. -/
def Named (members : List (List Char × Tree)) (entries : List (String × Tree)) : Prop :=
  List.Forall₂ (fun member entry => Spells member.1 entry.1.toList ∧ member.2 = entry.2) members
    entries

/-- The values of all members of a name, in order. -/
def valuesOf (name : String) (entries : List (String × Tree)) : List Tree :=
  (entries.filter (·.1 = name)).map Prod.snd

@[simp] theorem valuesOf_append (name : String) (entries others : List (String × Tree)) :
    valuesOf name (entries ++ others) = valuesOf name entries ++ valuesOf name others := by
  simp [valuesOf]

theorem valuesOf_of_eq (name : String) (tree : Tree) : valuesOf name [(name, tree)] = [tree] := by
  simp [valuesOf]

theorem valuesOf_of_ne {name name' : String} (h : name' ≠ name) (tree : Tree) :
    valuesOf name [(name', tree)] = [] := by
  simp [valuesOf, h]

theorem mem_of_mem_valuesOf {name : String} {tree : Tree} {entries : List (String × Tree)}
    (h : tree ∈ valuesOf name entries) : (name, tree) ∈ entries := by
  obtain ⟨⟨name', tree'⟩, hentry, rfl⟩ := List.mem_map.mp h
  obtain ⟨hmem, hname⟩ := List.mem_filter.mp hentry
  obtain rfl : name' = name := of_decide_eq_true hname
  exact hmem

theorem mem_valuesOf {name : String} {tree : Tree} {entries : List (String × Tree)} :
    tree ∈ valuesOf name entries ↔ (name, tree) ∈ entries := by
  refine ⟨mem_of_mem_valuesOf, fun h => List.mem_map.mpr ⟨_, List.mem_filter.mpr ⟨h, ?_⟩, rfl⟩⟩
  exact decide_eq_true rfl

theorem exists_of_mem_right {α β : Type} {r : α → β → Prop} {as : List α} {bs : List β}
    (h : List.Forall₂ r as bs) {b : β} (hb : b ∈ bs) : ∃ a ∈ as, r a b := by
  induction h with
  | nil => cases hb
  | cons hr _ ih =>
    rcases List.mem_cons.mp hb with rfl | hb
    · exact ⟨_, List.mem_cons_self, hr⟩
    · obtain ⟨a, ha, hab⟩ := ih hb
      exact ⟨a, List.mem_cons_of_mem _ ha, hab⟩

theorem Named.exists_member {members : List (List Char × Tree)} {entries : List (String × Tree)}
    (h : Named members entries) {name : String} {tree : Tree} (hm : (name, tree) ∈ entries) :
    ∃ body, (body, tree) ∈ members := by
  obtain ⟨⟨body, tree'⟩, hmember, -, rfl⟩ := exists_of_mem_right h hm
  exact ⟨body, hmember⟩

namespace Fields

/-- For each field, what its value says about the part of the text that it was taken from. -/
def Fits : {β : Type} → Fields β → Type
  | _, .nil => Unit
  | _, .cons (α := α) _ rest => (Tree → α → Prop) × rest.Fits

/-- The values of the fields are taken so. -/
def TakeValues (levels : Nat) : {β : Type} → (fields : Fields β) → fields.Fits → Prop
  | _, .nil, _ => True
  | _, .cons field rest, fits =>
    TakesValues (field.codec.read levels) fits.1 ∧ rest.TakeValues levels fits.2

/-- The slots hold what members of an object give. -/
def Filled (entries : List (String × Tree)) :
    {β : Type} → (fields : Fields β) → fields.Fits → fields.Slots → Prop
  | _, .nil, _, _ => True
  | _, .cons field rest, fits, slots =>
    List.Forall₂ fits.1 (valuesOf field.name entries) slots.1.toList ∧
      rest.Filled entries fits.2 slots.2

/-- The fields have their values from members of an object. -/
def Gives (entries : List (String × Tree)) :
    {β : Type} → (fields : Fields β) → fields.Fits → β → Prop
  | _, .nil, _, _ => True
  | _, .cons field rest, fits, b =>
    ((∃ tree, valuesOf field.name entries = [tree] ∧ fits.1 tree b.1) ∨
      valuesOf field.name entries = [] ∧
        (field.absence = .inObject b.1 ∨ field.absence = .anywhere b.1)) ∧
      rest.Gives entries fits.2 b.2

/-- The fields have their values from items of an array. -/
def GivesInOrder : List Tree → {β : Type} → (fields : Fields β) → fields.Fits → β → Prop
  | items, _, .nil, _, _ => items = []
  | [], _, .cons field rest, fits, b =>
    field.absence = .anywhere b.1 ∧ rest.GivesInOrder [] fits.2 b.2
  | item :: items, _, .cons _ rest, fits, b =>
    fits.1 item b.1 ∧ rest.GivesInOrder items fits.2 b.2

/-! ## Objects -/

section Objects

variable {β : Type} {fields : Fields β} {fits : fields.Fits} {levels : Nat}
  {entries : List (String × Tree)} {slots slots' : fields.Slots} {name : String} {b : β}
  {input rest : List Char}

theorem filled_noSlots : fields.Filled [] fits fields.noSlots := by
  induction fields with
  | nil => trivial
  | cons field others ih => exact ⟨.nil, ih⟩

theorem not_mem_names_of_lookup (h : fields.lookup slots name = .unknown) :
    name ∉ fields.names := by
  induction fields with
  | nil => exact List.not_mem_nil
  | cons field others ih =>
    rw [lookup] at h
    split at h
    · split at h <;> cases h
    · next hne =>
      rw [names, List.mem_cons, not_or]
      exact ⟨Ne.symm hne, ih h⟩

/-- A member that no field asks for changes nothing. -/
theorem Filled.unknown (h : fields.Filled entries fits slots) (hname : name ∉ fields.names)
    (tree : Tree) : fields.Filled (entries ++ [(name, tree)]) fits slots := by
  induction fields with
  | nil => trivial
  | cons field others ih =>
    obtain ⟨hfirst, hothers⟩ := h
    rw [names, List.mem_cons, not_or] at hname
    refine ⟨?_, ih hothers hname.2⟩
    rw [valuesOf_append, valuesOf_of_ne hname.1, List.append_nil]
    exact hfirst

/-- A field that has not been read takes the value of a member that is so called. -/
theorem Filled.fresh (hnames : fields.names.Nodup) (htake : fields.TakeValues levels fits)
    (h : fields.Filled entries fits slots) (hfresh : fields.lookup slots name = .fresh)
    (hread : readSlot levels name fields slots input = .ok (slots', rest)) :
    ∃ value tree, Gap input value ∧ IsValue value tree rest ∧
      fields.Filled (entries ++ [(name, tree)]) fits slots' := by
  induction fields with
  | nil => cases hfresh
  | cons field others ih =>
    obtain ⟨hfield, hnodup⟩ := List.nodup_cons.mp hnames
    obtain ⟨hfirst, hothers⟩ := h
    rw [lookup] at hfresh
    rw [readSlot] at hread
    split at hfresh
    · next heq =>
      subst heq
      rw [if_pos rfl] at hread
      obtain ⟨⟨a, left⟩, htaken, hslots⟩ := map_eq_ok_iff.mp hread
      cases hslots
      obtain ⟨value, tree, hgap, hvalue, hfits⟩ := htake.1 _ _ _ htaken
      refine ⟨value, tree, hgap, hvalue, ?_, hothers.unknown hfield tree⟩
      have hnone : valuesOf field.name entries = [] := by
        split at hfresh
        · cases hfresh
        · next hslot =>
          rw [Option.not_isSome_iff_eq_none.mp hslot] at hfirst
          exact List.forall₂_nil_right_iff.mp hfirst
      rw [valuesOf_append, hnone, valuesOf_of_eq]
      exact .cons hfits .nil
    · next hne =>
      rw [if_neg hne] at hread
      obtain ⟨⟨left, behind⟩, htaken, hslots⟩ := map_eq_ok_iff.mp hread
      cases hslots
      obtain ⟨value, tree, hgap, hvalue, hfilled⟩ := ih hnodup htake.2 hothers hfresh htaken
      refine ⟨value, tree, hgap, hvalue, ?_, hfilled⟩
      rw [valuesOf_append, valuesOf_of_ne (Ne.symm hne), List.append_nil]
      exact hfirst

theorem Filled.gives (h : fields.Filled entries fits slots) (hclose : fields.close slots = .ok b) :
    fields.Gives entries fits b := by
  induction fields with
  | nil => trivial
  | cons field others ih =>
    obtain ⟨hfirst, hothers⟩ := h
    unfold close at hclose
    split at hclose
    · next a hslot =>
      obtain ⟨values, hvalues, rfl⟩ := map_eq_ok_iff.mp hclose
      rw [hslot] at hfirst
      obtain ⟨tree, trees, hfits, htrees, heq⟩ := List.forall₂_cons_right_iff.mp hfirst
      rw [List.forall₂_nil_right_iff.mp htrees] at heq
      exact ⟨.inl ⟨tree, heq, hfits⟩, ih hothers hvalues⟩
    · next a hslot habsence =>
      obtain ⟨values, hvalues, rfl⟩ := map_eq_ok_iff.mp hclose
      rw [hslot] at hfirst
      exact ⟨.inr ⟨List.forall₂_nil_right_iff.mp hfirst, .inl habsence⟩, ih hothers hvalues⟩
    · next a hslot habsence =>
      obtain ⟨values, hvalues, rfl⟩ := map_eq_ok_iff.mp hclose
      rw [hslot] at hfirst
      exact ⟨.inr ⟨List.forall₂_nil_right_iff.mp hfirst, .inr habsence⟩, ih hothers hvalues⟩
    · cases hclose

/-- A field has its value from at most one member. -/
theorem Gives.length_le_one (h : fields.Gives entries fits b)
    (hname : name ∈ fields.names) : (valuesOf name entries).length ≤ 1 := by
  induction fields with
  | nil => cases hname
  | cons field others ih =>
    rcases List.mem_cons.mp hname with rfl | hname
    · rcases h.1 with ⟨tree, hvalues, -⟩ | ⟨hvalues, -⟩
      · rw [hvalues]
        exact Nat.le_refl 1
      · rw [hvalues]
        exact Nat.zero_le 1
    · exact ih h.2 hname

/-- The names and values of the members tell what the fields have. -/
theorem Gives.congr {entries' : List (String × Tree)} (h : fields.Gives entries fits b)
    (hsame : ∀ name ∈ fields.names, valuesOf name entries' = valuesOf name entries) :
    fields.Gives entries' fits b := by
  induction fields with
  | nil => trivial
  | cons field others ih =>
    refine ⟨?_, ih h.2 fun name hname => hsame name (List.mem_cons_of_mem _ hname)⟩
    rw [hsame field.name List.mem_cons_self]
    exact h.1

/-- The order of the members does not matter. -/
theorem Gives.perm {entries' : List (String × Tree)} (h : fields.Gives entries fits b)
    (hperm : entries'.Perm entries) : fields.Gives entries' fits b := by
  refine h.congr fun name hname => ?_
  have hvalues : (valuesOf name entries').Perm (valuesOf name entries) := (hperm.filter _).map _
  have hone := h.length_le_one hname
  match hlist : valuesOf name entries, hone with
  | [], _ => exact List.perm_nil.mp (hlist ▸ hvalues)
  | [_], _ => exact List.perm_singleton.mp (hlist ▸ hvalues)

/-- Members that no field asks for do not matter. -/
theorem Gives.add (h : fields.Gives entries fits b) (hname : name ∉ fields.names) (tree : Tree) :
    fields.Gives ((name, tree) :: entries) fits b := by
  refine h.congr fun other hother => ?_
  have hne : name ≠ other := fun heq => hname (heq ▸ hother)
  rw [← List.singleton_append, valuesOf_append, valuesOf_of_ne hne, List.nil_append]

/-- A field that has its value from a member is the same when the member is left out. -/
def Spares (name : String) (tree : Tree) : {β : Type} → (fields : Fields β) → fields.Fits → Prop
  | _, .nil, _ => True
  | _, .cons field rest, fits =>
    (field.name = name → ∀ a, fits.1 tree a →
      field.absence = .inObject a ∨ field.absence = .anywhere a) ∧
      rest.Spares name tree fits.2

theorem Gives.leave_out {tree : Tree} (h : fields.Gives ((name, tree) :: entries) fits b)
    (hspares : fields.Spares name tree fits) : fields.Gives entries fits b := by
  induction fields with
  | nil => trivial
  | cons field others ih =>
    obtain ⟨hfirst, hothers⟩ := h
    refine ⟨?_, ih hothers hspares.2⟩
    rw [← List.singleton_append, valuesOf_append] at hfirst
    by_cases hname : field.name = name
    · subst hname
      rw [valuesOf_of_eq, List.singleton_append] at hfirst
      rcases hfirst with ⟨tree', hvalues, hfits⟩ | ⟨hvalues, -⟩
      · obtain ⟨rfl, hnone⟩ := List.cons.inj hvalues
        exact .inr ⟨hnone, hspares.1 rfl b.1 hfits⟩
      · cases hvalues
    · rw [valuesOf_of_ne (Ne.symm hname), List.nil_append] at hfirst
      exact hfirst

/-- A field that may not be left out has its value from the one member that is so called. -/
theorem Gives.of_refused {α : Type} {field : Field α} {others : Fields β}
    {fits : (Fields.cons field others).Fits} {b : α × β}
    (h : (Fields.cons field others).Gives entries fits b) (hrefused : field.absence = .refused) :
    ∃ tree, valuesOf field.name entries = [tree] ∧ fits.1 tree b.1 := by
  refine h.1.resolve_right fun ⟨_, habsence⟩ => ?_
  rw [hrefused] at habsence
  rcases habsence with h | h <;> cases h

/-- Members that are read make an object that gives the fields their values. -/
theorem readMembers_gives (hnames : fields.names.Nodup) (htake : fields.TakeValues levels fits)
    {fuel : List Char} {first : Bool} (h : fields.Filled entries fits slots)
    (hread : fields.readMembers levels fuel first slots input = .ok (b, rest)) :
    ∃ members others, AreMembers first input members rest ∧ Named members others ∧
      fields.Gives (entries ++ others) fits b := by
  induction fuel generalizing first slots input entries with
  | nil => cases hread
  | cons f fuel ih =>
    rw [readMembers] at hread
    split at hread
    · cases hread
    · next hnext =>
      cases nextKey_sound hnext with
      | close hgap =>
        split at hread
        · next hclose =>
          cases hread
          refine ⟨[], [], .close hgap, .nil, ?_⟩
          rw [List.append_nil]
          exact h.gives hclose
        · cases hread
    · next behind hnext =>
      cases nextKey_sound hnext with
      | next hlead =>
        obtain ⟨⟨name, colon⟩, hname, hmember⟩ := bind_eq_ok_iff.mp hread
        obtain ⟨body, hspells, rfl⟩ := readString_sound hname
        -- What is left to show of a member, whichever way its value is taken.
        have hstep {before value behind : List Char} {tree : Tree} {slots : fields.Slots}
            (hcolon : readColon colon = .ok before) (hgap : Gap before value)
            (hvalue : IsValue value tree behind)
            (hfilled : fields.Filled (entries ++ [(name, tree)]) fits slots)
            (hothers : fields.readMembers levels fuel false slots behind = .ok (b, rest)) :
            ∃ members others, AreMembers first input members rest ∧ Named members others ∧
              fields.Gives (entries ++ others) fits b := by
          obtain ⟨members, others, hmembers, hnamed, hgives⟩ := ih hfilled hothers
          refine ⟨(body, tree) :: members, (name, tree) :: others,
            .member hlead hspells.isBody (readColon_sound hcolon) hgap hvalue hmembers,
            .cons ⟨hspells, rfl⟩ hnamed, ?_⟩
          rwa [List.append_assoc] at hgives
        dsimp only at hmember
        split at hmember
        · cases hmember
        · next hfresh =>
          obtain ⟨before, hcolon, hslot⟩ := bind_eq_ok_iff.mp hmember
          obtain ⟨⟨slots', behind⟩, htaken, hothers⟩ := bind_eq_ok_iff.mp hslot
          obtain ⟨value, tree, hgap, hvalue, hfilled⟩ := h.fresh hnames htake hfresh htaken
          exact hstep hcolon hgap hvalue hfilled hothers
        · next hunknown =>
          obtain ⟨before, hcolon, hskip⟩ := bind_eq_ok_iff.mp hmember
          obtain ⟨behind, hskipped, hothers⟩ := bind_eq_ok_iff.mp hskip
          obtain ⟨value, tree, hgap, hvalue⟩ := skipValue_sound hskipped
          exact hstep hcolon hgap hvalue (h.unknown (not_mem_names_of_lookup hunknown) tree) hothers

end Objects

/-! ## Arrays -/

section Arrays

variable {β : Type} {fields : Fields β} {fits : fields.Fits} {levels : Nat} {b : β}
  {input rest : List Char}

theorem endArray_sound (h : endArray input = .ok rest) : Gap input (']' :: rest) := by
  unfold endArray at h
  split at h
  · cases h
  · next c behind hspace =>
    split at h
    · next hc =>
      cases h
      exact hc ▸ gap_of_skipSpace hspace
    · split at h <;> cases h

theorem fill_gives {index : Nat} (h : fields.fill index = .ok b) :
    fields.GivesInOrder [] fits b := by
  induction fields generalizing index with
  | nil => rfl
  | cons field others ih =>
    unfold fill at h
    split at h
    · next habsence =>
      obtain ⟨values, hvalues, rfl⟩ := map_eq_ok_iff.mp h
      exact ⟨habsence, ih hvalues⟩
    · cases h
    · cases h

/-- Items that are read make an array that gives the fields their values. -/
theorem readElements_gives (htake : fields.TakeValues levels fits) {expected : String} {index : Nat}
    (h : fields.readElements expected levels index input = .ok (b, rest)) :
    ∃ items, AreItems (index == 0) input items rest ∧ fields.GivesInOrder items fits b := by
  induction fields generalizing index input with
  | nil =>
    obtain ⟨left, hend, heq⟩ := map_eq_ok_iff.mp h
    cases heq
    exact ⟨[], .close (endArray_sound hend), rfl⟩
  | cons field others ih =>
    rw [readElements] at h
    split at h
    · cases h
    · next hnext =>
      cases nextItem_sound hnext with
      | close hgap =>
        split at h
        · next hfill =>
          cases h
          exact ⟨[], .close hgap, fill_gives hfill⟩
        · cases h
    · next left hnext =>
      cases nextItem_sound hnext with
      | next hlead =>
        obtain ⟨⟨a, behind⟩, htaken, hmore⟩ := bind_eq_ok_iff.mp h
        obtain ⟨⟨values, end'⟩, hothers, heq⟩ := bind_eq_ok_iff.mp hmore
        cases heq
        obtain ⟨value, tree, hgap, hvalue, hfits⟩ := htake.1 _ _ _ htaken
        obtain ⟨items, hitems, hgives⟩ := ih htake.2 hothers
        exact ⟨tree :: items, .item (hlead.gap hgap) hvalue hitems, hfits, hgives⟩

end Arrays

end Fields

/-! ## Records -/

/-- A value gives the fields their values, as an object or as an array. -/
inductive RecordOf {β : Type} (fields : Fields β) (fits : fields.Fits) : Tree → β → Prop where
  | object {members : List (List Char × Tree)} {entries : List (String × Tree)} {b : β}
    (hnamed : Named members entries) (h : fields.Gives entries fits b) :
    RecordOf fields fits (.object members) b
  | array {items : List Tree} {b : β} (h : fields.GivesInOrder items fits b) :
    RecordOf fields fits (.array items) b

theorem Codec.record_takesValues {α β : Type} {name : String} {fields : Fields β} {make : β → α}
    {split : α → β} (fits : fields.Fits) (hnames : fields.names.Nodup) {levels : Nat}
    (htake : ∀ inner, levels = inner + 1 → fields.TakeValues inner fits) :
    TakesValues ((Codec.record name fields make split).read levels) fun tree a =>
      ∃ b, make b = a ∧ RecordOf fields fits tree b := by
  intro input a rest h
  simp only [record] at h
  split at h
  · next behind hspace =>
    split at h
    · cases h
    · obtain ⟨⟨b, left⟩, hread, heq⟩ := map_eq_ok_iff.mp h
      cases heq
      obtain ⟨items, hitems, hgives⟩ := Fields.readElements_gives (htake _ rfl) hread
      exact ⟨_, _, gap_of_skipSpace hspace, .array hitems, b, rfl, .array hgives⟩
  · next behind hspace =>
    split at h
    · cases h
    · obtain ⟨⟨b, left⟩, hread, heq⟩ := map_eq_ok_iff.mp h
      cases heq
      obtain ⟨members, entries, hmembers, hnamed, hgives⟩ :=
        Fields.readMembers_gives hnames (htake _ rfl) Fields.filled_noSlots hread
      exact ⟨_, _, gap_of_skipSpace hspace, .object hmembers, b, rfl, .object hnamed hgives⟩
  · cases h

theorem Codec.decode_sound {α : Type} {c : Codec α} {fits : Tree → α → Prop}
    (hc : TakesValues (c.read maxNesting) fits) {text : String} {a : α}
    (h : c.decode text = .ok a) : ∃ tree, HoldsTree text tree ∧ fits tree a := by
  unfold decode readWhole at h
  split at h
  · cases h
  · next a rest hread =>
    split at h
    · next hspace =>
      cases h
      obtain ⟨value, tree, hgap, hvalue, hfits⟩ := hc _ _ _ hread
      exact ⟨tree, ⟨value, rest, hgap, hvalue, gap_of_skipSpace hspace⟩, hfits⟩
    · cases h

end GraphGateway.Json
