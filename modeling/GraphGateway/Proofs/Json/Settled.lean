/-
Encoding what has been decoded.

A codec settles (`Codec.Settles`) if whatever it reads off a text whose numbers are integers, written
as such, is read back from what it is written as. Codecs that read back every value they take settle;
so do those for any value, because what they read is canonical already, and those that are made of
others: optional values, as long as none of them is written as `null`, and records, as long as what is
left out when it is written is what is put in when it is missing.
-/
import GraphGateway.Proofs.Json.Canonical

namespace GraphGateway.Json

namespace Codec

variable {α β : Type} {c : Codec α} {levels : Nat}

/-- What is encoded, on one line or on several, is decoded as an equal value, which is encoded as the
same text again. -/
def Recovers (c : Codec α) (a : α) : Prop :=
  ∀ encode ∈ [Json.compact, Json.indented], ∃ again,
    c.decode (encode (c.write a)) = .ok again ∧ again = a ∧
      encode (c.write again) = encode (c.write a)

theorem ReadsBack.recovers {a : α} (h : c.ReadsBack maxNesting a) : c.Recovers a := by
  intro encode hencode
  obtain ⟨hcompact, hindented⟩ := h.decode
  rcases List.mem_cons.mp hencode with rfl | hencode
  · exact ⟨a, hcompact, rfl, rfl⟩
  · obtain rfl := List.mem_singleton.mp hencode
    exact ⟨a, hindented, rfl, rfl⟩

/-! ## Values -/

/-- What is read off the tokens of a plain value is read back. -/
theorem readsBack_of_plain {inner : Nat} {a : α} (hplain : Plain inner (c.write a))
    (hread : Reads (c.read levels) (Tree.ofJson (c.write a)) a) : c.ReadsBack levels a :=
  fun sp depth _ rest hb hends =>
    hread _ _ _ (gap_of_blanks hb _) (hplain.isValue sp depth rest) hends

theorem any_readsBack {j : Json} (h : Plain levels j) (hc : j.canonical = j) :
    any.ReadsBack levels j :=
  readsBack_of_plain h (any_reads ⟨j, h.means, hc⟩)

theorem integer_readsBack {low high n : Int} (expected : String) (h : InRange n) (hlow : low ≤ n)
    (hhigh : n < high) : (integer low high expected).ReadsBack levels n := by
  have hplain : Plain 0 (.number (.int n)) := by
    rw [Plain]
    exact h
  exact readsBack_of_plain hplain (integer_reads expected ⟨_, rfl, h.numbers, hlow, hhigh⟩)

theorem optional_readsBack_none : c.optional.ReadsBack levels none := by
  have hplain : Plain 0 .null := by simp [Plain]
  exact readsBack_of_plain hplain (optional_reads rfl)

/-- An optional value of any kind, which is no `null`. -/
theorem optional_any_readsBack {j : Json} (h : Plain levels j) (hc : j.canonical = j)
    (hne : j ≠ .null) : any.optional.ReadsBack levels (some j) := by
  have htree : Tree.ofJson j ≠ .null := fun hnull => hne (h.means.nullAlike.mp hnull)
  exact readsBack_of_plain h (optional_reads ⟨htree, any_reads ⟨j, h.means, hc⟩⟩)

/-! ## Codecs that settle -/

/-- What is read off a text whose numbers are integers is read back from what it is written as. -/
def Settles (c : Codec α) (levels : Nat) : Prop :=
  TakesValues (c.read levels) fun tree a => tree.Integral → c.ReadsBack levels a

theorem Settles.recovers (h : c.Settles maxNesting) {text : String} {tree : Tree}
    (htext : HoldsTree text tree) (hnumbers : tree.Integral) {a : α} (ha : c.decode text = .ok a) :
    c.Recovers a := by
  obtain ⟨tree', htext', hback⟩ := decode_sound h ha
  obtain rfl := htext.unique htext'
  exact (hback hnumbers).recovers

theorem text_settles : text.Settles levels :=
  (text_takesValues levels).mono fun _ s _ _ => text_readsBack s

theorem int32_settles : int32.Settles levels := by
  refine (integer_takesValues _ _ _ levels).mono fun tree n h _ => ?_
  obtain ⟨token, -, -, hlow, hhigh⟩ := h
  exact integer_readsBack _ ⟨by omega, by omega⟩ hlow hhigh

theorem any_settles : any.Settles levels := by
  refine (any_takesValues levels).mono fun tree j h hnumbers => ?_
  obtain ⟨hplain, hcanonical⟩ := h.settled hnumbers
  exact any_readsBack hplain hcanonical

theorem optional_any_settles : any.optional.Settles levels := by
  refine (optional_takesValues (any_takesValues levels)).mono fun tree value h hnumbers => ?_
  cases value with
  | none => exact optional_readsBack_none
  | some j =>
    obtain ⟨hne, hj⟩ := h
    obtain ⟨hplain, hcanonical⟩ := hj.settled hnumbers
    exact optional_any_readsBack hplain hcanonical fun hnull => hne (hj.nullAlike.mpr hnull)

/-- Values that are told from `null` by the first character. -/
theorem optional_settles (h : c.Settles levels)
    (ho : ∀ a, ∃ first, (c.write a).opening? = some first ∧ first ≠ 'n') :
    c.optional.Settles levels := by
  refine (optional_takesValues h).mono fun tree value hvalue hnumbers => ?_
  cases value with
  | none => exact optional_readsBack_none
  | some a =>
    obtain ⟨first, hfirst, hne⟩ := ho a
    exact optional_readsBack_some (hvalue.2 hnumbers) hfirst hne

end Codec

/-! ## Records -/

/-- The values that a value is made of. -/
def Tree.parts : Tree → List Tree
  | .array items => items
  | .object members => members.map Prod.snd
  | .null | .bool _ | .number _ | .string _ => []

theorem Tree.Integral.of_mem_parts {tree part : Tree} (h : tree.Integral) (hpart : part ∈ tree.parts) :
    part.Integral := by
  cases h with
  | null | bool | number | string => cases hpart
  | array h => exact h part hpart
  | object h =>
    obtain ⟨member, hmember, rfl⟩ := List.mem_map.mp hpart
    exact h member hmember

/-- A field is read back whatever value it was given, and so is what it is when it is left out. -/
structure Field.Settles {α : Type} (levels : Nat) (field : Field α) : Prop where
  codec : field.codec.Settles levels
  omitted : ∀ a, field.omits a = true → field.absence = .inObject a ∨ field.absence = .anywhere a
  absent : ∀ a, field.absence = .inObject a ∨ field.absence = .anywhere a → field.ReadsBack levels a

namespace Field.Settles

variable {α : Type} {c : Codec α} {levels : Nat} {name : String}

/-- A field that must be there. -/
theorem required (h : c.Settles levels) : Field.Settles levels { name := name, codec := c } where
  codec := h
  omitted _ h := nomatch h
  absent _ h := by rcases h with h | h <;> cases h

/-- A field that has a value of its own when it is left out. -/
theorem spared {a : α} (h : c.Settles levels) (ha : c.ReadsBack levels a) :
    Field.Settles levels { name := name, codec := c, absence := .anywhere a } where
  codec := h
  omitted _ h := nomatch h
  absent _ h := by
    rcases h with h | h <;> cases h
    exact ha

end Field.Settles

namespace Fields

/-- Each field has its value from one of some parts, or is what it is when it is left out. -/
def FromParts (parts : List Tree) : {β : Type} → (fields : Fields β) → fields.Fits → β → Prop
  | _, .nil, _, _ => True
  | _, .cons field rest, fits, b =>
    ((∃ part ∈ parts, fits.1 part b.1) ∨
      field.absence = .inObject b.1 ∨ field.absence = .anywhere b.1) ∧
      rest.FromParts parts fits.2 b.2

/-- Each field settles. -/
def Settle (levels : Nat) : {β : Type} → Fields β → Prop
  | _, .nil => True
  | _, .cons field rest => field.Settles levels ∧ rest.Settle levels

/-- The value of each field is read back if the numbers of its text are integers. -/
def settled (levels : Nat) : {β : Type} → (fields : Fields β) → fields.Fits
  | _, .nil => ()
  | _, .cons field rest =>
    (fun tree a => tree.Integral → field.ReadsBack levels a, rest.settled levels)

variable {β : Type} {fields : Fields β} {fits : fields.Fits} {b : β} {levels : Nat}

theorem Gives.fromParts {entries : List (String × Tree)} {parts : List Tree}
    (h : fields.Gives entries fits b) (hparts : ∀ entry ∈ entries, entry.2 ∈ parts) :
    fields.FromParts parts fits b := by
  induction fields with
  | nil => trivial
  | cons field others ih =>
    refine ⟨?_, ih h.2⟩
    rcases h.1 with ⟨tree, hvalues, hfits⟩ | ⟨-, habsence⟩
    · have hentry := mem_valuesOf.mp (hvalues ▸ List.mem_singleton_self tree)
      exact .inl ⟨tree, hparts _ hentry, hfits⟩
    · exact .inr habsence

theorem GivesInOrder.fromParts {items parts : List Tree} (h : fields.GivesInOrder items fits b)
    (hparts : items ⊆ parts) : fields.FromParts parts fits b := by
  induction fields generalizing items with
  | nil => trivial
  | cons field others ih =>
    cases items with
    | nil => exact ⟨.inr (.inr h.1), ih h.2 hparts⟩
    | cons item items =>
      obtain ⟨hitem, hitems⟩ := List.cons_subset.mp hparts
      exact ⟨.inl ⟨item, hitem, h.1⟩, ih h.2 hitems⟩

theorem Settle.takeValues (h : fields.Settle levels) :
    fields.TakeValues levels (fields.settled levels) := by
  induction fields with
  | nil => trivial
  | cons field others ih =>
    refine ⟨h.1.codec.mono fun tree a hback hnumbers => ?_, ih h.2⟩
    unfold Field.ReadsBack
    split
    · next homits => exact h.1.omitted a homits
    · exact hback hnumbers

theorem Settle.readsBack {parts : List Tree} (h : fields.Settle levels)
    (hb : fields.FromParts parts (fields.settled levels) b)
    (hnumbers : ∀ part ∈ parts, part.Integral) : fields.ReadsBack levels b := by
  induction fields with
  | nil => trivial
  | cons field others ih =>
    obtain ⟨hfirst, hothers⟩ := hb
    refine ⟨?_, ih h.2 hothers⟩
    rcases hfirst with ⟨part, hpart, hback⟩ | habsence
    · exact hback (hnumbers part hpart)
    · exact h.1.absent _ habsence

end Fields

theorem RecordOf.fromParts {β : Type} {fields : Fields β} {fits : fields.Fits} {tree : Tree} {b : β}
    (h : RecordOf fields fits tree b) : fields.FromParts tree.parts fits b := by
  cases h with
  | object hnamed h =>
    refine h.fromParts fun entry hentry => ?_
    obtain ⟨body, hmember⟩ := hnamed.exists_member hentry
    exact List.mem_map.mpr ⟨_, hmember, rfl⟩
  | array h => exact h.fromParts (List.Subset.refl _)

theorem Codec.record_settles {α β : Type} {name : String} {fields : Fields β} {make : β → α}
    {split : α → β} {levels : Nat} (h : fields.Settle levels) (hnames : fields.names.Nodup)
    (hsplit : ∀ b, split (make b) = b) :
    (Codec.record name fields make split).Settles (levels + 1) := by
  have htake : ∀ inner, levels + 1 = inner + 1 → fields.TakeValues inner (fields.settled levels) := by
    rintro inner heq
    obtain rfl := Nat.succ.inj heq
    exact h.takeValues
  refine (Codec.record_takesValues _ hnames htake).mono fun tree a hrecord hnumbers => ?_
  obtain ⟨b, rfl, hb⟩ := hrecord
  have hback := h.readsBack hb.fromParts fun part hpart => hnumbers.of_mem_parts hpart
  refine record_readsBack ?_ hnames ?_
  · rw [hsplit]
    exact hback
  · rw [hsplit]

end GraphGateway.Json
