/-
Arguments as they are checked and as clients are shown them.

What an argument has to be is said here without the check (`Accepts`), and so is what can be wrong
with it (`HasFlaw`); a list of declared arguments passes exactly if each is accepted, and otherwise
fails with the flaw of the first that is not. The JSON Schema is read as a client reads it
(`Conforms`). Members that are `null` count as not there for the check but not for the schema, and
blank strings the other way round; these apart, both ask for the same (`validate_iff_conforms`).
-/
import Mathlib.Data.List.Basic
import GraphGateway.Protocol.Argument

namespace GraphGateway.Protocol

/-! ## Accepted arguments -/

/-- There is no member of a name, or it is `null`. -/
def Lacks (members : Members) (name : String) : Prop :=
  members.lookup name = none ∨ members.lookup name = some .null

theorem not_lacks_iff {members : Members} {name : String} :
    ¬Lacks members name ↔ ∃ value, members.lookup name = some value ∧ value ≠ .null := by
  unfold Lacks
  cases members.lookup name <;> simp

theorem isAllBlank_eq_false_iff {s : String} :
    Text.isAllBlank s = false ↔ ∃ c ∈ s.toList, Text.isBlank c = false := by
  simp [Text.isAllBlank, List.all_eq_false]

namespace Argument

/-- An argument is there if it has to be, and if it is there it is a string that is not blank. -/
structure Accepts (a : Argument) (members : Members) : Prop where
  present : a.required = true → ¬Lacks members a.name
  string : ∀ value, members.lookup a.name = some value → value ≠ .null →
    ∃ s, value = .string s ∧ ∃ c ∈ s.toList, Text.isBlank c = false

/-- What can be wrong with an argument. -/
inductive Flaw where
  | missing
  | notString
  | empty

/-- How a flaw is told. -/
def Flaw.text : Flaw → String
  | .missing => "missing required argument"
  | .notString => "must be a string"
  | .empty => "must not be empty"

/-- What is wrong with the member that is given for an argument. -/
inductive HasFlaw (a : Argument) (members : Members) : Flaw → Prop where
  | missing : a.required = true → Lacks members a.name → HasFlaw a members .missing
  | notString {value : Json} : members.lookup a.name = some value → value ≠ .null →
    (∀ s, value ≠ .string s) → HasFlaw a members .notString
  | empty {s : String} : members.lookup a.name = some (.string s) → Text.isAllBlank s = true →
    HasFlaw a members .empty

variable {a : Argument} {declared : List Argument} {members : Members}

/-- An argument is accepted and passes, or has a flaw and fails with it. -/
theorem check_cases (a : Argument) (members : Members) :
    (a.Accepts members ∧ a.check members = .ok ()) ∨
      ∃ flaw, a.HasFlaw members flaw ∧ a.check members = .error (.argument a.name flaw.text) := by
  have hlacks (h : Lacks members a.name) : (a.Accepts members ∧ a.required = false) ∨
      (a.HasFlaw members .missing ∧ a.required = true) := by
    cases ha : a.required with
    | true => exact .inr ⟨.missing ha h, rfl⟩
    | false =>
      refine .inl ⟨⟨fun hr => ?_, fun value hvalue hnull => ?_⟩, rfl⟩
      · rw [ha] at hr
        cases hr
      · rcases h with h | h
        · rw [h] at hvalue
          cases hvalue
        · rw [h] at hvalue
          exact absurd (Option.some.inj hvalue).symm hnull
  unfold check
  cases hvalue : members.lookup a.name with
  | none =>
    rcases hlacks (.inl hvalue) with ⟨haccepts, ha⟩ | ⟨hflaw, ha⟩
    · exact .inl ⟨haccepts, by simp [ha]⟩
    · exact .inr ⟨.missing, hflaw, by simp [ha, Flaw.text]⟩
  | some value =>
    cases value with
    | null =>
      rcases hlacks (.inr hvalue) with ⟨haccepts, ha⟩ | ⟨hflaw, ha⟩
      · exact .inl ⟨haccepts, by simp [ha]⟩
      · exact .inr ⟨.missing, hflaw, by simp [ha, Flaw.text]⟩
    | string s =>
      cases hs : Text.isAllBlank s with
      | true => exact .inr ⟨.empty, .empty hvalue hs, by simp [hs, Flaw.text]⟩
      | false =>
        refine .inl ⟨⟨fun _ => ?_, fun value hv _ => ?_⟩, by simp [hs]⟩
        · simp [Lacks, hvalue]
        · obtain rfl := Option.some.inj (hvalue.symm.trans hv)
          exact ⟨s, rfl, isAllBlank_eq_false_iff.mp hs⟩
    | bool | number | array | object =>
      exact .inr ⟨.notString, .notString hvalue (by simp) (by simp), rfl⟩

theorem Accepts.not_hasFlaw (h : a.Accepts members) {flaw : Flaw} : ¬a.HasFlaw members flaw := by
  intro hflaw
  cases hflaw with
  | missing ha hlacks => exact h.present ha hlacks
  | notString hvalue hnull hstring =>
    obtain ⟨s, hs, -⟩ := h.string _ hvalue hnull
    exact hstring s hs
  | empty hvalue hblank =>
    obtain ⟨s, hs, hsolid⟩ := h.string _ hvalue (by simp)
    obtain rfl := Json.string.inj hs
    rw [isAllBlank_eq_false_iff.mpr hsolid] at hblank
    cases hblank

/-- A flaw tells which it is. -/
theorem HasFlaw.unique {flaw flaw' : Flaw} (h : a.HasFlaw members flaw)
    (h' : a.HasFlaw members flaw') : flaw = flaw' := by
  cases h <;> cases h' <;> grind [Lacks]

/-! ## Lists of declared arguments -/

theorem validate_cons (a : Argument) (declared : List Argument) (members : Members) :
    validate (a :: declared) members = a.check members >>= fun _ => validate declared members :=
  rfl

theorem validate_eq_ok_iff :
    validate declared members = .ok () ↔ ∀ a ∈ declared, a.Accepts members := by
  induction declared with
  | nil => simp [validate, pure, Except.pure]
  | cons d declared ih =>
    rw [validate_cons, List.forall_mem_cons]
    rcases check_cases d members with ⟨haccepts, hcheck⟩ | ⟨flaw, hflaw, hcheck⟩
    · rw [hcheck, ← ih]
      exact (and_iff_right haccepts).symm
    · rw [hcheck]
      exact ⟨fun h => (by cases h), fun h => absurd hflaw h.1.not_hasFlaw⟩

/-- The first argument that has a flaw decides. -/
theorem validate_eq_error_iff {f : Failure} : validate declared members = .error f ↔
    ∃ before a behind flaw, declared = before ++ a :: behind ∧
      (∀ b ∈ before, b.Accepts members) ∧ a.HasFlaw members flaw ∧
        f = .argument a.name flaw.text := by
  induction declared with
  | nil => simp [validate, pure, Except.pure]
  | cons d declared ih =>
    rw [validate_cons]
    rcases check_cases d members with ⟨haccepts, hcheck⟩ | ⟨flaw, hflaw, hcheck⟩
    · rw [hcheck]
      show validate declared members = .error f ↔ _
      rw [ih]
      constructor
      · rintro ⟨before, a, behind, flaw, rfl, hbefore, ha⟩
        exact ⟨d :: before, a, behind, flaw, rfl, List.forall_mem_cons.mpr ⟨haccepts, hbefore⟩, ha⟩
      · rintro ⟨before, a, behind, flaw, hsplit, hbefore, hflaw, hf⟩
        cases before with
        | nil =>
          obtain ⟨rfl, -⟩ := List.cons.inj hsplit
          exact absurd hflaw haccepts.not_hasFlaw
        | cons b before =>
          obtain ⟨rfl, rfl⟩ := List.cons.inj hsplit
          exact ⟨before, a, behind, flaw, rfl, (List.forall_mem_cons.mp hbefore).2, hflaw, hf⟩
    · rw [hcheck]
      constructor
      · intro h
        exact ⟨[], d, declared, flaw, rfl, List.forall_mem_nil _, hflaw, (Except.error.inj h).symm⟩
      · rintro ⟨before, a, behind, flaw', hsplit, hbefore, hflaw', rfl⟩
        cases before with
        | nil =>
          obtain ⟨rfl, -⟩ := List.cons.inj hsplit
          rw [hflaw.unique hflaw']
          rfl
        | cons b before =>
          obtain ⟨rfl, -⟩ := List.cons.inj hsplit
          exact absurd hflaw (hbefore d List.mem_cons_self).not_hasFlaw

/-- A failure names an argument that is declared. -/
theorem validate_eq_error {f : Failure} (h : validate declared members = .error f) :
    ∃ a ∈ declared, ∃ message, f = .argument a.name message := by
  obtain ⟨before, a, behind, flaw, rfl, -, -, hf⟩ := validate_eq_error_iff.mp h
  exact ⟨a, List.mem_append_right before List.mem_cons_self, flaw.text, hf⟩

/-- Only the members of declared names are looked at. -/
theorem validate_congr {others : Members}
    (h : ∀ a ∈ declared, others.lookup a.name = members.lookup a.name) :
    validate declared others = validate declared members := by
  induction declared with
  | nil => rfl
  | cons d declared ih =>
    obtain ⟨hd, hrest⟩ := List.forall_mem_cons.mp h
    have hcheck : d.check others = d.check members := by rw [check, check, hd]
    rw [validate_cons, validate_cons, hcheck, ih hrest]

/-! ## The schema that is shown -/

/-- A schema requires members of a name. -/
def Requires (schema : Json) (name : String) : Prop :=
  ∃ names, schema.get? "required" = some (.array names) ∧ Json.string name ∈ names

/-- A schema has a schema of its own for members of a name. -/
def Constrains (schema : Json) (name : String) (own : Json) : Prop :=
  (schema.get? "properties").bind (Json.get? name) = some own

/-- All members that a schema requires are there, and all that it has properties for are strings, as
it says. -/
structure Conforms (schema : Json) (members : Members) : Prop where
  present : ∀ name, Requires schema name → ∃ value, members.lookup name = some value
  strings : ∀ name own value, Constrains schema name own → members.lookup name = some value →
    own.get? "type" = some (.string "string") ∧ ∃ s, value = .string s

theorem requires_jsonSchema_iff {name : String} :
    Requires (jsonSchema declared) name ↔ ∃ a ∈ declared, a.required = true ∧ a.name = name := by
  have hnames : (jsonSchema declared).get? "required" =
      some (.array ((declared.filter (·.required)).map fun a => .string a.name)) := by
    rw [jsonSchema, Json.get?_canonical_object]
    simp [Json.canonical, Json.canonicalItems_eq_map]
  unfold Requires
  rw [hnames]
  constructor
  · rintro ⟨names, hsome, hmem⟩
    obtain rfl := Json.array.inj (Option.some.inj hsome)
    obtain ⟨a, ha, hname⟩ := List.mem_map.mp hmem
    obtain ⟨hdeclared, hrequired⟩ := List.mem_filter.mp ha
    exact ⟨a, hdeclared, hrequired, Json.string.inj hname⟩
  · rintro ⟨a, hdeclared, hrequired, rfl⟩
    exact ⟨_, rfl, List.mem_map.mpr ⟨a, List.mem_filter.mpr ⟨hdeclared, hrequired⟩, rfl⟩⟩

/-- The schema of a declared argument. -/
def ownSchema (a : Argument) : Json :=
  .object [("type", .string "string"), ("description", .string a.description)]

theorem bind_properties_jsonSchema (declared : List Argument) (name : String) :
    ((jsonSchema declared).get? "properties").bind (Json.get? name) =
      (declared.reverse.map fun a => (a.name, a.ownSchema.canonical)).lookup name := by
  have hproperties : (jsonSchema declared).get? "properties" =
      some (Json.canonical (.object (declared.map fun a => (a.name, a.ownSchema)))) := by
    rw [jsonSchema, Json.get?_canonical_object]
    simp only [List.reverse_cons, List.reverse_nil, List.nil_append, List.cons_append, List.map_cons,
      List.map_nil, List.lookup_cons]
    rfl
  rw [hproperties, Option.bind_some, Json.get?_canonical_object, ← List.map_reverse, List.map_map]
  rfl

/-- The schema constrains what is declared, to strings. -/
theorem constrains_jsonSchema {name : String} {own : Json}
    (h : Constrains (jsonSchema declared) name own) :
    (∃ a ∈ declared, a.name = name) ∧ own.get? "type" = some (.string "string") := by
  rw [Constrains, bind_properties_jsonSchema, List.lookup_eq_some_iff] at h
  obtain ⟨before, behind, hsplit, -⟩ := h
  have hmem : (name, own) ∈ declared.reverse.map fun a => (a.name, a.ownSchema.canonical) := by
    rw [hsplit]
    simp
  obtain ⟨a, ha, hown⟩ := List.mem_map.mp hmem
  obtain ⟨rfl, rfl⟩ := Prod.mk.inj hown
  refine ⟨⟨a, List.mem_reverse.mp ha, rfl⟩, ?_⟩
  rw [ownSchema, Json.get?_canonical_object]
  rfl

theorem exists_constrains_jsonSchema (ha : a ∈ declared) :
    ∃ own, Constrains (jsonSchema declared) a.name own := by
  unfold Constrains
  rw [bind_properties_jsonSchema, ← Option.isSome_iff_exists, List.lookup_isSome_iff]
  exact ⟨_, List.mem_map.mpr ⟨a, List.mem_reverse.mpr ha, rfl⟩, beq_self_eq_true a.name⟩

/-- The members without those that are declared and `null`; of several members of a name the first
counts. -/
def withoutNulls (declared : List Argument) (members : Members) : Members :=
  members.filter fun m =>
    !(declared.any (·.name == m.1) && decide (members.lookup m.1 = some .null))

/-- A declared argument that is left is there and not `null`. -/
theorem lookup_withoutNulls (ha : a ∈ declared) {value : Json} :
    (withoutNulls declared members).lookup a.name = some value ↔
      members.lookup a.name = some value ∧ value ≠ .null := by
  have hdeclared : declared.any (·.name == a.name) = true :=
    List.any_eq_true.mpr ⟨a, ha, beq_self_eq_true a.name⟩
  rw [withoutNulls, Json.lookup_filter fun name =>
    !(declared.any (·.name == name) && decide (members.lookup name = some .null))]
  simp only [hdeclared, Bool.true_and]
  by_cases hnull : members.lookup a.name = some .null
  · simp [hnull, eq_comm]
  · have hvalue : members.lookup a.name = some value → value ≠ .null := by
      rintro h rfl
      exact hnull h
    simpa [hnull] using hvalue

/-- What passes the check conforms to the schema once its nulls are left out, and its declared
strings are not blank; nothing else does. -/
theorem validate_iff_conforms : validate declared members = .ok () ↔
    Conforms (jsonSchema declared) (withoutNulls declared members) ∧
      ∀ a ∈ declared, ∀ s, members.lookup a.name = some (.string s) → Text.isAllBlank s = false := by
  rw [validate_eq_ok_iff]
  constructor
  · intro h
    refine ⟨⟨fun name hname => ?_, fun name own value hown hvalue => ?_⟩, fun a ha s hs => ?_⟩
    · obtain ⟨a, ha, hrequired, rfl⟩ := requires_jsonSchema_iff.mp hname
      obtain ⟨value, hvalue⟩ := not_lacks_iff.mp ((h a ha).present hrequired)
      exact ⟨value, (lookup_withoutNulls ha).mpr hvalue⟩
    · obtain ⟨⟨a, ha, rfl⟩, htype⟩ := constrains_jsonSchema hown
      obtain ⟨hgiven, hnull⟩ := (lookup_withoutNulls ha).mp hvalue
      obtain ⟨s, hs, -⟩ := (h a ha).string value hgiven hnull
      exact ⟨htype, s, hs⟩
    · obtain ⟨t, ht, hsolid⟩ := (h a ha).string _ hs (by simp)
      obtain rfl := Json.string.inj ht
      exact isAllBlank_eq_false_iff.mpr hsolid
  · rintro ⟨⟨hpresent, hstrings⟩, hsolid⟩ a ha
    refine ⟨fun hrequired => not_lacks_iff.mpr ?_, fun value hgiven hnull => ?_⟩
    · obtain ⟨value, hvalue⟩ :=
        hpresent a.name (requires_jsonSchema_iff.mpr ⟨a, ha, hrequired, rfl⟩)
      exact ⟨value, (lookup_withoutNulls ha).mp hvalue⟩
    · obtain ⟨own, hown⟩ := exists_constrains_jsonSchema ha
      obtain ⟨-, s, rfl⟩ :=
        hstrings a.name own value hown ((lookup_withoutNulls ha).mpr ⟨hgiven, hnull⟩)
      exact ⟨s, rfl, isAllBlank_eq_false_iff.mp (hsolid a ha s hgiven)⟩

/-- **Arguments are checked for what clients are told.** The check passes exactly if every declared
argument is accepted; otherwise it fails with the flaw of the first that is not, in the order of the
declarations. Members that are not declared do not matter. What passes conforms to the schema that is
shown, members that are `null` left out, and what conforms passes unless a declared string is
blank. -/
theorem accepted_as_shown (declared : List Argument) (members : Members) :
    (validate declared members = .ok () ↔ ∀ a ∈ declared, a.Accepts members) ∧
    (∀ f, validate declared members = .error f ↔
      ∃ before a behind flaw, declared = before ++ a :: behind ∧
        (∀ b ∈ before, b.Accepts members) ∧ a.HasFlaw members flaw ∧
          f = .argument a.name flaw.text) ∧
    (∀ others : Members, (∀ a ∈ declared, others.lookup a.name = members.lookup a.name) →
      validate declared others = validate declared members) ∧
    (validate declared members = .ok () ↔
      Conforms (jsonSchema declared) (withoutNulls declared members) ∧
        ∀ a ∈ declared, ∀ s, members.lookup a.name = some (.string s) →
          Text.isAllBlank s = false) := by
  exact ⟨validate_eq_ok_iff, fun _ => validate_eq_error_iff, fun _ => validate_congr,
    validate_iff_conforms⟩

/-- Of two faults the one declared first is told, and `null` is none where nothing is required. -/
example : validate [⟨"limit", "", false⟩, ⟨"cypher", "", true⟩, ⟨"question", "", true⟩]
    [("question", .bool true), ("cypher", .string " "), ("limit", .null)] =
      .error (.argument "cypher" "must not be empty") := by decide +kernel

end Argument

end GraphGateway.Protocol
