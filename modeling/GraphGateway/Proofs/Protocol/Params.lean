/-
What requests ask for, said of the members of their parameters.

Parameters *name* a tool or a prompt if they are an object with a text for its name and with
arguments that are an object, or absent, or `null`. They are *misdirected* if they name nothing that
is known. Arguments *supply* a text if they hold one that is not blank. The operations read exactly
this off the parameters: one lemma for each says so, and the last two sections say what follows for
a call of a tool and for getting a prompt.
-/
import GraphGateway.Proofs.Protocol.Reply
import GraphGateway.Proofs.Protocol.Validation

namespace GraphGateway.Protocol

/-! ## Names -/

/-- Where each thing is found by its name, what is found by a name is the thing so called. -/
theorem find?_name_eq_some_iff {α : Type} {all : List α} {name : α → String}
    (hall : ∀ a, all.find? (name · == name a) = some a) {n : String} {a : α} :
    all.find? (name · == n) = some a ↔ name a = n := by
  constructor
  · intro h
    have hfound := List.find?_some h
    exact beq_iff_eq.mp hfound
  · rintro rfl
    exact hall a

/-! ## Parameters -/

/-- Members hold arguments: an object, or nothing or `null`, which stands for no arguments. -/
inductive HasArguments (members : Members) : Members → Prop where
  | given {arguments : Members} :
    members.lookup "arguments" = some (.object arguments) → HasArguments members arguments
  | absent : members.lookup "arguments" = none → HasArguments members []
  | null : members.lookup "arguments" = some .null → HasArguments members []

/-- Parameters name something by a text, and hold arguments for it. -/
def Names (params : Json) (name : String) (arguments : Members) : Prop :=
  ∃ members, params = .object members ∧ members.lookup "name" = some (.string name) ∧
    HasArguments members arguments

theorem HasArguments.unique {members arguments arguments' : Members}
    (h : HasArguments members arguments) (h' : HasArguments members arguments') :
    arguments = arguments' := by
  cases h <;> cases h' <;> simp_all

/-- Parameters name one thing at most, with one set of arguments. -/
theorem Names.unique {params : Json} {name name' : String} {arguments arguments' : Members}
    (h : Names params name arguments) (h' : Names params name' arguments') :
    name = name' ∧ arguments = arguments' := by
  obtain ⟨members, rfl, hname, harguments⟩ := h
  obtain ⟨members', hmembers, hname', harguments'⟩ := h'
  obtain rfl := Json.object.inj hmembers
  exact ⟨Json.string.inj (Option.some.inj (hname.symm.trans hname')), harguments.unique harguments'⟩

/-- Parameters that name nothing of the known names. -/
inductive Misdirected (known : List String) : Json → Prop where
  | notObject {params : Json} : (∀ members, params ≠ .object members) → Misdirected known params
  /-- The name is absent, or is no text. -/
  | noName {members : Members} : (∀ name, members.lookup "name" ≠ some (.string name)) →
    Misdirected known (.object members)
  | blankName {members : Members} {name : String} : members.lookup "name" = some (.string name) →
    Text.isAllBlank name = true → Misdirected known (.object members)
  | unknownName {members : Members} {name : String} : members.lookup "name" = some (.string name) →
    name ∉ known → Misdirected known (.object members)
  | badArguments {members : Members} {arguments : Json} :
    members.lookup "arguments" = some arguments → arguments ≠ .null →
    (∀ members, arguments ≠ .object members) → Misdirected known (.object members)

/-- Members supply a text that is not blank. -/
def Supplies (members : Members) (name text : String) : Prop :=
  members.lookup name = some (.string text) ∧ Text.isAllBlank text = false

theorem misdirected_iff {known : List String} {params : Json} :
    Misdirected known params ↔
      ¬∃ name arguments, Names params name arguments ∧ Text.isAllBlank name = false ∧ name ∈ known := by
  constructor
  · rintro h ⟨name, arguments, ⟨members, rfl, hname, harguments⟩, hblank, hknown⟩
    cases h with
    | notObject h => exact h members rfl
    | noName h => exact h name hname
    | blankName hname' hblank' =>
      obtain rfl : name = _ := by simpa using hname.symm.trans hname'
      rw [hblank] at hblank'
      cases hblank'
    | unknownName hname' hunknown =>
      obtain rfl : name = _ := by simpa using hname.symm.trans hname'
      exact hunknown hknown
    | badArguments hvalue hnull hobject =>
      cases harguments with
      | given hgiven => exact hobject arguments (Option.some.inj (hvalue.symm.trans hgiven))
      | absent habsent => cases hvalue.symm.trans habsent
      | null hnull' => exact hnull (Option.some.inj (hvalue.symm.trans hnull'))
  · intro h
    by_cases hobject : ∃ members, params = .object members
    · obtain ⟨members, rfl⟩ := hobject
      by_cases hname : ∃ name, members.lookup "name" = some (.string name)
      · obtain ⟨name, hname⟩ := hname
        by_cases hblank : Text.isAllBlank name = true
        · exact .blankName hname hblank
        by_cases hknown : name ∈ known
        · have hnone : ¬∃ arguments, HasArguments members arguments := by
            rintro ⟨arguments, harguments⟩
            exact h ⟨name, arguments, ⟨members, rfl, hname, harguments⟩, by simpa using hblank, hknown⟩
          cases hvalue : members.lookup "arguments" with
          | none => exact absurd ⟨[], .absent hvalue⟩ hnone
          | some value =>
            refine .badArguments hvalue ?_ ?_
            · rintro rfl
              exact hnone ⟨[], .null hvalue⟩
            · rintro arguments rfl
              exact hnone ⟨arguments, .given hvalue⟩
        · exact .unknownName hname hknown
      · exact .noName fun name hn => hname ⟨name, hn⟩
    · exact .notObject fun members hm => hobject ⟨members, hm⟩

/-! ## What is read off parameters -/

theorem requiredName_eq_ok_iff {method : Method} {what name : String} {params : Json} :
    requiredName method what params = .ok name ↔
      ∃ members, params = .object members ∧ Supplies members "name" name := by
  have hempty : Text.isAllBlank "" = true := rfl
  unfold requiredName Supplies
  cases params with
  | object members =>
    cases hname : members.lookup "name" with
    | none => simp [hname, hempty]
    | some value =>
      cases value with
      | string s =>
        by_cases hs : Text.isAllBlank s = true
        · have hblank : s = name → Text.isAllBlank name = true := by
            rintro rfl
            exact hs
          simpa [hname, hs, Json.asString?] using hblank
        · have hblank : s = name → Text.isAllBlank name = false := by
            rintro rfl
            simpa using hs
          simpa [hname, hs, Json.asString?] using hblank
      | _ => simp [hname, hempty, Json.asString?]
  | _ => simp

theorem requiredName_eq_error {method : Method} {what : String} {params : Json} {f : Failure}
    (h : requiredName method what params = .error f) : ∃ message, f = .protocol message := by
  unfold requiredName at h
  split at h
  · simp only at h
    split at h
    · cases h
      exact ⟨_, rfl⟩
    · cases h
  · cases h
    exact ⟨_, rfl⟩

theorem membersOf_eq_ok_iff {members arguments : Members} :
    Argument.membersOf (argumentsOf (.object members)) = .ok arguments ↔
      HasArguments members arguments := by
  unfold argumentsOf Json.get?
  simp only
  constructor
  · intro h
    cases hvalue : members.lookup "arguments" with
    | none =>
      rw [hvalue] at h
      cases h
      exact .absent hvalue
    | some value =>
      rw [hvalue] at h
      cases value with
      | null =>
        cases h
        exact .null hvalue
      | object given =>
        cases h
        exact .given hvalue
      | _ => cases h
  · intro h
    cases h with
    | given hvalue => rw [hvalue]; rfl
    | absent hvalue => rw [hvalue]; rfl
    | null hvalue => rw [hvalue]; rfl

theorem membersOf_eq_error {arguments : Json} {f : Failure}
    (h : Argument.membersOf arguments = .error f) : ∃ message, f = .protocol message := by
  unfold Argument.membersOf at h
  split at h
  · cases h
  · cases h
  · cases h
    exact ⟨_, rfl⟩

/-! ## Arguments -/

namespace Argument

/-- A required argument is accepted exactly when it is a text that is not blank. -/
theorem accepts_iff_supplies {a : Argument} (ha : a.required = true) {members : Members} :
    a.Accepts members ↔ ∃ text, Supplies members a.name text := by
  constructor
  · intro h
    obtain ⟨value, hvalue, hnull⟩ := not_lacks_iff.mp (h.present ha)
    obtain ⟨s, rfl, hsolid⟩ := h.string value hvalue hnull
    exact ⟨s, hvalue, isAllBlank_eq_false_iff.mpr hsolid⟩
  · rintro ⟨text, hvalue, hblank⟩
    refine ⟨fun _ => not_lacks_iff.mpr ⟨_, hvalue, by simp⟩, fun value hv _ => ?_⟩
    obtain rfl := Option.some.inj (hvalue.symm.trans hv)
    exact ⟨text, rfl, isAllBlank_eq_false_iff.mp hblank⟩

/-- A single argument that is required. -/
theorem validate_one_eq_ok_iff {a : Argument} (ha : a.required = true) {members : Members} :
    validate [a] members = .ok () ↔ ∃ text, Supplies members a.name text := by
  rw [validate_eq_ok_iff, List.forall_mem_singleton, accepts_iff_supplies ha]

theorem text_of_supplies {members : Members} {name text : String} (h : Supplies members name text) :
    Argument.text name members = .ok text := by
  rw [Argument.text, h.1]
  rfl

end Argument

/-! ## Calls of tools -/

namespace Tool

/-- The names of the tools that are listed. -/
def names : List String := all.map name

theorem ofName?_eq_some_iff {name : String} {t : Tool} : ofName? name = some t ↔ t.name = name :=
  find?_name_eq_some_iff fun t => by cases t <;> decide

theorem requested_eq_ok_iff {name : String} {arguments : Json} {t : Tool} {members : Members} :
    requested name arguments = .ok (t, members) ↔
      Text.isAllBlank name = false ∧ t.name = name ∧ Argument.membersOf arguments = .ok members := by
  unfold requested
  by_cases hblank : Text.isAllBlank name = true
  · simp [hblank]
  rw [← ofName?_eq_some_iff]
  cases ofName? name with
  | none => simp [hblank]
  | some tool => cases Argument.membersOf arguments <;> simp [hblank, Except.map]

theorem requested_eq_error {name : String} {arguments : Json} {f : Failure}
    (h : requested name arguments = .error f) : ∃ message, f = .protocol message := by
  unfold requested at h
  split at h
  · exact ⟨_, (Except.error.inj h).symm⟩
  · split at h
    · exact ⟨_, (Except.error.inj h).symm⟩
    · cases hm : Argument.membersOf arguments with
      | error g =>
        rw [hm] at h
        obtain rfl : g = f := Except.error.inj h
        exact membersOf_eq_error hm
      | ok members =>
        rw [hm] at h
        cases h

/-- A tool that is called by its name is attempted, and tells how it went. -/
theorem call_name_gives (service : Service) (now : Calendar.Moment) (t : Tool) {given : Json}
    {members : Members} (hgiven : Argument.membersOf given = .ok members) (earlier : List String) :
    Attempt.Gives (call service now t.name given) earlier
      (.ok (.ofOutcome (t.outcome service now earlier members)))
      (t.statements service.engine earlier members) := by
  have hblank : Text.isAllBlank t.name = false := by cases t <;> decide
  have hrequested := requested_eq_ok_iff.mpr ⟨hblank, rfl, hgiven⟩
  have h := call_gives service now earlier t.name given
  rw [hrequested] at h
  exact h

theorem call_result (service : Service) (now : Calendar.Moment) (t : Tool) {given : Json}
    {members : Members} (hgiven : Argument.membersOf given = .ok members) (j : Journal) :
    (call service now t.name given).result j =
      .ok (.ofOutcome (t.outcome service now j.statements members)) :=
  (call_name_gives service now t hgiven j.statements).result_eq

end Tool

namespace Server

variable (service : Service) (now : Calendar.Moment) (earlier : List String)

/-- Calling a tool that parameters name. -/
theorem toolEffect_of_names {t : Tool} {params : Json} {members : Members}
    (h : Names params t.name members) :
    toolEffect service now earlier params =
      { value := .ok
          (ToolResult.codec.write (.ofOutcome (t.outcome service now earlier members))).canonical
        counted := { toolCalls := 1
                     toolErrors := if (t.outcome service now earlier members).toBool then 0 else 1 }
        statements := t.statements service.engine earlier members } := by
  obtain ⟨own, rfl, hname, harguments⟩ := h
  have hblank : Text.isAllBlank t.name = false := by cases t <;> decide
  have hrequired : requiredName .callTool "tool" (.object own) = .ok t.name :=
    requiredName_eq_ok_iff.mpr ⟨own, rfl, hname, hblank⟩
  have hrequested : Tool.requested t.name (argumentsOf (.object own)) = .ok (t, members) :=
    Tool.requested_eq_ok_iff.mpr ⟨hblank, rfl, membersOf_eq_ok_iff.mpr harguments⟩
  unfold toolEffect
  simp only [hrequired, hrequested]

/-- Calling a tool by parameters that name none. -/
theorem toolEffect_of_misdirected {params : Json} (h : Misdirected Tool.names params) :
    (∃ message, (toolEffect service now earlier params).value = .error (.protocol message)) ∧
      (toolEffect service now earlier params).statements = [] := by
  unfold toolEffect
  cases hrequired : requiredName .callTool "tool" params with
  | error f =>
    obtain ⟨message, rfl⟩ := requiredName_eq_error hrequired
    exact ⟨⟨message, rfl⟩, rfl⟩
  | ok name =>
    obtain ⟨own, rfl, hname, hblank⟩ := requiredName_eq_ok_iff.mp hrequired
    cases hrequested : Tool.requested name (argumentsOf (.object own)) with
    | error f =>
      obtain ⟨message, rfl⟩ := Tool.requested_eq_error hrequested
      simp only [hrequested]
      exact ⟨⟨message, rfl⟩, trivial⟩
    | ok found =>
      obtain ⟨t, members⟩ := found
      obtain ⟨-, rfl, hmembers⟩ := Tool.requested_eq_ok_iff.mp hrequested
      have hnames : Names (.object own) t.name members :=
        ⟨own, rfl, hname, membersOf_eq_ok_iff.mp hmembers⟩
      have hknown : t.name ∈ Tool.names := by cases t <;> decide
      exact absurd ⟨t.name, members, hnames, hblank, hknown⟩ (misdirected_iff.mp h)

end Server

/-! ## Getting prompts -/

/-- The names of the prompts that are listed. -/
def Prompt.names : List String := all.map name

/-- Parameters that name a prompt and supply a question. -/
def Prompted (params : Json) (p : Prompt) (members : Members) : Prop :=
  Names params p.name members ∧ ∃ question, Supplies members "question" question

/-- Parameters that name no prompt, or supply no question. -/
def Unprompted (params : Json) : Prop :=
  Misdirected Prompt.names params ∨
    ∃ name members, Names params name members ∧ ∀ question, ¬Supplies members "question" question

theorem Prompted.not_unprompted {params : Json} {p : Prompt} {members : Members}
    (h : Prompted params p members) : ¬Unprompted params := by
  obtain ⟨hnames, question, hquestion⟩ := h
  rintro (hmisdirected | ⟨name, members', hnames', hnone⟩)
  · have hblank : Text.isAllBlank p.name = false := by cases p; decide
    have hknown : p.name ∈ Prompt.names := by cases p; decide
    exact misdirected_iff.mp hmisdirected ⟨p.name, members, hnames, hblank, hknown⟩
  · obtain ⟨-, rfl⟩ := hnames.unique hnames'
    exact hnone question hquestion

theorem prompted_or_unprompted (params : Json) :
    (∃ p members, Prompted params p members) ∨ Unprompted params := by
  by_cases hmisdirected : Misdirected Prompt.names params
  · exact .inr (.inl hmisdirected)
  rw [misdirected_iff, not_not] at hmisdirected
  obtain ⟨name, members, hnames, -, hknown⟩ := hmisdirected
  obtain ⟨p, -, rfl⟩ := List.mem_map.mp hknown
  by_cases hquestion : ∃ question, Supplies members "question" question
  · exact .inl ⟨p, members, hnames, hquestion⟩
  · exact .inr (.inr ⟨p.name, members, hnames, fun q hq => hquestion ⟨q, hq⟩⟩)

namespace Prompt

theorem ofName?_eq_some_iff {name : String} {p : Prompt} :
    ofName? name = some p ↔ p.name = name :=
  find?_name_eq_some_iff fun p => by cases p; decide

/-- Every prompt wants a question and nothing else. -/
theorem validate_eq_ok_iff {p : Prompt} {members : Members} :
    Argument.validate p.arguments members = .ok () ↔ ∃ question, Supplies members "question" question := by
  cases p with
  | generateCypher => exact Argument.validate_one_eq_ok_iff rfl

theorem requested_eq_ok_iff {name : String} {arguments : Json} {p : Prompt} {members : Members} :
    requested name arguments = .ok (p, members) ↔
      Text.isAllBlank name = false ∧ p.name = name ∧ Argument.membersOf arguments = .ok members ∧
        ∃ question, Supplies members "question" question := by
  unfold requested
  by_cases hblank : Text.isAllBlank name = true
  · simp [hblank]
  rw [← ofName?_eq_some_iff, ← validate_eq_ok_iff (p := p)]
  cases ofName? name with
  | none => simp [hblank]
  | some prompt =>
    cases Argument.membersOf arguments with
    | error f => simp [hblank, bind, Except.bind]
    | ok given =>
      cases hv : Argument.validate prompt.arguments given with
      | error f =>
        have hinvalid : prompt = p → given = members →
            ¬Argument.validate p.arguments members = .ok () := by
          rintro rfl rfl hok
          cases hv.symm.trans hok
        simpa [hblank, bind, Except.bind, hv] using hinvalid
      | ok u =>
        have hvalid : prompt = p → given = members →
            Argument.validate p.arguments members = .ok () := by
          rintro rfl rfl
          exact hv
        simpa [hblank, bind, Except.bind, pure, Except.pure, hv] using hvalid

/-- What is wrong with the parameters is told as such. -/
theorem requested_eq_error {name : String} {arguments : Json} {f : Failure}
    (h : requested name arguments = .error f) : ErrorCode.ofFailure f = .invalidParams := by
  unfold requested at h
  split at h
  · obtain rfl := Except.error.inj h
    rfl
  · split at h
    · obtain rfl := Except.error.inj h
      rfl
    · next prompt _ =>
      cases hm : Argument.membersOf arguments with
      | error g =>
        rw [hm] at h
        obtain rfl : g = f := Except.error.inj h
        obtain ⟨message, rfl⟩ := membersOf_eq_error hm
        rfl
      | ok members =>
        cases hv : Argument.validate prompt.arguments members with
        | error g =>
          simp only [hm, bind, Except.bind, hv] at h
          obtain rfl : g = f := Except.error.inj h
          obtain ⟨a, -, message, rfl⟩ := Argument.validate_eq_error hv
          rfl
        | ok u =>
          simp only [hm, bind, Except.bind, hv] at h
          cases h

end Prompt

namespace Server

variable (e : Engine) (earlier : List String)

/-- Getting a prompt that parameters name, with a question. -/
theorem promptEffect_of_prompted {p : Prompt} {params : Json} {members : Members}
    (h : Prompted params p members) :
    promptEffect e earlier params =
      { value := (p.answer e earlier members).map fun result =>
          (PromptResult.codec.write result).canonical
        statements := e.reflectionStatements earlier } := by
  obtain ⟨⟨own, rfl, hname, harguments⟩, hquestion⟩ := h
  have hblank : Text.isAllBlank p.name = false := by cases p; decide
  have hrequired : requiredName .getPrompt "prompt" (.object own) = .ok p.name :=
    requiredName_eq_ok_iff.mpr ⟨own, rfl, hname, hblank⟩
  have hrequested : Prompt.requested p.name (argumentsOf (.object own)) = .ok (p, members) :=
    Prompt.requested_eq_ok_iff.mpr
      ⟨hblank, rfl, membersOf_eq_ok_iff.mpr harguments, hquestion⟩
  unfold promptEffect
  simp only [hrequired, hrequested]

/-- Getting a prompt by parameters that name none, or give no question. -/
theorem promptEffect_of_unprompted {params : Json} (h : Unprompted params) :
    (∃ f, (promptEffect e earlier params).value = .error f ∧
        ErrorCode.ofFailure f = .invalidParams) ∧
      (promptEffect e earlier params).statements = [] := by
  unfold promptEffect
  cases hrequired : requiredName .getPrompt "prompt" params with
  | error f =>
    obtain ⟨message, rfl⟩ := requiredName_eq_error hrequired
    exact ⟨⟨_, rfl, rfl⟩, rfl⟩
  | ok name =>
    obtain ⟨own, rfl, hname, hblank⟩ := requiredName_eq_ok_iff.mp hrequired
    cases hrequested : Prompt.requested name (argumentsOf (.object own)) with
    | error f =>
      simp only [hrequested]
      exact ⟨⟨f, rfl, Prompt.requested_eq_error hrequested⟩, trivial⟩
    | ok found =>
      obtain ⟨p, members⟩ := found
      obtain ⟨-, rfl, hmembers, hquestion⟩ := Prompt.requested_eq_ok_iff.mp hrequested
      have hnames : Names (.object own) p.name members :=
        ⟨own, rfl, hname, membersOf_eq_ok_iff.mp hmembers⟩
      have hprompted : Prompted (.object own) p members := ⟨hnames, hquestion⟩
      exact absurd h hprompted.not_unprompted

end Server

end GraphGateway.Protocol
