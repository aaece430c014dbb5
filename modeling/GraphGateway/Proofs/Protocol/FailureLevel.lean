/-
Where the failure of a call is told, and that its kind agrees.

A call of a tool is turned down if it names no tool or its arguments are no object (`TurnedDown`);
it has no result then, and nothing is executed. Every other call has a result of one text, and what
goes wrong in the check of the arguments or in the tool itself is told there (`Told`). Calls are
answered without a look at how failures are sorted (`Failure.isOperationLevel`), yet the two agree:
behind the check a tool fails for the engine only (`Tool.answer_eq_error`), so all that is told in a
result belongs to the operation, and all that is told instead of one does not.
-/
import GraphGateway.Proofs.Protocol.Refusal

namespace GraphGateway.Protocol

namespace Tool

/-- A call is turned down: its name is blank or no tool's, or its arguments are no object, nor
`null`. -/
inductive TurnedDown (name : String) (arguments : Json) : Prop where
  | blankName : Text.isAllBlank name = true → TurnedDown name arguments
  | unknownName : name ∉ names → TurnedDown name arguments
  | badArguments : arguments ≠ .null → (∀ members, arguments ≠ .object members) →
    TurnedDown name arguments

/-- The result of a call that is served tells the text of the tool, or what went wrong: in the check
of the arguments, or else in the tool. -/
inductive Told (service : Service) (now : Calendar.Moment) (j : Journal) (t : Tool)
    (members : Members) : ToolResult → Prop where
  | text {text : String} : Argument.validate t.arguments members = .ok () →
    (t.run service now members).result j = .ok text →
    Told service now j t members ⟨[.plain text], false⟩
  | invalid {f : Failure} : Argument.validate t.arguments members = .error f →
    f.isOperationLevel = true → Told service now j t members ⟨[.plain f.message], true⟩
  | failed {f : Failure} : Argument.validate t.arguments members = .ok () →
    (t.run service now members).result j = .error f → f.isOperationLevel = true →
    Told service now j t members ⟨[.plain f.message], true⟩

/-! ## Calls that are turned down -/

theorem membersOf_fails_iff {arguments : Json} :
    (∃ f, Argument.membersOf arguments = .error f) ↔
      arguments ≠ .null ∧ ∀ members, arguments ≠ .object members := by
  cases arguments <;> simp [Argument.membersOf]

theorem requested_fails_iff {name : String} {arguments : Json} :
    (∃ f, requested name arguments = .error f) ↔ TurnedDown name arguments := by
  constructor
  · rintro ⟨f, hf⟩
    unfold requested at hf
    split at hf
    · next hblank => exact .blankName hblank
    split at hf
    · next hnone =>
      refine .unknownName fun hmem => ?_
      obtain ⟨t, -, ht⟩ := List.mem_map.mp hmem
      rw [ofName?_eq_some_iff.mpr ht] at hnone
      cases hnone
    · cases hm : Argument.membersOf arguments with
      | error g =>
        obtain ⟨hnull, hobject⟩ := membersOf_fails_iff.mp ⟨g, hm⟩
        exact .badArguments hnull hobject
      | ok members =>
        rw [hm] at hf
        cases hf
  · intro h
    cases hr : requested name arguments with
    | error f => exact ⟨f, rfl⟩
    | ok found =>
      obtain ⟨t, members⟩ := found
      obtain ⟨hblank, rfl, hm⟩ := requested_eq_ok_iff.mp hr
      cases h with
      | blankName hb =>
        rw [hblank] at hb
        cases hb
      | unknownName hunknown => exact absurd (List.mem_map_of_mem (by cases t <;> decide)) hunknown
      | badArguments hnull hobject =>
        obtain ⟨f, hf⟩ := membersOf_fails_iff.mpr ⟨hnull, hobject⟩
        cases hm.symm.trans hf

/-! ## Calls that are served -/

/-- Behind the check of its arguments a tool fails for the engine only. -/
theorem answer_eq_error {service : Service} {now : Calendar.Moment} {earlier : List String}
    {members : Members} {t : Tool} {f : Failure}
    (hvalid : Argument.validate t.arguments members = .ok ())
    (h : t.answer service now earlier members = .error f) :
    ∃ message statement, f = .engine message statement := by
  cases t with
  | graphQuery =>
    obtain ⟨statement, hs⟩ := (Argument.validate_one_eq_ok_iff rfl).mp hvalid
    rw [answer, Argument.text_of_supplies hs] at h
    cases hr : service.engine.result earlier statement with
    | error g =>
      obtain ⟨message, -, rfl⟩ := Engine.result_eq_error_iff.mp hr
      simp only [bind, Except.bind, hr] at h
      exact ⟨message, statement, (Except.error.inj h).symm⟩
    | ok rows =>
      simp only [bind, Except.bind, hr] at h
      cases h
  | getSchema =>
    rw [answer] at h
    cases hr : service.engine.reflection earlier with
    | error g =>
      obtain ⟨message, -, rfl⟩ := (Server.reflection_eq_error_iff earlier).mp hr
      rw [hr] at h
      exact ⟨message, _, (Except.error.inj h).symm⟩
    | ok s =>
      rw [hr] at h
      cases h
  | healthCheck => cases h
  | generateCypher =>
    obtain ⟨question, hq⟩ := (Argument.validate_one_eq_ok_iff rfl).mp hvalid
    rw [answer, Argument.text_of_supplies hq] at h
    cases h

theorem run_result (service : Service) (now : Calendar.Moment) (members : Members) (t : Tool)
    (j : Journal) :
    (t.run service now members).result j = t.answer service now j.statements members :=
  (run_gives service now j.statements members t).result_eq

/-- What comes of a tool is told in a result. -/
theorem told_ofOutcome (service : Service) (now : Calendar.Moment) (j : Journal) (t : Tool)
    (members : Members) :
    Told service now j t members (.ofOutcome (t.outcome service now j.statements members)) := by
  unfold outcome
  cases hvalid : Argument.validate t.arguments members with
  | error f =>
    obtain ⟨a, -, message, rfl⟩ := Argument.validate_eq_error hvalid
    exact .invalid hvalid rfl
  | ok u =>
    show Told service now j t members (.ofOutcome (t.answer service now j.statements members))
    cases hanswer : t.answer service now j.statements members with
    | error f =>
      obtain ⟨message, statement, rfl⟩ := answer_eq_error hvalid hanswer
      exact .failed hvalid ((run_result ..).trans hanswer) rfl
    | ok text => exact .text hvalid ((run_result ..).trans hanswer)

/-- **A failure is told where its kind belongs.** A call fails exactly if it is turned down; the
failure is then none of an operation, and nothing was executed. Any other call has a result of one
text, and a text that tells of an error is that of a failure of the operation. Behind the check of
its arguments a tool fails for the engine only, never for want of an argument. -/
theorem told_by_kind (service : Service) (now : Calendar.Moment) (name : String) (given : Json)
    (j : Journal) :
    ((∃ f, (call service now name given).result j = .error f) ↔ TurnedDown name given) ∧
    (∀ f, (call service now name given).result j = .error f → f.isOperationLevel = false ∧
      ((call service now name given).journal j).statements = j.statements) ∧
    (¬TurnedDown name given → ∃ t members result, t.name = name ∧
      Argument.membersOf given = .ok members ∧
      (call service now name given).result j = .ok result ∧ Told service now j t members result) ∧
    ∀ t members f, Argument.validate (arguments t) members = .ok () →
      (run service now members t).result j = .error f →
        ∃ message statement, f = .engine message statement := by
  have hgives := call_gives service now j.statements name given
  rw [hgives.result_eq, hgives.statements_eq, ← requested_fails_iff]
  refine ⟨?_, ?_, ?_, fun t members f hvalid hf => ?_⟩
  · cases requested name given <;> simp [Except.map]
  · intro f hf
    cases hr : requested name given with
    | error g =>
      obtain ⟨message, rfl⟩ := requested_eq_error hr
      rw [hr] at hf
      obtain rfl := Except.error.inj hf
      exact ⟨rfl, List.append_nil _⟩
    | ok found =>
      rw [hr] at hf
      cases hf
  · intro hserved
    cases hr : requested name given with
    | error f => exact absurd ⟨f, hr⟩ hserved
    | ok found =>
      obtain ⟨t, members⟩ := found
      obtain ⟨-, hname, hmembers⟩ := requested_eq_ok_iff.mp hr
      exact ⟨t, members, _, hname, hmembers, rfl, told_ofOutcome service now j t members⟩
  · rw [run_result] at hf
    exact answer_eq_error hvalid hf

/-- Names are taken as they are. -/
example : TurnedDown " getSchema" .null := .unknownName (by decide)

end Tool

end GraphGateway.Protocol
