/-
The counters and the traffic.

The counters are bumped at several places, on paths that return early. What they hold is told by the
lines that came in and the responses that went out alone: each line adds to every counter what it
and its response show (`Server.lineEffect_tallied`), and what lines add in turn is what they show
together (`Server.arrivalsEffect_tallied`). The counters have 64 bits; they hold these numbers
themselves as long as there are fewer lines than that.
-/
import Mathlib.Algebra.Group.Nat.Defs
import GraphGateway.Proofs.Protocol.Succession
import GraphGateway.Proofs.Protocol.Verdict

namespace GraphGateway.Protocol

/-! ## Kinds of lines -/

/-- The request that a line holds. -/
def requestOf? (line : List UInt8) : Option Request :=
  (Text.Utf8.decode line).toOption.bind fun text =>
    (Request.codec.decode (Text.trim text)).toOption

theorem toOption_eq_some_iff {ε α : Type} {x : Except ε α} {a : α} :
    x.toOption = some a ↔ x = .ok a := by
  cases x <;> simp [Except.toOption]

theorem holds_iff {line : List UInt8} {r : Request} : Holds line r ↔ requestOf? line = some r := by
  simp only [Holds, requestOf?, Option.bind_eq_some_iff, toOption_eq_some_iff,
    Text.Utf8.decode_eq_ok_iff]

/-- A line that holds a request. -/
def IsRequest (line : List UInt8) : Prop := ∃ r, Holds line r

/-- A line that holds a notification. -/
def IsNotification (line : List UInt8) : Prop := ∃ r, Holds line r ∧ r.id = .null

/-- A request, no notification, that calls a tool by a name that is not blank. -/
def Request.CallsTool (r : Request) : Prop :=
  r.id ≠ .null ∧ r.method = "tools/call" ∧
    ∃ members name, r.parameters = .object members ∧ Supplies members "name" name

/-- A line that holds such a request. -/
def CallsTool (line : List UInt8) : Prop := ∃ r, Holds line r ∧ r.CallsTool

theorem unreadable_iff {line : List UInt8} : Unreadable line ↔ ¬IsBlank line ∧ ¬IsRequest line := by
  constructor
  · intro h
    exact ⟨h.not_isBlank, fun ⟨r, hr⟩ => hr.not_unreadable h⟩
  · rintro ⟨hblank, hrequest⟩
    rcases line_cases line with h | h | h
    · exact absurd h hblank
    · exact absurd h hrequest
    · exact h

theorem Request.callsTool_iff {r : Request} : r.CallsTool ↔
    r.id ≠ .null ∧ r.method = "tools/call" ∧
      (requiredName .callTool "tool" r.parameters).toBool = true := by
  have hnames : (∃ members name, r.parameters = .object members ∧ Supplies members "name" name) ↔
      (requiredName .callTool "tool" r.parameters).toBool = true := by
    cases hname : requiredName .callTool "tool" r.parameters with
    | ok name =>
      obtain ⟨members, hmembers, hsupplies⟩ := requiredName_eq_ok_iff.mp hname
      exact ⟨fun _ => rfl, fun _ => ⟨members, name, hmembers, hsupplies⟩⟩
    | error f =>
      refine ⟨fun ⟨members, name, hmembers, hsupplies⟩ => ?_, fun h => by cases h⟩
      cases hname.symm.trans (requiredName_eq_ok_iff.mpr ⟨members, hmembers, hsupplies⟩)
  rw [CallsTool, hnames]

theorem exists_holds_iff {line : List UInt8} {p : Request → Prop} [DecidablePred p] :
    (∃ r, Holds line r ∧ p r) ↔ (requestOf? line).any (fun r => decide (p r)) = true := by
  simp only [holds_iff, Option.any_eq_true, decide_eq_true_iff]

instance : DecidablePred Request.CallsTool := fun _ => decidable_of_iff _ Request.callsTool_iff.symm

instance : DecidablePred IsNotification := fun _ => decidable_of_iff _ exists_holds_iff.symm

instance : DecidablePred CallsTool := fun _ => decidable_of_iff _ exists_holds_iff.symm

instance : DecidablePred IsRequest := fun line =>
  decidable_of_iff ((requestOf? line).isSome = true) (by
    simp only [IsRequest, holds_iff, Option.isSome_iff_exists])

instance : DecidablePred IsBlank := fun line =>
  decidable_of_iff ((Text.Utf8.decode line).toOption.any Text.isAllBlank = true) (by
    simp only [IsBlank, Option.any_eq_true, toOption_eq_some_iff, Text.Utf8.decode_eq_ok_iff])

instance : DecidablePred Unreadable := fun _ => decidable_of_iff _ unreadable_iff.symm

/-! ## What lines and responses show -/

/-- What has been counted is what lines and the answers to them show, in 64 bits. -/
structure Tallied (lines : List (List UInt8)) (answers : List (Option Response))
    (counted : Stats) : Prop where
  requests : counted.totalRequests = .ofNat (lines.countP (IsRequest ·))
  calls : counted.toolCalls = .ofNat (lines.countP (CallsTool ·))
  failures : counted.toolErrors = .ofNat ((answers.filterMap id).countP (·.TellsError))
  errors : counted.transportErrors = .ofNat ((answers.filterMap id).countP (·.CarriesError))
  /-- A response that calls itself an error answers a call. -/
  failures_le : (answers.filterMap id).countP (·.TellsError) ≤ lines.countP (CallsTool ·)
  answered : (answers.filterMap id).length + lines.countP (IsNotification ·) =
    lines.countP (IsRequest ·) + lines.countP (Unreadable ·)

namespace Tallied

variable {lines lines' : List (List UInt8)} {answers answers' : List (Option Response)}
  {c d : Stats}

theorem nil : Tallied [] [] {} := ⟨rfl, rfl, rfl, rfl, Nat.le_refl 0, rfl⟩

theorem append (h : Tallied lines answers c) (h' : Tallied lines' answers' d) :
    Tallied (lines ++ lines') (answers ++ answers') (c + d) := by
  have hle := h.failures_le
  have hle' := h'.failures_le
  have hanswered := h.answered
  have hanswered' := h'.answered
  constructor
  · rw [Stats.add_def, List.countP_append, UInt64.ofNat_add, h.requests, h'.requests]
  · rw [Stats.add_def, List.countP_append, UInt64.ofNat_add, h.calls, h'.calls]
  · rw [Stats.add_def, List.filterMap_append, List.countP_append, UInt64.ofNat_add, h.failures,
      h'.failures]
  · rw [Stats.add_def, List.filterMap_append, List.countP_append, UInt64.ofNat_add, h.errors,
      h'.errors]
  · rw [List.filterMap_append, List.countP_append, List.countP_append]
    omega
  · rw [List.filterMap_append, List.length_append]
    simp only [List.countP_append]
    omega

end Tallied

/-! ## Kinds of lines and what they show -/

section Kinds

variable {line : List UInt8} {r : Request}

theorem Holds.isRequest (h : Holds line r) : IsRequest line := ⟨r, h⟩

theorem Holds.isNotification_iff (h : Holds line r) : IsNotification line ↔ r.id = .null := by
  constructor
  · rintro ⟨r', hr', hnull⟩
    rwa [h.unique hr']
  · intro hnull
    exact ⟨r, h, hnull⟩

theorem Holds.callsTool_iff (h : Holds line r) : CallsTool line ↔ r.CallsTool := by
  constructor
  · rintro ⟨r', hr', hcalls⟩
    rwa [h.unique hr']
  · intro hcalls
    exact ⟨r, h, hcalls⟩

theorem not_isNotification (h : ¬IsRequest line) : ¬IsNotification line := by
  rintro ⟨r, hr, -⟩
  exact h ⟨r, hr⟩

theorem CallsTool.isRequest (h : CallsTool line) : IsRequest line := by
  obtain ⟨r, hr, -⟩ := h
  exact ⟨r, hr⟩

end Kinds

/-! ## One line -/

namespace Server

variable (service : Service) (now : Calendar.Moment) (earlier : List String)

theorem responseTo_carriesError_iff {r : Request} {outcome : Except Failure Json} :
    (responseTo r outcome).CarriesError ↔ outcome.toBool = false := by
  cases outcome with
  | ok result =>
    exact ⟨fun h => absurd h (Response.success_not_carriesError r.id result), fun h => by cases h⟩
  | error f => exact ⟨fun _ => rfl, fun _ => Response.failure_carriesError r.id _ f.message⟩

theorem responseTo_tellsError_iff {r : Request} {outcome : Except Failure Json} :
    (responseTo r outcome).TellsError ↔
      ∃ result, outcome = .ok result ∧ result.get? "isError" = some (.bool true) := by
  cases outcome with
  | ok result => simp [responseTo, Response.success_tellsError_iff]
  | error f =>
    simpa [responseTo, Response.ofFailure] using Response.failure_not_tellsError r.id _ f.message

/-- A call names nothing, or names something that cannot be called, or is told in a result. -/
theorem toolEffect_cases (params : Json) :
    (∃ f, requiredName .callTool "tool" params = .error f ∧
      toolEffect service now earlier params = { value := .error f }) ∨
    (∃ name f, requiredName .callTool "tool" params = .ok name ∧
      toolEffect service now earlier params =
        { value := .error f, counted := { toolCalls := 1 } }) ∨
    ∃ name outcome statements, requiredName .callTool "tool" params = .ok name ∧
      toolEffect service now earlier params =
        { value := .ok (ToolResult.codec.write (.ofOutcome outcome)).canonical
          counted := { toolCalls := 1, toolErrors := if outcome.toBool then 0 else 1 }
          statements := statements } := by
  unfold toolEffect
  cases hname : requiredName .callTool "tool" params with
  | error f => exact .inl ⟨f, rfl, rfl⟩
  | ok name =>
    cases hfound : Tool.requested name (argumentsOf params) with
    | error f =>
      refine .inr (.inl ⟨name, f, rfl, ?_⟩)
      simp only [hfound]
    | ok found =>
      obtain ⟨tool, members⟩ := found
      refine .inr (.inr ⟨name, tool.outcome service now earlier members,
        tool.statements service.engine earlier members, rfl, ?_⟩)
      simp only [hfound]

/-- Calling a tool is counted when the tool is named, and as an error when the result says so. -/
theorem toolEffect_tallied (r : Request) (params : Json) :
    (toolEffect service now earlier params).counted =
      { toolCalls := if (requiredName .callTool "tool" params).toBool then 1 else 0
        toolErrors :=
          if (responseTo r (toolEffect service now earlier params).value).TellsError then 1 else 0 } ∧
      ((responseTo r (toolEffect service now earlier params).value).TellsError →
        (requiredName .callTool "tool" params).toBool = true) := by
  have hfailed (f : Failure) : ¬(responseTo r (.error f)).TellsError :=
    Response.failure_not_tellsError r.id _ f.message
  rcases toolEffect_cases service now earlier params with
    ⟨f, hname, heffect⟩ | ⟨name, f, hname, heffect⟩ | ⟨name, outcome, statements, hname, heffect⟩
  · rw [heffect, hname]
    simp [hfailed, Except.toBool]
  · rw [heffect, hname]
    simp [hfailed, Except.toBool]
  · have htells : (responseTo r (.ok
        (ToolResult.codec.write (.ofOutcome outcome)).canonical)).TellsError ↔
          outcome.toBool = false := by
      rw [responseTo_tellsError_iff]
      simp [ToolResult.isError_write]
    rw [heffect, hname]
    cases outcome <;> simp [htells, Except.toBool]

/-- No other method counts anything of its own, or tells of errors in its result. -/
theorem methodEffect_tallied {m : Method} (hm : m ≠ .callTool) (r : Request) (params : Json) :
    (methodEffect service now earlier params m).counted = {} ∧
      ¬(responseTo r (methodEffect service now earlier params m).value).TellsError := by
  constructor
  · cases m with
    | handshake | ping | listTools | listPrompts => rfl
    | callTool => exact absurd rfl hm
    | getPrompt =>
      show (promptEffect service.engine earlier params).counted = {}
      unfold promptEffect
      split
      · rfl
      · split <;> rfl
  · rw [responseTo_tellsError_iff]
    rintro ⟨result, hresult, hsays⟩
    rw [methodEffect_isError hm hresult] at hsays
    cases hsays

/-- A method counts the calls and the failures that the request and its response show. -/
theorem callEffect_tallied {r : Request} (hr : r.id ≠ .null) {m : Method} (hm : m.name = r.method) :
    ∃ response, (callEffect service now earlier r m).value = some response ∧
      (callEffect service now earlier r m).counted =
        { totalRequests := 1
          toolCalls := if r.CallsTool then 1 else 0
          toolErrors := if response.TellsError then 1 else 0
          transportErrors := if response.CarriesError then 1 else 0 } ∧
      (response.TellsError → r.CallsTool) := by
  have hdone : (methodEffect service now earlier r.parameters m).counted =
        { toolCalls := if r.CallsTool then 1 else 0
          toolErrors := if (responseTo r
            (methodEffect service now earlier r.parameters m).value).TellsError then 1 else 0 } ∧
      ((responseTo r (methodEffect service now earlier r.parameters m).value).TellsError →
        r.CallsTool) := by
    by_cases hcall : m = .callTool
    · subst hcall
      have hcalls : r.CallsTool ↔ (requiredName .callTool "tool" r.parameters).toBool = true := by
        rw [Request.callsTool_iff]
        exact ⟨fun h => h.2.2, fun h => ⟨hr, hm.symm, h⟩⟩
      simp only [hcalls]
      exact toolEffect_tallied service now earlier r r.parameters
    · have hnocall : ¬r.CallsTool := by
        rintro ⟨-, hcalled, -⟩
        exact hcall (Method.name_injective (hm.trans hcalled))
      obtain ⟨hcounted, htells⟩ := methodEffect_tallied service now earlier hcall r r.parameters
      refine ⟨?_, fun h => absurd h htells⟩
      rw [hcounted, if_neg hnocall, if_neg htells]
  obtain ⟨hcounted, htells⟩ := hdone
  refine ⟨_, rfl, ?_, htells⟩
  show ({ totalRequests := 1 } : Stats) +
    ((methodEffect service now earlier r.parameters m).counted + _) = _
  rw [hcounted]
  simp only [Stats.add_def, responseTo_carriesError_iff, UInt64.zero_add, UInt64.add_zero,
    Request.parameters]
  cases (methodEffect service now earlier (r.params.getD .null) m).value.toBool <;> rfl

/-- A request that is no notification counts what it and its response show. -/
theorem requestEffect_tallied {r : Request} (hr : r.id ≠ .null) :
    ∃ response, (requestEffect service now earlier r).value = some response ∧
      (requestEffect service now earlier r).counted =
        { totalRequests := 1
          toolCalls := if r.CallsTool then 1 else 0
          toolErrors := if response.TellsError then 1 else 0
          transportErrors := if response.CarriesError then 1 else 0 } ∧
      (response.TellsError → r.CallsTool) := by
  have hn : r.isNotification = false := Request.not_isNotification hr
  unfold requestEffect
  simp only [hn, Bool.false_eq_true, if_false]
  cases hmethod : Method.ofName? r.method with
  | none =>
    have hnocall : ¬r.CallsTool := by
      rintro ⟨-, hcall, -⟩
      rw [hcall] at hmethod
      exact absurd hmethod (by decide)
    have htells := Response.failure_not_tellsError r.id .methodNotFound
      s!"method not found: {r.method}"
    have hcarries := Response.failure_carriesError r.id .methodNotFound
      s!"method not found: {r.method}"
    refine ⟨_, rfl, ?_, fun h => absurd h htells⟩
    rw [if_neg hnocall, if_neg htells, if_pos hcarries]
  | some m =>
    have hm := Method.ofName?_eq_some_iff.mp hmethod
    exact callEffect_tallied service now earlier hr hm

/-- A line counts what it and the answer to it show. -/
theorem lineEffect_tallied (line : List UInt8) :
    Tallied [line] [(lineEffect service now earlier line).value]
      (lineEffect service now earlier line).counted := by
  rcases line_cases line with hblank | ⟨r, hr⟩ | hunreadable
  · have hrequest : ¬IsRequest line := fun ⟨r, hr⟩ => hr.not_isBlank hblank
    have hnote := not_isNotification hrequest
    have hcall : ¬CallsTool line := fun h => hrequest h.isRequest
    have hreadable : ¬Unreadable line := fun h => h.not_isBlank hblank
    rw [lineEffect_of_isBlank service now earlier hblank]
    constructor <;> simp [hrequest, hnote, hcall, hreadable]
  · have hrequest := hr.isRequest
    have hreadable := hr.not_unreadable
    rw [lineEffect_of_holds service now earlier hr]
    by_cases hnull : r.id = .null
    · have hnote := hr.isNotification_iff.mpr hnull
      have hcall : ¬CallsTool line := fun h => (hr.callsTool_iff.mp h).1 hnull
      rw [requestEffect_of_null service now earlier hnull]
      constructor <;> simp [hrequest, hnote, hcall, hreadable]
    · have hnote : ¬IsNotification line := fun h => hnull (hr.isNotification_iff.mp h)
      obtain ⟨response, hvalue, hcounted, htells⟩ :=
        requestEffect_tallied service now earlier hnull
      rw [hvalue, hcounted]
      constructor
      · simp [hrequest]
      · simp [List.countP_singleton, hr.callsTool_iff, apply_ite]
      · simp [List.countP_singleton, apply_ite]
      · simp [List.countP_singleton, apply_ite]
      · by_cases h : response.TellsError
        · simp [h, hr.callsTool_iff, htells h]
        · simp [h]
      · simp [hrequest, hnote, hreadable]
  · have hrequest : ¬IsRequest line := fun ⟨r, hr⟩ => hr.not_unreadable hunreadable
    have hnote := not_isNotification hrequest
    have hcall : ¬CallsTool line := fun h => hrequest h.isRequest
    obtain ⟨reason, heffect⟩ := lineEffect_of_unreadable service now earlier hunreadable
    have htells := Response.failure_not_tellsError .null .parseError reason
    have hcarries := Response.failure_carriesError .null .parseError reason
    rw [heffect, rejection]
    constructor <;> simp [hrequest, hnote, hcall, hunreadable, htells, hcarries]

/-! ## Any number of lines -/

/-- Lines in turn count what they and the answers to them show. -/
theorem arrivalsEffect_tallied (arrivals : List Arrival) :
    Tallied (arrivals.map Prod.snd) (arrivalsEffect service earlier arrivals).value
      (arrivalsEffect service earlier arrivals).counted := by
  induction arrivals generalizing earlier with
  | nil => exact .nil
  | cons arrival arrivals ih =>
    obtain ⟨now, line⟩ := arrival
    exact (lineEffect_tallied service now earlier line).append (ih _)

end Server

/-- A 64-bit counter holds a number of lines itself. -/
theorem toNat_of_countP_le {n total : Nat} {counter : UInt64} (h : counter = .ofNat n)
    (hle : n ≤ total) (hfew : total < 2 ^ 64) : counter.toNat = n := by
  rw [h]
  exact UInt64.toNat_ofNat_of_lt' (Nat.lt_of_le_of_lt hle hfew)

/-- **The counters agree with the traffic.** For any lines that a fresh server is given, fewer than
2^64 of them: the lines that hold requests are counted, notifications included, and so are the lines
that call a tool by name, the responses that carry an error, and those whose result calls itself an
error. Every request but the notifications gets a response, and so does every line that cannot be
read. -/
theorem counters_agree (service : Service) (arrivals : List (Calendar.Moment × List UInt8))
    (hfew : arrivals.length < 2 ^ 64) (j : Journal) :
    let lines := arrivals.map Prod.snd
    let responses := ((Server.handleAll service arrivals).value {} j).filterMap id
    let stats := (Server.handleAll service arrivals).counters {} j
    stats.totalRequests.toNat = lines.countP (IsRequest ·) ∧
    stats.transportErrors.toNat = responses.countP (·.CarriesError) ∧
    stats.toolErrors.toNat = responses.countP (·.TellsError) ∧
    stats.toolCalls.toNat = lines.countP (CallsTool ·) ∧
    (responses.length : Int) =
      stats.totalRequests.toNat - lines.countP (IsNotification ·) + lines.countP (Unreadable ·) ∧
    stats.toolErrors ≤ stats.toolCalls ∧ stats.toolCalls ≤ stats.totalRequests := by
  intro lines responses stats
  have heffect := Server.handleAll_has service j.statements arrivals
  have htallied : Tallied lines ((Server.handleAll service arrivals).value {} j) stats := by
    have hstats : stats = {} + (Server.arrivalsEffect service j.statements arrivals).counted :=
      heffect.counters_eq {}
    rw [heffect.value_eq {}, hstats, Stats.zero_add]
    exact Server.arrivalsEffect_tallied service j.statements arrivals
  have hlines : lines.length < 2 ^ 64 := by simpa [lines] using hfew
  have hanswers : ((Server.handleAll service arrivals).value {} j).length = arrivals.length := by
    rw [heffect.value_eq {}, Server.arrivalsEffect, Effect.length_inTurn]
  have hresponses : responses.length ≤ arrivals.length := by
    rw [← hanswers]
    exact List.length_filterMap_le _ _
  have hrequests := toNat_of_countP_le htallied.requests List.countP_le_length hlines
  have hcalls := toNat_of_countP_le htallied.calls List.countP_le_length hlines
  have hfailures := toNat_of_countP_le htallied.failures
    (Nat.le_trans List.countP_le_length hresponses) hfew
  have herrors := toNat_of_countP_le htallied.errors
    (Nat.le_trans List.countP_le_length hresponses) hfew
  have hanswered : responses.length + lines.countP (IsNotification ·) =
      lines.countP (IsRequest ·) + lines.countP (Unreadable ·) := htallied.answered
  refine ⟨hrequests, herrors, hfailures, hcalls, ?_, ?_, ?_⟩
  · rw [hrequests]
    omega
  · rw [UInt64.le_iff_toNat_le, hfailures, hcalls]
    exact htallied.failures_le
  · rw [UInt64.le_iff_toNat_le, hcalls, hrequests]
    refine List.countP_mono_left fun line _ h => ?_
    simpa using (of_decide_eq_true h : CallsTool line).isRequest

/-- A database without tables. -/
def emptyService : Service := ⟨.ofTable [], ⟨[]⟩, true⟩

/-- Bytes that are no text, a notification, and a query without a statement. -/
def mixedLines : List (List UInt8) := [
  [0xFF],
  Text.Utf8.encode "\x7b\"jsonrpc\":\"\",\"method\":\"\"\x7d",
  Text.Utf8.encode ("\x7b\"jsonrpc\":\"\",\"id\":1,\"method\":\"tools/call\"," ++
    "\"params\":\x7b\"name\":\"graphQuery\"\x7d\x7d")]

/-- Two of these lines are requests, and two are answered. -/
theorem counters_agree_mixed :
    let arrivals := mixedLines.map fun line => ((⟨0, 0⟩ : Calendar.Moment), line)
    let responses := ((Server.handleAll emptyService arrivals).value {} []).filterMap id
    let stats := (Server.handleAll emptyService arrivals).counters {} []
    arrivals.length < 2 ^ 64 ∧ stats.totalRequests.toNat = 2 ∧ stats.toolCalls.toNat = 1 ∧
      responses.length = 2 := by
  intro arrivals responses stats
  have hfew : arrivals.length < 2 ^ 64 := by decide
  have hlines : arrivals.map Prod.snd = mixedLines := rfl
  have hkinds : mixedLines.countP (IsRequest ·) = 2 ∧ mixedLines.countP (CallsTool ·) = 1 ∧
      mixedLines.countP (IsNotification ·) = 1 ∧ mixedLines.countP (Unreadable ·) = 1 := by
    decide +kernel
  obtain ⟨hrequests, hcalls, hnotes, hunreadable⟩ := hkinds
  have hagree := counters_agree emptyService arrivals hfew []
  simp only [hlines, hrequests, hcalls, hnotes, hunreadable] at hagree
  obtain ⟨htotal, -, -, hcalled, hanswered, -⟩ := hagree
  rw [htotal] at hanswered
  exact ⟨hfew, htotal, hcalled, Int.ofNat.inj hanswered⟩

end GraphGateway.Protocol
