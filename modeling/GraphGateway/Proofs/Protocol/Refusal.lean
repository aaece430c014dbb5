/-
When a line is answered, and when by an error.

Two kinds of lines get no response: blank ones and notifications. Of the others, a line that is no
request, a method that is not known, parameters that name nothing known, and a prompt that the
catalog cannot be listed for are refused, each with its code (`Refused`); what a tool makes of its
arguments and what the engine makes of its statements is told in the result. Whether a response is
an error is said of the object that clients get.
-/
import GraphGateway.Proofs.Protocol.Params
import GraphGateway.Proofs.Text.Utf8

namespace GraphGateway.Protocol

/-! ## Lines -/

/-- A line of nothing but blanks. -/
def IsBlank (line : List UInt8) : Prop :=
  ∃ text, Text.Utf8.encode text = line ∧ Text.isAllBlank text = true

/-- A line holds a request, blanks at both ends apart. -/
def Holds (line : List UInt8) (r : Request) : Prop :=
  ∃ text, Text.Utf8.encode text = line ∧ Request.codec.decode (Text.trim text) = .ok r

/-- A line that holds something, but no request. -/
inductive Unreadable (line : List UInt8) : Prop where
  | notText : (∀ text, Text.Utf8.encode text ≠ line) → Unreadable line
  | notRequest {text : String} : Text.Utf8.encode text = line → Text.isAllBlank text = false →
    (∀ r, Request.codec.decode (Text.trim text) ≠ .ok r) → Unreadable line

/-- Nothing at all is no request. -/
theorem decode_empty (r : Request) : Request.codec.decode "" ≠ .ok r := by
  have h : (Request.codec.decode "").toBool = false := by decide +kernel
  intro hr
  rw [hr] at h
  cases h

namespace Holds

variable {line : List UInt8} {r r' : Request}

theorem unique (h : Holds line r) (h' : Holds line r') : r = r' := by
  obtain ⟨text, rfl, hr⟩ := h
  obtain ⟨text', htext, hr'⟩ := h'
  obtain rfl := Text.Utf8.encode_injective htext
  exact Except.ok.inj (hr.symm.trans hr')

theorem not_isBlank (h : Holds line r) : ¬IsBlank line := by
  obtain ⟨text, rfl, hr⟩ := h
  rintro ⟨text', htext, hblank⟩
  obtain rfl := Text.Utf8.encode_injective htext
  rw [Text.trim_eq_empty_iff.mpr hblank] at hr
  exact decode_empty r hr

theorem not_unreadable (h : Holds line r) : ¬Unreadable line := by
  obtain ⟨text, rfl, hr⟩ := h
  intro hu
  cases hu with
  | notText hnone => exact hnone text rfl
  | notRequest htext _ hnone =>
    obtain rfl := Text.Utf8.encode_injective htext
    exact hnone r hr

end Holds

theorem Unreadable.not_isBlank {line : List UInt8} (h : Unreadable line) : ¬IsBlank line := by
  rintro ⟨text, rfl, hblank⟩
  cases h with
  | notText hnone => exact hnone text rfl
  | notRequest htext hnot _ =>
    obtain rfl := Text.Utf8.encode_injective htext
    rw [hblank] at hnot
    cases hnot

/-- Every line is blank, or holds a request, or neither. -/
theorem line_cases (line : List UInt8) :
    IsBlank line ∨ (∃ r, Holds line r) ∨ Unreadable line := by
  by_cases htext : ∃ text, Text.Utf8.encode text = line
  · obtain ⟨text, rfl⟩ := htext
    by_cases hblank : Text.isAllBlank text = true
    · exact .inl ⟨text, rfl, hblank⟩
    · cases hr : Request.codec.decode (Text.trim text) with
      | ok r => exact .inr (.inl ⟨r, text, rfl, hr⟩)
      | error fault =>
        refine .inr (.inr (.notRequest rfl (by simpa using hblank) fun r => ?_))
        rw [hr]
        intro hok
        cases hok
  · exact .inr (.inr (.notText fun text h => htext ⟨text, h⟩))

namespace Server

variable (service : Service) (now : Calendar.Moment) (earlier : List String)

theorem lineEffect_of_isBlank {line : List UInt8} (h : IsBlank line) :
    lineEffect service now earlier line = { value := none } := by
  obtain ⟨text, rfl, hblank⟩ := h
  unfold lineEffect textEffect
  simp only [Text.Utf8.decode_encode, Text.trim_eq_empty_iff.mpr hblank, if_true]

theorem lineEffect_of_holds {line : List UInt8} {r : Request} (h : Holds line r) :
    lineEffect service now earlier line = requestEffect service now earlier r := by
  have hblank := h.not_isBlank
  obtain ⟨text, rfl, hr⟩ := h
  have htrim : Text.trim text ≠ "" := by
    intro hempty
    exact hblank ⟨text, rfl, Text.trim_eq_empty_iff.mp hempty⟩
  unfold lineEffect textEffect
  simp only [Text.Utf8.decode_encode, htrim, if_false, hr]

theorem lineEffect_of_unreadable {line : List UInt8} (h : Unreadable line) :
    ∃ reason, lineEffect service now earlier line = rejection reason := by
  unfold lineEffect
  cases hd : Text.Utf8.decode line with
  | error fault => exact ⟨_, rfl⟩
  | ok text =>
    have hline := Text.Utf8.decode_eq_ok_iff.mp hd
    cases h with
    | notText hnone => exact absurd hline (hnone text)
    | notRequest htext hnot hnone =>
      obtain rfl := Text.Utf8.encode_injective (hline.trans htext.symm)
      have htrim : Text.trim text ≠ "" := by
        intro hempty
        rw [Text.trim_eq_empty_iff.mp hempty] at hnot
        cases hnot
      unfold textEffect
      simp only [htrim, if_false]
      cases hr : Request.codec.decode (Text.trim text) with
      | ok r => exact absurd hr (hnone r)
      | error fault => exact ⟨_, rfl⟩

end Server

/-! ## Responses -/

namespace Response

/-- The object that clients get. -/
def message (response : Response) : Json := codec.write response

/-- A response with an error of a code, and without a result. -/
def IsError (response : Response) (code : Int) : Prop :=
  response.message.get? "result" = none ∧
    ∃ report, response.message.get? "error" = some report ∧
      report.get? "code" = some (.number (.int code))

/-- A response with a result, and without an error. -/
def IsSuccess (response : Response) : Prop :=
  response.message.get? "error" = none ∧ ∃ result, response.message.get? "result" = some result

theorem message_id (response : Response) : response.message.get? "id" = some response.id := rfl

theorem success_isSuccess (id result : Json) : (success id result).IsSuccess := ⟨rfl, result, rfl⟩

theorem failure_isError (id : Json) (code : ErrorCode) (text : String) :
    (failure id code text).IsError code.value := ⟨rfl, _, rfl, rfl⟩

/-- A response is an error of one code at most, and then no success. -/
theorem IsError.unique {response : Response} {code code' : Int} (h : response.IsError code)
    (h' : response.IsError code') : code = code' := by
  obtain ⟨-, report, hreport, hcode⟩ := h
  obtain ⟨-, report', hreport', hcode'⟩ := h'
  obtain rfl := Option.some.inj (hreport.symm.trans hreport')
  exact Numeral.int.inj (Json.number.inj (Option.some.inj (hcode.symm.trans hcode')))

theorem IsError.not_isSuccess {response : Response} {code : Int} (h : response.IsError code) :
    ¬response.IsSuccess := by
  rintro ⟨-, result, hresult⟩
  cases h.1.symm.trans hresult

end Response

/-! ## Refusals -/

/-- The parameters of a request; without any they are `null`. -/
def Request.parameters (r : Request) : Json := r.params.getD .null

theorem Request.not_isNotification {r : Request} (h : r.id ≠ .null) : r.isNotification = false := by
  unfold Request.isNotification Json.isNull
  split
  · next hnull => exact absurd hnull h
  · rfl

/-- A request is refused with a code. -/
inductive Denied (e : Engine) (earlier : List String) (r : Request) : Int → Prop where
  | unknownMethod :
    r.method ∉ ["initialize", "ping", "tools/list", "tools/call", "prompts/list", "prompts/get"] →
    Denied e earlier r (-32601)
  | misdirected : r.method = "tools/call" → Misdirected Tool.names r.parameters →
    Denied e earlier r (-32602)
  | unprompted : r.method = "prompts/get" → Unprompted r.parameters → Denied e earlier r (-32602)
  /-- The tables cannot be listed. -/
  | unlisted {p : Prompt} {members : Members} {message : String} : r.method = "prompts/get" →
    Prompted r.parameters p members → e.Fails earlier Catalog.showTables message →
    Denied e earlier r (-32603)

/-- A line is refused with a code. -/
inductive Refused (e : Engine) (earlier : List String) (line : List UInt8) : Int → Prop where
  | unreadable : Unreadable line → Refused e earlier line (-32700)
  | request {r : Request} {code : Int} : Holds line r → r.id ≠ .null → Denied e earlier r code →
    Refused e earlier line code

namespace Method

/-- The names of all methods. -/
def names : List String := all.map name

theorem ofName?_eq_some_iff {name : String} {m : Method} : ofName? name = some m ↔ m.name = name :=
  find?_name_eq_some_iff fun m => by cases m <;> decide

theorem name_injective {m m' : Method} (h : m.name = m'.name) : m = m' := by
  have hm := ofName?_eq_some_iff.mpr h
  have hm' := ofName?_eq_some_iff.mpr (Eq.refl m'.name)
  exact Option.some.inj (hm.symm.trans hm')

theorem ofName?_eq_none_iff {name : String} : ofName? name = none ↔ name ∉ names := by
  simp [ofName?, names, List.find?_eq_none]

end Method

namespace Server

variable (service : Service) (now : Calendar.Moment) (earlier : List String)

theorem responseTo_isError_iff {r : Request} {outcome : Except Failure Json} {code : Int} :
    (responseTo r outcome).IsError code ↔
      ∃ f, outcome = .error f ∧ (ErrorCode.ofFailure f).value = code := by
  cases outcome with
  | ok result =>
    constructor
    · intro h
      exact absurd (Response.success_isSuccess r.id result) h.not_isSuccess
    · rintro ⟨f, hf, -⟩
      cases hf
  | error f =>
    have herror := Response.failure_isError r.id (.ofFailure f) f.message
    constructor
    · intro h
      exact ⟨f, rfl, herror.unique h⟩
    · rintro ⟨g, hg, rfl⟩
      obtain rfl := Except.error.inj hg
      exact herror

theorem responseTo_isSuccess_iff {r : Request} {outcome : Except Failure Json} :
    (responseTo r outcome).IsSuccess ↔ ∀ code, ¬(responseTo r outcome).IsError code := by
  constructor
  · intro h code herror
    exact herror.not_isSuccess h
  · intro h
    cases outcome with
    | ok result => exact Response.success_isSuccess r.id result
    | error f => exact absurd (Response.failure_isError r.id (.ofFailure f) f.message) (h _)

theorem responseTo_id (r : Request) (outcome : Except Failure Json) :
    (responseTo r outcome).id = r.id := by
  cases outcome <;> rfl

/-- Reading the catalog fails exactly when the tables cannot be listed. -/
theorem reflection_eq_error_iff {e : Engine} {f : Failure} :
    e.reflection earlier = .error f ↔
      ∃ message, e.Fails earlier Catalog.showTables message ∧
        f = .engine message Catalog.showTables := by
  rw [← Engine.result_eq_error_iff, Engine.reflection]
  cases e.result earlier Catalog.showTables <;> simp [Except.map]

/-- Getting a prompt that is asked for fails exactly when the tables cannot be listed. -/
theorem prompted_fails_iff {e : Engine} {params : Json} {p : Prompt} {members : Members}
    (h : Prompted params p members) {f : Failure} :
    (promptEffect e earlier params).value = .error f ↔
      ∃ message, e.Fails earlier Catalog.showTables message ∧
        f = .engine message Catalog.showTables := by
  rw [promptEffect_of_prompted e earlier h, ← reflection_eq_error_iff earlier]
  cases p with
  | generateCypher =>
    unfold Prompt.answer
    cases e.reflection earlier <;> simp [Except.map]

/-- A method that is asked for fails exactly when the request is denied. -/
theorem methodEffect_fails_iff {r : Request} {m : Method} (hm : m.name = r.method) {code : Int} :
    (∃ f, (methodEffect service now earlier r.parameters m).value = .error f ∧
        (ErrorCode.ofFailure f).value = code) ↔ Denied service.engine earlier r code := by
  constructor
  · rintro ⟨f, hf, rfl⟩
    cases m with
    | handshake | ping | listTools | listPrompts => cases hf
    | callTool =>
      by_cases hmisdirected : Misdirected Tool.names r.parameters
      · obtain ⟨message, hvalue⟩ :=
          (toolEffect_of_misdirected service now earlier hmisdirected).1
        obtain rfl := Except.error.inj (hf.symm.trans hvalue)
        exact .misdirected hm.symm hmisdirected
      · rw [misdirected_iff, not_not] at hmisdirected
        obtain ⟨name, members, hnames, -, hknown⟩ := hmisdirected
        obtain ⟨t, -, rfl⟩ := List.mem_map.mp hknown
        rw [methodEffect, toolEffect_of_names service now earlier hnames] at hf
        cases hf
    | getPrompt =>
      rcases prompted_or_unprompted r.parameters with ⟨p, members, hprompted⟩ | hunprompted
      · obtain ⟨message, hfails, rfl⟩ := (prompted_fails_iff earlier hprompted).mp hf
        exact .unlisted hm.symm hprompted hfails
      · obtain ⟨g, hvalue, hcode⟩ :=
          (promptEffect_of_unprompted service.engine earlier hunprompted).1
        obtain rfl := Except.error.inj (hf.symm.trans hvalue)
        rw [hcode]
        exact .unprompted hm.symm hunprompted
  · intro h
    cases h with
    | unknownMethod hunknown =>
      rw [← hm] at hunknown
      exact absurd (by cases m <;> decide) hunknown
    | misdirected hmethod hmisdirected =>
      obtain rfl : m = .callTool := Method.name_injective (hm.trans hmethod)
      obtain ⟨message, hvalue⟩ := (toolEffect_of_misdirected service now earlier hmisdirected).1
      exact ⟨_, hvalue, rfl⟩
    | unprompted hmethod hunprompted =>
      obtain rfl : m = .getPrompt := Method.name_injective (hm.trans hmethod)
      obtain ⟨f, hvalue, hcode⟩ := (promptEffect_of_unprompted service.engine earlier hunprompted).1
      exact ⟨f, hvalue, by rw [hcode]; rfl⟩
    | unlisted hmethod hprompted hfails =>
      obtain rfl : m = .getPrompt := Method.name_injective (hm.trans hmethod)
      exact ⟨_, (prompted_fails_iff earlier hprompted).mpr ⟨_, hfails, rfl⟩, rfl⟩

/-- A request that is no notification gets a response of its own, which is an error of a code
exactly when the request is denied with it. -/
theorem requestEffect_answers {r : Request} (hr : r.id ≠ .null) :
    ∃ response, (requestEffect service now earlier r).value = some response ∧
      response.id = r.id ∧
      (∀ code, response.IsError code ↔ Denied service.engine earlier r code) ∧
      (response.IsSuccess ↔ ∀ code, ¬Denied service.engine earlier r code) := by
  have hn : r.isNotification = false := Request.not_isNotification hr
  unfold requestEffect
  simp only [hn]
  cases hmethod : Method.ofName? r.method with
  | none =>
    have hdenied : Denied service.engine earlier r (-32601) :=
      .unknownMethod (Method.ofName?_eq_none_iff.mp hmethod)
    have herror := Response.failure_isError r.id .methodNotFound s!"method not found: {r.method}"
    refine ⟨_, rfl, rfl, fun code => ?_, ?_⟩
    · constructor
      · intro h
        obtain rfl := herror.unique h
        exact hdenied
      · intro h
        have hunknown := Method.ofName?_eq_none_iff.mp hmethod
        cases h with
        | unknownMethod => exact herror
        | misdirected hm | unprompted hm | unlisted hm =>
          rw [hm] at hunknown
          exact absurd (by decide) hunknown
    · exact ⟨fun h => absurd h herror.not_isSuccess, fun h => absurd hdenied (h _)⟩
  | some m =>
    have hm := Method.ofName?_eq_some_iff.mp hmethod
    have herror (code : Int) :
        (responseTo r (methodEffect service now earlier r.parameters m).value).IsError code ↔
          Denied service.engine earlier r code :=
      responseTo_isError_iff.trans (methodEffect_fails_iff service now earlier hm)
    refine ⟨_, rfl, responseTo_id r _, herror, ?_⟩
    rw [responseTo_isSuccess_iff]
    exact forall_congr' fun code => not_congr (herror code)

end Server

/-! ## All lines -/

theorem refused_of_unreadable_iff {e : Engine} {earlier : List String} {line : List UInt8}
    (h : Unreadable line) {code : Int} : Refused e earlier line code ↔ code = -32700 := by
  constructor
  · intro hrefused
    cases hrefused with
    | unreadable => rfl
    | request hr => exact absurd h hr.not_unreadable
  · rintro rfl
    exact .unreadable h

theorem refused_of_holds_iff {e : Engine} {earlier : List String} {line : List UInt8} {r : Request}
    (h : Holds line r) (hr : r.id ≠ .null) {code : Int} :
    Refused e earlier line code ↔ Denied e earlier r code := by
  constructor
  · intro hrefused
    cases hrefused with
    | unreadable hu => exact absurd hu h.not_unreadable
    | request h' _ hdenied =>
      obtain rfl := h.unique h'
      exact hdenied
  · exact .request h hr

namespace Server

variable (service : Service) (now : Calendar.Moment) (earlier : List String)

theorem requestEffect_of_null {r : Request} (h : r.id = .null) :
    requestEffect service now earlier r = { value := none, counted := { totalRequests := 1 } } := by
  have hn : r.isNotification = true := by
    rw [Request.isNotification, h]
    rfl
  unfold requestEffect
  rw [hn]
  rfl

/-- What is answered is a line that cannot be read, or a request that is no notification. -/
theorem response_cases {line : List UInt8} {response : Response}
    (h : (lineEffect service now earlier line).value = some response) :
    (Unreadable line ∧ ∃ reason, response = .failure .null .parseError reason) ∨
      ∃ r, Holds line r ∧ r.id ≠ .null ∧
        (requestEffect service now earlier r).value = some response := by
  rcases line_cases line with hblank | ⟨r, hr⟩ | hunreadable
  · rw [lineEffect_of_isBlank service now earlier hblank] at h
    cases h
  · rw [lineEffect_of_holds service now earlier hr] at h
    refine .inr ⟨r, hr, fun hnull => ?_, h⟩
    rw [requestEffect_of_null service now earlier hnull] at h
    cases h
  · obtain ⟨reason, heffect⟩ := lineEffect_of_unreadable service now earlier hunreadable
    rw [heffect] at h
    cases h
    exact .inl ⟨hunreadable, reason, rfl⟩

theorem no_response_iff {line : List UInt8} :
    (lineEffect service now earlier line).value = none ↔
      IsBlank line ∨ ∃ r, Holds line r ∧ r.id = .null := by
  constructor
  · intro h
    rcases line_cases line with hblank | ⟨r, hr⟩ | hunreadable
    · exact .inl hblank
    · by_cases hnull : r.id = .null
      · exact .inr ⟨r, hr, hnull⟩
      · obtain ⟨response, hvalue, -⟩ := requestEffect_answers service now earlier hnull
        rw [lineEffect_of_holds service now earlier hr, hvalue] at h
        cases h
    · obtain ⟨reason, heffect⟩ := lineEffect_of_unreadable service now earlier hunreadable
      rw [heffect] at h
      cases h
  · rintro (hblank | ⟨r, hr, hnull⟩)
    · rw [lineEffect_of_isBlank service now earlier hblank]
    · rw [lineEffect_of_holds service now earlier hr, requestEffect_of_null service now earlier hnull]

theorem response_isError_iff {line : List UInt8} {response : Response}
    (h : (lineEffect service now earlier line).value = some response) (code : Int) :
    response.IsError code ↔ Refused service.engine earlier line code := by
  rcases response_cases service now earlier h with ⟨hunreadable, reason, rfl⟩ | ⟨r, hr, hid, hvalue⟩
  · have herror := Response.failure_isError .null .parseError reason
    rw [refused_of_unreadable_iff hunreadable]
    constructor
    · intro hcode
      exact hcode.unique herror
    · rintro rfl
      exact herror
  · obtain ⟨response', hvalue', -, herror, -⟩ := requestEffect_answers service now earlier hid
    obtain rfl := Option.some.inj (hvalue.symm.trans hvalue')
    rw [herror, refused_of_holds_iff hr hid]

theorem response_isSuccess_iff {line : List UInt8} {response : Response}
    (h : (lineEffect service now earlier line).value = some response) :
    response.IsSuccess ↔ ∀ code, ¬response.IsError code := by
  rcases response_cases service now earlier h with ⟨-, reason, rfl⟩ | ⟨r, -, hid, hvalue⟩
  · have herror := Response.failure_isError .null .parseError reason
    exact ⟨fun hs => absurd hs herror.not_isSuccess, fun hnone => absurd herror (hnone _)⟩
  · obtain ⟨response', hvalue', -, herror, hsuccess⟩ :=
      requestEffect_answers service now earlier hid
    obtain rfl := Option.some.inj (hvalue.symm.trans hvalue')
    rw [hsuccess]
    exact forall_congr' fun code => not_congr (herror code).symm

theorem response_id {line : List UInt8} {response : Response}
    (h : (lineEffect service now earlier line).value = some response) :
    (∀ r, Holds line r → response.id = r.id) ∧ ((∀ r, ¬Holds line r) → response.id = .null) := by
  rcases response_cases service now earlier h with ⟨hunreadable, reason, rfl⟩ | ⟨r, hr, hid, hvalue⟩
  · exact ⟨fun r hr => absurd hunreadable hr.not_unreadable, fun _ => rfl⟩
  · obtain ⟨response', hvalue', hown, -⟩ := requestEffect_answers service now earlier hid
    obtain rfl := Option.some.inj (hvalue.symm.trans hvalue')
    refine ⟨fun r' hr' => ?_, fun hnone => absurd hr (hnone r)⟩
    rw [hr'.unique hr, hown]

end Server

theorem Response.one_of_both {response : Response}
    (h : response.IsSuccess ↔ ∀ code, ¬response.IsError code) :
    (response.message.get? "result").isSome = !(response.message.get? "error").isSome := by
  by_cases hs : response.IsSuccess
  · obtain ⟨herror, result, hresult⟩ := hs
    rw [herror, hresult]
    rfl
  · obtain ⟨code, hcode⟩ := not_forall_not.mp fun hnone => hs (h.mpr hnone)
    obtain ⟨hresult, report, herror, -⟩ := hcode
    rw [herror, hresult]
    rfl

/-- **When a line is answered, and when by an error.** There is no response exactly for blank lines
and notifications. Every other line gets one, with the identifier of its request or `null`, and with
either a result or an error. It is an error of a code exactly when the line is refused with that
code, and a success exactly when the line is not refused. -/
theorem answered_or_refused (service : Service) (now : Calendar.Moment) (line : List UInt8)
    (stats : Stats) (j : Journal) :
    ((Server.handleBytes service now line).value stats j = none ↔
      IsBlank line ∨ ∃ r, Holds line r ∧ r.id = .null) ∧
    ∀ response, (Server.handleBytes service now line).value stats j = some response →
      (response.message.get? "result").isSome = !(response.message.get? "error").isSome ∧
      (∀ code, response.IsError code ↔ Refused service.engine j.statements line code) ∧
      (response.IsSuccess ↔ ∀ code, ¬Refused service.engine j.statements line code) ∧
      (∀ r, Holds line r → response.message.get? "id" = some r.id) ∧
      ((∀ r, ¬Holds line r) → response.message.get? "id" = some .null) := by
  rw [(Server.handleBytes_has service now j.statements line).value_eq stats]
  refine ⟨Server.no_response_iff service now j.statements, fun response h => ?_⟩
  have herror := Server.response_isError_iff service now j.statements h
  have hsuccess := Server.response_isSuccess_iff service now j.statements h
  obtain ⟨hid, hnull⟩ := Server.response_id service now j.statements h
  refine ⟨Response.one_of_both hsuccess, herror, ?_, ?_, ?_⟩
  · rw [hsuccess]
    exact forall_congr' fun code => not_congr (herror code)
  · intro r hr
    rw [Response.message_id, hid r hr]
  · intro hnone
    rw [Response.message_id, hnull hnone]

end GraphGateway.Protocol
