/-
Results and responses that tell of errors.

A response tells of an error in one of two places: in a member of its own, or in a result that calls
itself an error. Only the results of tools do so, and exactly when the tool failed: no other method
has a result with such a member (`Server.methodEffect_isError`).
-/
import GraphGateway.Proofs.Protocol.Access

namespace GraphGateway.Protocol

/-! ## Results in transport -/

theorem ToolResult.canonical_write (result : ToolResult) :
    (codec.write result).canonical =
      .object [
        ("content", .array (Json.canonicalItems (result.content.map ToolContent.codec.write))),
        ("isError", .bool result.isError)] := by
  have hbehind : ¬"isError" < "content" := by decide
  have hapart : "isError" ≠ "content" := by decide
  show Json.canonical (.object [("content", .array (result.content.map ToolContent.codec.write)),
    ("isError", .bool result.isError)]) = _
  simp only [Json.canonical, Json.canonicalMembers, Json.sortMembers, List.foldl,
    Json.insertMember, hbehind, hapart, if_false]

theorem PromptResult.canonical_write (result : PromptResult) :
    (codec.write result).canonical =
      .object [("description", .string result.description),
        ("messages",
          .array (Json.canonicalItems (result.messages.map PromptMessage.codec.write)))] := by
  have hbehind : ¬"messages" < "description" := by decide
  have hapart : "messages" ≠ "description" := by decide
  show Json.canonical (.object [("description", .string result.description),
    ("messages", .array (result.messages.map PromptMessage.codec.write))]) = _
  simp only [Json.canonical, Json.canonicalMembers, Json.sortMembers, List.foldl,
    Json.insertMember, hbehind, hapart, if_false]

/-! ## Responses -/

namespace Response

/-- A response with a result that calls itself an error. -/
def TellsError (response : Response) : Prop :=
  (response.message.get? "result").bind (Json.get? "isError") = some (.bool true)

/-- A response with an error. -/
def CarriesError (response : Response) : Prop := (response.message.get? "error").isSome = true

instance : DecidablePred TellsError := fun _ =>
  inferInstanceAs (Decidable (_ = some (Json.bool true)))

instance : DecidablePred CarriesError := fun _ => inferInstanceAs (Decidable (_ = true))

theorem success_tellsError_iff {id result : Json} :
    (success id result).TellsError ↔ result.get? "isError" = some (.bool true) := Iff.rfl

theorem success_not_carriesError (id result : Json) : ¬(success id result).CarriesError := by
  intro h
  cases h

theorem failure_carriesError (id : Json) (code : ErrorCode) (text : String) :
    (failure id code text).CarriesError := rfl

theorem failure_not_tellsError (id : Json) (code : ErrorCode) (text : String) :
    ¬(failure id code text).TellsError := by
  intro h
  cases h

end Response

/-- The result of a tool calls itself an error exactly when the tool failed. -/
theorem ToolResult.isError_write (outcome : Except Failure String) :
    (codec.write (.ofOutcome outcome)).canonical.get? "isError" = some (.bool !outcome.toBool) := by
  rw [canonical_write]
  cases outcome <;> rfl

namespace Server

variable {service : Service} {now : Calendar.Moment} {earlier : List String} {params result : Json}

theorem promptEffect_eq_ok {e : Engine} (h : (promptEffect e earlier params).value = .ok result) :
    ∃ given, result = (PromptResult.codec.write given).canonical := by
  unfold promptEffect at h
  split at h
  · cases h
  · split at h
    · cases h
    · next prompt members _ =>
      cases hanswer : prompt.answer e earlier members with
      | error f =>
        rw [hanswer] at h
        cases h
      | ok given =>
        rw [hanswer] at h
        exact ⟨given, (Except.ok.inj h).symm⟩

/-- The results of other methods do not call themselves errors. -/
theorem methodEffect_isError {m : Method} (hm : m ≠ .callTool)
    (h : (methodEffect service now earlier params m).value = .ok result) :
    result.get? "isError" = none := by
  cases m with
  | handshake | ping | listTools | listPrompts =>
    obtain rfl := Except.ok.inj h
    rfl
  | callTool => exact absurd rfl hm
  | getPrompt =>
    obtain ⟨given, rfl⟩ := promptEffect_eq_ok h
    rw [PromptResult.canonical_write]
    rfl

end Server

end GraphGateway.Protocol
