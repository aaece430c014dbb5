/-
Messages on the wire.

What holds texts and truth values only is read back whatever it says. An identifier, parameters, a
result, additional data and the schema of a tool's arguments are values of any kind; what is read as
such is read back as long as its numbers are integers, because the members of its objects are sorted
when it is read.
-/
import GraphGateway.Proofs.Json.Settled
import GraphGateway.Protocol.Message
import GraphGateway.Protocol.Tool

namespace GraphGateway.Protocol

open Json Json.Codec

variable {levels : Nat}

/-! ## Tools and prompts -/

theorem contentFields_readsBack (type text : String) :
    contentFields.ReadsBack levels (type, text, ()) :=
  ⟨text_readsBack type, text_readsBack text, trivial⟩

theorem ToolResult.readsBack (r : ToolResult) : codec.ReadsBack (levels + 3) r := by
  have hcontent (c : Content) : ToolContent.codec.ReadsBack (levels + 1) c :=
    record_readsBack (contentFields_readsBack c.type c.text) (by decide) rfl
  refine record_readsBack ⟨?_, flag_readsBack _, trivial⟩ (by decide) rfl
  exact list_readsBack (fun c _ => hcontent c) fun _ _ => rfl

theorem PromptDefinition.readsBack (d : PromptDefinition) : codec.ReadsBack (levels + 3) d := by
  have hargument (a : Argument) : PromptArgument.codec.ReadsBack (levels + 1) a :=
    record_readsBack ⟨text_readsBack _, text_readsBack _, flag_readsBack _, trivial⟩ (by decide) rfl
  refine record_readsBack ⟨text_readsBack _, text_readsBack _, ?_, trivial⟩ (by decide) rfl
  exact list_readsBack (fun a _ => hargument a) fun _ _ => rfl

theorem PromptResult.readsBack (r : PromptResult) : codec.ReadsBack (levels + 4) r := by
  have hcontent (c : Content) : PromptContent.codec.ReadsBack (levels + 1) c :=
    record_readsBack (contentFields_readsBack c.type c.text) (by decide) rfl
  have hmessage (m : PromptMessage) : PromptMessage.codec.ReadsBack (levels + 2) m :=
    record_readsBack ⟨text_readsBack _, hcontent _, trivial⟩ (by decide) rfl
  refine record_readsBack ⟨text_readsBack _, ?_, trivial⟩ (by decide) rfl
  exact list_readsBack (fun m _ => hmessage m) fun _ _ => rfl

/-- The schema of a tool's arguments is a value of any kind. -/
theorem ToolDefinition.settles : codec.Settles (levels + 1) := by
  refine record_settles ⟨.required text_settles, .required text_settles, .required any_settles,
    trivial⟩ (by decide) fun _ => rfl

/-! ## Requests and responses -/

theorem fieldOfObject_settles {α : Type} {c : Codec α} {name : String}
    (h : c.optional.Settles levels) : (fieldOfObject name c).Settles levels where
  codec := h
  omitted value homits := by
    obtain rfl : value = none := Option.isNone_iff_eq_none.mp homits
    exact .inl rfl
  absent value habsence := by
    obtain rfl : none = value := by
      rcases habsence with h | h <;> cases h
      rfl
    exact .inl rfl

theorem Request.settles : codec.Settles (levels + 1) := by
  have hnull : any.ReadsBack levels .null := any_readsBack (by simp [Plain]) rfl
  exact record_settles ⟨.required text_settles, .spared any_settles hnull, .required text_settles,
    .spared optional_any_settles optional_readsBack_none, trivial⟩ (by decide) fun _ => rfl

theorem ErrorReport.settles : codec.Settles (levels + 1) :=
  record_settles ⟨.required int32_settles, .required text_settles,
    fieldOfObject_settles optional_any_settles, trivial⟩ (by decide) fun _ => rfl

theorem Response.settles : codec.Settles (levels + 2) := by
  have herror : ErrorReport.codec.optional.Settles (levels + 1) :=
    optional_settles ErrorReport.settles fun _ => ⟨_, rfl, by decide⟩
  exact record_settles ⟨.required text_settles, .required any_settles,
    fieldOfObject_settles optional_any_settles, fieldOfObject_settles herror, trivial⟩ (by decide)
    fun _ => rfl

end GraphGateway.Protocol
