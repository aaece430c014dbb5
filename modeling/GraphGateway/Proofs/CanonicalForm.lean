/-
Decoding and encoding again reach a canonical form.

A text may name the parts of a value in any order, as an array, with others among them or not at all.
Once it has been decoded none of this is left: what the value is encoded as is decoded as the same
value, and that is encoded as the same text (`decoded_is_recovered`). Numbers are to be integers of the
64-bit ranges, since others are rounded when they are read, and the paths of a configuration are to be
texts, since it is not encoded otherwise. Nothing else is asked of the text: one that is decoded holds one
value, as its tokens tell it (`Codec.decode_sound`, `HoldsTree.unique`). A schema is recovered whatever
it holds.
-/
import GraphGateway.Proofs.Catalog.Transport
import GraphGateway.Proofs.Config.Transport
import GraphGateway.Proofs.Protocol.Transport

namespace GraphGateway

open Json Catalog Protocol

/-- **What is decoded is recovered from what it is encoded as.** From every text whose numbers are
integers, written as such, and for every kind of value that is exchanged: a value that is decoded is
encoded as a text that is decoded as that value and encoded as that text again. A configuration is
encoded unless one of its paths is no text; those of one that is decoded are texts, unless the
directory for data is none. Every schema is decoded from its encoding, on one line and on several. -/
theorem decoded_is_recovered {text : String} {tree : Tree} (htext : HoldsTree text tree)
    (hnumbers : tree.Integral) :
    (∀ s, Schema.codec.decode text = .ok s → Schema.codec.Recovers s) ∧
    (∀ t, Table.codec.decode text = .ok t → Table.codec.Recovers t) ∧
    (∀ r, Request.codec.decode text = .ok r → Request.codec.Recovers r) ∧
    (∀ r, Response.codec.decode text = .ok r → Response.codec.Recovers r) ∧
    (∀ d, ToolDefinition.codec.decode text = .ok d → ToolDefinition.codec.Recovers d) ∧
    (∀ r, ToolResult.codec.decode text = .ok r → ToolResult.codec.Recovers r) ∧
    (∀ d, PromptDefinition.codec.decode text = .ok d → PromptDefinition.codec.Recovers d) ∧
    (∀ r, PromptResult.codec.decode text = .ok r → PromptResult.codec.Recovers r) ∧
    (∀ dataDirectory c, Config.decode dataDirectory text = .ok c →
      ((∀ d, dataDirectory = some d → d.IsText) → c.HasTexts) ∧
        (c.HasTexts → c.Recovers dataDirectory) ∧ (c.toJson? = none ↔ ¬c.HasTexts)) ∧
    ∀ s : Schema, Schema.codec.decode (Schema.codec.write s).compact = .ok s ∧
      Schema.codec.decode (Schema.codec.write s).indented = .ok s := by
  have hschema (s : Schema) : Schema.codec.ReadsBack maxNesting s := s.readsBack
  refine ⟨fun s _ => (hschema s).recovers, fun t _ => ?_, fun _ => ?_, fun _ => ?_, fun _ => ?_,
    fun r _ => ?_, fun d _ => ?_, fun r _ => ?_, fun dataDirectory c hc => ⟨fun h => ?_, fun h => ?_, ?_⟩,
    fun s => (hschema s).decode⟩
  · have hback : Table.codec.ReadsBack maxNesting t := t.readsBack
    exact hback.recovers
  · have hsettles : Request.codec.Settles maxNesting := Request.settles
    exact hsettles.recovers htext hnumbers
  · have hsettles : Response.codec.Settles maxNesting := Response.settles
    exact hsettles.recovers htext hnumbers
  · have hsettles : ToolDefinition.codec.Settles maxNesting := ToolDefinition.settles
    exact hsettles.recovers htext hnumbers
  · have hback : ToolResult.codec.ReadsBack maxNesting r := r.readsBack
    exact hback.recovers
  · have hback : PromptDefinition.codec.ReadsBack maxNesting d := d.readsBack
    exact hback.recovers
  · have hback : PromptResult.codec.ReadsBack maxNesting r := r.readsBack
    exact hback.recovers
  · exact Config.hasTexts_of_decode (Config.initial_hasTexts h) hc
  · exact Config.recovers h dataDirectory
  · exact Config.toJson?_eq_none_iff

/-- An object that can be taken for a request, a response, a tool and a configuration. -/
def versatile : Members :=
  [("result", .object [("b", .number (.int 18446744073709551615)), ("a", .null), ("b", .bool true)]),
    ("method", .string "ping"), ("params", .array [.number (.int (-7)), .string "\x00"]),
    ("jsonrpc", .string "2.0"), ("id", .object [("y", .array []), ("x", .string "é\"")]),
    ("name", .string ""), ("description", .string "d"), ("error", .null), ("db_path", .string "a/b"),
    ("inputSchema", .object [("type", .string "object"), ("required", .array [])])]

theorem decoded_is_recovered_versatile :
    let text := (Json.object versatile).indented
    let id := Json.object [("x", .string "é\""), ("y", .array [])]
    let request : Request :=
      ⟨"2.0", id, "ping", some (.array [.number (.int (-7)), .string "\x00"])⟩
    let response : Response := ⟨"2.0", id, some (.object [("a", .null), ("b", .bool true)]), none⟩
    let tool : ToolDefinition :=
      ⟨"", "d", .object [("required", .array []), ("type", .string "object")]⟩
    let config : Config := ⟨.ofString "a/b", false, none, "info"⟩
    (Request.codec.decode text = .ok request ∧ Request.codec.Recovers request) ∧
      (Response.codec.decode text = .ok response ∧ Response.codec.Recovers response) ∧
      (ToolDefinition.codec.decode text = .ok tool ∧ ToolDefinition.codec.Recovers tool) ∧
      Config.decode none text = .ok config ∧ config.Recovers none := by
  intro text id request response tool config
  have hplain : Plain 3 (.object versatile) := by simp [versatile, Plain, InRange]
  have htext : HoldsTree text (Tree.ofJson (.object versatile)) := holdsTree_write .indented hplain
  obtain ⟨-, -, hrequests, hresponses, htools, -, -, -, hconfigs, -⟩ :=
    decoded_is_recovered htext hplain.integral
  -- The characters of the text are told without going through its bytes.
  have hlist : text.toList = write .indented 0 (.object versatile) := String.toList_ofList
  have hrequest : Request.codec.decode text = .ok request := by
    rw [Codec.decode, readWhole, hlist]
    decide +kernel
  have hresponse : Response.codec.decode text = .ok response := by
    rw [Codec.decode, readWhole, hlist]
    decide +kernel
  have htool : ToolDefinition.codec.decode text = .ok tool := by
    rw [Codec.decode, readWhole, hlist]
    decide +kernel
  have hconfig : Config.decode none text = .ok config := by
    rw [Config.decode, Codec.decode, readWhole, hlist]
    decide +kernel
  obtain ⟨htexts, hrecovers, -⟩ := hconfigs none config hconfig
  have hdirectory (d : Files.Path) (hd : none = some d) : d.IsText := by cases hd
  exact ⟨⟨hrequest, hrequests request hrequest⟩, ⟨hresponse, hresponses response hresponse⟩,
    ⟨htool, htools tool htool⟩, hconfig, hrecovers (htexts hdirectory)⟩

end GraphGateway
