/-
What a client is told of a statement.

If all rows come, the text of the result holds them, and read as it is written it gives each row
back: every column in its place, repeated names included, and every value in its transport form
(`ofText_rowsText`). If the statement is refused or a row fails to come, the result is an error and
its text is the engine's message and the statement; of the rows that came before nothing is told.
Values in transport always have a text, because doubles that are not finite are told in words.
-/
import GraphGateway.Proofs.Engine.Cursors
import GraphGateway.Proofs.Json.Verbatim
import GraphGateway.Proofs.Protocol.Verdict

namespace GraphGateway

open Engine (RawRow)
open Json (HasText HaveText MembersHaveText)

/-! ## What the engine makes of a statement -/

/-- A statement is refused with a message, or a cursor comes and is asked for rows until it gives
none: then all rows came, or a failure did. -/
inductive Engine.Yields (e : Engine) (earlier : List String) (statement : String) :
    Except String (List RawRow) → Prop
  | refused {message : String} : e.answer earlier statement = .error message →
    Yields e earlier statement (.error message)
  | drained {cursor : Cursor} {outcome : Except String (List RawRow)} {calls : Nat} :
    e.answer earlier statement = .ok cursor → Cursor.Drains cursor.pull 0 outcome calls →
    Yields e earlier statement outcome

namespace Engine.Yields

variable {e : Engine} {earlier : List String} {statement : String}

theorem result_ok {rows : List RawRow} (h : e.Yields earlier statement (.ok rows)) :
    e.result earlier statement = .ok (rows.map RawRow.toJson) := by
  cases h with
  | drained hanswer hdrains =>
    obtain ⟨hrows, -⟩ := (Cursor.drains_iff _).mp hdrains
    simp only [result, hanswer, ← hrows]

/-- Rows that came before the failure are dropped. -/
theorem result_error {message : String} (h : e.Yields earlier statement (.error message)) :
    e.result earlier statement = .error (.engine message statement) := by
  cases h with
  | refused hanswer => simp only [result, hanswer]
  | drained hanswer hdrains =>
    obtain ⟨hmessage, -⟩ := (Cursor.drains_iff _).mp hdrains
    simp only [result, hanswer, ← hmessage]

end Engine.Yields

/-! ## The text of rows -/

namespace Engine.Value

mutual

/-- A double that is not finite is text in transport, so every value has a text. -/
theorem hasText : ∀ value : Value, value.toJson.HasText
  | .null | .bool _ | .int32 _ | .uint32 _ | .int64 _ | .uint64 _ | .int128 _ | .string _ => trivial
  | .double x => by
    rw [toJson]
    split
    · next hfinite => exact hfinite
    · trivial
  | .list items => itemsHaveText items
  | .record fields => fieldsHaveText fields

theorem itemsHaveText : ∀ items : List Value, HaveText (itemsToJson items)
  | [] => trivial
  | item :: items => ⟨hasText item, itemsHaveText items⟩

theorem fieldsHaveText : ∀ fields : List (String × Value), MembersHaveText (fieldsToJson fields)
  | [] => trivial
  | (_, value) :: fields => ⟨hasText value, fieldsHaveText fields⟩

end

end Engine.Value

theorem rowsHaveText : ∀ rows : List RawRow,
    HaveText ((rows.map RawRow.toJson).map Json.object)
  | [] => trivial
  | row :: rows => ⟨Engine.Value.fieldsHaveText row, rowsHaveText rows⟩

namespace Json.Verbatim

/-- Rows as they are written: an object for each of them, with its columns in order. -/
def ofRows (rows : List RawRow) : Verbatim :=
  .array (rows.map fun row =>
    .object (row.map fun (column, value) => (column, ofJson value.toJson)))

/-- The text of rows gives the rows back. -/
theorem ofText_rowsText (rows : List RawRow) :
    ofText (rowsText (rows.map RawRow.toJson)) = .ok (ofRows rows) := by
  have hrows : ofJson (.array ((rows.map RawRow.toJson).map Json.object)) = ofRows rows := by
    simp [ofJson, ofRows, RawRow.toJson, Function.comp_def]
  have htext : HasText (.array ((rows.map RawRow.toJson).map Json.object)) := rowsHaveText rows
  rw [rowsText, indented, ofText_write .indented htext, hrows]

end Json.Verbatim

/-! ## Queries -/

namespace Protocol

open Json (Verbatim)

/-- What a client is told of a statement, by a text and by whether it is an error: all rows if all
of them came, and else why they did not, with nothing of those that had come. -/
structure Tells (e : Engine) (earlier : List String) (statement : String) (failed : Bool)
    (text : String) : Prop where
  rows : ∀ rows, e.Yields earlier statement (.ok rows) →
    failed = false ∧ Verbatim.ofText text = .ok (Verbatim.ofRows rows)
  failure : ∀ message, e.Yields earlier statement (.error message) →
    failed = true ∧ text = message ++ " (statement: " ++ statement ++ ")"

/-- The text of an outcome, which may tell a failure. -/
def textOf : Except Failure String → String
  | .ok text => text
  | .error f => f.message

theorem ToolResult.ofOutcome_eq (outcome : Except Failure String) :
    ofOutcome outcome = ⟨[.plain (textOf outcome)], !outcome.toBool⟩ := by
  cases outcome <;> rfl

theorem ToolResult.canonical_write_plain (text : String) (failed : Bool) :
    (codec.write ⟨[.plain text], failed⟩).canonical =
      .object [("content", .array [.object [("text", .string text), ("type", .string "text")]]),
        ("isError", .bool failed)] := by
  have hbefore : "text" < "type" := by decide
  rw [canonical_write]
  show Json.object [("content", .array [Json.canonical (.object [("type", .string "text"),
    ("text", .string text)])]), _] = _
  simp only [Json.canonical, Json.canonicalMembers, Json.sortMembers, List.foldl,
    Json.insertMember, hbefore, if_true]

section Query

variable {service : Service} (now : Calendar.Moment) (earlier : List String) {members : Members}
  {statement : String}

/-- A query runs its statement as it is. -/
theorem Tool.outcome_graphQuery (hs : Supplies members "cypher" statement) :
    Tool.graphQuery.outcome service now earlier members =
      (service.engine.result earlier statement).map rowsText := by
  rw [outcome, validate_graphQuery_iff.mpr ⟨statement, hs⟩, answer, Argument.text_of_supplies hs]
  rfl

theorem tells_graphQuery (hs : Supplies members "cypher" statement) :
    Tells service.engine earlier statement
      (!(Tool.graphQuery.outcome service now earlier members).toBool)
      (textOf (Tool.graphQuery.outcome service now earlier members)) := by
  rw [Tool.outcome_graphQuery now earlier hs]
  constructor
  · intro rows h
    rw [h.result_ok]
    exact ⟨rfl, Verbatim.ofText_rowsText rows⟩
  · intro message h
    rw [h.result_error]
    exact ⟨rfl, rfl⟩

end Query

/-- **A query is told all of its rows, or why there are none.** However the arguments are given to
the tool, and whatever line asks for it. -/
theorem query_told (service : Service) (now : Calendar.Moment) {members : Members}
    {statement : String} (hs : Supplies members "cypher" statement) (j : Journal) :
    ∃ failed text, Tells service.engine j.statements statement failed text ∧
      (∀ given, Argument.membersOf given = .ok members →
        (Tool.call service now "graphQuery" given).result j = .ok ⟨[.plain text], failed⟩) ∧
      ∀ line r stats, Asks line r "tools/call" → Names r.parameters "graphQuery" members →
        ∃ response, (Server.handleBytes service now line).value stats j = some response ∧
          response.message.get? "id" = some r.id ∧
          response.message.get? "result" = some (.object [
            ("content", .array [.object [("text", .string text), ("type", .string "text")]]),
            ("isError", .bool failed)]) := by
  refine ⟨_, _, tells_graphQuery now j.statements hs, ?_, ?_⟩
  · intro given hgiven
    have hresult := Tool.call_result service now .graphQuery hgiven j
    rw [ToolResult.ofOutcome_eq] at hresult
    exact hresult
  · intro line r stats hasks hnames
    have heffect := Server.toolEffect_of_names service now j.statements (t := .graphQuery) hnames
    refine ⟨.success r.id _, ?_, rfl, congrArg some (ToolResult.canonical_write_plain _ _)⟩
    rw [(Server.handleBytes_has service now j.statements line).value_eq stats,
      Server.lineEffect_of_asks service now j.statements (m := .callTool) hasks]
    show some (Server.responseTo r
      (Server.toolEffect service now j.statements r.parameters).value) = _
    rw [heffect, ToolResult.ofOutcome_eq]
    rfl

/-- A row with two columns of one name, a value of which holds quotes, a newline and a wide
integer. -/
def brittleRow : RawRow :=
  [("n", .string "\"\n"), ("n", .list [.record [("id", .int64 (-1))], .uint32 7])]

/-- A database that loses its cursor on one of two statements, behind the first row. -/
def brittle : Service where
  engine := .ofTable [("whole", .ok { rows := [brittleRow, []] }),
    ("torn", .ok { rows := [brittleRow], stop := .failed "gone" })]
  path := ⟨[]⟩
  readOnly := true

/-- The arguments that ask for a statement. -/
def asking (statement : String) : Members := [("cypher", .string statement)]

/-- A request for the statement that loses its cursor, and a line that holds it. -/
def tornRequest : Request where
  jsonrpc := "2.0"
  id := .number (.int 1)
  method := "tools/call"
  params := some (.object [("arguments", .object (asking "torn")), ("name", .string "graphQuery")])

def tornLine : List UInt8 := Text.Utf8.encode
  ("\x7b\"jsonrpc\":\"2.0\",\"id\":1,\"method\":\"tools/call\"," ++
    "\"params\":\x7b\"name\":\"graphQuery\",\"arguments\":\x7b\"cypher\":\"torn\"\x7d\x7d\x7d")

/-- The same row is told, or not. -/
theorem query_told_brittle :
    Supplies (asking "whole") "cypher" "whole" ∧ Supplies (asking "torn") "cypher" "torn" ∧
      (∃ text, (Tool.call brittle ⟨0, 0⟩ "graphQuery" (.object (asking "whole"))).result [] =
          .ok (.success text) ∧
        Verbatim.ofText text = .ok (.array [
          .object [("n", .string "\"\n"),
            ("n", .array [.object [("id", .string "-1")], .integer 7])],
          .object []])) ∧
      (Tool.call brittle ⟨0, 0⟩ "graphQuery" (.object (asking "torn"))).result [] =
        .ok (.failure "gone (statement: torn)") ∧
      Asks tornLine tornRequest "tools/call" ∧
      Names tornRequest.parameters "graphQuery" (asking "torn") ∧
      ∃ response, (Server.handleBytes brittle ⟨0, 0⟩ tornLine).value {} [] = some response ∧
        response.message.get? "result" = some (.object [
          ("content", .array [
            .object [("text", .string "gone (statement: torn)"), ("type", .string "text")]]),
          ("isError", .bool true)]) := by
  have hwhole : Supplies (asking "whole") "cypher" "whole" := ⟨rfl, by decide +kernel⟩
  have htorn : Supplies (asking "torn") "cypher" "torn" := ⟨rfl, by decide +kernel⟩
  have hrows : brittle.engine.Yields [] "whole" (.ok [brittleRow, []]) :=
    .drained rfl (Engine.Cursor.drains _)
  have hgone : brittle.engine.Yields [] "torn" (.error "gone") :=
    .drained rfl (Engine.Cursor.drains _)
  have hasks : Asks tornLine tornRequest "tools/call" :=
    ⟨⟨_, rfl, by decide +kernel⟩, by decide +kernel, rfl⟩
  have hnames : Names tornRequest.parameters "graphQuery" (asking "torn") :=
    ⟨_, rfl, rfl, .given rfl⟩
  refine ⟨hwhole, htorn, ?_, ?_⟩
  · obtain ⟨failed, text, htells, hcall, -⟩ := query_told brittle ⟨0, 0⟩ hwhole []
    obtain ⟨rfl, htext⟩ := htells.rows _ hrows
    exact ⟨text, hcall _ rfl, htext⟩
  · obtain ⟨failed, text, htells, hcall, hline⟩ := query_told brittle ⟨0, 0⟩ htorn []
    obtain ⟨rfl, rfl⟩ := htells.failure _ hgone
    obtain ⟨response, hresponse, -, hresult⟩ := hline _ _ {} hasks hnames
    exact ⟨hcall _ rfl, hasks, hnames, response, hresponse, hresult⟩

end Protocol

end GraphGateway
