/-
Which lines are acted on.

A line that makes the engine execute something, or is answered by a result, holds a request with an
identifier, and a request has one of two forms: an object with one member `jsonrpc` and one member
`method`, both of them strings, or an array that begins with a string, the identifier and a string
(`Envelope`). What the string under `jsonrpc` is does not matter: a request is handled alike whatever
version it tells (`requestEffect_version`).
-/
import GraphGateway.Proofs.Json.Record
import GraphGateway.Proofs.Protocol.Access

namespace GraphGateway.Protocol

open Json

/-! ## Requests by their texts -/

/-- Among the members of an object there is one of a name, and it is a string. -/
def OneText (entries : List (String × Tree)) (name s : String) : Prop :=
  ∃ tree, valuesOf name entries = [tree] ∧ IsText tree s

/-- An object that tells a version and a method. -/
def ObjectEnvelope (tree : Tree) (version method : String) : Prop :=
  ∃ members entries, tree = .object members ∧ Named members entries ∧
    OneText entries "jsonrpc" version ∧ OneText entries "method" method

/-- An array that tells a version and a method, by their places. -/
def ArrayEnvelope (tree : Tree) (version method : String) : Prop :=
  ∃ first id third others, tree = .array (first :: id :: third :: others) ∧ others.length ≤ 1 ∧
    IsText first version ∧ IsText third method

def Envelope (tree : Tree) (version method : String) : Prop :=
  ObjectEnvelope tree version method ∨ ArrayEnvelope tree version method

/-- An envelope with an identifier that is not `null`. -/
inductive Identified : Tree → Prop where
  | object {members : List (List Char × Tree)} {entries : List (String × Tree)} {id : Tree}
    (hnamed : Named members entries) (h : valuesOf "id" entries = [id]) (hid : id ≠ .null) :
    Identified (.object members)
  | array {first id : Tree} {others : List Tree} (hid : id ≠ .null) :
    Identified (.array (first :: id :: others))

theorem any_nullAlike (levels : Nat) : TakesValues (Codec.any.read levels) NullAlike :=
  (Codec.any_takesValues levels).mono fun _ _ h => h.nullAlike

theorem request_takesValues (levels : Nat) : TakesValues (Request.codec.read levels) fun tree r =>
    Envelope tree r.jsonrpc r.method ∧ (r.id ≠ .null → Identified tree) := by
  intro input r rest h
  obtain ⟨value, tree, hgap, hvalue, b, rfl, hb⟩ :=
    Codec.record_takesValues (by exact ⟨IsText, NullAlike, IsText, Codec.OptionalOf NullAlike, ()⟩)
      (by decide) (by exact fun _ _ => ⟨Codec.text_takesValues _, any_nullAlike _,
        Codec.text_takesValues _, Codec.optional_takesValues (any_nullAlike _), trivial⟩)
      input r rest h
  refine ⟨value, tree, hgap, hvalue, ?_⟩
  cases hb with
  | object hnamed hgives =>
    have hversion := Fields.Gives.of_refused hgives rfl
    have hmethod := Fields.Gives.of_refused hgives.2.2 rfl
    refine ⟨.inl ⟨_, _, rfl, hnamed, hversion, hmethod⟩, fun hnull => ?_⟩
    obtain ⟨-, hid, -⟩ := hgives
    rcases hid with ⟨id, hvalues, halike⟩ | ⟨-, habsent⟩
    · exact .object hnamed hvalues fun hid => hnull (halike.mp hid)
    · rcases habsent with h | h
      · cases h
      · exact absurd (Absence.anywhere.inj h).symm hnull
  | @array items _ hgives =>
    match items, hgives with
    | [], ⟨habsent, _⟩ => cases habsent
    | [_], ⟨_, _, habsent, _⟩ => cases habsent
    | [_, _], ⟨_, _, habsent, _⟩ => cases habsent
    | first :: id :: third :: others, ⟨hversion, halike, hmethod, hothers⟩ =>
      have hlength : others.length ≤ 1 := by
        match others, hothers with
        | [], _ => exact Nat.zero_le 1
        | [_], _ => exact Nat.le_refl 1
        | _ :: _ :: _, ⟨_, hmore⟩ => cases hmore
      exact ⟨.inr ⟨first, id, third, others, rfl, hlength, hversion, hmethod⟩,
        fun hnull => .array fun hid => hnull (halike.mp hid)⟩

/-! ## Lines -/

/-- A line holds a value, blanks at both ends apart. -/
def HoldsValue (line : List UInt8) (tree : Tree) : Prop :=
  ∃ text, Text.Utf8.encode text = line ∧ HoldsTree (Text.trim text) tree

theorem Holds.envelope {line : List UInt8} {r : Request} (h : Holds line r) :
    ∃ tree, HoldsValue line tree ∧ Envelope tree r.jsonrpc r.method ∧
      (r.id ≠ .null → Identified tree) := by
  obtain ⟨text, htext, hr⟩ := h
  obtain ⟨tree, htree, hsound⟩ := Codec.decode_sound (request_takesValues _) hr
  exact ⟨tree, ⟨text, htext, htree⟩, hsound⟩

theorem Reaches.asks {e : Engine} {earlier statements : List String} {line : List UInt8}
    (h : Reaches e earlier line statements) : ∃ r, Holds line r ∧ r.id ≠ .null := by
  cases h with
  | query h | health h | schema h | prompt h => exact ⟨_, h.1, h.2.1⟩

/-- The version that a request tells does not matter. -/
theorem requestEffect_version (service : Service) (now : Calendar.Moment) (earlier : List String)
    (r : Request) (version : String) :
    Server.requestEffect service now earlier { r with jsonrpc := version } =
      Server.requestEffect service now earlier r := rfl

/-- A line is acted on: it makes the engine execute something, or is answered by a result. -/
def ActedOn (service : Service) (now : Calendar.Moment) (line : List UInt8) (stats : Stats)
    (j : Journal) : Prop :=
  ((Server.handleBytes service now line).journal stats j).statements ≠ j.statements ∨
    ∃ response result, (Server.handleBytes service now line).value stats j = some response ∧
      response.message.get? "result" = some result

section Lines

variable {service : Service} {now : Calendar.Moment} {line : List UInt8} {stats : Stats}
  {j : Journal}

theorem ActedOn.asks (h : ActedOn service now line stats j) :
    ∃ r, Holds line r ∧ r.id ≠ .null := by
  have heffect := Server.handleBytes_has service now j.statements line
  rcases h with hstatements | ⟨response, result, hvalue, hresult⟩
  · rw [heffect.statements_eq stats] at hstatements
    rcases Server.nothing_or_reaches service now j.statements line with hnone | hreaches
    · rw [hnone, List.append_nil] at hstatements
      exact absurd rfl hstatements
    · exact hreaches.asks
  · rw [heffect.value_eq stats] at hvalue
    rcases Server.response_cases service now j.statements hvalue with
      ⟨-, reason, rfl⟩ | ⟨r, hr, hid, -⟩
    · cases hresult
    · exact ⟨r, hr, hid⟩

/-- A line without an envelope is blank, or is told to be no request. -/
theorem rejected_of_no_envelope
    (h : ∀ tree version method, HoldsValue line tree → ¬Envelope tree version method) :
    ((Server.handleBytes service now line).journal stats j).statements = j.statements ∧
      (IsBlank line ∧ (Server.handleBytes service now line).value stats j = none ∨
        ∃ response, (Server.handleBytes service now line).value stats j = some response ∧
          response.IsError (-32700)) := by
  have hnone (r : Request) (hr : Holds line r) : False := by
    obtain ⟨tree, htree, henvelope, -⟩ := hr.envelope
    exact h tree _ _ htree henvelope
  have heffect := Server.handleBytes_has service now j.statements line
  rw [heffect.statements_eq stats, heffect.value_eq stats]
  rcases line_cases line with hblank | ⟨r, hr⟩ | hunreadable
  · rw [Server.lineEffect_of_isBlank service now j.statements hblank]
    exact ⟨List.append_nil _, .inl ⟨hblank, rfl⟩⟩
  · exact (hnone r hr).elim
  · obtain ⟨reason, hreason⟩ :=
      Server.lineEffect_of_unreadable service now j.statements hunreadable
    rw [hreason]
    exact ⟨List.append_nil _, .inr ⟨_, rfl, Response.failure_isError .null .parseError reason⟩⟩

theorem refused_of_not_actedOn (h : ¬ActedOn service now line stats j) :
    ((Server.handleBytes service now line).journal stats j).statements = j.statements ∧
      ∀ response, (Server.handleBytes service now line).value stats j = some response →
        ∃ code, response.IsError code := by
  rw [ActedOn, not_or, not_not] at h
  refine ⟨h.1, fun response hvalue => ?_⟩
  have heffect := hvalue
  rw [(Server.handleBytes_has service now j.statements line).value_eq stats] at heffect
  have hsuccess := Server.response_isSuccess_iff service now j.statements heffect
  by_contra hnone
  obtain ⟨-, result, hresult⟩ := hsuccess.mpr (not_exists.mp hnone)
  exact h.2 ⟨response, result, hvalue, hresult⟩

end Lines

/-- **Only envelopes are acted on, whatever version they tell.** A line that makes the engine execute
something or is answered by a result holds an object that tells a version and a method, or an array
that does, and an identifier. A line that is not acted on leaves the engine alone and is answered by
an error or not at all; without an envelope it is blank or told to be no request. Requests that
differ in the version only are handled alike. -/
theorem acted_on_envelopes (service : Service) (now : Calendar.Moment) (line : List UInt8)
    (stats : Stats) (j : Journal) :
    (ActedOn service now line stats j →
      ∃ tree version method, HoldsValue line tree ∧ Envelope tree version method ∧
        Identified tree) ∧
    (¬ActedOn service now line stats j →
      ((Server.handleBytes service now line).journal stats j).statements = j.statements ∧
        ∀ response, (Server.handleBytes service now line).value stats j = some response →
          ∃ code, response.IsError code) ∧
    ((∀ tree version method, HoldsValue line tree → ¬Envelope tree version method) →
      ((Server.handleBytes service now line).journal stats j).statements = j.statements ∧
        (IsBlank line ∧ (Server.handleBytes service now line).value stats j = none ∨
          ∃ response, (Server.handleBytes service now line).value stats j = some response ∧
            response.IsError (-32700))) ∧
    ∀ line' r version, Holds line r → Holds line' { r with jsonrpc := version } →
      (Server.handleBytes service now line').value stats j =
        (Server.handleBytes service now line).value stats j ∧
      ((Server.handleBytes service now line').journal stats j).statements =
        ((Server.handleBytes service now line).journal stats j).statements := by
  refine ⟨fun h => ?_, refused_of_not_actedOn, rejected_of_no_envelope,
    fun line' r version hr hr' => ?_⟩
  · obtain ⟨r, hr, hid⟩ := h.asks
    obtain ⟨tree, htree, henvelope, hidentified⟩ := hr.envelope
    exact ⟨tree, _, _, htree, henvelope, hidentified hid⟩
  · have heffect := Server.handleBytes_has service now j.statements line
    have heffect' := Server.handleBytes_has service now j.statements line'
    have hsame : Server.lineEffect service now j.statements line' =
        Server.lineEffect service now j.statements line := by
      rw [Server.lineEffect_of_holds service now j.statements hr',
        Server.lineEffect_of_holds service now j.statements hr, requestEffect_version]
    rw [heffect'.value_eq stats, heffect.value_eq stats, heffect'.statements_eq stats,
      heffect.statements_eq stats, hsame]
    exact ⟨rfl, rfl⟩

/-! ## Other versions, other forms -/

/-- Of the version that an object tells, the first character stands in its text, or an escape does. -/
theorem ObjectEnvelope.head_mem {text version method : String} {tree : Tree} {c : Char}
    {cs : List Char} (h : ObjectEnvelope tree version method) (htext : HoldsTree text tree)
    (hversion : version.toList = c :: cs) : c ∈ text.toList ∨ '\\' ∈ text.toList := by
  obtain ⟨members, entries, rfl, hnamed, ⟨tree, hvalues, body, rfl, hspells⟩, -⟩ := h
  obtain ⟨value, behind, hgap, hvalue, -⟩ := htext
  have hentry : ("jsonrpc", Tree.string body) ∈ entries :=
    mem_of_mem_valuesOf (hvalues ▸ List.mem_singleton_self _)
  obtain ⟨name, hmember⟩ := hnamed.exists_member hentry
  have hbody : body ⊆ text.toList := by
    cases hvalue with
    | object hmembers =>
      exact List.Subset.trans
        (List.Subset.trans (hmembers.string_subset hmember) (List.subset_cons_self _ _)) hgap.subset
  rw [hversion] at hspells
  exact hspells.head_mem.imp (@hbody _) (@hbody _)

/-- A text that begins with a square bracket is no object. -/
theorem not_objectEnvelope_of_bracket {text version method : String} {tree : Tree}
    (hhead : text.toList.head? = some '[') (h : HoldsTree text tree) :
    ¬ObjectEnvelope tree version method := by
  rintro ⟨members, entries, rfl, -⟩
  obtain ⟨cs, htext⟩ := List.head?_eq_some_iff.mp hhead
  obtain ⟨value, behind, hgap, hvalue, -⟩ := h
  obtain ⟨inner, rfl⟩ : ∃ inner, value = '\x7b' :: inner := by
    cases hvalue with
    | object => exact ⟨_, rfl⟩
  rw [htext] at hgap
  cases hgap.eq_of_head rfl

/-- A call of the health check, telling a version. -/
def checkTelling (version : String) : Request where
  jsonrpc := version
  id := .number (.int 1)
  method := "tools/call"
  params := some (.object [("name", .string "healthCheck")])

theorem executed_of_checkTelling (service : Service) (now : Calendar.Moment) {line : List UInt8}
    {version : String} (h : Holds line (checkTelling version)) :
    ((Server.handleBytes service now line).journal {} []).statements = [Catalog.showTables] := by
  have hreaches : Reaches service.engine [] line [Catalog.showTables] :=
    .health ⟨h, nofun, rfl⟩ ⟨_, rfl, rfl, .absent rfl⟩
  have heffect := Server.handleBytes_has service now [] line
  rw [heffect.statements_eq {} (j := []), Server.statements_of_reaches service now [] hreaches]
  rfl

/-- The call in an object that tells another version. -/
def otherVersion : String :=
  "\x7b\"jsonrpc\":\"1.0\",\"id\":1,\"method\":\"tools/call\"," ++
    "\"params\":\x7b\"name\":\"healthCheck\"\x7d\x7d"

/-- The call in an array. -/
def otherForm : String := "[\"2.0\",1,\"tools/call\",\x7b\"name\":\"healthCheck\"\x7d]"

/-- Both are acted on: the listing is executed. Neither is an object that tells version 2.0. -/
theorem acted_on_other :
    let service : Service := ⟨.ofTable [], ⟨[0x64]⟩, false⟩
    let executed (line : String) :=
      ((Server.handleBytes service ⟨0, 0⟩ (Text.Utf8.encode line)).journal {} []).statements
    (executed otherVersion = [Catalog.showTables] ∧
      ¬∃ tree method, HoldsValue (Text.Utf8.encode otherVersion) tree ∧
        ObjectEnvelope tree "2.0" method) ∧
    executed otherForm = [Catalog.showTables] ∧
      ¬∃ tree version method, HoldsValue (Text.Utf8.encode otherForm) tree ∧
        ObjectEnvelope tree version method := by
  have hversion : Holds (Text.Utf8.encode otherVersion) (checkTelling "1.0") := by
    refine ⟨_, rfl, ?_⟩
    rw [Codec.decode, readWhole, Text.trim, String.toList_ofList]
    decide +kernel
  have hform : Holds (Text.Utf8.encode otherForm) (checkTelling "2.0") := by
    refine ⟨_, rfl, ?_⟩
    rw [Codec.decode, readWhole, Text.trim, String.toList_ofList]
    decide +kernel
  refine ⟨⟨executed_of_checkTelling _ _ hversion, ?_⟩, executed_of_checkTelling _ _ hform, ?_⟩
  · rintro ⟨tree, method, ⟨text, htext, htree⟩, henvelope⟩
    obtain rfl := Text.Utf8.encode_injective htext
    have hmem := henvelope.head_mem htree rfl
    have hnone : (otherVersion.toList.contains '2' || otherVersion.toList.contains '\\') = false := by
      decide +kernel
    simp only [Bool.or_eq_false_iff, List.contains_eq_mem, decide_eq_false_iff_not] at hnone
    rw [Text.trim, String.toList_ofList] at hmem
    rcases hmem with h | h
    · exact hnone.1 (Text.mem_of_mem_trimChars h)
    · exact hnone.2 (Text.mem_of_mem_trimChars h)
  · rintro ⟨tree, version, method, ⟨text, htext, htree⟩, henvelope⟩
    obtain rfl := Text.Utf8.encode_injective htext
    refine not_objectEnvelope_of_bracket ?_ htree henvelope
    rw [Text.trim, String.toList_ofList]
    decide +kernel

end GraphGateway.Protocol
