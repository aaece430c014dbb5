/-
The schema inside a prompt.

Whoever takes what stands between the first opening fence of the prompt and the next closing one has
the text that the tool gives for the schema, and can decode it. The instructions in front hold no
back-tick, and the text of a schema has no newline in front of one, so neither fence comes earlier
than where it was put, whatever the schema's names hold and whatever the question is.
-/
import GraphGateway.Proofs.Catalog.Transport
import GraphGateway.Proofs.Json.Indented
import GraphGateway.Proofs.Protocol.Refusal
import GraphGateway.Proofs.Protocol.SchemaText

namespace GraphGateway

/-! ## First occurrences -/

/-- A text is cut at the first place where a piece occurs. -/
structure FirstCut (piece text before behind : String) : Prop where
  eq : text = before ++ piece ++ behind
  first : ∀ before' behind', text = before' ++ piece ++ behind' → before.length ≤ before'.length

/-- Two ways to cut a text at a piece: the second is not the earlier one, or the piece begins inside
what stands before the first. -/
theorem cut_cases {piece before behind before' behind' : List Char}
    (h : before ++ piece ++ behind = before' ++ piece ++ behind') :
    before.length ≤ before'.length ∨ ∃ c between, before = before' ++ c :: between ∧
      piece ++ behind' = c :: (between ++ (piece ++ behind)) := by
  rw [List.append_assoc, List.append_assoc, List.append_eq_append_iff] at h
  rcases h with ⟨between, rfl, -⟩ | ⟨between, rfl, hpiece⟩
  · exact .inl (by simp)
  · cases between with
    | nil => exact .inl (by simp)
    | cons c between => exact .inr ⟨c, between, rfl, hpiece⟩

namespace FirstCut

variable {piece before : String}

theorem of_lists (h : ∀ {c : Char} {before' between behind behind' : List Char},
      before.toList = before' ++ c :: between →
        piece.toList ++ behind' ≠ c :: (between ++ (piece.toList ++ behind)))
    (behind : String) : FirstCut piece (before ++ piece ++ behind) before behind where
  eq := rfl
  first before' behind' heq := by
    have hlists := congrArg String.toList heq
    simp only [String.toList_append] at hlists
    rcases cut_cases hlists with hle | ⟨c, between, hbefore, hpiece⟩
    · rwa [String.length_toList, String.length_toList] at hle
    · exact absurd hpiece (h hbefore)

/-- A piece is not found in front of its first character. -/
theorem of_not_mem {c : Char} {cs : List Char} (hp : piece.toList = c :: cs)
    (hc : c ∉ before.toList) (behind : String) :
    FirstCut piece (before ++ piece ++ behind) before behind := by
  refine of_lists (fun hbefore hpiece => hc ?_) behind
  rw [hp, List.cons_append] at hpiece
  obtain ⟨rfl, -⟩ := List.cons.inj hpiece
  simp [hbefore]

/-- A newline and a back-tick are not found where no newline is in front of a back-tick. -/
theorem of_isUnfenced {cs : List Char} (hp : piece.toList = '\n' :: '`' :: cs)
    (hu : Json.IsUnfenced before.toList) (behind : String) :
    FirstCut piece (before ++ piece ++ behind) before behind := by
  refine of_lists (fun {c before' between _ _} hbefore hpiece => ?_) behind
  rw [hp, List.cons_append] at hpiece
  obtain ⟨rfl, hpiece⟩ := List.cons.inj hpiece
  cases between with
  | nil => simp at hpiece
  | cons d between =>
    have hnext : '`' = d := (List.cons.inj (List.cons.inj hpiece).2).1
    rw [hbefore, Json.IsUnfenced, List.isChain_append] at hu
    exact (List.isChain_cons_cons.mp hu.2.1).1 rfl hnext.symm

end FirstCut

theorem not_mem_append {c : Char} {s t : String} (hs : c ∉ s.toList) (ht : c ∉ t.toList) :
    c ∉ (s ++ t).toList := by
  rw [String.toList_append, List.mem_append]
  exact fun h => h.elim hs ht

/-- Text that is written out is looked at as a list of characters. -/
theorem not_mem_ofList {c : Char} {cs : List Char} (h : c ∉ cs) :
    c ∉ (String.ofList cs).toList := by
  rwa [String.toList_ofList]

namespace Protocol

open Catalog
open Engine (RawRow)

/-! ## The prompt and the tool -/

/-- A prompt for a question holds a schema: `block` is what stands in `text` between the first
opening fence and the closing fence that comes next, and is what the tool gives. -/
structure HoldsSchema (service : Service) (arguments : Members) (question : String) (s : Schema)
    (text block : String) : Prop where
  schema : ∀ j, service.schema.result j = .ok s
  prompt : ∀ j, (Prompt.get service "generateKuzuCypher" (.object arguments)).result j =
    .ok (.ofUser (Prompt.description .generateCypher) text)
  tool : ∀ now given members j, Argument.membersOf given = .ok members →
    (Tool.call service now "getSchema" given).result j = .ok (.success block)
  /-- Behind the block there is the question, without blanks at its ends, and nothing else. -/
  fenced : ∃ behind, FirstCut Prompt.openingFence text Prompt.instructions behind ∧
    FirstCut Prompt.closingFence behind block ("\n\nQuestion:\n" ++ Text.trim question)
  asked : Text.trim question ≠ ""
  decoded : Schema.codec.decode block = .ok s

namespace Prompt

/-- The instructions are told piece by piece, each of them character by character. -/
theorem instructions_quiet : '`' ∉ instructions.toList := by
  unfold instructions
  repeat' with_reducible apply not_mem_append
  all_goals
    refine not_mem_ofList ?_
    decide +kernel

/-- Neither fence comes earlier than where it is put. -/
theorem firstCut_render (question : String) (s : Schema) :
    ∃ behind, FirstCut openingFence (render question s) instructions behind ∧
      FirstCut closingFence behind s.text ("\n\nQuestion:\n" ++ question) := by
  have hclosing : FirstCut closingFence
      (s.text ++ closingFence ++ ("\n\nQuestion:\n" ++ question)) s.text
      ("\n\nQuestion:\n" ++ question) :=
    .of_isUnfenced rfl (Json.isUnfenced_indented (Schema.codec.write s)) _
  have hopening : FirstCut openingFence (instructions ++ openingFence ++
      (s.text ++ closingFence ++ ("\n\nQuestion:\n" ++ question))) instructions
      (s.text ++ closingFence ++ ("\n\nQuestion:\n" ++ question)) :=
    .of_not_mem rfl instructions_quiet _
  refine ⟨_, ?_, hclosing⟩
  have htext : render question s = instructions ++ openingFence ++
      (s.text ++ closingFence ++ ("\n\nQuestion:\n" ++ question)) := by
    simp only [render, String.append_assoc]
  rw [htext]
  exact hopening

end Prompt

theorem Prompt.get_result {service : Service} (he : service.engine.Forgetful) {s : Schema}
    (hs : service.engine.reflection [] = .ok s) {arguments : Members} {question : String}
    (hq : Supplies arguments "question" question) (j : Journal) :
    (get service "generateKuzuCypher" (.object arguments)).result j =
      .ok (.ofUser (description .generateCypher) (render (Text.trim question) s)) := by
  have hrequested : requested "generateKuzuCypher" (.object arguments) =
      .ok (.generateCypher, arguments) :=
    requested_eq_ok_iff.mpr ⟨by decide +kernel, rfl, rfl, question, hq⟩
  rw [(get_gives service j.statements _ _).result_eq, hrequested]
  show answer service.engine j.statements arguments .generateCypher = _
  rw [answer, he.reflection_eq, hs, hq.1]
  rfl

theorem Tool.getSchema_result {service : Service} (he : service.engine.Forgetful) {s : Schema}
    (hs : service.engine.reflection [] = .ok s) (now : Calendar.Moment) {given : Json}
    {members : Members} (hgiven : Argument.membersOf given = .ok members) (j : Journal) :
    (call service now "getSchema" given).result j = .ok (.success s.text) := by
  have hresult := call_result service now .getSchema hgiven j
  rw [outcome_getSchema he, hs] at hresult
  exact hresult

/-- **The schema in a prompt is the one that the tool gives, and cannot be broken out of.** For an
engine whose answers do not depend on earlier statements and whose listing comes, whatever names and
comments its tables have and whatever fences are in the question. -/
theorem prompt_holds_schema {service : Service} (he : service.engine.Forgetful) {rows : List Row}
    (hrows : service.engine.Reads [] showTables rows) {arguments : Members} {question : String}
    (hq : Supplies arguments "question" question) :
    ∃ s text block, HoldsSchema service arguments question s text block := by
  obtain ⟨s, hs⟩ : ∃ s, service.engine.reflection [] = .ok s := by
    rw [Engine.reflection, Engine.result_eq_ok_iff.mpr hrows]
    exact ⟨_, rfl⟩
  exact ⟨s, _, s.text, {
    schema := fun j => (schema_result he j).trans hs
    prompt := Prompt.get_result he hs hq
    tool := fun now given members j hgiven => Tool.getSchema_result he hs now hgiven j
    fenced := Prompt.firstCut_render (Text.trim question) s
    asked := fun hempty => by
      have hblank := hq.2
      rw [Text.trim_eq_empty_iff.mp hempty] at hblank
      cases hblank
    decoded := s.decode_text }⟩

/-- A name of quotes, newlines and a closing fence. -/
def fencedName : String := "\"\n```\n\""

/-- A table of that name, with an opening fence for a comment and a column called by a back-tick. -/
def fencedService : Service where
  engine := .ofTable [
    (showTables, .ok { rows := [listingRow fencedName "NODE" "```json\n"] }),
    (tableInfo fencedName, .ok { rows := [[("name", .string "`"), ("type", .string "STRING")]] })]
  path := ⟨[]⟩
  readOnly := false

/-- A question that holds both fences. -/
def fencedQuestion : String := " ```json\nWho?\n``` "

theorem prompt_holds_schema_fenced :
    fencedService.engine.Forgetful ∧
      fencedService.engine.Reads [] showTables
        [RawRow.toJson (listingRow fencedName "NODE" "```json\n")] ∧
      Supplies [("question", .string fencedQuestion)] "question" fencedQuestion ∧
      ∃ s text block,
        HoldsSchema fencedService [("question", .string fencedQuestion)] fencedQuestion s text
          block := by
  have he : fencedService.engine.Forgetful := Engine.ofTable_forgetful _
  have hrows : fencedService.engine.Reads [] showTables
      [RawRow.toJson (listingRow fencedName "NODE" "```json\n")] := ⟨_, rfl, rfl, rfl⟩
  have hq : Supplies [("question", .string fencedQuestion)] "question" fencedQuestion :=
    ⟨rfl, by decide +kernel⟩
  exact ⟨he, hrows, hq, prompt_holds_schema he hrows hq⟩

end Protocol

end GraphGateway
