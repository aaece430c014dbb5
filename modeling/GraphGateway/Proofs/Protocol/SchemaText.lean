/-
What clients get to see of the schema.

They see it in two places, in the result of a tool and inside a prompt, and in both it is the text
of what the engine's catalog holds. So engines of one schema cannot be told apart there
(`ShowSameSchema.of_reflection`), and whatever the schema does not show, clients do not see.
-/
import GraphGateway.Proofs.Catalog.Rearrangement
import GraphGateway.Proofs.Protocol.Independence
import GraphGateway.Proofs.Protocol.Params

namespace GraphGateway.Protocol

open Catalog
open Engine (RawRow)

/-! ## Engines of one schema -/

/-- Whoever reads the schema, calls the tool for it or gets the prompt that holds it is given the
same by both engines, at any time and after any statements. -/
structure ShowSameSchema (e e' : Engine) : Prop where
  schema : ∀ j j', e.schema.result j = e'.schema.result j'
  tool : ∀ path readOnly now now' arguments j j',
    (Tool.call ⟨e, path, readOnly⟩ now "getSchema" arguments).result j =
      (Tool.call ⟨e', path, readOnly⟩ now' "getSchema" arguments).result j'
  prompt : ∀ path readOnly name arguments j j',
    (Prompt.get ⟨e, path, readOnly⟩ name arguments).result j =
      (Prompt.get ⟨e', path, readOnly⟩ name arguments).result j'

theorem schema_result {e : Engine} (he : e.Forgetful) (j : Journal) :
    e.schema.result j = e.reflection [] := by
  rw [(e.schema_gives j.statements).result_eq, he.reflection_eq]

theorem Tool.outcome_getSchema {service : Service} (he : service.engine.Forgetful)
    (now : Calendar.Moment) (earlier : List String) (members : Members) :
    Tool.getSchema.outcome service now earlier members =
      (service.engine.reflection []).map Schema.text := by
  rw [← he.reflection_eq earlier]
  rfl

theorem ShowSameSchema.of_reflection {e e' : Engine} (he : e.Forgetful) (he' : e'.Forgetful)
    (h : e.reflection [] = e'.reflection []) : ShowSameSchema e e' where
  schema j j' := by rw [schema_result he, schema_result he', h]
  tool path readOnly now now' arguments j j' := by
    rw [(Tool.call_gives ⟨e, path, readOnly⟩ now j.statements "getSchema" arguments).result_eq,
      (Tool.call_gives ⟨e', path, readOnly⟩ now' j'.statements "getSchema" arguments).result_eq]
    cases hr : Tool.requested "getSchema" arguments with
    | error f => rfl
    | ok found =>
      obtain ⟨t, members⟩ := found
      obtain ⟨-, hname, -⟩ := Tool.requested_eq_ok_iff.mp hr
      obtain rfl : t = .getSchema := by
        cases t with
        | getSchema => rfl
        | graphQuery | healthCheck | generateCypher => exact absurd hname (by decide)
      simp only [Except.map]
      rw [Tool.outcome_getSchema he, Tool.outcome_getSchema he']
      simp only [h]
  prompt path readOnly name arguments j j' := by
    rw [(Prompt.get_gives ⟨e, path, readOnly⟩ j.statements name arguments).result_eq,
      (Prompt.get_gives ⟨e', path, readOnly⟩ j'.statements name arguments).result_eq]
    have hanswer (members : Members) (p : Prompt) :
        p.answer e j.statements members = p.answer e' j'.statements members := by
      cases p with
      | generateCypher =>
        unfold Prompt.answer
        rw [he.reflection_eq, he'.reflection_eq, h]
    simp only [hanswer]

/-- **The order in which the catalog is told does not show.** With the rows of the listing in
another order, as long as no two of them name a table of one name and kind, and with the rows of
what a relationship connects in another order or repeated, the schema is the same, and so is every
text that holds it. Tables of one name and kind stand in the order of the listing. -/
theorem schema_of_rearranged {e : Engine} (he : e.Forgetful) :
    (∀ e' : Engine, e'.Forgetful → e.Reanswers showTables List.Perm e' →
      (∀ rows, e.Reads [] showTables rows → NamesApart rows) → ShowSameSchema e e') ∧
    (∀ (e' : Engine) (table : String), e'.Forgetful →
      e.Reanswers (showConnection table) Engine.SameRows e' → ShowSameSchema e e') ∧
    ∀ (j : Journal) (s : Schema), e.schema.result j = .ok s →
      ∃ rows, e.Reads [] showTables rows ∧ InListingOrder e rows .entity s.entityTables ∧
        InListingOrder e rows .relationship s.relationshipTables := by
  refine ⟨fun e' he' h hnames => ?_, fun e' table he' h => ?_, fun j s hs => ?_⟩
  · exact .of_reflection he he' (reflection_eq_of_perm he he' h hnames)
  · exact .of_reflection he he' (reflection_eq_of_sameRows he he' h)
  · rw [schema_result he, reflection_of_forgetful he] at hs
    cases hr : e.result [] showTables with
    | error f =>
      rw [hr] at hs
      cases hs
    | ok rows =>
      rw [hr] at hs
      cases hs
      exact ⟨rows, Engine.result_eq_ok_iff.mp hr, inListingOrder he rows .entity,
        inListingOrder he rows .relationship⟩

/-- A row of a listing. -/
def listingRow (name type comment : String) : RawRow :=
  [("name", .string name), ("type", .string type), ("comment", .string comment)]

/-- A row of what a relationship connects. -/
def pairRow (src dst : String) : RawRow :=
  [("source table name", .string src), ("destination table name", .string dst)]

/-- An engine with a listing, where `READS` connects pairs and no table has columns. -/
def archive (listing pairs : List RawRow) : Engine :=
  .ofTable [
    (showTables, .ok { rows := listing }),
    (tableInfo "Reader", .ok { rows := [] }),
    (tableInfo "READS", .ok { rows := [] }),
    (showConnection "READS", .ok { rows := pairs })]

theorem archive_reads (listing pairs : List RawRow) :
    (archive listing pairs).result [] showTables = .ok (listing.map RawRow.toJson) := by
  simp [archive, Engine.ofTable, Engine.result, Engine.Cursor.drain]

/-- The listing turned round, a pair repeated in another order, and two rows for one
relationship. -/
theorem schema_of_rearranged_archive :
    let reader := listingRow "Reader" "NODE" ""
    let reads := listingRow "READS" "REL" ""
    let lent := listingRow "READS" "rel" "lent"
    let pair := pairRow "Reader" "Book"
    let other := pairRow "Reader" "Atlas"
    let e := archive [reader, reads] [pair, other]
    (∀ listing pairs, (archive listing pairs).Forgetful) ∧
    (e.Reanswers showTables List.Perm (archive [reads, reader] [pair, other]) ∧
      (∀ rows, e.Reads [] showTables rows → NamesApart rows) ∧
      ShowSameSchema e (archive [reads, reader] [pair, other])) ∧
    (e.Reanswers (showConnection "READS") Engine.SameRows
        (archive [reader, reads] [other, pair, other]) ∧
      ShowSameSchema e (archive [reader, reads] [other, pair, other])) ∧
    ∃ s rows, (archive [lent, reads] []).schema.result [] = .ok s ∧
      (archive [lent, reads] []).Reads [] showTables rows ∧
      InListingOrder (archive [lent, reads] []) rows .relationship s.relationshipTables := by
  intro reader reads lent pair other e
  have hforgetful (listing pairs : List RawRow) : (archive listing pairs).Forgetful :=
    Engine.ofTable_forgetful _
  have hlisting : e.Reanswers showTables List.Perm (archive [reads, reader] [pair, other]) := by
    refine ⟨fun s hs => ?_, _, _, rfl, rfl, rfl, List.Perm.swap _ _ _⟩
    have hne : (s == showTables) = false := by simpa using hs
    simp [e, archive, Engine.ofTable, List.lookup_cons, hne]
  have hnames : ∀ rows, e.Reads [] showTables rows → NamesApart rows := by
    intro rows hrows
    rw [← Engine.result_eq_ok_iff, archive_reads] at hrows
    cases hrows
    have hapart : NamesApart
        ([listingRow "Reader" "NODE" "", listingRow "READS" "REL" ""].map RawRow.toJson) := by
      decide +kernel
    exact hapart
  have hpairs : e.Reanswers (showConnection "READS") Engine.SameRows
      (archive [reader, reads] [other, pair, other]) := by
    refine ⟨fun s hs => ?_, _, _, rfl, rfl, rfl, fun row => ?_⟩
    · have hne : (s == showConnection "READS") = false := by simpa using hs
      simp [e, archive, Engine.ofTable, List.lookup_cons, hne]
    · simp only [List.mem_cons, List.not_mem_nil, or_false]
      tauto
  obtain ⟨hperm, hsame, -⟩ := schema_of_rearranged (hforgetful [reader, reads] [pair, other])
  obtain ⟨-, -, horder⟩ := schema_of_rearranged (hforgetful [lent, reads] [])
  refine ⟨hforgetful, ⟨hlisting, hnames, hperm _ (hforgetful _ _) hlisting hnames⟩,
    ⟨hpairs, hsame _ _ (hforgetful _ _) hpairs⟩, ?_⟩
  cases hs : (archive [lent, reads] []).schema.result [] with
  | error f =>
    rw [schema_result (hforgetful _ _), reflection_of_forgetful (hforgetful _ _),
      archive_reads] at hs
    cases hs
  | ok s =>
    obtain ⟨rows, hrows, -, hrelationships⟩ := horder [] s hs
    exact ⟨s, rows, rfl, hrows, hrelationships⟩

end GraphGateway.Protocol
