/-
Health, schema and seeding see the same catalog.

All three ask for the listing of the tables, each in its own way: a health check counts the rows, the
schema describes the tables that they name, and the seeding step looks whether there are any. So
what they find (`findings`) is decided by the listing alone, at any time and after whatever
statements, as long as the engine's answers do not depend on those: all of them succeed
(`findings_of_reads`) or none does (`findings_of_fails`). A failure is told in three ways: a health
check gives the engine's message alone, the schema is a failure with the statement, and the seeding
step has a problem of its own for it.
-/
import GraphGateway.Proofs.Protocol.SchemaText
import GraphGateway.Proofs.Startup.Scripted

namespace GraphGateway

namespace Engine.Forgetful

variable {e : Engine} (he : e.Forgetful) {earlier : List String} {statement : String}
include he

theorem reads_iff {rows : List Row} :
    e.Reads earlier statement rows ↔ e.Reads [] statement rows := by
  rw [Reads, Reads, he earlier]

theorem fails_iff {message : String} :
    e.Fails earlier statement message ↔ e.Fails [] statement message := by
  rw [Fails, Fails, he earlier]

end Engine.Forgetful

namespace Catalog

open Startup (Machine Outcome Problem Seeds)

/-! ## Counting -/

/-- Each table is of one of the kinds. -/
theorem Schema.tableCount_ofTables (tables : List Table) :
    (ofTables tables).tableCount = tables.length := by
  simp only [ofTables, sort, tableCount, List.length_mergeSort]
  induction tables with
  | nil => rfl
  | cons table tables ih => cases h : table.kind <;> simp [h] <;> omega

/-! ## What is seen -/

/-- What a health check, the schema and the seeding step find. -/
structure Findings where
  health : Health
  schema : Except Failure Schema
  seeded : Except Problem Outcome

/-- What they find at some time, each after statements of its own. -/
def findings (service : Service) (now : Calendar.Moment) (c : Config) (t : Files.Tree)
    (j j' j'' : Journal) : Findings where
  health := ((service.health now).run j).1
  schema := service.schema.result j'
  seeded := ((Machine.seed ⟨c, .seeding service⟩ t).run j'').1.1

namespace Findings

/-- Found if the listing gives rows. -/
structure OfRows (rows : List Row) (f : Findings) : Prop where
  status : f.health.status = .healthy
  error : f.health.error = none
  count : f.health.tablesCount = rows.length
  schema : ∃ s, f.schema = .ok s ∧ s.tableCount ≤ rows.length
  probed : ∀ failure, f.seeded ≠ .error (.catalog failure)
  skipped : f.seeded = .ok .notEmpty ↔ rows ≠ []

/-- Found if it fails. -/
structure OfFailure (message : String) (f : Findings) : Prop where
  status : f.health.status = .unhealthy
  error : f.health.error = some message
  count : f.health.tablesCount = 0
  schema : f.schema = .error (.engine message showTables)
  probed : f.seeded = .error (.catalog (.engine message showTables))

end Findings

theorem exists_seeds_seed (c : Config) (service : Service) (t : Files.Tree) (j : Journal) :
    ∃ executed, Seeds c service.engine t j.statements
      ((Machine.seed ⟨c, .seeding service⟩ t).run j).1.1 executed := by
  obtain ⟨result, executed, h⟩ := Startup.exists_seeds c service.engine t j.statements
  obtain ⟨k, hk, -⟩ := h.seed_gives j rfl
  rw [hk]
  exact ⟨executed, h⟩

/-- A seeding that can list the tables does not fail by that, and sees whether there are any. -/
theorem seeds_of_reads {c : Config} {e : Engine} {t : Files.Tree} {earlier executed : List String}
    {result : Except Problem Outcome} {rows : List Row} (mode : c.readOnly = false)
    (hrows : e.Reads earlier showTables rows) (h : Seeds c e t earlier result executed) :
    (∀ failure, result ≠ .error (.catalog failure)) ∧ (result = .ok .notEmpty ↔ rows ≠ []) := by
  have hresult := Engine.result_eq_ok_iff.mpr hrows
  cases h with
  | readOnly readOnly => exact absurd readOnly (by simp [mode])
  | unlisted _ fails => cases hresult.symm.trans (Engine.result_eq_error_iff.mpr ⟨_, fails, rfl⟩)
  | notEmpty _ listing | noScript _ listing | unread _ listing | broken _ listing
  | seeded _ listing =>
    obtain rfl := Except.ok.inj (hresult.symm.trans (Engine.result_eq_ok_iff.mpr listing))
    simp

section Forgetful

variable {service : Service} (he : service.engine.Forgetful)
include he

theorem health_of_forgetful (now : Calendar.Moment) (j : Journal) :
    ((service.health now).run j).1 =
      .ofListing service.path.display service.readOnly now
        (service.engine.result [] showTables) := by
  obtain ⟨k, hk, -⟩ := Health.check_gives service.engine service.path.display service.readOnly now
    j.statements j rfl
  rw [Service.health, hk, he.result_eq]

theorem schema_of_forgetful (j : Journal) :
    service.schema.result j = (service.engine.result [] showTables).map fun rows =>
      .ofTables (rows.filterMap (tableFrom? service.engine)) := by
  rw [Service.schema, Protocol.schema_result he, reflection_of_forgetful he]

variable {c : Config} (mode : c.readOnly = false) (now : Calendar.Moment) (t : Files.Tree)
  (j j' j'' : Journal)
include mode

theorem findings_of_reads {rows : List Row} (h : service.engine.Reads [] showTables rows) :
    (findings service now c t j j' j'').OfRows rows := by
  have hresult := Engine.result_eq_ok_iff.mpr h
  have hhealth := health_of_forgetful he now j
  have hschema := schema_of_forgetful he j'
  rw [hresult] at hhealth hschema
  obtain ⟨executed, hseeds⟩ := exists_seeds_seed c service t j''
  obtain ⟨hprobed, hskipped⟩ := seeds_of_reads mode (he.reads_iff.mpr h) hseeds
  refine ⟨?_, ?_, ?_, ⟨_, hschema, ?_⟩, hprobed, hskipped⟩
  · exact congrArg Health.status hhealth
  · exact congrArg Health.error hhealth
  · exact congrArg Health.tablesCount hhealth
  · rw [Schema.tableCount_ofTables]
    exact List.length_filterMap_le _ _

theorem findings_of_fails {message : String} (h : service.engine.Fails [] showTables message) :
    (findings service now c t j j' j'').OfFailure message := by
  have hresult := Engine.result_eq_error_iff.mpr ⟨_, h, rfl⟩
  have hhealth := health_of_forgetful he now j
  have hschema := schema_of_forgetful he j'
  rw [hresult] at hhealth hschema
  have hseeds : Seeds c service.engine t j''.statements _ _ := .unlisted mode (he.fails_iff.mpr h)
  obtain ⟨k, hk, -⟩ := hseeds.seed_gives j'' rfl
  refine ⟨?_, ?_, ?_, hschema, ?_⟩
  · exact congrArg Health.status hhealth
  · exact congrArg Health.error hhealth
  · exact congrArg Health.tablesCount hhealth
  · rw [findings, hk]

end Forgetful

/-! ## Clients -/

section Tools

variable {service : Service} (he : service.engine.Forgetful) (now : Calendar.Moment) {given : Json}
  {members : Members} (hgiven : Protocol.Argument.membersOf given = .ok members) (j j' : Journal)
include he hgiven

theorem healthCheck_tells :
    (Protocol.Tool.call service now "healthCheck" given).result j =
      .ok (.success ((service.health now).run j').1.text) := by
  have hresult := Protocol.Tool.call_result service now .healthCheck hgiven j
  rw [health_of_forgetful he, ← he.result_eq j.statements]
  exact hresult

theorem getSchema_tells_failure {message : String}
    (h : service.engine.Fails [] showTables message) :
    (Protocol.Tool.call service now "getSchema" given).result j =
      .ok (.failure (message ++ " (statement: " ++ showTables ++ ")")) := by
  have hresult := Protocol.Tool.call_result service now .getSchema hgiven j
  rw [Protocol.Tool.outcome_getSchema he, reflection_of_forgetful he,
    Engine.result_eq_error_iff.mpr ⟨_, h, rfl⟩] at hresult
  exact hresult

end Tools

/-- **Health, schema and seeding see the same catalog.** At any time and each after any statements, a
health check finds the database healthy exactly if the schema can be read, and exactly if the seeding
step can list the tables. It counts the rows of the listing, at least as many as there are tables in
the schema, and seeding is skipped if there are any. If it finds the database unhealthy, it tells the
engine's message, and the tool for the schema tells it with the statement. There is always a record,
and clients that ask for it get it. -/
theorem catalog_seen_alike {service : Service} (he : service.engine.Forgetful) {c : Config}
    (mode : c.readOnly = false) (now : Calendar.Moment) (t : Files.Tree) (j j' j'' : Journal) :
    let f := findings service now c t j j' j''
    (f.health.status = .healthy ↔ ∃ s, f.schema = .ok s) ∧
    (f.health.status = .healthy ↔ ∀ failure, f.seeded ≠ .error (.catalog failure)) ∧
    (f.health.status = .healthy →
      f.health.error = none ∧
      (∃ rows, service.engine.Reads [] showTables rows ∧ f.health.tablesCount = rows.length) ∧
      (∀ s, f.schema = .ok s → s.tableCount ≤ f.health.tablesCount) ∧
      (f.seeded = .ok .notEmpty ↔ 0 < f.health.tablesCount)) ∧
    (f.health.status = .unhealthy →
      f.health.tablesCount = 0 ∧
      ∃ message, service.engine.Fails [] showTables message ∧ f.health.error = some message ∧
        f.schema = .error (.engine message showTables) ∧
        f.seeded = .error (.catalog (.engine message showTables)) ∧
        ∀ given members i, Protocol.Argument.membersOf given = .ok members →
          (Protocol.Tool.call service now "getSchema" given).result i =
            .ok (.failure (message ++ " (statement: " ++ showTables ++ ")"))) ∧
    ∀ given members i, Protocol.Argument.membersOf given = .ok members →
      (Protocol.Tool.call service now "healthCheck" given).result i = .ok (.success f.health.text) := by
  intro f
  have htold (given : Json) (members : Members) (i : Journal)
      (hgiven : Protocol.Argument.membersOf given = .ok members) :
      (Protocol.Tool.call service now "healthCheck" given).result i = .ok (.success f.health.text) :=
    healthCheck_tells he now hgiven i j
  cases hresult : service.engine.result [] showTables with
  | ok rows =>
    have hreads := Engine.result_eq_ok_iff.mp hresult
    have hf : f.OfRows rows := findings_of_reads he mode now t j j' j'' hreads
    obtain ⟨s, hs, hcount⟩ := hf.schema
    refine ⟨iff_of_true hf.status ⟨s, hs⟩, iff_of_true hf.status hf.probed, fun _ => ?_,
      fun h => ?_, htold⟩
    · refine ⟨hf.error, ⟨rows, hreads, hf.count⟩, fun s' hs' => ?_, ?_⟩
      · obtain rfl : s = s' := Except.ok.inj (hs.symm.trans hs')
        rwa [hf.count]
      · rw [hf.skipped, hf.count, List.length_pos_iff]
    · cases hf.status.symm.trans h
  | error failure =>
    obtain ⟨message, hfails, -⟩ := Engine.result_eq_error_iff.mp hresult
    have hf : f.OfFailure message := findings_of_fails he mode now t j j' j'' hfails
    have hstatus : f.health.status ≠ .healthy := fun h => by cases hf.status.symm.trans h
    refine ⟨iff_of_false hstatus ?_, iff_of_false hstatus fun h => h _ hf.probed,
      fun h => absurd h hstatus, fun _ => ?_, htold⟩
    · rintro ⟨s, hs⟩
      cases hf.schema.symm.trans hs
    · refine ⟨hf.count, message, hfails, hf.error, hf.schema, hf.probed, ?_⟩
      intro given members i hgiven
      exact getSchema_tells_failure he now hgiven i hfails

/-- A listing of a table that can be described, one that cannot, a view and a row without a name. -/
def motley : Engine :=
  Protocol.archive [Protocol.listingRow "Reader" "NODE" "", Protocol.listingRow "Lost" "NODE" "",
    Protocol.listingRow "Recent" "VIEW" "", []] []

/-- A listing that is lost behind its first row. -/
def lostListing : Engine :=
  .ofTable [(showTables, .ok { rows := [[]], stop := .failed "gone" })]

/-- All four rows count and one of them is in the schema; a row before the failure does not count. -/
theorem catalog_seen_alike_motley :
    let found (e : Engine) :=
      findings ⟨e, ⟨[0x64]⟩, false⟩ ⟨0, 0⟩ Startup.emptyConfig ⟨[], []⟩ [] [] []
    (motley.Forgetful ∧ lostListing.Forgetful ∧ Startup.emptyConfig.readOnly = false) ∧
    ((∃ s, (found motley).schema = .ok s ∧ s.tableCount = 1) ∧
      (found motley).health.tablesCount = 4 ∧ (found motley).seeded = .ok .notEmpty) ∧
    (found lostListing).health.error = some "gone" ∧
    (found lostListing).seeded = .error (.catalog (.engine "gone" showTables)) := by
  intro found
  have hmotley : motley.Forgetful := Engine.ofTable_forgetful _
  have hlost : lostListing.Forgetful := Engine.ofTable_forgetful _
  obtain ⟨hschema, -, hhealthy, -⟩ := @catalog_seen_alike ⟨motley, ⟨[0x64]⟩, false⟩ hmotley
    Startup.emptyConfig rfl ⟨0, 0⟩ ⟨[], []⟩ [] [] []
  obtain ⟨-, -, -, hunhealthy, -⟩ := @catalog_seen_alike ⟨lostListing, ⟨[0x64]⟩, false⟩ hlost
    Startup.emptyConfig rfl ⟨0, 0⟩ ⟨[], []⟩ [] [] []
  have hup : (found motley).health.status = .healthy := by decide +kernel
  have hdown : (found lostListing).health.status = .unhealthy := by decide +kernel
  have hcount : (found motley).health.tablesCount = 4 := by decide +kernel
  obtain ⟨s, hs⟩ := hschema.mp hup
  obtain ⟨-, -, -, hskipped⟩ := hhealthy hup
  obtain ⟨-, message, hfails, herror, -, hseeded, -⟩ := hunhealthy hdown
  obtain rfl : message = "gone" := by
    obtain h | ⟨cursor, h, hstop⟩ := hfails
    · cases h
    · cases h
      cases hstop
      rfl
  refine ⟨⟨hmotley, hlost, rfl⟩, ⟨⟨s, hs, ?_⟩, hcount, ?_⟩, herror, hseeded⟩
  · have hone : ((found motley).schema.map Schema.tableCount).toOption = some 1 := by decide +kernel
    change (found motley).schema = .ok s at hs
    rw [hs] at hone
    exact Option.some.inj hone
  · exact hskipped.mpr (by
      change 0 < (found motley).health.tablesCount
      omega)

end Catalog

end GraphGateway
