/-
A table of the schema holds what the engine said of it, and nothing else.

Engines may answer differently each time they are asked, so the answers meant are those given in the
reading that made the schema. A row of the listing is taken up behind the statements that the rows
before it took (`TakenUp`); what is then answered about the table is the only source of its
properties and of what it connects (`Catalogued`). Properties keep the order of the columns. The
pairs that a relationship connects are told in ascending order, each once, however often and in
whatever order the engine names them (`Enumerates`).
-/
import GraphGateway.Proofs.Catalog.Rearrangement

namespace GraphGateway.Catalog

open Engine

/-! ## Pairs -/

/-- One pair of tables stands in front of another: by the first table, then by the second. -/
def Connection.Precedes (a b : Connection) : Prop :=
  a.src < b.src ∨ (a.src = b.src ∧ a.dst < b.dst)

/-- The pairs that rows stand for, all of them and no others, in strictly ascending order. -/
structure Enumerates (rows : List Row) (connections : List Connection) : Prop where
  ascending : connections.Pairwise Connection.Precedes
  complete : ∀ row ∈ rows, ∃ c ∈ connections, DescribesConnection row c
  sound : ∀ c ∈ connections, ∃ row ∈ rows, DescribesConnection row c

theorem Connection.precedes_of_le {a b : Connection} (hle : a.le b = true) (hne : a ≠ b) :
    a.Precedes b := by
  rcases le_iff.mp hle with hsrc | ⟨hsrc, hdst⟩
  · exact .inl hsrc
  · refine .inr ⟨hsrc, Std.lt_of_le_of_ne hdst fun h => hne ?_⟩
    cases a
    cases b
    simp_all

theorem Connection.mem_arrange {c : Connection} {connections : List Connection} :
    c ∈ arrange connections ↔ c ∈ connections := by
  rw [arrange, Sorting.mem_eraseReps, List.mem_mergeSort]

theorem Connection.ascending_arrange (connections : List Connection) :
    (arrange connections).Pairwise Precedes := by
  have hsorted := List.pairwise_mergeSort le_trans le_total connections
  have hle := Sorting.pairwise_eraseReps hsorted
  have hne := Sorting.nodup_eraseReps le_antisymm hsorted
  exact hle.imp₂ (fun _ _ => precedes_of_le) hne

theorem enumerates_arrange {rows : List Row} {connections : List Connection}
    (h : List.Forall₂ DescribesConnection rows connections) :
    Enumerates rows (Connection.arrange connections) where
  ascending := Connection.ascending_arrange connections
  complete row hrow := by
    obtain ⟨c, hc⟩ := exists_of_mem_rows h row hrow
    exact ⟨c, Connection.mem_arrange.mpr ((mem_connections_iff h).mpr ⟨row, hrow, hc⟩), hc⟩
  sound c hc := (mem_connections_iff h).mp (Connection.mem_arrange.mp hc)

/-! ## Which answers are meant -/

/-- In a reading of the catalog behind `earlier`, a row of the listing is taken up when `past` has
been executed: the listing, and what the rows before it took. -/
def TakenUp (e : Engine) (earlier : List String) (row : Row) (past : List String) : Prop :=
  ∃ before behind, e.Reads earlier showTables (before ++ row :: behind) ∧
    past = earlier ++ [showTables] ++ inquiries e (earlier ++ [showTables]) before

/-- The statements that are executed for a table of the schema. -/
def Table.inquiries (t : Table) : List String :=
  match t.kind with
  | .entity => [tableInfo t.name]
  | .relationship => [tableInfo t.name, showConnection t.name]

/-- A table holds what its row of the listing says, and what is answered about it once `past` has
been executed. -/
structure Catalogued (e : Engine) (past : List String) (row : Row) (t : Table) : Prop where
  table : tableOf? row = some (t.name, t.kind)
  comment : ∀ text, t.comment = some text ↔ row.text? "comment" = some text ∧ text ≠ ""
  properties : ∃ columns, e.Reads past (tableInfo t.name) columns ∧
    List.Forall₂ (DescribesProperty t.kind) columns t.properties
  connectivity : match t.kind with
    | .entity => t.connectivity = none
    | .relationship => ∃ rows connections,
        e.Reads (past ++ [tableInfo t.name]) (showConnection t.name) rows ∧
          Enumerates rows connections ∧ t.connectivity = some connections

theorem inquiries_append (e : Engine) (earlier : List String) (before rows : List Row) :
    inquiries e earlier (before ++ rows) =
      inquiries e earlier before ++ inquiries e (earlier ++ inquiries e earlier before) rows := by
  induction before generalizing earlier with
  | nil => simp [inquiries]
  | cons row before ih =>
    rw [List.cons_append, inquiries, inquiries]
    cases tableOf? row with
    | none => exact ih earlier
    | some table =>
      simp only [ih, List.append_assoc]

/-- The statements that a row takes stand behind those that the rows before it took. -/
theorem exists_later (e : Engine) (earlier : List String) (before behind : List Row) {row : Row}
    {table : String × TableKind} (hrow : tableOf? row = some table) :
    ∃ later, inquiries e earlier (before ++ row :: behind) = inquiries e earlier before ++
      inquiriesAbout e (earlier ++ inquiries e earlier before) table ++ later := by
  refine ⟨inquiries e (earlier ++ inquiries e earlier before ++
    inquiriesAbout e (earlier ++ inquiries e earlier before) table) behind, ?_⟩
  rw [inquiries_append, inquiries, hrow, List.append_assoc (inquiries e earlier before)]

/-- A table that is found was described when its row was taken up. -/
theorem exists_of_mem_descriptions {e : Engine} {earlier : List String} {rows : List Row} {t : Table}
    (h : t ∈ descriptions e earlier rows) :
    ∃ before row behind table, rows = before ++ row :: behind ∧ tableOf? row = some table ∧
      (listed row table).description e (earlier ++ inquiries e earlier before) = .ok t := by
  induction rows generalizing earlier with
  | nil => cases h
  | cons row rows ih =>
    rw [descriptions] at h
    cases htable : tableOf? row with
    | none =>
      rw [htable] at h
      obtain ⟨before, r, behind, table, rfl, hr, hdescription⟩ := ih h
      refine ⟨row :: before, r, behind, table, rfl, hr, ?_⟩
      rwa [inquiries, htable]
    | some named =>
      rw [htable] at h
      rcases List.mem_append.mp h with hhead | htail
      · refine ⟨[], row, rows, named, rfl, htable, ?_⟩
        rw [inquiries, List.append_nil]
        cases hd : (listed row named).description e earlier with
        | error f => simp [hd, Except.toOption] at hhead
        | ok u =>
          obtain rfl : t = u := by simpa [hd, Except.toOption] using hhead
          rfl
      · obtain ⟨before, r, behind, table, rfl, hr, hdescription⟩ := ih htail
        refine ⟨row :: before, r, behind, table, rfl, hr, ?_⟩
        rwa [inquiries, htable, ← List.append_assoc]

/-- Columns that stand for properties have names and types. -/
theorem all_isColumn {kind : TableKind} {columns : List Row} {properties : List Property}
    (h : List.Forall₂ (DescribesProperty kind) columns properties) :
    columns.all isColumn = true := by
  induction h with
  | nil => rfl
  | cons hp _ ih => simp [isColumn, hp.name, hp.dataType, ih]

/-! ## The tables of a schema -/

/-- The tables of a kind. -/
def Schema.tablesOf (s : Schema) : TableKind → List Table
  | .entity => s.entityTables
  | .relationship => s.relationshipTables

theorem Schema.mem_tablesOf_iff {tables : List Table} {kind : TableKind} {t : Table} :
    t ∈ (Schema.ofTables tables).tablesOf kind ↔ t ∈ tables ∧ t.kind = kind := by
  cases kind <;> simp [ofTables, sort, tablesOf]

/-- What is said of a table in its description is what is catalogued. -/
theorem Catalogued.of_description {e : Engine} {past : List String} {row : Row}
    {named : String × TableKind} {t : Table} (hrow : tableOf? row = some named)
    (h : (listed row named).description e past = .ok t) : Catalogued e past row t := by
  obtain ⟨hname, hkind, hcomment, hproperties, hconnects⟩ := description_eq_ok_iff.mp h
  simp only [listed] at hname hkind hcomment hproperties hconnects
  obtain ⟨name, kind⟩ := named
  simp only at hname hkind hproperties hconnects
  subst hname hkind
  refine ⟨hrow, fun text => ?_, hproperties, ?_⟩
  · rw [hcomment, Option.filter_eq_some_iff, bne_iff_ne]
  · unfold ConnectsAfter at hconnects
    cases hk : t.kind with
    | entity => simpa only [hk] using hconnects
    | relationship =>
      simp only [hk] at hconnects
      obtain ⟨rows, connections, hreads, hrows, hc⟩ := hconnects
      exact ⟨rows, _, hreads, enumerates_arrange hrows, hc⟩

/-- The statements that are executed for a table that is found. -/
theorem Catalogued.inquiries_eq {e : Engine} {past : List String} {row : Row} {t : Table}
    (h : Catalogued e past row t) : inquiriesAbout e past (t.name, t.kind) = t.inquiries := by
  obtain ⟨columns, hreads, hcolumns⟩ := h.properties
  unfold Table.inquiries
  cases t.kind with
  | entity => rfl
  | relationship =>
    rw [inquiriesAbout, result_eq_ok_iff.mpr hreads]
    simp only [all_isColumn hcolumns, if_true]

/-- A table of the schema that was read behind `earlier`. -/
theorem catalogued_of_mem {e : Engine} {earlier : List String} {s : Schema} {kind : TableKind}
    {t : Table} (h : e.reflection earlier = .ok s) (ht : t ∈ s.tablesOf kind) :
    t.kind = kind ∧ ∃ row past later, TakenUp e earlier row past ∧
      earlier ++ e.reflectionStatements earlier = past ++ t.inquiries ++ later ∧
        Catalogued e past row t := by
  unfold reflection at h
  unfold reflectionStatements
  cases hlist : e.result earlier showTables with
  | error f =>
    rw [hlist] at h
    cases h
  | ok rows =>
    rw [hlist] at h
    obtain rfl := Except.ok.inj h
    obtain ⟨hmem, hkind⟩ := Schema.mem_tablesOf_iff.mp ht
    obtain ⟨before, row, behind, table, rfl, hrow, hdescription⟩ := exists_of_mem_descriptions hmem
    have hcatalogued := Catalogued.of_description hrow hdescription
    have htakenUp : TakenUp e earlier row _ := ⟨before, behind, result_eq_ok_iff.mp hlist, rfl⟩
    obtain ⟨later, hlater⟩ := exists_later e (earlier ++ [showTables]) before behind
      hcatalogued.table
    refine ⟨hkind, row, _, later, htakenUp, ?_, hcatalogued⟩
    simp only [hlater, hcatalogued.inquiries_eq]
    simp only [List.append_assoc, List.cons_append, List.nil_append]

/-- **A table of the schema is what the engine said of it.** It is of the kind of its list and comes
from a row of the listing, which gives its name and its comment, the latter if it is a text that is
not empty. Its properties are the rows of its columns one by one, flagged as primary key or not if
it is a table of entities and never if it is one of relationships; a relationship, and nothing else,
lists the pairs that it connects. All answers are those given in this reading, behind `past`. -/
theorem table_as_catalogued {e : Engine} {j : Journal} {s : Schema} {kind : TableKind} {t : Table}
    (h : e.schema.result j = .ok s) (ht : t ∈ s.tablesOf kind) :
    t.kind = kind ∧ ∃ row past later, TakenUp e j.statements row past ∧
      (e.schema.journal j).statements = past ++ t.inquiries ++ later ∧ Catalogued e past row t := by
  have hgives := e.schema_gives j.statements
  rw [hgives.result_eq] at h
  rw [hgives.statements_eq]
  exact catalogued_of_mem h ht

/-- An engine that answers every statement once only, whose listing has a relationship twice. -/
def terse : Engine where
  answer earlier statement :=
    if statement ∈ earlier then .error "answered before"
    else (Engine.ofTable [
      (showTables, .ok { rows := [
        [("name", .string "KNOWS"), ("type", .string "rel"), ("comment", .string "")],
        [("name", .string "Person"), ("type", .string "NODE"), ("comment", .string "People")],
        [("name", .string "KNOWS"), ("type", .string "REL")]] }),
      (tableInfo "Person", .ok { rows := [
        [("name", .int64 7), ("type", .string "INT64"), ("primary key", .bool true)],
        [("name", .string "a"), ("type", .string "STRING"), ("primary key", .string "true"),
          ("name", .string "b"), ("primary key", .bool true)]] }),
      (tableInfo "KNOWS", .ok { rows := [
        [("name", .string "since"), ("type", .string "DATE"), ("primary key", .bool true)]] }),
      (showConnection "KNOWS", .ok { rows := [
        [("source table name", .string "Person"), ("destination table name", .string "Person")],
        [("source table name", .string "Person"), ("destination table name", .string "City")],
        [("source table name", .string "Person"), ("destination table name", .string "Person")]] })
      ]).answer [] statement

/-- The relationship as the terse engine describes it when it is asked first. -/
def terseKnows : Table :=
  ⟨"KNOWS", .relationship, none, [⟨"since", "DATE", none⟩],
    some [⟨"Person", "City"⟩, ⟨"Person", "Person"⟩]⟩

/-- The entity, with a number for a name and a column told twice. -/
def tersePerson : Table :=
  ⟨"Person", .entity, some "People",
    [⟨"7", "INT64", some true⟩, ⟨"a", "STRING", some false⟩], none⟩

theorem terse_schema :
    terse.schema.result [] = .ok (.ofTables [terseKnows, tersePerson]) := by
  have hmem : ∀ c : Connection, c ∈ [⟨"Person", "City"⟩, ⟨"Person", "Person"⟩] ↔
      c ∈ [⟨"Person", "Person"⟩, ⟨"Person", "City"⟩, ⟨"Person", "Person"⟩] := by
    simp [or_comm]
  have hsorted : [⟨"Person", "City"⟩, ⟨"Person", "Person"⟩].Pairwise (Connection.le · · = true) := by
    decide
  have hpairs : [⟨"Person", "City"⟩, ⟨"Person", "Person"⟩] =
      Connection.arrange [⟨"Person", "Person"⟩, ⟨"Person", "City"⟩, ⟨"Person", "Person"⟩] := by
    rw [← Connection.arrange_eq_of_mem_iff hmem, Connection.arrange,
      List.mergeSort_of_pairwise hsorted]
    rfl
  rw [(terse.schema_gives _).result_eq, reflection, terseKnows, hpairs]
  with_unfolding_all rfl

/-- Pairs named twice and out of order, a flag that is a text, and a second row for one table. -/
theorem table_as_catalogued_terse :
    let s := Schema.ofTables [terseKnows, tersePerson]
    terse.schema.result [] = .ok s ∧
    (terseKnows ∈ s.tablesOf .relationship ∧ ∃ row past later, TakenUp terse [] row past ∧
      (terse.schema.journal []).statements = past ++ terseKnows.inquiries ++ later ∧
      Catalogued terse past row terseKnows) ∧
    (tersePerson ∈ s.tablesOf .entity ∧ ∃ row past later, TakenUp terse [] row past ∧
      (terse.schema.journal []).statements = past ++ tersePerson.inquiries ++ later ∧
      Catalogued terse past row tersePerson) := by
  intro s
  have hknows : terseKnows ∈ s.tablesOf .relationship :=
    Schema.mem_tablesOf_iff.mpr ⟨List.mem_cons_self, rfl⟩
  have hperson : tersePerson ∈ s.tablesOf .entity :=
    Schema.mem_tablesOf_iff.mpr ⟨List.mem_cons_of_mem _ List.mem_cons_self, rfl⟩
  exact ⟨terse_schema, ⟨hknows, (table_as_catalogued terse_schema hknows).2⟩,
    hperson, (table_as_catalogued terse_schema hperson).2⟩

end GraphGateway.Catalog
