/-
The schema holds every table that can be read, as the catalog has it, and nothing else.

For an engine whose answers do not depend on earlier statements, a row of the listing settles by
itself whether it gives a table and which: `Describes` says so in terms of the rows that the engine
answers, and `isReadable` says when there is such a table. A table that cannot be read, for whatever
reason, leaves all others as they are, because no two tables share a statement.
-/
import GraphGateway.Proofs.Catalog.Inquiry
import GraphGateway.Proofs.Catalog.Literal
import GraphGateway.Proofs.Sorting

namespace GraphGateway

/-! ## Engines that forget -/

namespace Engine

theorem Forgetful.result_eq {e : Engine} (he : e.Forgetful) (earlier : List String)
    (statement : String) : e.result earlier statement = e.result [] statement := by
  rw [result, result, he earlier statement]

end Engine

namespace Catalog

open Engine

theorem completed_of_forgetful {e : Engine} (he : e.Forgetful) (earlier : List String) (l : Listed)
    (properties : List Property) :
    l.completed e earlier properties = l.completed e [] properties := by
  unfold Listed.completed
  rw [he.result_eq earlier]

theorem description_of_forgetful {e : Engine} (he : e.Forgetful) (earlier : List String)
    (l : Listed) : l.description e earlier = l.description e [] := by
  unfold Listed.description
  rw [he.result_eq earlier]
  simp only [completed_of_forgetful he (earlier ++ _), completed_of_forgetful he ([] ++ _)]

/-- The table that a row of the listing gives, if it names one and the description can be read. -/
def tableFrom? (e : Engine) (row : Row) : Option Table :=
  (tableOf? row).bind fun table => ((listed row table).description e []).toOption

theorem descriptions_eq_filterMap {e : Engine} (he : e.Forgetful) (earlier : List String)
    (rows : List Row) : descriptions e earlier rows = rows.filterMap (tableFrom? e) := by
  induction rows generalizing earlier with
  | nil => rfl
  | cons row rows ih =>
    rw [descriptions, List.filterMap_cons, tableFrom?]
    cases ht : tableOf? row with
    | none => simp [ih]
    | some table =>
      simp only [Option.bind_some, ih, description_of_forgetful he earlier]
      cases ((listed row table).description e []).toOption <;> rfl

/-! ## What a row stands for -/

/-- The property that a row of a table's columns stands for. -/
structure DescribesProperty (kind : TableKind) (row : Row) (p : Property) : Prop where
  name : row.text? "name" = some p.name
  dataType : row.text? "type" = some p.dataType
  isPrimaryKey : p.isPrimaryKey =
    match kind with
    | .entity => some (decide (row.get? "primary key" = some (.bool true)))
    | .relationship => none

/-- The connection that a row stands for. -/
structure DescribesConnection (row : Row) (c : Connection) : Prop where
  src : row.text? "source table name" = some c.src
  dst : row.text? "destination table name" = some c.dst

/-- What a table connects: nothing if it is one of entities, otherwise what the rows of its
connections stand for. -/
def DescribesConnectivity (e : Engine) (t : Table) : Prop :=
  match t.kind with
  | .entity => t.connectivity = none
  | .relationship => ∃ rows connections, e.Reads [] (showConnection t.name) rows ∧
      List.Forall₂ DescribesConnection rows connections ∧
      t.connectivity = some (Connection.arrange connections)

/-- What a table connects, asked for after earlier statements. -/
def ConnectsAfter (e : Engine) (earlier : List String) (t : Table) : Prop :=
  match t.kind with
  | .entity => t.connectivity = none
  | .relationship => ∃ rows connections, e.Reads earlier (showConnection t.name) rows ∧
      List.Forall₂ DescribesConnection rows connections ∧
      t.connectivity = some (Connection.arrange connections)

/-- The table that a row of the listing stands for: its name, kind and comment come from that row,
its properties and what it connects from the rows that are answered for its name. -/
structure Describes (e : Engine) (row : Row) (t : Table) : Prop where
  table : tableOf? row = some (t.name, t.kind)
  comment : t.comment = (row.text? "comment").filter (· != "")
  properties : ∃ columns, e.Reads [] (tableInfo t.name) columns ∧
    List.Forall₂ (DescribesProperty t.kind) columns t.properties
  connectivity : DescribesConnectivity e t

theorem propertyOfRow_eq_ok_iff {kind : TableKind} {statement : String} {row : Row} {p : Property} :
    Property.ofRow kind statement row = .ok p ↔ DescribesProperty kind row p := by
  have hflag : (row.flag? "primary key").getD false =
      decide (row.get? "primary key" = some (.bool true)) := by
    unfold Row.flag?
    cases row.get? "primary key" with
    | none => rfl
    | some v => cases v with
      | bool b => cases b <;> rfl
      | _ => rfl
  constructor
  · intro h
    unfold Property.ofRow at h
    split at h
    · cases h
    · cases h
    · next name dataType hname htype =>
      simp only [Except.ok.injEq] at h
      subst h
      exact ⟨hname, htype, by cases kind <;> simp only [hflag]⟩
  · rintro ⟨hname, htype, hkey⟩
    obtain ⟨name, dataType, isPrimaryKey⟩ := p
    simp only at hname htype hkey
    subst hkey
    unfold Property.ofRow
    cases kind <;> simp only [hname, htype, hflag]

theorem connectionOfRow_eq_ok_iff {statement : String} {row : Row} {c : Connection} :
    Connection.ofRow statement row = .ok c ↔ DescribesConnection row c := by
  constructor
  · intro h
    unfold Connection.ofRow at h
    split at h
    · next src dst hsrc hdst =>
      simp only [Except.ok.injEq] at h
      subst h
      exact ⟨hsrc, hdst⟩
    · cases h
  · rintro ⟨hsrc, hdst⟩
    unfold Connection.ofRow
    rw [hsrc, hdst]

theorem completed_eq_ok_iff {e : Engine} {earlier : List String} {l : Listed}
    {properties : List Property} {t : Table} :
    l.completed e earlier properties = .ok t ↔
      t.name = l.name ∧ t.kind = l.kind ∧ t.comment = l.comment ∧ t.properties = properties ∧
        ConnectsAfter e earlier t := by
  obtain ⟨name, kind, comment⟩ := l
  obtain ⟨name', kind', comment', properties', connectivity⟩ := t
  cases kind with
  | entity =>
    simp only [Listed.completed, ConnectsAfter, Except.ok.injEq, Table.mk.injEq]
    constructor
    · rintro ⟨rfl, rfl, rfl, rfl, rfl⟩
      exact ⟨rfl, rfl, rfl, rfl, rfl⟩
    · rintro ⟨rfl, rfl, rfl, rfl, hc⟩
      exact ⟨rfl, rfl, rfl, rfl, hc.symm⟩
  | relationship =>
    simp only [Listed.completed, ConnectsAfter]
    constructor
    · intro h
      cases hr : e.result earlier (showConnection name) with
      | error f => rw [hr] at h; cases h
      | ok rows =>
        cases hm : rows.mapM (Connection.ofRow (showConnection name)) with
        | error f => rw [hr] at h; simp only [bind, Except.bind, hm] at h; cases h
        | ok connections =>
          rw [hr] at h
          simp only [bind, Except.bind, hm] at h
          cases h
          refine ⟨rfl, rfl, rfl, rfl, rows, connections, result_eq_ok_iff.mp hr, ?_, rfl⟩
          exact (mapM_eq_ok_iff.mp hm).imp fun row c => connectionOfRow_eq_ok_iff.mp
    · rintro ⟨rfl, rfl, rfl, rfl, rows, connections, hr, hm, rfl⟩
      have hm' : rows.mapM (Connection.ofRow (showConnection name')) = .ok connections :=
        mapM_eq_ok_iff.mpr (hm.imp fun row c => connectionOfRow_eq_ok_iff.mpr)
      simp only [result_eq_ok_iff.mpr hr, bind, Except.bind, hm', Except.map]

theorem description_eq_ok_iff {e : Engine} {earlier : List String} {l : Listed} {t : Table} :
    l.description e earlier = .ok t ↔
      t.name = l.name ∧ t.kind = l.kind ∧ t.comment = l.comment ∧
        (∃ columns, e.Reads earlier (tableInfo l.name) columns ∧
          List.Forall₂ (DescribesProperty l.kind) columns t.properties) ∧
        ConnectsAfter e (earlier ++ [tableInfo l.name]) t := by
  unfold Listed.description
  constructor
  · intro h
    cases hr : e.result earlier (tableInfo l.name) with
    | error f => rw [hr] at h; cases h
    | ok columns =>
      cases hm : columns.mapM (Property.ofRow l.kind (tableInfo l.name)) with
      | error f => rw [hr] at h; simp only [bind, Except.bind, hm] at h; cases h
      | ok properties =>
        rw [hr] at h
        simp only [bind, Except.bind, hm] at h
        obtain ⟨hname, hkind, hcomment, rfl, hconn⟩ := completed_eq_ok_iff.mp h
        refine ⟨hname, hkind, hcomment, ⟨columns, result_eq_ok_iff.mp hr, ?_⟩, hconn⟩
        exact (mapM_eq_ok_iff.mp hm).imp fun row p => propertyOfRow_eq_ok_iff.mp
  · rintro ⟨hname, hkind, hcomment, ⟨columns, hr, hm⟩, hconn⟩
    have hm' : columns.mapM (Property.ofRow l.kind (tableInfo l.name)) = .ok t.properties :=
      mapM_eq_ok_iff.mpr (hm.imp fun row p => propertyOfRow_eq_ok_iff.mpr)
    simp only [result_eq_ok_iff.mpr hr, bind, Except.bind, hm']
    exact completed_eq_ok_iff.mpr ⟨hname, hkind, hcomment, rfl, hconn⟩

theorem connectsAfter_of_forgetful {e : Engine} (he : e.Forgetful) (earlier : List String)
    (t : Table) : ConnectsAfter e earlier t ↔ DescribesConnectivity e t := by
  unfold ConnectsAfter DescribesConnectivity
  simp only [← result_eq_ok_iff, he.result_eq earlier]

/-- What a row of the listing gives is what it stands for. -/
theorem tableFrom?_eq_some_iff {e : Engine} (he : e.Forgetful) {row : Row} {t : Table} :
    tableFrom? e row = some t ↔ Describes e row t := by
  have hdesc (table : String × TableKind) :
      ((listed row table).description e []).toOption = some t ↔
        (listed row table).description e [] = .ok t := by
    cases (listed row table).description e [] <;> simp [Except.toOption]
  rw [tableFrom?, Option.bind_eq_some_iff]
  simp only [hdesc, description_eq_ok_iff, connectsAfter_of_forgetful he]
  constructor
  · rintro ⟨⟨name, kind⟩, htable, hname, hkind, hcomment, hproperties, hconn⟩
    simp only [listed] at hname hkind hcomment hproperties
    subst hname hkind
    exact ⟨htable, hcomment, hproperties, hconn⟩
  · rintro ⟨htable, hcomment, hproperties, hconn⟩
    exact ⟨(t.name, t.kind), htable, rfl, rfl, hcomment, hproperties, hconn⟩

/-! ## Which rows stand for a table -/

/-- Whether all rows of a statement are read and are what they should be. -/
def readsAll (e : Engine) (statement : String) (wellFormed : Row → Bool) : Bool :=
  match e.result [] statement with
  | .ok rows => rows.all wellFormed
  | .error _ => false

/-- Whether a row of the listing names a table of a kind whose columns, and for a relationship whose
connections, can be read. -/
def isReadable (e : Engine) (kind : TableKind) (row : Row) : Bool :=
  match tableOf? row with
  | none => false
  | some (name, k) => k == kind && readsAll e (tableInfo name) isColumn &&
      (kind == .entity || readsAll e (showConnection name) isConnection)

theorem readsAll_iff {β : Type} {e : Engine} {statement : String} {wellFormed : Row → Bool}
    {f : Row → Except Failure β} (h : ∀ row, (f row).toBool = wellFormed row) :
    readsAll e statement wellFormed = true ↔
      ∃ rows bs, e.Reads [] statement rows ∧ List.Forall₂ (fun row b => f row = .ok b) rows bs := by
  simp only [← result_eq_ok_iff, ← mapM_eq_ok_iff]
  unfold readsAll
  cases e.result [] statement with
  | error failure => simp
  | ok rows =>
    have hall : rows.all wellFormed = (rows.mapM f).toBool := by
      rw [toBool_mapM]
      simp only [h]
    simp only [hall]
    cases hm : rows.mapM f with
    | error failure => simp [Except.toBool, hm]
    | ok bs => simp [Except.toBool, hm]

theorem readsAll_columns_iff {e : Engine} {table : String} (kind : TableKind) :
    readsAll e (tableInfo table) isColumn = true ↔ ∃ columns properties,
      e.Reads [] (tableInfo table) columns ∧
        List.Forall₂ (DescribesProperty kind) columns properties := by
  simp only [readsAll_iff (toBool_propertyOfRow kind (tableInfo table)), propertyOfRow_eq_ok_iff]

theorem readsAll_connections_iff {e : Engine} {table : String} :
    readsAll e (showConnection table) isConnection = true ↔ ∃ rows connections,
      e.Reads [] (showConnection table) rows ∧
        List.Forall₂ DescribesConnection rows connections := by
  simp only [readsAll_iff (toBool_connectionOfRow (showConnection table)),
    connectionOfRow_eq_ok_iff]

/-- A row can be read exactly when there is a table that it stands for. -/
theorem isReadable_iff {e : Engine} {kind : TableKind} {row : Row} :
    isReadable e kind row = true ↔ ∃ t, Describes e row t ∧ t.kind = kind := by
  constructor
  · intro h
    unfold isReadable at h
    split at h
    · cases h
    next name k htable =>
    simp only [Bool.and_eq_true, Bool.or_eq_true, beq_iff_eq] at h
    obtain ⟨⟨rfl, hcolumns⟩, hconnections⟩ := h
    obtain ⟨columns, properties, hr, hp⟩ := (readsAll_columns_iff k).mp hcolumns
    cases k with
    | entity =>
      exact ⟨⟨name, .entity, (row.text? "comment").filter (· != ""), properties, none⟩,
        ⟨htable, rfl, ⟨columns, hr, hp⟩, rfl⟩, rfl⟩
    | relationship =>
      have hread : readsAll e (showConnection name) isConnection = true := by simpa using hconnections
      obtain ⟨rows, connections, hrows, hc⟩ := readsAll_connections_iff.mp hread
      exact ⟨⟨name, .relationship, (row.text? "comment").filter (· != ""), properties,
        some (Connection.arrange connections)⟩,
        ⟨htable, rfl, ⟨columns, hr, hp⟩, rows, connections, hrows, hc, rfl⟩, rfl⟩
  · rintro ⟨t, ⟨htable, -, ⟨columns, hr, hp⟩, hconn⟩, rfl⟩
    have hcolumns : readsAll e (tableInfo t.name) isColumn = true :=
      (readsAll_columns_iff t.kind).mpr ⟨columns, t.properties, hr, hp⟩
    unfold isReadable
    unfold DescribesConnectivity at hconn
    rw [htable]
    cases hk : t.kind with
    | entity => simp [hcolumns]
    | relationship =>
      simp only [hk] at hconn
      obtain ⟨rows, connections, hrows, hc, -⟩ := hconn
      have hread : readsAll e (showConnection t.name) isConnection = true :=
        readsAll_connections_iff.mpr ⟨rows, connections, hrows, hc⟩
      simp [hcolumns, hread]

/-- The tables of a kind that are found are those that the readable rows stand for, row by row. -/
theorem forall₂_describes {e : Engine} (he : e.Forgetful) (kind : TableKind) (rows : List Row) :
    List.Forall₂ (Describes e) (rows.filter (isReadable e kind))
      ((rows.filterMap (tableFrom? e)).filter (·.kind = kind)) := by
  induction rows with
  | nil => exact .nil
  | cons row rows ih =>
    rw [List.filterMap_cons]
    cases ht : tableFrom? e row with
    | none =>
      have hno : isReadable e kind row = false := by
        rw [Bool.eq_false_iff]
        intro hyes
        obtain ⟨t, hd, -⟩ := isReadable_iff.mp hyes
        rw [(tableFrom?_eq_some_iff he).mpr hd] at ht
        cases ht
      rw [List.filter_cons_of_neg (by simp [hno])]
      exact ih
    | some t =>
      have hd := (tableFrom?_eq_some_iff he).mp ht
      by_cases hk : t.kind = kind
      · have hyes : isReadable e kind row = true := isReadable_iff.mpr ⟨t, hd, hk⟩
        rw [List.filter_cons_of_pos hyes, List.filter_cons_of_pos (by simpa using hk)]
        exact .cons hd ih
      · have hno : isReadable e kind row = false := by
          rw [Bool.eq_false_iff]
          intro hyes
          obtain ⟨u, hu, rfl⟩ := isReadable_iff.mp hyes
          have htu := (tableFrom?_eq_some_iff he).mpr hu
          rw [ht] at htu
          exact hk (congrArg Table.kind (Option.some.inj htu))
        rw [List.filter_cons_of_neg (by simp [hno]), List.filter_cons_of_neg (by simpa using hk)]
        exact ih

/-! ## What is found and in which order -/

/-- The tables are those that the rows of the listing with readable descriptions stand for, one for
each row and no others, and their names ascend. -/
def Lists (e : Engine) (rows : List Row) (kind : TableKind) (tables : List Table) : Prop :=
  (∃ found, List.Forall₂ (Describes e) (rows.filter (isReadable e kind)) found ∧
    tables.Perm found) ∧ Sorting.Ascending Table.name tables

/-- The schema of what the rows of the listing give. -/
theorem reflection_of_forgetful {e : Engine} (he : e.Forgetful) (earlier : List String) :
    e.reflection earlier = (e.result [] showTables).map fun rows =>
      .ofTables (rows.filterMap (tableFrom? e)) := by
  unfold Engine.reflection
  rw [he.result_eq earlier]
  simp only [descriptions_eq_filterMap he]

theorem lists_ofTables {e : Engine} (he : e.Forgetful) (rows : List Row) (kind : TableKind) :
    Lists e rows kind
      (((rows.filterMap (tableFrom? e)).filter (·.kind = kind)).mergeSort Table.le) :=
  ⟨⟨_, forall₂_describes he kind rows, List.mergeSort_perm _ _⟩, Sorting.ascending_mergeSort _ _⟩

/-! ## Faults of one table -/

/-- Engines that answer alike, except perhaps where they are asked about one table. -/
def AgreeBut (table : String) (e e' : Engine) : Prop :=
  ∀ statement, statement ≠ tableInfo table → statement ≠ showConnection table →
    e.answer [] statement = e'.answer [] statement

/-- The tables that are not of a name. -/
def others (table : String) (tables : List Table) : List Table :=
  tables.filter fun t => t.name != table

/-- Schemas that are alike, except perhaps for the tables of one name, or the same failure. -/
def SchemasAgreeBut (table : String) : Except Failure Schema → Except Failure Schema → Prop
  | .ok s, .ok s' => others table s.entityTables = others table s'.entityTables ∧
      others table s.relationshipTables = others table s'.relationshipTables
  | .error f, .error f' => f = f'
  | _, _ => False

theorem AgreeBut.result_eq {table : String} {e e' : Engine} (h : AgreeBut table e e')
    {statement : String} (hi : statement ≠ tableInfo table) (hc : statement ≠ showConnection table) :
    e.result [] statement = e'.result [] statement := by
  rw [Engine.result, Engine.result, h statement hi hc]

/-- Another table is described by the same rows. -/
theorem AgreeBut.description_eq {table : String} {e e' : Engine} (h : AgreeBut table e e')
    (he : e.Forgetful) (he' : e'.Forgetful) {l : Listed} (hl : l.name ≠ table) :
    l.description e [] = l.description e' [] := by
  have hinfo : e.result [] (tableInfo l.name) = e'.result [] (tableInfo l.name) :=
    h.result_eq (fun heq => hl (tableInfo_injective heq)) (tableInfo_ne_showConnection _ _)
  have hconn : e.result [] (showConnection l.name) = e'.result [] (showConnection l.name) :=
    h.result_eq (fun heq => tableInfo_ne_showConnection _ _ heq.symm)
      (fun heq => hl (showConnection_injective heq))
  unfold Listed.description
  simp only [completed_of_forgetful he ([] ++ _), completed_of_forgetful he' ([] ++ _), hinfo]
  unfold Listed.completed
  simp only [hconn]

theorem AgreeBut.others_eq {table : String} {e e' : Engine} (h : AgreeBut table e e')
    (he : e.Forgetful) (he' : e'.Forgetful) (rows : List Row) :
    others table (rows.filterMap (tableFrom? e)) =
      others table (rows.filterMap (tableFrom? e')) := by
  induction rows with
  | nil => rfl
  | cons row rows ih =>
    have hrow : others table (tableFrom? e row).toList = others table (tableFrom? e' row).toList := by
      cases hname : tableOf? row with
      | none => simp [tableFrom?, hname]
      | some named =>
        by_cases hl : named.1 = table
        · -- Whatever either of them finds is left out.
          have hout (e : Engine) (he : e.Forgetful) : others table (tableFrom? e row).toList = [] := by
            cases ht : tableFrom? e row with
            | none => rfl
            | some t =>
              have hd := ((tableFrom?_eq_some_iff he).mp ht).table
              rw [hname] at hd
              have hn : t.name = table := by rw [← hl, Option.some.inj hd]
              simp [others, hn]
          rw [hout e he, hout e' he']
        · have hdesc := h.description_eq he he' (l := listed row named) hl
          simp only [tableFrom?, hname, Option.bind_some, hdesc]
    have hsplit (e : Engine) : others table ((row :: rows).filterMap (tableFrom? e)) =
        others table (tableFrom? e row).toList ++ others table (rows.filterMap (tableFrom? e)) := by
      rw [List.filterMap_cons]
      cases tableFrom? e row with
      | none => rfl
      | some t => exact List.filter_append [t] _
    rw [hsplit, hsplit, hrow, ih]

/-- Sorting the tables of a kind does not bring in what was left out. -/
theorem others_sort (table : String) (kind : TableKind) (tables : List Table) :
    others table ((tables.filter (·.kind = kind)).mergeSort Table.le) =
      ((others table tables).filter (·.kind = kind)).mergeSort Table.le := by
  have hsort := Sorting.mergeSort_filter Table.name (tables.filter (·.kind = kind))
    (fun name => name != table)
  unfold others
  rw [List.filter_comm]
  exact hsort.symm

/-- Engines that differ about one table only have schemas that differ in it only. -/
theorem AgreeBut.reflection_agree {table : String} {e e' : Engine} (h : AgreeBut table e e')
    (he : e.Forgetful) (he' : e'.Forgetful) (earlier earlier' : List String) :
    SchemasAgreeBut table (e.reflection earlier) (e'.reflection earlier') := by
  have hlist : e.result [] showTables = e'.result [] showTables :=
    h.result_eq (showTables_ne_tableInfo table) (showTables_ne_showConnection table)
  rw [reflection_of_forgetful he, reflection_of_forgetful he', hlist]
  cases e'.result [] showTables with
  | error f => rfl
  | ok rows =>
    have hothers := h.others_eq he he' rows
    simp only [Except.map, SchemasAgreeBut, Schema.ofTables, Schema.sort, others_sort, hothers,
      and_self]

/-- **The schema is complete and exact, and a fault stays with its table.** Reading it fails exactly
when the listing does, with that failure of the engine. Otherwise each list holds one table for each
row of the listing that names a table of its kind with a readable description, and no other, in the
order of the names. What the engine answers about one table bears on the tables of that name only. -/
theorem schema_complete {e : Engine} (he : e.Forgetful) (j : Journal) :
    (∀ f, e.schema.result j = .error f ↔
      ∃ message, e.Fails [] showTables message ∧ f = .engine message showTables) ∧
    (∀ s, e.schema.result j = .ok s → ∃ rows, e.Reads [] showTables rows ∧
      Lists e rows .entity s.entityTables ∧ Lists e rows .relationship s.relationshipTables) ∧
    ∀ (table : String) (e' : Engine) (j' : Journal), e'.Forgetful → AgreeBut table e e' →
      SchemasAgreeBut table (e.schema.result j) (e'.schema.result j') := by
  have hresult (e : Engine) (j : Journal) : e.schema.result j = e.reflection j.statements :=
    (e.schema_gives j.statements).result_eq
  refine ⟨fun f => ?_, fun s hs => ?_, fun table e' j' he' h => ?_⟩
  · rw [hresult, reflection_of_forgetful he, ← result_eq_error_iff]
    cases e.result [] showTables <;> simp [Except.map]
  · rw [hresult, reflection_of_forgetful he] at hs
    cases hr : e.result [] showTables with
    | error f =>
      rw [hr] at hs
      cases hs
    | ok rows =>
      rw [hr] at hs
      cases hs
      exact ⟨rows, result_eq_ok_iff.mp hr, lists_ofTables he rows .entity,
        lists_ofTables he rows .relationship⟩
  · rw [hresult, hresult]
    exact h.reflection_agree he he' _ _

/-- A listing of an entity, of a relationship that is written in small letters and of a table whose
name is a wide integer, where the engine answers `connections` about what the relationship
connects. -/
def library (connections : Except String Cursor) : Engine :=
  .ofTable [
    (showTables, .ok { rows := [
      [("name", .string "READS"), ("type", .string "rel")],
      [("name", .string "Reader"), ("type", .string "NODE"), ("comment", .string "A person")],
      [("name", .int64 7), ("type", .string "Node")]] }),
    (tableInfo "Reader", .ok { rows := [
      [("name", .string "id"), ("type", .string "INT64"), ("primary key", .bool true)]] }),
    (tableInfo "7", .ok { rows := [] }),
    (tableInfo "READS", .ok { rows := [] }),
    (showConnection "READS", connections)]

/-- There is a schema although what the relationship connects cannot be read, and the other tables
are as they are when it can. -/
theorem schema_complete_library :
    (library (.error "gone")).Forgetful ∧ (library (.ok { rows := [] })).Forgetful ∧
    AgreeBut "READS" (library (.error "gone")) (library (.ok { rows := [] })) ∧
    (∃ s rows, (library (.error "gone")).schema.result [] = .ok s ∧
      (library (.error "gone")).Reads [] showTables rows ∧
      Lists (library (.error "gone")) rows .entity s.entityTables ∧
      Lists (library (.error "gone")) rows .relationship s.relationshipTables) ∧
    SchemasAgreeBut "READS" ((library (.error "gone")).schema.result [])
      ((library (.ok { rows := [] })).schema.result []) := by
  have he : (library (.error "gone")).Forgetful := ofTable_forgetful _
  have hagree : AgreeBut "READS" (library (.error "gone")) (library (.ok { rows := [] })) := by
    intro statement hi hc
    have hne : (statement == showConnection "READS") = false := by simpa using hc
    simp [library, ofTable, List.lookup_cons, hne]
  obtain ⟨hfails, hlists, hothers⟩ := schema_complete he []
  refine ⟨he, ofTable_forgetful _, hagree, ?_, hothers _ _ [] (ofTable_forgetful _) hagree⟩
  cases hr : (library (.error "gone")).schema.result [] with
  | error f =>
    -- The listing is answered, so it is not what fails.
    obtain ⟨message, hmessage, -⟩ := (hfails f).mp hr
    rcases hmessage with hanswer | ⟨cursor, hanswer, hstop⟩
    · simp [library, ofTable] at hanswer
    · obtain rfl := Except.ok.inj hanswer
      cases hstop
  | ok s =>
    obtain ⟨rows, hreads, hentities, hrelationships⟩ := hlists s hr
    exact ⟨s, rows, rfl, hreads, hentities, hrelationships⟩

end Catalog

end GraphGateway
