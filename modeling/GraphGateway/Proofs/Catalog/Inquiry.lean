/-
What reading the catalog gives and which statements it takes, for an engine whose answers may depend
on everything it was asked before.

The listing is asked for first. Then the rows of the listing are taken in order: one that names a
table has the columns of that table asked for, and, if it is a table of relationships whose columns
all came and all have a name and a type, the tables it connects. `inquiries` lists these statements
and `descriptions` the tables that are found; both follow the engine from one statement to the next.
-/
import Mathlib.Data.List.Forall2
import GraphGateway.Proofs.Exchange

namespace GraphGateway

/-! ## One statement -/

namespace Engine

@[simp] theorem statements_trail (e : Engine) (earlier : List String) (statement : String) :
    Journal.statements (e.trail earlier statement) = [statement] := by
  unfold trail
  cases e.answer earlier statement <;> rfl

/-- Running a statement executes it and nothing else. -/
theorem query_gives (e : Engine) (earlier : List String) (statement : String) :
    Attempt.Gives (e.query statement) earlier (e.result earlier statement) [statement] := by
  intro j hj
  subst hj
  exact ⟨_, e.query_run statement j, e.statements_trail _ _⟩

/-- A statement fails, when it is executed or while its rows are read. -/
def Fails (e : Engine) (earlier : List String) (statement message : String) : Prop :=
  e.answer earlier statement = .error message ∨
    ∃ cursor, e.answer earlier statement = .ok cursor ∧ cursor.stop = .failed message

/-- A statement is answered by rows, all of which are read. -/
def Reads (e : Engine) (earlier : List String) (statement : String) (rows : List Row) : Prop :=
  ∃ cursor, e.answer earlier statement = .ok cursor ∧ cursor.stop = .exhausted ∧
    rows = cursor.rows.map RawRow.toJson

theorem result_eq_error_iff {e : Engine} {earlier : List String} {statement : String} {f : Failure} :
    e.result earlier statement = .error f ↔
      ∃ message, e.Fails earlier statement message ∧ f = .engine message statement := by
  unfold result Fails Cursor.drain
  cases h : e.answer earlier statement with
  | error message => simp [eq_comm]
  | ok cursor => cases hs : cursor.stop <;> simp [hs, eq_comm]

theorem result_eq_ok_iff {e : Engine} {earlier : List String} {statement : String}
    {rows : List Row} : e.result earlier statement = .ok rows ↔ e.Reads earlier statement rows := by
  unfold result Reads Cursor.drain
  cases h : e.answer earlier statement with
  | error message => simp
  | ok cursor => cases hs : cursor.stop <;> simp [hs, eq_comm]

end Engine

namespace Catalog

/-- A check asks for the listing. -/
theorem Health.check_gives (e : Engine) (path : String) (readOnly : Bool) (now : Calendar.Moment)
    (earlier : List String) :
    Session.Gives (Health.check e path readOnly now) earlier
      (Health.ofListing path readOnly now (e.result earlier showTables)) [showTables] := by
  have h : Session.Gives (do
      Session.log (if (e.result earlier showTables).toBool then .healthConfirmed else .healthFailed)
      pure (Health.ofListing path readOnly now (e.result earlier showTables)))
      (earlier ++ [showTables]) _ [] := (Session.Gives.pure _ _).after_log
  exact Session.Gives.bind (e.query_gives earlier showTables) h

/-! ## Lists of results -/

theorem mapM_eq_ok_iff {α β : Type} {f : α → Except Failure β} {xs : List α} {ys : List β} :
    xs.mapM f = .ok ys ↔ List.Forall₂ (fun x y => f x = .ok y) xs ys := by
  induction xs generalizing ys with
  | nil => cases ys <;> simp [pure, Except.pure]
  | cons x xs ih =>
    rw [List.mapM_cons]
    cases hx : f x with
    | error e => cases ys <;> simp [bind, Except.bind, hx]
    | ok y =>
      cases hxs : xs.mapM f with
      | error e => cases ys <;> simp [bind, Except.bind, hx, ← ih, hxs]
      | ok rest => cases ys <;> simp [bind, Except.bind, pure, Except.pure, hx, ← ih, hxs]

/-- A list of results comes to be exactly when each of them does. -/
theorem toBool_mapM {α β : Type} (f : α → Except Failure β) (xs : List α) :
    (xs.mapM f).toBool = xs.all fun x => (f x).toBool := by
  induction xs with
  | nil => rfl
  | cons x xs ih =>
    rw [List.mapM_cons, List.all_cons, ← ih]
    cases hx : f x with
    | error e => rfl
    | ok y => cases hxs : xs.mapM f <;> rfl

/-! ## Rows -/

/-- The name and the kind of the table that a row of the listing is about: it has a text for a name,
and its type is `NODE` or `REL`, in capitals or not. -/
def tableOf? (row : Row) : Option (String × TableKind) :=
  match row.text? "name", row.text? "type" with
  | some name, some word =>
    if word.toUpper = "NODE" then some (name, .entity)
    else if word.toUpper = "REL" then some (name, .relationship)
    else none
  | _, _ => none

/-- A listed table as a row has it. -/
def listed (row : Row) (table : String × TableKind) : Listed :=
  ⟨table.1, table.2, (row.text? "comment").filter (· != "")⟩

theorem ofRow_eq_table_iff {row : Row} {l : Listed} :
    Entry.ofRow row = .table l ↔ ∃ table, tableOf? row = some table ∧ l = listed row table := by
  unfold Entry.ofRow tableOf? TableKind.ofCatalog listed
  cases hn : row.text? "name" with
  | none => simp
  | some name =>
    cases ht : row.text? "type" with
    | none =>
      have hnode : "".toUpper ≠ "NODE" := by decide +kernel
      have hrel : "".toUpper ≠ "REL" := by decide +kernel
      simp [hnode, hrel]
    | some word =>
      by_cases hnode : word.toUpper = "NODE"
      · simp [hnode, eq_comm]
      · by_cases hrel : word.toUpper = "REL" <;> simp [hnode, hrel, eq_comm]

/-- Whether a row of a table's columns has a text for the name and one for the type. -/
def isColumn (row : Row) : Bool := (row.text? "name").isSome && (row.text? "type").isSome

/-- Whether a row of connections has a text for each end. -/
def isConnection (row : Row) : Bool :=
  (row.text? "source table name").isSome && (row.text? "destination table name").isSome

theorem toBool_propertyOfRow (kind : TableKind) (statement : String) (row : Row) :
    (Property.ofRow kind statement row).toBool = isColumn row := by
  unfold Property.ofRow isColumn
  cases row.text? "name" <;> cases row.text? "type" <;> rfl

theorem toBool_connectionOfRow (statement : String) (row : Row) :
    (Connection.ofRow statement row).toBool = isConnection row := by
  unfold Connection.ofRow isConnection
  cases row.text? "source table name" <;> cases row.text? "destination table name" <;> rfl

/-! ## One table -/

/-- The statements that a table takes: its columns are asked for, and then the tables it connects,
if it is one of relationships and all rows of its columns came and are what they should be. -/
def inquiriesAbout (e : Engine) (earlier : List String) : String × TableKind → List String
  | (name, .entity) => [tableInfo name]
  | (name, .relationship) =>
    match e.result earlier (tableInfo name) with
    | .ok columns =>
      if columns.all isColumn then [tableInfo name, showConnection name] else [tableInfo name]
    | .error _ => [tableInfo name]

/-- A listed table with its properties, complete with the tables it connects. -/
def Listed.completed (e : Engine) (earlier : List String) (l : Listed) (properties : List Property) :
    Except Failure Table :=
  match l.kind with
  | .entity => .ok ⟨l.name, .entity, l.comment, properties, none⟩
  | .relationship => do
    let rows ← e.result earlier (showConnection l.name)
    (rows.mapM (Connection.ofRow (showConnection l.name))).map fun connections =>
      ⟨l.name, .relationship, l.comment, properties, some (Connection.arrange connections)⟩

/-- The description of a listed table after earlier statements, or why there is none. -/
def Listed.description (e : Engine) (earlier : List String) (l : Listed) : Except Failure Table := do
  let columns ← e.result earlier (tableInfo l.name)
  let properties ← columns.mapM (Property.ofRow l.kind (tableInfo l.name))
  l.completed e (earlier ++ [tableInfo l.name]) properties

/-- The rows of a table's columns all make a property exactly when each is a column. -/
theorem toOption_mapM_propertyOfRow {γ : Type} (kind : TableKind) (statement : String)
    (columns : List Row) (some none : γ) :
    (columns.mapM (Property.ofRow kind statement)).toOption.elim none (fun _ => some) =
      if columns.all isColumn then some else none := by
  have h : (columns.mapM (Property.ofRow kind statement)).toBool = columns.all isColumn := by
    rw [toBool_mapM]
    simp only [toBool_propertyOfRow]
  rw [← h]
  cases columns.mapM (Property.ofRow kind statement) <;> rfl

theorem Listed.describe_gives (e : Engine) (earlier : List String) (l : Listed) :
    Attempt.Gives (l.describe e) earlier (l.description e earlier)
      (inquiriesAbout e earlier (l.name, l.kind)) := by
  obtain ⟨name, kind, comment⟩ := l
  have hinfo := e.query_gives earlier (tableInfo name)
  cases kind with
  | entity =>
    have h := hinfo.bind_result fun columns _ => Attempt.Gives.ofResult_bind
      (r := columns.mapM (Property.ofRow .entity (tableInfo name))) fun properties _ =>
        Attempt.Gives.pure (⟨name, .entity, comment, properties, none⟩ : Table) _
    have hs : inquiriesAbout e earlier (name, .entity) = [tableInfo name] ++
        (e.result earlier (tableInfo name)).toOption.elim [] fun columns =>
          (columns.mapM (Property.ofRow .entity (tableInfo name))).toOption.elim [] fun _ => [] := by
      simp only [toOption_mapM_propertyOfRow]
      cases e.result earlier (tableInfo name) <;> simp [inquiriesAbout, Except.toOption]
    rw [hs]
    exact h
  | relationship =>
    have hconnects (properties : List Property) := (e.query_gives (earlier ++ [tableInfo name])
      (showConnection name)).bind_result fun rows _ => (Attempt.Gives.ofResult
        (rows.mapM (Connection.ofRow (showConnection name))) _).bind_pure fun connections =>
          (⟨name, .relationship, comment, properties, some (Connection.arrange connections)⟩ : Table)
    have h := hinfo.bind_result fun columns _ => Attempt.Gives.ofResult_bind
      (r := columns.mapM (Property.ofRow .relationship (tableInfo name))) fun properties _ =>
        hconnects properties
    have hs : inquiriesAbout e earlier (name, .relationship) = [tableInfo name] ++
        (e.result earlier (tableInfo name)).toOption.elim [] fun columns =>
          (columns.mapM (Property.ofRow .relationship (tableInfo name))).toOption.elim [] fun _ =>
            [showConnection name] ++ (e.result (earlier ++ [tableInfo name])
              (showConnection name)).toOption.elim [] fun _ => [] := by
      have hnone : ∀ o : Option (List Row), (o.elim [] fun _ => ([] : List String)) = [] := by
        intro o
        cases o <;> rfl
      simp only [toOption_mapM_propertyOfRow, hnone, List.append_nil]
      cases hr : e.result earlier (tableInfo name) with
      | error f => simp [inquiriesAbout, hr, Except.toOption]
      | ok columns =>
        simp only [inquiriesAbout, hr, Except.toOption, Option.elim_some]
        split <;> rfl
    rw [hs]
    exact h

/-! ## The whole catalog -/

/-- The statements that the rows of the listing take, in the order of the rows. -/
def inquiries (e : Engine) : List String → List Row → List String
  | _, [] => []
  | earlier, row :: rows =>
    match tableOf? row with
    | none => inquiries e earlier rows
    | some table =>
      let asked := inquiriesAbout e earlier table
      asked ++ inquiries e (earlier ++ asked) rows

/-- The tables that the rows of the listing name and whose descriptions can be read, in the order of
the rows. -/
def descriptions (e : Engine) : List String → List Row → List Table
  | _, [] => []
  | earlier, row :: rows =>
    match tableOf? row with
    | none => descriptions e earlier rows
    | some table =>
      ((listed row table).description e earlier).toOption.toList ++
        descriptions e (earlier ++ inquiriesAbout e earlier table) rows

theorem describeAll_gives (e : Engine) (earlier : List String) (rows : List Row) :
    Session.Gives (describeAll e rows) earlier (descriptions e earlier rows)
      (inquiries e earlier rows) := by
  induction rows generalizing earlier with
  | nil => exact Session.Gives.pure [] earlier
  | cons row rows ih =>
    unfold describeAll descriptions inquiries
    cases ht : tableOf? row with
    | none =>
      cases hrow : Entry.ofRow row with
      | nameless => exact (ih earlier).after_log
      | «foreign» => exact (ih earlier).after_log
      | table l =>
        obtain ⟨table, htable, -⟩ := ofRow_eq_table_iff.mp hrow
        rw [ht] at htable
        cases htable
    | some table =>
      have hrow : Entry.ofRow row = .table (listed row table) :=
        ofRow_eq_table_iff.mpr ⟨table, ht, rfl⟩
      have hdescribe := (listed row table).describe_gives e earlier
      have hrest := ih (earlier ++ inquiriesAbout e earlier table)
      simp only [hrow]
      cases hd : (listed row table).description e earlier with
      | ok t =>
        rw [hd] at hdescribe
        exact Session.Gives.bind hdescribe (hrest.map fun tables => t :: tables)
      | error f =>
        rw [hd] at hdescribe
        exact Session.Gives.bind hdescribe hrest.after_log

end Catalog

namespace Engine

open Catalog

/-- The schema that an engine's catalog holds after earlier statements, or why it cannot be read. -/
def reflection (e : Engine) (earlier : List String) : Except Failure Schema :=
  (e.result earlier showTables).map fun rows =>
    .ofTables (descriptions e (earlier ++ [showTables]) rows)

/-- The statements that reading the catalog takes: the listing, and what its rows take if they all
came. -/
def reflectionStatements (e : Engine) (earlier : List String) : List String :=
  showTables ::
    match e.result earlier showTables with
    | .ok rows => inquiries e (earlier ++ [showTables]) rows
    | .error _ => []

theorem schema_gives (e : Engine) (earlier : List String) :
    Attempt.Gives e.schema earlier (e.reflection earlier) (e.reflectionStatements earlier) := by
  have hlist := e.query_gives earlier showTables
  unfold schema reflection reflectionStatements
  cases hr : e.result earlier showTables with
  | error f =>
    rw [hr] at hlist
    exact hlist.bind_error
  | ok rows =>
    rw [hr] at hlist
    have hall := Attempt.Gives.lift (describeAll_gives e (earlier ++ [showTables]) rows)
    have hlog := Attempt.Gives.lift (Session.Gives.log .schemaRead
      (earlier ++ [showTables] ++ inquiries e (earlier ++ [showTables]) rows))
    exact hlist.bind (hall.before (hlog.after (Attempt.Gives.pure _ _)))

end Engine

end GraphGateway
