/-
The order in which the engine tells its catalog leaves no trace in the schema.

Two engines are compared that answer alike, except that for one statement the rows come otherwise
(`Reanswers`). If these are the rows of the listing in another order, every row still stands for the
same table, and tables of different names are sorted into one order. If these are the rows of what a
relationship connects, in another order and some of them more or less often, they still name the
same pairs, and pairs are told once each. Only tables of one name and kind show the order of the
listing: they keep it (`inListingOrder`).
-/
import GraphGateway.Proofs.Catalog.Completeness

namespace GraphGateway

/-! ## Other rows for one statement -/

namespace Engine

/-- The engines answer alike, except that a statement is answered by other rows; the cursor stops in
the same way behind them. -/
structure Reanswers (statement : String) (related : List RawRow → List RawRow → Prop)
    (e e' : Engine) : Prop where
  elsewhere : ∀ s, s ≠ statement → e.answer [] s = e'.answer [] s
  there : ∃ cursor cursor', e.answer [] statement = .ok cursor ∧
    e'.answer [] statement = .ok cursor' ∧ cursor.stop = cursor'.stop ∧
      related cursor.rows cursor'.rows

/-- The same rows, in any order and each any number of times. -/
def SameRows (rows rows' : List RawRow) : Prop := ∀ row, row ∈ rows ↔ row ∈ rows'

namespace Reanswers

variable {statement : String} {related : List RawRow → List RawRow → Prop} {e e' : Engine}

theorem result_eq (h : Reanswers statement related e e') {s : String} (hs : s ≠ statement) :
    e.result [] s = e'.result [] s := by
  rw [result, result, h.elsewhere s hs]

theorem reads_iff (h : Reanswers statement related e e') {s : String} (hs : s ≠ statement)
    (rows : List Row) : e.Reads [] s rows ↔ e'.Reads [] s rows := by
  rw [← result_eq_ok_iff, ← result_eq_ok_iff, h.result_eq hs]

theorem symm (h : Reanswers statement SameRows e e') : Reanswers statement SameRows e' e := by
  obtain ⟨cursor, cursor', he, he', hstop, hsame⟩ := h.there
  exact ⟨fun s hs => (h.elsewhere s hs).symm, cursor', cursor, he', he, hstop.symm,
    fun row => (hsame row).symm⟩

/-- The statement itself fails alike, or is answered by related rows. -/
theorem result_cases (h : Reanswers statement related e e') :
    (∃ f, e.result [] statement = .error f ∧ e'.result [] statement = .error f) ∨
      ∃ rows rows', related rows rows' ∧ e.result [] statement = .ok (rows.map RawRow.toJson) ∧
        e'.result [] statement = .ok (rows'.map RawRow.toJson) := by
  obtain ⟨cursor, cursor', he, he', hstop, hrelated⟩ := h.there
  cases hs : cursor.stop with
  | exhausted =>
    refine .inr ⟨cursor.rows, cursor'.rows, hrelated, ?_, ?_⟩
    · simp only [result, he, Cursor.drain, hs]
    · simp only [result, he', Cursor.drain, ← hstop, hs]
  | failed message =>
    refine .inl ⟨.engine message statement, ?_, ?_⟩
    · simp only [result, he, Cursor.drain, hs]
    · simp only [result, he', Cursor.drain, ← hstop, hs]

end Reanswers

end Engine

namespace Catalog

open Engine

/-! ## Connections -/

namespace Connection

theorem le_iff {a b : Connection} :
    a.le b = true ↔ a.src < b.src ∨ (a.src = b.src ∧ a.dst ≤ b.dst) := by
  simp [Connection.le]

theorem le_trans (a b c : Connection) (hab : a.le b = true) (hbc : b.le c = true) :
    a.le c = true := by
  rw [le_iff] at *
  rcases hab with hab | ⟨hab, hd⟩
  · rcases hbc with hbc | ⟨hbc, -⟩
    · exact .inl (String.lt_trans hab hbc)
    · exact .inl (hbc ▸ hab)
  · rcases hbc with hbc | ⟨hbc, hd'⟩
    · exact .inl (hab ▸ hbc)
    · exact .inr ⟨hab.trans hbc, String.le_trans hd hd'⟩

theorem le_total (a b : Connection) : (a.le b || b.le a) = true := by
  rw [Bool.or_eq_true, le_iff, le_iff]
  rcases Std.lt_trichotomy a.src b.src with h | h | h
  · exact .inl (.inl h)
  · rcases String.le_total a.dst b.dst with hd | hd
    · exact .inl (.inr ⟨h, hd⟩)
    · exact .inr (.inr ⟨h.symm, hd⟩)
  · exact .inr (.inl h)

theorem le_antisymm (a b : Connection) (hab : a.le b = true) (hba : b.le a = true) : a = b := by
  rw [le_iff] at hab hba
  have hsrc : a.src = b.src := by
    rcases hab with hab | ⟨hab, -⟩
    · rcases hba with hba | ⟨hba, -⟩
      · exact absurd hba (String.lt_asymm hab)
      · exact hba.symm
    · exact hab
  have hirrefl : ¬a.src < b.src ∧ ¬b.src < a.src := by
    rw [hsrc]
    exact ⟨String.lt_irrefl _, String.lt_irrefl _⟩
  have hdst : a.dst = b.dst :=
    String.le_antisymm (hab.resolve_left hirrefl.1).2 (hba.resolve_left hirrefl.2).2
  cases a
  cases b
  simp_all

/-- Arranged connections tell which there are, and nothing else. -/
theorem arrange_eq_of_mem_iff {connections connections' : List Connection}
    (h : ∀ c, c ∈ connections ↔ c ∈ connections') : arrange connections = arrange connections' := by
  refine Sorting.eraseReps_eq_of_mem_iff le_antisymm (List.pairwise_mergeSort le_trans le_total _)
    (List.pairwise_mergeSort le_trans le_total _) fun c => ?_
  rw [List.mem_mergeSort, List.mem_mergeSort, h c]

end Connection

theorem DescribesConnection.unique {row : Row} {c c' : Connection} (h : DescribesConnection row c)
    (h' : DescribesConnection row c') : c = c' := by
  obtain ⟨hsrc, hdst⟩ := h
  obtain ⟨hsrc', hdst'⟩ := h'
  cases c
  cases c'
  simp_all

/-- Connections are those that the rows stand for. -/
theorem mem_connections_iff {rows : List Row} {connections : List Connection}
    (h : List.Forall₂ DescribesConnection rows connections) {c : Connection} :
    c ∈ connections ↔ ∃ row ∈ rows, DescribesConnection row c := by
  induction h with
  | nil => simp
  | @cons row d rows connections hd _ ih =>
    have hhead : c = d ↔ DescribesConnection row c := by
      constructor
      · rintro rfl
        exact hd
      · exact fun hc => hc.unique hd
    rw [List.mem_cons, ih, List.exists_mem_cons_iff, hhead]

/-- Where every row stands for a connection, there is a list of them. -/
theorem exists_connections {rows : List Row} (h : ∀ row ∈ rows, ∃ c, DescribesConnection row c) :
    ∃ connections, List.Forall₂ DescribesConnection rows connections := by
  induction rows with
  | nil => exact ⟨[], .nil⟩
  | cons row rows ih =>
    obtain ⟨c, hc⟩ := h row List.mem_cons_self
    obtain ⟨connections, hconnections⟩ := ih fun r hr => h r (List.mem_cons_of_mem row hr)
    exact ⟨c :: connections, .cons hc hconnections⟩

theorem exists_of_mem_rows {rows : List Row} {connections : List Connection}
    (h : List.Forall₂ DescribesConnection rows connections) :
    ∀ row ∈ rows, ∃ c, DescribesConnection row c := by
  induction h with
  | nil => exact List.forall_mem_nil _
  | cons hd _ ih => exact List.forall_mem_cons.mpr ⟨⟨_, hd⟩, ih⟩

/-- The same rows stand for the same arranged connections. -/
theorem exists_arranged {rows rows' : List RawRow} (h : SameRows rows rows')
    {connections : List Connection}
    (hrows : List.Forall₂ DescribesConnection (rows.map RawRow.toJson) connections) :
    ∃ connections', List.Forall₂ DescribesConnection (rows'.map RawRow.toJson) connections' ∧
      Connection.arrange connections = Connection.arrange connections' := by
  have hmem : ∀ row, row ∈ rows.map RawRow.toJson ↔ row ∈ rows'.map RawRow.toJson := by
    intro row
    simp only [List.mem_map, h _]
  have hall : ∀ row ∈ rows'.map RawRow.toJson, ∃ c, DescribesConnection row c :=
    fun row hrow => exists_of_mem_rows hrows row ((hmem row).mpr hrow)
  obtain ⟨connections', hrows'⟩ := exists_connections hall
  refine ⟨connections', hrows', Connection.arrange_eq_of_mem_iff fun c => ?_⟩
  rw [mem_connections_iff hrows, mem_connections_iff hrows']
  simp only [hmem]

/-! ## Tables -/

variable {e e' : Engine}

/-- Engines that describe tables alike find the same table in every row. -/
theorem tableFrom?_congr (he : e.Forgetful) (he' : e'.Forgetful)
    (h : ∀ row t, Describes e row t ↔ Describes e' row t) : tableFrom? e = tableFrom? e' := by
  funext row
  refine Option.ext fun t => ?_
  rw [tableFrom?_eq_some_iff he, tableFrom?_eq_some_iff he', h]

/-- What the listing answers is not asked about a single table. -/
theorem describes_iff_of_listing {related : List RawRow → List RawRow → Prop}
    (h : Reanswers showTables related e e') (row : Row) (t : Table) :
    Describes e row t ↔ Describes e' row t := by
  have hinfo := h.reads_iff (showTables_ne_tableInfo t.name).symm
  have hconnection := h.reads_iff (showTables_ne_showConnection t.name).symm
  have hconnectivity : DescribesConnectivity e t ↔ DescribesConnectivity e' t := by
    unfold DescribesConnectivity
    cases t.kind with
    | entity => rfl
    | relationship => simp only [hconnection]
  constructor
  · rintro ⟨htable, hcomment, hproperties, hconn⟩
    exact ⟨htable, hcomment, by simpa only [hinfo] using hproperties, hconnectivity.mp hconn⟩
  · rintro ⟨htable, hcomment, hproperties, hconn⟩
    exact ⟨htable, hcomment, by simpa only [hinfo] using hproperties, hconnectivity.mpr hconn⟩

/-- What a table connects is settled by which rows are answered. -/
theorem DescribesConnectivity.of_sameRows {name : String}
    (h : Reanswers (showConnection name) SameRows e e') {t : Table}
    (hconn : DescribesConnectivity e t) : DescribesConnectivity e' t := by
  unfold DescribesConnectivity at *
  cases hk : t.kind with
  | entity => simpa only [hk] using hconn
  | relationship =>
    simp only [hk] at hconn ⊢
    obtain ⟨rows, connections, hreads, hrows, hc⟩ := hconn
    by_cases hname : t.name = name
    · subst hname
      have hresult := result_eq_ok_iff.mpr hreads
      rcases h.result_cases with ⟨f, hf, -⟩ | ⟨raw, raw', hsame, hok, hok'⟩
      · rw [hf] at hresult
        cases hresult
      · rw [hok] at hresult
        obtain rfl := Except.ok.inj hresult
        obtain ⟨connections', hrows', harranged⟩ := exists_arranged hsame hrows
        exact ⟨_, connections', result_eq_ok_iff.mp hok', hrows', by rw [hc, harranged]⟩
    · have hother : showConnection t.name ≠ showConnection name := fun heq =>
        hname (showConnection_injective heq)
      exact ⟨rows, connections, (h.reads_iff hother rows).mp hreads, hrows, hc⟩

theorem Describes.of_sameRows {name : String} (h : Reanswers (showConnection name) SameRows e e')
    {row : Row} {t : Table} (hd : Describes e row t) : Describes e' row t := by
  obtain ⟨htable, hcomment, ⟨columns, hreads, hcolumns⟩, hconn⟩ := hd
  have hinfo := h.reads_iff (tableInfo_ne_showConnection t.name name)
  exact ⟨htable, hcomment, ⟨columns, (hinfo columns).mp hreads, hcolumns⟩, hconn.of_sameRows h⟩

/-! ## Schemas -/

/-- No two rows of the listing name a table of one name and kind. -/
def NamesApart (rows : List Row) : Prop := (rows.filterMap tableOf?).Nodup

instance (rows : List Row) : Decidable (NamesApart rows) :=
  inferInstanceAs (Decidable (List.Nodup _))

/-- Tables of one kind that are found in such rows have different names. -/
theorem NamesApart.nodup (he : e.Forgetful) {rows : List Row} (h : NamesApart rows)
    (kind : TableKind) :
    (((rows.filterMap (tableFrom? e)).filter (·.kind = kind)).map Table.name).Nodup := by
  unfold NamesApart List.Nodup at h
  rw [List.pairwise_filterMap] at h
  rw [List.Nodup, List.pairwise_map, List.pairwise_filter, List.pairwise_filterMap]
  refine h.imp fun {row row'} hapart t ht t' ht' hk hk' hname => ?_
  have hrow := ((tableFrom?_eq_some_iff he).mp ht).table
  have hrow' := ((tableFrom?_eq_some_iff he).mp ht').table
  refine hapart _ hrow _ hrow' ?_
  rw [of_decide_eq_true hk, of_decide_eq_true hk', hname]

/-- Rows of the listing in another order give the same schema. -/
theorem ofTables_eq_of_perm (he : e.Forgetful) {rows rows' : List Row} (h : rows.Perm rows')
    (hnames : NamesApart rows) :
    Schema.ofTables (rows.filterMap (tableFrom? e)) =
      Schema.ofTables (rows'.filterMap (tableFrom? e)) := by
  have hkind (kind : TableKind) := Sorting.mergeSort_eq_of_perm Table.name
    ((h.filterMap (tableFrom? e)).filter (·.kind = kind)) (hnames.nodup he kind)
  exact congrArg₂ Schema.mk (hkind .entity) (hkind .relationship)

/-- The listing may be answered in any order. -/
theorem reflection_eq_of_perm (he : e.Forgetful) (he' : e'.Forgetful)
    (h : Reanswers showTables List.Perm e e')
    (hnames : ∀ rows, e.Reads [] showTables rows → NamesApart rows) :
    e.reflection [] = e'.reflection [] := by
  have htables := tableFrom?_congr he he' (describes_iff_of_listing h)
  rw [reflection_of_forgetful he, reflection_of_forgetful he', ← htables]
  rcases h.result_cases with ⟨f, hf, hf'⟩ | ⟨rows, rows', hperm, hrows, hrows'⟩
  · rw [hf, hf']
  · rw [hrows, hrows']
    exact congrArg Except.ok (ofTables_eq_of_perm he (hperm.map RawRow.toJson)
      (hnames _ (result_eq_ok_iff.mp hrows)))

/-- What a relationship connects may be answered in any order, and with repetitions. -/
theorem reflection_eq_of_sameRows (he : e.Forgetful) (he' : e'.Forgetful) {name : String}
    (h : Reanswers (showConnection name) SameRows e e') : e.reflection [] = e'.reflection [] := by
  have htables := tableFrom?_congr he he' fun row t =>
    ⟨Describes.of_sameRows h, Describes.of_sameRows h.symm⟩
  rw [reflection_of_forgetful he, reflection_of_forgetful he', ← htables,
    h.result_eq (showTables_ne_showConnection name)]

/-! ## Tables of one name -/

/-- Whether a row of the listing names a table so. -/
def isNamed (name : String) (row : Row) : Bool := (tableOf? row).map Prod.fst == some name

/-- Tables of one name stand in the order of the rows that they stand for. -/
def InListingOrder (e : Engine) (rows : List Row) (kind : TableKind) (tables : List Table) : Prop :=
  ∀ name, List.Forall₂ (Describes e) ((rows.filter (isReadable e kind)).filter (isNamed name))
    (tables.filter (·.name = name))

theorem inListingOrder (he : e.Forgetful) (rows : List Row) (kind : TableKind) :
    InListingOrder e rows kind
      (((rows.filterMap (tableFrom? e)).filter (·.kind = kind)).mergeSort Table.le) := by
  intro name
  have hsort := Sorting.filter_mergeSort Table.name
    ((rows.filterMap (tableFrom? e)).filter (·.kind = kind)) name
  have hnamed : ∀ ⦃row t⦄, Describes e row t →
      (isNamed name row = true ↔ decide (t.name = name) = true) := by
    intro row t hd
    simp [isNamed, hd.table]
  have hfound := List.rel_filter (R := Describes e) (p := isNamed name)
    (q := fun t => decide (t.name = name)) hnamed (forall₂_describes he kind rows)
  rw [← hsort] at hfound
  exact hfound

end Catalog

end GraphGateway
