/-
The statements of the catalog do not meet: each table has its own, and none is the listing.

A name can be read back from the literal that stands for it, whatever follows, so it can be read
back from a statement (`callWith_injective`); statements of different procedures part at a letter of
the procedure's name. Reading a statement from its start, the first literal is the one that stands
for the name, and it ends where it was made to end (`firstLiteral_callWith`): no name breaks out.
-/
import GraphGateway.Catalog.Statement

namespace GraphGateway.Catalog

/-! ## Different names, different statements -/

/-- A call, letter by letter. -/
theorem toList_callWith (procedure table : String) : (callWith procedure table).toList =
    "CALL ".toList ++ (procedure.toList ++ '(' :: (literal table.toList ++ ") RETURN *;".toList)) := by
  simp [callWith]

theorem literal_append (text rest : List Char) :
    literal text ++ rest = '\'' :: (text.flatMap escapeChar ++ '\'' :: rest) := by
  simp [literal]

/-- Different texts have different literals, whatever follows them. -/
theorem literal_append_injective {text text' rest rest' : List Char}
    (h : literal text ++ rest = literal text' ++ rest') : text = text' ∧ rest = rest' := by
  rw [literal_append, literal_append, List.cons.injEq] at h
  have hread := congrArg readLiteral h.2
  rw [readLiteral_flatMap_escapeChar, readLiteral_flatMap_escapeChar] at hread
  simpa using hread

/-- The name of a table can be told from a call with it. -/
theorem callWith_injective {procedure table table' : String}
    (h : callWith procedure table = callWith procedure table') : table = table' := by
  have hlist := congrArg String.toList h
  rw [toList_callWith, toList_callWith] at hlist
  have hliteral := List.append_cancel_left (List.append_cancel_left hlist)
  exact String.toList_inj.mp (literal_append_injective (List.cons.inj hliteral).2).1

theorem tableInfo_injective {table table' : String} (h : tableInfo table = tableInfo table') :
    table = table' := callWith_injective h

theorem showConnection_injective {table table' : String}
    (h : showConnection table = showConnection table') : table = table' := callWith_injective h

/-- The letters up to the one where the procedures part. -/
theorem take_tableInfo (table : String) : (tableInfo table).toList.take 11 = "CALL table_".toList := by
  rw [tableInfo, toList_callWith]
  rfl

theorem take_showConnection (table : String) :
    (showConnection table).toList.take 11 = "CALL show_c".toList := by
  rw [showConnection, toList_callWith]
  rfl

theorem take_showTables : showTables.toList.take 11 = "CALL show_t".toList := rfl

theorem tableInfo_ne_showConnection (table table' : String) :
    tableInfo table ≠ showConnection table' := by
  intro h
  have htake := congrArg (fun s : String => s.toList.take 11) h
  simp only [take_tableInfo, take_showConnection] at htake
  exact absurd htake (by decide)

theorem showTables_ne_tableInfo (table : String) : showTables ≠ tableInfo table := by
  intro h
  have htake := congrArg (fun s : String => s.toList.take 11) h
  simp only [take_tableInfo, take_showTables] at htake
  exact absurd htake (by decide)

theorem showTables_ne_showConnection (table : String) : showTables ≠ showConnection table := by
  intro h
  have htake := congrArg (fun s : String => s.toList.take 11) h
  simp only [take_showConnection, take_showTables] at htake
  exact absurd htake (by decide)

/-! ## Names inside their literals -/

/-- A text cut at its first literal: what stands in front of the first quote, what the literal that
starts there stands for, and what follows its closing quote. -/
def firstLiteral (statement : String) : Option (String × String × String) :=
  let front := statement.toList.takeWhile (· ≠ '\'')
  match statement.toList.dropWhile (· ≠ '\'') with
  | [] => none
  | _ :: inside => (readLiteral inside).map fun (text, left) =>
    (String.ofList front, String.ofList text, String.ofList left)

/-- A literal behind a text without quotes is the first. -/
theorem firstLiteral_literal {front : List Char} (hfront : '\'' ∉ front) (text left : List Char) :
    firstLiteral (String.ofList (front ++ (literal text ++ left))) =
      some (String.ofList front, String.ofList text, String.ofList left) := by
  have hplain : ∀ c ∈ front, decide (c ≠ '\'') = true := by
    intro c hc
    exact decide_eq_true (ne_of_mem_of_not_mem hc hfront)
  unfold firstLiteral
  rw [String.toList_ofList, literal_append, List.takeWhile_append_of_pos hplain,
    List.dropWhile_append_of_pos hplain]
  simp [readLiteral_flatMap_escapeChar]

/-- The first literal of a call stands for the name of the table, and the call ends behind it. -/
theorem firstLiteral_callWith {procedure : String} (hprocedure : '\'' ∉ procedure.toList)
    (table : String) : firstLiteral (callWith procedure table) =
      some ("CALL " ++ procedure ++ "(", table, ") RETURN *;") := by
  have hfront : '\'' ∉ ("CALL " ++ procedure ++ "(").toList := by
    simp [hprocedure]
  have h := firstLiteral_literal hfront table.toList ") RETURN *;".toList
  rw [String.ofList_append, String.ofList_append] at h
  simp only [String.ofList_toList, ← String.append_assoc] at h
  exact h

/-- A backslash in front of every occurrence of a character. -/
def markEach (target : Char) (text : List Char) : List Char :=
  text.flatMap fun c => if c = target then ['\\', c] else [c]

/-- Quotes are marked once backslashes have been. -/
theorem flatMap_escapeChar (text : List Char) :
    text.flatMap escapeChar = markEach '\'' (markEach '\\' text) := by
  have hchar (c : Char) : escapeChar c = markEach '\'' (markEach '\\' [c]) := by
    by_cases hb : c = '\\'
    · subst hb
      decide
    · by_cases hq : c = '\''
      · subst hq
        decide
      · simp [escapeChar, markEach, hb, hq]
  induction text with
  | nil => rfl
  | cons c text ih =>
    rw [List.flatMap_cons, ih, hchar]
    simp [markEach]

/-- In the other order the mark of a quote would be marked as well, and the quote end the literal. -/
example : readLiteral (markEach '\\' (markEach '\'' ['\'']) ++ ['\'']) =
    some (['\\'], ['\'']) := by decide

/-- **A name stays inside its literal.** The first literal of a statement about a table stands for
the name of that table, whatever characters this holds, and behind its closing quote the call ends;
it is written by marking backslashes first and quotes after them. So the name can be told from the
statement, and a statement of one kind is never one of the other. -/
theorem literal_holds_name (name name' : String) :
    firstLiteral (tableInfo name) = some ("CALL table_info(", name, ") RETURN *;") ∧
    firstLiteral (showConnection name) = some ("CALL show_connection(", name, ") RETURN *;") ∧
    literal name.toList = '\'' :: (markEach '\'' (markEach '\\' name.toList) ++ ['\'']) ∧
    (tableInfo name = tableInfo name' ↔ name = name') ∧
    (showConnection name = showConnection name' ↔ name = name') ∧
    tableInfo name ≠ showConnection name' := by
  refine ⟨firstLiteral_callWith (by decide) name, firstLiteral_callWith (by decide) name, ?_,
    ⟨tableInfo_injective, congrArg tableInfo⟩, ⟨showConnection_injective, congrArg showConnection⟩,
    tableInfo_ne_showConnection name name'⟩
  rw [literal, flatMap_escapeChar]

end GraphGateway.Catalog
