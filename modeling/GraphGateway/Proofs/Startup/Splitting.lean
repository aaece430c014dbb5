/-
What splitting a script into statements keeps.

A script is split by its kept lines alone, in the order they stand in, so whatever leaves those as
they are leaves the statements as they are: blanks at the ends of lines, and lines between them that
are blank or a comment (`Reformatted`). The statements hold the kept lines, each of them once and in
order, and a statement goes on up to a line that ends with a semicolon, so that only the last
statement may lack one. Hence the statements on lines of their own are a script of the same
statements, and behind a script whose statements are all ended another one can be put.
-/
import GraphGateway.Startup.Script

namespace GraphGateway.Startup.Script

/-! ## Lines -/

/-- The lines of a script or a statement. -/
def linesOf (text : String) : List Line := Text.splitLines text.toList

theorem linesOf_join {lines : List Line} (hlines : ∀ line ∈ lines, '\n' ∉ line) (hne : lines ≠ []) :
    linesOf (join lines) = lines := by
  rw [linesOf, join, String.toList_ofList, Text.splitLines_intercalate hlines hne]

theorem linesOf_ne_nil (text : String) : linesOf text ≠ [] := by
  rw [linesOf, Text.splitLines_eq_splitOn]
  exact List.splitOn_ne_nil _ _

theorem newline_not_mem_linesOf (text : String) : ∀ line ∈ linesOf text, '\n' ∉ line :=
  fun _ => Text.not_mem_of_mem_splitLines

theorem join_linesOf (text : String) : join (linesOf text) = text := by
  rw [join, linesOf, Text.splitLines_eq_splitOn, List.intercalate_splitOn, String.ofList_toList]

/-- The lines that are neither empty nor a comment, without the blanks at their ends. -/
theorem keptLines_eq_filter (script : String) :
    keptLines script = ((linesOf script).map Text.trimChars).filter fun line =>
      decide (line ≠ [] ∧ ¬['/', '/'] <+: line ∧ ¬['-', '-'] <+: line) := by
  refine List.filter_congr fun line _ => ?_
  rw [Bool.eq_iff_iff]
  simp [isKept, isComment, ← List.isPrefixOf_iff_prefix]

theorem keptLines_eq (script : String) :
    keptLines script = ((linesOf script).map Text.trimChars).filter isKept := rfl

/-- A kept line is one line, has no blanks at its ends, and is kept again. -/
theorem kept_of_mem_keptLines {script : String} {line : Line} (h : line ∈ keptLines script) :
    '\n' ∉ line ∧ Text.trimChars line = line ∧ isKept line = true := by
  obtain ⟨hmem, hkept⟩ := List.mem_filter.mp h
  obtain ⟨raw, hraw, rfl⟩ := List.mem_map.mp hmem
  refine ⟨fun hn => ?_, Text.trimChars_trimChars raw, hkept⟩
  exact Text.not_mem_of_mem_splitLines hraw (Text.mem_of_mem_trimChars hn)

/-- Kept lines are the kept lines of their text. -/
theorem keptLines_join {script : String} {lines : List Line}
    (h : ∀ line ∈ lines, line ∈ keptLines script) (hne : lines ≠ []) :
    keptLines (join lines) = lines := by
  have hlines : ∀ line ∈ lines, '\n' ∉ line := fun line hl => (kept_of_mem_keptLines (h line hl)).1
  have htrim : lines.map Text.trimChars = lines.map id :=
    List.map_congr_left fun line hl => (kept_of_mem_keptLines (h line hl)).2.1
  rw [keptLines_eq, linesOf_join hlines hne, htrim, List.map_id, List.filter_eq_self]
  exact fun line hl => (kept_of_mem_keptLines (h line hl)).2.2

/-- A script on the lines behind another one has its kept lines behind the other's. -/
theorem keptLines_append (front behind : String) :
    keptLines (front ++ "\n" ++ behind) = keptLines front ++ keptLines behind := by
  have htext : (front ++ "\n" ++ behind).toList = front.toList ++ '\n' :: behind.toList := by simp
  simp only [keptLines, htext, Text.splitLines_append, List.map_append, List.filter_append]

theorem keptLines_intercalate (texts : List String) :
    keptLines ("\n".intercalate texts) = texts.flatMap keptLines := by
  induction texts with
  | nil => rfl
  | cons text texts ih =>
    cases texts with
    | nil => simp
    | cons next texts =>
      rw [String.intercalate_cons_cons, keptLines_append, ih]
      rfl

/-! ## Statements -/

/-- How lines make statements, from the first line on. -/
inductive Grouped : List Line → List (List Line) → Prop
  | nil : Grouped [] []
  /-- A line that ends a statement, the only one of it. -/
  | ended {line : Line} {lines : List Line} {statements : List (List Line)}
    (hline : isLast line = true) (h : Grouped lines statements) :
    Grouped (line :: lines) ([line] :: statements)
  /-- The last line of all, though it ends no statement. -/
  | left {line : Line} (hline : isLast line = false) : Grouped [line] [[line]]
  | more {line : Line} {lines first : List Line} {others : List (List Line)}
    (hline : isLast line = false) (h : Grouped lines (first :: others)) :
    Grouped (line :: lines) ((line :: first) :: others)

theorem grouped_group (lines : List Line) : Grouped lines (group lines) := by
  induction lines with
  | nil => exact .nil
  | cons line lines ih =>
    unfold group
    split
    · next hline => exact .ended hline ih
    · next hline =>
      have hopen : isLast line = false := by simpa using hline
      cases hgroups : group lines with
      | nil =>
        -- no line is lost by grouping, so there are none
        obtain rfl : lines = [] := by rw [← flatten_group lines, hgroups, List.flatten_nil]
        exact .left hopen
      | cons first others => exact .more hopen (hgroups ▸ ih)

namespace Grouped

variable {lines behind : List Line} {statements others : List (List Line)}

theorem eq_group (h : Grouped lines statements) : statements = group lines := by
  induction h with
  | nil => rfl
  | ended hline _ ih => rw [group, if_pos hline, ih]
  | left hline =>
    rw [group, if_neg (by simp [hline])]
    rfl
  | more hline _ ih => rw [group, if_neg (by simp [hline]), ← ih]

/-- No line of a statement but the last ends it. -/
theorem inner (h : Grouped lines statements) :
    ∀ statement ∈ statements, statement ≠ [] ∧ ∀ line ∈ statement.dropLast, isLast line = false := by
  induction h with
  | nil => exact nofun
  | ended _ _ ih => exact List.forall_mem_cons.mpr ⟨⟨List.cons_ne_nil _ _, nofun⟩, ih⟩
  | left => exact List.forall_mem_singleton.mpr ⟨List.cons_ne_nil _ _, nofun⟩
  | more hline _ ih =>
    obtain ⟨⟨hne, hinner⟩, hothers⟩ := List.forall_mem_cons.mp ih
    refine List.forall_mem_cons.mpr ⟨⟨List.cons_ne_nil _ _, ?_⟩, hothers⟩
    rw [List.dropLast_cons_of_ne_nil hne]
    exact List.forall_mem_cons.mpr ⟨hline, hinner⟩

/-- All statements but the last are ended. -/
theorem ended_of_mem_dropLast (h : Grouped lines statements) :
    ∀ statement ∈ statements.dropLast,
      ∃ line, statement.getLast? = some line ∧ isLast line = true := by
  induction h with
  | nil | left => exact nofun
  | @ended line _ statements hline _ ih =>
    cases statements with
    | nil => exact nofun
    | cons => exact List.forall_mem_cons.mpr ⟨⟨line, rfl, hline⟩, ih⟩
  | @more _ _ first others _ _ ih =>
    cases others with
    | nil => exact nofun
    | cons =>
      obtain ⟨⟨last, hlast, hended⟩, hothers⟩ := List.forall_mem_cons.mp ih
      refine List.forall_mem_cons.mpr ⟨⟨last, ?_, hended⟩, hothers⟩
      rw [List.getLast?_cons, hlast]
      rfl

/-- Behind an ended statement, lines make statements as if nothing came before. -/
theorem append (h : Grouped lines statements) (h' : Grouped behind others)
    (hended : ∀ line, lines.getLast? = some line → isLast line = true) :
    Grouped (lines ++ behind) (statements ++ others) := by
  have hrest {line : Line} {lines : List Line}
      (hended : ∀ last, (line :: lines).getLast? = some last → isLast last = true) :
      ∀ last, lines.getLast? = some last → isLast last = true := by
    intro last hlast
    refine hended last ?_
    rw [List.getLast?_cons, hlast]
    rfl
  induction h with
  | nil => exact h'
  | ended hline _ ih => exact .ended hline (ih (hrest hended))
  | left hline => cases hline.symm.trans (hended _ rfl)
  | more hline _ ih => exact .more hline (ih (hrest hended))

end Grouped

theorem group_append {front : List Line}
    (hended : ∀ line, front.getLast? = some line → isLast line = true) (behind : List Line) :
    group (front ++ behind) = group front ++ group behind :=
  ((grouped_group front).append (grouped_group behind) hended).eq_group.symm

/-- A statement is read back as the lines that it was written of, all of which are kept again. -/
theorem lines_of_mem_group {script : String} {lines : List Line}
    (h : lines ∈ group (keptLines script)) :
    linesOf (join lines) = lines ∧ keptLines (join lines) = lines := by
  have hkept : ∀ line ∈ lines, line ∈ keptLines script := by
    intro line hline
    rw [← flatten_group (keptLines script)]
    exact List.mem_flatten.mpr ⟨lines, h, hline⟩
  obtain ⟨hne, -⟩ := (grouped_group _).inner _ h
  refine ⟨linesOf_join (fun line hline => ?_) hne, keptLines_join hkept hne⟩
  exact (kept_of_mem_keptLines (hkept line hline)).1

theorem map_linesOf_split (script : String) :
    (split script).map linesOf = group (keptLines script) := by
  rw [split, List.map_map]
  exact (List.map_congr_left fun lines h => (lines_of_mem_group h).1).trans (List.map_id _)

theorem map_keptLines_split (script : String) :
    (split script).map keptLines = group (keptLines script) := by
  rw [split, List.map_map]
  exact (List.map_congr_left fun lines h => (lines_of_mem_group h).2).trans (List.map_id _)

theorem statement_ne_empty {script : String} {lines : List Line}
    (h : lines ∈ group (keptLines script)) : join lines ≠ "" := by
  obtain ⟨hne, -⟩ := (grouped_group _).inner _ h
  obtain ⟨-, hkept⟩ := lines_of_mem_group h
  intro hempty
  rw [hempty] at hkept
  exact hne hkept.symm

/-- A text of lines ends as the last of them does. -/
theorem getLast?_join {lines : List Line} {line : Line} {c : Char} (hline : lines.getLast? = some line)
    (hc : line.getLast? = some c) : (join lines).toList.getLast? = some c := by
  rw [join, String.toList_ofList]
  induction lines with
  | nil => cases hline
  | cons first lines ih =>
    cases lines with
    | nil =>
      obtain rfl : first = line := Option.some.inj hline
      rw [List.intercalate_singleton, hc]
    | cons next lines =>
      rw [List.getLast?_cons_cons] at hline
      rw [List.intercalate_cons_cons, List.getLast?_append, ih hline]
      rfl

/-- The statements on lines of their own are a script with the same kept lines. -/
theorem keptLines_intercalate_split (script : String) :
    keptLines ("\n".intercalate (split script)) = keptLines script := by
  rw [keptLines_intercalate, List.flatMap_def, map_keptLines_split, flatten_group]

/-! ## Other forms of a script -/

/-- Lines in another form: with blanks put at their ends, and with lines between them that are blank
or a comment. -/
inductive Reformatted : List Line → List Line → Prop
  | nil : Reformatted [] []
  | padded {line left right : Line} {lines others : List Line}
    (hleft : left.all Text.isBlank = true) (hright : right.all Text.isBlank = true)
    (hbreak : '\n' ∉ left ∧ '\n' ∉ right) (h : Reformatted lines others) :
    Reformatted (line :: lines) ((left ++ line ++ right) :: others)
  | inserted {line : Line} {lines others : List Line}
    (hskipped : Text.trimChars line = [] ∨ isComment (Text.trimChars line) = true)
    (hbreak : '\n' ∉ line) (h : Reformatted lines others) : Reformatted lines (line :: others)

namespace Reformatted

variable {lines others : List Line}

/-- The kept lines are the same. -/
theorem kept (h : Reformatted lines others) :
    (others.map Text.trimChars).filter isKept = (lines.map Text.trimChars).filter isKept := by
  induction h with
  | nil => rfl
  | padded hleft hright _ _ ih =>
    rw [List.map_cons, List.map_cons, Text.trimChars_append_right hright,
      Text.trimChars_append_left hleft, List.filter_cons, List.filter_cons, ih]
  | @inserted line _ _ hskipped _ _ ih =>
    have hkept : isKept (Text.trimChars line) = false := by
      rcases hskipped with hblank | hcomment
      · rw [hblank]
        rfl
      · rw [isKept, hcomment, Bool.not_true, Bool.and_false]
    rw [List.map_cons, List.filter_cons, hkept, ih]
    rfl

theorem not_mem (h : Reformatted lines others) (hlines : ∀ line ∈ lines, '\n' ∉ line) :
    ∀ line ∈ others, '\n' ∉ line := by
  induction h with
  | nil => exact hlines
  | padded _ _ hbreak _ ih =>
    obtain ⟨hline, hlines⟩ := List.forall_mem_cons.mp hlines
    refine List.forall_mem_cons.mpr ⟨?_, ih hlines⟩
    simp [hbreak, hline]
  | inserted _ hbreak _ ih => exact List.forall_mem_cons.mpr ⟨hbreak, ih hlines⟩

theorem ne_nil (h : Reformatted lines others) (hne : lines ≠ []) : others ≠ [] := by
  cases h with
  | nil => exact hne
  | padded | inserted => exact List.cons_ne_nil _ _

/-- A script in another form has the same statements. -/
theorem split_eq {script : String} (h : Reformatted (linesOf script) others) :
    split (join others) = split script := by
  have hlines := newline_not_mem_linesOf script
  have hkept : keptLines (join others) = keptLines script := by
    have hne := h.ne_nil (linesOf_ne_nil script)
    rw [keptLines_eq, keptLines_eq, linesOf_join (h.not_mem hlines) hne, h.kept]
  rw [split, split, hkept]

end Reformatted

/-- A newline, with a carriage return in front of it. -/
def returned (c : Char) : List Char := if c = '\n' then ['\r', '\n'] else [c]

/-- A script with a carriage return in front of every newline. -/
def withReturns (script : String) : String := String.ofList (script.toList.flatMap returned)

theorem flatMap_returned {line : Line} (h : '\n' ∉ line) : line.flatMap returned = line := by
  induction line with
  | nil => rfl
  | cons c line ih =>
    rw [List.mem_cons, not_or] at h
    obtain ⟨hc, hline⟩ := h
    rw [List.flatMap_cons, ih hline, returned, if_neg (Ne.symm hc)]
    rfl

/-- All lines but the last get a carriage return behind them. -/
theorem reformatted_returned {lines : List Line} (hlines : ∀ line ∈ lines, '\n' ∉ line)
    (hne : lines ≠ []) :
    Reformatted lines (Text.splitLines ((['\n'].intercalate lines).flatMap returned)) := by
  induction lines with
  | nil => exact absurd rfl hne
  | cons line lines ih =>
    obtain ⟨hline, hlines⟩ := List.forall_mem_cons.mp hlines
    cases lines with
    | nil =>
      have hlast : Text.splitLines line = [[] ++ line ++ []] := by
        rw [Text.splitLines_eq_splitOn, List.splitOn_eq_singleton hline, List.append_nil]
        rfl
      rw [List.intercalate_singleton, flatMap_returned hline, hlast]
      exact .padded rfl rfl (by decide) .nil
    | cons next lines =>
      have hfirst : Text.splitLines (line ++ ['\r']) = [[] ++ line ++ ['\r']] := by
        rw [Text.splitLines_eq_splitOn, List.splitOn_eq_singleton (by simp [hline])]
        rfl
      have hsplit : (['\n'].intercalate (line :: next :: lines)).flatMap returned =
          line ++ ['\r'] ++ '\n' :: (['\n'].intercalate (next :: lines)).flatMap returned := by
        rw [List.intercalate_cons_cons, List.flatMap_append, List.flatMap_append,
          flatMap_returned hline]
        simp [returned]
      rw [hsplit, Text.splitLines_append, hfirst]
      exact .padded rfl (by decide) (by decide) (ih hlines (by simp))

theorem split_withReturns (script : String) : split (withReturns script) = split script := by
  have h := reformatted_returned (newline_not_mem_linesOf script) (linesOf_ne_nil script)
  have htext : ['\n'].intercalate (linesOf script) = script.toList := by
    rw [linesOf, Text.splitLines_eq_splitOn, List.intercalate_splitOn]
  have hlines : Text.splitLines (script.toList.flatMap returned) = linesOf (withReturns script) := by
    rw [linesOf, withReturns, String.toList_ofList]
  rw [htext, hlines] at h
  have hsplit := h.split_eq
  rwa [join_linesOf] at hsplit

/-! ## Statements of a script -/

/-- **Splitting loses, adds and moves no line.** The lines of the statements are those of the script
without the blanks at their ends, but for empty ones and comments. No statement is empty, none goes
on behind a line that ends with a semicolon, and all but the last end with one. The statements are
those of the script in any other form, of the statements on lines of their own, and, with others
behind them, of the script with another one behind it, unless a statement would go on there. -/
theorem split_keeps_lines (script : String) :
    ((split script).flatMap linesOf = ((linesOf script).map Text.trimChars).filter fun line =>
      decide (line ≠ [] ∧ ¬['/', '/'] <+: line ∧ ¬['-', '-'] <+: line)) ∧
    (∀ statement ∈ split script, statement ≠ "" ∧
      ∀ line ∈ (linesOf statement).dropLast, line.getLast? ≠ some ';') ∧
    (∀ statement ∈ (split script).dropLast, statement.toList.getLast? = some ';') ∧
    split ("\n".intercalate (split script)) = split script ∧
    split (withReturns script) = split script ∧
    (∀ others, Reformatted (linesOf script) others → split (join others) = split script) ∧
    ∀ behind, (∀ line, (keptLines script).getLast? = some line → line.getLast? = some ';') →
      split (script ++ "\n" ++ behind) = split script ++ split behind := by
  refine ⟨?_, ?_, ?_, ?_, split_withReturns script, fun others h => h.split_eq, ?_⟩
  · rw [List.flatMap_def, map_linesOf_split, flatten_group, keptLines_eq_filter]
  · rintro _ hstatement
    obtain ⟨lines, hlines, rfl⟩ := List.mem_map.mp hstatement
    rw [(lines_of_mem_group hlines).1]
    refine ⟨statement_ne_empty hlines, fun line hline => ?_⟩
    exact beq_eq_false_iff_ne.mp (((grouped_group _).inner _ hlines).2 line hline)
  · intro statement hstatement
    rw [split, ← List.map_dropLast] at hstatement
    obtain ⟨lines, hlines, rfl⟩ := List.mem_map.mp hstatement
    obtain ⟨line, hline, hended⟩ := (grouped_group _).ended_of_mem_dropLast _ hlines
    exact getLast?_join hline (beq_iff_eq.mp hended)
  · rw [split, keptLines_intercalate_split, split]
  · intro behind hended
    have hlast : ∀ line, (keptLines script).getLast? = some line → isLast line = true :=
      fun line hline => beq_iff_eq.mpr (hended line hline)
    rw [split, keptLines_append, group_append hlast, List.map_append, split, split]

/-- A script with a comment and a blank line put in, one line indented and another with a carriage
return, and one that a script is put behind. -/
theorem split_keeps_lines_notes :
    let script := "MATCH (b)\nRETURN b;"
    let others := ["-- all".toList, "  MATCH (b)".toList, "\t".toList, "RETURN b;\r".toList]
    (Reformatted (linesOf script) others ∧ split (join others) = split script) ∧
    (∀ line, (keptLines script).getLast? = some line → line.getLast? = some ';') ∧
    split (script ++ "\n" ++ "x") = split script ++ split "x" := by
  intro script others
  obtain ⟨-, -, -, -, -, hothers, happend⟩ := split_keeps_lines script
  have hlines : linesOf script = ["MATCH (b)".toList, "RETURN b;".toList] := by decide +kernel
  have hform : Reformatted (linesOf script) others := by
    have hlast : Reformatted ["RETURN b;".toList] ["RETURN b;\r".toList] := by
      show Reformatted _ [[] ++ "RETURN b;".toList ++ "\r".toList]
      exact .padded rfl (by decide +kernel) (by decide +kernel) .nil
    have hfirst : Reformatted (linesOf script)
        ["  MATCH (b)".toList, "\t".toList, "RETURN b;\r".toList] := by
      rw [hlines]
      show Reformatted _ (("  ".toList ++ "MATCH (b)".toList ++ []) :: _)
      refine .padded (by decide +kernel) rfl (by decide +kernel) ?_
      exact .inserted (.inl (by decide +kernel)) (by decide +kernel) hlast
    exact .inserted (.inr (by decide +kernel)) (by decide +kernel) hfirst
  have hended : ∀ line, (keptLines script).getLast? = some line → line.getLast? = some ';' := by
    have hlast : (keptLines script).getLast? = some "RETURN b;".toList := by decide +kernel
    intro line hline
    rw [hlast] at hline
    obtain rfl := Option.some.inj hline
    decide +kernel
  exact ⟨⟨hform, hothers others hform⟩, hended, happend "x" hended⟩

end GraphGateway.Startup.Script
