/-
Documents of plain lines.

A line gives a value to a key without quotes and dots. A document of such lines with different keys
is the table of these keys and values, in this order (`ofText?_lines`). How a value is written does
not matter as long as it is read up to the end of its line (`IsWritten`), as strings are in whatever
form they are written.
-/
import GraphGateway.Proofs.Toml.Quoted
import GraphGateway.Toml.Document

namespace GraphGateway.Toml

variable {text rest : List Char} {value : Value} {key : String}

/-! ## Values -/

/-- A text is read as a value up to the end of its line, and starts with no blank. -/
structure IsWritten (text : List Char) (value : Value) : Prop where
  start (rest : List Char) : skipSpace (text ++ rest) = text ++ rest
  read (rest : List Char) :
    readValue maxNesting (text ++ '\n' :: rest) = some (value, '\n' :: rest)

theorem skipSpace_cons {c : Char} (h : Quoted.isSpace c = false) (rest : List Char) :
    skipSpace (c :: rest) = c :: rest := by
  simp [skipSpace, h]

theorem isWritten_string (cs : List Char) :
    IsWritten (Quoted.write cs) (.string (String.ofList cs)) := by
  cases Quoted.writes_write cs with
  | double htext hread | single htext hread =>
    rw [htext]
    refine ⟨fun rest => skipSpace_cons (by decide) _, fun rest => ?_⟩
    rw [List.cons_append, readValue, hread _ (by simp)]
    rfl

theorem isWritten_flag (b : Bool) :
    IsWritten (if b then ['t', 'r', 'u', 'e'] else ['f', 'a', 'l', 's', 'e']) (.flag b) := by
  cases b <;> exact ⟨fun _ => rfl, fun _ => rfl⟩

/-! ## Lines -/

/-- A line that gives a key a value, which is written as some text. -/
structure Line where
  key : String
  text : List Char
  value : Value

namespace Line

variable {l : Line}

def chars (l : Line) : List Char := l.key.toList ++ [' ', '=', ' '] ++ l.text ++ ['\n']

def definition (l : Line) : Definition := .entry [] l.key l.value

def entry (l : Line) : String × Value := (l.key, l.value)

/-- The key needs no quotes, and the text is read as the value. -/
structure OK (l : Line) : Prop where
  key_ne : l.key ≠ ""
  bare : ∀ c ∈ l.key.toList, isBare c = true
  written : IsWritten l.text l.value

theorem chars_append (l : Line) (rest : List Char) :
    l.chars ++ rest = l.key.toList ++ ' ' :: '=' :: ' ' :: (l.text ++ '\n' :: rest) := by
  simp [chars]

/-- A line starts with a character of its key. -/
theorem OK.exists_head (h : l.OK) (rest : List Char) :
    ∃ c more, l.chars ++ rest = c :: more ∧ isBare c = true := by
  cases hkey : l.key.toList with
  | nil => exact absurd (String.toList_eq_nil_iff.mp hkey) h.key_ne
  | cons c cs =>
    refine ⟨c, _, by rw [chars_append, hkey, List.cons_append], h.bare c ?_⟩
    rw [hkey]
    exact List.mem_cons_self

end Line

theorem ne_of_isBare {c d : Char} (hc : isBare c = true) (hd : isBare d = false) : c ≠ d := by
  rintro rfl
  rw [hc] at hd
  cases hd

theorem readPart_bare (hkey : key ≠ "") (hbare : ∀ c ∈ key.toList, isBare c = true)
    (rest : List Char) : readPart (key.toList ++ ' ' :: rest) = some (key, ' ' :: rest) := by
  have htake : (key.toList ++ ' ' :: rest).takeWhile isBare = key.toList := by
    rw [List.takeWhile_append_of_pos hbare, List.takeWhile_cons_of_neg (by decide),
      List.append_nil]
  have hne : key.toList ≠ [] := fun h => hkey (String.toList_eq_nil_iff.mp h)
  have hquote {quote : Char} (h : isBare quote = false) (more : List Char) :
      key.toList ++ ' ' :: rest ≠ quote :: more := by
    obtain ⟨c, cs, hcs⟩ := List.exists_cons_of_ne_nil hne
    intro heq
    rw [hcs, List.cons_append] at heq
    exact ne_of_isBare (hbare c (by simp [hcs])) h (List.cons.inj heq).1
  unfold readPart
  split
  · next heq => exact absurd heq (hquote (by decide) _)
  · next heq => exact absurd heq (hquote (by decide) _)
  · simp only [htake, if_neg hne, String.ofList_toList, List.drop_left]

theorem readKeyFrom_bare (hkey : key ≠ "") (hbare : ∀ c ∈ key.toList, isBare c = true)
    (parts : Nat) (rest : List Char) :
    readKeyFrom (parts + 1) [] (key.toList ++ ' ' :: '=' :: rest) =
      some (([], key), '=' :: rest) := by
  rw [readKeyFrom, readPart_bare hkey hbare]
  rfl

theorem readKey_bare (hkey : key ≠ "") (hbare : ∀ c ∈ key.toList, isBare c = true)
    (rest : List Char) :
    readKey (key.toList ++ ' ' :: '=' :: rest) = some (([], key), '=' :: rest) :=
  readKeyFrom_bare hkey hbare _ rest

theorem readDefinition_line {l : Line} (h : l.OK) (rest : List Char) :
    readDefinition (l.chars ++ rest) = some (l.definition, '\n' :: rest) := by
  obtain ⟨c, more, hchars, hc⟩ := h.exists_head rest
  have hbracket : c ≠ '[' := ne_of_isBare hc (by decide)
  have hentry : readEntry (some ∘ skipSpace) (readValue maxNesting) (l.chars ++ rest) =
      some (([], l.key, l.value), '\n' :: rest) := by
    have hequals : skipSpace ('=' :: ' ' :: (l.text ++ '\n' :: rest)) =
        '=' :: ' ' :: (l.text ++ '\n' :: rest) := rfl
    have hspace : skipSpace (' ' :: (l.text ++ '\n' :: rest)) = l.text ++ '\n' :: rest :=
      h.written.start _
    rw [l.chars_append]
    simp only [readEntry, readKey_bare h.key_ne h.bare, Function.comp_apply, hequals, hspace,
      h.written.read, bind, Option.bind]
  rw [hchars] at hentry ⊢
  unfold readDefinition
  split
  · next heq => exact absurd (List.cons.inj heq).1 hbracket
  · next heq => exact absurd (List.cons.inj heq).1 hbracket
  · rw [hentry]
    rfl

/-- Nothing is passed over in front of a line. -/
theorem skipBetween_line {l : Line} (h : l.OK) (rest : List Char) :
    skipBetween (l.chars ++ rest) = some (l.chars ++ rest) := by
  obtain ⟨c, more, hchars, hc⟩ := h.exists_head rest
  have hspace : Quoted.isSpace c = false := by
    have htab := ne_of_isBare hc (d := '\t') (by decide)
    have hblank := ne_of_isBare hc (d := ' ') (by decide)
    simp [Quoted.isSpace, htab, hblank]
  have hends : ¬(c = '#' ∨ c = '\n' ∨ c = '\r') := by
    rintro (rfl | rfl | rfl) <;> simp [isBare] at hc
  rw [hchars, skipBetween, skipLines, skipSpace_cons hspace]
  simp only [if_neg hends]

/-! ## Documents -/

theorem readDefinitions_lines {lines : List Line} (h : ∀ l ∈ lines, l.OK) {fuel : Nat}
    (hfuel : lines.length < fuel) (done : List Definition) :
    readDefinitions fuel done (lines.flatMap Line.chars) =
      some (done.reverse ++ lines.map Line.definition) := by
  induction lines generalizing fuel done with
  | nil =>
    obtain ⟨fuel, rfl⟩ := Nat.exists_eq_add_one.mpr hfuel
    simp [readDefinitions, skipBetween, skipLines, skipSpace]
  | cons l lines ih =>
    obtain ⟨fuel, rfl⟩ := Nat.exists_eq_add_one.mpr (Nat.zero_lt_of_lt hfuel)
    obtain ⟨hl, hlines⟩ := List.forall_mem_cons.mp h
    obtain ⟨c, more, hchars, -⟩ := hl.exists_head (lines.flatMap Line.chars)
    have hends : endLine? ('\n' :: lines.flatMap Line.chars) =
        some (lines.flatMap Line.chars) := rfl
    have hbetween := skipBetween_line hl (lines.flatMap Line.chars)
    have hdefinition := readDefinition_line hl (lines.flatMap Line.chars)
    rw [hchars] at hbetween hdefinition
    rw [List.flatMap_cons, hchars, readDefinitions, hbetween]
    simp only [hdefinition, hends, Option.bind_some]
    rw [ih hlines (Nat.lt_of_succ_lt_succ hfuel)]
    simp

theorem build_lines {lines : List Line} {entries : Entries}
    (h : (entries.map Prod.fst ++ lines.map Line.key).Nodup) :
    build [] entries (lines.map Line.definition) = some (entries ++ lines.map Line.entry) := by
  induction lines generalizing entries with
  | nil => simp [build]
  | cons l lines ih =>
    have hnew : entries.lookup l.key = none := by
      refine List.lookup_eq_none_iff.mpr fun e he => ?_
      have hne : e.1 ≠ l.key := (List.nodup_append.mp h).2.2 e.1 (List.mem_map_of_mem he) l.key
        List.mem_cons_self
      simpa using Ne.symm hne
    have hstep : Entries.along false (Entries.set [] l.key l.value) [] .header entries =
        some (.header, entries ++ [l.entry]) := by
      simp [Entries.along, Entries.set, Entries.add, hnew, Line.entry]
    have hrest : ((entries ++ [l.entry]).map Prod.fst ++ lines.map Line.key).Nodup := by
      simpa [Line.entry] using h
    have hbuild := ih hrest
    rw [List.append_assoc] at hbuild
    rw [List.map_cons, Line.definition, build, hstep, Option.bind_some]
    exact hbuild

theorem length_le_flatMap_chars (lines : List Line) :
    lines.length ≤ (lines.flatMap Line.chars).length := by
  induction lines with
  | nil => exact Nat.le_refl 0
  | cons l lines ih =>
    have hl : 1 ≤ l.chars.length := by
      rw [Line.chars, List.length_append, List.length_singleton]
      omega
    rw [List.flatMap_cons, List.length_append, List.length_cons]
    omega

/-- **A document of lines with different keys is the table of their keys and values.** -/
theorem ofText?_lines {lines : List Line} (h : ∀ l ∈ lines, l.OK)
    (hkeys : (lines.map Line.key).Nodup) :
    ofText? (String.ofList (lines.flatMap Line.chars)) = some (lines.map Line.entry) := by
  have hmark : ∀ rest, lines.flatMap Line.chars ≠ '\ufeff' :: rest := by
    intro rest heq
    cases lines with
    | nil => cases heq
    | cons l lines =>
      have hl := h l List.mem_cons_self
      obtain ⟨c, more, hchars, hc⟩ := hl.exists_head (lines.flatMap Line.chars)
      rw [List.flatMap_cons, hchars] at heq
      exact ne_of_isBare hc (by decide) (List.cons.inj heq).1
  have hread := readDefinitions_lines h (Nat.lt_succ_of_le (length_le_flatMap_chars lines)) []
  have hbuild := @build_lines lines [] hkeys
  unfold ofText?
  rw [String.toList_ofList]
  split
  · next rest heq => exact absurd heq (hmark rest)
  · exact (congrArg (Option.bind · (build [] [])) hread).trans hbuild

end GraphGateway.Toml
