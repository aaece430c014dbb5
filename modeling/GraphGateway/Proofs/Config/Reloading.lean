/-
Loading what was saved.

The text of a configuration is a document of plain lines (`linesOf`), which gives every field but
the script for seeding, and that one if there is one. What a save has put at its path is the whole text, so it is
loaded as it was saved, and saving it again takes the same way to the same bytes (`load_save`).
-/
import GraphGateway.Proofs.CommandLine.Layers
import GraphGateway.Proofs.Config.Saving
import GraphGateway.Proofs.Config.Transport
import GraphGateway.Proofs.Toml.Lines

namespace GraphGateway.Config

open Files (Tree Location Path)
open Text.Utf8 (encode)

variable {c : Config} {t t' : Tree} {path : Path} {text : String}

/-! ## The text -/

/-- The lines of a configuration whose paths are given as texts. -/
def linesOf (dbPath : String) (readOnly : Bool) (seedFile : Option String) (logLevel : String) :
    List Toml.Line :=
  ⟨"db_path", Toml.Quoted.write dbPath.toList, .string dbPath⟩ ::
  ⟨"read_only", if readOnly then ['t', 'r', 'u', 'e'] else ['f', 'a', 'l', 's', 'e'],
    .flag readOnly⟩ ::
  (seedFile.toList.map fun s => ⟨"seed_file", Toml.Quoted.write s.toList, .string s⟩) ++
  [⟨"log_level", Toml.Quoted.write logLevel.toList, .string logLevel⟩]

/-- A configuration is written line by line. -/
theorem exists_lines_of_text? (h : c.text? = some text) : ∃ dbPath seedFile,
    c.dbPath = Path.ofString dbPath ∧ c.seedFile = seedFile.map Path.ofString ∧
      text = String.ofList ((linesOf dbPath c.readOnly seedFile c.logLevel).flatMap
        Toml.Line.chars) := by
  obtain ⟨g, hg, rfl⟩ := Option.map_eq_some_iff.mp h
  obtain ⟨dbPath, seedFile, rfl, hdbPath, hseedFile⟩ := given?_eq_some_iff.mp hg
  refine ⟨dbPath, seedFile, hdbPath, hseedFile, ?_⟩
  cases seedFile <;> simp [Given.lines, linesOf, stringLine, flagLine, Toml.Line.chars]

theorem text?_eq_none_iff : c.text? = none ↔ ¬c.HasTexts := by
  rw [text?, Option.map_eq_none_iff, given?_eq_none_iff]

/-! ## Reading it -/

theorem bare_key {key : String} (h : key ∈ ["db_path", "read_only", "seed_file", "log_level"]) :
    key ≠ "" ∧ ∀ c ∈ key.toList, Toml.isBare c = true := by
  simp only [List.mem_cons, List.not_mem_nil, or_false] at h
  rcases h with rfl | rfl | rfl | rfl <;> exact ⟨by decide, List.all_eq_true.mp rfl⟩

theorem linesOf_ok (dbPath : String) (readOnly : Bool) (seedFile : Option String)
    (logLevel : String) : ∀ l ∈ linesOf dbPath readOnly seedFile logLevel, l.OK := by
  have hstring {key : String} (hkey : key ∈ ["db_path", "read_only", "seed_file", "log_level"])
      (s : String) : (⟨key, Toml.Quoted.write s.toList, .string s⟩ : Toml.Line).OK := by
    have hwritten := Toml.isWritten_string s.toList
    rw [String.ofList_toList] at hwritten
    exact ⟨(bare_key hkey).1, (bare_key hkey).2, hwritten⟩
  have hflag : "read_only" ≠ "" ∧ ∀ c ∈ "read_only".toList, Toml.isBare c = true :=
    bare_key (by simp)
  simp only [linesOf, List.mem_append, List.mem_cons, List.mem_map, Option.mem_toList]
  rintro l ((rfl | rfl | ⟨s, -, rfl⟩) | rfl | hl)
  · exact hstring (by simp) dbPath
  · exact ⟨hflag.1, hflag.2, Toml.isWritten_flag readOnly⟩
  · exact hstring (by simp) s
  · exact hstring (by simp) logLevel
  · cases hl

/-- The text of a configuration gives each of its fields. -/
theorem textGives_of_text? (h : c.text? = some text) :
    TextGives text ⟨some c.dbPath, some c.readOnly, c.seedFile, some c.logLevel⟩ := by
  obtain ⟨dbPath, seedFile, hdbPath, hseedFile, rfl⟩ := exists_lines_of_text? h
  have hkeys : ((linesOf dbPath c.readOnly seedFile c.logLevel).map Toml.Line.key).Nodup := by
    cases seedFile <;> simp [linesOf]
  have htext := Toml.ofText?_lines (linesOf_ok dbPath c.readOnly seedFile c.logLevel) hkeys
  rw [hdbPath, hseedFile]
  change TextGives _ ⟨(some dbPath).map Path.ofString, some c.readOnly,
    seedFile.map Path.ofString, some c.logLevel⟩
  refine .mk htext ?_ ?_ ?_ ?_ <;>
    cases seedFile <;> simp [linesOf, Toml.Line.entry, List.lookup_cons]

theorem load_of_text? (dataDirectory : Option Path) (h : c.text? = some text)
    (hread : t.readBytes path = .ok (encode text)) :
    load (initial dataDirectory) t path = .ok c := by
  refine load_eq_ok_iff.mpr ⟨_, ⟨text, ?_, textGives_of_text? h⟩, ?_⟩
  · simp only [Tree.readText, hread, Text.Utf8.decode_encode]
  · simp [Layer.over, initial]

/-! ## Saving and loading -/

/-- **What is saved is loaded again.** Whatever the files and the path are, a configuration that has
been saved is what its file is loaded as, and saving that again succeeds and leaves the same bytes.
A configuration with a path that is no text is not saved, and no file changes. -/
theorem load_save (dataDirectory : Option Path) (c : Config) (t : Tree) (path : Path) :
    (∀ t', c.save t path = (.ok (), t') → load (initial dataDirectory) t' path = .ok c ∧
      ∃ bytes t'', t'.readBytes path = .ok bytes ∧ c.save t' path = (.ok (), t'') ∧
        t''.readBytes path = .ok bytes) ∧
    (¬c.HasTexts → ∃ message t', c.save t path = (.error (.config message), t') ∧
      (∀ l, t'.file? l = t.file? l) ∧
      ∀ bytes, t.readBytes path = .ok bytes → t'.readBytes path = .ok bytes) := by
  obtain ⟨result, t', hsave, hends⟩ := save_ends c t path
  constructor
  · intro t' hok
    rw [hok] at hsave
    cases hsave
    cases hends with
    | saved hprepared htext horigin htarget hmoves =>
      have halike := hmoves.alike horigin.not_directory htarget.not_directory
      have hread := (halike.filePlace htarget).readBytes hmoves.file?_target
      -- Saved again, it finds its directory and the places of both files as they were.
      have hagain := prepareDirectory_of_keeps hprepared halike.keeps
      obtain ⟨t'', hreplace, hmoves'⟩ := replaceFile_of_filePlace (halike.filePlace horigin) _
        (halike.filePlace htarget)
      have halike' := hmoves'.alike (halike.filePlace horigin).not_directory
        (halike.filePlace htarget).not_directory
      refine ⟨load_of_text? dataDirectory htext hread, _, t'', hread, ?_,
        (halike'.filePlace (halike.filePlace htarget)).readBytes hmoves'.file?_target⟩
      rw [save_eq_replaceFile hagain htext, hreplace]
  · intro hnot
    have htext := text?_eq_none_iff.mpr hnot
    cases hends with
    | unprepared hprepared | untold hprepared =>
      have hgrows := grows_of_prepareDirectory hprepared
      exact ⟨_, _, hsave, hgrows.file?_eq, fun _ => hgrows.readBytes⟩
    | unwritten _ hsome | unmoved _ hsome | saved _ hsome =>
      rw [htext] at hsome
      cases hsome

/-- Quotes, slashes and ends of lines are saved too, and a file that is its own temporary one. -/
theorem load_save_quotes :
    let c : Config := ⟨Path.ofString "it's", true, some (Path.ofString "a\"\"\"\n"), "\\\t"⟩
    ∃ t', c.save ⟨[], []⟩ (Path.ofString "app.tmp") = (.ok (), t') ∧
      load (initial none) t' (Path.ofString "app.tmp") = .ok c := by
  intro c
  have hok : (c.save ⟨[], []⟩ (Path.ofString "app.tmp")).1.toBool = true := by decide +kernel
  rcases hsave : c.save ⟨[], []⟩ (Path.ofString "app.tmp") with ⟨result, t'⟩
  rw [hsave] at hok
  cases result with
  | error f => cases hok
  | ok => exact ⟨t', rfl, ((load_save none c ⟨[], []⟩ (Path.ofString "app.tmp")).1 t' hsave).1⟩

end GraphGateway.Config
