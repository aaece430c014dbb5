/-
Saving a configuration.

Saving makes the directory of the target, writes a temporary file beside the target and moves it
there. It can end in five ways, and only the last two change a file (`Ending`, `save_ends`). The
file at the target is replaced as a whole or left as it was. The temporary file is not spared: what
stood in its place is lost once it is moved, and if it cannot be moved it stays
(`save_disturbs_temporary`). Exactly when neither happens does saving change nothing but its target
and, if it fails, nothing at all (`save_spares_files`).
-/
import GraphGateway.Config.File
import GraphGateway.Proofs.Files.Changing

namespace GraphGateway.Config

open Files (Tree Location Path)
open Text.Utf8 (encode)

variable {c : Config} {t t' prepared : Tree} {path : Path} {text : String}
  {origin target : Location}

/-! ## The directory of the target -/

theorem grows_of_prepareDirectory {made : Except Failure Unit}
    (h : prepareDirectory t path = (made, t')) : t.Grows t' := by
  unfold prepareDirectory at h
  split at h
  · cases h
    exact .refl t
  · next parent _ =>
    have hgrows := (Tree.createDirectories_makes t parent).grows
    rcases hmade : t.createDirectories parent with ⟨result, above⟩
    rw [hmade] at h hgrows
    cases result <;> cases h <;> exact hgrows

theorem prepareDirectory_result (t : Tree) (path : Path) :
    ∃ prepared, prepareDirectory t path = (.ok (), prepared) ∨
      ∃ message, prepareDirectory t path = (.error (.config message), prepared) := by
  unfold prepareDirectory
  split
  · exact ⟨t, .inl rfl⟩
  · next parent _ =>
    rcases t.createDirectories parent with ⟨made, prepared⟩
    cases made with
    | ok => exact ⟨prepared, .inl rfl⟩
    | error e => exact ⟨prepared, .inr ⟨_, rfl⟩⟩

/-- A directory that has been made is not made again. -/
theorem prepareDirectory_of_keeps (h : prepareDirectory t path = (.ok (), prepared))
    (hkeeps : prepared.Keeps t') : prepareDirectory t' path = (.ok (), t') := by
  unfold prepareDirectory at h ⊢
  split at h
  · rfl
  · next parent _ =>
    have hmakes := Tree.createDirectories_makes t parent
    rcases hmade : t.createDirectories parent with ⟨made, above⟩
    rw [hmade] at h hmakes
    cases made with
    | error e => cases h
    | ok =>
      cases h
      have hthere := (hmakes.made rfl).imp_right hkeeps.isDirectory
      rw [Tree.createDirectories_of_isDirectory hthere]
      rfl

/-! ## The ways it can end -/

/-- The path of the temporary file. -/
def temporaryOf (path : Path) : Path := path.withExtension temporaryExtension

/-- Every way that saving can end, with what it takes and what it leaves. -/
inductive Ending (c : Config) (t : Tree) (path : Path) : Except Failure Unit → Tree → Prop where
  /-- The directory cannot be made. -/
  | unprepared {message : String} {t' : Tree}
    (hprepared : prepareDirectory t path = (.error (.config message), t')) :
    Ending c t path (.error (.config message)) t'
  /-- The configuration has no text. -/
  | untold {message : String} {prepared : Tree}
    (hprepared : prepareDirectory t path = (.ok (), prepared)) (htext : c.text? = none) :
    Ending c t path (.error (.config message)) prepared
  /-- The temporary file cannot be written. -/
  | unwritten {message text : String} {prepared : Tree}
    (hprepared : prepareDirectory t path = (.ok (), prepared)) (htext : c.text? = some text)
    (hnone : ∀ l, ¬prepared.FilePlace (temporaryOf path) l) :
    Ending c t path (.error (.config message)) prepared
  /-- The temporary file is written and cannot be moved. -/
  | unmoved {message text : String} {prepared : Tree} {origin : Location}
    (hprepared : prepareDirectory t path = (.ok (), prepared)) (htext : c.text? = some text)
    (horigin : prepared.FilePlace (temporaryOf path) origin)
    (hnone : ∀ l, ¬prepared.FilePlace path l) :
    Ending c t path (.error (.config message)) (prepared.put origin (.file (encode text)))
  | saved {text : String} {prepared t' : Tree} {origin target : Location}
    (hprepared : prepareDirectory t path = (.ok (), prepared)) (htext : c.text? = some text)
    (horigin : prepared.FilePlace (temporaryOf path) origin)
    (htarget : prepared.FilePlace path target)
    (hmoves : prepared.Moves t' origin target (encode text)) : Ending c t path (.ok ()) t'

section Written

variable (horigin : prepared.FilePlace (temporaryOf path) origin)
include horigin

/-- The tree with the temporary file written. -/
theorem writeBytes_temporary (text : String) :
    prepared.writeBytes (path.withExtension temporaryExtension) (encode text) =
      .ok (prepared.put origin (.file (encode text))) :=
  Tree.writeBytes_eq_ok_iff.mpr ⟨origin, horigin, rfl⟩

/-- What is written is found, and the directories are as before. -/
theorem located_temporary (text : String) :
    prepared.Alike (prepared.put origin (.file (encode text))) ∧
      (prepared.put origin (.file (encode text))).locate (temporaryOf path) = .ok origin ∧
      (prepared.put origin (.file (encode text))).node? origin = some (.file (encode text)) := by
  have halike := Tree.alike_put horigin.ne_nil horigin.not_directory (encode text)
  have hnode : (prepared.put origin (.file (encode text))).node? origin =
      some (.file (encode text)) := by rw [Tree.node?_put horigin.ne_nil, if_pos rfl]
  exact ⟨halike, (halike.filePlace horigin).locate (by rw [hnode]; rfl), hnode⟩

theorem replaceFile_of_filePlace (text : String) (htarget : prepared.FilePlace path target) :
    ∃ t', replaceFile prepared path text = (.ok (), t') ∧
      prepared.Moves t' origin target (encode text) := by
  obtain ⟨halike, hlocate, hnode⟩ := located_temporary horigin text
  obtain ⟨t', hrename, hmoves⟩ :=
    Tree.renameFile_of_filePlace hlocate hnode (halike.filePlace htarget)
  -- Writing the temporary file is undone by the move, unless it is the target itself.
  refine ⟨t', ?_, hmoves.of_put horigin.ne_nil⟩
  rw [temporaryOf] at hrename
  simp only [replaceFile, writeBytes_temporary horigin, hrename]

theorem replaceFile_of_no_filePlace (text : String)
    (hnone : ∀ l, ¬prepared.FilePlace path l) : ∃ message, replaceFile prepared path text =
      (.error (.config message), prepared.put origin (.file (encode text))) := by
  obtain ⟨halike, hlocate, hnode⟩ := located_temporary horigin text
  obtain ⟨e, hrename⟩ := Tree.renameFile_of_no_filePlace hlocate hnode fun l hl =>
    hnone l (halike.filePlace_iff.mp hl)
  rw [temporaryOf] at hrename
  simp only [replaceFile, writeBytes_temporary horigin, hrename]
  exact ⟨_, rfl⟩

end Written

theorem replaceFile_of_unwritten (text : String)
    (hnone : ∀ l, ¬prepared.FilePlace (temporaryOf path) l) : ∃ message,
    replaceFile prepared path text = (.error (.config message), prepared) := by
  obtain ⟨e, hwrite⟩ := Tree.writeBytes_of_no_filePlace hnone (encode text)
  rw [temporaryOf] at hwrite
  simp only [replaceFile, hwrite]
  exact ⟨_, rfl⟩

theorem save_eq_replaceFile (hprepared : prepareDirectory t path = (.ok (), prepared))
    (htext : c.text? = some text) : c.save t path = replaceFile prepared path text := by
  simp only [save, hprepared, htext]

theorem save_of_no_text (hprepared : prepareDirectory t path = (.ok (), prepared))
    (htext : c.text? = none) : ∃ message, c.save t path = (.error (.config message), prepared) := by
  simp only [save, hprepared, htext]
  exact ⟨_, rfl⟩

theorem save_ends (c : Config) (t : Tree) (path : Path) :
    ∃ result t', c.save t path = (result, t') ∧ c.Ending t path result t' := by
  obtain ⟨prepared, hprepared | ⟨message, hprepared⟩⟩ := prepareDirectory_result t path
  · cases htext : c.text? with
    | none =>
      obtain ⟨message, hsave⟩ := save_of_no_text hprepared htext
      exact ⟨_, _, hsave, .untold hprepared htext⟩
    | some text =>
      rw [save_eq_replaceFile hprepared htext]
      by_cases horigin : ∃ origin, prepared.FilePlace (temporaryOf path) origin
      · obtain ⟨origin, horigin⟩ := horigin
        by_cases htarget : ∃ target, prepared.FilePlace path target
        · obtain ⟨target, htarget⟩ := htarget
          obtain ⟨t', hsave, hmoves⟩ := replaceFile_of_filePlace horigin text htarget
          exact ⟨_, _, hsave, .saved hprepared htext horigin htarget hmoves⟩
        · have hnone := not_exists.mp htarget
          obtain ⟨message, hsave⟩ := replaceFile_of_no_filePlace horigin text hnone
          exact ⟨_, _, hsave, .unmoved hprepared htext horigin hnone⟩
      · have hnone := not_exists.mp horigin
        obtain ⟨message, hsave⟩ := replaceFile_of_unwritten text hnone
        exact ⟨_, _, hsave, .unwritten hprepared htext hnone⟩
  · refine ⟨_, prepared, ?_, .unprepared hprepared⟩
    simp only [save, hprepared]

/-! ## What is spared -/

/-- Nothing but the file at the path changes, and nothing at all in case of a failure. -/
def Atomic (t : Tree) (path : Path) (t' : Tree) : Except Failure Unit → Prop
  | .ok () => ∃ target, t'.FilePlace path target ∧ ∀ l, l ≠ target → t'.file? l = t.file? l
  | .error _ => ∀ l, t'.file? l = t.file? l

/-- If it comes to writing the temporary file, then either it can be moved to the path and no other
file stands in its place, or it cannot be moved and stood there already as it is written. -/
def Undisturbed (c : Config) (t : Tree) (path : Path) : Prop :=
  ∀ prepared text origin, prepareDirectory t path = (.ok (), prepared) → c.text? = some text →
    prepared.FilePlace (temporaryOf path) origin →
      (∃ target, prepared.FilePlace path target ∧ (origin = target ∨ t.file? origin = none)) ∨
      (∀ target, ¬prepared.FilePlace path target) ∧ t.file? origin = some (encode text)

/-- What a save spares. -/
structure Spares (c : Config) (t : Tree) (path : Path) (result : Except Failure Unit) (t' : Tree) :
    Prop where
  /-- Only two files can change: the one at the path and the temporary one. -/
  others (l : Location) : ¬t'.FilePlace path l → ¬t'.FilePlace (temporaryOf path) l →
    t'.file? l = t.file? l
  /-- The file at the path is written as a whole, and no temporary file is left. -/
  saved : result = .ok () → ∃ text target, c.text? = some text ∧ t'.FilePlace path target ∧
    t'.file? target = some (encode text) ∧
    ∀ l, t'.FilePlace (temporaryOf path) l → l ≠ target → t'.file? l = none
  /-- A failure leaves the file at the path as it was. -/
  refused (f : Failure) : result = .error f →
    (∃ message, f = .config message) ∧ ∀ l, t'.FilePlace path l → t'.file? l = t.file? l
  atomic_iff : Atomic t path t' result ↔ c.Undisturbed t path

/-- A failure that changes no file. -/
theorem Spares.of_refused {message : String} (hfiles : ∀ l, t'.file? l = t.file? l)
    (hquiet : c.Undisturbed t path) : c.Spares t path (.error (.config message)) t' where
  others l _ _ := hfiles l
  saved := nofun
  refused := by
    rintro f ⟨⟩
    exact ⟨⟨message, rfl⟩, fun l _ => hfiles l⟩
  atomic_iff := iff_of_true hfiles hquiet

section Ending

variable (hprepared : prepareDirectory t path = (.ok (), prepared))
include hprepared

theorem file?_prepared (l : Location) : prepared.file? l = t.file? l :=
  (grows_of_prepareDirectory hprepared).file?_eq l

variable (htext : c.text? = some text) (horigin : prepared.FilePlace (temporaryOf path) origin)
include htext horigin

theorem undisturbed_iff_of_filePlace (htarget : prepared.FilePlace path target) :
    c.Undisturbed t path ↔ origin = target ∨ t.file? origin = none := by
  constructor
  · intro h
    rcases h prepared text origin hprepared htext horigin with ⟨target', htarget', hfree⟩ | hnone
    · rwa [htarget.unique htarget']
    · exact absurd htarget (hnone.1 target)
  · intro h prepared' text' origin' hprepared' _ horigin'
    obtain rfl : prepared = prepared' := by simpa [hprepared] using hprepared'
    obtain rfl := horigin.unique horigin'
    exact .inl ⟨target, htarget, h⟩

theorem undisturbed_iff_of_no_filePlace (hnone : ∀ l, ¬prepared.FilePlace path l) :
    c.Undisturbed t path ↔ t.file? origin = some (encode text) := by
  constructor
  · intro h
    rcases h prepared text origin hprepared htext horigin with ⟨target, htarget, -⟩ | hsame
    · exact absurd htarget (hnone target)
    · exact hsame.2
  · intro h prepared' text' origin' hprepared' htext' horigin'
    obtain rfl : prepared = prepared' := by simpa [hprepared] using hprepared'
    obtain rfl := Option.some.inj (htext.symm.trans htext')
    obtain rfl := horigin.unique horigin'
    exact .inr ⟨hnone, h⟩

theorem spares_unmoved (hnone : ∀ l, ¬prepared.FilePlace path l) (message : String) :
    c.Spares t path (.error (.config message)) (prepared.put origin (.file (encode text))) := by
  obtain ⟨halike, -, hnode⟩ := located_temporary horigin text
  have hwritten := Tree.file?_of_node hnode
  have hother (l : Location) (hl : l ≠ origin) :
      (prepared.put origin (.file (encode text))).file? l = t.file? l := by
    rw [← file?_prepared hprepared l]
    exact Tree.file?_congr (by rw [Tree.node?_put horigin.ne_nil, if_neg hl])
  refine ⟨fun l _ hl => hother l ?_, nofun, ?_, ?_⟩
  · rintro rfl
    exact hl (halike.filePlace horigin)
  · rintro f ⟨⟩
    exact ⟨⟨message, rfl⟩, fun l hl => absurd (halike.filePlace_iff.mp hl) (hnone l)⟩
  · rw [undisturbed_iff_of_no_filePlace hprepared htext horigin hnone]
    constructor
    · intro h
      rw [← h origin, hwritten]
    · intro h l
      by_cases hl : l = origin
      · rw [hl, hwritten, h]
      · exact hother l hl

theorem spares_saved (htarget : prepared.FilePlace path target)
    (hmoves : prepared.Moves t' origin target (encode text)) : c.Spares t path (.ok ()) t' := by
  have halike := hmoves.alike horigin.not_directory htarget.not_directory
  have hother (l : Location) (hl : l ≠ target) (hl' : l ≠ origin) : t'.file? l = t.file? l := by
    rw [hmoves.file?_other hl hl', file?_prepared hprepared l]
  refine ⟨fun l hl hl' => hother l ?_ ?_, fun _ => ?_, nofun, ?_⟩
  · rintro rfl
    exact hl (halike.filePlace htarget)
  · rintro rfl
    exact hl' (halike.filePlace horigin)
  · refine ⟨text, target, htext, halike.filePlace htarget, hmoves.file?_target, fun l hl hne => ?_⟩
    obtain rfl := horigin.unique (halike.filePlace_iff.mp hl)
    exact hmoves.file?_origin hne
  · rw [undisturbed_iff_of_filePlace hprepared htext horigin htarget]
    constructor
    · rintro ⟨target', htarget', hspared⟩
      obtain rfl := htarget.unique (halike.filePlace_iff.mp htarget')
      by_cases hsame : origin = target
      · exact .inl hsame
      · exact .inr (by rw [← hspared origin hsame, hmoves.file?_origin hsame])
    · intro hfree
      refine ⟨target, halike.filePlace htarget, fun l hl => ?_⟩
      by_cases hl' : l = origin
      · subst hl'
        rw [hmoves.file?_origin hl, hfree.resolve_left hl]
      · exact hother l hl hl'

end Ending

/-- **Saving replaces the file at its path as a whole or leaves it as it was, but does not spare the
temporary file.** Whatever the files, the path and the configuration are, only the file at the path
and the temporary one can change; a save that succeeds leaves the whole text at the path and no
temporary file, and one that fails leaves the file at the path as it was. That nothing else changes,
and nothing at all in case of a failure, holds exactly if no other file stands in place of the
temporary one and it can be moved. -/
theorem save_spares_files (c : Config) (t : Tree) (path : Path) :
    c.Spares t path (c.save t path).1 (c.save t path).2 := by
  obtain ⟨result, t', hsave, hends⟩ := save_ends c t path
  rw [hsave]
  cases hends with
  | unprepared hprepared =>
    have hfiles := (grows_of_prepareDirectory hprepared).file?_eq
    exact .of_refused hfiles fun _ _ _ hok => by simp [hprepared] at hok
  | untold hprepared htext =>
    exact .of_refused (file?_prepared hprepared) fun _ _ _ _ hsome => by simp [htext] at hsome
  | unwritten hprepared htext hnone =>
    refine .of_refused (file?_prepared hprepared) fun prepared text origin hok _ horigin => ?_
    rw [hprepared] at hok
    cases hok
    exact absurd horigin (hnone origin)
  | unmoved hprepared htext horigin hnone => exact spares_unmoved hprepared htext horigin hnone _
  | saved hprepared htext horigin htarget hmoves =>
    exact spares_saved hprepared htext horigin htarget hmoves

/-! ## What is not spared -/

def plainConfig : Config := ⟨Path.ofString "db", false, none, "info"⟩

def plainTarget : Path := Path.ofString "app.toml"

/-- Where the temporary file of the target stands. -/
def plainTemporary : Location := [encode "app.tmp"]

/-- Other notes, called what the temporary file is called. -/
def withNotes : Tree := ⟨[], [(plainTemporary, .file (encode "notes"))]⟩

/-- A directory with the name of the target. -/
def withFolder : Tree := ⟨[], [([encode "app.toml"], .directory)]⟩

/-- Saving loses a file that is called what the temporary one is called, and leaves the temporary
one behind if it cannot be moved. -/
theorem save_disturbs_temporary :
    (∃ t', plainConfig.save withNotes plainTarget = (.ok (), t') ∧
      withNotes.file? plainTemporary = some (encode "notes") ∧ t'.file? plainTemporary = none ∧
      ¬Atomic withNotes plainTarget t' (.ok ())) ∧
    ∃ f t', plainConfig.save withFolder plainTarget = (.error f, t') ∧
      withFolder.file? plainTemporary = none ∧
      t'.file? plainTemporary = plainConfig.text?.map encode ∧
      ¬Atomic withFolder plainTarget t' (.error f) := by
  have hsaved : (plainConfig.save withNotes plainTarget).1.toBool = true ∧
      withNotes.file? plainTemporary = some (encode "notes") ∧
      (plainConfig.save withNotes plainTarget).2.file? plainTemporary = none ∧
      ((plainConfig.save withNotes plainTarget).2.place plainTarget).toOption =
        some (.entry [] (encode "app.toml") false) := by
    decide +kernel
  have hrefused : (plainConfig.save withFolder plainTarget).1.toBool = false ∧
      withFolder.file? plainTemporary = none ∧
      (plainConfig.save withFolder plainTarget).2.file? plainTemporary =
        plainConfig.text?.map encode ∧ plainConfig.text?.isSome = true := by
    decide +kernel
  constructor
  · rcases hsave : plainConfig.save withNotes plainTarget with ⟨result, t'⟩
    rw [hsave] at hsaved
    obtain ⟨hok, hbefore, hafter, hplace⟩ := hsaved
    cases result with
    | error f => cases hok
    | ok =>
      refine ⟨t', rfl, hbefore, hafter, ?_⟩
      rintro ⟨target, ⟨directory, name, hentry, rfl, -⟩, hspared⟩
      obtain ⟨rfl, rfl⟩ : directory = [] ∧ name = encode "app.toml" := by
        simpa [hentry, Except.toOption] using hplace
      have hsame := hspared plainTemporary (by decide +kernel)
      rw [hbefore, hafter] at hsame
      cases hsame
  · rcases hsave : plainConfig.save withFolder plainTarget with ⟨result, t'⟩
    rw [hsave] at hrefused
    obtain ⟨herror, hbefore, hafter, htext⟩ := hrefused
    cases result with
    | ok => cases herror
    | error f =>
      refine ⟨f, t', rfl, hbefore, hafter, fun hspared => ?_⟩
      have hsame := hspared plainTemporary
      rw [hbefore, hafter] at hsame
      cases htext' : plainConfig.text? with
      | none => simp [htext'] at htext
      | some text => simp [htext'] at hsame

end GraphGateway.Config
