/-
What the operations on files change.

Each operation is told by what stands at every location afterwards. Making directories adds
directories where there was nothing (`Grows`), also if it fails part-way; writing puts a file at the
place of its path; moving puts it at another place and leaves nothing behind (`Moves`). Writing and
moving leave the directories as they are, so paths have the same places before and afterwards.
-/
import GraphGateway.Json.Basic
import GraphGateway.Proofs.Files.Following

namespace GraphGateway.Files

/-- What a file holds. -/
def Node.content? : Node → Option (List UInt8)
  | .directory => none
  | .file content => some content

namespace Tree

variable {t t' t'' : Tree} {l origin target : Location} {p source : Path} {content : List UInt8}

/-- The content of the file at a location. -/
def file? (t : Tree) (l : Location) : Option (List UInt8) := (t.node? l).bind Node.content?

theorem file?_congr (h : t'.node? l = t.node? l) : t'.file? l = t.file? l := by
  rw [file?, h, file?]

theorem file?_of_node (h : t.node? l = some (.file content)) : t.file? l = some content := by
  rw [file?, h]
  rfl

theorem file?_eq_some_iff : t.file? l = some content ↔ t.node? l = some (.file content) := by
  refine ⟨fun h => ?_, file?_of_node⟩
  unfold file? at h
  cases hnode : t.node? l with
  | none => simp [hnode] at h
  | some n =>
    cases n with
    | directory => simp [hnode, Node.content?] at h
    | file bytes => simpa [hnode, Node.content?] using h

/-! ## Putting and taking away -/

theorem node?_put (hl : l ≠ []) (n : Node) (l' : Location) :
    (t.put l n).node? l' = if l' = l then some n else t.node? l' := by
  unfold node? put
  by_cases hroot : l' = []
  · rw [if_pos hroot, if_neg (hroot ▸ Ne.symm hl), if_pos hroot]
  · simp only [hroot, if_false]
    rw [List.lookup_append, Json.lookup_filter (· != l)]
    by_cases hsame : l' = l
    · simp [hsame]
    · have hne : (l' == l) = false := by simpa using hsame
      simp [bne, hne, hsame, List.lookup_cons]

theorem node?_remove (hl : l ≠ []) (l' : Location) :
    (t.remove l).node? l' = if l' = l then none else t.node? l' := by
  unfold node? remove
  by_cases hroot : l' = []
  · rw [if_pos hroot, if_neg (hroot ▸ Ne.symm hl), if_pos hroot]
  · simp only [hroot, if_false]
    rw [Json.lookup_filter (· != l)]
    by_cases hsame : l' = l <;> simp [hsame]

theorem ne_nil_of_file (h : t.node? l = some (.file content)) : l ≠ [] := by
  rintro rfl
  rw [node?, if_pos rfl] at h
  cases h

/-- A file in a place where there is no directory changes no directory. -/
theorem alike_put (hl : l ≠ []) (hnot : t.isDirectoryAt l = false) (content : List UInt8) :
    t.Alike (t.put l (.file content)) where
  here := rfl
  directory l' := by
    rw [isDirectoryAt, node?_put hl]
    by_cases h : l' = l
    · rw [if_pos h, h, hnot]
      rfl
    · rw [if_neg h, isDirectoryAt]

/-! ## Making directories -/

/-- A tree is another one with more directories, where there was nothing before. -/
structure Grows (t t' : Tree) : Prop where
  here : t'.here = t.here
  node (l : Location) : t'.node? l = t.node? l ∨ t.node? l = none ∧ t'.node? l = some .directory

theorem Grows.refl (t : Tree) : t.Grows t := ⟨rfl, fun _ => .inl rfl⟩

theorem Grows.trans (h : t.Grows t') (h' : t'.Grows t'') : t.Grows t'' where
  here := h'.here.trans h.here
  node l := by
    rcases h.node l with hsame | ⟨hnone, hmade⟩
    · rw [← hsame]
      exact h'.node l
    · refine .inr ⟨hnone, ?_⟩
      rcases h'.node l with hsame | ⟨hnone', -⟩
      · rw [hsame, hmade]
      · rw [hmade] at hnone'
        cases hnone'

theorem Grows.node_of_some (h : t.Grows t') {n : Node} (hnode : t.node? l = some n) :
    t'.node? l = some n := by
  rcases h.node l with hsame | ⟨hnone, -⟩
  · rw [hsame, hnode]
  · rw [hnode] at hnone
    cases hnone

theorem Grows.keeps (h : t.Grows t') : t.Keeps t' where
  here := h.here
  directory _ hl := isDirectoryAt_iff.mpr (h.node_of_some (isDirectoryAt_iff.mp hl))

/-- Directories are no files. -/
theorem Grows.file?_eq (h : t.Grows t') (l : Location) : t'.file? l = t.file? l := by
  rcases h.node l with hsame | ⟨hnone, hmade⟩
  · exact file?_congr hsame
  · rw [file?, file?, hnone, hmade]
    rfl

theorem Grows.readBytes (h : t.Grows t') (hread : t.readBytes p = .ok content) :
    t'.readBytes p = .ok content := by
  unfold Tree.readBytes at hread ⊢
  cases hlocate : t.locate p with
  | error e =>
    rw [hlocate] at hread
    cases hread
  | ok l =>
    simp only [hlocate] at hread
    cases hnode : t.node? l with
    | none =>
      rw [hnode] at hread
      cases hread
    | some n =>
      have hnode' := h.node_of_some hnode
      have hlocate' : t'.locate p = .ok l := h.keeps.locate hlocate (by rw [hnode']; rfl)
      rw [hnode] at hread
      simp only [hlocate', hnode']
      exact hread

theorem createDirectory_makes (h : t.createDirectory p = .ok t') :
    t.Grows t' ∧ t'.isDirectory p = true := by
  unfold createDirectory at h
  split at h
  · cases h
  · cases h
  · next directory name slashed hplace =>
    split at h
    · cases h
    · next hfree =>
      obtain rfl := Except.ok.inj h
      have hnode (l' : Location) : (t.put (directory ++ [name]) .directory).node? l' =
          if l' = directory ++ [name] then some .directory else t.node? l' :=
        node?_put (by simp) .directory l'
      have hgrows : t.Grows (t.put (directory ++ [name]) .directory) := by
        refine ⟨rfl, fun l' => ?_⟩
        rw [hnode]
        by_cases hsame : l' = directory ++ [name]
        · rw [if_pos hsame, hsame]
          exact .inr ⟨by simpa using hfree, rfl⟩
        · rw [if_neg hsame]
          exact .inl rfl
      have hmade : (t.put (directory ++ [name]) .directory).isDirectoryAt (directory ++ [name]) =
          true := isDirectoryAt_iff.mpr (by rw [hnode, if_pos rfl])
      have hlocate := locate_of_place (hgrows.keeps.place hplace) (isSome_of_isDirectoryAt hmade)
        fun _ => hmade
      exact ⟨hgrows, isDirectory_iff.mpr ⟨_, hlocate, hmade⟩⟩

/-- A directory that is there is not made again. -/
theorem createDirectory_of_isDirectory (h : t.isDirectory p = true) :
    t.createDirectory p = .error .alreadyExists := by
  unfold createDirectory
  rcases place_of_isDirectory h with hplace | ⟨l, name, slashed, hplace, hnode⟩
  · rw [hplace]
  · simp [hplace, hnode]

/-- What making a directory and those on the way to it leaves: more directories, and that directory
among them if it succeeds. -/
structure Makes (t : Tree) (p : Path) (made : Except IoError Unit × Tree) : Prop where
  grows : t.Grows made.2
  made : made.1 = .ok () → p.isEmpty = true ∨ made.2.isDirectory p = true

/-- A failure does not matter if the directory is there. -/
theorem Grows.makes (h : t.Grows t') (e : IoError) :
    t.Makes p (if t'.isDirectory p then .ok () else .error e, t') := by
  refine ⟨h, fun hok => .inr ?_⟩
  split at hok
  · assumption
  · cases hok

theorem createDirectoriesFrom_makes (fuel : Nat) (t : Tree) (p : Path) :
    t.Makes p (createDirectoriesFrom fuel t p) := by
  induction fuel generalizing t p with
  | zero => exact ⟨.refl t, nofun⟩
  | succ fuel ih =>
    unfold createDirectoriesFrom
    split
    · next hempty => exact ⟨.refl t, fun _ => .inl hempty⟩
    · split
      · next made hmade =>
        obtain ⟨hgrows, hthere⟩ := createDirectory_makes hmade
        exact ⟨hgrows, fun _ => .inr hthere⟩
      · split
        · exact ⟨.refl t, nofun⟩
        · next parent _ =>
          have hparent := (ih t parent).grows
          split
          · next e above habove =>
            rw [habove] at hparent
            exact ⟨hparent, nofun⟩
          · next above habove =>
            rw [habove] at hparent
            split
            · next made hmade =>
              obtain ⟨hgrows, hthere⟩ := createDirectory_makes hmade
              exact ⟨hparent.trans hgrows, fun _ => .inr hthere⟩
            · exact hparent.makes _
      · exact (Grows.refl t).makes _

theorem createDirectories_makes (t : Tree) (p : Path) : t.Makes p (t.createDirectories p) :=
  createDirectoriesFrom_makes _ t p

theorem createDirectories_of_isDirectory (h : p.isEmpty = true ∨ t.isDirectory p = true) :
    t.createDirectories p = (.ok (), t) := by
  unfold createDirectories createDirectoriesFrom
  by_cases hempty : p.isEmpty = true
  · rw [if_pos hempty]
  · have hthere : t.isDirectory p = true := h.resolve_left hempty
    simp [hempty, createDirectory_of_isDirectory hthere, hthere]

/-! ## Writing and moving -/

theorem writeBytes_eq_ok_iff : t.writeBytes p content = .ok t' ↔
    ∃ l, t.FilePlace p l ∧ t' = t.put l (.file content) := by
  constructor
  · intro h
    unfold writeBytes at h
    split at h
    · cases h
    · cases h
    · next directory name slashed hplace =>
      split at h
      · cases h
      · next hfree =>
        simp only [Bool.or_eq_true, not_or, Bool.not_eq_true] at hfree
        obtain ⟨rfl, hnot⟩ := hfree
        exact ⟨_, ⟨directory, name, hplace, rfl, hnot⟩, (Except.ok.inj h).symm⟩
  · rintro ⟨l, ⟨directory, name, hplace, rfl, hnot⟩, rfl⟩
    simp [writeBytes, hplace, hnot]

theorem writeBytes_of_no_filePlace (h : ∀ l, ¬t.FilePlace p l) (content : List UInt8) :
    ∃ e, t.writeBytes p content = .error e := by
  cases hwrite : t.writeBytes p content with
  | error e => exact ⟨e, rfl⟩
  | ok t' =>
    obtain ⟨l, hplace, -⟩ := writeBytes_eq_ok_iff.mp hwrite
    exact absurd hplace (h l)

/-- A file is read behind its path. -/
theorem FilePlace.readBytes (h : t.FilePlace p l) (hfile : t.file? l = some content) :
    t.readBytes p = .ok content := by
  have hnode := file?_eq_some_iff.mp hfile
  have hlocate := h.locate (by rw [hnode]; rfl)
  simp only [Tree.readBytes, hlocate, hnode]

/-- A file with some content stands at one location and nothing at another, unless they are the
same; everything else is as before. -/
structure Moves (t t' : Tree) (origin target : Location) (content : List UInt8) : Prop where
  here : t'.here = t.here
  node (l : Location) : t'.node? l =
    if l = target then some (.file content) else if l = origin then none else t.node? l

theorem Moves.file?_target (h : t.Moves t' origin target content) :
    t'.file? target = some content := by
  apply file?_of_node
  rw [h.node, if_pos rfl]

theorem Moves.file?_origin (h : t.Moves t' origin target content) (hne : origin ≠ target) :
    t'.file? origin = none := by
  rw [file?, h.node, if_neg hne, if_pos rfl]
  rfl

theorem Moves.file?_other (h : t.Moves t' origin target content) (htarget : l ≠ target)
    (horigin : l ≠ origin) : t'.file? l = t.file? l := by
  apply file?_congr
  rw [h.node, if_neg htarget, if_neg horigin]

theorem Moves.alike (h : t.Moves t' origin target content)
    (horigin : t.isDirectoryAt origin = false) (htarget : t.isDirectoryAt target = false) :
    t.Alike t' where
  here := h.here
  directory l := by
    rw [isDirectoryAt, h.node]
    by_cases hl : l = target
    · rw [if_pos hl, hl, htarget]
      rfl
    · rw [if_neg hl]
      by_cases hl' : l = origin
      · rw [if_pos hl', hl', horigin]
        rfl
      · rw [if_neg hl', isDirectoryAt]

/-- A file that was written before it is moved does not matter where it was written. -/
theorem Moves.of_put (h : (t.put origin (.file content)).Moves t' origin target content)
    (horigin : origin ≠ []) : t.Moves t' origin target content where
  here := h.here
  node l := by
    rw [h.node, node?_put horigin]
    split
    · rfl
    · split <;> rfl

section Rename

variable (hlocate : t.locate source = .ok origin) (hnode : t.node? origin = some (.file content))
include hlocate hnode

theorem renameFile_of_filePlace (h : t.FilePlace p target) :
    ∃ t', t.renameFile source p = .ok t' ∧ t.Moves t' origin target content := by
  obtain ⟨directory, name, hplace, rfl, hnot⟩ := h
  have horigin := ne_nil_of_file hnode
  have hrename : t.renameFile source p =
      if origin = directory ++ [name] then .ok t
      else .ok ((t.remove origin).put (directory ++ [name]) (.file content)) := by
    simp only [renameFile, hlocate, hnode, hplace, hnot, Bool.false_eq_true, if_false]
  -- A file that is moved to where it stands stays there.
  by_cases hsame : origin = directory ++ [name]
  · refine ⟨t, hrename.trans (if_pos hsame), rfl, fun l => ?_⟩
    by_cases hl : l = directory ++ [name]
    · rw [if_pos hl, hl, ← hsame, hnode]
    · rw [if_neg hl, if_neg (hsame ▸ hl)]
  · refine ⟨_, hrename.trans (if_neg hsame), rfl, fun l => ?_⟩
    rw [node?_put (by simp), node?_remove horigin]

theorem renameFile_of_no_filePlace (h : ∀ l, ¬t.FilePlace p l) :
    ∃ e, t.renameFile source p = .error e := by
  cases hplace : t.place p with
  | error e => exact ⟨e, by simp only [renameFile, hlocate, hnode, hplace]⟩
  | ok place =>
    cases place with
    | directory => exact ⟨.busy, by simp only [renameFile, hlocate, hnode, hplace]⟩
    | entry directory name slashed =>
      cases slashed with
      | true => exact ⟨.notDirectory, by simp [renameFile, hlocate, hnode, hplace]⟩
      | false =>
        cases hthere : t.isDirectoryAt (directory ++ [name]) with
        | true => exact ⟨.isDirectory, by simp [renameFile, hlocate, hnode, hplace, hthere]⟩
        | false => exact absurd ⟨directory, name, hplace, rfl, hthere⟩ (h _)

end Rename

end Tree

end GraphGateway.Files
