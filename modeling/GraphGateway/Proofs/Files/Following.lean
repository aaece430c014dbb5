/-
Following paths.

What one segment does is told by a relation with a rule for each kind of segment (`Step`), and a
path is followed step by step. Everything that is passed on the way is a directory. A path therefore
leads to the same location in every tree that has these directories too and something where the path
leads (`Keeps.locate`), and it has the same place in two trees with the same directories
(`Alike.filePlace_iff`), whatever files they hold.
-/
import GraphGateway.Files.Tree

namespace GraphGateway.Files

namespace Tree

variable {t t' : Tree} {l l' : Location} {p : Path} {segment : Name} {segments : List Name}

theorem isDirectoryAt_iff : t.isDirectoryAt l = true ↔ t.node? l = some .directory := by
  rw [isDirectoryAt, beq_iff_eq]

theorem isSome_of_isDirectoryAt (h : t.isDirectoryAt l = true) : (t.node? l).isSome = true := by
  rw [isDirectoryAt_iff.mp h]
  rfl

/-! ## One segment -/

/-- A segment that names an entry: neither nothing nor the directory itself nor the one above. -/
def IsEntryName (segment : Name) : Prop := Path.isIdle segment = false ∧ segment ≠ [dot, dot]

/-- Where a segment leads from a directory. -/
inductive Step (t : Tree) (l : Location) : Name → Location → Prop where
  | idle {segment : Name} (h : Path.isIdle segment = true) : Step t l segment l
  | back : Step t l [dot, dot] l.dropLast
  | down {segment : Name} (hname : IsEntryName segment) (hlength : segment.length ≤ maxNameLength)
    (hnode : (t.node? (l ++ [segment])).isSome = true) : Step t l segment (l ++ [segment])

theorem walk_cons_eq_ok_iff : t.walk l (segment :: segments) = .ok l' ↔
    t.isDirectoryAt l = true ∧ ∃ next, t.Step l segment next ∧ t.walk next segments = .ok l' := by
  constructor
  · intro h
    unfold walk at h
    split at h
    · next hdirectory =>
      refine ⟨hdirectory, ?_⟩
      split at h
      · next hidle => exact ⟨l, .idle hidle, h⟩
      · next hidle =>
        split at h
        · next hback =>
          subst hback
          exact ⟨l.dropLast, .back, h⟩
        · next hback =>
          split at h
          · cases h
          · next hlength =>
            split at h
            · next hnode =>
              have hname : IsEntryName segment := ⟨Bool.eq_false_iff.mpr hidle, hback⟩
              exact ⟨_, .down hname (Nat.le_of_not_lt hlength) hnode, h⟩
            · cases h
    · cases h
  · rintro ⟨hdirectory, next, hstep, h⟩
    cases hstep with
    | idle hidle => simpa only [walk, hdirectory, hidle, if_true] using h
    | back =>
      have hidle : Path.isIdle [dot, dot] = false := by decide
      simpa only [walk, hdirectory, hidle, Bool.false_eq_true, if_true, if_false] using h
    | down hname hlength hnode =>
      simpa only [walk, hdirectory, hname.1, hname.2, Nat.not_lt.mpr hlength, hnode,
        Bool.false_eq_true, if_true, if_false] using h

theorem walk_append_eq_ok_iff {front behind : List Name} : t.walk l (front ++ behind) = .ok l' ↔
    ∃ between, t.walk l front = .ok between ∧ t.walk between behind = .ok l' := by
  induction front generalizing l with
  | nil =>
    constructor
    · exact fun h => ⟨l, rfl, h⟩
    · rintro ⟨between, hfront, h⟩
      cases hfront
      exact h
  | cons segment front ih =>
    simp only [List.cons_append, walk_cons_eq_ok_iff, ih]
    constructor
    · rintro ⟨hdirectory, next, hstep, between, hfront, hbehind⟩
      exact ⟨between, ⟨hdirectory, next, hstep, hfront⟩, hbehind⟩
    · rintro ⟨between, ⟨hdirectory, next, hstep, hfront⟩, hbehind⟩
      exact ⟨hdirectory, next, hstep, between, hfront, hbehind⟩

/-- Slashes lead nowhere else. -/
theorem walk_slashes (h : t.isDirectoryAt l = true) {slashes : List Name}
    (hslashes : ∀ segment ∈ slashes, segment = []) : t.walk l slashes = .ok l := by
  induction slashes with
  | nil => rfl
  | cons segment slashes ih =>
    obtain ⟨rfl, hrest⟩ := List.forall_mem_cons.mp hslashes
    exact walk_cons_eq_ok_iff.mpr ⟨h, l, .idle rfl, ih hrest⟩

theorem locate_eq_ok_iff :
    t.locate p = .ok l ↔ refusal? p = none ∧ t.walk (t.start p) p.segments = .ok l := by
  unfold locate
  cases refusal? p <;> simp

theorem isDirectory_iff :
    t.isDirectory p = true ↔ ∃ l, t.locate p = .ok l ∧ t.isDirectoryAt l = true := by
  unfold isDirectory
  cases t.locate p <;> simp

/-! ## The last segment -/

/-- A path has a last name with any number of slashes behind it, unless it has no name at all. -/
theorem segments_cases (p : Path) : (∀ segment ∈ p.segments, segment = []) ∨
    ∃ before name slashes, p.segments = before ++ name :: slashes ∧ name ≠ [] ∧
      ∀ segment ∈ slashes, segment = [] := by
  generalize p.segments = segments
  induction segments with
  | nil => exact .inl (by simp)
  | cons segment segments ih =>
    rcases ih with hnone | ⟨before, name, slashes, rfl, hname, hslashes⟩
    · by_cases hsegment : segment = []
      · exact .inl (List.forall_mem_cons.mpr ⟨hsegment, hnone⟩)
      · exact .inr ⟨[], segment, segments, rfl, hsegment, hnone⟩
    · exact .inr ⟨segment :: before, name, slashes, rfl, hname, hslashes⟩

theorem place_of_slashes (h : refusal? p = none) (hnone : ∀ segment ∈ p.segments, segment = []) :
    t.place p = .ok .directory := by
  have hall : p.segments.reverse.takeWhile (· == []) = p.segments.reverse := by
    rw [← List.append_nil p.segments.reverse, List.takeWhile_append_of_pos]
    · rfl
    · intro segment hmem
      simpa using hnone segment (List.mem_reverse.mp hmem)
  simp only [place, h, hall, List.drop_length]

theorem place_of_segments (h : refusal? p = none) {before slashes : List Name} {name : Name}
    (hsegments : p.segments = before ++ name :: slashes) (hname : name ≠ [])
    (hslashes : ∀ segment ∈ slashes, segment = []) :
    t.place p = match t.walk (t.start p) before with
      | .error e => .error e
      | .ok l =>
        if !t.isDirectoryAt l then .error .notDirectory
        else if name = [dot] ∨ name = [dot, dot] then .ok .directory
        else if maxNameLength < name.length then .error .nameTooLong
        else .ok (.entry l name (slashes != [])) := by
  have hreverse : p.segments.reverse = slashes.reverse ++ name :: before.reverse := by
    simp [hsegments]
  have htake : (slashes.reverse ++ name :: before.reverse).takeWhile (· == []) =
      slashes.reverse := by
    rw [List.takeWhile_append_of_pos, List.takeWhile_cons_of_neg, List.append_nil]
    · simpa using hname
    · intro segment hmem
      simpa using hslashes segment (List.mem_reverse.mp hmem)
  have hslashed : (slashes.reverse != []) = (slashes != []) := by
    cases slashes <;> simp [bne]
  cases hwalk : t.walk (t.start p) before <;>
    simp only [place, h, hreverse, htake, hslashed, List.drop_left, List.reverse_reverse, hwalk]

/-- What the last segment of a path names. -/
inductive Ends (t : Tree) (p : Path) : Place → Prop where
  | nameless (hnone : ∀ segment ∈ p.segments, segment = []) : Ends t p .directory
  | dots {before slashes : List Name} {name : Name} {l : Location}
    (hsegments : p.segments = before ++ name :: slashes)
    (hslashes : ∀ segment ∈ slashes, segment = []) (hwalk : t.walk (t.start p) before = .ok l)
    (hdirectory : t.isDirectoryAt l = true) (hname : name = [dot] ∨ name = [dot, dot]) :
    Ends t p .directory
  | entry {before slashes : List Name} {name : Name} {l : Location}
    (hsegments : p.segments = before ++ name :: slashes)
    (hslashes : ∀ segment ∈ slashes, segment = []) (hwalk : t.walk (t.start p) before = .ok l)
    (hdirectory : t.isDirectoryAt l = true) (hname : IsEntryName name)
    (hlength : name.length ≤ maxNameLength) : Ends t p (.entry l name (slashes != []))

theorem isEntryName_iff :
    IsEntryName segment ↔ segment ≠ [] ∧ ¬(segment = [dot] ∨ segment = [dot, dot]) := by
  simp only [IsEntryName, Path.isIdle, Bool.or_eq_false_iff, beq_eq_false_iff_ne, not_or, and_assoc]

theorem place_eq_ok_iff {place : Place} :
    t.place p = .ok place ↔ refusal? p = none ∧ t.Ends p place := by
  constructor
  · intro h
    have hrefusal : refusal? p = none := by
      unfold Tree.place at h
      split at h
      · cases h
      · assumption
    refine ⟨hrefusal, ?_⟩
    rcases segments_cases p with hnone | ⟨before, name, slashes, hsegments, hname, hslashes⟩
    · rw [place_of_slashes hrefusal hnone] at h
      cases h
      exact .nameless hnone
    · rw [place_of_segments hrefusal hsegments hname hslashes] at h
      split at h
      · cases h
      · next l hwalk =>
        split at h
        · cases h
        · next hdirectory =>
          have hdirectory : t.isDirectoryAt l = true := by simpa using hdirectory
          split at h
          · next hdots =>
            cases h
            exact .dots hsegments hslashes hwalk hdirectory hdots
          · next hdots =>
            split at h
            · cases h
            · next hlength =>
              cases h
              exact .entry hsegments hslashes hwalk hdirectory (isEntryName_iff.mpr ⟨hname, hdots⟩)
                (Nat.le_of_not_lt hlength)
  · rintro ⟨hrefusal, hends⟩
    cases hends with
    | nameless hnone => exact place_of_slashes hrefusal hnone
    | dots hsegments hslashes hwalk hdirectory hname =>
      have hne : ∀ name : Name, name = [dot] ∨ name = [dot, dot] → name ≠ [] := by
        rintro name (rfl | rfl) <;> decide
      rw [place_of_segments hrefusal hsegments (hne _ hname) hslashes]
      simp [hwalk, hdirectory, hname]
    | entry hsegments hslashes hwalk hdirectory hname hlength =>
      obtain ⟨hne, hdots⟩ := isEntryName_iff.mp hname
      rw [place_of_segments hrefusal hsegments hne hslashes]
      simp only [hwalk, hdirectory, hdots, Nat.not_lt.mpr hlength, Bool.not_true,
        Bool.false_eq_true, if_false]

/-- A path of a directory has a place where there is something already. -/
theorem place_of_isDirectory (h : t.isDirectory p = true) : t.place p = .ok .directory ∨
    ∃ l name slashed, t.place p = .ok (.entry l name slashed) ∧
      (t.node? (l ++ [name])).isSome = true := by
  obtain ⟨l, hlocate, -⟩ := isDirectory_iff.mp h
  obtain ⟨hrefusal, hwalk⟩ := locate_eq_ok_iff.mp hlocate
  rcases segments_cases p with hnone | ⟨before, name, slashes, hsegments, hname, hslashes⟩
  · exact .inl (place_of_slashes hrefusal hnone)
  · rw [hsegments, walk_append_eq_ok_iff] at hwalk
    obtain ⟨directory, hbefore, hwalk⟩ := hwalk
    obtain ⟨hdirectory, next, hstep, -⟩ := walk_cons_eq_ok_iff.mp hwalk
    cases hstep with
    | idle hidle =>
      have hdot : name = [dot] := by simpa [Path.isIdle, hname] using hidle
      exact .inl (place_eq_ok_iff.mpr
        ⟨hrefusal, .dots hsegments hslashes hbefore hdirectory (.inl hdot)⟩)
    | back =>
      exact .inl (place_eq_ok_iff.mpr
        ⟨hrefusal, .dots hsegments hslashes hbefore hdirectory (.inr rfl)⟩)
    | down hentry hlength hnode =>
      exact .inr ⟨directory, name, _, place_eq_ok_iff.mpr
        ⟨hrefusal, .entry hsegments hslashes hbefore hdirectory hentry hlength⟩, hnode⟩

/-- An entry is found behind its path once there is something, a directory if slashes follow. -/
theorem locate_of_place {directory : Location} {name : Name} {slashed : Bool}
    (h : t.place p = .ok (.entry directory name slashed))
    (hnode : (t.node? (directory ++ [name])).isSome = true)
    (hslashed : slashed = true → t.isDirectoryAt (directory ++ [name]) = true) :
    t.locate p = .ok (directory ++ [name]) := by
  obtain ⟨hrefusal, hends⟩ := place_eq_ok_iff.mp h
  cases hends with
  | @entry before slashes _ _ hsegments hslashes hwalk hdirectory hname hlength =>
    have hrest : t.walk (directory ++ [name]) slashes = .ok (directory ++ [name]) := by
      cases slashes with
      | nil => rfl
      | cons segment slashes => exact walk_slashes (hslashed rfl) hslashes
    refine locate_eq_ok_iff.mpr ⟨hrefusal, ?_⟩
    rw [hsegments, walk_append_eq_ok_iff]
    exact ⟨directory, hwalk, walk_cons_eq_ok_iff.mpr
      ⟨hdirectory, _, .down hname hlength hnode, hrest⟩⟩

/-! ## In trees with the same directories -/

/-- Every directory of a tree is one of another tree, and relative paths start alike. -/
structure Keeps (t t' : Tree) : Prop where
  here : t'.here = t.here
  directory (l : Location) : t.isDirectoryAt l = true → t'.isDirectoryAt l = true

theorem Keeps.start (h : t.Keeps t') (p : Path) : t'.start p = t.start p := by
  rw [Tree.start, Tree.start, h.here]

theorem Keeps.walk (h : t.Keeps t') (hwalk : t.walk l segments = .ok l')
    (hnode : (t'.node? l').isSome = true) : t'.walk l segments = .ok l' := by
  induction segments generalizing l with
  | nil => exact hwalk
  | cons segment segments ih =>
    obtain ⟨hdirectory, next, hstep, hrest⟩ := walk_cons_eq_ok_iff.mp hwalk
    refine walk_cons_eq_ok_iff.mpr ⟨h.directory l hdirectory, next, ?_, ih hrest⟩
    cases hstep with
    | idle hidle => exact .idle hidle
    | back => exact .back
    | down hname hlength _ =>
      refine .down hname hlength ?_
      -- Only the last thing on the way need not be a directory.
      cases segments with
      | nil =>
        cases hrest
        exact hnode
      | cons => exact isSome_of_isDirectoryAt (h.directory _ (walk_cons_eq_ok_iff.mp hrest).1)

theorem Keeps.locate (h : t.Keeps t') (hlocate : t.locate p = .ok l)
    (hnode : (t'.node? l).isSome = true) : t'.locate p = .ok l := by
  obtain ⟨hrefusal, hwalk⟩ := locate_eq_ok_iff.mp hlocate
  refine locate_eq_ok_iff.mpr ⟨hrefusal, ?_⟩
  rw [h.start]
  exact h.walk hwalk hnode

theorem Keeps.isDirectory (h : t.Keeps t') (hp : t.isDirectory p = true) :
    t'.isDirectory p = true := by
  obtain ⟨l, hlocate, hdirectory⟩ := isDirectory_iff.mp hp
  have hdirectory' := h.directory l hdirectory
  exact isDirectory_iff.mpr
    ⟨l, h.locate hlocate (isSome_of_isDirectoryAt hdirectory'), hdirectory'⟩

theorem Keeps.place (h : t.Keeps t') {place : Place} (hplace : t.place p = .ok place) :
    t'.place p = .ok place := by
  obtain ⟨hrefusal, hends⟩ := place_eq_ok_iff.mp hplace
  refine place_eq_ok_iff.mpr ⟨hrefusal, ?_⟩
  have hwalk' {before : List Name} {l : Location} (hwalk : t.walk (t.start p) before = .ok l)
      (hdirectory : t.isDirectoryAt l = true) : t'.walk (t'.start p) before = .ok l := by
    rw [h.start]
    exact h.walk hwalk (isSome_of_isDirectoryAt (h.directory l hdirectory))
  cases hends with
  | nameless hnone => exact .nameless hnone
  | dots hsegments hslashes hwalk hdirectory hname =>
    exact .dots hsegments hslashes (hwalk' hwalk hdirectory) (h.directory _ hdirectory) hname
  | entry hsegments hslashes hwalk hdirectory hname hlength =>
    exact .entry hsegments hslashes (hwalk' hwalk hdirectory) (h.directory _ hdirectory) hname
      hlength

/-- Two trees have the same directories, and relative paths start alike. -/
structure Alike (t t' : Tree) : Prop where
  here : t'.here = t.here
  directory (l : Location) : t'.isDirectoryAt l = t.isDirectoryAt l

theorem Alike.keeps (h : t.Alike t') : t.Keeps t' := ⟨h.here, fun l hl => (h.directory l).trans hl⟩

theorem Alike.symm (h : t.Alike t') : t'.Alike t := ⟨h.here.symm, fun l => (h.directory l).symm⟩

/-- A path says where a file stands or would stand: in a directory that is there, and not where
there is a directory. -/
def FilePlace (t : Tree) (p : Path) (l : Location) : Prop :=
  ∃ directory name, t.place p = .ok (.entry directory name false) ∧ l = directory ++ [name] ∧
    t.isDirectoryAt l = false

theorem FilePlace.ne_nil (h : t.FilePlace p l) : l ≠ [] := by
  obtain ⟨directory, name, -, rfl, -⟩ := h
  simp

theorem FilePlace.not_directory (h : t.FilePlace p l) : t.isDirectoryAt l = false := by
  obtain ⟨_, _, -, -, hnot⟩ := h
  exact hnot

theorem FilePlace.unique (h : t.FilePlace p l) (h' : t.FilePlace p l') : l = l' := by
  obtain ⟨directory, name, hplace, rfl, -⟩ := h
  obtain ⟨directory', name', hplace', rfl, -⟩ := h'
  rw [hplace] at hplace'
  cases hplace'
  rfl

theorem FilePlace.locate (h : t.FilePlace p l) (hnode : (t.node? l).isSome = true) :
    t.locate p = .ok l := by
  obtain ⟨directory, name, hplace, rfl, -⟩ := h
  exact locate_of_place hplace hnode nofun

theorem Alike.filePlace (h : t.Alike t') (hplace : t.FilePlace p l) : t'.FilePlace p l := by
  obtain ⟨directory, name, hentry, hl, hnot⟩ := hplace
  exact ⟨directory, name, h.keeps.place hentry, hl, (h.directory l).trans hnot⟩

theorem Alike.filePlace_iff (h : t.Alike t') : t'.FilePlace p l ↔ t.FilePlace p l :=
  ⟨h.symm.filePlace, h.filePlace⟩

end Tree

end GraphGateway.Files
