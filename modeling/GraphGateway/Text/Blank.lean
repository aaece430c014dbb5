/-
Blank characters, and the trimming of text at both ends.

A character is blank when Unicode gives it the property White_Space. Trimming removes the longest
blank run at each end and nothing inside, so what is left starts and ends with a character that is
not blank, and trimming it again changes nothing.
-/
namespace GraphGateway.Text

/-- The characters with the Unicode property White_Space: the ASCII blanks and line ends, the
no-break space, and the separators of width, line and paragraph. -/
def isBlank (c : Char) : Bool :=
  let n := c.toNat
  (0x9 ≤ n && n ≤ 0xD) || n == 0x20 || n == 0x85 || n == 0xA0 || n == 0x1680 ||
    (0x2000 ≤ n && n ≤ 0x200A) || n == 0x2028 || n == 0x2029 || n == 0x202F || n == 0x205F ||
    n == 0x3000

/-! ## Trimming -/

/-- The characters without the blanks at both ends. -/
def trimChars (cs : List Char) : List Char :=
  ((cs.dropWhile isBlank).reverse.dropWhile isBlank).reverse

/-- The text without the blanks at both ends. -/
def trim (s : String) : String := String.ofList (trimChars s.toList)

/-- Whether a text holds nothing but blanks. -/
def isAllBlank (s : String) : Bool := s.toList.all isBlank

/-- Dropping blanks leaves nothing exactly when there is nothing but blanks. -/
theorem dropWhile_isBlank_eq_nil_iff {cs : List Char} :
    cs.dropWhile isBlank = [] ↔ cs.all isBlank = true := by
  induction cs with
  | nil => simp
  | cons c cs ih => by_cases h : isBlank c = true <;> simp_all

/-- Whatever comes first once blanks are dropped is not blank. -/
theorem not_isBlank_of_dropWhile_eq_cons {cs ds : List Char} {d : Char}
    (h : cs.dropWhile isBlank = d :: ds) : isBlank d = false := by
  induction cs with
  | nil => simp at h
  | cons c cs ih =>
    by_cases hc : isBlank c = true
    · exact ih (by simpa [List.dropWhile_cons, hc] using h)
    · simp only [List.dropWhile_cons, hc] at h
      simp_all

/-- Nothing is left of a text exactly when it is all blanks. -/
theorem trimChars_eq_nil_iff {cs : List Char} : trimChars cs = [] ↔ cs.all isBlank = true := by
  rw [trimChars, List.reverse_eq_nil_iff, dropWhile_isBlank_eq_nil_iff]
  constructor
  · intro h
    cases hd : cs.dropWhile isBlank with
    | nil => exact dropWhile_isBlank_eq_nil_iff.mp hd
    | cons d ds =>
      have hb := not_isBlank_of_dropWhile_eq_cons hd
      rw [hd] at h
      simp [hb] at h
  · intro h
    simp [dropWhile_isBlank_eq_nil_iff.mpr h]

theorem trim_eq_empty_iff {s : String} : trim s = "" ↔ isAllBlank s = true := by
  rw [trim, isAllBlank, ← trimChars_eq_nil_iff, ← String.toList_inj]
  simp

/-- Blanks in front do not matter. -/
theorem trimChars_append_left {blanks : List Char} (h : blanks.all isBlank = true)
    (cs : List Char) : trimChars (blanks ++ cs) = trimChars cs := by
  rw [trimChars, List.dropWhile_append_of_pos (List.all_eq_true.mp h), trimChars]

/-- Blanks behind do not matter. -/
theorem trimChars_append_right {blanks : List Char} (h : blanks.all isBlank = true)
    (cs : List Char) : trimChars (cs ++ blanks) = trimChars cs := by
  have hreverse : ∀ c ∈ blanks.reverse, isBlank c = true := fun c hc =>
    List.all_eq_true.mp h c (List.mem_reverse.mp hc)
  unfold trimChars
  by_cases hcs : cs.dropWhile isBlank = []
  · rw [List.dropWhile_append, hcs, dropWhile_isBlank_eq_nil_iff.mpr h]
    rfl
  · rw [List.dropWhile_append, if_neg (by simpa using hcs), List.reverse_append,
      List.dropWhile_append_of_pos hreverse]

/-- What is trimmed off are blanks. -/
theorem exists_trimChars (cs : List Char) :
    ∃ front behind, front.all isBlank = true ∧ behind.all isBlank = true ∧
      cs = front ++ trimChars cs ++ behind := by
  let rest := cs.dropWhile isBlank
  have hrest : rest = trimChars cs ++ (rest.reverse.takeWhile isBlank).reverse := by
    rw [trimChars, ← List.reverse_append, List.takeWhile_append_dropWhile, List.reverse_reverse]
  refine ⟨cs.takeWhile isBlank, (rest.reverse.takeWhile isBlank).reverse, List.all_takeWhile, ?_, ?_⟩
  · rw [List.all_reverse]
    exact List.all_takeWhile
  · rw [List.append_assoc, ← hrest, List.takeWhile_append_dropWhile]

/-- Trimming a text again changes nothing. -/
theorem trimChars_trimChars (cs : List Char) : trimChars (trimChars cs) = trimChars cs := by
  obtain ⟨front, behind, hfront, hbehind, hcs⟩ := exists_trimChars cs
  have h : trimChars cs = trimChars (front ++ trimChars cs ++ behind) := congrArg trimChars hcs
  rw [trimChars_append_right hbehind, trimChars_append_left hfront] at h
  exact h.symm

theorem mem_of_mem_trimChars {c : Char} {cs : List Char} (h : c ∈ trimChars cs) : c ∈ cs := by
  obtain ⟨front, behind, -, -, hcs⟩ := exists_trimChars cs
  rw [hcs]
  simp [h]

/-! ## Lines -/

/-- The pieces of a text between its newlines, in order: one more than there are newlines. -/
def splitLines : List Char → List (List Char)
  | [] => [[]]
  | c :: cs =>
    if c = '\n' then [] :: splitLines cs
    else
      match splitLines cs with
      | [] => [[c]]
      | line :: lines => (c :: line) :: lines

/-- These are the pieces that core cuts a list into. -/
theorem splitLines_eq_splitOn (cs : List Char) : splitLines cs = cs.splitOn '\n' := by
  induction cs with
  | nil => rfl
  | cons c cs ih =>
    rw [splitLines, List.splitOn_cons_eq_if_modifyHead, ih]
    by_cases hc : c = '\n'
    · simp [hc]
    · simp only [hc, beq_iff_eq, if_false]
      cases hlines : cs.splitOn '\n' with
      | nil => exact absurd hlines (List.splitOn_ne_nil _ _)
      | cons line lines => rfl

/-- Lines with a newline between them are the lines of the text. -/
theorem splitLines_intercalate {lines : List (List Char)} (hlines : ∀ line ∈ lines, '\n' ∉ line)
    (hne : lines ≠ []) : splitLines (['\n'].intercalate lines) = lines := by
  rw [splitLines_eq_splitOn, List.splitOn_intercalate _ hlines hne]

theorem splitLines_append (front behind : List Char) :
    splitLines (front ++ '\n' :: behind) = splitLines front ++ splitLines behind := by
  simp only [splitLines_eq_splitOn, List.splitOn_append_cons_self]

theorem not_mem_of_mem_splitLines {cs line : List Char} (h : line ∈ splitLines cs) :
    '\n' ∉ line := by
  induction cs generalizing line with
  | nil =>
    rw [List.mem_singleton.mp h]
    exact List.not_mem_nil
  | cons c cs ih =>
    unfold splitLines at h
    split at h
    · rcases List.mem_cons.mp h with rfl | h
      · exact List.not_mem_nil
      · exact ih h
    · next hc =>
      cases hlines : splitLines cs with
      | nil =>
        rw [hlines, List.mem_singleton] at h
        simpa [h] using Ne.symm hc
      | cons first lines =>
        rw [hlines] at h ih
        rcases List.mem_cons.mp h with rfl | h
        · simpa using ⟨Ne.symm hc, ih List.mem_cons_self⟩
        · exact ih (List.mem_cons_of_mem _ h)

end GraphGateway.Text
