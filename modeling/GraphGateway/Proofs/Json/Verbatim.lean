/-
Values as they are written.

Reading a value as it is written keeps the order of members and repeated names, and of numbers that
show a point or an exponent the token itself, so that nothing is rounded; brackets may be nested to
any depth. Printing and reading it so gives the value back (`Verbatim.ofText_write`), whatever
characters its strings and names hold: a text tells everything about its value but what number a
decimal token stands for. Infinities and what is no number have no text in JSON.
-/
import GraphGateway.Proofs.Json.Token

namespace GraphGateway.Json

/-! ## Values with their tokens -/

/-- A value as it is written. -/
inductive Verbatim where
  | null
  | bool (value : Bool)
  | integer (value : Int)
  /-- A number that shows a point or an exponent. -/
  | decimal (token : List Char)
  | string (value : String)
  | array (items : List Verbatim)
  | object (members : List (String × Verbatim))

namespace Verbatim

mutual

/-- How a value is written. -/
def ofJson : Json → Verbatim
  | .null => .null
  | .bool b => .bool b
  | .number (.int n) => .integer n
  | .number (.double x) => .decimal (Number.Layout.json.text x)
  | .string s => .string s
  | .array items => .array (ofItems items)
  | .object members => .object (ofMembers members)

def ofItems : List Json → List Verbatim
  | [] => []
  | item :: items => ofJson item :: ofItems items

def ofMembers : Members → List (String × Verbatim)
  | [] => []
  | (name, value) :: members => (name, ofJson value) :: ofMembers members

end

@[simp] theorem ofItems_eq_map (items : List Json) : ofItems items = items.map ofJson := by
  induction items with
  | nil => rfl
  | cons item items ih => simp [ofItems, ih]

@[simp] theorem ofMembers_eq_map (members : Members) :
    ofMembers members = members.map fun (name, value) => (name, ofJson value) := by
  induction members with
  | nil => rfl
  | cons member members ih => simp [ofMembers, ih]

/-! ## Reading -/

/-- A token of nothing but digits behind its sign is an integer. -/
def ofToken (token : List Char) : Verbatim :=
  match Number.intOfText? token with
  | some n => .integer n
  | none => .decimal token

/-- What stands behind the sign, if there is one. -/
def behindSign : List Char → List Char
  | '-' :: rest => rest
  | input => input

/-- Reads a number with its sign. -/
def readNumber : Reader Verbatim := fun input =>
  (skipNumeral (behindSign input)).map fun rest =>
    (ofToken (input.take (input.length - rest.length)), rest)

/-- Reads members up to the closing bracket, those before them being `done`, last first. The input
itself is fuel enough. -/
def readMembers (value : Reader Verbatim) :
    List Char → List (String × Verbatim) → Reader (List (String × Verbatim))
  | [], _, _ => .error (.atEnd .endInObject)
  | _ :: fuel, done, input =>
    match nextKey done.isEmpty input with
    | .error fault => .error fault
    | .ok (.close rest) => .ok (done.reverse, rest)
    | .ok (.next rest) => do
      let (name, rest) ← readString rest
      let rest ← readColon rest
      let (v, rest) ← value rest
      readMembers value fuel ((name, v) :: done) rest

/-- Reads a value whose brackets may be nested `levels` deep. -/
def read : Nat → Reader Verbatim
  | levels, input =>
    match skipSpace input with
    | [] => .error (.atEnd .endInValue)
    | c :: rest =>
      if c = 'n' then (readLetters ['u', 'l', 'l'] rest).map (.null, ·)
      else if c = 't' then (readLetters ['r', 'u', 'e'] rest).map (.bool true, ·)
      else if c = 'f' then (readLetters ['a', 'l', 's', 'e'] rest).map (.bool false, ·)
      else if c = '"' then (readString rest).map fun (s, rest) => (.string s, rest)
      else if c = '[' then
        match levels with
        | 0 => .error (.on .nestedTooDeep (c :: rest))
        | levels + 1 =>
          (readItems (read levels) rest [] rest).map fun (items, rest) => (.array items, rest)
      else if c = '\x7b' then
        match levels with
        | 0 => .error (.on .nestedTooDeep (c :: rest))
        | levels + 1 =>
          (readMembers (read levels) rest [] rest).map fun (members, rest) =>
            (.object members, rest)
      else readNumber (c :: rest)

/-- The value that a text holds, as it is written. There are no more levels than characters. -/
def ofText (text : String) : Except Fault Verbatim := readWhole (read text.toList.length) text

end Verbatim

/-! ## Values with a text -/

mutual

/-- Every number in a value is an integer or finite. -/
def HasText : Json → Prop
  | .number (.double x) => x.isFinite = true
  | .array items => HaveText items
  | .object members => MembersHaveText members
  | _ => True

def HaveText : List Json → Prop
  | [] => True
  | item :: items => HasText item ∧ HaveText items

def MembersHaveText : Members → Prop
  | [] => True
  | (_, value) :: members => HasText value ∧ MembersHaveText members

end

theorem hasText_number {n : Numeral} :
    (Json.number n).HasText ↔ ∀ x, n = .double x → x.isFinite = true := by
  cases n with
  | int m => exact ⟨fun _ _ h => (nomatch h), fun _ => trivial⟩
  | double x => exact ⟨fun h _ heq => Numeral.double.inj heq ▸ h, fun h => h x rfl⟩

namespace Verbatim

/-! ## Numbers -/

theorem ofToken_numeralText {n : Numeral} (h : (Json.number n).HasText) :
    ofToken (numeralText n) = ofJson (.number n) := by
  cases n with
  | int m =>
    rw [ofToken, numeralText, Number.intOfText?_intText]
    rfl
  | double x =>
    obtain ⟨token, htoken, htext⟩ := text_of_isFinite h
    obtain ⟨c, tail, htail, hc⟩ := htoken.exists_digit
    have hnone : Number.intOfText? (numeralText (.double x)) = none := by
      rw [numeralText, htext]
      split
      · rw [List.singleton_append, Number.intOfText?, htoken.natOfText?_eq_none]
        rfl
      · rw [List.nil_append, htail, Number.intOfText?_of_digit hc, ← htail,
          htoken.natOfText?_eq_none]
        rfl
    rw [ofToken, hnone]
    rfl

/-- A number begins with a sign or with a digit. -/
theorem exists_head_numeralText {n : Numeral} (h : (Json.number n).HasText) :
    ∃ c tail, numeralText n = c :: tail ∧ (c = '-' ∨ c.isDigit = true) := by
  obtain ⟨sign, token, htext, hsign, htoken⟩ := numeralText_cases (hasText_number.mp h)
  obtain ⟨c, tail, rfl, hc⟩ := htoken.exists_digit
  rcases hsign with rfl | rfl
  · exact ⟨c, tail, htext, .inr hc⟩
  · exact ⟨'-', c :: tail, htext, .inl rfl⟩

theorem behindSign_of_digit {c : Char} (h : c.isDigit = true) (rest : List Char) :
    behindSign (c :: rest) = c :: rest := by
  unfold behindSign
  split
  · next heq =>
    cases heq
    cases h
  · rfl

theorem readNumber_numeralText {n : Numeral} (h : (Json.number n).HasText) {rest : List Char}
    (hrest : Ends rest) :
    readNumber (numeralText n ++ rest) = .ok (ofJson (.number n), rest) := by
  obtain ⟨sign, token, htext, hsign, htoken⟩ := numeralText_cases (hasText_number.mp h)
  have hbehind : behindSign (numeralText n ++ rest) = token ++ rest := by
    obtain ⟨c, tail, rfl, hc⟩ := htoken.exists_digit
    rw [htext]
    rcases hsign with rfl | rfl
    · exact behindSign_of_digit hc (tail ++ rest)
    · rfl
  have htaken : (numeralText n ++ rest).take ((numeralText n ++ rest).length - rest.length) =
      numeralText n := by
    rw [List.length_append, Nat.add_sub_cancel, List.take_left]
  rw [readNumber, hbehind, skipNumeral_of_isMagnitude htoken.isMagnitude hrest]
  simp only [Except.map, htaken, ofToken_numeralText h]

/-! ## Reading by the first character -/

theorem not_isSpace_of_sign_or_digit {c : Char} (h : c = '-' ∨ c.isDigit = true) :
    isSpace c = false := by
  rcases h with rfl | hdigit
  · rfl
  · refine Bool.eq_false_iff.mpr fun hspace => ?_
    rw [isDigit_of_isSpace hspace] at hdigit
    cases hdigit

section Read

variable (levels : Nat) (rest : List Char)

theorem read_blanks {blanks : List Char} (hb : blanks.all isSpace = true) :
    read levels (blanks ++ rest) = read levels rest := by
  unfold read
  rw [skipSpace_append hb]

theorem read_string (s : String) :
    read levels (stringText s ++ rest) = .ok (.string s, rest) := by
  rw [stringText_append]
  unfold read
  rw [skipSpace_cons rfl]
  simp [readString_stringText, Except.map]

theorem read_array : read (levels + 1) ('[' :: rest) =
    (readItems (read levels) rest [] rest).map fun (items, rest) => (.array items, rest) := by
  rw [read, skipSpace_cons rfl]
  rfl

theorem read_object : read (levels + 1) ('\x7b' :: rest) =
    (readMembers (read levels) rest [] rest).map fun (members, rest) =>
      (.object members, rest) := by
  rw [read, skipSpace_cons rfl]
  rfl

theorem read_null : read levels ('n' :: 'u' :: 'l' :: 'l' :: rest) = .ok (.null, rest) := by
  unfold read
  rw [skipSpace_cons rfl]
  rfl

theorem read_true : read levels ('t' :: 'r' :: 'u' :: 'e' :: rest) = .ok (.bool true, rest) := by
  unfold read
  rw [skipSpace_cons rfl]
  rfl

theorem read_false :
    read levels ('f' :: 'a' :: 'l' :: 's' :: 'e' :: rest) = .ok (.bool false, rest) := by
  unfold read
  rw [skipSpace_cons rfl]
  rfl

theorem read_number {c : Char} (hc : c = '-' ∨ c.isDigit = true) :
    read levels (c :: rest) = readNumber (c :: rest) := by
  have hspace : isSpace c = false := not_isSpace_of_sign_or_digit hc
  have hother : c ≠ 'n' ∧ c ≠ 't' ∧ c ≠ 'f' ∧ c ≠ '"' ∧ c ≠ '[' ∧ c ≠ '\x7b' := by
    refine ⟨?_, ?_, ?_, ?_, ?_, ?_⟩
    all_goals
      rintro rfl
      revert hc
      decide
  unfold read
  rw [skipSpace_cons hspace]
  simp [hother]

end Read

/-! ## Containers -/

section Lengths

variable (sp : Spacing) (depth : Nat)

/-- A bracket uses up a level. -/
theorem exists_level {j : Json} {c : Char} (h : j.opening? = some c) {levels : Nat}
    (hlevels : (write sp depth j).length ≤ levels) : ∃ n, levels = n + 1 := by
  obtain ⟨tail, htail⟩ := write_of_opening h sp depth
  rw [htail, List.length_cons] at hlevels
  exact ⟨levels - 1, by omega⟩

theorem length_write_le_writeItems {items : List Json} {item : Json} (h : item ∈ items) :
    (write sp depth item).length ≤ (writeItems sp depth items).length := by
  induction items with
  | nil => cases h
  | cons other items ih =>
    simp only [writeItems, List.length_cons, List.length_append]
    rcases List.mem_cons.mp h with rfl | hmem
    · omega
    · have hbehind := ih hmem
      omega

theorem length_write_lt_array {items : List Json} {item : Json} (h : item ∈ items) :
    (write sp (depth + 1) item).length < (write sp depth (.array items)).length := by
  cases items with
  | nil => cases h
  | cons other items =>
    simp only [write, List.length_cons, List.length_append]
    rcases List.mem_cons.mp h with rfl | hmem
    · omega
    · have hbehind := length_write_le_writeItems sp (depth + 1) hmem
      omega

theorem length_write_le_writeMembers {members : Members} {m : String × Json} (h : m ∈ members) :
    (write sp depth m.2).length ≤ (writeMembers sp depth members).length := by
  induction members with
  | nil => cases h
  | cons other members ih =>
    simp only [writeMembers, List.length_cons, List.length_append]
    rcases List.mem_cons.mp h with rfl | hmem
    · omega
    · have hbehind := ih hmem
      omega

theorem length_write_lt_object {members : Members} {m : String × Json} (h : m ∈ members) :
    (write sp (depth + 1) m.2).length < (write sp depth (.object members)).length := by
  cases members with
  | nil => cases h
  | cons other members =>
    simp only [write, List.length_cons, List.length_append]
    rcases List.mem_cons.mp h with rfl | hmem
    · omega
    · have hbehind := length_write_le_writeMembers sp (depth + 1) hmem
      omega

end Lengths

section Members

variable {sp : Spacing} {levels depth : Nat}

open Fields (afterMember afterMember_cons ends_afterMember length_lt_afterMember)

/-- A member that is next is read. -/
theorem readMembers_member {name : String} {value : Json}
    (h : Takes (read levels) sp (depth + 1) value (ofJson value)) (members : Members)
    (rest : List Char) {f : Char} {fuel input : List Char} {done : List (String × Verbatim)}
    (hnext : nextKey done.isEmpty input = .ok (.next (name.toList.flatMap escapeChar ++ '"' ::
      (sp.colon ++ (write sp (depth + 1) value ++ afterMember sp depth members rest))))) :
    readMembers (read levels) (f :: fuel) done input =
      readMembers (read levels) fuel ((name, ofJson value) :: done)
        (afterMember sp depth members rest) := by
  have hvalue := h.back _ (ends_afterMember sp depth members rest)
  rw [readMembers, hnext]
  simp only [readString_stringText, readColon_colon, read_blanks _ _ (isSpace_gap sp), hvalue, bind,
    Except.bind]

theorem readMembers_afterMember {members : Members}
    (h : ∀ m ∈ members, Takes (read levels) sp (depth + 1) m.2 (ofJson m.2)) (rest : List Char)
    {fuel : List Char} {done : List (String × Verbatim)} (hfuel : members.length < fuel.length)
    (hdone : done ≠ []) :
    readMembers (read levels) fuel done (afterMember sp depth members rest) =
      .ok (done.reverse ++ ofMembers members, rest) := by
  induction members generalizing fuel done with
  | nil =>
    cases fuel with
    | nil => exact absurd hfuel (Nat.lt_irrefl 0)
    | cons f fuel =>
      have hclose := nextKey_close done.isEmpty (isSpace_lineBreak sp depth) rest
      rw [readMembers, afterMember, writeMembers, List.nil_append, hclose]
      simp
  | cons m members ih =>
    cases fuel with
    | nil => exact absurd hfuel (Nat.not_lt_zero _)
    | cons f fuel =>
      have hnext := nextKey_comma m.1 (isSpace_lineBreak sp (depth + 1)) (sp.colon ++
        (write sp (depth + 1) m.2 ++ afterMember sp depth members rest))
      rw [← List.isEmpty_eq_false_iff.mpr hdone] at hnext
      have hrest := ih (fun other hother => h other (List.mem_cons_of_mem m hother))
        (Nat.lt_of_succ_lt_succ hfuel) (List.cons_ne_nil (m.1, ofJson m.2) done)
      rw [afterMember_cons, readMembers_member (h m List.mem_cons_self) members rest hnext, hrest]
      simp

/-- The first member is not behind a comma. -/
theorem readMembers_first {m : String × Json} {members : Members}
    (h : ∀ other ∈ m :: members, Takes (read levels) sp (depth + 1) other.2 (ofJson other.2))
    (rest : List Char) {fuel : List Char} (hfuel : members.length + 1 < fuel.length) :
    readMembers (read levels) fuel [] (sp.lineBreak (depth + 1) ++ (stringText m.1 ++ (sp.colon ++
      (write sp (depth + 1) m.2 ++ afterMember sp depth members rest)))) =
        .ok (ofMembers (m :: members), rest) := by
  cases fuel with
  | nil => exact absurd hfuel (Nat.not_lt_zero _)
  | cons f fuel =>
    have hnext : nextKey ([] : List (String × Verbatim)).isEmpty _ = _ :=
      nextKey_first m.1 (isSpace_lineBreak sp (depth + 1)) (sp.colon ++
        (write sp (depth + 1) m.2 ++ afterMember sp depth members rest))
    rw [readMembers_member (h m List.mem_cons_self) members rest hnext]
    exact readMembers_afterMember (fun other hother => h other (List.mem_cons_of_mem m hother)) rest
      (Nat.lt_of_succ_lt_succ hfuel) (List.cons_ne_nil (m.1, ofJson m.2) [])

/-- The members of an object are read behind its bracket. -/
theorem readMembers_object {members : Members}
    (h : ∀ m ∈ members, Takes (read levels) sp (depth + 1) m.2 (ofJson m.2)) (rest : List Char) :
    ∃ body, write sp depth (.object members) ++ rest = '\x7b' :: body ∧
      readMembers (read levels) body [] body = .ok (ofMembers members, rest) := by
  cases members with
  | nil => exact ⟨'\x7d' :: rest, rfl, rfl⟩
  | cons m members =>
    refine ⟨_, ?_, readMembers_first h rest ?_⟩
    · simp [write, afterMember]
    · have hafter := length_lt_afterMember sp depth members rest
      simp only [stringText, List.length_append, List.length_cons]
      omega

end Members

/-! ## Values -/

section Values

variable {sp : Spacing}

/-- The text of a value is read up to where it ends. No value is nested deeper than its text is
long. -/
def Reads (sp : Spacing) (j : Json) : Prop :=
  ∀ levels depth, (write sp depth j).length ≤ levels → Takes (read levels) sp depth j (ofJson j)

theorem reads_number {n : Numeral} (h : (Json.number n).HasText) : Reads sp (.number n) := by
  intro levels depth _
  obtain ⟨c, tail, htail, hc⟩ := exists_head_numeralText h
  have hclose : c ≠ ']' := by
    rintro rfl
    revert hc
    decide
  refine ⟨⟨c, tail, htail, not_isSpace_of_sign_or_digit hc, hclose⟩, fun rest hrest => ?_⟩
  have hread := read_number levels (tail ++ rest) hc
  rw [← List.cons_append, ← htail] at hread
  exact hread.trans (readNumber_numeralText h hrest)

theorem reads_array {items : List Json} (h : ∀ item ∈ items, Reads sp item) :
    Reads sp (.array items) := by
  intro levels depth hlevels
  obtain ⟨levels, rfl⟩ := exists_level sp depth rfl hlevels
  have htakes : List.Forall₂ (Takes (read levels) sp (depth + 1)) items (items.map ofJson) := by
    rw [List.forall₂_map_right_iff, List.forall₂_same]
    intro item hmem
    have hlt := length_write_lt_array sp depth hmem
    exact h item hmem levels (depth + 1) (by omega)
  refine .of_opening rfl fun rest _ => ?_
  obtain ⟨body, hbody, hitems⟩ := readItems_array htakes rest
  rw [hbody, read_array, hitems]
  simp [Except.map, ofJson]

theorem reads_object {members : Members} (h : ∀ m ∈ members, Reads sp m.2) :
    Reads sp (.object members) := by
  intro levels depth hlevels
  obtain ⟨levels, rfl⟩ := exists_level sp depth rfl hlevels
  have htakes : ∀ m ∈ members, Takes (read levels) sp (depth + 1) m.2 (ofJson m.2) := by
    intro m hmem
    have hlt := length_write_lt_object sp depth hmem
    exact h m hmem levels (depth + 1) (by omega)
  refine .of_opening rfl fun rest _ => ?_
  obtain ⟨body, hbody, hmembers⟩ := readMembers_object htakes rest
  rw [hbody, read_object, hmembers]
  rfl

mutual

theorem reads : ∀ {j : Json}, j.HasText → Reads sp j
  | .null, _ => fun levels _ _ => .of_opening rfl fun rest _ => read_null levels rest
  | .bool true, _ => fun levels _ _ => .of_opening rfl fun rest _ => read_true levels rest
  | .bool false, _ => fun levels _ _ => .of_opening rfl fun rest _ => read_false levels rest
  | .number _, h => reads_number h
  | .string s, _ => fun levels _ _ => .of_opening rfl fun rest _ => read_string levels rest s
  | .array _, h => reads_array (readsItems h)
  | .object _, h => reads_object (readsMembers h)

theorem readsItems : ∀ {items : List Json}, HaveText items → ∀ item ∈ items, Reads sp item
  | _ :: _, h, _, .head _ => reads h.1
  | _ :: _, h, _, .tail _ hmem => readsItems h.2 _ hmem

theorem readsMembers : ∀ {members : Members}, MembersHaveText members → ∀ m ∈ members, Reads sp m.2
  | _ :: _, h, _, .head _ => reads h.1
  | _ :: _, h, _, .tail _ hmem => readsMembers h.2 _ hmem

end

end Values

/-- What is written is read as it is written. -/
theorem ofText_write (sp : Spacing) {j : Json} (h : j.HasText) :
    ofText (String.ofList (write sp 0 j)) = .ok (ofJson j) := by
  have hreads : Reads sp j := reads h
  have hread := (hreads _ 0 (Nat.le_refl _)).back [] ends_nil
  rw [List.append_nil] at hread
  rw [ofText, readWhole, String.toList_ofList, hread]
  rfl

/-- Both members are kept, and so is the zero behind the point. -/
example : ofText "\x7b\"b\": 1.50, \"b\": [-7, null]\x7d" =
    .ok (.object [("b", .decimal ['1', '.', '5', '0']), ("b", .array [.integer (-7), .null])]) := by
  cbv

end Verbatim

end GraphGateway.Json
