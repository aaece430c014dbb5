/-
What is read depends on the value alone.

A value is read off every text that it stands at the front of (`Reads`), blanks between its tokens and
whatever ends it apart. Any value is read as what its tokens mean, if its brackets are not nested too
deep (`readValue_of_means`); so what is read off one text is read off every other that holds the same
value. A record is read off an object in whatever order its members stand and whatever other members
stand among them (`Codec.record_reads`).
-/
import GraphGateway.Proofs.Json.Record

namespace GraphGateway.Json

/-- A reader takes a value off every text that it stands at the front of, behind blanks and in front
of what does not continue it. -/
def Reads {α : Type} (read : Reader α) (tree : Tree) (a : α) : Prop :=
  ∀ input value rest, Gap input value → IsValue value tree rest → Ends rest →
    read input = .ok (a, rest)

/-! ## Containers -/

/-- An item takes up a step. -/
theorem IsValue.exists_fuel {first : Bool} {input value behind fuel : List Char} {tree : Tree}
    (h : IsValue value tree behind) (hlead : Lead first input value)
    (hfuel : input.length ≤ fuel.length) :
    ∃ f left, fuel = f :: left ∧ behind.length ≤ left.length := by
  have hinput := Nat.le_trans hlead.length_le hfuel
  have hbehind := h.length_lt
  obtain ⟨f, left, rfl⟩ := List.exists_cons_of_length_pos (by omega : 0 < fuel.length)
  rw [List.length_cons] at hinput
  exact ⟨f, left, rfl, by omega⟩

theorem readItems_of_areItems {α : Type} {item : Reader α} {items : List Tree} {as : List α}
    (h : List.Forall₂ (Reads item) items as) {fuel : List Char} (done : List α)
    {input rest : List Char} (hitems : AreItems done.isEmpty input items rest)
    (hfuel : input.length ≤ fuel.length) :
    readItems item fuel done input = .ok (done.reverse ++ as, rest) := by
  induction h generalizing fuel done input with
  | nil =>
    cases hitems with
    | close hclose =>
      obtain ⟨f, left, rfl, -⟩ := hclose.exists_fuel hfuel
      rw [readItems, nextItem_of_close hclose, List.append_nil]
  | @cons tree a items as hread _ ih =>
    cases hitems with
    | item hlead hitem h =>
      obtain ⟨f, left, rfl, hleft⟩ := hitem.exists_fuel hlead hfuel
      have hitem' := hread _ _ _ (.nil _) hitem h.ends
      have hothers : readItems item left (a :: done) _ = _ := ih (a :: done) h hleft
      rw [readItems, nextItem_of_isValue hlead hitem]
      simp only [hitem', hothers, List.reverse_cons, List.append_assoc, List.singleton_append]

/-- A member's value stands behind its name and a colon, and takes up a step. -/
theorem IsValue.exists_fuel_member {first : Bool} {input name colon before value behind : List Char}
    {fuel : List Char} {tree : Tree} (h : IsValue value tree behind)
    (hlead : Lead first input ('"' :: (name ++ '"' :: colon))) (hcolon : Gap colon (':' :: before))
    (hgap : Gap before value) (hfuel : input.length ≤ fuel.length) :
    ∃ f left, fuel = f :: left ∧ behind.length ≤ left.length := by
  have hvalue := Nat.lt_of_lt_of_le (hlead.value_length_lt hcolon hgap) hfuel
  have hbehind := h.length_lt
  obtain ⟨f, left, rfl⟩ := List.exists_cons_of_length_pos (by omega : 0 < fuel.length)
  rw [List.length_cons] at hvalue
  exact ⟨f, left, rfl, by omega⟩

theorem readMembers_of_areMembers {value : Reader Json} {members : List (List Char × Tree)}
    {ms : Members} (h : List.Forall₂ (MemberOf (Reads value)) members ms) {fuel : List Char}
    (done : Members) {input rest : List Char}
    (hmembers : AreMembers done.isEmpty input members rest) (hfuel : input.length ≤ fuel.length) :
    readMembers value fuel done input = .ok (done.reverse ++ ms, rest) := by
  induction h generalizing fuel done input with
  | nil =>
    cases hmembers with
    | close hclose =>
      obtain ⟨f, left, rfl, -⟩ := hclose.exists_fuel hfuel
      rw [readMembers, nextKey_of_close hclose, List.append_nil]
  | @cons member m members ms hmember _ ih =>
    obtain ⟨hspells, hread⟩ := hmember
    cases hmembers with
    | member hlead hname hcolon hgap hvalue h =>
      obtain ⟨f, left, rfl, hleft⟩ := hvalue.exists_fuel_member hlead hcolon hgap hfuel
      have hothers : readMembers value left (m :: done) _ = _ := ih (m :: done) h hleft
      rw [readMembers, nextKey_of_lead hlead]
      simp only [readString_of_spells hspells, readColon_of_gap hcolon, hread _ _ _ hgap hvalue h.ends,
        hothers, bind, Except.bind, List.reverse_cons, List.append_assoc, List.singleton_append]

/-! ## Values -/

/-- A sign is no part of a number behind its sign. -/
theorem IsMagnitude.not_minus {magnitude : List Char} : ¬IsMagnitude ('-' :: magnitude) := by
  intro h
  obtain ⟨c, tail, heq, hc⟩ := h.exists_digit
  obtain ⟨rfl, -⟩ := List.cons.inj heq
  cases hc

/-- The first character tells which way a number is read. -/
theorem Numbers.read {token input rest : List Char} {n : Numeral} (h : Numbers token n)
    (hvalue : IsValue input (.number token) rest) (hends : Ends rest) :
    (∃ c tail, input = c :: tail ∧ c.isDigit = true ∧ readNumeral false input = .ok (n, rest)) ∨
      ∃ tail, input = '-' :: tail ∧ readNumeral true tail = .ok (n, rest) := by
  cases h with
  | positive htoken hread =>
    cases hvalue with
    | positive =>
      obtain ⟨c, tail, rfl, hc⟩ := htoken.exists_digit
      exact .inl ⟨c, _, rfl, hc, hread rest hends⟩
    | negative => exact absurd htoken IsMagnitude.not_minus
  | negative htoken hread =>
    cases hvalue with
    | positive htoken' => exact absurd htoken' IsMagnitude.not_minus
    | negative => exact .inr ⟨_, rfl, hread rest hends⟩

theorem reads_of_inner {levels : Nat} (hinner : ∀ inner, levels = inner + 1 →
    ∀ tree j, Means inner tree j → Reads (readValue inner) tree j) {tree : Tree} {j : Json}
    (h : Means levels tree j) : Reads (readValue levels) tree j := by
  intro input value rest hgap hvalue hends
  have hskip := hvalue.skipSpace_eq hgap
  unfold readValue
  rw [hskip]
  cases tree with
  | null =>
    obtain rfl := Means.null_iff.mp h
    cases hvalue with
    | null => rfl
  | bool b =>
    obtain rfl := Means.bool_iff.mp h
    cases hvalue with
    | true => rfl
    | false => rfl
  | number token =>
    obtain ⟨n, rfl, hn⟩ := Means.number_iff.mp h
    rcases hn.read hvalue hends with ⟨c, tail, rfl, hc, hread⟩ | ⟨tail, rfl, hread⟩
    · dsimp only
      rw [if_neg (ne_of_isDigit hc rfl), if_neg (ne_of_isDigit hc rfl),
        if_neg (ne_of_isDigit hc rfl), if_neg (ne_of_isDigit hc rfl), if_pos hc, hread]
      rfl
    · dsimp only
      rw [if_neg (by decide), if_neg (by decide), if_neg (by decide), if_pos rfl, hread]
      rfl
  | string body =>
    obtain ⟨s, rfl, hs⟩ := Means.string_iff.mp h
    cases hvalue with
    | string =>
      dsimp only
      rw [if_neg (by decide), if_neg (by decide), if_neg (by decide), if_neg (by decide),
        if_neg (by decide), if_pos rfl, readString_of_spells hs]
      rfl
  | array items =>
    obtain ⟨inner, js, rfl, rfl, hjs⟩ := Means.array_iff.mp h
    cases hvalue with
    | array hitems =>
      have hread := hjs.imp (hinner inner rfl)
      dsimp only
      rw [if_neg (by decide), if_neg (by decide), if_neg (by decide), if_neg (by decide),
        if_neg (by decide), if_neg (by decide), if_pos rfl]
      rw [readItems_of_areItems hread [] hitems (Nat.le_refl _)]
      rfl
  | object members =>
    obtain ⟨inner, ms, rfl, rfl, hms⟩ := Means.object_iff.mp h
    cases hvalue with
    | object hmembers =>
      have hread : List.Forall₂ (MemberOf (Reads (readValue inner))) members ms :=
        hms.imp fun _ _ hm => ⟨hm.1, hinner inner rfl _ _ hm.2⟩
      dsimp only
      rw [if_neg (by decide), if_neg (by decide), if_neg (by decide), if_neg (by decide),
        if_neg (by decide), if_neg (by decide), if_neg (by decide), if_pos rfl]
      rw [readMembers_of_areMembers hread [] hmembers (Nat.le_refl _)]
      rfl

theorem readValue_of_means {levels : Nat} {tree : Tree} {j : Json} (h : Means levels tree j) :
    Reads (readValue levels) tree j := by
  induction levels generalizing tree j with
  | zero => exact reads_of_inner (fun _ hinner => absurd hinner.symm (Nat.succ_ne_zero _)) h
  | succ levels ih =>
    refine reads_of_inner (fun inner hinner tree j h => ?_) h
    obtain rfl := Nat.succ.inj hinner
    exact ih h

/-! ## Codecs -/

namespace Codec

variable {α : Type} {c : Codec α} {levels : Nat}

theorem readText_reads (expected : String) {body : List Char} {s : String}
    (h : Spells body s.toList) : Reads (readText expected) (.string body) s := by
  intro input value rest hgap hvalue _
  cases hvalue with
  | string =>
    rw [readText, hgap.skipSpace_eq rfl]
    exact readString_of_spells h rest

theorem text_reads {tree : Tree} {s : String} (h : IsText tree s) :
    Reads (text.read levels) tree s := by
  obtain ⟨body, rfl, hspells⟩ := h
  exact readText_reads "a string" hspells

theorem integer_reads {low high n : Int} (expected : String) {tree : Tree}
    (h : IntegerOf low high tree n) : Reads ((integer low high expected).read levels) tree n := by
  intro input value rest hgap hvalue hends
  obtain ⟨token, rfl, hnumber, hrange⟩ := h
  have hskip := hvalue.skipSpace_eq hgap
  simp only [integer, hskip]
  rcases hnumber.read hvalue hends with ⟨c, tail, rfl, hc, hread⟩ | ⟨tail, rfl, hread⟩
  · have hminus : c ≠ '-' := ne_of_isDigit hc rfl
    simp only [hminus, hc, hread, hrange, if_false, if_true, and_self]
  · simp only [hread, hrange, if_true, and_self]

theorem any_reads {tree : Tree} {j : Json} (h : AnyOf levels tree j) :
    Reads (any.read levels) tree j := by
  intro input value rest hgap hvalue hends
  obtain ⟨i, hmeans, rfl⟩ := h
  simp only [any, readValue_of_means hmeans input value rest hgap hvalue hends]
  rfl

theorem parsed_reads {expected : String} {parse : String → Except String α} {print : α → String}
    {tree : Tree} {s : String} {a : α} (h : IsText tree s) (hparse : parse s = .ok a) :
    Reads ((parsed expected parse print).read levels) tree a := by
  intro input value rest hgap hvalue hends
  obtain ⟨body, rfl, hspells⟩ := h
  simp only [parsed, readText_reads expected hspells input value rest hgap hvalue hends, hparse]

theorem optional_reads {tree : Tree} {value : Option α}
    (h : OptionalOf (Reads (c.read levels)) tree value) :
    Reads (c.optional.read levels) tree value := by
  intro input text rest hgap hvalue hends
  cases value with
  | none =>
    obtain rfl : tree = .null := h
    cases hvalue with
    | null =>
      simp only [optional, hgap.skipSpace_eq rfl]
      rfl
  | some a =>
    obtain ⟨hne, hread⟩ := h
    have hskip := hvalue.skipSpace_eq hgap
    simp only [optional, hskip]
    split
    · next behind =>
      -- Nothing but `null` begins so.
      obtain ⟨c, tail, heq, hkind⟩ := hvalue.exists_head
      cases heq
      cases tree with
      | null => exact absurd rfl hne
      | bool b => cases b <;> cases hkind
      | number | string | array | object => cases hkind
    · rw [hread text text rest (.nil _) hvalue hends]
      rfl

end Codec

/-! ## Records -/

namespace Fields

/-- Each field takes values off texts as they are. -/
def reads (levels : Nat) : {β : Type} → (fields : Fields β) → fields.Fits
  | _, .nil => ()
  | _, .cons field rest => (Reads (field.codec.read levels), rest.reads levels)

section Reads

variable {β : Type} {fields : Fields β} {levels : Nat} {entries : List (String × Tree)}
  {done : List String} {b : β} {name : String}

theorem lookup_of_not_mem (h : name ∉ fields.names) (slots : fields.Slots) :
    fields.lookup slots name = .unknown := by
  induction fields with
  | nil => rfl
  | cons field others ih =>
    rw [names, List.mem_cons, not_or] at h
    rw [lookup, if_neg (Ne.symm h.1)]
    exact ih h.2 slots.2

/-- A member that a field has its value from is the first that is so called. -/
theorem Gives.not_mem {fits : fields.Fits} {tree : Tree} {behind : List (String × Tree)}
    (h : fields.Gives (entries ++ (name, tree) :: behind) fits b) (hname : name ∈ fields.names) :
    name ∉ entries.map Prod.fst := by
  intro hmem
  obtain ⟨⟨other, tree'⟩, hentry, heq⟩ := List.mem_map.mp hmem
  obtain rfl : other = name := heq
  have hbefore := List.length_pos_of_mem (mem_valuesOf.mpr hentry)
  have hthis : tree ∈ valuesOf other ((other, tree) :: behind) :=
    mem_valuesOf.mpr List.mem_cons_self
  have hlength := h.length_le_one hname
  rw [valuesOf_append, List.length_append] at hlength
  have hpos := List.length_pos_of_mem hthis
  omega

/-- The value of a member is read into the slot of the field that is so called. -/
theorem readSlot_gives (h : fields.Gives entries (fields.reads levels) b)
    (hnames : fields.names.Nodup) (hname : name ∈ fields.names) {tree : Tree}
    (hentry : (name, tree) ∈ entries) (done : List String) {input value rest : List Char}
    (hgap : Gap input value) (hvalue : IsValue value tree rest) (hends : Ends rest) :
    fields.readSlot levels name (fields.slotsFor done b) input =
      .ok (fields.slotsFor (name :: done) b, rest) := by
  induction fields with
  | nil => cases hname
  | cons field others ih =>
    obtain ⟨a, b⟩ := b
    obtain ⟨hfield, hothers⟩ := List.nodup_cons.mp hnames
    rw [readSlot]
    split
    · next heq =>
      subst heq
      have hmem := mem_valuesOf.mpr hentry
      obtain ⟨tree', hvalues, hread⟩ := h.1.resolve_right fun habsent => by
        rw [habsent.1] at hmem
        cases hmem
      rw [hvalues, List.mem_singleton] at hmem
      subst hmem
      have hsame : slotsFor (field.name :: done) others b = slotsFor done others b :=
        slotsFor_congr fun name hname => by
          have hne : name ≠ field.name := fun heq => hfield (heq ▸ hname)
          simp [hne]
      have htaken : field.codec.read levels input = .ok (a, rest) :=
        hread input value rest hgap hvalue hends
      simp only [htaken, slotsFor, hsame, Except.map, List.mem_cons, true_or, if_true]
    · next hne =>
      have hmember := ih h.2 hothers ((List.mem_cons.mp hname).resolve_left (Ne.symm hne))
      simp only [slotsFor, hmember, Except.map, List.mem_cons, hne, false_or]

/-- Once all members are read, the fields that are still missing are those that are left out. -/
theorem close_gives (h : fields.Gives entries (fields.reads levels) b)
    (hd : ∀ entry ∈ entries, entry.1 ∈ done) : fields.close (fields.slotsFor done b) = .ok b := by
  induction fields with
  | nil => rfl
  | cons field others ih =>
    obtain ⟨a, b⟩ := b
    have hothers := ih h.2
    rw [close]
    by_cases hdone : field.name ∈ done
    · simp only [slotsFor, hdone, if_true, hothers, Except.map]
    · rcases h.1 with ⟨tree, hvalues, -⟩ | ⟨-, habsence⟩
      · have hentry := mem_valuesOf.mp (hvalues ▸ List.mem_singleton_self tree)
        exact absurd (hd _ hentry) hdone
      · simp only [slotsFor, hdone, if_false, hothers]
        rcases habsence with h | h <;> rw [h] <;> rfl

theorem readMembers_of_gives {others : List (String × Tree)} {members : List (List Char × Tree)}
    (hnamed : Named members others) (hnames : fields.names.Nodup)
    (h : fields.Gives (entries ++ others) (fields.reads levels) b) {first : Bool}
    {fuel input rest : List Char} (hmembers : AreMembers first input members rest)
    (hfuel : input.length ≤ fuel.length) :
    fields.readMembers levels fuel first (fields.slotsFor (entries.map Prod.fst) b) input =
      .ok (b, rest) := by
  induction hnamed generalizing entries first fuel input with
  | nil =>
    cases hmembers with
    | close hclose =>
      obtain ⟨f, left, rfl, -⟩ := hclose.exists_fuel hfuel
      rw [List.append_nil] at h
      have hclosed := close_gives h fun entry hentry => List.mem_map_of_mem hentry
      rw [readMembers, nextKey_of_close hclose]
      simp only [hclosed]
  | @cons member entry members others hentry _ ih =>
    obtain ⟨body, tree⟩ := member
    obtain ⟨name, value⟩ := entry
    obtain ⟨hspells, heq⟩ := hentry
    cases heq
    cases hmembers with
    | member hlead hname hcolon hgap hvalue hmembers =>
      obtain ⟨f, left, rfl, hleft⟩ := hvalue.exists_fuel_member hlead hcolon hgap hfuel
      rw [← List.singleton_append, ← List.append_assoc] at h
      have hothers := ih h hmembers hleft
      rw [List.append_assoc, List.singleton_append] at h
      rw [readMembers, nextKey_of_lead hlead]
      simp only [readString_of_spells hspells, readColon_of_gap hcolon, bind, Except.bind]
      by_cases hknown : name ∈ fields.names
      · have hslot := readSlot_gives h hnames hknown (by simp) (entries.map Prod.fst) hgap
          hvalue hmembers.ends
        have hsame : fields.slotsFor (name :: entries.map Prod.fst) b =
            fields.slotsFor ((entries ++ [(name, tree)]).map Prod.fst) b :=
          slotsFor_congr fun other _ => by simp [or_comm]
        rw [lookup_slotsFor hknown (h.not_mem hknown)]
        simp only [hslot, hsame, hothers]
      · have hsame : fields.slotsFor (entries.map Prod.fst) b =
            fields.slotsFor ((entries ++ [(name, tree)]).map Prod.fst) b :=
          slotsFor_congr fun other hother => by
            have hne : other ≠ name := fun heq => hknown (heq ▸ hother)
            simp [hne]
        rw [lookup_of_not_mem hknown]
        simp only [skipValue_of_isValue hgap hvalue hmembers.ends, hsame, hothers]

end Reads

end Fields

/-- A record is read off every object that gives its fields their values. -/
theorem Codec.record_reads {α β : Type} {name : String} {fields : Fields β} {make : β → α}
    {split : α → β} {levels : Nat} {members : List (List Char × Tree)}
    {entries : List (String × Tree)} {b : β} (hnames : fields.names.Nodup)
    (hnamed : Named members entries) (h : fields.Gives entries (fields.reads levels) b) :
    Reads ((Codec.record name fields make split).read (levels + 1)) (.object members) (make b) := by
  intro input value rest hgap hvalue _
  cases hvalue with
  | object hmembers =>
    have hgives : fields.Gives ([] ++ entries) (fields.reads levels) b := h
    have hread := Fields.readMembers_of_gives hnamed hnames hgives hmembers (Nat.le_refl _)
    rw [List.map_nil, Fields.slotsFor_nil] at hread
    simp only [record, hgap.skipSpace_eq rfl, hread]
    rfl

/-! ## Whole texts -/

/-- A text is decoded as the value that it holds is read. -/
theorem Codec.decode_of_reads {α : Type} {c : Codec α} {text : String} {tree : Tree} {a : α}
    (h : Reads (c.read maxNesting) tree a) (htext : HoldsTree text tree) : c.decode text = .ok a := by
  obtain ⟨value, behind, hgap, hvalue, hend⟩ := htext
  have hspace : skipSpace behind = [] := hend.skipSpace_congr
  rw [decode, readWhole, h _ _ _ hgap hvalue hend.ends]
  simp only [hspace]

/-- The characters that are spelled are told from what is written. -/
theorem Spells.unique {body : List Char} {s s' : String} (h : Spells body s.toList)
    (h' : Spells body s'.toList) : s = s' := by
  have hread := readString_of_spells h []
  rw [readString_of_spells h' []] at hread
  cases hread
  rfl

theorem Named.unique {members : List (List Char × Tree)} {entries entries' : List (String × Tree)}
    (h : Named members entries) (h' : Named members entries') : entries = entries' := by
  induction h generalizing entries' with
  | nil =>
    cases h'
    rfl
  | cons hentry _ ih =>
    cases h' with
    | cons hentry' h' =>
      rw [ih h', Prod.ext (hentry.1.unique hentry'.1) (hentry.2.symm.trans hentry'.2)]

/-- Whether a text that holds an object is decoded as a record, and as which, is a matter of the names
and values of its members. -/
theorem Codec.record_decode_iff {α β : Type} {name : String} {fields : Fields β} {make : β → α}
    {split : α → β} {inner : Nat} (hinner : maxNesting = inner + 1) (hnames : fields.names.Nodup)
    (htake : fields.TakeValues inner (fields.reads inner)) {text : String}
    {members : List (List Char × Tree)} {entries : List (String × Tree)}
    (htext : HoldsTree text (.object members)) (hnamed : Named members entries) {a : α} :
    (Codec.record name fields make split).decode text = .ok a ↔
      ∃ b, make b = a ∧ fields.Gives entries (fields.reads inner) b := by
  constructor
  · intro h
    have htake' : ∀ level, maxNesting = level + 1 → fields.TakeValues level (fields.reads inner) := by
      intro level hlevel
      obtain rfl := Nat.succ.inj (hinner.symm.trans hlevel)
      exact htake
    obtain ⟨tree, htree, b, rfl, hb⟩ :=
      Codec.decode_sound (Codec.record_takesValues _ hnames htake') h
    obtain rfl := htext.unique htree
    cases hb with
    | object hnamed' hgives =>
      obtain rfl := hnamed.unique hnamed'
      exact ⟨b, rfl, hgives⟩
  · rintro ⟨b, rfl, hgives⟩
    refine Codec.decode_of_reads ?_ htext
    rw [hinner]
    exact Codec.record_reads hnames hnamed hgives

/-! ## Objects that say the same -/

/-- The members of one object put otherwise what those of another say to a reader who knows some names
and takes `null` for nothing under some: they stand in another order, there are others among them, or
such a `null` is left out. -/
inductive Restated (known spared : List String) :
    List (String × Tree) → List (String × Tree) → Prop where
  | reorder {entries entries' : List (String × Tree)} (h : entries'.Perm entries) :
    Restated known spared entries entries'
  | add {entries : List (String × Tree)} {name : String} (h : name ∉ known) (value : Tree) :
    Restated known spared entries ((name, value) :: entries)
  | leaveOut {entries : List (String × Tree)} {name : String} (h : name ∈ spared) :
    Restated known spared ((name, .null) :: entries) entries
  | trans {entries entries' entries'' : List (String × Tree)}
    (h : Restated known spared entries entries') (h' : Restated known spared entries' entries'') :
    Restated known spared entries entries''

theorem Restated.gives {β : Type} {fields : Fields β} {fits : fields.Fits} {spared : List String}
    {b : β} (hspared : ∀ name ∈ spared, fields.Spares name .null fits)
    {entries entries' : List (String × Tree)} (h : Restated fields.names spared entries entries')
    (hgives : fields.Gives entries fits b) : fields.Gives entries' fits b := by
  induction h with
  | reorder h => exact hgives.perm h
  | add h value => exact hgives.add h value
  | leaveOut h => exact hgives.leave_out (hspared _ h)
  | trans _ _ ih ih' => exact ih' (ih hgives)

/-- A record is decoded off every object that says the same. -/
theorem Codec.record_decode_restated {α β : Type} {name : String} {fields : Fields β} {make : β → α}
    {split : α → β} {inner : Nat} (hinner : maxNesting = inner + 1) (hnames : fields.names.Nodup)
    (htake : fields.TakeValues inner (fields.reads inner)) {spared : List String}
    (hspared : ∀ name ∈ spared, fields.Spares name .null (fields.reads inner))
    {text text' : String} {members members' : List (List Char × Tree)}
    {entries entries' : List (String × Tree)} (htext : HoldsTree text (.object members))
    (htext' : HoldsTree text' (.object members')) (hnamed : Named members entries)
    (hnamed' : Named members' entries') (h : Restated fields.names spared entries entries') {a : α}
    (hdecode : (Codec.record name fields make split).decode text = .ok a) :
    (Codec.record name fields make split).decode text' = .ok a := by
  obtain ⟨b, rfl, hgives⟩ := (record_decode_iff hinner hnames htake htext hnamed).mp hdecode
  exact (record_decode_iff hinner hnames htake htext' hnamed').mpr ⟨b, rfl, h.gives hspared hgives⟩

end GraphGateway.Json
