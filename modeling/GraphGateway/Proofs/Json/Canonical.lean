/-
Canonical values.

Sorting makes the names of the members ascend, and members whose names ascend stay as they are. So a
value whose objects have all been sorted is not changed by sorting them again (`canonical_canonical`),
and it is as plain as it was before (`Plain.canonical`). What a text means whose numbers are written as
integers of the 64-bit ranges (`Tree.Integral`) is plain (`Means.plain`). So whatever is read off such
a text as a value of any kind is plain and canonical (`Codec.AnyOf.settled`).
-/
import GraphGateway.Proofs.Json.Rendered

namespace GraphGateway.Json

/-! ## Sorted members -/

/-- The names of members ascend, and no two are the same. -/
def Ascending (ms : Members) : Prop := ms.Pairwise fun m n => m.1 < n.1

theorem mem_insertMember {m : String × Json} {name : String} {value : Json} {ms : Members}
    (h : m ∈ insertMember name value ms) : m = (name, value) ∨ m ∈ ms := by
  induction ms with
  | nil => exact .inl (List.mem_singleton.mp h)
  | cons n ms ih =>
    obtain ⟨key, old⟩ := n
    rw [insertMember] at h
    split at h
    · exact List.mem_cons.mp h
    · split at h
      · exact (List.mem_cons.mp h).imp_right (List.mem_cons_of_mem _)
      · rcases List.mem_cons.mp h with rfl | h
        · exact .inr List.mem_cons_self
        · exact (ih h).imp_right (List.mem_cons_of_mem _)

theorem Ascending.insertMember {ms : Members} (h : Ascending ms) (name : String) (value : Json) :
    Ascending (insertMember name value ms) := by
  induction ms with
  | nil => exact List.pairwise_singleton _ _
  | cons n ms ih =>
    obtain ⟨key, old⟩ := n
    obtain ⟨hfirst, hrest⟩ := List.pairwise_cons.mp h
    rw [Json.insertMember]
    split
    · next hlt =>
      refine List.pairwise_cons.mpr ⟨fun m hm => ?_, h⟩
      rcases List.mem_cons.mp hm with rfl | hm
      · exact hlt
      · exact String.lt_trans hlt (hfirst m hm)
    · next hnot =>
      split
      · next heq =>
        subst heq
        exact List.pairwise_cons.mpr ⟨hfirst, hrest⟩
      · next hne =>
        have hlt : key < name :=
          ((Std.lt_trichotomy name key).resolve_left hnot).resolve_left hne
        refine List.pairwise_cons.mpr ⟨fun m hm => ?_, ih hrest⟩
        rcases mem_insertMember hm with rfl | hm
        · exact hlt
        · exact hfirst m hm

/-- A name behind all others is put at the end. -/
theorem insertMember_last {name : String} {ms : Members} (h : ∀ m ∈ ms, m.1 < name) (value : Json) :
    insertMember name value ms = ms ++ [(name, value)] := by
  induction ms with
  | nil => rfl
  | cons n ms ih =>
    obtain ⟨key, old⟩ := n
    have hlt : key < name := h _ List.mem_cons_self
    have hne : name ≠ key := fun heq => String.lt_irrefl key (heq ▸ hlt)
    rw [insertMember, if_neg (String.lt_asymm hlt), if_neg hne,
      ih fun m hm => h m (List.mem_cons_of_mem _ hm), List.cons_append]

theorem ascending_sortMembers (ms : Members) : Ascending (sortMembers ms) := by
  have hfold (sorted : Members) (h : Ascending sorted) :
      Ascending (ms.foldl (fun sorted m => insertMember m.1 m.2 sorted) sorted) := by
    induction ms generalizing sorted with
    | nil => exact h
    | cons m ms ih => exact ih _ (h.insertMember m.1 m.2)
  exact hfold [] .nil

theorem mem_of_mem_sortMembers {m : String × Json} {ms : Members} :
    m ∈ sortMembers ms → m ∈ ms := by
  have hfold (sorted : Members) :
      m ∈ ms.foldl (fun sorted m => insertMember m.1 m.2 sorted) sorted → m ∈ ms ∨ m ∈ sorted := by
    induction ms generalizing sorted with
    | nil => exact .inr
    | cons n ms ih =>
      intro h
      rcases ih _ h with h | h
      · exact .inl (List.mem_cons_of_mem _ h)
      · exact (mem_insertMember h).imp_left fun heq => List.mem_cons.mpr (.inl heq)
  exact fun h => (hfold [] h).resolve_right List.not_mem_nil

theorem sortMembers_of_ascending {ms : Members} : Ascending ms → sortMembers ms = ms := by
  -- The members that have been put in stand in front of all others.
  have hfold (sorted : Members) : Ascending (sorted ++ ms) →
      ms.foldl (fun sorted m => insertMember m.1 m.2 sorted) sorted = sorted ++ ms := by
    induction ms generalizing sorted with
    | nil => exact fun _ => (List.append_nil sorted).symm
    | cons m ms ih =>
      intro h
      have hlast (n : String × Json) (hn : n ∈ sorted) : n.1 < m.1 :=
        (List.pairwise_append.mp h).2.2 n hn m List.mem_cons_self
      rw [← List.singleton_append, ← List.append_assoc] at h ⊢
      rw [List.singleton_append, List.foldl_cons, insertMember_last hlast]
      exact ih _ h
  exact hfold []

/-! ## Canonical values -/

mutual

/-- Sorting the members of all objects leaves nothing to be sorted. -/
theorem canonical_canonical : ∀ j : Json, j.canonical.canonical = j.canonical
  | .null => rfl
  | .bool _ => rfl
  | .number _ => rfl
  | .string _ => rfl
  | .array items => by
    rw [canonical, canonical, canonicalItems_eq_map, canonicalItems_eq_map]
    rw [List.map_map]
    exact congrArg Json.array (List.map_congr_left (canonical_canonical_items items))
  | .object ms => by
    have hsorted : (sortMembers (canonicalMembers ms)).map (fun m => (m.1, m.2.canonical)) =
        sortMembers (canonicalMembers ms) := by
      refine (List.map_congr_left fun m hm => ?_).trans (List.map_id _)
      have hmember := mem_of_mem_sortMembers hm
      rw [canonicalMembers_eq_map] at hmember
      obtain ⟨n, hn, rfl⟩ := List.mem_map.mp hmember
      exact Prod.ext rfl (canonical_canonical_members ms n hn)
    rw [canonical, canonical, canonicalMembers_eq_map (sortMembers _), hsorted,
      sortMembers_of_ascending (ascending_sortMembers _)]

theorem canonical_canonical_items :
    ∀ (items : List Json), ∀ item ∈ items, item.canonical.canonical = item.canonical
  | item :: items, other, h => by
    rcases List.mem_cons.mp h with heq | h
    · rw [heq]
      exact canonical_canonical item
    · exact canonical_canonical_items items other h

theorem canonical_canonical_members :
    ∀ (ms : Members), ∀ m ∈ ms, m.2.canonical.canonical = m.2.canonical
  | (_, value) :: ms, other, h => by
    rcases List.mem_cons.mp h with heq | h
    · rw [heq]
      exact canonical_canonical value
    · exact canonical_canonical_members ms other h

end

/-- A value is as plain when its members are sorted. -/
theorem Plain.canonical {levels : Nat} {j : Json} (h : Plain levels j) :
    Plain levels j.canonical := by
  induction levels generalizing j with
  | zero => cases j <;> exact h
  | succ levels ih =>
    cases j with
    | array items =>
      rw [Json.canonical, canonicalItems_eq_map]
      intro item hitem
      obtain ⟨inner, hinner, rfl⟩ := List.mem_map.mp hitem
      exact ih (h inner hinner)
    | object ms =>
      rw [Json.canonical, canonicalMembers_eq_map]
      intro m hm
      obtain ⟨n, hn, rfl⟩ := List.mem_map.mp (mem_of_mem_sortMembers hm)
      exact ih (h n hn)
    | null | bool | number | string => exact h

/-! ## Texts whose numbers are integers -/

/-- All numbers are written as integers of the 64-bit ranges. -/
inductive Tree.Integral : Tree → Prop where
  | null : Integral .null
  | bool (b : Bool) : Integral (.bool b)
  | number {n : Int} (h : InRange n) : Integral (.number (Number.intText n))
  | string (body : List Char) : Integral (.string body)
  | array {items : List Tree} (h : ∀ item ∈ items, Integral item) : Integral (.array items)
  | object {members : List (List Char × Tree)} (h : ∀ member ∈ members, Integral member.2) :
    Integral (.object members)

/-- What such a text means is plain. -/
theorem Means.plain {levels : Nat} {tree : Tree} {j : Json} (h : Means levels tree j)
    (hnumbers : tree.Integral) : Plain levels j := by
  induction hnumbers generalizing levels j with
  | null =>
    obtain rfl := Means.null_iff.mp h
    rw [Plain]
    trivial
  | bool b =>
    obtain rfl := Means.bool_iff.mp h
    rw [Plain]
    trivial
  | number hrange =>
    obtain ⟨n, rfl, hn⟩ := Means.number_iff.mp h
    obtain rfl := hn.unique hrange.numbers
    rw [Plain]
    exact hrange
  | string body =>
    obtain ⟨s, rfl, -⟩ := Means.string_iff.mp h
    rw [Plain]
    trivial
  | array _ ih =>
    obtain ⟨inner, js, rfl, rfl, hjs⟩ := Means.array_iff.mp h
    intro j hj
    obtain ⟨item, hitem, hmeans⟩ := exists_of_mem_right hjs hj
    exact ih item hitem hmeans
  | object _ ih =>
    obtain ⟨inner, ms, rfl, rfl, hms⟩ := Means.object_iff.mp h
    intro m hm
    obtain ⟨member, hmember, hmeans⟩ := exists_of_mem_right hms hm
    exact ih member hmember hmeans.2

/-- Whatever is read as any value is plain and canonical. -/
theorem Codec.AnyOf.settled {levels : Nat} {tree : Tree} {j : Json} (h : AnyOf levels tree j)
    (hnumbers : tree.Integral) : Plain levels j ∧ j.canonical = j := by
  obtain ⟨i, hmeans, rfl⟩ := h
  exact ⟨(hmeans.plain hnumbers).canonical, canonical_canonical i⟩

mutual

/-- What is printed for a plain value is such a text. -/
theorem Plain.integral : ∀ {levels : Nat} {j : Json}, Plain levels j → (Tree.ofJson j).Integral
  | _, .null, _ => .null
  | _, .bool b, _ => .bool b
  | _, .number (.int n), h => by
    rw [Plain] at h
    exact .number h
  | _, .number (.double _), h => by
    rw [Plain] at h
    exact h.elim
  | _, .string _, _ => .string _
  | _ + 1, .array _, h => .array (integral_ofItems h)
  | _ + 1, .object _, h => .object (integral_ofMembers h)

theorem integral_ofItems {levels : Nat} : ∀ {items : List Json},
    (∀ item ∈ items, Plain levels item) → ∀ item ∈ Tree.ofItems items, item.Integral
  | item :: items, h, tree, htree => by
    rcases List.mem_cons.mp htree with rfl | htree
    · exact (h item List.mem_cons_self).integral
    · exact integral_ofItems (fun i hi => h i (List.mem_cons_of_mem _ hi)) tree htree

theorem integral_ofMembers {levels : Nat} : ∀ {ms : Members}, (∀ m ∈ ms, Plain levels m.2) →
    ∀ member ∈ Tree.ofMembers ms, member.2.Integral
  | m :: ms, h, member, hmember => by
    rcases List.mem_cons.mp hmember with rfl | hmember
    · exact (h m List.mem_cons_self).integral
    · exact integral_ofMembers (fun n hn => h n (List.mem_cons_of_mem _ hn)) member hmember

end

end GraphGateway.Json
