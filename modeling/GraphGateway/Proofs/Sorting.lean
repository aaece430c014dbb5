/-
Lists in the order of a key.

A list sorted by a key is settled by the elements that it has under each key, in their order
(`eq_of_ascending`). Merge sort keeps that order (`filter_mergeSort`), so what is true of the
elements of one key before sorting is true of them afterwards. Where no two elements have one key,
the order before sorting leaves no trace (`mergeSort_eq_of_perm`); neither does how often an element
occurred once repetitions are taken out of a sorted list (`eraseReps_eq_of_mem_iff`).
-/
import Mathlib.Data.List.Nodup
import GraphGateway.Catalog.Schema

namespace GraphGateway.Sorting

variable {α : Type} (key : α → String)

/-- Whether the keys ascend; equal keys may follow each other. -/
def Ascending (xs : List α) : Prop := xs.Pairwise fun a b => key a ≤ key b

/-- Nothing under any key is nothing at all. -/
theorem eq_nil_of_filter {xs : List α} (h : ∀ k, xs.filter (key · = k) = []) : xs = [] := by
  rw [List.eq_nil_iff_forall_not_mem]
  intro x hx
  have hmem : x ∈ xs.filter (key · = key x) := List.mem_filter.mpr ⟨hx, by simp⟩
  rw [h (key x)] at hmem
  exact List.not_mem_nil hmem

/-- The first of an ascending list has the least of its keys. -/
theorem key_le_of_mem {x y : α} {xs : List α} (h : Ascending key (x :: xs)) (hy : y ∈ x :: xs) :
    key x ≤ key y := by
  rcases List.mem_cons.mp hy with rfl | hy
  · exact String.le_refl _
  · exact (List.pairwise_cons.mp h).1 y hy

/-- Ascending lists with the same elements under each key are the same. -/
theorem eq_of_ascending {xs ys : List α} (hx : Ascending key xs) (hy : Ascending key ys)
    (h : ∀ k, xs.filter (key · = k) = ys.filter (key · = k)) : xs = ys := by
  induction xs generalizing ys with
  | nil =>
    refine (eq_nil_of_filter key fun k => ?_).symm
    rw [← h k, List.filter_nil]
  | cons x xs ih =>
    cases ys with
    | nil =>
      refine eq_nil_of_filter key fun k => ?_
      rw [h k, List.filter_nil]
    | cons y ys =>
      have hxs : (x :: xs).filter (key · = key x) = x :: xs.filter (key · = key x) :=
        List.filter_cons_of_pos (by simp)
      have hys : (y :: ys).filter (key · = key y) = y :: ys.filter (key · = key y) :=
        List.filter_cons_of_pos (by simp)
      have hxy : x ∈ y :: ys := by
        have hmem : x ∈ (y :: ys).filter (key · = key x) := by
          rw [← h (key x), hxs]
          exact List.mem_cons_self
        exact (List.mem_filter.mp hmem).1
      have hyx : y ∈ x :: xs := by
        have hmem : y ∈ (x :: xs).filter (key · = key y) := by
          rw [h (key y), hys]
          exact List.mem_cons_self
        exact (List.mem_filter.mp hmem).1
      have hkey : key x = key y :=
        String.le_antisymm (key_le_of_mem key hx hyx) (key_le_of_mem key hy hxy)
      have hhead := h (key x)
      rw [hxs, hkey, hys] at hhead
      obtain ⟨rfl, -⟩ := List.cons.inj hhead
      have htail : xs = ys := by
        refine ih (List.pairwise_cons.mp hx).2 (List.pairwise_cons.mp hy).2 fun k => ?_
        have hk := h k
        by_cases hxk : key x = k
        · rw [List.filter_cons_of_pos (by simpa using hxk),
            List.filter_cons_of_pos (by simpa using hxk)] at hk
          exact (List.cons.inj hk).2
        · rwa [List.filter_cons_of_neg (by simpa using hxk),
            List.filter_cons_of_neg (by simpa using hxk)] at hk
      rw [htail]

/-! ## Merge sort -/

/-- The order of a key. -/
def byKey (a b : α) : Bool := decide (key a ≤ key b)

theorem byKey_trans (a b c : α) (hab : byKey key a b = true) (hbc : byKey key b c = true) :
    byKey key a c = true :=
  decide_eq_true (String.le_trans (of_decide_eq_true hab) (of_decide_eq_true hbc))

theorem byKey_total (a b : α) : (byKey key a b || byKey key b a) = true := by
  rcases String.le_total (key a) (key b) with h | h
  · simp [byKey, h]
  · simp [byKey, h]

theorem ascending_mergeSort (xs : List α) : Ascending key (xs.mergeSort (byKey key)) :=
  (List.pairwise_mergeSort (byKey_trans key) (byKey_total key) xs).imp of_decide_eq_true

/-- Sorting keeps the order of the elements of one key. -/
theorem filter_mergeSort (xs : List α) (k : String) :
    (xs.mergeSort (byKey key)).filter (key · = k) = xs.filter (key · = k) := by
  have hone : (xs.filter (key · = k)).Pairwise (byKey key · · = true) := by
    refine List.pairwise_of_forall_mem_list fun a ha b hb => ?_
    have hak : key a = k := by simpa using (List.mem_filter.mp ha).2
    have hbk : key b = k := by simpa using (List.mem_filter.mp hb).2
    rw [byKey, hak, hbk]
    exact decide_eq_true (String.le_refl k)
  have hsub := List.sublist_mergeSort (byKey_trans key) (byKey_total key) hone List.filter_sublist
  have hfilter := hsub.filter (key · = k)
  rw [List.filter_filter] at hfilter
  simp only [Bool.and_self] at hfilter
  refine (hfilter.eq_of_length ?_).symm
  exact ((List.mergeSort_perm xs (byKey key)).filter _).length_eq.symm

/-- Leaving elements out that are told by their key, before or after sorting. -/
theorem mergeSort_filter (xs : List α) (p : String → Bool) :
    (xs.filter fun a => p (key a)).mergeSort (byKey key) =
      (xs.mergeSort (byKey key)).filter fun a => p (key a) := by
  refine eq_of_ascending key (ascending_mergeSort key _)
    ((ascending_mergeSort key xs).filter _) fun k => ?_
  have hswap : ∀ ys : List α, (ys.filter fun a => p (key a)).filter (key · = k) =
      (ys.filter (key · = k)).filter fun a => p (key a) := by
    intro ys
    rw [List.filter_filter, List.filter_filter]
    simp only [Bool.and_comm]
  rw [filter_mergeSort, hswap, hswap, filter_mergeSort]

/-- Elements of different keys come in one order only. -/
theorem mergeSort_eq_of_perm {xs ys : List α} (h : xs.Perm ys) (hkeys : (xs.map key).Nodup) :
    xs.mergeSort (byKey key) = ys.mergeSort (byKey key) := by
  have hperm : (xs.mergeSort (byKey key)).Perm (ys.mergeSort (byKey key)) :=
    ((List.mergeSort_perm xs _).trans h).trans (List.mergeSort_perm ys _).symm
  refine hperm.eq_of_pairwise ?_ (ascending_mergeSort key xs) (ascending_mergeSort key ys)
  intro a b ha hb hab hba
  have hax : a ∈ xs := List.mem_mergeSort.mp ha
  have hbx : b ∈ xs := h.mem_iff.mpr (List.mem_mergeSort.mp hb)
  exact List.inj_on_of_nodup_map hkeys hax hbx (String.le_antisymm hab hba)

/-! ## Repetitions -/

/-- What has been put aside stands in front of what is still found. -/
theorem eraseRepsBy_loop (r : α → α → Bool) (a : α) (xs done : List α) :
    List.eraseRepsBy.loop r a xs done = done.reverse ++ List.eraseRepsBy.loop r a xs [] := by
  induction xs generalizing a done with
  | nil => simp [List.eraseRepsBy.loop]
  | cons x xs ih =>
    simp only [List.eraseRepsBy.loop]
    split
    · exact ih a done
    · rw [ih x (a :: done), ih x [a]]
      simp

section Repetitions

variable [DecidableEq α]

theorem eraseReps_cons_self (a : α) (xs : List α) :
    (a :: a :: xs).eraseReps = (a :: xs).eraseReps := by
  simp [List.eraseReps, List.eraseRepsBy, List.eraseRepsBy.loop]

theorem eraseReps_cons_of_ne {a b : α} (h : a ≠ b) (xs : List α) :
    (a :: b :: xs).eraseReps = a :: (b :: xs).eraseReps := by
  have hne : (a == b) = false := by simpa using h
  simp only [List.eraseReps, List.eraseRepsBy, List.eraseRepsBy.loop, hne]
  exact eraseRepsBy_loop _ b xs [a]

theorem mem_eraseReps {a : α} {xs : List α} : a ∈ xs.eraseReps ↔ a ∈ xs := by
  induction xs with
  | nil => rfl
  | cons x xs ih =>
    cases xs with
    | nil => rfl
    | cons y xs =>
      by_cases hxy : x = y
      · subst hxy
        rw [eraseReps_cons_self, ih]
        simp
      · rw [eraseReps_cons_of_ne hxy, List.mem_cons, ih, ← List.mem_cons]

variable {le : α → α → Bool}

theorem pairwise_eraseReps {xs : List α} (h : xs.Pairwise (le · · = true)) :
    xs.eraseReps.Pairwise (le · · = true) := by
  induction xs with
  | nil => exact .nil
  | cons x xs ih =>
    cases xs with
    | nil => exact List.pairwise_singleton _ x
    | cons y xs =>
      have htail := ih (List.pairwise_cons.mp h).2
      by_cases hxy : x = y
      · subst hxy
        rwa [eraseReps_cons_self]
      · rw [eraseReps_cons_of_ne hxy, List.pairwise_cons]
        exact ⟨fun z hz => (List.pairwise_cons.mp h).1 z (mem_eraseReps.mp hz), htail⟩

/-- In a sorted list only neighbours can be the same. -/
theorem nodup_eraseReps (hantisymm : ∀ a b, le a b = true → le b a = true → a = b) {xs : List α}
    (h : xs.Pairwise (le · · = true)) : xs.eraseReps.Nodup := by
  induction xs with
  | nil => exact .nil
  | cons x xs ih =>
    cases xs with
    | nil => exact List.nodup_singleton x
    | cons y xs =>
      obtain ⟨hx, htail⟩ := List.pairwise_cons.mp h
      by_cases hxy : x = y
      · subst hxy
        rw [eraseReps_cons_self]
        exact ih htail
      · rw [eraseReps_cons_of_ne hxy, List.nodup_cons, mem_eraseReps]
        refine ⟨fun hmem => hxy ?_, ih htail⟩
        have hyx : y = x ∨ le y x = true := by
          rcases List.mem_cons.mp hmem with hy | hmem
          · exact .inl hy.symm
          · exact .inr ((List.pairwise_cons.mp htail).1 x hmem)
        rcases hyx with hy | hle
        · exact hy.symm
        · exact hantisymm x y (hx y List.mem_cons_self) hle

/-- Sorted lists of the same elements are the same once repetitions are taken out. -/
theorem eraseReps_eq_of_mem_iff (hantisymm : ∀ a b, le a b = true → le b a = true → a = b)
    {xs ys : List α} (hx : xs.Pairwise (le · · = true)) (hy : ys.Pairwise (le · · = true))
    (h : ∀ a, a ∈ xs ↔ a ∈ ys) : xs.eraseReps = ys.eraseReps := by
  have hperm : xs.eraseReps.Perm ys.eraseReps := by
    refine (List.perm_ext_iff_of_nodup (nodup_eraseReps hantisymm hx)
      (nodup_eraseReps hantisymm hy)).mpr fun a => ?_
    rw [mem_eraseReps, mem_eraseReps, h a]
  exact hperm.eq_of_pairwise (fun a b _ _ => hantisymm a b) (pairwise_eraseReps hx)
    (pairwise_eraseReps hy)

end Repetitions

end GraphGateway.Sorting
