import Mathlib.Data.List.Perm.Basic
import Mathlib.Order.Lattice

set_option relaxedAutoImplicit false
set_option autoImplicit false

/-!
# Stable sorting

A list is sorted stably by a total preorder if it becomes sorted and the elements of each class of
equivalent elements keep their order. There is exactly one way to do this.

## Main definitions

* `Sorting.IsStableSort` — one list is another one, sorted stably.

## Main results

* `Sorting.isStableSort_mergeSort` — merge sort is stable.
* `Sorting.IsStableSort.unique` — a list has one stable sort only.
* `Sorting.IsStableSort.filter` — a part of a stable sort is the stable sort of the part.
* `Sorting.isStableSort_mergeSort_key` — merge sort by a key.
-/

namespace Sorting

variable {α : Type} {le : α → α → Bool}

/-- Two elements are equivalent: neither has to come first. -/
def SameRank (le : α → α → Bool) (a b : α) : Bool := le a b && le b a

/-- **The first list is the second one, sorted stably.** -/
structure IsStableSort (le : α → α → Bool) (sorted l : List α) : Prop where
  perm : sorted.Perm l
  pairwise : sorted.Pairwise fun a b => le a b = true
  /-- Equivalent elements keep their order. -/
  stable : ∀ a, sorted.filter (SameRank le a) = l.filter (SameRank le a)

/-- A total relation is reflexive. -/
lemma le_self_of_total (htotal : ∀ a b, (le a b || le b a) = true) (a : α) : le a a = true := by
  simpa using htotal a a

/-- **Merge sort is stable.** -/
lemma isStableSort_mergeSort (htrans : ∀ a b c, le a b = true → le b c = true → le a c = true)
    (htotal : ∀ a b, (le a b || le b a) = true) (l : List α) :
    IsStableSort le (l.mergeSort le) l := by
  have hperm := List.mergeSort_perm l le
  refine ⟨hperm, List.pairwise_mergeSort htrans htotal l, fun a => ?_⟩
  -- a class is sorted already, so that it is a sublist of the sorted list
  have hclass : (l.filter (SameRank le a)).Pairwise fun b c => le b c = true := by
    refine List.pairwise_of_forall_mem_list fun b hb c hc => ?_
    obtain ⟨_, hba⟩ := Bool.and_eq_true_iff.mp (List.mem_filter.mp hb).2
    obtain ⟨hac, _⟩ := Bool.and_eq_true_iff.mp (List.mem_filter.mp hc).2
    exact htrans b a c hba hac
  have hsub := (List.sublist_mergeSort htrans htotal hclass List.filter_sublist).filter
    (SameRank le a)
  simp only [List.filter_filter, Bool.and_self] at hsub
  exact (hsub.eq_of_length (hperm.filter _).length_eq.symm).symm

namespace IsStableSort

/-- The part of a stable sort whose elements meet a condition is the stable sort of the part. -/
lemma filter {sorted l : List α} (h : IsStableSort le sorted l) (p : α → Bool) :
    IsStableSort le (sorted.filter p) (l.filter p) := by
  refine ⟨h.perm.filter p, h.pairwise.sublist List.filter_sublist, fun a => ?_⟩
  have hcomm : ∀ xs : List α, (xs.filter p).filter (SameRank le a) =
      (xs.filter (SameRank le a)).filter p := by
    intro xs
    rw [List.filter_filter, List.filter_filter]
    exact List.filter_congr fun b _ => Bool.and_comm _ _
  rw [hcomm, hcomm, h.stable a]

/-- **A list has one stable sort only.**

**Proof sketch.** The first elements of two sorted permutations of a list are equivalent, so they
are the first elements of one class, and this class is the same in both. -/
lemma unique (htotal : ∀ a b, (le a b || le b a) = true) {xs ys l : List α}
    (hx : IsStableSort le xs l) (hy : IsStableSort le ys l) : xs = ys := by
  have hsame : ∀ a, xs.filter (SameRank le a) = ys.filter (SameRank le a) :=
    fun a => (hx.stable a).trans (hy.stable a).symm
  have hperm : xs.Perm ys := hx.perm.trans hy.perm.symm
  have hxs := hx.pairwise
  have hys := hy.pairwise
  clear hx hy
  induction xs generalizing ys with
  | nil => exact hperm.nil_eq
  | cons a xs ih =>
    cases ys with
    | nil => exact absurd hperm.symm.nil_eq (by simp)
    | cons b ys =>
      have hrefl := le_self_of_total htotal
      have hab : le a b = true := by
        rcases List.mem_cons.mp (hperm.mem_iff.mpr List.mem_cons_self) with rfl | hmem
        · exact hrefl b
        · exact List.rel_of_pairwise_cons hxs hmem
      have hba : le b a = true := by
        rcases List.mem_cons.mp (hperm.mem_iff.mp List.mem_cons_self) with rfl | hmem
        · exact hrefl a
        · exact List.rel_of_pairwise_cons hys hmem
      obtain rfl : a = b := by
        have hclass := hsame a
        rw [List.filter_cons_of_pos (by simp [SameRank, hrefl]),
          List.filter_cons_of_pos (by simp [SameRank, hab, hba])] at hclass
        exact (List.cons.inj hclass).1
      refine congrArg (a :: ·) (ih (fun c => ?_) hperm.cons_inv hxs.of_cons hys.of_cons)
      have hclass := hsame c
      by_cases hc : SameRank le c a = true
      · rw [List.filter_cons_of_pos hc, List.filter_cons_of_pos hc] at hclass
        exact (List.cons.inj hclass).2
      · rwa [List.filter_cons_of_neg hc, List.filter_cons_of_neg hc] at hclass

end IsStableSort

/-! ## Sorting by a key -/

section Key

variable {β : Type} [LinearOrder β] (key : α → β)

/-- Any two elements can be ordered by their keys. -/
lemma total_key (a b : α) : (decide (key a ≤ key b) || decide (key b ≤ key a)) = true := by
  simpa using le_total (key a) (key b)

/-- **Merge sort by a key is stable.** -/
lemma isStableSort_mergeSort_key (l : List α) :
    IsStableSort (fun a b => decide (key a ≤ key b))
      (l.mergeSort fun a b => decide (key a ≤ key b)) l := by
  refine isStableSort_mergeSort (fun a b c hab hbc => ?_) (total_key key) l
  exact decide_eq_true (le_trans (of_decide_eq_true hab) (of_decide_eq_true hbc))

variable {key} in
/-- A stable sort by a key is what merge sort gives. -/
lemma IsStableSort.eq_mergeSort_key {sorted l : List α}
    (h : IsStableSort (fun a b => decide (key a ≤ key b)) sorted l) :
    sorted = l.mergeSort fun a b => decide (key a ≤ key b) :=
  h.unique (total_key key) (isStableSort_mergeSort_key key l)

end Key

end Sorting
