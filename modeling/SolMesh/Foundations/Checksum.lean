import Mathlib.Algebra.BigOperators.Group.List.Basic
import Mathlib.Data.Set.Function
import Mathlib.Tactic.ByContra

set_option relaxedAutoImplicit false
set_option autoImplicit false

/-!
# Checksums that fold a step

A checksum folds a step over the symbols of a message. If the step forgets neither the state nor
the symbol, then two messages that differ in exactly one place have different checksums, wherever
the place is and whatever stands around it. The same holds of messages that differ in a window, if
no state confuses the contents of the window. If the step is additive, then so is the checksum, and
if the step adds up a measure, then the checksum tells the measure of the message.

## Main definitions

* `Checksum.Lossless` — a step that is injective in the state and in the symbol.
* `Checksum.Additive` — a step that commutes with an addition.

## Main results

* `Checksum.Lossless.injOn_foldl` — the fold over fixed symbols forgets nothing.
* `Checksum.Lossless.foldl_window_ne` — a change in a window changes the checksum.
* `Checksum.Lossless.foldl_ne` — a change in one place changes the checksum.
* `Checksum.Lossless.foldl_ne_of_agree` — the same for messages that agree outside a window.
* `Checksum.Lossless.foldl_set_ne` — the same for the list that is overwritten in one place.
* `Checksum.Additive.foldl_zipWith` — the checksum of a sum is the sum of the checksums.
* `Checksum.Lossless.measure_foldl` — a measure that steps add up.
-/

namespace Checksum

variable {σ β : Type} {step : σ → β → σ} {S : Set σ}

/-- A step on the states of `S` that forgets neither the state nor the symbol. -/
structure Lossless (step : σ → β → σ) (S : Set σ) : Prop where
  mapsTo : ∀ b, Set.MapsTo (fun s => step s b) S S
  injOn : ∀ b, Set.InjOn (fun s => step s b) S
  injective : ∀ s ∈ S, Function.Injective (step s)

namespace Lossless

/-- The fold stays among the states. -/
lemma mapsTo_foldl (h : Lossless step S) (bs : List β) :
    Set.MapsTo (fun s => bs.foldl step s) S S := by
  induction bs with
  | nil => exact Set.mapsTo_id S
  | cons b bs ih => exact ih.comp (h.mapsTo b)

/-- **The fold over fixed symbols forgets nothing.** -/
lemma injOn_foldl (h : Lossless step S) (bs : List β) :
    Set.InjOn (fun s => bs.foldl step s) S := by
  induction bs with
  | nil => exact Set.injOn_id S
  | cons b bs ih => exact ih.comp (h.injOn b) (h.mapsTo b)

/-- **A change in a window changes the checksum**: the states behind the windows differ, and the
symbols that follow keep them apart. -/
lemma foldl_window_ne (h : Lossless step S) {s : σ} (hs : s ∈ S) {window window' : List β}
    (hwindow : ∀ t ∈ S, window.foldl step t ≠ window'.foldl step t) (pre post : List β) :
    (pre ++ (window ++ post)).foldl step s ≠ (pre ++ (window' ++ post)).foldl step s := by
  have hpre : pre.foldl step s ∈ S := h.mapsTo_foldl pre hs
  simp only [List.foldl_append]
  intro heq
  exact hwindow _ hpre
    (h.injOn_foldl post (h.mapsTo_foldl window hpre) (h.mapsTo_foldl window' hpre) heq)

/-- Lists that agree outside a window, cut at its ends.

**Proof sketch.** Both lists are cut at the two ends of the window, and what is in front of it and
behind it is the same in both, element by element. -/
lemma cut_of_agree {bs cs : List β} {i n : ℕ} (hout : ∀ k, k < i ∨ i + n ≤ k → bs[k]? = cs[k]?) :
    bs = bs.take i ++ ((bs.drop i).take n ++ bs.drop (i + n)) ∧
      cs = bs.take i ++ ((cs.drop i).take n ++ bs.drop (i + n)) := by
  have hcut : ∀ ds : List β, ds = ds.take i ++ ((ds.drop i).take n ++ ds.drop (i + n)) := by
    intro ds
    rw [← List.drop_drop, List.take_append_drop, List.take_append_drop]
  have hfront : bs.take i = cs.take i := by
    apply List.ext_getElem?
    intro k
    rw [List.getElem?_take, List.getElem?_take]
    split_ifs with hk
    · exact hout k (Or.inl hk)
    · rfl
  have hback : bs.drop (i + n) = cs.drop (i + n) := by
    apply List.ext_getElem?
    intro k
    rw [List.getElem?_drop, List.getElem?_drop]
    exact hout _ (Or.inr (Nat.le_add_right _ _))
  refine ⟨hcut bs, ?_⟩
  rw [hfront, hback]
  exact hcut cs

/-- **Messages of one length that differ only in a window** have different checksums, if no state
confuses windows of its size. -/
lemma foldl_ne_of_agree (h : Lossless step S) {s : σ} (hs : s ∈ S) {n : ℕ}
    (hwindow : ∀ t ∈ S, ∀ window window' : List β, window.length = window'.length →
      window.length ≤ n → window ≠ window' → window.foldl step t ≠ window'.foldl step t)
    {bs cs : List β} (hlen : bs.length = cs.length) (hne : bs ≠ cs) {i : ℕ}
    (hout : ∀ k, k < i ∨ i + n ≤ k → bs[k]? = cs[k]?) : bs.foldl step s ≠ cs.foldl step s := by
  obtain ⟨hbs, hcs⟩ := cut_of_agree hout
  have hsame : ((bs.drop i).take n).length = ((cs.drop i).take n).length := by
    rw [List.length_take, List.length_take, List.length_drop, List.length_drop, hlen]
  have hdiffer : (bs.drop i).take n ≠ (cs.drop i).take n := by
    intro heq
    rw [← heq, ← hbs] at hcs
    exact hne hcs.symm
  have hfold := h.foldl_window_ne hs
    (fun t ht => hwindow t ht _ _ hsame (List.length_take_le _ _) hdiffer) (bs.take i)
    (bs.drop (i + n))
  rwa [← hbs, ← hcs] at hfold

/-- **A change in one place changes the checksum**: a window of one symbol. -/
lemma foldl_ne (h : Lossless step S) {s : σ} (hs : s ∈ S) {b b' : β} (hb : b ≠ b')
    (pre post : List β) :
    (pre ++ b :: post).foldl step s ≠ (pre ++ b' :: post).foldl step s := by
  have hwindow : ∀ t ∈ S, [b].foldl step t ≠ [b'].foldl step t :=
    fun t ht heq => hb (h.injective t ht heq)
  exact h.foldl_window_ne hs hwindow pre post

/-- A list overwritten with another symbol in one place has another checksum. -/
lemma foldl_set_ne (h : Lossless step S) {s : σ} (hs : s ∈ S) {bs : List β} {i : ℕ} {b : β}
    (hi : i < bs.length) (hb : bs[i] ≠ b) : (bs.set i b).foldl step s ≠ bs.foldl step s := by
  have hset : bs.set i b = bs.take i ++ b :: bs.drop (i + 1) := by
    rw [List.set_eq_take_append_cons_drop, if_pos hi]
  have hne := h.foldl_ne hs hb (bs.take i) (bs.drop (i + 1))
  rw [List.getElem_cons_drop, List.take_append_drop, ← hset] at hne
  exact hne.symm

/-- **A measure that steps add up**: the checksum has the measure of the message. -/
lemma measure_foldl {M : Type} [AddMonoid M] {size : σ → M} {weight : β → M}
    (h : Lossless step S) (hstep : ∀ s ∈ S, ∀ b, size (step s b) = size s + weight b)
    {s : σ} (hs : s ∈ S) (bs : List β) :
    size (bs.foldl step s) = size s + (bs.map weight).sum := by
  induction bs generalizing s with
  | nil => exact (add_zero _).symm
  | cons b bs ih =>
    rw [List.foldl_cons, ih (h.mapsTo b hs), hstep s hs b, List.map_cons, List.sum_cons, add_assoc]

end Lossless

/-! ## Additive steps -/

/-- A step that commutes with an addition of states and an addition of symbols. -/
def Additive (step : σ → β → σ) (add : σ → σ → σ) (add' : β → β → β) : Prop :=
  ∀ s t b c, step (add s t) (add' b c) = add (step s b) (step t c)

/-- **The checksum of a sum is the sum of the checksums.**

**Proof sketch.** Induction on the first message. The other has a symbol wherever this one has. -/
lemma Additive.foldl_zipWith {add : σ → σ → σ} {add' : β → β → β} (h : Additive step add add')
    {bs cs : List β} (hlen : bs.length = cs.length) (s t : σ) :
    (List.zipWith add' bs cs).foldl step (add s t) = add (bs.foldl step s) (cs.foldl step t) := by
  induction bs generalizing cs s t with
  | nil =>
    obtain rfl := List.eq_nil_of_length_eq_zero hlen.symm
    rfl
  | cons b bs ih =>
    obtain ⟨c, cs, rfl⟩ := List.exists_cons_of_length_eq_add_one hlen.symm
    rw [List.zipWith_cons_cons, List.foldl_cons, List.foldl_cons, List.foldl_cons, h]
    exact ih (Nat.succ.inj hlen) (step s b) (step t c)

end Checksum
