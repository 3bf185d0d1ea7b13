import Mathlib.Algebra.Order.Ring.Rat
import Mathlib.Tactic.Linarith
import SolMesh.Foundations.Runs

set_option relaxedAutoImplicit false
set_option autoImplicit false

/-!
# Observations along runs

What is observed of each input of a run, in the state that the input finds; and the rule that bounds
what a run costs: if an input costs something only when it is paid for, and then no more than a
price, then a run costs no more than the price of the inputs that are paid for.

## Main definitions

* `Conc.along` — the observations along a run.

## Main results

* `Conc.along_append` — observations along a run in two parts.
* `Conc.sum_along_le` — the cost of a run.
* `Conc.countP_le_add` — counting by cases.
-/

namespace Conc

variable {σ ι α : Type}

/-- **The observations along a run** of a function, one at each input. -/
def along (next : σ → ι → σ) (observe : σ → ι → α) : σ → List ι → List α
  | _, [] => []
  | s, i :: inputs => observe s i :: along next observe (next s i) inputs

variable {next : σ → ι → σ} {observe : σ → ι → α} {s : σ} {inputs inputs' : List ι}

/-- Observations along a run in two parts. -/
lemma along_append (s : σ) (inputs inputs' : List ι) :
    along next observe s (inputs ++ inputs') =
      along next observe s inputs ++ along next observe (inputs.foldl next s) inputs' := by
  induction inputs generalizing s with
  | nil => rfl
  | cons i inputs ih => exact congrArg (observe s i :: ·) (ih (next s i))

/-- What is made of the observations may be observed itself. -/
lemma map_along {β : Type} (f : α → β) (s : σ) (inputs : List ι) :
    (along next observe s inputs).map f = along next (fun s i => f (observe s i)) s inputs := by
  induction inputs generalizing s with
  | nil => rfl
  | cons i inputs ih => exact congrArg (f (observe s i) :: ·) (ih (next s i))

/-- **The cost of a run**: if an input that is not paid for costs nothing, and any other input costs
at most the price, in all states with a property that is kept, then a run costs at most the price
of the inputs that are paid for.

**Proof sketch.** Induction on the inputs: each one adds at most the price to the cost if it is
counted, and nothing if it is not. -/
lemma sum_along_le {inv : σ → Prop} {cost : σ → ι → ℚ} {paid : σ → ι → Bool} {price : ℚ}
    (hkeep : ∀ s i, inv s → inv (next s i))
    (hcost : ∀ s i, inv s → cost s i ≤ if paid s i then price else 0) (hs : inv s) :
    (along next cost s inputs).sum ≤ price * ((along next paid s inputs).count true : ℕ) := by
  induction inputs generalizing s with
  | nil => simp [along]
  | cons i inputs ih =>
    have hrest := ih (hkeep s i hs)
    have hfirst := hcost s i hs
    rw [along, along, List.sum_cons, List.count_cons]
    cases hpaid : paid s i with
    | false =>
      rw [hpaid, if_neg Bool.false_ne_true] at hfirst
      simp only [Bool.false_eq_true, beq_iff_eq, if_false, add_zero]
      linarith
    | true =>
      rw [hpaid, if_pos rfl] at hfirst
      simp only [beq_self_eq_true, if_true, Nat.cast_add, Nat.cast_one, mul_add, mul_one]
      linarith

/-- What is one of two things is counted as one of them. -/
lemma countP_le_add {p q r : α → Bool} (h : ∀ a, p a = true → q a = true ∨ r a = true)
    (as : List α) : as.countP p ≤ as.countP q + as.countP r := by
  induction as with
  | nil => exact Nat.zero_le _
  | cons a as ih =>
    have ha := h a
    rw [List.countP_cons, List.countP_cons, List.countP_cons]
    cases hp : p a with
    | false =>
      rw [if_neg Bool.false_ne_true]
      omega
    | true =>
      rcases ha hp with hq | hr
      · rw [hq]
        simp only [if_true]
        omega
      · rw [hr]
        simp only [if_true]
        omega

end Conc
