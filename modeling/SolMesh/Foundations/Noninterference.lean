import SolMesh.Foundations.Budget
import SolMesh.Foundations.Focus

set_option relaxedAutoImplicit false
set_option autoImplicit false

/-!
# What others cannot change

Two states look alike to a party. A method is blind to the difference if it returns or raises the
same from both and ends in states that look alike again; such methods compose. And if the inputs of
a party are handled like that, and inputs of others change nothing that it can see, then a run
treats the party as if the others were not there.

## Main definitions

* `Py.Agree` — outcomes that are the same, up to states that look alike.
* `Py.Blind` — a method that does not see how two states differ.
* `Conc.observed` — what is observed at the inputs of a party.
* `Conc.Unwinding` — a relation between states that looks alike to a party, input by input.

## Main results

* `Py.Blind.bind`, `Py.blind_get_bind`, `Py.Blind.attempt`, `Py.Blind.focus` — blind methods
  compose.
* `Conc.Unwinding.observed_eq` — a party sees the same if the inputs of others are left out.
-/

namespace Py

variable {σ τ α β : Type}

/-- Two outcomes agree: the same is returned or raised, and the states look alike. -/
inductive Agree (R : σ → σ → Prop) : EStateM.Result Exn σ α → EStateM.Result Exn σ α → Prop
  | ok {a : α} {s t : σ} (h : R s t) : Agree R (.ok a s) (.ok a t)
  | error {e : Exn} {s t : σ} (h : R s t) : Agree R (.error e s) (.error e t)

/-- **The method is blind to the difference** between states that look alike. -/
def Blind (R : σ → σ → Prop) (m : Method σ α) : Prop := ∀ s t, R s t → Agree R (m.run s) (m.run t)

variable {R : σ → σ → Prop} {m : Method σ α} {f : α → Method σ β}

/-! ## Blind methods -/

lemma blind_pure (R : σ → σ → Prop) (a : α) : Blind R (pure a : Method σ α) :=
  fun _ _ h => .ok h

lemma blind_throw (R : σ → σ → Prop) (e : Exn) : Blind R (throw e : Method σ α) :=
  fun _ _ h => .error h

lemma blind_ofExcept (R : σ → σ → Prop) (x : Except Exn α) : Blind R (ofExcept x : Method σ α) := by
  cases x with
  | ok a => exact blind_pure R a
  | error e => exact blind_throw R e

/-- A change of the state is blind if it keeps alike what looks alike. -/
lemma blind_modify {f : σ → σ} (h : ∀ s t, R s t → R (f s) (f t)) :
    Blind R (modify f : Method σ Unit) := fun s t hst => .ok (h s t hst)

/-- **Blind methods compose.** -/
lemma Blind.bind (h : Blind R m) (hf : ∀ a, Blind R (f a)) : Blind R (m >>= f) := by
  intro s t hst
  have hagree := h s t hst
  rw [EStateM.run_bind, EStateM.run_bind]
  generalize m.run s = x at hagree
  generalize m.run t = y at hagree
  cases hagree with
  | ok hst' => exact hf _ _ _ hst'
  | error hst' => exact .error hst'

/-- A state may be read, if what is done with it does not depend on the difference. -/
lemma blind_get_bind {f : σ → Method σ α} (hread : ∀ s t, R s t → f s = f t)
    (h : ∀ s, Blind R (f s)) : Blind R (get >>= f) := by
  intro s t hst
  rw [EStateM.run_bind, EStateM.run_bind, EStateM.run_get, EStateM.run_get]
  dsimp only
  rw [← hread s t hst]
  exact h s s t hst

/-- What is raised may be handed out. -/
lemma Blind.attempt (h : Blind R m) : Blind R (attempt m) := by
  intro s t hst
  have hagree := h s t hst
  rw [run_attempt, run_attempt]
  generalize m.run s = x at hagree
  generalize m.run t = y at hagree
  cases hagree with
  | ok hst' => exact .ok hst'
  | error hst' => exact .ok hst'

/-- A method of a part is blind if it is blind to the difference of the parts. -/
lemma Blind.focus {Q : τ → τ → Prop} {p : Part σ τ} {m : Method τ α} (h : Blind Q m)
    (hget : ∀ s t, R s t → Q (p.get s) (p.get t))
    (hset : ∀ s t s' t', R s t → Q s' t' → R (p.set s' s) (p.set t' t)) :
    Blind R (focus p m) := by
  intro s t hst
  have hagree := h _ _ (hget s t hst)
  generalize hx : m.run (p.get s) = x at hagree
  generalize hy : m.run (p.get t) = y at hagree
  cases hagree with
  | ok hst' =>
    rw [run_focus_ok hx, run_focus_ok hy]
    exact .ok (hset s t _ _ hst hst')
  | error hst' =>
    rw [run_focus_error hx, run_focus_error hy]
    exact .error (hset s t _ _ hst hst')

/-! ## What is learnt from them -/

/-- What a method returns or raises. -/
def outcome (m : Method σ α) (s : σ) : Except Exn α :=
  match m.run s with
  | .ok a _ => .ok a
  | .error e _ => .error e

/-- A blind method returns or raises the same. -/
lemma Blind.outcome_eq (h : Blind R m) {s t : σ} (hst : R s t) : outcome m s = outcome m t := by
  have hagree := h s t hst
  unfold outcome
  generalize m.run s = x at hagree
  generalize m.run t = y at hagree
  cases hagree <;> rfl

/-- And leaves behind states that look alike. -/
lemma Blind.stateAfter (h : Blind R m) {s t : σ} (hst : R s t) :
    R (stateAfter m s) (stateAfter m t) := by
  have hagree := h s t hst
  unfold Py.stateAfter
  generalize m.run s = x at hagree
  generalize m.run t = y at hagree
  cases hagree with
  | ok hst' => exact hst'
  | error hst' => exact hst'

end Py

namespace Conc

variable {σ ι α : Type} {next : σ → ι → σ} {observe : σ → ι → α} {own : ι → Bool}

/-- **What is observed at the inputs of a party** in a run. -/
def observed (next : σ → ι → σ) (observe : σ → ι → α) (own : ι → Bool) : σ → List ι → List α
  | _, [] => []
  | s, i :: inputs =>
    if own i then observe s i :: observed next observe own (next s i) inputs
    else observed next observe own (next s i) inputs

/-- **A relation that looks alike to a party.** It may depend on the inputs that are still to come:
an input of the party is observed the same in both states, and the states after it look alike; an
input of others may be left out. -/
structure Unwinding (next : σ → ι → σ) (observe : σ → ι → α) (own : ι → Bool)
    (good : List ι → Prop) (R : List ι → σ → σ → Prop) : Prop where
  tail : ∀ {i inputs}, good (i :: inputs) → good inputs
  shared : ∀ {i inputs s t}, good (i :: inputs) → own i = true → R (i :: inputs) s t →
    observe s i = observe t i ∧ R inputs (next s i) (next t i)
  skipped : ∀ {i inputs s t}, good (i :: inputs) → own i = false → R (i :: inputs) s t →
    R inputs (next s i) t

/-- **A party sees the same if the inputs of others are left out.**

**Proof sketch.** By induction on the inputs: the two runs take the inputs of the party together,
and only the first one takes those of others. -/
lemma Unwinding.observed_eq {good : List ι → Prop} {R : List ι → σ → σ → Prop}
    (h : Unwinding next observe own good R) {inputs : List ι} (hgood : good inputs) {s t : σ}
    (hst : R inputs s t) :
    observed next observe own s inputs = along next observe t (inputs.filter own) := by
  induction inputs generalizing s t with
  | nil => rfl
  | cons i inputs ih =>
    rw [observed]
    cases hown : own i with
    | true =>
      obtain ⟨hsame, hrest⟩ := h.shared hgood hown hst
      rw [if_pos rfl, List.filter_cons_of_pos hown, along, hsame, ih (h.tail hgood) hrest]
    | false =>
      rw [if_neg Bool.false_ne_true,
        List.filter_cons_of_neg (by rw [hown]; exact Bool.false_ne_true)]
      exact ih (h.tail hgood) (h.skipped hgood hown hst)

end Conc
