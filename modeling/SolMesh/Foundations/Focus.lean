import SolMesh.Foundations.Method

set_option relaxedAutoImplicit false
set_option autoImplicit false

/-!
# Methods on a part of a state

An object that has another one as a part runs the methods of that part. What the method returns or
raises is passed on, and nothing but the part changes.

## Main definitions

* `Py.Part` — a part of a state that can be read and replaced.
* `Py.focus` — a method of the part, as a method of the whole.

## Main results

* `Py.stateAfter_focus` — what such a method leaves behind.
-/

namespace Py

variable {σ τ α β : Type}

/-- A part of a state: what is put there is read back, and nothing else depends on it. -/
structure Part (σ τ : Type) where
  get : σ → τ
  set : τ → σ → σ
  get_set : ∀ t s, get (set t s) = t
  set_get : ∀ s, set (get s) s = s
  set_set : ∀ t t' s, set t' (set t s) = set t' s

/-- Run a method of the part on the whole. -/
def focus (p : Part σ τ) (m : Method τ α) : Method σ α := fun s =>
  match m.run (p.get s) with
  | .ok a t => .ok a (p.set t s)
  | .error e t => .error e (p.set t s)

/-! ## What a sequence leaves behind -/

/-- A sequence leaves behind what its second part leaves behind, if the first returned. -/
lemma stateAfter_bind_ok {x : Method σ α} {s s' : σ} {a : α} (h : x.run s = .ok a s')
    (f : α → Method σ β) : stateAfter (x >>= f) s = stateAfter (f a) s' := by
  rw [stateAfter, run_bind_ok h, stateAfter]

/-- A sequence leaves behind what its first part left behind, if that raised. -/
lemma stateAfter_bind_error {x : Method σ α} {s s' : σ} {e : Exn} (h : x.run s = .error e s')
    (f : α → Method σ β) : stateAfter (x >>= f) s = s' := by
  rw [stateAfter, run_bind_error h]

/-- What is done with the answer of a method does not change the state. -/
lemma stateAfter_map (m : Method σ α) (f : α → β) (s : σ) :
    stateAfter (do return f (← m)) s = stateAfter m s := by
  cases h : m.run s with
  | ok a s' => exact (stateAfter_bind_ok h _).trans (stateAfter_of_ok h).symm
  | error e s' => exact (stateAfter_bind_error h _).trans (stateAfter_of_error h).symm

/-! ## Methods of a part -/

variable {p : Part σ τ} {m : Method τ α} {s : σ} {t : τ}

/-- A method of the part that returns. -/
lemma run_focus_ok {a : α} (h : m.run (p.get s) = .ok a t) :
    (focus p m).run s = .ok a (p.set t s) := by
  change (match m.run (p.get s) with
    | .ok a t => EStateM.Result.ok a (p.set t s)
    | .error e t => .error e (p.set t s)) = _
  rw [h]

/-- A method of the part that raises. -/
lemma run_focus_error {e : Exn} (h : m.run (p.get s) = .error e t) :
    (focus p m).run s = .error e (p.set t s) := by
  change (match m.run (p.get s) with
    | .ok a t => EStateM.Result.ok a (p.set t s)
    | .error e t => .error e (p.set t s)) = _
  rw [h]

/-- **What a method of the part leaves behind**: the part as the method left it, and the rest. -/
lemma stateAfter_focus (p : Part σ τ) (m : Method τ α) (s : σ) :
    stateAfter (focus p m) s = p.set (stateAfter m (p.get s)) s := by
  cases h : m.run (p.get s) with
  | ok a t => rw [stateAfter_of_ok h, stateAfter_of_ok (run_focus_ok h)]
  | error e t => rw [stateAfter_of_error h, stateAfter_of_error (run_focus_error h)]

/-- A method of the part that returns, and what follows it. -/
lemma stateAfter_focus_bind {a : α} (h : m.run (p.get s) = .ok a t) (f : α → Method σ β) :
    stateAfter (focus p m >>= f) s = stateAfter (f a) (p.set t s) :=
  stateAfter_bind_ok (run_focus_ok h) f

end Py
