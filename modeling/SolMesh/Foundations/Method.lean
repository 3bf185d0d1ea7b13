import SolMesh.Foundations.Python

set_option relaxedAutoImplicit false
set_option autoImplicit false

/-!
# Methods of objects

A method changes the state of its object and returns or raises; what it changed before it raised
stays changed. The library gives the way from exceptions as values to raised exceptions and back,
and what each building block does to a state.

## Main definitions

* `Py.Method` — a method of an object with states in `σ`.
* `Py.attempt` — `try: ... except Exception`, with the exception as a value.
* `Py.stateAfter` — the state a method leaves behind.

## Main results

* `Py.run_bind_ok`, `Py.run_bind_error` — a sequence goes on exactly if its first part returns.
-/

namespace Py

variable {σ α β : Type}

/-- A method of an object with states in `σ`. -/
abbrev Method (σ : Type) := EStateM Exn σ

/-- Run a method and hand out what it raised instead of raising it. -/
def attempt (x : Method σ α) : Method σ (Except Exn α) := fun s =>
  match x.run s with
  | .ok a s' => .ok (.ok a) s'
  | .error e s' => .ok (.error e) s'

/-- The state a method leaves behind, whether it returned or raised. -/
def stateAfter (x : Method σ α) (s : σ) : σ :=
  match x.run s with
  | .ok _ s' => s'
  | .error _ s' => s'

/-! ## Running a method -/

@[simp] lemma run_ofExcept_ok (a : α) (s : σ) : (ofExcept (.ok a) : Method σ α).run s = .ok a s :=
  rfl

@[simp] lemma run_ofExcept_error (e : Exn) (s : σ) :
    (ofExcept (.error e) : Method σ α).run s = .error e s := rfl

/-- A sequence goes on where its first part returned. -/
lemma run_bind_ok {x : Method σ α} {s s' : σ} {a : α} (h : x.run s = .ok a s')
    (f : α → Method σ β) : (x >>= f).run s = (f a).run s' := by
  rw [EStateM.run_bind, h]

/-- A sequence raises what its first part raised. -/
lemma run_bind_error {x : Method σ α} {s s' : σ} {e : Exn} (h : x.run s = .error e s')
    (f : α → Method σ β) : (x >>= f).run s = .error e s' := by
  rw [EStateM.run_bind, h]

/-- An attempt returns in any case. -/
lemma run_attempt (x : Method σ α) (s : σ) :
    (attempt x).run s = match x.run s with
      | .ok a s' => .ok (.ok a) s'
      | .error e s' => .ok (.error e) s' := rfl

/-- An attempt at an exception that is given as a value returns the value. -/
lemma run_attempt_ofExcept (x : Except Exn α) (s : σ) :
    (attempt (ofExcept x) : Method σ (Except Exn α)).run s = .ok x s := by
  cases x <;> rfl

/-- The state after a method that returned. -/
lemma stateAfter_of_ok {x : Method σ α} {s s' : σ} {a : α} (h : x.run s = .ok a s') :
    stateAfter x s = s' := by
  rw [stateAfter, h]

/-- The state after a method that raised. -/
lemma stateAfter_of_error {x : Method σ α} {s s' : σ} {e : Exn} (h : x.run s = .error e s') :
    stateAfter x s = s' := by
  rw [stateAfter, h]

end Py
