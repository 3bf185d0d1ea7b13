import Mathlib.Data.List.Perm.Basic
import Mathlib.Logic.Function.Basic
import Mathlib.Logic.Relation

set_option relaxedAutoImplicit false
set_option autoImplicit false

/-!
# Loading and saving a shared value

Several processes share a value. An operation loads the value, and saves a new one if it changes
anything; loading and saving are atomic, but the value can change between them. If no save
overwrites a value that its operation has not seen, then the operations behave as if they were
performed one after the other, in the order in which they finish.

## Main definitions

* `Conc.Finished` — a finished operation, with its answer.
* `Conc.Serial` — operations one after the other.
* `Conc.Serializable` — the operations answered, and left the value, as in some serial order that
  keeps the order of each process.
* `Conc.Sharing`, `Conc.Sharing.Step` — processes that share a value, and their steps.

## Main results

* `Conc.Serial.keeps` — what each operation keeps holds after all of them.
* `Conc.Sharing.Reaches.serial` — operations that only overwrite what they loaded are serial.
-/

namespace Conc

section Serial

variable {P Op σ : Type} {Ans : Op → Type} {run : (op : Op) → σ → Ans op × Option σ}

/-- The value after an operation. -/
def valueAfter (run : (op : Op) → σ → Ans op × Option σ) (op : Op) (v : σ) : σ :=
  (run op v).2.getD v

/-- A finished operation: the process that performed it, and the answer. -/
structure Finished (P : Type) (Op : Type) (Ans : Op → Type) where
  process : P
  op : Op
  answer : Ans op

/-- The operations are performed one after the other, from value `v` on, with these answers. The
value is `w` then. -/
def Serial (run : (op : Op) → σ → Ans op × Option σ) (v : σ) :
    List (Finished P Op Ans) → σ → Prop
  | [], w => w = v
  | e :: es, w => e.answer = (run e.op v).1 ∧ Serial run (valueAfter run e.op v) es w

/-- **The operations can be ordered serially**, keeping the order of each process. -/
def Serializable [DecidableEq P] (run : (op : Op) → σ → Ans op × Option σ) (v : σ)
    (finished : List (Finished P Op Ans)) (w : σ) : Prop :=
  ∃ order : List (Finished P Op Ans), order.Perm finished ∧
    (∀ p, (order.filter fun e => e.process = p) = finished.filter fun e => e.process = p) ∧
    Serial run v order w

variable {es es' : List (Finished P Op Ans)} {e : Finished P Op Ans} {v w : σ}

/-- Operations after operations. -/
lemma serial_append :
    Serial run v (es ++ es') w ↔ ∃ u, Serial run v es u ∧ Serial run u es' w := by
  induction es generalizing v with
  | nil => exact ⟨fun h => ⟨v, rfl, h⟩, fun ⟨u, hu, h⟩ => hu ▸ h⟩
  | cons e es ih =>
    rw [List.cons_append, Serial, ih]
    exact ⟨fun ⟨hanswer, u, hu, h⟩ => ⟨u, ⟨hanswer, hu⟩, h⟩,
      fun ⟨u, ⟨hanswer, hu⟩, h⟩ => ⟨hanswer, u, hu, h⟩⟩

/-- One more operation. -/
lemma Serial.snoc (h : Serial run v es w) (hanswer : e.answer = (run e.op w).1) :
    Serial run v (es ++ [e]) (valueAfter run e.op w) :=
  serial_append.mpr ⟨w, h, hanswer, rfl⟩

/-- **What each operation keeps** holds after all of them. -/
lemma Serial.keeps {J : σ → Prop} (h : Serial run v es w)
    (hkeeps : ∀ e ∈ es, ∀ u, J u → J (valueAfter run e.op u)) (hv : J v) : J w := by
  induction es generalizing v with
  | nil =>
    obtain rfl : w = v := h
    exact hv
  | cons e es ih =>
    exact ih h.2 (fun e' he' => hkeeps e' (List.mem_cons_of_mem _ he'))
      (hkeeps e List.mem_cons_self v hv)

/-- **What an operation achieves** and the later ones keep holds in the end. -/
lemma Serial.achieves {J : σ → Prop} (h : Serial run v (es ++ e :: es') w)
    (hachieves : ∀ u, e.answer = (run e.op u).1 → J (valueAfter run e.op u))
    (hkeeps : ∀ e' ∈ es', ∀ u, J u → J (valueAfter run e'.op u)) : J w := by
  obtain ⟨u, _, hanswer, hrest⟩ := serial_append.mp h
  exact hrest.keeps hkeeps (hachieves u hanswer)

/-- Serial operations can be ordered serially. -/
lemma Serial.serializable [DecidableEq P] (h : Serial run v es w) : Serializable run v es w :=
  ⟨es, List.Perm.refl es, fun _ => rfl, h⟩

end Serial

/-! ## Processes -/

/-- Processes that share a value: the operations that have loaded it and will save a new one, with
the value they loaded, and those that are finished, in the order in which they finished. -/
structure Sharing (P : Type) (Op : Type) (Ans : Op → Type) (σ : Type) where
  value : σ
  loaded : P → Option (Op × σ)
  finished : List (Finished P Op Ans)

namespace Sharing

variable {P Op σ : Type} {Ans : Op → Type} [DecidableEq P]
  {run : (op : Op) → σ → Ans op × Option σ} {ok : σ → σ → Prop}

/-- Before any operation. -/
def start (v : σ) : Sharing P Op Ans σ := ⟨v, fun _ => none, []⟩

/-- The steps: an idle process performs an operation that loads the value and has nothing to save,
or loads the value for one that has, and a process saves the new value. A save is restricted by a
condition on the value that was loaded and the present one. -/
inductive Step (run : (op : Op) → σ → Ans op × Option σ) (ok : σ → σ → Prop) :
    Sharing P Op Ans σ → Sharing P Op Ans σ → Prop
  | read {s : Sharing P Op Ans σ} (p : P) (op : Op) (hidle : s.loaded p = none)
      (hread : (run op s.value).2 = none) :
      Step run ok s { s with finished := s.finished ++ [⟨p, op, (run op s.value).1⟩] }
  | load {s : Sharing P Op Ans σ} (p : P) (op : Op) (hidle : s.loaded p = none)
      (hsaves : (run op s.value).2 ≠ none) :
      Step run ok s { s with loaded := Function.update s.loaded p (some (op, s.value)) }
  | save {s : Sharing P Op Ans σ} (p : P) {op : Op} {v w : σ}
      (hloaded : s.loaded p = some (op, v)) (hsaves : (run op v).2 = some w) (hok : ok v s.value) :
      Step run ok s ⟨w, Function.update s.loaded p none,
        s.finished ++ [⟨p, op, (run op v).1⟩]⟩

/-- The second state is reached from the first. -/
def Reaches (run : (op : Op) → σ → Ans op × Option σ) (ok : σ → σ → Prop) :
    Sharing P Op Ans σ → Sharing P Op Ans σ → Prop :=
  Relation.ReflTransGen (Step run ok)

variable {s s' : Sharing P Op Ans σ} {v : σ}

/-- A step whose save, if it is one, only overwrites what was loaded, performs one operation at
once, or none. -/
lemma Step.serial (hstep : Step run Eq s s') (h : Serial run v s.finished s.value) :
    Serial run v s'.finished s'.value := by
  cases hstep with
  | read p op hidle hread =>
    have hafter : valueAfter run op s.value = s.value := by rw [valueAfter, hread, Option.getD_none]
    have hserial := h.snoc (e := ⟨p, op, (run op s.value).1⟩) rfl
    rw [hafter] at hserial
    exact hserial
  | load => exact h
  | @save p op u w hloaded hsaves hok =>
    subst hok
    have hafter : valueAfter run op s.value = w := by rw [valueAfter, hsaves, Option.getD_some]
    have hserial := h.snoc (e := ⟨p, op, (run op s.value).1⟩) rfl
    rw [hafter] at hserial
    exact hserial

/-- **Operations that only overwrite what they loaded** are performed one after the other, in the
order in which they finish. -/
lemma Reaches.serial (h : Reaches run Eq (start v) s) : Serial run v s.finished s.value := by
  induction h with
  | refl => rfl
  | tail _ hstep ih => exact hstep.serial ih

end Sharing

end Conc
