import SolMesh.Foundations.Dict

set_option relaxedAutoImplicit false
set_option autoImplicit false

/-!
# The last assignment

A dictionary that is only written by a run of inputs, each of which assigns at most one key, holds
under every key what the last input that assigns the key wrote.

## Main definitions

* `Dict.assign` — carry out an assignment, if there is one.
* `Dict.latest` — what the last input that assigns a key writes.

## Main results

* `Dict.get?_foldl_assign` — a lookup after a run of assignments.
* `Dict.latest_eq_some_iff`, `Dict.latest_eq_none_iff` — which input that is.
-/

namespace Dict

variable {κ β α : Type} [DecidableEq κ]

/-- Carry out an assignment, if there is one. -/
def assign (d : Dict κ β) : Option (κ × β) → Dict κ β
  | none => d
  | some (k, v) => d.set k v

/-- What an assignment writes under a key, if it does. -/
def written (k : κ) : Option (κ × β) → Option β
  | none => none
  | some (k', v) => if k' = k then some v else none

/-- **What the last input that assigns the key writes.** -/
def latest (entry : α → Option (κ × β)) (k : κ) (xs : List α) : Option β :=
  xs.reverse.findSome? fun x => written k (entry x)

variable {entry : α → Option (κ × β)} {k : κ} {v : β} {xs : List α}

/-- One more input goes first. -/
lemma latest_append_singleton (entry : α → Option (κ × β)) (k : κ) (xs : List α) (x : α) :
    latest entry k (xs ++ [x]) = (written k (entry x)).or (latest entry k xs) := by
  unfold latest
  rw [List.reverse_append, List.reverse_singleton, List.singleton_append, List.findSome?_cons]
  cases written k (entry x) <;> rfl

/-- A lookup after an assignment. -/
lemma get?_assign (d : Dict κ β) (e : Option (κ × β)) (k : κ) :
    (d.assign e).get? k = (written k e).or (d.get? k) := by
  cases e with
  | none => rfl
  | some e =>
    obtain ⟨k', v⟩ := e
    unfold assign written
    dsimp only
    split_ifs with h
    · rw [h, get?_set_self, Option.some_or]
    · rw [get?_set_of_ne d (Ne.symm h), Option.none_or]

/-- **A lookup after a run of assignments** finds what the last one under the key wrote. -/
lemma get?_foldl_assign (entry : α → Option (κ × β)) (xs : List α) (d : Dict κ β) (k : κ) :
    (xs.foldl (fun d x => d.assign (entry x)) d).get? k =
      (latest entry k xs).or (d.get? k) := by
  induction xs using List.reverseRecOn with
  | nil => rfl
  | append_singleton xs x ih =>
    rw [List.foldl_append, List.foldl_cons, List.foldl_nil, get?_assign, ih,
      latest_append_singleton, Option.or_assoc]

/-- What is written under a key. -/
lemma written_eq_some_iff {e : Option (κ × β)} : written k e = some v ↔ e = some (k, v) := by
  cases e with
  | none => simp [written]
  | some e =>
    obtain ⟨k', v'⟩ := e
    unfold written
    dsimp only
    split_ifs with h
    · simp [h]
    · simp [h]

/-- Nothing is written under a key. -/
lemma written_eq_none_iff {e : Option (κ × β)} :
    written k e = none ↔ ∀ v, e ≠ some (k, v) := by
  rw [Option.eq_none_iff_forall_ne_some]
  simp only [ne_eq, written_eq_some_iff]

/-- **It is the last input that assigns the key.** -/
lemma latest_eq_some_iff : latest entry k xs = some v ↔
    ∃ pre x post, xs = pre ++ x :: post ∧ entry x = some (k, v) ∧
      ∀ y ∈ post, ∀ v', entry y ≠ some (k, v') := by
  unfold latest
  rw [List.findSome?_eq_some_iff]
  simp only [written_eq_some_iff, written_eq_none_iff]
  constructor
  · rintro ⟨post, x, pre, heq, hx, hpost⟩
    refine ⟨pre.reverse, x, post.reverse, ?_, hx, fun y hy => hpost y (List.mem_reverse.mp hy)⟩
    rw [← List.reverse_reverse xs, heq]
    simp
  · rintro ⟨pre, x, post, rfl, hx, hpost⟩
    exact ⟨post.reverse, x, pre.reverse, by simp, hx,
      fun y hy => hpost y (List.mem_reverse.mp hy)⟩

/-- There is none if no input assigns the key. -/
lemma latest_eq_none_iff : latest entry k xs = none ↔ ∀ x ∈ xs, ∀ v, entry x ≠ some (k, v) := by
  unfold latest
  rw [List.findSome?_eq_none_iff]
  simp only [List.mem_reverse, written_eq_none_iff]

end Dict
