import SolMesh.Foundations.Interleaving

set_option relaxedAutoImplicit false
set_option autoImplicit false

/-!
# Programs that run alone

The runs of a program from its first operation to its result, with no one else moving: the
operations it performs with their answers, and the state it leaves. The meaning of operations is a
relation, so that an operation can have several answers.

## Main definitions

* `Conc.Prog.Runs` — a run of a program.
* `Conc.Prog.PassesOn` — a program that passes on what its operations raise.
* `Conc.Prog.Cut` — a program that may be cut short.

## Main results

* `Conc.Prog.runs_bind_iff`, `Conc.Prog.runs_bindExcept_iff` — a run of a sequence is a run of its
  first part and one of its second part.
* `Conc.Prog.Runs.performs` — a run performs operations that the program can come to.
* `Conc.Prog.Runs.induction` — what each operation keeps.
* `Conc.Prog.exists_runs`, `Conc.Prog.runs_eval` — a program whose operations all have an answer has
  a run.
* `Conc.Prog.PassesOn.error_iff` — such a program raises exactly what an operation raised.
* `Conc.Prog.Cut.performs` — a program that is cut short performs nothing new.
-/

namespace Conc.Prog

variable {Op : Type} {Ans : Op → Type} {σ α β : Type}

/-- **A run of a program alone**: its operations with their answers, its result, and the state it
leaves. -/
inductive Runs (exec : (op : Op) → σ → Ans op → σ → Prop) :
    Prog Op Ans α → σ → List ((op : Op) × Ans op) → α → σ → Prop
  | ret (a : α) (s : σ) : Runs exec (.ret a) s [] a s
  | call {op : Op} {next : Ans op → Prog Op Ans α} {s s' s'' : σ} {r : Ans op}
      {t : List ((op : Op) × Ans op)} {a : α} (hr : exec op s r s')
      (hnext : Runs exec (next r) s' t a s'') : Runs exec (.call op next) s (⟨op, r⟩ :: t) a s''

variable {exec : (op : Op) → σ → Ans op → σ → Prop} {s s' : σ} {t : List ((op : Op) × Ans op)}

/-- A program that returns. -/
@[simp] lemma runs_ret_iff {a b : α} :
    Runs exec (ret a) s t b s' ↔ t = [] ∧ b = a ∧ s' = s := by
  constructor
  · rintro ⟨⟩
    exact ⟨rfl, rfl, rfl⟩
  · rintro ⟨rfl, rfl, rfl⟩
    exact .ret b s'

/-- A program that returns. -/
@[simp] lemma runs_pure_iff {a b : α} :
    Runs exec (pure a) s t b s' ↔ t = [] ∧ b = a ∧ s' = s := runs_ret_iff

/-- An operation and what comes after it. -/
lemma runs_call_iff {op : Op} {next : Ans op → Prog Op Ans α} {a : α} :
    Runs exec (call op next) s t a s' ↔
      ∃ r u t', t = ⟨op, r⟩ :: t' ∧ exec op s r u ∧ Runs exec (next r) u t' a s' := by
  constructor
  · intro h
    obtain _ | ⟨hr, hnext⟩ := h
    exact ⟨_, _, _, rfl, hr, hnext⟩
  · rintro ⟨r, u, t', rfl, hr, hnext⟩
    exact .call hr hnext

/-- One operation. -/
lemma runs_perform_iff {op : Op} {r : Ans op} :
    Runs exec (perform op) s t r s' ↔ t = [⟨op, r⟩] ∧ exec op s r s' := by
  rw [perform, runs_call_iff]
  constructor
  · rintro ⟨r', u, t', rfl, hr, hnext⟩
    obtain ⟨rfl, rfl, rfl⟩ := runs_ret_iff.mp hnext
    exact ⟨rfl, hr⟩
  · rintro ⟨rfl, hr⟩
    exact ⟨r, s', [], rfl, hr, .ret r s'⟩

/-- **A sequence** runs its first part, and then the second part that the result gives. -/
lemma runs_bind_iff {p : Prog Op Ans α} {f : α → Prog Op Ans β} {b : β} :
    Runs exec (p >>= f) s t b s' ↔ ∃ t₁ a u t₂, t = t₁ ++ t₂ ∧ Runs exec p s t₁ a u ∧
      Runs exec (f a) u t₂ b s' := by
  constructor
  · intro h
    induction p generalizing s t with
    | ret a => exact ⟨[], a, s, t, rfl, .ret a s, h⟩
    | call op next ih =>
      obtain ⟨r, u, t', rfl, hr, hnext⟩ := runs_call_iff.mp h
      obtain ⟨t₁, a, v, t₂, rfl, hfirst, hsecond⟩ := ih r hnext
      exact ⟨_, a, v, t₂, rfl, .call hr hfirst, hsecond⟩
  · rintro ⟨t₁, a, u, t₂, rfl, hfirst, hsecond⟩
    induction hfirst with
    | ret => exact hsecond
    | call hr _ ih => exact .call hr (ih hsecond)

/-- An operation and what comes after it. -/
lemma runs_perform_bind_iff {op : Op} {f : Ans op → Prog Op Ans β} {b : β} :
    Runs exec (perform op >>= f) s t b s' ↔
      ∃ r u t', t = ⟨op, r⟩ :: t' ∧ exec op s r u ∧ Runs exec (f r) u t' b s' :=
  runs_call_iff

/-- A sequence of programs that can raise. -/
lemma runs_bindExcept_iff {ε : Type} {p : ExceptT ε (Prog Op Ans) α}
    {f : α → ExceptT ε (Prog Op Ans) β} {b : Except ε β} :
    Runs exec (p >>= f).run s t b s' ↔
      (∃ e, Runs exec p.run s t (.error e) s' ∧ b = .error e) ∨
      ∃ t₁ a u t₂, t = t₁ ++ t₂ ∧ Runs exec p.run s t₁ (.ok a) u ∧
        Runs exec (f a).run u t₂ b s' := by
  refine Iff.trans runs_bind_iff ?_
  constructor
  · rintro ⟨t₁, answer, u, t₂, rfl, hfirst, hsecond⟩
    cases answer with
    | ok a => exact Or.inr ⟨t₁, a, u, t₂, rfl, hfirst, hsecond⟩
    | error e =>
      obtain ⟨rfl, rfl, rfl⟩ := runs_ret_iff.mp hsecond
      rw [List.append_nil]
      exact Or.inl ⟨e, hfirst, rfl⟩
  · rintro (⟨e, hraised, rfl⟩ | ⟨t₁, a, u, t₂, rfl, hfirst, hsecond⟩)
    · exact ⟨t, .error e, s', [], (List.append_nil t).symm, hraised, .ret _ _⟩
    · exact ⟨t₁, .ok a, u, t₂, rfl, hfirst, hsecond⟩

/-- An operation that does not raise. -/
lemma runs_lift_perform_iff {ε : Type} {op : Op} {b : Except ε (Ans op)} :
    Runs exec (ExceptT.lift (perform op) : ExceptT ε (Prog Op Ans) (Ans op)).run s t b s' ↔
      ∃ r, t = [⟨op, r⟩] ∧ exec op s r s' ∧ b = .ok r := by
  refine Iff.trans runs_perform_bind_iff ?_
  constructor
  · rintro ⟨r, u, t', rfl, hr, hret⟩
    obtain ⟨rfl, rfl, rfl⟩ := runs_ret_iff.mp hret
    exact ⟨r, rfl, hr, rfl⟩
  · rintro ⟨r, rfl, hr, rfl⟩
    exact ⟨r, s', [], rfl, hr, .ret _ _⟩

/-- An operation that does not raise, and what comes after it. -/
lemma runs_lift_perform_bind_iff {ε : Type} {op : Op} {f : Ans op → ExceptT ε (Prog Op Ans) β}
    {b : Except ε β} :
    Runs exec (ExceptT.lift (perform op) >>= f).run s t b s' ↔
      ∃ r u t', t = ⟨op, r⟩ :: t' ∧ exec op s r u ∧ Runs exec (f r).run u t' b s' :=
  runs_call_iff

/-- A run performs operations that the program can come to. -/
lemma Runs.performs {P : Op → Prop} {p : Prog Op Ans α} {a : α} (h : Runs exec p s t a s')
    (hp : p.Performs P) : ∀ e ∈ t, P e.1 := by
  induction h with
  | ret => exact fun e he => absurd he List.not_mem_nil
  | call _ _ ih =>
    rw [List.forall_mem_cons]
    exact ⟨hp.1, ih (hp.2 _)⟩

/-- **Induction over a run**: what each of its operations keeps. -/
theorem Runs.induction {P : Op → Prop} {J : σ → Prop} {p : Prog Op Ans α} {a : α}
    (h : Runs exec p s t a s') (hp : p.Performs P) (hs : J s)
    (hexec : ∀ op s r s', P op → exec op s r s' → J s → J s') : J s' := by
  induction h with
  | ret => exact hs
  | call hr _ ih => exact ih (hp.2 _) (hexec _ _ _ _ hp.1 hr hs)

/-- **A program runs to its end** if its operations always have an answer. -/
theorem exists_runs (hexec : ∀ op s, ∃ r s', exec op s r s') (p : Prog Op Ans α) (s : σ) :
    ∃ t a s', Runs exec p s t a s' := by
  induction p generalizing s with
  | ret a => exact ⟨[], a, s, .ret a s⟩
  | call op next ih =>
    obtain ⟨r, u, hr⟩ := hexec op s
    obtain ⟨t, a, s', hnext⟩ := ih r u
    exact ⟨_, a, s', .call hr hnext⟩

/-- **A program that runs alone**, with answers that its operations can give. -/
theorem runs_eval (answer : (op : Op) → σ → Ans op × σ)
    (hanswer : ∀ op s, exec op s (answer op s).1 (answer op s).2) (p : Prog Op Ans α) (s : σ) :
    Runs exec p s (p.trace answer s) (p.eval answer s).1 (p.eval answer s).2 := by
  induction p generalizing s with
  | ret a => exact .ret a s
  | call op next ih => exact .call (hanswer op s) (ih _ _)

/-! ## Programs that pass on exceptions -/

section PassesOn

variable {ε : Type} {raised : (op : Op) → Ans op → Option ε}

/-- **The program passes on exceptions**: it ends with what an operation raises, and raises nothing
else. -/
def PassesOn (raised : (op : Op) → Ans op → Option ε) : Prog Op Ans (Except ε α) → Prop
  | ret (.ok _) => True
  | ret (.error _) => False
  | call op next => ∀ r, match raised op r with
    | some e => next r = ret (.error e)
    | none => (next r).PassesOn raised

/-- A sequence of programs that do.

**Proof sketch.** Induction on the first program. Where an operation raises, the first program ends
with the exception, and so does the sequence, which does not come to the second program then. -/
lemma PassesOn.bindExcept {p : ExceptT ε (Prog Op Ans) α} {f : α → ExceptT ε (Prog Op Ans) β}
    (h : p.run.PassesOn raised) (hf : ∀ a, (f a).run.PassesOn raised) :
    (p >>= f).run.PassesOn raised := by
  change Prog Op Ans (Except ε α) at p
  induction p with
  | ret answer =>
    cases answer with
    | ok a => exact hf a
    | error e => exact h.elim
  | call op next ih =>
    intro r
    have hr := h r
    dsimp only at hr ⊢
    cases hraised : raised op r with
    | some e =>
      rw [hraised] at hr
      change next r = ret (Except.error e) at hr
      change (next r >>= _) = ret (Except.error e)
      rw [hr]
      rfl
    | none =>
      rw [hraised] at hr
      exact ih r hr

/-- **Such a program raises exactly what an operation raised.**

**Proof sketch.** Induction on the run. After an operation that raises, the program is at its end
with the exception; after one that does not, the rest of the program passes on what it raises. -/
lemma PassesOn.error_iff {p : Prog Op Ans (Except ε α)} {b : Except ε α} (hp : p.PassesOn raised)
    (h : Runs exec p s t b s') (e : ε) :
    b = .error e ↔ ∃ entry ∈ t, raised entry.1 entry.2 = some e := by
  induction h with
  | ret answer =>
    cases answer with
    | ok a => simp
    | error e => exact hp.elim
  | @call op next s s' s'' r t answer hr hnext ih =>
    have hpasses := hp r
    cases hraised : raised op r with
    | some e' =>
      rw [hraised] at hpasses
      change next r = ret (.error e') at hpasses
      rw [hpasses] at hnext
      obtain ⟨rfl, rfl, rfl⟩ := runs_ret_iff.mp hnext
      simp [hraised]
    | none =>
      rw [hraised] at hpasses
      rw [ih hpasses]
      simp [hraised]

end PassesOn

/-! ## Programs that are cut short -/

/-- **The second program is the first one, cut short** on some of its runs: instead of performing an
operation, or of going on after it, it ends with one of these results. -/
inductive Cut (raised : α → Prop) : Prog Op Ans α → Prog Op Ans α → Prop
  | ret (a : α) : Cut raised (.ret a) (.ret a)
  | call {op : Op} {next next' : Ans op → Prog Op Ans α} (h : ∀ r, Cut raised (next r) (next' r)) :
      Cut raised (.call op next) (.call op next')
  | raise {p : Prog Op Ans α} {a : α} (ha : raised a) : Cut raised p (.ret a)

/-- A program that is not cut short at all. -/
lemma Cut.refl (raised : α → Prop) (p : Prog Op Ans α) : Cut raised p p := by
  induction p with
  | ret a => exact .ret a
  | call op next ih => exact .call ih

/-- A program that is cut short performs no other operations than the whole program. -/
lemma Cut.performs {P : Op → Prop} {raised : α → Prop} {p q : Prog Op Ans α} (h : Cut raised p q)
    (hp : p.Performs P) : q.Performs P := by
  induction h with
  | ret | raise => trivial
  | call _ ih => exact ⟨hp.1, fun r => ih r (hp.2 r)⟩

end Conc.Prog
