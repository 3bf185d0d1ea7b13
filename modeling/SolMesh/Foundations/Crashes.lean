import SolMesh.Foundations.Execution

set_option relaxedAutoImplicit false
set_option autoImplicit false

/-!
# Programs that can crash

A process that runs a program can stop after any of its operations. What holds whenever it stops
and what holds at the end of the program are stated together, so that one pass through the program
proves both.

## Main definitions

* `Conc.Prog.Begins` — a run that may stop early.
* `Conc.Prog.Meets` — a program meets a crash condition at all times and a postcondition at its
  end.
* `Conc.Prog.restrict` — operations with some of their answers only.
* `Conc.Prog.PerformsOnce` — a program performs at most one operation of a kind.

## Main results

* `Conc.Prog.Meets.of_begins`, `Conc.Prog.Meets.of_runs` — what such a program does.
* `Conc.Prog.Begins.eq_of_once` — an operation that is performed at most once has one answer.
* `Conc.Prog.Meets.bind`, `Conc.Prog.Meets.bindExcept`, `Conc.Prog.Meets.tryCatch` — sequences of
  programs, and programs with a handler for exceptions.
-/

namespace Conc.Prog

variable {Op : Type} {Ans : Op → Type} {σ α β : Type}

/-! ## Runs that stop early -/

/-- **A run that may stop early**: the operations that were performed with their answers, and the
state when the process stops. -/
inductive Begins (exec : (op : Op) → σ → Ans op → σ → Prop) :
    Prog Op Ans α → σ → List ((op : Op) × Ans op) → σ → Prop
  | stop (p : Prog Op Ans α) (s : σ) : Begins exec p s [] s
  | call {op : Op} {next : Ans op → Prog Op Ans α} {s s' s'' : σ} {r : Ans op}
      {t : List ((op : Op) × Ans op)} (hr : exec op s r s')
      (hnext : Begins exec (next r) s' t s'') : Begins exec (.call op next) s (⟨op, r⟩ :: t) s''

/-- Operations with some of their answers only. -/
def restrict (exec : (op : Op) → σ → Ans op → σ → Prop) (allowed : (op : Op) → Ans op → Prop)
    (op : Op) (s : σ) (r : Ans op) (s' : σ) : Prop :=
  exec op s r s' ∧ allowed op r

variable {exec exec' : (op : Op) → σ → Ans op → σ → Prop} {allowed : (op : Op) → Ans op → Prop}
  {s s' : σ} {t : List ((op : Op) × Ans op)}

/-- A run can stop at its end. -/
lemma Runs.begins {p : Prog Op Ans α} {a : α} (h : Runs exec p s t a s') :
    Begins exec p s t s' := by
  induction h with
  | ret a s => exact .stop _ s
  | call hr _ ih => exact .call hr ih

/-- A run is a run of operations that can do more. -/
lemma Runs.mono {p : Prog Op Ans α} {a : α} (h : Runs exec p s t a s')
    (hexec : ∀ op s r s', exec op s r s' → exec' op s r s') : Runs exec' p s t a s' := by
  induction h with
  | ret a s => exact .ret a s
  | call hr _ ih => exact .call (hexec _ _ _ _ hr) ih

/-- A run whose answers are all allowed. -/
lemma Runs.restrict {p : Prog Op Ans α} {a : α} (h : Runs exec p s t a s')
    (ht : ∀ e ∈ t, allowed e.1 e.2) : Runs (restrict exec allowed) p s t a s' := by
  induction h with
  | ret a s => exact .ret a s
  | call hr _ ih =>
    rw [List.forall_mem_cons] at ht
    exact .call ⟨hr, ht.1⟩ (ih ht.2)

/-- A run that may stop early and whose answers are all allowed. -/
lemma Begins.restrict {p : Prog Op Ans α} (h : Begins exec p s t s')
    (ht : ∀ e ∈ t, allowed e.1 e.2) : Begins (restrict exec allowed) p s t s' := by
  induction h with
  | stop p s => exact .stop p s
  | call hr _ ih =>
    rw [List.forall_mem_cons] at ht
    exact .call ⟨hr, ht.1⟩ (ih ht.2)

/-- Operations with some of their answers only do what the operations do. -/
lemma exec_of_restrict (op : Op) (s : σ) (r : Ans op) (s' : σ)
    (h : Prog.restrict exec allowed op s r s') : exec op s r s' :=
  h.1

/-! ## Operations that are performed once -/

/-- A program with a handler performs what its parts perform. -/
lemma Performs.tryCatch {ε : Type} {P : Op → Prop} {body : ExceptT ε (Prog Op Ans) α}
    {handler : ε → ExceptT ε (Prog Op Ans) α} (h : body.run.Performs P)
    (hhandler : ∀ e, (handler e).run.Performs P) :
    (MonadExcept.tryCatch body handler).run.Performs P := by
  apply Performs.bind h
  intro answer
  cases answer with
  | ok a => trivial
  | error e => exact hhandler e

/-- Whatever the answers, the program performs at most one operation of this kind. -/
def PerformsOnce (P : Op → Prop) : Prog Op Ans α → Prop
  | ret _ => True
  | call op next => (P op ∧ ∀ r, (next r).Performs fun op => ¬ P op) ∨
      (¬ P op ∧ ∀ r, (next r).PerformsOnce P)

/-- A program that performs no such operation performs at most one. -/
lemma Performs.once {P : Op → Prop} {p : Prog Op Ans α} (h : p.Performs fun op => ¬ P op) :
    p.PerformsOnce P := by
  induction p with
  | ret a => trivial
  | call op next ih => exact Or.inr ⟨h.1, fun r => ih r (h.2 r)⟩

/-- The operation is performed in the first part of a sequence, if at all. -/
lemma PerformsOnce.bind {P : Op → Prop} {p : Prog Op Ans α} {f : α → Prog Op Ans β}
    (h : p.PerformsOnce P) (hf : ∀ a, (f a).Performs fun op => ¬ P op) :
    (p >>= f).PerformsOnce P := by
  induction p with
  | ret a => exact (hf a).once
  | call op next ih =>
    rcases h with ⟨hop, hnext⟩ | ⟨hop, hnext⟩
    · exact Or.inl ⟨hop, fun r => (hnext r).bind hf⟩
    · exact Or.inr ⟨hop, fun r => ih r (hnext r)⟩

/-- The operation is performed in the second part of a sequence, if at all. -/
lemma Performs.bind_once {P : Op → Prop} {p : Prog Op Ans α} {f : α → Prog Op Ans β}
    (h : p.Performs fun op => ¬ P op) (hf : ∀ a, (f a).PerformsOnce P) :
    (p >>= f).PerformsOnce P := by
  induction p with
  | ret a => exact hf a
  | call op next ih => exact Or.inr ⟨h.1, fun r => ih r (h.2 r)⟩

section Except

variable {ε : Type} {P : Op → Prop} {body : ExceptT ε (Prog Op Ans) α}

/-- A sequence of programs that can raise. -/
lemma PerformsOnce.bindExcept {f : α → ExceptT ε (Prog Op Ans) β} (h : body.run.PerformsOnce P)
    (hf : ∀ a, (f a).run.Performs fun op => ¬ P op) : (body >>= f).run.PerformsOnce P := by
  apply PerformsOnce.bind h
  intro answer
  cases answer with
  | ok a => exact hf a
  | error e => trivial

/-- A sequence of programs that can raise. -/
lemma Performs.bindExcept_once {f : α → ExceptT ε (Prog Op Ans) β}
    (h : body.run.Performs fun op => ¬ P op) (hf : ∀ a, (f a).run.PerformsOnce P) :
    (body >>= f).run.PerformsOnce P := by
  apply Performs.bind_once h
  intro answer
  cases answer with
  | ok a => exact hf a
  | error e => trivial

/-- A program with a handler that performs no such operation. -/
lemma PerformsOnce.tryCatch {handler : ε → ExceptT ε (Prog Op Ans) α}
    (h : body.run.PerformsOnce P) (hhandler : ∀ e, (handler e).run.Performs fun op => ¬ P op) :
    (MonadExcept.tryCatch body handler).run.PerformsOnce P := by
  apply PerformsOnce.bind h
  intro answer
  cases answer with
  | ok a => trivial
  | error e => exact hhandler e

end Except

/-- What is performed when the process stops is performed by the program. -/
lemma Begins.performs {P : Op → Prop} {p : Prog Op Ans α} (h : Begins exec p s t s')
    (hp : p.Performs P) : ∀ e ∈ t, P e.1 := by
  induction h with
  | stop => exact fun e he => absurd he List.not_mem_nil
  | call _ _ ih =>
    rw [List.forall_mem_cons]
    exact ⟨hp.1, ih (hp.2 _)⟩

/-- **An operation that is performed at most once** has one answer.

**Proof sketch.** Induction on the operations that were performed. Where one meets the condition,
the rest of the program never performs one that does. -/
lemma Begins.eq_of_once {P : Op → Prop} {p : Prog Op Ans α} (h : Begins exec p s t s')
    (hp : p.PerformsOnce P) : ∀ e ∈ t, ∀ e' ∈ t, P e.1 → P e'.1 → e = e' := by
  induction h with
  | stop => exact fun e he => absurd he List.not_mem_nil
  | call _ hnext ih =>
    intro e he e' he' hPe hPe'
    rcases hp with ⟨hop, hrest⟩ | ⟨hop, hrest⟩
    · -- it was performed here, and never again
      have hnever := hnext.performs (hrest _)
      rcases List.mem_cons.mp he with rfl | he
      · rcases List.mem_cons.mp he' with rfl | he'
        · rfl
        · exact absurd hPe' (hnever e' he')
      · exact absurd hPe (hnever e he)
    · rcases List.mem_cons.mp he with rfl | he
      · exact absurd hPe hop
      · rcases List.mem_cons.mp he' with rfl | he'
        · exact absurd hPe' hop
        · exact ih (hrest _) e he e' he' hPe hPe'

/-- If there is one operation of a kind, then its answer is the first one to be found. -/
lemma findSome?_getD_of_once {f : (op : Op) × Ans op → Option β} {e : (op : Op) × Ans op} {b : β}
    (he : e ∈ t) (hone : ∀ e' ∈ t, ∀ b', f e' = some b' → e' = e) (hb : f e = some b)
    (default : β) : (t.findSome? f).getD default = b := by
  cases hfind : t.findSome? f with
  | none =>
    rw [List.findSome?_eq_none_iff.mp hfind e he] at hb
    cases hb
  | some b' =>
    obtain ⟨e', he', hb'⟩ := List.exists_of_findSome?_eq_some hfind
    rw [hone e' he' b' hb', hb] at hb'
    exact (Option.some.inj hb').symm

/-! ## Crash conditions -/

/-- **From this state on, the program is in the crash condition `C` at all times**, and in the
postcondition `Q` at its end. -/
def Meets (exec : (op : Op) → σ → Ans op → σ → Prop) (C : σ → Prop) (Q : α → σ → Prop) :
    Prog Op Ans α → σ → Prop
  | ret a, s => C s ∧ Q a s
  | call op next, s => C s ∧ ∀ r s', exec op s r s' → (next r).Meets exec C Q s'

variable {C C' : σ → Prop} {Q : α → σ → Prop} {p : Prog Op Ans α}

/-- Wherever the process stops, the crash condition holds. -/
lemma Meets.of_begins (h : p.Meets exec C Q s) (hrun : Begins exec p s t s') : C s' := by
  induction hrun with
  | stop p s => cases p <;> exact h.1
  | call hr _ ih => exact ih (h.2 _ _ hr)

/-- At its end, the program is in the postcondition. -/
lemma Meets.of_runs {a : α} (h : p.Meets exec C Q s) (hrun : Runs exec p s t a s') : Q a s' := by
  induction hrun with
  | ret => exact h.2
  | call hr _ ih => exact ih (h.2 _ _ hr)

/-- A program that meets more. -/
lemma Meets.mono {Q' : α → σ → Prop} (h : p.Meets exec C Q s) (hC : ∀ s, C s → C' s)
    (hQ : ∀ a s, C s → Q a s → Q' a s) : p.Meets exec C' Q' s := by
  induction p generalizing s with
  | ret a => exact ⟨hC s h.1, hQ a s h.1 h.2⟩
  | call op next ih => exact ⟨hC s h.1, fun r s' hr => ih r (h.2 r s' hr)⟩

/-- **A sequence**: the second part starts in the postcondition of the first part. -/
lemma Meets.bind {Q' : β → σ → Prop} {f : α → Prog Op Ans β} (h : p.Meets exec C Q s)
    (hf : ∀ a s, C s → Q a s → (f a).Meets exec C Q' s) : (p >>= f).Meets exec C Q' s := by
  induction p generalizing s with
  | ret a => exact hf a s h.1 h.2
  | call op next ih => exact ⟨h.1, fun r s' hr => ih r (h.2 r s' hr)⟩

/-- One operation. -/
lemma meets_perform {op : Op} {Q : Ans op → σ → Prop} (hs : C s)
    (h : ∀ r s', exec op s r s' → C s' ∧ Q r s') : (perform op).Meets exec C Q s :=
  ⟨hs, h⟩

section Except

variable {ε : Type} {body : ExceptT ε (Prog Op Ans) α} {Q : Except ε α → σ → Prop}

/-- **A sequence of programs that can raise**: an exception of the first part ends it. -/
lemma Meets.bindExcept {Q' : Except ε β → σ → Prop} {f : α → ExceptT ε (Prog Op Ans) β}
    (h : body.run.Meets exec C Q s)
    (hok : ∀ a s, C s → Q (.ok a) s → (f a).run.Meets exec C Q' s)
    (herror : ∀ e s, C s → Q (.error e) s → Q' (.error e) s) :
    (body >>= f).run.Meets exec C Q' s := by
  apply Meets.bind h
  intro answer s hs hanswer
  cases answer with
  | ok a => exact hok a s hs hanswer
  | error e => exact ⟨hs, herror e s hs hanswer⟩

/-- **A program with a handler**: the handler starts where an exception was raised. -/
lemma Meets.tryCatch {Q' : Except ε α → σ → Prop} {handler : ε → ExceptT ε (Prog Op Ans) α}
    (h : body.run.Meets exec C Q s) (hok : ∀ a s, C s → Q (.ok a) s → Q' (.ok a) s)
    (herror : ∀ e s, C s → Q (.error e) s → (handler e).run.Meets exec C Q' s) :
    (MonadExcept.tryCatch body handler).run.Meets exec C Q' s := by
  apply Meets.bind h
  intro answer s hs hanswer
  cases answer with
  | ok a => exact ⟨hs, hok a s hs hanswer⟩
  | error e => exact herror e s hs hanswer

end Except

end Conc.Prog
