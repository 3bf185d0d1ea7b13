import Mathlib.Data.Nat.Init
import Mathlib.Logic.Relation
import Mathlib.Order.Basic

set_option relaxedAutoImplicit false
set_option autoImplicit false

/-!
# Programs interleaved with others

A program performs operations one by one and goes on with their answers. Between two operations
others may change the state, and the process that runs the program may crash. What a program does
is stated with a rely and a guarantee: if the others keep to what the host allows them, then each
operation of the program meets the guarantee, and the program ends in its postcondition.

## Main definitions

* `Conc.Prog` — programs over operations with typed answers.
* `Conc.Host` — the meaning of operations, what others may do, and what a crash does.
* `Conc.Host.Ensures` — from this state on, a program meets a guarantee and a postcondition.
* `Conc.Host.Step`, `Conc.Host.IsRun` — a process that runs one program after the other.
* `Conc.Host.Keeps` — the proof obligations of an invariant.

## Main results

* `Conc.Host.Ensures.bind` — sequences of programs.
* `Conc.Host.IsRun.induction` — what each step of a run keeps.
* `Conc.Host.Keeps.sound` — every state of a run meets the invariant, and every operation in it
  meets the guarantee.
* `Conc.Host.Steps.invariant` — what finitely many steps preserve.
* `Conc.Host.exists_run`, `Conc.Host.exists_run_through` — finitely many steps are the beginning
  of a run.
-/

namespace Conc

/-! ## Programs -/

/-- A program: it returns, or performs an operation and goes on with the answer. -/
inductive Prog (Op : Type) (Ans : Op → Type) (α : Type) : Type
  | ret (a : α)
  | call (op : Op) (next : Ans op → Prog Op Ans α)

namespace Prog

variable {Op : Type} {Ans : Op → Type} {α β σ : Type}

/-- Run the first program, then the one its result gives. -/
def bind : Prog Op Ans α → (α → Prog Op Ans β) → Prog Op Ans β
  | ret a, f => f a
  | call op next, f => call op fun r => (next r).bind f

instance : Monad (Prog Op Ans) where
  pure := ret
  bind := bind

@[simp] lemma ret_bind (a : α) (f : α → Prog Op Ans β) : (ret a >>= f) = f a := rfl

@[simp] lemma call_bind (op : Op) (next : Ans op → Prog Op Ans α) (f : α → Prog Op Ans β) :
    (call op next >>= f) = call op fun r => next r >>= f := rfl

/-- Perform one operation. -/
def perform (op : Op) : Prog Op Ans (Ans op) := call op ret

/-- Every operation the program can come to, whatever the answers, has the property. -/
def Performs (P : Op → Prop) : Prog Op Ans α → Prop
  | ret _ => True
  | call op next => P op ∧ ∀ r, (next r).Performs P

/-- Both parts of a sequence only perform operations with the property. -/
lemma Performs.bind {P : Op → Prop} {p : Prog Op Ans α} {f : α → Prog Op Ans β}
    (h : p.Performs P) (hf : ∀ a, (f a).Performs P) : (p >>= f).Performs P := by
  induction p with
  | ret a => exact hf a
  | call op next ih => exact ⟨h.1, fun r => ih r (h.2 r)⟩

/-- A sequence of programs that can raise. -/
lemma Performs.bindExcept {ε : Type} {P : Op → Prop} {p : ExceptT ε (Prog Op Ans) α}
    {f : α → ExceptT ε (Prog Op Ans) β} (h : p.run.Performs P)
    (hf : ∀ a, (f a).run.Performs P) : (p >>= f).run.Performs P := by
  apply Performs.bind h
  intro answer
  cases answer with
  | ok a => exact hf a
  | error e => trivial

/-- A weaker property. -/
lemma Performs.mono {P Q : Op → Prop} {p : Prog Op Ans α} (h : p.Performs P)
    (hPQ : ∀ op, P op → Q op) : p.Performs Q := by
  induction p with
  | ret a => trivial
  | call op next ih => exact ⟨hPQ op h.1, fun r => ih r (h.2 r)⟩

/-- Every operation the program can come to has the property, as long as the answers of the
operations before it meet an expectation. -/
def PerformsWhile (A : (op : Op) → Ans op → Prop) (P : Op → Prop) : Prog Op Ans α → Prop
  | ret _ => True
  | call op next => P op ∧ ∀ r, A op r → (next r).PerformsWhile A P

/-- A sequence whose second part does so from every result. -/
lemma PerformsWhile.bind {A : (op : Op) → Ans op → Prop} {P : Op → Prop} {p : Prog Op Ans α}
    {f : α → Prog Op Ans β} (h : p.PerformsWhile A P) (hf : ∀ a, (f a).PerformsWhile A P) :
    (p >>= f).PerformsWhile A P := by
  induction p with
  | ret a => exact hf a
  | call op next ih => exact ⟨h.1, fun r hr => ih r (h.2 r hr)⟩

/-- A sequence of programs that can raise. -/
lemma PerformsWhile.bindExcept {ε : Type} {A : (op : Op) → Ans op → Prop} {P : Op → Prop}
    {p : ExceptT ε (Prog Op Ans) α} {f : α → ExceptT ε (Prog Op Ans) β}
    (h : p.run.PerformsWhile A P) (hf : ∀ a, (f a).run.PerformsWhile A P) :
    (p >>= f).run.PerformsWhile A P := by
  apply PerformsWhile.bind h
  intro answer
  cases answer with
  | ok a => exact hf a
  | error e => trivial

/-- Run a program alone, with a choice of answers. -/
def eval (answer : (op : Op) → σ → Ans op × σ) : Prog Op Ans α → σ → α × σ
  | ret a, s => (a, s)
  | call op next, s => (next (answer op s).1).eval answer (answer op s).2

/-- The operations of that run, with their answers. -/
def trace (answer : (op : Op) → σ → Ans op × σ) : Prog Op Ans α → σ → List ((op : Op) × Ans op)
  | ret _, _ => []
  | call op next, s =>
    ⟨op, (answer op s).1⟩ :: (next (answer op s).1).trace answer (answer op s).2

/-- What is left of the program, and the state, after some operations of that run. -/
def after (answer : (op : Op) → σ → Ans op × σ) : ℕ → Prog Op Ans α → σ → Prog Op Ans α × σ
  | 0, p, s => (p, s)
  | _ + 1, ret a, s => (ret a, s)
  | n + 1, call op next, s => (next (answer op s).1).after answer n (answer op s).2

end Prog

/-! ## Rely and guarantee -/

/-- What programs run on: the meaning of their operations, what others may do to the state at any
time, and what the crash of the running process does to it. -/
structure Host (Op : Type) (Ans : Op → Type) (σ : Type) where
  exec : (op : Op) → σ → Ans op → σ → Prop
  others : σ → σ → Prop
  crash : σ → σ → Prop

namespace Host

variable {Op : Type} {Ans : Op → Type} {σ α β : Type} (H : Host Op Ans σ)

/-- Nothing others do makes the assertion false. -/
def Stable (P : σ → Prop) : Prop := ∀ s s', H.others s s' → P s → P s'

/-- From state `s` on, each operation of the program meets the guarantee `G`, and the program ends
in `Q`. -/
def Ensures (G : (op : Op) → σ → Ans op → σ → Prop) (Q : α → σ → Prop) :
    Prog Op Ans α → σ → Prop
  | .ret a, s => ∀ s', Relation.ReflTransGen H.others s s' → Q a s'
  | .call op next, s => ∀ s', Relation.ReflTransGen H.others s s' → ∀ r s'', H.exec op s' r s'' →
      G op s' r s'' ∧ Ensures G Q (next r) s''

variable {H} {G : (op : Op) → σ → Ans op → σ → Prop} {Q : α → σ → Prop} {s s' : σ}

/-- A stable assertion holds as long as only others move. -/
lemma Stable.of_reflTransGen {P : σ → Prop} (h : H.Stable P)
    (hs : Relation.ReflTransGen H.others s s') (hP : P s) : P s' := by
  induction hs with
  | refl => exact hP
  | tail _ hstep ih => exact h _ _ hstep ih

/-- A program that returns must do so in its postcondition. -/
lemma Ensures.ret {a : α} (h : H.Stable (Q a)) (hQ : Q a s) : H.Ensures G Q (.ret a) s :=
  fun _ hs => h.of_reflTransGen hs hQ

/-- An operation is performed in a state that still meets what was known before. -/
lemma Ensures.call {P : σ → Prop} {op : Op} {next : Ans op → Prog Op Ans α} (h : H.Stable P)
    (hP : P s) (hexec : ∀ s r s', P s → H.exec op s r s' → G op s r s' ∧
      H.Ensures G Q (next r) s') : H.Ensures G Q (.call op next) s :=
  fun s' hs r s'' hr => hexec s' r s'' (h.of_reflTransGen hs hP) hr

/-- Others do not invalidate what a program ensures. -/
lemma Ensures.of_others {p : Prog Op Ans α} (h : H.Ensures G Q p s) (hs : H.others s s') :
    H.Ensures G Q p s' := by
  cases p with
  | ret a => exact fun s'' hs' => h s'' (Relation.ReflTransGen.head hs hs')
  | call op next => exact fun s'' hs' => h s'' (Relation.ReflTransGen.head hs hs')

/-- The next operation meets the guarantee, and the rest of the program still ensures what the
program did. -/
lemma Ensures.of_exec {op : Op} {next : Ans op → Prog Op Ans α}
    (h : H.Ensures G Q (.call op next) s) {r : Ans op} (hr : H.exec op s r s') :
    G op s r s' ∧ H.Ensures G Q (next r) s' :=
  h s Relation.ReflTransGen.refl r s' hr

/-- A program that has returned is in its postcondition. -/
lemma Ensures.of_ret {a : α} (h : H.Ensures G Q (.ret a) s) : Q a s :=
  h s Relation.ReflTransGen.refl

/-- **A sequence** ensures what its second part ensures from every end of its first part. -/
lemma Ensures.bind {Q' : β → σ → Prop} {p : Prog Op Ans α} {f : α → Prog Op Ans β}
    (h : H.Ensures G Q p s) (hf : ∀ a s, Q a s → H.Ensures G Q' (f a) s) :
    H.Ensures G Q' (p >>= f) s := by
  induction p generalizing s with
  | ret a => exact hf a s h.of_ret
  | call op next ih =>
    intro s' hs r s'' hr
    obtain ⟨hG, hnext⟩ := h s' hs r s'' hr
    exact ⟨hG, ih r hnext⟩

/-- An operation followed by more. -/
lemma Ensures.perform_bind {P : σ → Prop} {op : Op} {f : Ans op → Prog Op Ans α}
    (h : H.Stable P) (hP : P s) (hexec : ∀ s r s', P s → H.exec op s r s' → G op s r s' ∧
      H.Ensures G Q (f r) s') : H.Ensures G Q (Prog.perform op >>= f) s :=
  Ensures.call h hP hexec

/-! ## Runs -/

/-- What happens in one step. -/
inductive Label (Op : Type) (Ans : Op → Type)
  | start
  | own (op : Op) (answer : Ans op)
  | finish
  | others
  | crash

/-- A process that runs at most one program at a time, and the state it shares with others. -/
structure Process (Op : Type) (Ans : Op → Type) (σ α : Type) where
  running : Option (Prog Op Ans α)
  state : σ

/-- The steps: a program from `starts` begins, performs an operation or ends, others move, or the
process crashes. -/
inductive Step (H : Host Op Ans σ) (starts : Prog Op Ans α → Prop) :
    Process Op Ans σ α → Label Op Ans → Process Op Ans σ α → Prop
  | start {p : Prog Op Ans α} {s : σ} (hp : starts p) :
      Step H starts ⟨none, s⟩ .start ⟨some p, s⟩
  | own {op : Op} {next : Ans op → Prog Op Ans α} {s s' : σ} {r : Ans op} (hr : H.exec op s r s') :
      Step H starts ⟨some (.call op next), s⟩ (.own op r) ⟨some (next r), s'⟩
  | finish {a : α} {s : σ} : Step H starts ⟨some (.ret a), s⟩ .finish ⟨none, s⟩
  | others {running : Option (Prog Op Ans α)} {s s' : σ} (hs : H.others s s') :
      Step H starts ⟨running, s⟩ .others ⟨running, s'⟩
  | crash {running : Option (Prog Op Ans α)} {s s' : σ} (hs : H.crash s s') :
      Step H starts ⟨running, s⟩ .crash ⟨none, s'⟩

/-- A run from `s₀`: at each time a step, or none. -/
structure IsRun (H : Host Op Ans σ) (starts : Prog Op Ans α → Prop) (s₀ : σ)
    (run : ℕ → Process Op Ans σ α) (label : ℕ → Option (Label Op Ans)) : Prop where
  init : run 0 = ⟨none, s₀⟩
  step : ∀ k, match label k with
    | none => run (k + 1) = run k
    | some l => Step H starts (run k) l (run (k + 1))

section IsRun

variable {starts : Prog Op Ans α → Prop} {s₀ : σ} {run : ℕ → Process Op Ans σ α}
  {label : ℕ → Option (Label Op Ans)}

/-- What a label stands for is a step. -/
lemma IsRun.step_of_label (hrun : IsRun H starts s₀ run label) {k : ℕ} {l : Label Op Ans}
    (hl : label k = some l) : Step H starts (run k) l (run (k + 1)) := by
  have hstep := hrun.step k
  rw [hl] at hstep
  exact hstep

/-- At each time nothing changes, or there is a step. -/
lemma IsRun.step_cases (hrun : IsRun H starts s₀ run label) (k : ℕ) :
    (label k = none ∧ run (k + 1) = run k) ∨
      ∃ l, label k = some l ∧ Step H starts (run k) l (run (k + 1)) := by
  have hstep := hrun.step k
  cases hl : label k with
  | none =>
    rw [hl] at hstep
    exact Or.inl ⟨rfl, hstep⟩
  | some l => exact Or.inr ⟨l, rfl, hrun.step_of_label hl⟩

/-- An operation is the next one of the running program, and is performed in the state of its
time. -/
lemma IsRun.exec_of_own (hrun : IsRun H starts s₀ run label) {k : ℕ} {op : Op} {r : Ans op}
    (hl : label k = some (.own op r)) :
    (∃ next, (run k).running = some (.call op next)) ∧
      H.exec op (run k).state r (run (k + 1)).state := by
  have hstep := hrun.step_of_label hl
  generalize run k = c at hstep
  generalize run (k + 1) = c' at hstep
  cases hstep with
  | own hr => exact ⟨⟨_, rfl⟩, hr⟩

/-- **Induction over a run**: what holds at a time and is kept by each step since then. -/
theorem IsRun.induction (hrun : IsRun H starts s₀ run label) {J : Process Op Ans σ α → Prop}
    {k m : ℕ} (hkm : k ≤ m) (hk : J (run k))
    (hstep : ∀ n c l c', k ≤ n → run n = c → run (n + 1) = c' → label n = some l →
      Step H starts c l c' → J c → J c') : J (run m) := by
  induction m, hkm using Nat.le_induction with
  | base => exact hk
  | succ n hkn ih =>
    rcases hrun.step_cases n with ⟨_, heq⟩ | ⟨l, hl, hn⟩
    · rw [heq]
      exact ih
    · exact hstep n _ l _ hkn rfl rfl hl hn ih

end IsRun

/-- The proof obligations of an invariant `I` that holds while no program runs and is replaced by
`W` while one does. -/
structure Keeps (H : Host Op Ans σ) (starts : Prog Op Ans α → Prop)
    (G : (op : Op) → σ → Ans op → σ → Prop) (W I : σ → Prop) : Prop where
  weaken : ∀ s, I s → W s
  stable : H.Stable I
  stable_weak : H.Stable W
  guarantee : ∀ op s r s', G op s r s' → W s → W s'
  crash : ∀ s s', H.crash s s' → W s → I s'
  start : ∀ p s, starts p → I s → H.Ensures G (fun _ => I) p s

variable {starts : Prog Op Ans α → Prop} {W I : σ → Prop} {s₀ : σ}
  {run : ℕ → Process Op Ans σ α} {label : ℕ → Option (Label Op Ans)}

/-- What is known about a process: `W`, and that the running program, if any, restores `I`. -/
structure Process.Good (H : Host Op Ans σ) (G : (op : Op) → σ → Ans op → σ → Prop)
    (W I : σ → Prop) (c : Process Op Ans σ α) : Prop where
  weak : W c.state
  idle : c.running = none → I c.state
  busy : ∀ p, c.running = some p → H.Ensures G (fun _ => I) p c.state

/-- Each step keeps a process good, and its operation meets the guarantee.

**Proof sketch.** One case for each step. A program that begins restores `I` by assumption; an
operation meets the guarantee, which keeps `W` (`Ensures.of_exec`); a program that ends has restored
`I` (`Ensures.of_ret`); others keep all three, and a crash leaves `I`. -/
lemma Keeps.good_of_step (h : Keeps H starts G W I) {c c' : Process Op Ans σ α}
    {l : Label Op Ans} (hstep : Step H starts c l c') (hc : c.Good H G W I) :
    c'.Good H G W I ∧ ∀ op r, l = .own op r → G op c.state r c'.state := by
  obtain ⟨hweak, hidle, hbusy⟩ := hc
  cases hstep with
  | start hp =>
    refine ⟨⟨hweak, by simp, ?_⟩, by simp⟩
    rintro p ⟨⟩
    exact h.start _ _ hp (hidle rfl)
  | own hr =>
    obtain ⟨hG, hnext⟩ := (hbusy _ rfl).of_exec hr
    refine ⟨⟨h.guarantee _ _ _ _ hG hweak, by simp, ?_⟩, ?_⟩
    · rintro p ⟨⟩
      exact hnext
    · rintro op r ⟨⟩
      exact hG
  | finish => exact ⟨⟨hweak, fun _ => (hbusy _ rfl).of_ret, by simp⟩, by simp⟩
  | others hs =>
    exact ⟨⟨h.stable_weak _ _ hs hweak, fun hn => h.stable _ _ hs (hidle hn),
      fun p hp => (hbusy p hp).of_others hs⟩, by simp⟩
  | crash hs =>
    have hI := h.crash _ _ hs hweak
    exact ⟨⟨h.weaken _ hI, fun _ => hI, by simp⟩, by simp⟩

/-- **Soundness**: in every run from a state in `I`, each state meets `W` and each operation meets
the guarantee. -/
theorem Keeps.sound (h : Keeps H starts G W I) (hrun : IsRun H starts s₀ run label)
    (h₀ : I s₀) (k : ℕ) :
    W (run k).state ∧
      ∀ op r, label k = some (.own op r) → G op (run k).state r (run (k + 1)).state := by
  have hgood : (run k).Good H G W I := by
    apply hrun.induction (Nat.zero_le k)
    · rw [hrun.init]
      exact ⟨h.weaken _ h₀, fun _ => h₀, by simp⟩
    · intro n c l c' _ _ _ _ hstep hc
      exact (h.good_of_step hstep hc).1
  refine ⟨hgood.weak, fun op r hl => ?_⟩
  exact (h.good_of_step (hrun.step_of_label hl) hgood).2 op r rfl

/-! ## Finite runs -/

/-- Finitely many steps. -/
inductive Steps (H : Host Op Ans σ) (starts : Prog Op Ans α → Prop) :
    Process Op Ans σ α → List (Label Op Ans) → Process Op Ans σ α → Prop
  | nil (c : Process Op Ans σ α) : Steps H starts c [] c
  | cons {c c' c'' : Process Op Ans σ α} {l : Label Op Ans} {ls : List (Label Op Ans)}
      (hstep : Step H starts c l c') (hrest : Steps H starts c' ls c'') :
      Steps H starts c (l :: ls) c''

/-- Steps after steps. -/
lemma Steps.append {c c' c'' : Process Op Ans σ α} {ls ls' : List (Label Op Ans)}
    (h : Steps H starts c ls c') (h' : Steps H starts c' ls' c'') :
    Steps H starts c (ls ++ ls') c'' := by
  induction h with
  | nil => exact h'
  | cons hstep _ ih => exact .cons hstep (ih h')

/-- **An invariant of finitely many steps**: it is kept by the operations that programs perform,
by others and by crashes. -/
theorem Steps.invariant {P : Op → Prop} {J : σ → Prop} {c c' : Process Op Ans σ α}
    {ls : List (Label Op Ans)} (hstarts : ∀ p, starts p → p.Performs P)
    (hexec : ∀ op s r s', P op → H.exec op s r s' → J s → J s') (hothers : H.Stable J)
    (hcrash : ∀ s s', H.crash s s' → J s → J s') (h : Steps H starts c ls c')
    (hc : J c.state) (hp : ∀ p, c.running = some p → p.Performs P) :
    J c'.state ∧ ∀ p, c'.running = some p → p.Performs P := by
  induction h with
  | nil => exact ⟨hc, hp⟩
  | cons hstep _ ih =>
    cases hstep with
    | start hs => exact ih hc fun p h => Option.some.inj h ▸ hstarts _ hs
    | own hr =>
      obtain ⟨hop, hnext⟩ := hp _ rfl
      exact ih (hexec _ _ _ _ hop hr hc) fun p h => Option.some.inj h ▸ hnext _
    | finish => exact ih hc (by simp)
    | others hs => exact ih (hothers _ _ hs hc) hp
    | crash hs => exact ih (hcrash _ _ hs hc) (by simp)

/-- A program that runs alone, with answers the host can give, performs these steps. -/
lemma Steps.eval (answer : (op : Op) → σ → Ans op × σ)
    (hanswer : ∀ op s, H.exec op s (answer op s).1 (answer op s).2) (p : Prog Op Ans α) (s : σ) :
    Steps H starts ⟨some p, s⟩ ((p.trace answer s).map (fun e => .own e.1 e.2) ++ [.finish])
      ⟨none, (p.eval answer s).2⟩ := by
  induction p generalizing s with
  | ret a => exact .cons .finish (.nil _)
  | call op next ih => exact .cons (.own (hanswer op s)) (ih _ _)

/-- Its first operations. -/
lemma Steps.after (answer : (op : Op) → σ → Ans op × σ)
    (hanswer : ∀ op s, H.exec op s (answer op s).1 (answer op s).2) (n : ℕ) (p : Prog Op Ans α)
    (s : σ) :
    Steps H starts ⟨some p, s⟩ (((p.trace answer s).take n).map fun e => .own e.1 e.2)
      ⟨some (p.after answer n s).1, (p.after answer n s).2⟩ := by
  induction n generalizing p s with
  | zero => exact .nil _
  | succ n ih =>
    cases p with
    | ret a => exact .nil _
    | call op next => exact .cons (.own (hanswer op s)) (ih _ _)

/-- The states follow the labels, and nothing happens after them. -/
def Follows (H : Host Op Ans σ) (starts : Prog Op Ans α → Prop) (ls : List (Label Op Ans))
    (run : ℕ → Process Op Ans σ α) : Prop :=
  ∀ k, match ls[k]? with
    | none => run (k + 1) = run k
    | some l => Step H starts (run k) l (run (k + 1))

/-- One more step at the beginning. -/
lemma Follows.cons {c : Process Op Ans σ α} {l : Label Op Ans} {ls : List (Label Op Ans)}
    (h : Follows H starts ls run) (hstep : Step H starts c l (run 0)) :
    Follows H starts (l :: ls) fun k => k.casesOn c run := by
  intro k
  cases k with
  | zero => exact hstep
  | succ k => exact h k

/-- Finitely many steps before the states of a run. -/
lemma Steps.follows {c c' : Process Op Ans σ α} {ls ls' : List (Label Op Ans)}
    (h : Steps H starts c ls c') (hrun : Follows H starts ls' run) (hinit : run 0 = c') :
    ∃ run', run' 0 = c ∧ (∀ k, run' (ls.length + k) = run k) ∧
      Follows H starts (ls ++ ls') run' := by
  induction h with
  | nil c => exact ⟨run, hinit, fun k => by simp, hrun⟩
  | @cons c c₁ c₂ l ls hstep _ ih =>
    obtain ⟨run', hinit', hstates, hfollows⟩ := ih hinit
    refine ⟨_, rfl, fun k => ?_, hfollows.cons (hinit'.symm ▸ hstep)⟩
    rw [List.length_cons, Nat.succ_add]
    exact hstates k

/-- Nothing happens any more. -/
lemma follows_nil (c : Process Op Ans σ α) : Follows H starts [] fun _ => c := fun _ => rfl

/-- **Finitely many steps are the beginning of a run**, in which nothing happens after them. -/
theorem exists_run {c : Process Op Ans σ α} {ls : List (Label Op Ans)}
    (h : Steps H starts ⟨none, s₀⟩ ls c) :
    ∃ run label, IsRun H starts s₀ run label ∧ run ls.length = c ∧ ∀ k, label k = ls[k]? := by
  obtain ⟨run, hinit, hstates, hfollows⟩ := h.follows (follows_nil c) rfl
  rw [List.append_nil] at hfollows
  exact ⟨run, fun k => ls[k]?, ⟨hinit, hfollows⟩, hstates 0, fun _ => rfl⟩

/-- Steps before and after a step are the beginning of a run through this step. -/
theorem exists_run_through {c c' c'' : Process Op Ans σ α} {l : Label Op Ans}
    {ls ls' : List (Label Op Ans)} (h : Steps H starts ⟨none, s₀⟩ ls c)
    (hstep : Step H starts c l c') (h' : Steps H starts c' ls' c'') :
    ∃ run label, IsRun H starts s₀ run label ∧ run ls.length = c ∧ run (ls.length + 1) = c' ∧
      ∀ k, label k = (ls ++ l :: ls')[k]? := by
  obtain ⟨rest, hinit, _, hrest⟩ := h'.follows (follows_nil c'') rfl
  rw [List.append_nil] at hrest
  subst hinit
  obtain ⟨run, hinit, hstates, hfollows⟩ := h.follows (hrest.cons hstep) rfl
  exact ⟨run, fun k => (ls ++ l :: ls')[k]?, ⟨hinit, hfollows⟩, hstates 0, hstates 1,
    fun _ => rfl⟩

end Host

end Conc
