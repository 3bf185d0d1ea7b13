import Mathlib.Data.Set.Basic
import Mathlib.Logic.Function.Basic
import SolMesh.Foundations.Interleaving
import SolMesh.Foundations.Runs

set_option relaxedAutoImplicit false
set_option autoImplicit false

/-!
# Programs under a lock

Threads share a state and a lock. A thread waits for the lock, runs a program while it holds it,
and gives it back. Threads may die at any time, and with them goes the lock that they hold. Seen
from outside, the programs run one after the other, as in a single process.

## Main definitions

* `Conc.Crew` — threads with a lock and a state.
* `Conc.CrewStep` — what threads do.
* `Conc.Crew.Sound` — who is said to hold the lock holds it.
* `Conc.Crew.process` — the crew, seen as a single process.

## Main results

* `Conc.crew_simulation` — a crew runs its programs one after the other.
* `Conc.Crew.Sound.exclusive` — no two threads hold the lock.
* `Conc.Crew.Sound.exists_step` — a crew that has something to do can do something.
-/

namespace Conc

variable {T Op σ α : Type} {Ans : Op → Type}

/-! ## Threads -/

/-- What a thread does: nothing, or it waits for the lock to run a program, or runs it. -/
inductive ThreadPhase (Op : Type) (Ans : Op → Type) (α : Type)
  | idle
  | waiting (p : Prog Op Ans α)
  | holding (p : Prog Op Ans α)

/-- The program that a thread runs. -/
def ThreadPhase.program : ThreadPhase Op Ans α → Option (Prog Op Ans α)
  | holding p => some p
  | _ => none

/-- Threads, the lock with the thread that it is taken by, and the state that the threads share. -/
structure Crew (T Op : Type) (Ans : Op → Type) (σ α : Type) where
  phase : T → ThreadPhase Op Ans α
  holder : Option T
  state : σ

/-- What happens in one step. -/
inductive CrewEvent (T Op : Type) (Ans : Op → Type)
  | ask (t : T)
  | giveUp (t : T)
  | acquire (t : T)
  | own (t : T) (op : Op) (answer : Ans op)
  | release (t : T)
  | others
  | kill (dead : Set T)
  | crash (dead : Set T)

/-- A crew in which no thread does anything. -/
def Crew.start (s : σ) : Crew T Op Ans σ α := ⟨fun _ => .idle, none, s⟩

open Classical in
/-- The threads after some of them died. -/
noncomputable def Crew.without (c : Crew T Op Ans σ α) (dead : Set T) : T → ThreadPhase Op Ans α :=
  fun t => if t ∈ dead then .idle else c.phase t

variable [DecidableEq T]

/-- The thread goes on to another phase. -/
def Crew.enter (c : Crew T Op Ans σ α) (t : T) (phase : ThreadPhase Op Ans α) :
    T → ThreadPhase Op Ans α :=
  Function.update c.phase t phase

/-- **The steps**: a thread asks for the lock, gives up, gets the lock, performs an operation of its
program, or gives the lock back; others move; or threads die, with the lock or without it. -/
inductive CrewStep (H : Host Op Ans σ) (starts : Prog Op Ans α → Prop) :
    Crew T Op Ans σ α → CrewEvent T Op Ans → Crew T Op Ans σ α → Prop
  | ask {c : Crew T Op Ans σ α} {t : T} {p : Prog Op Ans α} (hidle : c.phase t = .idle)
      (hp : starts p) : CrewStep H starts c (.ask t) { c with phase := c.enter t (.waiting p) }
  | giveUp {c : Crew T Op Ans σ α} {t : T} {p : Prog Op Ans α} (hwait : c.phase t = .waiting p) :
      CrewStep H starts c (.giveUp t) { c with phase := c.enter t .idle }
  | acquire {c : Crew T Op Ans σ α} {t : T} {p : Prog Op Ans α} (hwait : c.phase t = .waiting p)
      (hfree : c.holder = none) : CrewStep H starts c (.acquire t)
        { c with phase := c.enter t (.holding p), holder := some t }
  | own {c : Crew T Op Ans σ α} {t : T} {op : Op} {next : Ans op → Prog Op Ans α} {r : Ans op}
      {s : σ} (hold : c.phase t = .holding (.call op next)) (hr : H.exec op c.state r s) :
      CrewStep H starts c (.own t op r)
        { c with phase := c.enter t (.holding (next r)), state := s }
  | release {c : Crew T Op Ans σ α} {t : T} {a : α} (hold : c.phase t = .holding (.ret a)) :
      CrewStep H starts c (.release t) { c with phase := c.enter t .idle, holder := none }
  | others {c : Crew T Op Ans σ α} {s : σ} (hs : H.others c.state s) :
      CrewStep H starts c .others { c with state := s }
  | kill {c : Crew T Op Ans σ α} {dead : Set T} (hlive : ∀ t, c.holder = some t → t ∉ dead) :
      CrewStep H starts c (.kill dead) { c with phase := c.without dead }
  | crash {c : Crew T Op Ans σ α} {t : T} {dead : Set T} {s : σ} (hold : c.holder = some t)
      (hdead : t ∈ dead) (hs : H.crash c.state s) :
      CrewStep H starts c (.crash dead) ⟨c.without dead, none, s⟩

/-! ## The lock -/

omit [DecidableEq T] in
/-- **The lock is taken by the thread that runs a program**, and only programs that may start are
waited for. -/
structure Crew.Sound (starts : Prog Op Ans α → Prop) (c : Crew T Op Ans σ α) : Prop where
  holds : ∀ t p, c.phase t = .holding p → c.holder = some t
  held : ∀ t, c.holder = some t → ∃ p, c.phase t = .holding p
  waits : ∀ t p, c.phase t = .waiting p → starts p

/-- The crew, seen as a process that runs the program of the thread with the lock. -/
def Crew.process (c : Crew T Op Ans σ α) : Host.Process Op Ans σ α :=
  ⟨c.holder.bind fun t => (c.phase t).program, c.state⟩

/-- What a step of the crew is for this process. -/
def CrewEvent.label : CrewEvent T Op Ans → Option (Host.Label Op Ans)
  | ask _ | giveUp _ | kill _ => none
  | acquire _ => some .start
  | own _ op r => some (.own op r)
  | release _ => some .finish
  | others => some .others
  | crash _ => some .crash

/-- The thread goes on with what it waits for or runs. -/
def CrewEvent.Advances : CrewEvent T Op Ans → Prop
  | acquire _ | own _ _ _ | release _ => True
  | ask _ | giveUp _ | others | kill _ | crash _ => False

section Lock

variable {H : Host Op Ans σ} {starts : Prog Op Ans α → Prop} {c c' : Crew T Op Ans σ α}
  {e : CrewEvent T Op Ans} {t u : T} {p q : Prog Op Ans α}

omit [DecidableEq T] in
/-- At the start the lock is free. -/
lemma Crew.sound_start (s : σ) : (Crew.start s : Crew T Op Ans σ α).Sound starts :=
  ⟨fun _ _ h => (by cases h), fun _ h => (by cases h), fun _ _ h => (by cases h)⟩

omit [DecidableEq T] in
/-- **No two threads hold the lock.** -/
lemma Crew.Sound.exclusive (h : c.Sound starts) (ht : c.phase t = .holding p)
    (hu : c.phase u = .holding q) : t = u :=
  Option.some.inj ((h.holds t p ht).symm.trans (h.holds u q hu))

/-- The thread is in its new phase. -/
lemma Crew.enter_self (c : Crew T Op Ans σ α) (t : T) (phase : ThreadPhase Op Ans α) :
    c.enter t phase t = phase := Function.update_self _ _ _

/-- The other threads stay in their phases. -/
lemma Crew.enter_of_ne (c : Crew T Op Ans σ α) (h : u ≠ t) (phase : ThreadPhase Op Ans α) :
    c.enter t phase u = c.phase u := Function.update_of_ne h _ _

/-- A thread that goes on to another phase than to hold the lock. -/
lemma Crew.Sound.enter (h : c.Sound starts) {phase : ThreadPhase Op Ans α}
    (hnot : ∀ p, c.phase t ≠ .holding p) (hphase : ∀ p, phase ≠ .holding p)
    (hwaits : ∀ p, phase = .waiting p → starts p) :
    ({ c with phase := c.enter t phase } : Crew T Op Ans σ α).Sound starts := by
  refine ⟨fun u p hu => ?_, fun u hu => ?_, fun u p hu => ?_⟩
  · by_cases hut : u = t
    · subst hut
      exact absurd ((c.enter_self u phase).symm.trans hu) (hphase p)
    · exact h.holds u p ((c.enter_of_ne hut phase).symm.trans hu)
  · obtain ⟨p, hp⟩ := h.held u hu
    have hut : u ≠ t := fun heq => hnot p (heq ▸ hp)
    exact ⟨p, (c.enter_of_ne hut phase).trans hp⟩
  · by_cases hut : u = t
    · subst hut
      exact hwaits p ((c.enter_self u phase).symm.trans hu)
    · exact h.waits u p ((c.enter_of_ne hut phase).symm.trans hu)

/-- The thread with the lock runs this program. -/
lemma Crew.Sound.hold (h : c.Sound starts) (hothers : ∀ u q, c.phase u = .holding q → u = t)
    (p : Prog Op Ans α) (s : σ) :
    (⟨c.enter t (.holding p), some t, s⟩ : Crew T Op Ans σ α).Sound starts := by
  refine ⟨fun u q hu => ?_, fun u hu => ?_, fun u q hu => ?_⟩
  · by_cases hut : u = t
    · rw [hut]
    · exact absurd (hothers u q ((c.enter_of_ne hut _).symm.trans hu)) hut
  · obtain rfl := Option.some.inj hu
    exact ⟨p, c.enter_self t _⟩
  · by_cases hut : u = t
    · subst hut
      cases (c.enter_self u _).symm.trans hu
    · exact h.waits u q ((c.enter_of_ne hut _).symm.trans hu)

omit [DecidableEq T] in
/-- The lock is free if no thread runs a program. -/
lemma Crew.Sound.free (h : c.Sound starts) {phase : T → ThreadPhase Op Ans α}
    (hphase : ∀ u, phase u = .idle ∨ phase u = c.phase u)
    (hnone : ∀ u p, phase u ≠ .holding p) (s : σ) :
    (⟨phase, none, s⟩ : Crew T Op Ans σ α).Sound starts := by
  refine ⟨fun u p hu => absurd hu (hnone u p), fun u hu => (by cases hu), fun u p hu => ?_⟩
  rcases hphase u with hidle | hsame
  · cases hidle.symm.trans hu
  · exact h.waits u p (hsame.symm.trans hu)

omit [DecidableEq T] in
/-- A thread that died does nothing, and the others go on. -/
lemma Crew.without_cases (c : Crew T Op Ans σ α) (dead : Set T) (u : T) :
    u ∈ dead ∧ c.without dead u = .idle ∨ u ∉ dead ∧ c.without dead u = c.phase u := by
  unfold Crew.without
  by_cases hu : u ∈ dead
  · exact Or.inl ⟨hu, if_pos hu⟩
  · exact Or.inr ⟨hu, if_neg hu⟩

/-- The lock stays sound.

**Proof sketch.** One case for each event. A thread that asks or gives up holds nothing before or
after it (`enter`); one that takes the lock, or goes on with it, is the only one that holds it
(`hold`); after the release, and after the crash of the process that held it, no one does (`free`).
A process that dies without the lock takes only threads with it that were idle or waiting
(`without_cases`). -/
lemma Crew.Sound.step (h : c.Sound starts) (hstep : CrewStep H starts c e c') :
    c'.Sound starts := by
  cases hstep with
  | @ask t p hidle hp =>
    refine h.enter (fun q hq => ?_) (fun q hq => (by cases hq)) fun q hq => ?_
    · rw [hidle] at hq
      cases hq
    · cases hq
      exact hp
  | @giveUp t p hwait =>
    refine h.enter (fun q hq => ?_) (fun q hq => (by cases hq)) fun q hq => (by cases hq)
    rw [hwait] at hq
    cases hq
  | @acquire t p hwait hfree =>
    refine h.hold (fun u q hu => ?_) p c.state
    have htaken := h.holds u q hu
    rw [hfree] at htaken
    cases htaken
  | @own t op next r s hold hr =>
    have hheld := h.holds t _ hold
    have hsound := h.hold (t := t) (fun u q hu => h.exclusive hu hold) (next r) s
    rw [← hheld] at hsound
    exact hsound
  | @release t a hold =>
    refine h.free (fun u => ?_) (fun u p hu => ?_) c.state
    · by_cases hut : u = t
      · exact Or.inl (hut ▸ c.enter_self u _)
      · exact Or.inr (c.enter_of_ne hut _)
    · by_cases hut : u = t
      · subst hut
        cases (c.enter_self u _).symm.trans hu
      · exact hut (h.exclusive ((c.enter_of_ne hut _).symm.trans hu) hold)
  | others hs => exact ⟨h.holds, h.held, h.waits⟩
  | @kill dead hlive =>
    refine ⟨fun u p hu => ?_, fun u hu => ?_, fun u p hu => ?_⟩
    · rcases c.without_cases dead u with ⟨_, hidle⟩ | ⟨_, hsame⟩
      · cases hidle.symm.trans hu
      · exact h.holds u p (hsame.symm.trans hu)
    · rcases c.without_cases dead u with ⟨hdead, _⟩ | ⟨_, hsame⟩
      · exact absurd hdead (hlive u hu)
      · obtain ⟨p, hp⟩ := h.held u hu
        exact ⟨p, hsame.trans hp⟩
    · rcases c.without_cases dead u with ⟨_, hidle⟩ | ⟨_, hsame⟩
      · cases hidle.symm.trans hu
      · exact h.waits u p (hsame.symm.trans hu)
  | @crash t dead s hold hdead hs =>
    refine h.free (fun u => ?_) (fun u p hu => ?_) s
    · exact (c.without_cases dead u).imp And.right And.right
    · rcases c.without_cases dead u with ⟨_, hidle⟩ | ⟨hlive, hsame⟩
      · cases hidle.symm.trans hu
      · have htaken := h.holds u p (hsame.symm.trans hu)
        rw [hold] at htaken
        exact hlive (Option.some.inj htaken ▸ hdead)

/-! ## One program after the other -/

omit [DecidableEq T] in
/-- The process of a crew whose lock is free. -/
lemma Crew.process_of_free (h : c.holder = none) : c.process = ⟨none, c.state⟩ := by
  rw [Crew.process, h]
  rfl

omit [DecidableEq T] in
/-- The process of a crew whose lock is taken. -/
lemma Crew.process_of_held (h : c.holder = some t) (hp : c.phase t = .holding p) :
    c.process = ⟨some p, c.state⟩ := by
  rw [Crew.process, h, Option.bind_some, hp]
  rfl

omit [DecidableEq T] in
/-- Only the thread with the lock counts. -/
lemma Crew.process_congr {phase : T → ThreadPhase Op Ans α}
    (h : ∀ t, c.holder = some t → phase t = c.phase t) :
    ({ c with phase := phase } : Crew T Op Ans σ α).process = c.process := by
  unfold Crew.process
  cases hholder : c.holder with
  | none => rfl
  | some t =>
    dsimp only
    rw [Option.bind_some, Option.bind_some, h t hholder]

/-- **A crew runs its programs one after the other**: seen from outside, it is a single process.

**Proof sketch.** A crew is seen as the process that runs what the holder of the lock runs. Taking
the lock is the start of this process, the steps of the holder are its steps, and giving the lock
back is its end. What the other threads do changes nothing of it: they are not the holder, by
`Crew.Sound.held`. -/
theorem crew_simulation (H : Host Op Ans σ) (starts : Prog Op Ans α → Prop) :
    Simulation (CrewStep (T := T) H starts) (Host.Step H starts) Crew.process CrewEvent.label
      (Crew.Sound starts) where
  keeps _ _ _ h hstep := h.step hstep
  moves c e c' l h hstep hlabel := by
    have hsound := h.step hstep
    cases hstep with
    | ask | giveUp | kill => cases hlabel
    | @acquire t p hwait hfree =>
      cases hlabel
      rw [Crew.process_of_free hfree, Crew.process_of_held rfl (c.enter_self t _)]
      exact .start (h.waits t p hwait)
    | @own t op next r s hold hr =>
      cases hlabel
      have hheld := h.holds t _ hold
      have hgoes : ({ c with phase := c.enter t (.holding (next r)), state := s } :
          Crew T Op Ans σ α).process = ⟨some (next r), s⟩ :=
        Crew.process_of_held hheld (c.enter_self t _)
      rw [Crew.process_of_held hheld hold, hgoes]
      exact .own hr
    | @release t a hold =>
      cases hlabel
      rw [Crew.process_of_held (h.holds t _ hold) hold, Crew.process_of_free rfl]
      exact .finish
    | others hs =>
      cases hlabel
      exact .others hs
    | @crash t dead s hold hdead hs =>
      cases hlabel
      rw [Crew.process_of_free (c := ⟨c.without dead, none, s⟩) rfl]
      exact .crash hs
  stutters c e c' h hstep hlabel := by
    cases hstep with
    | acquire | own | release | others | crash => cases hlabel
    | @ask t p hidle hp =>
      refine Crew.process_congr fun u hu => c.enter_of_ne ?_ _
      rintro rfl
      obtain ⟨q, hq⟩ := h.held u hu
      rw [hidle] at hq
      cases hq
    | @giveUp t p hwait =>
      refine Crew.process_congr fun u hu => c.enter_of_ne ?_ _
      rintro rfl
      obtain ⟨q, hq⟩ := h.held u hu
      rw [hwait] at hq
      cases hq
    | @kill dead hlive =>
      refine Crew.process_congr fun u hu => ?_
      rcases c.without_cases dead u with ⟨hdead, _⟩ | ⟨_, hsame⟩
      · exact absurd hdead (hlive u hu)
      · exact hsame

/-- **A crew that has something to do can do something**: the thread with the lock can go on, or the
lock is free and can be taken.

**Proof sketch.** If the lock is free, no thread works under it, so the one that has something to do
waits for it and can take it. If a thread holds it, this one performs its next operation, or gives
the lock back. -/
theorem Crew.Sound.exists_step (h : c.Sound starts)
    (hexec : ∀ op s, ∃ r s', H.exec op s r s') (ht : c.phase t ≠ .idle) :
    ∃ e c', CrewStep H starts c e c' ∧ e.Advances := by
  cases hholder : c.holder with
  | none =>
    cases hphase : c.phase t with
    | idle => exact absurd hphase ht
    | holding p =>
      have htaken := h.holds t p hphase
      rw [hholder] at htaken
      cases htaken
    | waiting p => exact ⟨.acquire t, _, .acquire hphase hholder, trivial⟩
  | some u =>
    obtain ⟨p, hp⟩ := h.held u hholder
    cases p with
    | ret a => exact ⟨.release u, _, .release hp, trivial⟩
    | call op next =>
      obtain ⟨r, s, hr⟩ := hexec op c.state
      exact ⟨.own u op r, _, .own hp hr, trivial⟩

end Lock

/-- The steps of a process, as a run. -/
lemma Host.steps_of_run {H : Host Op Ans σ} {starts : Prog Op Ans α → Prop}
    {c c' : Host.Process Op Ans σ α} {ls : List (Host.Label Op Ans)}
    (h : Run (Host.Step H starts) c ls c') : H.Steps starts c ls c' := by
  induction h with
  | nil s => exact .nil s
  | cons hstep _ ih => exact .cons hstep ih

end Conc
