import SolMesh.Foundations.Locks
import SolMesh.Client.LifeCycle

set_option relaxedAutoImplicit false
set_option autoImplicit false

/-!
# Who flushes the queue

Any number of processes share a queue, and each of them any number of threads. A thread flushes the
queue because it is asked to, or because a beacon of the gateway came in. In the second case it
first takes a lock of its process, and ends if the lock is taken. Every flush waits for the lock of
the queue, and holds it from its first to its last operation. The operating system frees this lock
when a process dies. Each operation on the queue is one step, also those of other programs, which
do not wait for the lock.

## Main definitions

* `SolMesh.Threads` — threads of processes.
* `SolMesh.Flushers`, `SolMesh.FlusherStep` — threads that flush a queue.

## Main results

* `SolMesh.flushers_simulation` — the lock of the queue is used as locks are.
* `SolMesh.flushes_serialised` — the flush cycles of all processes come one after the other.
* `SolMesh.flushers_dispatches_le` — the dispatches of an intent by all processes.
-/

namespace SolMesh

open Py Text Conc

variable {T P F N : Type}

/-! ## Threads -/

/-- **Threads**: the processes they belong to, and whether they are started for a beacon. -/
structure Threads (T P : Type) where
  process : T → P
  forBeacon : T → Bool

/-- The threads that flush a queue under its lock, and for each process the thread that has taken
its `_flush_lock`. -/
structure Flushers (T P F N : Type) where
  crew : Crew T (FlushOp F) FlushOp.Ans (World F N) (List (String × TxOutcome))
  flushLock : P → Option T

/-- Nobody flushes, and nothing was queued yet. -/
def Flushers.start (net : N) : Flushers T P F N := ⟨.start (World.empty net), fun _ => none⟩

/-- What happens in one step. -/
inductive FlusherEvent (T P F : Type)
  | call (t : T)
  | beacon (t : T)
  | skip (t : T)
  | crew (e : CrewEvent T (FlushOp F) FlushOp.Ans)
  | done (t : T)
  | kill (p : P)
  | crash (p : P)

/-- The event is about the lock of the queue, or the work of others. -/
def IsWork : CrewEvent T (FlushOp F) FlushOp.Ans → Prop
  | .giveUp _ | .acquire _ | .own _ _ _ | .release _ | .others => True
  | .ask _ | .kill _ | .crash _ => False

variable [DecidableEq T] [DecidableEq P] [BEq F] [Number F]

/-- **The steps**: `flush_all_pending` is called; a thread that was started for a beacon takes the
lock of its process, to flush whatever it has passphrases for, or ends because this lock is taken; a
flush goes on; the thread gives the lock of its process back; and a process dies, while one of its
threads holds the lock of the queue or while none does. -/
inductive FlusherStep (M : Medium F N) (threads : Threads T P) :
    Flushers T P F N → FlusherEvent T P F → Flushers T P F N → Prop
  | call {f : Flushers T P F N} {t : T} {p : Flush F (List (String × TxOutcome))}
      (hcaller : threads.forBeacon t = false) (hp : IsFlush p) (hidle : f.crew.phase t = .idle) :
      FlusherStep M threads f (.call t)
        { f with crew := { f.crew with phase := f.crew.enter t (.waiting p) } }
  | beacon {f : Flushers T P F N} {t : T} (hbeacon : threads.forBeacon t = true)
      (hidle : f.crew.phase t = .idle) (hfree : f.flushLock (threads.process t) = none) :
      FlusherStep M threads f (.beacon t)
        ⟨{ f.crew with phase := f.crew.enter t (.waiting (flushAllPending ∅ none)) },
          Function.update f.flushLock (threads.process t) (some t)⟩
  | skip {f : Flushers T P F N} {t : T} (hbeacon : threads.forBeacon t = true)
      (hidle : f.crew.phase t = .idle) (htaken : f.flushLock (threads.process t) ≠ none) :
      FlusherStep M threads f (.skip t) f
  | crew {f : Flushers T P F N} {e : CrewEvent T (FlushOp F) FlushOp.Ans}
      {c : Crew T (FlushOp F) FlushOp.Ans (World F N) (List (String × TxOutcome))}
      (hwork : IsWork e) (hstep : CrewStep (flushHost M) IsFlush f.crew e c) :
      FlusherStep M threads f (.crew e) { f with crew := c }
  | done {f : Flushers T P F N} {t : T} (hidle : f.crew.phase t = .idle)
      (htaken : f.flushLock (threads.process t) = some t) :
      FlusherStep M threads f (.done t)
        { f with flushLock := Function.update f.flushLock (threads.process t) none }
  | kill {f : Flushers T P F N} {p : P}
      {c : Crew T (FlushOp F) FlushOp.Ans (World F N) (List (String × TxOutcome))}
      (hstep : CrewStep (flushHost M) IsFlush f.crew (.kill {t | threads.process t = p}) c) :
      FlusherStep M threads f (.kill p) ⟨c, Function.update f.flushLock p none⟩
  | crash {f : Flushers T P F N} {p : P}
      {c : Crew T (FlushOp F) FlushOp.Ans (World F N) (List (String × TxOutcome))}
      (hstep : CrewStep (flushHost M) IsFlush f.crew (.crash {t | threads.process t = p}) c) :
      FlusherStep M threads f (.crash p) ⟨c, Function.update f.flushLock p none⟩

/-- A run of threads that flush a queue. -/
abbrev FlusherRun (M : Medium F N) (threads : Threads T P) :
    Flushers T P F N → List (FlusherEvent T P F) → Flushers T P F N → Prop :=
  Run (FlusherStep M threads)

/-! ## The lock of the queue -/

omit [DecidableEq T] [DecidableEq P] [BEq F] [Number F] in
/-- What an event is for the lock of the queue. -/
def FlusherEvent.onQueue (threads : Threads T P) :
    FlusherEvent T P F → Option (CrewEvent T (FlushOp F) FlushOp.Ans)
  | call t | beacon t => some (.ask t)
  | skip _ | done _ => none
  | crew e => some e
  | kill p => some (.kill {t | threads.process t = p})
  | crash p => some (.crash {t | threads.process t = p})

/-- What an event is for the flush cycles. -/
def FlusherEvent.label (e : FlusherEvent T P F) : Option (Host.Label (FlushOp F) FlushOp.Ans) :=
  match e with
  | call _ | beacon _ | skip _ | done _ | kill _ => none
  | crew e => e.label
  | crash _ => some .crash

omit [BEq F] [Number F] in
/-- An automatic flush flushes all that is pending. -/
lemma isFlush_auto : IsFlush (flushAllPending ∅ none : Flush F (List (String × TxOutcome))) :=
  ⟨∅, none, rfl⟩

section Runs

variable {M : Medium F N} {threads : Threads T P} {f f' : Flushers T P F N} {net : N}
  {e : FlusherEvent T P F} {es : List (FlusherEvent T P F)}

/-- **The lock of the queue is used as locks are.**

**Proof sketch.** One case for each event. Waiting for the lock of the queue, working under it and
dying are steps of the crew; a beacon that is skipped and a cycle that is over change only the locks
of the processes. -/
theorem flushers_simulation (M : Medium F N) (threads : Threads T P) :
    Simulation (FlusherStep M threads) (CrewStep (flushHost M) IsFlush) Flushers.crew
      (FlusherEvent.onQueue threads) fun _ => True where
  keeps _ _ _ _ _ := trivial
  moves f e f' l _ hstep hlabel := by
    cases hstep with
    | call hcaller hp hidle =>
      cases hlabel
      exact .ask hidle hp
    | beacon hbeacon hidle hfree =>
      cases hlabel
      exact .ask hidle isFlush_auto
    | crew hwork hstep =>
      cases hlabel
      exact hstep
    | kill hstep =>
      cases hlabel
      exact hstep
    | crash hstep =>
      cases hlabel
      exact hstep
    | skip | done => cases hlabel
  stutters f e f' _ hstep hlabel := by
    cases hstep with
    | skip | done => rfl
    | call | beacon | crew | kill | crash => cases hlabel

/-! ## The lock of a process -/

/-- **A thread that was started for a beacon has the lock of its process** while it flushes. -/
def Flushers.LocksProcess (threads : Threads T P) (f : Flushers T P F N) : Prop :=
  ∀ t, threads.forBeacon t = true → f.crew.phase t ≠ .idle →
    f.flushLock (threads.process t) = some t

omit [DecidableEq T] [BEq F] [Number F] in
/-- The threads of a process that died do nothing any more. -/
lemma Flushers.LocksProcess.died (h : f.LocksProcess threads) (p : P)
    {c : Crew T (FlushOp F) FlushOp.Ans (World F N) (List (String × TxOutcome))}
    (hphase : c.phase = f.crew.without {t | threads.process t = p}) :
    (⟨c, Function.update f.flushLock p none⟩ : Flushers T P F N).LocksProcess threads := by
  intro t hbeacon hbusy
  dsimp only at hbusy ⊢
  rw [hphase] at hbusy
  rcases f.crew.without_cases {t | threads.process t = p} t with ⟨_, hidle⟩ | ⟨hlive, hsame⟩
  · exact absurd hidle hbusy
  · rw [Function.update_of_ne hlive]
    exact h t hbeacon (hsame ▸ hbusy)

omit [BEq F] [Number F] in
/-- A step of a thread on the lock of the queue makes no thread busy. -/
lemma phase_of_work {H : Host (FlushOp F) FlushOp.Ans (World F N)}
    {starts : Flush F (List (String × TxOutcome)) → Prop}
    {c c' : Crew T (FlushOp F) FlushOp.Ans (World F N) (List (String × TxOutcome))}
    {e : CrewEvent T (FlushOp F) FlushOp.Ans} (hwork : IsWork e) (h : CrewStep H starts c e c')
    {t : T} (ht : c.phase t = .idle) : c'.phase t = .idle := by
  have hother : ∀ {u : T} {phase : ThreadPhase (FlushOp F) FlushOp.Ans (List (String × TxOutcome))},
      c.phase u ≠ .idle → c.enter u phase t = .idle := by
    intro u phase hu
    have hne : t ≠ u := fun heq => hu (heq ▸ ht)
    rw [c.enter_of_ne hne, ht]
  cases h with
  | giveUp hwait => exact hother (by rw [hwait]; simp)
  | acquire hwait => exact hother (by rw [hwait]; simp)
  | own hold => exact hother (by rw [hold]; simp)
  | release hold => exact hother (by rw [hold]; simp)
  | others => exact ht
  | ask | kill | crash => exact hwork.elim

/-- The locks of the processes stay with these threads.

**Proof sketch.** One case for each event. A beacon takes the lock of its process only while it is
free, so no thread of this process was busy before; a cycle that is over gives the lock back, and
its thread is idle. All other events leave these locks, and make no thread busy. -/
lemma Flushers.LocksProcess.step (h : f.LocksProcess threads)
    (hstep : FlusherStep M threads f e f') : f'.LocksProcess threads := by
  cases hstep with
  | @call t p hcaller hp hidle =>
    intro u hbeacon hbusy
    have hne : u ≠ t := by
      rintro rfl
      rw [hcaller] at hbeacon
      cases hbeacon
    exact h u hbeacon (f.crew.enter_of_ne hne _ ▸ hbusy)
  | @beacon t hbeacon hidle hfree =>
    intro u hbeacon' hbusy
    dsimp only at hbusy ⊢
    by_cases hut : u = t
    · rw [hut, Function.update_self]
    · rw [f.crew.enter_of_ne hut] at hbusy
      have htaken := h u hbeacon' hbusy
      have hprocess : threads.process u ≠ threads.process t := by
        intro heq
        rw [heq, hfree] at htaken
        cases htaken
      rw [Function.update_of_ne hprocess, htaken]
  | skip => exact h
  | @crew e c hwork hstep =>
    intro t hbeacon hbusy
    exact h t hbeacon fun hidle => hbusy (phase_of_work hwork hstep hidle)
  | @done t hidle htaken =>
    intro u hbeacon hbusy
    have hu := h u hbeacon hbusy
    have hprocess : threads.process u ≠ threads.process t := by
      intro heq
      rw [heq, htaken] at hu
      rw [← Option.some.inj hu] at hbusy
      exact hbusy hidle
    exact (Function.update_of_ne hprocess _ _).trans hu
  | @kill p c hstep =>
    cases hstep with
    | kill hlive => exact h.died p rfl
  | @crash p c hstep =>
    cases hstep with
    | crash hold hdead hs => exact h.died p rfl

/-- The locks of the processes after a run. -/
lemma locksProcess_of_run (hrun : FlusherRun M threads f es f') (h : f.LocksProcess threads) :
    f'.LocksProcess threads := by
  induction hrun with
  | nil => exact h
  | cons hstep _ ih => exact ih (h.step hstep)

/-! ## Runs -/

omit [DecidableEq T] [DecidableEq P] [BEq F] [Number F] in
/-- The flush cycles see of the lock what it is for. -/
lemma filterMap_label (threads : Threads T P) (es : List (FlusherEvent T P F)) :
    (es.filterMap (FlusherEvent.onQueue threads)).filterMap CrewEvent.label =
      es.filterMap FlusherEvent.label := by
  rw [List.filterMap_filterMap]
  refine List.filterMap_congr fun e _ => ?_
  cases e <;> rfl

/-- **The flush cycles of a run** are those of a single process. -/
lemma steps_of_run (hrun : FlusherRun M threads (.start net) es f) :
    f.crew.Sound IsFlush ∧ (flushHost M).Steps IsFlush ⟨none, World.empty net⟩
      (es.filterMap FlusherEvent.label) f.crew.process := by
  obtain ⟨_, hcrew⟩ := (flushers_simulation M threads).run hrun trivial
  obtain ⟨hsound, hprocess⟩ := (crew_simulation (flushHost M) IsFlush).run hcrew
    (Crew.sound_start _)
  rw [filterMap_label] at hprocess
  exact ⟨hsound, Host.steps_of_run hprocess⟩

/-- **The flush cycles of all processes come one after the other.** In every run of threads of any
processes, with flushes that are called for and flushes that beacons start, with other programs at
the queue, and with processes that die at any time: no two threads are within a flush cycle; in each
process at most one thread that was started for a beacon flushes or waits to; all that happens to
the queue is what a single process could do that runs one flush cycle after the other; and if every
operation ends, then as long as a thread has something to do, some thread can go on.

**Proof sketch.** The crew of all threads is sound, and its run is one of a single process
(`steps_of_run`). A thread that a beacon started holds the lock of its process while it has
something to do (`locksProcess_of_run`), and in a sound crew the thread with the lock of the queue
can go on, or the lock is free (`Crew.Sound.exists_step`). -/
theorem flushes_serialised (hrun : FlusherRun M threads (.start net) es f) :
    (∀ t u p q, f.crew.phase t = .holding p → f.crew.phase u = .holding q → t = u) ∧
    (∀ t u, threads.forBeacon t = true → threads.forBeacon u = true →
      threads.process t = threads.process u → f.crew.phase t ≠ .idle → f.crew.phase u ≠ .idle →
        t = u) ∧
    (flushHost M).Steps IsFlush ⟨none, World.empty net⟩ (es.filterMap FlusherEvent.label)
      f.crew.process ∧
    ((∀ op w, ∃ r w', flushExec M op w r w') → ∀ t, f.crew.phase t ≠ .idle →
      ∃ e f', FlusherStep M threads f (.crew e) f' ∧ e.Advances) := by
  obtain ⟨hsound, hsteps⟩ := steps_of_run hrun
  have hlocks := locksProcess_of_run hrun fun t _ hbusy => absurd rfl hbusy
  refine ⟨fun t u p q => hsound.exclusive, fun t u ht hu hprocess htbusy hubusy => ?_, hsteps,
    fun hexec t hbusy => ?_⟩
  · have htaken := hlocks t ht htbusy
    rw [hprocess, hlocks u hu hubusy] at htaken
    exact (Option.some.inj htaken).symm
  · obtain ⟨e, c, hstep, hadvances⟩ := hsound.exists_step (H := flushHost M) hexec hbusy
    have hwork : IsWork e := by cases e <;> first | exact trivial | exact hadvances.elim
    exact ⟨e, _, .crew hwork hstep, hadvances⟩

/-! ## Dispatches -/

omit [DecidableEq T] [DecidableEq P] [BEq F] [Number F] in
/-- A process dies while one of its threads holds the lock of the queue. -/
def FlusherEvent.isCrash : FlusherEvent T P F → Bool
  | crash _ => true
  | _ => false

omit [BEq F] [Number F] in
/-- The operations of a flush cycle do not crash. -/
lemma crashes_of_exec {op : FlushOp F} {w w' : World F N} {r : op.Ans}
    (h : flushExec M op w r w') : w'.crashes = w.crashes := by
  cases op with
  | pendingIntents | get =>
    obtain ⟨_, rfl⟩ := h
    rfl
  | cachedPassphrase | isGatewayOnline | enter | leave =>
    obtain rfl := h
    rfl
  | updateStatus | incrementAttempts | waitForResult =>
    obtain ⟨_, _, rfl⟩ := h
    rfl
  | dispatch =>
    obtain ⟨_, _, _, _, rfl⟩ := h
    rfl

/-- **Crashes are counted.**

**Proof sketch.** Induction on the run: only the crash of a process that holds the lock counts. -/
lemma crashes_of_run (hrun : FlusherRun M threads f es f') :
    f'.crew.state.crashes = f.crew.state.crashes + es.countP FlusherEvent.isCrash := by
  induction hrun with
  | nil => rfl
  | @cons f g f' e es hstep _ ih =>
    suffices hone : g.crew.state.crashes =
        f.crew.state.crashes + if e.isCrash = true then 1 else 0 by
      rw [ih, hone, List.countP_cons]
      omega
    cases hstep with
    | call | beacon | skip | done => rfl
    | @crew e c hwork hstep =>
      cases hstep with
      | giveUp | acquire | release => rfl
      | own hold hr => exact crashes_of_exec hr
      | others hs => exact (Others.unchanged hs).2.1
      | ask | kill | crash => exact hwork.elim
    | kill hstep =>
      cases hstep with
      | kill => rfl
    | crash hstep =>
      cases hstep with
      | crash hold hdead hs =>
        obtain ⟨_⟩ := hs
        rfl

/-- **The dispatches of an intent by all processes**: however many threads of however many processes
flush the queue, an intent is dispatched at most as often as it may be attempted, and once more for
each time a process died within a flush cycle; dispatches with a wrong passphrase aside.

**Proof sketch.** The run is one of a single process (`steps_of_run`), for which the bound holds
with its crashes (`dispatches_le`); these are the crashes of the processes that held the lock
(`crashes_of_run`). -/
theorem flushers_dispatches_le (hrun : FlusherRun M threads (.start net) es f) {intentId : String}
    {c : Intent F} (hc : f.crew.state.created intentId = some c) :
    f.crew.state.dispatches intentId ≤ c.maxAttempts + es.countP FlusherEvent.isCrash := by
  obtain ⟨_, hsteps⟩ := steps_of_run hrun
  obtain ⟨run, label, hisRun, hend, _⟩ := Host.exists_run hsteps
  have hstate : (run (es.filterMap FlusherEvent.label).length).state = f.crew.state :=
    congrArg Host.Process.state hend
  have hle := dispatches_le hisRun (es.filterMap FlusherEvent.label).length (hstate ▸ hc)
  rw [hstate, crashes_of_run hrun] at hle
  exact hle.trans_eq (congrArg _ (Nat.zero_add _))

end Runs

/-! ## A sample -/

section Sample

/-- Two processes with a thread each: one that flushes when it is called, and one that is started
for a beacon. -/
def sampleThreads : Threads Bool Bool := ⟨id, id⟩

/-- An intent is queued, both threads want to flush, and the first one gets the lock. -/
def sampleFlushes : List (FlusherEvent Bool Bool ℤ) :=
  [.crew .others, .call false, .beacon true, .crew (.acquire false)]

/-- This can happen. -/
lemma exists_run_sampleFlushes : ∃ f : Flushers Bool Bool ℤ Unit,
    FlusherRun (constMedium (.ok 7) none) sampleThreads (.start ()) sampleFlushes f ∧
      f.crew.state = sampleWorld () ∧ f.crew.holder = some false := by
  have hnew : sampleIntent.IsNew := ⟨rfl, rfl, by decide⟩
  exact ⟨_, .cons (.crew trivial (.others (.add hnew rfl))) (.cons (.call rfl isFlush_auto rfl)
    (.cons (.beacon rfl rfl rfl) (.cons (.crew trivial (.acquire rfl rfl)) (.nil _)))), rfl, rfl⟩

/-- The second thread waits, and only one flush cycle has begun. -/
theorem flushes_serialised_two_processes : ∃ f : Flushers Bool Bool ℤ Unit,
    (flushHost (constMedium (.ok 7) none)).Steps IsFlush ⟨none, World.empty ()⟩ [.others, .start]
      f.crew.process ∧ f.crew.holder = some false := by
  obtain ⟨f, hrun, _, hholder⟩ := exists_run_sampleFlushes
  exact ⟨f, (flushes_serialised hrun).2.2.1, hholder⟩

/-- The intent that was queued is dispatched at most three times. -/
theorem flushers_dispatches_le_two_processes : ∃ f : Flushers Bool Bool ℤ Unit,
    f.crew.holder = some false ∧ f.crew.state.dispatches "a" ≤ 3 + 0 := by
  obtain ⟨f, hrun, hstate, hholder⟩ := exists_run_sampleFlushes
  have hcreated : f.crew.state.created "a" = some sampleIntent := by
    rw [hstate]
    rfl
  exact ⟨f, hholder, flushers_dispatches_le hrun hcreated⟩

end Sample

end SolMesh
