import SolMesh.Client.FlushRules

set_option relaxedAutoImplicit false
set_option autoImplicit false

/-!
# The life cycle of an intent

In every run of flush cycles, with other programs using the queue and with crashes between any two
operations, an intent keeps to its life cycle.

## Main definitions

* `SolMesh.LifeCycle` — the life cycle of all intents in a run.

## Main results

* `SolMesh.intent_life_cycle` — every run keeps to it.
* `SolMesh.dispatches_le` — the number of dispatches of an intent, with crashes.
-/

namespace SolMesh

open Py Text Conc

variable {F N : Type}

/-! ## Times in a run -/

/-- A run of flush cycles: the states, and what happens at each time. -/
abbrev FlushStates (F N : Type) :=
  ℕ → Host.Process (FlushOp F) FlushOp.Ans (World F N) (List (String × TxOutcome))

abbrev FlushLabels (F : Type) := ℕ → Option (Host.Label (FlushOp F) FlushOp.Ans)

/-- This operation is performed at time `k`. -/
def Performs (label : FlushLabels F) (k : ℕ) (op : FlushOp F) : Prop :=
  ∃ r, label k = some (.own op r)

/-- No call of `flush_intent` begins or ends at this time, and nothing crashes. -/
structure Within (label : FlushLabels F) (l : ℕ) : Prop where
  enter : ∀ t, ¬ Performs label l (.enter t)
  leave : ∀ result, ¬ Performs label l (.leave result)
  crash : label l ≠ some .crash

/-- No call of `flush_intent` begins or ends, and nothing crashes, between two times. -/
def SameCall (label : FlushLabels F) (m k : ℕ) : Prop := ∀ l, m < l → l < k → Within label l

/-- **The life cycle of intents in a run.** -/
structure LifeCycle (run : FlushStates F N) (label : FlushLabels F) : Prop where
  /-- The attempts never exceed their limit; they are below it while the intent is pending or
  being sent, and at it when it has failed. -/
  bounded : ∀ k intentId i, (run k).state.find intentId = some i → i.attempts ≤ i.maxAttempts ∧
    (i.status = .pending ∨ i.status = .sending → i.attempts < i.maxAttempts) ∧
    (i.status = .failed → i.attempts = i.maxAttempts)
  /-- The attempts never decrease. -/
  attempts_le : ∀ k m intentId i j, k ≤ m → (run k).state.find intentId = some i →
    (run m).state.find intentId = some j → i.attempts ≤ j.attempts
  /-- A sent intent stays sent. -/
  sent : ∀ k m intentId i j, k ≤ m → (run k).state.find intentId = some i →
    (run m).state.find intentId = some j → i.status = .sent → j.status = .sent
  /-- A failed intent is left only for a sent one, in the call that counted its last attempt. -/
  failed : ∀ k intentId i j, (run k).state.find intentId = some i →
    (run (k + 1)).state.find intentId = some j → i.status = .failed → j.status ≠ .failed →
    j.status = .sent ∧ ∃ m₀ m t txHash, t.id = intentId ∧ Performs label m₀ (.enter t) ∧
      m₀ < m ∧ m < k ∧ SameCall label m₀ k ∧ Performs label m (.incrementAttempts intentId) ∧
      Performs label k (.updateStatus intentId .sent none txHash) ∧
      (∃ i', (run m).state.find intentId = some i' ∧ i'.status ≠ .failed) ∧
      ∀ l, m < l → l ≤ k → ∃ i', (run l).state.find intentId = some i' ∧ i'.status = .failed
  /-- A wrong passphrase leaves the attempts as they were when the call began, and the intent
  pending. -/
  invalidTag : ∀ m l k t result request e, m < l → l < k → Performs label m (.enter t) →
    label l = some (.own (.dispatch t.id request) (.error e)) → wrongPassphrase e = true →
    Performs label k (.leave result) → SameCall label m k →
    ∀ i j, (run m).state.find t.id = some i → (run (k + 1)).state.find t.id = some j →
      j.attempts = i.attempts ∧ j.status = .pending
  /-- Without crashes, an intent is dispatched at most as often as it may be attempted, dispatches
  with a wrong passphrase aside. -/
  dispatches : (∀ k, label k ≠ some .crash) → ∀ k intentId c,
    (run k).state.created intentId = some c → (run k).state.dispatches intentId ≤ c.maxAttempts

section Run

variable [BEq F] [Number F] {M : Medium F N} {net : N} {run : FlushStates F N}
  {label : FlushLabels F}

/-- Every state of a run is sound. -/
lemma run_sound (hrun : (flushHost M).IsRun IsFlush (World.empty net) run label) (k : ℕ) :
    (run k).state.Sound :=
  ((keeps_flush M).sound hrun (between_empty net) k).1

/-- Every operation in a run meets the guarantee. -/
lemma run_fair (hrun : (flushHost M).IsRun IsFlush (World.empty net) run label) {k : ℕ}
    {op : FlushOp F} {r : op.Ans} (hl : label k = some (.own op r)) :
    Fair op (run k).state r (run (k + 1)).state :=
  ((keeps_flush M).sound hrun (between_empty net) k).2 op r hl

/-- Intents that were created are remembered. -/
lemma run_created (hrun : (flushHost M).IsRun IsFlush (World.empty net) run label) {k m : ℕ}
    (hkm : k ≤ m) {intentId : String} (h : (run k).state.created intentId ≠ none) :
    (run m).state.created intentId ≠ none := by
  refine hrun.induction (J := fun p => p.state.created intentId ≠ none) hkm h ?_
  intro n c₀ l c₁ _ hc₀ hc₁ hl hstep ih
  obtain ⟨c, hc⟩ := Option.ne_none_iff_exists'.mp ih
  cases hstep with
  | start | finish => exact ih
  | own =>
    have hfair := run_fair hrun hl
    rw [hc₀, hc₁] at hfair
    rw [hfair.created]
    exact ih
  | others hs => simp [Others.created hs hc]
  | crash hs =>
    cases hs
    exact ih

/-- **What one step changes**: an intent that is stored after it was stored before, and changed as
it may, or it is new.

**Proof sketch.** Cases on the step. An operation of the cycle makes fair changes (`run_fair`);
others leave the intent, recover it, or add it (`Others.find_cases`); starting, finishing and
crashing leave the queue as it is. -/
lemma run_change (hrun : (flushHost M).IsRun IsFlush (World.empty net) run label) {k : ℕ}
    {intentId : String} {j : Intent F} (hj : (run (k + 1)).state.find intentId = some j) :
    (∃ i, (run k).state.find intentId = some i ∧
        FairChange (Performs label k) (run k).state.call intentId i j) ∨
      (run k).state.created intentId = none := by
  have hsound := run_sound hrun k
  rcases hrun.step_cases k with ⟨_, heq⟩ | ⟨l, hl, hstep⟩
  · rw [heq] at hj
    exact Or.inl ⟨j, hj, FairChange.refl _ _ _ _⟩
  · generalize hc₀ : run k = c₀ at hstep hsound
    generalize hc₁ : run (k + 1) = c₁ at hstep hj
    cases hstep with
    | start | finish => exact Or.inl ⟨j, hj, FairChange.refl _ _ _ _⟩
    | own =>
      have hfair := run_fair hrun hl
      rw [hc₀, hc₁] at hfair
      obtain ⟨i, hi, hchange⟩ := hfair.changes _ _ hj
      refine Or.inl ⟨i, hi, hchange.attempts, hchange.sent, fun hs hne => ?_, fun hne hs => ?_⟩
      · obtain ⟨hsent, c, txHash, hcall, hid, rfl⟩ := hchange.unfailed hs hne
        exact ⟨hsent, c, txHash, hcall, hid, _, hl⟩
      · obtain ⟨c, hcall, hid, rfl⟩ := hchange.failed hne hs
        exact ⟨c, hcall, hid, _, hl⟩
    | others hs =>
      rcases Others.find_cases hs hsound hj with ⟨i, hi, ha, _, hstatus, _⟩ | ⟨hnone, _⟩
      · refine Or.inl ⟨i, hi, ha.ge, ?_, ?_, ?_⟩
        all_goals
          rcases hstatus with ⟨hi', hj'⟩ | hstatus
          · simp [hi', hj']
          · simp +contextual [hstatus]
      · exact Or.inr hnone
    | crash hs =>
      cases hs
      exact Or.inl ⟨j, hj, FairChange.refl _ _ _ _⟩

/-- What is stored of an intent was stored at each time since it was created. -/
lemma run_find (hrun : (flushHost M).IsRun IsFlush (World.empty net) run label) {k m : ℕ}
    (hkm : k ≤ m) {intentId : String} (hcreated : (run k).state.created intentId ≠ none)
    {j : Intent F} (hj : (run m).state.find intentId = some j) :
    ∃ i, (run k).state.find intentId = some i ∧ i.attempts ≤ j.attempts ∧
      (i.status = .sent → j.status = .sent) := by
  induction m, hkm using Nat.le_induction generalizing j with
  | base => exact ⟨j, hj, le_rfl, id⟩
  | succ m hkm ih =>
    rcases run_change hrun hj with ⟨i', hi', hchange⟩ | hnone
    · obtain ⟨i, hi, ha, hs⟩ := ih hi'
      exact ⟨i, hi, ha.trans hchange.attempts, fun h => hchange.sent (hs h)⟩
    · exact absurd hnone (run_created hrun hkm hcreated)

/-- A step within a call goes on with the call, and keeps the answer to its dispatch.

**Proof sketch.** Cases on the step, and for a step of the cycle on its operation. Only a dispatch
touches the call: it stores its answer, and happens only while there is none. -/
lemma run_call_next (hrun : (flushHost M).IsRun IsFlush (World.empty net) run label) {k : ℕ}
    (hwithin : Within label k) {c : FlushCall F} (hc : (run k).state.call = some c) :
    ∃ answer, (run (k + 1)).state.call = some ⟨c.intent, answer⟩ ∧
      (c.answer ≠ none → answer = c.answer) := by
  rcases hrun.step_cases k with ⟨_, heq⟩ | ⟨l, hl, hstep⟩
  · rw [heq]
    exact ⟨c.answer, hc, fun _ => rfl⟩
  · generalize hc₀ : run k = c₀ at hstep hc
    generalize hc₁ : run (k + 1) = c₁ at hstep
    cases hstep with
    | start | finish => exact ⟨c.answer, hc, fun _ => rfl⟩
    | @own op next s s' r hr =>
      cases op with
      | enter t => exact absurd ⟨r, hl⟩ (hwithin.enter t)
      | leave result => exact absurd ⟨r, hl⟩ (hwithin.leave result)
      | dispatch intentId request =>
        have hfair := run_fair hrun hl
        rw [hc₀, hc₁] at hfair
        obtain ⟨t, ht, _⟩ := hfair.dispatch _ _ rfl
        obtain rfl : (⟨t, none⟩ : FlushCall F) = c := Option.some.inj (ht.symm.trans hc)
        obtain ⟨answer, net', _, _, rfl⟩ := hr
        refine ⟨some answer, ?_, fun h => absurd rfl h⟩
        change s.call.map _ = _
        rw [show s.call = some ⟨t, none⟩ from ht]
        rfl
      | pendingIntents | get =>
        obtain ⟨_, rfl⟩ := hr
        exact ⟨c.answer, hc, fun _ => rfl⟩
      | cachedPassphrase | isGatewayOnline =>
        obtain rfl := hr
        exact ⟨c.answer, hc, fun _ => rfl⟩
      | updateStatus | incrementAttempts =>
        obtain ⟨_, _, rfl⟩ := hr
        exact ⟨c.answer, hc, fun _ => rfl⟩
      | waitForResult =>
        obtain ⟨_, _, rfl⟩ := hr
        exact ⟨c.answer, hc, fun _ => rfl⟩
    | others hs => exact ⟨c.answer, (Others.unchanged hs).2.2.trans hc, fun _ => rfl⟩
    | crash => exact absurd hl hwithin.crash

/-- A call goes on as long as nothing ends it. -/
lemma run_call_of_le (hrun : (flushHost M).IsRun IsFlush (World.empty net) run label) {k m : ℕ}
    (hkm : k ≤ m) (hwithin : ∀ l, k ≤ l → l < m → Within label l) {c : FlushCall F}
    (hc : (run k).state.call = some c) :
    ∃ answer, (run m).state.call = some ⟨c.intent, answer⟩ ∧
      (c.answer ≠ none → answer = c.answer) := by
  induction m, hkm using Nat.le_induction with
  | base => exact ⟨c.answer, hc, fun _ => rfl⟩
  | succ m hkm ih =>
    obtain ⟨answer, hcall, hanswer⟩ := ih fun l hl hlm => hwithin l hl (by omega)
    obtain ⟨answer', hcall', hanswer'⟩ := run_call_next hrun (hwithin m hkm (by omega)) hcall
    refine ⟨answer', hcall', fun hne => ?_⟩
    have heq := hanswer hne
    rw [← heq] at hne
    exact (hanswer' hne).trans heq

/-- A call that is in progress either has just begun or was in progress before.

**Proof sketch.** Cases on the step, and for a step of the cycle on its operation. The call that is
in progress afterwards was begun by the operation, or it was there before, with the same intent. -/
lemma run_call_prev (hrun : (flushHost M).IsRun IsFlush (World.empty net) run label) {k : ℕ}
    {c : FlushCall F} (hc : (run (k + 1)).state.call = some c) :
    Performs label k (.enter c.intent) ∨
      (Within label k ∧ ∃ c', (run k).state.call = some c' ∧ c'.intent = c.intent) := by
  rcases hrun.step_cases k with ⟨hl, heq⟩ | ⟨l, hl, hstep⟩
  · rw [heq] at hc
    exact Or.inr ⟨⟨by simp [Performs, hl], by simp [Performs, hl], by simp [hl]⟩, c, hc, rfl⟩
  · generalize hc₀ : run k = c₀ at hstep
    generalize hc₁ : run (k + 1) = c₁ at hstep hc
    cases hstep with
    | start | finish =>
      exact Or.inr ⟨⟨by simp [Performs, hl], by simp [Performs, hl], by simp [hl]⟩, c, hc, rfl⟩
    | @own op next s s' r hr =>
      have hwithin : (∀ t, op ≠ .enter t) → (∀ result, op ≠ .leave result) → Within label k := by
        intro he hv
        refine ⟨fun t ⟨r', h⟩ => he t ?_, fun result ⟨r', h⟩ => hv result ?_, by simp [hl]⟩
        · rw [hl] at h
          cases h
          rfl
        · rw [hl] at h
          cases h
          rfl
      cases op with
      | enter t =>
        obtain rfl := hr
        cases hc
        exact Or.inl ⟨r, hl⟩
      | leave result =>
        obtain rfl := hr
        cases hc
      | dispatch intentId request =>
        obtain ⟨answer, net', _, _, rfl⟩ := hr
        obtain ⟨c', hc', rfl⟩ := Option.map_eq_some_iff.mp hc
        exact Or.inr ⟨hwithin (by simp) (by simp), c', hc', rfl⟩
      | pendingIntents | get =>
        obtain ⟨_, rfl⟩ := hr
        exact Or.inr ⟨hwithin (by simp) (by simp), c, hc, rfl⟩
      | cachedPassphrase | isGatewayOnline =>
        obtain rfl := hr
        exact Or.inr ⟨hwithin (by simp) (by simp), c, hc, rfl⟩
      | updateStatus | incrementAttempts =>
        obtain ⟨_, _, rfl⟩ := hr
        exact Or.inr ⟨hwithin (by simp) (by simp), c, hc, rfl⟩
      | waitForResult =>
        obtain ⟨_, _, rfl⟩ := hr
        exact Or.inr ⟨hwithin (by simp) (by simp), c, hc, rfl⟩
    | others hs =>
      exact Or.inr ⟨⟨by simp [Performs, hl], by simp [Performs, hl], by simp [hl]⟩, c,
        (Others.unchanged hs).2.2.symm.trans hc, rfl⟩
    | crash hs =>
      cases hs
      cases hc

/-- **A call that is in progress began at some time**, and nothing ended it since. -/
lemma run_call_since (hrun : (flushHost M).IsRun IsFlush (World.empty net) run label) {k : ℕ}
    {c : FlushCall F} (hc : (run k).state.call = some c) :
    ∃ m < k, Performs label m (.enter c.intent) ∧ SameCall label m k := by
  induction k generalizing c with
  | zero =>
    rw [hrun.init] at hc
    cases hc
  | succ k ih =>
    rcases run_call_prev hrun hc with henter | ⟨hwithin, c', hc', heq⟩
    · exact ⟨k, by omega, henter, fun l hl hlk => by omega⟩
    · obtain ⟨m, hm, henter, hsame⟩ := ih hc'
      refine ⟨m, by omega, heq ▸ henter, fun l hl hlk => ?_⟩
      rcases Nat.lt_succ_iff_lt_or_eq.mp hlk with hlt | rfl
      · exact hsame l hl hlt
      · exact hwithin

/-- The call of the intent begins. -/
lemma run_enter (hrun : (flushHost M).IsRun IsFlush (World.empty net) run label) {k : ℕ}
    {t : Intent F} (h : Performs label k (.enter t)) :
    (run (k + 1)).state.call = some ⟨t, none⟩ ∧
      (run (k + 1)).state.queue = (run k).state.queue := by
  obtain ⟨r, hl⟩ := h
  obtain ⟨_, hexec⟩ := hrun.exec_of_own hl
  rw [show (run (k + 1)).state = { (run k).state with call := some ⟨t, none⟩ } from hexec]
  exact ⟨rfl, rfl⟩

/-- The end of a call leaves the queue as it is. -/
lemma run_leave (hrun : (flushHost M).IsRun IsFlush (World.empty net) run label) {k : ℕ}
    {result : Except Exn TxOutcome} (h : Performs label k (.leave result)) :
    (run (k + 1)).state.queue = (run k).state.queue := by
  obtain ⟨r, hl⟩ := h
  obtain ⟨_, hexec⟩ := hrun.exec_of_own hl
  rw [show (run (k + 1)).state = { (run k).state with call := none } from hexec]

/-- The answer to a dispatch is kept with the call. -/
lemma run_dispatch (hrun : (flushHost M).IsRun IsFlush (World.empty net) run label) {k : ℕ}
    {intentId : String} {request : Dispatch F} {answer : Except Exn UInt16}
    (hl : label k = some (.own (.dispatch intentId request) answer)) :
    (run (k + 1)).state.call =
      (run k).state.call.map fun c => { c with answer := some answer } := by
  obtain ⟨_, answer', net', rfl, _, hafter⟩ := hrun.exec_of_own hl
  rw [hafter]

/-- After a time at which something does not hold, there is a last one. -/
lemma exists_last {P : ℕ → Prop} {m k : ℕ} (hmk : m ≤ k) (hm : ¬ P m) (hk : P k) :
    ∃ l, m ≤ l ∧ l < k ∧ ¬ P l ∧ ∀ l', l < l' → l' ≤ k → P l' := by
  induction k, hmk using Nat.le_induction with
  | base => exact absurd hk hm
  | succ k hmk ih =>
    by_cases hP : P k
    · obtain ⟨l, hml, hlk, hnot, hall⟩ := ih hP
      refine ⟨l, hml, by omega, hnot, fun l' hl hl' => ?_⟩
      rcases Nat.lt_succ_iff_lt_or_eq.mp (Nat.lt_succ_of_le hl') with hlt | rfl
      · exact hall l' hl (by omega)
      · exact hk
    · refine ⟨k, hmk, by omega, hP, fun l' hl hl' => ?_⟩
      obtain rfl : l' = k + 1 := by omega
      exact hk

/-- **When a failed intent is left**, its success is recorded in the call that counted its last
attempt.

**Proof sketch.** Only the note of a success leaves the status FAILED (`run_change`), and it belongs
to a call that began at some step (`run_call_since`). The intent was pending there, so there is a
last step after which it was failed all the time (`exists_last`), and that step counted the last
attempt. -/
lemma run_unfailed (hrun : (flushHost M).IsRun IsFlush (World.empty net) run label) {k : ℕ}
    {intentId : String} {i j : Intent F} (hi : (run k).state.find intentId = some i)
    (hj : (run (k + 1)).state.find intentId = some j) (hfailed : i.status = .failed)
    (hne : j.status ≠ .failed) :
    j.status = .sent ∧ ∃ m₀ m t txHash, t.id = intentId ∧ Performs label m₀ (.enter t) ∧
      m₀ < m ∧ m < k ∧ SameCall label m₀ k ∧ Performs label m (.incrementAttempts intentId) ∧
      Performs label k (.updateStatus intentId .sent none txHash) ∧
      (∃ i', (run m).state.find intentId = some i' ∧ i'.status ≠ .failed) ∧
      ∀ l, m < l → l ≤ k → ∃ i', (run l).state.find intentId = some i' ∧ i'.status = .failed := by
  have hcreated : (run k).state.created intentId ≠ none := by
    obtain ⟨c, hc, _⟩ := (run_sound hrun k).known _ _ hi
    simp [hc]
  rcases run_change hrun hj with ⟨i', hi', hchange⟩ | hnone
  swap
  · exact absurd hnone hcreated
  obtain rfl : i = i' := Option.some.inj (hi.symm.trans hi')
  obtain ⟨hsent, c, txHash, hcall, hid, hupdate⟩ := hchange.unfailed hfailed hne
  subst hid
  obtain ⟨m₀, hm₀, henter, hsame⟩ := run_call_since hrun hcall
  -- the intent was pending when the call began, so it failed since
  obtain ⟨r, hl⟩ := henter
  obtain ⟨hcreated₀, hpending⟩ := (run_fair hrun hl).enter _ rfl
  have hstart : ¬ ∃ i', (run (m₀ + 1)).state.find c.intent.id = some i' ∧ i'.status = .failed := by
    rintro ⟨i', hi', hs⟩
    rw [World.find, (run_enter hrun ⟨r, hl⟩).2] at hi'
    rw [(hpending i' hi').1] at hs
    cases hs
  obtain ⟨m, hm, hmk, hnot, hall⟩ := exists_last (P := fun l =>
    ∃ i', (run l).state.find c.intent.id = some i' ∧ i'.status = .failed) hm₀ hstart
    ⟨i, hi, hfailed⟩
  obtain ⟨i₁, hi₁, hs₁⟩ := hall (m + 1) (by omega) (by omega)
  have hcreated₁ := run_created hrun (by omega : m₀ ≤ m) hcreated₀
  rcases run_change hrun hi₁ with ⟨i₂, hi₂, hchange₂⟩ | hnone
  swap
  · exact absurd hnone hcreated₁
  have hs₂ : i₂.status ≠ .failed := fun hs => hnot ⟨i₂, hi₂, hs⟩
  obtain ⟨_, _, _, hincrement⟩ := hchange₂.failed hs₂ hs₁
  exact ⟨hsent, m₀, m, c.intent, txHash, rfl, ⟨r, hl⟩, by omega, hmk, hsame, hincrement, hupdate,
    ⟨i₂, hi₂, hs₂⟩, hall⟩

/-- **A wrong passphrase** leaves the attempts as they are, and the intent pending. -/
lemma run_invalidTag (hrun : (flushHost M).IsRun IsFlush (World.empty net) run label)
    {m l k : ℕ} {t : Intent F} {result : Except Exn TxOutcome} {request : Dispatch F} {e : Exn}
    (hml : m < l) (hlk : l < k) (henter : Performs label m (.enter t))
    (hdispatch : label l = some (.own (.dispatch t.id request) (.error e)))
    (hwrong : wrongPassphrase e = true) (hleave : Performs label k (.leave result))
    (hsame : SameCall label m k) {i j : Intent F} (hi : (run m).state.find t.id = some i)
    (hj : (run (k + 1)).state.find t.id = some j) :
    j.attempts = i.attempts ∧ j.status = .pending := by
  obtain ⟨r, hl⟩ := henter
  have hbegin := (((run_fair hrun hl).enter t rfl).2 i hi).2
  obtain ⟨answer, hcall, _⟩ := run_call_of_le hrun (by omega : m + 1 ≤ l)
    (fun l' hl' hl'l => hsame l' (by omega) (by omega)) (run_enter hrun ⟨r, hl⟩).1
  have hanswer : (run (l + 1)).state.call = some ⟨t, some (.error e)⟩ := by
    rw [run_dispatch hrun hdispatch, hcall]
    rfl
  obtain ⟨answer', hcall', hkept⟩ := run_call_of_le hrun (by omega : l + 1 ≤ k)
    (fun l' hl' hl'k => hsame l' (by omega) (by omega)) hanswer
  obtain rfl := hkept (by simp)
  rw [World.find, run_leave hrun hleave] at hj
  obtain ⟨r', hl'⟩ := hleave
  obtain ⟨hpending, ha⟩ := (run_fair hrun hl').leave _ rfl _ e hcall' rfl hwrong j hj
  exact ⟨ha.trans hbegin.symm, hpending⟩

/-- **The dispatches of an intent**: at most as many as it may be attempted, and one more for each
crash, dispatches with a wrong passphrase aside. -/
theorem dispatches_le (hrun : (flushHost M).IsRun IsFlush (World.empty net) run label) (k : ℕ)
    {intentId : String} {c : Intent F} (hc : (run k).state.created intentId = some c) :
    (run k).state.dispatches intentId ≤ c.maxAttempts + (run k).state.crashes :=
  (run_sound hrun k).bounded _ _ hc

/-- Crashes are counted.

**Proof sketch.** Induction on the run: no step but a crash changes the number. -/
lemma run_crashes (hrun : (flushHost M).IsRun IsFlush (World.empty net) run label)
    (hcrash : ∀ k, label k ≠ some .crash) (k : ℕ) : (run k).state.crashes = 0 := by
  refine hrun.induction (J := fun p => p.state.crashes = 0) (Nat.zero_le k) ?_ ?_
  · rw [hrun.init]
    rfl
  · intro n c₀ l c₁ _ _ _ hl hstep ih
    cases hstep with
    | start | finish => exact ih
    | @own op next s s' r hr =>
      cases op with
      | pendingIntents | get =>
        obtain ⟨_, rfl⟩ := hr
        exact ih
      | cachedPassphrase | isGatewayOnline | enter | leave =>
        obtain rfl := hr
        exact ih
      | updateStatus | incrementAttempts | waitForResult =>
        obtain ⟨_, _, rfl⟩ := hr
        exact ih
      | dispatch =>
        obtain ⟨_, _, _, _, rfl⟩ := hr
        exact ih
    | others hs => exact (Others.unchanged hs).2.1.trans ih
    | crash => exact absurd hl (hcrash n)

/-- **Every run of flush cycles keeps to the life cycle of intents**: with other programs using
the queue, and with crashes between any two operations.

**Proof sketch.** The bounds on the attempts are the invariant `run_sound`. What holds between two
states follows along the run (`run_find`), and the rest is said by the lemmas above, one for each
part. -/
theorem intent_life_cycle (hrun : (flushHost M).IsRun IsFlush (World.empty net) run label) :
    LifeCycle run label where
  bounded k intentId i hi := by
    have hh := (run_sound hrun k).healthy _ _ hi
    exact ⟨hh.le, hh.lt, hh.eq⟩
  attempts_le k m intentId i j hkm hi hj := by
    obtain ⟨c, hc, _⟩ := (run_sound hrun k).known _ _ hi
    obtain ⟨i', hi', ha, _⟩ := run_find hrun hkm (by simp [hc]) hj
    obtain rfl : i = i' := Option.some.inj (hi.symm.trans hi')
    exact ha
  sent k m intentId i j hkm hi hj hs := by
    obtain ⟨c, hc, _⟩ := (run_sound hrun k).known _ _ hi
    obtain ⟨i', hi', _, hsent⟩ := run_find hrun hkm (by simp [hc]) hj
    obtain rfl : i = i' := Option.some.inj (hi.symm.trans hi')
    exact hsent hs
  failed _ _ _ _ hi hj hfailed hne := run_unfailed hrun hi hj hfailed hne
  invalidTag _ _ _ _ _ _ _ hml hlk henter hdispatch hwrong hleave hsame _ _ hi hj :=
    run_invalidTag hrun hml hlk henter hdispatch hwrong hleave hsame hi hj
  dispatches hcrash k intentId c hc := by
    have hle := dispatches_le hrun k hc
    rw [run_crashes hrun hcrash k] at hle
    exact hle

end Run

/-! ## Sample runs -/

/-- A mesh on which each dispatch has the same answer, and each wait the same result. -/
def constMedium (answer : Except Exn UInt16) (result : Option TxOutcome) : Medium ℤ Unit where
  dispatch _ _ _ r _ := r = answer
  wait _ _ r _ := r = result
  background _ _ := False
  crash _ _ := True

/-- A flush cycle on this mesh. -/
def constFlush (answer : Except Exn UInt16) (result : Option TxOutcome) (w : World ℤ Unit) :
    World ℤ Unit :=
  afterFlush (fun _ _ net => (answer, net)) (fun _ net => (result, net)) w

/-- Any number of flush cycles on this mesh, after the sample intent was queued. -/
lemma steps_constFlush (answer : Except Exn UInt16) (result : Option TxOutcome) (n : ℕ) :
    ∃ ls, Host.Label.crash ∉ ls ∧ (flushHost (constMedium answer result)).Steps IsFlush
      ⟨none, World.empty ()⟩ ls ⟨none, (constFlush answer result)^[n] (sampleWorld ())⟩ := by
  induction n with
  | zero => exact ⟨[.others], by simp, steps_sampleWorld _ ()⟩
  | succ n ih =>
    obtain ⟨ls, hls, hsteps⟩ := ih
    obtain ⟨ls', hls', hsteps'⟩ := steps_afterFlush (M := constMedium answer result)
      (fun _ _ net => (answer, net)) (fun _ net => (result, net)) (fun _ _ _ => rfl)
      (fun _ _ => rfl) ((constFlush answer result)^[n] (sampleWorld ()))
    refine ⟨ls ++ ls', by simp [hls, hls'], ?_⟩
    rw [Function.iterate_succ_apply']
    exact hsteps.append hsteps'

/-- The run in which the sample intent is sent keeps to the life cycle. -/
theorem intent_life_cycle_sent :
    ∃ run label, (flushHost (constMedium (.ok 7) (some (.success [])))).IsRun IsFlush
        (World.empty ()) run label ∧ LifeCycle run label ∧ ∃ k,
      ((run k).state.find "a").map (fun i => (i.status, i.attempts)) = some (.sent, 1) := by
  obtain ⟨ls, _, hsteps⟩ := steps_constFlush (.ok 7) (some (.success [])) 1
  obtain ⟨run, label, hrun, hend, _⟩ := Host.exists_run hsteps
  refine ⟨run, label, hrun, intent_life_cycle hrun, ls.length, ?_⟩
  rw [hend]
  decide +kernel

/-- With dispatches with a wrong passphrase counted, an intent can be dispatched more often than it
may be attempted: the sample intent may be attempted three times, and four flush cycles with a
wrong passphrase dispatch it four times. -/
theorem not_dispatches_le_wrongPassphrase :
    ∃ run label, (flushHost (constMedium (.error ⟨"InvalidTag", []⟩) none)).IsRun IsFlush
        (World.empty ()) run label ∧ (∀ k, label k ≠ some .crash) ∧
      ∃ k c, (run k).state.created "a" = some c ∧ c.IsNew ∧
        c.maxAttempts < (run k).state.dispatched.countP fun d => decide (d.1 = "a") := by
  obtain ⟨ls, hls, hsteps⟩ := steps_constFlush (.error ⟨"InvalidTag", []⟩) none 4
  obtain ⟨run, label, hrun, hend, hlabel⟩ := Host.exists_run hsteps
  have hcreated : ((run ls.length).state.created "a").map
      (fun c => (c.status, c.attempts, c.maxAttempts)) = some (.pending, 0, 3) := by
    rw [hend]
    decide +kernel
  obtain ⟨c, hc, heq⟩ := Option.map_eq_some_iff.mp hcreated
  simp only [Prod.mk.injEq] at heq
  obtain ⟨hstatus, hattempts, hmax⟩ := heq
  refine ⟨run, label, hrun, fun k hk => ?_, ls.length, c, hc, ⟨hstatus, hattempts, by omega⟩, ?_⟩
  · rw [hlabel] at hk
    exact hls (List.mem_of_getElem? hk)
  · rw [hmax, hend]
    decide +kernel

end SolMesh
