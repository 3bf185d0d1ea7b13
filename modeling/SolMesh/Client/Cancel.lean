import SolMesh.Client.LifeCycle

set_option relaxedAutoImplicit false
set_option autoImplicit false

/-!
# Removed intents

A flush cycle reads the pending intents once, and does not look whether an intent is still stored
before it sends it. So an intent that is removed while a cycle is under way that has read it and has
not sent it yet is sent nevertheless. An intent that is removed at any other time is never sent.

## Main definitions

* `SolMesh.Remaining` — the intents that a flush cycle has read and not yet dispatched, at each
  point of its program.
* `SolMesh.Deletes` — an intent is deleted at a time of a run.
* `SolMesh.DeletesInTime` — no intent is deleted while it remains to be dispatched.

## Main results

* `SolMesh.Remaining.step` — what remains after an operation of the cycle.
* `SolMesh.exists_remaining` — at all times of a run, some intents remain or none.
* `SolMesh.not_dispatched_of_deleted` — deleted intents are not dispatched, if none is deleted while
  it remains to be dispatched.
* `SolMesh.not_deleted_not_dispatched` — a deleted intent that is dispatched.
-/

namespace SolMesh

open Py Text Conc

variable {F N α : Type}

/-! ## What remains to be dispatched -/

/-- What is left of a call of `flushIntent` when its intent was dispatched, or cannot be. -/
def FlushOp.Concludes (intentId : String) : FlushOp F → Prop
  | .leave _ => True
  | op => op.Settles intentId

/-- The end of a call of `flushIntent` is marked. -/
def leaveCall (result : Except Exn TxOutcome) : Flush F (Except Exn TxOutcome) := do
  Flush.leave result
  return result

/-- The answer of the mesh is dealt with. -/
def afterSending (intentId : String) :
    Except Exn UInt16 → Flush F (Except Exn TxOutcome)
  | .error e => sendFailed intentId e
  | .ok msgId => awaitResult intentId msgId

section Cycle

variable (passphraseMap : Dict String Text) (walletFilter : Option String)
  (results : List (String × TxOutcome)) (t : Intent F) (ts : List (Intent F)) (passphrase : Text)

/-- The loop goes on behind an intent. -/
def flushRest (result : Except Exn TxOutcome) : Flush F (List (String × TxOutcome)) :=
  flushEach passphraseMap walletFilter (results ++ [resultEntry t.id result]) ts

/-- The loop has come to an intent and knows the passphrase. -/
def flushOnline : Flush F (List (String × TxOutcome)) := do
  if !(← Flush.isGatewayOnline) then return results
  else callFlushIntent t passphrase >>= flushRest passphraseMap walletFilter results t ts

end Cycle

/-- **What a flush cycle has still to dispatch** at a point of its program: the intents that it has
read and not yet come to, and the one that it has come to, up to its dispatch. -/
inductive Remaining : Flush F (List (String × TxOutcome)) → List (Intent F) → Prop
  -- the queue is not read yet
  | unread {passphraseMap walletFilter} : Remaining (flushAllPending passphraseMap walletFilter) []
  -- the loop is between two intents, or at its end
  | between {passphraseMap walletFilter results ts} :
      Remaining (flushEach passphraseMap walletFilter results ts) ts
  -- the loop has come to `t`
  | online {passphraseMap walletFilter results t ts passphrase} :
      Remaining (flushOnline passphraseMap walletFilter results t ts passphrase) (t :: ts)
  | entering {passphraseMap walletFilter results t ts passphrase} :
      Remaining (callFlushIntent t passphrase >>= flushRest passphraseMap walletFilter results t ts)
        (t :: ts)
  | marking {passphraseMap walletFilter results t ts passphrase} :
      Remaining ((flushIntent t passphrase >>= leaveCall) >>=
        flushRest passphraseMap walletFilter results t ts) (t :: ts)
  | sending {passphraseMap walletFilter results t ts passphrase} :
      Remaining (((sendIntent t passphrase >>= afterSending t.id) >>= leaveCall) >>=
        flushRest passphraseMap walletFilter results t ts) (t :: ts)
  -- `t` was dispatched, or cannot be
  | concluding {passphraseMap walletFilter results t ts} {q : Flush F (Except Exn TxOutcome)}
      (h : q.Performs (FlushOp.Concludes t.id)) :
      Remaining (q >>= flushRest passphraseMap walletFilter results t ts) ts

/-- What remains after an operation: what was read, if it reads the queue; all but the intent that
it dispatches, which is the first one; and otherwise as much as before, or less. -/
def FlushOp.Leaves : (op : FlushOp F) → op.Ans → List (Intent F) → List (Intent F) → Prop
  | .pendingIntents, pending, _, ts' => ts' = (show List (Intent F) from pending)
  | .dispatch intentId _, _, ts, ts' => ∃ t, ts = t :: ts' ∧ t.id = intentId
  | .cachedPassphrase _, _, ts, ts' | .isGatewayOnline, _, ts, ts' | .enter _, _, ts, ts'
  | .leave _, _, ts, ts' | .updateStatus .., _, ts, ts' | .incrementAttempts _, _, ts, ts'
  | .get _, _, ts, ts' | .waitForResult _, _, ts, ts' => ts' <:+ ts

/-- The operation neither reads the queue nor dispatches an intent. -/
def FlushOp.IsPassive : FlushOp F → Prop
  | .pendingIntents | .dispatch .. => False
  | _ => True

section Programs

variable {op : FlushOp F} {next : op.Ans → Flush F (List (String × TxOutcome))} {r : op.Ans}
  {passphraseMap : Dict String Text} {walletFilter : Option String}
  {results : List (String × TxOutcome)} {t : Intent F} {ts ts' : List (Intent F)}
  {passphrase : Text}

/-- Such an operation leaves as much as before, or less. -/
lemma FlushOp.IsPassive.leaves (h : op.IsPassive) (hsuffix : ts' <:+ ts) : op.Leaves r ts ts' := by
  cases op with
  | pendingIntents | dispatch => exact h.elim
  | cachedPassphrase | isGatewayOnline | enter | leave | updateStatus | incrementAttempts | get
  | waitForResult => exact hsuffix

/-- The operations after the dispatch are such operations. -/
lemma FlushOp.Concludes.isPassive {intentId : String} (h : op.Concludes intentId) :
    op.IsPassive := by
  cases op with
  | pendingIntents | dispatch => exact h.elim
  | cachedPassphrase | isGatewayOnline | enter | leave | updateStatus | incrementAttempts | get
  | waitForResult => trivial

/-- The next operation, when the loop has come to an intent. -/
lemma next_online
    (h : .call op next = flushOnline passphraseMap walletFilter results t ts passphrase)
    (r : op.Ans) : op.IsPassive ∧ ∃ ts', Remaining (next r) ts' ∧ ts' <:+ t :: ts := by
  cases h
  refine ⟨trivial, ?_⟩
  cases r with
  | false =>
    have hend :
        Remaining (flushEach passphraseMap walletFilter results ([] : List (Intent F))) [] :=
      .between
    exact ⟨[], hend, List.nil_suffix⟩
  | true => exact ⟨t :: ts, .entering, List.suffix_refl _⟩

/-- The next operation, when the loop is between two intents.

**Proof sketch.** Induction on the intents that remain. Those of other wallets are passed over
without an operation; the first one of the wallet has a passphrase, and the gateway is asked for, or
the passphrase is looked for, and then the intent remains or not. -/
lemma next_between (h : .call op next = flushEach passphraseMap walletFilter results ts)
    (r : op.Ans) : op.IsPassive ∧ ∃ ts', Remaining (next r) ts' ∧ ts' <:+ ts := by
  induction ts with
  | nil => cases h
  | cons t ts ih =>
    have hskip : ∀ {us}, us <:+ ts → us <:+ t :: ts := fun hs => hs.trans (List.suffix_cons t ts)
    rw [flushEach] at h
    split_ifs at h
    · obtain ⟨hop, us, hus, hsuffix⟩ := ih h
      exact ⟨hop, us, hus, hskip hsuffix⟩
    unfold passphraseFor at h
    cases hpassphrase : passphraseMap.get? t.walletName with
    | some passphrase =>
      rw [hpassphrase] at h
      exact next_online h r
    | none =>
      rw [hpassphrase] at h
      cases h
      refine ⟨trivial, ?_⟩
      cases r with
      | none => exact ⟨ts, .between, hskip (List.suffix_refl ts)⟩
      | some passphrase => exact ⟨t :: ts, .online, List.suffix_refl _⟩

/-- The next operation, when the intent that the loop has come to was dispatched, or cannot be. -/
lemma next_concluding {q : Flush F (Except Exn TxOutcome)}
    (hq : q.Performs (FlushOp.Concludes t.id))
    (h : .call op next = q >>= flushRest passphraseMap walletFilter results t ts) (r : op.Ans) :
    op.IsPassive ∧ ∃ ts', Remaining (next r) ts' ∧ ts' <:+ ts := by
  cases q with
  | ret result => exact next_between h r
  | call op' next' =>
    cases h
    exact ⟨hq.1.isPassive, ts, .concluding (hq.2 r), List.suffix_refl ts⟩

/-- What is left of a call of `flushIntent` after the dispatch. -/
lemma concludes_afterSending (intentId : String) (answer : Except Exn UInt16) :
    (afterSending intentId answer >>= leaveCall : Flush F (Except Exn TxOutcome)).Performs
      (FlushOp.Concludes intentId) := by
  have hsettles : ∀ op : FlushOp F, op.Settles intentId → op.Concludes intentId := by
    intro op hop
    cases op with
    | leave => trivial
    | _ => exact hop
  refine Prog.Performs.bind ?_ fun result => ⟨trivial, fun _ => trivial⟩
  cases answer with
  | error e => exact (settles_sendFailed intentId e).mono hsettles
  | ok msgId => exact (settles_awaitResult intentId msgId).mono hsettles

/-- **What remains after the next operation of a flush cycle.**

**Proof sketch.** One case for each point of the cycle. Reading the queue makes its pending intents
remain; between two intents some of them may be passed over (`next_between`); entering and marking
keep them; and the dispatch, if there is one, is that of the first, which does not remain. -/
lemma Remaining.step (h : Remaining (.call op next) ts) (r : op.Ans) :
    ∃ ts', Remaining (next r) ts' ∧ op.Leaves r ts ts' := by
  generalize hp : Prog.call op next = p at h
  have hpassive : ∀ {us}, us <:+ ts → (op.IsPassive ∧ ∃ ts', Remaining (next r) ts' ∧ ts' <:+ us) →
      ∃ ts', Remaining (next r) ts' ∧ op.Leaves r ts ts' := by
    rintro us hus ⟨hop, ts', hts', hsuffix⟩
    exact ⟨ts', hts', hop.leaves (hsuffix.trans hus)⟩
  cases h with
  | unread =>
    cases hp
    exact ⟨_, .between, rfl⟩
  | between => exact hpassive (List.suffix_refl ts) (next_between hp r)
  | online => exact hpassive (List.suffix_refl _) (next_online hp r)
  | entering =>
    cases hp
    exact ⟨_, .marking, List.suffix_refl _⟩
  | marking =>
    cases hp
    exact ⟨_, .sending, List.suffix_refl _⟩
  | @sending passphraseMap walletFilter results t ts passphrase =>
    unfold sendIntent at hp
    cases hdispatch : dispatchOf t passphrase with
    | error e =>
      rw [hdispatch] at hp
      exact hpassive (List.suffix_cons t ts)
        (next_concluding (concludes_afterSending t.id (.error e)) hp r)
    | ok request =>
      rw [hdispatch] at hp
      cases hp
      exact ⟨ts, .concluding (concludes_afterSending t.id r), t, rfl, rfl⟩
  | concluding hq => exact hpassive (List.suffix_refl ts) (next_concluding hq hp r)

end Programs

/-! ## Runs -/

section Run

variable [BEq F] [Number F] {M : Medium F N} {net : N} {run : FlushStates F N}
  {label : FlushLabels F} {k m : ℕ} {intentId : String}

/-- **At all times of a run**, some intents remain to be dispatched by the cycle that is under way,
or none.

**Proof sketch.** Induction on the run: a cycle that starts has read nothing, and after each of its
operations some intents remain (`Remaining.step`). -/
lemma exists_remaining (hrun : (flushHost M).IsRun IsFlush (World.empty net) run label) (k : ℕ) :
    ∀ p, (run k).running = some p → ∃ ts, Remaining p ts := by
  refine hrun.induction (J := fun c => ∀ p, c.running = some p → ∃ ts, Remaining p ts)
    (Nat.zero_le k) ?_ ?_
  · rw [hrun.init]
    exact nofun
  · rintro n c₀ l c₁ - - - - hstep ih
    cases hstep with
    | start hp =>
      obtain ⟨passphraseMap, walletFilter, rfl⟩ := hp
      rintro p ⟨⟩
      exact ⟨[], .unread⟩
    | @own op next s s' r hexec =>
      rintro p ⟨⟩
      obtain ⟨ts, hts⟩ := ih _ rfl
      obtain ⟨ts', hts', -⟩ := hts.step r
      exact ⟨ts', hts'⟩
    | finish => exact nofun
    | others hs => exact ih
    | crash hs => exact nofun

/-- Another program deletes the intent at this time. -/
structure Deletes (run : FlushStates F N) (label : FlushLabels F) (k : ℕ) (intentId : String) :
    Prop where
  others : label k = some .others
  before : (run k).state.find intentId ≠ none
  after : (run (k + 1)).state.find intentId = none

/-- The flush cycle that is under way, if there is one, has not read the intent, or it has already
come to it and dispatched it, or passed it over. -/
def NotRemaining (running : Option (Flush F (List (String × TxOutcome)))) (intentId : String) :
    Prop :=
  ∀ p, running = some p → ∃ ts, Remaining p ts ∧ ∀ t ∈ ts, t.id ≠ intentId

/-- **Intents are deleted in time**: none is deleted while it remains to be dispatched by a flush
cycle that is under way. -/
def DeletesInTime (run : FlushStates F N) (label : FlushLabels F) : Prop :=
  ∀ k intentId, Deletes run label k intentId → NotRemaining (run k).running intentId

/-- A deleted intent is not stored any more. -/
lemma find_of_deleted (hrun : (flushHost M).IsRun IsFlush (World.empty net) run label)
    (hdel : Deletes run label k intentId) (hkm : k < m) :
    (run m).state.find intentId = none := by
  obtain ⟨i, hi⟩ := Option.ne_none_iff_exists'.mp hdel.before
  have hcreated := (run_sound hrun k).created_ne_none intentId i hi
  by_contra hsome
  obtain ⟨j, hj⟩ := Option.ne_none_iff_exists'.mp hsome
  obtain ⟨i', hi', _⟩ := run_find hrun hkm (run_created hrun (Nat.le_succ k) hcreated) hj
  exact absurd (hdel.after.symm.trans hi') (by simp)

omit [BEq F] [Number F] in
/-- An intent that neither is stored nor remains does not remain after an operation of the cycle. -/
lemma not_remaining_of_exec {op : FlushOp F} {w w' : World F N} {r : op.Ans}
    {ts ts' : List (Intent F)} (hexec : flushExec M op w r w') (hnone : w.find intentId = none)
    (hleaves : op.Leaves r ts ts') (hnot : ∀ t ∈ ts, t.id ≠ intentId) :
    ∀ t ∈ ts', t.id ≠ intentId := by
  cases op with
  | pendingIntents =>
    obtain ⟨rfl, rfl⟩ := hexec
    rw [show ts' = _ from hleaves]
    intro i hi heq
    exact stored_eq_none_iff.mp hnone (heq ▸ List.mem_map_of_mem (mem_pendingIntents.mp hi).1)
  | dispatch id request =>
    obtain ⟨t, rfl, rfl⟩ := hleaves
    exact (List.forall_mem_cons.mp hnot).2
  | cachedPassphrase | isGatewayOnline | enter | leave | updateStatus | incrementAttempts | get
  | waitForResult => exact fun t ht => hnot t (List.IsSuffix.mem ht hleaves)

/-- **After an intent was deleted in time**, it does not remain to be dispatched.

**Proof sketch.** A cycle that begins has read nothing. One that reads the queue does not find the
intent, which is not stored any more (`find_of_deleted`). No other operation adds to what remains
(`Remaining.step`). -/
lemma not_remaining_of_deleted (hrun : (flushHost M).IsRun IsFlush (World.empty net) run label)
    (hdel : Deletes run label k intentId) (hintime : NotRemaining (run k).running intentId)
    (hkm : k < m) : NotRemaining (run m).running intentId := by
  have hafter : NotRemaining (run (k + 1)).running intentId := by
    have hstep := hrun.step_of_label hdel.others
    generalize run k = c₀ at hstep hintime
    generalize run (k + 1) = c₁ at hstep
    cases hstep with
    | others hs => exact hintime
  refine hrun.induction (J := fun c => NotRemaining c.running intentId) hkm hafter ?_
  rintro n c₀ l c₁ hkn rfl _ _ hstep ih
  have hnone := find_of_deleted hrun hdel hkn
  generalize run n = c₀ at hstep ih hnone
  cases hstep with
  | start hp =>
    obtain ⟨passphraseMap, walletFilter, rfl⟩ := hp
    rintro p ⟨⟩
    exact ⟨[], .unread, nofun⟩
  | @own op next s s' r hexec =>
    rintro p ⟨⟩
    obtain ⟨ts, hts, hnot⟩ := ih _ rfl
    obtain ⟨ts', hts', hleaves⟩ := hts.step r
    exact ⟨ts', hts', not_remaining_of_exec hexec hnone hleaves hnot⟩
  | finish => exact nofun
  | others hs => exact ih
  | crash hs => exact nofun

/-- **A deleted intent is not dispatched**, in every run in which no intent is deleted while it
remains to be dispatched by a flush cycle that is under way.

**Proof sketch.** After the deletion the intent is not among those that remain of any cycle that is
under way: the one that runs does not hold it by the condition, and a later one does not read it
from the queue, to which no intent with its id comes back (`not_remaining_of_deleted`). A dispatch
is that of the first intent that remains (`Remaining.step`). -/
theorem not_dispatched_of_deleted
    (hrun : (flushHost M).IsRun IsFlush (World.empty net) run label)
    (hintime : DeletesInTime run label) (hdel : Deletes run label k intentId) (hkm : k < m)
    (request : Dispatch F) : ¬ Performs label m (.dispatch intentId request) := by
  rintro ⟨r, hl⟩
  have hnot := not_remaining_of_deleted hrun hdel (hintime k intentId hdel) hkm
  obtain ⟨⟨next, hnext⟩, _⟩ := hrun.exec_of_own hl
  obtain ⟨ts, hts, hnot⟩ := hnot _ hnext
  obtain ⟨ts', _, t, rfl, rfl⟩ := hts.step r
  exact hnot t List.mem_cons_self rfl

end Run

/-! ## Sample runs -/

/-- The world after the sample intent was removed. -/
def sampleRemoved : World ℤ Unit :=
  { sampleWorld () with queue := (IntentStore.remove "a").after (sampleWorld ()).queue }

/-- Answers to a flush cycle on a mesh that takes every message and reports no result. -/
def silentAnswer : (op : FlushOp ℤ) → World ℤ Unit → op.Ans × World ℤ Unit :=
  flushAnswer (fun _ _ net => (.ok 7, net)) fun _ net => (none, net)

/-- These are answers that the operations can give. -/
lemma flushExec_silentAnswer (op : FlushOp ℤ) (w : World ℤ Unit) :
    flushExec (constMedium (.ok 7) none) op w (silentAnswer op w).1 (silentAnswer op w).2 :=
  flushExec_flushAnswer (fun _ _ _ => rfl) (fun _ _ => rfl) op w

/-- A flush cycle that has read the sample intent. -/
lemma steps_sampleRead : (flushHost (constMedium (.ok 7) none)).Steps IsFlush
    ⟨none, World.empty ()⟩ [.others, .start, .own .pendingIntents [sampleIntent]]
    ⟨some (flushEach ∅ none [] [sampleIntent]), sampleWorld ()⟩ := by
  have hpending : [sampleIntent] = (IntentStore.pendingIntents (sampleWorld ()).queue).1 :=
    (List.mergeSort_singleton sampleIntent).symm
  exact (steps_sampleWorld _ ()).append (.cons (.start ⟨∅, none, rfl⟩)
    (.cons (.own ⟨hpending, rfl⟩) (.nil _)))

/-- A flush cycle that has dispatched the sample intent, and waits for the result. -/
def sampleWaiting : Flush ℤ (List (String × TxOutcome)) × World ℤ Unit :=
  (flushEach ∅ none [] [sampleIntent]).after silentAnswer 5 (sampleWorld ())

/-- The world after the sample intent was removed while the cycle waits. -/
def sampleWaitingRemoved : World ℤ Unit :=
  { sampleWaiting.2 with queue := (IntentStore.remove "a").after sampleWaiting.2.queue }

/-- Nothing remains to be dispatched then. -/
lemma remaining_sampleWaiting : Remaining sampleWaiting.1 [] :=
  .concluding (concludes_afterSending sampleIntent.id (.ok 7))

/-- The sample intent is removed while a flush cycle is under way that has dispatched it: it is not
dispatched again. -/
theorem not_dispatched_of_deleted_waiting :
    ∃ run label, (flushHost (constMedium (.ok 7) none)).IsRun IsFlush (World.empty ()) run label ∧
      (∃ request, Performs label 7 (.dispatch "a" request)) ∧ (run 8).running ≠ none ∧
      Deletes run label 8 "a" ∧ ∀ m > 8, ∀ request, ¬ Performs label m (.dispatch "a" request) := by
  have hbegin := steps_sampleRead.append
    (Host.Steps.after silentAnswer flushExec_silentAnswer 5 _ _)
  have hremove : (flushHost (constMedium (.ok 7) none)).Step IsFlush
      ⟨some sampleWaiting.1, sampleWaiting.2⟩ .others
      ⟨some sampleWaiting.1, sampleWaitingRemoved⟩ := .others (.remove "a")
  -- the rest of the cycle, left alone
  have hrest : (flushHost (constMedium (.ok 7) none)).Steps IsFlush
      ⟨some sampleWaiting.1, sampleWaitingRemoved⟩ _ _ :=
    Host.Steps.eval silentAnswer flushExec_silentAnswer _ _
  obtain ⟨run, label, hrun, hbefore, hafter, hlabel⟩ :=
    Host.exists_run_through hbegin hremove hrest
  have height : run 8 = ⟨some sampleWaiting.1, sampleWaiting.2⟩ := hbefore
  have hnine : run 9 = ⟨some sampleWaiting.1, sampleWaitingRemoved⟩ := hafter
  have hdel : Deletes run label 8 "a" := by
    refine ⟨hlabel 8, ?_, ?_⟩
    · rw [height]
      decide +kernel
    · rw [hnine]
      decide +kernel
  have hintime : DeletesInTime run label := by
    intro k intentId hk
    have hothers := (hlabel k).symm.trans hk.others
    -- others move only before the cycle and while it waits
    rcases Nat.lt_or_ge k 9 with hearly | hlate
    · interval_cases k
      · rw [hrun.init]
        exact nofun
      iterate 7 cases hothers
      rw [height]
      rintro p ⟨⟩
      exact ⟨[], remaining_sampleWaiting, nofun⟩
    · obtain ⟨j, rfl⟩ := Nat.exists_eq_add_of_le' hlate
      have hmem : Host.Label.others ∈ (sampleWaiting.1.trace silentAnswer sampleWaitingRemoved).map
          (fun e => Host.Label.own e.1 e.2) ++ [.finish] := List.mem_of_getElem? (i := j) hothers
      simp at hmem
  refine ⟨run, label, hrun, ⟨_, .ok 7, hlabel 7⟩, ?_, hdel, fun m hm =>
    not_dispatched_of_deleted hrun hintime hdel hm⟩
  rw [height]
  exact nofun

/-- **A deleted intent can be dispatched**: the sample intent is removed after a flush cycle has
read it. -/
theorem not_deleted_not_dispatched :
    ∃ run label, (flushHost (constMedium (.ok 7) none)).IsRun IsFlush (World.empty ()) run label ∧
      Deletes run label 3 "a" ∧ ∃ request, Performs label 8 (.dispatch "a" request) := by
  have hremove : (flushHost (constMedium (.ok 7) none)).Step IsFlush
      ⟨some (flushEach ∅ none [] [sampleIntent]), sampleWorld ()⟩ .others
      ⟨some (flushEach ∅ none [] [sampleIntent]), sampleRemoved⟩ := .others (.remove "a")
  -- the rest of the cycle, left alone
  have hrest : (flushHost (constMedium (.ok 7) none)).Steps IsFlush
      ⟨some (flushEach ∅ none [] [sampleIntent]), sampleRemoved⟩ _ _ :=
    Host.Steps.eval silentAnswer flushExec_silentAnswer _ _
  obtain ⟨run, label, hrun, hbefore, hafter, hlabel⟩ :=
    Host.exists_run_through steps_sampleRead hremove hrest
  have hthree : run 3 = ⟨some (flushEach ∅ none [] [sampleIntent]), sampleWorld ()⟩ := hbefore
  have hfour : run 4 = ⟨some (flushEach ∅ none [] [sampleIntent]), sampleRemoved⟩ := hafter
  refine ⟨run, label, hrun, ⟨hlabel 3, ?_, ?_⟩,
    .requestTransfer "alice" "11111111111111111111111111111111" 5 [], .ok 7, hlabel 8⟩
  · rw [hthree]
    change (sampleWorld ()).find "a" ≠ none
    decide +kernel
  · rw [hfour]
    change sampleRemoved.find "a" = none
    decide +kernel

end SolMesh
