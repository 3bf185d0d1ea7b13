import SolMesh.Client.LifeCycle
import SolMesh.Store.Duplicates

set_option relaxedAutoImplicit false
set_option autoImplicit false

/-!
# Equal payments that are pending

A payment that is being sent can be queued again, since only pending intents are compared. If it
is not sent after all, or the store is opened in the meantime, both intents are pending. Apart from
this, no two pending intents ask for the same payment, whatever is added, flushed, removed, cleared
and recovered in whatever order.

## Main definitions

* `SolMesh.queueHost` — what calls of `flush_intent` run on.
* `SolMesh.AddsNoneSent` — what is added does not ask for a payment that is being sent.
* `SolMesh.World.Distinct` — the invariant.

## Main results

* `SolMesh.keeps_distinct` — calls of `flush_intent` keep the invariant.
* `SolMesh.noEqualPending_run` — no two pending intents ask for the same payment.
* `SolMesh.not_noEqualPending` — two that do.
* `SolMesh.isRun_queueHost` — flush cycles call `flush_intent` for pending intents.
-/

namespace SolMesh

open Py Text Conc

variable {F N α : Type} [BEq F] [Number F] {M : Medium F N}

/-! ## Runs -/

/-- What calls of `flush_intent` run on: they are made for intents that are pending, if they are
still stored. What others do is restricted by a condition. -/
def queueHost (M : Medium F N) (ok : World F N → World F N → Prop) :
    Host (FlushOp F) FlushOp.Ans (World F N) where
  exec op w r w' := flushExec M op w r w' ∧
    ∀ t, op = .enter t → ∀ i, w.find t.id = some i → i.status = .pending
  others w w' := Others M w w' ∧ ok w w'
  crash := Crash M

/-- The programs that are run: flush cycles, and single calls of `flush_intent`. -/
def FlushesIntents (p : Flush F (List (String × TxOutcome))) : Prop :=
  IsFlush p ∨ ∃ intent passphrase, p = (callFlushIntent intent passphrase >>= fun result =>
    return [resultEntry intent.id result])

/-- What is newly stored does not ask for a payment that is being sent. -/
def AddsNoneSent (w w' : World F N) : Prop :=
  ∀ j, w.created j.id = none → w'.find j.id = some j →
    ∀ i ∈ w.queue, i.status = .sending → ¬ SamePayment i j

/-! ## The invariant -/

/-- **The invariant**: no two intents that are not settled ask for the same payment. -/
structure World.Distinct (w : World F N) : Prop where
  ids : (w.queue.map Intent.id).Nodup
  created : ∀ intentId i, w.find intentId = some i → w.created intentId ≠ none
  noClash : NoClash w.queue

/-- Besides, what is stored under an id, if anything, has one of the statuses `ok`. -/
structure Stands (intentId : String) (ok : IntentStatus → Prop) (w : World F N) : Prop where
  distinct : w.Distinct
  status : ∀ i, w.find intentId = some i → ok i.status

/-- The guarantee: the invariant is kept. -/
abbrev Keeping (F N : Type) [BEq F] (op : FlushOp F) (_ : World F N) (_ : op.Ans)
    (w' : World F N) : Prop :=
  w'.Distinct

section Others

variable {w w' : World F N} {intentId : String} {ok ok' : IntentStatus → Prop}

omit [Number F] in
/-- Less is known. -/
lemma Stands.mono (h : Stands intentId ok w) (hok : ∀ s, ok s → ok' s) : Stands intentId ok' w :=
  ⟨h.distinct, fun i hi => hok _ (h.status i hi)⟩

/-- Others keep the invariant.

**Proof sketch.** The ids stay distinct, as a new intent has a new one. The queue has no clash
afterwards: an added intent clashes with none of those being sent by assumption, or is a duplicate
and not stored; the others only remove intents, or make those being sent pending again. -/
lemma World.Distinct.of_others (h : w.Distinct) (hothers : Others M w w')
    (hadds : AddsNoneSent w w') : w'.Distinct := by
  refine ⟨hothers.nodup h.ids h.created, fun intentId j hj => ?_, ?_⟩
  · rcases hothers.stored_cases h.ids h.created hj with ⟨i, _, hi, _⟩ | ⟨_, hnew, _⟩
    · obtain ⟨c, hc⟩ := Option.ne_none_iff_exists'.mp (h.created _ _ hi)
      rw [hothers.created hc]
      exact Option.some_ne_none c
    · rw [hnew]
      exact Option.some_ne_none j
  · cases hothers with
    | @add intent hnew hid =>
      have hnone : stored w.queue intent.id = none := by
        by_contra hsome
        obtain ⟨i, hi⟩ := Option.ne_none_iff_exists'.mp hsome
        exact h.created _ i hi hid
      by_cases hsending : ∀ i ∈ w.queue, i.status = .sending → ¬ SamePayment i intent
      · exact h.noClash.add hsending
      · -- then the condition says that the intent is not stored, so it was a duplicate
        rcases stored_add hnone intent.id with heq | ⟨_, hstored⟩
        · unfold StoreOp.after IntentStore.add at heq ⊢
          split_ifs at heq ⊢
          · exact h.noClash
          · change stored (w.queue ++ [intent]) intent.id = _ at heq
            rw [hnone, stored_eq_none_iff] at heq
            simp at heq
        · exact absurd (hadds intent hid hstored) hsending
    | remove removed => exact h.noClash.remove
    | clear status => exact h.noClash.clear status
    | init now => exact h.noClash.recoverSending now
    | background => exact h.noClash

/-- Others keep the invariant, and what is known about the status of an intent, if being sent and
being pending are not told apart. -/
lemma Stands.stable (M : Medium F N) (intentId : String) (hok : ok .pending) :
    (queueHost M AddsNoneSent).Stable (Stands intentId ok) := by
  rintro w w' ⟨hothers, hadds⟩ h
  refine ⟨h.distinct.of_others hothers hadds, fun j hj => ?_⟩
  rcases hothers.stored_cases h.distinct.ids h.distinct.created hj with
    ⟨i, now, hi, rfl | rfl⟩ | ⟨_, _, hnew⟩
  · exact h.status _ hi
  · rcases status_recovered now i with ⟨_, hpending⟩ | hsame
    · rw [hpending]
      exact hok
    · rw [hsame]
      exact h.status i hi
  · rw [hnew.status]
    exact hok

/-- Others keep the invariant. -/
lemma stable_distinct (M : Medium F N) :
    (queueHost M AddsNoneSent).Stable (World.Distinct (F := F)) :=
  fun _ _ ⟨hothers, hadds⟩ h => h.of_others hothers hadds

end Others

/-! ## Operations -/

section Rules

variable {w w' : World F N} {intentId : String} {ok ok' : IntentStatus → Prop}
  {Q : α → World F N → Prop}

omit [Number F] in
/-- A change of the intent that does not reopen it. -/
lemma Stands.modify (h : Stands intentId ok w) {f : Intent F → Intent F}
    (hid : ∀ i, (f i).id = i.id) (hpayment : ∀ i, (f i).payment = i.payment)
    (hopen : ∀ i, ok i.status → (f i).status.IsOpen → i.status.IsOpen)
    (hok : ∀ i, ok i.status → ok' (f i).status) :
    Stands intentId ok' { w with queue := (modifyStored intentId f).after w.queue } := by
  refine ⟨⟨?_, fun intentId' j hj => ?_, ?_⟩, fun j hj => ?_⟩
  · rw [map_modifyStored hid]
    exact h.distinct.ids
  · change stored _ intentId' = some j at hj
    rw [stored_modifyStored hid] at hj
    split_ifs at hj
    · obtain ⟨i, hi, _⟩ := Option.map_eq_some_iff.mp hj
      exact h.distinct.created intentId' i hi
    · exact h.distinct.created intentId' j hj
  · exact h.distinct.noClash.modifyStored hpayment fun i hi => hopen i (h.status i hi)
  · change stored _ intentId = some j at hj
    rw [stored_modifyStored hid, if_pos rfl] at hj
    obtain ⟨i, hi, rfl⟩ := Option.map_eq_some_iff.mp hj
    exact hok i (h.status i hi)

/-- The operation writes to the queue. -/
def FlushOp.Writes : FlushOp F → Prop
  | .updateStatus .. | .incrementAttempts _ => True
  | _ => False

omit [Number F] in
/-- Other operations keep what is known. -/
lemma Stands.of_exec {op : FlushOp F} {r : op.Ans} (h : Stands intentId ok w)
    (hreads : ¬ op.Writes) (hexec : flushExec M op w r w') : Stands intentId ok w' := by
  cases op with
  | updateStatus | incrementAttempts => exact absurd trivial hreads
  | pendingIntents | get =>
    obtain ⟨_, rfl⟩ := hexec
    exact h
  | cachedPassphrase | isGatewayOnline =>
    obtain rfl := hexec
    exact h
  | enter | leave =>
    obtain rfl := hexec
    exact ⟨⟨h.distinct.ids, h.distinct.created, h.distinct.noClash⟩, h.status⟩
  | dispatch =>
    obtain ⟨_, _, _, _, rfl⟩ := hexec
    exact ⟨⟨h.distinct.ids, h.distinct.created, h.distinct.noClash⟩, h.status⟩
  | waitForResult =>
    obtain ⟨_, _, rfl⟩ := hexec
    exact ⟨⟨h.distinct.ids, h.distinct.created, h.distinct.noClash⟩, h.status⟩

/-- An operation that does not write to the queue. -/
lemma keeping_call {op : FlushOp F} {f : op.Ans → Flush F α} (h : Stands intentId ok w)
    (hok : ok .pending) (hreads : ¬ op.Writes)
    (hnext : ∀ r w', Stands intentId ok w' →
      (queueHost M AddsNoneSent).Ensures (Keeping F N) Q (f r) w') :
    (queueHost M AddsNoneSent).Ensures (Keeping F N) Q (Prog.perform op >>= f) w := by
  apply Host.Ensures.perform_bind (Stands.stable M intentId hok) h
  rintro w r w' h ⟨hexec, _⟩
  have h' := h.of_exec hreads hexec
  exact ⟨h'.distinct, hnext r w' h'⟩

/-- Setting the status of an intent that is not settled, or settling it. -/
lemma keeping_updateStatus {status : IntentStatus} {error txHash : Option Text}
    {f : Bool → Flush F α} (h : Stands intentId ok w) (hok : ok .pending)
    (hopen : status.IsOpen → ∀ s, ok s → s.IsOpen)
    (hnext : ∀ r w', Stands intentId (· = status) w' →
      (queueHost M AddsNoneSent).Ensures (Keeping F N) Q (f r) w') :
    (queueHost M AddsNoneSent).Ensures (Keeping F N) Q
      (Flush.updateStatus intentId status error txHash >>= f) w := by
  apply Host.Ensures.perform_bind (Stands.stable M intentId hok) h
  rintro w r w' h ⟨⟨now, _, rfl⟩, _⟩
  have h' : Stands intentId (· = status) _ :=
    h.modify (f := Intent.withStatus now status error txHash) (fun _ => rfl) (fun _ => rfl)
      (fun i hi ho => hopen ho _ hi) fun _ _ => rfl
  exact ⟨h'.distinct, hnext r _ h'⟩

/-- Counting an attempt of an intent that is not settled. -/
lemma keeping_incrementAttempts {f : Bool → Flush F α}
    (h : Stands intentId IntentStatus.IsOpen w)
    (hnext : ∀ r w', Stands intentId (· ≠ .sent) w' →
      (queueHost M AddsNoneSent).Ensures (Keeping F N) Q (f r) w') :
    (queueHost M AddsNoneSent).Ensures (Keeping F N) Q
      (Flush.incrementAttempts intentId >>= f) w := by
  apply Host.Ensures.perform_bind (Stands.stable M intentId (Or.inl rfl)) h
  rintro w r w' h ⟨⟨now, _, rfl⟩, _⟩
  have hsent : ∀ i : Intent F, i.status.IsOpen → (i.attempted now).status ≠ .sent := by
    intro i hi hsent
    unfold Intent.attempted at hsent
    dsimp only at hsent
    split_ifs at hsent
    rcases hi with hi | hi <;> · rw [hi] at hsent; cases hsent
  have h' : Stands intentId (· ≠ .sent) _ :=
    h.modify (f := Intent.attempted now) (fun _ => rfl) (fun _ => rfl) (fun i hi _ => hi) hsent
  exact ⟨h'.distinct, hnext r _ h'⟩

/-- Reading an intent that was not sent: unless it has failed for good, it is not settled, or
gone.

**Proof sketch.** The intent that is read is the stored one. If it has not failed, it is pending or
being sent, since it was not sent. -/
lemma keeping_get {f : Option (Intent F) → Flush F α} (h : Stands intentId (· ≠ .sent) w)
    (hnone : ∀ w', Stands intentId IntentStatus.IsOpen w' →
      (queueHost M AddsNoneSent).Ensures (Keeping F N) Q (f none) w')
    (hsome : ∀ i w', Stands intentId (fun s => i.status ≠ .failed → s.IsOpen) w' →
      (queueHost M AddsNoneSent).Ensures (Keeping F N) Q (f (some i)) w') :
    (queueHost M AddsNoneSent).Ensures (Keeping F N) Q (Flush.get intentId >>= f) w := by
  apply Host.Ensures.perform_bind (Stands.stable M intentId (by decide)) h
  rintro _ r w h ⟨⟨hr, rfl⟩, _⟩
  change r = w.find intentId at hr
  subst hr
  refine ⟨h.distinct, ?_⟩
  cases hfind : w.find intentId with
  | none => exact hnone w ⟨h.distinct, fun i hi => absurd (hfind.symm.trans hi) (by simp)⟩
  | some i =>
    refine hsome i w ⟨h.distinct, fun j hj hne => ?_⟩
    obtain rfl := Option.some.inj (hfind.symm.trans hj)
    have hsent := h.status i hfind
    unfold IntentStatus.IsOpen
    cases hstatus : i.status with
    | pending => exact Or.inl rfl
    | sending => exact Or.inr rfl
    | sent => exact absurd hstatus hsent
    | failed => exact absurd hstatus hne

end Rules

/-! ## Programs -/

section Programs

variable {w : World F N} {intentId : String}

/-- After a dispatch that raised.

**Proof sketch.** Along the code: the intent is made pending again; or its attempt is counted, and
then what is read of it decides what is written. -/
lemma keeping_sendFailed {e : Exn} (h : Stands intentId IntentStatus.IsOpen w) :
    (queueHost M AddsNoneSent).Ensures (Keeping F N) (fun _ => World.Distinct)
      (sendFailed intentId e) w := by
  unfold sendFailed
  split_ifs
  · apply keeping_updateStatus h (Or.inl rfl) fun _ _ => id
    intro r w' h
    exact Host.Ensures.ret (stable_distinct M) h.distinct
  · apply keeping_incrementAttempts h
    intro r w' h
    apply keeping_get h
    · intro w' h
      apply keeping_updateStatus h (Or.inl rfl) fun _ _ => id
      intro r w' h
      exact Host.Ensures.ret (stable_distinct M) h.distinct
    · intro i w' h
      apply keeping_updateStatus h fun _ => Or.inl rfl
      · intro (hopen : i.status.IsOpen) s hs
        apply hs
        rcases hopen with hopen | hopen <;> · rw [hopen]; decide
      · intro r w' h
        exact Host.Ensures.ret (stable_distinct M) h.distinct

/-- Making an intent pending again. -/
lemma keeping_requeue {error : Text} (h : Stands intentId (· ≠ .sent) w) :
    (queueHost M AddsNoneSent).Ensures (Keeping F N) (fun _ => World.Distinct)
      (requeue intentId error) w := by
  unfold requeue
  apply keeping_get h
  · intro w' h
    exact Host.Ensures.ret (stable_distinct M) h.distinct
  · intro i w' h
    dsimp only
    split_ifs with hne
    · apply keeping_updateStatus h (fun _ => Or.inl rfl) fun _ s hs => hs hne
      intro r w' h
      exact Host.Ensures.ret (stable_distinct M) h.distinct
    · exact Host.Ensures.ret (stable_distinct M) h.distinct

/-- After the intent was sent. -/
lemma keeping_awaitResult {msgId : UInt16} (h : Stands intentId IntentStatus.IsOpen w) :
    (queueHost M AddsNoneSent).Ensures (Keeping F N) (fun _ => World.Distinct)
      (awaitResult intentId msgId) w := by
  unfold awaitResult
  apply keeping_incrementAttempts h
  intro r w' h
  apply keeping_call h (by decide) id
  intro outcome w' h
  rcases outcome with _ | (signature | error)
  · exact (keeping_requeue h).bind fun _ _ h => Host.Ensures.ret (stable_distinct M) h
  · apply keeping_updateStatus h (by decide)
    · rintro (hsent | hsent) <;> cases hsent
    · intro r w' h
      exact Host.Ensures.ret (stable_distinct M) h.distinct
  · exact (keeping_requeue h).bind fun _ _ h => Host.Ensures.ret (stable_distinct M) h

/-- Sending an intent that is not settled. -/
lemma keeping_flushIntent {t : Intent F} {passphrase : Text}
    (h : Stands t.id IntentStatus.IsOpen w) :
    (queueHost M AddsNoneSent).Ensures (Keeping F N) (fun _ => World.Distinct)
      (flushIntent t passphrase) w := by
  unfold flushIntent
  apply keeping_updateStatus h (Or.inl rfl) fun _ _ => id
  intro r w' h
  have hopen : Stands t.id IntentStatus.IsOpen w' := h.mono fun s hs => hs ▸ Or.inr rfl
  unfold sendIntent
  cases dispatchOf t passphrase with
  | error e => exact keeping_sendFailed hopen
  | ok request =>
    apply keeping_call hopen (Or.inl rfl) id
    intro answer w' h
    cases answer with
    | error e => exact keeping_sendFailed h
    | ok msgId => exact keeping_awaitResult h

/-- **A call of `flush_intent`** keeps the invariant. -/
lemma keeping_callFlushIntent {t : Intent F} {passphrase : Text} (h : w.Distinct) :
    (queueHost M AddsNoneSent).Ensures (Keeping F N) (fun _ => World.Distinct)
      (callFlushIntent t passphrase) w := by
  unfold callFlushIntent
  apply Host.Ensures.perform_bind (stable_distinct M) h
  rintro w r _ h ⟨rfl, hpending⟩
  have hopen : Stands t.id IntentStatus.IsOpen { w with call := some ⟨t, none⟩ } :=
    ⟨⟨h.ids, h.created, h.noClash⟩, fun i hi => Or.inl (hpending t rfl i hi)⟩
  refine ⟨hopen.distinct, (keeping_flushIntent hopen).bind fun result w h => ?_⟩
  apply Host.Ensures.perform_bind (stable_distinct M) h
  rintro w r _ h ⟨rfl, _⟩
  have hend : World.Distinct { w with call := none } := ⟨h.ids, h.created, h.noClash⟩
  exact ⟨hend, Host.Ensures.ret (stable_distinct M) hend⟩

/-- The loop over the pending intents.

**Proof sketch.** Induction on the pending intents. Reading a passphrase and asking for the gateway
leave the queue as it is, and so does every intent that is skipped; the call is that of
`keeping_callFlushIntent`. -/
lemma keeping_flushEach (passphraseMap : Dict String Text) (walletFilter : Option String)
    {ts : List (Intent F)} (results : List (String × TxOutcome)) (h : w.Distinct) :
    (queueHost M AddsNoneSent).Ensures (Keeping F N) (fun _ => World.Distinct)
      (flushEach passphraseMap walletFilter results ts) w := by
  induction ts generalizing results w with
  | nil => exact Host.Ensures.ret (stable_distinct M) h
  | cons t ts ih =>
    rw [flushEach]
    split_ifs
    · exact ih results h
    apply Host.Ensures.bind (Q := fun _ => World.Distinct)
    · unfold passphraseFor
      split
      · exact Host.Ensures.ret (stable_distinct M) h
      · apply Host.Ensures.call (stable_distinct M) h
        rintro _ r w h ⟨rfl, _⟩
        exact ⟨h, Host.Ensures.ret (stable_distinct M) h⟩
    · intro passphrase w h
      cases passphrase with
      | none => exact ih results h
      | some passphrase =>
        apply Host.Ensures.perform_bind (stable_distinct M) h
        rintro _ online w h ⟨rfl, _⟩
        refine ⟨h, ?_⟩
        split_ifs
        · exact Host.Ensures.ret (stable_distinct M) h
        · exact keeping_callFlushIntent h |>.bind fun result w h => ih _ h

/-- **Flush cycles and calls of `flush_intent`** keep the invariant.

**Proof sketch.** The rules above give what the programs ensure; a crash leaves the queue as it is.
-/
theorem keeps_distinct (M : Medium F N) :
    (queueHost M AddsNoneSent).Keeps FlushesIntents (Keeping F N) World.Distinct
      World.Distinct where
  weaken _ h := h
  stable := stable_distinct M
  stable_weak := stable_distinct M
  guarantee _ _ _ _ h _ := h
  crash := by
    rintro w _ ⟨_⟩ h
    exact ⟨h.ids, h.created, h.noClash⟩
  start := by
    rintro _ w (⟨passphraseMap, walletFilter, rfl⟩ | ⟨t, passphrase, rfl⟩) h
    · unfold flushAllPending
      apply Host.Ensures.perform_bind (stable_distinct M) h
      rintro _ r w h ⟨⟨rfl, rfl⟩, _⟩
      exact ⟨h, keeping_flushEach _ _ _ h⟩
    · exact (keeping_callFlushIntent h).bind fun _ _ h =>
        Host.Ensures.ret (stable_distinct M) h

end Programs

/-! ## Every run -/

section Run

variable {net : N} {run : FlushStates F N} {label : FlushLabels F}

/-- **No two pending intents ask for the same payment**, in every state of every run in which
nothing is added that asks for a payment that is being sent.

**Proof sketch.** The ids in the queue differ, and no two intents that are pending or being sent ask
for the same payment unless both are being sent. Every step keeps this (`keeps_distinct`). -/
theorem noEqualPending_run
    (hrun : (queueHost M AddsNoneSent).IsRun FlushesIntents (World.empty net) run label) (k : ℕ) :
    NoEqualPending (run k).state.queue := by
  have hstart : World.Distinct (World.empty net : World F N) :=
    ⟨List.nodup_nil, fun _ _ => nofun, List.Pairwise.nil⟩
  exact ((keeps_distinct M).sound hrun hstart k).1.noClash.noEqualPending

/-- **Flush cycles call `flush_intent` for pending intents**: a run of flush cycles is a run of
such calls.

**Proof sketch.** A step of the flush cycles is a step of the other host as well. What remains to be
shown is that the intent a call is made for is pending if it is stored, which every run of the
cycles keeps (`run_fair`). -/
lemma isRun_queueHost (hrun : (flushHost M).IsRun IsFlush (World.empty net) run label) :
    (queueHost M fun _ _ => True).IsRun FlushesIntents (World.empty net) run label := by
  refine ⟨hrun.init, fun k => ?_⟩
  have hstep := hrun.step k
  cases hl : label k with
  | none =>
    rw [hl] at hstep
    exact hstep
  | some l =>
    rw [hl] at hstep
    dsimp only at hstep ⊢
    generalize hc₀ : run k = c₀ at hstep
    generalize hc₁ : run (k + 1) = c₁ at hstep
    cases hstep with
    | start hp => exact .start (Or.inl hp)
    | own hexec =>
      have hfair := run_fair hrun hl
      rw [hc₀, hc₁] at hfair
      exact .own ⟨hexec, fun t ht i hi => ((hfair.enter t ht).2 i hi).1⟩
    | finish => exact .finish
    | others hs => exact .others ⟨hs, trivial⟩
    | crash hs => exact .crash hs

end Run

/-! ## Sample runs -/

/-- The same payment as the sample intent asks for, queued again. -/
def sampleAgain : Intent ℤ := { sampleIntent with id := "b" }

/-- The world after it was queued again. -/
def sampleQueuedAgain (w : World ℤ Unit) : World ℤ Unit :=
  { w with
    queue := (IntentStore.add sampleAgain).after w.queue
    created := Function.update w.created "b" (some sampleAgain) }

/-- Queueing the sample intent, and queueing it again. -/
lemma others_sample (M : Medium ℤ Unit) :
    Others M (World.empty ()) (sampleWorld ()) ∧
      ∀ w, w.created "b" = none → Others M w (sampleQueuedAgain w) := by
  have hnew : sampleIntent.IsNew := ⟨rfl, rfl, by decide⟩
  have hagain : sampleAgain.IsNew := ⟨rfl, rfl, by decide⟩
  exact ⟨.add hnew rfl, fun w hid => .add hagain hid⟩

/-- The sample intent was queued, and is queued again while it is pending: it is refused. -/
theorem noEqualPending_run_refused :
    ∃ run label, (queueHost (constMedium (.ok 7) none) AddsNoneSent).IsRun FlushesIntents
        (World.empty ()) run label ∧
      (run 2).state.created "b" ≠ none ∧ NoEqualPending (run 2).state.queue := by
  have hothers := others_sample (constMedium (.ok 7) none)
  have hpending : ∀ i ∈ (sampleWorld ()).queue, i.status ≠ .sending := by decide +kernel
  have hfirst : AddsNoneSent (World.empty ()) (sampleWorld ()) :=
    fun _ _ _ i hi => absurd hi List.not_mem_nil
  have hagain : AddsNoneSent (sampleWorld ()) (sampleQueuedAgain (sampleWorld ())) :=
    fun _ _ _ i hi hsending => absurd hsending (hpending i hi)
  have hsteps : (queueHost (constMedium (.ok 7) none) AddsNoneSent).Steps FlushesIntents
      ⟨none, World.empty ()⟩ [.others, .others] ⟨none, sampleQueuedAgain (sampleWorld ())⟩ :=
    .cons (.others ⟨hothers.1, hfirst⟩)
      (.cons (.others ⟨hothers.2 _ (by decide +kernel), hagain⟩) (.nil _))
  obtain ⟨run, label, hrun, hend, _⟩ := Host.exists_run hsteps
  refine ⟨run, label, hrun, ?_, noEqualPending_run hrun 2⟩
  have htwo : run 2 = ⟨none, sampleQueuedAgain (sampleWorld ())⟩ := hend
  rw [htwo]
  decide +kernel

/-- The sample intent is being sent. -/
def sampleSending : World ℤ Unit :=
  { sampleWorld () with
    queue := (IntentStore.updateStatus 0 "a" .sending none none).after (sampleWorld ()).queue
    call := some ⟨sampleIntent, none⟩ }

/-- The world after the store was opened. -/
def sampleRecovered (w : World ℤ Unit) : World ℤ Unit :=
  { w with queue := (IntentStore.recoverSending fun _ => 0).after w.queue }

/-- **Two pending intents can ask for the same payment**: the sample intent is queued again while
it is being sent, and then the store is opened. -/
theorem not_noEqualPending :
    ∃ run label, (queueHost (constMedium (.ok 7) none) fun _ _ => True).IsRun FlushesIntents
        (World.empty ()) run label ∧
      ¬ NoEqualPending (run 6).state.queue := by
  have hothers := others_sample (constMedium (.ok 7) none)
  obtain ⟨next₁, next₂, h₁, h₂⟩ : ∃ next₁ next₂,
      (callFlushIntent sampleIntent [] >>= fun result => return [resultEntry "a" result]) =
        Prog.call (.enter sampleIntent) next₁ ∧
      next₁ () = Prog.call (.updateStatus "a" .sending none none) next₂ := ⟨_, _, rfl, rfl⟩
  have henter : ∀ i, (sampleWorld ()).find "a" = some i → i.status = .pending := by
    intro i hi
    obtain rfl : sampleIntent = i := Option.some.inj hi
    rfl
  have hsteps : (queueHost (constMedium (.ok 7) none) fun _ _ => True).Steps FlushesIntents
      ⟨none, World.empty ()⟩ [.others, .start, .own (.enter sampleIntent) (),
        .own (.updateStatus "a" .sending none none) true, .others, .others]
      ⟨some (next₂ true), sampleRecovered (sampleQueuedAgain sampleSending)⟩ := by
    have hstart : FlushesIntents (Prog.call (.enter sampleIntent) next₁) :=
      Or.inr ⟨sampleIntent, [], h₁.symm⟩
    refine .cons (.others ⟨hothers.1, trivial⟩) (.cons (.start hstart) ?_)
    refine .cons (.own ⟨rfl, fun t ht => FlushOp.enter.inj ht ▸ henter⟩) ?_
    rw [h₂]
    refine .cons (.own ⟨⟨0, rfl, rfl⟩, nofun⟩) ?_
    refine .cons (.others ⟨hothers.2 sampleSending (by decide +kernel), trivial⟩) ?_
    exact .cons (.others ⟨.init fun _ => 0, trivial⟩) (.nil _)
  obtain ⟨run, label, hrun, hend, _⟩ := Host.exists_run hsteps
  refine ⟨run, label, hrun, ?_⟩
  have hsix : run 6 = ⟨some (next₂ true), sampleRecovered (sampleQueuedAgain sampleSending)⟩ :=
    hend
  rw [hsix]
  change ¬ NoEqualPending (sampleRecovered (sampleQueuedAgain sampleSending)).queue
  decide +kernel

end SolMesh
