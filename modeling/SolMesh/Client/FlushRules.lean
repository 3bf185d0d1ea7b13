import SolMesh.Client.FlushInvariant

set_option relaxedAutoImplicit false
set_option autoImplicit false

/-!
# Rules for flush cycles

One rule for each operation of a call says what is known after it, if something is known before
it and others move in between. The programs follow the rules, operation by operation.

## Main definitions

* `SolMesh.Done` — what is known when a call is about to end.

## Main results

* `SolMesh.ensures_updateStatus`, `SolMesh.ensures_incrementAttempts`,
  `SolMesh.ensures_dispatch` — the rules of the operations.
* `SolMesh.ensures_flushIntent` — what sending one intent ensures.
* `SolMesh.keeps_flush` — flush cycles keep the invariant.
-/

namespace SolMesh

open Py Text Conc

variable {F N α : Type} [BEq F] [Number F] {M : Medium F N}

/-! ## Operations -/

section Rules

variable {w : World F N} {t : Intent F} {ts : List (Intent F)}
  {answer : Option (Except Exn UInt16)} {ok : IntentStatus → Prop} {a d : ℕ}
  {Q : α → World F N → Prop}

/-- The status that was written: being sent may become pending again. -/
def becomes (written status : IntentStatus) : Prop :=
  status = written ∨ (written = .sending ∧ status = .pending)

/-- What was written does not tell being sent from being pending. -/
lemma becomes_closed (written : IntentStatus) :
    becomes written .sending → becomes written .pending := by
  rintro (rfl | ⟨_, h⟩)
  · exact Or.inr ⟨rfl, rfl⟩
  · cases h

/-- What may be written over a status `s`, after `a` attempts were counted: an open status if there
are attempts left, and a failure if there are none. -/
structure Writable (t : Intent F) (a : ℕ) (status s : IntentStatus) : Prop where
  sent : s ≠ .sent
  open_lt : status = .pending ∨ status = .sending → t.attempts + a < t.maxAttempts
  failed_eq : status = .failed → t.attempts + a = t.maxAttempts

/-- Setting the status of the intent of the call.

**Proof sketch.** The invariant of the call allows the new status (`Writable`), so the intent stays
healthy and the call goes on (`InCall.rewrite`). The change is a fair one: a failed intent has no
attempts left, and is written to SENT only. -/
lemma ensures_updateStatus {status : IntentStatus} {error txHash : Option Text}
    {f : Bool → Flush F α} (hC : InCall t ts answer ok a d w) (hok : ok .sending → ok .pending)
    (hwrite : ∀ s, ok s → Writable t a status s) (herror : status = .sent → error = none)
    (hnext : ∀ r w', InCall t ts answer (becomes status) a d w' →
      (flushHost M).Ensures Fair Q (f r) w') :
    (flushHost M).Ensures Fair Q (Flush.updateStatus t.id status error txHash >>= f) w := by
  apply Host.Ensures.perform_bind (InCall.stable M t ts answer hok a d) hC
  rintro w r _ hC ⟨now, _, rfl⟩
  have hrewrite : Rewrites w { w with queue :=
      (IntentStore.updateStatus now t.id status error txHash).after w.queue } t.id
      (Intent.withStatus now status error txHash) :=
    ⟨map_modifyStored (f := Intent.withStatus now status error txHash) (fun _ => rfl) _ _,
      stored_updateStatus now t.id status error txHash w.queue, rfl, rfl, rfl, rfl⟩
  have hC' : InCall t ts answer (becomes status) a d { w with queue :=
      (IntentStore.updateStatus now t.id status error txHash).after w.queue } := by
    apply hC.rewrite hrewrite le_rfl
    intro i hh hm hia hio
    refine ⟨⟨hh.le, fun hs => ?_, fun hs => ?_⟩, rfl, hia, Or.inl rfl⟩
    · have hlt := (hwrite _ hio).open_lt hs
      change i.attempts < i.maxAttempts
      omega
    · have heq := (hwrite _ hio).failed_eq hs
      change i.attempts = i.maxAttempts
      omega
  refine ⟨fair_of_rewrite hrewrite hC'.sound ?_ (by simp) (by simp) (by simp), hnext r _ hC'⟩
  intro i hi
  obtain ⟨hh, hm, hia, hio⟩ := hC.of_find hi
  have hwrite := hwrite _ hio
  refine ⟨le_rfl, fun hs => absurd hs hwrite.sent, ?_, ?_⟩
  · intro hs hne
    have hmax := hh.eq hs
    -- a failed intent has no attempts left, so neither pending nor sending was written
    change status ≠ .failed at hne
    change status = .sent ∧ _
    cases status with
    | pending => exact absurd (hwrite.open_lt (Or.inl rfl)) (by omega)
    | sending => exact absurd (hwrite.open_lt (Or.inr rfl)) (by omega)
    | failed => exact absurd rfl hne
    | sent =>
      obtain rfl := herror rfl
      exact ⟨rfl, _, txHash, hC.call, rfl, rfl⟩
  · intro hs hfail
    have hmax := hwrite.failed_eq hfail
    have hlt : i.attempts < i.maxAttempts := by
      apply hh.lt
      cases hstatus : i.status with
      | pending => exact Or.inl rfl
      | sending => exact Or.inr rfl
      | sent => exact absurd hstatus hwrite.sent
      | failed => exact absurd hstatus hs
    omega

/-- Counting an attempt of the intent of the call.

**Proof sketch.** The intent is pending or being sent, so it has attempts left. If the counted one
is the last, the intent fails with all of them used, and otherwise it keeps its status
(`hattempted`). Either way it is healthy, and the call goes on with one attempt counted
(`InCall.rewrite`). -/
lemma ensures_incrementAttempts {f : Bool → Flush F α} (hC : InCall t ts answer ok 0 d w)
    (hok : ok .sending → ok .pending) (hopen : ∀ s, ok s → s = .pending ∨ s = .sending)
    (hnext : ∀ r w', InCall t ts answer (· ≠ .sent) 1 d w' →
      (flushHost M).Ensures Fair Q (f r) w') :
    (flushHost M).Ensures Fair Q (Flush.incrementAttempts t.id >>= f) w := by
  apply Host.Ensures.perform_bind (InCall.stable M t ts answer hok 0 d) hC
  rintro w r _ hC ⟨now, _, rfl⟩
  have hrewrite : Rewrites w { w with queue :=
      (IntentStore.incrementAttempts now t.id).after w.queue } t.id (Intent.attempted now) :=
    ⟨map_modifyStored (f := Intent.attempted now) (fun _ => rfl) _ _,
      stored_incrementAttempts now t.id w.queue, rfl, rfl, rfl, rfl⟩
  have hattempted : ∀ i : Intent F, i.Healthy → ok i.status → (i.attempted now).Healthy ∧
      (i.attempted now).status ≠ .sent := by
    intro i hh hio
    have hlt := hh.lt (hopen _ hio)
    by_cases hlast : i.attempts + 1 ≥ i.maxAttempts
    · have hstatus : (i.attempted now).status = .failed := if_pos hlast
      refine ⟨⟨?_, ?_, ?_⟩, ?_⟩
      · change i.attempts + 1 ≤ i.maxAttempts
        omega
      · rw [hstatus]
        rintro (h | h) <;> cases h
      · intro _
        change i.attempts + 1 = i.maxAttempts
        omega
      · rw [hstatus]
        simp
    · have hstatus : (i.attempted now).status = i.status := if_neg hlast
      refine ⟨⟨?_, ?_, ?_⟩, ?_⟩
      · change i.attempts + 1 ≤ i.maxAttempts
        omega
      · intro _
        change i.attempts + 1 < i.maxAttempts
        omega
      · rw [hstatus]
        intro hs
        rcases hopen _ hio with h | h <;> · rw [h] at hs; cases hs
      · rw [hstatus]
        rcases hopen _ hio with h | h <;> · rw [h]; simp
  have hC' : InCall t ts answer (· ≠ .sent) 1 d
      { w with queue := (IntentStore.incrementAttempts now t.id).after w.queue } := by
    apply hC.rewrite hrewrite (Nat.zero_le 1)
    intro i hh _ hia hio
    exact ⟨(hattempted i hh hio).1, rfl, congrArg (· + 1) hia, (hattempted i hh hio).2⟩
  refine ⟨fair_of_rewrite hrewrite hC'.sound ?_ (by simp) (by simp) (by simp), hnext r _ hC'⟩
  intro i hi
  obtain ⟨hh, _, _, hio⟩ := hC.of_find hi
  refine ⟨Nat.le_succ _, ?_, ?_, fun _ _ => ⟨_, hC.call, rfl, rfl⟩⟩
  · intro hs
    rcases hopen _ hio with h | h <;> · rw [h] at hs; cases hs
  · intro hs
    rcases hopen _ hio with h | h <;> · rw [h] at hs; cases hs

/-- Reading the intent of the call: it is gone for good, or as it is known to be.

**Proof sketch.** The intent that is read is the stored one, which the invariant describes; if there
is none, nothing is stored under the id from then on. -/
lemma ensures_get {f : Option (Intent F) → Flush F α} (hC : InCall t ts answer ok a d w)
    (hok : ok .sending → ok .pending)
    (hnone : ∀ w', InCall t ts answer (fun _ => False) a d w' →
      (flushHost M).Ensures Fair Q (f none) w')
    (hsome : ∀ i w', i.Healthy → i.maxAttempts = t.maxAttempts → i.attempts = t.attempts + a →
      ok i.status → InCall t ts answer ok a d w' →
      (flushHost M).Ensures Fair Q (f (some i)) w') :
    (flushHost M).Ensures Fair Q (Flush.get t.id >>= f) w := by
  apply Host.Ensures.perform_bind (InCall.stable M t ts answer hok a d) hC
  rintro _ r w hC ⟨hr, rfl⟩
  refine ⟨fair_of_queue_eq rfl rfl hC.sound (by simp) (by simp) (by simp), ?_⟩
  change r = w.find t.id at hr
  subst hr
  cases hfind : w.find t.id with
  | none =>
    apply hnone
    refine { hC with phase := { hC.phase with stored := ?_ } }
    intro i hi
    rw [hfind] at hi
    cases hi
  | some i =>
    obtain ⟨hh, hm, hia, hio⟩ := hC.of_find hfind
    exact hsome i w hh hm hia hio hC

/-- Waiting changes nothing that is stored. -/
lemma ensures_waitForResult {msgId : UInt16} {f : Option TxOutcome → Flush F α}
    (hC : InCall t ts answer ok a d w) (hok : ok .sending → ok .pending)
    (hnext : ∀ r w', InCall t ts answer ok a d w' → (flushHost M).Ensures Fair Q (f r) w') :
    (flushHost M).Ensures Fair Q (Flush.waitForResult msgId >>= f) w := by
  apply Host.Ensures.perform_bind (InCall.stable M t ts answer hok a d) hC
  rintro w r _ hC ⟨net, _, rfl⟩
  have hC' : InCall t ts answer ok a d { w with net := net } :=
    ⟨⟨hC.sound.ids, hC.sound.healthy, hC.sound.known, hC.sound.dispatches, hC.sound.bounded,
      hC.sound.fresh⟩, hC.call, hC.nodup,
      fun u hu => ⟨(hC.waiting u hu).lt, (hC.waiting u hu).known, (hC.waiting u hu).dispatches,
        (hC.waiting u hu).stored⟩, hC.counted,
      ⟨hC.phase.lt, hC.phase.known, hC.phase.dispatches, hC.phase.stored⟩⟩
  exact ⟨fair_of_queue_eq rfl rfl hC'.sound (by simp) (by simp) (by simp), hnext r _ hC'⟩

omit [BEq F] [Number F] in
/-- The number of dispatches after one more. -/
lemma dispatches_append (w : World F N) (intentId intentId' : String)
    (answer : Except Exn UInt16) :
    (w.dispatched ++ [(intentId, answer)]).countP
        (fun e => decide (e.1 = intentId') && !refused e.2) =
      w.dispatches intentId' +
        if intentId = intentId' ∧ refused answer = false then 1 else 0 := by
  rw [List.countP_append, World.dispatches, List.countP_singleton]
  by_cases hid : intentId = intentId' <;> cases refused answer <;> simp [hid]

omit [BEq F] [Number F] in
/-- The dispatches of other intents stay the same. -/
lemma dispatches_append_of_ne (w : World F N) {intentId intentId' : String}
    (hne : intentId' ≠ intentId) (answer : Except Exn UInt16) :
    (w.dispatched ++ [(intentId, answer)]).countP
      (fun e => decide (e.1 = intentId') && !refused e.2) = w.dispatches intentId' := by
  rw [dispatches_append, if_neg fun h => hne h.1.symm, Nat.add_zero]

omit [BEq F] [Number F] in
/-- The dispatches of the intent are more by one, unless the passphrase was wrong. -/
lemma dispatches_append_self (w : World F N) (intentId : String) (answer : Except Exn UInt16) :
    (w.dispatched ++ [(intentId, answer)]).countP
        (fun e => decide (e.1 = intentId) && !refused e.2) =
      w.dispatches intentId + if refused answer then 0 else 1 := by
  rw [dispatches_append]
  cases refused answer <;> simp

omit [BEq F] [Number F] in
/-- The call goes on after its dispatch, which is still to be counted.

**Proof sketch.** The dispatch is one of the intent of the call, so the bounds for all others are as
before (`dispatches_append_of_ne`). For this one the attempt still to be counted leaves room for it,
as the intent had attempts left when the call began. -/
lemma InCall.dispatched (hC : InCall t ts none ok 0 0 w) (net : N) (r : Except Exn UInt16) :
    InCall t ts (some r) ok 0 (if refused r then 0 else 1) { w with
      net := net
      dispatched := w.dispatched ++ [(t.id, r)]
      call := w.call.map fun c => { c with answer := some r } } := by
  have hle : (if refused r then 0 else 1) ≤ 1 := by split_ifs <;> omega
  have hlt := hC.phase.lt
  have hbound := hC.phase.dispatches
  refine ⟨⟨hC.sound.ids, hC.sound.healthy, hC.sound.known, ?_, ?_, ?_⟩, ?_, hC.nodup, ?_, ?_,
    ⟨hlt, hC.phase.known, ?_, hC.phase.stored⟩⟩
  · intro intentId i hi
    unfold World.dispatches
    by_cases hid : intentId = t.id
    · subst hid
      rw [dispatches_append_self]
      have hia := (hC.of_find hi).2.2.1
      change _ ≤ i.attempts + 1 + w.crashes
      omega
    · rw [dispatches_append_of_ne w hid]
      exact hC.sound.dispatches _ _ hi
  · intro intentId c hc
    unfold World.dispatches
    by_cases hid : intentId = t.id
    · subst hid
      rw [dispatches_append_self]
      obtain ⟨c', hc', hmax⟩ := hC.phase.known
      obtain rfl : c' = c := Option.some.inj (hc'.symm.trans hc)
      change _ ≤ c'.maxAttempts + w.crashes
      omega
    · rw [dispatches_append_of_ne w hid]
      exact hC.sound.bounded _ _ hc
  · intro intentId hnone
    have hid : intentId ≠ t.id := by
      rintro rfl
      obtain ⟨c, hc, _⟩ := hC.phase.known
      exact absurd (hc.symm.trans hnone) (by simp)
    unfold World.dispatches
    rw [dispatches_append_of_ne w hid]
    exact hC.sound.fresh _ hnone
  · change w.call.map _ = _
    rw [hC.call]
    rfl
  · intro u hu
    have hwait := hC.waiting u hu
    refine ⟨hwait.lt, hwait.known, ?_, hwait.stored⟩
    unfold World.dispatches
    rw [dispatches_append_of_ne w (hC.ne_of_mem hu)]
    exact hwait.dispatches
  · intro intentId i hid hi
    unfold World.dispatches
    rw [dispatches_append_of_ne w hid]
    exact hC.counted _ _ hid hi
  · unfold World.dispatches
    rw [dispatches_append_self]
    change _ ≤ t.attempts + _ + w.crashes
    omega

/-- Dispatching the intent of the call. -/
lemma ensures_dispatch {request : Dispatch F} {f : Except Exn UInt16 → Flush F α}
    (hC : InCall t ts none ok 0 0 w) (hok : ok .sending → ok .pending)
    (hnext : ∀ r w', InCall t ts (some r) ok 0 (if refused r then 0 else 1) w' →
      (flushHost M).Ensures Fair Q (f r) w') :
    (flushHost M).Ensures Fair Q (Flush.dispatch t.id request >>= f) w := by
  apply Host.Ensures.perform_bind (InCall.stable M t ts none hok 0 0) hC
  rintro w answer _ hC ⟨r, net, hr, _, rfl⟩
  obtain rfl := hr.symm
  have hC' := hC.dispatched net r
  refine ⟨fair_of_queue_eq rfl rfl hC'.sound (by simp) (by simp) ?_, hnext r _ hC'⟩
  intro intentId request' hop
  obtain ⟨rfl, _⟩ : t.id = intentId ∧ request = request' := by simpa using hop
  exact ⟨t, hC.call, rfl⟩

end Rules

/-! ## Sending one intent -/

section Programs

variable {w : World F N} {t : Intent F} {ts : List (Intent F)}
  {answer : Option (Except Exn UInt16)} {ok : IntentStatus → Prop} {a d : ℕ}

omit [BEq F] [Number F] in
/-- Less is known. -/
lemma InCall.mono (hC : InCall t ts answer ok a d w) {ok' : IntentStatus → Prop} {d' : ℕ}
    (hok : ∀ s, ok s → ok' s) (hd : d ≤ d') : InCall t ts answer ok' a d' w := by
  refine { hC with phase := ⟨hC.phase.lt, hC.phase.known, ?_, fun i hi => ?_⟩ }
  · have hle := hC.phase.dispatches
    omega
  · exact ⟨(hC.phase.stored i hi).1, hok _ (hC.phase.stored i hi).2⟩

/-- What is known when a call is about to end: each dispatch was counted, and after a wrong
passphrase nothing was counted and the intent is pending. -/
def Done (t : Intent F) (ts : List (Intent F)) (w : World F N) : Prop :=
  ∃ answer ok a, InCall t ts answer ok a a w ∧ (ok .sending → ok .pending) ∧
    ∀ e, answer = some (.error e) → wrongPassphrase e = true → a = 0 ∧ ∀ s, ok s → s = .pending

/-- Others do not disturb the end of a call. -/
lemma Done.stable (M : Medium F N) (t : Intent F) (ts : List (Intent F)) :
    (flushHost M).Stable (Done t ts) := by
  rintro w w' h ⟨answer, ok, a, hC, hok, hwrong⟩
  exact ⟨answer, ok, a, InCall.stable M t ts answer hok a a w w' h hC, hok, hwrong⟩

omit [BEq F] [Number F] in
/-- A call whose attempt was counted may end. -/
lemma InCall.done (hC : InCall t ts answer ok 1 1 w) (hok : ok .sending → ok .pending)
    (hanswer : ∀ e, answer = some (.error e) → wrongPassphrase e = false) : Done t ts w := by
  refine ⟨answer, ok, 1, hC, hok, fun e he hwrong => ?_⟩
  rw [hanswer e he] at hwrong
  cases hwrong

/-- A call that is done may return. -/
lemma ensures_return {r : Except Exn TxOutcome} (h : Done t ts w) :
    (flushHost M).Ensures Fair (fun _ => Done t ts) (.ret r) w :=
  Host.Ensures.ret (Done.stable M t ts) h

/-- After a dispatch that raised.

**Proof sketch.** A wrong passphrase makes the intent pending again, and nothing was dispatched.
Another exception counts the attempt and notes the text; the intent is read in between, and may be
gone then. -/
lemma ensures_sendFailed {e : Exn}
    (hC : InCall t ts answer (becomes .sending) 0 (if wrongPassphrase e then 0 else 1) w)
    (hanswer : ∀ e', answer = some (.error e') → e' = e) :
    (flushHost M).Ensures Fair (fun _ => Done t ts) (sendFailed t.id e) w := by
  have hopen : ∀ s, becomes .sending s → s = .pending ∨ s = .sending := by
    rintro s (rfl | ⟨_, rfl⟩)
    · exact Or.inr rfl
    · exact Or.inl rfl
  unfold sendFailed
  cases hwrong : wrongPassphrase e with
  | true =>
    rw [hwrong, if_pos rfl] at hC
    rw [if_pos rfl]
    apply ensures_updateStatus hC (becomes_closed _)
    · intro s hs
      refine ⟨?_, fun _ => hC.phase.lt, by simp⟩
      rcases hopen s hs with rfl | rfl <;> simp
    · simp
    · intro r w' hC'
      apply ensures_return
      exact ⟨answer, becomes .pending, 0, hC', becomes_closed _, fun _ _ _ =>
        ⟨rfl, fun s hs => by simpa [becomes] using hs⟩⟩
  | false =>
    rw [hwrong, if_neg Bool.false_ne_true] at hC
    rw [if_neg Bool.false_ne_true]
    have hanswer' : ∀ e', answer = some (.error e') → wrongPassphrase e' = false := by
      intro e' he'
      rw [hanswer e' he', hwrong]
    apply ensures_incrementAttempts hC (becomes_closed _) hopen
    intro r w' hC
    apply ensures_get hC (by simp)
    · intro w' hC
      apply ensures_updateStatus hC (by simp) (by simp) (by simp)
      intro r w' hC
      exact ensures_return (hC.done (becomes_closed _) hanswer')
    · intro i w' hh hm hia hio hC
      apply ensures_updateStatus hC (by simp)
      · intro s hs
        refine ⟨hs, fun ho => ?_, fun hf => ?_⟩
        · have hlt := hh.lt ho
          omega
        · have heq := hh.eq hf
          omega
      · intro hs
        exact absurd hs hio
      · intro r w' hC
        exact ensures_return (hC.done (becomes_closed _) hanswer')

/-- Making the intent of the call pending again.

**Proof sketch.** The intent is read again. If it is gone or failed, nothing is written. Otherwise
it is healthy and not sent, so it has attempts left and may be pending. -/
lemma ensures_requeue {error : Text} {r : Except Exn TxOutcome}
    (hC : InCall t ts answer (· ≠ .sent) 1 1 w)
    (hanswer : ∀ e, answer = some (.error e) → wrongPassphrase e = false) :
    (flushHost M).Ensures Fair (fun _ => Done t ts) (requeue t.id error >>= fun _ => .ret r) w := by
  apply Host.Ensures.bind (Q := fun _ => Done t ts)
  swap
  · intro _ w' h
    exact ensures_return h
  unfold requeue
  apply ensures_get hC (by simp)
  · intro w' hC
    exact Host.Ensures.ret (Done.stable M t ts) (hC.done (by simp) hanswer)
  · intro i w' hh hm hia hio hC
    dsimp only
    split_ifs with hfailed
    · apply ensures_updateStatus hC (by simp)
      · intro s hs
        refine ⟨hs, fun _ => ?_, by simp⟩
        have hlt : i.attempts < i.maxAttempts := by
          apply hh.lt
          cases hstatus : i.status with
          | pending => exact Or.inl rfl
          | sending => exact Or.inr rfl
          | sent => exact absurd hstatus hio
          | failed => exact absurd hstatus hfailed
        omega
      · simp
      · intro r w' hC
        exact Host.Ensures.ret (Done.stable M t ts) (hC.done (becomes_closed _) hanswer)
    · exact Host.Ensures.ret (Done.stable M t ts) (hC.done (by simp) hanswer)

/-- After the intent was sent.

**Proof sketch.** Along the code: the attempt is counted, the result is awaited, and then the intent
is noted as sent, or made pending again (`ensures_requeue`). -/
lemma ensures_awaitResult {msgId : UInt16} (hC : InCall t ts answer (becomes .sending) 0 1 w)
    (hanswer : ∀ e, answer = some (.error e) → wrongPassphrase e = false) :
    (flushHost M).Ensures Fair (fun _ => Done t ts) (awaitResult t.id msgId) w := by
  unfold awaitResult
  apply ensures_incrementAttempts hC (becomes_closed _)
  · rintro s (rfl | ⟨_, rfl⟩)
    · exact Or.inr rfl
    · exact Or.inl rfl
  intro r w' hC
  apply ensures_waitForResult hC (by simp)
  intro r w' hC
  rcases r with _ | (signature | error)
  · exact ensures_requeue hC hanswer
  · apply ensures_updateStatus hC (by simp)
    · intro s hs
      exact ⟨hs, by simp, by simp⟩
    · intro _
      rfl
    · intro r w' hC
      exact ensures_return (hC.done (becomes_closed _) hanswer)
  · exact ensures_requeue hC hanswer

/-- **What sending one intent ensures.**

**Proof sketch.** Along the code, with the rule for each operation: the intent is set to SENDING,
then the request is made and dispatched. Without a request, and after a dispatch that raised,
`ensures_sendFailed` goes on; after one that did not, `ensures_awaitResult`. -/
lemma ensures_flushIntent {passphrase : Text} (hC : InCall t ts none (· = .pending) 0 0 w) :
    (flushHost M).Ensures Fair (fun _ => Done t ts) (flushIntent t passphrase) w := by
  have hlt := hC.phase.lt
  unfold flushIntent
  apply ensures_updateStatus hC (by simp)
  · rintro s rfl
    exact ⟨by simp, fun _ => hlt, by simp⟩
  · simp
  intro r w' hC
  unfold sendIntent
  cases hrequest : dispatchOf t passphrase with
  | error e =>
    apply ensures_sendFailed (hC.mono (fun _ => id) (Nat.zero_le _))
    intro e' he'
    cases he'
  | ok request =>
    apply ensures_dispatch hC (becomes_closed _)
    intro r w' hC
    cases r with
    | error e =>
      apply ensures_sendFailed hC
      rintro e' ⟨⟩
      rfl
    | ok msgId =>
      apply ensures_awaitResult hC
      intro e he
      cases he

/-! ## A flush cycle -/

/-- A call of `flush_intent` for the next pending intent.

**Proof sketch.** Between two calls every waiting intent has the attempts it was read with, which is
what the call needs at its beginning. At its end the attempt is counted unless nothing was
dispatched (`Done`), so the dispatches of all intents are within what was counted again. -/
lemma ensures_callFlushIntent {passphrase : Text} (hB : Between (t :: ts) w) :
    (flushHost M).Ensures Fair (fun _ => Between ts) (callFlushIntent t passphrase) w := by
  unfold callFlushIntent
  apply Host.Ensures.perform_bind (Between.stable M (t :: ts)) hB
  rintro w r _ hB rfl
  have hwait := hB.waiting t List.mem_cons_self
  have hC : InCall t ts none (· = .pending) 0 0 { w with call := some ⟨t, none⟩ } :=
    ⟨⟨hB.sound.ids, hB.sound.healthy, hB.sound.known, hB.sound.dispatches, hB.sound.bounded,
      hB.sound.fresh⟩, rfl, hB.nodup, fun u hu => by
        have hu := hB.waiting u (List.mem_cons_of_mem t hu)
        exact ⟨hu.lt, hu.known, hu.dispatches, hu.stored⟩,
      fun intentId i _ hi => hB.counted intentId i hi,
      ⟨hwait.lt, hwait.known, hwait.dispatches, hwait.stored⟩⟩
  refine ⟨⟨hC.sound, rfl, fun _ j hj => ⟨j, hj, FairChange.refl _ _ _ _⟩, ?_, by simp, by simp⟩,
    ?_⟩
  · intro u hu
    obtain rfl : t = u := by simpa using hu
    obtain ⟨c, hc, _⟩ := hwait.known
    exact ⟨by simp [hc], fun i hi => (hwait.stored i hi).symm⟩
  apply Host.Ensures.bind (ensures_flushIntent hC)
  intro result w hD
  apply Host.Ensures.perform_bind (Done.stable M t ts) hD
  rintro w r _ ⟨answer, ok, a, hC, _, hwrong⟩ rfl
  have hB : Between ts { w with call := none } := by
    refine ⟨⟨hC.sound.ids, hC.sound.healthy, hC.sound.known, hC.sound.dispatches,
      hC.sound.bounded, hC.sound.fresh⟩, rfl, (List.nodup_cons.mp hC.nodup).2, fun u hu => ?_, ?_⟩
    · have hu := hC.waiting u hu
      exact ⟨hu.lt, hu.known, hu.dispatches, hu.stored⟩
    · intro intentId i hi
      by_cases hid : intentId = t.id
      · subst hid
        have hle := hC.phase.dispatches
        have hia := (hC.of_find hi).2.2.1
        change w.dispatches t.id ≤ i.attempts + w.crashes
        omega
      · exact hC.counted _ _ hid hi
  refine ⟨⟨hB.sound, rfl, fun _ j hj => ⟨j, hj, FairChange.refl _ _ _ _⟩, by simp, by simp, ?_⟩,
    ?_⟩
  · intro _ _ c e hc hanswer hw i hi
    obtain rfl : (⟨t, answer⟩ : FlushCall F) = c := Option.some.inj (hC.call.symm.trans hc)
    obtain ⟨rfl, hpending⟩ := hwrong e hanswer hw
    obtain ⟨_, _, hia, hio⟩ := hC.of_find hi
    exact ⟨hpending _ hio, hia⟩
  · exact Host.Ensures.ret (Between.stable M ts) hB

omit [BEq F] [Number F] in
/-- A pending intent may be skipped. -/
lemma Between.tail (hB : Between (t :: ts) w) : Between ts w :=
  ⟨hB.sound, hB.call, (List.nodup_cons.mp hB.nodup).2,
    fun u hu => hB.waiting u (List.mem_cons_of_mem t hu), hB.counted⟩

omit [BEq F] [Number F] in
/-- All pending intents may be skipped. -/
lemma Between.nil (hB : Between ts w) : Between [] w :=
  ⟨hB.sound, hB.call, List.nodup_nil, by simp, hB.counted⟩

omit [BEq F] [Number F] in
/-- An operation of a cycle outside the calls changes nothing. -/
lemma fair_refl {op : FlushOp F} {r : op.Ans} (hB : Between ts w) (henter : ∀ u, op ≠ .enter u)
    (hleave : ∀ result, op ≠ .leave result)
    (hdispatch : ∀ intentId request, op ≠ .dispatch intentId request) : Fair op w r w :=
  fair_of_queue_eq rfl rfl hB.sound henter hleave fun intentId request h =>
    absurd h (hdispatch intentId request)

/-- The loop over the pending intents.

**Proof sketch.** Induction on the pending intents. An intent that is skipped waits no longer
(`Between.tail`), and an offline gateway ends the loop (`Between.nil`); the call keeps what holds
between two calls (`ensures_callFlushIntent`). -/
lemma ensures_flushEach (passphraseMap : Dict String Text) (walletFilter : Option String)
    (results : List (String × TxOutcome)) (hB : Between ts w) :
    (flushHost M).Ensures Fair (fun _ => Between [])
      (flushEach passphraseMap walletFilter results ts) w := by
  induction ts generalizing results w with
  | nil => exact Host.Ensures.ret (Between.stable M []) hB
  | cons t ts ih =>
    rw [flushEach]
    split_ifs
    · exact ih results hB.tail
    apply Host.Ensures.bind (Q := fun _ => Between (t :: ts))
    · unfold passphraseFor
      split
      · exact Host.Ensures.ret (Between.stable M (t :: ts)) hB
      · apply Host.Ensures.call (Between.stable M (t :: ts)) hB
        rintro _ r w hB rfl
        exact ⟨fair_refl hB (by simp) (by simp) (by simp),
          Host.Ensures.ret (Between.stable M (t :: ts)) hB⟩
    · intro passphrase w hB
      cases passphrase with
      | none => exact ih results hB.tail
      | some passphrase =>
        apply Host.Ensures.perform_bind (Between.stable M (t :: ts)) hB
        rintro _ online w hB rfl
        refine ⟨fair_refl hB (by simp) (by simp) (by simp), ?_⟩
        split_ifs
        · exact Host.Ensures.ret (Between.stable M []) hB.nil
        · apply Host.Ensures.bind (ensures_callFlushIntent hB)
          intro result w hB
          exact ih _ hB

/-- **A flush cycle** meets the guarantee and restores the invariant. -/
lemma ensures_flushAllPending (passphraseMap : Dict String Text) (walletFilter : Option String)
    (hB : Between [] w) :
    (flushHost M).Ensures Fair (fun _ => Between [])
      (flushAllPending passphraseMap walletFilter) w := by
  unfold flushAllPending
  apply Host.Ensures.perform_bind (Between.stable M []) hB
  rintro _ r w hB ⟨rfl, rfl⟩
  refine ⟨fair_refl hB (by simp) (by simp) (by simp), ensures_flushEach _ _ _ ?_⟩
  refine ⟨hB.sound, hB.call, nodup_pendingIntents hB.sound.ids, ?_, hB.counted⟩
  intro t ht
  obtain ⟨hmem, hpending⟩ := mem_pendingIntents.mp ht
  have hfind : w.find t.id = some t := stored_of_mem hB.sound.ids hmem
  refine ⟨(hB.sound.healthy _ _ hfind).lt (Or.inl hpending), hB.sound.known _ _ hfind,
    hB.counted _ _ hfind, ?_⟩
  intro i hi
  obtain rfl : t = i := Option.some.inj (hfind.symm.trans hi)
  exact ⟨rfl, hpending⟩

end Programs

/-! ## Every run -/

/-- **Flush cycles keep the invariant**, whatever happens on the mesh.

**Proof sketch.** The rules above give what a cycle ensures. A crash ends the call, if there was
one, and counts for the dispatch that may not have been counted, so it leaves what holds between two
calls. -/
theorem keeps_flush (M : Medium F N) :
    (flushHost M).Keeps IsFlush Fair World.Sound (Between []) where
  weaken _ h := h.sound
  stable := Between.stable M []
  stable_weak _ _ h hsound := hsound.of_others h
  guarantee _ _ _ _ h _ := h.sound
  crash := by
    rintro w _ ⟨_⟩ hsound
    refine ⟨⟨hsound.ids, hsound.healthy, hsound.known, ?_, ?_, hsound.fresh⟩, rfl,
      List.nodup_nil, by simp, ?_⟩
    · intro intentId i hi
      have hle := hsound.dispatches _ _ hi
      change w.dispatches intentId ≤ i.attempts + 1 + (w.crashes + 1)
      omega
    · intro intentId c hc
      have hle := hsound.bounded _ _ hc
      change w.dispatches intentId ≤ c.maxAttempts + (w.crashes + 1)
      omega
    · intro intentId i hi
      have hle := hsound.dispatches _ _ hi
      change w.dispatches intentId ≤ i.attempts + (w.crashes + 1)
      omega
  start := by
    rintro _ w ⟨passphraseMap, walletFilter, rfl⟩ hB
    exact ensures_flushAllPending passphraseMap walletFilter hB

omit [BEq F] [Number F] in
/-- Nothing is known about an empty queue but that it is empty. -/
lemma between_empty (net : N) : Between [] (World.empty net : World F N) := by
  refine ⟨⟨List.nodup_nil, ?_, ?_, ?_, ?_, fun _ _ => rfl⟩, rfl, List.nodup_nil, by simp, ?_⟩
  · rintro _ _ ⟨⟩
  · rintro _ _ ⟨⟩
  · rintro _ _ ⟨⟩
  · rintro _ _ ⟨⟩
  · rintro _ _ ⟨⟩

end SolMesh
