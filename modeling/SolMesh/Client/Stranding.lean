import SolMesh.Foundations.Execution
import SolMesh.Client.World

set_option relaxedAutoImplicit false
set_option autoImplicit false

/-!
# The status `flush_intent` leaves behind

`flush_intent` marks an intent as being sent before it dispatches it, and each of its exits is
meant to leave another status. The exit for a dispatch that raised counts an attempt, which changes
the status only if it was the last one, and then writes back the status it finds.

## Main definitions

* `SolMesh.told` — a mesh that answers the dispatch and the wait as told.
* `SolMesh.finalStatus` — the status of an intent after it was flushed.

## Main results

* `SolMesh.status_flushIntent` — this is the status that is stored.
* `SolMesh.settled_flushIntent_iff` — when an intent is not left as being sent.
-/

namespace SolMesh

open Py Text Conc

variable {F N : Type}

/-! ## The parts of `flush_intent` -/

section Parts

variable {M : Medium F N} {w w' : World F N} {intentId : String} {i : Intent F}
  {t : List ((op : FlushOp F) × op.Ans)}

/-- The attempts of an intent, and its status. -/
def Intent.Stands (i : Intent F) (attempts maxAttempts : ℕ) (status : IntentStatus) : Prop :=
  i.attempts = attempts ∧ i.maxAttempts = maxAttempts ∧ i.status = status

/-- The intent under the id stands so. -/
def World.Holds (w : World F N) (intentId : String) (attempts maxAttempts : ℕ)
    (status : IntentStatus) : Prop :=
  ∃ i, w.find intentId = some i ∧ i.Stands attempts maxAttempts status

variable {attempts maxAttempts : ℕ} {status : IntentStatus}

/-- The status of a stored intent is set. -/
lemma World.Holds.updateStatus (h : w.Holds intentId attempts maxAttempts status)
    {status' : IntentStatus} {error txHash : Option Text} {r : Bool}
    (hrun : (Flush.updateStatus intentId status' error txHash).Runs (flushExec M) w t r w') :
    w'.Holds intentId attempts maxAttempts status' := by
  obtain ⟨_, now, _, rfl⟩ := Prog.runs_perform_iff.mp hrun
  obtain ⟨i, hi, hattempts, hmax, _⟩ := h
  refine ⟨i.withStatus now status' error txHash, ?_, hattempts, hmax, rfl⟩
  unfold World.find at hi ⊢
  rw [stored_updateStatus, if_pos rfl, hi]
  rfl

/-- An attempt of a stored intent is counted. -/
lemma World.Holds.incrementAttempts (h : w.Holds intentId attempts maxAttempts status) {r : Bool}
    (hrun : (Flush.incrementAttempts intentId).Runs (flushExec M) w t r w') :
    w'.Holds intentId (attempts + 1) maxAttempts
      (if attempts + 1 ≥ maxAttempts then .failed else status) := by
  obtain ⟨_, now, _, rfl⟩ := Prog.runs_perform_iff.mp hrun
  obtain ⟨i, hi, rfl, rfl, rfl⟩ := h
  refine ⟨i.attempted now, ?_, rfl, rfl, rfl⟩
  unfold World.find at hi ⊢
  rw [stored_incrementAttempts, if_pos rfl, hi]
  rfl

/-- A stored intent is read. -/
lemma World.Holds.get (h : w.Holds intentId attempts maxAttempts status) {r : Option (Intent F)}
    (hrun : (Flush.get intentId).Runs (flushExec M) w t r w') :
    (∃ i, r = some i ∧ i.status = status) ∧ w' = w := by
  obtain ⟨_, rfl, rfl⟩ := Prog.runs_perform_iff.mp hrun
  obtain ⟨i, hi, _, _, hstatus⟩ := h
  exact ⟨⟨i, hi, hstatus⟩, rfl⟩

/-- **The exit for a dispatch that raised**: a wrong passphrase makes the intent pending; after any
other exception the status is that of the counted attempt.

**Proof sketch.** A wrong passphrase makes the intent pending. Otherwise the attempt is counted, and
then the status that was read is written back, with the text of the exception. -/
lemma World.Holds.sendFailed (h : w.Holds intentId attempts maxAttempts status) {e : Exn}
    {r : Except Exn TxOutcome}
    (hrun : (SolMesh.sendFailed intentId e).Runs (flushExec M) w t r w') :
    ∃ attempts', w'.Holds intentId attempts' maxAttempts
      (if wrongPassphrase e then .pending
        else if attempts + 1 ≥ maxAttempts then .failed else status) := by
  unfold SolMesh.sendFailed at hrun
  by_cases hwrong : wrongPassphrase e = true
  · rw [if_pos hwrong] at hrun ⊢
    obtain ⟨_, _, u, _, _, hupdate, hret⟩ := Prog.runs_bind_iff.mp hrun
    obtain ⟨_, _, rfl⟩ := Prog.runs_pure_iff.mp hret
    exact ⟨attempts, h.updateStatus hupdate⟩
  · rw [if_neg hwrong] at hrun ⊢
    obtain ⟨_, _, u₁, _, _, hcount, hcounted⟩ := Prog.runs_bind_iff.mp hrun
    have h₁ := h.incrementAttempts hcount
    obtain ⟨_, current, u₂, _, _, hget, hread⟩ := Prog.runs_bind_iff.mp hcounted
    obtain ⟨⟨i, rfl, hstatus⟩, rfl⟩ := h₁.get hget
    obtain ⟨_, _, u₃, _, _, hupdate, hret⟩ := Prog.runs_bind_iff.mp hread
    obtain ⟨_, _, rfl⟩ := Prog.runs_pure_iff.mp hret
    -- the status that was read is written back
    have h₃ : w'.Holds intentId (attempts + 1) maxAttempts i.status := h₁.updateStatus hupdate
    rw [hstatus] at h₃
    exact ⟨attempts + 1, h₃⟩

/-- A failed intent stays failed, any other one is made pending.

**Proof sketch.** The intent is read, and is there. If it is failed, nothing is written. -/
lemma World.Holds.requeue (h : w.Holds intentId attempts maxAttempts status) {error : Text}
    {r : Unit} (hrun : (SolMesh.requeue intentId error).Runs (flushExec M) w t r w') :
    w'.Holds intentId attempts maxAttempts (if status = .failed then .failed else .pending) := by
  unfold SolMesh.requeue at hrun
  obtain ⟨_, current, u, _, _, hget, hrest⟩ := Prog.runs_bind_iff.mp hrun
  obtain ⟨⟨i, rfl, hstatus⟩, rfl⟩ := h.get hget
  dsimp only at hrest
  rw [hstatus] at hrest
  by_cases hfailed : status = .failed
  · rw [if_neg (not_not.mpr hfailed)] at hrest
    obtain ⟨_, _, rfl⟩ := Prog.runs_pure_iff.mp hrest
    rw [if_pos hfailed, ← hfailed]
    exact h
  · rw [if_pos hfailed] at hrest
    obtain ⟨_, _, u, _, _, hupdate, hret⟩ := Prog.runs_bind_iff.mp hrest
    obtain ⟨_, _, rfl⟩ := Prog.runs_pure_iff.mp hret
    rw [if_neg hfailed]
    exact h.updateStatus hupdate

/-- After an attempt was counted, an intent is made pending if it was not the last attempt. -/
lemma World.Holds.requeue_counted
    (h : w.Holds intentId attempts maxAttempts
      (if attempts ≥ maxAttempts then .failed else .sending)) {error : Text} {r : Unit}
    (hrun : (SolMesh.requeue intentId error).Runs (flushExec M) w t r w') :
    w'.Holds intentId attempts maxAttempts
      (if attempts ≥ maxAttempts then .failed else .pending) := by
  have h' := h.requeue hrun
  by_cases hlast : attempts ≥ maxAttempts
  · rw [if_pos hlast, if_pos rfl] at h'
    rwa [if_pos hlast]
  · rw [if_neg hlast, if_neg nofun] at h'
    rwa [if_neg hlast]

end Parts

/-! ## The whole call -/

/-- A mesh that answers the dispatch and the wait as told. -/
def told (answer : Except Exn UInt16) (outcome : Option TxOutcome) : Medium F Unit where
  dispatch _ _ _ r _ := r = answer
  wait _ _ r _ := r = outcome
  background _ _ := False
  crash _ _ := True

/-- The answer to sending the intent: an intent that no call is for is refused, and the call for
any other is answered as told. -/
def sentWith (intent : Intent F) (passphrase : Text) (answer : Except Exn UInt16) :
    Except Exn UInt16 := do
  let _ ← dispatchOf intent passphrase
  answer

/-- **The status after `flush_intent`**, by the answer to the dispatch and what the wait returns. -/
def finalStatus (intent : Intent F) (sent : Except Exn UInt16) (outcome : Option TxOutcome) :
    IntentStatus :=
  match sent, outcome with
  | .error e, _ =>
    if wrongPassphrase e then .pending
    else if intent.attempts + 1 ≥ intent.maxAttempts then .failed else .sending
  | .ok _, some (.success _) => .sent
  | .ok _, _ => if intent.attempts + 1 ≥ intent.maxAttempts then .failed else .pending

section Call

variable {intent : Intent F} {passphrase : Text} {answer : Except Exn UInt16}
  {outcome : Option TxOutcome} {w w' : World F Unit} {t : List ((op : FlushOp F) × op.Ans)}

/-- Sending an intent changes nothing in the queue, and is answered as told. -/
lemma runs_sendIntent {r : Except Exn UInt16}
    (hrun : (sendIntent intent passphrase).Runs (flushExec (told answer outcome)) w t r w') :
    r = sentWith intent passphrase answer ∧ w'.queue = w.queue := by
  unfold sendIntent at hrun
  unfold sentWith
  cases hcall : dispatchOf intent passphrase with
  | error e =>
    rw [hcall] at hrun
    obtain ⟨_, rfl, rfl⟩ := Prog.runs_pure_iff.mp hrun
    exact ⟨rfl, rfl⟩
  | ok request =>
    rw [hcall] at hrun
    obtain ⟨_, r', net, hr, hanswer, rfl⟩ := Prog.runs_perform_iff.mp hrun
    exact ⟨hr.trans hanswer, rfl⟩

/-- **The exits after a dispatch that returned**: the attempt is counted; a success makes the
intent sent, anything else makes it pending again if it was not the last attempt.

**Proof sketch.** Along the code: the attempt is counted, and the outcome of the wait decides what
is written (`World.Holds.requeue_counted`). -/
lemma World.Holds.awaitResult {attempts maxAttempts : ℕ} {msgId : UInt16}
    (h : w.Holds intent.id attempts maxAttempts .sending) {r : Except Exn TxOutcome}
    (hrun : (SolMesh.awaitResult intent.id msgId).Runs (flushExec (told answer outcome)) w t r
      w') :
    w'.Holds intent.id (attempts + 1) maxAttempts (match outcome with
      | some (.success _) => .sent
      | _ => if attempts + 1 ≥ maxAttempts then .failed else .pending) := by
  unfold SolMesh.awaitResult at hrun
  obtain ⟨_, _, u₁, _, _, hcount, hcounted⟩ := Prog.runs_bind_iff.mp hrun
  have h₁ := h.incrementAttempts hcount
  obtain ⟨_, r', u₂, _, _, hwait, hreturned⟩ := Prog.runs_bind_iff.mp hcounted
  obtain ⟨_, net, hr, rfl⟩ := Prog.runs_perform_iff.mp hwait
  obtain rfl : r' = outcome := hr
  rcases r' with _ | signature | error
  · obtain ⟨_, _, u₃, _, _, hrequeue, hret⟩ := Prog.runs_bind_iff.mp hreturned
    obtain ⟨_, _, rfl⟩ := Prog.runs_pure_iff.mp hret
    exact World.Holds.requeue_counted (w := { u₁ with net := net }) h₁ hrequeue
  · obtain ⟨_, _, u₃, _, _, hupdate, hret⟩ := Prog.runs_bind_iff.mp hreturned
    obtain ⟨_, _, rfl⟩ := Prog.runs_pure_iff.mp hret
    exact World.Holds.updateStatus (w := { u₁ with net := net }) h₁ hupdate
  · obtain ⟨_, _, u₃, _, _, hrequeue, hret⟩ := Prog.runs_bind_iff.mp hreturned
    obtain ⟨_, _, rfl⟩ := Prog.runs_pure_iff.mp hret
    exact World.Holds.requeue_counted (w := { u₁ with net := net }) h₁ hrequeue

/-- **What `flush_intent` leaves behind**: the stored intent has its final status.

**Proof sketch.** Along the code: the stored intent is set to SENDING (`Holds.updateStatus`), and
sending leaves the queue as it is (`runs_sendIntent`). What follows depends on whether sending
raised (`Holds.sendFailed`) or not (`Holds.awaitResult`). -/
lemma status_flushIntent {r : Except Exn TxOutcome} (hstored : w.find intent.id = some intent)
    (hrun : (flushIntent intent passphrase).Runs (flushExec (told answer outcome)) w t r w') :
    ∃ i, w'.find intent.id = some i ∧
      i.status = finalStatus intent (sentWith intent passphrase answer) outcome := by
  have h : w.Holds intent.id intent.attempts intent.maxAttempts intent.status :=
    ⟨intent, hstored, rfl, rfl, rfl⟩
  unfold flushIntent at hrun
  obtain ⟨_, _, u₁, _, _, hupdate, hmarked⟩ := Prog.runs_bind_iff.mp hrun
  have h₁ := h.updateStatus hupdate
  obtain ⟨_, sent, u₂, _, _, hsend, hsent⟩ := Prog.runs_bind_iff.mp hmarked
  obtain ⟨rfl, hqueue⟩ := runs_sendIntent hsend
  have h₂ : u₂.Holds intent.id intent.attempts intent.maxAttempts .sending := by
    unfold World.Holds World.find at h₁ ⊢
    rw [hqueue]
    exact h₁
  unfold finalStatus
  cases hanswer : sentWith intent passphrase answer with
  | error e =>
    rw [hanswer] at hsent
    obtain ⟨attempts, i, hi, _, _, hstatus⟩ := h₂.sendFailed hsent
    exact ⟨i, hi, hstatus⟩
  | ok msgId =>
    rw [hanswer] at hsent
    obtain ⟨i, hi, _, _, hstatus⟩ := h₂.awaitResult hsent
    refine ⟨i, hi, hstatus.trans ?_⟩
    rcases outcome with _ | _ | _ <;> rfl

/-- Every operation of a flush has an answer on this mesh. -/
lemma exists_flushExec (answer : Except Exn UInt16) (outcome : Option TxOutcome)
    (op : FlushOp F) (w : World F Unit) :
    ∃ r w', flushExec (told answer outcome) op w r w' := by
  cases op with
  | pendingIntents | get => exact ⟨_, _, rfl, rfl⟩
  | cachedPassphrase walletName => exact ⟨none, w, rfl⟩
  | isGatewayOnline => exact ⟨true, w, rfl⟩
  | enter | leave => exact ⟨(), _, rfl⟩
  | updateStatus | incrementAttempts => exact ⟨_, _, 0, rfl, rfl⟩
  | dispatch => exact ⟨answer, _, answer, (), rfl, rfl, rfl⟩
  | waitForResult => exact ⟨outcome, _, (), rfl, rfl⟩

end Call

/-- **When `flush_intent` does not strand an intent.** For every stored intent, any answer to its
dispatch and anything its wait returns: the call comes to an end, and whatever it returns or raises,
and at whatever times it reads the clock, the stored intent is not left as being sent if and only
if sending did not raise an exception other than a wrong passphrase before the last attempt.

**Proof sketch.** The intent has its final status (`status_flushIntent`). This is SENDING only if
sending raised an exception that is not a wrong passphrase, and the attempt counted was not the last
one. -/
theorem settled_flushIntent_iff (intent : Intent F) (passphrase : Text) (answer : Except Exn UInt16)
    (outcome : Option TxOutcome) {w : World F Unit} (hstored : w.find intent.id = some intent) :
    (∃ t r w', (flushIntent intent passphrase).Runs (flushExec (told answer outcome)) w t r w') ∧
    ∀ t r w', (flushIntent intent passphrase).Runs (flushExec (told answer outcome)) w t r w' →
      ((∃ i, w'.find intent.id = some i ∧
          (i.status = .pending ∨ i.status = .failed ∨ i.status = .sent)) ↔
        ∀ e, sentWith intent passphrase answer = .error e → wrongPassphrase e = false →
          intent.maxAttempts ≤ intent.attempts + 1) := by
  refine ⟨Prog.exists_runs (exists_flushExec answer outcome) _ w, fun t r w' hrun => ?_⟩
  obtain ⟨i, hi, hstatus⟩ := status_flushIntent hstored hrun
  unfold finalStatus at hstatus
  constructor
  · rintro ⟨j, hj, hsettled⟩ e hraised hright
    obtain rfl : i = j := Option.some.inj (hi.symm.trans hj)
    by_contra hlast
    rw [hraised] at hstatus
    dsimp only at hstatus
    rw [if_neg (by rw [hright]; decide), if_neg hlast] at hstatus
    rw [hstatus] at hsettled
    rcases hsettled with h | h | h <;> cases h
  · intro hcond
    refine ⟨i, hi, ?_⟩
    rw [hstatus]
    cases hsent : sentWith intent passphrase answer with
    | error e =>
      dsimp only
      by_cases hwrong : wrongPassphrase e = true
      · exact Or.inl (if_pos hwrong)
      · have hlast := hcond e hsent (Bool.eq_false_iff.mpr hwrong)
        rw [if_neg hwrong, if_pos hlast]
        exact Or.inr (Or.inl rfl)
    | ok msgId =>
      rcases outcome with _ | signature | error
      · dsimp only
        split_ifs
        · exact Or.inr (Or.inl rfl)
        · exact Or.inl rfl
      · exact Or.inr (Or.inr rfl)
      · dsimp only
        split_ifs
        · exact Or.inr (Or.inl rfl)
        · exact Or.inl rfl

/-- A request that times out. -/
theorem settled_flushIntent_timeout :
    ∃ t r w', (flushIntent sampleIntent []).Runs (flushExec (told (.ok 7) none))
        (sampleWorld ()) t r w' ∧
      ∃ i, w'.find "a" = some i ∧
        (i.status = .pending ∨ i.status = .failed ∨ i.status = .sent) := by
  have hstored : (sampleWorld ()).find sampleIntent.id = some sampleIntent := rfl
  obtain ⟨⟨t, r, w', hrun⟩, hiff⟩ := settled_flushIntent_iff sampleIntent [] (.ok 7) none hstored
  refine ⟨t, r, w', hrun, (hiff t r w' hrun).mpr fun e he => ?_⟩
  have hsent : sentWith sampleIntent [] (.ok 7) = .ok 7 := rfl
  rw [hsent] at he
  cases he

/-- **An intent can be left as being sent**: the mesh is not connected when it is dispatched for the
first time. -/
theorem not_settled_flushIntent : ¬ ∀ (intent : Intent ℤ) (passphrase : Text)
    (answer : Except Exn UInt16) (outcome : Option TxOutcome) (w : World ℤ Unit),
    w.find intent.id = some intent →
    intent.status = .pending → intent.attempts < intent.maxAttempts →
    ∀ t r w', (flushIntent intent passphrase).Runs (flushExec (told answer outcome)) w t r w' →
      ∃ i, w'.find intent.id = some i ∧
        (i.status = .pending ∨ i.status = .failed ∨ i.status = .sent) := by
  intro hall
  let raised : Exn := ⟨"RuntimeError", ofString "Not connected"⟩
  have hstored : (sampleWorld ()).find sampleIntent.id = some sampleIntent := rfl
  obtain ⟨t, r, w', hrun⟩ := Prog.exists_runs
    (exists_flushExec (.error raised) none) (flushIntent sampleIntent [])
    (sampleWorld ())
  obtain ⟨i, hi, hsettled⟩ := hall sampleIntent [] (.error raised) none (sampleWorld ()) hstored rfl
    (by decide) t r w' hrun
  obtain ⟨j, hj, hstatus⟩ := status_flushIntent hstored hrun
  obtain rfl : i = j := Option.some.inj (hi.symm.trans hj)
  have hsending : finalStatus sampleIntent (sentWith sampleIntent [] (.error raised)) none =
      .sending := by decide +kernel
  rw [hstatus, hsending] at hsettled
  rcases hsettled with h | h | h <;> cases h

end SolMesh
