import SolMesh.Foundations.StableSort
import SolMesh.Store.Terms
import SolMesh.Client.Stranding

set_option relaxedAutoImplicit false
set_option autoImplicit false

/-!
# What a flush cycle attempts

A flush cycle reads the pending intents once, skips those it is not asked for or has no passphrase
for, and stops when the gateway is offline. A flush of one intent may raise at any point; the cycle
goes on with the next one. No one else touches the queue.

## Main definitions

* `SolMesh.flushLoop` — the loop of a flush cycle, with any way to flush one intent.
* `SolMesh.Eligible` — the intents a cycle is to attempt.
* `SolMesh.enteredIn`, `SolMesh.readingsIn` — the attempts and the readings of the gateway.
* `SolMesh.Framed` — everything else is unchanged.

## Main results

* `SolMesh.runs_flushLoop` — what the loop does.
* `SolMesh.flushAllPending_attempts` — what `flush_all_pending` does.
* `SolMesh.flush_attempts` — what a flush cycle does.
-/

namespace SolMesh

open Py Text Conc Sorting

variable {F N : Type}

/-! ## The cycle over a way to flush -/

/-- A call of a program for `flush_intent`, with its beginning and its end marked. -/
def callFlush (flush : Intent F → Text → Flush F (Except Exn TxOutcome)) (intent : Intent F)
    (passphrase : Text) : Flush F (Except Exn TxOutcome) := do
  Flush.enter intent
  let result ← flush intent passphrase
  Flush.leave result
  return result

/-- The loop over the pending intents, with any program for `flush_intent`. -/
def flushLoop (flush : Intent F → Text → Flush F (Except Exn TxOutcome))
    (passphraseMap : Dict String Text) (walletFilter : Option String) :
    List (String × TxOutcome) → List (Intent F) → Flush F (List (String × TxOutcome))
  | results, [] => return results
  | results, intent :: pending => do
    if (walletFilter.any fun w => decide (w ≠ "") && decide (intent.walletName ≠ w)) then
      flushLoop flush passphraseMap walletFilter results pending
    else
      match ← passphraseFor passphraseMap intent.walletName with
      | none => flushLoop flush passphraseMap walletFilter results pending
      | some passphrase =>
        if !(← Flush.isGatewayOnline) then return results
        else
          let result ← callFlush flush intent passphrase
          flushLoop flush passphraseMap walletFilter (results ++ [resultEntry intent.id result])
            pending

/-- A flush cycle, with any program for `flush_intent`. -/
def flushCycle (flush : Intent F → Text → Flush F (Except Exn TxOutcome))
    (passphraseMap : Dict String Text) (walletFilter : Option String) :
    Flush F (List (String × TxOutcome)) := do
  let pending ← Flush.pendingIntents
  flushLoop flush passphraseMap walletFilter [] pending

/-- The loop of the program. -/
lemma flushEach_eq (passphraseMap : Dict String Text) (walletFilter : Option String)
    (results : List (String × TxOutcome)) (pending : List (Intent F)) :
    flushEach passphraseMap walletFilter results pending =
      flushLoop flushIntent passphraseMap walletFilter results pending := by
  induction pending generalizing results with
  | nil => rfl
  | cons intent pending ih =>
    unfold flushEach flushLoop
    simp only [ih]
    rfl

/-- The flush cycle of the program. -/
lemma flushAllPending_eq (passphraseMap : Dict String Text) (walletFilter : Option String) :
    (flushAllPending passphraseMap walletFilter : Flush F _) =
      flushCycle flushIntent passphraseMap walletFilter := by
  unfold flushAllPending flushCycle
  simp only [flushEach_eq]

/-! ## Attempts and readings -/

/-- The intent that `flush_intent` is called with, if the operation marks a call. -/
def attemptOf (e : (op : FlushOp F) × op.Ans) : Option (Intent F) :=
  match e with
  | ⟨.enter intent, _⟩ => some intent
  | _ => none

/-- The reading of the gateway, if the operation is one: is it online? -/
def readingOf (e : (op : FlushOp F) × op.Ans) : Option Bool :=
  match e with
  | ⟨.isGatewayOnline, online⟩ => some online
  | _ => none

/-- The intents that were attempted in a run. -/
def enteredIn (t : List ((op : FlushOp F) × op.Ans)) : List (Intent F) := t.filterMap attemptOf

/-- The readings of the gateway in a run. -/
def readingsIn (t : List ((op : FlushOp F) × op.Ans)) : List Bool := t.filterMap readingOf

@[simp] lemma enteredIn_append (t t' : List ((op : FlushOp F) × op.Ans)) :
    enteredIn (t ++ t') = enteredIn t ++ enteredIn t' := List.filterMap_append

@[simp] lemma readingsIn_append (t t' : List ((op : FlushOp F) × op.Ans)) :
    readingsIn (t ++ t') = readingsIn t ++ readingsIn t' := List.filterMap_append

/-- The operations of a flush of one intent. -/
def FlushOp.On (intentId : String) : FlushOp F → Prop
  | .updateStatus id .. | .incrementAttempts id | .get id | .dispatch id _ => id = intentId
  | .waitForResult _ => True
  | .pendingIntents | .cachedPassphrase _ | .isGatewayOnline | .enter _ | .leave _ => False

/-- A flush of one intent neither attempts others nor reads the gateway. -/
lemma nil_of_on {intentId : String} {t : List ((op : FlushOp F) × op.Ans)}
    (h : ∀ e ∈ t, e.1.On intentId) : enteredIn t = [] ∧ readingsIn t = [] := by
  have hnone : ∀ e ∈ t, attemptOf e = none ∧ readingOf e = none := by
    intro e he
    have hon := h e he
    obtain ⟨op, r⟩ := e
    cases op with
    | updateStatus | incrementAttempts | get | dispatch | waitForResult => exact ⟨rfl, rfl⟩
    | pendingIntents | cachedPassphrase | isGatewayOnline | enter | leave => exact hon.elim
  exact ⟨List.filterMap_eq_nil_iff.mpr fun e he => (hnone e he).1,
    List.filterMap_eq_nil_iff.mpr fun e he => (hnone e he).2⟩

/-- The operations after the dispatch are on the intent. -/
lemma FlushOp.Settles.on {op : FlushOp F} {intentId : String} (h : op.Settles intentId) :
    op.On intentId := by
  cases op with
  | updateStatus | incrementAttempts | get | waitForResult => exact h
  | pendingIntents | cachedPassphrase | isGatewayOnline | dispatch | enter | leave => exact h.elim

/-- The program for `flush_intent` only performs operations on its intent. -/
lemma performs_flushIntent (intent : Intent F) (passphrase : Text) :
    (flushIntent intent passphrase).Performs (FlushOp.On intent.id) := by
  have hsend : (sendIntent intent passphrase).Performs (FlushOp.On intent.id) := by
    unfold sendIntent
    cases dispatchOf intent passphrase with
    | error e => trivial
    | ok request => exact ⟨rfl, fun _ => trivial⟩
  refine ⟨rfl, fun _ => hsend.bind fun answer => ?_⟩
  cases answer with
  | error e => exact (settles_sendFailed _ e).mono fun _ h => h.on
  | ok msgId => exact (settles_awaitResult _ msgId).mono fun _ h => h.on

/-! ## What stays as it is -/

/-- **Everything but these intents is unchanged**, and so are the order of the queue and the terms
of all intents. -/
def Framed (ids : List String) : List (Intent F) → List (Intent F) → Prop :=
  List.Forall₂ fun i j => j.terms = i.terms ∧ (i.id ∉ ids → j = i)

lemma Framed.refl (ids : List String) (intents : List (Intent F)) : Framed ids intents intents :=
  List.forall₂_same.mpr fun _ _ => ⟨rfl, fun _ => rfl⟩

/-- One change after the other. -/
lemma Framed.trans {ids ids' : List String} {q₁ q₂ q₃ : List (Intent F)} (h : Framed ids q₁ q₂)
    (h' : Framed ids' q₂ q₃) : Framed (ids ++ ids') q₁ q₃ := by
  unfold Framed at h h'
  induction h generalizing q₃ with
  | nil =>
    cases h'
    exact .nil
  | @cons i j q₁ q₂ hij _ ih =>
    cases h' with
    | @cons _ k _ q₃ hjk hrest =>
      refine .cons ⟨hjk.1.trans hij.1, fun hk => ?_⟩ (ih hrest)
      have hid : j.id = i.id := congrArg Terms.id hij.1
      rw [List.mem_append, not_or] at hk
      rw [hjk.2 (hid ▸ hk.2), hij.2 hk.1]

/-- More may have changed. -/
lemma Framed.mono {ids ids' : List String} {q q' : List (Intent F)} (h : Framed ids q q')
    (hids : ids ⊆ ids') : Framed ids' q q' :=
  List.Forall₂.imp (fun _ _ hij => ⟨hij.1, fun hi => hij.2 fun hmem => hi (hids hmem)⟩) h

/-- A change of one intent that keeps its terms. -/
lemma framed_modifyStored {f : Intent F → Intent F} (hf : ∀ i, (f i).terms = i.terms)
    (intentId : String) (intents : List (Intent F)) :
    Framed [intentId] intents ((modifyStored intentId f).after intents) := by
  have hfirst : ∀ q : List (Intent F), Framed [intentId] q (modifyFirst intentId f q) := by
    intro q
    induction q with
    | nil => exact .nil
    | cons i q ih =>
      rw [modifyFirst]
      split_ifs with hi
      · exact .cons ⟨hf i, fun hne => absurd (List.mem_singleton.mpr hi) hne⟩ (Framed.refl _ q)
      · exact .cons ⟨rfl, fun _ => rfl⟩ ih
  unfold StoreOp.after modifyStored
  split_ifs
  · exact hfirst intents
  · exact .refl _ intents

/-! ## Running alone -/

/-- The meaning of the operations when the cached passphrases are given. -/
def cachedExec (M : Medium F N) (cached : String → Option Text) :
    (op : FlushOp F) → World F N → op.Ans → World F N → Prop
  | .cachedPassphrase walletName, w, r, w' => r = cached walletName ∧ w' = w
  | op, w, r, w' => flushExec M op w r w'

section Alone

variable {M : Medium F N} {cached : String → Option Text} {w w' : World F N}
  {t : List ((op : FlushOp F) × op.Ans)}

/-- An operation of a flush changes its intent at most. -/
lemma framed_of_on {op : FlushOp F} {r : op.Ans} {intentId : String} (hop : op.On intentId)
    (h : cachedExec M cached op w r w') : Framed [intentId] w.queue w'.queue := by
  cases op with
  | pendingIntents | cachedPassphrase | isGatewayOnline | enter | leave => exact hop.elim
  | updateStatus id status error txHash =>
    obtain ⟨now, _, rfl⟩ := h
    obtain rfl : id = intentId := hop
    exact framed_modifyStored (Intent.terms_withStatus now status error txHash) _ _
  | incrementAttempts id =>
    obtain ⟨now, _, rfl⟩ := h
    obtain rfl : id = intentId := hop
    exact framed_modifyStored (Intent.terms_attempted now) _ _
  | get id =>
    obtain ⟨_, rfl⟩ := h
    exact .refl _ _
  | dispatch id request =>
    obtain ⟨_, _, _, _, rfl⟩ := h
    exact .refl _ _
  | waitForResult msgId =>
    obtain ⟨_, _, rfl⟩ := h
    exact .refl _ _

/-- **A flush of one intent** changes this intent at most, whatever it returns or raises. -/
lemma framed_of_performs {p : Flush F (Except Exn TxOutcome)} {intentId : String}
    (hp : p.Performs (FlushOp.On intentId)) {r : Except Exn TxOutcome}
    (h : p.Runs (cachedExec M cached) w t r w') : Framed [intentId] w.queue w'.queue := by
  refine h.induction (J := fun v => Framed [intentId] w.queue v.queue) hp (.refl _ _) ?_
  intro op v r v' hop hexec hframed
  exact (hframed.trans (framed_of_on hop hexec)).mono (by simp)

/-- The passphrase for a wallet is the one given, else the cached one. -/
lemma runs_passphraseFor {passphraseMap : Dict String Text} {walletName : String}
    {r : Option Text} (h : (passphraseFor passphraseMap walletName).Runs (cachedExec M cached) w t r
      w') :
    r = (passphraseMap.get? walletName).or (cached walletName) ∧ w' = w ∧ enteredIn t = [] ∧
      readingsIn t = [] := by
  unfold passphraseFor at h
  cases hmap : passphraseMap.get? walletName with
  | some p =>
    rw [hmap] at h
    obtain ⟨rfl, rfl, rfl⟩ := Prog.runs_pure_iff.mp h
    exact ⟨rfl, rfl, rfl, rfl⟩
  | none =>
    rw [hmap] at h
    obtain ⟨rfl, rfl, rfl⟩ := Prog.runs_perform_iff.mp h
    exact ⟨rfl, rfl, rfl, rfl⟩

/-- A call of a program for `flush_intent` is one attempt. -/
lemma runs_callFlush {flush : Intent F → Text → Flush F (Except Exn TxOutcome)}
    {intent : Intent F} {passphrase : Text}
    (hflush : (flush intent passphrase).Performs (FlushOp.On intent.id))
    {r : Except Exn TxOutcome}
    (h : (callFlush flush intent passphrase).Runs (cachedExec M cached) w t r w') :
    enteredIn t = [intent] ∧ readingsIn t = [] ∧ Framed [intent.id] w.queue w'.queue := by
  unfold callFlush at h
  obtain ⟨_, u, t₁, rfl, rfl, h⟩ := Prog.runs_perform_bind_iff.mp h
  obtain ⟨t₂, r', v, t₃, rfl, hrun, h⟩ := Prog.runs_bind_iff.mp h
  obtain ⟨_, u', t₄, rfl, rfl, h⟩ := Prog.runs_perform_bind_iff.mp h
  obtain ⟨rfl, rfl, rfl⟩ := Prog.runs_pure_iff.mp h
  obtain ⟨hentered, hreadings⟩ := nil_of_on (hrun.performs hflush)
  have hframed := framed_of_performs hflush hrun
  refine ⟨?_, ?_, hframed⟩
  · change intent :: enteredIn (t₂ ++ _) = [intent]
    rw [enteredIn_append, hentered]
    rfl
  · change readingsIn (t₂ ++ _) = []
    rw [readingsIn_append, hreadings]
    rfl

end Alone

/-! ## The loop -/

/-- The wallet of the intent passes the filter, and its passphrase is known. -/
def Eligible (passphraseMap : Dict String Text) (cached : String → Option Text)
    (walletFilter : Option String) (i : Intent F) : Bool :=
  !(walletFilter.any fun w => decide (w ≠ "") && decide (i.walletName ≠ w)) &&
    ((passphraseMap.get? i.walletName).or (cached i.walletName)).isSome

/-- **A cycle attempts the first `k` eligible intents**: it reads the gateway before each of them,
and stops before the next one because it reads that the gateway is offline. The results are theirs,
and everything else is unchanged. -/
structure AttemptsFirst (k : ℕ) (eligible : List (Intent F))
    (t : List ((op : FlushOp F) × op.Ans)) (results : List (String × TxOutcome))
    (q q' : List (Intent F)) : Prop where
  le : k ≤ eligible.length
  entered : enteredIn t = eligible.take k
  readings : readingsIn t =
    List.replicate k true ++ if k < eligible.length then [false] else []
  results : results.map Prod.fst = (eligible.take k).map Intent.id
  framed : Framed ((eligible.take k).map Intent.id) q q'

/-- **The loop attempts the first of the eligible intents**, as many as it finds the gateway online
for.

**Proof sketch.** Induction on the pending intents. One that is skipped changes nothing, an offline
gateway ends the loop, and one that is attempted comes first and changes nothing but its own intent
(`runs_callFlush`). -/
lemma runs_flushLoop {M : Medium F N} {cached : String → Option Text}
    {flush : Intent F → Text → Flush F (Except Exn TxOutcome)}
    (hflush : ∀ i p, (flush i p).Performs (FlushOp.On i.id)) {passphraseMap : Dict String Text}
    {walletFilter : Option String} {pending : List (Intent F)}
    {results results' : List (String × TxOutcome)} {w w' : World F N}
    {t : List ((op : FlushOp F) × op.Ans)}
    (h : (flushLoop flush passphraseMap walletFilter results pending).Runs (cachedExec M cached) w t
      results' w') :
    ∃ k entries, results' = results ++ entries ∧ AttemptsFirst k
      (pending.filter (Eligible passphraseMap cached walletFilter)) t entries w.queue w'.queue := by
  induction pending generalizing results w t with
  | nil =>
    obtain ⟨rfl, rfl, rfl⟩ := Prog.runs_pure_iff.mp h
    exact ⟨0, [], (List.append_nil _).symm, le_rfl, rfl, rfl, rfl, .refl _ _⟩
  | cons intent pending ih =>
    unfold flushLoop at h
    split_ifs at h with hother
    · -- another wallet
      have hskip : ¬ Eligible passphraseMap cached walletFilter intent = true := by
        rw [Eligible, hother]
        simp
      rw [List.filter_cons_of_neg hskip]
      exact ih h
    · obtain ⟨t₁, passphrase, u, t₂, rfl, hpassphrase, hfound⟩ := Prog.runs_bind_iff.mp h
      obtain ⟨hanswer, rfl, hentered₁, hreadings₁⟩ := runs_passphraseFor hpassphrase
      have heligible : Eligible passphraseMap cached walletFilter intent = passphrase.isSome := by
        rw [Eligible, Bool.eq_false_iff.mpr hother, hanswer]
        rfl
      cases passphrase with
      | none =>
        -- no passphrase
        rw [List.filter_cons_of_neg (by rw [heligible]; simp)]
        obtain ⟨k, entries, hresults, hcycle⟩ := ih hfound
        refine ⟨k, entries, hresults, hcycle.le, ?_, ?_, hcycle.results, hcycle.framed⟩
        · rw [enteredIn_append, hentered₁, hcycle.entered, List.nil_append]
        · rw [readingsIn_append, hreadings₁, hcycle.readings, List.nil_append]
      | some passphrase =>
        rw [List.filter_cons_of_pos (by rw [heligible]; rfl)]
        obtain ⟨online, u', t₃, rfl, rfl, hread⟩ := Prog.runs_perform_bind_iff.mp hfound
        cases online with
        | false =>
          -- the gateway is offline
          obtain ⟨rfl, rfl, rfl⟩ := Prog.runs_pure_iff.mp hread
          refine ⟨0, [], (List.append_nil _).symm, Nat.zero_le _, ?_, ?_, rfl, .refl _ _⟩
          · rw [enteredIn_append, hentered₁]
            rfl
          · rw [readingsIn_append, hreadings₁, if_pos (by simp)]
            rfl
        | true =>
          obtain ⟨t₄, result, v, t₅, rfl, hcall, hrest⟩ := Prog.runs_bind_iff.mp hread
          obtain ⟨hentered₄, hreadings₄, hframed⟩ := runs_callFlush (hflush intent passphrase) hcall
          obtain ⟨k, entries, rfl, hcycle⟩ := ih hrest
          refine ⟨k + 1, resultEntry intent.id result :: entries, ?_, ?_, ?_, ?_, ?_, ?_⟩
          · rw [List.append_assoc, List.singleton_append]
          · exact Nat.succ_le_succ hcycle.le
          · change enteredIn (t₁ ++ ([⟨.isGatewayOnline, true⟩] ++ (t₄ ++ t₅))) = _
            rw [enteredIn_append, enteredIn_append, enteredIn_append, hentered₁, hentered₄,
              hcycle.entered]
            rfl
          · change readingsIn (t₁ ++ ([⟨.isGatewayOnline, true⟩] ++ (t₄ ++ t₅))) = _
            rw [readingsIn_append, readingsIn_append, readingsIn_append, hreadings₁, hreadings₄,
              hcycle.readings, List.length_cons]
            simp [List.replicate_succ, readingsIn, readingOf]
          · have hid : (resultEntry intent.id result).1 = intent.id := by cases result <;> rfl
            rw [List.map_cons, hid, hcycle.results]
            rfl
          · exact hframed.trans hcycle.framed

/-! ## The cycle -/

/-- The pending intents, by the time they were created. -/
def createdBefore (i j : Intent F) : Bool := decide (i.createdAt ≤ j.createdAt)

/-- Of two intents, one was created before the other. -/
lemma createdBefore_total (i j : Intent F) : (createdBefore i j || createdBefore j i) = true := by
  simpa [createdBefore] using le_total i.createdAt j.createdAt

/-- The pending intents are sorted stably. -/
lemma isStableSort_pendingIntents (intents : List (Intent F)) :
    IsStableSort createdBefore (IntentStore.pendingIntents intents).1
      (intents.filter fun i => decide (i.status = .pending)) :=
  isStableSort_mergeSort_key Intent.createdAt _

/-- **What a flush cycle attempts**, with a program for `flush_intent` that performs operations on
its intent only.

**Proof sketch.** The cycle reads the pending intents, and its loop attempts the first of those that
are eligible (`runs_flushLoop`). The eligible ones are in their stable order
(`IsStableSort.filter`), and their ids are among the distinct ids of the queue. -/
lemma attempts_of_runs {M : Medium F N} {cached : String → Option Text}
    {flush : Intent F → Text → Flush F (Except Exn TxOutcome)}
    (hon : ∀ i p, (flush i p).Performs (FlushOp.On i.id))
    {w w' : World F N} (hids : (w.queue.map Intent.id).Nodup) {passphraseMap : Dict String Text}
    {walletFilter : Option String} {t : List ((op : FlushOp F) × op.Ans)}
    {results : List (String × TxOutcome)}
    (hrun : (flushCycle flush passphraseMap walletFilter).Runs (cachedExec M cached) w t results
      w') :
    ∃ (eligible : List (Intent F)) (k : ℕ),
      IsStableSort createdBefore eligible (w.queue.filter fun i =>
        decide (i.status = .pending) && Eligible passphraseMap cached walletFilter i) ∧
      AttemptsFirst k eligible t results w.queue w'.queue ∧
      ((enteredIn t).map Intent.id).Nodup := by
  unfold flushCycle at hrun
  obtain ⟨pending, u, t', rfl, ⟨rfl, rfl⟩, hloop⟩ := Prog.runs_perform_bind_iff.mp hrun
  obtain ⟨k, entries, rfl, hcycle⟩ := runs_flushLoop hon hloop
  have hsorted := (isStableSort_pendingIntents u.queue).filter
    (Eligible passphraseMap cached walletFilter)
  have hcond : (u.queue.filter fun i => decide (i.status = .pending)).filter
      (Eligible passphraseMap cached walletFilter) = u.queue.filter fun i =>
        decide (i.status = .pending) && Eligible passphraseMap cached walletFilter i := by
    rw [List.filter_filter]
    exact List.filter_congr fun i _ => Bool.and_comm _ _
  rw [hcond] at hsorted
  refine ⟨_, k, hsorted, ⟨hcycle.le, hcycle.entered, hcycle.readings, hcycle.results,
    hcycle.framed⟩, ?_⟩
  -- the ids of the eligible intents are among those of the queue
  have hnodup : (((IntentStore.pendingIntents u.queue).1.filter
      (Eligible passphraseMap cached walletFilter)).map Intent.id).Nodup :=
    (nodup_pendingIntents hids).sublist (List.filter_sublist.map Intent.id)
  change ((enteredIn t').map Intent.id).Nodup
  rw [hcycle.entered]
  exact hnodup.sublist ((List.take_sublist k _).map Intent.id)

/-- **What `flush_all_pending` attempts**, when nothing but its own operations raises. -/
theorem flushAllPending_attempts {M : Medium F N} {cached : String → Option Text}
    {w w' : World F N} (hids : (w.queue.map Intent.id).Nodup) {passphraseMap : Dict String Text}
    {walletFilter : Option String} {t : List ((op : FlushOp F) × op.Ans)}
    {results : List (String × TxOutcome)}
    (hrun : (flushAllPending passphraseMap walletFilter).Runs (cachedExec M cached) w t results
      w') :
    ∃ (eligible : List (Intent F)) (k : ℕ),
      IsStableSort createdBefore eligible (w.queue.filter fun i =>
        decide (i.status = .pending) && Eligible passphraseMap cached walletFilter i) ∧
      AttemptsFirst k eligible t results w.queue w'.queue ∧
      ((enteredIn t).map Intent.id).Nodup := by
  rw [flushAllPending_eq] at hrun
  exact attempts_of_runs performs_flushIntent hids hrun

/-- **What a flush cycle attempts.** The program for `flush_intent` is the one of the client, for
which this is the cycle of the client (`flushAllPending_eq`), or cut short by an exception at any
point; the passphrases, the answers of the mesh and the readings of the gateway are arbitrary; the
ids in the queue are distinct, and no one else touches it. Then a cycle attempts the first of the
eligible intents, which are pending, pass the filter and have a known passphrase, in the stable
order of their creation: all of them unless the gateway is read as offline, and each of them once.
The results carry their ids, and everything else is unchanged: the order of the queue, the terms of
all intents, and all of the intents that are not attempted.

**Proof sketch.** Cut or not, the program for an intent performs operations on this intent only
(`performs_flushIntent`), which is all that the account of a cycle needs (`attempts_of_runs`). -/
theorem flush_attempts {M : Medium F N} {cached : String → Option Text}
    {flush : Intent F → Text → Flush F (Except Exn TxOutcome)}
    (hflush : ∀ i p, Prog.Cut (fun r => ∃ e, r = .error e) (flushIntent i p) (flush i p))
    {w w' : World F N} (hids : (w.queue.map Intent.id).Nodup) {passphraseMap : Dict String Text}
    {walletFilter : Option String} {t : List ((op : FlushOp F) × op.Ans)}
    {results : List (String × TxOutcome)}
    (hrun : (flushCycle flush passphraseMap walletFilter).Runs (cachedExec M cached) w t results
      w') :
    ∃ (eligible : List (Intent F)) (k : ℕ),
      IsStableSort createdBefore eligible (w.queue.filter fun i =>
        decide (i.status = .pending) && Eligible passphraseMap cached walletFilter i) ∧
      AttemptsFirst k eligible t results w.queue w'.queue ∧
      ((enteredIn t).map Intent.id).Nodup :=
  attempts_of_runs (fun i p => (hflush i p).performs (performs_flushIntent i p)) hids hrun

/-! ## A sample cycle -/

/-- An intent that was created after the sample intent. -/
def laterIntent : Intent ℤ := { sampleIntent with id := "b", createdAt := 1 }

/-- The world in which both are pending, the later one in front. -/
def samplePending : World ℤ Unit :=
  { (World.empty () : World ℤ Unit) with queue := [laterIntent, sampleIntent] }

/-- Answers to a flush cycle: every passphrase is cached, no result arrives, and the gateway is
online until something was dispatched. -/
def onlineOnce : (op : FlushOp ℤ) → World ℤ Unit → op.Ans × World ℤ Unit
  | .isGatewayOnline, w => (w.dispatched.isEmpty, w)
  | op, w => flushAnswer (fun _ _ net => (.ok 7, net)) (fun _ net => (none, net)) op w

/-- These are answers that the operations can give. -/
lemma cachedExec_onlineOnce (op : FlushOp ℤ) (w : World ℤ Unit) :
    cachedExec (told (.ok 7) none) (fun _ => some []) op w (onlineOnce op w).1
      (onlineOnce op w).2 := by
  have hanswer : flushExec (told (.ok 7) none) op w
      (flushAnswer (fun _ _ net => (.ok 7, net)) (fun _ net => (none, net)) op w).1
      (flushAnswer (fun _ _ net => (.ok 7, net)) (fun _ net => (none, net)) op w).2 :=
    flushExec_flushAnswer (fun _ _ _ => rfl) (fun _ _ => rfl) op w
  cases op with
  | cachedPassphrase walletName => exact ⟨rfl, rfl⟩
  | isGatewayOnline => rfl
  | _ => exact hanswer

/-- The two intents, by the time they were created. -/
lemma isStableSort_samplePending :
    IsStableSort createdBefore [sampleIntent, laterIntent] [laterIntent, sampleIntent] := by
  refine ⟨.swap _ _ _, by decide, fun i => ?_⟩
  have hranks : SameRank createdBefore i sampleIntent = false ∨
      SameRank createdBefore i laterIntent = false := by
    simp only [SameRank, createdBefore, Bool.and_eq_false_iff, decide_eq_false_iff_not, not_le]
    by_cases hzero : i.createdAt ≤ 0
    · exact Or.inr (Or.inr (lt_of_le_of_lt hzero (by decide)))
    · exact Or.inl (Or.inl (lt_of_not_ge hzero))
  rcases hranks with hranks | hranks <;> simp [List.filter_cons, hranks]

/-- These are the pending intents. -/
lemma pendingIntents_samplePending :
    (IntentStore.pendingIntents samplePending.queue).1 = [sampleIntent, laterIntent] :=
  (isStableSort_pendingIntents samplePending.queue).unique createdBefore_total
    isStableSort_samplePending

/-- A cycle of the program over two pending intents: it attempts the earlier one, and then the
gateway is offline. -/
theorem flush_attempts_one_of_two :
    ∃ t results w', (flushAllPending ∅ none).Runs
        (cachedExec (told (.ok 7) none) fun _ => some []) samplePending t results w' ∧
      AttemptsFirst 1 [sampleIntent, laterIntent] t results samplePending.queue w'.queue := by
  have hrun : (flushAllPending ∅ none).Runs (cachedExec (told (.ok 7) none) fun _ => some [])
      samplePending (⟨.pendingIntents, [sampleIntent, laterIntent]⟩ :: _) _ _ :=
    .call ⟨pendingIntents_samplePending.symm, rfl⟩ (Prog.runs_eval onlineOnce cachedExec_onlineOnce
      (flushEach ∅ none [] [sampleIntent, laterIntent]) samplePending)
  have hentered : (enteredIn ((flushEach ∅ none [] [sampleIntent, laterIntent]).trace onlineOnce
      samplePending)).length = 1 := by decide +kernel
  refine ⟨_, _, _, hrun, ?_⟩
  rw [flushAllPending_eq] at hrun
  obtain ⟨eligible, k, hsorted, hcycle, _⟩ :=
    flush_attempts (fun i p => Prog.Cut.refl _ _) (by decide) hrun
  obtain rfl : eligible = [sampleIntent, laterIntent] :=
    hsorted.unique createdBefore_total isStableSort_samplePending
  have hlength : ([sampleIntent, laterIntent].take k).length = 1 :=
    hcycle.entered ▸ hentered
  obtain rfl : k = 1 := by
    rw [List.length_take] at hlength
    simp at hlength
    omega
  exact hcycle

end SolMesh
