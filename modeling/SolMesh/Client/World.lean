import Mathlib.Logic.Function.Basic
import SolMesh.Client.Flush

set_option relaxedAutoImplicit false
set_option autoImplicit false

/-!
# The queue and those who use it

A flush cycle holds the flush lock, so there is at most one at a time. Meanwhile other programs
add, remove and clear intents and open the store, and the program that flushes may crash between
any two operations. Each operation is one step: nothing happens between the reading and the writing
of the queue within an operation. What a dispatch and a wait do to the mesh is left to a medium.

## Main definitions

* `SolMesh.World` — the queue, and what is recorded about the flush cycles.
* `SolMesh.Medium` — what a dispatch and a wait can do.
* `SolMesh.Others` — what other programs can do.
* `SolMesh.flushHost` — the meaning of the operations of a flush cycle.

## Main results

* `SolMesh.Others.unchanged`, `SolMesh.Others.stored_cases` — what others leave as it is.
-/

namespace SolMesh

open Py Text Conc

/-! ## State -/

/-- A call of `flush_intent`: the intent it was given, and the answer to its dispatch. -/
structure FlushCall (F : Type) where
  intent : Intent F
  answer : Option (Except Exn UInt16)

/-- The state that flush cycles and others share, and the history of the flush cycles: the intents
created so far, the answers to all dispatches with the intents they were for, the number of
crashes, and the call of `flush_intent` in progress. -/
structure World (F N : Type) where
  queue : List (Intent F)
  net : N
  created : String → Option (Intent F)
  dispatched : List (String × Except Exn UInt16)
  crashes : ℕ
  call : Option (FlushCall F)

/-- A dispatch that raised because the passphrase was wrong. -/
def refused (answer : Except Exn UInt16) : Bool :=
  match answer with
  | .ok _ => false
  | .error e => wrongPassphrase e

variable {F N : Type}

namespace World

/-- How often an intent was dispatched, dispatches with a wrong passphrase aside. -/
def dispatches (w : World F N) (intentId : String) : ℕ :=
  w.dispatched.countP fun d => decide (d.1 = intentId) && !refused d.2

/-- The intent stored under an id. -/
def find (w : World F N) (intentId : String) : Option (Intent F) := stored w.queue intentId

/-- The world in which nothing was queued yet. -/
def empty (net : N) : World F N := ⟨[], net, fun _ => none, [], 0, none⟩

end World

/-! ## The meaning of operations -/

/-- What a dispatch of an intent and a wait for a result can do to the mesh, what can happen there
at any time, and what a crash of the client does to it. -/
structure Medium (F N : Type) where
  dispatch : String → Dispatch F → N → Except Exn UInt16 → N → Prop
  wait : UInt16 → N → Option TxOutcome → N → Prop
  background : N → N → Prop
  crash : N → N → Prop

/-- The meaning of the operations of a flush cycle. -/
def flushExec (M : Medium F N) : (op : FlushOp F) → World F N → op.Ans → World F N → Prop
  | .pendingIntents, w, r, w' => r = (IntentStore.pendingIntents w.queue).1 ∧ w' = w
  | .cachedPassphrase _, w, _, w' => w' = w
  | .isGatewayOnline, w, _, w' => w' = w
  | .enter intent, w, _, w' => w' = { w with call := some ⟨intent, none⟩ }
  | .leave _, w, _, w' => w' = { w with call := none }
  | .updateStatus intentId status error txHash, w, r, w' => ∃ now,
      r = (IntentStore.updateStatus now intentId status error txHash w.queue).1 ∧
      w' = { w with
        queue := (IntentStore.updateStatus now intentId status error txHash).after w.queue }
  | .incrementAttempts intentId, w, r, w' => ∃ now,
      r = (IntentStore.incrementAttempts now intentId w.queue).1 ∧
      w' = { w with queue := (IntentStore.incrementAttempts now intentId).after w.queue }
  | .get intentId, w, r, w' => r = (IntentStore.get intentId w.queue).1 ∧ w' = w
  | .dispatch intentId request, w, r, w' => ∃ (answer : Except Exn UInt16) (net : N), r = answer ∧
      M.dispatch intentId request w.net answer net ∧
      w' = { w with
        net := net
        dispatched := w.dispatched ++ [(intentId, answer)]
        call := w.call.map fun c => { c with answer := some answer } }
  | .waitForResult msgId, w, r, w' => ∃ net, M.wait msgId w.net r net ∧ w' = { w with net := net }

/-- What other programs can do: add a new intent under an id that was never used, remove and clear
intents, and open the store, which recovers what was being sent. Each of these is one step here; as
`StoreCall`, such an operation loads the queue in one step and saves it in another. And the mesh
moves. -/
inductive Others [BEq F] [Number F] (M : Medium F N) : World F N → World F N → Prop
  | add {w : World F N} {intent : Intent F} (hnew : intent.IsNew)
      (hid : w.created intent.id = none) :
      Others M w { w with
        queue := (IntentStore.add intent).after w.queue
        created := Function.update w.created intent.id (some intent) }
  | remove {w : World F N} (intentId : String) :
      Others M w { w with queue := (IntentStore.remove intentId).after w.queue }
  | clear {w : World F N} (status : Option IntentStatus) :
      Others M w { w with queue := (IntentStore.clear status).after w.queue }
  | init {w : World F N} (now : String → ℚ) :
      Others M w { w with queue := (IntentStore.recoverSending now).after w.queue }
  | background {w : World F N} {net : N} (h : M.background w.net net) :
      Others M w { w with net := net }

/-- A crash of the program that flushes: the call in progress ends. -/
inductive Crash (M : Medium F N) : World F N → World F N → Prop
  | intro {w : World F N} {net : N} (h : M.crash w.net net) :
      Crash M w { w with net := net, crashes := w.crashes + 1, call := none }

/-- What flush cycles run on. -/
def flushHost [BEq F] [Number F] (M : Medium F N) : Host (FlushOp F) FlushOp.Ans (World F N) where
  exec := flushExec M
  others := Others M
  crash := Crash M

/-- The programs that are run: flush cycles with any passphrases and any wallet filter. -/
def IsFlush (p : Flush F (List (String × TxOutcome))) : Prop :=
  ∃ passphraseMap walletFilter, p = flushAllPending passphraseMap walletFilter

/-! ## A program that is left alone -/

/-- Answers to the operations of a flush cycle when no one else moves: the gateway is online, the
clock stands still, every passphrase is cached, and the mesh answers as told. -/
def flushAnswer (dispatch : String → Dispatch F → N → Except Exn UInt16 × N)
    (wait : UInt16 → N → Option TxOutcome × N) :
    (op : FlushOp F) → World F N → op.Ans × World F N
  | .pendingIntents, w => ((IntentStore.pendingIntents w.queue).1, w)
  | .cachedPassphrase _, w => (some [], w)
  | .isGatewayOnline, w => (true, w)
  | .enter intent, w => ((), { w with call := some ⟨intent, none⟩ })
  | .leave _, w => ((), { w with call := none })
  | .updateStatus intentId status error txHash, w =>
    ((IntentStore.updateStatus 0 intentId status error txHash w.queue).1, { w with
      queue := (IntentStore.updateStatus 0 intentId status error txHash).after w.queue })
  | .incrementAttempts intentId, w =>
    ((IntentStore.incrementAttempts 0 intentId w.queue).1, { w with
      queue := (IntentStore.incrementAttempts 0 intentId).after w.queue })
  | .get intentId, w => ((IntentStore.get intentId w.queue).1, w)
  | .dispatch intentId request, w => ((dispatch intentId request w.net).1, { w with
      net := (dispatch intentId request w.net).2
      dispatched := w.dispatched ++ [(intentId, (dispatch intentId request w.net).1)]
      call := w.call.map fun c => { c with answer := some (dispatch intentId request w.net).1 } })
  | .waitForResult msgId, w => ((wait msgId w.net).1, { w with net := (wait msgId w.net).2 })

/-- These are answers that the operations can give. -/
lemma flushExec_flushAnswer {M : Medium F N}
    {dispatch : String → Dispatch F → N → Except Exn UInt16 × N}
    {wait : UInt16 → N → Option TxOutcome × N}
    (hdispatch : ∀ intentId request net,
      M.dispatch intentId request net (dispatch intentId request net).1
        (dispatch intentId request net).2)
    (hwait : ∀ msgId net, M.wait msgId net (wait msgId net).1 (wait msgId net).2)
    (op : FlushOp F) (w : World F N) :
    flushExec M op w (flushAnswer dispatch wait op w).1 (flushAnswer dispatch wait op w).2 := by
  cases op with
  | pendingIntents | get => exact ⟨rfl, rfl⟩
  | cachedPassphrase | isGatewayOnline | enter | leave => rfl
  | updateStatus | incrementAttempts => exact ⟨0, rfl, rfl⟩
  | dispatch => exact ⟨_, _, rfl, hdispatch _ _ _, rfl⟩
  | waitForResult => exact ⟨_, hwait _ _, rfl⟩

/-- The world after a flush cycle that is left alone. -/
def afterFlush (dispatch : String → Dispatch F → N → Except Exn UInt16 × N)
    (wait : UInt16 → N → Option TxOutcome × N) (w : World F N) : World F N :=
  ((flushAllPending ∅ none).eval (flushAnswer dispatch wait) w).2

/-- A flush cycle that is left alone. -/
lemma steps_afterFlush [BEq F] [Number F] {M : Medium F N}
    (dispatch : String → Dispatch F → N → Except Exn UInt16 × N)
    (wait : UInt16 → N → Option TxOutcome × N)
    (hdispatch : ∀ intentId request net,
      M.dispatch intentId request net (dispatch intentId request net).1
        (dispatch intentId request net).2)
    (hwait : ∀ msgId net, M.wait msgId net (wait msgId net).1 (wait msgId net).2)
    (w : World F N) :
    ∃ ls, Host.Label.crash ∉ ls ∧
      (flushHost M).Steps IsFlush ⟨none, w⟩ ls ⟨none, afterFlush dispatch wait w⟩ := by
  refine ⟨.start :: (((flushAllPending ∅ none).trace (flushAnswer dispatch wait) w).map
    (fun e => Host.Label.own e.1 e.2) ++ [.finish]), by simp, ?_⟩
  exact .cons (.start ⟨∅, none, rfl⟩) (.eval _ (flushExec_flushAnswer hdispatch hwait) _ w)

/-- A sample intent: five SOL, asked for by Alice. -/
def sampleIntent : Intent ℤ where
  id := "a"
  mode := 3
  status := .pending
  createdAt := 0
  updatedAt := 0
  walletName := "alice"
  recipient := "11111111111111111111111111111111"
  amount := 5
  tokenMint := none
  tokenDecimals := 0
  attempts := 0
  maxAttempts := maxFlushAttempts
  lastError := none
  resultTxHash := none

/-- The world after the sample intent was queued. -/
def sampleWorld (net : N) : World ℤ N :=
  { (World.empty net : World ℤ N) with
    queue := (IntentStore.add sampleIntent).after []
    created := Function.update (fun _ => none) "a" (some sampleIntent) }

/-- Queueing the sample intent. -/
lemma steps_sampleWorld (M : Medium ℤ N) (net : N) :
    (flushHost M).Steps IsFlush ⟨none, World.empty net⟩ [.others] ⟨none, sampleWorld net⟩ := by
  have hnew : sampleIntent.IsNew := ⟨rfl, rfl, by decide⟩
  exact .cons (.others (.add hnew rfl)) (.nil _)

/-! ## What others do -/

variable [BEq F] [Number F] {M : Medium F N} {w w' : World F N}

/-- Others do not change the history of the flush cycles. -/
lemma Others.unchanged (h : Others M w w') :
    w'.dispatched = w.dispatched ∧ w'.crashes = w.crashes ∧ w'.call = w.call := by
  cases h <;> exact ⟨rfl, rfl, rfl⟩

/-- Others do not forget an intent that was created. -/
lemma Others.created (h : Others M w w') {intentId : String} {c : Intent F}
    (hc : w.created intentId = some c) : w'.created intentId = some c := by
  cases h with
  | add hnew hid =>
    change Function.update w.created _ _ intentId = _
    rw [Function.update_of_ne, hc]
    rintro rfl
    rw [hid] at hc
    cases hc
  | remove | clear | init | background => exact hc

/-- **What others do to the intent stored under an id**: they leave it as it is, recover it,
or it is new.

**Proof sketch.** One case for each thing others do. An id that was added was never used before.
Removing and clearing leave the intents that stay as they are, and opening the store recovers them.
-/
lemma Others.stored_cases (h : Others M w w') (hids : (w.queue.map Intent.id).Nodup)
    (hcreated : ∀ intentId i, w.find intentId = some i → w.created intentId ≠ none)
    {intentId : String} {j : Intent F} (hj : w'.find intentId = some j) :
    (∃ i now, w.find intentId = some i ∧ (j = i ∨ j = IntentStore.recovered now i)) ∨
      (w.created intentId = none ∧ w'.created intentId = some j ∧ j.IsNew) := by
  unfold World.find at hj hcreated ⊢
  cases h with
  | @add intent hnew hid =>
    have hnone : stored w.queue intent.id = none := by
      by_contra hsome
      obtain ⟨i, hi⟩ := Option.ne_none_iff_exists'.mp hsome
      exact hcreated _ i hi hid
    rcases stored_add hnone intentId with heq | ⟨rfl, heq⟩
    · exact Or.inl ⟨j, fun _ => 0, heq ▸ hj, Or.inl rfl⟩
    · obtain rfl : intent = j := Option.some.inj (heq.symm.trans hj)
      exact Or.inr ⟨hid, Function.update_self _ _ _, hnew⟩
  | remove removed =>
    change stored ((IntentStore.remove removed).after w.queue) intentId = some j at hj
    rw [stored_remove] at hj
    split_ifs at hj
    exact Or.inl ⟨j, fun _ => 0, hj, Or.inl rfl⟩
  | clear status => exact Or.inl ⟨j, fun _ => 0, stored_clear hids hj, Or.inl rfl⟩
  | init now =>
    change stored ((IntentStore.recoverSending now).after w.queue) intentId = some j at hj
    rw [stored_recoverSending] at hj
    obtain ⟨i, hi, rfl⟩ := Option.map_eq_some_iff.mp hj
    exact Or.inl ⟨i, now, hi, Or.inr rfl⟩
  | background => exact Or.inl ⟨j, fun _ => 0, hj, Or.inl rfl⟩

/-- Others keep the ids distinct.

**Proof sketch.** One case for each thing others do. An added intent has an id that was never used;
the others leave some of the ids, in their order. -/
lemma Others.nodup (h : Others M w w') (hids : (w.queue.map Intent.id).Nodup)
    (hcreated : ∀ intentId i, w.find intentId = some i → w.created intentId ≠ none) :
    (w'.queue.map Intent.id).Nodup := by
  cases h with
  | @add intent hnew hid =>
    refine nodup_add hids ?_
    by_contra hsome
    obtain ⟨i, hi⟩ := Option.ne_none_iff_exists'.mp hsome
    exact hcreated _ i hi hid
  | remove removed =>
    change (((IntentStore.remove removed).after w.queue).map Intent.id).Nodup
    rw [after_remove]
    exact hids.sublist (List.filter_sublist.map _)
  | clear status => exact hids.sublist ((after_clear_sublist status w.queue).map _)
  | init now =>
    change (((IntentStore.recoverSending now).after w.queue).map Intent.id).Nodup
    rw [after_recoverSending, List.map_map]
    simpa [Function.comp_def] using hids
  | background => exact hids

end SolMesh
