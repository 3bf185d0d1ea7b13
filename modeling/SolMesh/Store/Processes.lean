import SolMesh.Foundations.ReadModifyWrite
import SolMesh.Store.Intent

set_option relaxedAutoImplicit false
set_option autoImplicit false

/-!
# Processes that share a queue

Every operation of the store loads the whole queue file and saves a whole queue. Only flush cycles
take the lock, and they exclude only each other. So a process can save a queue that it made of an
old one, and what others have saved in the meantime is lost.

## Main definitions

* `SolMesh.StoreCall` — the operations that change the queue.
* `SolMesh.Processes` — processes that perform such operations.

## Main results

* `SolMesh.StoreCall.stored_after` — what an operation does to a stored intent.
* `SolMesh.processes_serializable` — if every save finds the queue that its operation loaded, the
  operations are serializable, and no update is lost.
* `SolMesh.not_processes_serializable` — an added intent that is lost.
-/

namespace SolMesh

open Py Text Conc IntentStore

variable {F : Type}

/-! ## Calls -/

/-- The operations of the store that can change the queue, with the time at which they do. -/
inductive StoreCall (F : Type)
  | recoverSending (now : String → ℚ)
  | add (intent : Intent F)
  | updateStatus (now : ℚ) (intentId : String) (status : IntentStatus) (error txHash : Option Text)
  | incrementAttempts (now : ℚ) (intentId : String)
  | remove (intentId : String)
  | clear (status : Option IntentStatus)

namespace StoreCall

/-- What the operations return. -/
def Ans : StoreCall F → Type
  | recoverSending _ => Unit
  | add _ => Except Exn (Intent F)
  | updateStatus .. | incrementAttempts .. | remove _ => Bool
  | clear _ => ℕ

/-- The operation that is called. -/
def perform [BEq F] [Number F] : (call : StoreCall F) → StoreOp F call.Ans
  | recoverSending now => IntentStore.recoverSending now
  | add intent => IntentStore.add intent
  | updateStatus now intentId status error txHash =>
    IntentStore.updateStatus now intentId status error txHash
  | incrementAttempts now intentId => IntentStore.incrementAttempts now intentId
  | remove intentId => IntentStore.remove intentId
  | clear status => IntentStore.clear status

/-- The operation can remove the intent with this id. -/
def Removes (intentId : String) : StoreCall F → Prop
  | remove id => id = intentId
  | clear _ => True
  | recoverSending _ | add _ | updateStatus .. | incrementAttempts .. => False

/-- The operation is asked to change the intent with this id. -/
def Rewrites (intentId : String) : StoreCall F → Prop
  | updateStatus _ id .. | incrementAttempts _ id => id = intentId
  | recoverSending _ | add _ | remove _ | clear _ => False

variable [BEq F] [Number F] {intents : List (Intent F)} {intentId : String} {i : Intent F}
  {call : StoreCall F}

/-- An addition leaves what is stored. -/
lemma stored_add_of_some (h : stored intents intentId = some i) (intent : Intent F) :
    stored ((IntentStore.add intent).after intents) intentId = some i := by
  unfold StoreOp.after IntentStore.add
  split_ifs
  · exact h
  · change stored (intents ++ [intent]) intentId = some i
    unfold stored at h ⊢
    rw [List.find?_append, h, Option.some_or]

/-- **What an operation does to a stored intent** that it cannot remove: it leaves it as it is, or
recovers it, unless it is asked to change it.

**Proof sketch.** One case for each operation, by what it does to the intent stored under an id. -/
lemma stored_after (h : stored intents intentId = some i) (hkeeps : ¬ call.Removes intentId) :
    ∃ j, stored (valueAfter perform call intents) intentId = some j ∧
      (call.Rewrites intentId ∨ j = i ∨ ∃ now, j = recovered now i) := by
  cases call with
  | recoverSending now =>
    refine ⟨recovered now i, ?_, Or.inr (Or.inr ⟨now, rfl⟩)⟩
    change stored ((IntentStore.recoverSending now).after intents) intentId = _
    rw [stored_recoverSending, h, Option.map_some]
  | add intent => exact ⟨i, stored_add_of_some h intent, Or.inr (Or.inl rfl)⟩
  | updateStatus now id status error txHash =>
    change ∃ j, stored ((IntentStore.updateStatus now id status error txHash).after intents)
      intentId = some j ∧ _
    rw [stored_updateStatus, h]
    by_cases hid : intentId = id
    · rw [if_pos hid]
      exact ⟨_, rfl, Or.inl hid.symm⟩
    · rw [if_neg hid]
      exact ⟨i, rfl, Or.inr (Or.inl rfl)⟩
  | incrementAttempts now id =>
    change ∃ j, stored ((IntentStore.incrementAttempts now id).after intents) intentId = some j ∧ _
    rw [stored_incrementAttempts, h]
    by_cases hid : intentId = id
    · rw [if_pos hid]
      exact ⟨_, rfl, Or.inl hid.symm⟩
    · rw [if_neg hid]
      exact ⟨i, rfl, Or.inr (Or.inl rfl)⟩
  | remove id =>
    refine ⟨i, ?_, Or.inr (Or.inl rfl)⟩
    change stored ((IntentStore.remove id).after intents) intentId = some i
    rw [stored_remove, if_neg fun heq => hkeeps heq.symm, h]
  | clear status => exact absurd trivial hkeeps

/-- A stored intent stays, if it cannot be removed. -/
lemma stored_ne_none_after (hkeeps : ¬ call.Removes intentId)
    (h : stored intents intentId ≠ none) :
    stored (valueAfter perform call intents) intentId ≠ none := by
  obtain ⟨i, hi⟩ := Option.ne_none_iff_exists'.mp h
  obtain ⟨j, hj, _⟩ := stored_after hi hkeeps
  rw [hj]
  exact Option.some_ne_none j

/-- A sent intent stays sent, if it cannot be removed and is not changed. -/
lemma sent_after (hkeeps : ¬ call.Removes intentId) (hsame : ¬ call.Rewrites intentId)
    (h : ∃ i, stored intents intentId = some i ∧ i.status = .sent) :
    ∃ i, stored (valueAfter perform call intents) intentId = some i ∧ i.status = .sent := by
  obtain ⟨i, hi, hsent⟩ := h
  obtain ⟨j, hj, hcases⟩ := stored_after hi hkeeps
  refine ⟨j, hj, ?_⟩
  rcases hcases with hrewrites | rfl | ⟨now, rfl⟩
  · exact absurd hrewrites hsame
  · exact hsent
  · rw [recovered, if_neg (by rw [hsent]; decide), hsent]

/-- An addition that returned has stored an intent. -/
lemma stored_of_add {intent returned : Intent F}
    (h : Except.ok returned = ((add intent).perform intents).1) :
    stored (valueAfter perform (add intent) intents) intent.id ≠ none := by
  change Except.ok returned = (IntentStore.add intent intents).1 at h
  change stored ((IntentStore.add intent).after intents) intent.id ≠ none
  unfold IntentStore.add at h
  unfold StoreOp.after IntentStore.add
  split_ifs at h ⊢
  rw [ne_eq, stored_eq_none_iff]
  simp

/-- A status that was recorded is stored. -/
lemma sent_of_updateStatus {now : ℚ} {error txHash : Option Text}
    (h : true = ((updateStatus now intentId .sent error txHash).perform intents).1) :
    ∃ i, stored (valueAfter perform (updateStatus now intentId .sent error txHash) intents)
      intentId = some i ∧ i.status = .sent := by
  change true = (modifyStored intentId (Intent.withStatus now .sent error txHash) intents).1 at h
  change ∃ i, stored ((IntentStore.updateStatus now intentId .sent error txHash).after intents)
    intentId = some i ∧ _
  rw [stored_updateStatus, if_pos rfl]
  unfold modifyStored at h
  split_ifs at h with hsome
  obtain ⟨i, hi⟩ := Option.isSome_iff_exists.mp hsome
  exact ⟨_, by rw [hi, Option.map_some], rfl⟩

end StoreCall

/-! ## Processes -/

/-- Processes that share the queue file. -/
abbrev Processes (P F : Type) := Sharing P (StoreCall F) StoreCall.Ans (List (Intent F))

variable [BEq F] [Number F]

/-- An intent whose addition returned is stored after any further operations that cannot remove
it. -/
lemma stored_of_serial {P : Type} {intents intents' : List (Intent F)} {p : P}
    {intent returned : Intent F} {pre post : List (Finished P (StoreCall F) StoreCall.Ans)}
    (h : Serial StoreCall.perform intents
      (pre ++ ⟨p, .add intent, Except.ok returned⟩ :: post) intents')
    (hpost : ∀ e ∈ post, ¬ e.op.Removes intent.id) : stored intents' intent.id ≠ none :=
  h.achieves (J := fun intents => stored intents intent.id ≠ none)
    (fun _ => StoreCall.stored_of_add) fun e he _ => StoreCall.stored_ne_none_after (hpost e he)

/-- **No update is lost**, as long as every save finds the queue that its operation loaded: however
the steps of the processes are interleaved, the answers and the queue are those of the operations
performed in some serial order. An intent whose addition returned stays in the queue until a later
operation can remove it, and a status `SENT` that was recorded stays until a later operation
changes or removes the intent.

**Proof sketch.** If every save finds the queue that was loaded, the operations take effect one
after the other, each at its save (`Reaches.serial`). In a serial order an added intent stays
stored, and one that was recorded as sent stays so, over operations that cannot remove or change it
(`stored_of_serial`, `StoreCall.sent_after`). -/
theorem processes_serializable {P : Type} [DecidableEq P] {intents : List (Intent F)}
    {c : Processes P F} (hrun : Sharing.Reaches StoreCall.perform Eq (.start intents) c) :
    Serializable StoreCall.perform intents c.finished c.value ∧
    (∀ pre p intent returned post,
      c.finished = pre ++ ⟨p, .add intent, Except.ok returned⟩ :: post →
      (∀ e ∈ post, ¬ e.op.Removes intent.id) → stored c.value intent.id ≠ none) ∧
    ∀ pre p now intentId error txHash post,
      c.finished = pre ++ ⟨p, .updateStatus now intentId .sent error txHash, true⟩ :: post →
      (∀ e ∈ post, ¬ e.op.Removes intentId ∧ ¬ e.op.Rewrites intentId) →
        ∃ i, stored c.value intentId = some i ∧ i.status = .sent := by
  have hserial := hrun.serial
  refine ⟨hserial.serializable, ?_, ?_⟩
  · intro pre p intent returned post hfinished hpost
    rw [hfinished] at hserial
    exact stored_of_serial hserial hpost
  · intro pre p now intentId error txHash post hfinished hpost
    rw [hfinished] at hserial
    exact hserial.achieves
      (J := fun intents => ∃ i, stored intents intentId = some i ∧ i.status = .sent)
      (fun _ => StoreCall.sent_of_updateStatus)
      fun e he _ => StoreCall.sent_after (hpost e he).1 (hpost e he).2

/-! ## Sample runs -/

/-- A transfer of one SOL to this recipient. -/
def sampleTransfer (intentId recipient : String) : Intent ℤ where
  id := intentId
  mode := 3
  status := .pending
  createdAt := 0
  updatedAt := 0
  walletName := "alice"
  recipient := recipient
  amount := 1
  tokenMint := none
  tokenDecimals := 0
  attempts := 0
  maxAttempts := 3
  lastError := none
  resultTxHash := none

/-- Two intents were added, one by each of two processes. -/
def sampleAdds : List (Finished Bool (StoreCall ℤ) StoreCall.Ans) :=
  [⟨false, .add (sampleTransfer "a" "bob"), Except.ok (sampleTransfer "a" "bob")⟩,
    ⟨true, .add (sampleTransfer "b" "carol"), Except.ok (sampleTransfer "b" "carol")⟩]

/-- One process adds an intent, then the other one adds another: both are stored. -/
theorem processes_serializable_two_adds :
    ∃ c : Processes Bool ℤ, c.finished = sampleAdds ∧ stored c.value "a" ≠ none := by
  have hrun := (((Relation.ReflTransGen.refl (r := Sharing.Step StoreCall.perform Eq)
    (a := .start [])).tail (.load false (.add (sampleTransfer "a" "bob")) rfl nofun)).tail
    (.save false rfl rfl rfl)).tail (.load true (.add (sampleTransfer "b" "carol")) rfl nofun)
  have hend := hrun.tail (.save true rfl rfl rfl)
  exact ⟨_, rfl, (processes_serializable hend).2.1 [] _ _ _ _ rfl (by simp [StoreCall.Removes])⟩

/-- **An added intent can be lost**: two processes load the empty queue, one after the other, and
then each saves a queue with its own intent only. -/
theorem not_processes_serializable :
    ∃ c : Processes Bool ℤ, Sharing.Reaches StoreCall.perform (fun _ _ => True) (.start []) c ∧
      c.finished = sampleAdds ∧ stored c.value "a" = none ∧
      ¬ Serializable StoreCall.perform [] c.finished c.value := by
  have hrun := (((Relation.ReflTransGen.refl (a := .start [])
    (r := Sharing.Step StoreCall.perform fun _ _ => True)).tail
    (.load false (.add (sampleTransfer "a" "bob")) rfl nofun)).tail
    (.load true (.add (sampleTransfer "b" "carol")) rfl nofun)).tail (.save false rfl rfl trivial)
  have hend := hrun.tail (.save true rfl rfl trivial)
  refine ⟨_, hend, rfl, rfl, ?_⟩
  rintro ⟨order, hperm, _, hserial⟩
  -- in every serial order the first intent stays
  have hmem : ⟨false, .add (sampleTransfer "a" "bob"), Except.ok (sampleTransfer "a" "bob")⟩ ∈
      order := hperm.mem_iff.mpr List.mem_cons_self
  obtain ⟨pre, post, rfl⟩ := List.append_of_mem hmem
  refine stored_of_serial hserial (fun e he => ?_) rfl
  have hadd := hperm.mem_iff.mp (List.mem_append_right _ (List.mem_cons_of_mem _ he))
  rcases List.mem_pair.mp hadd with rfl | rfl
  · exact id
  · exact id

end SolMesh
