import Mathlib.Algebra.Order.Ring.Rat
import SolMesh.Foundations.Python

set_option relaxedAutoImplicit false
set_option autoImplicit false

/-!
# The intent store

Queued transfers are kept in one file. An operation of the store loads the queue, and saves a new
one if it changes anything.

## Main definitions

* `SolMesh.Intent` — a queued transfer with its status.
* `SolMesh.StoreOp` — an operation of the store; `SolMesh.StoreOp.after` is the queue after it.
* `SolMesh.IntentStore.add`, `SolMesh.IntentStore.updateStatus`,
  `SolMesh.IntentStore.incrementAttempts`, `SolMesh.IntentStore.remove`,
  `SolMesh.IntentStore.clear`, `SolMesh.IntentStore.recoverSending` — the writing operations.
* `SolMesh.stored` — the intent stored under an id.

## Main results

* `SolMesh.stored_updateStatus`, `SolMesh.stored_incrementAttempts`, `SolMesh.stored_add`,
  `SolMesh.stored_remove`, `SolMesh.stored_clear`, `SolMesh.stored_recoverSending` — what is
  stored after each of them.
-/

namespace SolMesh

open Py Text

/-! ## Intents -/

/-- The status of a queued intent. -/
inductive IntentStatus
  | pending
  | sending
  | sent
  | failed
  deriving DecidableEq

/-- A queued transfer: 1 relays a signed transaction, 3 asks the gateway for the transfer. -/
structure Intent (F : Type) where
  id : String
  mode : ℕ
  status : IntentStatus
  createdAt : ℚ
  updatedAt : ℚ
  walletName : String
  recipient : String
  amount : F
  tokenMint : Option String
  tokenDecimals : ℕ
  attempts : ℕ
  maxAttempts : ℕ
  lastError : Option Text
  resultTxHash : Option Text

/-- An operation of the store: what it returns for the queue it loads, and the queue it saves, if
it saves one. -/
abbrev StoreOp (F α : Type) := List (Intent F) → α × Option (List (Intent F))

variable {F : Type}

/-- The queue after an operation. -/
def StoreOp.after {α : Type} (op : StoreOp F α) (intents : List (Intent F)) : List (Intent F) :=
  (op intents).2.getD intents

/-- The intent stored under an id: the first one with this id. -/
def stored (intents : List (Intent F)) (intentId : String) : Option (Intent F) :=
  intents.find? fun i => decide (i.id = intentId)

/-- Change the first intent with this id. -/
def modifyFirst (intentId : String) (f : Intent F → Intent F) : List (Intent F) → List (Intent F)
  | [] => []
  | i :: intents => if i.id = intentId then f i :: intents else i :: modifyFirst intentId f intents

/-- Change the intent with this id and save the queue. Is there such an intent? -/
def modifyStored (intentId : String) (f : Intent F → Intent F) : StoreOp F Bool := fun intents =>
  if (stored intents intentId).isSome then (true, some (modifyFirst intentId f intents))
  else (false, none)

/-- The intent with a new status, and an error and a transaction hash where they are given. -/
def Intent.withStatus (now : ℚ) (status : IntentStatus) (error txHash : Option Text)
    (i : Intent F) : Intent F :=
  { i with
    status := status
    updatedAt := now
    lastError := error.or i.lastError
    resultTxHash := txHash.or i.resultTxHash }

/-- The intent after one more attempt. It fails if this was the last one. -/
def Intent.attempted (now : ℚ) (i : Intent F) : Intent F :=
  { i with
    attempts := i.attempts + 1
    updatedAt := now
    status := if i.attempts + 1 ≥ i.maxAttempts then .failed else i.status }

/-! ## Operations -/

namespace IntentStore

/-- Is there a pending intent with the same parameters? -/
def isDuplicate [BEq F] (intents : List (Intent F)) (walletName recipient : String) (amount : F)
    (tokenMint : Option String) : Bool :=
  intents.any fun i => decide (i.status = .pending) && decide (i.walletName = walletName) &&
    decide (i.recipient = recipient) && i.amount == amount && decide (i.tokenMint = tokenMint)

/-- Add an intent to the queue, unless it is a duplicate. -/
def add [BEq F] [Number F] (intent : Intent F) : StoreOp F (Except Exn (Intent F)) :=
  fun intents =>
    if isDuplicate intents intent.walletName intent.recipient intent.amount intent.tokenMint then
      (.error (valueError (ofString "Duplicate PENDING intent: " ++ ofString intent.walletName ++
        ofString " -> " ++ ofString intent.recipient ++ ofString " " ++ Number.str intent.amount)),
        none)
    else (.ok intent, some (intents ++ [intent]))

/-- The intents, or those with a status. -/
def listIntents (status : Option IntentStatus) : StoreOp F (List (Intent F)) := fun intents =>
  match status with
  | none => (intents, none)
  | some st => (intents.filter fun i => decide (i.status = st), none)

/-- The intent with this id. -/
def get (intentId : String) : StoreOp F (Option (Intent F)) := fun intents =>
  (stored intents intentId, none)

/-- Set the status of an intent, and its error and its transaction hash where they are given. -/
def updateStatus (now : ℚ) (intentId : String) (status : IntentStatus)
    (error txHash : Option Text) : StoreOp F Bool :=
  modifyStored intentId (Intent.withStatus now status error txHash)

/-- Count an attempt. -/
def incrementAttempts (now : ℚ) (intentId : String) : StoreOp F Bool :=
  modifyStored intentId (Intent.attempted now)

/-- Remove the intent with this id. -/
def remove (intentId : String) : StoreOp F Bool := fun intents =>
  let rest := intents.filter fun i => decide (i.id ≠ intentId)
  if rest.length < intents.length then (true, some rest) else (false, none)

/-- Remove the intents with a status, or all. How many? -/
def clear (status : Option IntentStatus) : StoreOp F ℕ := fun intents =>
  match status with
  | none => (intents.length, some [])
  | some st =>
    let remaining := intents.filter fun i => decide (i.status ≠ st)
    (intents.length - remaining.length, some remaining)

/-- The pending intents, oldest first. -/
def pendingIntents : StoreOp F (List (Intent F)) := fun intents =>
  (((listIntents (some .pending)) intents).1.mergeSort
    fun i j => decide (i.createdAt ≤ j.createdAt), none)

/-- Make an intent that was being sent when the program crashed pending again. -/
def recovered (now : String → ℚ) (i : Intent F) : Intent F :=
  if i.status = .sending then { i with status := .pending, updatedAt := now i.id } else i

/-- Crash recovery, when the store is opened. -/
def recoverSending (now : String → ℚ) : StoreOp F Unit := fun intents =>
  if intents.any fun i => decide (i.status = .sending) then
    ((), some (intents.map (recovered now)))
  else ((), none)

end IntentStore

open IntentStore

/-! ## The stored intents after an operation -/

/-- What is stored under an id has this id. -/
lemma id_of_stored {intents : List (Intent F)} {intentId : String} {i : Intent F}
    (h : stored intents intentId = some i) : i.id = intentId := by
  simpa using List.find?_some h

/-- What is stored is in the queue. -/
lemma mem_of_stored {intents : List (Intent F)} {intentId : String} {i : Intent F}
    (h : stored intents intentId = some i) : i ∈ intents :=
  List.mem_of_find?_eq_some h

/-- With distinct ids, everything in the queue is stored under its id. -/
lemma stored_of_mem {intents : List (Intent F)} (hids : (intents.map Intent.id).Nodup)
    {i : Intent F} (hi : i ∈ intents) : stored intents i.id = some i := by
  induction intents with
  | nil => cases hi
  | cons j intents ih =>
    rw [List.map_cons, List.nodup_cons] at hids
    rw [stored, List.find?_cons]
    rcases List.mem_cons.mp hi with rfl | hmem
    · simp
    · have hne : j.id ≠ i.id := fun heq => hids.1 (heq ▸ List.mem_map_of_mem hmem)
      rw [decide_eq_false hne]
      exact ih hids.2 hmem

/-- Nothing is stored under an id exactly if no intent has it. -/
lemma stored_eq_none_iff {intents : List (Intent F)} {intentId : String} :
    stored intents intentId = none ↔ intentId ∉ intents.map Intent.id := by
  simp [stored]

/-- Changing an intent leaves as it is what the change keeps. -/
lemma map_modifyFirst {β : Type} {g : Intent F → β} {f : Intent F → Intent F}
    (hf : ∀ i, g (f i) = g i) (intentId : String) (intents : List (Intent F)) :
    (modifyFirst intentId f intents).map g = intents.map g := by
  induction intents with
  | nil => rfl
  | cons i intents ih =>
    rw [modifyFirst]
    split_ifs
    · rw [List.map_cons, hf, List.map_cons]
    · rw [List.map_cons, ih, List.map_cons]

/-- Changing an intent changes what is stored under its id, and nothing else.

**Proof sketch.** Induction on the intents: the first one with the id is the one that is changed,
and it keeps its id. -/
lemma stored_modifyFirst {f : Intent F → Intent F} (hf : ∀ i, (f i).id = i.id)
    (intentId intentId' : String) (intents : List (Intent F)) :
    stored (modifyFirst intentId f intents) intentId' =
      if intentId' = intentId then (stored intents intentId').map f
      else stored intents intentId' := by
  induction intents with
  | nil => simp [modifyFirst, stored]
  | cons i intents ih =>
    rw [modifyFirst]
    unfold stored at ih ⊢
    by_cases hi : i.id = intentId
    · rw [if_pos hi, List.find?_cons, List.find?_cons, hf]
      by_cases hi' : i.id = intentId'
      · rw [decide_eq_true hi', if_pos (hi'.symm.trans hi)]
        rfl
      · rw [decide_eq_false hi', if_neg fun h => hi' (hi.trans h.symm)]
    · rw [if_neg hi, List.find?_cons, List.find?_cons, ih]
      by_cases hi' : i.id = intentId'
      · have hne : ¬ intentId' = intentId := fun h => hi (hi'.trans h)
        rw [decide_eq_true hi', if_neg hne, if_neg hne]
      · rw [decide_eq_false hi']

/-- What is stored after a change of one intent. -/
lemma stored_modifyStored {f : Intent F → Intent F} (hf : ∀ i, (f i).id = i.id)
    (intentId intentId' : String) (intents : List (Intent F)) :
    stored ((modifyStored intentId f).after intents) intentId' =
      if intentId' = intentId then (stored intents intentId').map f
      else stored intents intentId' := by
  unfold StoreOp.after modifyStored
  cases hi : stored intents intentId with
  | some i => exact stored_modifyFirst hf _ _ _
  | none =>
    change stored intents intentId' = _
    split_ifs with h
    · rw [h, hi]
      rfl
    · rfl

/-- A change of one intent leaves as it is what the change keeps. -/
lemma map_modifyStored {β : Type} {g : Intent F → β} {f : Intent F → Intent F}
    (hf : ∀ i, g (f i) = g i) (intentId : String) (intents : List (Intent F)) :
    ((modifyStored intentId f).after intents).map g = intents.map g := by
  unfold StoreOp.after modifyStored
  split_ifs
  · exact map_modifyFirst hf _ _
  · rfl

/-- What is stored after the status of an intent was set. -/
lemma stored_updateStatus (now : ℚ) (intentId : String) (status : IntentStatus)
    (error txHash : Option Text) (intents : List (Intent F)) (intentId' : String) :
    stored ((updateStatus now intentId status error txHash).after intents) intentId' =
      if intentId' = intentId then
        (stored intents intentId').map (Intent.withStatus now status error txHash)
      else stored intents intentId' :=
  stored_modifyStored (f := Intent.withStatus now status error txHash) (fun _ => rfl) _ _ _

/-- What is stored after an attempt was counted. -/
lemma stored_incrementAttempts (now : ℚ) (intentId : String) (intents : List (Intent F))
    (intentId' : String) :
    stored ((incrementAttempts now intentId).after intents) intentId' =
      if intentId' = intentId then (stored intents intentId').map (Intent.attempted now)
      else stored intents intentId' :=
  stored_modifyStored (f := Intent.attempted now) (fun _ => rfl) _ _ _

/-- The queue after `remove`. -/
lemma after_remove (intentId : String) (intents : List (Intent F)) :
    (remove intentId).after intents = intents.filter fun i => decide (i.id ≠ intentId) := by
  unfold StoreOp.after remove
  dsimp only
  split_ifs with h
  · rfl
  · have hlen := List.length_filter_le (fun i : Intent F => decide (i.id ≠ intentId)) intents
    have heq := List.length_filter_eq_length_iff.mp (le_antisymm hlen (not_lt.mp h))
    exact (List.filter_eq_self.mpr heq).symm

/-- What is stored after `remove`. -/
lemma stored_remove (intentId intentId' : String) (intents : List (Intent F)) :
    stored ((remove intentId).after intents) intentId' =
      if intentId' = intentId then none else stored intents intentId' := by
  rw [after_remove]
  split_ifs with h
  · rw [stored_eq_none_iff, h]
    simp
  · rw [stored, List.find?_filter, stored]
    congr 1
    funext i
    by_cases hi : i.id = intentId'
    · simpa [hi] using h
    · simp [hi]

/-- What is stored after `clear`: nothing that was not stored before. -/
lemma stored_clear {status : Option IntentStatus} {intents : List (Intent F)}
    (hids : (intents.map Intent.id).Nodup) {intentId : String} {i : Intent F}
    (h : stored ((clear status).after intents) intentId = some i) :
    stored intents intentId = some i := by
  have hmem : i ∈ intents := by
    have hi := mem_of_stored h
    cases status with
    | none => cases hi
    | some st => exact (List.mem_filter.mp hi).1
  rw [← id_of_stored h]
  exact stored_of_mem hids hmem

/-- The queue after `clear` is a part of the queue before. -/
lemma after_clear_sublist (status : Option IntentStatus) (intents : List (Intent F)) :
    ((clear status).after intents).Sublist intents := by
  cases status with
  | none => exact List.nil_sublist _
  | some st => exact List.filter_sublist

/-- The queue after crash recovery. -/
lemma after_recoverSending (now : String → ℚ) (intents : List (Intent F)) :
    (recoverSending now).after intents = intents.map (recovered now) := by
  unfold StoreOp.after recoverSending
  split_ifs with h
  · rfl
  · have hkeep : ∀ i ∈ intents, recovered now i = i := by
      intro i hi
      rw [recovered, if_neg]
      intro hsending
      apply h
      rw [List.any_eq_true]
      exact ⟨i, hi, decide_eq_true hsending⟩
    rw [List.map_congr_left hkeep, List.map_id']
    rfl

/-- Recovery keeps the id. -/
@[simp] lemma id_recovered (now : String → ℚ) (i : Intent F) : (recovered now i).id = i.id := by
  unfold recovered
  split_ifs <;> rfl

/-- What is stored after crash recovery. -/
lemma stored_recoverSending (now : String → ℚ) (intents : List (Intent F)) (intentId : String) :
    stored ((recoverSending now).after intents) intentId =
      (stored intents intentId).map (recovered now) := by
  have hid : (fun i : Intent F => decide (i.id = intentId)) ∘ recovered now =
      fun i => decide (i.id = intentId) := by
    funext i
    rw [Function.comp_apply, id_recovered]
  rw [after_recoverSending, stored, List.find?_map, hid, stored]

/-- What is stored after a new intent was added. -/
lemma stored_add [BEq F] [Number F] {intent : Intent F} {intents : List (Intent F)}
    (hnew : stored intents intent.id = none) (intentId : String) :
    stored ((add intent).after intents) intentId = stored intents intentId ∨
      (intentId = intent.id ∧ stored ((add intent).after intents) intentId = some intent) := by
  unfold StoreOp.after add
  split_ifs
  · exact Or.inl rfl
  · change stored (intents ++ [intent]) intentId = _ ∨ _ ∧ stored (intents ++ [intent]) _ = _
    by_cases h : intentId = intent.id
    · refine Or.inr ⟨h, ?_⟩
      rw [h]
      unfold stored at hnew ⊢
      rw [List.find?_append, hnew]
      simp
    · refine Or.inl ?_
      rw [stored, List.find?_append]
      simp [stored, Ne.symm h]

/-- The ids after a new intent was added. -/
lemma nodup_add [BEq F] [Number F] {intent : Intent F} {intents : List (Intent F)}
    (hids : (intents.map Intent.id).Nodup) (hnew : stored intents intent.id = none) :
    (((add intent).after intents).map Intent.id).Nodup := by
  unfold StoreOp.after add
  split_ifs
  · exact hids
  · change ((intents ++ [intent]).map Intent.id).Nodup
    rw [List.map_append, List.map_singleton, ← List.concat_eq_append, List.nodup_concat]
    exact ⟨stored_eq_none_iff.mp hnew, hids⟩

/-- The pending intents are those in the queue that are pending. -/
lemma mem_pendingIntents {intents : List (Intent F)} {i : Intent F} :
    i ∈ (pendingIntents intents).1 ↔ i ∈ intents ∧ i.status = .pending := by
  simp [pendingIntents, listIntents]

/-- The pending intents have distinct ids if the queue has. -/
lemma nodup_pendingIntents {intents : List (Intent F)} (hids : (intents.map Intent.id).Nodup) :
    ((pendingIntents intents).1.map Intent.id).Nodup := by
  have hperm := List.mergeSort_perm (intents.filter fun i => decide (i.status = .pending))
    fun i j => decide (i.createdAt ≤ j.createdAt)
  exact (hperm.map Intent.id).nodup_iff.mpr (hids.sublist (List.filter_sublist.map Intent.id))

end SolMesh
