import SolMesh.Foundations.Json
import SolMesh.Store.Intent

set_option relaxedAutoImplicit false
set_option autoImplicit false

/-!
# The store on any JSON list

What the operations of the store do with the members of a list that was read from a file, whatever
these are. The queues that the store writes itself are lists of intents, and on those the operations
are the ones of `SolMesh.IntentStore`.

## Main definitions

* `SolMesh.JsonStore.recoverSending`, `SolMesh.JsonStore.listIntents`, `SolMesh.JsonStore.get`,
  `SolMesh.JsonStore.pendingIntents` — the operations.
* `SolMesh.Intent.asdict` — an intent as it is written to the file.

## Main results

* `SolMesh.JsonStore.recoverSending_of_isDict` and its like — the operations on lists of `dict`s.
* `SolMesh.JsonStore.recoverSending_asdict`, `SolMesh.JsonStore.listIntents_asdict`,
  `SolMesh.JsonStore.get_asdict`, `SolMesh.JsonStore.pendingIntents_asdict` — the operations on the
  queues of the store.
-/

namespace SolMesh

open Py Text

namespace JsonStore

/-! ## Operations -/

/-- `intent.get(key) == text`. -/
def fieldIs (key : String) (text : Text) (r : Json) : Except Exn Bool := do
  return (← r.get (ofString key)).elim false (Json.isStr text)

/-- The members that pass a test. -/
def filterRecords (p : Json → Except Exn Bool) : List Json → Except Exn (List Json)
  | [] => .ok []
  | r :: records => do
    let keep ← p r
    let kept ← filterRecords p records
    return if keep then r :: kept else kept

/-- The intents, or those with a status. -/
def listIntents (status : Option Text) (records : List Json) : Except Exn (List Json) :=
  match status with
  | none => .ok records
  | some st => filterRecords (fieldIs "status" st) records

/-- The first intent with this id. -/
def get (intentId : Text) : List Json → Except Exn (Option Json)
  | [] => .ok none
  | r :: records => do
    if ← fieldIs "id" intentId r then
      return some r
    get intentId records

/-- The pending intents, oldest first. -/
def pendingIntents (sort : List (Json × Json) → Except Exn (List (Json × Json)))
    (records : List Json) : Except Exn (List Json) := do
  let pending ← listIntents (some (ofString "pending")) records
  let keyed ← pending.mapM fun r => do
    return ((← r.get (ofString "created_at")).getD (.int 0), r)
  let sorted ← sort keyed
  return sorted.map Prod.snd

/-- Make an intent that was being sent pending again. Was it being sent? -/
def recoverRecord (now : Json → ℚ) (r : Json) : Except Exn (Json × Bool) := do
  if ← fieldIs "status" (ofString "sending") r then
    return ((r.set (ofString "status") (.str (ofString "pending"))).set (ofString "updated_at")
      (.float (.finite (now r))), true)
  return (r, false)

/-- Crash recovery, when the store is opened. -/
def recoverSending (now : Json → ℚ) (records : List Json) :
    Except Exn (Unit × Option (List Json)) := do
  let recovered ← records.mapM (recoverRecord now)
  return ((), if recovered.any Prod.snd then some (recovered.map Prod.fst) else none)

/-! ## Lists of `dict`s -/

/-- The field has this text. -/
def hasField (key : String) (text : Text) (r : Json) : Bool :=
  (r.field (ofString key)).elim false (Json.isStr text)

/-- The intent after recovery. -/
def recovered (now : Json → ℚ) (r : Json) : Json :=
  if hasField "status" (ofString "sending") r then
    (r.set (ofString "status") (.str (ofString "pending"))).set (ofString "updated_at")
      (.float (.finite (now r)))
  else r

/-- The time by which an intent is sorted. -/
def createdAt (r : Json) : Json := (r.field (ofString "created_at")).getD (.int 0)

variable {r : Json} {records : List Json}

/-- Recovery keeps the type. -/
@[simp] lemma isDict_recovered (now : Json → ℚ) (r : Json) :
    (recovered now r).isDict = r.isDict := by
  rw [recovered]
  split_ifs <;> simp

/-- Recovery keeps the time of creation. -/
@[simp] lemma createdAt_recovered (now : Json → ℚ) (r : Json) :
    createdAt (recovered now r) = createdAt r := by
  rw [recovered]
  split_ifs
  · rw [createdAt, Json.field_set_of_ne (ofString_injective.ne (by decide)),
      Json.field_set_of_ne (ofString_injective.ne (by decide)), createdAt]
  · rfl

/-- After recovery, the intents that were being sent are pending too. -/
lemma pending_recovered (now : Json → ℚ) (h : r.isDict) :
    hasField "status" (ofString "pending") (recovered now r) =
      (hasField "status" (ofString "pending") r || hasField "status" (ofString "sending") r) := by
  rw [recovered]
  cases hsending : hasField "status" (ofString "sending") r with
  | true =>
    rw [if_pos rfl, hasField, Json.field_set_of_ne (ofString_injective.ne (by decide)),
      Json.field_set_self _ _ h, Bool.or_true]
    simp [Json.isStr]
  | false => rw [if_neg Bool.false_ne_true, Bool.or_false]

/-- A field of a `dict`. -/
lemma fieldIs_of_isDict (h : r.isDict) (key : String) (text : Text) :
    fieldIs key text r = .ok (hasField key text r) := by
  rw [fieldIs, Json.get_of_isDict h]
  rfl

/-- Only a `dict` has fields. -/
lemma isDict_of_fieldIs {key : String} {text : Text} {b : Bool} (h : fieldIs key text r = .ok b) :
    r.isDict := by
  obtain ⟨v, hv, _⟩ := bind_eq_ok.mp h
  exact Json.isDict_of_get hv

/-- The `dict`s with a status. -/
lemma filterRecords_of_isDict (h : ∀ r ∈ records, r.isDict) (key : String) (text : Text) :
    filterRecords (fieldIs key text) records = .ok (records.filter (hasField key text)) := by
  induction records with
  | nil => rfl
  | cons r records ih =>
    rw [List.forall_mem_cons] at h
    rw [filterRecords, fieldIs_of_isDict h.1, ok_bind, ih h.2, ok_bind, List.filter_cons]
    rfl

/-- Listing `dict`s. -/
lemma listIntents_of_isDict (h : ∀ r ∈ records, r.isDict) (status : Option Text) :
    listIntents status records = .ok (status.elim records fun st =>
      records.filter (hasField "status" st)) := by
  cases status with
  | none => rfl
  | some st => exact filterRecords_of_isDict h "status" st

/-- Looking for a `dict`. -/
lemma get_of_isDict (h : ∀ r ∈ records, r.isDict) (intentId : Text) :
    get intentId records = .ok (records.find? (hasField "id" intentId)) := by
  induction records with
  | nil => rfl
  | cons r records ih =>
    rw [List.forall_mem_cons] at h
    rw [get, fieldIs_of_isDict h.1, ok_bind, List.find?_cons]
    cases hasField "id" intentId r with
    | true => rfl
    | false => exact ih h.2

/-- Sorting the pending `dict`s. -/
lemma pendingIntents_of_isDict (h : ∀ r ∈ records, r.isDict)
    (sort : List (Json × Json) → Except Exn (List (Json × Json))) :
    pendingIntents sort records = (do
      let sorted ← sort ((records.filter (hasField "status" (ofString "pending"))).map
        fun r => (createdAt r, r))
      return sorted.map Prod.snd) := by
  have hkeyed : ((records.filter (hasField "status" (ofString "pending"))).mapM fun r => do
      return ((← r.get (ofString "created_at")).getD (.int 0), r) : Except Exn _) =
      .ok ((records.filter (hasField "status" (ofString "pending"))).map
        fun r => (createdAt r, r)) := by
    refine mapM_eq_ok fun r hr => ?_
    rw [Json.get_of_isDict (h r (List.mem_of_mem_filter hr))]
    rfl
  rw [pendingIntents, listIntents_of_isDict h, ok_bind]
  exact (congrArg (· >>= _) hkeyed).trans (ok_bind _ _)

/-- Recovery of `dict`s. -/
lemma recoverSending_of_isDict (h : ∀ r ∈ records, r.isDict) (now : Json → ℚ) :
    recoverSending now records = .ok ((),
      if records.any (hasField "status" (ofString "sending")) then
        some (records.map (recovered now))
      else none) := by
  have hrecord : records.mapM (recoverRecord now) = .ok (records.map fun r =>
      (recovered now r, hasField "status" (ofString "sending") r)) := by
    refine mapM_eq_ok fun r hr => ?_
    rw [recoverRecord, fieldIs_of_isDict (h r hr), ok_bind, recovered]
    cases hasField "status" (ofString "sending") r <;> rfl
  rw [recoverSending, hrecord, ok_bind]
  simp only [List.any_map, List.map_map, Function.comp_def]
  rfl

/-- Recovery raises if not all members are `dict`s. -/
lemma isDict_of_recoverSending {now : Json → ℚ} {result : Unit × Option (List Json)}
    (h : recoverSending now records = .ok result) : ∀ r ∈ records, r.isDict := by
  intro r hr
  obtain ⟨pairs, hpairs, _⟩ := bind_eq_ok.mp h
  obtain ⟨pair, hpair⟩ := ok_of_mapM_eq_ok hpairs r hr
  obtain ⟨b, hb, _⟩ := bind_eq_ok.mp hpair
  exact isDict_of_fieldIs hb

/-- Without an intent that was being sent, recovery changes nothing. -/
lemma map_recovered (now : Json → ℚ)
    (h : ¬ records.any (hasField "status" (ofString "sending"))) :
    records.map (recovered now) = records := by
  have hsame : ∀ r ∈ records, recovered now r = r := by
    intro r hr
    rw [recovered, if_neg fun hsending => h (List.any_eq_true.mpr ⟨r, hr, hsending⟩)]
  rw [List.map_congr_left hsame, List.map_id']

end JsonStore

/-! ## The queues of the store -/

/-- The value of a status. -/
def IntentStatus.value : IntentStatus → String
  | pending => "pending"
  | sending => "sending"
  | sent => "sent"
  | failed => "failed"

/-- A text or `None`. -/
def jsonText : Option Text → Json
  | some t => .str t
  | none => .null

/-- `asdict(intent)`, with the numbers that people write as JSON numbers. -/
def Intent.asdict {F : Type} (ofAmount : F → Json) (i : Intent F) : Json :=
  .dict [(ofString "id", .str (ofString i.id)),
    (ofString "mode", .int i.mode),
    (ofString "status", .str (ofString i.status.value)),
    (ofString "created_at", .float (.finite i.createdAt)),
    (ofString "updated_at", .float (.finite i.updatedAt)),
    (ofString "wallet_name", .str (ofString i.walletName)),
    (ofString "recipient", .str (ofString i.recipient)),
    (ofString "amount", ofAmount i.amount),
    (ofString "token_mint", jsonText (i.tokenMint.map ofString)),
    (ofString "token_decimals", .int i.tokenDecimals),
    (ofString "attempts", .int i.attempts),
    (ofString "max_attempts", .int i.maxAttempts),
    (ofString "last_error", jsonText i.lastError),
    (ofString "result_tx_hash", jsonText i.resultTxHash)]

namespace JsonStore

variable {F : Type} {ofAmount : F → Json} {intents : List (Intent F)}

/-- The status of an intent. -/
lemma hasField_status (i : Intent F) (st : IntentStatus) :
    hasField "status" (ofString st.value) (i.asdict ofAmount) = decide (i.status = st) := by
  have hfield : (i.asdict ofAmount).field (ofString "status") =
      some (.str (ofString i.status.value)) := by
    rfl
  rw [hasField, hfield]
  cases i.status <;> cases st <;> rfl

/-- The id of an intent. -/
lemma hasField_id (i : Intent F) (intentId : String) :
    hasField "id" (ofString intentId) (i.asdict ofAmount) = decide (i.id = intentId) := by
  have hfield : (i.asdict ofAmount).field (ofString "id") = some (.str (ofString i.id)) := by
    rfl
  rw [hasField, hfield]
  exact decide_eq_decide.mpr ofString_injective.eq_iff

/-- Recovery of an intent. -/
lemma recovered_asdict (now : String → ℚ) (now' : Json → ℚ) (i : Intent F)
    (hnow : now' (i.asdict ofAmount) = now i.id) :
    recovered now' (i.asdict ofAmount) = (IntentStore.recovered now i).asdict ofAmount := by
  have hsending : hasField "status" (ofString "sending") (i.asdict ofAmount) =
      decide (i.status = .sending) := hasField_status i .sending
  rw [recovered, hsending, IntentStore.recovered, hnow]
  by_cases h : i.status = .sending
  · rw [if_pos (decide_eq_true h), if_pos h]
    rfl
  · rw [if_neg (by simpa using h), if_neg h]

/-- The intents of the store are `dict`s. -/
lemma isDict_asdict : ∀ r ∈ intents.map (Intent.asdict ofAmount), r.isDict := by
  intro r hr
  obtain ⟨i, _, rfl⟩ := List.mem_map.mp hr
  rfl

/-- The intents of the store with a status. -/
lemma filter_asdict (st : IntentStatus) :
    (intents.map (Intent.asdict ofAmount)).filter (hasField "status" (ofString st.value)) =
      (intents.filter fun i => decide (i.status = st)).map (Intent.asdict ofAmount) := by
  rw [List.filter_map]
  congr 2
  funext i
  exact hasField_status i st

/-- **Recovery** of a queue of the store. -/
lemma recoverSending_asdict (now : String → ℚ) (now' : Json → ℚ)
    (hnow : ∀ i ∈ intents, now' (i.asdict ofAmount) = now i.id) :
    recoverSending now' (intents.map (Intent.asdict ofAmount)) =
      .ok ((), (IntentStore.recoverSending now intents).2.map
        (List.map (Intent.asdict ofAmount))) := by
  have hany : (intents.map (Intent.asdict ofAmount)).any (hasField "status" (ofString "sending")) =
      intents.any fun i => decide (i.status = .sending) := by
    rw [List.any_map]
    congr 1
    funext i
    exact hasField_status i .sending
  rw [recoverSending_of_isDict isDict_asdict, hany, IntentStore.recoverSending]
  split_ifs
  · rw [List.map_map, Option.map_some, List.map_map]
    refine congrArg (fun queue => Except.ok ((), some queue)) (List.map_congr_left fun i hi => ?_)
    exact recovered_asdict now now' i (hnow i hi)
  · rfl

/-- **Listing** a queue of the store. -/
lemma listIntents_asdict (status : Option IntentStatus) :
    listIntents (status.map fun st => ofString st.value) (intents.map (Intent.asdict ofAmount)) =
      .ok ((IntentStore.listIntents status intents).1.map (Intent.asdict ofAmount)) := by
  rw [listIntents_of_isDict isDict_asdict]
  cases status with
  | none => rfl
  | some st => exact congrArg Except.ok (filter_asdict st)

/-- **Looking for an intent** in a queue of the store. -/
lemma get_asdict (intentId : String) :
    get (ofString intentId) (intents.map (Intent.asdict ofAmount)) =
      .ok ((IntentStore.get intentId intents).1.map (Intent.asdict ofAmount)) := by
  rw [get_of_isDict isDict_asdict, List.find?_map]
  refine congrArg (fun found => Except.ok (Option.map _ found)) ?_
  change _ = stored intents intentId
  rw [stored]
  congr 1
  funext i
  exact hasField_id i intentId

/-- **Sorting the pending intents** of a queue of the store.

**Proof sketch.** The times of stored intents are numbers, so any two can be compared and the sort
returns. Its stable order of the times is the order in which the store sorts its intents, because
turning an intent into a record keeps its time. -/
lemma pendingIntents_asdict {sort : List (Json × Json) → Except Exn (List (Json × Json))}
    (hsort : IsListSort sort) :
    pendingIntents sort (intents.map (Intent.asdict ofAmount)) =
      .ok ((IntentStore.pendingIntents intents).1.map (Intent.asdict ofAmount)) := by
  let le : Json × Json → Json × Json → Bool := fun a b => decide (a.1.rank ≤ b.1.rank)
  let item : Intent F → Json × Json := fun i =>
    (.float (.finite i.createdAt), i.asdict ofAmount)
  let pending := intents.filter fun i => decide (i.status = .pending)
  have hitems : ((intents.map (Intent.asdict ofAmount)).filter
      (hasField "status" (ofString "pending"))).map (fun r => (createdAt r, r)) =
      pending.map item := by
    rw [show ofString "pending" = ofString IntentStatus.pending.value from rfl, filter_asdict,
      List.map_map]
    rfl
  have hnumbers : ∀ a ∈ pending.map item, ∃ q, a.1.number? = some (.finite q) := by
    intro a ha
    obtain ⟨i, _, rfl⟩ := List.mem_map.mp ha
    exact ⟨i.createdAt, rfl⟩
  have hcomparable : (pending.map item).Pairwise fun a b => Json.Comparable a.1 b.1 :=
    List.pairwise_map.mpr (List.pairwise_of_forall fun i j =>
      Json.comparable_of_number (x := .finite i.createdAt) (y := .finite j.createdAt) rfl rfl)
  obtain ⟨sorted, hsorted⟩ := hsort.returns _ hcomparable
  -- the stable order of the times is the one in which the store sorts its intents
  have hmap : (pending.mergeSort fun i j => decide (i.createdAt ≤ j.createdAt)).map item =
      (pending.map item).mergeSort le := List.map_mergeSort fun _ _ _ _ => rfl
  have heq : sorted =
      (pending.mergeSort fun i j => decide (i.createdAt ≤ j.createdAt)).map item := by
    rw [hmap]
    exact (hsort.stable _ _ hsorted hnumbers).eq_mergeSort_key
  rw [pendingIntents_of_isDict isDict_asdict, hitems, hsorted, ok_bind, heq, List.map_map]
  rfl

end JsonStore

end SolMesh
