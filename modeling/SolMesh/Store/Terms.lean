import SolMesh.Store.Processes

set_option relaxedAutoImplicit false
set_option autoImplicit false

/-!
# What never changes of an intent

The operations of the store rewrite the status of an intent, its attempts, its times and what is
recorded of its result. Everything else it keeps as long as it is stored: its terms.

## Main definitions

* `SolMesh.Terms`, `SolMesh.Intent.terms` — the terms of an intent.
* `SolMesh.StoredSince` — a queue in which an intent was added at some time.

## Main results

* `SolMesh.StoreCall.exists_terms_of_mem` — no operation changes the terms of an intent.
* `SolMesh.StoredSince.terms` — what is stored under the id of an intent has its terms.
-/

namespace SolMesh

open Py Conc

variable {F : Type}

/-- The terms of an intent: how it is sent, from whom to whom, what and how much, since when, and
how often it is tried. -/
structure Terms (F : Type) where
  id : String
  mode : ℕ
  walletName : String
  recipient : String
  amount : F
  tokenMint : Option String
  tokenDecimals : ℕ
  createdAt : ℚ
  maxAttempts : ℕ

/-- The terms of an intent. -/
def Intent.terms (i : Intent F) : Terms F :=
  ⟨i.id, i.mode, i.walletName, i.recipient, i.amount, i.tokenMint, i.tokenDecimals, i.createdAt,
    i.maxAttempts⟩

@[simp] lemma Intent.terms_withStatus (now : ℚ) (status : IntentStatus) (error txHash : Option Text)
    (i : Intent F) : (i.withStatus now status error txHash).terms = i.terms := rfl

@[simp] lemma Intent.terms_attempted (now : ℚ) (i : Intent F) :
    (i.attempted now).terms = i.terms := rfl

@[simp] lemma IntentStore.terms_recovered (now : String → ℚ) (i : Intent F) :
    (recovered now i).terms = i.terms := by
  unfold recovered
  split_ifs <;> rfl

variable [BEq F] [Number F]

/-- **No operation changes the terms of an intent**: what is in the queue afterwards was there
before, with the same terms, or is the intent that was added.

**Proof sketch.** One case for each operation. Recovering, setting a status and counting an attempt
keep the list of terms (`hkeep`); adding appends the intent or nothing; removing and clearing leave
some of the intents. -/
lemma StoreCall.exists_terms_of_mem {call : StoreCall F} {intents : List (Intent F)}
    {j : Intent F} (hj : j ∈ valueAfter perform call intents) :
    (∃ i ∈ intents, i.terms = j.terms) ∨ call = .add j := by
  -- an operation that keeps the list of terms
  have hkeep : ∀ intents' : List (Intent F), j ∈ intents' →
      intents'.map Intent.terms = intents.map Intent.terms → ∃ i ∈ intents, i.terms = j.terms := by
    intro intents' hmem heq
    have hterms : j.terms ∈ intents.map Intent.terms := heq ▸ List.mem_map_of_mem hmem
    exact List.mem_map.mp hterms
  cases call with
  | recoverSending now =>
    refine Or.inl (hkeep _ hj ?_)
    change ((IntentStore.recoverSending now).after intents).map Intent.terms = _
    rw [after_recoverSending, List.map_map]
    exact List.map_congr_left fun i _ => IntentStore.terms_recovered now i
  | add intent =>
    change j ∈ (IntentStore.add intent).after intents at hj
    unfold StoreOp.after IntentStore.add at hj
    split_ifs at hj
    · exact Or.inl ⟨j, hj, rfl⟩
    · rcases List.mem_append.mp hj with hmem | hmem
      · exact Or.inl ⟨j, hmem, rfl⟩
      · rw [List.mem_singleton.mp hmem]
        exact Or.inr rfl
  | updateStatus now intentId status error txHash =>
    exact Or.inl (hkeep _ hj
      (map_modifyStored (g := Intent.terms) (Intent.terms_withStatus now status error txHash) _ _))
  | incrementAttempts now intentId =>
    exact Or.inl (hkeep _ hj
      (map_modifyStored (g := Intent.terms) (Intent.terms_attempted now) _ _))
  | remove intentId =>
    change j ∈ (IntentStore.remove intentId).after intents at hj
    rw [after_remove] at hj
    exact Or.inl ⟨j, (List.mem_filter.mp hj).1, rfl⟩
  | clear status => exact Or.inl ⟨j, (after_clear_sublist status intents).mem hj, rfl⟩

/-- **A queue in which the intent was added**, under an id that was not used before and is not
used for another intent afterwards. -/
inductive StoredSince (intent : Intent F) : List (Intent F) → Prop
  | add {intents : List (Intent F)} (hnew : stored intents intent.id = none) :
      StoredSince intent ((IntentStore.add intent).after intents)
  | call {intents : List (Intent F)} (call : StoreCall F) (h : StoredSince intent intents)
      (hid : ∀ other, call = .add other → other.id ≠ intent.id) :
      StoredSince intent (valueAfter StoreCall.perform call intents)

/-- **What is stored under the id of the intent has its terms.** -/
lemma StoredSince.terms {intent : Intent F} {intents : List (Intent F)}
    (h : StoredSince intent intents) {j : Intent F} (hj : j ∈ intents) (hid : j.id = intent.id) :
    j.terms = intent.terms := by
  induction h generalizing j with
  | @add intents hnew =>
    change j ∈ valueAfter StoreCall.perform (.add intent) intents at hj
    rcases StoreCall.exists_terms_of_mem hj with ⟨i, hi, hterms⟩ | hadded
    · -- the id was not used before
      have hsame : i.id = intent.id := (congrArg Terms.id hterms).trans hid
      exact absurd (hsame ▸ List.mem_map_of_mem hi) (stored_eq_none_iff.mp hnew)
    · cases hadded
      rfl
  | call call _ hother ih =>
    rcases StoreCall.exists_terms_of_mem hj with ⟨i, hi, hterms⟩ | hadded
    · rw [← hterms]
      exact ih hi ((congrArg Terms.id hterms).trans hid)
    · exact absurd hid (hother j hadded)

end SolMesh
