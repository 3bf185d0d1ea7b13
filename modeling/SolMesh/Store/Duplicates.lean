import SolMesh.Store.Intent

set_option relaxedAutoImplicit false
set_option autoImplicit false

/-!
# Equal payments in the queue

An intent is added only if no pending intent asks for the same payment. What is kept by every
operation that settles, removes or recovers intents is a stronger property: no two intents that
are pending or being sent ask for the same payment. An addition keeps it if no intent that is
being sent asks for the payment either.

## Main definitions

* `SolMesh.SamePayment` — what is compared when an intent is added.
* `SolMesh.NoEqualPending` — no two pending intents ask for the same payment.
* `SolMesh.NoClash` — no two intents that are pending or being sent do.

## Main results

* `SolMesh.NoClash.add` — what an addition needs.
* `SolMesh.NoClash.modifyStored`, `SolMesh.NoClash.remove`, `SolMesh.NoClash.clear`,
  `SolMesh.NoClash.recoverSending` — what the other operations keep.
-/

namespace SolMesh

open Py Text IntentStore

variable {F : Type}

/-- The status of an intent that is not settled. -/
def IntentStatus.IsOpen (status : IntentStatus) : Prop := status = .pending ∨ status = .sending

/-- What an intent asks for: the wallet, the recipient, the amount and the token. -/
def Intent.payment (i : Intent F) : String × String × F × Option String :=
  (i.walletName, i.recipient, i.amount, i.tokenMint)

variable [BEq F]

/-- Two intents ask for the same payment. -/
def SamePayment (i j : Intent F) : Prop :=
  i.walletName = j.walletName ∧ i.recipient = j.recipient ∧ (i.amount == j.amount) = true ∧
    i.tokenMint = j.tokenMint

/-- **No two pending intents ask for the same payment.** -/
def NoEqualPending (intents : List (Intent F)) : Prop :=
  intents.Pairwise fun i j => i.status = .pending → j.status = .pending → ¬ SamePayment i j

instance (i j : Intent F) : Decidable (SamePayment i j) :=
  inferInstanceAs (Decidable (_ ∧ _ ∧ _ ∧ _))

instance (intents : List (Intent F)) : Decidable (NoEqualPending intents) :=
  inferInstanceAs (Decidable (List.Pairwise _ intents))

/-- Two intents that are not settled ask for the same payment. -/
structure Clash (i j : Intent F) : Prop where
  left : i.status.IsOpen
  right : j.status.IsOpen
  same : SamePayment i j

/-- No two intents that are not settled ask for the same payment. -/
def NoClash (intents : List (Intent F)) : Prop := intents.Pairwise fun i j => ¬ Clash i j

section Clashes

variable {i i' j j' intent : Intent F} {intents : List (Intent F)} {intentId : String}
  {f : Intent F → Intent F}

/-- Pending intents are not settled. -/
lemma NoClash.noEqualPending (h : NoClash intents) : NoEqualPending intents :=
  h.imp fun hclash hi hj hsame => hclash ⟨Or.inl hi, Or.inl hj, hsame⟩

/-- A clash of changed intents, if the payments are the same and what was settled stays settled. -/
lemma Clash.of_changed (h : Clash i' j') (hi : i'.payment = i.payment)
    (hj : j'.payment = j.payment) (hiopen : i'.status.IsOpen → i.status.IsOpen)
    (hjopen : j'.status.IsOpen → j.status.IsOpen) : Clash i j := by
  obtain ⟨hleft, hright, hwallet, hrecipient, hamount, hmint⟩ := h
  simp only [Intent.payment, Prod.mk.injEq] at hi hj
  obtain ⟨hi₁, hi₂, hi₃, hi₄⟩ := hi
  obtain ⟨hj₁, hj₂, hj₃, hj₄⟩ := hj
  rw [hi₁, hj₁] at hwallet
  rw [hi₂, hj₂] at hrecipient
  rw [hi₃, hj₃] at hamount
  rw [hi₄, hj₄] at hmint
  exact ⟨hiopen hleft, hjopen hright, hwallet, hrecipient, hamount, hmint⟩

/-- The check for duplicates finds the pending intents that ask for the same payment. -/
lemma isDuplicate_iff :
    isDuplicate intents intent.walletName intent.recipient intent.amount intent.tokenMint = true ↔
      ∃ i ∈ intents, i.status = .pending ∧ SamePayment i intent := by
  simp only [isDuplicate, SamePayment, List.any_eq_true, Bool.and_eq_true, decide_eq_true_eq,
    and_assoc]

/-- **An addition**, if no intent that is being sent asks for the same payment. -/
lemma NoClash.add [Number F] (h : NoClash intents)
    (hsending : ∀ i ∈ intents, i.status = .sending → ¬ SamePayment i intent) :
    NoClash ((IntentStore.add intent).after intents) := by
  unfold StoreOp.after IntentStore.add
  split_ifs with hdup
  · exact h
  · change NoClash (intents ++ [intent])
    refine List.pairwise_append.mpr ⟨h, List.pairwise_singleton _ _, fun i hi j hj hclash => ?_⟩
    obtain rfl := List.mem_singleton.mp hj
    rcases hclash.left with hpending | hsent
    · exact hdup (isDuplicate_iff.mpr ⟨i, hi, hpending, hclash.same⟩)
    · exact hsending i hi hsent hclash.same

/-- A removal. -/
lemma NoClash.remove (h : NoClash intents) : NoClash ((remove intentId).after intents) := by
  rw [after_remove]
  exact h.sublist List.filter_sublist

/-- A removal of many. -/
lemma NoClash.clear (h : NoClash intents) (status : Option IntentStatus) :
    NoClash ((clear status).after intents) :=
  h.sublist (after_clear_sublist status intents)

/-- Crash recovery: what becomes pending was being sent. -/
lemma NoClash.recoverSending (h : NoClash intents) (now : String → ℚ) :
    NoClash ((recoverSending now).after intents) := by
  have hpayment : ∀ i : Intent F, (recovered now i).payment = i.payment := by
    intro i
    unfold recovered
    split_ifs <;> rfl
  have hopen : ∀ i : Intent F, (recovered now i).status.IsOpen → i.status.IsOpen := by
    intro i hi
    unfold recovered at hi
    split_ifs at hi with hs
    · exact Or.inr hs
    · exact hi
  rw [after_recoverSending]
  refine List.pairwise_map.mpr (h.imp fun {i j} hclash hclash' => hclash ?_)
  exact hclash'.of_changed (hpayment i) (hpayment j) (hopen i) (hopen j)

omit [BEq F] in
/-- What is in the queue after a change of the first intent with an id. -/
lemma mem_modifyFirst (h : j ∈ modifyFirst intentId f intents) :
    j ∈ intents ∨ ∃ i, stored intents intentId = some i ∧ j = f i := by
  induction intents with
  | nil => exact absurd h List.not_mem_nil
  | cons i intents ih =>
    rw [modifyFirst] at h
    unfold stored at ih ⊢
    split_ifs at h with hid
    · rcases List.mem_cons.mp h with rfl | hmem
      · exact Or.inr ⟨i, List.find?_cons_of_pos (decide_eq_true hid), rfl⟩
      · exact Or.inl (List.mem_cons_of_mem _ hmem)
    · rw [List.find?_cons_of_neg (by simpa using hid)]
      rcases List.mem_cons.mp h with rfl | hmem
      · exact Or.inl List.mem_cons_self
      · exact (ih hmem).imp_left (List.mem_cons_of_mem _)

/-- A change of one intent that does not reopen it.

**Proof sketch.** Induction on the intents. The changed one asks for the same payment, and is open
only if it was, so it clashes with another one only if it did before. -/
lemma NoClash.modifyFirst (h : NoClash intents) (hpayment : ∀ i, (f i).payment = i.payment)
    (hopen : ∀ i, stored intents intentId = some i → (f i).status.IsOpen → i.status.IsOpen) :
    NoClash (modifyFirst intentId f intents) := by
  induction intents with
  | nil => exact h
  | cons i intents ih =>
    unfold NoClash at h ih ⊢
    unfold stored at hopen ih
    rw [List.pairwise_cons] at h
    rw [SolMesh.modifyFirst]
    split_ifs with hid
    · have hi := hopen i (List.find?_cons_of_pos (decide_eq_true hid))
      refine List.pairwise_cons.mpr ⟨fun j hj hclash => h.1 j hj ?_, h.2⟩
      exact hclash.of_changed (hpayment i) rfl hi id
    · rw [List.find?_cons_of_neg (by simpa using hid)] at hopen
      refine List.pairwise_cons.mpr ⟨fun j hj hclash => ?_, ih h.2 hopen⟩
      rcases mem_modifyFirst hj with hmem | ⟨k, hk, rfl⟩
      · exact h.1 j hmem hclash
      · exact h.1 k (mem_of_stored hk) (hclash.of_changed rfl (hpayment k) id (hopen k hk))

/-- **A change of a stored intent** that does not reopen it. -/
lemma NoClash.modifyStored (h : NoClash intents) (hpayment : ∀ i, (f i).payment = i.payment)
    (hopen : ∀ i, stored intents intentId = some i → (f i).status.IsOpen → i.status.IsOpen) :
    NoClash ((modifyStored intentId f).after intents) := by
  unfold StoreOp.after SolMesh.modifyStored
  split_ifs
  · exact h.modifyFirst hpayment hopen
  · exact h

end Clashes

end SolMesh
