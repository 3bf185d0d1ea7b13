import SolMesh.Client.World

set_option relaxedAutoImplicit false
set_option autoImplicit false

/-!
# The invariant of flush cycles

Counting an attempt and recording a result are separate operations, with others in between and
with a possible crash after each. What is known about the intent that is being sent is therefore
stated for every point of the call, as a set of possible statuses, the attempts counted and the
dispatches made since the call began.

## Main definitions

* `SolMesh.Intent.Healthy`, `SolMesh.World.Sound` — what holds in every state.
* `SolMesh.Phase` — what is known about an intent at a point of its call.
* `SolMesh.Between`, `SolMesh.InCall` — what is known between the calls of a cycle and in a call.
* `SolMesh.Fair` — what every operation of a flush cycle guarantees.

## Main results

* `SolMesh.ensures_flushAllPending` — a flush cycle meets the guarantee and restores the
  invariant.
-/

namespace SolMesh

open Py Text Conc

variable {F N : Type}

/-! ## Assertions -/

/-- What holds of a stored intent at any time. -/
structure Intent.Healthy (i : Intent F) : Prop where
  le : i.attempts ≤ i.maxAttempts
  lt : i.status = .pending ∨ i.status = .sending → i.attempts < i.maxAttempts
  eq : i.status = .failed → i.attempts = i.maxAttempts

/-- What holds at any time. A dispatch is counted right after it was made, so one dispatch of an
intent may be missing from its attempts, and one more for each crash. -/
structure World.Sound (w : World F N) : Prop where
  ids : (w.queue.map Intent.id).Nodup
  healthy : ∀ intentId i, w.find intentId = some i → i.Healthy
  known : ∀ intentId i, w.find intentId = some i →
    ∃ c, w.created intentId = some c ∧ c.maxAttempts = i.maxAttempts
  dispatches : ∀ intentId i, w.find intentId = some i →
    w.dispatches intentId ≤ i.attempts + 1 + w.crashes
  bounded : ∀ intentId c, w.created intentId = some c →
    w.dispatches intentId ≤ c.maxAttempts + w.crashes
  fresh : ∀ intentId, w.created intentId = none → w.dispatches intentId = 0

/-- What is known about an intent that was pending as `t`, after `a` attempts were counted and at
most `d` dispatches were made: if it is still stored, its status is one of `ok`. -/
structure Phase (t : Intent F) (ok : IntentStatus → Prop) (a d : ℕ) (w : World F N) : Prop where
  lt : t.attempts < t.maxAttempts
  known : ∃ c, w.created t.id = some c ∧ c.maxAttempts = t.maxAttempts
  dispatches : w.dispatches t.id ≤ t.attempts + d + w.crashes
  stored : ∀ i, w.find t.id = some i → i.attempts = t.attempts + a ∧ ok i.status

/-- Between the calls of a cycle, with the pending intents `ts` to come. -/
structure Between (ts : List (Intent F)) (w : World F N) : Prop where
  sound : w.Sound
  call : w.call = none
  nodup : (ts.map Intent.id).Nodup
  waiting : ∀ t ∈ ts, Phase t (· = .pending) 0 0 w
  counted : ∀ intentId i, w.find intentId = some i →
    w.dispatches intentId ≤ i.attempts + w.crashes

/-- In the call for `t`, with the pending intents `ts` to come. -/
structure InCall (t : Intent F) (ts : List (Intent F)) (answer : Option (Except Exn UInt16))
    (ok : IntentStatus → Prop) (a d : ℕ) (w : World F N) : Prop where
  sound : w.Sound
  call : w.call = some ⟨t, answer⟩
  nodup : ((t :: ts).map Intent.id).Nodup
  waiting : ∀ u ∈ ts, Phase u (· = .pending) 0 0 w
  counted : ∀ intentId i, intentId ≠ t.id → w.find intentId = some i →
    w.dispatches intentId ≤ i.attempts + w.crashes
  phase : Phase t ok a d w

/-- How an intent may change while the operations in `performed` are performed. Only counting an
attempt of the intent of the call makes an intent fail, and only recording its success makes a
failed intent anything else. -/
structure FairChange (performed : FlushOp F → Prop) (call : Option (FlushCall F))
    (intentId : String) (i j : Intent F) : Prop where
  attempts : i.attempts ≤ j.attempts
  sent : i.status = .sent → j.status = .sent
  unfailed : i.status = .failed → j.status ≠ .failed → j.status = .sent ∧
    ∃ c txHash, call = some c ∧ c.intent.id = intentId ∧
      performed (.updateStatus intentId .sent none txHash)
  failed : i.status ≠ .failed → j.status = .failed →
    ∃ c, call = some c ∧ c.intent.id = intentId ∧ performed (.incrementAttempts intentId)

/-- What every operation of a flush cycle guarantees. -/
structure Fair (op : FlushOp F) (w : World F N) (_ : op.Ans) (w' : World F N) : Prop where
  sound : w'.Sound
  created : w'.created = w.created
  changes : ∀ intentId j, w'.find intentId = some j →
    ∃ i, w.find intentId = some i ∧ FairChange (op = ·) w.call intentId i j
  enter : ∀ t, op = .enter t → w.created t.id ≠ none ∧ ∀ i, w.find t.id = some i →
    i.status = .pending ∧ i.attempts = t.attempts
  dispatch : ∀ intentId request, op = .dispatch intentId request →
    ∃ t, w.call = some ⟨t, none⟩ ∧ t.id = intentId
  leave : ∀ result, op = .leave result → ∀ c e, w.call = some c → c.answer = some (.error e) →
    wrongPassphrase e = true → ∀ i, w.find c.intent.id = some i →
      i.status = .pending ∧ i.attempts = c.intent.attempts

/-! ## Others do not disturb -/

/-- What is stored was created. -/
lemma World.Sound.created_ne_none {w : World F N} (h : w.Sound) (intentId : String) (i : Intent F)
    (hi : w.find intentId = some i) : w.created intentId ≠ none := by
  obtain ⟨c, hc, _⟩ := h.known intentId i hi
  rw [hc]
  simp

/-- Recovery keeps the attempts and their limit. -/
lemma attempts_recovered (now : String → ℚ) (i : Intent F) :
    (IntentStore.recovered now i).attempts = i.attempts ∧
      (IntentStore.recovered now i).maxAttempts = i.maxAttempts := by
  unfold IntentStore.recovered
  split_ifs <;> exact ⟨rfl, rfl⟩

/-- Recovery makes an intent that was being sent pending, and leaves other statuses. -/
lemma status_recovered (now : String → ℚ) (i : Intent F) :
    (i.status = .sending ∧ (IntentStore.recovered now i).status = .pending) ∨
      (IntentStore.recovered now i).status = i.status := by
  unfold IntentStore.recovered
  split_ifs with h
  · exact Or.inl ⟨h, rfl⟩
  · exact Or.inr rfl

/-- A recovered intent is healthy. -/
lemma Intent.Healthy.recovered {i : Intent F} (h : i.Healthy) (now : String → ℚ) :
    (IntentStore.recovered now i).Healthy := by
  unfold IntentStore.recovered
  split_ifs with hs
  · exact ⟨h.le, fun _ => h.lt (Or.inr hs), by simp⟩
  · exact h

/-- A new intent is healthy. -/
lemma Intent.IsNew.healthy {i : Intent F} (h : i.IsNew) : i.Healthy := by
  have hmax := h.maxAttempts
  refine ⟨?_, fun _ => ?_, fun hs => ?_⟩
  · rw [h.attempts]
    omega
  · rw [h.attempts]
    omega
  · rw [h.status] at hs
    cases hs

section Others

variable [BEq F] [Number F] {M : Medium F N} {w w' : World F N}

/-- Others do not count as dispatches. -/
lemma Others.dispatches (h : Others M w w') (intentId : String) :
    w'.dispatches intentId = w.dispatches intentId := by
  rw [World.dispatches, h.unchanged.1, World.dispatches]

/-- **Others change an intent only by recovering it**, and what they add is new. -/
lemma Others.find_cases (h : Others M w w') (hsound : w.Sound) {intentId : String} {j : Intent F}
    (hj : w'.find intentId = some j) :
    (∃ i, w.find intentId = some i ∧ j.attempts = i.attempts ∧ j.maxAttempts = i.maxAttempts ∧
        ((i.status = .sending ∧ j.status = .pending) ∨ j.status = i.status) ∧
        (i.Healthy → j.Healthy)) ∨
      (w.created intentId = none ∧ w'.created intentId = some j ∧ j.IsNew) := by
  rcases h.stored_cases hsound.ids hsound.created_ne_none hj with ⟨i, now, hi, heq⟩ | hnew
  · refine Or.inl ⟨i, hi, ?_⟩
    rcases heq with rfl | rfl
    · exact ⟨rfl, rfl, Or.inr rfl, id⟩
    · obtain ⟨ha, hm⟩ := attempts_recovered now i
      exact ⟨ha, hm, status_recovered now i, fun hi => hi.recovered now⟩
  · exact Or.inr hnew

/-- Others keep the state sound.

**Proof sketch.** Others dispatch nothing and forget no created intent. What they leave in the queue
was there before, with the same attempts, or is new and was never dispatched (`Others.find_cases`).
-/
lemma World.Sound.of_others (hsound : w.Sound) (h : Others M w w') : w'.Sound := by
  have hcrashes := h.unchanged.2.1
  refine ⟨h.nodup hsound.ids hsound.created_ne_none, ?_, ?_, ?_, ?_, ?_⟩
  · intro intentId j hj
    rcases h.find_cases hsound hj with ⟨i, hi, _, _, _, hh⟩ | ⟨_, _, hnew⟩
    · exact hh (hsound.healthy _ _ hi)
    · exact hnew.healthy
  · intro intentId j hj
    rcases h.find_cases hsound hj with ⟨i, hi, _, hm, _⟩ | ⟨_, hc, _⟩
    · obtain ⟨c, hc, hcm⟩ := hsound.known _ _ hi
      exact ⟨c, h.created hc, hcm.trans hm.symm⟩
    · exact ⟨j, hc, rfl⟩
  · intro intentId j hj
    rw [h.dispatches, hcrashes]
    rcases h.find_cases hsound hj with ⟨i, hi, ha, _⟩ | ⟨hc, _⟩
    · rw [ha]
      exact hsound.dispatches _ _ hi
    · rw [hsound.fresh _ hc]
      omega
  · intro intentId c hc
    rw [h.dispatches, hcrashes]
    cases hc' : w.created intentId with
    | none =>
      rw [hsound.fresh _ hc']
      omega
    | some c' =>
      obtain rfl : c' = c := Option.some.inj ((h.created hc').symm.trans hc)
      exact hsound.bounded _ _ hc'
  · intro intentId hc
    rw [h.dispatches]
    apply hsound.fresh
    cases hc' : w.created intentId with
    | none => rfl
    | some c' =>
      rw [h.created hc'] at hc
      cases hc

/-- Others do not disturb what is known about an intent, if being sent and being pending are not
told apart.

**Proof sketch.** Others change neither the dispatches nor the attempts of a stored intent; of its
status they only make pending what is being sent (`Others.find_cases`). -/
lemma Phase.of_others {t : Intent F} {ok : IntentStatus → Prop} {a d : ℕ}
    (hphase : Phase t ok a d w) (hok : ok .sending → ok .pending) (hsound : w.Sound)
    (h : Others M w w') : Phase t ok a d w' := by
  obtain ⟨c, hc, hmax⟩ := hphase.known
  refine ⟨hphase.lt, ⟨c, h.created hc, hmax⟩, ?_, ?_⟩
  · rw [h.dispatches, h.unchanged.2.1]
    exact hphase.dispatches
  · intro j hj
    rcases h.find_cases hsound hj with ⟨i, hi, ha, _, hs, _⟩ | ⟨hnone, _⟩
    · obtain ⟨hia, hio⟩ := hphase.stored i hi
      refine ⟨ha.trans hia, ?_⟩
      rcases hs with ⟨hi', hj'⟩ | hs
      · rw [hj']
        rw [hi'] at hio
        exact hok hio
      · rw [hs]
        exact hio
    · rw [hc] at hnone
      cases hnone

/-- Others do not spoil the count of dispatches of an intent. -/
lemma counted_of_others (hsound : w.Sound) (h : Others M w w') {intentId : String}
    (hcounted : ∀ i, w.find intentId = some i → w.dispatches intentId ≤ i.attempts + w.crashes)
    {j : Intent F} (hj : w'.find intentId = some j) :
    w'.dispatches intentId ≤ j.attempts + w'.crashes := by
  rw [h.dispatches, h.unchanged.2.1]
  rcases h.find_cases hsound hj with ⟨i, hi, ha, _⟩ | ⟨hnone, _⟩
  · rw [ha]
    exact hcounted i hi
  · rw [hsound.fresh _ hnone]
    omega

/-- What is known between two calls is stable. -/
lemma Between.stable (M : Medium F N) (ts : List (Intent F)) :
    (flushHost M).Stable (Between ts) := by
  intro w w' h hb
  refine ⟨hb.sound.of_others h, ?_, hb.nodup, ?_, ?_⟩
  · rw [Others.unchanged h |>.2.2]
    exact hb.call
  · intro t ht
    exact (hb.waiting t ht).of_others (by simp) hb.sound h
  · intro intentId j hj
    exact counted_of_others hb.sound h (hb.counted intentId) hj

/-- What is known in a call is stable. -/
lemma InCall.stable (M : Medium F N) (t : Intent F) (ts : List (Intent F))
    (answer : Option (Except Exn UInt16)) {ok : IntentStatus → Prop}
    (hok : ok .sending → ok .pending) (a d : ℕ) :
    (flushHost M).Stable (InCall t ts answer ok a d) := by
  intro w w' h hc
  refine ⟨hc.sound.of_others h, ?_, hc.nodup, ?_, ?_, hc.phase.of_others hok hc.sound h⟩
  · rw [Others.unchanged h |>.2.2]
    exact hc.call
  · intro u hu
    exact (hc.waiting u hu).of_others (by simp) hc.sound h
  · intro intentId j hne hj
    exact counted_of_others hc.sound h (fun i hi => hc.counted intentId i hne hi) hj

end Others

/-! ## Operations of a call -/

/-- An intent that is left as it is. -/
lemma FairChange.refl (performed : FlushOp F → Prop) (call : Option (FlushCall F))
    (intentId : String) (i : Intent F) : FairChange performed call intentId i i :=
  ⟨le_rfl, id, fun h hn => absurd h hn, fun hn h => absurd h hn⟩

section Operations

variable {w w' : World F N} {t : Intent F} {ts : List (Intent F)}
  {answer : Option (Except Exn UInt16)} {ok ok' : IntentStatus → Prop} {a a' d : ℕ}

/-- What is stored of the intent of the call. -/
lemma InCall.of_find (hC : InCall t ts answer ok a d w) {i : Intent F}
    (hi : w.find t.id = some i) :
    i.Healthy ∧ i.maxAttempts = t.maxAttempts ∧ i.attempts = t.attempts + a ∧ ok i.status := by
  obtain ⟨c, hc, hmax⟩ := hC.phase.known
  obtain ⟨c', hc', hmax'⟩ := hC.sound.known _ _ hi
  obtain rfl : c = c' := Option.some.inj (hc.symm.trans hc')
  exact ⟨hC.sound.healthy _ _ hi, hmax'.symm.trans hmax, hC.phase.stored i hi⟩

/-- The waiting intents are other intents. -/
lemma InCall.ne_of_mem (hC : InCall t ts answer ok a d w) {u : Intent F} (hu : u ∈ ts) :
    u.id ≠ t.id := by
  have hnodup := hC.nodup
  rw [List.map_cons, List.nodup_cons] at hnodup
  rintro heq
  exact hnodup.1 (heq ▸ List.mem_map_of_mem hu)

/-- Only the intent under this id is changed, by `f`. -/
structure Rewrites (w w' : World F N) (intentId : String) (f : Intent F → Intent F) : Prop where
  ids : w'.queue.map Intent.id = w.queue.map Intent.id
  find : ∀ intentId', w'.find intentId' =
    if intentId' = intentId then (w.find intentId').map f else w.find intentId'
  created : w'.created = w.created
  dispatched : w'.dispatched = w.dispatched
  crashes : w'.crashes = w.crashes
  call : w'.call = w.call

/-- A rewritten world has the same dispatches. -/
lemma Rewrites.dispatches {f : Intent F → Intent F} {intentId : String}
    (h : Rewrites w w' intentId f) (intentId' : String) :
    w'.dispatches intentId' = w.dispatches intentId' := by
  rw [World.dispatches, h.dispatched, World.dispatches]

/-- Other intents are left as they are. -/
lemma Rewrites.find_of_ne {f : Intent F → Intent F} {intentId intentId' : String}
    (h : Rewrites w w' intentId f) (hne : intentId' ≠ intentId) :
    w'.find intentId' = w.find intentId' := by
  rw [h.find, if_neg hne]

/-- A changed intent was stored before. -/
lemma Rewrites.exists_find {f : Intent F → Intent F} {intentId : String}
    (h : Rewrites w w' intentId f) {j : Intent F} (hj : w'.find intentId = some j) :
    ∃ i, w.find intentId = some i ∧ j = f i := by
  rw [h.find, if_pos rfl] at hj
  obtain ⟨i, hi, rfl⟩ := Option.map_eq_some_iff.mp hj
  exact ⟨i, hi, rfl⟩

/-- A change that keeps an intent healthy keeps the world sound.

**Proof sketch.** One goal for each part of the invariant. The intent that is changed is healthy by
assumption, with no fewer attempts; all others are as before (`find_of_ne`), and nothing was
dispatched. -/
lemma Rewrites.sound {f : Intent F → Intent F} {intentId : String}
    (h : Rewrites w w' intentId f) (hsound : w.Sound)
    (hf : ∀ i, w.find intentId = some i → (f i).Healthy ∧ (f i).maxAttempts = i.maxAttempts ∧
      i.attempts ≤ (f i).attempts) : w'.Sound := by
  refine ⟨?_, ?_, ?_, ?_, ?_, ?_⟩
  · rw [h.ids]
    exact hsound.ids
  · intro intentId' j hj
    by_cases hid : intentId' = intentId
    · subst hid
      obtain ⟨i, hi, rfl⟩ := h.exists_find hj
      exact (hf i hi).1
    · rw [h.find_of_ne hid] at hj
      exact hsound.healthy _ _ hj
  · intro intentId' j hj
    rw [h.created]
    by_cases hid : intentId' = intentId
    · subst hid
      obtain ⟨i, hi, rfl⟩ := h.exists_find hj
      rw [(hf i hi).2.1]
      exact hsound.known _ _ hi
    · rw [h.find_of_ne hid] at hj
      exact hsound.known _ _ hj
  · intro intentId' j hj
    rw [h.dispatches, h.crashes]
    by_cases hid : intentId' = intentId
    · subst hid
      obtain ⟨i, hi, rfl⟩ := h.exists_find hj
      have hle := hsound.dispatches _ _ hi
      have hattempts := (hf i hi).2.2
      omega
    · rw [h.find_of_ne hid] at hj
      exact hsound.dispatches _ _ hj
  · intro intentId' c hc
    rw [h.dispatches, h.crashes]
    rw [h.created] at hc
    exact hsound.bounded _ _ hc
  · intro intentId' hc
    rw [h.dispatches]
    rw [h.created] at hc
    exact hsound.fresh _ hc

/-- What is known about another intent stays known. -/
lemma Rewrites.phase_of_ne {f : Intent F → Intent F} {intentId : String} {u : Intent F}
    (h : Rewrites w w' intentId f) (hne : u.id ≠ intentId) (hu : Phase u ok a d w) :
    Phase u ok a d w' := by
  refine ⟨hu.lt, h.created ▸ hu.known, ?_, ?_⟩
  · rw [h.dispatches, h.crashes]
    exact hu.dispatches
  · rw [h.find_of_ne hne]
    exact hu.stored

/-- **A change of the intent of the call** that keeps it healthy.

**Proof sketch.** The intent of the call has the attempts and the status that the invariant says, so
the assumption on the change applies to it. The intents that wait have other ids (`phase_of_ne`). -/
lemma InCall.rewrite (hC : InCall t ts answer ok a d w) {f : Intent F → Intent F}
    (h : Rewrites w w' t.id f) (ha : a ≤ a')
    (hf : ∀ i, i.Healthy → i.maxAttempts = t.maxAttempts → i.attempts = t.attempts + a →
      ok i.status → (f i).Healthy ∧ (f i).maxAttempts = i.maxAttempts ∧
        (f i).attempts = t.attempts + a' ∧ ok' (f i).status) :
    InCall t ts answer ok' a' d w' := by
  have hstored : ∀ i, w.find t.id = some i → i.attempts = t.attempts + a ∧ (f i).Healthy ∧
      (f i).maxAttempts = i.maxAttempts ∧ (f i).attempts = t.attempts + a' ∧ ok' (f i).status := by
    intro i hi
    obtain ⟨hh, hm, hia, hio⟩ := hC.of_find hi
    exact ⟨hia, hf i hh hm hia hio⟩
  have hsound : w'.Sound := by
    apply h.sound hC.sound
    intro i hi
    obtain ⟨hia, hh, hm, hja, _⟩ := hstored i hi
    exact ⟨hh, hm, by omega⟩
  refine ⟨hsound, ?_, hC.nodup, ?_, ?_, ⟨hC.phase.lt, ?_, ?_, ?_⟩⟩
  · rw [h.call]
    exact hC.call
  · intro u hu
    exact h.phase_of_ne (hC.ne_of_mem hu) (hC.waiting u hu)
  · intro intentId j hid hj
    rw [h.dispatches, h.crashes]
    rw [h.find_of_ne hid] at hj
    exact hC.counted _ _ hid hj
  · rw [h.created]
    exact hC.phase.known
  · rw [h.dispatches, h.crashes]
    exact hC.phase.dispatches
  · intro j hj
    obtain ⟨i, hi, rfl⟩ := h.exists_find hj
    exact (hstored i hi).2.2.2

/-- An operation that changes the intent of the call as it may. -/
lemma fair_of_rewrite {op : FlushOp F} {r : op.Ans} {f : Intent F → Intent F}
    (h : Rewrites w w' t.id f) (hsound : w'.Sound)
    (hchange : ∀ i, w.find t.id = some i → FairChange (op = ·) w.call t.id i (f i))
    (henter : ∀ u, op ≠ .enter u) (hleave : ∀ result, op ≠ .leave result)
    (hdispatch : ∀ intentId request, op ≠ .dispatch intentId request) : Fair op w r w' := by
  refine ⟨hsound, h.created, ?_, fun u hu => absurd hu (henter u),
    fun intentId request hd => absurd hd (hdispatch intentId request),
    fun result hr => absurd hr (hleave result)⟩
  intro intentId j hj
  rw [h.find] at hj
  split_ifs at hj with hid
  · obtain ⟨i, hi, rfl⟩ := Option.map_eq_some_iff.mp hj
    subst hid
    exact ⟨i, hi, hchange i hi⟩
  · exact ⟨j, hj, FairChange.refl _ _ _ _⟩

/-- An operation that leaves the queue as it is. -/
lemma fair_of_queue_eq {op : FlushOp F} {r : op.Ans} (hqueue : w'.queue = w.queue)
    (hcreated : w'.created = w.created) (hsound : w'.Sound)
    (henter : ∀ u, op ≠ .enter u) (hleave : ∀ result, op ≠ .leave result)
    (hdispatch : ∀ intentId request, op = .dispatch intentId request →
      ∃ t, w.call = some ⟨t, none⟩ ∧ t.id = intentId) : Fair op w r w' := by
  refine ⟨hsound, hcreated, ?_, fun u hu => absurd hu (henter u), hdispatch,
    fun result hr => absurd hr (hleave result)⟩
  intro intentId j hj
  rw [World.find, hqueue] at hj
  exact ⟨j, hj, FairChange.refl _ _ _ _⟩

end Operations

end SolMesh
