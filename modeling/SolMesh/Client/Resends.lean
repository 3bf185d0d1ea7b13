import SolMesh.Client.Retry

set_option relaxedAutoImplicit false
set_option autoImplicit false

/-!
# What the retry loop sends again

The retry loop sends each chunk once, and then, round by round, those whose numbers are not among
the acknowledgements it read at the beginning of the round. So a chunk that is acknowledged by the
time it was sent is never sent again.

## Main definitions

* `SolMesh.Spares` — a chunk is not sent as long as its number is read to be acknowledged.
* `SolMesh.SendsOnce` — a chunk that was sent is spared from then on.

## Main results

* `SolMesh.spares_retryRounds` — the rounds spare what is acknowledged.
* `SolMesh.sendsOnce_retryChunks` — the loop sends no acknowledged chunk again.
-/

namespace SolMesh

open Py Text Conc

/-! ## Programs that spare a chunk -/

/-- The operation does not send the frame. -/
def RetryOp.Avoids (frame : Bytes) : RetryOp → Prop
  | .send frame' => frame' ≠ frame
  | _ => True

/-- The acknowledgements that are read for the message contain the number. -/
def RetryOp.Tells (msgId num : ℕ) : (op : RetryOp) → op.Ans → Prop
  | .acked id, numbers => id = msgId → num ∈ (show List ℕ from numbers)
  | .send _, _ | .sleep _, _ | .setResult _ _, _ => True

/-- **The frame is spared**: the program does not send it, as long as the acknowledgements it reads
contain its number. -/
abbrev Spares {α : Type} (frame : Bytes) (msgId num : ℕ) (p : Prog RetryOp RetryOp.Ans α) : Prop :=
  p.PerformsWhile (RetryOp.Tells msgId num) (RetryOp.Avoids frame)

/-- **No acknowledged chunk is sent again**: whenever the program sends the frame of a chunk, it
spares it from then on. -/
def SendsOnce {α : Type} (frame : ℕ → Bytes) (msgId n : ℕ) : Prog RetryOp RetryOp.Ans α → Prop
  | .ret _ => True
  | .call op next => (∀ i < n, op = .send (frame i) → ∀ r, Spares (frame i) msgId i (next r)) ∧
      ∀ r, SendsOnce frame msgId n (next r)

section Programs

variable {α β : Type} {frame : ℕ → Bytes} {msgId n num : ℕ}

/-- A sequence, if its second part spares all chunks. -/
lemma SendsOnce.bind {p : Prog RetryOp RetryOp.Ans α} {f : α → Prog RetryOp RetryOp.Ans β}
    (h : SendsOnce frame msgId n p) (hf : ∀ a, SendsOnce frame msgId n (f a))
    (hspares : ∀ a, ∀ i < n, Spares (frame i) msgId i (f a)) :
    SendsOnce frame msgId n (p >>= f) := by
  induction p with
  | ret a => exact hf a
  | call op next ih =>
    exact ⟨fun i hi hop r => (h.1 i hi hop r).bind fun a => hspares a i hi, fun r => ih r (h.2 r)⟩

/-- A sequence of programs that can raise. -/
lemma SendsOnce.bindExcept {p : RetryLoop α} {f : α → RetryLoop β}
    (h : SendsOnce frame msgId n p.run) (hf : ∀ a, SendsOnce frame msgId n (f a).run)
    (hspares : ∀ a, ∀ i < n, Spares (frame i) msgId i (f a).run) :
    SendsOnce frame msgId n (p >>= f).run := by
  apply SendsOnce.bind h
  · intro answer
    cases answer with
    | ok a => exact hf a
    | error e => trivial
  · intro answer i hi
    cases answer with
    | ok a => exact hspares a i hi
    | error e => trivial

/-- Waiting sends nothing. -/
lemma spares_sleep (frame : Bytes) (seconds : ℚ) :
    Spares frame msgId num (Retry.sleep seconds).run :=
  ⟨trivial, fun _ _ => trivial⟩

/-- Sending another frame. -/
lemma spares_send {frame frame' : Bytes} (h : frame' ≠ frame) :
    Spares frame msgId num (Retry.send frame').run :=
  ⟨h, fun _ _ => trivial⟩

/-- The first pass spares what it does not have to send.

**Proof sketch.** Induction on the chunks that the pass still sends. -/
lemma spares_sendChunks {frame : Bytes} {rest : List Bytes} (h : frame ∉ rest) :
    Spares frame msgId num (sendChunks rest).run := by
  induction rest with
  | nil => trivial
  | cons chunk rest ih =>
    rw [List.mem_cons, not_or] at h
    unfold sendChunks
    apply Prog.PerformsWhile.bindExcept (spares_send (Ne.symm h.1))
    intro sent
    cases sent with
    | false => trivial
    | true =>
      by_cases hlast : rest = []
      · subst hlast
        trivial
      · rw [if_neg (by simp), if_pos hlast]
        exact Prog.PerformsWhile.bindExcept (spares_sleep _ _) fun _ => ih h.2

/-- Sending again spares what is not to be sent again. -/
lemma spares_resend {frame : Bytes} {chunks : List Bytes} {unacked : List ℕ}
    (h : ∀ idx ∈ unacked, chunks.getD idx [] ≠ frame) :
    Spares frame msgId num (resend chunks unacked).run := by
  induction unacked with
  | nil => trivial
  | cons idx rest ih =>
    have hrest := ih fun i hi => h i (List.mem_cons_of_mem _ hi)
    unfold resend
    apply Prog.PerformsWhile.bindExcept (spares_send (h idx List.mem_cons_self))
    intro _
    exact Prog.PerformsWhile.bindExcept (spares_sleep _ _) fun _ => hrest

/-- The positions of the chunks that are not acknowledged, for chunks numbered from zero. -/
lemma mem_unackedOf {acked : List ℕ} {i : ℕ} :
    i ∈ unackedOf (List.range n) acked ↔ i < n ∧ i ∉ acked := by
  rw [unackedOf, List.mem_filter, List.mem_range, List.length_range, decide_eq_true_iff]
  refine and_congr_right fun hi => ?_
  rw [List.getD_eq_getElem?_getD, List.getElem?_range hi, Option.getD_some]

/-- The frame at a position. -/
lemma getD_map_range {i : ℕ} (hi : i < n) : ((List.range n).map frame).getD i [] = frame i := by
  rw [List.getD_eq_getElem?_getD, List.getElem?_map, List.getElem?_range hi, Option.map_some,
    Option.getD_some]

variable (hinj : Set.InjOn frame (Set.Iio n))

include hinj

/-- A round spares what it does not find missing. -/
lemma spares_resend_unacked {acked : List ℕ} (hnum : num < n) (h : num ∈ acked) :
    Spares (frame num) msgId num
      (resend ((List.range n).map frame) (unackedOf (List.range n) acked)).run := by
  apply spares_resend
  intro idx hidx
  obtain ⟨hlt, hmissing⟩ := mem_unackedOf.mp hidx
  rw [getD_map_range hlt]
  exact fun heq => hmissing (hinj hlt hnum heq ▸ h)

/-- **The rounds spare what is acknowledged.** -/
lemma spares_retryRounds (hnum : num < n) (rounds : ℕ) :
    Spares (frame num) msgId num
      (retryRounds ((List.range n).map frame) (List.range n) msgId rounds).run := by
  induction rounds with
  | zero => trivial
  | succ rounds ih =>
    unfold retryRounds
    apply Prog.PerformsWhile.bindExcept (spares_sleep _ _)
    intro _
    refine ⟨trivial, fun (acked : List ℕ) htells => ?_⟩
    have hacked : num ∈ acked := htells rfl
    change Spares _ _ _ (ite _ _ _ : RetryLoop Bool).run
    split_ifs
    · trivial
    · exact Prog.PerformsWhile.bindExcept (spares_resend_unacked hinj hnum hacked) fun _ => ih

/-- Sending a chunk that is spared afterwards. -/
lemma SendsOnce.send_bind {i : ℕ} (hi : i < n) {f : Bool → RetryLoop β}
    (hspares : ∀ sent, Spares (frame i) msgId i (f sent).run)
    (hf : ∀ sent, SendsOnce frame msgId n (f sent).run) :
    SendsOnce frame msgId n (Retry.send (frame i) >>= f).run := by
  refine ⟨fun j hj hop r => ?_, fun r => ?_⟩
  · obtain rfl : i = j := hinj hi hj (RetryOp.send.inj hop)
    cases r with
    | ok sent => exact hspares sent
    | error e => trivial
  · cases r with
    | ok sent => exact hf sent
    | error e => trivial

omit hinj in
/-- Waiting before going on. -/
lemma SendsOnce.sleep_bind {seconds : ℚ} {f : Unit → RetryLoop β}
    (hf : SendsOnce frame msgId n (f ()).run) :
    SendsOnce frame msgId n (Retry.sleep seconds >>= f).run :=
  ⟨fun _ _ hop => (nomatch hop), fun _ => hf⟩

/-- The first pass sends each chunk once.

**Proof sketch.** Induction on the numbers. The first chunk differs from the others, as its number
does (`hinj`), so the rest of the pass does not send it again (`spares_sendChunks`). -/
lemma sendsOnce_sendChunks {nums : List ℕ} (hnodup : nums.Nodup) (hlt : ∀ i ∈ nums, i < n) :
    SendsOnce frame msgId n (sendChunks (nums.map frame)).run := by
  induction nums with
  | nil => trivial
  | cons i nums ih =>
    rw [List.nodup_cons] at hnodup
    have hi := hlt i List.mem_cons_self
    have hrest := ih hnodup.2 fun j hj => hlt j (List.mem_cons_of_mem _ hj)
    have hspares : Spares (frame i) msgId i (sendChunks (nums.map frame)).run := by
      apply spares_sendChunks
      intro hmem
      obtain ⟨j, hj, heq⟩ := List.mem_map.mp hmem
      exact hnodup.1 (hinj (hlt j (List.mem_cons_of_mem _ hj)) hi heq ▸ hj)
    rw [List.map_cons]
    unfold sendChunks
    apply SendsOnce.send_bind hinj hi
    · intro sent
      cases sent with
      | false => trivial
      | true =>
        by_cases hlast : nums.map frame = []
        · rw [hlast]
          trivial
        · rw [if_neg (by simp), if_pos hlast]
          exact Prog.PerformsWhile.bindExcept (spares_sleep _ _) fun _ => hspares
    · intro sent
      cases sent with
      | false => trivial
      | true =>
        by_cases hlast : nums.map frame = []
        · rw [hlast]
          trivial
        · rw [if_neg (by simp), if_pos hlast]
          exact SendsOnce.sleep_bind hrest

/-- Sending again sends each chunk once.

**Proof sketch.** Induction on the numbers. The first one is not among the others, and frames with
different numbers differ (`hinj`), so the others do not send its frame again. -/
lemma sendsOnce_resend {unacked : List ℕ} (hnodup : unacked.Nodup) (hlt : ∀ i ∈ unacked, i < n) :
    SendsOnce frame msgId n (resend ((List.range n).map frame) unacked).run := by
  induction unacked with
  | nil => trivial
  | cons i rest ih =>
    rw [List.nodup_cons] at hnodup
    have hi := hlt i List.mem_cons_self
    have hrest := ih hnodup.2 fun j hj => hlt j (List.mem_cons_of_mem _ hj)
    unfold resend
    rw [getD_map_range hi]
    apply SendsOnce.send_bind hinj hi
    · intro _
      apply Prog.PerformsWhile.bindExcept (spares_sleep _ _)
      intro _
      apply spares_resend
      intro j hj heq
      have hj' := hlt j (List.mem_cons_of_mem _ hj)
      rw [getD_map_range hj'] at heq
      exact hnodup.1 (hinj hj' hi heq ▸ hj)
    · exact fun _ => SendsOnce.sleep_bind hrest

/-- Each round sends each chunk at most once, and the next ones spare it if it is acknowledged. -/
lemma sendsOnce_retryRounds (rounds : ℕ) :
    SendsOnce frame msgId n
      (retryRounds ((List.range n).map frame) (List.range n) msgId rounds).run := by
  induction rounds with
  | zero => trivial
  | succ rounds ih =>
    unfold retryRounds
    apply SendsOnce.sleep_bind
    refine ⟨fun _ _ hop => (by cases hop), fun (acked : List ℕ) => ?_⟩
    change SendsOnce _ _ _ (ite _ _ _ : RetryLoop Bool).run
    split_ifs
    · trivial
    · apply SendsOnce.bindExcept (sendsOnce_resend hinj _ _) fun _ => ih
      · exact fun _ i hi => spares_retryRounds hinj hi rounds
      · exact List.nodup_range.filter _
      · exact fun i hi => (mem_unackedOf.mp hi).1

omit hinj in
/-- A program that reads the acknowledgements and then sends nothing. -/
lemma performsWhile_acked {P : RetryOp → Prop} {A : (op : RetryOp) → op.Ans → Prop}
    {f : List ℕ → RetryLoop β} (hP : P (.acked msgId))
    (hf : ∀ numbers, (f numbers).run.PerformsWhile A P) :
    (Retry.acked msgId >>= f).run.PerformsWhile A P :=
  ⟨hP, fun numbers _ => hf numbers⟩

/-- **The loop sends no acknowledged chunk again.**

**Proof sketch.** The loop is the first pass, the rounds, and the final check. Each sends a chunk at
most once after it was acknowledged (`sendsOnce_sendChunks`, `sendsOnce_retryRounds`), and the
rounds and the check send none that was acknowledged before (`spares_retryRounds`). -/
lemma sendsOnce_retryChunks :
    SendsOnce frame msgId n
      (retryChunks ((List.range n).map frame) (List.range n) msgId).run := by
  unfold retryChunks
  apply SendsOnce.bindExcept
    (sendsOnce_sendChunks hinj List.nodup_range fun i hi => List.mem_range.mp hi)
  · intro _
    apply SendsOnce.bindExcept (sendsOnce_retryRounds hinj _)
    · intro done
      cases done with
      | true => trivial
      | false =>
        refine ⟨fun _ _ hop => (nomatch hop), fun (acked : List ℕ) => ?_⟩
        change SendsOnce _ _ _ (ite _ _ _ : RetryLoop Unit).run
        split_ifs
        · exact ⟨fun _ _ hop => (nomatch hop), fun _ => trivial⟩
        · trivial
    · intro done i _
      cases done with
      | true => trivial
      | false =>
        refine performsWhile_acked trivial fun acked => ?_
        dsimp only
        split_ifs
        · exact ⟨trivial, fun _ _ => trivial⟩
        · trivial
  · intro _ i hi
    apply Prog.PerformsWhile.bindExcept (spares_retryRounds hinj hi _)
    intro done
    cases done with
    | true => trivial
    | false =>
      refine performsWhile_acked trivial fun acked => ?_
      dsimp only
      split_ifs
      · exact ⟨trivial, fun _ _ => trivial⟩
      · trivial

end Programs

end SolMesh
