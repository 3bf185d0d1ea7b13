import SolMesh.Foundations.Execution
import SolMesh.Client.Retry

set_option relaxedAutoImplicit false
set_option autoImplicit false

/-!
# What a retry loop sends and records

A retry loop alternates between checks of the acknowledged chunks and sending what is missing. Its
operations are split at the checks: what is sent before the first one is the first pass, and what
is sent after a check is the retry round of this check. Any sending can fail, and acknowledgements
come in at any time.

## Main definitions

* `SolMesh.sends`, `SolMesh.recorded` — the frames that are sent, and the results recorded.
* `SolMesh.firstPass`, `SolMesh.checks` — the operations, split at the checks.
* `SolMesh.laterExec` — the meaning of the operations while acknowledgements come in.
* `SolMesh.RetryOp.raised` — the exception that an answer stands for.
* `SolMesh.IsRounds` — how rounds follow each other.
* `SolMesh.Accounted` — the account of a retry loop.

## Main results

* `SolMesh.checks_grow` — a later check finds at least what an earlier one found.
* `SolMesh.passesOn_retryChunks` — the loop raises nothing but what sending raised.
* `SolMesh.isRounds_of_runs` — the rounds of every run.
* `SolMesh.retryLoop_accounted` — the account of every run.
-/

namespace SolMesh

open Py Text Conc

/-! ## Operations, split at the checks -/

/-- The operations of a run of a retry loop, with their answers. -/
abbrev RetryTrace := List ((op : RetryOp) × op.Ans)

/-- The frames handed to the mesh. -/
def sends : RetryTrace → List Bytes
  | [] => []
  | ⟨.send frame, _⟩ :: t => frame :: sends t
  | ⟨.sleep _, _⟩ :: t => sends t
  | ⟨.acked _, _⟩ :: t => sends t
  | ⟨.setResult _ _, _⟩ :: t => sends t

/-- The results written. -/
def recorded : RetryTrace → List (ℕ × TxOutcome)
  | [] => []
  | ⟨.send _, _⟩ :: t => recorded t
  | ⟨.sleep _, _⟩ :: t => recorded t
  | ⟨.acked _, _⟩ :: t => recorded t
  | ⟨.setResult msgId outcome, _⟩ :: t => (msgId, outcome) :: recorded t

/-- The frames handed to the mesh before the first check, and for each check the chunks that are
acknowledged and the frames handed to the mesh until the next one. -/
def account : RetryTrace → List Bytes × List (List ℕ × List Bytes)
  | [] => ([], [])
  | ⟨.send frame, _⟩ :: t => (frame :: (account t).1, (account t).2)
  | ⟨.sleep _, _⟩ :: t => account t
  | ⟨.acked _, acked⟩ :: t => ([], (acked, (account t).1) :: (account t).2)
  | ⟨.setResult _ _, _⟩ :: t => account t

/-- What is sent before the first check. -/
def firstPass (t : RetryTrace) : List Bytes := (account t).1

/-- The checks, each with what is sent after it. -/
def checks (t : RetryTrace) : List (List ℕ × List Bytes) := (account t).2

/-- Nothing that is sent is lost in the account. -/
lemma sends_eq (t : RetryTrace) : sends t = firstPass t ++ (checks t).flatMap Prod.snd := by
  induction t with
  | nil => rfl
  | cons e t ih =>
    unfold firstPass checks at ih ⊢
    obtain ⟨op, r⟩ := e
    cases op with
    | send frame => exact congrArg (frame :: ·) ih
    | sleep _ | acked _ | setResult _ _ => exact ih

/-- The results written in two parts. -/
lemma recorded_append (t t' : RetryTrace) : recorded (t ++ t') = recorded t ++ recorded t' := by
  induction t with
  | nil => rfl
  | cons e t ih =>
    obtain ⟨op, r⟩ := e
    cases op with
    | setResult msgId outcome => exact congrArg ((msgId, outcome) :: ·) ih
    | send _ | sleep _ | acked _ => exact ih

/-- Sending and waiting. -/
def RetryOp.IsSending : RetryOp → Prop
  | .send _ => True
  | .sleep _ => True
  | .acked _ => False
  | .setResult _ _ => False

section Sending

variable {t : RetryTrace} (h : ∀ e ∈ t, RetryOp.IsSending e.1)
include h

/-- Nothing is written while sending. -/
lemma recorded_of_sending : recorded t = [] := by
  induction t with
  | nil => rfl
  | cons e t ih =>
    rw [List.forall_mem_cons] at h
    obtain ⟨op, r⟩ := e
    cases op with
    | send _ | sleep _ => exact ih h.2
    | acked _ | setResult _ _ => exact h.1.elim

/-- What is sent before the next check is added to what is sent already. -/
lemma account_append_of_sending (t' : RetryTrace) :
    account (t ++ t') = (sends t ++ firstPass t', checks t') := by
  induction t with
  | nil => rfl
  | cons e t ih =>
    rw [List.forall_mem_cons] at h
    obtain ⟨op, r⟩ := e
    cases op with
    | send frame =>
      rw [List.cons_append, account, ih h.2]
      rfl
    | sleep _ =>
      rw [List.cons_append, account, ih h.2]
      rfl
    | acked _ | setResult _ _ => exact h.1.elim

end Sending

/-! ## Acknowledgements that come in -/

/-- The meaning of the operations while acknowledgements of the message come in: before each of
them the client may change in any way, but what is acknowledged stays so. -/
def laterExec (msgId : ℕ) (op : RetryOp) (c : ClientNode) (r : op.Ans) (c' : ClientNode) : Prop :=
  ∃ later : ClientNode, c.ackedOf msgId ⊆ later.ackedOf msgId ∧ retryExec op later r c'

section Runs

variable {α : Type} {msgId : ℕ} {c c' : ClientNode} {t : RetryTrace}

/-- What is acknowledged stays so over an operation. -/
lemma ackedOf_subset_of_exec {op : RetryOp} {r : op.Ans} (h : laterExec msgId op c r c') :
    c.ackedOf msgId ⊆ c'.ackedOf msgId := by
  obtain ⟨later, hlater, hexec⟩ := h
  cases op with
  | send frame =>
    obtain rfl : c' = later := hexec
    exact hlater
  | sleep seconds =>
    obtain rfl : c' = later := hexec
    exact hlater
  | acked id =>
    obtain rfl : c' = later := hexec.2
    exact hlater
  | setResult id outcome =>
    obtain rfl : c' = later.setResult id outcome := hexec
    exact hlater

/-- **Checks find more and more**: what is acknowledged at the beginning, or at a check, is found at
each check after it.

**Proof sketch.** Induction on the run. No operation of the loop takes an acknowledgement back, and
a check returns what is acknowledged at it, which is what the later checks start from. -/
lemma checks_grow {p : Prog RetryOp RetryOp.Ans α} {a : α} {chunks : List Bytes}
    (h : p.Runs (laterExec msgId) c t a c') (hp : p.Performs (RetryOp.Serves chunks msgId)) :
    (∀ check ∈ checks t, c.ackedOf msgId ⊆ check.1) ∧
      (checks t).Pairwise fun check check' => check.1 ⊆ check'.1 := by
  induction h with
  | ret => exact ⟨fun _ h => absurd h List.not_mem_nil, .nil⟩
  | @call op next c u c' r t a hr _ ih =>
    obtain ⟨hall, hpairwise⟩ := ih (hp.2 r)
    have hsub := ackedOf_subset_of_exec hr
    have hrest : ∀ check ∈ checks t, c.ackedOf msgId ⊆ check.1 :=
      fun check hcheck => List.Subset.trans hsub (hall check hcheck)
    cases op with
    | send frame => exact ⟨hrest, hpairwise⟩
    | sleep seconds => exact ⟨hrest, hpairwise⟩
    | setResult id outcome => exact ⟨hrest, hpairwise⟩
    | acked id =>
      obtain rfl : id = msgId := hp.1
      obtain ⟨later, hlater, hanswer, rfl⟩ := hr
      have hcheck : c.ackedOf id ⊆ r := hanswer ▸ hlater
      refine ⟨List.forall_mem_cons.mpr ⟨hcheck, hrest⟩, List.pairwise_cons.mpr ⟨?_, hpairwise⟩⟩
      intro check hmem
      rw [show r = u.ackedOf id from hanswer]
      exact hall check hmem

end Runs

/-! ## The parts of the loop -/

section Parts

variable {msgId : ℕ} {c c' : ClientNode} {t : RetryTrace}

/-- Every frame that was handed to the mesh was sent. -/
def AllSent (t : RetryTrace) : Prop :=
  ∀ frame r, (⟨.send frame, r⟩ : (op : RetryOp) × op.Ans) ∈ t → r = .ok true

/-- All but the first operation. -/
lemma AllSent.tail {e : (op : RetryOp) × op.Ans} (h : AllSent (e :: t)) : AllSent t :=
  fun frame r hmem => h frame r (List.mem_cons_of_mem e hmem)

/-- One frame is sent. -/
lemma runs_send {frame : Bytes} {r : Except Exn Bool}
    (h : (Retry.send frame).run.Runs (laterExec msgId) c t r c') : t = [⟨.send frame, r⟩] :=
  (Prog.runs_perform_iff.mp h).1

/-- Time passes, and then more happens. -/
lemma runs_sleep_bind {α : Type} {seconds : ℚ} {f : Unit → RetryLoop α} {r : Except Exn α}
    (h : (Retry.sleep seconds >>= f).run.Runs (laterExec msgId) c t r c') :
    ∃ u t', t = ⟨.sleep seconds, ()⟩ :: t' ∧ (f ()).run.Runs (laterExec msgId) u t' r c' := by
  obtain ⟨_, u, t', rfl, _, hrest⟩ := Prog.runs_lift_perform_bind_iff.mp h
  exact ⟨u, t', rfl, hrest⟩

/-- The acknowledged chunks are read, and then more happens. -/
lemma runs_acked_bind {α : Type} {id : ℕ} {f : List ℕ → RetryLoop α} {r : Except Exn α}
    (h : (Retry.acked id >>= f).run.Runs (laterExec msgId) c t r c') :
    ∃ (acked : List ℕ) (u : ClientNode) (t' : RetryTrace), t = ⟨.acked id, acked⟩ :: t' ∧
      (f acked).run.Runs (laterExec msgId) u t' r c' := by
  obtain ⟨acked, u, t', rfl, _, hrest⟩ := Prog.runs_lift_perform_bind_iff.mp h
  exact ⟨acked, u, t', rfl, hrest⟩

/-- A result is written. -/
lemma runs_setResult {id : ℕ} {outcome : TxOutcome} {r : Except Exn Unit}
    (h : (Retry.setResult id outcome).run.Runs (laterExec msgId) c t r c') :
    t = [⟨.setResult id outcome, ()⟩] ∧ r = .ok () := by
  obtain ⟨_, rfl, _, rfl⟩ := Prog.runs_lift_perform_iff.mp h
  exact ⟨rfl, rfl⟩

/-- **The first pass** sends the chunks in order, up to one that cannot be sent.

**Proof sketch.** Induction on the chunks. The first one is sent; if that fails or raises, nothing
else is. -/
lemma runs_sendChunks {chunks : List Bytes} {r : Except Exn Bool}
    (h : (sendChunks chunks).run.Runs (laterExec msgId) c t r c') :
    (∀ e ∈ t, RetryOp.IsSending e.1) ∧ sends t <+: chunks ∧
      (AllSent t → sends t = chunks) := by
  induction chunks generalizing c t with
  | nil =>
    obtain ⟨rfl, _, _⟩ := Prog.runs_ret_iff.mp h
    exact ⟨fun e he => absurd he List.not_mem_nil, List.nil_prefix, fun _ => rfl⟩
  | cons chunk rest ih =>
    unfold sendChunks at h
    rcases Prog.runs_bindExcept_iff.mp h with ⟨e, hsend, rfl⟩ | ⟨t₁, sent, u, t₂, rfl, hsend, hrest⟩
    · obtain rfl := runs_send hsend
      refine ⟨by simp [RetryOp.IsSending], by simp [sends], fun hall => ?_⟩
      cases hall chunk (.error e) List.mem_cons_self
    obtain rfl := runs_send hsend
    cases sent with
    | false =>
      obtain ⟨rfl, _, _⟩ := Prog.runs_ret_iff.mp hrest
      refine ⟨by simp [RetryOp.IsSending], by simp [sends], fun hall => ?_⟩
      cases hall chunk (.ok false) List.mem_cons_self
    | true =>
      by_cases hlast : rest = []
      · subst hlast
        obtain ⟨hsending, hinit, hall⟩ := ih hrest
        refine ⟨List.forall_mem_cons.mpr ⟨trivial, hsending⟩, ?_, fun h => ?_⟩
        · exact List.cons_prefix_cons.mpr ⟨rfl, hinit⟩
        · exact congrArg (chunk :: ·) (hall h.tail)
      · rw [if_neg (by simp), if_pos hlast] at hrest
        obtain ⟨v, t₃, rfl, hsent⟩ := runs_sleep_bind hrest
        obtain ⟨hsending, hinit, hall⟩ := ih hsent
        refine ⟨List.forall_mem_cons.mpr ⟨trivial, List.forall_mem_cons.mpr ⟨trivial, hsending⟩⟩,
          ?_, fun h => ?_⟩
        · exact List.cons_prefix_cons.mpr ⟨rfl, hinit⟩
        · exact congrArg (chunk :: ·) (hall h.tail.tail)

/-- **Sending again** sends the chunks at these positions in order, unless sending raises.

**Proof sketch.** Induction on the positions: each is sent and followed by a pause, unless sending
raises, which ends the program. -/
lemma runs_resend {chunks : List Bytes} {unacked : List ℕ} {r : Except Exn Unit}
    (h : (resend chunks unacked).run.Runs (laterExec msgId) c t r c') :
    (∀ e ∈ t, RetryOp.IsSending e.1) ∧ sends t <+: unacked.map (fun i => chunks.getD i []) ∧
      (r = .ok () → sends t = unacked.map fun i => chunks.getD i []) := by
  induction unacked generalizing c t with
  | nil =>
    obtain ⟨rfl, _, _⟩ := Prog.runs_ret_iff.mp h
    exact ⟨fun e he => absurd he List.not_mem_nil, List.nil_prefix, fun _ => rfl⟩
  | cons idx rest ih =>
    unfold resend at h
    rcases Prog.runs_bindExcept_iff.mp h with ⟨e, hsend, rfl⟩ | ⟨t₁, _, u, t₂, rfl, hsend, hrest⟩
    · obtain rfl := runs_send hsend
      exact ⟨by simp [RetryOp.IsSending], by simp [sends], fun hok => by cases hok⟩
    obtain rfl := runs_send hsend
    obtain ⟨v, t₃, rfl, hsent⟩ := runs_sleep_bind hrest
    obtain ⟨hsending, hinit, hall⟩ := ih hsent
    refine ⟨List.forall_mem_cons.mpr ⟨trivial, List.forall_mem_cons.mpr ⟨trivial, hsending⟩⟩,
      ?_, fun h => ?_⟩
    · exact List.cons_prefix_cons.mpr ⟨rfl, hinit⟩
    · exact congrArg (chunks.getD idx [] :: ·) (hall h)

end Parts

/-! ## Exceptions -/

/-- The exception that an answer stands for. Only sending can raise. -/
def RetryOp.raised : (op : RetryOp) → op.Ans → Option Exn
  | .send _, r => match (r : Except Exn Bool) with
    | .error e => some e
    | .ok _ => none
  | .sleep _, _ => none
  | .acked _, _ => none
  | .setResult _ _, _ => none

section Raises

variable {chunks : List Bytes}

/-- Sending passes on what it raises. -/
lemma passesOn_send (frame : Bytes) : (Retry.send frame).run.PassesOn RetryOp.raised := by
  intro r
  cases r with
  | error e => rfl
  | ok sent => trivial

/-- Waiting does not raise. -/
lemma passesOn_sleep (seconds : ℚ) : (Retry.sleep seconds).run.PassesOn RetryOp.raised :=
  fun _ => trivial

/-- Reading the acknowledgements does not raise. -/
lemma passesOn_acked (msgId : ℕ) : (Retry.acked msgId).run.PassesOn RetryOp.raised :=
  fun _ => trivial

/-- The first pass. -/
lemma passesOn_sendChunks (chunks : List Bytes) :
    (sendChunks chunks).run.PassesOn RetryOp.raised := by
  induction chunks with
  | nil => trivial
  | cons chunk rest ih =>
    unfold sendChunks
    apply Prog.PassesOn.bindExcept (passesOn_send chunk)
    intro sent
    cases sent with
    | false => trivial
    | true =>
      by_cases hlast : rest = []
      · subst hlast
        exact ih
      · rw [if_neg (by simp), if_pos hlast]
        exact Prog.PassesOn.bindExcept (passesOn_sleep _) fun _ => ih

/-- Sending again. -/
lemma passesOn_resend (unacked : List ℕ) : (resend chunks unacked).run.PassesOn RetryOp.raised := by
  induction unacked with
  | nil => trivial
  | cons idx rest ih =>
    unfold resend
    apply Prog.PassesOn.bindExcept (passesOn_send _)
    intro _
    exact Prog.PassesOn.bindExcept (passesOn_sleep _) fun _ => ih

/-- The rounds. -/
lemma passesOn_retryRounds (chunkInfo : List ℕ) (msgId rounds : ℕ) :
    (retryRounds chunks chunkInfo msgId rounds).run.PassesOn RetryOp.raised := by
  induction rounds with
  | zero => trivial
  | succ rounds ih =>
    unfold retryRounds
    apply Prog.PassesOn.bindExcept (passesOn_sleep _)
    intro _
    apply Prog.PassesOn.bindExcept (passesOn_acked msgId)
    intro acked
    dsimp only
    split_ifs
    · trivial
    · exact Prog.PassesOn.bindExcept (passesOn_resend _) fun _ => ih

/-- **The loop raises what sending raised**, and nothing else. -/
lemma passesOn_retryChunks (chunkInfo : List ℕ) (msgId : ℕ) :
    (retryChunks chunks chunkInfo msgId).run.PassesOn RetryOp.raised := by
  unfold retryChunks
  apply Prog.PassesOn.bindExcept (passesOn_sendChunks chunks)
  intro _
  apply Prog.PassesOn.bindExcept (passesOn_retryRounds chunkInfo msgId _)
  intro done
  cases done with
  | true => trivial
  | false =>
    apply Prog.PassesOn.bindExcept (passesOn_acked msgId)
    intro acked
    dsimp only
    split_ifs
    · exact fun _ => trivial
    · trivial

/-- A loop ends with an exception exactly if sending a frame raised it. -/
lemma error_iff_of_runs {chunkInfo : List ℕ} {msgId id : ℕ} {c c' : ClientNode} {t : RetryTrace}
    {result : Except Exn Unit}
    (h : (retryChunks chunks chunkInfo msgId).run.Runs (laterExec id) c t result c') (e : Exn) :
    result = .error e ↔
      ∃ frame, (⟨.send frame, .error e⟩ : (op : RetryOp) × op.Ans) ∈ t := by
  rw [(passesOn_retryChunks chunkInfo msgId).error_iff h e]
  constructor
  · rintro ⟨⟨op, r⟩, hmem, hraised⟩
    cases op with
    | send frame =>
      cases r with
      | error e' =>
        obtain rfl := Option.some.inj hraised
        exact ⟨frame, hmem⟩
      | ok sent => cases hraised
    | sleep _ | acked _ | setResult _ _ => cases hraised
  · rintro ⟨frame, hmem⟩
    exact ⟨_, hmem, rfl⟩

end Raises

/-! ## Rounds -/

section Rounds

variable (frame : ℕ → Bytes) (n msgId : ℕ)

/-- The frames of the chunks that are not acknowledged. -/
def missingFrames (acked : List ℕ) : List Bytes := (unackedOf (List.range n) acked).map frame

/-- The failure that the final check records, if some chunk is not acknowledged. -/
def finalRecord (acked : List ℕ) : List (ℕ × TxOutcome) :=
  if unackedOf (List.range n) acked = [] then []
  else [(msgId, .failure (undelivered (unackedOf (List.range n) acked).length n))]

/-- **How rounds follow each other**, with `m` rounds left: the checks with what is sent after them,
what is written, and how the loop ends. -/
inductive IsRounds :
    ℕ → List (List ℕ × List Bytes) → List (ℕ × TxOutcome) → Except Exn Unit → Prop
  | final (acked : List ℕ) : IsRounds 0 [(acked, [])] (finalRecord n msgId acked) (.ok ())
  | done {m : ℕ} {acked : List ℕ} (hdone : unackedOf (List.range n) acked = []) :
      IsRounds (m + 1) [(acked, [])] [] (.ok ())
  | raised {m : ℕ} {acked : List ℕ} {sent : List Bytes} {e : Exn}
      (hmissing : unackedOf (List.range n) acked ≠ [])
      (hsent : sent <+: missingFrames frame n acked) :
      IsRounds (m + 1) [(acked, sent)] [] (.error e)
  | again {m : ℕ} {acked : List ℕ} {rounds : List (List ℕ × List Bytes)}
      {written : List (ℕ × TxOutcome)} {result : Except Exn Unit}
      (hmissing : unackedOf (List.range n) acked ≠ [])
      (hrest : IsRounds m rounds written result) :
      IsRounds (m + 1) ((acked, missingFrames frame n acked) :: rounds) written result

/-- What comes after the rounds: nothing if they raised or everything was acknowledged, else the
final check. -/
inductive AfterRounds : Except Exn Bool → RetryTrace → Except Exn Unit → Prop
  | raised (e : Exn) : AfterRounds (.error e) [] (.error e)
  | done : AfterRounds (.ok true) [] (.ok ())
  | final {t : RetryTrace} {acked : List ℕ} (haccount : account t = ([], [(acked, [])]))
      (hwritten : recorded t = finalRecord n msgId acked) :
      AfterRounds (.ok false) t (.ok ())

variable {frame n msgId} {c c' : ClientNode} {t : RetryTrace}

/-- The positions of chunks that are numbered from zero are their numbers. -/
lemma unackedOf_range (acked : List ℕ) :
    unackedOf (List.range n) acked = (List.range n).filter fun i => decide (i ∉ acked) := by
  unfold unackedOf
  rw [List.length_range]
  refine List.filter_congr fun i hi => ?_
  have hlt := List.mem_range.mp hi
  simp [List.getD_eq_getElem?_getD, hlt]

/-- The frames at the positions that are not acknowledged. -/
lemma map_getD_unackedOf (acked : List ℕ) :
    (unackedOf (List.range n) acked).map (fun i => ((List.range n).map frame).getD i []) =
      missingFrames frame n acked := by
  refine List.map_congr_left fun i hi => ?_
  rw [unackedOf_range, List.mem_filter, List.mem_range] at hi
  simp [List.getD_eq_getElem?_getD, hi.1]

/-- **The rounds of a run**, whatever is sent successfully and whenever acknowledgements come in.

**Proof sketch.** Induction on the rounds left. A round waits and checks. If everything is
acknowledged, it is the last one. Otherwise it sends what is missing; if that raises, it is the last
one, too. -/
lemma isRounds_of_retryRounds {m : ℕ} {r : Except Exn Bool} {t' : RetryTrace}
    {result : Except Exn Unit}
    (h : (retryRounds ((List.range n).map frame) (List.range n) msgId m).run.Runs
      (laterExec msgId) c t r c') (hafter : AfterRounds n msgId r t' result) :
    firstPass (t ++ t') = [] ∧
      IsRounds frame n msgId m (checks (t ++ t')) (recorded (t ++ t')) result := by
  induction m generalizing c t with
  | zero =>
    obtain ⟨rfl, rfl, _⟩ := Prog.runs_ret_iff.mp h
    obtain _ | _ | ⟨haccount, hwritten⟩ := hafter
    unfold firstPass checks
    rw [List.nil_append, haccount, hwritten]
    exact ⟨rfl, .final _⟩
  | succ m ih =>
    unfold retryRounds at h
    obtain ⟨u, t₁, rfl, hwaited⟩ := runs_sleep_bind h
    obtain ⟨acked, v, t₂, rfl, hchecked⟩ := runs_acked_bind hwaited
    -- the account of this round is that of what follows the check
    have haccount : ∀ rest : RetryTrace, account
        (⟨.sleep ackTimeout, ()⟩ :: ⟨.acked msgId, acked⟩ :: rest) =
          ([], (acked, firstPass rest) :: checks rest) := fun _ => rfl
    have hwritten : ∀ rest : RetryTrace, recorded
        (⟨.sleep ackTimeout, ()⟩ :: ⟨.acked msgId, acked⟩ :: rest) = recorded rest :=
      fun _ => rfl
    rw [List.cons_append, List.cons_append, hwritten]
    unfold firstPass checks
    rw [haccount]
    refine ⟨rfl, ?_⟩
    by_cases hdone : unackedOf (List.range n) acked = []
    · rw [if_pos hdone] at hchecked
      obtain ⟨rfl, rfl, _⟩ := Prog.runs_ret_iff.mp hchecked
      obtain _ | _ | _ := hafter
      exact .done hdone
    · rw [if_neg hdone] at hchecked
      rcases Prog.runs_bindExcept_iff.mp hchecked with ⟨e, hresend, rfl⟩ |
        ⟨t₅, _, x, t₆, rfl, hresend, hrest⟩
      · obtain ⟨hsending, hinit, _⟩ := runs_resend hresend
        obtain _ | _ | _ := hafter
        have hround := account_append_of_sending hsending []
        rw [map_getD_unackedOf] at hinit
        unfold firstPass checks
        rw [hround, List.append_nil, recorded_of_sending hsending]
        exact .raised hdone (by simpa [firstPass, account] using hinit)
      · obtain ⟨hsending, _, hall⟩ := runs_resend hresend
        obtain ⟨hfirst, hrounds⟩ := ih hrest
        have hround := account_append_of_sending hsending (t₆ ++ t')
        rw [hfirst, List.append_nil, hall rfl, map_getD_unackedOf] at hround
        unfold firstPass checks
        rw [List.append_assoc, hround, recorded_append, recorded_of_sending hsending,
          List.nil_append]
        exact .again hdone hrounds

/-- The final check. -/
lemma afterRounds_of_runs {acked : List ℕ} {rest : RetryTrace} {result : Except Exn Unit}
    (h : (if ((List.range n).countP fun cn => decide (cn ∉ acked)) > 0 then
        Retry.setResult msgId (.failure (undelivered
          ((List.range n).countP fun cn => decide (cn ∉ acked)) ((List.range n).map frame).length))
      else return ()).run.Runs (laterExec msgId) c rest result c') :
    AfterRounds n msgId (.ok false) (⟨.acked msgId, acked⟩ :: rest) result := by
  have hcount : ((List.range n).countP fun cn => decide (cn ∉ acked)) =
      (unackedOf (List.range n) acked).length := by
    rw [unackedOf_range, List.countP_eq_length_filter]
  rw [hcount, List.length_map, List.length_range] at h
  split_ifs at h with hpos
  · obtain ⟨rfl, rfl⟩ := runs_setResult h
    refine .final rfl ?_
    rw [finalRecord, if_neg (List.length_pos_iff.mp hpos)]
    rfl
  · obtain ⟨rfl, rfl, _⟩ := Prog.runs_ret_iff.mp h
    refine .final rfl ?_
    rw [finalRecord, if_pos (List.length_eq_zero_iff.mp (by omega))]
    rfl

/-- **The account of a run of the loop**: a first pass of chunks in order, which is all there is if
sending raises, and else is complete if nothing failed, and the rounds.

**Proof sketch.** The run is the first pass and what comes after it. If sending raised in the pass,
there was no check and no record. Otherwise the rest are the rounds, and the final check if they are
all used up; the account of the whole is that of the pass in front of that of the rounds
(`haccount`). -/
lemma isRounds_of_runs {result : Except Exn Unit}
    (h : (retryChunks ((List.range n).map frame) (List.range n) msgId).run.Runs (laterExec msgId)
      c t result c') :
    firstPass t <+: (List.range n).map frame ∧
      (AllSent t → firstPass t = (List.range n).map frame) ∧
      ((checks t = [] ∧ recorded t = [] ∧ ∃ e, result = .error e) ∨
        IsRounds frame n msgId maxRetries (checks t) (recorded t) result) := by
  unfold retryChunks at h
  rcases Prog.runs_bindExcept_iff.mp h with ⟨e, hpass, rfl⟩ | ⟨t₁, _, u, t₂, rfl, hpass, hrest⟩
  · obtain ⟨hsending, hinit, hall⟩ := runs_sendChunks hpass
    have haccount := account_append_of_sending hsending []
    have hfirst : firstPass t = sends t := by
      unfold firstPass
      rw [List.append_nil] at haccount
      rw [haccount]
      exact List.append_nil _
    have hchecks : checks t = [] := by
      unfold checks
      rw [List.append_nil] at haccount
      rw [haccount]
      rfl
    rw [hfirst]
    exact ⟨hinit, hall, Or.inl ⟨hchecks, recorded_of_sending hsending, e, rfl⟩⟩
  · obtain ⟨hsending, hinit, hall⟩ := runs_sendChunks hpass
    have haccount := account_append_of_sending hsending t₂
    have hrounds : firstPass t₂ = [] ∧
        IsRounds frame n msgId maxRetries (checks t₂) (recorded t₂) result := by
      rcases Prog.runs_bindExcept_iff.mp hrest with ⟨e, hraised, rfl⟩ |
        ⟨t₃, done, v, t₄, rfl, hrounds, hlast⟩
      · rw [← List.append_nil t₂]
        exact isRounds_of_retryRounds hraised (.raised e)
      · refine isRounds_of_retryRounds hrounds ?_
        cases done with
        | true =>
          obtain ⟨rfl, rfl, _⟩ := Prog.runs_ret_iff.mp hlast
          exact .done
        | false =>
          obtain ⟨acked, x, t₅, rfl, hfinal⟩ := runs_acked_bind hlast
          exact afterRounds_of_runs hfinal
    obtain ⟨hfirst, hrounds⟩ := hrounds
    have hpass' : firstPass (t₁ ++ t₂) = sends t₁ := by
      unfold firstPass
      rw [haccount, hfirst, List.append_nil]
    have hchecks : checks (t₁ ++ t₂) = checks t₂ := by
      unfold checks
      rw [haccount]
      rfl
    rw [hpass', hchecks, recorded_append, recorded_of_sending hsending, List.nil_append]
    refine ⟨hinit, fun hsent => hall fun frame r hmem => ?_, Or.inr hrounds⟩
    exact hsent frame r (List.mem_append_left t₂ hmem)

/-! ## What rounds amount to -/

variable {m : ℕ} {rounds : List (List ℕ × List Bytes)} {written : List (ℕ × TxOutcome)}
  {result : Except Exn Unit}

/-- After a check, what is missing is sent, unless it is the final check. Only the last round of a
loop that ends with an exception is cut short.

**Proof sketch.** Induction on the rounds. A round that ends the loop with nothing missing resends
nothing; one in which sending raised resends the first of what is missing; and one that is followed
by another resends all of it. -/
lemma IsRounds.resends (h : IsRounds frame n msgId m rounds written result) :
    ∀ (i : ℕ) acked sent, rounds[i]? = some (acked, sent) →
      sent <+: (if i < m then missingFrames frame n acked else []) ∧
      (result = .ok () ∨ i + 1 < rounds.length →
        sent = if i < m then missingFrames frame n acked else []) := by
  induction h with
  | final acked =>
    rintro (_ | i) acked' sent hi
    · cases hi
      exact ⟨List.nil_prefix, fun _ => rfl⟩
    · cases hi
  | @done m acked hdone =>
    rintro (_ | i) acked' sent hi
    · cases hi
      have hnone : missingFrames frame n acked = [] := by rw [missingFrames, hdone, List.map_nil]
      rw [if_pos (Nat.succ_pos m), hnone]
      exact ⟨List.nil_prefix, fun _ => rfl⟩
    · cases hi
  | @raised m acked sent e hmissing hsent =>
    rintro (_ | i) acked' sent' hi
    · cases hi
      rw [if_pos (Nat.succ_pos m)]
      refine ⟨hsent, ?_⟩
      rintro (hok | hlt)
      · cases hok
      · simp at hlt
    · cases hi
  | @again m acked rounds written result hmissing hrest ih =>
    rintro (_ | i) acked' sent' hi
    · cases hi
      rw [if_pos (Nat.succ_pos m)]
      exact ⟨List.prefix_rfl, fun _ => rfl⟩
    · obtain ⟨hinit, hexact⟩ := ih i acked' sent' hi
      simp only [Nat.add_lt_add_iff_right, List.length_cons]
      exact ⟨hinit, hexact⟩

/-- The first check that finds everything acknowledged is the last one, and so is the final
check. -/
lemma IsRounds.stops (h : IsRounds frame n msgId m rounds written result) :
    ∀ (i : ℕ) acked sent, rounds[i]? = some (acked, sent) →
      unackedOf (List.range n) acked = [] ∨ i = m → rounds.length = i + 1 := by
  induction h with
  | final | done | raised =>
    rintro (_ | i) acked' sent hi _
    · rfl
    · cases hi
  | again hmissing _ ih =>
    rintro (_ | i) acked' sent hi hlast
    · cases hi
      rcases hlast with hnone | hzero
      · exact absurd hnone hmissing
      · cases hzero
    · have hlength := ih i acked' sent hi (hlast.imp_right Nat.succ.inj)
      rw [List.length_cons, hlength]

/-- What is written by a loop that returns: the failure that its last check finds. The last check
is the final one, or finds everything acknowledged. -/
lemma IsRounds.returns (h : IsRounds frame n msgId m rounds written (.ok ())) :
    ∃ acked sent, rounds.getLast? = some (acked, sent) ∧
      (unackedOf (List.range n) acked = [] ∨ rounds.length = m + 1) ∧
      written = finalRecord n msgId acked := by
  generalize hresult : (.ok () : Except Exn Unit) = result at h
  induction h with
  | final acked => exact ⟨acked, [], rfl, Or.inr rfl, rfl⟩
  | @done m acked hdone => exact ⟨acked, [], rfl, Or.inl hdone, (if_pos hdone).symm⟩
  | raised => cases hresult
  | @again m acked rounds written result _ hrest ih =>
    obtain ⟨acked', sent, hlast, hend, hwritten⟩ := ih hresult
    refine ⟨acked', sent, ?_, ?_, hwritten⟩
    · rw [List.getLast?_cons, hlast]
      rfl
    · rw [List.length_cons]
      exact hend.imp_right fun hlength => congrArg (· + 1) hlength

/-- A loop that ends with an exception writes nothing. -/
lemma IsRounds.raises {e : Exn} (h : IsRounds frame n msgId m rounds written (.error e)) :
    written = [] := by
  generalize hresult : (.error e : Except Exn Unit) = result at h
  induction h with
  | final | done => cases hresult
  | raised => rfl
  | again _ _ ih => exact ih hresult

/-- No chunk is missing twice. -/
lemma nodup_missingFrames (hinj : Set.InjOn frame (Set.Iio n)) (acked : List ℕ) :
    (missingFrames frame n acked).Nodup := by
  have hmem : ∀ i ∈ unackedOf (List.range n) acked, i < n := by
    intro i hi
    rw [unackedOf_range] at hi
    exact List.mem_range.mp (List.mem_filter.mp hi).1
  have hnodup : (unackedOf (List.range n) acked).Nodup := by
    rw [unackedOf_range]
    exact List.nodup_range.filter _
  exact hnodup.map_on fun i hi j hj heq => hinj (hmem i hi) (hmem j hj) heq

/-- Each chunk is sent at most once in each round. -/
lemma IsRounds.count_le (h : IsRounds frame n msgId m rounds written result)
    (hinj : Set.InjOn frame (Set.Iio n)) (chunk : Bytes) :
    (rounds.flatMap Prod.snd).count chunk ≤ m := by
  induction h with
  | final => exact Nat.le_refl 0
  | done => exact Nat.zero_le _
  | @raised m acked sent e _ hsent =>
    have hle := List.nodup_iff_count_le_one.mp
      (hsent.sublist.nodup (nodup_missingFrames hinj acked)) chunk
    simp only [List.flatMap_cons, List.flatMap_nil, List.append_nil]
    omega
  | @again m acked rounds written result _ _ ih =>
    have hle := List.nodup_iff_count_le_one.mp (nodup_missingFrames hinj acked) chunk
    rw [List.flatMap_cons, List.count_append]
    dsimp only
    omega

end Rounds

/-! ## The account -/

/-- The chunks whose numbers are not acknowledged, in order. -/
def unackedChunks (chunks : List Bytes) (acked : List ℕ) : List Bytes :=
  chunks.filter fun chunk => match chunkNumOf chunk with
    | .ok chunkNum => decide (chunkNum ∉ acked)
    | .error _ => false

/-- What is due after check number `i`, counted from zero: the chunks that are not acknowledged, and
nothing after the final check. -/
def dueAfter (chunks : List Bytes) (i : ℕ) (acked : List ℕ) : List Bytes :=
  if i < maxRetries then unackedChunks chunks acked else []

/-- **The account of a retry loop**, by its operations and its result. -/
structure Accounted (chunks : List Bytes) (msgId : ℕ) (t : RetryTrace)
    (result : Except Exn Unit) : Prop where
  /-- No chunk is handed to the mesh more often. -/
  sentAtMost : ∀ chunk, (sends t).count chunk ≤ 1 + maxRetries
  /-- The first pass hands over chunks in order; all of them, if none fails. -/
  firstPass : firstPass t <+: chunks ∧ (AllSent t → firstPass t = chunks)
  /-- A round hands over what is due, in order, unless an exception ends the loop in it. -/
  resends : ∀ (i : ℕ) acked sent, (checks t)[i]? = some (acked, sent) →
    sent <+: dueAfter chunks i acked ∧
      (result = .ok () ∨ i + 1 < (checks t).length → sent = dueAfter chunks i acked)
  /-- What is acknowledged at a check is never handed over again. -/
  neverAgain : ∀ (i : ℕ) acked sent, (checks t)[i]? = some (acked, sent) →
    ∀ chunk chunkNum, chunkNumOf chunk = .ok chunkNum → chunkNum ∈ acked →
      ∀ (j : ℕ) acked' sent', i ≤ j → (checks t)[j]? = some (acked', sent') → chunk ∉ sent'
  /-- A check that finds everything acknowledged is the last one, and so is the final check. -/
  stops : ∀ (i : ℕ) acked sent, (checks t)[i]? = some (acked, sent) →
    unackedChunks chunks acked = [] ∨ i = maxRetries → (checks t).length = i + 1
  /-- A failure with the number of chunks that are not acknowledged is recorded if there are any at
  the last check, and nothing otherwise. -/
  records : result = .ok () → ∃ acked sent, (checks t).getLast? = some (acked, sent) ∧
    (unackedChunks chunks acked = [] ∨ (checks t).length = maxRetries + 1) ∧
    recorded t = if unackedChunks chunks acked = [] then [] else
      [(msgId, .failure (undelivered (unackedChunks chunks acked).length chunks.length))]
  /-- A loop ends with an exception exactly if handing over a frame raised it. -/
  raises : ∀ e, result = .error e ↔
    ∃ frame, (⟨.send frame, .error e⟩ : (op : RetryOp) × op.Ans) ∈ t
  /-- A loop that an exception ends records nothing. -/
  recordsNone : ∀ e, result = .error e → recorded t = []

section Account

variable {frame : ℕ → Bytes} {n : ℕ}

/-- The chunks that are not acknowledged, if chunks are numbered from zero. -/
lemma unackedChunks_eq (hnum : ∀ i < n, chunkNumOf (frame i) = .ok i) (acked : List ℕ) :
    unackedChunks ((List.range n).map frame) acked = missingFrames frame n acked := by
  unfold unackedChunks missingFrames
  rw [unackedOf_range, List.filter_map]
  congr 1
  refine List.filter_congr fun i hi => ?_
  rw [Function.comp_apply, hnum i (List.mem_range.mp hi)]

/-- No chunk is missing exactly if no number is. -/
lemma missingFrames_eq_nil_iff {acked : List ℕ} :
    missingFrames frame n acked = [] ↔ unackedOf (List.range n) acked = [] :=
  List.map_eq_nil_iff

/-- **Every run has its account**, for chunks that are numbered from zero and differ.

**Proof sketch.** The run is a pass and rounds (`isRounds_of_runs`), and the acknowledged chunks
grow from check to check (`checks_grow`). A chunk that was acknowledged at a check is therefore
missing at no later one, and only missing chunks are resent (`IsRounds.resends`). How the loop ends
is told by `error_iff_of_runs`, `IsRounds.returns` and `IsRounds.raises`. -/
lemma accounted_of_runs (hnum : ∀ i < n, chunkNumOf (frame i) = .ok i)
    (hinj : Set.InjOn frame (Set.Iio n)) {msgId : ℕ} {c c' : ClientNode} {t : RetryTrace}
    {result : Except Exn Unit}
    (h : (retryChunks ((List.range n).map frame) (List.range n) msgId).run.Runs (laterExec msgId)
      c t result c') :
    Accounted ((List.range n).map frame) msgId t result := by
  obtain ⟨hinit, hall, hrest⟩ := isRounds_of_runs h
  have hgrow := (checks_grow h (performs_retryChunks (by simp))).2
  have hdue : ∀ i acked, dueAfter ((List.range n).map frame) i acked =
      if i < maxRetries then missingFrames frame n acked else [] := by
    intro i acked
    rw [dueAfter, unackedChunks_eq hnum]
  have hpass : ∀ chunk, (firstPass t).count chunk ≤ 1 := by
    intro chunk
    have hnodup : ((List.range n).map frame).Nodup :=
      List.nodup_range.map_on fun i hi j hj heq =>
        hinj (List.mem_range.mp hi) (List.mem_range.mp hj) heq
    exact List.nodup_iff_count_le_one.mp (hinit.sublist.nodup hnodup) chunk
  rcases hrest with ⟨hnone, hwritten, e, rfl⟩ | hrounds
  · have hcheck : ∀ (i : ℕ) acked sent, (checks t)[i]? ≠ some (acked, sent) := by
      intro i acked sent
      rw [hnone]
      exact nofun
    refine ⟨fun chunk => ?_, ⟨hinit, hall⟩,
      fun i acked sent hi => absurd hi (hcheck i acked sent),
      fun i acked sent hi => absurd hi (hcheck i acked sent),
      fun i acked sent hi => absurd hi (hcheck i acked sent), nofun, error_iff_of_runs h,
      fun _ _ => hwritten⟩
    rw [sends_eq, hnone, List.flatMap_nil, List.append_nil]
    exact (hpass chunk).trans (Nat.le_add_right 1 _)
  · refine ⟨fun chunk => ?_, ⟨hinit, hall⟩, fun i acked sent hi => ?_, ?_,
      fun i acked sent hi hlast => ?_, ?_, error_iff_of_runs h, ?_⟩
    · rw [sends_eq, List.count_append]
      exact Nat.add_le_add (hpass chunk) (hrounds.count_le hinj chunk)
    · rw [hdue]
      exact hrounds.resends i acked sent hi
    · intro i acked sent hi chunk chunkNum hchunk hacked j acked' sent' hij hj hmem
      have hsub : acked ⊆ acked' := by
        rcases hij.eq_or_lt with rfl | hlt
        · obtain ⟨rfl, _⟩ := Prod.mk.inj (Option.some.inj (hi.symm.trans hj))
          exact List.Subset.refl _
        · obtain ⟨hi', heq⟩ := List.getElem?_eq_some_iff.mp hi
          obtain ⟨hj', heq'⟩ := List.getElem?_eq_some_iff.mp hj
          have hle := List.pairwise_iff_getElem.mp hgrow i j hi' hj' hlt
          rwa [heq, heq'] at hle
      have hdueMem := (hrounds.resends j acked' sent' hj).1.subset hmem
      rw [← hdue, dueAfter] at hdueMem
      split_ifs at hdueMem
      · have hfilter := (List.mem_filter.mp hdueMem).2
        rw [hchunk] at hfilter
        exact of_decide_eq_true hfilter (hsub hacked)
      · cases hdueMem
    · rw [unackedChunks_eq hnum, missingFrames_eq_nil_iff] at hlast
      exact hrounds.stops i acked sent hi hlast
    · rintro rfl
      obtain ⟨acked, sent, hlast, hend, hwritten⟩ := hrounds.returns
      refine ⟨acked, sent, hlast, ?_, ?_⟩
      · rw [unackedChunks_eq hnum, missingFrames_eq_nil_iff]
        exact hend
      · rw [unackedChunks_eq hnum, hwritten, finalRecord, List.length_map, List.length_range]
        simp only [missingFrames_eq_nil_iff]
        rw [missingFrames, List.length_map]
    · rintro e rfl
      exact hrounds.raises

end Account

/-- **The accounting of the retry loop.** For all frames that `chunk_payload` makes, any outcomes
of `mesh.send`, and acknowledgements that come in at any time: no chunk is handed to the mesh more
than `1 + MAX_RETRIES` times; after each check the loop hands over exactly the chunks that are not
acknowledged at it; a chunk that is acknowledged at a check is not handed over again; the first
check that finds everything acknowledged is the last one; and a failure with the exact number of
chunks is recorded if some are not acknowledged at the last check, and nothing otherwise. The loop
returns, unless `mesh.send` raises.

**Proof sketch.** The frames of a message are numbered from zero and differ, as their numbers do, so
the account of the loop over numbered chunks is that of these frames (`accounted_of_runs`). -/
theorem retryLoop_accounted {data : Bytes} {msgType : UInt8} {msgId : UInt16}
    {chunks : List Bytes} (hchunks : chunkPayload data msgType.toNat msgId.toNat = .ok chunks)
    {id : ℕ} {c c' : ClientNode} {t : RetryTrace} {result : Except Exn Unit}
    (hrun : (retryLoop chunks id).run.Runs (laterExec id) c t result c') :
    Accounted chunks id t result := by
  have hlen := length_le_of_chunkPayload hchunks
  rw [chunkPayload_eq msgType msgId hlen] at hchunks
  obtain rfl : chunkFrames data msgType msgId = chunks := Except.ok.inj hchunks
  unfold retryLoop at hrun
  rw [chunkNumOf_chunkFrames hlen] at hrun
  exact accounted_of_runs (fun i hi => chunkNumOf_chunkFrame hlen msgType msgId hi)
    (injOn_chunkFrame hlen msgType msgId) hrun

/-- Answers to a retry loop whose frames are all sent, and whose message is not acknowledged. -/
def unheardAnswer : (op : RetryOp) → ClientNode → op.Ans × ClientNode
  | .send _, c => (.ok true, c)
  | .sleep _, c => ((), c)
  | .acked msgId, c => (c.ackedOf msgId, c)
  | .setResult msgId outcome, c => ((), c.setResult msgId outcome)

/-- These are answers that the operations can give. -/
lemma laterExec_unheardAnswer (msgId : ℕ) (op : RetryOp) (c : ClientNode) :
    laterExec msgId op c (unheardAnswer op c).1 (unheardAnswer op c).2 := by
  refine ⟨c, List.Subset.refl _, ?_⟩
  cases op with
  | send frame => rfl
  | sleep seconds => rfl
  | acked id => exact ⟨rfl, rfl⟩
  | setResult id outcome => rfl

set_option maxRecDepth 10000 in
/-- The chunks of three hundred bytes are handed over four times, and then it is recorded that none
of them was delivered. -/
theorem retryLoop_accounted_two_chunks :
    ∃ chunks t c', chunkPayload (List.replicate 300 7) MsgType.txChunk.toNat 7 = .ok chunks ∧
      (retryLoop chunks 7).run.Runs (laterExec 7) ClientNode.new t (.ok ()) c' ∧
      sends t = chunks ++ chunks ++ chunks ++ chunks ∧
      recorded t = [(7, .failure (ofString "Failed to deliver 2/2 chunks"))] ∧
      Accounted chunks 7 t (.ok ()) := by
  have hlen : (List.replicate 300 (7 : UInt8)).length ≤ 255 * maxChunkData := by
    rw [List.length_replicate, maxChunkData_eq]
    omega
  have hchunks := chunkPayload_eq MsgType.txChunk 7 hlen
  have hrun := Prog.runs_eval unheardAnswer (laterExec_unheardAnswer 7)
    (retryLoop (chunkFrames (List.replicate 300 7) MsgType.txChunk 7) 7).run ClientNode.new
  have hresult : ((retryLoop (chunkFrames (List.replicate 300 7) MsgType.txChunk 7) 7).run.eval
      unheardAnswer ClientNode.new).1 = .ok () := by decide +kernel
  rw [hresult] at hrun
  exact ⟨_, _, _, hchunks, hrun, by decide +kernel, by decide +kernel,
    retryLoop_accounted hchunks hrun⟩

end SolMesh
