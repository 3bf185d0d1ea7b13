import SolMesh.Foundations.Runs
import SolMesh.Client.Retry

set_option relaxedAutoImplicit false
set_option autoImplicit false

/-!
# The result a wait returns

A dispatch draws a 16-bit id for its message. The handlers and the retry loops record results under
the ids of messages, and a wait takes out what it finds. A result that nobody waited for stays, so
that a later dispatch with the same id finds it. A wait returns a result of its own dispatch
exactly as long as nothing is recorded under the id at the time it is drawn.

## Main definitions

* `SolMesh.Daemon`, `SolMesh.DaemonStep` — a client with the retry loops in its background.
* `SolMesh.ResultsOwn` — results that are waited for were recorded since the dispatch.
* `SolMesh.DrawsFree` — a drawn id has no result.

## Main results

* `SolMesh.records_of_step` — only what records a result changes what is found under an id.
* `SolMesh.ownAfter_iff` — what one dispatch needs.
* `SolMesh.results_own` — runs in which every drawn id has no result.
-/

namespace SolMesh

open Py Text Conc

/-! ## A client and its background -/

/-- A client, and the retry loops that its dispatches started. -/
structure Daemon where
  node : ClientNode
  loops : List (Prog RetryOp RetryOp.Ans (Except Exn Unit))

/-- A client that was just started. -/
def Daemon.new : Daemon := ⟨ClientNode.new, []⟩

/-- What is recorded under the id of a message. -/
def Daemon.slot (d : Daemon) (msgId : UInt16) : Option TxOutcome := d.node.results.get? msgId.toNat

/-- What happens at a client: a dispatch draws an id, for a transaction that is relayed or for a
request to the gateway; a frame arrives; a wait ends; a retry loop goes on. -/
inductive DaemonEvent
  | relay (txBytes : Bytes) (msgId : UInt16)
  | request (msgId : UInt16)
  | delivered (frame : Bytes)
  | waited (msgId : UInt16) (result : Option TxOutcome)
  | loop (op : RetryOp) (answer : op.Ans)

/-- The id that a dispatch draws. -/
def DaemonEvent.draws : DaemonEvent → Option UInt16
  | .relay _ msgId => some msgId
  | .request msgId => some msgId
  | .delivered _ => none
  | .waited _ _ => none
  | .loop _ _ => none

/-- The result that is recorded. -/
def DaemonEvent.records : DaemonEvent → Option (ℕ × TxOutcome)
  | .relay _ _ => none
  | .request _ => none
  | .delivered frame => ClientNode.reportOf frame
  | .waited _ _ => none
  | .loop (.setResult msgId outcome) _ => some (msgId, outcome)
  | .loop _ _ => none

/-- The steps. A request is packed and sent, which changes nothing at the client. -/
inductive DaemonStep : Daemon → DaemonEvent → Daemon → Prop
  | relay {d : Daemon} {txBytes : Bytes} {msgId : UInt16} {loop : RetryLoop Unit}
      {node : ClientNode} (h : relayRawTx txBytes msgId d.node = .ok (loop, node)) :
      DaemonStep d (.relay txBytes msgId) ⟨node, d.loops ++ [loop.run]⟩
  | request {d : Daemon} {msgId : UInt16} : DaemonStep d (.request msgId) d
  | delivered {d : Daemon} {frame : Bytes} :
      DaemonStep d (.delivered frame) { d with node := d.node.receive frame }
  | waited {d : Daemon} {msgId : UInt16} {result : Option TxOutcome} {node : ClientNode}
      (h : d.node.Waits msgId result node) :
      DaemonStep d (.waited msgId result) { d with node := node }
  | loop {node node' : ClientNode} {op : RetryOp}
      {next : op.Ans → Prog RetryOp RetryOp.Ans (Except Exn Unit)}
      {before after : List (Prog RetryOp RetryOp.Ans (Except Exn Unit))} {answer : op.Ans}
      (h : retryExec op node answer node') :
      DaemonStep ⟨node, before ++ .call op next :: after⟩ (.loop op answer)
        ⟨node', before ++ next answer :: after⟩

/-! ## Whose result it is -/

/-- **Results are the dispatch's own**: when a wait for a message returns a result, and the
dispatch before it that drew the id of the message was the last one to draw it, then the result was
recorded after that dispatch. -/
def ResultsOwn (es : List DaemonEvent) : Prop :=
  ∀ es₁ e es₂ msgId outcome es₃, es = es₁ ++ e :: es₂ ++ .waited msgId (some outcome) :: es₃ →
    e.draws = some msgId → (∀ e' ∈ es₂, e'.draws ≠ some msgId) →
    ∃ e' ∈ es₂, e'.records = some (msgId.toNat, outcome)

/-- From this state on, what a wait for the message returns is recorded before it does, as long as
no dispatch draws the id again. -/
def OwnAfter (msgId : UInt16) (d : Daemon) : Prop :=
  ∀ es d' outcome d'', Run DaemonStep d es d' → (∀ e ∈ es, e.draws ≠ some msgId) →
    DaemonStep d' (.waited msgId (some outcome)) d'' →
    ∃ e ∈ es, e.records = some (msgId.toNat, outcome)

/-- **A drawn id is free**: nothing is recorded under it. -/
def DrawsFree (d : Daemon) (e : DaemonEvent) : Prop :=
  ∀ msgId, e.draws = some msgId → d.slot msgId = none

section Steps

variable {d d' : Daemon} {e : DaemonEvent} {msgId : UInt16} {outcome : TxOutcome}

/-- A relayed transaction leaves the results as they are. -/
lemma results_relayRawTx {txBytes : Bytes} {c c' : ClientNode} {loop : RetryLoop Unit}
    (h : relayRawTx txBytes msgId c = .ok (loop, c')) : c'.results = c.results := by
  rw [relayRawTx_eq (length_le_of_relayRawTx h)] at h
  obtain ⟨_, rfl⟩ := Prod.mk.inj (Except.ok.inj h)
  rfl

/-- **What is found under an id comes from a record**: if a step makes an outcome the recorded one,
then it records it.

**Proof sketch.** Cases on the step. A delivered frame records what it reports
(`ClientNode.results_receive`), and a loop of resends what it sets. A wait takes a result out and
puts none in, and the others leave the results as they are. -/
lemma records_of_step (h : DaemonStep d e d') (hbefore : d.slot msgId ≠ some outcome)
    (hafter : d'.slot msgId = some outcome) : e.records = some (msgId.toNat, outcome) := by
  unfold Daemon.slot at hbefore hafter
  cases h with
  | relay hrelay => exact absurd ((results_relayRawTx hrelay) ▸ hafter) hbefore
  | request => exact absurd hafter hbefore
  | @delivered _ frame =>
    dsimp only at hafter
    rw [ClientNode.results_receive] at hafter
    change ClientNode.reportOf frame = _
    cases hreport : ClientNode.reportOf frame with
    | none =>
      rw [hreport] at hafter
      exact absurd hafter hbefore
    | some report =>
      obtain ⟨id, o⟩ := report
      rw [hreport] at hafter
      obtain ⟨rfl, rfl⟩ := Dict.eq_of_get?_set hafter hbefore
      rfl
  | @waited _ id result node hwait =>
    -- a wait takes a result out, and puts none in
    exfalso
    rcases hwait with ⟨_, rfl⟩ | ⟨o, _, _, rfl⟩
    · exact hbefore hafter
    · dsimp only at hafter
      by_cases hid : msgId.toNat = id.toNat
      · rw [hid, Dict.get?_erase_self] at hafter
        cases hafter
      · rw [Dict.get?_erase_of_ne _ hid] at hafter
        exact hbefore hafter
  | @loop node node' op next before after answer hexec =>
    cases op with
    | send frame =>
      obtain rfl : node' = node := hexec
      exact absurd hafter hbefore
    | sleep seconds =>
      obtain rfl : node' = node := hexec
      exact absurd hafter hbefore
    | acked id =>
      obtain rfl : node' = node := hexec.2
      exact absurd hafter hbefore
    | setResult id o =>
      obtain rfl : node' = node.setResult id o := hexec
      change (node.results.set id o).get? msgId.toNat = some outcome at hafter
      obtain ⟨rfl, rfl⟩ := Dict.eq_of_get?_set hafter hbefore
      rfl

/-- What a wait returns was recorded. -/
lemma slot_of_waited (h : DaemonStep d (.waited msgId (some outcome)) d') :
    d.slot msgId = some outcome := by
  cases h with
  | waited hwait =>
    rcases hwait with ⟨hnone, _⟩ | ⟨o, hget, hsome, _⟩
    · cases hnone
    · rw [Option.some.inj hsome]
      exact hget

/-- What is recorded can be returned by a wait. -/
lemma exists_waited (h : d.slot msgId = some outcome) :
    ∃ d', DaemonStep d (.waited msgId (some outcome)) d' :=
  ⟨_, .waited (Or.inr ⟨outcome, h, rfl, rfl⟩)⟩

/-- A dispatch leaves the results as they are. -/
lemma slot_of_draws (h : DaemonStep d e d') (hdraws : e.draws = some msgId) (id : UInt16) :
    d'.slot id = d.slot id := by
  unfold Daemon.slot
  cases h with
  | relay hrelay => rw [results_relayRawTx hrelay]
  | request => rfl
  | delivered => cases hdraws
  | waited => cases hdraws
  | loop => cases hdraws

/-- **What is returned is recorded in between**, if nothing is recorded at the beginning. -/
lemma exists_records {es : List DaemonEvent} {d'' : Daemon} (hfree : d.slot msgId = none)
    (hrun : Run DaemonStep d es d')
    (hwaited : DaemonStep d' (.waited msgId (some outcome)) d'') :
    ∃ e ∈ es, e.records = some (msgId.toNat, outcome) := by
  have hbefore : ¬ d.slot msgId = some outcome := by
    rw [hfree]
    exact nofun
  obtain ⟨es₁, e, es₂, t, t', rfl, _, hstep, ht, ht'⟩ :=
    hrun.exists_step (P := fun d => d.slot msgId = some outcome) hbefore (slot_of_waited hwaited)
  exact ⟨e, by simp, records_of_step hstep ht ht'⟩

/-- **What one dispatch needs**: all that is awaited after it is its own exactly if nothing is
recorded under the id that it draws. -/
lemma ownAfter_iff (h : DaemonStep d e d') (hdraws : e.draws = some msgId) :
    OwnAfter msgId d' ↔ d.slot msgId = none := by
  rw [← slot_of_draws h hdraws]
  constructor
  · intro hown
    cases hslot : d'.slot msgId with
    | none => rfl
    | some outcome =>
      -- a wait right after the dispatch returns what was there before
      obtain ⟨d'', hwaited⟩ := exists_waited hslot
      obtain ⟨e', he', _⟩ := hown [] d' outcome d'' (.nil d') (by simp) hwaited
      exact absurd he' List.not_mem_nil
  · intro hfree es d'' outcome d''' hrun _ hwaited
    exact exists_records hfree hrun hwaited

end Steps

/-- **A result belongs to the dispatch that awaits it, if drawn ids are free.** In every run of a
client, with any ids drawn, any frames delivered at any time, waits that return or time out, and
any number of retry loops in the background: if nothing is recorded under an id whenever it is
drawn, then the results that waits return were recorded after the dispatches they are for. And
whatever happened before a dispatch, everything that is awaited after it is its own only if nothing
is recorded under its id.

**Proof sketch.** The result that a wait returns was recorded at some step (`records_of_step`). If
nothing was recorded under the id when it was drawn, this step comes after the dispatch; if
something was, a wait right after the dispatch returns it (`ownAfter_iff`). -/
theorem results_own {es : List DaemonEvent} {d : Daemon}
    (hrun : Run (fun d e d' => DaemonStep d e d' ∧ DrawsFree d e) Daemon.new es d) :
    ResultsOwn es ∧ ∀ d e d' msgId, DaemonStep d e d' → e.draws = some msgId →
      (OwnAfter msgId d' ↔ d.slot msgId = none) := by
  refine ⟨?_, fun d e d' msgId hstep hdraws => ownAfter_iff hstep hdraws⟩
  rintro es₁ e es₂ msgId outcome es₃ rfl hdraws hother
  rw [List.append_assoc] at hrun
  obtain ⟨d₁, _, hrest⟩ := run_append_iff.mp hrun
  obtain ⟨d₂, ⟨hdispatch, hfree⟩, hrest⟩ := hrest.cons_inv
  obtain ⟨d₃, hbetween, hrest⟩ := run_append_iff.mp hrest
  obtain ⟨d₄, ⟨hwaited, _⟩, _⟩ := hrest.cons_inv
  have hown := (ownAfter_iff hdispatch hdraws).mpr (hfree msgId hdraws)
  exact hown es₂ d₃ outcome d₄ (hbetween.mono fun _ _ _ h => h.1) hother hwaited

/-- A `NACK` for message 5. -/
def nackFrame : Bytes := frameBytes MsgType.nack 9 0 1 [0, 5, 3]

/-- It records a failure. -/
lemma results_nackFrame (c : ClientNode) :
    (c.receive nackFrame).results.get? (5 : UInt16).toNat = some (.failure []) := by
  have hreport : ClientNode.reportOf nackFrame = some (5, .failure []) := by decide +kernel
  rw [ClientNode.results_receive, hreport]
  exact Dict.get?_set_self _ _ _

/-- A request whose `NACK` arrives before the wait for its result. -/
theorem results_own_request :
    ResultsOwn [.request 5, .delivered nackFrame, .waited 5 (some (.failure []))] := by
  have hrun : Run (fun d e d' => DaemonStep d e d' ∧ DrawsFree d e) Daemon.new
      [.request 5, .delivered nackFrame, .waited 5 (some (.failure []))] _ :=
    .cons ⟨.request, fun msgId _ => Dict.get?_empty msgId.toNat⟩ (.cons ⟨.delivered, nofun⟩ (.cons
      ⟨.waited (Or.inr ⟨_, results_nackFrame ClientNode.new, rfl, rfl⟩), nofun⟩ (.nil _)))
  exact (results_own hrun).1

/-- **A wait can return the result of an earlier dispatch**: the `NACK` for a request arrives after
its wait has timed out, and the next request that draws the same id is taken to have failed. -/
theorem not_results_own : ¬ ∀ es d, Run DaemonStep Daemon.new es d → ResultsOwn es := by
  intro hall
  have hrun : Run DaemonStep Daemon.new
      ([.request 5, .waited 5 none, .delivered nackFrame] ++
        DaemonEvent.request 5 :: [] ++ [.waited 5 (some (.failure []))]) _ :=
    .cons .request (.cons (.waited (Or.inl ⟨rfl, rfl⟩)) (.cons .delivered (.cons .request
      (.cons (.waited (Or.inr ⟨_, results_nackFrame ClientNode.new, rfl, rfl⟩)) (.nil _)))))
  obtain ⟨e, he, _⟩ := hall _ _ hrun _ _ _ _ _ [] rfl rfl (by simp)
  exact absurd he List.not_mem_nil

end SolMesh
