import SolMesh.System.Beacons

set_option relaxedAutoImplicit false
set_option autoImplicit false

/-!
# The beacon thread

The thread of a gateway that broadcasts beacons has no handler for exceptions. The first beacon
whose uptime does not fit its field raises, and ends the thread; packets and requests are served as
before, without beacons.

## Main definitions

* `SolMesh.BeaconedGateway` — a gateway with its beacon thread.
* `SolMesh.BeaconedGateway.turn`, `SolMesh.BeaconedGateway.after` — a turn of the beacon loop, and
  the gateway and its thread after a run of inputs.
* `SolMesh.beacons` — the beacons that other nodes read from what was sent.

## Main results

* `SolMesh.BeaconedGateway.follows_after` — all that a run does.
* `SolMesh.beacons_broadcast` — the beacons of a run, and when the thread has ended.
-/

namespace SolMesh

open Py Text

variable {F : Type} {S : Solders}

/-! ## The loop -/

/-- A gateway with its beacon thread, which runs or has ended. -/
structure BeaconedGateway (F : Type) (S : Solders) where
  gateway : Gateway F S
  threadRuns : Bool

namespace BeaconedGateway

/-- A turn of the beacon loop, which sends a beacon at time `now`: an exception ends the thread. -/
def turn (env : Surroundings S) (now : ℚ) (g : BeaconedGateway F S) : BeaconedGateway F S :=
  if g.threadRuns then
    match (sendBeacon env now).run g.gateway with
    | .ok _ gateway => ⟨gateway, true⟩
    | .error _ gateway => ⟨gateway, false⟩
  else g

variable [Number F] [LT F] [DecidableLT F]

/-- The gateway and its thread after an input. -/
def next (H : Hashes S) (g : BeaconedGateway F S) : GatewayInput F S → BeaconedGateway F S
  | .beacon env now => g.turn env now
  | .packet env packet => { g with gateway := g.gateway.next H (.packet env packet) }
  | .http env xApiKey request => { g with gateway := g.gateway.next H (.http env xApiKey request) }

/-- The gateway and its thread after a run of inputs. -/
def after (H : Hashes S) (g : BeaconedGateway F S) (inputs : List (GatewayInput F S)) :
    BeaconedGateway F S := inputs.foldl (next H) g

end BeaconedGateway

/-- The time of a turn of the beacon loop. -/
def GatewayInput.turnTime : GatewayInput F S → Option ℚ
  | .beacon _ now => some now
  | .packet _ _ | .http _ _ _ => none

/-- The beacons that other nodes read from the frames that were sent. -/
def beacons (events : List GatewayEvent) : List GatewayBeacon :=
  (sentFrames events).filterMap fun frame => (Packet.ofFrame frame "").beacon

/-! ## What other nodes read -/

@[simp] lemma beacons_append (xs ys : List GatewayEvent) :
    beacons (xs ++ ys) = beacons xs ++ beacons ys := by
  rw [beacons, Gateway.sentFrames_append, List.filterMap_append, beacons, beacons]

/-- From the frame of a beacon, they read this beacon. -/
lemma beacons_meshSend {gw : Gateway F S} {now : ℚ} (h : gw.UptimeFits now) (msgId : UInt16) :
    beacons [.meshSend ((gw.beacon now).frame msgId) "" false] = [gw.beacon now] := by
  obtain ⟨_, _, _, hdecode⟩ := unpackMessage_beaconFrame h msgId
  have hread : (Packet.ofFrame ((gw.beacon now).frame msgId) "").beacon = some (gw.beacon now) := by
    rw [Packet.beacon, GatewayBeacon.frame,
      Packet.ofType_frameBytes _ _ _ _ _ (length_beacon_payload gw now), if_pos rfl]
    change (decodeGatewayBeacon (gw.beacon now).payload).toOption = _
    rw [hdecode]
    rfl
  exact List.filterMap_cons_some hread

variable [Number F] [LT F] [DecidableLT F] (H : Hashes S)

/-- From what is sent about a packet or a request, they read no beacon. -/
lemma beacons_reaction (gw : Gateway F S) {input : GatewayInput F S}
    (h : input.turnTime = none) : beacons (gw.reaction H input) = [] := by
  refine List.filterMap_eq_nil_iff.mpr fun frame hframe => ?_
  obtain ⟨event, hevent, hsent⟩ := List.mem_filterMap.mp hframe
  cases event with
  | meshSend frame' destinationId wantAck =>
    cases hsent
    obtain ⟨_, hsends⟩ := (gw.justified_reaction H input).sent frame destinationId wantAck hevent
    cases hread : (Packet.ofFrame frame "").beacon with
    | none => rfl
    | some beacon =>
      obtain ⟨env, now, rfl, _, _⟩ := hsends.of_beacon hread
      cases h
  | getLatestBlockhash | getAccountInfo | sendRawTransaction => cases hsent

/-! ## Runs -/

namespace BeaconedGateway

variable {H} {gw₀ : Gateway F S} {g : BeaconedGateway F S} {input : GatewayInput F S}
  {inputs : List (GatewayInput F S)} {env : Surroundings S} {now : ℚ}

variable (H) in
/-- **What a run does**, seen from a gateway with the same setup. The inputs that the gateway takes
are those of the run without the turns of an ended thread. The thread runs on if every uptime fits.
And each turn sends a beacon, up to the first one whose uptime does not fit. -/
structure Follows (gw₀ : Gateway F S) (g : BeaconedGateway F S) (inputs : List (GatewayInput F S))
    (g' : BeaconedGateway F S) : Prop where
  taken : ∃ taken, taken.Sublist inputs ∧
    taken.filter (fun input => input.turnTime.isNone) =
      inputs.filter (fun input => input.turnTime.isNone) ∧
    g'.gateway = g.gateway.after H taken
  threadRuns : g'.threadRuns = true ↔
    g.threadRuns = true ∧ ∀ now ∈ inputs.filterMap GatewayInput.turnTime, gw₀.UptimeFits now
  beacons : beacons g'.gateway.node.events = beacons g.gateway.node.events ++
    if g.threadRuns then ((inputs.filterMap GatewayInput.turnTime).takeWhile
      fun now => decide (gw₀.UptimeFits now)).map gw₀.beacon
    else []

/-- An empty run does nothing. -/
lemma follows_nil (gw₀ : Gateway F S) (g : BeaconedGateway F S) : Follows H gw₀ g [] g where
  taken := ⟨[], .slnil, rfl, rfl⟩
  threadRuns := by simp
  beacons := by simp

/-- The gateway after one input and then more. -/
lemma after_cons (gw : Gateway F S) (input : GatewayInput F S) (inputs : List (GatewayInput F S)) :
    (gw.next H input).after H inputs = gw.after H (input :: inputs) := by
  rw [Gateway.after, Gateway.after, List.foldl_cons]

/-- A packet or a request is taken. -/
lemma Follows.cons_other {g' : BeaconedGateway F S}
    (h : Follows H gw₀ { g with gateway := g.gateway.next H input } inputs g')
    (hinput : input.turnTime = none) : Follows H gw₀ g (input :: inputs) g' := by
  obtain ⟨⟨taken, hsub, hothers, hgateway⟩, hruns, hbeacons⟩ := h
  refine ⟨⟨input :: taken, hsub.cons_cons input, ?_, hgateway.trans (after_cons _ _ _)⟩, ?_, ?_⟩
  · rw [List.filter_cons_of_pos (by rw [hinput]; rfl), hothers,
      List.filter_cons_of_pos (by rw [hinput]; rfl)]
  · rw [List.filterMap_cons_none hinput]
    exact hruns
  · rw [List.filterMap_cons_none hinput, hbeacons, Gateway.events_next, beacons_append,
      beacons_reaction H g.gateway hinput, List.append_nil]

omit [Number F] [LT F] [DecidableLT F] in
/-- The times of the turns, after a turn. -/
lemma turnTimes_cons (env : Surroundings S) (now : ℚ) (inputs : List (GatewayInput F S)) :
    (GatewayInput.beacon env now :: inputs).filterMap GatewayInput.turnTime =
      now :: inputs.filterMap GatewayInput.turnTime := rfl

/-- A turn whose uptime fits sends a beacon. -/
lemma next_of_fits {gw : Gateway F S} (h : gw.UptimeFits now) :
    gw.next H (.beacon env now) =
      gw.record [.meshSend ((gw.beacon now).frame env.replyId) "" false] := by
  rw [Gateway.next, stateAfter_of_ok (run_sendBeacon_of_fits h env)]

omit [Number F] [LT F] [DecidableLT F] in
/-- The beacons of a longer record. -/
lemma beacons_record (gw : Gateway F S) (events : List GatewayEvent) :
    SolMesh.beacons (gw.record events).node.events =
      SolMesh.beacons gw.node.events ++ SolMesh.beacons events :=
  beacons_append gw.node.events events

/-- A turn whose uptime fits is taken, and sends a beacon. -/
lemma Follows.cons_sent {g' : BeaconedGateway F S} {gw : Gateway F S}
    (hsetup : gw₀.SameSetup g.gateway) (hnext : gw = g.gateway.next H (.beacon env now))
    (h : Follows H gw₀ ⟨gw, true⟩ inputs g') (hruns : g.threadRuns = true)
    (hfits : g.gateway.UptimeFits now) :
    Follows H gw₀ g (.beacon env now :: inputs) g' := by
  have hfits₀ : gw₀.UptimeFits now := hsetup.uptimeFits.mp hfits
  obtain ⟨⟨taken, hsub, hothers, hgateway⟩, hlasts, hbeacons⟩ := h
  refine ⟨⟨.beacon env now :: taken, hsub.cons_cons _, ?_, ?_⟩, ?_, ?_⟩
  · rw [List.filter_cons_of_neg (by simp [GatewayInput.turnTime]), hothers,
      List.filter_cons_of_neg (by simp [GatewayInput.turnTime])]
  · rw [hgateway, hnext, after_cons]
  · rw [hlasts, turnTimes_cons, List.forall_mem_cons]
    simp only [hruns, hfits₀, true_and]
  · rw [hbeacons, hnext, next_of_fits hfits, hruns, turnTimes_cons, if_pos rfl, if_pos rfl,
      List.takeWhile_cons_of_pos (by simpa using hfits₀), List.map_cons, ← hsetup.beacon now,
      beacons_record, beacons_meshSend hfits, List.append_assoc]
    rfl

/-- A turn whose uptime does not fit ends the thread. -/
lemma Follows.cons_ended {g' : BeaconedGateway F S} (hsetup : gw₀.SameSetup g.gateway)
    (h : Follows H gw₀ ⟨g.gateway, false⟩ inputs g') (hfits : ¬ g.gateway.UptimeFits now) :
    Follows H gw₀ g (.beacon env now :: inputs) g' := by
  have hfits₀ : ¬ gw₀.UptimeFits now := fun hyes => hfits (hsetup.uptimeFits.mpr hyes)
  obtain ⟨⟨taken, hsub, hothers, hgateway⟩, hlasts, hbeacons⟩ := h
  refine ⟨⟨taken, hsub.cons _, hothers, hgateway⟩, ?_, ?_⟩
  · rw [hlasts, turnTimes_cons, List.forall_mem_cons]
    simp [hfits₀]
  · rw [hbeacons, turnTimes_cons, List.takeWhile_cons_of_neg (by simpa using hfits₀)]
    simp

/-- A turn of a thread that has ended is not taken. -/
lemma Follows.cons_idle {g' : BeaconedGateway F S} (h : Follows H gw₀ g inputs g')
    (hruns : g.threadRuns = false) : Follows H gw₀ g (.beacon env now :: inputs) g' := by
  obtain ⟨⟨taken, hsub, hothers, hgateway⟩, hlasts, hbeacons⟩ := h
  refine ⟨⟨taken, hsub.cons _, hothers, hgateway⟩, ?_, ?_⟩
  · rw [hlasts, hruns]
    simp
  · rw [hbeacons, hruns]
    rfl

/-- **All that a run does.**

**Proof sketch.** Induction on the inputs. A packet or a call of the server is no turn of the
thread. A turn does nothing if the thread has ended; it sends a beacon if the uptime fits, and ends
the thread if it does not. -/
lemma follows_after (H : Hashes S) (gw₀ : Gateway F S) (inputs : List (GatewayInput F S))
    (g : BeaconedGateway F S) (hsetup : gw₀.SameSetup g.gateway) :
    Follows H gw₀ g inputs (g.after H inputs) := by
  induction inputs generalizing g with
  | nil => exact follows_nil gw₀ g
  | cons input inputs ih =>
    cases input with
    | packet env packet =>
      have hrest := ih { g with gateway := g.gateway.next H (.packet env packet) }
        (hsetup.next H (.packet env packet))
      exact hrest.cons_other rfl
    | http env xApiKey request =>
      have hrest := ih { g with gateway := g.gateway.next H (.http env xApiKey request) }
        (hsetup.next H (.http env xApiKey request))
      exact hrest.cons_other rfl
    | beacon env now =>
      change Follows H gw₀ g _ ((g.turn env now).after H inputs)
      cases hruns : g.threadRuns with
      | false =>
        rw [turn, hruns, if_neg Bool.false_ne_true]
        exact (ih g hsetup).cons_idle hruns
      | true =>
        rw [turn, hruns, if_pos rfl]
        by_cases hfits : g.gateway.UptimeFits now
        · have hnext : g.gateway.next H (.beacon env now) = _ := next_of_fits hfits
          have hsetup' := hsetup.next H (.beacon env now)
          rw [hnext] at hsetup'
          rw [run_sendBeacon_of_fits hfits env]
          exact (ih ⟨_, true⟩ hsetup').cons_sent hsetup hnext.symm hruns hfits
        · obtain ⟨e, hraised⟩ := run_sendBeacon_of_not_fits hfits env
          have hrest := ih ⟨g.gateway, false⟩ hsetup
          rw [hraised]
          exact hrest.cons_ended hsetup hfits

end BeaconedGateway

/-- **The beacons of a gateway**, over every run of packets, requests and turns of the beacon loop
after its start. What other nodes read are the beacons of the turns up to the first one at which
the uptime is negative or takes more than four bytes, in this order, and none after it: this turn
ends the thread. Packets and requests are served all the same: the gateway is the one after the
inputs without the turns that an ended thread would have had.

**Proof sketch.** The thread runs at the beginning, so what follows is what a running thread does
with the inputs (`BeaconedGateway.follows_after`). -/
theorem beacons_broadcast (H : Hashes S) (gw : Gateway F S) (inputs : List (GatewayInput F S)) :
    let g := (⟨gw, true⟩ : BeaconedGateway F S).after H inputs
    let turns := inputs.filterMap GatewayInput.turnTime
    beacons g.gateway.node.events = beacons gw.node.events ++
        (turns.takeWhile fun now => decide (gw.UptimeFits now)).map gw.beacon ∧
      (g.threadRuns = true ↔ ∀ now ∈ turns, gw.UptimeFits now) ∧
      ∃ taken, taken.Sublist inputs ∧
        taken.filter (fun input => input.turnTime.isNone) =
          inputs.filter (fun input => input.turnTime.isNone) ∧
        g.gateway = gw.after H taken := by
  obtain ⟨htaken, hruns, hbeacons⟩ :=
    BeaconedGateway.follows_after H gw inputs ⟨gw, true⟩ (.refl gw)
  exact ⟨hbeacons, hruns.trans (and_iff_right rfl), htaken⟩

end SolMesh
