import Mathlib.Data.List.MinMax
import Mathlib.Tactic.Linarith
import Mathlib.Tactic.NormNum
import SolMesh.Foundations.LastWrite
import SolMesh.Client.Node

set_option relaxedAutoImplicit false
set_option autoImplicit false

/-!
# What a client knows

A client that only receives packets knows, of each node, what the node said last; and it takes the
first node that sends a beacon for its gateway, if none is configured. From the beacons it tells
whether its gateway is online and which gateway was heard last.

## Main definitions

* `SolMesh.Client.discoverGateway`, `SolMesh.Client.isGatewayOnline` — what a client makes of the
  beacons.
* `SolMesh.Client.afterPackets` — a client after it received packets.

## Main results

* `SolMesh.client_books` — the books of a client after any packets.
* `SolMesh.gateway_presence` — who is taken for online, and for the latest gateway.
-/

namespace SolMesh

open Py Text

variable {S : Solders}

namespace Client

/-! ## Discovery -/

/-- What a wait for a beacon ends with: the gateway that was seen last, which becomes the configured
one if there is none; or nothing, if no beacon was received. The id of a gateway without a name is
`None`. -/
def discoverGateway (c : Client) : Option String × Client :=
  match c.discoveredGateways.entries.argmax fun e => e.2.lastSeen with
  | none => (none, c)
  | some (bestId, _) =>
    (named (some bestId),
      { c with gatewayId := if c.hasGateway then c.gatewayId else named (some bestId) })

/-- Has the configured gateway sent a beacon that is not older than this? -/
def isGatewayOnline (c : Client) (now maxStaleSeconds : ℚ) : Bool :=
  match named c.gatewayId with
  | none => false
  | some id =>
    match c.discoveredGateways.get? id with
    | none => false
    | some info => decide (now - info.lastSeen < maxStaleSeconds)

section Discovery

variable {c : Client} {now maxStaleSeconds : ℚ} {id : String}

/-- The configured gateway is online if it was seen lately.

**Proof sketch.** Along the branches of the function: there is no gateway configured, or it was
never seen, or the time since its last beacon decides. -/
lemma isGatewayOnline_iff : c.isGatewayOnline now maxStaleSeconds = true ↔
    ∃ id info, named c.gatewayId = some id ∧ c.discoveredGateways.get? id = some info ∧
      now - info.lastSeen < maxStaleSeconds := by
  unfold isGatewayOnline
  cases hgateway : named c.gatewayId with
  | none =>
    refine iff_of_false Bool.false_ne_true ?_
    rintro ⟨_, _, hid, _⟩
    cases hid
  | some id =>
    dsimp only
    cases hinfo : c.discoveredGateways.get? id with
    | none =>
      refine iff_of_false Bool.false_ne_true ?_
      rintro ⟨_, _, hid, hinfo', _⟩
      cases hid
      rw [hinfo] at hinfo'
      cases hinfo'
    | some info =>
      dsimp only
      rw [decide_eq_true_iff]
      constructor
      · exact fun h => ⟨id, info, rfl, hinfo, h⟩
      · rintro ⟨_, info', hid, hinfo', h⟩
        cases hid
        obtain rfl := Option.some.inj (hinfo.symm.trans hinfo')
        exact h

/-- What is discovered, if a gateway is known: one that was seen last, and it has no name if nothing
is returned. -/
lemma exists_discoverGateway {info : GatewayInfo} (h : c.discoveredGateways.get? id = some info) :
    ∃ bestId best, c.discoverGateway.1 = named (some bestId) ∧
      c.discoveredGateways.get? bestId = some best ∧ ∀ id' info',
        c.discoveredGateways.get? id' = some info' → info'.lastSeen ≤ best.lastSeen := by
  unfold discoverGateway
  cases hbest : c.discoveredGateways.entries.argmax fun e => e.2.lastSeen with
  | none =>
    have hempty := List.argmax_eq_none.mp hbest
    rw [Dict.get?, hempty] at h
    cases h
  | some best =>
    refine ⟨best.1, best.2, rfl, Dict.get?_eq_some_iff.mpr (List.argmax_mem hbest),
      fun id' info' hinfo => ?_⟩
    exact List.le_of_mem_argmax (f := fun e : String × GatewayInfo => e.2.lastSeen)
      (Dict.get?_eq_some_iff.mp hinfo) hbest

/-- The gateway that is discovered has a name and is known. -/
lemma exists_of_discoverGateway (h : c.discoverGateway.1 = some id) :
    id ≠ "" ∧ ∃ info, c.discoveredGateways.get? id = some info := by
  unfold discoverGateway at h
  cases hbest : c.discoveredGateways.entries.argmax fun e => e.2.lastSeen with
  | none => rw [hbest] at h; cases h
  | some best =>
    rw [hbest] at h
    obtain ⟨hid, hname⟩ := Option.filter_eq_some_iff.mp (show named (some best.1) = some id from h)
    obtain rfl := Option.some.inj hid
    exact ⟨of_decide_eq_true hname, best.2, Dict.get?_eq_some_iff.mpr (List.argmax_mem hbest)⟩

end Discovery

/-! ## Packets -/

/-- A packet, and what the client finds when it arrives. -/
abbrev Arrival := ClientMoment × Packet

/-- The client after it received packets. -/
def afterPackets (S : Solders) (c : Client) (packets : List Arrival) : Client :=
  packets.foldl (fun c arrival => c.receive S arrival.1 arrival.2) c

/-- The gateway that a packet is a beacon of. -/
def sighting (arrival : Arrival) : Option (String × GatewayInfo) :=
  arrival.2.beacon.map fun beacon => (arrival.2.senderId, ⟨beacon, arrival.1.now⟩)

/-- The address that a packet shares. -/
def sharing (S : Solders) (arrival : Arrival) : Option (String × AddressInfo) :=
  (arrival.2.address S).map fun info => (arrival.2.senderId, info)

/-- The balance that a packet reports. -/
def reporting (S : Solders) (arrival : Arrival) : Option (ℕ × BalanceInfo) := arrival.2.balance S

/-- The books after one more packet. -/
lemma books_receive (c : Client) (arrival : Arrival) :
    (c.receive S arrival.1 arrival.2).discoveredGateways =
        c.discoveredGateways.assign (sighting arrival) ∧
      (c.receive S arrival.1 arrival.2).receivedAddresses =
        c.receivedAddresses.assign (sharing S arrival) ∧
      (c.receive S arrival.1 arrival.2).balances = c.balances.assign (reporting S arrival) ∧
      (c.receive S arrival.1 arrival.2).blockhash = arrival.2.blockhash.or c.blockhash ∧
      (c.receive S arrival.1 arrival.2).gatewayId = if c.hasGateway then c.gatewayId
        else match sighting arrival with
          | none => c.gatewayId
          | some (id, _) => named (some id) := by
  rw [receive_eq]
  dsimp only
  unfold sighting sharing reporting
  refine ⟨?_, ?_, ?_, ?_, ?_⟩
  · cases arrival.2.beacon <;> rfl
  · cases arrival.2.address S <;> rfl
  · cases arrival.2.balance S <;> rfl
  · cases arrival.2.blockhash <;> rfl
  · cases arrival.2.beacon <;> simp

/-- The client after one more packet. -/
lemma afterPackets_append_singleton (c : Client) (packets : List Arrival) (arrival : Arrival) :
    c.afterPackets S (packets ++ [arrival]) =
      (c.afterPackets S packets).receive S arrival.1 arrival.2 := by
  unfold afterPackets
  rw [List.foldl_append]
  rfl

/-- The books after packets. -/
lemma books_afterPackets (c : Client) (packets : List Arrival) :
    (c.afterPackets S packets).discoveredGateways =
        packets.foldl (fun d arrival => d.assign (sighting arrival)) c.discoveredGateways ∧
      (c.afterPackets S packets).receivedAddresses =
        packets.foldl (fun d arrival => d.assign (sharing S arrival)) c.receivedAddresses ∧
      (c.afterPackets S packets).balances =
        packets.foldl (fun d arrival => d.assign (reporting S arrival)) c.balances ∧
      (c.afterPackets S packets).blockhash =
        (packets.filterMap fun arrival => arrival.2.blockhash).getLast?.or c.blockhash := by
  induction packets using List.reverseRecOn with
  | nil => exact ⟨rfl, rfl, rfl, rfl⟩
  | append_singleton packets arrival ih =>
    obtain ⟨hgateways, haddresses, hbalances, hblockhash⟩ := ih
    obtain ⟨hgateways', haddresses', hbalances', hblockhash', _⟩ :=
      books_receive (S := S) (c.afterPackets S packets) arrival
    rw [afterPackets_append_singleton, hgateways', haddresses', hbalances', hblockhash',
      hgateways, haddresses, hbalances, hblockhash]
    simp only [List.foldl_append, List.foldl_cons, List.foldl_nil, List.filterMap_append, true_and]
    cases hpacket : arrival.2.blockhash with
    | none => simp [hpacket]
    | some blockhash => simp [hpacket]

/-- The gateway after one more packet: the configured one, or the sender if that is a node with a
name and the packet a beacon.

**Proof sketch.** A gateway that is configured stays. Otherwise the sender of a beacon becomes the
gateway, and counts as one only if it has a name. -/
lemma named_gatewayId_receive (c : Client) (arrival : Arrival) :
    named (c.receive S arrival.1 arrival.2).gatewayId =
      (named c.gatewayId).or
        (((sighting arrival).map Prod.fst).filter fun id => decide (id ≠ "")) := by
  obtain ⟨_, _, _, _, hgateway⟩ := books_receive (S := S) c arrival
  rw [hgateway]
  cases hconfigured : named c.gatewayId with
  | some id =>
    have hhas : c.hasGateway = true := by rw [hasGateway, hconfigured]; rfl
    rw [if_pos hhas, hconfigured, Option.some_or]
  | none =>
    have hhas : c.hasGateway = false := by rw [hasGateway, hconfigured]; rfl
    rw [hhas, if_neg Bool.false_ne_true, Option.none_or]
    cases sighting arrival with
    | none => exact hconfigured
    | some sight =>
      dsimp only
      rw [named, named, Option.filter_filter, Option.map_some]
      simp only [Bool.and_self]

/-- The gateway after packets: the configured one, or the first node with a name that sent a
beacon.

**Proof sketch.** Induction on the packets (`named_gatewayId_receive`): the first node with a name
is looked for in the first packet, and then in the others. -/
lemma named_gatewayId_afterPackets (c : Client) (packets : List Arrival) :
    named (c.afterPackets S packets).gatewayId = (named c.gatewayId).or
      (((packets.filterMap sighting).map Prod.fst).find? fun id => decide (id ≠ "")) := by
  induction packets generalizing c with
  | nil => exact Option.or_none.symm
  | cons arrival packets ih =>
    change named ((c.receive S arrival.1 arrival.2).afterPackets S packets).gatewayId = _
    rw [ih, named_gatewayId_receive, Option.or_assoc]
    congr 1
    cases hsight : sighting arrival with
    | none =>
      rw [List.filterMap_cons_none hsight, Option.map_none, Option.filter_none, Option.none_or]
    | some sight =>
      rw [List.filterMap_cons_some hsight, List.map_cons, List.find?_cons, Option.map_some,
        Option.filter_some]
      by_cases hname : sight.1 = ""
      · simp [hname]
      · simp [hname]

/-! ## Sightings -/

section Sightings

variable {packets : List Arrival} {arrival : Arrival} {id : String} {info : GatewayInfo}

/-- A beacon is a sighting of its sender. -/
lemma sighting_eq_some_iff :
    sighting arrival = some (id, info) ↔ arrival.2.beacon = some info.beacon ∧
      arrival.2.senderId = id ∧ arrival.1.now = info.lastSeen := by
  unfold sighting
  rw [Option.map_eq_some_iff]
  constructor
  · rintro ⟨beacon, hbeacon, heq⟩
    cases heq
    exact ⟨hbeacon, rfl, rfl⟩
  · rintro ⟨hbeacon, rfl, htime⟩
    exact ⟨info.beacon, hbeacon, by rw [htime]⟩

/-- A known gateway sent the beacon that it is known by. -/
lemma exists_of_latest (h : Dict.latest sighting id packets = some info) :
    ∃ arrival ∈ packets, arrival.2.senderId = id ∧ arrival.2.beacon ≠ none ∧
      arrival.1.now = info.lastSeen := by
  obtain ⟨pre, arrival, post, rfl, hsight, _⟩ := Dict.latest_eq_some_iff.mp h
  obtain ⟨hbeacon, hsender, htime⟩ := sighting_eq_some_iff.mp hsight
  refine ⟨arrival, List.mem_append_right pre List.mem_cons_self, hsender, ?_, htime⟩
  rw [hbeacon]
  exact Option.some_ne_none _

/-- A node that sent a beacon is known, and was seen no earlier, if the clock does not run
backwards.

**Proof sketch.** There is a last beacon of the node (`Dict.latest_eq_some_iff`). The packet is this
one or comes before it, so its time is not later. -/
lemma exists_latest (hclock : packets.Pairwise fun a b => a.1.now ≤ b.1.now)
    (hmem : arrival ∈ packets) (hbeacon : arrival.2.beacon ≠ none) :
    ∃ info, Dict.latest sighting arrival.2.senderId packets = some info ∧
      arrival.1.now ≤ info.lastSeen := by
  obtain ⟨beacon, hbeacon⟩ := Option.ne_none_iff_exists'.mp hbeacon
  have hsight : sighting arrival = some (arrival.2.senderId, ⟨beacon, arrival.1.now⟩) :=
    sighting_eq_some_iff.mpr ⟨hbeacon, rfl, rfl⟩
  cases hlatest : Dict.latest sighting arrival.2.senderId packets with
  | none => exact absurd hsight (Dict.latest_eq_none_iff.mp hlatest arrival hmem _)
  | some info =>
    refine ⟨info, rfl, ?_⟩
    obtain ⟨pre, last, post, rfl, hlast, hpost⟩ := Dict.latest_eq_some_iff.mp hlatest
    obtain ⟨_, _, htime⟩ := sighting_eq_some_iff.mp hlast
    rw [← htime]
    rcases List.mem_append.mp hmem with hpre | htail
    · exact (List.pairwise_append.mp hclock).2.2 arrival hpre last List.mem_cons_self
    · rcases List.mem_cons.mp htail with rfl | hlater
      · exact le_refl _
      · exact absurd hsight (hpost arrival hlater _)

end Sightings

end Client

/-! ## What a client knows -/

section Books

open Client

/-- What a client knows of a gateway is its last beacon. -/
lemma get?_discoveredGateways (S : Solders) (gatewayId : Option String) (autoFlush : Bool)
    (packets : List Arrival) (id : String) :
    ((Client.new gatewayId autoFlush).afterPackets S packets).discoveredGateways.get? id =
      Dict.latest sighting id packets := by
  obtain ⟨hgateways, _⟩ := books_afterPackets (S := S) (Client.new gatewayId autoFlush) packets
  rw [hgateways, Dict.get?_foldl_assign]
  exact Option.or_none

/-- **What a client knows of a node is what the node said last.** After any packets of any nodes, in
any order: of each gateway its last beacon, of each node the last address it shared, under each
message id the last balance reported, and the last blockhash, no matter what other packets came in
between.

**Proof sketch.** Each packet writes at most one entry to each book (`books_afterPackets`), so what
is found under a key is the last entry that was written for it. -/
theorem client_books (S : Solders) (gatewayId : Option String) (autoFlush : Bool)
    (packets : List Arrival) :
    let c := (Client.new gatewayId autoFlush).afterPackets S packets
    (∀ id, c.discoveredGateways.get? id = Dict.latest sighting id packets) ∧
      (∀ id, c.receivedAddresses.get? id = Dict.latest (sharing S) id packets) ∧
      (∀ msgId, c.balances.get? msgId = Dict.latest (reporting S) msgId packets) ∧
      c.blockhash = (packets.filterMap fun arrival => arrival.2.blockhash).getLast? := by
  obtain ⟨_, haddresses, hbalances, hblockhash⟩ :=
    books_afterPackets (S := S) (Client.new gatewayId autoFlush) packets
  dsimp only
  rw [haddresses, hbalances, hblockhash]
  refine ⟨get?_discoveredGateways S gatewayId autoFlush packets, fun id => ?_, fun msgId => ?_,
    Option.or_none⟩
  · rw [Dict.get?_foldl_assign]
    exact Option.or_none
  · rw [Dict.get?_foldl_assign]
    exact Option.or_none

/-- **Which gateways a client takes for present.** After any packets, with a clock that does not run
backwards: the gateway is the configured one, or the first node with a name that sent a beacon; it
is online exactly if one of its beacons is not too old; the gateway that is discovered has a name,
and one of its beacons came no earlier than any other beacon; and none is discovered only if there
was no beacon, or one of a node without a name that came no earlier than any other.

**Proof sketch.** The gateway is `named_gatewayId_afterPackets`. Whether it is online, and which is
discovered, is read off the beacon that each known gateway is known by, which is its last one
(`get?_discoveredGateways`), and with such a clock the last one is the latest (`exists_latest`). -/
theorem gateway_presence (gatewayId : Option String) (autoFlush : Bool)
    {packets : List Arrival} (hclock : packets.Pairwise fun a b => a.1.now ≤ b.1.now) :
    let c := (Client.new gatewayId autoFlush).afterPackets S packets
    (named c.gatewayId = (named gatewayId).or
      (((packets.filterMap sighting).map Prod.fst).find? fun id => decide (id ≠ ""))) ∧
      (∀ now maxStaleSeconds, c.isGatewayOnline now maxStaleSeconds = true ↔
        ∃ id, named c.gatewayId = some id ∧ ∃ arrival ∈ packets,
          arrival.2.senderId = id ∧ arrival.2.beacon ≠ none ∧
            now - arrival.1.now < maxStaleSeconds) ∧
      (∀ id, c.discoverGateway.1 = some id → id ≠ "" ∧ ∃ arrival ∈ packets,
        arrival.2.senderId = id ∧ arrival.2.beacon ≠ none ∧
          ∀ other ∈ packets, other.2.beacon ≠ none → other.1.now ≤ arrival.1.now) ∧
      (c.discoverGateway.1 = none → (∀ arrival ∈ packets, arrival.2.beacon = none) ∨
        ∃ arrival ∈ packets, arrival.2.senderId = "" ∧ arrival.2.beacon ≠ none ∧
          ∀ other ∈ packets, other.2.beacon ≠ none → other.1.now ≤ arrival.1.now) := by
  have hbooks := get?_discoveredGateways S gatewayId autoFlush packets
  have honline (now maxStaleSeconds : ℚ) := @isGatewayOnline_iff
    ((Client.new gatewayId autoFlush).afterPackets S packets) now maxStaleSeconds
  have hnamed := named_gatewayId_afterPackets (S := S) (Client.new gatewayId autoFlush) packets
  -- what is discovered, if there was a beacon
  have hbest : ∀ id info, Dict.latest sighting id packets = some info →
      ∃ bestId, ((Client.new gatewayId autoFlush).afterPackets S packets).discoverGateway.1 =
        named (some bestId) ∧ ∃ arrival ∈ packets, arrival.2.senderId = bestId ∧
          arrival.2.beacon ≠ none ∧
            ∀ other ∈ packets, other.2.beacon ≠ none → other.1.now ≤ arrival.1.now := by
    intro id info hinfo
    rw [← hbooks] at hinfo
    obtain ⟨bestId, best, hdiscover, hget, hlast⟩ := exists_discoverGateway hinfo
    rw [hbooks] at hget
    obtain ⟨arrival, hmem, hsender, hbeacon, htime⟩ := exists_of_latest hget
    refine ⟨bestId, hdiscover, arrival, hmem, hsender, hbeacon, fun other hother hbeacon' => ?_⟩
    obtain ⟨info', hinfo', htime'⟩ := exists_latest hclock hother hbeacon'
    rw [← hbooks] at hinfo'
    exact htime'.trans ((hlast _ info' hinfo').trans htime.ge)
  dsimp only
  refine ⟨hnamed, fun now maxStaleSeconds => (honline now maxStaleSeconds).trans ?_, ?_, ?_⟩
  · constructor
    · rintro ⟨id, info, hgateway, hinfo, hfresh⟩
      rw [hbooks] at hinfo
      obtain ⟨arrival, hmem, hsender, hbeacon, htime⟩ := exists_of_latest hinfo
      rw [← htime] at hfresh
      exact ⟨id, hgateway, arrival, hmem, hsender, hbeacon, hfresh⟩
    · rintro ⟨_, hgateway, arrival, hmem, rfl, hbeacon, hfresh⟩
      obtain ⟨info, hinfo, htime⟩ := exists_latest hclock hmem hbeacon
      rw [← hbooks] at hinfo
      exact ⟨_, info, hgateway, hinfo, by linarith⟩
  · intro id hid
    obtain ⟨hname, info, hinfo⟩ := exists_of_discoverGateway hid
    rw [hbooks] at hinfo
    obtain ⟨bestId, hdiscover, harrival⟩ := hbest _ info hinfo
    obtain ⟨hsame, _⟩ := Option.filter_eq_some_iff.mp (hdiscover.symm.trans hid)
    cases hsame
    exact ⟨hname, harrival⟩
  · intro hnone
    by_contra hcontra
    obtain ⟨hsome, hunnamed⟩ := not_or.mp hcontra
    push Not at hsome
    obtain ⟨arrival, hmem, hbeacon⟩ := hsome
    obtain ⟨info, hinfo, _⟩ := exists_latest hclock hmem hbeacon
    obtain ⟨bestId, hdiscover, harrival⟩ := hbest _ info hinfo
    -- a gateway with a name would have been returned
    obtain rfl : bestId = "" := by
      by_contra hname
      rw [hnone, named, Option.filter_some, if_pos (decide_eq_true hname)] at hdiscover
      cases hdiscover
    exact hunnamed harrival

/-- A beacon that arrives at time zero. -/
def sampleSighting : Arrival :=
  (⟨0, false⟩, .ofFrame (frameBytes MsgType.gatewayBeacon 1 0 1 [1, 29, 0, 0, 0, 5]) "!gw")

/-- The same beacon from a node without a name. -/
def unnamedSighting : Arrival := (⟨0, false⟩, { sampleSighting.2 with fromId := some none })

/-- The node with a name becomes the gateway, also if one without a name came first, and is online
for three minutes. -/
theorem gateway_presence_two_beacons :
    ((Client.new none false).afterPackets sampleSolders
        [unnamedSighting, sampleSighting]).gatewayId = some "!gw" ∧
      ((Client.new none false).afterPackets sampleSolders
        [unnamedSighting, sampleSighting]).isGatewayOnline 100 180 = true := by
  have hclock : [unnamedSighting, sampleSighting].Pairwise fun a b => a.1.now ≤ b.1.now := by
    simp [unnamedSighting, sampleSighting]
  obtain ⟨hgateway, honline, _⟩ := gateway_presence (S := sampleSolders) none false hclock
  have hbeacon : sampleSighting.2.beacon = some ⟨1, 29, 5, []⟩ := by decide +kernel
  have hsight : sighting sampleSighting = some ("!gw", ⟨⟨1, 29, 5, []⟩, 0⟩) :=
    sighting_eq_some_iff.mpr ⟨hbeacon, rfl, rfl⟩
  have hbeacon' : unnamedSighting.2.beacon = some ⟨1, 29, 5, []⟩ := by decide +kernel
  have hunnamed : sighting unnamedSighting = some ("", ⟨⟨1, 29, 5, []⟩, 0⟩) :=
    sighting_eq_some_iff.mpr ⟨hbeacon', rfl, rfl⟩
  have hfirst : (([unnamedSighting, sampleSighting].filterMap sighting).map Prod.fst).find?
      (fun id => decide (id ≠ "")) = some "!gw" := by
    simp [hsight, hunnamed]
  rw [hfirst] at hgateway
  obtain ⟨hid, _⟩ := Option.filter_eq_some_iff.mp hgateway
  refine ⟨hid, (honline 100 180).mpr ⟨"!gw", hgateway, sampleSighting,
    List.mem_cons_of_mem _ List.mem_cons_self, rfl, ?_, ?_⟩⟩
  · rw [hbeacon]
    exact Option.some_ne_none _
  · norm_num [sampleSighting]

end Books

end SolMesh
