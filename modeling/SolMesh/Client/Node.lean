import SolMesh.Foundations.Focus
import SolMesh.Mesh.Interface
import SolMesh.Gateway.Solana
import SolMesh.Client.Results

set_option relaxedAutoImplicit false
set_option autoImplicit false

/-!
# The whole client

Besides results and acknowledgements, a client keeps what gateways tell it: balances, a recent
blockhash, their beacons; and the addresses that other nodes share. Each handler writes its own
part of the client and leaves the others alone.

## Main definitions

* `SolMesh.Client` — the state of a whole client.
* `SolMesh.Client.handleBalanceResp`, `SolMesh.Client.handleBlockhashResp`,
  `SolMesh.Client.handleGatewayBeacon`, `SolMesh.Client.handleAddrShare` — the handlers.
* `SolMesh.clientHandlers`, `SolMesh.Client.receive` — dispatching a packet.
* `SolMesh.Packet.balance`, `SolMesh.Packet.blockhash`, `SolMesh.Packet.beacon`,
  `SolMesh.Packet.address` — what a packet tells a client.

## Main results

* `SolMesh.Client.receive_eq` — what a packet does to each part of the client.
-/

namespace SolMesh

open Py Text

variable {S : Solders}

/-! ## State -/

/-- A balance that a gateway reported: the amount in base units and in units of the asset. For a
token the field `sol` is the amount divided as if it were lamports. -/
structure BalanceInfo where
  pubkey : String
  lamports : ℕ
  sol : ℚ
  token : Option (String × String × ℕ × ℚ)
  deriving DecidableEq

/-- An address that a node shared. -/
structure AddressInfo where
  pubkey : String
  label : Text
  deriving DecidableEq

/-- The latest beacon of a gateway, and when it was received. -/
structure GatewayInfo where
  beacon : GatewayBeacon
  lastSeen : ℚ

/-- The state of a whole client. -/
structure Client where
  node : ClientNode
  gatewayId : Option String
  balances : Dict ℕ BalanceInfo
  receivedAddresses : Dict String AddressInfo
  discoveredGateways : Dict String GatewayInfo
  blockhash : Option Bytes
  /-- Whether pending intents are flushed when a beacon arrives. -/
  autoFlush : Bool
  /-- How many flushes were started in the background. -/
  flushes : ℕ

/-- What one run of a handler finds outside the client: the clock, and whether a store is configured
that has pending intents. -/
structure ClientMoment where
  now : ℚ
  pendingIntents : Bool

namespace Client

/-- A client that was just started. -/
def new (gatewayId : Option String) (autoFlush : Bool) : Client :=
  ⟨ClientNode.new, gatewayId, ∅, ∅, ∅, none, autoFlush, 0⟩

/-- Results and acknowledgements are a part of the client. -/
def nodePart : Part Client ClientNode where
  get c := c.node
  set n c := { c with node := n }
  get_set _ _ := rfl
  set_get _ := rfl
  set_set _ _ _ := rfl

/-- An id that is a name; an empty one counts as none. -/
def named (id : Option String) : Option String := id.filter fun id => decide (id ≠ "")

/-- A gateway is configured. -/
def hasGateway (c : Client) : Bool := (named c.gatewayId).isSome

/-! ## Handlers -/

/-- What is remembered of a balance. -/
def balanceInfo (S : Solders) (pubkey : Pubkey) (mint : Option Pubkey) (amount : ℕ) :
    BalanceInfo where
  pubkey := S.pubkeyStr pubkey
  lamports := amount
  sol := amount / lamportsPerSol
  token := mint.map fun mint =>
    let mintStr := S.pubkeyStr mint
    let (symbol, decimals) := (knownTokens.get? mintStr).getD ("TOKEN", 6)
    (mintStr, symbol, decimals, amount / 10 ^ decimals)

/-- Process a balance response from the gateway. -/
def handleBalanceResp (S : Solders) (_env : ClientMoment) (header : SolMeshHeader)
    (payload : Bytes) (_senderId : String) : Method Client Unit := do
  let resp ← ofExcept (decodeBalanceResp payload)
  let pubkey ← ofExcept (Pubkey.fromBytes resp.pubkey)
  if resp.mint ≠ [] then
    let mint ← ofExcept (Pubkey.fromBytes resp.mint)
    modify fun c => { c with
      balances := c.balances.set header.msgId.toNat (balanceInfo S pubkey (some mint) resp.amount) }
  else
    modify fun c => { c with
      balances := c.balances.set header.msgId.toNat (balanceInfo S pubkey none resp.lamports) }

/-- Process a blockhash response from the gateway. -/
def handleBlockhashResp (_env : ClientMoment) (_header : SolMeshHeader) (payload : Bytes)
    (_senderId : String) : Method Client Unit := do
  let resp ← ofExcept (decodeBlockhashResp payload)
  modify fun c => { c with blockhash := some resp.blockhash }

/-- Process a gateway beacon: remember it, take its sender for the gateway if none is configured,
and start a flush if there is something to flush. The id of a sender without a name is `None`, and
none is configured then. -/
def handleGatewayBeacon (env : ClientMoment) (_header : SolMeshHeader) (payload : Bytes)
    (senderId : String) : Method Client Unit := do
  let beacon ← ofExcept (decodeGatewayBeacon payload)
  modify fun c => { c with
    discoveredGateways := c.discoveredGateways.set senderId ⟨beacon, env.now⟩
    gatewayId := if c.hasGateway then c.gatewayId else named (some senderId) }
  modify fun c => { c with
    flushes := if c.autoFlush && env.pendingIntents then c.flushes + 1 else c.flushes }

/-- Store the address that a node shares. -/
def handleAddrShare (S : Solders) (_env : ClientMoment) (_header : SolMeshHeader)
    (payload : Bytes) (senderId : String) : Method Client Unit := do
  let data ← ofExcept (decodeAddrShare payload)
  let pubkey ← ofExcept (Pubkey.fromBytes data.pubkey)
  modify fun c => { c with
    receivedAddresses := c.receivedAddresses.set senderId ⟨S.pubkeyStr pubkey, data.label⟩ }

end Client

/-- The handlers that a client registers when it connects. -/
def clientHandlers (S : Solders) : Handlers ClientMoment Client :=
  let handlers := registerHandler ∅ MsgType.ack fun _ _ payload _ =>
    focus Client.nodePart (handleAck payload)
  let handlers := registerHandler handlers MsgType.nack fun _ _ payload _ =>
    focus Client.nodePart (handleNack payload)
  let handlers := registerHandler handlers MsgType.txResult fun _ _ payload _ =>
    focus Client.nodePart (handleTxResult payload)
  let handlers := registerHandler handlers MsgType.balanceResp (Client.handleBalanceResp S)
  let handlers := registerHandler handlers MsgType.blockhashResp Client.handleBlockhashResp
  let handlers := registerHandler handlers MsgType.gatewayBeacon Client.handleGatewayBeacon
  registerHandler handlers MsgType.addrShare (Client.handleAddrShare S)

/-- The client after a packet was received. -/
def Client.receive (S : Solders) (env : ClientMoment) (packet : Packet) (c : Client) : Client :=
  afterReceive (clientHandlers S) env packet c

/-! ## What a packet tells -/

namespace Client

/-- The key of a decoded field, if the field is there. -/
def keyOf (bs : Bytes) : Option Pubkey := if h : bs.length = 32 then some ⟨bs, h⟩ else none

/-- The balance that a payload tells. -/
def balanceOf (S : Solders) (payload : Bytes) : Option BalanceInfo := do
  let resp ← (decodeBalanceResp payload).toOption
  let pubkey ← keyOf resp.pubkey
  return balanceInfo S pubkey (keyOf resp.mint) resp.amount

/-- The blockhash that a payload tells. -/
def blockhashOf (payload : Bytes) : Option Bytes :=
  (decodeBlockhashResp payload).toOption.map BlockhashResp.blockhash

/-- The address that a payload tells. -/
def addressOf (S : Solders) (payload : Bytes) : Option AddressInfo := do
  let data ← (decodeAddrShare payload).toOption
  let pubkey ← keyOf data.pubkey
  return ⟨S.pubkeyStr pubkey, data.label⟩

end Client

namespace Packet

/-- The payload of a packet of a message type, with the id of the message. -/
def ofType (msgType : UInt8) (packet : Packet) : Option (UInt16 × Bytes) :=
  match packet.message with
  | none => none
  | some (header, payload) =>
    if header.msgType = msgType then some (header.msgId, payload) else none

/-- The balance that a packet tells, under the id of the message. -/
def balance (S : Solders) (packet : Packet) : Option (ℕ × BalanceInfo) := do
  let (msgId, payload) ← packet.ofType MsgType.balanceResp
  let info ← Client.balanceOf S payload
  return (msgId.toNat, info)

/-- The blockhash that a packet tells. -/
def blockhash (packet : Packet) : Option Bytes := do
  let (_, payload) ← packet.ofType MsgType.blockhashResp
  Client.blockhashOf payload

/-- The beacon that a packet brings. -/
def beacon (packet : Packet) : Option GatewayBeacon := do
  let (_, payload) ← packet.ofType MsgType.gatewayBeacon
  (decodeGatewayBeacon payload).toOption

/-- The address that a packet tells. -/
def address (S : Solders) (packet : Packet) : Option AddressInfo := do
  let (_, payload) ← packet.ofType MsgType.addrShare
  Client.addressOf S payload

/-- A dropped packet has no message of any type. -/
lemma ofType_of_none {packet : Packet} (h : packet.message = none) (msgType : UInt8) :
    packet.ofType msgType = none := by
  rw [ofType, h]

variable {packet : Packet} {header : SolMeshHeader} {payload : Bytes}

/-- The message of a packet is of one type. -/
lemma ofType_of_some (h : packet.message = some (header, payload)) :
    packet.ofType header.msgType = some (header.msgId, payload) ∧
      ∀ msgType, msgType ≠ header.msgType → packet.ofType msgType = none := by
  constructor
  · rw [ofType, h]
    exact if_pos rfl
  · intro msgType hne
    rw [ofType, h]
    exact if_neg hne.symm

end Packet

/-! ## What a packet does -/

namespace Client

variable {env : ClientMoment} {header : SolMeshHeader} {payload : Bytes} {senderId : String}

/-- The key that is read from 32 bytes. -/
lemma fromBytes_eq_keyOf {bs : Bytes} (h : bs.length = 32) :
    ∃ key : Pubkey, key.val = bs ∧ Pubkey.fromBytes bs = .ok key ∧ keyOf bs = some key :=
  ⟨⟨bs, h⟩, rfl, Pubkey.fromBytes_of_length h, dif_pos h⟩

/-- What a decoded `BALANCE_RESP` looks like. -/
lemma lengths_of_decodeBalanceResp {resp : BalanceResp}
    (h : decodeBalanceResp payload = .ok resp) :
    resp.pubkey.length = 32 ∧ (resp.mint = [] ∨ resp.mint.length = 32) ∧
      resp.lamports = resp.amount := by
  unfold decodeBalanceResp at h
  split_ifs at h with hshort hmint
  · cases h
    exact ⟨Bytes.length_slice (by omega), Or.inr (Bytes.length_slice hmint), rfl⟩
  · cases h
    exact ⟨Bytes.length_slice (by omega), Or.inl rfl, rfl⟩

/-- The handler of balances remembers the balance that the payload tells.

**Proof sketch.** A payload that is decoded has a key of 32 bytes, and a mint of none or of 32 bytes
(`lengths_of_decodeBalanceResp`), so the keys are made without an exception, and the amount is
there. -/
lemma stateAfter_handleBalanceResp (c : Client) :
    stateAfter (handleBalanceResp S env header payload senderId) c = { c with
      balances := match balanceOf S payload with
        | none => c.balances
        | some info => c.balances.set header.msgId.toNat info } := by
  unfold handleBalanceResp balanceOf
  cases hresp : decodeBalanceResp payload with
  | error e => exact stateAfter_bind_error (run_ofExcept_error _ _) _
  | ok resp =>
    obtain ⟨hlen, hmint, hamount⟩ := lengths_of_decodeBalanceResp hresp
    obtain ⟨pubkey, _, hfrom, hkey⟩ := fromBytes_eq_keyOf hlen
    rw [stateAfter_bind_ok (run_ofExcept_ok _ _), hfrom,
      stateAfter_bind_ok (run_ofExcept_ok _ _)]
    simp only [Except.toOption, Option.bind_eq_bind, Option.bind_some, hkey]
    rcases hmint with hnil | hlen'
    · have hnone : keyOf resp.mint = none := by
        rw [hnil]
        rfl
      rw [if_neg (not_not.mpr hnil), hnone, hamount]
      rfl
    · obtain ⟨mint, _, hfrom', hkey'⟩ := fromBytes_eq_keyOf hlen'
      have hne : resp.mint ≠ [] := by
        intro hnil
        rw [hnil] at hlen'
        cases hlen'
      rw [if_pos hne, hfrom', stateAfter_bind_ok (run_ofExcept_ok _ _), hkey']
      rfl

/-- The handler of blockhashes remembers the blockhash that the payload tells. -/
lemma stateAfter_handleBlockhashResp (c : Client) :
    stateAfter (handleBlockhashResp env header payload senderId) c = { c with
      blockhash := match blockhashOf payload with
        | none => c.blockhash
        | some blockhash => some blockhash } := by
  unfold handleBlockhashResp blockhashOf
  cases decodeBlockhashResp payload with
  | error e => exact stateAfter_bind_error (run_ofExcept_error _ _) _
  | ok resp => exact stateAfter_bind_ok (run_ofExcept_ok _ _) _

/-- The handler of beacons remembers the beacon. -/
lemma stateAfter_handleGatewayBeacon (c : Client) :
    stateAfter (handleGatewayBeacon env header payload senderId) c =
      match (decodeGatewayBeacon payload).toOption with
      | none => c
      | some beacon => { c with
          discoveredGateways := c.discoveredGateways.set senderId ⟨beacon, env.now⟩
          gatewayId := if c.hasGateway then c.gatewayId else named (some senderId)
          flushes := if c.autoFlush && env.pendingIntents then c.flushes + 1
            else c.flushes } := by
  unfold handleGatewayBeacon
  cases decodeGatewayBeacon payload with
  | error e => exact stateAfter_bind_error (run_ofExcept_error _ _) _
  | ok beacon => exact stateAfter_bind_ok (run_ofExcept_ok _ _) _

/-- The handler of shared addresses remembers the address. -/
lemma stateAfter_handleAddrShare (c : Client) :
    stateAfter (handleAddrShare S env header payload senderId) c = { c with
      receivedAddresses := match addressOf S payload with
        | none => c.receivedAddresses
        | some info => c.receivedAddresses.set senderId info } := by
  unfold handleAddrShare addressOf
  cases hdata : decodeAddrShare payload with
  | error e => exact stateAfter_bind_error (run_ofExcept_error _ _) _
  | ok data =>
    obtain ⟨pubkey, _, hfrom, hkey⟩ := fromBytes_eq_keyOf (length_of_decodeAddrShare hdata)
    rw [stateAfter_bind_ok (run_ofExcept_ok _ _), hfrom,
      stateAfter_bind_ok (run_ofExcept_ok _ _)]
    simp only [Except.toOption, Option.bind_eq_bind, Option.bind_some, hkey]
    rfl

/-- Each of the message types that a client takes has its handler. -/
lemma handlersOf_clientHandlers (S : Solders) :
    handlersOf (clientHandlers S) MsgType.ack =
      [fun _ _ payload _ => focus nodePart (handleAck payload)] ∧
    handlersOf (clientHandlers S) MsgType.nack =
      [fun _ _ payload _ => focus nodePart (handleNack payload)] ∧
    handlersOf (clientHandlers S) MsgType.txResult =
      [fun _ _ payload _ => focus nodePart (handleTxResult payload)] ∧
    handlersOf (clientHandlers S) MsgType.balanceResp = [handleBalanceResp S] ∧
    handlersOf (clientHandlers S) MsgType.blockhashResp = [handleBlockhashResp] ∧
    handlersOf (clientHandlers S) MsgType.gatewayBeacon = [handleGatewayBeacon] ∧
    handlersOf (clientHandlers S) MsgType.addrShare = [handleAddrShare S] :=
  ⟨rfl, rfl, rfl, rfl, rfl, rfl, rfl⟩

/-- The message types that a client takes. -/
def takenTypes : List UInt8 :=
  [MsgType.ack, MsgType.nack, MsgType.txResult, MsgType.balanceResp, MsgType.blockhashResp,
    MsgType.gatewayBeacon, MsgType.addrShare]

/-- No other type has a handler. -/
lemma handlersOf_clientHandlers_of_not_mem (S : Solders) {msgType : UInt8}
    (h : msgType ∉ takenTypes) : handlersOf (clientHandlers S) msgType = [] := by
  simp only [takenTypes, List.mem_cons, List.not_mem_nil, or_false, not_or] at h
  obtain ⟨hack, hnack, hresult, hbalance, hblockhash, hbeacon, haddress⟩ := h
  simp only [clientHandlers, handlersOf_registerHandler, handlersOf_empty, if_neg hack,
    if_neg hnack, if_neg hresult, if_neg hbalance, if_neg hblockhash, if_neg hbeacon,
    if_neg haddress, List.append_nil]

/-- What results and acknowledgements become. -/
def nodeAfter (packet : Packet) (n : ClientNode) : ClientNode :=
  match packet.message with
  | none => n
  | some _ => n.receive (packet.payload.getD [])

/-- Results and acknowledgements are changed by three types of messages. -/
lemma nodeAfter_of_some {packet : Packet} (hmessage : packet.message = some (header, payload))
    (n : ClientNode) :
    nodeAfter packet n = if header.msgType = MsgType.ack then stateAfter (handleAck payload) n
      else if header.msgType = MsgType.nack then stateAfter (handleNack payload) n
      else if header.msgType = MsgType.txResult then stateAfter (handleTxResult payload) n
      else n := by
  have hunpack : unpackMessage (packet.payload.getD []) = .ok (header, payload) := by
    unfold Packet.message at hmessage
    split_ifs at hmessage
    cases hunpack : unpackMessage (packet.payload.getD []) with
    | error e => rw [hunpack] at hmessage; cases hmessage
    | ok message =>
      rw [hunpack] at hmessage
      exact congrArg Except.ok (Option.some.inj hmessage)
  rw [nodeAfter, hmessage]
  dsimp only
  rw [ClientNode.receive, hunpack]

/-- Messages of other types leave them alone. -/
lemma nodeAfter_of_not_mem {packet : Packet} (hmessage : packet.message = some (header, payload))
    (h : header.msgType ∉ [MsgType.ack, MsgType.nack, MsgType.txResult]) (n : ClientNode) :
    nodeAfter packet n = n := by
  simp only [List.mem_cons, List.not_mem_nil, or_false, not_or] at h
  rw [nodeAfter_of_some hmessage, if_neg h.1, if_neg h.2.1, if_neg h.2.2]

/-- A message that concerns results and acknowledgements concerns nothing else. -/
lemma receive_eq_of_node {packet : Packet} (hmessage : packet.message = some (header, payload))
    {handler : Bytes → Method ClientNode Unit}
    (hhandler : handlersOf (clientHandlers S) header.msgType =
      [fun _ _ payload _ => focus nodePart (handler payload)])
    (hnode : ∀ n, nodeAfter packet n = stateAfter (handler payload) n) (c : Client) :
    c.receive S env packet = { c with node := nodeAfter packet c.node } := by
  rw [receive, afterReceive_of_some hmessage, hhandler, hnode]
  exact stateAfter_focus nodePart (handler payload) c

/-- **What a packet does to each part of the client.**

**Proof sketch.** A packet that cannot be read, or of a type that no handler takes, changes nothing.
For each type that is taken, the handlers registered for it run; those of the node part change the
node (`receive_eq_of_node`), and the others one book each. -/
lemma receive_eq (S : Solders) (env : ClientMoment) (packet : Packet) (c : Client) :
    c.receive S env packet =
      { node := nodeAfter packet c.node
        gatewayId := match packet.beacon with
          | none => c.gatewayId
          | some _ => if c.hasGateway then c.gatewayId else named (some packet.senderId)
        balances := match packet.balance S with
          | none => c.balances
          | some (msgId, info) => c.balances.set msgId info
        receivedAddresses := match packet.address S with
          | none => c.receivedAddresses
          | some info => c.receivedAddresses.set packet.senderId info
        discoveredGateways := match packet.beacon with
          | none => c.discoveredGateways
          | some beacon => c.discoveredGateways.set packet.senderId ⟨beacon, env.now⟩
        blockhash := match packet.blockhash with
          | none => c.blockhash
          | some blockhash => some blockhash
        autoFlush := c.autoFlush
        flushes := match packet.beacon with
          | none => c.flushes
          | some _ => if c.autoFlush && env.pendingIntents then c.flushes + 1
            else c.flushes } := by
  unfold Packet.beacon Packet.balance Packet.blockhash Packet.address
  cases hmessage : packet.message with
  | none =>
    rw [receive, afterReceive_of_none hmessage]
    simp only [Packet.ofType_of_none hmessage, Option.bind_eq_bind, Option.bind_none, nodeAfter,
      hmessage]
  | some message =>
    obtain ⟨header, payload⟩ := message
    obtain ⟨hown, hother⟩ := Packet.ofType_of_some hmessage
    obtain ⟨hack, hnack, hresult, hbalance, hblockhash, hbeacon, haddress⟩ :=
      handlersOf_clientHandlers S
    have hnode := nodeAfter_of_some hmessage
    -- packets of a type that the node part does not take
    have hkept := fun h => nodeAfter_of_not_mem hmessage h c.node
    by_cases hnot : header.msgType ∈ takenTypes
    swap
    · have hne : ∀ msgType ∈ takenTypes, packet.ofType msgType = none := fun msgType hmem =>
        hother msgType fun heq => hnot (heq ▸ hmem)
      rw [receive, afterReceive_of_some hmessage, handlersOf_clientHandlers_of_not_mem S hnot,
        hkept fun hmem => hnot (List.mem_append_left _ hmem)]
      simp only [hne MsgType.balanceResp (by decide), hne MsgType.blockhashResp (by decide),
        hne MsgType.gatewayBeacon (by decide), hne MsgType.addrShare (by decide),
        Option.bind_eq_bind, Option.bind_none, List.foldl_nil]
    simp only [takenTypes, List.mem_cons, List.not_mem_nil, or_false] at hnot
    rcases hnot with h | h | h | h | h | h | h <;> rw [h] at hnode hown hother hkept
    · rw [receive_eq_of_node hmessage (by rw [h]; exact hack) hnode]
      simp only [hother MsgType.balanceResp (by decide), hother MsgType.blockhashResp (by decide),
        hother MsgType.gatewayBeacon (by decide), hother MsgType.addrShare (by decide),
        Option.bind_eq_bind, Option.bind_none]
    · rw [receive_eq_of_node hmessage (by rw [h]; exact hnack) hnode]
      simp only [hother MsgType.balanceResp (by decide), hother MsgType.blockhashResp (by decide),
        hother MsgType.gatewayBeacon (by decide), hother MsgType.addrShare (by decide),
        Option.bind_eq_bind, Option.bind_none]
    · rw [receive_eq_of_node hmessage (by rw [h]; exact hresult) hnode]
      simp only [hother MsgType.balanceResp (by decide), hother MsgType.blockhashResp (by decide),
        hother MsgType.gatewayBeacon (by decide), hother MsgType.addrShare (by decide),
        Option.bind_eq_bind, Option.bind_none]
    · rw [receive, afterReceive_of_some hmessage, h, hbalance, List.foldl_cons, List.foldl_nil,
        stateAfter_handleBalanceResp, hkept (by decide)]
      simp only [hown, hother MsgType.blockhashResp (by decide),
        hother MsgType.gatewayBeacon (by decide), hother MsgType.addrShare (by decide),
        Option.bind_eq_bind, Option.bind_none, Option.bind_some]
      cases balanceOf S payload <;> rfl
    · rw [receive, afterReceive_of_some hmessage, h, hblockhash, List.foldl_cons, List.foldl_nil,
        stateAfter_handleBlockhashResp, hkept (by decide)]
      simp only [hown, hother MsgType.balanceResp (by decide),
        hother MsgType.gatewayBeacon (by decide), hother MsgType.addrShare (by decide),
        Option.bind_eq_bind, Option.bind_none, Option.bind_some]
    · rw [receive, afterReceive_of_some hmessage, h, hbeacon, List.foldl_cons, List.foldl_nil,
        stateAfter_handleGatewayBeacon, hkept (by decide)]
      simp only [hown, hother MsgType.balanceResp (by decide),
        hother MsgType.blockhashResp (by decide), hother MsgType.addrShare (by decide),
        Option.bind_eq_bind, Option.bind_none, Option.bind_some]
      cases (decodeGatewayBeacon payload).toOption <;> rfl
    · rw [receive, afterReceive_of_some hmessage, h, haddress, List.foldl_cons, List.foldl_nil,
        stateAfter_handleAddrShare, hkept (by decide)]
      simp only [hown, hother MsgType.balanceResp (by decide),
        hother MsgType.blockhashResp (by decide), hother MsgType.gatewayBeacon (by decide),
        Option.bind_eq_bind, Option.bind_none, Option.bind_some]

end Client

end SolMesh
