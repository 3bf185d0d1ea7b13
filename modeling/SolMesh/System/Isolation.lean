import SolMesh.Foundations.Noninterference
import SolMesh.Gateway.Memory
import SolMesh.System.RelayNet

set_option relaxedAutoImplicit false
set_option autoImplicit false

/-!
# Nodes do not disturb each other

A gateway serves many parties, nodes on the mesh and callers over HTTP, with one rate limiter and
one reassembler. What it does for one of them does not depend on what the others send.

## Main definitions

* `SolMesh.GatewayNode.LooksAlike` — two gateways look alike to a party.
* `SolMesh.Conduct` — all that a gateway does about an input.
* `SolMesh.GatewayInput.isOf` — the input is one of a party.

## Main results

* `SolMesh.blind_handler`, `SolMesh.blind_serve` — what is done for a party does not depend on what
  the party cannot see.
* `SolMesh.parties_isolated` — what is done for a party depends on the inputs of this party only.
-/

namespace SolMesh

open Py Text Conc

/-! ## Gateways that look alike -/

section Alike

variable {F : Type} {S : Solders}

/-- The buffer under a key, if it survives a sweep at these clock readings. -/
def ChunkReassembler.swept (r : ChunkReassembler) (clock : Clock) (key : String × ℕ) :
    Option ReassemblyBuffer := (r.cleanupExpired clock).2.buffers.get? key

/-- **Two gateways look alike to a party**: they have the same setup, the same bucket for the party,
and the same of its buffers as far as these survive the sweeps at the clock readings. -/
structure GatewayNode.LooksAlike (party : String) (clocks : List Clock)
    (g g' : GatewayNode F S) : Prop where
  config : g'.config = g.config
  hotKeypair : g'.hotKeypair = g.hotKeypair
  burst : g'.rateLimiter.burst = g.rateLimiter.burst
  refillRate : g'.rateLimiter.refillRate = g.rateLimiter.refillRate
  bucket : g'.rateLimiter.buckets.get? party = g.rateLimiter.buckets.get? party
  swept : ∀ clock ∈ clocks, ∀ msgId,
    g'.reassembler.swept clock (party, msgId) = g.reassembler.swept clock (party, msgId)

/-- Two gateways that look alike to a party, and did the same since they had these records. -/
structure GatewayNode.InStep (party : String) (clocks : List Clock)
    (before before' : List GatewayEvent) (g g' : GatewayNode F S) : Prop
    extends g.LooksAlike party clocks g' where
  events : ∃ new, g.events = before ++ new ∧ g'.events = before' ++ new

variable {party : String} {clocks : List Clock} {before before' : List GatewayEvent}
  {g g' : GatewayNode F S} {env : Moment S}

/-- Both may record the same. -/
lemma GatewayNode.InStep.record (h : g.InStep party clocks before before' g')
    (calls : List GatewayEvent) :
    (g.record calls).InStep party clocks before before' (g'.record calls) := by
  obtain ⟨new, hnew, hnew'⟩ := h.events
  refine ⟨⟨h.config, h.hotKeypair, h.burst, h.refillRate, h.bucket, h.swept⟩, new ++ calls, ?_, ?_⟩
  · rw [GatewayNode.record_events, hnew, List.append_assoc]
  · rw [GatewayNode.record_events, hnew', List.append_assoc]

/-- The rate limiter decides the same. -/
lemma GatewayNode.LooksAlike.admits (h : g.LooksAlike party clocks g') :
    g'.admits env party = g.admits env party := by
  unfold GatewayNode.admits
  rw [(RateLimiter.isAllowed_eq _ _ _ _).1, (RateLimiter.isAllowed_eq _ _ _ _).1, h.bucket,
    h.burst, h.refillRate]

/-- And they look alike after that. -/
lemma GatewayNode.InStep.limited (h : g.InStep party clocks before before' g') :
    (g.limited env party).InStep party clocks before before' (g'.limited env party) := by
  refine ⟨⟨h.config, h.hotKeypair, h.burst, h.refillRate, ?_, h.swept⟩, h.events⟩
  unfold GatewayNode.limited
  rw [(RateLimiter.isAllowed_eq _ _ _ _).2, (RateLimiter.isAllowed_eq _ _ _ _).2, h.bucket,
    h.burst, h.refillRate]

/-- What becomes of a buffer that a chunk was added to: the answer, and what is kept. -/
def ReassemblyBuffer.settle (buf : ReassemblyBuffer) :
    Except Exn (Option Bytes) × Option ReassemblyBuffer :=
  if buf.isComplete then
    match buf.reassemble with
    | .ok data => (.ok (some data), none)
    | .error e => (.error e, some buf)
  else (.ok none, some buf)

/-- What becomes of a chunk depends only on the buffer that it is added to.

**Proof sketch.** The buffer that the chunk is added to is complete or not, and if it is, it can be
put together or not; in each case the call answers, and keeps or drops the buffer, as `settle` says.
-/
lemma receiveChunk_own (r : ChunkReassembler) (clock : Clock) (party : String)
    (msgId chunkNum totalChunks : ℕ) (payload : Bytes) :
    let result := r.receiveChunk clock party msgId chunkNum totalChunks payload
    (result.1, result.2.buffers.get? (party, msgId)) =
      ((bufferFor r clock party msgId totalChunks).addChunk chunkNum payload).settle := by
  unfold ReassemblyBuffer.settle
  dsimp only
  cases hcomplete :
      ((bufferFor r clock party msgId totalChunks).addChunk chunkNum payload).isComplete with
  | false =>
    obtain ⟨hanswer, hbuffer⟩ := receiveChunk_incomplete r clock party msgId chunkNum totalChunks
      payload hcomplete
    rw [hanswer, hbuffer]
    rfl
  | true =>
    rw [if_pos rfl]
    cases hdata :
        ((bufferFor r clock party msgId totalChunks).addChunk chunkNum payload).reassemble with
    | ok data =>
      obtain ⟨hanswer, hbuffer⟩ := receiveChunk_complete r clock party msgId chunkNum totalChunks
        payload hcomplete hdata
      rw [hanswer, hbuffer]
    | error e =>
      obtain ⟨hanswer, hbuffer⟩ := receiveChunk_raises r clock party msgId chunkNum totalChunks
        payload hcomplete hdata
      rw [hanswer, hbuffer]

/-- **The reassembler makes the same of a chunk**, and keeps the same buffers of the party.

**Proof sketch.** What the call returns and what it leaves under its own key depend on the buffer it
starts from only (`receiveChunk_own`), which is the same one. Under another key of the party both
reassemblers keep what the sweep leaves. -/
lemma receiveChunk_eq {r r' : ChunkReassembler} {clock : Clock}
    (h : ∀ msgId, r'.swept clock (party, msgId) = r.swept clock (party, msgId))
    (msgId chunkNum totalChunks : ℕ) (payload : Bytes) :
    let result := r.receiveChunk clock party msgId chunkNum totalChunks payload
    let result' := r'.receiveChunk clock party msgId chunkNum totalChunks payload
    result'.1 = result.1 ∧
      ∀ id, result'.2.buffers.get? (party, id) = result.2.buffers.get? (party, id) := by
  have hbuf : bufferFor r' clock party msgId totalChunks =
      bufferFor r clock party msgId totalChunks := by
    unfold bufferFor
    rw [← get?_cleanupExpired, ← get?_cleanupExpired]
    exact congrArg (Option.getD · _) (h msgId)
  have hown := receiveChunk_own r' clock party msgId chunkNum totalChunks payload
  rw [hbuf, ← receiveChunk_own] at hown
  obtain ⟨hanswer, hbuffer⟩ := Prod.ext_iff.mp hown
  refine ⟨hanswer, fun id => ?_⟩
  by_cases hid : id = msgId
  · rw [hid]
    exact hbuffer
  · have hkey : (party, id) ≠ (party, msgId) := fun heq => hid (Prod.ext_iff.mp heq).2
    rw [receiveChunk_of_ne _ _ _ _ _ _ _ hkey, receiveChunk_of_ne _ _ _ _ _ _ _ hkey,
      ← get?_cleanupExpired, ← get?_cleanupExpired]
    exact h id

/-- And the gateways that received it look alike. -/
lemma GatewayNode.InStep.received (h : g.InStep party clocks before before' g')
    (hclock : env.clock ∈ clocks) (header : SolMeshHeader) (payload : Bytes) :
    (g.received env header payload party).InStep party clocks before before'
      (g'.received env header payload party) := by
  have hlimited : (g.limited env party).InStep party clocks before before'
      (g'.limited env party) := h.limited
  have hrecorded := hlimited.record
    [.meshSend (ackFrame env.ackId header) party false]
  have hkept := (receiveChunk_eq (h.swept env.clock hclock) header.msgId.toNat
    header.chunkNum.toNat header.totalChunks.toNat payload).2
  refine ⟨⟨hrecorded.config, hrecorded.hotKeypair, hrecorded.burst, hrecorded.refillRate,
    hrecorded.bucket, fun clock _ msgId => ?_⟩, hrecorded.events⟩
  unfold ChunkReassembler.swept
  rw [get?_cleanupExpired, get?_cleanupExpired]
  exact congrArg (Option.filter _) (hkept msgId)

end Alike

/-! ## The handlers are blind -/

section Handlers

variable {F : Type} {S : Solders} {party : String} {clocks : List Clock}
  {before before' : List GatewayEvent}

/-- Recording an effect is blind. -/
lemma blind_emit (event : GatewayEvent) :
    Blind (GatewayNode.InStep (F := F) (S := S) party clocks before before') (emit event) :=
  blind_modify fun _ _ h => h.record [event]

/-- So is sending a message. -/
lemma blind_sendMessage (msgType : UInt8) (msgId : UInt16) (payload : Bytes)
    (destinationId : String) (wantAck : Bool) :
    Blind (GatewayNode.InStep (F := F) (S := S) party clocks before before')
      (sendMessage msgType msgId payload destinationId wantAck) :=
  (blind_ofExcept _ _).bind fun _ => blind_emit _

variable {env : Moment S}

/-- So are the replies. -/
lemma blind_sendNack (originalMsgId : UInt16) (errorCode : UInt8) (errorMsg : Text)
    (destinationId : String) :
    Blind (GatewayNode.InStep (F := F) (S := S) party clocks before before')
      (sendNack env originalMsgId errorCode errorMsg destinationId) :=
  (blind_ofExcept _ _).bind fun _ => blind_sendMessage _ _ _ _ _

lemma blind_sendTxResult (originalMsgId : UInt16) (success : Bool) (sigOrError : Text)
    (destinationId : String) :
    Blind (GatewayNode.InStep (F := F) (S := S) party clocks before before')
      (sendTxResult env originalMsgId success sigOrError destinationId) :=
  (blind_ofExcept _ _).bind fun _ => (blind_ofExcept _ _).bind fun _ => blind_sendMessage _ _ _ _ _

/-- The check of the rate limit of the party is blind. -/
lemma blind_checkRateLimit (msgId : UInt16) :
    Blind (GatewayNode.InStep (F := F) (S := S) party clocks before before')
      (checkRateLimit env party msgId) := by
  intro g g' h
  rw [run_checkRateLimit, run_checkRateLimit, h.admits]
  split_ifs
  · exact .ok h.limited
  · exact .ok (h.limited.record _)

/-- So is broadcasting. -/
lemma blind_broadcastToSolana (txBytes : Bytes) :
    Blind (GatewayNode.InStep (F := F) (S := S) party clocks before before')
      (broadcastToSolana env txBytes) := by
  intro g g' h
  rw [run_broadcastToSolana, run_broadcastToSolana]
  exact .ok (h.record _)

/-- **The handler of chunks is blind.** -/
lemma blind_handleTxChunk (hclock : env.clock ∈ clocks) (header : SolMeshHeader)
    (payload : Bytes) :
    Blind (GatewayNode.InStep (F := F) (S := S) party clocks before before')
      (handleTxChunk env header payload party) := by
  intro g g' h
  have hanswer : (g'.reassemble env header payload party).1 =
      (g.reassemble env header payload party).1 :=
    (receiveChunk_eq (h.swept env.clock hclock) _ _ _ _).1
  have hreceived := h.received hclock header payload
  rw [handleTxChunk_cases, handleTxChunk_cases, h.admits, hanswer]
  split_ifs
  · cases (g.reassemble env header payload party).1 with
    | error e => exact .error hreceived
    | ok data =>
      cases data with
      | none => exact .ok hreceived
      | some data => exact blind_sendTxResult _ _ _ _ _ _ (hreceived.record _)
  · exact .ok (h.limited.record _)

/-- Creating a transfer is blind. -/
lemma blind_createTransfer (hotKeypair : S.Keypair) (req : TxRequest)
    (recentBlockhash : S.Blockhash) (destPubkey : Pubkey) :
    Blind (GatewayNode.InStep (F := F) party clocks before before')
      (createTransfer env hotKeypair req recentBlockhash destPubkey) := by
  unfold createTransfer
  split_ifs
  · exact (blind_ofExcept _ _).bind fun _ => (blind_ofExcept _ _).bind fun _ =>
      (blind_ofExcept _ _).bind fun _ => (blind_emit _).bind fun _ => blind_ofExcept _ _
  · exact blind_ofExcept _ _

/-- Building a transaction is blind. -/
lemma blind_buildTransfer (hotKeypair : S.Keypair) (asset : Asset) (baseUnits : ℤ)
    (destPubkey : Pubkey) (recentBlockhash : S.Blockhash) :
    Blind (GatewayNode.InStep (F := F) party clocks before before')
      (buildTransfer env hotKeypair asset baseUnits destPubkey recentBlockhash) := by
  cases asset with
  | sol => exact blind_ofExcept _ _
  | token mintStr decimals =>
    exact (blind_ofExcept _ _).bind fun _ => (blind_ofExcept _ _).bind fun _ =>
      (blind_emit _).bind fun _ => blind_ofExcept _ _

section Requests

variable [Number F]

/-- **The handler of transfer requests is blind.**

**Proof sketch.** Along the code: the rate limiter answers both gateways alike, everything the
handler reads of the gateway is the same in both, and what it does is recorded in both. -/
lemma blind_handleTxRequest (header : SolMeshHeader) (payload : Bytes) :
    Blind (GatewayNode.InStep (F := F) (S := S) party clocks before before')
      (handleTxRequest env header payload party) := by
  refine (blind_checkRateLimit _).bind fun allowed => ?_
  split_ifs
  · exact blind_pure _ _
  refine blind_get_bind (fun g g' h => ?_) fun g => ?_
  · rw [h.config, h.hotKeypair]
  cases g.hotKeypair with
  | none => exact blind_sendNack _ _ _ _
  | some hotKeypair =>
  cases decodeTxRequest payload with
  | error e =>
    dsimp only
    split_ifs
    · exact blind_sendNack _ _ _ _
    · exact blind_throw _ _
  | ok req =>
  refine (blind_ofExcept _ _).bind fun senderPubkey => (blind_ofExcept _ _).bind fun signed => ?_
  split_ifs
  · exact (blind_sendNack _ _ _ _).bind fun _ => blind_pure _ _
  · exact (blind_sendNack _ _ _ _).bind fun _ => blind_pure _ _
  refine (blind_ofExcept _ _).bind fun refusal => ?_
  rcases refusal with _ | (mintStr | text)
  · refine (blind_emit _).bind fun _ => ?_
    cases env.rpc.getLatestBlockhash with
    | error e => exact blind_sendNack _ _ _ _
    | ok recentBlockhash =>
    refine (blind_ofExcept _ _).bind fun destPubkey =>
      (blind_createTransfer _ _ _ _).attempt.bind fun created => ?_
    cases created with
    | error e => exact blind_sendNack _ _ _ _
    | ok txBytes =>
      exact (blind_broadcastToSolana _).bind fun _ => blind_sendTxResult _ _ _ _
  · exact blind_sendNack _ _ _ _
  · exact blind_sendNack _ _ _ _

variable [LT F] [DecidableLT F]

/-- The endpoint for transfers is blind.

**Proof sketch.** Along the code: the endpoint reads only the configuration and the keypair, which
are the same in both gateways, and what it does is recorded in both. -/
lemma blind_submitTransfer (req : TransferRequest F) :
    Blind (GatewayNode.InStep (F := F) (S := S) party clocks before before')
      (submitTransfer env req) := by
  refine blind_get_bind (fun g g' h => ?_) fun g => ?_
  · rw [h.config, h.hotKeypair]
  cases g.hotKeypair with
  | none => exact blind_pure _ _
  | some hotKeypair =>
  cases S.pubkeyFromString req.destination with
  | error e => exact blind_pure _ _
  | ok destPubkey =>
  refine (blind_ofExcept _ _).bind fun admission => ?_
  cases admission with
  | error refusal => exact blind_pure _ _
  | ok admitted =>
  refine (blind_emit _).bind fun _ => ?_
  cases env.rpc.getLatestBlockhash with
  | error e => exact blind_pure _ _
  | ok recentBlockhash =>
  refine (blind_buildTransfer _ _ _ _ _).attempt.bind fun built => ?_
  cases built with
  | error e => exact blind_pure _ _
  | ok txBytes =>
    refine (blind_broadcastToSolana _).bind fun outcome => ?_
    dsimp only
    split_ifs <;> exact blind_pure _ _

end Requests

end Handlers

/-! ## Whole gateways -/

section Whole

variable {F : Type} {S : Solders}

/-- Two gateways look alike to a party. -/
structure Gateway.LooksAlike (party : String) (clocks : List Clock) (gw gw' : Gateway F S) :
    Prop where
  config : gw'.config = gw.config
  node : gw.node.LooksAlike party clocks gw'.node

/-- Two gateways that look alike to a party, and did the same since they were at these states. -/
structure Gateway.InStep (party : String) (clocks : List Clock) (gw₀ gw₀' gw gw' : Gateway F S) :
    Prop where
  config : gw'.config = gw.config
  node : gw.node.InStep party clocks gw₀.node.events gw₀'.node.events gw'.node
  queries : ∃ new, gw.queries = gw₀.queries ++ new ∧ gw'.queries = gw₀'.queries ++ new

variable {party : String} {clocks : List Clock} {gw₀ gw₀' gw gw' : Gateway F S}

/-- Gateways that look alike are in step at first. -/
lemma Gateway.LooksAlike.inStep (h : gw.LooksAlike party clocks gw') :
    Gateway.InStep party clocks gw gw' gw gw' :=
  ⟨h.config, ⟨h.node, [], (List.append_nil _).symm, (List.append_nil _).symm⟩, [],
    (List.append_nil _).symm, (List.append_nil _).symm⟩

/-- A method of the money handlers' part is blind on the whole. -/
lemma blind_onNode {α : Type} {m : Method (GatewayNode F S) α}
    (h : Blind (GatewayNode.InStep party clocks gw₀.node.events gw₀'.node.events) m) :
    Blind (Gateway.InStep party clocks gw₀ gw₀') (onNode m) :=
  h.focus (fun _ _ h => h.node) fun _ _ _ _ h hnode => ⟨h.config, hnode, h.queries⟩

variable {env : Surroundings S}

/-- Asking the RPC node is blind. -/
lemma blind_ask (call : QueryCall) :
    Blind (Gateway.InStep (F := F) party clocks gw₀ gw₀') (ask env call) := by
  refine (blind_modify fun gw gw' h => ⟨h.config, h.node, ?_⟩).bind fun _ => blind_ofExcept _ _
  obtain ⟨new, hnew, hnew'⟩ := h.queries
  refine ⟨new ++ [call], ?_, ?_⟩
  · rw [hnew, List.append_assoc]
  · rw [hnew', List.append_assoc]

/-- The handler of balance queries is blind.

**Proof sketch.** The handler is made of steps that are blind: asking the limiter, reading the node,
sending a reply. What it does in between depends on the request alone. -/
lemma blind_handleBalanceReq (header : SolMeshHeader) (payload : Bytes) :
    Blind (Gateway.InStep (F := F) party clocks gw₀ gw₀')
      (handleBalanceReq env header payload party) := by
  refine (blind_onNode (blind_checkRateLimit _)).bind fun allowed => ?_
  split_ifs
  · exact blind_pure _ _
  cases decodeBalanceReq payload with
  | error e =>
    dsimp only
    split_ifs
    · exact blind_pure _ _
    · exact blind_throw _ _
  | ok req =>
  have hquery : ∀ pubkey : Pubkey, Blind (Gateway.InStep (F := F) party clocks gw₀ gw₀')
      (queryBalance env pubkey req.mint) := by
    intro pubkey
    unfold queryBalance
    split_ifs
    · exact (blind_ofExcept _ _).bind fun _ => (blind_ofExcept _ _).bind fun _ => blind_ask _
    · exact blind_ask _
  refine (blind_ofExcept _ _).bind fun pubkey => (hquery pubkey).attempt.bind fun answer => ?_
  exact (blind_ofExcept _ _).bind fun _ => blind_onNode (blind_sendMessage _ _ _ _ _)

/-- So is the one of queries for the blockhash. -/
lemma blind_handleBlockhashReq (H : Hashes S) (header : SolMeshHeader) (payload : Bytes) :
    Blind (Gateway.InStep (F := F) party clocks gw₀ gw₀')
      (handleBlockhashReq H env header payload party) := by
  refine (blind_onNode (blind_checkRateLimit _)).bind fun allowed => ?_
  split_ifs
  · exact blind_pure _ _
  refine (blind_onNode (blind_emit _)).bind fun _ => ?_
  cases env.rpc.getLatestBlockhash with
  | error e => exact blind_onNode (blind_sendNack _ _ _ _)
  | ok blockhash =>
    exact (blind_ofExcept _ _).bind fun _ => blind_onNode (blind_sendMessage _ _ _ _ _)

/-- So is the one of address shares. -/
lemma blind_handleAddrShare (header : SolMeshHeader) (payload : Bytes) :
    Blind (Gateway.InStep (F := F) party clocks gw₀ gw₀')
      (handleAddrShare env header payload party) := by
  unfold handleAddrShare
  cases decodeAddrShare payload with
  | error e =>
    dsimp only
    split_ifs
    · exact blind_pure _ _
    · exact blind_throw _ _
  | ok data =>
    exact (blind_modify fun _ _ h => ⟨h.config, h.node, h.queries⟩).bind fun _ =>
      (blind_ofExcept _ _).bind fun _ => (blind_ofExcept _ _).bind fun _ =>
        blind_onNode (blind_sendMessage _ _ _ _ _)

variable [Number F]

/-- **Every handler that a gateway registers is blind.**

**Proof sketch.** One case for each type that has a handler, and for all others there is none. -/
lemma blind_handler (H : Hashes S) (hclock : env.clock ∈ clocks) (header : SolMeshHeader)
    (payload : Bytes) {handler : Handler (Surroundings S) (Gateway F S)}
    (hmem : handler ∈ handlersOf (gatewayHandlers H) header.msgType) :
    Blind (Gateway.InStep party clocks gw₀ gw₀') (handler env header payload party) := by
  obtain ⟨hchunk, hrequest, hbalance, hblockhash, hshare⟩ := handlersOf_gatewayHandlers (F := F) H
  by_cases hhandled : header.msgType ∈ handledTypes
  · simp only [handledTypes, List.mem_cons, List.not_mem_nil, or_false] at hhandled
    rcases hhandled with htype | htype | htype | htype | htype
    · rw [htype, hchunk, List.mem_singleton] at hmem
      rw [hmem]
      exact blind_onNode (blind_handleTxChunk hclock header payload)
    · rw [htype, hrequest, List.mem_singleton] at hmem
      rw [hmem]
      exact blind_onNode (blind_handleTxRequest header payload)
    · rw [htype, hbalance, List.mem_singleton] at hmem
      rw [hmem]
      exact blind_handleBalanceReq header payload
    · rw [htype, hblockhash, List.mem_singleton] at hmem
      rw [hmem]
      exact blind_handleBlockhashReq H header payload
    · rw [htype, hshare, List.mem_singleton] at hmem
      rw [hmem]
      exact blind_handleAddrShare header payload
  · rw [handlersOf_gatewayHandlers_of_not_mem H hhandled] at hmem
    exact absurd hmem List.not_mem_nil

/-- Packets of the party leave gateways in step.

**Proof sketch.** Without a message nothing happens. Otherwise the handlers of its type run one
after the other: induction on them, each of which is blind (`blind_handler`). -/
lemma Gateway.InStep.receive (h : Gateway.InStep party clocks gw₀ gw₀' gw gw') (H : Hashes S)
    (hclock : env.clock ∈ clocks) {packet : Packet} (hsender : packet.senderId = party) :
    Gateway.InStep party clocks gw₀ gw₀' (gw.receive H env packet) (gw'.receive H env packet) := by
  unfold Gateway.receive
  cases hmessage : packet.message with
  | none =>
    rw [afterReceive_of_none hmessage, afterReceive_of_none hmessage]
    exact h
  | some message =>
    obtain ⟨header, payload⟩ := message
    rw [afterReceive_of_some hmessage, afterReceive_of_some hmessage, hsender]
    have hblind : ∀ handler ∈ handlersOf (gatewayHandlers (F := F) H) header.msgType,
        Blind (Gateway.InStep party clocks gw₀ gw₀') (handler env header payload party) :=
      fun handler => blind_handler H hclock header payload
    generalize handlersOf (gatewayHandlers (F := F) H) header.msgType = handlers at hblind ⊢
    induction handlers generalizing gw gw' with
    | nil => exact h
    | cons handler handlers ih =>
      exact ih ((hblind handler List.mem_cons_self).stateAfter h)
        fun handler' hmem => hblind handler' (List.mem_cons_of_mem _ hmem)

/-! ### Requests over HTTP -/

omit [Number F] in
/-- The check of key and rate limit is blind for the caller.

**Proof sketch.** The key is compared in both gateways alike, as they are configured alike. The
bucket of the key is that of the party, so the limiter answers alike too. -/
lemma blind_checkHttpRateLimit {xApiKey : String} (hparty : httpBucket xApiKey = party) :
    Blind (Gateway.InStep (F := F) party clocks gw₀ gw₀') (checkHttpRateLimit env xApiKey) := by
  intro gw gw' h
  unfold checkHttpRateLimit verifyApiKey
  simp only [EStateM.run_bind, EStateM.run_get]
  rw [h.config]
  cases gw.config.key with
  | none => exact .ok h
  | some expected =>
  dsimp only
  cases compareDigest xApiKey expected with
  | error e => exact .error h
  | ok equal =>
  cases equal with
  | false => exact .ok h
  | true =>
    have hadmits : gw'.admits env (httpBucket xApiKey) = gw.admits env (httpBucket xApiKey) := by
      rw [hparty]
      exact h.node.admits
    have hlimited : Gateway.InStep party clocks gw₀ gw₀'
        (gw.limited env (httpBucket xApiKey)) (gw'.limited env (httpBucket xApiKey)) := by
      rw [hparty]
      exact ⟨h.config, h.node.limited, h.queries⟩
    change Agree _ (EStateM.run (if gw.admits env (httpBucket xApiKey) = true then _ else _)
      (gw.limited env (httpBucket xApiKey))) (EStateM.run
        (if gw'.admits env (httpBucket xApiKey) = true then _ else _)
          (gw'.limited env (httpBucket xApiKey)))
    rw [hadmits]
    split_ifs
    · exact .ok hlimited
    · exact .ok hlimited

omit [Number F] in
/-- The endpoint for balances is blind.

**Proof sketch.** Along the branches of the endpoint. Each of them asks the node at most once, which
is blind, and answers with what it was told. -/
lemma blind_httpBalance (address : String) (token : Option String) :
    Blind (Gateway.InStep (F := F) party clocks gw₀ gw₀') (httpBalance env address token) := by
  unfold httpBalance
  cases S.pubkeyFromString address with
  | error e => exact blind_pure _ _
  | ok pubkey =>
  dsimp only
  cases token.filter fun token => decide (token ≠ "") with
  | none =>
    refine (blind_ask _).attempt.bind fun answer => ?_
    cases answer <;> exact blind_pure _ _
  | some token =>
  dsimp only
  cases knownTokens.get? (resolveTokenMint token) with
  | none => exact blind_pure _ _
  | some known =>
    refine (blind_ofExcept _ _).bind fun mint => (blind_ofExcept _ _).bind fun ata =>
      (blind_ask _).attempt.bind fun answer => ?_
    cases answer <;> exact blind_pure _ _

variable [LT F] [DecidableLT F]

/-- **Serving a request is blind** for the caller. -/
lemma blind_serve {xApiKey : String} (hparty : httpBucket xApiKey = party)
    (request : ApiRequest F) :
    Blind (Gateway.InStep (F := F) party clocks gw₀ gw₀') (serve env xApiKey request) := by
  refine (blind_checkHttpRateLimit hparty).bind fun checked => ?_
  cases checked with
  | error refusal => exact blind_pure _ _
  | ok key =>
  cases request with
  | status => exact blind_throw _ _
  | balance address token => exact (blind_httpBalance _ _).bind fun _ => blind_pure _ _
  | blockhash =>
    refine Blind.bind ((blind_onNode (blind_emit _)).bind fun _ => ?_) fun _ => blind_pure _ _
    cases env.rpc.getLatestBlockhash <;> exact blind_pure _ _
  | slot =>
    refine Blind.bind ((blind_ask _).attempt.bind fun answer => ?_) fun _ => blind_pure _ _
    cases answer <;> exact blind_pure _ _
  | transfer req => exact (blind_onNode (blind_submitTransfer req)).bind fun _ => blind_pure _ _

end Whole

/-! ## Runs -/

/-- All that a gateway does about an input: the effects, the queries, and the answer to a request
over HTTP. -/
structure Conduct (S : Solders) where
  effects : List GatewayEvent
  queries : List QueryCall
  answer : Option (Except Exn (Except HttpException (ApiAnswer S)))

section Runs

variable {F : Type} {S : Solders}

/-- The input is one of a party: a packet that it sent, or a request that is charged to its
bucket. -/
def GatewayInput.isOf (party : String) : GatewayInput F S → Bool
  | .packet _ p => decide (p.senderId = party)
  | .beacon _ _ => false
  | .http _ xApiKey _ => decide (httpBucket xApiKey = party)

variable [Number F] [LT F] [DecidableLT F]

/-- The answer to a request over HTTP. -/
def Gateway.answer (gw : Gateway F S) :
    GatewayInput F S → Option (Except Exn (Except HttpException (ApiAnswer S)))
  | .http env xApiKey request =>
    if gw.config.servesHttp then some (outcome (serve env xApiKey request) gw) else none
  | .packet _ _ => none
  | .beacon _ _ => none

/-- What the gateway does about an input. -/
def Gateway.conduct (H : Hashes S) (gw : Gateway F S) (input : GatewayInput F S) : Conduct S :=
  ⟨gw.reaction H input, (gw.next H input).queries.drop gw.queries.length, gw.answer input⟩

variable {H : Hashes S} {party : String} {clocks : List Clock} {gw gw' : Gateway F S}
  {input : GatewayInput F S} {inputs inputs' : List (GatewayInput F S)}

/-- **An input of the party** is treated the same by gateways that look alike to it.

**Proof sketch.** What the gateways do is what they append to their records, and their answer. A
beacon is no input of a party; on a packet they stay in step (`InStep.receive`), and a request is
served by a blind method or not at all. -/
lemma Gateway.LooksAlike.next (h : gw.LooksAlike party clocks gw')
    (hown : input.isOf party = true) (hclock : input.surroundings.clock ∈ clocks) :
    gw'.conduct H input = gw.conduct H input ∧
      (gw.next H input).LooksAlike party clocks (gw'.next H input) := by
  suffices hstep : Gateway.InStep party clocks gw gw' (gw.next H input) (gw'.next H input) ∧
      gw'.answer input = gw.answer input by
    obtain ⟨⟨hconfig, hnode, queries, hqueries, hqueries'⟩, hanswer⟩ := hstep
    obtain ⟨events, hevents, hevents'⟩ := hnode.events
    refine ⟨?_, hconfig, hnode.toLooksAlike⟩
    unfold Gateway.conduct Gateway.reaction
    rw [hevents, hevents', hqueries, hqueries', hanswer, List.drop_left, List.drop_left,
      List.drop_left, List.drop_left]
  cases input with
  | beacon env now => cases hown
  | packet env packet => exact ⟨h.inStep.receive H hclock (of_decide_eq_true hown), rfl⟩
  | http env xApiKey request =>
    have hblind : Blind (Gateway.InStep party clocks gw gw') (serve env xApiKey request) :=
      blind_serve (of_decide_eq_true hown) request
    unfold Gateway.next Gateway.answer
    rw [h.config]
    split_ifs
    · exact ⟨hblind.stateAfter h.inStep, congrArg some (hblind.outcome_eq h.inStep).symm⟩
    · exact ⟨h.inStep, rfl⟩

omit [Number F] [LT F] [DecidableLT F] in
/-- The rate limiter is asked about the party that an input is of.

**Proof sketch.** By the kind of the input. The limiter is asked about the sender of a packet, or
about the caller of an endpoint, which is the party of the input in both cases. -/
lemma isOf_of_limiterCall {config : ServiceConfig F} {c : AllowCall}
    (h : input.limiterCall config = some c) : input.isOf c.senderId = true := by
  cases input with
  | beacon env now => cases h
  | packet env packet =>
    unfold GatewayInput.limiterCall at h
    dsimp only at h
    cases hmessage : packet.message with
    | none => rw [hmessage] at h; cases h
    | some message =>
      rw [hmessage] at h
      dsimp only at h
      split_ifs at h
      cases h
      exact decide_eq_true rfl
  | http env xApiKey request =>
    unfold GatewayInput.limiterCall at h
    dsimp only at h
    split_ifs at h
    cases h
    exact decide_eq_true rfl

omit [Number F] [LT F] [DecidableLT F] in
/-- So is the reassembler, at the readings of the input.

**Proof sketch.** Only a packet gives a chunk to the reassembler, under the name of its sender and
at the time of its arrival. -/
lemma isOf_of_admittedChunk {c : ChunkCall} (h : gw.admittedChunk input = some c) :
    input.isOf c.senderId = true ∧ c.clock = input.surroundings.clock := by
  unfold Gateway.admittedChunk at h
  split_ifs at h
  cases input with
  | beacon | http => cases h
  | packet env packet =>
    unfold GatewayInput.chunkCall at h
    dsimp only at h
    cases hmessage : packet.message with
    | none => rw [hmessage] at h; cases h
    | some message =>
      rw [hmessage] at h
      dsimp only at h
      split_ifs at h
      cases h
      exact ⟨decide_eq_true rfl, rfl⟩

omit [Number F] [LT F] [DecidableLT F] in
/-- A sweep does not matter for the later ones. -/
lemma swept_receive {r : ChunkReassembler} {c : ChunkCall} {clock : Clock} {key : String × ℕ}
    (hkey : key.1 ≠ c.senderId) (hlater : c.clock.expiry key ≤ clock.expiry key) :
    (r.receive c).2.swept clock key = r.swept clock key := by
  have hne : key ≠ (c.senderId, c.msgId) := fun heq => hkey (congrArg Prod.fst heq)
  unfold ChunkReassembler.swept ChunkReassembler.receive
  rw [get?_cleanupExpired, get?_cleanupExpired, receiveChunk_of_ne _ _ _ _ _ _ _ hne,
    Option.filter_filter]
  congr 1
  funext buf
  unfold ReassemblyBuffer.isExpired
  by_cases hold : c.clock.expiry key - buf.createdAt > (chunkReassemblyTimeout : ℕ)
  · have hold' : clock.expiry key - buf.createdAt > (chunkReassemblyTimeout : ℕ) := by linarith
    rw [decide_eq_true hold, decide_eq_true hold']
    rfl
  · rw [decide_eq_false hold]
    simp

/-- **An input of another party** changes nothing that the party can see.

**Proof sketch.** The input asks the limiter about another bucket, if at all, so that of the party
stays. A chunk it hands over is under the name of another party and sweeps only what will be swept
for the party anyway (`swept_receive`). The rest is the setup, which no input changes. -/
lemma Gateway.LooksAlike.skip (h : gw.LooksAlike party clocks gw') (H : Hashes S)
    (hother : input.isOf party = false)
    (hlater : ∀ clock ∈ clocks, ∀ key, input.surroundings.clock.expiry key ≤ clock.expiry key) :
    (gw.next H input).LooksAlike party clocks gw' := by
  have hstep := step_next H gw input
  have hsetup := hstep.sameSetup
  have hparty : ∀ {senderId : String}, input.isOf senderId = true → party ≠ senderId := by
    rintro senderId hsender rfl
    rw [hother] at hsender
    cases hsender
  have hlimiter : (gw.next H input).node.rateLimiter.burst = gw.node.rateLimiter.burst ∧
      (gw.next H input).node.rateLimiter.refillRate = gw.node.rateLimiter.refillRate ∧
      (gw.next H input).node.rateLimiter.buckets.get? party =
        gw.node.rateLimiter.buckets.get? party := by
    rw [hstep.rateLimiter]
    cases hcall : input.limiterCall gw.config with
    | none => exact ⟨rfl, rfl, rfl⟩
    | some c =>
      exact ⟨rfl, rfl, RateLimiter.get?_isAllowed_of_ne _ _ _ (hparty (isOf_of_limiterCall hcall))⟩
  obtain ⟨hburst, hrefill, hbucket⟩ := hlimiter
  refine ⟨h.config.trans hsetup.config.symm, h.node.config.trans hsetup.limits.symm,
    h.node.hotKeypair.trans hsetup.hotKeypair.symm, h.node.burst.trans hburst.symm,
    h.node.refillRate.trans hrefill.symm, h.node.bucket.trans hbucket.symm,
    fun clock hclock msgId => ?_⟩
  rw [h.node.swept clock hclock msgId, hstep.reassembler]
  cases hchunk : gw.admittedChunk input with
  | none => rfl
  | some c =>
    obtain ⟨hown, hreadings⟩ := isOf_of_admittedChunk hchunk
    exact (swept_receive (hparty hown) (hreadings ▸ hlater clock hclock _)).symm

omit [Number F] [LT F] [DecidableLT F] in
/-- What looks alike for many sweeps looks alike for some of them. -/
lemma Gateway.LooksAlike.mono {clocks' : List Clock} (h : gw.LooksAlike party clocks gw')
    (hsub : clocks' ⊆ clocks) : gw.LooksAlike party clocks' gw' :=
  ⟨h.config, h.node.config, h.node.hotKeypair, h.node.burst, h.node.refillRate, h.node.bucket,
    fun clock hclock => h.node.swept clock (hsub hclock)⟩

omit [Number F] [LT F] [DecidableLT F] in
/-- Inputs with readings in order, without the first one. -/
lemma OnTime.tail (h : OnTime (input :: inputs)) : OnTime inputs :=
  ⟨fun i hi => h.within i (List.mem_cons_of_mem _ hi), (List.pairwise_cons.mp h.between).2⟩

omit [Number F] [LT F] [DecidableLT F] in
/-- The sweeps of the later inputs come later. -/
lemma OnTime.expiry_le (h : OnTime (input :: inputs)) {clock : Clock}
    (hclock : clock ∈ inputs.map fun i => i.surroundings.clock) (key : String × ℕ) :
    input.surroundings.clock.expiry key ≤ clock.expiry key := by
  obtain ⟨i, hi, rfl⟩ := List.mem_map.mp hclock
  have hfirst := h.within input List.mem_cons_self
  have hlater := h.within i (List.mem_cons_of_mem _ hi)
  have hbetween := (List.pairwise_cons.mp h.between).1 i hi
  exact (hfirst.opening key).trans (hbetween.trans (hlater.limiter.trans (hlater.sweep key)))

/-- **Looking alike to a party is kept**, as long as the sweeps of the inputs to come matter. -/
lemma unwinding (H : Hashes S) (party : String) :
    Unwinding (Gateway.next (F := F) H) (Gateway.conduct H) (GatewayInput.isOf party) OnTime
      fun inputs gw gw' =>
        gw.LooksAlike party (inputs.map fun i => i.surroundings.clock) gw' where
  tail := OnTime.tail
  shared := by
    intro input inputs gw gw' _ hown h
    obtain ⟨hconduct, hnext⟩ := h.next (H := H) hown List.mem_cons_self
    exact ⟨hconduct.symm, hnext.mono (List.subset_cons_self _ _)⟩
  skipped := by
    intro input inputs gw gw' hclock hother h
    exact (h.mono (List.subset_cons_self _ _)).skip H hother fun _ => hclock.expiry_le

/-- **The frames that are sent to a party** are among what is done about its inputs.

**Proof sketch.** Induction on the inputs. The frames of an input of the party are those of its
conduct. An input of another party sends none to this one, because a frame is sent only to the
sender of a packet, or to all (`justified_reaction`). -/
lemma framesTo_after (hparty : party ≠ "") (gw : Gateway F S)
    (inputs : List (GatewayInput F S)) :
    framesTo party (gw.after H inputs).node.events = framesTo party gw.node.events ++
      ((observed (Gateway.next H) (Gateway.conduct H) (GatewayInput.isOf party) gw inputs).map
        fun conduct => framesTo party conduct.effects).flatten := by
  induction inputs generalizing gw with
  | nil => exact (List.append_nil _).symm
  | cons input inputs ih =>
    have hrest := ih (gw.next H input)
    have happend : framesTo party (gw.next H input).node.events =
        framesTo party gw.node.events ++ framesTo party (gw.reaction H input) := by
      rw [Gateway.events_next]
      exact List.filterMap_append
    rw [happend, List.append_assoc] at hrest
    change framesTo party ((gw.next H input).after H inputs).node.events = _
    rw [hrest, observed]
    cases hown : input.isOf party with
    | true => rfl
    | false =>
      have hnone : framesTo party (gw.reaction H input) = [] := by
        refine List.filterMap_eq_nil_iff.mpr fun event hevent => ?_
        cases event with
        | meshSend frame destinationId wantAck =>
          refine if_neg fun heq => ?_
          obtain ⟨haddressee, _⟩ := (Gateway.justified_reaction H gw input).sent _ _ _ hevent
          rw [heq] at haddressee
          cases input with
          | packet env packet =>
            exact of_decide_eq_false hown (Option.some.inj haddressee)
          | beacon env now => exact hparty (Option.some.inj haddressee).symm
          | http env xApiKey request => cases haddressee
        | getLatestBlockhash | getAccountInfo | sendRawTransaction => rfl
      rw [hnone, List.nil_append, if_neg Bool.false_ne_true]

/-- **Parties do not disturb each other.** In any two runs of a gateway in which a party does the
same at the same times, whatever all others send, as long as clock readings do not decrease: the
gateway does the same about each input of the party, with the same effects, queries and answers,
and a node is sent the same frames.

**Proof sketch.** The inputs of the others can be left out one by one, as the gateway looks the same
to the party without them, and does the same about its inputs (`unwinding`). So both runs are
observed as the run of the party alone; and the frames sent to the party are part of what is
observed (`framesTo_after`). -/
theorem parties_isolated (gw : Gateway F S) (party : String) (hclock : OnTime inputs)
    (hclock' : OnTime inputs')
    (hsame : inputs.filter (GatewayInput.isOf party) = inputs'.filter (GatewayInput.isOf party)) :
    observed (Gateway.next H) (Gateway.conduct H) (GatewayInput.isOf party) gw inputs =
        observed (Gateway.next H) (Gateway.conduct H) (GatewayInput.isOf party) gw inputs' ∧
      (party ≠ "" → framesTo party (gw.after H inputs).node.events =
        framesTo party (gw.after H inputs').node.events) := by
  have hrefl : ∀ inputs : List (GatewayInput F S),
      gw.LooksAlike party (inputs.map fun i => i.surroundings.clock) gw :=
    fun _ => ⟨rfl, rfl, rfl, rfl, rfl, rfl, fun _ _ _ => rfl⟩
  have hobserved : observed (Gateway.next H) (Gateway.conduct H) (GatewayInput.isOf party) gw
      inputs = observed (Gateway.next H) (Gateway.conduct H) (GatewayInput.isOf party) gw
        inputs' := by
    rw [(unwinding H party).observed_eq hclock (hrefl _),
      (unwinding H party).observed_eq hclock' (hrefl _), hsame]
  refine ⟨hobserved, fun hparty => ?_⟩
  rw [framesTo_after hparty, framesTo_after hparty, hobserved]

end Runs

/-! ## A sample -/

section Sample

/-- Another node, which uses the same message id. -/
def intruder : GatewayInput ℤ sampleSolders :=
  .packet sampleSurroundings (.ofFrame (frameBytes MsgType.txChunk 7 1 2 [2]) "!d")

/-- The node that sends the first of two chunks is answered as if nobody else had sent the second
one. -/
theorem parties_isolated_one_intruder :
    framesTo "!c" (sampleService.after sampleHashes [intruder, firstOfTwo, intruder]).node.events =
      framesTo "!c" (sampleService.after sampleHashes [firstOfTwo]).node.events := by
  have hordered : Surroundings.Ordered sampleSurroundings :=
    ⟨le_rfl, fun _ => le_rfl, fun _ => le_rfl⟩
  have hclock : OnTime [intruder, firstOfTwo, intruder] :=
    ⟨by simp [intruder, firstOfTwo, GatewayInput.surroundings, hordered],
      by simp [intruder, firstOfTwo, GatewayInput.surroundings, sampleSurroundings, sampleMoment]⟩
  have hclock' : OnTime [firstOfTwo] :=
    ⟨fun input hinput => (List.mem_singleton.mp hinput) ▸ hordered, List.pairwise_singleton _ _⟩
  exact (parties_isolated (H := sampleHashes) sampleService "!c" hclock hclock' rfl).2 (by decide)

end Sample

end SolMesh
