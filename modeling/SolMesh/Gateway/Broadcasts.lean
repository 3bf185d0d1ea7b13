import SolMesh.Gateway.TxChunk

set_option relaxedAutoImplicit false
set_option autoImplicit false

/-!
# Broadcasts

Money moves when the gateway hands a transaction to the RPC node. A run of a handler does this at
most once.

## Main definitions

* `SolMesh.broadcasts` — the number of transactions handed to the RPC node.
* `SolMesh.sentFrames` — the frames handed to the mesh.
* `SolMesh.GatewayNode.receive`, `SolMesh.GatewayNode.effectsOf` — the gateway after a frame was
  delivered to it, and what it did.

## Main results

* `SolMesh.broadcasts_handleTxRequest_le` — one request is broadcast at most once.
* `SolMesh.GatewayNode.broadcasts_effectsOf_le` — so is any frame.
* `SolMesh.GatewayNode.reassembler_receive` — only chunks change the reassembler.
-/

namespace SolMesh

open Py Text

/-- Does this effect hand a transaction to the RPC node? -/
def GatewayEvent.isBroadcast : GatewayEvent → Bool
  | .sendRawTransaction _ => true
  | _ => false

/-- How many transactions are handed to the RPC node. -/
def broadcasts (events : List GatewayEvent) : ℕ := events.countP GatewayEvent.isBroadcast

/-- The frames handed to the mesh. -/
def sentFrames (events : List GatewayEvent) : List Bytes :=
  events.filterMap fun event => match event with
    | .meshSend frame _ _ => some frame
    | _ => none

@[simp] lemma broadcasts_nil : broadcasts [] = 0 := rfl

@[simp] lemma broadcasts_append (xs ys : List GatewayEvent) :
    broadcasts (xs ++ ys) = broadcasts xs + broadcasts ys := List.countP_append

@[simp] lemma broadcasts_getLatestBlockhash (events : List GatewayEvent) :
    broadcasts (.getLatestBlockhash :: events) = broadcasts events := by
  simp [broadcasts, GatewayEvent.isBroadcast]

/-- Nothing is broadcast if no effect is a broadcast. -/
lemma broadcasts_eq_zero {events : List GatewayEvent}
    (h : ∀ event ∈ events, ∀ txBytes, event ≠ .sendRawTransaction txBytes) :
    broadcasts events = 0 := by
  apply List.countP_eq_zero.mpr
  intro event hevent
  cases event with
  | sendRawTransaction txBytes => exact absurd rfl (h _ hevent txBytes)
  | meshSend | getLatestBlockhash | getAccountInfo => simp [GatewayEvent.isBroadcast]

section Broadcasts

variable {F : Type} [Number F] {S : Solders}

/-- Broadcasting hands at most one transaction to the RPC node. -/
lemma broadcasts_broadcast_le (rpc : Rpc S) (txBytes : Bytes) :
    broadcasts (rpc.broadcast txBytes).1 ≤ 1 := by
  unfold Rpc.broadcast
  cases deserializeTransaction S txBytes <;> simp [broadcasts, GatewayEvent.isBroadcast]

/-- Creating a transfer broadcasts nothing. -/
lemma broadcasts_transfer (rpc : Rpc S) (keypair : S.Keypair) (req : TxRequest)
    (recentBlockhash : S.Blockhash) (dest : Pubkey) :
    broadcasts (rpc.transfer keypair req recentBlockhash dest).1 = 0 := by
  apply broadcasts_eq_zero
  rintro _ hmem txBytes rfl
  obtain ⟨address, heq⟩ := mem_transfer_calls hmem
  cases heq

/-- Every exit of the handler broadcasts at most one transaction. -/
lemma TxRequestExit.broadcasts_le {env : Moment S} {g : GatewayNode F S} {payload : Bytes}
    {calls : List GatewayEvent} {reply : Except Exn Reply}
    (h : TxRequestExit env g payload calls reply) : broadcasts calls ≤ 1 := by
  cases h with
  | noHotWallet | malformed | badSignature | notAllowed | unsupportedToken | amountExceeded
  | limitUndefined => simp
  | noBlockhash => simp
  | @notCreated keypair req recentBlockhash dest =>
    rw [broadcasts_getLatestBlockhash, broadcasts_transfer]
    exact Nat.zero_le 1
  | @broadcast keypair req recentBlockhash dest txBytes =>
    rw [broadcasts_getLatestBlockhash, broadcasts_append, broadcasts_transfer, Nat.zero_add]
    exact broadcasts_broadcast_le env.rpc txBytes

/-- **One request is broadcast at most once.**

**Proof sketch.** A request that is not admitted is answered by one frame. An admitted one makes the
calls of its exit, which broadcast at most once, and sends a reply, which broadcasts nothing. -/
lemma broadcasts_handleTxRequest_le (env : Moment S) (header : SolMeshHeader) (payload : Bytes)
    (senderId : String) (g : GatewayNode F S) :
    broadcasts (effects (handleTxRequest env header payload senderId) g) ≤ 1 := by
  unfold effects
  cases hadmits : g.admits env senderId with
  | false =>
    rw [stateAfter_handleTxRequest_of_not_admits hadmits]
    simp [broadcasts, GatewayEvent.isBroadcast]
  | true =>
    obtain ⟨calls, reply, sent, hexit, hafter, hsent⟩ :=
      stateAfter_handleTxRequest hadmits header payload
    have hzero : broadcasts sent = 0 := by
      apply broadcasts_eq_zero
      rintro _ hmem txBytes rfl
      obtain ⟨frame, heq⟩ := hsent _ hmem
      cases heq
    rw [hafter, GatewayNode.record_events, GatewayNode.limited_events, List.drop_left,
      broadcasts_append, hzero]
    exact hexit.broadcasts_le

omit [Number F] in
/-- One chunk causes at most one broadcast.

**Proof sketch.** What is sent on the mesh is no broadcast. Only data that are complete are
broadcast, and that once (`broadcasts_broadcast_le`). -/
lemma broadcasts_handleTxChunk_le (env : Moment S) (header : SolMeshHeader) (payload : Bytes)
    (senderId : String) (g : GatewayNode F S) :
    broadcasts (effects (handleTxChunk env header payload senderId) g) ≤ 1 := by
  have hsend : ∀ (frame : Bytes) (destinationId : String) (wantAck : Bool)
      (events : List GatewayEvent),
      broadcasts (.meshSend frame destinationId wantAck :: events) = broadcasts events := by
    intro frame destinationId wantAck events
    simp [broadcasts, GatewayEvent.isBroadcast]
  rw [effects_handleTxChunk]
  split_ifs
  · rw [hsend]
    split
    · simp
    · next data _ =>
      have hone := broadcasts_broadcast_le env.rpc data
      have hzero : broadcasts ((env.rpc.result data).sent env header.msgId senderId) = 0 := by
        unfold Reply.sent
        split_ifs
        · exact hsend _ _ _ []
        · rfl
      rw [broadcasts_append, hzero]
      exact hone
  · rw [hsend]
    exact Nat.zero_le 1

/-- The gateway after a frame was delivered: the handler of its type runs. A frame that cannot be
unpacked is dropped, and so is what a handler raises. -/
def GatewayNode.receive (env : Moment S) (frame : Bytes) (senderId : String)
    (g : GatewayNode F S) : GatewayNode F S :=
  match unpackMessage frame with
  | .error _ => g
  | .ok (header, payload) =>
    if header.msgType = MsgType.txChunk then
      stateAfter (handleTxChunk env header payload senderId) g
    else if header.msgType = MsgType.txRequest then
      stateAfter (handleTxRequest env header payload senderId) g
    else g

/-- What a delivered frame makes the gateway do. -/
def GatewayNode.effectsOf (env : Moment S) (frame : Bytes) (senderId : String)
    (g : GatewayNode F S) : List GatewayEvent :=
  (g.receive env frame senderId).events.drop g.events.length

/-- A frame with a chunk makes the gateway do what the handler of chunks does. -/
lemma GatewayNode.effectsOf_chunk {frame : Bytes} {header : SolMeshHeader}
    {payload : Bytes} (hunpack : unpackMessage frame = .ok (header, payload))
    (htype : header.msgType = MsgType.txChunk) (env : Moment S) (senderId : String)
    (g : GatewayNode F S) :
    g.effectsOf env frame senderId = effects (handleTxChunk env header payload senderId) g := by
  unfold GatewayNode.effectsOf GatewayNode.receive
  rw [hunpack]
  dsimp only
  rw [if_pos htype]
  rfl

/-- **A delivered frame causes at most one broadcast.** -/
lemma GatewayNode.broadcasts_effectsOf_le (env : Moment S) (frame : Bytes) (senderId : String)
    (g : GatewayNode F S) : broadcasts (g.effectsOf env frame senderId) ≤ 1 := by
  unfold GatewayNode.effectsOf GatewayNode.receive
  split
  · simp
  · split_ifs
    · exact broadcasts_handleTxChunk_le _ _ _ _ _
    · exact broadcasts_handleTxRequest_le _ _ _ _ _
    · simp

/-- **Only admitted chunks change the reassembler**: they are handed to it.

**Proof sketch.** Along the types of the messages: only the handler of chunks touches the
reassembler, after the rate limiter has admitted the chunk. -/
lemma GatewayNode.reassembler_receive_eq (env : Moment S) (frame : Bytes) (senderId : String)
    (g : GatewayNode F S) :
    (g.receive env frame senderId).reassembler =
      match unpackMessage frame with
      | .error _ => g.reassembler
      | .ok (header, payload) =>
        if header.msgType = MsgType.txChunk ∧ g.admits env senderId = true then
          (g.reassemble env header payload senderId).2
        else g.reassembler := by
  unfold GatewayNode.receive
  split
  · rfl
  · next header payload hunpack =>
    by_cases htype : header.msgType = MsgType.txChunk
    · rw [if_pos htype, reassembler_handleTxChunk]
      simp only [htype, true_and]
    · simp only [htype, false_and, if_false]
      split_ifs
      · cases hadmits : g.admits env senderId with
        | false =>
          rw [stateAfter_handleTxRequest_of_not_admits hadmits]
          rfl
        | true =>
          obtain ⟨_, _, _, _, hafter, _⟩ := stateAfter_handleTxRequest hadmits header payload
          rw [hafter]
          rfl
      · rfl

/-- The reassembler stays as it is, or is handed what the frame was unpacked to. -/
lemma GatewayNode.reassembler_receive (env : Moment S) (frame : Bytes) (senderId : String)
    (g : GatewayNode F S) :
    (g.receive env frame senderId).reassembler = g.reassembler ∨ ∃ header payload,
      unpackMessage frame = .ok (header, payload) ∧
        (g.receive env frame senderId).reassembler =
          (g.reassemble env header payload senderId).2 := by
  rw [GatewayNode.reassembler_receive_eq]
  cases hunpack : unpackMessage frame with
  | error e => exact Or.inl rfl
  | ok message =>
    dsimp only
    split_ifs
    · exact Or.inr ⟨message.1, message.2, rfl, rfl⟩
    · exact Or.inl rfl

end Broadcasts

end SolMesh
