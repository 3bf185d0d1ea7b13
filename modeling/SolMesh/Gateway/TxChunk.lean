import SolMesh.Gateway.TxRequest

set_option relaxedAutoImplicit false
set_option autoImplicit false

/-!
# What the handler of transaction chunks does

A chunk beyond the rate limit is refused. Any other chunk is acknowledged and handed to the
reassembler; the chunk that completes a transaction broadcasts it and reports the outcome.

## Main definitions

* `SolMesh.ackFrame` — the acknowledgement of a chunk.
* `SolMesh.GatewayNode.received` — the gateway after a chunk was acknowledged and handed over.

## Main results

* `SolMesh.handleTxChunk_cases` — what a run of the handler does.
* `SolMesh.stateAfter_handleTxChunk` — the gateway after it.
-/

namespace SolMesh

open Py Text

section TxChunk

variable {F : Type} {S : Solders}

/-- The acknowledgement of a chunk. -/
def ackFrame (ackId : UInt16) (header : SolMeshHeader) : Bytes :=
  frameBytes MsgType.ack ackId 0 1 (Bytes.toBE 2 header.msgId.toNat ++ [header.chunkNum, 0])

/-- What the reassembler makes of a chunk. -/
def GatewayNode.reassemble (g : GatewayNode F S) (env : Moment S) (header : SolMeshHeader)
    (payload : Bytes) (senderId : String) : Except Exn (Option Bytes) × ChunkReassembler :=
  g.reassembler.receiveChunk env.clock senderId header.msgId.toNat header.chunkNum.toNat
    header.totalChunks.toNat payload

/-- The gateway after it acknowledged a chunk and handed it to the reassembler. -/
def GatewayNode.received (g : GatewayNode F S) (env : Moment S) (header : SolMeshHeader)
    (payload : Bytes) (senderId : String) : GatewayNode F S :=
  { (g.limited env senderId).record [.meshSend (ackFrame env.ackId header) senderId false] with
    reassembler := (g.reassemble env header payload senderId).2 }

@[simp] lemma GatewayNode.received_events (g : GatewayNode F S) (env : Moment S)
    (header : SolMeshHeader) (payload : Bytes) (senderId : String) :
    (g.received env header payload senderId).events =
      g.events ++ [.meshSend (ackFrame env.ackId header) senderId false] := rfl

/-- The reply that reports the outcome of a broadcast. -/
def Rpc.result (rpc : Rpc S) (txBytes : Bytes) : Reply :=
  .txResult (rpc.broadcast txBytes).2.1 (rpc.broadcast txBytes).2.2

/-- The acknowledgement of a chunk is always sent. -/
lemma run_sendAck (env : Moment S) (header : SolMeshHeader) (senderId : String)
    (g : GatewayNode F S) :
    encodeAck header.msgId.toNat header.chunkNum.toNat 0 =
        .ok (Bytes.toBE 2 header.msgId.toNat ++ [header.chunkNum, 0]) ∧
      (sendMessage MsgType.ack env.ackId (Bytes.toBE 2 header.msgId.toNat ++ [header.chunkNum, 0])
        senderId false).run g =
          .ok () (g.record [.meshSend (ackFrame env.ackId header) senderId false]) := by
  constructor
  · have hzero : packB 0 = .ok [0] := rfl
    rw [encodeAck, packH_uint16, packB_uint8, hzero]
    simp [pure, Except.pure]
  · exact sendMessage_of_le (by simp) _ _ _ _ _

/-- **What a run of the handler does.**

**Proof sketch.** The program is run step by step: the check of the limit, the acknowledgement, the
reassembler, which may raise, and the broadcast with its reply, if it gives data. -/
theorem handleTxChunk_cases (env : Moment S) (header : SolMeshHeader) (payload : Bytes)
    (senderId : String) (g : GatewayNode F S) :
    (handleTxChunk env header payload senderId).run g =
      if g.admits env senderId then
        match (g.reassemble env header payload senderId).1 with
        | .error e => .error e (g.received env header payload senderId)
        | .ok none => .ok () (g.received env header payload senderId)
        | .ok (some data) => (sendReply env header.msgId (env.rpc.result data) senderId).run
            ((g.received env header payload senderId).record (env.rpc.broadcast data).1)
      else .ok () ((g.limited env senderId).record
        [.meshSend (rateLimitedReply.frame env.replyId header.msgId) senderId true]) := by
  have hlimit := run_checkRateLimit env senderId header.msgId g
  obtain ⟨hack, hsend⟩ := run_sendAck env header senderId (g.limited env senderId)
  unfold handleTxChunk
  split_ifs with hadmits
  swap
  · rw [if_neg hadmits] at hlimit
    rw [run_bind_ok hlimit]
    rfl
  rw [if_pos hadmits] at hlimit
  rw [run_bind_ok hlimit, Bool.not_true, if_neg Bool.false_ne_true, hack,
    run_bind_ok (run_ofExcept_ok _ _), run_bind_ok hsend, EStateM.run_bind, EStateM.run_get]
  dsimp only
  rw [EStateM.run_bind, EStateM.run_set]
  dsimp only
  change EStateM.run ((ofExcept (g.reassemble env header payload senderId).1 :
    Method (GatewayNode F S) (Option Bytes)) >>= _) (g.received env header payload senderId) = _
  cases (g.reassemble env header payload senderId).1 with
  | error e => exact run_bind_error (run_ofExcept_error _ _) _
  | ok answer =>
    rw [run_bind_ok (run_ofExcept_ok _ _)]
    cases answer with
    | none => rfl
    | some data => exact run_bind_ok (run_broadcastToSolana env data _) _

/-- The transaction that a chunk completes, if it completes one. -/
def GatewayNode.completed (g : GatewayNode F S) (env : Moment S) (header : SolMeshHeader)
    (payload : Bytes) (senderId : String) : Option Bytes :=
  match (g.reassemble env header payload senderId).1 with
  | .ok data => data
  | .error _ => none

/-- **What the handler leaves behind**, whether it returned or raised: a chunk is refused, or
handed to the reassembler; the transaction it completes is broadcast, and the outcome reported if
that is possible. -/
lemma stateAfter_handleTxChunk (env : Moment S) (header : SolMeshHeader) (payload : Bytes)
    (senderId : String) (g : GatewayNode F S) :
    stateAfter (handleTxChunk env header payload senderId) g =
      if g.admits env senderId then
        match g.completed env header payload senderId with
        | none => g.received env header payload senderId
        | some data => ((g.received env header payload senderId).record
            (env.rpc.broadcast data).1).record
              ((env.rpc.result data).sent env header.msgId senderId)
      else (g.limited env senderId).record
        [.meshSend (rateLimitedReply.frame env.replyId header.msgId) senderId true] := by
  have hcases := handleTxChunk_cases env header payload senderId g
  unfold GatewayNode.completed
  split_ifs at hcases ⊢ with hadmits
  · split at hcases
    · next e he => rw [stateAfter_of_error hcases, he]
    · next hnone => rw [stateAfter_of_ok hcases, hnone]
    · next data hdata =>
      rw [hdata]
      dsimp only
      rw [← stateAfter_sendReply, stateAfter, stateAfter, hcases]
  · exact stateAfter_of_ok hcases

/-- The effects of the handler. -/
lemma effects_handleTxChunk (env : Moment S) (header : SolMeshHeader) (payload : Bytes)
    (senderId : String) (g : GatewayNode F S) :
    effects (handleTxChunk env header payload senderId) g =
      if g.admits env senderId then
        .meshSend (ackFrame env.ackId header) senderId false ::
          match g.completed env header payload senderId with
          | none => []
          | some data => (env.rpc.broadcast data).1 ++
              (env.rpc.result data).sent env header.msgId senderId
      else [.meshSend (rateLimitedReply.frame env.replyId header.msgId) senderId true] := by
  rw [effects, stateAfter_handleTxChunk]
  split_ifs
  · cases g.completed env header payload senderId <;> simp
  · simp

/-- The reassembler after the handler: it was handed the chunk, unless the chunk was refused. -/
lemma reassembler_handleTxChunk (env : Moment S) (header : SolMeshHeader) (payload : Bytes)
    (senderId : String) (g : GatewayNode F S) :
    (stateAfter (handleTxChunk env header payload senderId) g).reassembler =
      if g.admits env senderId then (g.reassemble env header payload senderId).2
      else g.reassembler := by
  rw [stateAfter_handleTxChunk]
  split_ifs
  · cases g.completed env header payload senderId <;> rfl
  · rfl

end TxChunk

end SolMesh
