import SolMesh.Foundations.Method
import SolMesh.Foundations.Dict
import SolMesh.Protocol.Payload
import SolMesh.Client.Flush

set_option relaxedAutoImplicit false
set_option autoImplicit false

/-!
# Results and acknowledgements at the client

The client keeps one result for each message id. The handlers of `NACK` and `TX_RESULT` messages
write it, and a wait takes it out.

## Main definitions

* `SolMesh.ClientNode` — acknowledged chunks and results.
* `SolMesh.handleAck`, `SolMesh.handleNack`, `SolMesh.handleTxResult` — the handlers.
* `SolMesh.ClientNode.receive` — the client after a frame was delivered to it.
* `SolMesh.ClientNode.reportOf`, `SolMesh.ClientNode.ackOf` — the result a frame reports, and the
  chunk it acknowledges.
* `SolMesh.ClientNode.Waits` — what a wait can return.

## Main results

* `SolMesh.ClientNode.results_receive`, `SolMesh.ClientNode.ackedChunks_receive` — what a delivered
  frame does to the results and to the acknowledged chunks.
-/

namespace SolMesh

open Py Text

/-- What the client remembers of its messages: the acknowledged chunks of the messages it tracks,
and the results. -/
structure ClientNode where
  ackedChunks : Dict ℕ (List ℕ)
  results : Dict ℕ TxOutcome

namespace ClientNode

/-- A client that was just started. -/
def new : ClientNode := ⟨∅, ∅⟩

/-- Record the result of a message. -/
def setResult (c : ClientNode) (msgId : ℕ) (outcome : TxOutcome) : ClientNode :=
  { c with results := c.results.set msgId outcome }

/-- Add a chunk to the acknowledged ones, if the message is tracked. -/
def ackChunk (c : ClientNode) (msgId chunkNum : ℕ) : ClientNode :=
  match c.ackedChunks.get? msgId with
  | some acked => { c with ackedChunks := c.ackedChunks.set msgId (acked ++ [chunkNum]) }
  | none => c

end ClientNode

/-! ## Handlers -/

/-- Track which chunks have been acknowledged. -/
def handleAck (payload : Bytes) : Method ClientNode Unit := do
  let ack ← ofExcept (decodeAck payload)
  modify fun c => c.ackChunk ack.ackedMsgId ack.ackedChunk

/-- Handle a `NACK` from the gateway: the message it names has failed. -/
def handleNack (payload : Bytes) : Method ClientNode Unit := do
  let nack ← ofExcept (decodeNack payload)
  modify fun c => c.setResult nack.nackedMsgId (.failure nack.errorMsg)

/-- Process a transaction result from the gateway. -/
def handleTxResult (payload : Bytes) : Method ClientNode Unit := do
  let result ← ofExcept (decodeTxResult payload)
  let text := decodeReplace result.data
  modify fun c => c.setResult result.origMsgId
    (if result.success then .success text else .failure text)

namespace ClientNode

/-- The client after a frame was delivered: the handler of its type runs. A frame that cannot be
unpacked is dropped, and so is what a handler raises. -/
def receive (c : ClientNode) (frame : Bytes) : ClientNode :=
  match unpackMessage frame with
  | .error _ => c
  | .ok (header, payload) =>
    if header.msgType = MsgType.ack then stateAfter (handleAck payload) c
    else if header.msgType = MsgType.nack then stateAfter (handleNack payload) c
    else if header.msgType = MsgType.txResult then stateAfter (handleTxResult payload) c
    else c

/-- The message a frame reports on, and its outcome, if the frame is a `NACK` or a `TX_RESULT`. -/
def reportOf (frame : Bytes) : Option (ℕ × TxOutcome) :=
  match unpackMessage frame with
  | .error _ => none
  | .ok (header, payload) =>
    if header.msgType = MsgType.nack then
      (decodeNack payload).toOption.map fun nack => (nack.nackedMsgId, .failure nack.errorMsg)
    else if header.msgType = MsgType.txResult then
      (decodeTxResult payload).toOption.map fun result => (result.origMsgId,
        if result.success then .success (decodeReplace result.data)
        else .failure (decodeReplace result.data))
    else none

/-- **What a delivered frame does to the results**: it sets the one it reports.

**Proof sketch.** Along the types the handlers are registered for. An ACK changes the chunks that
are acknowledged, a NACK and a TX_RESULT set the result they name if they can be decoded, and other
types nothing. -/
lemma results_receive (c : ClientNode) (frame : Bytes) :
    (c.receive frame).results =
      match reportOf frame with
      | some (msgId, outcome) => c.results.set msgId outcome
      | none => c.results := by
  unfold ClientNode.receive reportOf
  split
  · rfl
  · next header payload _ =>
    by_cases hack : header.msgType = MsgType.ack
    · have hnack : header.msgType ≠ MsgType.nack := by
        rw [hack]
        decide
      have hresult : header.msgType ≠ MsgType.txResult := by
        rw [hack]
        decide
      rw [if_pos hack, if_neg hnack, if_neg hresult]
      unfold handleAck
      cases decodeAck payload with
      | error e => rfl
      | ok ack =>
        change (c.ackChunk ack.ackedMsgId ack.ackedChunk).results = c.results
        unfold ackChunk
        split <;> rfl
    · rw [if_neg hack]
      split_ifs
      · unfold handleNack
        cases decodeNack payload <;> rfl
      · unfold handleTxResult
        cases decodeTxResult payload <;> rfl
      · rfl

/-- The message and the chunk a frame acknowledges, if the frame is an `ACK`. -/
def ackOf (frame : Bytes) : Option (ℕ × ℕ) :=
  match unpackMessage frame with
  | .error _ => none
  | .ok (header, payload) =>
    if header.msgType = MsgType.ack then
      (decodeAck payload).toOption.map fun ack => (ack.ackedMsgId, ack.ackedChunk)
    else none

/-- **What a delivered frame does to the acknowledged chunks**: it adds the one it names. -/
lemma ackedChunks_receive (c : ClientNode) (frame : Bytes) :
    (c.receive frame).ackedChunks =
      match ackOf frame with
      | some (msgId, chunkNum) => (c.ackChunk msgId chunkNum).ackedChunks
      | none => c.ackedChunks := by
  unfold ClientNode.receive ackOf
  split
  · rfl
  · next header payload _ =>
    by_cases hack : header.msgType = MsgType.ack
    · rw [if_pos hack, if_pos hack]
      unfold handleAck
      cases decodeAck payload <;> rfl
    · rw [if_neg hack, if_neg hack]
      split_ifs
      · unfold handleNack
        cases decodeNack payload <;> rfl
      · unfold handleTxResult
        cases decodeTxResult payload <;> rfl
      · rfl

/-- The acknowledged chunks of a message. -/
def ackedOf (c : ClientNode) (msgId : ℕ) : List ℕ := (c.ackedChunks.get? msgId).getD []

/-- A frame adds at most the chunk it acknowledges, and removes none.

**Proof sketch.** An acknowledgement adds its chunk under its own id, if the client keeps track of
this id, and changes nothing else (`ackedChunks_receive`). -/
lemma mem_ackedOf_receive {c : ClientNode} {frame : Bytes} {msgId i : ℕ} :
    (i ∈ c.ackedOf msgId → i ∈ (c.receive frame).ackedOf msgId) ∧
      (i ∈ (c.receive frame).ackedOf msgId →
        i ∈ c.ackedOf msgId ∨ ackOf frame = some (msgId, i)) := by
  unfold ackedOf
  rw [ackedChunks_receive]
  cases hack : ackOf frame with
  | none => exact ⟨id, Or.inl⟩
  | some ack =>
    obtain ⟨id, k⟩ := ack
    dsimp only
    unfold ackChunk
    cases hget : c.ackedChunks.get? id with
    | none => exact ⟨fun h => h, Or.inl⟩
    | some acked =>
      dsimp only
      by_cases hid : msgId = id
      · subst hid
        rw [Dict.get?_set_self, hget]
        simp only [Option.getD_some, List.mem_append, List.mem_singleton]
        exact ⟨Or.inl, Or.imp_right fun h => by rw [h]⟩
      · rw [Dict.get?_set_of_ne _ hid]
        exact ⟨fun h => h, Or.inl⟩

/-- What a wait for the result of a message can do: time out, or take the result out. -/
def Waits (msgId : UInt16) (c : ClientNode) (r : Option TxOutcome) (c' : ClientNode) : Prop :=
  (r = none ∧ c' = c) ∨
    ∃ outcome, c.results.get? msgId.toNat = some outcome ∧ r = some outcome ∧
      c' = { c with results := c.results.erase msgId.toNat }

end ClientNode

end SolMesh
