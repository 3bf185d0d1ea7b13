import SolMesh.Client.Retry
import SolMesh.Gateway.Broadcasts
import SolMesh.Gateway.TokenBucket
import SolMesh.Mesh.Robustness

set_option relaxedAutoImplicit false
set_option autoImplicit false

/-!
# Relayed transactions on the mesh

The composed system of Mode 1: a retry loop that sends the chunks of a signed transaction, a
gateway that puts them together and broadcasts the transaction, and a client that is told the
outcome. Frames can be lost, delayed and delivered again in both directions.

## Main definitions

* `SolMesh.RelayNet` — the client, the gateway, and the frames between them.
* `SolMesh.relayHost` — what can happen, and the operations of the retry loop.
* `SolMesh.GatewayNode.fails`, `SolMesh.GatewayNode.executes` — the branches a delivery can take.
* `SolMesh.GatewayNode.HasToken`, `SolMesh.GatewayNode.Awaits`, `SolMesh.Rpc.Accepts`,
  `SolMesh.Rpc.Rejects` — what decides which branch it takes.

## Main results

* `SolMesh.deliver_events`, `SolMesh.deliver_branches` — what the delivery of a chunk reports and
  broadcasts.
* `SolMesh.gathering_chunk` — which deliveries complete the transaction.
-/

namespace SolMesh

open Py Text Conc

variable {F : Type} [Number F] {S : Solders}

/-! ## What the gateway sends and broadcasts -/

/-- The frames handed to the mesh for a node. -/
def framesTo (destinationId : String) (events : List GatewayEvent) : List Bytes :=
  events.filterMap fun event => match event with
    | .meshSend frame dest _ => if dest = destinationId then some frame else none
    | _ => none

@[simp] lemma framesTo_meshSend (destinationId : String) (frame : Bytes) (wantAck : Bool)
    (events : List GatewayEvent) :
    framesTo destinationId (.meshSend frame destinationId wantAck :: events) =
      frame :: framesTo destinationId events := by
  simp [framesTo]

/-- The transactions that were handed to the RPC node and accepted by it. -/
def acceptedBy (rpc : Rpc S) (events : List GatewayEvent) : List Bytes :=
  events.filterMap fun event => match event with
    | .sendRawTransaction txBytes =>
      if (rpc.sendRawTransaction txBytes).isOk then some txBytes else none
    | _ => none

/-- The transaction that a frame completes, if it is a chunk that does. -/
def GatewayNode.completes (g : GatewayNode F S) (env : Moment S) (frame : Bytes)
    (senderId : String) : Option Bytes :=
  match unpackMessage frame with
  | .error _ => none
  | .ok (header, payload) => g.completed env header payload senderId

/-- Does the delivery of a chunk take a branch that reports a failure: is it refused by the rate
limiter, or does it complete a transaction that the RPC node rejects, with a text that can be
reported? -/
def GatewayNode.fails (g : GatewayNode F S) (env : Moment S) (frame : Bytes) (senderId : String) :
    Bool :=
  !g.admits env senderId || (g.completes env frame senderId).any fun data =>
    !(env.rpc.broadcast data).2.1 && decide (env.rpc.result data).Fits

/-- Does the delivery of a chunk complete a transaction that the RPC node accepts? -/
def GatewayNode.executes (g : GatewayNode F S) (env : Moment S) (frame : Bytes)
    (senderId : String) : Bool :=
  g.admits env senderId && (g.completes env frame senderId).any fun data =>
    (env.rpc.broadcast data).2.1

/-! ## What decides about a delivery -/

/-- **The bucket of a sender holds a token** when its tokens are refilled at this moment. -/
def GatewayNode.HasToken (g : GatewayNode F S) (env : Moment S) (senderId : String) : Prop :=
  1 ≤ ((g.rateLimiter.buckets.get? senderId).getD (TokenBucket.new g.rateLimiter.burst
    g.rateLimiter.refillRate env.bucketCreation)).refilled env.now

/-- **A frame carries the last missing chunk** of its message. -/
def GatewayNode.Awaits (g : GatewayNode F S) (env : Moment S) (frame : Bytes) (senderId : String) :
    Prop :=
  match unpackMessage frame with
  | .error _ => False
  | .ok (header, payload) => g.reassembler.Awaits ⟨env.clock, senderId, header.msgId.toNat,
      header.chunkNum.toNat, header.totalChunks.toNat, payload⟩

/-- **The RPC node accepts** the bytes: they are a transaction, and it answers with a signature. -/
def Rpc.Accepts (rpc : Rpc S) (txBytes : Bytes) : Prop :=
  (∃ tx, deserializeTransaction S txBytes = .ok tx) ∧
    ∃ sig, rpc.sendRawTransaction txBytes = .ok sig

/-- **The RPC node rejects** the bytes: they are no transaction, or it answers with an exception,
and the text of the exception fits a frame. -/
def Rpc.Rejects (rpc : Rpc S) (txBytes : Bytes) : Prop :=
  ∃ e, TextFits e.text ∧ (deserializeTransaction S txBytes = .error e ∨
    (∃ tx, deserializeTransaction S txBytes = .ok tx) ∧ rpc.sendRawTransaction txBytes = .error e)

omit [Number F] in
/-- The rate limiter admits whom it has a token for. -/
lemma GatewayNode.admits_iff (g : GatewayNode F S) (env : Moment S) (senderId : String) :
    g.admits env senderId = true ↔ g.HasToken env senderId := by
  unfold GatewayNode.admits GatewayNode.HasToken
  rw [(g.rateLimiter.isAllowed_eq senderId env.bucketCreation env.now).1, TokenBucket.consume_eq,
    decide_eq_true_iff]

/-- A broadcast succeeds if the RPC node accepts the bytes. -/
lemma Rpc.accepts_iff (rpc : Rpc S) (txBytes : Bytes) :
    (rpc.broadcast txBytes).2.1 = true ↔ rpc.Accepts txBytes := by
  unfold Rpc.broadcast Rpc.Accepts
  cases deserializeTransaction S txBytes with
  | error e => simp
  | ok tx => cases rpc.sendRawTransaction txBytes <;> simp

/-- A broadcast fails with a text that can be reported if the RPC node rejects the bytes. -/
lemma Rpc.rejects_iff (rpc : Rpc S) (txBytes : Bytes) :
    (rpc.broadcast txBytes).2.1 = false ∧ (rpc.result txBytes).Fits ↔ rpc.Rejects txBytes := by
  unfold Rpc.result Rpc.broadcast Rpc.Rejects Reply.Fits
  cases deserializeTransaction S txBytes with
  | error e => simp [Reply.text]
  | ok tx => cases rpc.sendRawTransaction txBytes <;> simp [Reply.text]

/-! ## The mesh -/

/-- The client and the gateway, the frames each has sent to the other so far, the transactions
broadcast successfully on chunks of the message, whether a branch was taken that reports a
failure of the message, and what waits for its result returned. -/
structure RelayNet (F : Type) (S : Solders) where
  client : ClientNode
  gateway : GatewayNode F S
  uplink : List Bytes
  downlink : List Bytes
  confirmed : List Bytes
  failed : Bool
  returned : List TxOutcome

namespace RelayNet

/-- Before the retry loop has sent anything. -/
def start (client : ClientNode) (gateway : GatewayNode F S) : RelayNet F S :=
  ⟨client, gateway, [], [], [], false, []⟩

/-- A frame of the message is delivered to the gateway. -/
def deliver (clientId : String) (s : RelayNet F S) (env : Moment S) (frame : Bytes) :
    RelayNet F S :=
  let effects := s.gateway.effectsOf env frame clientId
  { s with
    gateway := s.gateway.receive env frame clientId
    downlink := s.downlink ++ framesTo clientId effects
    confirmed := s.confirmed ++ acceptedBy env.rpc effects
    failed := s.failed || s.gateway.fails env frame clientId }

/-- The retry loop records a result. -/
def setResult (s : RelayNet F S) (msgId : ℕ) (outcome : TxOutcome) : RelayNet F S :=
  { s with client := s.client.setResult msgId outcome, failed := true }

/-- A frame is delivered to the client. -/
def reply (s : RelayNet F S) (frame : Bytes) : RelayNet F S :=
  { s with client := s.client.receive frame }

/-- What the gateway reported to the client so far. -/
def reports (s : RelayNet F S) : List (ℕ × TxOutcome) :=
  s.downlink.filterMap ClientNode.reportOf

end RelayNet

/-- The steps at which a run can go one way or the other: a frame of the message is delivered to
the gateway, or the retry loop gives up. -/
inductive RelayEvent (S : Solders)
  | deliver (env : Moment S) (frame : Bytes)
  | giveUp

/-- What can happen besides the retry loop: a frame of the message is delivered to the gateway,
for the first time or again, other frames are delivered to it, a frame is delivered to the client,
a wait for the result ends, and the client is busy with other messages. What the gateway sends in
reply to other frames goes to other nodes or names other messages; it is not followed. What it sends
in reply to a node without a name reaches all nodes, so such a node must not use the id of the
message. -/
inductive RelayMoves (clientId : String) (msgId : UInt16)
    (ok : RelayNet F S → RelayEvent S → Prop) : RelayNet F S → RelayNet F S → Prop
  | deliver {s : RelayNet F S} {frame : Bytes} {env : Moment S} (hmem : frame ∈ s.uplink)
      (hok : ok s (.deliver env frame)) :
      RelayMoves clientId msgId ok s (s.deliver clientId env frame)
  | foreign {s : RelayNet F S} {frame : Bytes} {env : Moment S} {senderId : String}
      (h : senderId = clientId ∨ senderId = "" → ∀ header payload,
        unpackMessage frame = .ok (header, payload) → header.msgId ≠ msgId) :
      RelayMoves clientId msgId ok s
        { s with gateway := s.gateway.receive env frame senderId }
  | reply {s : RelayNet F S} {frame : Bytes} (hmem : frame ∈ s.downlink) :
      RelayMoves clientId msgId ok s (s.reply frame)
  | wait {s : RelayNet F S} {r : Option TxOutcome} {client : ClientNode}
      (h : s.client.Waits msgId r client) :
      RelayMoves clientId msgId ok s
        { s with client := client, returned := s.returned ++ r.toList }
  | other {s : RelayNet F S} {client : ClientNode}
      (hacked : client.ackedChunks.get? msgId.toNat = s.client.ackedChunks.get? msgId.toNat)
      (hresult : client.results.get? msgId.toNat = s.client.results.get? msgId.toNat) :
      RelayMoves clientId msgId ok s { s with client := client }

/-- What the operations of the retry loop do. A frame that could not be sent may be on its way
nevertheless. -/
def relayExec (ok : RelayNet F S → RelayEvent S → Prop) :
    (op : RetryOp) → RelayNet F S → op.Ans → RelayNet F S → Prop
  | .send frame, s, r, s' =>
    s' = { s with uplink := s.uplink ++ [frame] } ∨ (r ≠ .ok true ∧ s' = s)
  | .sleep _, s, _, s' => s' = s
  | .acked msgId, s, r, s' => r = (s.client.ackedChunks.get? msgId).getD [] ∧ s' = s
  | .setResult msgId outcome, s, _, s' => ok s .giveUp ∧ s' = s.setResult msgId outcome

/-- The system in which the retry loop runs, restricted to steps that meet a condition. -/
def relayHost (clientId : String) (msgId : UInt16) (ok : RelayNet F S → RelayEvent S → Prop) :
    Host RetryOp RetryOp.Ans (RelayNet F S) where
  exec := relayExec ok
  others := RelayMoves clientId msgId ok
  crash _ _ := False

/-- A retry loop, if it still runs, and the state of the system. -/
abbrev Relaying (F : Type) (S : Solders) :=
  Host.Process RetryOp RetryOp.Ans (RelayNet F S) (Except Exn Unit)

/-- The second state is reached from the first by steps that meet the condition. No other retry
loop for the message is started. -/
def RelayRun (clientId : String) (msgId : UInt16) (ok : RelayNet F S → RelayEvent S → Prop)
    (c c' : Relaying F S) : Prop :=
  ∃ ls, (relayHost clientId msgId ok).Steps (fun _ => False) c ls c'

/-! ## Deliveries to the gateway -/

section Deliver

open ClientNode

/-- The outcome a reply reports. -/
def Reply.outcome : Reply → TxOutcome
  | .nack _ errorMsg => .failure errorMsg
  | .txResult true sigOrError => .success (decodeReplace (utf8 sigOrError))
  | .txResult false sigOrError => .failure (decodeReplace (utf8 sigOrError))

/-- A reply that fits reports its outcome to the client.

**Proof sketch.** The reply fits, so its frame is unpacked to its payload
(`unpackMessage_frameBytes_append`). The payload is decoded to the id and the outcome of the reply,
for both kinds of replies. -/
lemma reportOf_frame {r : Reply} (h : r.Fits) (replyId msgId : UInt16) :
    reportOf (r.frame replyId msgId) = some (msgId.toNat, r.outcome) := by
  have hlen : (r.prefixBytes msgId ++ utf8 r.text).length ≤ maxChunkData := by
    rw [length_reply_payload]
    exact h.2
  obtain ⟨checksum, hu⟩ := unpackMessage_frameBytes_append r.msgType replyId 0 1 [] hlen
  rw [List.append_nil] at hu
  unfold reportOf
  rw [Reply.frame, hu]
  dsimp only
  cases r with
  | nack errorCode errorMsg =>
    have hdecode : decodeNack (Bytes.toBE 2 msgId.toNat ++ [errorCode] ++ utf8 errorMsg) = _ :=
      decodeNack_reply h.1 msgId errorCode
    have htype : (Reply.nack errorCode errorMsg).msgType = MsgType.nack := rfl
    rw [if_pos htype, Reply.prefixBytes, Reply.text, hdecode]
    rfl
  | txResult success text =>
    have hdecode := decodeTxResult_reply msgId success (utf8 text)
    have hnack : (Reply.txResult success text).msgType ≠ MsgType.nack :=
      show MsgType.txResult ≠ MsgType.nack by decide
    have htype : (Reply.txResult success text).msgType = MsgType.txResult := rfl
    rw [if_neg hnack, if_pos htype, Reply.prefixBytes, Reply.text, hdecode]
    cases success <;> rfl

/-- An acknowledgement reports no outcome. -/
lemma reportOf_ackFrame (ackId : UInt16) (header : SolMeshHeader) :
    reportOf (ackFrame ackId header) = none := by
  have hlen : (Bytes.toBE 2 header.msgId.toNat ++ [header.chunkNum, 0]).length ≤ maxChunkData := by
    simp
  obtain ⟨checksum, hu⟩ := unpackMessage_frameBytes_append MsgType.ack ackId 0 1 [] hlen
  rw [List.append_nil] at hu
  unfold reportOf
  rw [ackFrame, hu]
  rfl

/-- A chunk of a message: the frame is unpacked to a chunk with the message id. -/
def IsChunkOf (msgId : UInt16) (frame : Bytes) : Prop :=
  ∃ header payload, unpackMessage frame = .ok (header, payload) ∧
    header.msgType = MsgType.txChunk ∧ header.msgId = msgId

/-- The frames that are sent for a transaction are chunks of the message. -/
lemma isChunkOf_of_mem {txBytes frame : Bytes} {msgId : UInt16}
    (h : frame ∈ chunkFrames txBytes MsgType.txChunk msgId) : IsChunkOf msgId frame := by
  obtain ⟨i, _, rfl⟩ := List.mem_map.mp h
  obtain ⟨checksum, hu⟩ := unpackMessage_frameBytes_append MsgType.txChunk msgId (UInt8.ofNat i)
    (UInt8.ofNat (numChunks txBytes.length)) [] (length_chunkAt_le txBytes i)
  rw [List.append_nil] at hu
  exact ⟨_, _, hu, rfl, rfl⟩

omit [Number F] in
/-- A broadcast sends nothing to the mesh, and the RPC node accepted the transaction exactly if
the broadcast is a success. -/
lemma broadcast_events (rpc : Rpc S) (data : Bytes) (destinationId : String) :
    framesTo destinationId (rpc.broadcast data).1 = [] ∧
      acceptedBy rpc (rpc.broadcast data).1 = if (rpc.broadcast data).2.1 then [data] else [] := by
  unfold Rpc.broadcast
  cases deserializeTransaction S data with
  | error e => exact ⟨rfl, rfl⟩
  | ok tx =>
    cases hsend : rpc.sendRawTransaction data with
    | error e => simp [framesTo, acceptedBy, hsend, Except.isOk, Except.toBool]
    | ok sig => simp [framesTo, acceptedBy, hsend, Except.isOk, Except.toBool]

omit [Number F] in
/-- What is reported to the node that is sent a reply. -/
lemma sent_events (r : Reply) (env : Moment S) (msgId : UInt16) (destinationId : String) :
    (framesTo destinationId (r.sent env msgId destinationId)).filterMap reportOf =
        (if r.Fits then [(msgId.toNat, r.outcome)] else []) ∧
      acceptedBy env.rpc (r.sent env msgId destinationId) = [] := by
  unfold Reply.sent
  split_ifs with hfits
  · simp [framesTo, acceptedBy, reportOf_frame hfits]
  · exact ⟨rfl, rfl⟩

/-- **What the delivery of a chunk reports** to the client, and which transaction is broadcast
successfully.

**Proof sketch.** A chunk that is refused is answered by one NACK, and one that is admitted by an
acknowledgement, which reports nothing. If it completes a transaction, the events of the broadcast
contain the accepted transaction (`broadcast_events`), and the result is sent if it fits
(`sent_events`). -/
lemma deliver_events {msgId : UInt16} {frame : Bytes} (h : IsChunkOf msgId frame) (env : Moment S)
    (clientId : String) (g : GatewayNode F S) :
    (framesTo clientId (g.effectsOf env frame clientId)).filterMap reportOf =
        (if g.admits env clientId then
          match g.completes env frame clientId with
          | none => []
          | some data => if (env.rpc.result data).Fits then
              [(msgId.toNat, (env.rpc.result data).outcome)] else []
        else [(msgId.toNat, rateLimitedReply.outcome)]) ∧
      acceptedBy env.rpc (g.effectsOf env frame clientId) =
        if g.admits env clientId then
          match g.completes env frame clientId with
          | none => []
          | some data => if (env.rpc.broadcast data).2.1 then [data] else []
        else [] := by
  obtain ⟨header, payload, hunpack, htype, rfl⟩ := h
  have hcompletes : g.completes env frame clientId = g.completed env header payload clientId := by
    unfold GatewayNode.completes
    rw [hunpack]
  rw [GatewayNode.effectsOf_chunk hunpack htype, effects_handleTxChunk, hcompletes]
  have hack := reportOf_ackFrame env.ackId header
  split_ifs
  · cases g.completed env header payload clientId with
    | none => simp [framesTo, acceptedBy, hack]
    | some data =>
      obtain ⟨hframes, haccepted⟩ := broadcast_events env.rpc data clientId
      obtain ⟨hreports, hnone⟩ := sent_events (env.rpc.result data) env header.msgId clientId
      constructor
      · dsimp only
        rw [← hreports]
        unfold framesTo at hframes ⊢
        simp [hframes, hack]
      · dsimp only
        rw [← haccepted]
        unfold acceptedBy at hnone ⊢
        simp [hnone]
  · have hreport := reportOf_frame rateLimitedReply_fits env.replyId header.msgId
    simp [framesTo, acceptedBy, hreport]

/-- The branches of a delivery: a failure is reported exactly in those that report one, and
something is broadcast successfully exactly in the one that executes the transaction, which is the
only one that reports a success. -/
lemma deliver_branches {msgId : UInt16} {frame : Bytes} (h : IsChunkOf msgId frame)
    (env : Moment S) (clientId : String) (g : GatewayNode F S) :
    let reports := (framesTo clientId (g.effectsOf env frame clientId)).filterMap reportOf
    (g.fails env frame clientId = true ↔ ∃ error, (msgId.toNat, .failure error) ∈ reports) ∧
      (g.executes env frame clientId = true ↔
        acceptedBy env.rpc (g.effectsOf env frame clientId) ≠ []) ∧
      ∀ signature, (msgId.toNat, .success signature) ∈ reports →
        g.executes env frame clientId = true := by
  obtain ⟨hreports, haccepted⟩ := deliver_events h env clientId g
  dsimp only
  rw [hreports, haccepted]
  unfold GatewayNode.fails GatewayNode.executes
  cases g.admits env clientId with
  | false => simp [rateLimitedReply, Reply.outcome]
  | true =>
    cases g.completes env frame clientId with
    | none => simp
    | some data =>
      cases hsuccess : (env.rpc.broadcast data).2.1 with
      | true => simp [hsuccess, Rpc.result, Reply.outcome]
      | false => simp [hsuccess, Rpc.result, Reply.outcome]

/-- The call of `receive_chunk` for a chunk of the message. -/
def chunkCall (txBytes : Bytes) (clientId : String) (msgId : UInt16) (env : Moment S) (i : ℕ) :
    ChunkCall :=
  ⟨env.clock, clientId, msgId.toNat, i, numChunks txBytes.length, chunkAt txBytes i⟩

omit [Number F] in
/-- The gateway hands it to the reassembler. -/
lemma reassemble_chunk {txBytes : Bytes} {msgId : UInt16} {i : ℕ} {header : SolMeshHeader}
    (hid : header.msgId = msgId) (hnum : header.chunkNum.toNat = i)
    (htotal : header.totalChunks.toNat = numChunks txBytes.length) (g : GatewayNode F S)
    (env : Moment S) (clientId : String) :
    g.reassemble env header (chunkAt txBytes i) clientId =
      g.reassembler.receive (chunkCall txBytes clientId msgId env i) := by
  unfold GatewayNode.reassemble chunkCall ChunkReassembler.receive
  dsimp only
  rw [hid, hnum, htotal]

omit [Number F] in
/-- The transaction that it completes is what the reassembler returns. -/
lemma completes_chunkFrame {txBytes : Bytes} {i : ℕ}
    (hlen : txBytes.length ≤ 255 * maxChunkData) (hi : i < numChunks txBytes.length)
    (g : GatewayNode F S) (env : Moment S) (clientId : String) (msgId : UInt16) (data : Bytes) :
    g.completes env (chunkFrame txBytes MsgType.txChunk msgId i) clientId = some data ↔
      (g.reassembler.receive (chunkCall txBytes clientId msgId env i)).1 = .ok (some data) := by
  obtain ⟨header, hu, _, hid, hnum, htotal⟩ :=
    unpackMessage_chunkFrame MsgType.txChunk msgId hlen hi
  unfold GatewayNode.completes
  rw [hu]
  unfold GatewayNode.completed
  dsimp only
  rw [reassemble_chunk hid hnum htotal]
  split
  · next answer hanswer => rw [hanswer, Except.ok.injEq]
  · next e he => rw [he]; simp

/-- **The gateway gathers the message**: what it keeps under the key, if anything, are chunks of the
transaction, and can be completed. -/
structure Gathering (txBytes : Bytes) (key : String × ℕ) (r : ChunkReassembler) : Prop where
  collecting : Collecting txBytes key r
  healthy : r.HealthyAt key

/-- Nothing is kept at first. -/
lemma gathering_of_none {txBytes : Bytes} {key : String × ℕ} {r : ChunkReassembler}
    (h : r.buffers.get? key = none) : Gathering txBytes key r :=
  ⟨fun _ hbuf => absurd (h.symm.trans hbuf) (by simp),
    fun _ hbuf => absurd (h.symm.trans hbuf) (by simp)⟩

/-- The call for a chunk of the message is in range. -/
lemma Gathering.inRange {txBytes : Bytes} {key : String × ℕ} {r : ChunkReassembler} {c : ChunkCall}
    (h : Gathering txBytes key r) (hkey : c.key = key) (htotal : c.totalChunks =
      numChunks txBytes.length) (hlt : c.chunkNum < numChunks txBytes.length) : InRange r c := by
  rw [InRange, hkey]
  cases hlive : r.live c key with
  | none => exact htotal ▸ hlt
  | some buf =>
    rw [Option.elim_some, (h.collecting buf (live_eq_some hlive).1).1]
    exact hlt

/-- **A chunk of the message** keeps the gateway gathering it. It completes the transaction and
nothing else, and does so exactly if it is the last one missing.

**Proof sketch.** The chunk is that of a call with a number in range and the right total, so the
reassembler keeps collecting this message, and returns nothing but it (`Collecting.receive_of_eq`).
It returns at all exactly if the chunk is the last one missing (`returns_iff_awaits`). -/
lemma gathering_chunk {txBytes : Bytes} {msgId : UInt16} {clientId : String}
    {g : GatewayNode F S} (hlen : txBytes.length ≤ 255 * maxChunkData)
    (h : Gathering txBytes (clientId, msgId.toNat) g.reassembler) {frame : Bytes}
    (hframe : frame ∈ chunkFrames txBytes MsgType.txChunk msgId) (env : Moment S) :
    Gathering txBytes (clientId, msgId.toNat) (g.receive env frame clientId).reassembler ∧
      ∀ data, g.completes env frame clientId = some data ↔
        data = txBytes ∧ g.Awaits env frame clientId := by
  obtain ⟨i, hi, rfl⟩ := List.mem_map.mp hframe
  have hlt := List.mem_range.mp hi
  obtain ⟨header, hu, _, hid, hnum, htotal⟩ :=
    unpackMessage_chunkFrame MsgType.txChunk msgId hlen hlt
  obtain ⟨hkept, hdata⟩ :=
    h.collecting.receive_of_eq (c := chunkCall txBytes clientId msgId env i) rfl rfl rfl hlt
  have hin : InRange g.reassembler (chunkCall txBytes clientId msgId env i) :=
    h.inRange rfl rfl hlt
  have hawaits : g.Awaits env (chunkFrame txBytes MsgType.txChunk msgId i) clientId ↔
      g.reassembler.Awaits (chunkCall txBytes clientId msgId env i) := by
    unfold GatewayNode.Awaits chunkCall
    rw [hu]
    dsimp only
    rw [hid, hnum, htotal]
  constructor
  · rcases g.reassembler_receive env (chunkFrame txBytes MsgType.txChunk msgId i) clientId with
      hsame | ⟨header', payload, hunpack, hreceived⟩
    · rw [hsame]
      exact h
    · obtain ⟨rfl, rfl⟩ := Prod.mk.inj (Except.ok.inj (hu.symm.trans hunpack))
      rw [hreceived, reassemble_chunk hid hnum htotal]
      exact ⟨hkept, h.healthy.receive fun _ => hin⟩
  · intro data
    have hcompletes := completes_chunkFrame hlen hlt g env clientId msgId
    rw [hawaits, ← returns_iff_awaits h.healthy hin]
    constructor
    · intro hdone
      have hreturned := (hcompletes data).mp hdone
      exact ⟨hdata data hreturned, data, hreturned⟩
    · rintro ⟨rfl, data', hreturned⟩
      rw [hdata data' hreturned] at hreturned
      exact (hcompletes data).mpr hreturned

/-- Frames of other messages leave what the gateway keeps for the message, or make it drop it. -/
lemma gathering_foreign {txBytes : Bytes} {msgId : UInt16} {clientId senderId : String}
    {g : GatewayNode F S} (h : Gathering txBytes (clientId, msgId.toNat) g.reassembler)
    {frame : Bytes} (hforeign : senderId = clientId → ∀ header payload,
      unpackMessage frame = .ok (header, payload) → header.msgId ≠ msgId) (env : Moment S) :
    Gathering txBytes (clientId, msgId.toNat) (g.receive env frame senderId).reassembler := by
  rcases g.reassembler_receive env frame senderId with hsame | ⟨header, payload, hunpack, hreceived⟩
  · rw [hsame]
    exact h
  · rw [hreceived]
    have hne : (senderId, header.msgId.toNat) ≠ (clientId, msgId.toNat) := by
      intro hkey
      obtain ⟨hsender, hid⟩ := Prod.mk.inj hkey
      exact hforeign hsender header payload hunpack (UInt16.toNat_inj.mp hid)
    exact ⟨h.collecting.receive_of_ne (c := ⟨env.clock, senderId, header.msgId.toNat,
      header.chunkNum.toNat, header.totalChunks.toNat, payload⟩) hne,
      h.healthy.receive (c := ⟨env.clock, senderId, header.msgId.toNat, header.chunkNum.toNat,
        header.totalChunks.toNat, payload⟩) fun heq => absurd heq hne⟩

end Deliver

end SolMesh
