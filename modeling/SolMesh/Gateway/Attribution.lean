import SolMesh.Gateway.Reactions

set_option relaxedAutoImplicit false
set_option autoImplicit false

/-!
# Why a gateway broadcasts

A gateway that runs for long receives packets from many nodes and requests over HTTP, in any
order. Whatever it hands to the RPC node in such a run, it does for a reason that does not depend
on what happened in between: somebody sent all chunks of the transaction, or the owner of an
allowed key signed a request for it, or a caller with the key submitted it.

## Main definitions

* `SolMesh.Gateway.ChunkFrom` — a packet that brings a chunk of a message.
* `SolMesh.Gateway.Attributed` — the reasons to broadcast a transaction.

## Main results

* `SolMesh.Gateway.exists_chunks_of_completed` — a completed transaction consists of chunks that
  were received.
* `SolMesh.broadcasts_attributed` — in every run, whatever is broadcast has one of the reasons.
* `SolMesh.frames_to_le` — in every run, a node is sent at most two frames for each of its packets.
-/

namespace SolMesh

open Py Text

variable {F : Type} {S : Solders}

namespace Gateway

/-- The input is a packet from the sender that brings this chunk of the message. -/
def ChunkFrom (senderId : String) (msgId : UInt16) (chunkNum : ℕ) (payload : Bytes)
    (input : GatewayInput F S) : Prop :=
  ∃ env packet header, input = .packet env packet ∧ packet.senderId = senderId ∧
    packet.message = some (header, payload) ∧ header.msgType = MsgType.txChunk ∧
    header.msgId = msgId ∧ header.chunkNum.toNat = chunkNum

variable [Number F] [LT F] [DecidableLT F]

/-- **The reasons to broadcast a transaction** at an input that comes after others, for a gateway
that was started as `gw`: all its chunks were received from the sender of the last one; or a request
for it passes all checks; or a caller with the key submits it and it is within the limits. -/
inductive Attributed (gw : Gateway F S) (before : List (GatewayInput F S)) :
    GatewayInput F S → Bytes → Prop
  | relayed {env : Surroundings S} {packet : Packet} {header : SolMeshHeader} {payload : Bytes}
      {total : ℕ} {part : ℕ → Bytes} (hmessage : packet.message = some (header, payload))
      (htype : header.msgType = MsgType.txChunk)
      (hpart : ∀ i < total, ∃ input ∈ before ++ [.packet env packet],
        ChunkFrom packet.senderId header.msgId i (part i) input) :
      Attributed gw before (.packet env packet) ((List.range total).flatMap part)
  | requested {env : Surroundings S} {packet : Packet} {header : SolMeshHeader}
      {payload txBytes : Bytes} {keypair : S.Keypair} {req : TxRequest}
      {recentBlockhash : S.Blockhash} (hmessage : packet.message = some (header, payload))
      (htype : header.msgType = MsgType.txRequest) (hadm : Admitted gw.node payload keypair req)
      (htx : IsTransferOf S keypair req recentBlockhash txBytes) :
      Attributed gw before (.packet env packet) txBytes
  | submitted {env : Surroundings S} {xApiKey : String} {req : TransferRequest F}
      {txBytes : Bytes} (hkey : gw.config.key = some xApiKey)
      (htransfer : IsAdmittedTransfer env.toMoment gw.node req txBytes) :
      Attributed gw before (.http env xApiKey (.transfer req)) txBytes

section Setup

variable {gw gw' : Gateway F S}

omit [LT F] [DecidableLT F] in
/-- The checks of a request depend on the setup only. -/
lemma SameSetup.admitted (h : SameSetup gw gw') {payload : Bytes} {keypair : S.Keypair}
    {req : TxRequest} (hadm : Admitted gw'.node payload keypair req) :
    Admitted gw.node payload keypair req := by
  obtain ⟨hkey, hreq, hauth, hamount⟩ := hadm
  rw [h.hotKeypair] at hkey
  rw [h.limits] at hauth hamount
  exact ⟨hkey, hreq, hauth, hamount⟩

/-- So do those of a transfer over HTTP. -/
lemma SameSetup.isAdmittedTransfer (h : SameSetup gw gw') {env : Moment S}
    {req : TransferRequest F} {txBytes : Bytes}
    (htx : IsAdmittedTransfer env gw'.node req txBytes) :
    IsAdmittedTransfer env gw.node req txBytes := by
  unfold IsAdmittedTransfer at htx ⊢
  rw [h.hotKeypair, h.limits] at htx
  exact htx

end Setup

/-! ## Relayed transactions -/

section Relayed

variable {H : Hashes S} {gw : Gateway F S} {env : Surroundings S} {packet : Packet}
  {header : SolMeshHeader} {payload txBytes : Bytes}

omit [Number F] [LT F] [DecidableLT F] in
/-- A chunk in an input was brought by a packet. -/
lemma chunkFrom_of_chunkCall {input : GatewayInput F S} {c : ChunkCall} {msgId : UInt16}
    (hcall : input.chunkCall = some c) (hid : c.msgId = msgId.toNat) :
    ChunkFrom c.senderId msgId c.chunkNum c.payload input := by
  cases input with
  | beacon => cases hcall
  | http => cases hcall
  | packet env packet =>
    unfold GatewayInput.chunkCall at hcall
    dsimp only at hcall
    cases hmessage : packet.message with
    | none => rw [hmessage] at hcall; cases hcall
    | some message =>
      rw [hmessage] at hcall
      dsimp only at hcall
      split_ifs at hcall with htype
      cases hcall
      exact ⟨env, packet, message.1, rfl, rfl, hmessage, htype, UInt16.toNat_inj.mp hid, rfl⟩

/-- **A completed transaction consists of chunks that were received**: all of them, in the order of
their numbers, from the sender of the chunk that completes it and under the same id.

**Proof sketch.** The data returned are put together of the latest chunk for each number since the
buffer was opened (`exists_latest_of_returns`). Each was handed over by an input
(`exists_of_mem_chunkCalls`), and has the key of the completing one, so the same sender and id. -/
lemma exists_chunks_of_completed {before : List (GatewayInput F S)}
    (hempty : gw.node.reassembler = ∅) (hmessage : packet.message = some (header, payload))
    (htype : header.msgType = MsgType.txChunk)
    (h : (gw.after H before).node.completed env.toMoment header payload packet.senderId =
      some txBytes) :
    ∃ total part, txBytes = (List.range total).flatMap part ∧
      ∀ i < total, ∃ input ∈ before ++ [.packet env packet],
        ChunkFrom packet.senderId header.msgId i (part i) input := by
  have hcall := chunkCall_packet (F := F) env hmessage htype
  let c : ChunkCall := ⟨env.clock, packet.senderId, header.msgId.toNat, header.chunkNum.toNat,
    header.totalChunks.toNat, payload⟩
  have hreturns : (((∅ : ChunkReassembler).after (gw.chunkCalls H before)).receive c).1 =
      .ok (some txBytes) := by
    unfold GatewayNode.completed GatewayNode.reassemble at h
    rw [reassembler_after, hempty] at h
    split at h
    · next data hdata => exact hdata.trans (congrArg Except.ok h)
    · cases h
  obtain ⟨p, o, q, hcalls, _, _, part, hpart, hdata⟩ := exists_latest_of_returns hreturns
  refine ⟨_, fun i => (part i).payload, hdata, fun i hi => ?_⟩
  obtain ⟨hmem, hkey, hnum⟩ := latestCall_eq_some (hpart i hi)
  obtain ⟨hsender, hid⟩ := Prod.mk.inj hkey
  have hmem' : part i ∈ gw.chunkCalls H before ++ [c] := by
    rw [hcalls]
    exact List.mem_append_right p hmem
  have hinput : ∃ input ∈ before ++ [.packet env packet], input.chunkCall = some (part i) := by
    rcases List.mem_append.mp hmem' with hbefore | hlast
    · obtain ⟨input, hin, hinput⟩ := exists_of_mem_chunkCalls H gw hbefore
      exact ⟨input, List.mem_append_left _ hin, hinput⟩
    · rw [List.mem_singleton.mp hlast]
      exact ⟨_, List.mem_append_right _ (List.mem_singleton.mpr rfl), hcall⟩
  obtain ⟨input, hin, hinput⟩ := hinput
  have hfrom : ChunkFrom (part i).senderId header.msgId (part i).chunkNum (part i).payload input :=
    chunkFrom_of_chunkCall hinput hid
  rw [hsender, hnum] at hfrom
  exact ⟨input, hin, hfrom⟩

end Relayed

end Gateway

/-! ## Whole runs -/

section Whole

open Gateway

variable [Number F] [LT F] [DecidableLT F] {H : Hashes S} {gw : Gateway F S}

omit [Number F] [LT F] [DecidableLT F] in
/-- A gateway that was just started has received no chunks. -/
lemma reassembler_start {wallets : WalletManager S} {config : ServiceConfig F} {passphrase : Text}
    {now : ℚ} (h : Gateway.start wallets config passphrase now = .ok gw) :
    gw.node.reassembler = ∅ := by
  obtain ⟨hotKeypair, rfl, _⟩ := exists_of_start h
  rfl

/-- **Whatever a gateway broadcasts has a reason.** In every run of a gateway, from its start on and
with packets and requests of any senders in any order: a transaction that is handed to the RPC node
at an input passed the rate limiter, and it consists of chunks that the sender of this input sent
under one id, or it is the transfer that a request with a valid signature of an allowed key asks
for, within the limits, or it is a transfer within the limits that a caller with the key
submits.

**Proof sketch.** A broadcast at an input was granted a token, and has one of three causes
(`justified_reaction`). A completed transaction consists of chunks that were received
(`exists_chunks_of_completed`); for the other two the setup, which no input changes, is that of the
start. -/
theorem broadcasts_attributed {wallets : WalletManager S} {config : ServiceConfig F}
    {passphrase : Text} {now : ℚ} (hstart : Gateway.start wallets config passphrase now = .ok gw)
    (before : List (GatewayInput F S)) (input : GatewayInput F S) (txBytes : Bytes)
    (hsend : .sendRawTransaction txBytes ∈ (gw.after H before).reaction H input) :
    (gw.after H before).grants input = true ∧ Attributed gw before input txBytes := by
  have hsetup := sameSetup_after H gw before
  obtain ⟨hgrants, hcauses⟩ := (justified_reaction H (gw.after H before) input).caused _ hsend
  refine ⟨hgrants, ?_⟩
  cases hcauses with
  | completes hmessage htype hcompleted =>
    obtain ⟨total, part, rfl, hpart⟩ :=
      exists_chunks_of_completed (reassembler_start hstart) hmessage htype hcompleted
    exact .relayed hmessage htype hpart
  | requests hmessage htype hadm htx => exact .requested hmessage htype (hsetup.admitted hadm) htx
  | submits haccepts htransfer =>
    have hkey := ServiceConfig.key_of_accepts haccepts
    rw [hsetup.config] at hkey
    exact .submitted hkey (hsetup.isAdmittedTransfer htransfer)

/-- A transaction in one chunk. -/
def sampleChunkPacket : Packet :=
  .ofFrame (frameBytes MsgType.txChunk 5 0 1 (sampleTransaction 5)) "!a"

set_option maxRecDepth 2000 in
/-- The sample gateway broadcasts it because all its chunks were received. -/
theorem broadcasts_attributed_one_chunk :
    Attributed sampleService [] (.packet sampleSurroundings sampleChunkPacket)
      (sampleTransaction 5) :=
  (broadcasts_attributed (H := sampleHashes) start_sampleService []
    (.packet sampleSurroundings sampleChunkPacket) (sampleTransaction 5) (by decide +kernel)).2

/-- The frames that are sent to a node. -/
def frameCount (nodeId : String) (events : List GatewayEvent) : ℕ :=
  events.countP fun event => match event with
    | .meshSend _ destinationId _ => decide (destinationId = nodeId)
    | _ => false

/-- A packet comes from a node. -/
def GatewayInput.isFrom (nodeId : String) (input : GatewayInput F S) : Bool :=
  match input with
  | .packet _ p => decide (p.senderId = nodeId)
  | _ => false

/-- Frames to one node are frames. -/
lemma frameCount_le (nodeId : String) (events : List GatewayEvent) :
    frameCount nodeId events ≤ (sentFrames events).length := by
  induction events with
  | nil => exact le_refl 0
  | cons event events ih =>
    unfold frameCount at ih ⊢
    rw [List.countP_cons]
    cases event with
    | meshSend frame destinationId wantAck =>
      change _ ≤ (sentFrames events).length + 1
      split_ifs <;> omega
    | getLatestBlockhash | getAccountInfo | sendRawTransaction =>
      rw [if_neg Bool.false_ne_true]
      exact ih

/-- An input makes the gateway send at most two frames to a node, and none unless it is a packet of
the node.

**Proof sketch.** An input sends at most two frames (`justified_reaction`). A frame goes to the
sender of the packet, or without a name to all nodes; so none goes to a node that did not send the
packet. -/
lemma frameCount_reaction_le {nodeId : String} (hnode : nodeId ≠ "") (gw : Gateway F S)
    (input : GatewayInput F S) :
    frameCount nodeId (gw.reaction H input) ≤ if input.isFrom nodeId then 2 else 0 := by
  have hjustified := justified_reaction H gw input
  split_ifs with hfrom
  · exact (frameCount_le _ _).trans hjustified.frames
  · apply Nat.le_zero.mpr
    apply List.countP_eq_zero.mpr
    intro event hevent
    cases event with
    | meshSend frame destinationId wantAck =>
      intro heq
      obtain rfl := of_decide_eq_true heq
      have haddressee := (hjustified.sent _ _ _ hevent).1
      cases input with
      | packet env packet => exact hfrom (decide_eq_true (Option.some.inj haddressee))
      | beacon => exact hnode (Option.some.inj haddressee).symm
      | http => cases haddressee
    | getLatestBlockhash | getAccountInfo | sendRawTransaction => exact Bool.false_ne_true

/-- **A node is sent at most two frames for each of its packets.** In every run of a gateway,
however many nodes it serves, the frames it sends to a node are answers to the packets of that
node.

**Proof sketch.** Induction on the inputs. An input sends at most two frames, all of them to its
sender, so a frame to the node is sent at an input from it (`frameCount_reaction_le`). -/
theorem frames_to_le {nodeId : String} (hnode : nodeId ≠ "") (gw : Gateway F S)
    (inputs : List (GatewayInput F S)) :
    frameCount nodeId (gw.after H inputs).node.events ≤
      frameCount nodeId gw.node.events + 2 * inputs.countP (GatewayInput.isFrom nodeId) := by
  induction inputs generalizing gw with
  | nil => exact Nat.le_add_right _ _
  | cons input inputs ih =>
    have hrest := ih (gw.next H input)
    have hstep := frameCount_reaction_le (H := H) hnode gw input
    have happend : frameCount nodeId (gw.next H input).node.events =
        frameCount nodeId gw.node.events + frameCount nodeId (gw.reaction H input) := by
      rw [events_next]
      exact List.countP_append
    change frameCount nodeId ((gw.next H input).after H inputs).node.events ≤ _
    rw [List.countP_cons]
    split_ifs at hstep ⊢ <;> omega

/-- The sample gateway and one packet. -/
theorem frames_to_le_one_packet :
    frameCount "!a" (sampleService.after sampleHashes
      [.packet sampleSurroundings sampleChunkPacket]).node.events ≤ frameCount "!a" [] + 2 * 1 :=
  frames_to_le (H := sampleHashes) (by decide) sampleService
    [.packet sampleSurroundings sampleChunkPacket]

end Whole

end SolMesh
