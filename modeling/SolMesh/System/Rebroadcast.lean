import SolMesh.Mesh.Provenance
import SolMesh.System.RelayNet

set_option relaxedAutoImplicit false
set_option autoImplicit false

/-!
# How often a relayed transaction is broadcast

The reassembler forgets a message when it is complete, and the gateway keeps no list of the messages
it has broadcast. If every chunk is delivered again, the transaction is complete again, and is
broadcast again. Each broadcast needs a delivery of each chunk since the one before.

## Main definitions

* `SolMesh.Delivery` — a frame delivered to the gateway.
* `SolMesh.GatewayNode.callsBroadcast` — the deliveries whose handler broadcasts.
* `SolMesh.broadcastCalls` — how often it does for one message, over a schedule of deliveries.

## Main results

* `SolMesh.broadcastCalls_le` — no more often than any one chunk is delivered.
* `SolMesh.not_broadcastCalls_le_one` — a transaction of one chunk that is broadcast twice.
-/

namespace SolMesh

open Py Text

variable {F : Type} [Number F] {S : Solders}

/-! ## Schedules -/

/-- A frame delivered to the gateway, and what its handler finds outside the gateway. -/
structure Delivery (S : Solders) where
  env : Moment S
  frame : Bytes
  senderId : String

/-- The chunk in a delivered frame, if there is one, as it is handed to the reassembler. -/
def Delivery.chunk (d : Delivery S) : Option ChunkCall :=
  match unpackMessage d.frame with
  | .error _ => none
  | .ok (header, payload) =>
    if header.msgType = MsgType.txChunk then
      some ⟨d.env.clock, d.senderId, header.msgId.toNat, header.chunkNum.toNat,
        header.totalChunks.toNat, payload⟩
    else none

/-- The delivered frame is a chunk of the message with this sender and id. -/
def Delivery.IsFor (d : Delivery S) (key : String × ℕ) : Prop :=
  d.chunk.map ChunkCall.key = some key

instance (d : Delivery S) (key : String × ℕ) : Decidable (d.IsFor key) :=
  inferInstanceAs (Decidable (_ = _))

/-- Does `_handle_tx_chunk` come to its call of `_broadcast_to_solana`? It does for a chunk that
the rate limiter admits and that completes a transaction. -/
def GatewayNode.callsBroadcast (g : GatewayNode F S) (d : Delivery S) : Bool :=
  match unpackMessage d.frame with
  | .error _ => false
  | .ok (header, payload) => decide (header.msgType = MsgType.txChunk) &&
      g.admits d.env d.senderId && (g.completed d.env header payload d.senderId).isSome

/-- How often `_handle_tx_chunk` calls `_broadcast_to_solana` for a message, over a schedule of
deliveries. -/
def broadcastCalls (key : String × ℕ) (g : GatewayNode F S) : List (Delivery S) → ℕ
  | [] => 0
  | d :: ds => (if d.IsFor key ∧ g.callsBroadcast d = true then 1 else 0) +
      broadcastCalls key (g.receive d.env d.frame d.senderId) ds

/-! ## One delivery -/

section Delivery

variable {key : String × ℕ} {d : Delivery S} {c : ChunkCall} {g : GatewayNode F S}

/-- What is not a chunk leaves the reassembler as it is. -/
lemma reassembler_of_chunk_eq_none (h : d.chunk = none) :
    (g.receive d.env d.frame d.senderId).reassembler = g.reassembler := by
  rw [GatewayNode.reassembler_receive_eq]
  unfold Delivery.chunk at h
  cases hunpack : unpackMessage d.frame with
  | error e => rfl
  | ok message =>
    rw [hunpack] at h
    dsimp only at h ⊢
    split_ifs at h with htype
    rw [if_neg fun hand => htype hand.1]

/-- A chunk is handed to the reassembler if the rate limiter admits it. -/
lemma reassembler_of_chunk_eq_some (h : d.chunk = some c) :
    (g.receive d.env d.frame d.senderId).reassembler =
      if g.admits d.env d.senderId = true then (g.reassembler.receive c).2 else g.reassembler := by
  rw [GatewayNode.reassembler_receive_eq]
  unfold Delivery.chunk at h
  cases hunpack : unpackMessage d.frame with
  | error e =>
    rw [hunpack] at h
    cases h
  | ok message =>
    rw [hunpack] at h
    dsimp only at h ⊢
    split_ifs at h with htype
    obtain rfl := Option.some.inj h
    simp only [htype, true_and]
    rfl

omit [Number F] in
/-- The handler calls `_broadcast_to_solana` exactly for an admitted chunk that completes its
message.

**Proof sketch.** The frame is a chunk, so the handler gives the reassembler this call. It goes on
to the broadcast if the limiter admits it and the reassembler returns a payload, which is to
complete a message. -/
lemma callsBroadcast_iff (h : d.chunk = some c) :
    g.callsBroadcast d = true ↔
      g.admits d.env d.senderId = true ∧ Completes g.reassembler c c.key := by
  unfold Delivery.chunk at h
  unfold GatewayNode.callsBroadcast
  split at h
  · cases h
  · next header payload hunpack =>
    split_ifs at h with htype
    obtain rfl := Option.some.inj h
    have hreassemble : g.reassemble d.env header payload d.senderId =
        g.reassembler.receive ⟨d.env.clock, d.senderId, header.msgId.toNat,
          header.chunkNum.toNat, header.totalChunks.toNat, payload⟩ := rfl
    simp only [htype, decide_true, Bool.true_and, Bool.and_eq_true, Completes, true_and,
      GatewayNode.completed, hreassemble, Option.isSome_iff_exists]
    refine and_congr_right fun _ => ?_
    cases (g.reassembler.receive _).1 with
    | error e => simp
    | ok data => simp

end Delivery

/-! ## Deliveries of the message -/

section Message

variable {txBytes : Bytes} {clientId : String} {msgId : UInt16} {d : Delivery S} {c : ChunkCall}
  {g : GatewayNode F S} {ds : List (Delivery S)} {i : ℕ}

/-- The chunks that are delivered under the key of the message are chunks of the transaction. -/
def OwnFrames (txBytes : Bytes) (clientId : String) (msgId : UInt16) (ds : List (Delivery S)) :
    Prop :=
  ∀ d ∈ ds, d.IsFor (clientId, msgId.toNat) → d.frame ∈ chunkFrames txBytes MsgType.txChunk msgId

/-- A delivery of chunk number `i` of the transaction. -/
def Delivers (txBytes : Bytes) (clientId : String) (msgId : UInt16) (i : ℕ) (d : Delivery S) :
    Prop :=
  d.senderId = clientId ∧ d.frame = chunkFrame txBytes MsgType.txChunk msgId i

instance (i : ℕ) : DecidablePred (Delivers (S := S) txBytes clientId msgId i) := fun d =>
  inferInstanceAs (Decidable (d.senderId = clientId ∧ d.frame = _))

/-- What is kept under the key of the message does not have chunk number `i`. -/
def Lacks (key : String × ℕ) (i : ℕ) (r : ChunkReassembler) : Prop :=
  ∀ buf, r.buffers.get? key = some buf → i ∉ buf.chunks.keys

/-- The chunk in a frame of the transaction. -/
lemma chunk_of_frame (hlen : txBytes.length ≤ 255 * maxChunkData)
    (hi : i < numChunks txBytes.length) (h : d.frame = chunkFrame txBytes MsgType.txChunk msgId i) :
    d.chunk = some ⟨d.env.clock, d.senderId, msgId.toNat, i, numChunks txBytes.length,
      chunkAt txBytes i⟩ := by
  obtain ⟨header, hu, htype, hid, hnum, htotal⟩ :=
    unpackMessage_chunkFrame MsgType.txChunk msgId hlen hi
  unfold Delivery.chunk
  rw [h, hu]
  dsimp only
  rw [if_pos htype, hid, hnum, htotal]

/-- A chunk that is delivered under the key of the message, with its number. -/
lemma exists_of_isFor (hlen : txBytes.length ≤ 255 * maxChunkData)
    (hown : d.IsFor (clientId, msgId.toNat) →
      d.frame ∈ chunkFrames txBytes MsgType.txChunk msgId)
    (hc : d.chunk = some c) (hkey : c.key = (clientId, msgId.toNat)) :
    d.senderId = clientId ∧ d.frame = chunkFrame txBytes MsgType.txChunk msgId c.chunkNum ∧
      c.chunkNum < numChunks txBytes.length ∧ c.totalChunks = numChunks txBytes.length ∧
      c.payload = chunkAt txBytes c.chunkNum := by
  have hfor : d.IsFor (clientId, msgId.toNat) := by
    rw [Delivery.IsFor, hc, Option.map_some, hkey]
  obtain ⟨j, hj, hframe⟩ := List.mem_map.mp (hown hfor)
  rw [List.mem_range] at hj
  have hchunk := chunk_of_frame hlen hj hframe.symm
  obtain rfl := Option.some.inj (hc.symm.trans hchunk)
  exact ⟨congrArg Prod.fst hkey, hframe.symm, hj, rfl, rfl⟩

/-- **The gateway keeps only chunks of the transaction** under the key, whatever is delivered. -/
lemma collecting_delivery (hlen : txBytes.length ≤ 255 * maxChunkData)
    (hown : d.IsFor (clientId, msgId.toNat) →
      d.frame ∈ chunkFrames txBytes MsgType.txChunk msgId)
    (h : Collecting txBytes (clientId, msgId.toNat) g.reassembler) :
    Collecting txBytes (clientId, msgId.toNat)
      (g.receive d.env d.frame d.senderId).reassembler := by
  cases hc : d.chunk with
  | none =>
    rw [reassembler_of_chunk_eq_none hc]
    exact h
  | some c =>
    rw [reassembler_of_chunk_eq_some hc]
    split_ifs
    · by_cases hkey : c.key = (clientId, msgId.toNat)
      · obtain ⟨_, _, hlt, htotal, hpayload⟩ := exists_of_isFor hlen hown hc hkey
        exact (h.receive_of_eq hkey htotal hpayload hlt).1
      · exact h.receive_of_ne hkey
    · exact h

/-- After the handler called `_broadcast_to_solana` for the message, nothing is kept under its
key. -/
lemma lacks_of_callsBroadcast {key : String × ℕ} (hfor : d.IsFor key)
    (hcalls : g.callsBroadcast d = true) (i : ℕ) :
    Lacks key i (g.receive d.env d.frame d.senderId).reassembler := by
  obtain ⟨c, hc, rfl⟩ := Option.map_eq_some_iff.mp hfor
  obtain ⟨hadmits, hcompletes⟩ := (callsBroadcast_iff hc).mp hcalls
  rw [reassembler_of_chunk_eq_some hc, if_pos hadmits]
  exact fun buf hget => absurd hcompletes (get?_receive hget).1

/-- **While chunk number `i` is lacking**, a delivery of anything else leaves it lacking, and the
handler does not call `_broadcast_to_solana` for the message.

**Proof sketch.** A delivery without a chunk changes no buffer. A chunk of the message has another
number, so the buffer it fills still lacks this one, and a buffer that lacks a number cannot be put
together. A chunk of another message only sweeps. -/
lemma Lacks.delivery (hlen : txBytes.length ≤ 255 * maxChunkData)
    (hi : i < numChunks txBytes.length)
    (hown : d.IsFor (clientId, msgId.toNat) →
      d.frame ∈ chunkFrames txBytes MsgType.txChunk msgId)
    (hcollecting : Collecting txBytes (clientId, msgId.toNat) g.reassembler)
    (h : Lacks (clientId, msgId.toNat) i g.reassembler)
    (hnot : ¬ Delivers txBytes clientId msgId i d) :
    Lacks (clientId, msgId.toNat) i (g.receive d.env d.frame d.senderId).reassembler ∧
      ¬ (d.IsFor (clientId, msgId.toNat) ∧ g.callsBroadcast d = true) := by
  cases hc : d.chunk with
  | none =>
    rw [reassembler_of_chunk_eq_none hc]
    exact ⟨h, fun hcalls => absurd hcalls.1 (by simp [Delivery.IsFor, hc])⟩
  | some c =>
    have hfilled : c.key = (clientId, msgId.toNat) →
        i ∉ (c.filled g.reassembler).chunks.keys ∧
          (c.filled g.reassembler).totalChunks = numChunks txBytes.length := by
      intro hkey
      obtain ⟨hsender, hframe, _, htotal, _⟩ := exists_of_isFor hlen hown hc hkey
      have hne : i ≠ c.chunkNum := by
        rintro rfl
        exact hnot ⟨hsender, hframe⟩
      constructor
      · intro hmem
        rcases mem_keys_filled.mp hmem with heq | ⟨buf, hlive, hold⟩
        · exact hne heq
        · rw [hkey] at hlive
          exact h buf (live_eq_some hlive).1 hold
      · cases hlive : g.reassembler.live c c.key with
        | none =>
          rw [Opens.filled hlive]
          exact htotal
        | some buf =>
          rw [filled_of_live hlive]
          rw [hkey] at hlive
          exact (hcollecting buf (live_eq_some hlive).1).1
    constructor
    · rw [reassembler_of_chunk_eq_some hc]
      split_ifs
      · intro buf hget
        obtain ⟨_, ⟨hkey, rfl⟩ | ⟨_, hlive⟩⟩ := get?_receive hget
        · exact (hfilled hkey).1
        · exact h buf (live_eq_some hlive).1
      · exact h
    · rintro ⟨hfor, hcalls⟩
      rw [Delivery.IsFor, hc, Option.map_some, Option.some.injEq] at hfor
      obtain ⟨hlacks, htotal⟩ := hfilled hfor
      obtain ⟨_, _, data, hdata⟩ := (callsBroadcast_iff hc).mp hcalls
      obtain ⟨_, part, hpart, _⟩ := reassemble_eq_ok (reassemble_of_returns hdata)
      rw [← Dict.get?_eq_none_iff, hpart i (htotal ▸ hi)] at hlacks
      exact absurd hlacks (by simp)

/-- **Each broadcast needs a delivery of each chunk**: the first one possibly an earlier one.

**Proof sketch.** Induction on the schedule. A broadcast empties the buffer, so that the next one
needs a delivery of the chunk; until then the chunk is lacking. -/
lemma broadcastCalls_le_of_collecting (hlen : txBytes.length ≤ 255 * maxChunkData)
    (hi : i < numChunks txBytes.length) (hown : OwnFrames txBytes clientId msgId ds)
    (hcollecting : Collecting txBytes (clientId, msgId.toNat) g.reassembler) :
    broadcastCalls (clientId, msgId.toNat) g ds ≤
        ds.countP (fun d => Delivers txBytes clientId msgId i d) + 1 ∧
      (Lacks (clientId, msgId.toNat) i g.reassembler →
        broadcastCalls (clientId, msgId.toNat) g ds ≤
          ds.countP fun d => Delivers txBytes clientId msgId i d) := by
  induction ds generalizing g with
  | nil => exact ⟨Nat.zero_le _, fun _ => Nat.zero_le _⟩
  | cons d ds ih =>
    have hd := hown d List.mem_cons_self
    obtain ⟨hany, hlacks⟩ := ih (fun d' hd' => hown d' (List.mem_cons_of_mem _ hd'))
      (collecting_delivery hlen hd hcollecting)
    rw [broadcastCalls, List.countP_cons]
    by_cases hcalls : d.IsFor (clientId, msgId.toNat) ∧ g.callsBroadcast d = true
    · have hnext := hlacks (lacks_of_callsBroadcast hcalls.1 hcalls.2 i)
      rw [if_pos hcalls]
      refine ⟨by omega, fun h => ?_⟩
      by_cases hdeliver : Delivers txBytes clientId msgId i d
      · rw [if_pos (decide_eq_true hdeliver)]
        omega
      · exact absurd hcalls (h.delivery hlen hi hd hcollecting hdeliver).2
    · rw [if_neg hcalls]
      refine ⟨by omega, fun h => ?_⟩
      by_cases hdeliver : Delivers txBytes clientId msgId i d
      · rw [if_pos (decide_eq_true hdeliver)]
        omega
      · have hnext := hlacks (h.delivery hlen hi hd hcollecting hdeliver).1
        omega

end Message

/-- **A relayed transaction is broadcast no more often than any one of its chunks is delivered**,
over every schedule of deliveries of its frames, between frames of other messages, to a gateway
that holds nothing under its sender and id. So it is broadcast at most once if some frame is
delivered at most once.

**Proof sketch.** The gateway holds nothing under the sender and id at first, so every chunk is
lacking. Between two broadcasts the buffer is new, so each chunk has to be delivered again
(`broadcastCalls_le_of_collecting`). -/
theorem broadcastCalls_le {txBytes : Bytes} {msgId : UInt16} {frames : List Bytes}
    (hframes : chunkPayload txBytes MsgType.txChunk.toNat msgId.toNat = .ok frames)
    {clientId : String} {g : GatewayNode F S}
    (hfresh : g.reassembler.buffers.get? (clientId, msgId.toNat) = none)
    {ds : List (Delivery S)}
    (hds : ∀ d ∈ ds, d.IsFor (clientId, msgId.toNat) → d.frame ∈ frames) :
    (∀ frame ∈ frames, broadcastCalls (clientId, msgId.toNat) g ds ≤
      ds.countP fun d => d.senderId = clientId ∧ d.frame = frame) ∧
    ((∃ frame ∈ frames, (ds.countP fun d => d.senderId = clientId ∧ d.frame = frame) ≤ 1) →
      broadcastCalls (clientId, msgId.toNat) g ds ≤ 1) := by
  have hlen := length_le_of_chunkPayload hframes
  rw [chunkPayload_eq MsgType.txChunk msgId hlen] at hframes
  obtain rfl := Except.ok.inj hframes
  have hcollecting : Collecting txBytes (clientId, msgId.toNat) g.reassembler :=
    fun buf hget => absurd (hfresh.symm.trans hget) (by simp)
  have hall : ∀ frame ∈ chunkFrames txBytes MsgType.txChunk msgId,
      broadcastCalls (clientId, msgId.toNat) g ds ≤
        ds.countP fun d => d.senderId = clientId ∧ d.frame = frame := by
    intro frame hframe
    obtain ⟨i, hi, rfl⟩ := List.mem_map.mp hframe
    refine (broadcastCalls_le_of_collecting hlen (List.mem_range.mp hi) hds hcollecting).2 ?_
    exact fun buf hget => absurd (hfresh.symm.trans hget) (by simp)
  exact ⟨hall, fun ⟨frame, hframe, hone⟩ => (hall frame hframe).trans hone⟩

/-! ## Sample schedules -/

/-- A transaction of two chunks: a transfer of USDC. -/
def sampleUsdcTransaction : Bytes := signedTokenTransfer sampleKey hotKey usdcKey 5

/-- One of its frames, with message id 7. -/
def sampleDelivery (i : ℕ) : Delivery sampleSolders :=
  ⟨sampleMoment, chunkFrame sampleUsdcTransaction MsgType.txChunk 7 i, "!client"⟩

set_option maxRecDepth 10000 in
/-- The first of its two frames is delivered three times and the second once: it is broadcast
once. -/
theorem broadcastCalls_le_repeated_chunk :
    broadcastCalls ("!client", UInt16.toNat 7) (sampleGateway : GatewayNode ℤ sampleSolders)
      [sampleDelivery 0, sampleDelivery 0, sampleDelivery 1, sampleDelivery 0] = 1 := by
  have hframes : chunkPayload sampleUsdcTransaction MsgType.txChunk.toNat (UInt16.toNat 7) =
      .ok (chunkFrames sampleUsdcTransaction MsgType.txChunk 7) :=
    chunkPayload_eq MsgType.txChunk 7 (by decide +kernel)
  have hmem : ∀ i < 2, (sampleDelivery i).frame ∈
      chunkFrames sampleUsdcTransaction MsgType.txChunk 7 :=
    fun i hi => List.mem_map.mpr ⟨i, List.mem_range.mpr (hi.trans_eq (by decide +kernel)), rfl⟩
  refine le_antisymm
    ((broadcastCalls_le hframes rfl ?_).2 ⟨_, hmem 1 (by decide), by decide +kernel⟩)
    (by decide +kernel)
  intro d hd _
  simp only [List.mem_cons, List.not_mem_nil, or_false] at hd
  rcases hd with rfl | rfl | rfl | rfl
  · exact hmem 0 (by decide)
  · exact hmem 0 (by decide)
  · exact hmem 1 (by decide)
  · exact hmem 0 (by decide)

/-- The one frame of a transfer of lamports, with message id 7. -/
def sampleOneChunk : Delivery sampleSolders :=
  ⟨sampleMoment, chunkFrame (sampleTransaction 5) MsgType.txChunk 7 0, "!client"⟩

set_option maxRecDepth 10000 in
/-- **A relayed transaction can be broadcast twice**: its only frame is delivered twice, as it is
when its acknowledgement was lost and the retry loop sends it again. -/
theorem not_broadcastCalls_le_one :
    chunkPayload (sampleTransaction 5) MsgType.txChunk.toNat (UInt16.toNat 7) =
        .ok [sampleOneChunk.frame] ∧
      broadcastCalls ("!client", UInt16.toNat 7) (sampleGateway : GatewayNode ℤ sampleSolders)
        [sampleOneChunk, sampleOneChunk] = 2 := by
  constructor
  · exact (chunkPayload_eq MsgType.txChunk 7 (by decide +kernel)).trans
      (congrArg Except.ok (by decide +kernel))
  · decide +kernel

end SolMesh
