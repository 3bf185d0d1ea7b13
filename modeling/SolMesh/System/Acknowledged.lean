import SolMesh.Client.Resends
import SolMesh.Mesh.Robustness
import SolMesh.System.Rebroadcast

set_option relaxedAutoImplicit false
set_option autoImplicit false

/-!
# Acknowledged chunks and delivered messages

The gateway acknowledges a chunk when it arrives, and drops what it has of a message 120 seconds
after the first chunk. The client never sends an acknowledged chunk again, and its rounds take
longer the more chunks are missing. If a chunk arrives when the buffer is too old, the chunks that
were acknowledged before are lost for good: the message stays incomplete, although every chunk of
it may be acknowledged in the end.

## Main definitions

* `SolMesh.AckNet` — the client, the gateway and the time.
* `SolMesh.ackHost` — the operations of the retry loop on a mesh that delivers at once or never.
* `SolMesh.AckNet.outlived` — a chunk arrived too late for one that was acknowledged.
* `SolMesh.AckInv`, `SolMesh.Acknowledging` — what holds throughout a run.

## Main results

* `SolMesh.Acknowledging.run` — the invariant.
* `SolMesh.acknowledged_delivered_iff` — an acknowledged message was delivered exactly if no chunk
  arrived too late for an acknowledged one.
* `SolMesh.not_acknowledged_delivered` — an acknowledged message that was not.
-/

namespace SolMesh

open Py Text Conc

variable {F : Type} [Number F] {S : Solders}

/-! ## The mesh and the time -/

/-- The time, the client and the gateway, what the reassembler has returned for the message, the
acknowledgements the retry loop read last, and whether a chunk arrived when the buffer of the
message was too old although some chunk was acknowledged, before the message was returned. -/
structure AckNet (F : Type) (S : Solders) where
  now : ℚ
  client : ClientNode
  gateway : GatewayNode F S
  returned : List Bytes
  read : List ℕ
  outlived : Bool

namespace AckNet

/-- Before the retry loop has sent anything. -/
def start (client : ClientNode) (gateway : GatewayNode F S) (now : ℚ) : AckNet F S :=
  ⟨now, client, gateway, [], [], false⟩

/-- Is what the gateway holds under the key too old? -/
def stale (s : AckNet F S) (key : String × ℕ) : Bool :=
  (s.gateway.reassembler.buffers.get? key).any fun buf => buf.isExpired s.now

/-- A chunk of the message is delivered, and some of the frames sent in reply. -/
def deliver (clientId : String) (msgId : UInt16) (s : AckNet F S) (env : Moment S)
    (frame : Bytes) (heard : List Bytes) : AckNet F S :=
  { s with
    client := heard.foldl ClientNode.receive s.client
    gateway := s.gateway.receive env frame clientId
    returned := s.returned ++ (s.gateway.completes env frame clientId).toList
    outlived := s.outlived || (s.returned.isEmpty && s.stale (clientId, msgId.toNat) &&
      !(s.client.ackedOf msgId.toNat).isEmpty) }

end AckNet

/-- What the operations of the retry loop do. A frame is lost, or delivered at once to a gateway
that admits it, and each frame it sends in reply is lost or delivered at once. Waiting lets the
time pass. -/
def ackExec (clientId : String) (msgId : UInt16) :
    (op : RetryOp) → AckNet F S → op.Ans → AckNet F S → Prop
  | .send frame, s, _, s' => s' = s ∨ ∃ env heard, env.clock = ⟨fun _ => s.now, s.now⟩ ∧
      s.gateway.admits env clientId = true ∧
      heard.Sublist (framesTo clientId (s.gateway.effectsOf env frame clientId)) ∧
      s' = s.deliver clientId msgId env frame heard
  | .sleep seconds, s, _, s' => s' = { s with now := s.now + seconds }
  | .acked id, s, r, s' => r = s.client.ackedOf id ∧ s' = { s with read := s.client.ackedOf id }
  | .setResult id outcome, s, _, s' => s' = { s with client := s.client.setResult id outcome }

/-- The retry loop, alone with the gateway. -/
def ackHost (clientId : String) (msgId : UInt16) : Host RetryOp RetryOp.Ans (AckNet F S) where
  exec := ackExec clientId msgId
  others _ _ := False
  crash _ _ := False

/-- A retry loop, if it still runs, and the state of the system. -/
abbrev Acking (F : Type) (S : Solders) :=
  Host.Process RetryOp RetryOp.Ans (AckNet F S) (Except Exn Unit)

/-- The second state is reached from the first. -/
def AckRun (clientId : String) (msgId : UInt16) (c c' : Acking F S) : Prop :=
  ∃ ls, (ackHost clientId msgId).Steps (fun _ => False) c ls c'

/-! ## A delivered chunk -/

section Chunk

variable {txBytes : Bytes} {clientId : String} {msgId : UInt16} {g : GatewayNode F S}
  {env : Moment S} {i : ℕ}

/-- Data are cut into one chunk at least. -/
lemma numChunks_pos (len : ℕ) : 0 < numChunks len := by
  have hcover := le_numChunks_mul len
  rw [maxChunkData_eq] at hcover
  by_cases h0 : len = 0
  · rw [numChunks, if_pos h0]
    exact Nat.one_pos
  · omega

/-- What is kept of a message has its total, and numbers below it. -/
lemma Collecting.stored {data : Bytes} {key : String × ℕ} {r : ChunkReassembler}
    {buf : ReassemblyBuffer} (h : Collecting data key r) (hget : r.buffers.get? key = some buf) :
    buf.totalChunks = numChunks data.length ∧
      ∀ k ∈ buf.chunks.keys, k < numChunks data.length := by
  obtain ⟨htotal, ks, hks, htab⟩ := h buf hget
  exact ⟨htotal, fun k hk => hks k (htab.mem_keys_iff.mp hk)⟩

/-- An admitted chunk of the message is handed to the reassembler. -/
lemma reassembler_chunkFrame (hlen : txBytes.length ≤ 255 * maxChunkData)
    (hi : i < numChunks txBytes.length) (hadmits : g.admits env clientId = true) :
    (g.receive env (chunkFrame txBytes MsgType.txChunk msgId i) clientId).reassembler =
      (g.reassembler.receive (chunkCall txBytes clientId msgId env i)).2 := by
  have hchunk := chunk_of_frame (S := S)
    (d := ⟨env, chunkFrame txBytes MsgType.txChunk msgId i, clientId⟩) hlen hi rfl
  have hreceive := reassembler_of_chunk_eq_some (g := g) hchunk
  rw [if_pos hadmits] at hreceive
  exact hreceive

omit [Number F] in
/-- The total of the buffer that a chunk of the message is added to. -/
lemma totalChunks_filled (h : Collecting txBytes (clientId, msgId.toNat) g.reassembler) :
    ((chunkCall txBytes clientId msgId env i).filled g.reassembler).totalChunks =
      numChunks txBytes.length := by
  cases hlive : g.reassembler.live (chunkCall txBytes clientId msgId env i)
      (chunkCall txBytes clientId msgId env i).key with
  | none =>
    rw [Opens.filled hlive]
    rfl
  | some buf =>
    rw [filled_of_live hlive]
    exact (h.stored (live_eq_some hlive).1).1

/-- **A delivered chunk** completes the message or is kept, with the chunks in the buffer that the
sweep left.

**Proof sketch.** A chunk that the gateway admits is handed to its reassembler
(`reassembler_chunkFrame`), which keeps it, or puts the message together, or raises
(`receive_cases`). All its chunks are of this message and have numbers in range, so putting it
together does not raise and gives the message. -/
lemma deliver_cases (hlen : txBytes.length ≤ 255 * maxChunkData)
    (hi : i < numChunks txBytes.length)
    (h : Collecting txBytes (clientId, msgId.toNat) g.reassembler) (env : Moment S)
    (hadmits : g.admits env clientId = true) :
    let frame := chunkFrame txBytes MsgType.txChunk msgId i
    let filled := (chunkCall txBytes clientId msgId env i).filled g.reassembler
    let kept := (g.receive env frame clientId).reassembler
    Collecting txBytes (clientId, msgId.toNat) kept ∧
      (g.completes env frame clientId = some txBytes ∧
          (∀ k < numChunks txBytes.length, k ∈ filled.chunks.keys) ∧
          kept.buffers.get? (clientId, msgId.toNat) = none ∨
        g.completes env frame clientId = none ∧ filled.isComplete = false ∧
          kept.buffers.get? (clientId, msgId.toNat) = some filled) := by
  intro frame filled kept
  have hkept : kept = (g.reassembler.receive (chunkCall txBytes clientId msgId env i)).2 :=
    reassembler_chunkFrame hlen hi hadmits
  have hcompletes : ∀ data, g.completes env frame clientId = some data ↔
      (g.reassembler.receive (chunkCall txBytes clientId msgId env i)).1 = .ok (some data) :=
    completes_chunkFrame hlen hi g env clientId msgId
  have htotal : filled.totalChunks = numChunks txBytes.length := totalChunks_filled h
  obtain ⟨hcollecting, hdata⟩ :=
    h.receive_of_eq (c := chunkCall txBytes clientId msgId env i) rfl rfl rfl hi
  rw [hkept]
  refine ⟨hcollecting, ?_⟩
  rcases receive_cases g.reassembler (chunkCall txBytes clientId msgId env i) with
    ⟨hinc, hout, hget⟩ | ⟨data, hreassemble, hout, hget⟩ | ⟨hcomplete, e, he, _, hget⟩
  · right
    refine ⟨Option.eq_none_iff_forall_ne_some.mpr fun data hsome => ?_, hinc, hget⟩
    exact absurd (hout.symm.trans ((hcompletes data).mp hsome)) (by simp)
  · left
    refine ⟨(hcompletes txBytes).mpr (hdata data hout ▸ hout), fun k hk => ?_, hget⟩
    obtain ⟨_, part, hpart, _⟩ := reassemble_eq_ok hreassemble
    by_contra hnot
    rw [← Dict.get?_eq_none_iff] at hnot
    exact absurd (hnot.symm.trans (hpart k (htotal ▸ hk))) (by simp)
  · -- numbers in range cannot make the reassembler raise
    have hrange := (hcollecting.stored hget).2
    rw [← htotal] at hrange
    obtain ⟨data, hdata'⟩ := ReassemblyBuffer.reassemble_of_inRange hrange hcomplete
    exact absurd (he.symm.trans hdata') (by simp)

/-- An acknowledgement acknowledges its chunk. -/
lemma ackOf_ackFrame (ackId : UInt16) (header : SolMeshHeader) :
    ClientNode.ackOf (ackFrame ackId header) =
      some (header.msgId.toNat, header.chunkNum.toNat) := by
  have hlen : (Bytes.toBE 2 header.msgId.toNat ++ [header.chunkNum, 0]).length ≤ maxChunkData := by
    simp
  obtain ⟨checksum, hu⟩ := unpackMessage_frameBytes_append MsgType.ack ackId 0 1 [] hlen
  rw [List.append_nil] at hu
  have hencode : encodeAck header.msgId.toNat header.chunkNum.toNat 0 =
      .ok (Bytes.toBE 2 header.msgId.toNat ++ [header.chunkNum, 0]) :=
    (run_sendAck sampleMoment header "" (sampleGateway : GatewayNode ℤ sampleSolders)).1
  obtain ⟨m, c, _, hm, hc, _, hdecode⟩ := decodeAck_encodeAck hencode
  unfold ClientNode.ackOf
  rw [ackFrame, hu]
  dsimp only
  rw [if_pos rfl, hdecode, Nat.cast_inj.mp hm, Nat.cast_inj.mp hc]
  rfl

/-- A reply acknowledges nothing. -/
lemma ackOf_reply {r : Reply} (h : r.Fits) (replyId msgId : UInt16) :
    ClientNode.ackOf (r.frame replyId msgId) = none := by
  have hlen : (r.prefixBytes msgId ++ utf8 r.text).length ≤ maxChunkData := by
    rw [length_reply_payload]
    exact h.2
  obtain ⟨checksum, hu⟩ := unpackMessage_frameBytes_append r.msgType replyId 0 1 [] hlen
  rw [List.append_nil] at hu
  have htype : r.msgType ≠ MsgType.ack := by
    cases r with
    | nack => exact show MsgType.nack ≠ MsgType.ack by decide
    | txResult => exact show MsgType.txResult ≠ MsgType.ack by decide
  unfold ClientNode.ackOf
  rw [Reply.frame, hu]
  dsimp only
  rw [if_neg htype]

omit [Number F] in
/-- What a gateway that broadcasts sends back acknowledges nothing. -/
lemma ackOf_of_broadcast {data frame : Bytes}
    (h : frame ∈ framesTo clientId ((env.rpc.broadcast data).1 ++
      (env.rpc.result data).sent env msgId clientId)) : ClientNode.ackOf frame = none := by
  have hnone := (broadcast_events env.rpc data clientId).1
  unfold framesTo at h hnone
  rw [List.filterMap_append, hnone, List.nil_append] at h
  unfold Reply.sent at h
  split_ifs at h with hfits
  · obtain rfl : frame = (env.rpc.result data).frame env.replyId msgId := by simpa using h
    exact ackOf_reply hfits _ _
  · simp at h

/-- **The frames sent in reply** to a chunk of the message acknowledge this chunk, if anything. -/
lemma ackOf_of_mem (hlen : txBytes.length ≤ 255 * maxChunkData)
    (hi : i < numChunks txBytes.length) (hadmits : g.admits env clientId = true) {frame : Bytes}
    (h : frame ∈ framesTo clientId
      (g.effectsOf env (chunkFrame txBytes MsgType.txChunk msgId i) clientId)) :
    ClientNode.ackOf frame = some (msgId.toNat, i) ∨ ClientNode.ackOf frame = none := by
  obtain ⟨header, hu, htype, hid, hnum, _⟩ :=
    unpackMessage_chunkFrame MsgType.txChunk msgId hlen hi
  rw [GatewayNode.effectsOf_chunk hu htype, effects_handleTxChunk, if_pos hadmits,
    framesTo_meshSend, List.mem_cons] at h
  rcases h with rfl | h
  · left
    rw [ackOf_ackFrame, hid, hnum]
  · right
    cases hdata : g.completed env header (chunkAt txBytes i) clientId with
    | none => rw [hdata] at h; exact absurd h List.not_mem_nil
    | some data =>
      rw [hdata] at h
      exact ackOf_of_broadcast h

end Chunk

/-! ## Runs -/

section Runs

variable {txBytes : Bytes} {clientId : String} {msgId : UInt16} {s s' : AckNet F S}
  {env : Moment S} {i : ℕ} {heard : List Bytes}

/-- The gateway holds a chunk of the message. -/
def AckNet.Has (s : AckNet F S) (key : String × ℕ) (i : ℕ) : Prop :=
  ∃ buf, s.gateway.reassembler.buffers.get? key = some buf ∧ i ∈ buf.chunks.keys

/-- **The invariant of the state**: what the gateway holds and returned is of the message, what was
read is acknowledged, and the acknowledged chunks are held until the message is returned, unless a
chunk arrived too late for one of them; then one of them is not held any more. -/
structure AckInv (txBytes : Bytes) (clientId : String) (msgId : UInt16) (s : AckNet F S) :
    Prop where
  collecting : Collecting txBytes (clientId, msgId.toNat) s.gateway.reassembler
  incomplete : ∀ buf, s.gateway.reassembler.buffers.get? (clientId, msgId.toNat) = some buf →
    buf.isComplete = false
  returned : ∀ data ∈ s.returned, data = txBytes
  read : ∀ i ∈ s.read, i ∈ s.client.ackedOf msgId.toNat
  acked_lt : ∀ i ∈ s.client.ackedOf msgId.toNat, i < numChunks txBytes.length
  held : s.outlived = false → s.returned = [] →
    ∀ i ∈ s.client.ackedOf msgId.toNat, s.Has (clientId, msgId.toNat) i
  lost : s.outlived = true → s.returned = [] ∧
    ∃ i ∈ s.client.ackedOf msgId.toNat, ¬ s.Has (clientId, msgId.toNat) i

omit [Number F] in
/-- What frames that acknowledge one chunk, if anything, add to the acknowledged chunks.

**Proof sketch.** Induction on the frames. Receiving a frame keeps what is acknowledged, and adds at
most the chunk that the frame acknowledges, which is the one of the assumption. -/
lemma mem_ackedOf_foldl {c : ClientNode} {m k : ℕ}
    (h : ∀ frame ∈ heard, ClientNode.ackOf frame = some (m, i) ∨ ClientNode.ackOf frame = none) :
    (k ∈ c.ackedOf m → k ∈ (heard.foldl ClientNode.receive c).ackedOf m) ∧
      (k ∈ (heard.foldl ClientNode.receive c).ackedOf m → k ∈ c.ackedOf m ∨ k = i) := by
  induction heard generalizing c with
  | nil => exact ⟨id, Or.inl⟩
  | cons frame heard ih =>
    obtain ⟨hkeep, hadd⟩ := ih (c := c.receive frame)
      fun frame' hmem => h frame' (List.mem_cons_of_mem _ hmem)
    have hframe := h frame List.mem_cons_self
    refine ⟨fun hk => hkeep (ClientNode.mem_ackedOf_receive.1 hk), fun hk => ?_⟩
    rcases hadd hk with hk | rfl
    · rcases ClientNode.mem_ackedOf_receive.2 hk with hold | hnew
      · exact Or.inl hold
      · rcases hframe with hack | hnone
        · rw [hack] at hnew
          exact Or.inr (congrArg Prod.snd (Option.some.inj hnew)).symm
        · rw [hnone] at hnew
          cases hnew
    · exact Or.inr rfl

omit [Number F] in
/-- A chunk that was held is still in the buffer that a new one is added to, unless that was too
old. -/
lemma mem_filled_of_has {k : ℕ} (hclock : env.clock = ⟨fun _ => s.now, s.now⟩)
    (hfresh : s.stale (clientId, msgId.toNat) = false) (h : s.Has (clientId, msgId.toNat) k) :
    k ∈ ((chunkCall txBytes clientId msgId env i).filled s.gateway.reassembler).chunks.keys := by
  obtain ⟨buf, hget, hk⟩ := h
  rw [AckNet.stale, hget, Option.any_some] at hfresh
  refine mem_keys_filled.mpr (Or.inr ⟨buf, ?_, hk⟩)
  have hkey : (chunkCall txBytes clientId msgId env i).key = (clientId, msgId.toNat) := rfl
  rw [hkey, ChunkReassembler.live, hget]
  simp [Option.filter, chunkCall, hclock, hfresh]

omit [Number F] in
/-- A chunk that is not held, or whose buffer was too old, is not in it. -/
lemma not_mem_filled {k : ℕ} (hclock : env.clock = ⟨fun _ => s.now, s.now⟩) (hne : k ≠ i)
    (h : ¬ s.Has (clientId, msgId.toNat) k ∨ s.stale (clientId, msgId.toNat) = true) :
    k ∉ ((chunkCall txBytes clientId msgId env i).filled s.gateway.reassembler).chunks.keys := by
  rw [mem_keys_filled, not_or]
  refine ⟨hne, ?_⟩
  rintro ⟨buf, hlive, hk⟩
  have hkey : (chunkCall txBytes clientId msgId env i).key = (clientId, msgId.toNat) := rfl
  rw [hkey] at hlive
  obtain ⟨hget, hyoung⟩ := Option.filter_eq_some_iff.mp hlive
  rcases h with hnot | hstale
  · exact hnot ⟨buf, hget, hk⟩
  · rw [AckNet.stale, hget, Option.any_some] at hstale
    simp [chunkCall, hclock, hstale] at hyoung

/-- After a chunk came too late for an acknowledged one, an acknowledged chunk is not in the buffer
that a new one is added to. -/
lemma AckInv.exists_not_mem_filled (h : AckInv txBytes clientId msgId s)
    (hclock : env.clock = ⟨fun _ => s.now, s.now⟩) (hnew : i ∉ s.client.ackedOf msgId.toNat)
    {frame : Bytes} (hlate : (s.deliver clientId msgId env frame heard).outlived = true) :
    s.returned = [] ∧ ∃ k ∈ s.client.ackedOf msgId.toNat,
      k ∉ ((chunkCall txBytes clientId msgId env i).filled s.gateway.reassembler).chunks.keys := by
  have hne : ∀ k ∈ s.client.ackedOf msgId.toNat, k ≠ i := fun k hk heq => hnew (heq ▸ hk)
  rw [AckNet.deliver, Bool.or_eq_true] at hlate
  rcases hlate with hold | hlate
  · obtain ⟨hnil, k, hk, hnot⟩ := h.lost hold
    exact ⟨hnil, k, hk, not_mem_filled hclock (hne k hk) (Or.inl hnot)⟩
  · simp only [Bool.and_eq_true, List.isEmpty_iff, Bool.not_eq_true',
      List.isEmpty_eq_false_iff] at hlate
    obtain ⟨⟨hnil, hstale⟩, hsome⟩ := hlate
    obtain ⟨k, hk⟩ := List.exists_mem_of_ne_nil _ hsome
    exact ⟨hnil, k, hk, not_mem_filled hclock (hne k hk) (Or.inr hstale)⟩

/-- As long as none came too late, every acknowledged chunk is in this buffer, until the message is
returned. -/
lemma AckInv.mem_filled (h : AckInv txBytes clientId msgId s)
    (hclock : env.clock = ⟨fun _ => s.now, s.now⟩) (hnil : s.returned = []) {frame : Bytes}
    (hintime : (s.deliver clientId msgId env frame heard).outlived = false) {k : ℕ}
    (hk : k ∈ s.client.ackedOf msgId.toNat) :
    k ∈ ((chunkCall txBytes clientId msgId env i).filled s.gateway.reassembler).chunks.keys := by
  have hsome : (s.client.ackedOf msgId.toNat).isEmpty = false :=
    List.isEmpty_eq_false_iff.mpr (List.ne_nil_of_mem hk)
  rw [AckNet.deliver, Bool.or_eq_false_iff, hnil, List.isEmpty_nil, Bool.true_and, hsome,
    Bool.not_false, Bool.and_true] at hintime
  exact mem_filled_of_has hclock hintime.2 (h.held hintime.1 hnil k hk)

/-- **A delivery keeps the invariant**, if the chunk was not acknowledged before.

**Proof sketch.** Either the delivery completes the message or it does not (`deliver_cases`). If it
does, every chunk is in the buffer, so none of the acknowledged ones was lost. If it does not, the
acknowledged chunks are held as before, unless the sweep dropped the buffer, and then one of them is
missing from there on (`exists_not_mem_filled`). -/
lemma AckInv.deliver (h : AckInv txBytes clientId msgId s)
    (hlen : txBytes.length ≤ 255 * maxChunkData) (hi : i < numChunks txBytes.length)
    (hnew : i ∉ s.client.ackedOf msgId.toNat)
    (hclock : env.clock = ⟨fun _ => s.now, s.now⟩) (hadmits : s.gateway.admits env clientId = true)
    (hheard : heard.Sublist (framesTo clientId
      (s.gateway.effectsOf env (chunkFrame txBytes MsgType.txChunk msgId i) clientId))) :
    AckInv txBytes clientId msgId
      (s.deliver clientId msgId env (chunkFrame txBytes MsgType.txChunk msgId i) heard) ∧
    ∀ k ∈ (s.deliver clientId msgId env (chunkFrame txBytes MsgType.txChunk msgId i)
      heard).client.ackedOf msgId.toNat, k ∈ s.client.ackedOf msgId.toNat ∨ k = i := by
  have hacks : ∀ frame ∈ heard, ClientNode.ackOf frame = some (msgId.toNat, i) ∨
      ClientNode.ackOf frame = none :=
    fun frame hmem => ackOf_of_mem hlen hi hadmits (hheard.subset hmem)
  have hkeep : ∀ k ∈ s.client.ackedOf msgId.toNat,
      k ∈ (heard.foldl ClientNode.receive s.client).ackedOf msgId.toNat :=
    fun k => (mem_ackedOf_foldl hacks).1
  have hadd : ∀ k ∈ (heard.foldl ClientNode.receive s.client).ackedOf msgId.toNat,
      k ∈ s.client.ackedOf msgId.toNat ∨ k = i := fun k => (mem_ackedOf_foldl hacks).2
  obtain ⟨hcollecting, hcases⟩ := deliver_cases hlen hi h.collecting env hadmits
  have hread : ∀ k ∈ s.read, k ∈ (heard.foldl ClientNode.receive s.client).ackedOf msgId.toNat :=
    fun k hk => hkeep k (h.read k hk)
  have hacked : ∀ k ∈ (heard.foldl ClientNode.receive s.client).ackedOf msgId.toNat,
      k < numChunks txBytes.length := by
    intro k hk
    rcases hadd k hk with hold | rfl
    · exact h.acked_lt k hold
    · exact hi
  refine ⟨?_, hadd⟩
  rcases hcases with ⟨hcompletes, hall, hget⟩ | ⟨hcompletes, hinc, hget⟩
  · refine ⟨hcollecting, ?_, ?_, hread, hacked, ?_, ?_⟩
    · exact fun buf hbuf => absurd (hget.symm.trans hbuf) (by simp)
    · intro data hdata
      rw [AckNet.deliver, hcompletes, Option.toList_some, List.mem_append,
        List.mem_singleton] at hdata
      exact hdata.elim (h.returned data) id
    · intro _ hnil
      rw [AckNet.deliver, hcompletes] at hnil
      simp at hnil
    · -- the buffer that was completed has every chunk, so none was lost
      intro hlate
      obtain ⟨_, k, hk, hnot⟩ := h.exists_not_mem_filled hclock hnew hlate
      exact absurd (hall k (h.acked_lt k hk)) hnot
  · have hreturned : (s.deliver clientId msgId env (chunkFrame txBytes MsgType.txChunk msgId i)
        heard).returned = s.returned := by
      rw [AckNet.deliver, hcompletes, Option.toList_none, List.append_nil]
    refine ⟨hcollecting, ?_, hreturned ▸ h.returned, hread, hacked, ?_, ?_⟩
    · intro buf hbuf
      obtain rfl := Option.some.inj (hget.symm.trans hbuf)
      exact hinc
    · intro hintime hnil k hk
      rw [hreturned] at hnil
      refine ⟨_, hget, ?_⟩
      rcases hadd k hk with hold | rfl
      · exact h.mem_filled hclock hnil hintime hold
      · exact mem_keys_filled.mpr (Or.inl rfl)
    · intro hlate
      obtain ⟨hnil, k, hk, hnot⟩ := h.exists_not_mem_filled hclock hnew hlate
      rw [hreturned]
      refine ⟨hnil, k, hkeep k hk, ?_⟩
      rintro ⟨buf, hbuf, hmem⟩
      obtain rfl := Option.some.inj (hget.symm.trans hbuf)
      exact hnot hmem

/-- **The invariant of the process**: besides, the program that runs belongs to the message, and
sends no acknowledged chunk. -/
structure Acknowledging (txBytes : Bytes) (clientId : String) (msgId : UInt16)
    (c : Acking F S) : Prop where
  inv : AckInv txBytes clientId msgId c.state
  serves : ∀ p, c.running = some p →
    p.Performs (RetryOp.Serves (chunkFrames txBytes MsgType.txChunk msgId) msgId.toNat)
  once : ∀ p, c.running = some p →
    SendsOnce (chunkFrame txBytes MsgType.txChunk msgId) msgId.toNat (numChunks txBytes.length) p
  spares : ∀ p, c.running = some p → ∀ i ∈ c.state.client.ackedOf msgId.toNat,
    Spares (chunkFrame txBytes MsgType.txChunk msgId i) msgId.toNat i p

/-- **Each operation keeps the invariant.**

**Proof sketch.** One case for each operation of the loop. Only sending can deliver a chunk, and the
loop spares those that are acknowledged, so `AckInv.deliver` applies. Reading the acknowledged
chunks only notes that they were read; sleeping and noting a failure leave both sides as they are.
-/
lemma Acknowledging.own {op : RetryOp} {next : op.Ans → Prog RetryOp RetryOp.Ans (Except Exn Unit)}
    {r : op.Ans} (hlen : txBytes.length ≤ 255 * maxChunkData)
    (h : Acknowledging txBytes clientId msgId ⟨some (.call op next), s⟩)
    (hexec : ackExec clientId msgId op s r s') :
    Acknowledging txBytes clientId msgId ⟨some (next r), s'⟩ := by
  obtain ⟨hinv, hserves, honce, hspares⟩ := h
  obtain ⟨hop, hserves⟩ := hserves _ rfl
  obtain ⟨hsent, honce⟩ := honce _ rfl
  -- what is acknowledged after the operation is spared by the rest of the program
  suffices hstep : AckInv txBytes clientId msgId s' ∧
      ∀ k ∈ s'.client.ackedOf msgId.toNat,
        Spares (chunkFrame txBytes MsgType.txChunk msgId k) msgId.toNat k (next r) by
    obtain ⟨hinv', hspares'⟩ := hstep
    exact ⟨hinv', fun p hp => Option.some.inj hp ▸ hserves r,
      fun p hp => Option.some.inj hp ▸ honce r, fun p hp => Option.some.inj hp ▸ hspares'⟩
  have hkept : ∀ k ∈ s.client.ackedOf msgId.toNat, RetryOp.Tells msgId.toNat k op r →
      Spares (chunkFrame txBytes MsgType.txChunk msgId k) msgId.toNat k (next r) :=
    fun k hk htells => (hspares _ rfl k hk).2 r htells
  cases op with
  | send frame =>
    rcases hexec with rfl | ⟨env, heard, hclock, hadmits, hheard, rfl⟩
    · exact ⟨hinv, fun k hk => hkept k hk trivial⟩
    · obtain ⟨i, hi, rfl⟩ := List.mem_map.mp hop
      have hlt := List.mem_range.mp hi
      have hnew : i ∉ s.client.ackedOf msgId.toNat :=
        fun hmem => (hspares _ rfl i hmem).1 rfl
      obtain ⟨hinv', hadd⟩ := hinv.deliver hlen hlt hnew hclock hadmits hheard
      refine ⟨hinv', fun k hk => ?_⟩
      rcases hadd k hk with hold | rfl
      · exact hkept k hold trivial
      · exact hsent k hlt rfl r
  | sleep seconds =>
    obtain rfl : s' = { s with now := s.now + seconds } := hexec
    exact ⟨⟨hinv.1, hinv.2, hinv.3, hinv.4, hinv.5, hinv.6, hinv.7⟩,
      fun k hk => hkept k hk trivial⟩
  | acked id =>
    obtain ⟨rfl, rfl⟩ := hexec
    obtain rfl : id = msgId.toNat := hop
    exact ⟨⟨hinv.1, hinv.2, hinv.3, fun _ hk => hk, hinv.5, hinv.6, hinv.7⟩,
      fun k hk => hkept k hk fun _ => hk⟩
  | setResult id outcome =>
    obtain rfl : s' = { s with client := s.client.setResult id outcome } := hexec
    exact ⟨⟨hinv.1, hinv.2, hinv.3, hinv.4, hinv.5, hinv.6, hinv.7⟩,
      fun k hk => hkept k hk trivial⟩

/-- **The invariant holds throughout a run.** -/
lemma Acknowledging.run {c c' : Acking F S} (hlen : txBytes.length ≤ 255 * maxChunkData)
    (hrun : AckRun clientId msgId c c') (h : Acknowledging txBytes clientId msgId c) :
    Acknowledging txBytes clientId msgId c' := by
  obtain ⟨ls, hsteps⟩ := hrun
  induction hsteps with
  | nil => exact h
  | cons hstep _ ih =>
    cases hstep with
    | start hp => exact absurd hp id
    | own hexec => exact ih (h.own hlen hexec)
    | finish => exact ih ⟨h.inv, nofun, nofun, nofun⟩
    | others hs => exact absurd hs id
    | crash hs => exact absurd hs id

omit [Number F] in
/-- When the retry loop starts, nothing is acknowledged and nothing is held.

**Proof sketch.** The gateway holds no buffer under the id, and relaying starts with no acknowledged
chunk, so the invariant has nothing to say yet. The loop serves the chunks in order
(`performs_retryChunks`) and sends none again that is acknowledged (`sendsOnce_retryChunks`). -/
lemma acknowledging_start {client client' : ClientNode} {gateway : GatewayNode F S}
    {loop : RetryLoop Unit} (hrelay : relayRawTx txBytes msgId client = .ok (loop, client'))
    (hfresh : gateway.reassembler.buffers.get? (clientId, msgId.toNat) = none) (now : ℚ) :
    Acknowledging txBytes clientId msgId
      ⟨some loop.run, AckNet.start client' gateway now⟩ := by
  have hlen := length_le_of_relayRawTx hrelay
  rw [relayRawTx_eq hlen] at hrelay
  obtain ⟨rfl, rfl⟩ := Prod.mk.inj (Except.ok.inj hrelay)
  have hacked : (AckNet.start { client with
      ackedChunks := client.ackedChunks.set msgId.toNat [] } gateway now).client.ackedOf
        msgId.toNat = [] := by
    change ((client.ackedChunks.set msgId.toNat []).get? msgId.toNat).getD [] = []
    rw [Dict.get?_set_self]
    rfl
  refine ⟨⟨?_, ?_, ?_, ?_, ?_, ?_, ?_⟩, ?_, ?_, ?_⟩
  · exact fun buf hget => absurd (hfresh.symm.trans hget) (by simp)
  · exact fun buf hget => absurd (hfresh.symm.trans hget) (by simp)
  · exact nofun
  · exact nofun
  · rw [hacked]
    exact nofun
  · rw [hacked]
    exact fun _ _ => nofun
  · exact nofun
  · rintro p ⟨⟩
    exact performs_retryChunks (by simp [chunkFrames])
  · rintro p ⟨⟩
    exact sendsOnce_retryChunks (injOn_chunkFrame hlen MsgType.txChunk msgId)
  · rw [hacked]
    exact fun _ _ => nofun

omit [Number F] in
/-- **A message whose chunks are all acknowledged** was returned, exactly if no chunk arrived too
late for an acknowledged one.

**Proof sketch.** If a chunk came too late, the message was not returned. Otherwise every
acknowledged chunk is held while the message is not returned; but a buffer that holds all of them is
complete, and the invariant says that none is. -/
lemma AckInv.mem_returned_iff (h : AckInv txBytes clientId msgId s)
    (hall : ∀ i < numChunks txBytes.length, i ∈ s.client.ackedOf msgId.toNat) :
    txBytes ∈ s.returned ↔ s.outlived = false := by
  constructor
  · intro hmem
    by_contra hlate
    rw [(h.lost (by simpa using hlate)).1] at hmem
    exact absurd hmem List.not_mem_nil
  · intro hintime
    by_contra hnot
    have hnil : s.returned = [] :=
      List.eq_nil_iff_forall_not_mem.mpr fun data hdata => hnot (h.returned data hdata ▸ hdata)
    have hheld := fun i hi => h.held hintime hnil i (hall i hi)
    -- then the gateway holds every chunk, and would have returned the message
    obtain ⟨buf, hget, _⟩ := hheld 0 (numChunks_pos _)
    obtain ⟨htotal, hlt⟩ := h.collecting.stored hget
    have hcomplete : buf.isComplete = true := by
      rw [ReassemblyBuffer.isComplete, htotal, decide_eq_true_iff]
      refine (Dict.size_eq_iff_of_keys_lt hlt).mpr fun i hi => ?_
      obtain ⟨buf', hget', hmem⟩ := hheld i hi
      obtain rfl := Option.some.inj (hget.symm.trans hget')
      exact hmem
    rw [h.incomplete buf hget] at hcomplete
    cases hcomplete

end Runs

/-- **When an acknowledged message was delivered**: a run in which the retry loop found every chunk
acknowledged has returned the message exactly if no chunk arrived when the buffer of the message
was older than 120 seconds and a chunk of it was already acknowledged. Nothing but the relayed
bytes is returned for it.

**Proof sketch.** The invariant holds when the loop starts, and every step keeps it
(`Acknowledging.run`). Where all chunks are acknowledged, it says which of the two is the case
(`AckInv.mem_returned_iff`). -/
theorem acknowledged_delivered_iff {txBytes : Bytes} {msgId : UInt16} {client client' : ClientNode}
    {loop : RetryLoop Unit} (hrelay : relayRawTx txBytes msgId client = .ok (loop, client'))
    {clientId : String} {gateway : GatewayNode F S}
    (hfresh : gateway.reassembler.buffers.get? (clientId, msgId.toNat) = none) {now : ℚ}
    {c : Acking F S}
    (hrun : AckRun clientId msgId ⟨some loop.run, AckNet.start client' gateway now⟩ c)
    (hacked : ∀ i < numChunks txBytes.length, i ∈ c.state.read) :
    (txBytes ∈ c.state.returned ↔ c.state.outlived = false) ∧
      ∀ data ∈ c.state.returned, data = txBytes := by
  have hlen := length_le_of_relayRawTx hrelay
  have hend := (acknowledging_start hrelay hfresh now).run hlen hrun
  exact ⟨hend.inv.mem_returned_iff fun i hi => hend.inv.read i (hacked i hi), hend.inv.returned⟩

/-! ## Sample runs -/

/-- A mesh that delivers frames at some times, and loses what the gateway replies at others. -/
def ackAnswer (delivers replies : ℚ → Bool) :
    (op : RetryOp) → AckNet ℤ sampleSolders → op.Ans × AckNet ℤ sampleSolders
  | .send frame, s =>
    let env := { sampleMoment with now := s.now.floor, clock := ⟨fun _ => s.now, s.now⟩ }
    let heard := framesTo "!client" (s.gateway.effectsOf env frame "!client")
    (.ok true, if delivers s.now ∧ s.gateway.admits env "!client" then
      s.deliver "!client" 7 env frame (if replies s.now then heard else []) else s)
  | .sleep seconds, s => ((), { s with now := s.now + seconds })
  | .acked id, s => (s.client.ackedOf id, { s with read := s.client.ackedOf id })
  | .setResult id outcome, s => ((), { s with client := s.client.setResult id outcome })

/-- The mesh may do so. -/
lemma ackExec_ackAnswer (delivers replies : ℚ → Bool) (op : RetryOp)
    (s : AckNet ℤ sampleSolders) :
    ackExec "!client" 7 op s (ackAnswer delivers replies op s).1
      (ackAnswer delivers replies op s).2 := by
  cases op with
  | send frame =>
    unfold ackAnswer
    dsimp only
    split_ifs with hdelivered
    · exact Or.inr ⟨_, _, rfl, hdelivered.2, List.Sublist.refl _, rfl⟩
    · exact Or.inr ⟨_, _, rfl, hdelivered.2, List.nil_sublist _, rfl⟩
    · exact Or.inl rfl
  | sleep seconds => rfl
  | acked id => exact ⟨rfl, rfl⟩
  | setResult id outcome => rfl

/-- How data are relayed over such a mesh, from time zero on. -/
def ackedAfter (txBytes : Bytes) (delivers replies : ℚ → Bool) : AckNet ℤ sampleSolders :=
  ((retryChunks (chunkFrames txBytes MsgType.txChunk 7) (List.range (numChunks txBytes.length))
    7).run.eval (ackAnswer delivers replies)
      (AckNet.start ⟨Dict.set ∅ 7 [], ∅⟩ sampleGateway 0)).2

/-- This is a run of the retry loop to its end. -/
lemma ackRun_ackedAfter {txBytes : Bytes} (hlen : txBytes.length ≤ 255 * maxChunkData)
    (delivers replies : ℚ → Bool) :
    ∃ client loop, relayRawTx txBytes 7 ClientNode.new = .ok (loop, client) ∧
      AckRun "!client" 7 ⟨some loop.run, AckNet.start client sampleGateway 0⟩
        ⟨none, ackedAfter txBytes delivers replies⟩ :=
  ⟨_, _, relayRawTx_eq hlen 7 ClientNode.new, _,
    Host.Steps.eval _ (ackExec_ackAnswer delivers replies) _ _⟩

set_option maxRecDepth 10000 in
/-- Everything arrives: the message was returned. -/
theorem acknowledged_delivered_two_chunks :
    List.replicate 211 9 ∈
      (ackedAfter (List.replicate 211 9) (fun _ => true) fun _ => true).returned := by
  have hlen : (List.replicate 211 (9 : UInt8)).length ≤ 255 * maxChunkData := by
    rw [List.length_replicate]
    decide
  obtain ⟨client, loop, hrelay, hrun⟩ := ackRun_ackedAfter hlen (fun _ => true) fun _ => true
  exact (acknowledged_delivered_iff hrelay rfl hrun (by decide +kernel)).1.mpr (by decide +kernel)

set_option maxRecDepth 10000 in
/-- **An acknowledged message need not be delivered**: of two chunks the first one arrives at once,
but its acknowledgement is lost; it is acknowledged when it is sent again after 32 seconds. The
second chunk is lost until it arrives after 122 seconds, and is acknowledged, too. By then the
buffer with the first chunk is too old. -/
theorem not_acknowledged_delivered :
    ∃ (client : ClientNode) (loop : RetryLoop Unit) (c : Acking ℤ sampleSolders),
      relayRawTx (List.replicate 211 9) 7 ClientNode.new = .ok (loop, client) ∧
      AckRun "!client" 7 ⟨some loop.run, AckNet.start client sampleGateway 0⟩ c ∧
      c.running = none ∧ (∀ i < numChunks 211, i ∈ c.state.read) ∧ c.state.returned = [] := by
  have hlen : (List.replicate 211 (9 : UInt8)).length ≤ 255 * maxChunkData := by
    rw [List.length_replicate]
    decide
  obtain ⟨client, loop, hrelay, hrun⟩ := ackRun_ackedAfter hlen (fun now => now ∈ [0, 32, 122])
    fun now => now ∈ [32, 122]
  exact ⟨client, loop, _, hrelay, hrun, rfl, by decide +kernel, by decide +kernel⟩

end SolMesh
