import SolMesh.Mesh.Chunker

set_option relaxedAutoImplicit false
set_option autoImplicit false

/-!
# Chunking and reassembly are inverse over any delivery order

The reassembler is driven by a sequence of calls. The calls of one key are deliveries of the
frames of some data, in any order and with duplicates; the calls of all other keys are arbitrary.
What the reassembler keeps under the key then only depends on the calls of the key, and the call
that delivers the last missing chunk returns the data.

## Main definitions

* `SolMesh.ChunkCall` — a call of `receive_chunk` with its clock readings.
* `SolMesh.ChunkReassembler.after` — the reassembler after a run of calls.
* `SolMesh.IsTransfer` — a run that delivers all frames of a message, the last missing one last.
* `SolMesh.Holding` — what the reassembler keeps under the key during such a run.

## Main results

* `SolMesh.holding_after` — the invariant holds throughout a transfer.
* `SolMesh.reassembly_inverts_chunking` — the data come out at the end, and not before.
-/

namespace SolMesh

open Py Text

/-! ## Runs of calls -/

/-- A call of `receive_chunk` with its clock readings. -/
structure ChunkCall where
  clock : Clock
  senderId : String
  msgId : ℕ
  chunkNum : ℕ
  totalChunks : ℕ
  payload : Bytes

/-- The key of the buffer the call adds to. -/
def ChunkCall.key (c : ChunkCall) : String × ℕ := (c.senderId, c.msgId)

/-- One call. -/
def ChunkReassembler.receive (r : ChunkReassembler) (c : ChunkCall) :
    Except Exn (Option Bytes) × ChunkReassembler :=
  r.receiveChunk c.clock c.senderId c.msgId c.chunkNum c.totalChunks c.payload

/-- The reassembler after a run of calls, whatever these returned or raised. -/
def ChunkReassembler.after (r : ChunkReassembler) (calls : List ChunkCall) : ChunkReassembler :=
  calls.foldl (fun r c => (r.receive c).2) r

/-- The run may be taken one call at a time, the last one last. -/
lemma ChunkReassembler.after_append_singleton (r : ChunkReassembler) (calls : List ChunkCall)
    (c : ChunkCall) : r.after (calls ++ [c]) = ((r.after calls).receive c).2 := by
  rw [ChunkReassembler.after, List.foldl_append]
  rfl

/-- The number `t` is a clock reading of the call. -/
def Clock.Reads (clock : Clock) (t : ℚ) : Prop :=
  t = clock.creation ∨ ∃ key, t = clock.expiry key

/-- All readings of one call come no later than all readings of another. -/
def Clock.Before (clock clock' : Clock) : Prop :=
  ∀ t t', clock.Reads t → clock'.Reads t' → t ≤ t'

/-- The call hands over what `unpack_message` reads from a frame. -/
def ChunkCall.Delivers (c : ChunkCall) (frame : Bytes) : Prop :=
  ∃ header, unpackMessage frame = .ok (header, c.payload) ∧ c.msgId = header.msgId.toNat ∧
    c.chunkNum = header.chunkNum.toNat ∧ c.totalChunks = header.totalChunks.toNat

/-- The first call for a key. -/
def firstCall (key : String × ℕ) (calls : List ChunkCall) : Option ChunkCall :=
  calls.find? fun c => c.key = key

/-- A run of calls in which those for `key` deliver frames from `frames`. All frames are
delivered, the last call is for `key` and delivers a frame that was missing, and the age of the
buffer never exceeds the timeout when a call for `key` checks it. -/
structure IsTransfer (frames : List Bytes) (key : String × ℕ) (pre : List ChunkCall)
    (last : ChunkCall) : Prop where
  ordered : (pre ++ [last]).Pairwise fun c c' => c.clock.Before c'.clock
  inTime : ∀ first, firstCall key (pre ++ [last]) = some first →
    ∀ c ∈ pre ++ [last], c.key = key →
      c.clock.expiry key ≤ first.clock.creation + chunkReassemblyTimeout
  own : ∀ c ∈ pre ++ [last], c.key = key → ∃ frame ∈ frames, c.Delivers frame
  lastOwn : last.key = key
  complete : ∀ frame ∈ frames, ∃ c ∈ pre ++ [last], c.key = key ∧ c.Delivers frame
  fresh : ∃ frame ∈ frames, last.Delivers frame ∧ ∀ c ∈ pre, c.key = key → ¬ c.Delivers frame

/-! ## Deliveries of chunks -/

section Deliveries

variable {data : Bytes} {msgType : UInt8} {msgId : UInt16} {c : ChunkCall}

/-- A call delivers the frame of chunk `i` exactly if it hands over the fields of that frame. -/
lemma delivers_chunkFrame_iff (h : data.length ≤ 255 * maxChunkData) {i : ℕ}
    (hi : i < numChunks data.length) :
    c.Delivers (chunkFrame data msgType msgId i) ↔ c.payload = chunkAt data i ∧
      c.msgId = msgId.toNat ∧ c.chunkNum = i ∧ c.totalChunks = numChunks data.length := by
  obtain ⟨header, hu, _, hid, hnum, htotal⟩ := unpackMessage_chunkFrame msgType msgId h hi
  unfold ChunkCall.Delivers
  rw [hu]
  constructor
  · rintro ⟨header', heq, hid', hnum', htotal'⟩
    obtain ⟨rfl, hp⟩ := Prod.mk.inj (Except.ok.inj heq)
    exact ⟨hp.symm, hid'.trans (congrArg UInt16.toNat hid), hnum'.trans hnum, htotal'.trans htotal⟩
  · rintro ⟨hp, hid', hnum', htotal'⟩
    exact ⟨header, by rw [hp], hid'.trans (congrArg UInt16.toNat hid.symm), hnum'.trans hnum.symm,
      htotal'.trans htotal.symm⟩

/-- Every frame of a message fits a LoRa packet. -/
lemma length_chunkFrame_le (data : Bytes) (msgType : UInt8) (msgId : UInt16) (i : ℕ) :
    (chunkFrame data msgType msgId i).length ≤ safeLoraPayload := by
  have h := length_chunkAt_le data i
  rw [maxChunkData_eq] at h
  rw [chunkFrame, length_frameBytes, headerSize, safeLoraPayload]
  omega

end Deliveries

/-! ## The invariant -/

section Invariant

variable (data : Bytes) (key : String × ℕ)

/-- The chunk numbers the calls for a key delivered, in their order. -/
def delivered (calls : List ChunkCall) : List ℕ :=
  (calls.filter fun c => c.key = key).map ChunkCall.chunkNum

/-- **What is kept under the key**: nothing before the first call for it, and then a buffer that
holds the delivered chunks, created by that call. -/
def Holding (calls : List ChunkCall) (r : ChunkReassembler) : Prop :=
  match firstCall key calls with
  | none => r.buffers.get? key = none
  | some first => ∃ buf, r.buffers.get? key = some buf ∧
      buf.totalChunks = numChunks data.length ∧
      buf.chunks.Tabulates (chunkAt data) (delivered key calls) ∧
      buf.createdAt = first.clock.creation

/-- What is kept under the key, if anything, are chunks of the data. -/
def Collecting (r : ChunkReassembler) : Prop :=
  ∀ buf, r.buffers.get? key = some buf → buf.totalChunks = numChunks data.length ∧
    ∃ ks, (∀ k ∈ ks, k < numChunks data.length) ∧ buf.chunks.Tabulates (chunkAt data) ks

variable {data key} {calls : List ChunkCall} {r : ChunkReassembler} {c : ChunkCall}

/-- A call for another key delivers nothing for this one. -/
lemma delivered_append_of_ne (h : c.key ≠ key) :
    delivered key (calls ++ [c]) = delivered key calls := by
  simp [delivered, h]

/-- A call for the key delivers its chunk. -/
lemma delivered_append_of_eq (h : c.key = key) :
    delivered key (calls ++ [c]) = delivered key calls ++ [c.chunkNum] := by
  simp [delivered, h]

/-- Without a first call nothing is delivered. -/
lemma delivered_of_firstCall_none (h : firstCall key calls = none) : delivered key calls = [] := by
  rw [firstCall, List.find?_eq_none] at h
  rw [delivered, List.map_eq_nil_iff, List.filter_eq_nil_iff]
  exact h

/-- The first call stays the first call. -/
lemma firstCall_append_of_some {first : ChunkCall} (h : firstCall key calls = some first)
    (calls' : List ChunkCall) : firstCall key (calls ++ calls') = some first := by
  rw [firstCall] at h
  rw [firstCall, List.find?_append, h]
  rfl

/-- A call for the key becomes the first one if there was none. -/
lemma firstCall_append_of_none (h : firstCall key calls = none) (c : ChunkCall) :
    firstCall key (calls ++ [c]) = if c.key = key then some c else none := by
  rw [firstCall] at h
  rw [firstCall, List.find?_append, h]
  by_cases hc : c.key = key <;> simp [hc]

/-- A call for another key, made in time, leaves the invariant alone.

**Proof sketch.** The call leaves of the buffer what survives its sweep (`receiveChunk_of_ne`), and
the buffer does, because the call is made in time after the one that opened it. The delivered chunks
are those of before. -/
lemma Holding.receive_of_ne (h : Holding data key calls r) (hc : c.key ≠ key)
    (htime : ∀ first, firstCall key calls = some first →
      c.clock.expiry key ≤ first.clock.creation + chunkReassemblyTimeout) :
    Holding data key (calls ++ [c]) (r.receive c).2 := by
  have hget := receiveChunk_of_ne r c.clock c.senderId c.msgId c.chunkNum c.totalChunks c.payload
    (Ne.symm hc)
  unfold Holding at h ⊢
  cases hf : firstCall key calls with
  | none =>
    rw [hf] at h
    rw [firstCall_append_of_none hf, if_neg hc]
    dsimp only at h ⊢
    rw [ChunkReassembler.receive, hget, h]
    rfl
  | some first =>
    rw [hf] at h
    obtain ⟨buf, hbuf, htotal, htab, hcreated⟩ := h
    have halive : buf.isExpired (c.clock.expiry key) = false := by
      have := htime first hf
      rw [ReassemblyBuffer.isExpired, hcreated, decide_eq_false_iff_not]
      linarith
    rw [firstCall_append_of_some hf, delivered_append_of_ne hc]
    refine ⟨buf, ?_, htotal, htab, hcreated⟩
    rw [ChunkReassembler.receive, hget, hbuf]
    simp [Option.filter, halive]

/-- The buffer a call for the key adds to: it holds what was delivered so far.

**Proof sketch.** Before the first call for the key there is no buffer, so the call opens an empty
one. Later there is one with the chunks delivered so far, which is young enough by assumption. -/
lemma Holding.bufferFor (h : Holding data key calls r) (hc : c.key = key)
    (htotal : c.totalChunks = numChunks data.length)
    (htime : ∀ first, firstCall key calls = some first →
      c.clock.expiry key ≤ first.clock.creation + chunkReassemblyTimeout) :
    ∃ buf, SolMesh.bufferFor r c.clock c.senderId c.msgId c.totalChunks = buf ∧
      buf.totalChunks = numChunks data.length ∧
      buf.chunks.Tabulates (chunkAt data) (delivered key calls) ∧
      firstCall key (calls ++ [c]) =
        some ((firstCall key calls).getD c) ∧
      buf.createdAt = ((firstCall key calls).getD c).clock.creation := by
  have hkey : (c.senderId, c.msgId) = key := hc
  unfold Holding at h
  rw [SolMesh.bufferFor, hkey]
  cases hf : firstCall key calls with
  | none =>
    rw [hf] at h
    dsimp only at h
    rw [h, firstCall_append_of_none hf, if_pos hc, delivered_of_firstCall_none hf]
    exact ⟨_, rfl, htotal, Dict.tabulates_empty _, rfl, rfl⟩
  | some first =>
    rw [hf] at h
    obtain ⟨buf, hbuf, htotal', htab, hcreated⟩ := h
    have halive : buf.isExpired (c.clock.expiry key) = false := by
      have := htime first hf
      rw [ReassemblyBuffer.isExpired, hcreated, decide_eq_false_iff_not]
      linarith
    rw [hbuf, firstCall_append_of_some hf]
    refine ⟨buf, ?_, htotal', htab, rfl, hcreated⟩
    simp [Option.filter, halive]

/-- A table of all chunks is put together to the data. -/
lemma reassemble_of_tabulates {buf : ReassemblyBuffer} {ks : List ℕ}
    (hcomplete : buf.isComplete = true) (htotal : buf.totalChunks = numChunks data.length)
    (htab : buf.chunks.Tabulates (chunkAt data) ks) (hall : ∀ i < numChunks data.length, i ∈ ks) :
    buf.reassemble = .ok data := by
  have hchunk : ∀ i ∈ List.range buf.totalChunks, buf.chunk i = .ok (chunkAt data i) := by
    intro i hi
    have hmem := hall i (htotal ▸ List.mem_range.mp hi)
    rw [ReassemblyBuffer.chunk, htab i, if_pos hmem]
  rw [ReassemblyBuffer.reassemble, if_neg (not_not.mpr hcomplete), mapM_eq_ok hchunk, ok_bind,
    htotal]
  exact congrArg Except.ok (flatMap_chunkAt data)

/-- **A call for the key**: it returns the data if it delivers the last missing chunk, and
otherwise returns nothing and keeps the invariant.

**Proof sketch.** The call adds its chunk to a buffer with the chunks delivered before
(`Holding.bufferFor`). This is complete exactly if all chunks are delivered
(`Tabulates.size_eq_iff`). If so, the data are put together and the buffer is dropped
(`receiveChunk_complete`); otherwise the buffer is kept (`receiveChunk_incomplete`). -/
lemma Holding.receive_of_eq (h : Holding data key calls r) (hc : c.key = key)
    (htotal : c.totalChunks = numChunks data.length)
    (hpayload : c.payload = chunkAt data c.chunkNum)
    (hlt : ∀ i ∈ delivered key (calls ++ [c]), i < numChunks data.length)
    (htime : ∀ first, firstCall key calls = some first →
      c.clock.expiry key ≤ first.clock.creation + chunkReassemblyTimeout) :
    if ∀ i < numChunks data.length, i ∈ delivered key (calls ++ [c]) then
      (r.receive c).1 = .ok (some data) ∧ (r.receive c).2.buffers.get? key = none
    else (r.receive c).1 = .ok none ∧ Holding data key (calls ++ [c]) (r.receive c).2 := by
  obtain ⟨buf, hbuf, htotal', htab, hfirst, hcreated⟩ := h.bufferFor hc htotal htime
  have hkey : (c.senderId, c.msgId) = key := hc
  have htab' : (buf.addChunk c.chunkNum c.payload).chunks.Tabulates (chunkAt data)
      (delivered key (calls ++ [c])) := by
    rw [delivered_append_of_eq hc, hpayload]
    exact htab.set c.chunkNum
  have hsize : (buf.addChunk c.chunkNum c.payload).isComplete = true ↔
      ∀ i < numChunks data.length, i ∈ delivered key (calls ++ [c]) := by
    have hn : (buf.addChunk c.chunkNum c.payload).totalChunks = numChunks data.length := htotal'
    rw [ReassemblyBuffer.isComplete, decide_eq_true_iff, hn]
    exact htab'.size_eq_iff hlt
  split_ifs with hall
  · have hcomplete := hsize.mpr hall
    have hdata := reassemble_of_tabulates hcomplete htotal' htab' hall
    rw [← hbuf] at hcomplete hdata
    rw [← hkey]
    exact receiveChunk_complete r c.clock c.senderId c.msgId c.chunkNum c.totalChunks c.payload
      hcomplete hdata
  · have hincomplete : (buf.addChunk c.chunkNum c.payload).isComplete = false :=
      Bool.eq_false_iff.mpr (mt hsize.mp hall)
    rw [← hbuf] at hincomplete
    obtain ⟨hnone, hget⟩ := receiveChunk_incomplete r c.clock c.senderId c.msgId c.chunkNum
      c.totalChunks c.payload hincomplete
    refine ⟨hnone, ?_⟩
    rw [hbuf, hkey] at hget
    unfold Holding
    rw [hfirst]
    exact ⟨_, hget, htotal', htab', hcreated⟩

/-- A call for another key leaves what is kept, or drops it. -/
lemma Collecting.receive_of_ne (h : Collecting data key r) (hc : c.key ≠ key) :
    Collecting data key (r.receive c).2 := by
  have hget := receiveChunk_of_ne r c.clock c.senderId c.msgId c.chunkNum c.totalChunks c.payload
    (Ne.symm hc)
  intro buf hbuf
  rw [ChunkReassembler.receive, hget] at hbuf
  exact h buf (Option.filter_eq_some_iff.mp hbuf).1

/-- **A call that delivers a chunk of the data** keeps chunks of the data, and returns nothing but
the data.

**Proof sketch.** The call adds a chunk of the data to an empty buffer, or to one that survived the
sweep and holds chunks of the data only. If this completes it, then all chunks are there, and what
is returned is the data (`reassemble_of_tabulates`). -/
lemma Collecting.receive_of_eq (h : Collecting data key r) (hc : c.key = key)
    (htotal : c.totalChunks = numChunks data.length)
    (hpayload : c.payload = chunkAt data c.chunkNum) (hlt : c.chunkNum < numChunks data.length) :
    Collecting data key (r.receive c).2 ∧
      ∀ data', (r.receive c).1 = .ok (some data') → data' = data := by
  have hkey : (c.senderId, c.msgId) = key := hc
  obtain ⟨buf, hbuf, htotal', ks, hks, htab⟩ : ∃ buf,
      SolMesh.bufferFor r c.clock c.senderId c.msgId c.totalChunks = buf ∧
      buf.totalChunks = numChunks data.length ∧
      ∃ ks, (∀ k ∈ ks, k < numChunks data.length) ∧
        buf.chunks.Tabulates (chunkAt data) ks := by
    rw [SolMesh.bufferFor, hkey]
    cases hget : (r.buffers.get? key).filter fun buf => !buf.isExpired (c.clock.expiry key) with
    | none => exact ⟨_, rfl, htotal, [], by simp, Dict.tabulates_empty _⟩
    | some buf => exact ⟨buf, rfl, h buf (Option.filter_eq_some_iff.mp hget).1⟩
  have htab' : (buf.addChunk c.chunkNum c.payload).chunks.Tabulates (chunkAt data)
      (ks ++ [c.chunkNum]) := by
    rw [hpayload]
    exact htab.set c.chunkNum
  have hks' : ∀ k ∈ ks ++ [c.chunkNum], k < numChunks data.length := by
    intro k hk
    rcases List.mem_append.mp hk with hold | hnew
    · exact hks k hold
    · rw [List.mem_singleton.mp hnew]
      exact hlt
  cases hcomplete : (buf.addChunk c.chunkNum c.payload).isComplete with
  | true =>
    have hsize : (buf.addChunk c.chunkNum c.payload).chunks.size = numChunks data.length := by
      have hn : (buf.addChunk c.chunkNum c.payload).totalChunks = numChunks data.length := htotal'
      rw [ReassemblyBuffer.isComplete, decide_eq_true_iff, hn] at hcomplete
      exact hcomplete
    have hall := (htab'.size_eq_iff hks').mp hsize
    have hdata := reassemble_of_tabulates hcomplete htotal' htab' hall
    rw [← hbuf] at hcomplete hdata
    obtain ⟨hsome, hnone⟩ := receiveChunk_complete r c.clock c.senderId c.msgId c.chunkNum
      c.totalChunks c.payload hcomplete hdata
    rw [hkey] at hnone
    constructor
    · intro buf' hbuf'
      exact absurd (hnone.symm.trans hbuf') (by simp)
    · intro data' hdata'
      exact (Option.some.inj (Except.ok.inj (hsome.symm.trans hdata'))).symm
  | false =>
    rw [← hbuf] at hcomplete
    obtain ⟨hnone, hget⟩ := receiveChunk_incomplete r c.clock c.senderId c.msgId c.chunkNum
      c.totalChunks c.payload hcomplete
    rw [hbuf, hkey] at hget
    constructor
    · intro buf' hbuf'
      obtain rfl := Option.some.inj (hget.symm.trans hbuf')
      exact ⟨htotal', _, hks', htab'⟩
    · intro data' hdata'
      exact absurd (hnone.symm.trans hdata') (by simp)

end Invariant

/-! ## Transfers -/

section Transfer

variable {data : Bytes} {msgType : UInt8} {msgId : UInt16} {key : String × ℕ}
  {pre p q : List ChunkCall} {last c : ChunkCall}

/-- The frames of a message. -/
abbrev chunkFrames (data : Bytes) (msgType : UInt8) (msgId : UInt16) : List Bytes :=
  (List.range (numChunks data.length)).map (chunkFrame data msgType msgId)

/-- The calls for the key hand over chunks of the data. -/
lemma IsTransfer.fields (h : IsTransfer (chunkFrames data msgType msgId) key pre last)
    (hlen : data.length ≤ 255 * maxChunkData) (hc : c ∈ pre ++ [last]) (hkey : c.key = key) :
    c.totalChunks = numChunks data.length ∧ c.payload = chunkAt data c.chunkNum ∧
      c.chunkNum < numChunks data.length := by
  obtain ⟨frame, hframe, hdel⟩ := h.own c hc hkey
  obtain ⟨i, hi, rfl⟩ := List.mem_map.mp hframe
  rw [List.mem_range] at hi
  obtain ⟨hp, _, rfl, ht⟩ := (delivers_chunkFrame_iff hlen hi).mp hdel
  exact ⟨ht, hp, hi⟩

/-- The chunk numbers delivered in a part of the transfer are in range. -/
lemma IsTransfer.delivered_lt (h : IsTransfer (chunkFrames data msgType msgId) key pre last)
    (hlen : data.length ≤ 255 * maxChunkData) (hp : p ⊆ pre ++ [last]) :
    ∀ i ∈ delivered key p, i < numChunks data.length := by
  intro i hi
  obtain ⟨c, hc, rfl⟩ := List.mem_map.mp hi
  rw [List.mem_filter, decide_eq_true_iff] at hc
  exact (h.fields hlen (hp hc.1) hc.2).2.2

/-- The chunk of the last call is not delivered before.

**Proof sketch.** The frame of the last call was delivered by no call before. A call for the key
with the same number would have delivered it, since its payload and total are those of the message.
-/
lemma IsTransfer.last_not_delivered
    (h : IsTransfer (chunkFrames data msgType msgId) key pre last)
    (hlen : data.length ≤ 255 * maxChunkData) (hp : p ⊆ pre) :
    last.chunkNum ∉ delivered key p := by
  obtain ⟨frame, hframe, hdel, hfresh⟩ := h.fresh
  obtain ⟨i, hi, rfl⟩ := List.mem_map.mp hframe
  rw [List.mem_range] at hi
  obtain ⟨hpay, hid, hnum, htot⟩ := (delivers_chunkFrame_iff hlen hi).mp hdel
  intro hmem
  obtain ⟨c, hc, hcnum⟩ := List.mem_map.mp hmem
  rw [List.mem_filter, decide_eq_true_iff] at hc
  have hcpre : c ∈ pre ++ [last] := List.mem_append_left _ (hp hc.1)
  obtain ⟨hct, hcp, _⟩ := h.fields hlen hcpre hc.2
  have hcid : c.msgId = msgId.toNat := by
    have hl := congrArg Prod.snd (h.lastOwn.trans hc.2.symm)
    exact hl.symm.trans hid
  refine hfresh c (hp hc.1) hc.2 ((delivers_chunkFrame_iff hlen hi).mpr ⟨?_, hcid, ?_, hct⟩)
  · rw [hcp, hcnum, hnum]
  · rw [hcnum, hnum]

/-- After the whole transfer every chunk is delivered. -/
lemma IsTransfer.all_delivered (h : IsTransfer (chunkFrames data msgType msgId) key pre last)
    (hlen : data.length ≤ 255 * maxChunkData) :
    ∀ i < numChunks data.length, i ∈ delivered key (pre ++ [last]) := by
  intro i hi
  obtain ⟨c, hc, hkey, hdel⟩ := h.complete (chunkFrame data msgType msgId i)
    (List.mem_map.mpr ⟨i, List.mem_range.mpr hi, rfl⟩)
  obtain ⟨_, _, rfl, _⟩ := (delivers_chunkFrame_iff hlen hi).mp hdel
  exact List.mem_map.mpr ⟨c, List.mem_filter.mpr ⟨hc, by simpa using hkey⟩, rfl⟩

/-- Every call up to the last one, of whatever key, comes in time for the buffer of `key`.

**Proof sketch.** The last call comes in time by assumption, and the clock does not run backwards
between the call and the last one. -/
lemma IsTransfer.age_le {frames : List Bytes} (h : IsTransfer frames key pre last)
    (hsplit : pre ++ [last] = p ++ c :: q) {first : ChunkCall}
    (hfirst : firstCall key p = some first) :
    c.clock.expiry key ≤ first.clock.creation + chunkReassemblyTimeout := by
  have hlast : last.clock.expiry key ≤ first.clock.creation + chunkReassemblyTimeout := by
    refine h.inTime first ?_ last (by simp) h.lastOwn
    rw [hsplit]
    exact firstCall_append_of_some hfirst _
  rcases List.eq_nil_or_concat q with rfl | ⟨q', l, rfl⟩
  · obtain ⟨_, hcl⟩ := List.append_inj' hsplit rfl
    cases hcl
    exact hlast
  · -- the call comes before the last one, so its readings do
    have hsplit' : pre ++ [last] = (p ++ c :: q') ++ [l] := by rw [hsplit]; simp
    obtain ⟨hpre, hl⟩ := List.append_inj' hsplit' rfl
    cases hl
    have hord := h.ordered
    rw [hpre] at hord
    have hbefore := (List.pairwise_append.mp hord).2.2 c (by simp) last (by simp)
    exact (hbefore _ _ (Or.inr ⟨key, rfl⟩) (Or.inr ⟨key, rfl⟩)).trans hlast

/-- **The invariant holds throughout a transfer**, and its calls return nothing before the last.

**Proof sketch.** Induction on the run, one call at a time. A call for another key only drops
expired buffers, and the buffer of this key is young enough until the last call. A call for the
key adds its chunk; the chunk of the last call is still missing, so nothing is complete. -/
lemma holding_after {r : ChunkReassembler}
    (h : IsTransfer (chunkFrames data msgType msgId) key pre last)
    (hlen : data.length ≤ 255 * maxChunkData) (hr : r.buffers.get? key = none)
    (p : List ChunkCall) :
    ∀ q, pre = p ++ q → Holding data key p (r.after p) ∧
      ∀ p' c q', p = p' ++ c :: q' → c.key = key → ((r.after p').receive c).1 = .ok none := by
  induction p using List.reverseRecOn with
  | nil =>
    intro q _
    exact ⟨hr, fun p' c q' hp => absurd hp.symm (by simp)⟩
  | append_singleton p c ih =>
    intro q hq
    obtain ⟨hold, hprev⟩ := ih (c :: q) (by rw [hq]; simp)
    have hsplit : pre ++ [last] = p ++ c :: (q ++ [last]) := by rw [hq]; simp
    have htime : ∀ first, firstCall key p = some first →
        c.clock.expiry key ≤ first.clock.creation + chunkReassemblyTimeout :=
      fun first hf => h.age_le hsplit hf
    have hstep : Holding data key (p ++ [c]) (r.after (p ++ [c])) ∧
        (c.key = key → ((r.after p).receive c).1 = .ok none) := by
      rw [ChunkReassembler.after_append_singleton]
      by_cases hc : c.key = key
      · have hmem : c ∈ pre ++ [last] := by rw [hsplit]; simp
        obtain ⟨htotal, hpayload, _⟩ := h.fields hlen hmem hc
        have hsub : p ++ [c] ⊆ pre := by rw [hq]; exact List.subset_append_left _ _
        have hrec := hold.receive_of_eq hc htotal hpayload
          (h.delivered_lt hlen (List.Subset.trans hsub (List.subset_append_left _ _))) htime
        have hlastlt := (h.fields hlen (c := last) (by simp) h.lastOwn).2.2
        rw [if_neg fun hall => h.last_not_delivered hlen hsub (hall _ hlastlt)] at hrec
        exact ⟨hrec.2, fun _ => hrec.1⟩
      · exact ⟨hold.receive_of_ne hc htime, fun hc' => absurd hc' hc⟩
    refine ⟨hstep.1, fun p' c' q' hp hc' => ?_⟩
    rcases List.eq_nil_or_concat q' with rfl | ⟨q'', l, rfl⟩
    · obtain ⟨rfl, hcc⟩ := List.append_inj' hp rfl
      cases hcc
      exact hstep.2 hc'
    · have hp' : p ++ [c] = (p' ++ c' :: q'') ++ [l] := by rw [hp]; simp
      exact hprev p' c' q'' (List.append_inj' hp' rfl).1 hc'

end Transfer

/-- **Chunking and reassembly are inverse over any delivery order.** Data of at most 255 chunks
are cut into frames that fit a LoRa packet. In every run of calls that starts without a buffer
for the key and delivers these frames, calls for other keys being arbitrary, each call for the
key returns nothing until the last missing frame arrives; that call returns the data and leaves
no buffer behind.

**Proof sketch.** While chunks come in, the reassembler holds those delivered so far, and returns
nothing (`holding_after`). The last call delivers the one that was missing, so all are held, and it
returns the data and drops the buffer (`Holding.receive_of_eq`). -/
theorem reassembly_inverts_chunking (data : Bytes) (msgType : UInt8) (msgId : UInt16)
    (hlen : data.length ≤ 255 * maxChunkData) :
    ∃ frames, chunkPayload data msgType.toNat msgId.toNat = .ok frames ∧
      (∀ frame ∈ frames, frame.length ≤ 220) ∧
      ∀ (r : ChunkReassembler) (senderId : String) (pre : List ChunkCall) (last : ChunkCall),
        r.buffers.get? (senderId, msgId.toNat) = none →
        IsTransfer frames (senderId, msgId.toNat) pre last →
        (∀ p c q, pre = p ++ c :: q → c.key = (senderId, msgId.toNat) →
          ((r.after p).receive c).1 = .ok none) ∧
        ((r.after pre).receive last).1 = .ok (some data) ∧
        (r.after (pre ++ [last])).buffers.get? (senderId, msgId.toNat) = none := by
  refine ⟨chunkFrames data msgType msgId, chunkPayload_eq msgType msgId hlen, ?_, ?_⟩
  · intro frame hframe
    obtain ⟨i, _, rfl⟩ := List.mem_map.mp hframe
    exact length_chunkFrame_le data msgType msgId i
  · intro r senderId pre last hr h
    obtain ⟨hold, hprev⟩ := holding_after h hlen hr pre [] (by simp)
    obtain ⟨htotal, hpayload, _⟩ := h.fields hlen (c := last) (by simp) h.lastOwn
    have hrec := hold.receive_of_eq h.lastOwn htotal hpayload
      (h.delivered_lt hlen (List.Subset.refl _)) (fun first hf => h.age_le (q := []) rfl hf)
    rw [if_pos (h.all_delivered hlen)] at hrec
    refine ⟨hprev, hrec.1, ?_⟩
    rw [ChunkReassembler.after_append_singleton]
    exact hrec.2

/-- Three hundred bytes, whose second chunk comes first and twice, with a call for another
message in between that raises. -/
theorem reassembly_inverts_chunking_two_chunks :
    let data : Bytes := List.replicate 300 7
    let clock : Clock := ⟨fun _ => 0, 0⟩
    let second : ChunkCall := ⟨clock, "!a", 5, 1, 2, chunkAt data 1⟩
    let other : ChunkCall := ⟨clock, "!b", 5, 9, 1, []⟩
    let first : ChunkCall := ⟨clock, "!a", 5, 0, 2, chunkAt data 0⟩
    (((∅ : ChunkReassembler).after [second, other, second]).receive first).1 = .ok (some data) := by
  intro data clock second other first
  have hlen : data.length ≤ 255 * maxChunkData := by
    rw [List.length_replicate, maxChunkData_eq]
    omega
  have hn : numChunks data.length = 2 := by
    rw [List.length_replicate]
    rfl
  clear_value data
  obtain ⟨frames, hframes, _, hrun⟩ := reassembly_inverts_chunking data 1 5 hlen
  rw [chunkPayload_eq 1 5 hlen] at hframes
  obtain rfl : chunkFrames data 1 5 = frames := Except.ok.inj hframes
  have hmem : ∀ frame, frame ∈ chunkFrames data 1 5 ↔
      frame = chunkFrame data 1 5 0 ∨ frame = chunkFrame data 1 5 1 := by
    intro frame
    rw [chunkFrames, hn]
    simp [List.range_succ]
  have hfirst : first.Delivers (chunkFrame data 1 5 0) :=
    (delivers_chunkFrame_iff hlen (by rw [hn]; decide)).mpr ⟨rfl, rfl, rfl, hn.symm⟩
  have hsecond : second.Delivers (chunkFrame data 1 5 1) :=
    (delivers_chunkFrame_iff hlen (by rw [hn]; decide)).mpr ⟨rfl, rfl, rfl, hn.symm⟩
  have hnot : ¬ second.Delivers (chunkFrame data 1 5 0) := by
    rw [delivers_chunkFrame_iff hlen (by rw [hn]; decide)]
    exact fun h => Nat.one_ne_zero h.2.2.1
  have hb : clock.Before clock := by
    rintro t t' (rfl | ⟨_, rfl⟩) (rfl | ⟨_, rfl⟩) <;> exact le_refl (0 : ℚ)
  have hfind : firstCall ("!a", 5) [second, other, second, first] = some second := rfl
  have hclock : ∀ c ∈ [second, other, second, first], c.clock = clock := by
    simp [second, other, first]
  refine (hrun ∅ "!a" [second, other, second] first rfl ⟨?_, ?_, ?_, rfl, ?_, ?_⟩).2.1
  · simp [second, other, first, hb]
  · intro f hf c hc _
    rw [hclock c hc, show f = second from (Option.some.inj (hf.symm.trans hfind))]
    change (0 : ℚ) ≤ 0 + (chunkReassemblyTimeout : ℚ)
    positivity
  · intro c hc hkey
    simp only [List.cons_append, List.nil_append, List.mem_cons, List.not_mem_nil, or_false] at hc
    rcases hc with rfl | rfl | rfl | rfl
    · exact ⟨_, (hmem _).mpr (Or.inr rfl), hsecond⟩
    · exact absurd hkey (by decide)
    · exact ⟨_, (hmem _).mpr (Or.inr rfl), hsecond⟩
    · exact ⟨_, (hmem _).mpr (Or.inl rfl), hfirst⟩
  · intro frame hframe
    rcases (hmem frame).mp hframe with rfl | rfl
    · exact ⟨first, by simp, rfl, hfirst⟩
    · exact ⟨second, by simp, rfl, hsecond⟩
  · refine ⟨_, (hmem _).mpr (Or.inl rfl), hfirst, fun c hc hkey => ?_⟩
    simp only [List.mem_cons, List.not_mem_nil, or_false] at hc
    rcases hc with rfl | rfl | rfl
    · exact hnot
    · exact absurd hkey (by decide)
    · exact hnot

end SolMesh
