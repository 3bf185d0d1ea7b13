import SolMesh.Protocol.Frame

set_option relaxedAutoImplicit false
set_option autoImplicit false

/-!
# Chunking and reassembly of transactions

Data that does not fit a frame is cut into chunks of 210 bytes, each sent as a frame of its own.
The receiver collects the chunks of a message in a buffer under the sender and the message id,
and drops buffers that stay incomplete for too long.

## Main definitions

* `SolMesh.chunkPayload` — the frames of the chunks of a byte string.
* `SolMesh.ReassemblyBuffer` — the chunks of one message received so far.
* `SolMesh.ChunkReassembler.receiveChunk` — the receiver.

## Main results

* `SolMesh.chunkPayload_eq` — the frames, one by one.
* `SolMesh.receiveChunk_of_ne`, `SolMesh.receiveChunk_incomplete`,
  `SolMesh.receiveChunk_complete`, `SolMesh.receiveChunk_raises` — what one call does to every
  key.
-/

namespace SolMesh

open Py Text

/-! ## Chunking -/

/-- Split data into the frames of its chunks. -/
def chunkPayload (data : Bytes) (msgType msgId : ℤ) : Except Exn (List Bytes) :=
  if data.length = 0 then do return [← packMessage msgType msgId 0 1 []]
  else
    let total := (data.length + maxChunkData - 1) / maxChunkData
    if total > 255 then
      .error (valueError (ofString "Data too large to chunk: " ++ dec data.length ++
        ofString " bytes requires " ++ dec total ++ ofString " chunks (max 255)"))
    else (List.range total).mapM fun i =>
      let start := i * maxChunkData
      let stop := min (start + maxChunkData) data.length
      packMessage msgType msgId i total (Bytes.slice data start stop)

/-- The number of chunks of `len` bytes; the empty byte string has one. -/
def numChunks (len : ℕ) : ℕ :=
  if len = 0 then 1 else (len + maxChunkData - 1) / maxChunkData

/-- Chunk number `i`. -/
def chunkAt (data : Bytes) (i : ℕ) : Bytes :=
  Bytes.slice data (i * maxChunkData) (i * maxChunkData + maxChunkData)

/-- A chunk fits a frame. -/
lemma length_chunkAt_le (data : Bytes) (i : ℕ) : (chunkAt data i).length ≤ maxChunkData := by
  have h := Bytes.length_slice_le data (i * maxChunkData) (i * maxChunkData + maxChunkData)
  rw [chunkAt]
  omega

/-- The chunks cover the data. -/
lemma le_numChunks_mul (len : ℕ) : len ≤ numChunks len * maxChunkData := by
  rw [numChunks, maxChunkData_eq]
  split_ifs <;> omega

/-- Data of at most `255 * 210` bytes has at most 255 chunks. -/
lemma numChunks_le {len : ℕ} (h : len ≤ 255 * maxChunkData) : numChunks len ≤ 255 := by
  rw [maxChunkData_eq] at h
  rw [numChunks, maxChunkData_eq]
  split_ifs <;> omega

/-- **The chunks are a partition** of the data. -/
lemma flatMap_chunkAt (data : Bytes) :
    (List.range (numChunks data.length)).flatMap (chunkAt data) = data := by
  have h := Bytes.flatMap_slice data maxChunkData (numChunks data.length)
  rw [List.take_of_length_le (le_numChunks_mul _)] at h
  exact h

/-- The frame of chunk number `i`. -/
def chunkFrame (data : Bytes) (msgType : UInt8) (msgId : UInt16) (i : ℕ) : Bytes :=
  frameBytes msgType msgId (UInt8.ofNat i) (UInt8.ofNat (numChunks data.length)) (chunkAt data i)

/-- **The frames of the chunks**: data that is not too long is sent as one frame a chunk.

**Proof sketch.** Each chunk fits a frame, and its number and the total fit a byte, so it is packed
(`packMessage_eq`). Empty data are sent as one empty chunk by a branch of their own. -/
lemma chunkPayload_eq {data : Bytes} (msgType : UInt8) (msgId : UInt16)
    (h : data.length ≤ 255 * maxChunkData) :
    chunkPayload data msgType.toNat msgId.toNat =
      .ok ((List.range (numChunks data.length)).map (chunkFrame data msgType msgId)) := by
  have hle := numChunks_le h
  have hpack : ∀ i < numChunks data.length,
      packMessage msgType.toNat msgId.toNat i (numChunks data.length) (chunkAt data i) =
        .ok (chunkFrame data msgType msgId i) := by
    intro i hi
    have heq := packMessage_eq msgType msgId (UInt8.ofNat i)
      (UInt8.ofNat (numChunks data.length)) (length_chunkAt_le data i)
    rwa [toNat_byte (by omega), toNat_byte (by omega)] at heq
  rw [chunkPayload]
  by_cases h0 : data.length = 0
  · have hone : numChunks data.length = 1 := if_pos h0
    have hnil : chunkAt data 0 = [] := by
      rw [List.length_eq_zero_iff.mp h0]
      rfl
    have h1 := hpack 0 (by omega)
    rw [hone, hnil] at h1
    rw [if_pos h0, hone]
    simp only [Nat.cast_zero, Nat.cast_one] at h1
    rw [h1, ok_bind]
    rfl
  · have htotal : (data.length + maxChunkData - 1) / maxChunkData = numChunks data.length :=
      (if_neg h0).symm
    rw [if_neg h0]
    dsimp only
    rw [htotal, if_neg (by omega)]
    refine mapM_eq_ok fun i hi => ?_
    rw [Bytes.slice_min]
    exact hpack i (List.mem_range.mp hi)

/-- What is read from the frame of a chunk. -/
lemma unpackMessage_chunkFrame {data : Bytes} (msgType : UInt8) (msgId : UInt16)
    (h : data.length ≤ 255 * maxChunkData) {i : ℕ} (hi : i < numChunks data.length) :
    ∃ header, unpackMessage (chunkFrame data msgType msgId i) = .ok (header, chunkAt data i) ∧
      header.msgType = msgType ∧ header.msgId = msgId ∧ header.chunkNum.toNat = i ∧
      header.totalChunks.toNat = numChunks data.length := by
  have hle := numChunks_le h
  obtain ⟨checksum, hu⟩ := unpackMessage_frameBytes_append msgType msgId (UInt8.ofNat i)
    (UInt8.ofNat (numChunks data.length)) [] (length_chunkAt_le data i)
  rw [List.append_nil] at hu
  exact ⟨_, hu, rfl, rfl, toNat_byte (by omega), toNat_byte (by omega)⟩

/-! ## Reassembly buffers -/

/-- The chunks of one message received so far. -/
structure ReassemblyBuffer where
  msgId : ℕ
  totalChunks : ℕ
  chunks : Dict ℕ Bytes
  createdAt : ℚ

namespace ReassemblyBuffer

def isComplete (buf : ReassemblyBuffer) : Bool := buf.chunks.size = buf.totalChunks

/-- Is the buffer too old at time `now`? -/
def isExpired (buf : ReassemblyBuffer) (now : ℚ) : Bool :=
  now - buf.createdAt > chunkReassemblyTimeout

/-- Record a chunk, replacing an earlier one of the same number. -/
def addChunk (buf : ReassemblyBuffer) (chunkNum : ℕ) (payload : Bytes) : ReassemblyBuffer :=
  { buf with chunks := buf.chunks.set chunkNum payload }

/-- The chunk numbers not yet received. -/
def missingChunks (buf : ReassemblyBuffer) : List ℕ :=
  (List.range buf.totalChunks).filter fun i => !buf.chunks.contains i

/-- The chunk under a number, or the `KeyError` of a missing one. -/
def chunk (buf : ReassemblyBuffer) (i : ℕ) : Except Exn Bytes :=
  match buf.chunks.get? i with
  | some payload => .ok payload
  | none => .error ⟨"KeyError", dec i⟩

/-- All chunks in order. Completeness only counts chunks, so a number outside the range makes
this raise. -/
def reassemble (buf : ReassemblyBuffer) : Except Exn Bytes :=
  if ¬ buf.isComplete then
    .error (valueError (ofString "Cannot reassemble: missing chunks " ++
      natList buf.missingChunks))
  else do return (← (List.range buf.totalChunks).mapM buf.chunk).flatten

end ReassemblyBuffer

/-- An added chunk adds its number. -/
lemma mem_keys_addChunk {buf : ReassemblyBuffer} {i k : ℕ} {payload : Bytes} :
    k ∈ (buf.addChunk i payload).chunks.keys ↔ k = i ∨ k ∈ buf.chunks.keys :=
  Dict.mem_keys_setEntries

/-! ## The reassembler -/

/-- The clock readings of one call: one for each buffer whose age is checked, and one for the
buffer that is created. -/
structure Clock where
  expiry : String × ℕ → ℚ
  creation : ℚ

/-- The buffers of all messages in progress, by sender and message id. -/
structure ChunkReassembler where
  buffers : Dict (String × ℕ) ReassemblyBuffer

namespace ChunkReassembler

instance : EmptyCollection ChunkReassembler := ⟨⟨∅⟩⟩

/-- Remove the expired buffers; the list of their keys is returned. -/
def cleanupExpired (r : ChunkReassembler) (clock : Clock) :
    List (String × ℕ) × ChunkReassembler :=
  let expired := (r.buffers.filter fun key buf => buf.isExpired (clock.expiry key)).keys
  (expired, ⟨expired.foldl Dict.erase r.buffers⟩)

/-- Process a chunk: the complete data if this chunk completed it. -/
def receiveChunk (r : ChunkReassembler) (clock : Clock) (senderId : String)
    (msgId chunkNum totalChunks : ℕ) (payload : Bytes) :
    Except Exn (Option Bytes) × ChunkReassembler :=
  let r := (r.cleanupExpired clock).2
  let key := (senderId, msgId)
  let buf := (r.buffers.get? key).getD ⟨msgId, totalChunks, ∅, clock.creation⟩
  let buf := buf.addChunk chunkNum payload
  let r : ChunkReassembler := ⟨r.buffers.set key buf⟩
  if buf.isComplete then
    match buf.reassemble with
    | .ok data => (.ok (some data), ⟨r.buffers.erase key⟩)
    -- the exception leaves the complete buffer in place
    | .error e => (.error e, r)
  else (.ok none, r)

/-- The chunk numbers missing from a message, none if it is unknown. -/
def getMissing (r : ChunkReassembler) (senderId : String) (msgId : ℕ) : List ℕ :=
  match r.buffers.get? (senderId, msgId) with
  | none => []
  | some buf => buf.missingChunks

end ChunkReassembler

/-! ## What one call does -/

section Receive

variable (r : ChunkReassembler) (clock : Clock)

/-- A cleanup keeps exactly the buffers that are not expired. -/
lemma get?_cleanupExpired (key : String × ℕ) :
    (r.cleanupExpired clock).2.buffers.get? key =
      (r.buffers.get? key).filter fun buf => !buf.isExpired (clock.expiry key) :=
  Dict.get?_foldl_erase_filter _ _ _

variable (senderId : String) (msgId chunkNum totalChunks : ℕ) (payload : Bytes)

/-- **Other keys** only lose their buffer when it is expired, whatever the call does otherwise. -/
lemma receiveChunk_of_ne {key : String × ℕ} (h : key ≠ (senderId, msgId)) :
    (r.receiveChunk clock senderId msgId chunkNum totalChunks payload).2.buffers.get? key =
      (r.buffers.get? key).filter fun buf => !buf.isExpired (clock.expiry key) := by
  rw [← get?_cleanupExpired]
  unfold ChunkReassembler.receiveChunk
  dsimp only
  split_ifs
  · split
    · rw [Dict.get?_erase_of_ne _ h, Dict.get?_set_of_ne _ h]
    · rw [Dict.get?_set_of_ne _ h]
  · rw [Dict.get?_set_of_ne _ h]

/-- The buffer the chunk is added to: the one under the key unless it is expired, else a new
one. -/
def bufferFor : ReassemblyBuffer :=
  ((r.buffers.get? (senderId, msgId)).filter
    fun buf => !buf.isExpired (clock.expiry (senderId, msgId))).getD
      ⟨msgId, totalChunks, ∅, clock.creation⟩

/-- A chunk that completes nothing is kept. -/
lemma receiveChunk_incomplete
    (h : ((bufferFor r clock senderId msgId totalChunks).addChunk chunkNum payload).isComplete =
      false) :
    let result := r.receiveChunk clock senderId msgId chunkNum totalChunks payload
    result.1 = .ok none ∧ result.2.buffers.get? (senderId, msgId) =
      some ((bufferFor r clock senderId msgId totalChunks).addChunk chunkNum payload) := by
  rw [bufferFor, ← get?_cleanupExpired] at h ⊢
  rw [ChunkReassembler.receiveChunk, if_neg (by rw [h]; exact Bool.false_ne_true)]
  exact ⟨rfl, Dict.get?_set_self _ _ _⟩

/-- A chunk that completes the buffer hands out the data and removes the buffer. -/
lemma receiveChunk_complete {data : Bytes}
    (h : ((bufferFor r clock senderId msgId totalChunks).addChunk chunkNum payload).isComplete =
      true)
    (hdata : ((bufferFor r clock senderId msgId totalChunks).addChunk chunkNum
      payload).reassemble = .ok data) :
    let result := r.receiveChunk clock senderId msgId chunkNum totalChunks payload
    result.1 = .ok (some data) ∧ result.2.buffers.get? (senderId, msgId) = none := by
  rw [bufferFor, ← get?_cleanupExpired] at h hdata
  rw [ChunkReassembler.receiveChunk, if_pos h]
  dsimp only
  rw [hdata]
  exact ⟨rfl, Dict.get?_erase_self _ _⟩

/-- A chunk that completes a buffer which cannot be put together raises, and is kept. -/
lemma receiveChunk_raises {e : Exn}
    (h : ((bufferFor r clock senderId msgId totalChunks).addChunk chunkNum payload).isComplete =
      true)
    (hraise : ((bufferFor r clock senderId msgId totalChunks).addChunk chunkNum
      payload).reassemble = .error e) :
    let result := r.receiveChunk clock senderId msgId chunkNum totalChunks payload
    result.1 = .error e ∧ result.2.buffers.get? (senderId, msgId) =
      some ((bufferFor r clock senderId msgId totalChunks).addChunk chunkNum payload) := by
  rw [bufferFor, ← get?_cleanupExpired] at h hraise ⊢
  rw [ChunkReassembler.receiveChunk, if_pos h]
  dsimp only
  rw [hraise]
  exact ⟨rfl, Dict.get?_set_self _ _ _⟩

end Receive

end SolMesh
