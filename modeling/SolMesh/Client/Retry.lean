import SolMesh.Foundations.Interleaving
import SolMesh.Mesh.Reassembly
import SolMesh.Client.Results

set_option relaxedAutoImplicit false
set_option autoImplicit false

/-!
# Relaying a signed transaction

In Mode 1 the client sends the chunks of a signed transaction. A thread of its own sends them,
and sends again those that are not acknowledged in time, for a number of rounds. What is still
not acknowledged then is recorded as a failure of the message.

## Main definitions

* `SolMesh.RetryOp` — the operations of that thread.
* `SolMesh.retryLoop` — its program.
* `SolMesh.relayRawTx` — the call that starts it.

## Main results

* `SolMesh.relayRawTx_eq` — what a call starts.
* `SolMesh.performs_retryChunks` — the program serves its message only.
-/

namespace SolMesh

open Py Text Conc

/-! ## Operations -/

/-- The operations of a retry loop. -/
inductive RetryOp
  | send (frame : Bytes)
  | sleep (seconds : ℚ)
  | acked (msgId : ℕ)
  | setResult (msgId : ℕ) (outcome : TxOutcome)

/-- The answers of the operations. Sending reports success, or raises if the mesh is closed. -/
def RetryOp.Ans : RetryOp → Type
  | .send _ => Except Exn Bool
  | .sleep _ => Unit
  | .acked _ => List ℕ
  | .setResult _ _ => Unit

/-- What the operations do to the client, and what they answer. Sending can succeed, fail or
raise. -/
def retryExec : (op : RetryOp) → ClientNode → op.Ans → ClientNode → Prop
  | .send _, c, _, c' => c' = c
  | .sleep _, c, _, c' => c' = c
  | .acked msgId, c, acked, c' => acked = c.ackedOf msgId ∧ c' = c
  | .setResult msgId outcome, c, _, c' => c' = c.setResult msgId outcome

/-- Programs over these operations that can raise. -/
abbrev RetryLoop := ExceptT Exn (Prog RetryOp RetryOp.Ans)

namespace Retry

/-- Send a frame to the gateway. -/
def send (frame : Bytes) : RetryLoop Bool := ExceptT.mk (Prog.perform (RetryOp.send frame))

/-- Let time pass. -/
def sleep (seconds : ℚ) : RetryLoop Unit := ExceptT.lift (Prog.perform (RetryOp.sleep seconds))

/-- The acknowledged chunks of a message. -/
def acked (msgId : ℕ) : RetryLoop (List ℕ) := ExceptT.lift (Prog.perform (RetryOp.acked msgId))

/-- Record the result of a message. -/
def setResult (msgId : ℕ) (outcome : TxOutcome) : RetryLoop Unit :=
  ExceptT.lift (Prog.perform (RetryOp.setResult msgId outcome))

end Retry

/-! ## The retry loop -/

/-- Send a list of chunks with a delay between them, up to the first that cannot be sent. -/
def sendChunks : List Bytes → RetryLoop Bool
  | [] => return true
  | chunk :: rest => do
    if !(← Retry.send chunk) then
      return false
    if rest ≠ [] then
      Retry.sleep interChunkDelay
    sendChunks rest

/-- The positions of the chunks that are not acknowledged. -/
def unackedOf (chunkInfo acked : List ℕ) : List ℕ :=
  (List.range chunkInfo.length).filter fun i => chunkInfo.getD i 0 ∉ acked

/-- Send the chunks at these positions again. -/
def resend (chunks : List Bytes) : List ℕ → RetryLoop Unit
  | [] => return ()
  | idx :: rest => do
    let _ ← Retry.send (chunks.getD idx [])
    Retry.sleep retryDelay
    resend chunks rest

/-- The rounds of waiting and sending again: is a round reached in which every chunk is
acknowledged? -/
def retryRounds (chunks : List Bytes) (chunkInfo : List ℕ) (msgId : ℕ) : ℕ → RetryLoop Bool
  | 0 => return false
  | rounds + 1 => do
    Retry.sleep ackTimeout
    let acked ← Retry.acked msgId
    let unacked := unackedOf chunkInfo acked
    if unacked = [] then
      return true
    resend chunks unacked
    retryRounds chunks chunkInfo msgId rounds

/-- The error recorded for a message that was not acknowledged completely. -/
def undelivered (unackedCount total : ℕ) : Text :=
  ofString "Failed to deliver " ++ dec unackedCount ++ ofString "/" ++ dec total ++
    ofString " chunks"

/-- Send the chunks with these numbers, send them again while they are not acknowledged, and
record a failure if some chunk is not acknowledged in the end. -/
def retryChunks (chunks : List Bytes) (chunkInfo : List ℕ) (msgId : ℕ) : RetryLoop Unit := do
  let _ ← sendChunks chunks
  if ← retryRounds chunks chunkInfo msgId maxRetries then
    return
  let acked ← Retry.acked msgId
  let unackedCount := chunkInfo.countP fun cn => decide (cn ∉ acked)
  if unackedCount > 0 then
    Retry.setResult msgId (.failure (undelivered unackedCount chunks.length))

/-- The chunk number in a frame. -/
def chunkNumOf (chunk : Bytes) : Except Exn ℕ := do
  let (header, _) ← unpackMessage chunk
  return header.chunkNum.toNat

/-- The thread that sends the chunks of a message. -/
def retryLoop (chunks : List Bytes) (msgId : ℕ) : RetryLoop Unit := do
  let chunkInfo ← ExceptT.mk (pure (chunks.mapM chunkNumOf))
  retryChunks chunks chunkInfo msgId

/-- Send a serialized signed transaction; `msgId` is the id drawn for it. The client tracks its
chunks, and a retry loop starts. -/
def relayRawTx (txBytes : Bytes) (msgId : UInt16) (c : ClientNode) :
    Except Exn (RetryLoop Unit × ClientNode) := do
  let chunks ← chunkPayload txBytes MsgType.txChunk.toNat msgId.toNat
  return (retryLoop chunks msgId.toNat,
    { c with ackedChunks := c.ackedChunks.set msgId.toNat [] })

/-! ## What a call starts -/

/-- Data that is cut into chunks is not too long. -/
lemma length_le_of_chunkPayload {data : Bytes} {msgType msgId : ℤ} {chunks : List Bytes}
    (h : chunkPayload data msgType msgId = .ok chunks) : data.length ≤ 255 * maxChunkData := by
  unfold chunkPayload at h
  split_ifs at h with h0
  · omega
  · dsimp only at h
    split_ifs at h with htotal
    rw [maxChunkData_eq] at htotal ⊢
    omega

/-- The frame of a chunk carries its number. -/
lemma chunkNumOf_chunkFrame {data : Bytes} (h : data.length ≤ 255 * maxChunkData)
    (msgType : UInt8) (msgId : UInt16) {i : ℕ} (hi : i < numChunks data.length) :
    chunkNumOf (chunkFrame data msgType msgId i) = .ok i := by
  obtain ⟨header, hu, _, _, hnum, _⟩ := unpackMessage_chunkFrame msgType msgId h hi
  rw [chunkNumOf, hu, ok_bind]
  exact congrArg Except.ok hnum

/-- The frames of the chunks carry their numbers. -/
lemma chunkNumOf_chunkFrames {data : Bytes} (h : data.length ≤ 255 * maxChunkData)
    (msgType : UInt8) (msgId : UInt16) :
    (chunkFrames data msgType msgId).mapM chunkNumOf =
      .ok (List.range (numChunks data.length)) := by
  have hnum : ∀ i ∈ List.range (numChunks data.length),
      chunkNumOf (chunkFrame data msgType msgId i) = .ok i :=
    fun i hi => chunkNumOf_chunkFrame h msgType msgId (List.mem_range.mp hi)
  rw [List.mapM_map]
  exact (mapM_eq_ok hnum).trans (congrArg Except.ok (List.map_id' _))

/-- Different chunks have different frames. -/
lemma injOn_chunkFrame {data : Bytes} (h : data.length ≤ 255 * maxChunkData) (msgType : UInt8)
    (msgId : UInt16) :
    Set.InjOn (chunkFrame data msgType msgId) (Set.Iio (numChunks data.length)) := by
  intro i hi j hj heq
  have hnum := chunkNumOf_chunkFrame h msgType msgId hi
  rw [heq, chunkNumOf_chunkFrame h msgType msgId hj] at hnum
  exact (Except.ok.inj hnum).symm

/-- **What a call starts**: the retry loop for the frames of the chunks, which are numbered from
zero. -/
lemma relayRawTx_eq {txBytes : Bytes} (h : txBytes.length ≤ 255 * maxChunkData) (msgId : UInt16)
    (c : ClientNode) :
    relayRawTx txBytes msgId c = .ok (retryChunks (chunkFrames txBytes MsgType.txChunk msgId)
      (List.range (numChunks txBytes.length)) msgId.toNat,
      { c with ackedChunks := c.ackedChunks.set msgId.toNat [] }) := by
  unfold relayRawTx
  rw [chunkPayload_eq MsgType.txChunk msgId h, ok_bind]
  unfold retryLoop
  rw [chunkNumOf_chunkFrames h]
  rfl

/-- A call that returns had data that is not too long. -/
lemma length_le_of_relayRawTx {txBytes : Bytes} {msgId : UInt16} {c c' : ClientNode}
    {loop : RetryLoop Unit} (h : relayRawTx txBytes msgId c = .ok (loop, c')) :
    txBytes.length ≤ 255 * maxChunkData := by
  unfold relayRawTx at h
  obtain ⟨chunks, hchunks, _⟩ := bind_eq_ok.mp h
  exact length_le_of_chunkPayload hchunks

section Performs

variable {chunks : List Bytes} {msgId : ℕ}

/-- The operation belongs to a message with these chunks: it sends one of them, or reads the
acknowledgements of the message, or records its failure. -/
def RetryOp.Serves (chunks : List Bytes) (msgId : ℕ) : RetryOp → Prop
  | .send frame => frame ∈ chunks
  | .sleep _ => True
  | .acked id => id = msgId
  | .setResult id outcome => id = msgId ∧ ∃ error, outcome = .failure error

/-- Waiting serves every message. -/
lemma performs_sleep (seconds : ℚ) :
    (Retry.sleep seconds).run.Performs (RetryOp.Serves chunks msgId) :=
  ⟨trivial, fun _ => trivial⟩

/-- Reading the acknowledgements of the message. -/
lemma performs_acked : (Retry.acked msgId).run.Performs (RetryOp.Serves chunks msgId) :=
  ⟨rfl, fun _ => trivial⟩

/-- Sending one of the chunks. -/
lemma performs_send {frame : Bytes} (h : frame ∈ chunks) :
    (Retry.send frame).run.Performs (RetryOp.Serves chunks msgId) :=
  ⟨h, fun _ => trivial⟩

/-- The first pass sends chunks of the message. -/
lemma performs_sendChunks {rest : List Bytes} (h : rest ⊆ chunks) :
    (sendChunks rest).run.Performs (RetryOp.Serves chunks msgId) := by
  induction rest with
  | nil => trivial
  | cons chunk rest ih =>
    have hrest := ih fun _ hmem => h (List.mem_cons_of_mem _ hmem)
    unfold sendChunks
    apply Prog.Performs.bindExcept (performs_send (h List.mem_cons_self))
    intro sent
    cases sent with
    | false => trivial
    | true =>
      by_cases hlast : rest = []
      · subst hlast
        exact hrest
      · rw [if_neg (by simp), if_pos hlast]
        exact Prog.Performs.bindExcept (performs_sleep _) fun _ => hrest

/-- Sending again only sends chunks of the message. -/
lemma performs_resend {unacked : List ℕ} (h : ∀ idx ∈ unacked, idx < chunks.length) :
    (resend chunks unacked).run.Performs (RetryOp.Serves chunks msgId) := by
  induction unacked with
  | nil => trivial
  | cons idx rest ih =>
    have hrest := ih fun i hi => h i (List.mem_cons_of_mem _ hi)
    have hidx := h idx List.mem_cons_self
    have hmem : chunks.getD idx [] ∈ chunks := by
      rw [List.getD_eq_getElem?_getD, List.getElem?_eq_getElem hidx]
      exact List.getElem_mem hidx
    unfold resend
    apply Prog.Performs.bindExcept (performs_send hmem)
    intro _
    exact Prog.Performs.bindExcept (performs_sleep _) fun _ => hrest

/-- The rounds serve the message. -/
lemma performs_retryRounds {chunkInfo : List ℕ} (h : chunkInfo.length ≤ chunks.length)
    (rounds : ℕ) :
    (retryRounds chunks chunkInfo msgId rounds).run.Performs (RetryOp.Serves chunks msgId) := by
  induction rounds with
  | zero => trivial
  | succ rounds ih =>
    unfold retryRounds
    apply Prog.Performs.bindExcept (performs_sleep _)
    intro _
    apply Prog.Performs.bindExcept performs_acked
    intro acked
    dsimp only
    split_ifs
    · trivial
    · apply Prog.Performs.bindExcept (performs_resend _) fun _ => ih
      intro idx hidx
      have hlt := List.mem_range.mp (List.mem_filter.mp hidx).1
      omega

/-- **The retry loop serves its message**: it sends nothing but the chunks, and what it records is
a failure of the message. -/
lemma performs_retryChunks {chunkInfo : List ℕ} (h : chunkInfo.length ≤ chunks.length) :
    (retryChunks chunks chunkInfo msgId).run.Performs (RetryOp.Serves chunks msgId) := by
  unfold retryChunks
  apply Prog.Performs.bindExcept (performs_sendChunks (List.Subset.refl _))
  intro _
  apply Prog.Performs.bindExcept (performs_retryRounds h _)
  intro done
  cases done with
  | true => trivial
  | false =>
    apply Prog.Performs.bindExcept performs_acked
    intro acked
    dsimp only
    split_ifs
    · exact ⟨⟨rfl, _, rfl⟩, fun _ => trivial⟩
    · trivial

end Performs

end SolMesh
