import SolMesh.Mesh.Reassembly

set_option relaxedAutoImplicit false
set_option autoImplicit false

/-!
# Where reassembled data come from

The calls are arbitrary here: any senders, ids, chunk numbers, totals and payloads. What the
reassembler keeps under a key is then determined by the calls since the one that opened the
buffer: for each number the payload of the latest call for the key with that number, all of them
made before the buffer was too old.

## Main definitions

* `SolMesh.latestCall` — the latest call for a key with a chunk number.
* `SolMesh.Opens`, `SolMesh.Expires`, `SolMesh.Completes` — what a call does to a key.
* `SolMesh.InProgress` — the calls since the buffer of a key was opened.
* `SolMesh.FilledBy` — the buffer these calls fill.

## Main results

* `SolMesh.receive_cases` — all a call can do to its own key.
* `SolMesh.tracks` — every stored buffer is filled by the calls since it was opened.
* `SolMesh.provenance` — returned data are the latest chunks since the opening call.
-/

namespace SolMesh

open Py Text

/-! ## One call -/

/-- The buffer of the call's key with the call's chunk added. -/
def ChunkCall.filled (c : ChunkCall) (r : ChunkReassembler) : ReassemblyBuffer :=
  (bufferFor r c.clock c.senderId c.msgId c.totalChunks).addChunk c.chunkNum c.payload

/-- The buffer under a key that is left by the sweep at the start of a call. -/
def ChunkReassembler.live (r : ChunkReassembler) (c : ChunkCall) (key : String × ℕ) :
    Option ReassemblyBuffer :=
  (r.buffers.get? key).filter fun buf => !buf.isExpired (c.clock.expiry key)

/-- The call finds no buffer for its key, so it opens one. -/
def Opens (r : ChunkReassembler) (c : ChunkCall) : Prop := r.live c c.key = none

/-- The sweep at the start of the call drops the buffer of the key. -/
def Expires (r : ChunkReassembler) (c : ChunkCall) (key : String × ℕ) : Prop :=
  ∃ buf, r.buffers.get? key = some buf ∧ buf.isExpired (c.clock.expiry key) = true

/-- The call returns the data of the key. -/
def Completes (r : ChunkReassembler) (c : ChunkCall) (key : String × ℕ) : Prop :=
  c.key = key ∧ ∃ data, (r.receive c).1 = .ok (some data)

section OneCall

variable {r : ChunkReassembler} {c : ChunkCall} {key : String × ℕ} {buf : ReassemblyBuffer}

/-- **A call and its own key**: the chunk is added, and then the buffer is kept because it is
incomplete, or given out and removed, or kept because putting it together raises.

**Proof sketch.** The filled buffer is complete or not; if it is, putting it together gives data or
raises. -/
lemma receive_cases (r : ChunkReassembler) (c : ChunkCall) :
    ((c.filled r).isComplete = false ∧ (r.receive c).1 = .ok none ∧
      (r.receive c).2.buffers.get? c.key = some (c.filled r)) ∨
    (∃ data, (c.filled r).reassemble = .ok data ∧ (r.receive c).1 = .ok (some data) ∧
      (r.receive c).2.buffers.get? c.key = none) ∨
    ((c.filled r).isComplete = true ∧ ∃ e, (c.filled r).reassemble = .error e ∧
      (r.receive c).1 = .error e ∧
      (r.receive c).2.buffers.get? c.key = some (c.filled r)) := by
  cases hcomplete : (c.filled r).isComplete with
  | false =>
    obtain ⟨hnone, hget⟩ := receiveChunk_incomplete r c.clock c.senderId c.msgId c.chunkNum
      c.totalChunks c.payload hcomplete
    exact Or.inl ⟨rfl, hnone, hget⟩
  | true =>
    right
    cases hdata : (c.filled r).reassemble with
    | ok data =>
      obtain ⟨hsome, hget⟩ := receiveChunk_complete r c.clock c.senderId c.msgId c.chunkNum
        c.totalChunks c.payload hcomplete hdata
      exact Or.inl ⟨data, rfl, hsome, hget⟩
    | error e =>
      obtain ⟨hraise, hget⟩ := receiveChunk_raises r c.clock c.senderId c.msgId c.chunkNum
        c.totalChunks c.payload hcomplete hdata
      exact Or.inr ⟨rfl, e, rfl, hraise, hget⟩

/-- A call for another key keeps what its sweep leaves. -/
lemma receive_of_ne (h : c.key ≠ key) : (r.receive c).2.buffers.get? key = r.live c key :=
  receiveChunk_of_ne r c.clock c.senderId c.msgId c.chunkNum c.totalChunks c.payload (Ne.symm h)

/-- The buffer that the call adds to, if the sweep leaves one. -/
lemma filled_of_live (h : r.live c c.key = some buf) :
    c.filled r = buf.addChunk c.chunkNum c.payload := by
  rw [ChunkReassembler.live] at h
  rw [ChunkCall.filled, bufferFor]
  exact congrArg (fun b => ReassemblyBuffer.addChunk (Option.getD b _) c.chunkNum c.payload) h

/-- The buffer that the call adds to, if it opens one. -/
lemma Opens.filled (h : Opens r c) :
    c.filled r = (⟨c.msgId, c.totalChunks, ∅, c.clock.creation⟩ : ReassemblyBuffer).addChunk
      c.chunkNum c.payload := by
  rw [Opens, ChunkReassembler.live] at h
  rw [ChunkCall.filled, bufferFor]
  exact congrArg (fun b => ReassemblyBuffer.addChunk (Option.getD b _) c.chunkNum c.payload) h

/-- The numbers in the buffer that the call fills: its own, and those of the buffer that the sweep
leaves. -/
lemma mem_keys_filled {k : ℕ} : k ∈ (c.filled r).chunks.keys ↔
    k = c.chunkNum ∨ ∃ buf, r.live c c.key = some buf ∧ k ∈ buf.chunks.keys := by
  cases hlive : r.live c c.key with
  | none =>
    rw [Opens.filled hlive, mem_keys_addChunk]
    exact or_congr_right ⟨fun h => absurd h List.not_mem_nil, fun ⟨_, h, _⟩ => nomatch h⟩
  | some buf =>
    rw [filled_of_live hlive, mem_keys_addChunk]
    simp

/-- What the sweep leaves was stored before, and is young enough. -/
lemma live_eq_some (h : r.live c key = some buf) :
    r.buffers.get? key = some buf ∧
      c.clock.expiry key - buf.createdAt ≤ chunkReassemblyTimeout := by
  obtain ⟨hget, hyoung⟩ := Option.filter_eq_some_iff.mp h
  rw [ReassemblyBuffer.isExpired, Bool.not_eq_true', decide_eq_false_iff_not, not_lt] at hyoung
  exact ⟨hget, hyoung⟩

/-- What the sweep leaves is not dropped by it. -/
lemma not_expires_of_live (h : r.live c key = some buf) : ¬ Expires r c key := by
  obtain ⟨hget, hyoung⟩ := Option.filter_eq_some_iff.mp h
  rintro ⟨buf', hget', hold⟩
  obtain rfl := Option.some.inj (hget.symm.trans hget')
  rw [hold] at hyoung
  exact absurd hyoung (by decide)

/-- Returned data are put together from the buffer that the call filled. -/
lemma reassemble_of_returns {data : Bytes} (h : (r.receive c).1 = .ok (some data)) :
    (c.filled r).reassemble = .ok data := by
  rcases receive_cases r c with ⟨_, hout, _⟩ | ⟨data', hdata, hout, _⟩ | ⟨_, e, _, hout, _⟩
  · exact absurd (hout.symm.trans h) (by simp)
  · rw [hdata, Option.some.inj (Except.ok.inj (hout.symm.trans h))]
  · exact absurd (hout.symm.trans h) (by simp)

/-- **What is stored after a call** is the filled buffer of its own key, which the call did not
give out, or was left by its sweep. -/
lemma get?_receive (h : (r.receive c).2.buffers.get? key = some buf) :
    ¬ Completes r c key ∧
      (c.key = key ∧ buf = c.filled r ∨ c.key ≠ key ∧ r.live c key = some buf) := by
  by_cases hkey : c.key = key
  · subst hkey
    rcases receive_cases r c with ⟨_, hout, hget⟩ | ⟨data, _, _, hget⟩ | ⟨_, e, _, hout, hget⟩
    · refine ⟨fun ⟨_, data, hdata⟩ => ?_, Or.inl ⟨rfl, Option.some.inj (h.symm.trans hget)⟩⟩
      exact absurd (hout.symm.trans hdata) (by simp)
    · exact absurd (hget.symm.trans h) (by simp)
    · refine ⟨fun ⟨_, data, hdata⟩ => ?_, Or.inl ⟨rfl, Option.some.inj (h.symm.trans hget)⟩⟩
      exact absurd (hout.symm.trans hdata) (by simp)
  · rw [receive_of_ne hkey] at h
    exact ⟨fun hc => hkey hc.1, Or.inr ⟨hkey, h⟩⟩

/-- A call that does not complete its key keeps the buffer it filled. -/
lemma get?_receive_of_not_completes (h : ¬ Completes r c c.key) :
    (r.receive c).2.buffers.get? c.key = some (c.filled r) := by
  rcases receive_cases r c with ⟨_, _, hget⟩ | ⟨data, _, hout, _⟩ | ⟨_, _, _, _, hget⟩
  · exact hget
  · exact absurd ⟨rfl, data, hout⟩ h
  · exact hget

end OneCall

/-! ## Calls since the opening -/

/-- The latest call for a key with a chunk number. -/
def latestCall (key : String × ℕ) (i : ℕ) (calls : List ChunkCall) : Option ChunkCall :=
  calls.reverse.find? fun c => c.key = key ∧ c.chunkNum = i

/-- **The calls since the opening**: after the calls `p`, the call `o` opens a buffer for the key,
which none of the calls `q` lets expire and none before the last one completes. -/
structure InProgress (r : ChunkReassembler) (key : String × ℕ) (p : List ChunkCall) (o : ChunkCall)
    (q : List ChunkCall) : Prop where
  own : o.key = key
  opens : Opens (r.after p) o
  notExpired : ∀ q₁ c q₂, q = q₁ ++ c :: q₂ → ¬ Expires (r.after (p ++ o :: q₁)) c key
  notCompleted : ∀ q₁ c q₂, o :: q = q₁ ++ c :: q₂ → q₂ ≠ [] →
    ¬ Completes (r.after (p ++ q₁)) c key

/-- **The buffer that the calls fill**: its total and its age are those of the opening call `o`,
each chunk is the payload of the latest call with its number, and no call came too late. -/
structure FilledBy (key : String × ℕ) (o : ChunkCall) (q : List ChunkCall)
    (buf : ReassemblyBuffer) : Prop where
  totalChunks : buf.totalChunks = o.totalChunks
  createdAt : buf.createdAt = o.clock.creation
  chunks : ∀ i, buf.chunks.get? i = (latestCall key i (o :: q)).map ChunkCall.payload
  inTime : ∀ c ∈ q, c.clock.expiry key - o.clock.creation ≤ chunkReassemblyTimeout

section Window

variable {r : ChunkReassembler} {key : String × ℕ} {p q calls : List ChunkCall} {o c : ChunkCall}
  {buf : ReassemblyBuffer}

/-- A call becomes the latest one of its key and its number. -/
lemma latestCall_append_singleton (key : String × ℕ) (i : ℕ) (calls : List ChunkCall)
    (c : ChunkCall) : latestCall key i (calls ++ [c]) =
      if c.key = key ∧ c.chunkNum = i then some c else latestCall key i calls := by
  rw [latestCall, List.reverse_append]
  by_cases h : c.key = key ∧ c.chunkNum = i <;> simp [latestCall, h]

/-- The latest call with a number is one of the calls, for the key and with that number. -/
lemma latestCall_eq_some {i : ℕ} {d : ChunkCall} (h : latestCall key i calls = some d) :
    d ∈ calls ∧ d.key = key ∧ d.chunkNum = i := by
  have hprop := List.find?_some h
  have hmem := List.mem_of_find?_eq_some h
  rw [decide_eq_true_iff] at hprop
  exact ⟨List.mem_reverse.mp hmem, hprop⟩

/-- A number that some call for the key has, has a latest call. -/
lemma exists_latestCall (hc : c ∈ calls) (hkey : c.key = key) :
    ∃ d, latestCall key c.chunkNum calls = some d := by
  rw [← Option.isSome_iff_exists, latestCall, List.find?_isSome]
  exact ⟨c, List.mem_reverse.mpr hc, by simp [hkey]⟩

/-- The buffer that a call opens holds the chunk of that call. -/
lemma Opens.filledBy (h : Opens r o) (hkey : o.key = key) : FilledBy key o [] (o.filled r) := by
  rw [h.filled]
  refine ⟨rfl, rfl, fun i => ?_, fun c hc => absurd hc List.not_mem_nil⟩
  have hlatest := latestCall_append_singleton key i [] o
  rw [List.nil_append] at hlatest
  rw [hlatest, ReassemblyBuffer.addChunk]
  by_cases hi : i = o.chunkNum
  · subst hi
    simp [hkey]
  · rw [Dict.get?_set_of_ne _ hi, if_neg fun hn => hi hn.2.symm]
    rfl

/-- A call for the key adds its chunk. -/
lemma FilledBy.snoc_of_eq (h : FilledBy key o q buf) (hkey : c.key = key)
    (htime : c.clock.expiry key - buf.createdAt ≤ chunkReassemblyTimeout) :
    FilledBy key o (q ++ [c]) (buf.addChunk c.chunkNum c.payload) := by
  refine ⟨h.totalChunks, h.createdAt, fun i => ?_, fun d hd => ?_⟩
  · rw [← List.cons_append, latestCall_append_singleton, ReassemblyBuffer.addChunk]
    by_cases hi : i = c.chunkNum
    · subst hi
      simp [hkey]
    · rw [Dict.get?_set_of_ne _ hi, if_neg fun hn => hi hn.2.symm]
      exact h.chunks i
  · rcases List.mem_append.mp hd with hold | hnew
    · exact h.inTime d hold
    · rw [List.mem_singleton.mp hnew, ← h.createdAt]
      exact htime

/-- A call for another key adds nothing. -/
lemma FilledBy.snoc_of_ne (h : FilledBy key o q buf) (hkey : c.key ≠ key)
    (htime : c.clock.expiry key - buf.createdAt ≤ chunkReassemblyTimeout) :
    FilledBy key o (q ++ [c]) buf := by
  refine ⟨h.totalChunks, h.createdAt, fun i => ?_, fun d hd => ?_⟩
  · rw [← List.cons_append, latestCall_append_singleton, if_neg fun hn => hkey hn.1]
    exact h.chunks i
  · rcases List.mem_append.mp hd with hold | hnew
    · exact h.inTime d hold
    · rw [List.mem_singleton.mp hnew, ← h.createdAt]
      exact htime

/-- The message stays in progress over a call that finds its buffer.

**Proof sketch.** Every later call is one of those before, for which nothing is new, or the last
one, which completes nothing before itself (`hlast`) and does not expire the buffer. -/
lemma InProgress.snoc (h : InProgress r key p o q)
    (hlast : ∀ q₁ d, o :: q = q₁ ++ [d] → ¬ Completes (r.after (p ++ q₁)) d key)
    (hexpired : ¬ Expires (r.after (p ++ o :: q)) c key) : InProgress r key p o (q ++ [c]) := by
  refine ⟨h.own, h.opens, fun q₁ d q₂ hq => ?_, fun q₁ d q₂ hq hne => ?_⟩
  · rcases List.eq_nil_or_concat q₂ with rfl | ⟨q₂, l, rfl⟩
    · obtain ⟨rfl, hd⟩ := List.append_inj' hq rfl
      cases hd
      exact hexpired
    · have hq' : q ++ [c] = (q₁ ++ d :: q₂) ++ [l] := by rw [hq]; simp
      exact h.notExpired q₁ d q₂ (List.append_inj' hq' rfl).1
  · rcases List.eq_nil_or_concat q₂ with rfl | ⟨q₂, l, rfl⟩
    · exact absurd rfl hne
    · have hq' : (o :: q) ++ [c] = (q₁ ++ d :: q₂) ++ [l] := by
        rw [List.cons_append, hq]
        simp
      have hsplit := (List.append_inj' hq' rfl).1
      cases q₂ with
      | nil => exact hlast q₁ d hsplit
      | cons d' q₂ => exact h.notCompleted q₁ d (d' :: q₂) hsplit (List.cons_ne_nil _ _)

end Window

/-! ## Every buffer is filled by the calls since its opening -/

section Runs

variable {r : ChunkReassembler} {key : String × ℕ} {p q calls : List ChunkCall} {o c : ChunkCall}
  {buf : ReassemblyBuffer}

/-- What the reassembler keeps under the key is filled by the calls since the opening, none of
which completed it. -/
def Tracks (r : ChunkReassembler) (key : String × ℕ) (calls : List ChunkCall) : Prop :=
  ∀ buf, (r.after calls).buffers.get? key = some buf → ∃ p o q, calls = p ++ o :: q ∧
    InProgress r key p o q ∧ FilledBy key o q buf ∧
    ∀ q₁ d, o :: q = q₁ ++ [d] → ¬ Completes (r.after (p ++ q₁)) d key

/-- The buffer that a call for the key fills is filled by the calls since the opening.

**Proof sketch.** If the call finds no buffer, it opens one, and is the only call since then. If it
finds one, the buffer was filled by the calls since its opening, and the call adds its chunk. -/
lemma Tracks.filled (h : Tracks r key calls) (hkey : c.key = key) :
    ∃ p o q, calls ++ [c] = p ++ o :: q ∧ InProgress r key p o q ∧
      FilledBy key o q (c.filled (r.after calls)) := by
  subst hkey
  cases hlive : (r.after calls).live c c.key with
  | none =>
    refine ⟨calls, c, [], rfl, ⟨rfl, hlive, fun q₁ d q₂ hq => absurd hq (by simp), ?_⟩,
      Opens.filledBy hlive rfl⟩
    intro q₁ d q₂ hq hne
    cases q₁ with
    | nil => exact absurd (List.cons.inj hq).2.symm hne
    | cons d' q₁ => exact absurd (List.cons.inj hq).2 (by simp)
  | some buf =>
    obtain ⟨hget, htime⟩ := live_eq_some hlive
    obtain ⟨p, o, q, rfl, hprogress, hfilled, hlast⟩ := h buf hget
    rw [filled_of_live hlive]
    exact ⟨p, o, q ++ [c], by simp, hprogress.snoc hlast (not_expires_of_live hlive),
      hfilled.snoc_of_eq rfl htime⟩

/-- A message in progress none of whose calls before `c` completed it, is completed by none at
all if `c` does not complete it. -/
lemma not_completes_last {q₁ : List ChunkCall} {d : ChunkCall}
    (hcalls : calls ++ [c] = p ++ o :: q) (hc : ¬ Completes (r.after calls) c key)
    (hq : o :: q = q₁ ++ [d]) : ¬ Completes (r.after (p ++ q₁)) d key := by
  rw [hq, ← List.append_assoc] at hcalls
  obtain ⟨rfl, hd⟩ := List.append_inj' hcalls rfl
  cases hd
  exact hc

/-- **Every stored buffer is filled by the calls since its opening**, in a run that starts without
a buffer for the key.

**Proof sketch.** Induction on the run, one call at a time. A buffer stored after a call for the
key is the one this call filled; a buffer stored after another call was left by its sweep, and
the message stays in progress. -/
lemma tracks (hr : r.buffers.get? key = none) (calls : List ChunkCall) : Tracks r key calls := by
  induction calls using List.reverseRecOn with
  | nil =>
    intro buf hbuf
    exact absurd (hr.symm.trans hbuf) (by simp)
  | append_singleton calls c ih =>
    intro buf hbuf
    rw [ChunkReassembler.after_append_singleton] at hbuf
    obtain ⟨hc, ⟨hkey, rfl⟩ | ⟨hkey, hlive⟩⟩ := get?_receive hbuf
    · obtain ⟨p, o, q, hcalls, hprogress, hfilled⟩ := ih.filled hkey
      exact ⟨p, o, q, hcalls, hprogress, hfilled, fun _ _ hq => not_completes_last hcalls hc hq⟩
    · obtain ⟨hget, htime⟩ := live_eq_some hlive
      obtain ⟨p, o, q, rfl, hprogress, hfilled, hlast⟩ := ih buf hget
      have hcalls : (p ++ o :: q) ++ [c] = p ++ o :: (q ++ [c]) := by simp
      exact ⟨p, o, q ++ [c], hcalls, hprogress.snoc hlast (not_expires_of_live hlive),
        hfilled.snoc_of_ne hkey htime, fun _ _ hq => not_completes_last hcalls hc hq⟩

/-- Data that are put together are the chunks of the buffer in the order of their numbers.

**Proof sketch.** The chunks are read one after the other, so each of them is there
(`ok_of_mapM_eq_ok`), and the data are their concatenation. -/
lemma reassemble_eq_ok {data : Bytes} (h : buf.reassemble = .ok data) :
    buf.isComplete = true ∧ ∃ part : ℕ → Bytes,
      (∀ i < buf.totalChunks, buf.chunks.get? i = some (part i)) ∧
      data = (List.range buf.totalChunks).flatMap part := by
  rw [ReassemblyBuffer.reassemble] at h
  split_ifs at h with hcomplete
  obtain ⟨parts, hparts, hdata⟩ := bind_eq_ok.mp h
  obtain rfl : parts.flatten = data := Except.ok.inj hdata
  have hget : ∀ i < buf.totalChunks,
      buf.chunks.get? i = some ((buf.chunks.get? i).getD []) := by
    intro i hi
    obtain ⟨part, hpart⟩ := ok_of_mapM_eq_ok hparts i (List.mem_range.mpr hi)
    rw [ReassemblyBuffer.chunk] at hpart
    cases hchunk : buf.chunks.get? i with
    | none => rw [hchunk] at hpart; exact absurd hpart (by simp)
    | some part' => rfl
  refine ⟨hcomplete, fun i => (buf.chunks.get? i).getD [], hget, ?_⟩
  have hchunk : ∀ i ∈ List.range buf.totalChunks,
      buf.chunk i = .ok ((buf.chunks.get? i).getD []) := by
    intro i hi
    rw [ReassemblyBuffer.chunk, hget i (List.mem_range.mp hi)]
    rfl
  rw [mapM_eq_ok hchunk] at hparts
  obtain rfl := Except.ok.inj hparts
  rfl

end Runs

/-- **What returned data are made of**: the latest chunk for each number since the buffer was
opened.

**Proof sketch.** The buffer that the call fills was opened by one of the calls, and holds for each
number the payload of the latest chunk since then (`Tracks.filled`). The call returns data only if
the buffer holds all numbers up to its total, and then these payloads in order
(`reassemble_eq_ok`). -/
lemma exists_latest_of_returns {pre : List ChunkCall} {c : ChunkCall} {data : Bytes}
    (h : (((∅ : ChunkReassembler).after pre).receive c).1 = .ok (some data)) :
    ∃ p o q, pre ++ [c] = p ++ o :: q ∧ InProgress ∅ c.key p o q ∧
      FilledBy c.key o q (c.filled ((∅ : ChunkReassembler).after pre)) ∧
      ∃ part : ℕ → ChunkCall,
        (∀ i < o.totalChunks, latestCall c.key i (o :: q) = some (part i)) ∧
        data = (List.range o.totalChunks).flatMap fun i => (part i).payload := by
  obtain ⟨p, o, q, hcalls, hprogress, hfilled⟩ :=
    (tracks (r := ∅) (Dict.get?_empty c.key) pre).filled (c := c) rfl
  refine ⟨p, o, q, hcalls, hprogress, hfilled, ?_⟩
  obtain ⟨_, part, hpart, hflat⟩ := reassemble_eq_ok (reassemble_of_returns h)
  rw [hfilled.totalChunks] at hpart hflat
  have hlatest : ∀ i < o.totalChunks, ∃ d, latestCall c.key i (o :: q) = some d ∧
      d.payload = part i := by
    intro i hi
    have hchunk := hpart i hi
    rw [hfilled.chunks i, Option.map_eq_some_iff] at hchunk
    exact hchunk
  have : Nonempty ChunkCall := ⟨c⟩
  choose! call hcall using hlatest
  refine ⟨call, fun i hi => (hcall i hi).1, ?_⟩
  rw [hflat]
  exact List.flatMap_congr fun i hi => (hcall i (List.mem_range.mp hi)).2.symm

/-- **Provenance and freshness of reassembled data.** When a call returns data for a key, there is
an opening call for the key, with no completion and no expiry of the key since then, such that
the data are, number by number up to the total of the opening call, the payload of the latest
call for the key since the opening, and no call since then came later than the timeout allows.

**Proof sketch.** The data are made of the latest chunks since the buffer was opened
(`exists_latest_of_returns`). A buffer is filled only by calls that find it young enough, which is
part of what fills it (`FilledBy`). -/
theorem provenance {pre : List ChunkCall} {c : ChunkCall} {data : Bytes}
    (h : (((∅ : ChunkReassembler).after pre).receive c).1 = .ok (some data)) :
    ∃ p o q, pre ++ [c] = p ++ o :: q ∧ InProgress ∅ c.key p o q ∧
      (∃ part : ℕ → ChunkCall,
        (∀ i < o.totalChunks, latestCall c.key i (o :: q) = some (part i)) ∧
        data = (List.range o.totalChunks).flatMap fun i => (part i).payload) ∧
      ∀ d ∈ q, d.clock.expiry c.key - o.clock.creation ≤ chunkReassemblyTimeout := by
  obtain ⟨p, o, q, hcalls, hprogress, hfilled, hparts⟩ := exists_latest_of_returns h
  exact ⟨p, o, q, hcalls, hprogress, hparts, hfilled.inTime⟩

/-- Two chunks, the second one first, with an expired buffer of the same key before them. -/
theorem provenance_two_chunks :
    let stale : ChunkCall := ⟨⟨fun _ => 0, 0⟩, "!a", 5, 0, 3, [9]⟩
    let second : ChunkCall := ⟨⟨fun _ => 121, 121⟩, "!a", 5, 1, 2, [8]⟩
    let first : ChunkCall := ⟨⟨fun _ => 130, 130⟩, "!a", 5, 0, 2, [7]⟩
    ∃ p o q, [stale, second, first] = p ++ o :: q ∧ InProgress ∅ ("!a", 5) p o q ∧
      ∃ part : ℕ → ChunkCall,
        (∀ i < o.totalChunks, latestCall ("!a", 5) i (o :: q) = some (part i)) ∧
        [7, 8] = (List.range o.totalChunks).flatMap fun i => (part i).payload := by
  intro stale second first
  have hdata : (((∅ : ChunkReassembler).after [stale, second]).receive first).1 =
      .ok (some [7, 8]) := by decide +kernel
  obtain ⟨p, o, q, hcalls, hprogress, hparts, _⟩ := provenance hdata
  exact ⟨p, o, q, hcalls, hprogress, hparts⟩

end SolMesh
