import SolMesh.Mesh.Provenance

set_option relaxedAutoImplicit false
set_option autoImplicit false

/-!
# Which frames the reassembler withstands

A buffer counts its chunks to see whether it is complete and joins the numbers below its total, so
the two agree only as long as all its numbers are below its total. `receive_chunk` does not check
this. A number that is not makes the buffer complete too early, so that joining raises and leaves a
buffer that nothing can complete any more.

## Main definitions

* `SolMesh.InRange` — the number of the call is below the total of the buffer it adds to.
* `SolMesh.ReassemblyBuffer.Healthy` — a buffer that can still be completed.
* `SolMesh.ChunkReassembler.Awaits` — a call delivers the last missing chunk.
* `SolMesh.Arrives` — all chunks of a message arrive in time.
* `SolMesh.Withstands` — nothing raises, all buffers stay healthy, and messages that arrive are
  returned.

## Main results

* `SolMesh.ChunkReassembler.Healthy.receive` — a call in range returns and keeps all buffers
  healthy.
* `SolMesh.returns_iff_awaits` — which calls return data, in terms of `get_missing`.
* `SolMesh.inRange_of_healthy` — after any other call, something raised or is not healthy.
* `SolMesh.withstands_iff` — the runs that are withstood are those whose calls are all in range.
-/

namespace SolMesh

open Py Text

/-- **The number of the call is below the total** of the buffer it adds to: the one the sweep
leaves under its key, or else the one it opens. -/
def InRange (r : ChunkReassembler) (c : ChunkCall) : Prop :=
  c.chunkNum < (r.live c c.key).elim c.totalChunks ReassemblyBuffer.totalChunks

/-- A buffer that can still be completed: something is missing, and all it has is below its
total. -/
structure ReassemblyBuffer.Healthy (buf : ReassemblyBuffer) : Prop where
  incomplete : buf.isComplete = false
  inRange : ∀ k ∈ buf.chunks.keys, k < buf.totalChunks
  missing : buf.missingChunks ≠ []

/-- What is stored under the key, if anything, can still be completed. -/
def ChunkReassembler.HealthyAt (r : ChunkReassembler) (key : String × ℕ) : Prop :=
  ∀ buf, r.buffers.get? key = some buf → buf.Healthy

/-- All stored buffers can still be completed. -/
def ChunkReassembler.Healthy (r : ChunkReassembler) : Prop :=
  ∀ key buf, r.buffers.get? key = some buf → buf.Healthy

/-- **A message arrives in time**: `o` opens a buffer with the total of the message, the calls `q`
come before it is too old, those for its key with a number below the total carry the parts of the
message, and each of these numbers arrives. -/
structure Arrives (r : ChunkReassembler) (o : ChunkCall) (q : List ChunkCall) (part : ℕ → Bytes) :
    Prop where
  opens : Opens r o
  pos : 0 < o.totalChunks
  inTime : ∀ c ∈ q, c.clock.expiry o.key - o.clock.creation ≤ chunkReassemblyTimeout
  parts : ∀ c ∈ o :: q, c.key = o.key → c.chunkNum < o.totalChunks → c.payload = part c.chunkNum
  all : ∀ i < o.totalChunks, ∃ c ∈ o :: q, c.key = o.key ∧ c.chunkNum = i

/-- **The run is withstood**: no call raises, all stored buffers can be completed at any time, and
every message that arrives in time is returned by one of the calls it arrives with. -/
structure Withstands (calls : List ChunkCall) : Prop where
  returns : ∀ p c q, calls = p ++ c :: q →
    ∃ out, (((∅ : ChunkReassembler).after p).receive c).1 = .ok out
  healthy : ∀ p q, calls = p ++ q → ((∅ : ChunkReassembler).after p).Healthy
  delivers : ∀ p o q rest part, calls = p ++ (o :: q) ++ rest →
    Arrives ((∅ : ChunkReassembler).after p) o q part →
    ∃ q₁ c q₂, o :: q = q₁ ++ c :: q₂ ∧ c.key = o.key ∧
      (((∅ : ChunkReassembler).after (p ++ q₁)).receive c).1 =
        .ok (some ((List.range o.totalChunks).flatMap part))

/-! ## Buffers whose numbers are in range -/

section Buffer

variable {buf : ReassemblyBuffer}

/-- A number below the total is missing if it is not a key. -/
lemma mem_missingChunks {i : ℕ} :
    i ∈ buf.missingChunks ↔ i < buf.totalChunks ∧ i ∉ buf.chunks.keys := by
  rw [ReassemblyBuffer.missingChunks, List.mem_filter, List.mem_range, ← Dict.get?_eq_none_iff,
    Dict.contains]
  cases buf.chunks.get? i <;> simp

/-- An incomplete buffer whose numbers are in range can still be completed. -/
lemma ReassemblyBuffer.healthy_of_incomplete (h : ∀ k ∈ buf.chunks.keys, k < buf.totalChunks)
    (hincomplete : buf.isComplete = false) : buf.Healthy := by
  refine ⟨hincomplete, h, fun hnil => ?_⟩
  rw [ReassemblyBuffer.isComplete, decide_eq_false_iff_not] at hincomplete
  refine hincomplete ((Dict.size_eq_iff_of_keys_lt h).mpr fun i hi => ?_)
  by_contra hnot
  have hmem := mem_missingChunks.mpr ⟨hi, hnot⟩
  rw [hnil] at hmem
  exact absurd hmem List.not_mem_nil

/-- A complete buffer whose numbers are in range can be put together. -/
lemma ReassemblyBuffer.reassemble_of_inRange (h : ∀ k ∈ buf.chunks.keys, k < buf.totalChunks)
    (hcomplete : buf.isComplete = true) : ∃ data, buf.reassemble = .ok data := by
  have hsize : buf.chunks.size = buf.totalChunks := by
    rw [ReassemblyBuffer.isComplete, decide_eq_true_iff] at hcomplete
    exact hcomplete
  have hchunk : ∀ i ∈ List.range buf.totalChunks,
      buf.chunk i = .ok ((buf.chunks.get? i).getD []) := by
    intro i hi
    have hkey := (Dict.size_eq_iff_of_keys_lt h).mp hsize i (List.mem_range.mp hi)
    rw [ReassemblyBuffer.chunk]
    cases hget : buf.chunks.get? i with
    | none => exact absurd hkey (Dict.get?_eq_none_iff.mp hget)
    | some part => rfl
  rw [ReassemblyBuffer.reassemble, if_neg (not_not.mpr hcomplete), mapM_eq_ok hchunk, ok_bind]
  exact ⟨_, rfl⟩

/-- The numbers of a buffer that was put together are in range: it has as many as it joins. -/
lemma ReassemblyBuffer.inRange_of_reassemble {data : Bytes} (h : buf.reassemble = .ok data) :
    ∀ k ∈ buf.chunks.keys, k < buf.totalChunks := by
  obtain ⟨hcomplete, part, hpart, _⟩ := reassemble_eq_ok h
  rw [ReassemblyBuffer.isComplete, decide_eq_true_iff] at hcomplete
  refine Dict.keys_lt_of_size hcomplete fun i hi => ?_
  rw [← not_not (a := i ∈ buf.chunks.keys), ← Dict.get?_eq_none_iff, hpart i hi]
  exact Option.some_ne_none _

end Buffer

/-! ## One call -/

section OneCall

variable {r : ChunkReassembler} {c : ChunkCall} {key : String × ℕ} {buf : ReassemblyBuffer}

/-- The total that the call's number has to stay below is that of the buffer it fills. -/
lemma inRange_iff : InRange r c ↔ c.chunkNum < (c.filled r).totalChunks := by
  rw [InRange]
  cases hlive : r.live c c.key with
  | none =>
    rw [Opens.filled hlive]
    rfl
  | some buf =>
    rw [filled_of_live hlive]
    rfl

/-- What a sweep leaves is healthy. -/
lemma ChunkReassembler.HealthyAt.live (h : r.HealthyAt key) (hlive : r.live c key = some buf) :
    buf.Healthy :=
  h buf (live_eq_some hlive).1

/-- The buffer that a call in range fills has its numbers in range. -/
lemma InRange.filled (h : InRange r c) (hr : r.HealthyAt c.key) :
    ∀ k ∈ (c.filled r).chunks.keys, k < (c.filled r).totalChunks := by
  intro k hk
  rcases mem_keys_filled.mp hk with rfl | ⟨buf, hlive, hold⟩
  · exact inRange_iff.mp h
  · rw [filled_of_live hlive]
    exact (hr.live hlive).inRange k hold

/-- The buffer that a call in range completes can be put together. -/
lemma InRange.reassemble_filled (h : InRange r c) (hr : r.HealthyAt c.key)
    (hcomplete : (c.filled r).isComplete = true) (e : Exn) :
    (c.filled r).reassemble ≠ .error e := by
  intro he
  obtain ⟨data, hdata⟩ := ReassemblyBuffer.reassemble_of_inRange (h.filled hr) hcomplete
  exact absurd (he.symm.trans hdata) (by simp)

/-- **What is stored under a key stays healthy** if the call is for another key, or in range. -/
lemma ChunkReassembler.HealthyAt.receive (hr : r.HealthyAt key) (h : c.key = key → InRange r c) :
    (r.receive c).2.HealthyAt key := by
  intro buf hget
  obtain ⟨_, ⟨rfl, rfl⟩ | ⟨_, hlive⟩⟩ := get?_receive hget
  · rcases receive_cases r c with ⟨hinc, _, _⟩ | ⟨data, _, _, hnone⟩ | ⟨hcomplete, e, he, _, _⟩
    · exact ReassemblyBuffer.healthy_of_incomplete ((h rfl).filled hr) hinc
    · exact absurd (hnone.symm.trans hget) (by simp)
    · exact absurd he ((h rfl).reassemble_filled hr hcomplete e)
  · exact hr.live hlive

/-- **A call in range** returns, and keeps all buffers healthy. -/
lemma ChunkReassembler.Healthy.receive (hr : r.Healthy) (h : InRange r c) :
    (∃ out, (r.receive c).1 = .ok out) ∧ (r.receive c).2.Healthy := by
  have hkey : r.HealthyAt c.key := hr c.key
  constructor
  · rcases receive_cases r c with ⟨_, hout, _⟩ | ⟨data, _, hout, _⟩ | ⟨hcomplete, e, he, _, _⟩
    · exact ⟨_, hout⟩
    · exact ⟨_, hout⟩
    · exact absurd he (h.reassemble_filled hkey hcomplete e)
  · exact fun key => ChunkReassembler.HealthyAt.receive (hr key) fun _ => h

/-- **Any other call** raises or leaves a buffer that is not healthy. -/
lemma inRange_of_healthy {out : Option Bytes} (hout : (r.receive c).1 = .ok out)
    (hr : (r.receive c).2.Healthy) : InRange r c := by
  have hkey : c.chunkNum ∈ (c.filled r).chunks.keys := mem_keys_addChunk.mpr (Or.inl rfl)
  rw [inRange_iff]
  rcases receive_cases r c with ⟨_, _, hget⟩ | ⟨data, hdata, _, _⟩ | ⟨_, e, _, hraise, _⟩
  · exact (hr c.key _ hget).inRange _ hkey
  · exact ReassemblyBuffer.inRange_of_reassemble hdata _ hkey
  · exact absurd (hraise.symm.trans hout) (by simp)

/-- A buffer that is young enough is left by the sweep. -/
lemma live_of_inTime (h : r.buffers.get? key = some buf)
    (htime : c.clock.expiry key - buf.createdAt ≤ chunkReassemblyTimeout) :
    r.live c key = some buf := by
  rw [ChunkReassembler.live, h]
  have hyoung : buf.isExpired (c.clock.expiry key) = false :=
    decide_eq_false (not_lt.mpr htime)
  simp [Option.filter, hyoung]

end OneCall

/-! ## The last missing chunk -/

/-- **The call delivers the last missing chunk**: of the buffer that the sweep leaves under its
key, `get_missing` lists its number alone, or there is no such buffer and the message has one
chunk. -/
def ChunkReassembler.Awaits (r : ChunkReassembler) (c : ChunkCall) : Prop :=
  let swept := (r.cleanupExpired c.clock).2
  swept.getMissing c.senderId c.msgId = [c.chunkNum] ∨
    swept.buffers.get? c.key = none ∧ c.totalChunks = 1

/-- A buffer that can be completed is completed by the only chunk it lacks.

**Proof sketch.** A buffer whose numbers are in range is complete exactly if no number below its
total is missing. Adding a chunk leaves nothing missing exactly if nothing but its number was, and
something was missing before. -/
lemma ReassemblyBuffer.Healthy.isComplete_addChunk_iff {buf : ReassemblyBuffer} (h : buf.Healthy)
    {i : ℕ} (hi : i < buf.totalChunks) (payload : Bytes) :
    (buf.addChunk i payload).isComplete = true ↔ buf.missingChunks = [i] := by
  have hrange : ∀ k ∈ (buf.addChunk i payload).chunks.keys,
      k < (buf.addChunk i payload).totalChunks := by
    intro k hk
    rcases mem_keys_addChunk.mp hk with rfl | hold
    · exact hi
    · exact h.inRange k hold
  rw [ReassemblyBuffer.isComplete, decide_eq_true_iff, Dict.size_eq_iff_of_keys_lt hrange]
  constructor
  · intro hall
    have honly : ∀ k ∈ buf.missingChunks, k = i := by
      intro k hk
      obtain ⟨hlt, hnot⟩ := mem_missingChunks.mp hk
      exact (mem_keys_addChunk.mp (hall k hlt)).resolve_right hnot
    obtain ⟨k, hk⟩ := List.exists_mem_of_ne_nil _ h.missing
    have hnodup : buf.missingChunks.Nodup := List.nodup_range.filter _
    refine List.perm_singleton.mp ((List.perm_ext_iff_of_nodup hnodup
      (List.nodup_singleton i)).mpr fun k' => ?_)
    rw [List.mem_singleton]
    constructor
    · exact honly k'
    · rintro rfl
      exact honly k hk ▸ hk
  · intro hmissing k hk
    rw [mem_keys_addChunk]
    by_contra hnot
    have hmem : k ∈ buf.missingChunks :=
      mem_missingChunks.mpr ⟨hk, fun hold => hnot (Or.inr hold)⟩
    rw [hmissing, List.mem_singleton] at hmem
    exact hnot (Or.inl hmem)

/-- **What the last missing chunk does**: a call in range returns data exactly if it delivers the
last missing chunk, where what is kept under its key can be completed.

**Proof sketch.** Data are returned exactly if the buffer is complete after the call: a complete
buffer that is healthy can be put together (`InRange.reassemble_filled`). An empty buffer is
completed by the only chunk of its message, and a stored one by its last missing chunk
(`Healthy.isComplete_addChunk_iff`). -/
lemma returns_iff_awaits {r : ChunkReassembler} {c : ChunkCall} (hr : r.HealthyAt c.key)
    (hin : InRange r c) : (∃ data, (r.receive c).1 = .ok (some data)) ↔ r.Awaits c := by
  have hcomplete : (∃ data, (r.receive c).1 = .ok (some data)) ↔
      (c.filled r).isComplete = true := by
    constructor
    · rintro ⟨data, hdata⟩
      exact (reassemble_eq_ok (reassemble_of_returns hdata)).1
    · intro hfull
      rcases receive_cases r c with ⟨hinc, _⟩ | ⟨data, _, hout, _⟩ | ⟨_, e, he, _⟩
      · exact absurd (hinc.symm.trans hfull) Bool.false_ne_true
      · exact ⟨data, hout⟩
      · exact absurd he (hin.reassemble_filled hr hfull e)
  have hget : (r.cleanupExpired c.clock).2.buffers.get? (c.senderId, c.msgId) = r.live c c.key :=
    get?_cleanupExpired r c.clock c.key
  rw [hcomplete, ChunkReassembler.Awaits, ChunkReassembler.getMissing, hget]
  cases hlive : r.live c c.key with
  | none =>
    rw [Opens.filled hlive]
    have hone : ((⟨c.msgId, c.totalChunks, ∅, c.clock.creation⟩ : ReassemblyBuffer).addChunk
        c.chunkNum c.payload).isComplete = decide (1 = c.totalChunks) := rfl
    rw [hone, decide_eq_true_iff]
    have hnone : (r.cleanupExpired c.clock).2.buffers.get? c.key = none := hget.trans hlive
    simp [hnone, eq_comm]
  | some buf =>
    have hbuf : buf.Healthy := hr.live hlive
    have hlt : c.chunkNum < buf.totalChunks := by
      rw [InRange, hlive] at hin
      exact hin
    have hsome : (r.cleanupExpired c.clock).2.buffers.get? c.key = some buf := hget.trans hlive
    rw [filled_of_live hlive, hbuf.isComplete_addChunk_iff hlt]
    simp [hsome]

/-! ## Messages that arrive -/

section Message

variable {r : ChunkReassembler} {key : String × ℕ} {p q q₁ q₂ : List ChunkCall} {o c : ChunkCall}
  {buf : ReassemblyBuffer} {part : ℕ → Bytes}

/-- The run may be taken up to a call, and then this call. -/
lemma ChunkReassembler.after_snoc (r : ChunkReassembler) (p q : List ChunkCall) (o c : ChunkCall) :
    r.after (p ++ o :: (q ++ [c])) = ((r.after (p ++ o :: q)).receive c).2 := by
  have hassoc : p ++ o :: (q ++ [c]) = (p ++ o :: q) ++ [c] := by simp
  rw [hassoc, ChunkReassembler.after_append_singleton]

/-- **The buffer stays open** as long as the calls come in time and do not complete it.

**Proof sketch.** Induction on the calls since the opening, one at a time. The sweep of each call
leaves the buffer; a call for its key adds its chunk, another call leaves it alone. -/
lemma exists_filledBy (hopens : Opens (r.after p) o) (q : List ChunkCall)
    (htime : ∀ c ∈ q, c.clock.expiry o.key - o.clock.creation ≤ chunkReassemblyTimeout)
    (hnone : ∀ q₁ c q₂, o :: q = q₁ ++ c :: q₂ → ¬ Completes (r.after (p ++ q₁)) c o.key) :
    ∃ buf, (r.after (p ++ o :: q)).buffers.get? o.key = some buf ∧ FilledBy o.key o q buf := by
  induction q using List.reverseRecOn with
  | nil =>
    have hopen := hnone [] o [] rfl
    rw [List.append_nil] at hopen
    rw [ChunkReassembler.after_append_singleton]
    exact ⟨_, get?_receive_of_not_completes hopen, hopens.filledBy rfl⟩
  | append_singleton q c ih =>
    obtain ⟨buf, hget, hfilled⟩ := ih (fun d hd => htime d (by simp [hd]))
      fun q₁ d q₂ hq => hnone q₁ d (q₂ ++ [c]) (by rw [← List.cons_append, hq]; simp)
    have hc : c.clock.expiry o.key - buf.createdAt ≤ chunkReassemblyTimeout := by
      rw [hfilled.createdAt]
      exact htime c (by simp)
    have hlive := live_of_inTime hget hc
    have hlast := hnone (o :: q) c [] (by simp)
    rw [ChunkReassembler.after_snoc]
    by_cases hkey : c.key = o.key
    · rw [← hkey] at hlive hlast
      refine ⟨_, ?_, hfilled.snoc_of_eq hkey hc⟩
      rw [← filled_of_live hlive, ← hkey]
      exact get?_receive_of_not_completes hlast
    · rw [receive_of_ne hkey]
      exact ⟨buf, hlive, hfilled.snoc_of_ne hkey hc⟩

/-- **The first data returned** for a message that arrives are the message.

**Proof sketch.** Since the opening, no call has completed the buffer, so it holds the latest
payload for each number (`exists_filledBy`). What is put together from it are these payloads
(`reassemble_eq_ok`), and all calls with a number carry the same one (`Arrives.parts`). -/
lemma Arrives.data {data : Bytes} (h : Arrives (r.after p) o q part) (hq : o :: q = q₁ ++ c :: q₂)
    (hnone : ∀ q₃ d q₄, q₁ = q₃ ++ d :: q₄ → ¬ Completes (r.after (p ++ q₃)) d o.key)
    (hkey : c.key = o.key) (hdata : ((r.after (p ++ q₁)).receive c).1 = .ok (some data)) :
    data = (List.range o.totalChunks).flatMap part := by
  have hfilled : ∃ q', o :: q' = q₁ ++ [c] ∧
      FilledBy o.key o q' (c.filled (r.after (p ++ q₁))) := by
    cases q₁ with
    | nil =>
      obtain ⟨rfl, _⟩ := List.cons.inj hq
      rw [List.append_nil]
      exact ⟨[], rfl, h.opens.filledBy rfl⟩
    | cons o' q₁ =>
      obtain ⟨rfl, hrest⟩ := List.cons.inj hq
      have hmem : ∀ d ∈ q₁ ++ [c], d ∈ q := by
        intro d hd
        rw [hrest]
        rcases List.mem_append.mp hd with hd | hd
        · exact List.mem_append_left _ hd
        · rw [List.mem_singleton.mp hd]
          simp
      obtain ⟨buf, hget, hfilled⟩ := exists_filledBy h.opens q₁
        (fun d hd => h.inTime d (hmem d (by simp [hd]))) hnone
      have hc : c.clock.expiry o.key - buf.createdAt ≤ chunkReassemblyTimeout := by
        rw [hfilled.createdAt]
        exact h.inTime c (hmem c (by simp))
      have hlive := live_of_inTime hget hc
      rw [← hkey] at hlive
      rw [filled_of_live hlive]
      exact ⟨q₁ ++ [c], rfl, hfilled.snoc_of_eq hkey hc⟩
  obtain ⟨q', hq', hfilled⟩ := hfilled
  obtain ⟨_, part', hpart', rfl⟩ := reassemble_eq_ok (reassemble_of_returns hdata)
  rw [hfilled.totalChunks] at hpart' ⊢
  refine List.flatMap_congr fun i hi => ?_
  rw [List.mem_range] at hi
  have hchunk := hpart' i hi
  rw [hfilled.chunks i, Option.map_eq_some_iff] at hchunk
  obtain ⟨d, hd, hpayload⟩ := hchunk
  obtain ⟨hmem, hdkey, rfl⟩ := latestCall_eq_some hd
  have hdq : d ∈ o :: q := by
    rw [hq]
    rw [hq'] at hmem
    rcases List.mem_append.mp hmem with hd' | hd'
    · exact List.mem_append_left _ hd'
    · rw [List.mem_singleton.mp hd']
      simp
  rw [← hpayload, h.parts d hdq hdkey hi]

end Message

/-! ## Runs -/

section Runs

variable {calls p q : List ChunkCall} {o c : ChunkCall} {part : ℕ → Bytes}

/-- The calls of the run are all in range. -/
def AllInRange (calls : List ChunkCall) : Prop :=
  ∀ p c q, calls = p ++ c :: q → InRange ((∅ : ChunkReassembler).after p) c

/-- The calls before some point are in range too. -/
lemma AllInRange.of_append (h : AllInRange (p ++ q)) : AllInRange p := by
  intro p' c q' hp
  exact h p' c (q' ++ q) (by rw [hp]; simp)

/-- Calls in range keep all buffers healthy. -/
lemma AllInRange.healthy (h : AllInRange calls) : ((∅ : ChunkReassembler).after calls).Healthy := by
  induction calls using List.reverseRecOn with
  | nil => exact fun key buf hget => absurd ((Dict.get?_empty key).symm.trans hget) (by simp)
  | append_singleton calls c ih =>
    rw [ChunkReassembler.after_append_singleton]
    exact ((ih h.of_append).receive (h calls c [] rfl)).2

/-- A message that arrives with calls in range is returned: otherwise its buffer would stay open
with nothing missing.

**Proof sketch.** Suppose not. Then no call completes the key, as the first one that does would
return the message (`Arrives.data`); so the buffer is still open after the last call
(`exists_filledBy`). As all calls are in range, some number is missing in it (`Healthy.missing`).
But each number was delivered. -/
lemma AllInRange.delivers (h : AllInRange (p ++ o :: q))
    (harrives : Arrives ((∅ : ChunkReassembler).after p) o q part) :
    ∃ q₁ c q₂, o :: q = q₁ ++ c :: q₂ ∧ c.key = o.key ∧
      (((∅ : ChunkReassembler).after (p ++ q₁)).receive c).1 =
        .ok (some ((List.range o.totalChunks).flatMap part)) := by
  by_contra hnot
  have hnone : ∀ q₁ c q₂, o :: q = q₁ ++ c :: q₂ →
      ¬ Completes ((∅ : ChunkReassembler).after (p ++ q₁)) c o.key := by
    intro q₁
    -- the first call that completes the key would return the message
    induction hn : q₁.length using Nat.strong_induction_on generalizing q₁ with
    | _ n ih =>
      rintro c q₂ hq ⟨hkey, data, hdata⟩
      have hbefore : ∀ q₃ d q₄, q₁ = q₃ ++ d :: q₄ →
          ¬ Completes ((∅ : ChunkReassembler).after (p ++ q₃)) d o.key := by
        intro q₃ d q₄ hq₁
        have hlt : q₃.length < n := by
          rw [← hn, hq₁, List.length_append, List.length_cons]
          omega
        exact ih _ hlt q₃ rfl d (q₄ ++ c :: q₂) (by rw [hq, hq₁]; simp)
      rw [harrives.data hq hbefore hkey hdata] at hdata
      exact hnot ⟨q₁, c, q₂, hq, hkey, hdata⟩
  obtain ⟨buf, hget, hfilled⟩ := exists_filledBy harrives.opens q harrives.inTime hnone
  have hhealthy := h.healthy o.key buf hget
  obtain ⟨i, hi⟩ := List.exists_mem_of_ne_nil _ hhealthy.missing
  obtain ⟨hlt, hmissing⟩ := mem_missingChunks.mp hi
  rw [hfilled.totalChunks] at hlt
  obtain ⟨d, hd, hdkey, rfl⟩ := harrives.all i hlt
  obtain ⟨l, hl⟩ := exists_latestCall hd hdkey
  rw [← Dict.get?_eq_none_iff, hfilled.chunks, hl] at hmissing
  exact absurd hmissing (by simp)

end Runs

/-- **What the reassembler withstands**: a run of calls raises nothing, keeps all buffers
completable and returns the messages that arrive in time exactly if the number of each call is
below the total of the buffer it adds to.

**Proof sketch.** A call keeps the buffers completable, and raises nothing, if its number is in
range (`Healthy.receive`). If it is not, then the buffer it is added to cannot be completed any
more, or it raises (`inRange_of_healthy`). -/
theorem withstands_iff (calls : List ChunkCall) :
    Withstands calls ↔
      ∀ p c q, calls = p ++ c :: q → InRange ((∅ : ChunkReassembler).after p) c := by
  constructor
  · intro h p c q hcalls
    obtain ⟨out, hout⟩ := h.returns p c q hcalls
    have hhealthy := h.healthy (p ++ [c]) q (by rw [hcalls]; simp)
    rw [ChunkReassembler.after_append_singleton] at hhealthy
    exact inRange_of_healthy hout hhealthy
  · intro h
    have hall : AllInRange calls := h
    refine ⟨fun p c q hcalls => ?_, fun p q hcalls => ?_, fun p o q rest part hcalls => ?_⟩
    · have hp : AllInRange (p ++ [c]) := AllInRange.of_append (q := q) (by
        rw [List.append_assoc, List.singleton_append, ← hcalls]
        exact hall)
      exact (hp.of_append.healthy.receive (h p c q hcalls)).1
    · rw [hcalls] at hall
      exact hall.of_append.healthy
    · rw [hcalls] at hall
      exact hall.of_append.delivers

/-- Chunk number five of one: the buffer is complete with it, but its chunk zero is missing. The
call raises `KeyError` and leaves the buffer. -/
theorem not_withstands_out_of_range :
    let c : ChunkCall := ⟨⟨fun _ => 0, 0⟩, "!a", 7, 5, 1, []⟩
    c.Delivers (frameBytes 1 7 5 1 []) ∧ ((∅ : ChunkReassembler).receive c).1 =
      .error ⟨"KeyError", dec 0⟩ ∧ ¬ Withstands [c] := by
  intro c
  have hraise : ((∅ : ChunkReassembler).receive c).1 = .error ⟨"KeyError", dec 0⟩ := by
    decide +kernel
  refine ⟨?_, hraise, fun h => ?_⟩
  · have hfits : ([] : Bytes).length ≤ maxChunkData := Nat.zero_le _
    obtain ⟨checksum, hu⟩ := unpackMessage_frameBytes_append 1 7 5 1 [] hfits
    rw [List.append_nil] at hu
    exact ⟨_, hu, rfl, rfl, rfl⟩
  · obtain ⟨out, hout⟩ := h.returns [] c [] rfl
    exact absurd (hraise.symm.trans hout) (by simp)

end SolMesh
