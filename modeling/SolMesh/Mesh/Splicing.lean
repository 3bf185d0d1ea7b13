import SolMesh.Mesh.Provenance

set_option relaxedAutoImplicit false
set_option autoImplicit false

/-!
# Data of one message

Every frame declares how many chunks its message has, but `receive_chunk` looks at this number only
when it opens a buffer. A sender that uses an id again for a message of another size, while a part
of the old one is buffered, makes it return pieces of both. If every frame that can become a part
of the data declares the total of its buffer, returned data are of one message.

## Main definitions

* `SolMesh.Agrees` — the call declares the total of the buffer it adds to.
* `SolMesh.OneMessage` — all frames whose payloads the data consist of declared their number.

## Main results

* `SolMesh.InProgress.live` — while a message is in progress, each call for it finds its buffer.
* `SolMesh.oneMessage_of_agrees` — with calls that agree, returned data are of one message.
-/

namespace SolMesh

open Py Text

/-- **The call agrees with its buffer**: if there is one, and the number of the call is below the
total of it, then this is the total that the call declares. -/
def Agrees (r : ChunkReassembler) (c : ChunkCall) : Prop :=
  ∀ buf, r.live c c.key = some buf → c.chunkNum < buf.totalChunks →
    c.totalChunks = buf.totalChunks

/-- **Data of one message**: among the calls up to `c` since the one that opened the buffer, the
data are the payloads of the latest calls with the numbers below `T`, and each of these calls
declared `T` chunks. -/
def OneMessage (pre : List ChunkCall) (c : ChunkCall) (data : Bytes) : Prop :=
  ∃ p o q, pre ++ [c] = p ++ o :: q ∧ InProgress ∅ c.key p o q ∧
    ∃ (T : ℕ) (part : ℕ → ChunkCall),
      (∀ i < T, latestCall c.key i (o :: q) = some (part i) ∧ (part i).totalChunks = T) ∧
      data = (List.range T).flatMap fun i => (part i).payload

section InProgress

variable {r : ChunkReassembler} {key : String × ℕ} {p q q₁ q₂ : List ChunkCall} {o c : ChunkCall}
  {buf : ReassemblyBuffer}

/-- What is in progress after some calls was in progress before them. -/
lemma InProgress.of_append (h : InProgress r key p o (q₁ ++ q₂)) : InProgress r key p o q₁ := by
  refine ⟨h.own, h.opens, fun q d q' hq => ?_, fun q d q' hq hne => ?_⟩
  · refine h.notExpired q d (q' ++ q₂) ?_
    rw [hq, List.append_assoc, List.cons_append]
  · refine h.notCompleted q d (q' ++ q₂) ?_ (List.append_ne_nil_of_left_ne_nil hne q₂)
    rw [← List.cons_append, hq, List.append_assoc, List.cons_append]

/-- A stored buffer that the sweep of a call does not drop is left by it. -/
lemma live_of_not_expires (hget : r.buffers.get? key = some buf) (h : ¬ Expires r c key) :
    r.live c key = some buf := by
  have hyoung : buf.isExpired (c.clock.expiry key) = false := by
    rw [Bool.eq_false_iff]
    exact fun hold => h ⟨buf, hget, hold⟩
  rw [ChunkReassembler.live, hget]
  simp [Option.filter, hyoung]

/-- **A message in progress is buffered**, under the total that its first call declared.

**Proof sketch.** Induction on the calls since the opening. A call of another key keeps what its
sweep leaves; a call of this key adds a chunk and does not complete the buffer. -/
lemma InProgress.get? (h : InProgress r key p o (q ++ [c])) :
    ∃ buf, (r.after (p ++ o :: q)).buffers.get? key = some buf ∧
      buf.totalChunks = o.totalChunks := by
  induction q using List.reverseRecOn generalizing c with
  | nil =>
    have hnot : ¬ Completes (r.after p) o key := by
      have hopening := h.notCompleted [] o [c] rfl (List.cons_ne_nil _ _)
      rwa [List.append_nil] at hopening
    rw [ChunkReassembler.after_append_singleton]
    have hown := h.own
    subst hown
    refine ⟨_, get?_receive_of_not_completes hnot, ?_⟩
    rw [h.opens.filled]
    rfl
  | append_singleton q d ih =>
    obtain ⟨buf, hget, htotal⟩ := ih h.of_append
    have hlive : (r.after (p ++ o :: q)).live d key = some buf :=
      live_of_not_expires hget (h.notExpired q d [c] (by simp))
    have hsplit : p ++ o :: (q ++ [d]) = (p ++ o :: q) ++ [d] := by simp
    rw [hsplit, ChunkReassembler.after_append_singleton]
    by_cases hkey : d.key = key
    · have hnot : ¬ Completes (r.after (p ++ o :: q)) d key :=
        h.notCompleted (o :: q) d [c] (by simp) (List.cons_ne_nil _ _)
      subst hkey
      refine ⟨_, get?_receive_of_not_completes hnot, ?_⟩
      rw [filled_of_live hlive]
      exact htotal
    · exact ⟨buf, (receive_of_ne hkey).trans hlive, htotal⟩

/-- **Each call since the opening finds the buffer**, with the total of the opening call. -/
lemma InProgress.live (h : InProgress r key p o (q₁ ++ c :: q₂)) :
    ∃ buf, (r.after (p ++ o :: q₁)).live c key = some buf ∧
      buf.totalChunks = o.totalChunks := by
  have hbefore : InProgress r key p o (q₁ ++ [c]) := by
    have hsplit : q₁ ++ c :: q₂ = (q₁ ++ [c]) ++ q₂ := by simp
    rw [hsplit] at h
    exact h.of_append
  obtain ⟨buf, hget, htotal⟩ := hbefore.get?
  exact ⟨buf, live_of_not_expires hget (h.notExpired q₁ c q₂ rfl), htotal⟩

end InProgress

/-- **Returned data are of one message if the calls agree with their buffers.** In every run of
calls, of any senders, with any ids, numbers, totals and payloads, and in any order: if each call
for the message that is returned agrees with the buffer it adds to, then the returned data are made
of `T` chunks that all declared `T`.

**Proof sketch.** The data are made of the latest chunks since the buffer was opened
(`exists_latest_of_returns`). The first of them declared the total of the buffer; each later one
found the buffer and agreed with it (`InProgress.live`). -/
theorem oneMessage_of_agrees {pre : List ChunkCall} {c : ChunkCall} {data : Bytes}
    (hagrees : ∀ p d q, pre ++ [c] = p ++ d :: q → d.key = c.key →
      Agrees ((∅ : ChunkReassembler).after p) d)
    (h : (((∅ : ChunkReassembler).after pre).receive c).1 = .ok (some data)) :
    OneMessage pre c data := by
  obtain ⟨p, o, q, hcalls, hprogress, _, part, hpart, hdata⟩ := exists_latest_of_returns h
  refine ⟨p, o, q, hcalls, hprogress, o.totalChunks, part, fun i hi => ?_, hdata⟩
  refine ⟨hpart i hi, ?_⟩
  obtain ⟨hmem, hkey, hnum⟩ := latestCall_eq_some (hpart i hi)
  rcases List.mem_cons.mp hmem with heq | hlater
  · rw [heq]
  · obtain ⟨q₁, q₂, rfl⟩ := List.append_of_mem hlater
    obtain ⟨buf, hlive, htotal⟩ := hprogress.live
    rw [← hkey] at hlive
    have hd := hagrees (p ++ o :: q₁) (part i) q₂ (by rw [hcalls]; simp) hkey buf hlive
    rw [htotal, hnum] at hd
    exact hd hi

/-- The two frames of a message, in the wrong order. -/
theorem oneMessage_of_agrees_two_chunks :
    let clock : Clock := ⟨fun _ => 0, 0⟩
    OneMessage [⟨clock, "!a", 5, 1, 2, [8]⟩] ⟨clock, "!a", 5, 0, 2, [7]⟩ [7, 8] := by
  intro clock
  refine oneMessage_of_agrees (fun p d q hsplit _ => ?_) (by decide +kernel)
  rcases p with _ | ⟨c, _ | ⟨c', p⟩⟩
  · intro buf hlive
    cases hlive
  · obtain ⟨rfl, hd⟩ := List.cons.inj hsplit
    obtain ⟨rfl, _⟩ := List.cons.inj hd
    intro buf hlive _
    have hstored := (live_eq_some hlive).1
    have htotal : (((∅ : ChunkReassembler).after [⟨clock, "!a", 5, 1, 2, [8]⟩]).buffers.get?
        ("!a", 5)).map ReassemblyBuffer.totalChunks = some 2 := by decide +kernel
    have hbuf := congrArg (Option.map ReassemblyBuffer.totalChunks) hstored
    exact Option.some.inj (htotal.symm.trans hbuf)
  · have hlen := congrArg List.length hsplit
    simp at hlen

/-- **The reassembler splices messages**: the first chunk of a message of two and the second chunk
of a message of three, under one id, are returned as one. -/
theorem not_oneMessage : ¬ ∀ (pre : List ChunkCall) (c : ChunkCall) (data : Bytes),
    (((∅ : ChunkReassembler).after pre).receive c).1 = .ok (some data) →
      OneMessage pre c data := by
  intro hall
  let clock : Clock := ⟨fun _ => 0, 0⟩
  let first : ChunkCall := ⟨clock, "!a", 5, 0, 2, [7]⟩
  let second : ChunkCall := ⟨clock, "!a", 5, 1, 3, [8]⟩
  obtain ⟨p, o, q, hcalls, _, T, part, hpart, hdata⟩ :=
    hall [first] second [7, 8] (by decide +kernel)
  have hmem : ∀ i < T, (part i = first ∨ part i = second) ∧ (part i).chunkNum = i ∧
      (part i).totalChunks = T := by
    intro i hi
    obtain ⟨hlatest, htotal⟩ := hpart i hi
    obtain ⟨hin, _, hnum⟩ := latestCall_eq_some hlatest
    have hlist : part i ∈ [first] ++ [second] := hcalls ▸ List.mem_append_right p hin
    exact ⟨by simpa using hlist, hnum, htotal⟩
  have hpos : 0 < T := by
    refine Nat.pos_of_ne_zero fun hzero => ?_
    rw [hzero] at hdata
    cases hdata
  -- the chunk 0 is of a message of two, and the chunk 1 is not
  have htwo : T = 2 := by
    obtain ⟨h₀ | h₀, hnum, htotal⟩ := hmem 0 hpos
    · rw [h₀] at htotal
      exact htotal.symm
    · rw [h₀] at hnum
      cases hnum
  subst htwo
  obtain ⟨h₁ | h₁, hnum, htotal⟩ := hmem 1 (by omega)
  · rw [h₁] at hnum
    cases hnum
  · rw [h₁] at htotal
    cases htotal

end SolMesh
