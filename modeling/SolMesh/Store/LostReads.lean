import SolMesh.Store.Atomicity

set_option relaxedAutoImplicit false
set_option autoImplicit false

/-!
# Queues that are lost because they could not be read

A queue that cannot be read is taken for an empty one. Most operations of the store have nothing to
save then. An addition saves a queue with the new intent only, and clearing one status saves an
empty queue: what was stored is lost.

## Main definitions

* `SolMesh.StoreCall.targets` — the intents that an operation is asked to change or remove.
* `SolMesh.KeepsOthers` — an operation keeps all other intents, however it ends.
* `SolMesh.StoreCall.Spares` — saving what the operation makes of an empty queue loses nothing.

## Main results

* `SolMesh.keepsOthers_iff` — an operation keeps all other intents exactly if reading is not lossy
  or nothing is lost by it.
* `SolMesh.not_keepsOthers_add` — an addition that loses the queue.
-/

namespace SolMesh

open Py Text Conc IntentStore

variable {F : Type}

/-! ## Targets -/

/-- The operation is asked to change or remove this intent. Recovery is to change the intents that
were being sent. -/
def StoreCall.targets : StoreCall F → Intent F → Bool
  | recoverSending _, i => decide (i.status = .sending)
  | add _, _ => false
  | updateStatus _ id .., i | incrementAttempts _ id, i | remove id, i => decide (i.id = id)
  | clear none, _ => true
  | clear (some st), i => decide (i.status = st)

/-- The intents that an operation is not asked to change or remove, in their order. -/
def StoreCall.others (call : StoreCall F) (intents : List (Intent F)) : List (Intent F) :=
  intents.filter fun i => !call.targets i

/-- **An operation keeps all other intents** when reading the queue file answers so: however it
ends, they are still in the queue on the disk, unchanged and in the same order. -/
def KeepsOthers [BEq F] [Number F] (codec : Codec (Intent F)) (d : Disk)
    (intents : List (Intent F)) (call : StoreCall F) (reading : Reading) : Prop :=
  ∀ t out d', Prog.Runs fileExec (call.program codec).run d t out d' →
    (∀ e ∈ t, reading.Allows e.1 e.2) →
      ∃ intents', codec.Reads d' intents' ∧ (call.others intents).Sublist intents'

/-- Saving what the operation makes of an empty queue loses nothing. -/
def StoreCall.Spares : StoreCall F → List (Intent F) → Prop
  | add intent, intents => intents.Sublist [intent]
  | clear (some st), intents => ∀ i ∈ intents, i.status = st
  | _, _ => True

/-! ## What an operation leaves -/

section Leaves

variable {call : StoreCall F} {intents : List (Intent F)} {reading : Reading}

/-- Changing the first intent with an id keeps the intents with other ids. -/
lemma filter_sublist_modifyFirst (intentId : String) (f : Intent F → Intent F)
    (intents : List (Intent F)) :
    (intents.filter fun i => !decide (i.id = intentId)).Sublist
      (modifyFirst intentId f intents) := by
  induction intents with
  | nil => exact List.Sublist.refl []
  | cons i intents ih =>
    rw [modifyFirst, List.filter_cons]
    by_cases hi : i.id = intentId
    · rw [if_pos hi, decide_eq_true hi]
      exact List.filter_sublist.cons (f i)
    · rw [if_neg hi, decide_eq_false hi]
      exact ih.cons_cons i

/-- A change of one intent keeps the intents with other ids. -/
lemma filter_sublist_modifyStored (intentId : String) (f : Intent F → Intent F)
    (intents : List (Intent F)) :
    (intents.filter fun i => !decide (i.id = intentId)).Sublist
      ((modifyStored intentId f).after intents) := by
  unfold StoreOp.after modifyStored
  split_ifs
  · exact filter_sublist_modifyFirst intentId f intents
  · exact List.filter_sublist

/-- Recovery keeps the intents that were not being sent. -/
lemma filter_sublist_recovered (now : String → ℚ) (intents : List (Intent F)) :
    (intents.filter fun i => !decide (i.status = .sending)).Sublist
      (intents.map (recovered now)) := by
  induction intents with
  | nil => exact List.Sublist.refl []
  | cons i intents ih =>
    rw [List.filter_cons, List.map_cons]
    by_cases hi : i.status = .sending
    · rw [decide_eq_true hi]
      exact ih.cons (recovered now i)
    · rw [decide_eq_false hi, recovered, if_neg hi]
      exact ih.cons_cons i

variable [BEq F] [Number F]

/-- **On the queue that is stored**, every operation keeps all other intents.

**Proof sketch.** One case for each operation: the intents it is not asked to change are left in
their order. -/
lemma StoreCall.others_sublist_valueAfter :
    (call.others intents).Sublist (valueAfter StoreCall.perform call intents) := by
  cases call with
  | recoverSending now =>
    change (intents.filter _).Sublist ((IntentStore.recoverSending now).after intents)
    rw [after_recoverSending]
    exact filter_sublist_recovered now intents
  | add intent =>
    change (intents.filter _).Sublist ((IntentStore.add intent).after intents)
    refine List.filter_sublist.trans ?_
    unfold StoreOp.after IntentStore.add
    split_ifs
    · exact List.Sublist.refl intents
    · exact List.sublist_append_left intents [intent]
  | updateStatus now id status error txHash => exact filter_sublist_modifyStored id _ intents
  | incrementAttempts now id => exact filter_sublist_modifyStored id _ intents
  | remove id =>
    change (intents.filter _).Sublist ((IntentStore.remove id).after intents)
    rw [after_remove]
    simp [targets]
  | clear status =>
    cases status with
    | none => simp [others, targets]
    | some st =>
      change (intents.filter _).Sublist (intents.filter _)
      simp [targets]

/-- **On a queue that was taken for an empty one**, an operation keeps all other intents exactly if
it loses nothing. -/
lemma StoreCall.others_sublist_leaves_iff :
    (call.others intents).Sublist (call.leaves reading intents) ↔
      (reading.lossy → call.Spares intents) := by
  by_cases hlossy : reading.lossy
  · rw [leaves, Reading.loaded, if_pos hlossy]
    have hself : (call.others intents).Sublist intents := List.filter_sublist
    cases call with
    | add intent => simp [others, targets, Spares, perform, IntentStore.add, isDuplicate, hlossy]
    | clear status =>
      cases status with
      | none => simp [others, targets, Spares]
      | some st => simp [others, targets, Spares, perform, IntentStore.clear, hlossy]
    | _ => exact ⟨fun _ _ => trivial, fun _ => hself⟩
  · rw [leaves_of_not_lossy call hlossy]
    exact ⟨fun _ h => absurd h hlossy, fun _ => others_sublist_valueAfter⟩

end Leaves

/-! ## Runs with a reading -/

section Runs

variable {R : Type} {reading : Reading} {d d' : Disk}

/-- A lossy reading gives the empty queue. -/
lemma given_of_lossy (codec : Codec R) (h : reading.lossy) : codec.given reading = .ok [] := by
  obtain ⟨_ | _ | _, _ | _⟩ := reading
  case ok.true.error e => exact if_pos (of_decide_eq_true h)
  all_goals first | rfl | cases h

/-- A lossy reading of a queue that is not empty is possible. -/
lemma possible_of_lossy {codec : Codec R} {records : List R} (hbefore : codec.Reads d records)
    (hne : records ≠ []) (h : reading.lossy) : reading.Possible d := by
  intro hpresent
  constructor
  · rw [Dict.contains]
    cases hfile : d.files.get? queueFile with
    | some content => rfl
    | none =>
      rw [Codec.Reads, hfile] at hbefore
      exact absurd hbefore hne
  · intro content hcontent
    rw [Reading.lossy, hpresent, hcontent] at h
    cases h

variable [BEq F] [Number F] {codec : Codec (Intent F)} {call : StoreCall F}
  {intents : List (Intent F)}

/-- What a call does in a run with this reading. -/
lemma StoreCall.ended_of_runs {t : List ((op : FileOp) × op.Ans)} {out : Except Exn call.Ans}
    (hrun : Prog.Runs fileExec (call.program codec).run d t out d')
    (ht : ∀ e ∈ t, reading.Allows e.1 e.2) :
    call.Ended codec reading (Prog.restrict fileExec reading.Allows) d out d' :=
  (StoreCall.meets_program Prog.exec_of_restrict (reading.answers_restrict (fun _ _ h => h) d)
    call).of_runs (hrun.restrict ht)

/-- After a lossy reading of a queue that is not empty, an operation can return. -/
lemma exists_runs_of_lossy (call : StoreCall F) (hbefore : codec.Reads d intents)
    (hne : intents ≠ []) (hlossy : reading.lossy)
    (hdumped : (codec.dump (call.leaves reading intents)).2 = .ok ())
    (hback : codec.ReadsBack (call.leaves reading intents)) :
    ∃ t d', Prog.Runs fileExec (call.program codec).run d t (.ok (call.perform []).1) d' ∧
      (∀ e ∈ t, reading.Allows e.1 e.2) ∧ codec.Reads d' (call.leaves reading intents) := by
  obtain ⟨t, d', hrun, ht⟩ := call.exists_runs_program (possible_of_lossy hbefore hne hlossy)
    (given_of_lossy codec hlossy) fun saved hsaved => by
      rw [StoreCall.leaves, Reading.loaded, if_pos hlossy, hsaved] at hdumped
      exact hdumped
  exact ⟨t, d', hrun, ht,
    (StoreCall.reads_of_ended hbefore hback (StoreCall.ended_of_runs hrun ht)).2.1⟩

/-- **When an operation keeps all other intents**: exactly if reading does not fail in a way that is
taken for an empty queue, or the operation loses nothing on an empty queue. An addition loses
nothing if the queue is empty or holds just the new intent, clearing one status if every intent has
this status; all other operations save nothing when they find an empty queue.

**Proof sketch.** A run that raises leaves the queue as it is, and a run that returns leaves what
the operation makes of the queue that was loaded. After a lossy reading there is a run that
returns. -/
theorem keepsOthers_iff (hbefore : codec.Reads d intents)
    (hdumped : (codec.dump (call.leaves reading intents)).2 = .ok ())
    (hback : codec.ReadsBack (call.leaves reading intents)) :
    KeepsOthers codec d intents call reading ↔ (reading.lossy → call.Spares intents) := by
  rw [← StoreCall.others_sublist_leaves_iff]
  constructor
  · intro hkeeps
    by_cases hlossy : reading.lossy
    · by_cases hne : intents = []
      · rw [hne]
        exact List.nil_sublist _
      · obtain ⟨t, d', hrun, ht, hafter⟩ :=
          exists_runs_of_lossy call hbefore hne hlossy hdumped hback
        obtain ⟨intents', hreads, hsub⟩ := hkeeps t _ d' hrun ht
        rw [hreads.unique hafter] at hsub
        exact hsub
    · exact StoreCall.others_sublist_leaves_iff.mpr fun h => absurd h hlossy
  · intro hsub t out d' hrun ht
    have hended := StoreCall.ended_of_runs hrun ht
    cases out with
    | ok answer =>
      exact ⟨_, (StoreCall.reads_of_ended hbefore hback hended).2.1, hsub⟩
    | error e => exact ⟨intents, hbefore.of_same hended.same, List.filter_sublist⟩

end Runs

/-! ## Sample runs -/

/-- The queue file is there, but may not be read. -/
def sampleDenied : Reading := ⟨.ok true, .error ⟨"PermissionError",
  ofString "[Errno 13] Permission denied: '/home/alice/.solmesh/queue.json'"⟩⟩

/-- The queue of the sample disk is read back. -/
lemma readsBack_sample : sampleCodec.ReadsBack [sampleTransfer "a" "bob"] := by
  intro _
  have hflat : (sampleCodec.dump [sampleTransfer "a" "bob"]).1.flatten = sampleFile "a" "bob" :=
    List.append_nil _
  rw [hflat]
  dsimp only [sampleCodec]
  rw [if_pos rfl]

/-- Another queue is read back. -/
lemma readsBack_other : sampleCodec.ReadsBack [sampleTransfer "b" "carol"] := by
  intro _
  have hflat : (sampleCodec.dump [sampleTransfer "b" "carol"]).1.flatten =
      sampleFile "b" "carol" := List.append_nil _
  rw [hflat]
  dsimp only [sampleCodec]
  rw [if_neg (sampleFile_ne (by decide)), if_pos rfl]

/-- This is taken for an empty queue. -/
lemma lossy_sampleDenied : sampleDenied.lossy = true := by decide

/-- Removing an intent from a queue that may not be read keeps the queue. -/
theorem keepsOthers_remove :
    KeepsOthers sampleCodec sampleDisk [sampleTransfer "a" "bob"] (.remove "b") sampleDenied := by
  have hleaves : (StoreCall.remove "b").leaves sampleDenied [sampleTransfer "a" "bob"] =
      [sampleTransfer "a" "bob"] := by
    rw [StoreCall.leaves, Reading.loaded, if_pos lossy_sampleDenied]
    rfl
  refine (keepsOthers_iff reads_sampleDisk ?_ ?_).mpr fun _ => trivial
  · rw [hleaves]
    rfl
  · rw [hleaves]
    exact readsBack_sample

/-- **An addition to a queue that may not be read** returns, and the queue is lost. -/
theorem not_keepsOthers_add :
    (∃ t d', Prog.Runs fileExec
      ((StoreCall.add (sampleTransfer "b" "carol")).program sampleCodec).run sampleDisk t
      (.ok (Except.ok (sampleTransfer "b" "carol"))) d' ∧
      (∀ e ∈ t, sampleDenied.Allows e.1 e.2) ∧
      sampleCodec.Reads sampleDisk [sampleTransfer "a" "bob"] ∧
      sampleCodec.Reads d' [sampleTransfer "b" "carol"]) ∧
    ¬ KeepsOthers sampleCodec sampleDisk [sampleTransfer "a" "bob"]
      (.add (sampleTransfer "b" "carol")) sampleDenied := by
  have hleaves : (StoreCall.add (sampleTransfer "b" "carol")).leaves sampleDenied
      [sampleTransfer "a" "bob"] = [sampleTransfer "b" "carol"] := by
    rw [StoreCall.leaves, Reading.loaded, if_pos lossy_sampleDenied]
    rfl
  obtain ⟨t, d', hrun, ht, hafter⟩ := exists_runs_of_lossy
    (.add (sampleTransfer "b" "carol")) reads_sampleDisk (List.cons_ne_nil _ _)
    lossy_sampleDenied (by rw [hleaves]; rfl) (by rw [hleaves]; exact readsBack_other)
  rw [hleaves] at hafter
  refine ⟨⟨t, d', hrun, ht, reads_sampleDisk, hafter⟩, fun hkeeps => ?_⟩
  obtain ⟨intents', hreads, hsub⟩ := hkeeps t _ d' hrun ht
  rw [hreads.unique hafter] at hsub
  have hmem := hsub.subset (List.mem_cons_self : sampleTransfer "a" "bob" ∈
    StoreCall.others (.add (sampleTransfer "b" "carol")) [sampleTransfer "a" "bob"])
  exact absurd (congrArg Intent.id (List.mem_singleton.mp hmem)) (by decide)

end SolMesh
