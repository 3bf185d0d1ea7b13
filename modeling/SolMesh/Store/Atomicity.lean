import SolMesh.Store.Saving

set_option relaxedAutoImplicit false
set_option autoImplicit false

/-!
# Saving the queue is all or nothing

Saving writes to a temporary file and then replaces the queue file by it. Whichever step raises,
and after whichever step the process crashes, the queue is the one before the operation or the one
after it.

## Main definitions

* `SolMesh.Reading.lossy` — reading fails in a way that `_load` takes for an empty queue.
* `SolMesh.StoreCall.leaves` — the queue after an operation.

## Main results

* `SolMesh.storeCall_atomic` — the operations of the store are all or nothing.
-/

namespace SolMesh

open Py Text Conc

variable {R F : Type}

/-! ## The queue after an operation -/

/-- Reading fails in a way that `_load` takes for an empty queue: the file is reported missing, or
opening or reading it raises an exception that is caught. -/
def Reading.lossy (reading : Reading) : Bool :=
  match reading.present, reading.content with
  | .ok true, .error e => decide (IsUnreadable e)
  | .ok false, _ => true
  | _, _ => false

/-- The queue that is loaded if this one is stored. -/
def Reading.loaded (reading : Reading) (records : List R) : List R :=
  if reading.lossy then [] else records

/-- The queue after an operation: the one that it saves, or else the one before. -/
def StoreCall.leaves [BEq F] [Number F] (call : StoreCall F) (reading : Reading)
    (intents : List (Intent F)) : List (Intent F) :=
  (call.perform (reading.loaded intents)).2.getD intents

/-- If reading is not lossy, then the queue after an operation is what the operation makes of the
queue before. -/
lemma StoreCall.leaves_of_not_lossy [BEq F] [Number F] (call : StoreCall F) {reading : Reading}
    (h : ¬ reading.lossy) (intents : List (Intent F)) :
    call.leaves reading intents = valueAfter StoreCall.perform call intents := by
  rw [leaves, Reading.loaded, if_neg h, valueAfter]

variable {codec : Codec R} {reading : Reading} {d d' : Disk} {records : List R}

/-- What is loaded, if loading returns.

**Proof sketch.** Along what looking for the file and reading it answer: without a file, and after a
read that failed and is caught, the queue is taken for empty; otherwise it is what the file holds.
-/
lemma Codec.Reads.loaded_of_given (hbefore : codec.Reads d records) (hpossible : reading.Possible d)
    {loaded : List R} (h : codec.given reading = .ok loaded) : loaded = reading.loaded records := by
  obtain ⟨present, content⟩ := reading
  cases present with
  | error e => cases h
  | ok found =>
    cases found with
    | false => exact (Except.ok.inj h).symm
    | true =>
      cases content with
      | ok bytes =>
        have hfile : d.files.get? queueFile = some bytes := (hpossible rfl).2 bytes rfl
        rw [Codec.Reads, hfile] at hbefore
        exact Except.ok.inj (h.symm.trans hbefore)
      | error e =>
        have hgiven : (if IsUnreadable e then .ok [] else .error e) = Except.ok loaded := h
        split_ifs at hgiven with he
        have hlossy : Reading.lossy ⟨.ok true, .error e⟩ = true := decide_eq_true he
        rw [Reading.loaded, if_pos hlossy]
        exact (Except.ok.inj hgiven).symm

/-! ## All or nothing -/

section Atomic

variable [BEq F] [Number F] {codec : Codec (Intent F)} {intents : List (Intent F)}
  {call : StoreCall F}

/-- During a call, the queue is the one before or the one after. -/
lemma StoreCall.reads_of_during (hbefore : codec.Reads d intents)
    (hback : codec.ReadsBack (call.leaves reading intents))
    (h : call.During codec reading d d') :
    codec.Reads d' intents ∨ codec.Reads d' (call.leaves reading intents) := by
  rcases h with hsame | ⟨hpossible, loaded, saved, hgiven, hsaved, hsame | ⟨hdumped, hcontent⟩⟩
  · exact Or.inl (hbefore.of_same hsame)
  · exact Or.inl (hbefore.of_same hsame)
  · have hleaves : call.leaves reading intents = saved := by
      rw [leaves, ← hbefore.loaded_of_given hpossible hgiven, hsaved, Option.getD_some]
    rw [hleaves] at hback ⊢
    exact Or.inr (Codec.reads_of_content hback hdumped hcontent)

/-- A call that returns leaves the queue after it, and every other file as it was. -/
lemma StoreCall.reads_of_ended {exec : (op : FileOp) → Disk → op.Ans → Disk → Prop}
    {answer : call.Ans} (hbefore : codec.Reads d intents)
    (hback : codec.ReadsBack (call.leaves reading intents))
    (h : call.Ended codec reading exec d (.ok answer) d') :
    answer = (call.perform (reading.loaded intents)).1 ∧
      codec.Reads d' (call.leaves reading intents) ∧
      ∀ name, name ≠ queueFile → d'.files.get? name = d.files.get? name := by
  obtain ⟨hpossible, loaded, hgiven, hanswer, hends⟩ := h
  obtain rfl := hbefore.loaded_of_given hpossible hgiven
  refine ⟨hanswer, ?_⟩
  rw [leaves] at hback ⊢
  cases hsaved : (call.perform (reading.loaded intents)).2 with
  | none =>
    rw [hsaved] at hends
    exact ⟨hbefore.of_same (hends queueFile), fun name _ => hends name⟩
  | some saved =>
    rw [hsaved] at hends hback
    exact ⟨Codec.reads_of_content hback hends.dumped hends.content, hends.others⟩

/-- Removing a file does not fail. -/
def UnlinkSucceeds : (op : FileOp) → op.Ans → Prop
  | .unlink _, .error _ => False
  | _, _ => True

/-- **The operations of the store are all or nothing.** Whichever steps raise, and wherever the
process crashes, the queue is the one before the operation or the one after it. If the operation
raises, then the queue is the one before, and no temporary file is left unless removing it fails. If
it returns, then the queue is the one after.

**Proof sketch.** One pass through the steps of `saveQueue`. While the temporary file is written,
nothing but this file changes. The replacement is the only step that touches the queue file, and it
comes when the temporary file is closed with all of the new queue in it. -/
theorem storeCall_atomic {t : List ((op : FileOp) × op.Ans)} (hbefore : codec.Reads d intents)
    (hback : codec.ReadsBack (call.leaves (fileReadingOf t) intents)) :
    (Prog.Begins fileExec (call.program codec).run d t d' →
      codec.Reads d' intents ∨ codec.Reads d' (call.leaves (fileReadingOf t) intents)) ∧
    (∀ e, Prog.Runs fileExec (call.program codec).run d t (.error e) d' →
      codec.Reads d' intents ∧ ((∀ e ∈ t, UnlinkSucceeds e.1 e.2) →
        ∀ name, d'.files.get? name = d.files.get? name)) ∧
    (∀ answer, Prog.Runs fileExec (call.program codec).run d t (.ok answer) d' →
      answer = (call.perform ((fileReadingOf t).loaded intents)).1 ∧
      codec.Reads d' (call.leaves (fileReadingOf t) intents) ∧
      ∀ name, name ≠ queueFile → d'.files.get? name = d.files.get? name) ∧
    (¬ (fileReadingOf t).lossy →
      call.leaves (fileReadingOf t) intents = valueAfter StoreCall.perform call intents) := by
  have hmeets : (call.program codec).run.Meets (Prog.restrict fileExec (fileReadingOf t).Allows)
      (call.During codec (fileReadingOf t) d) (call.Ended codec (fileReadingOf t) _ d) d :=
    StoreCall.meets_program Prog.exec_of_restrict
      ((fileReadingOf t).answers_restrict (fun _ _ h => h) d) call
  have hallows {d' : Disk} (hrun : Prog.Begins fileExec (call.program codec).run d t d') :=
    StoreCall.allows_fileReadingOf hrun
  refine ⟨fun hrun => ?_, fun e hrun => ?_, fun answer hrun => ?_, fun hlossy =>
    call.leaves_of_not_lossy hlossy intents⟩
  · exact StoreCall.reads_of_during hbefore hback (hmeets.of_begins (hrun.restrict (hallows hrun)))
  · have hundone : Undone _ d d' := hmeets.of_runs (hrun.restrict (hallows hrun.begins))
    refine ⟨hbefore.of_same hundone.same, fun hunlink => ?_⟩
    -- the same run, with operations that do not fail to remove a file
    have hclean : (call.program codec).run.Meets
        (Prog.restrict fileExec fun op r => (fileReadingOf t).Allows op r ∧ UnlinkSucceeds op r)
        (call.During codec (fileReadingOf t) d) (call.Ended codec (fileReadingOf t) _ d) d :=
      StoreCall.meets_program Prog.exec_of_restrict
        ((fileReadingOf t).answers_restrict (fun _ _ h => h.1) d) call
    have hundone : Undone _ d d' := hclean.of_runs
      (hrun.restrict fun e he => ⟨hallows hrun.begins e he, hunlink e he⟩)
    rcases hundone.clean with ⟨_, _, _, _, hfails⟩ | hsame
    · exact absurd hfails.2.2 id
    · exact hsame
  · exact StoreCall.reads_of_ended hbefore hback
      (hmeets.of_runs (hrun.restrict (hallows hrun.begins)))

end Atomic

/-! ## A sample disk -/

/-- The JSON of a queue with one sample transfer. -/
def sampleText (intentId recipient : String) : String :=
  "[\n  \x7b\n    \"id\": \"" ++ intentId ++ "\",\n    \"mode\": 3,\n" ++
  "    \"status\": \"pending\",\n    \"created_at\": 0.0,\n    \"updated_at\": 0.0,\n" ++
  "    \"wallet_name\": \"alice\",\n    \"recipient\": \"" ++ recipient ++ "\",\n" ++
  "    \"amount\": 1,\n    \"token_mint\": null,\n    \"token_decimals\": 0,\n" ++
  "    \"attempts\": 0,\n    \"max_attempts\": 3,\n    \"last_error\": null,\n" ++
  "    \"result_tx_hash\": null\n  \x7d\n]"

/-- The file with this queue. -/
def sampleFile (intentId recipient : String) : Bytes :=
  utf8 (ofString (sampleText intentId recipient))

/-- The file with the empty queue. -/
def emptyFile : Bytes := utf8 (ofString "[]")

/-- JSON, on the queues of the samples. -/
def sampleCodec : Codec (Intent ℤ) where
  load content :=
    if content = sampleFile "a" "bob" then
      .ok (some [sampleTransfer "a" "bob"])
    else if content = sampleFile "b" "carol" then
      .ok (some [sampleTransfer "b" "carol"])
    else if content = emptyFile then .ok (some [])
    else .error ⟨"JSONDecodeError", ofString "Expecting value: line 1 column 1 (char 0)"⟩
  dump
    | [] => ([emptyFile], .ok ())
    | i :: _ => ([sampleFile i.id i.recipient], .ok ())

/-- A disk with one intent in the queue. -/
def sampleDisk : Disk := ⟨(∅ : Dict String Bytes).set queueFile
  (sampleFile "a" "bob"), ∅⟩

/-- The file of the sample disk. -/
lemma sampleDisk_file :
    sampleDisk.files.get? queueFile = some (sampleFile "a" "bob") :=
  Dict.get?_set_self _ _ _

/-- The sample files are different. -/
lemma sampleFile_ne {intentId recipient intentId' recipient' : String}
    (h : sampleText intentId recipient ≠ sampleText intentId' recipient') :
    sampleFile intentId recipient ≠ sampleFile intentId' recipient' :=
  fun heq => h (utf8_ofString_injective heq)

/-- What the file of the sample disk stands for. -/
lemma queueOf_sampleFile :
    sampleCodec.queueOf (sampleFile "a" "bob") = .ok [sampleTransfer "a" "bob"] := by
  have hload : sampleCodec.load (sampleFile "a" "bob") =
      .ok (some [sampleTransfer "a" "bob"]) := by
    dsimp only [sampleCodec]
    rw [if_pos rfl]
  rw [Codec.queueOf, hload]
  rfl

/-- The queue of the sample disk. -/
lemma reads_sampleDisk : sampleCodec.Reads sampleDisk [sampleTransfer "a" "bob"] := by
  rw [Codec.Reads, sampleDisk_file]
  exact queueOf_sampleFile

/-- The sample disk can be read. -/
lemma possible_sampleDisk (content : Except Exn Bytes)
    (h : ∀ bytes, content = .ok bytes → bytes = sampleFile "a" "bob") :
    (⟨.ok true, content⟩ : Reading).Possible sampleDisk := by
  refine fun _ => ⟨?_, fun bytes hbytes => ?_⟩
  · rw [Dict.contains_of_get?_eq_some sampleDisk_file]
  · rw [sampleDisk_file, h bytes hbytes]

/-- The empty queue is read back. -/
lemma readsBack_nil : sampleCodec.ReadsBack [] := by
  intro _
  have hflat : (sampleCodec.dump []).1.flatten = emptyFile := List.append_nil _
  have hne : ∀ intentId recipient, sampleText intentId recipient ≠ "[]" →
      emptyFile ≠ sampleFile intentId recipient :=
    fun _ _ h heq => h (utf8_ofString_injective heq).symm
  rw [hflat]
  dsimp only [sampleCodec]
  rw [if_neg (hne _ _ (by decide)), if_neg (hne _ _ (by decide)), if_pos rfl]

/-- The queue of the sample disk is cleared. -/
theorem storeCall_atomic_clear : ∃ t d', Prog.Runs fileExec
    ((StoreCall.clear none).program sampleCodec).run sampleDisk t (.ok (1 : ℕ)) d' ∧
      sampleCodec.Reads d' [] := by
  have hgiven : sampleCodec.given ⟨.ok true, .ok (sampleFile "a" "bob")⟩ =
      .ok [sampleTransfer "a" "bob"] := by
    rw [Codec.given]
    exact queueOf_sampleFile
  obtain ⟨t, d', hrun, _⟩ := StoreCall.exists_runs_program (.clear none)
    (possible_sampleDisk (.ok (sampleFile "a" "bob")) fun _ h => (Except.ok.inj h).symm) hgiven
    fun saved hsaved => by cases hsaved; rfl
  have hback : sampleCodec.ReadsBack
      (StoreCall.leaves (.clear none) (fileReadingOf t) [sampleTransfer "a" "bob"]) := readsBack_nil
  exact ⟨t, d', hrun, ((storeCall_atomic reads_sampleDisk hback).2.2.1 _ hrun).2.1⟩

end SolMesh
