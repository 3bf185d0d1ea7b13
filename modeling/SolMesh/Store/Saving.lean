import SolMesh.Store.QueueFile

set_option relaxedAutoImplicit false
set_option autoImplicit false

/-!
# What the operations of the store do to the disk

One pass through the steps of an operation, for each way in which its steps can end: what is on the
disk at all times, and what is on it when the operation returns or raises.

## Main definitions

* `SolMesh.Undone` — nothing is changed.
* `SolMesh.StoreCall.During`, `SolMesh.StoreCall.Ended` — the disk during a call, and at its end.

## Main results

* `SolMesh.meets_loadQueue` — what is loaded.
* `SolMesh.meets_saveQueue` — what saving does.
* `SolMesh.meets_runOp`, `SolMesh.StoreCall.meets_program` — what an operation of the store does.
-/

namespace SolMesh

open Py Text Conc

variable {R α : Type}

/-! ## Saving -/

variable {exec : (op : FileOp) → Disk → op.Ans → Disk → Prop} {codec : Codec R} {d u : Disk}
  {name : String}

/-- Removing a file fails. -/
def UnlinkFails (exec : (op : FileOp) → Disk → op.Ans → Disk → Prop) : Prop :=
  ∃ name d e d', exec (.unlink name) d (.error e) d'

/-- Saving raised: the queue file is as before, and so is every other file, unless the temporary
file could not be removed. -/
structure Undone (exec : (op : FileOp) → Disk → op.Ans → Disk → Prop) (d d' : Disk) : Prop where
  same : d'.files.get? queueFile = d.files.get? queueFile
  clean : UnlinkFails exec ∨ ∀ name, d'.files.get? name = d.files.get? name

/-- A temporary file is not the queue file. -/
lemma queueFile_ne {stem : String} : queueFile ≠ stem ++ ".tmp" := by
  intro h
  have hlast := congrArg (fun s : String => s.toList.getLast?) h
  simp [queueFile] at hlast

/-- As long as another file is written, the queue file is as before. -/
lemma oldOrNew_of_writing {records : List R} (h : Writing d name u) (hname : queueFile ≠ name) :
    codec.OldOrNew records d u :=
  Or.inl (h.others queueFile hname)

variable (hexec : ∀ op d r d', exec op d r d' → fileExec op d r d')
include hexec

/-- **Opening the directory** leaves the disk as it is. -/
lemma meets_openQueueDir {C : Disk → Prop} (hu : C u) :
    openQueueDir.run.Meets exec C
      (fun out d' => d' = u ∧ match out with
        | .ok _ => True
        | .error _ => Fails exec) u := by
  refine Prog.Meets.bindExcept (meets_idle hexec (idle_mkdir queueDir) hu) (fun _ d' hd' h => ?_)
    fun _ _ _ h => h
  obtain ⟨rfl, _⟩ := h
  refine (meets_idle hexec (idle_chmod queueDir 0o700) hd').mono (fun _ h => h) fun out _ _ h => ?_
  cases out with
  | ok _ => exact h
  | error e => exact h

/-- **The queue is written to the temporary file**, unless an operation fails or the queue cannot be
dumped. -/
lemma meets_dumpQueue (codec : Codec R) (records : List R) (hu : Writing d name u)
    (hnew : (u.written.get? name).getD [] = []) :
    (closing name (dumpQueue codec records name)).run.Meets exec (Writing d name)
      (fun out d' => match out with
        | .ok _ => ∃ content, d'.files.get? name = some content ∧
            content = (codec.dump records).1.flatten ∧ (codec.dump records).2 = .ok ()
        | .error e => Fails exec ∨ (codec.dump records).2 = .error e) u := by
  apply meets_closing hexec
  refine Prog.Meets.bindExcept (meets_writePieces hexec hu) (fun _ d' hd' hwritten => ?_)
    fun _ _ _ hfails => Or.inl hfails
  refine meets_pure hd' ?_
  cases hdump : (codec.dump records).2 with
  | ok _ => exact ⟨by rw [hwritten, hnew, List.nil_append], rfl⟩
  | error e => exact Or.inr rfl

/-- **The temporary file replaces the queue file**, unless something is raised before.

**Proof sketch.** Operation by operation. Until the file is replaced only the temporary one is
written (`Writing`), so the queue file is the old one, and the only failures are those of operations
and of dumping. Replacing makes the content of the temporary file, which is the dumped queue, that
of the queue file in one step, or fails and changes nothing. -/
lemma meets_replaceQueue (records : List R) (hu : Writing d name u)
    (hnew : (u.written.get? name).getD [] = []) (hfresh : d.files.get? name = none)
    (hname : queueFile ≠ name) :
    (replaceQueue codec records name).run.Meets exec (codec.OldOrNew records d)
      (fun out d' => match out with
        | .ok _ => codec.Saved records d d'
        | .error e => Writing d name d' ∧ (Fails exec ∨ (codec.dump records).2 = .error e)) u := by
  have hold : ∀ d', Writing d name d' → codec.OldOrNew records d d' := fun _ h =>
    oldOrNew_of_writing h hname
  have hopen := (meets_idle hexec (idle_fdopen name) hu).mono hold fun _ _ h hq => And.intro h hq
  refine Prog.Meets.bindExcept hopen (fun _ d' _ hd' => ?_)
    fun _ _ _ h => ⟨h.1, Or.inl h.2.2⟩
  obtain ⟨hwriting, rfl, _⟩ := hd'
  have hdump := (meets_dumpQueue hexec codec records hwriting hnew).mono hold
    fun _ _ h hq => And.intro h hq
  refine Prog.Meets.bindExcept hdump (fun _ d' _ hd' => ?_) fun _ _ _ h => h
  obtain ⟨hwriting', content, hcontent, rfl, hdumped⟩ := hd'
  have hchmod := (meets_idle hexec (idle_chmod name 0o600) hwriting').mono hold
    fun _ _ h hq => And.intro h hq
  refine Prog.Meets.bindExcept hchmod (fun _ d'' _ hd'' => ?_)
    fun _ _ _ h => ⟨h.1, Or.inl h.2.2⟩
  obtain ⟨_, rfl, _⟩ := hd''
  refine meets_step (hold _ hwriting') fun r d' hr => ?_
  cases r with
  | ok _ =>
    obtain ⟨content', hcontent', rfl⟩ := hexec _ _ _ _ hr
    obtain rfl := Option.some.inj (hcontent.symm.trans hcontent')
    have hqueue : ((d''.files.erase name).set queueFile (codec.dump records).1.flatten).get?
        queueFile = some (codec.dump records).1.flatten := Dict.get?_set_self _ _ _
    refine ⟨Or.inr ⟨hdumped, hqueue⟩, hdumped, hqueue, fun n hn => ?_⟩
    rw [Dict.get?_set_of_ne _ hn]
    by_cases h : n = name
    · rw [h, Dict.get?_erase_self, hfresh]
    · rw [Dict.get?_erase_of_ne _ h, hwriting'.others n h]
  | error e =>
    obtain rfl := hexec _ _ _ _ hr
    exact ⟨hold _ hwriting', hwriting', Or.inl ⟨_, _, _, _, hr, (), _, _, hcontent, rfl⟩⟩

/-- **The temporary file is removed**, unless that fails, and the exception is raised again.

**Proof sketch.** If removing the temporary file succeeds, the disk is as it was before. If it
fails, the file is left behind, an operation has failed, and the queue file is untouched. An
exception that is no `OSError` is raised in the place of the first one. -/
lemma meets_discardTemp (raised : Exn → Prop) {e : Exn} {C : Disk → Prop}
    (hC : ∀ d', d'.files.get? queueFile = d.files.get? queueFile → C d') (hu : Writing d name u)
    (hfresh : d.files.get? name = none) (hname : queueFile ≠ name)
    (he : Fails exec ∨ raised e) :
    (discardTemp name e).run.Meets exec C
      (fun out d' => match out with
        | .ok _ => False
        | .error e' => Undone exec d d' ∧ (Fails exec ∨ raised e')) u := by
  have hunlink : (step (.unlink name)).run.Meets exec C
      (fun out d' => Undone exec d d' ∧ match out with
        | .ok _ => True
        | .error _ => Fails exec) u := by
    refine meets_step (hC u (hu.others _ hname)) fun r d' hr => ?_
    cases r with
    | ok _ =>
      obtain ⟨_, rfl⟩ := hexec _ _ _ _ hr
      have hall : ∀ n, (u.files.erase name).get? n = d.files.get? n := by
        intro n
        by_cases h : n = name
        · rw [h, Dict.get?_erase_self, hfresh]
        · rw [Dict.get?_erase_of_ne _ h, hu.others n h]
      exact ⟨hC _ (hall _), ⟨hall _, Or.inr hall⟩, trivial⟩
    | error e' =>
      obtain rfl := hexec _ _ _ _ hr
      exact ⟨hC _ (hu.others _ hname), ⟨hu.others _ hname, Or.inl ⟨_, _, _, _, hr⟩⟩,
        _, _, _, _, hr, (), _, hu.present, rfl⟩
  have hcaught : (tryCatch (step (.unlink name)) fun e' =>
      if e'.IsOSError then return () else throw e' : FileProg Unit).run.Meets exec C
      (fun out d' => Undone exec d d' ∧ match out with
        | .ok _ => True
        | .error _ => Fails exec) u := by
    refine Prog.Meets.tryCatch hunlink (fun _ _ _ h => h) fun e' d' hd' h => ?_
    split_ifs
    · exact meets_pure hd' ⟨h.1, trivial⟩
    · exact meets_pure hd' h
  exact Prog.Meets.bindExcept hcaught (fun _ d' hd' h => meets_pure hd' ⟨h.1, he⟩)
    fun _ _ _ h => ⟨h.1, Or.inl h.2⟩

/-- **What saving does**, however its steps end: at all times the queue file is as before or holds
the new queue. If saving returns, the new queue is saved, and if it raises, nothing is changed.

**Proof sketch.** The three parts of saving in order. Without the directory or the temporary file
nothing was changed. Otherwise the queue is replaced (`meets_replaceQueue`), or the temporary file
is discarded and the exception raised again (`meets_discardTemp`). -/
lemma meets_saveQueue (records : List R) (d : Disk) :
    (saveQueue codec records).run.Meets exec (codec.OldOrNew records d)
      (fun out d' => match out with
        | .ok _ => codec.Saved records d d'
        | .error e => Undone exec d d' ∧ (Fails exec ∨ (codec.dump records).2 = .error e)) d := by
  have hnothing : Undone exec d d := ⟨rfl, Or.inr fun _ => rfl⟩
  have hsame : codec.OldOrNew records d d := Or.inl rfl
  refine Prog.Meets.bindExcept (meets_idle hexec (idle_mkdir queueDir) hsame)
    (fun _ d' _ hd' => ?_) fun _ d' _ h => ?_
  · obtain ⟨rfl, _⟩ := hd'
    have hmkstemp : (step (.mkstemp ".tmp")).run.Meets exec (codec.OldOrNew records d')
        (fun out u => match out with
          | .ok tmpPath => Writing d' tmpPath u ∧ (u.written.get? tmpPath).getD [] = [] ∧
              d'.files.get? tmpPath = none ∧ queueFile ≠ tmpPath
          | .error _ => u = d' ∧ Fails exec) d' := by
      refine meets_step (Or.inl rfl) fun r u hr => ?_
      cases r with
      | ok tmpPath =>
        obtain ⟨hfresh, ⟨stem, rfl⟩, rfl⟩ := hexec _ _ _ _ hr
        have hwriting : Writing d' (stem ++ ".tmp")
            ⟨d'.files.set (stem ++ ".tmp") [], d'.written.set (stem ++ ".tmp") []⟩ :=
          ⟨fun n hn => Dict.get?_set_of_ne _ hn _, by simp⟩
        have hnew : ((d'.written.set (stem ++ ".tmp") []).get? (stem ++ ".tmp")).getD [] = [] := by
          simp
        exact ⟨oldOrNew_of_writing hwriting queueFile_ne, hwriting, hnew, hfresh, queueFile_ne⟩
      | error e =>
        obtain rfl := hexec _ _ _ _ hr
        obtain ⟨stem, hstem⟩ := exists_fresh u.files ".tmp"
        exact ⟨Or.inl rfl, rfl, _, _, _, _, hr, _, _, hstem, ⟨stem, rfl⟩, rfl⟩
    refine Prog.Meets.bindExcept hmkstemp (fun tmpPath u _ hu => ?_) fun _ _ _ h => ?_
    · obtain ⟨hwriting, hnew, hfresh, hname⟩ := hu
      refine Prog.Meets.tryCatch (meets_replaceQueue hexec records hwriting hnew hfresh hname)
        (fun _ _ _ h => h) fun e u' _ h => ?_
      refine (meets_discardTemp hexec (fun e => (codec.dump records).2 = .error e) (fun _ => Or.inl)
        h.1 hfresh hname h.2).mono (fun _ h => h) fun out _ _ hout => ?_
      cases out with
      | ok _ => exact absurd hout id
      | error e => exact hout
    · obtain ⟨rfl, hfails⟩ := h
      exact ⟨hnothing, Or.inl hfails⟩
  · obtain ⟨rfl, hfails⟩ := h
    exact ⟨hnothing, Or.inl hfails⟩

/-! ## Loading and saving -/

variable {reading : Reading} (hreading : reading.Answers exec d)
include hreading

/-- **What is loaded.** Loading leaves the disk as it is.

**Proof sketch.** Loading looks for the file and reads it, which leaves the disk as it is; the
answers are those of the reading. What is parsed from them, and what of it is caught, is
`Codec.given` by definition. -/
lemma meets_loadQueue {C : Disk → Prop} (hd : C d) :
    (loadQueue codec).run.Meets exec C
      (fun out d' => d' = d ∧ out = codec.given reading ∧ reading.Possible d) d := by
  have hexists : (step (.pathExists queueFile)).run.Meets exec C
      (fun out d' => d' = d ∧ out = reading.present ∧
        (out = .ok true → d.files.contains queueFile = true)) d := by
    refine meets_step hd fun r d' hr => ?_
    obtain ⟨rfl, hfile⟩ := hexec _ _ _ _ hr
    exact ⟨hd, rfl, hreading.look _ _ hr, hfile⟩
  refine Prog.Meets.bindExcept hexists (fun present d' _ h => ?_) fun e d' _ h => ?_
  · obtain ⟨rfl, hpresent, hfile⟩ := h
    cases present with
    | false =>
      refine meets_pure hd ⟨rfl, ?_, ?_⟩
      · rw [Codec.given, ← hpresent]
      · intro htrue
        rw [← hpresent] at htrue
        cases htrue
    | true =>
      have hread : (step (.read queueFile)).run.Meets exec C
          (fun out u => u = d' ∧ out = reading.content ∧ reading.Possible d') d' := by
        refine meets_step hd fun r u hr => ?_
        obtain ⟨rfl, hcontent⟩ := hexec _ _ _ _ hr
        obtain rfl : r = reading.content := hreading.read _ _ hr
        exact ⟨hd, rfl, rfl, fun _ => ⟨hfile rfl, hcontent⟩⟩
      have hbody : (do
          let content : Bytes ← step (.read queueFile)
          let data ← ExceptT.mk (pure (codec.load content))
          return data.getD [] : FileProg (List R)).run.Meets exec C
          (fun out u => u = d' ∧ reading.Possible d' ∧ codec.given reading = match out with
            | .ok records => .ok records
            | .error e => if IsUnreadable e then .ok [] else .error e) d' := by
        refine Prog.Meets.bindExcept hread (fun content u _ h => ?_) fun e u _ h => ?_
        · obtain ⟨rfl, hcontent, hpossible⟩ := h
          have hgiven : codec.given reading = codec.queueOf content := by
            rw [Codec.given, ← hpresent, ← hcontent]
          rw [Codec.queueOf] at hgiven
          cases hload : codec.load content with
          | ok data => exact ⟨hd, rfl, hpossible, by rw [hgiven, hload]⟩
          | error e => exact ⟨hd, rfl, hpossible, by rw [hgiven, hload]⟩
        · obtain ⟨rfl, hcontent, hpossible⟩ := h
          exact ⟨rfl, hpossible, by rw [Codec.given, ← hpresent, ← hcontent]⟩
      refine Prog.Meets.tryCatch hbody (fun _ _ _ h => ⟨h.1, h.2.2.symm, h.2.1⟩) fun e u hu h => ?_
      obtain ⟨rfl, hpossible, hgiven⟩ := h
      change codec.given reading = if IsUnreadable e then .ok [] else .error e at hgiven
      split_ifs at hgiven ⊢
      · exact meets_pure hu ⟨rfl, hgiven.symm, hpossible⟩
      · exact meets_pure hu ⟨rfl, hgiven.symm, hpossible⟩
  · obtain ⟨rfl, hpresent, _⟩ := h
    refine ⟨rfl, by rw [Codec.given, ← hpresent], fun htrue => ?_⟩
    rw [← hpresent] at htrue
    cases htrue

/-- An operation of the store came to its end with this queue to save, if any. -/
def Codec.Ends (codec : Codec R) (d d' : Disk) : Option (List R) → Prop
  | some records => codec.Saved records d d'
  | none => ∀ name, d'.files.get? name = d.files.get? name

/-- **What an operation of the store does.** At all times the queue file is as before or holds the
queue that the operation makes of the one it loads. If the operation raises, then nothing is
changed, and loading raised, or the operation itself, or saving.

**Proof sketch.** Loading comes first (`meets_loadQueue`). If it raises, or the operation does,
nothing was touched. Otherwise the operation saves nothing, or its queue (`meets_saveQueue`). -/
lemma meets_runOp (op : List R → Except Exn (α × Option (List R))) :
    (runOp codec op).run.Meets exec
      (fun d' => d'.files.get? queueFile = d.files.get? queueFile ∨
        reading.Possible d ∧ ∃ records answer records', codec.given reading = .ok records ∧
          op records = .ok (answer, some records') ∧ codec.OldOrNew records' d d')
      (fun out d' => reading.Possible d ∧ match out with
        | .ok answer => ∃ records saved, codec.given reading = .ok records ∧
            op records = .ok (answer, saved) ∧ codec.Ends d d' saved
        | .error e => Undone exec d d' ∧ (codec.given reading = .error e ∨
            ∃ records, codec.given reading = .ok records ∧ (op records = .error e ∨
              ∃ answer records', op records = .ok (answer, some records') ∧
                (Fails exec ∨ (codec.dump records').2 = .error e)))) d := by
  have hnothing : Undone exec d d := ⟨rfl, Or.inr fun _ => rfl⟩
  refine Prog.Meets.bindExcept (meets_loadQueue hexec hreading (Or.inl rfl))
    (fun records d' hd' h => ?_) fun e d' _ h => ?_
  · obtain ⟨rfl, hgiven, hpossible⟩ := h
    have hloaded := hgiven.symm
    cases hop : op records with
    | error e => exact ⟨hd', hpossible, hnothing, Or.inr ⟨records, hloaded, Or.inl hop⟩⟩
    | ok result =>
      obtain ⟨answer, _ | records'⟩ := result
      · exact ⟨hd', hpossible, records, none, hloaded, hop, fun _ => rfl⟩
      · change Prog.Meets _ _ _ (saveQueue codec records' >>= fun _ => pure answer).run d'
        refine Prog.Meets.bindExcept ((meets_saveQueue hexec records' d').mono
          (fun u hu => Or.inr ⟨hpossible, records, answer, records', hloaded, hop, hu⟩)
          fun _ _ _ h => h) (fun _ u hu hsaved => ?_) fun e u _ h => ?_
        · exact meets_pure hu ⟨hpossible, records, some records', hloaded, hop, hsaved⟩
        · exact ⟨hpossible, h.1, Or.inr ⟨records, hloaded, Or.inr ⟨answer, records', hop, h.2⟩⟩⟩
  · obtain ⟨rfl, hgiven, hpossible⟩ := h
    exact ⟨hpossible, hnothing, Or.inl hgiven.symm⟩

/-- At all times during a call, the queue file is as before or holds the queue that the call
saves. -/
def StoreCall.During {F : Type} [BEq F] [Number F] (codec : Codec (Intent F)) (reading : Reading)
    (call : StoreCall F) (d d' : Disk) : Prop :=
  d'.files.get? queueFile = d.files.get? queueFile ∨
    reading.Possible d ∧ ∃ intents saved, codec.given reading = .ok intents ∧
      (call.perform intents).2 = some saved ∧ codec.OldOrNew saved d d'

/-- A call that returns has performed its operation on the queue that was loaded. A call that
raises has changed nothing. -/
def StoreCall.Ended {F : Type} [BEq F] [Number F] (codec : Codec (Intent F)) (reading : Reading)
    (exec : (op : FileOp) → Disk → op.Ans → Disk → Prop) (call : StoreCall F) (d : Disk) :
    Except Exn call.Ans → Disk → Prop
  | .ok answer, d' => reading.Possible d ∧ ∃ intents, codec.given reading = .ok intents ∧
      answer = (call.perform intents).1 ∧ codec.Ends d d' (call.perform intents).2
  | .error _, d' => Undone exec d d'

/-- **What a call of the store does**, at all times and at its end.

**Proof sketch.** All calls but one run an operation on the loaded queue (`meets_runOp`), whose
result is that of `perform`. Opening the store makes the directory first, which leaves the files as
they are. -/
lemma StoreCall.meets_program {F : Type} [BEq F] [Number F] {codec : Codec (Intent F)}
    (call : StoreCall F) :
    (call.program codec).run.Meets exec (call.During codec reading d)
      (call.Ended codec reading exec d) d := by
  have hrun : (runOp codec fun intents => .ok (call.perform intents)).run.Meets exec
      (call.During codec reading d) (call.Ended codec reading exec d) d := by
    refine (meets_runOp hexec hreading _).mono (fun d' h => ?_) fun out d' _ h => ?_
    · rcases h with hsame | ⟨hpossible, intents, answer, saved, hgiven, hop, hsaved⟩
      · exact Or.inl hsame
      · exact Or.inr ⟨hpossible, intents, saved, hgiven, by rw [Except.ok.inj hop], hsaved⟩
    · cases out with
      | ok answer =>
        obtain ⟨hpossible, intents, saved, hgiven, hop, hends⟩ := h
        refine ⟨hpossible, intents, hgiven, ?_⟩
        rw [Except.ok.inj hop]
        exact ⟨rfl, hends⟩
      | error e => exact h.2.1
  cases call with
  | recoverSending now =>
    have hsame : (StoreCall.recoverSending now).During codec reading d d := Or.inl rfl
    refine Prog.Meets.bindExcept (meets_openQueueDir hexec hsame) (fun _ d' _ h => ?_)
      fun _ d' _ h => ?_
    · obtain ⟨rfl, _⟩ := h
      exact hrun
    · obtain ⟨rfl, _⟩ := h
      exact ⟨rfl, Or.inr fun _ => rfl⟩
  | _ => exact hrun

omit hexec hreading

/-! ## Runs that return -/

/-- Loading has a run with each reading that is possible.

**Proof sketch.** The run asks what the reading answers. Without a file there is one operation, and
with one there are two; after them there are no more, whatever the content is parsed to. -/
lemma exists_runs_loadQueue (codec : Codec R) (hpossible : reading.Possible d) :
    ∃ t, Prog.Runs fileExec (loadQueue codec).run d t (codec.given reading) d ∧
      ∀ e ∈ t, reading.Allows e.1 e.2 := by
  obtain ⟨e | found, content⟩ := reading
  · refine ⟨_, .call (r := .error e) ⟨rfl, nofun⟩ (.ret _ d), ?_⟩
    exact List.forall_mem_singleton.mpr rfl
  cases found with
  | false =>
    refine ⟨_, .call (r := .ok false) ⟨rfl, nofun⟩ (.ret _ d), ?_⟩
    exact List.forall_mem_singleton.mpr rfl
  | true =>
    obtain ⟨hfile, hcontent⟩ := hpossible rfl
    refine ⟨[⟨.pathExists queueFile, .ok true⟩, ⟨.read queueFile, content⟩],
      .call ⟨rfl, fun _ => hfile⟩ (.call ⟨rfl, hcontent⟩ ?_), ?_⟩
    · -- after reading there are no more operations
      cases content with
      | error e =>
        change Prog.Runs fileExec (ExceptT.run (if IsUnreadable e then pure [] else throw e)) d []
          (if IsUnreadable e then .ok [] else .error e) d
        split_ifs <;> exact .ret _ d
      | ok bytes =>
        change Prog.Runs fileExec (tryCatch (do
          let data ← ExceptT.mk (pure (codec.load bytes))
          return data.getD [])
          fun e => if IsUnreadable e then return [] else throw e : FileProg (List R)).run d []
          (codec.queueOf bytes) d
        rw [Codec.queueOf]
        cases codec.load bytes with
        | ok data => exact .ret _ d
        | error e =>
          change Prog.Runs fileExec (ExceptT.run (if IsUnreadable e then pure [] else throw e)) d []
            (if IsUnreadable e then .ok [] else .error e) d
          split_ifs <;> exact .ret _ d
    · rw [List.forall_mem_cons]
      exact ⟨rfl, List.forall_mem_singleton.mpr rfl⟩

/-- Saving a queue that can be dumped has a run that returns.

**Proof sketch.** Where nothing fails that need not fail, saving has a run. It does not raise,
because dumping does not, and it asks nothing about the queue file (`performs_saveQueue`). -/
lemma exists_runs_saveQueue (reading : Reading) {records : List R}
    (hdumped : (codec.dump records).2 = .ok ()) (d : Disk) :
    ∃ t d', Prog.Runs fileExec (saveQueue codec records).run d t (.ok ()) d' ∧
      ∀ e ∈ t, reading.Allows e.1 e.2 := by
  obtain ⟨t, out, d', hrun⟩ := Prog.exists_runs exists_healthyExec (saveQueue codec records).run d
  have hend := (meets_saveQueue (fun _ _ _ _ h => h.1) records d).of_runs hrun
  cases out with
  | ok _ =>
    refine ⟨t, d', hrun.mono fun _ _ _ _ h => h.1, fun e he => ?_⟩
    have hquiet := hrun.performs (performs_saveQueue (fun _ h => h) codec records) e he
    obtain ⟨op, r⟩ := e
    cases op with
    | pathExists | read => exact absurd trivial hquiet
    | _ => trivial
  | error e =>
    rcases hend.2 with hfails | hraised
    · exact absurd hfails not_fails_healthyExec
    · rw [hdumped] at hraised
      cases hraised

/-- **A call has a run that returns**, if loading returns, and the queue that is saved can be
dumped.

**Proof sketch.** The run of loading (`exists_runs_loadQueue`) is followed by a run of saving, if
anything is saved (`exists_runs_saveQueue`), in which all operations succeed. -/
lemma StoreCall.exists_runs_program {F : Type} [BEq F] [Number F] {codec : Codec (Intent F)}
    (call : StoreCall F) (hpossible : reading.Possible d) {intents : List (Intent F)}
    (hgiven : codec.given reading = .ok intents)
    (hdumped : ∀ saved, (call.perform intents).2 = some saved → (codec.dump saved).2 = .ok ()) :
    ∃ t d', Prog.Runs fileExec (call.program codec).run d t (.ok (call.perform intents).1) d' ∧
      ∀ e ∈ t, reading.Allows e.1 e.2 := by
  obtain ⟨t, hload, hallows⟩ := exists_runs_loadQueue codec hpossible
  rw [hgiven] at hload
  have hrun : ∃ t d', Prog.Runs fileExec
      (runOp codec fun intents => .ok (call.perform intents)).run d t
      (.ok (call.perform intents).1) d' ∧ ∀ e ∈ t, reading.Allows e.1 e.2 := by
    obtain ⟨t', d', hresult, hallows'⟩ : ∃ t' d', Prog.Runs fileExec
        (saveResult codec (call.perform intents)).run d t' (.ok (call.perform intents).1) d' ∧
        ∀ e ∈ t', reading.Allows e.1 e.2 := by
      rcases hop : call.perform intents with ⟨answer, _ | saved⟩
      · exact ⟨[], d, .ret _ d, nofun⟩
      · obtain ⟨t', d', hsave, hallows'⟩ := exists_runs_saveQueue reading
          (hdumped saved (by rw [hop])) d
        refine ⟨t' ++ [], d', Prog.runs_bindExcept_iff.mpr (Or.inr ⟨t', (), d', [], rfl, hsave,
          .ret _ d'⟩), by simpa using hallows'⟩
    refine ⟨t ++ t', d', Prog.runs_bindExcept_iff.mpr (Or.inr ⟨t, intents, d, t', rfl, hload,
      hresult⟩), fun e he => ?_⟩
    exact (List.mem_append.mp he).elim (hallows e) (hallows' e)
  cases call with
  | recoverSending now =>
    obtain ⟨t, d', hrun, hallows⟩ := hrun
    refine ⟨_, d', .call (r := .ok ()) rfl (.call (r := .ok ()) rfl hrun), ?_⟩
    rw [List.forall_mem_cons, List.forall_mem_cons]
    exact ⟨trivial, trivial, hallows⟩
  | _ => exact hrun

end SolMesh
