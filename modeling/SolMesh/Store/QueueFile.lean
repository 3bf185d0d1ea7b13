import SolMesh.Foundations.Files
import SolMesh.Store.Processes

set_option relaxedAutoImplicit false
set_option autoImplicit false

/-!
# The queue file

The queue is kept as JSON in one file. An operation of the store reads the file, and what it cannot
read it takes for an empty queue. It saves a new queue to a temporary file first, which then
replaces the old file.

## Main definitions

* `SolMesh.Codec` — how a queue is written to a file and read from it; `SolMesh.Codec.Reads` is the
  queue on a disk.
* `SolMesh.loadQueue`, `SolMesh.saveQueue` — `_load` and `_save`.
* `SolMesh.runOp` — an operation of the store; `SolMesh.StoreCall.program` is each of them.
* `SolMesh.Reading` — what looking for the file and reading it answer.

## Main results

* `SolMesh.StoreCall.allows_fileReadingOf` — every run of an operation has a reading.
-/

namespace SolMesh

open Py Text Conc

variable {R α : Type}

/-! ## Reading -/

/-- How queues are stored: `load` is what decoding and parsing the content of a file gives, with
`none` for a value that is not a list. `dump` gives the pieces of JSON that are written, and how
dumping ends. -/
structure Codec (R : Type) where
  load : Bytes → Except Exn (Option (List R))
  dump : List R → List Bytes × Except Exn Unit

/-- The name of the queue file. Names are relative to its directory. -/
def queueFile : String := "queue.json"

/-- The directory of the queue file. -/
def queueDir : String := "."

/-- The exceptions that `_load` catches. -/
def IsUnreadable (e : Exn) : Prop := e.cls = "JSONDecodeError" ∨ e.IsOSError

instance (e : Exn) : Decidable (IsUnreadable e) := inferInstanceAs (Decidable (_ ∨ _))

/-- Load the queue. It is empty if the file is missing, or if it cannot be read. -/
def loadQueue (codec : Codec R) : FileProg (List R) := do
  let present : Bool ← step (.pathExists queueFile)
  if !present then
    return []
  tryCatch (do
    let content : Bytes ← step (.read queueFile)
    let data ← ExceptT.mk (pure (codec.load content))
    return data.getD [])
    fun e => if IsUnreadable e then return [] else throw e

/-! ## Writing -/

/-- `json.dump` to the temporary file. -/
def dumpQueue (codec : Codec R) (records : List R) (tmpPath : String) : FileProg Unit := do
  writePieces tmpPath (codec.dump records).1
  ExceptT.mk (pure (codec.dump records).2)

/-- Write the queue to the temporary file, which then replaces the queue file. -/
def replaceQueue (codec : Codec R) (records : List R) (tmpPath : String) : FileProg Unit := do
  step (.fdopen tmpPath)
  closing tmpPath (dumpQueue codec records tmpPath)
  step (.chmod tmpPath 0o600)
  step (.replace tmpPath queueFile)

/-- Remove the temporary file, and raise the exception again. -/
def discardTemp (tmpPath : String) (e : Exn) : FileProg Unit := do
  tryCatch (step (.unlink tmpPath)) fun e' => if e'.IsOSError then return () else throw e'
  throw e

/-- Save the queue. -/
def saveQueue (codec : Codec R) (records : List R) : FileProg Unit := do
  step (.mkdir queueDir)
  let tmpPath : String ← step (.mkstemp ".tmp")
  tryCatch (replaceQueue codec records tmpPath) (discardTemp tmpPath)

/-! ## Operations -/

/-- Save the queue that an operation made, if it made one. -/
def saveResult (codec : Codec R) : α × Option (List R) → FileProg α
  | (answer, some records) => do
    saveQueue codec records
    return answer
  | (answer, none) => return answer

/-- An operation of the store: load the queue, and save the one that the operation makes of it. -/
def runOp (codec : Codec R) (op : List R → Except Exn (α × Option (List R))) : FileProg α := do
  let records ← loadQueue codec
  let result ← ExceptT.mk (pure (op records))
  saveResult codec result

/-- The constructor of the store, up to crash recovery. -/
def openQueueDir : FileProg Unit := do
  step (.mkdir queueDir)
  step (.chmod queueDir 0o700)

/-- **The operations that can change the queue**, with their file operations. Crash recovery is the
last part of the constructor. -/
def StoreCall.program {F : Type} [BEq F] [Number F] (codec : Codec (Intent F))
    (call : StoreCall F) : FileProg call.Ans := do
  if let .recoverSending _ := call then
    openQueueDir
  runOp codec fun intents => .ok (call.perform intents)

/-! ## What is on the disk -/

/-- What looking for the queue file and reading it answer. -/
structure Reading where
  present : Except Exn Bool
  content : Except Exn Bytes

/-- The answers of an operation agree with this reading. -/
def Reading.Allows (reading : Reading) : (op : FileOp) → op.Ans → Prop
  | .pathExists _, r => r = reading.present
  | .read _, r => r = reading.content
  | _, _ => True

/-- On this disk, looking for the file and reading it can answer so. -/
def Reading.Possible (reading : Reading) (d : Disk) : Prop :=
  reading.present = .ok true → d.files.contains queueFile = true ∧
    ∀ content, reading.content = .ok content → d.files.get? queueFile = some content

/-- On this disk, looking for the file and reading it answer so. -/
structure Reading.Answers (reading : Reading) (exec : (op : FileOp) → Disk → op.Ans → Disk → Prop)
    (d : Disk) : Prop where
  look : ∀ r d', exec (.pathExists queueFile) d r d' → r = reading.present
  read : ∀ r d', exec (.read queueFile) d r d' → r = reading.content

/-- The answers that a reading allows are its own. -/
lemma Reading.answers_restrict (reading : Reading)
    {exec : (op : FileOp) → Disk → op.Ans → Disk → Prop}
    {allowed : (op : FileOp) → op.Ans → Prop} (h : ∀ op r, allowed op r → reading.Allows op r)
    (d : Disk) : reading.Answers (Prog.restrict exec allowed) d where
  look _ _ hr := h _ _ hr.2
  read _ _ hr := h _ _ hr.2

/-- The operation looks for a file or reads one. -/
def Looks : FileOp → Prop
  | .pathExists _ | .read _ => True
  | _ => False

/-- The answer of looking for a file. -/
def presentIn : ((op : FileOp) × op.Ans) → Option (Except Exn Bool)
  | ⟨.pathExists _, r⟩ => some r
  | _ => none

/-- The answer of reading a file. -/
def contentIn : ((op : FileOp) × op.Ans) → Option (Except Exn Bytes)
  | ⟨.read _, r⟩ => some r
  | _ => none

/-- The reading in a run: the answers when the process looks for the file and reads it, if it comes
to that. -/
def fileReadingOf (t : List ((op : FileOp) × op.Ans)) : Reading where
  present := (t.findSome? presentIn).getD (.ok true)
  content := (t.findSome? contentIn).getD (.ok [])

/-! ### One reading for each run -/

section Reading

variable {P : FileOp → Prop}

/-- Saving only performs operations that do not look for the file or read it.

**Proof sketch.** Along the code: each of its operations makes, writes, closes, replaces or removes
a file, and none looks for the queue file or reads it. -/
lemma performs_saveQueue (hP : ∀ op, ¬ Looks op → P op) (codec : Codec R) (records : List R) :
    (saveQueue codec records).run.Performs P := by
  have hstep : ∀ op, ¬ Looks op → (step op).run.Performs P := fun op h =>
    ⟨hP op h, fun _ => trivial⟩
  have hpieces : ∀ name pieces, (writePieces name pieces).run.Performs P := by
    intro name pieces
    induction pieces with
    | nil => trivial
    | cons piece rest ih => exact Prog.Performs.bindExcept (hstep _ id) fun _ => ih
  have hdump : ∀ name, (dumpQueue codec records name).run.Performs P := fun name =>
    Prog.Performs.bindExcept (hpieces name _) fun _ => trivial
  refine Prog.Performs.bindExcept (hstep _ id) fun _ => ?_
  refine Prog.Performs.bindExcept (hstep _ id) fun tmpPath => ?_
  refine Prog.Performs.tryCatch ?_ fun e => ?_
  · refine Prog.Performs.bindExcept (hstep _ id) fun _ => ?_
    refine Prog.Performs.bindExcept ?_ fun _ => ?_
    · refine Prog.Performs.bindExcept (Prog.Performs.tryCatch (hdump tmpPath) fun e => ?_) fun _ =>
        hstep _ id
      exact Prog.Performs.bindExcept (hstep _ id) fun _ => trivial
    · exact Prog.Performs.bindExcept (hstep _ id) fun _ => hstep _ id
  · refine Prog.Performs.bindExcept (Prog.Performs.tryCatch (hstep _ id) fun e' => ?_)
      fun _ => trivial
    split_ifs <;> trivial

/-- The same holds for what an operation of the store does after loading. -/
lemma performs_saveResult (hP : ∀ op, ¬ Looks op → P op) (codec : Codec R)
    (result : α × Option (List R)) : (saveResult codec result).run.Performs P := by
  obtain ⟨answer, _ | records⟩ := result
  · trivial
  · exact Prog.Performs.bindExcept (performs_saveQueue hP codec records) fun _ => trivial

/-- Reading the file performs one operation. -/
lemma performs_readQueue (codec : Codec R) (hread : P (.read queueFile)) :
    (tryCatch (do
      let content : Bytes ← step (.read queueFile)
      let data ← ExceptT.mk (pure (codec.load content))
      return data.getD [])
      fun e => if IsUnreadable e then return [] else throw e :
        FileProg (List R)).run.Performs P := by
  have hstep : (step (.read queueFile)).run.Performs P := ⟨hread, fun _ => trivial⟩
  refine Prog.Performs.tryCatch (Prog.Performs.bindExcept hstep fun content => ?_) fun e => ?_
  · exact Prog.Performs.bindExcept trivial fun _ => trivial
  · split_ifs <;> trivial

variable (codec : Codec R) (op : List R → Except Exn (α × Option (List R)))

/-- The file is looked for once. -/
lemma once_pathExists :
    (runOp codec op).run.PerformsOnce fun op => ∃ name, op = .pathExists name := by
  have hlook : (step (.pathExists queueFile)).run.PerformsOnce
      fun op => ∃ name, op = .pathExists name := Or.inl ⟨⟨_, rfl⟩, fun _ => trivial⟩
  have hload : (loadQueue codec).run.PerformsOnce fun op => ∃ name, op = .pathExists name := by
    refine hlook.bindExcept fun present => ?_
    cases present with
    | false => trivial
    | true => exact performs_readQueue codec (by rintro ⟨_, h⟩; cases h)
  refine hload.bindExcept fun records => Prog.Performs.bindExcept trivial fun result => ?_
  refine performs_saveResult (fun op hop => ?_) codec result
  rintro ⟨name, rfl⟩
  exact hop trivial

/-- The file is read once. -/
lemma once_read : (runOp codec op).run.PerformsOnce fun op => ∃ name, op = .read name := by
  have hload : (loadQueue codec).run.PerformsOnce fun op => ∃ name, op = .read name := by
    refine Prog.Performs.bindExcept_once ⟨(by rintro ⟨_, h⟩; cases h), fun _ => trivial⟩
      fun present => ?_
    cases present with
    | false => trivial
    | true =>
      refine Prog.PerformsOnce.tryCatch (Prog.PerformsOnce.bindExcept
        (Or.inl ⟨⟨_, rfl⟩, fun _ => trivial⟩) fun content => ?_) fun e => ?_
      · exact Prog.Performs.bindExcept trivial fun _ => trivial
      · split_ifs <;> trivial
  refine hload.bindExcept fun records => Prog.Performs.bindExcept trivial fun result => ?_
  refine performs_saveResult (fun op hop => ?_) codec result
  rintro ⟨name, rfl⟩
  exact hop trivial

omit op in
/-- A call looks for the file once, and reads it once. -/
lemma StoreCall.once_program {F : Type} [BEq F] [Number F] (codec : Codec (Intent F))
    (call : StoreCall F) {P : FileOp → Prop} (hP : ∀ op, P op → Looks op)
    (h : (runOp codec fun intents => .ok (call.perform intents)).run.PerformsOnce P) :
    (call.program codec).run.PerformsOnce P := by
  have hopen : openQueueDir.run.Performs fun op => ¬ P op :=
    Prog.Performs.bindExcept ⟨fun h => hP _ h, fun _ => trivial⟩ fun _ =>
      ⟨fun h => hP _ h, fun _ => trivial⟩
  cases call with
  | recoverSending now => exact Prog.Performs.bindExcept_once hopen fun _ => h
  | _ => exact h

/-- **Every run of a call has a reading.**

**Proof sketch.** A call looks for the file at most once, and reads it at most once, so the answers
of the run are the first ones of their kind in it. -/
lemma StoreCall.allows_fileReadingOf {F : Type} [BEq F] [Number F] {codec : Codec (Intent F)}
    {call : StoreCall F} {exec : (op : FileOp) → Disk → op.Ans → Disk → Prop} {d d' : Disk}
    {t : List ((op : FileOp) × op.Ans)} (h : Prog.Begins exec (call.program codec).run d t d') :
    ∀ e ∈ t, (fileReadingOf t).Allows e.1 e.2 := by
  have hlook := h.eq_of_once (call.once_program codec (fun op ⟨_, h⟩ => h ▸ trivial)
    (once_pathExists codec _))
  have hread := h.eq_of_once (call.once_program codec (fun op ⟨_, h⟩ => h ▸ trivial)
    (once_read codec _))
  rintro ⟨op, r⟩ he
  cases op with
  | pathExists name =>
    refine Eq.symm (Prog.findSome?_getD_of_once (f := presentIn) he (fun e' he' r' hr' => ?_) rfl _)
    obtain ⟨op', r''⟩ := e'
    cases op' with
    | pathExists name' => exact hlook _ he' _ he ⟨name', rfl⟩ ⟨name, rfl⟩
    | _ => cases hr'
  | read name =>
    refine Eq.symm (Prog.findSome?_getD_of_once (f := contentIn) he (fun e' he' r' hr' => ?_) rfl _)
    obtain ⟨op', r''⟩ := e'
    cases op' with
    | read name' => exact hread _ he' _ he ⟨name', rfl⟩ ⟨name, rfl⟩
    | _ => cases hr'
  | _ => trivial

end Reading

namespace Codec

/-- The queue that the content of a file stands for. -/
def queueOf (codec : Codec R) (content : Bytes) : Except Exn (List R) :=
  match codec.load content with
  | .ok data => .ok (data.getD [])
  | .error e => if IsUnreadable e then .ok [] else .error e

/-- The queue that is loaded. -/
def given (codec : Codec R) (reading : Reading) : Except Exn (List R) :=
  match reading.present with
  | .ok true =>
    match reading.content with
    | .ok content => codec.queueOf content
    | .error e => if IsUnreadable e then .ok [] else .error e
  | .ok false => .ok []
  | .error e => .error e

/-- **The queue on a disk**: the file is read as this queue. -/
def Reads (codec : Codec R) (d : Disk) (records : List R) : Prop :=
  match d.files.get? queueFile with
  | some content => codec.queueOf content = .ok records
  | none => records = []

/-- JSON reads back the queue that it has dumped. -/
def ReadsBack (codec : Codec R) (records : List R) : Prop :=
  (codec.dump records).2 = .ok () → codec.load (codec.dump records).1.flatten = .ok (some records)

/-- This queue was saved: the queue file holds what dumping it gives, and every other file is as
before. -/
structure Saved (codec : Codec R) (records : List R) (d d' : Disk) : Prop where
  dumped : (codec.dump records).2 = .ok ()
  content : d'.files.get? queueFile = some (codec.dump records).1.flatten
  others : ∀ name, name ≠ queueFile → d'.files.get? name = d.files.get? name

variable {codec : Codec R} {d d' : Disk} {records records' : List R}

/-- There is one queue on a disk. -/
lemma Reads.unique (h : codec.Reads d records) (h' : codec.Reads d records') :
    records = records' := by
  unfold Reads at h h'
  cases hfile : d.files.get? queueFile with
  | none =>
    rw [hfile] at h h'
    exact h.trans h'.symm
  | some content =>
    rw [hfile] at h h'
    exact Except.ok.inj (h.symm.trans h')

/-- The queue is as before if the file is. -/
lemma Reads.of_same (h : codec.Reads d records)
    (hsame : d'.files.get? queueFile = d.files.get? queueFile) : codec.Reads d' records := by
  unfold Reads at h ⊢
  rw [hsame]
  exact h

/-- What was dumped is read. -/
lemma reads_of_content (hback : codec.ReadsBack records) (hdumped : (codec.dump records).2 = .ok ())
    (hcontent : d'.files.get? queueFile = some (codec.dump records).1.flatten) :
    codec.Reads d' records := by
  unfold Reads
  rw [hcontent]
  change codec.queueOf _ = _
  rw [queueOf, hback hdumped]
  rfl

/-- The queue file is as before, or it holds the new queue. -/
def OldOrNew (codec : Codec R) (records : List R) (d d' : Disk) : Prop :=
  d'.files.get? queueFile = d.files.get? queueFile ∨
    (codec.dump records).2 = .ok () ∧
      d'.files.get? queueFile = some (codec.dump records).1.flatten

end Codec

end SolMesh
