import SolMesh.Foundations.Crashes
import SolMesh.Foundations.Dict
import SolMesh.Foundations.Python
import Mathlib.Data.Set.Finite.Basic

set_option relaxedAutoImplicit false
set_option autoImplicit false

/-!
# Files

The file operations of the standard library, on the files of a directory. Every operation can
raise. What is written to an open file is buffered: until the file is closed without an error, any
content can be found in it.

## Main definitions

* `Py.FileOp` — the operations.
* `Py.Disk` — the files, and what was written to those that are open.
* `Py.fileExec` — what the operations do; `Py.healthyExec` — the same, as long as nothing fails
  that need not fail.
* `Py.FileProg` — programs over these operations that can raise.

## Main results

* `Py.exists_healthyExec` — every operation has an answer.
* `Py.meets_idle` — operations that leave the disk as it is.
* `Py.meets_writePieces`, `Py.meets_closing` — writing to an open file, and closing it.
-/

namespace Py

open Conc

/-- What an `except OSError` clause catches: the class and its subclasses in the standard
library. -/
def Exn.IsOSError (e : Exn) : Prop :=
  e.cls ∈ ["OSError", "BlockingIOError", "ChildProcessError", "ConnectionError",
    "BrokenPipeError", "ConnectionAbortedError", "ConnectionRefusedError", "ConnectionResetError",
    "FileExistsError", "FileNotFoundError", "InterruptedError", "IsADirectoryError",
    "NotADirectoryError", "PermissionError", "ProcessLookupError", "TimeoutError",
    "UnsupportedOperation"]

instance (e : Exn) : Decidable e.IsOSError := inferInstanceAs (Decidable (_ ∈ _))

/-! ## Operations -/

/-- The file operations: `path.exists()`, opening and reading a whole file, `path.mkdir` of a
directory that may exist, `os.chmod`, `tempfile.mkstemp`, `os.fdopen`, writing to and closing an
open file, `os.replace` and `os.unlink`. -/
inductive FileOp
  | pathExists (name : String)
  | read (name : String)
  | mkdir (name : String)
  | chmod (name : String) (mode : ℕ)
  | mkstemp (suffix : String)
  | fdopen (name : String)
  | write (name : String) (piece : Bytes)
  | close (name : String)
  | replace (src dst : String)
  | unlink (name : String)

/-- What the operations return. -/
def FileOp.Out : FileOp → Type
  | pathExists _ => Bool
  | read _ => Bytes
  | mkstemp _ => String
  | mkdir _ | chmod .. | fdopen _ | write .. | close _ | replace .. | unlink _ => Unit

/-- The answers of the operations. Each of them can raise. -/
abbrev FileOp.Ans (op : FileOp) : Type := Except Exn op.Out

/-- The files of a directory with their contents, and what was written to the open ones so far. -/
structure Disk where
  files : Dict String Bytes
  written : Dict String Bytes

/-- **What the file operations do.** A file that is being written can have any content, until it is
closed without an error. A replacement is atomic, and does nothing if it raises. A file can be
reported missing because the call that looks for it failed. -/
def fileExec : (op : FileOp) → Disk → op.Ans → Disk → Prop
  | .pathExists name, d, r, d' => d' = d ∧ (r = .ok true → d.files.contains name = true)
  | .read name, d, r, d' => d' = d ∧ ∀ content, r = .ok content → d.files.get? name = some content
  | .mkdir _, d, _, d' => d' = d
  | .chmod _ _, d, _, d' => d' = d
  | .mkstemp suffix, d, .ok name, d' =>
    d.files.get? name = none ∧ (∃ stem, name = stem ++ suffix) ∧
      d' = ⟨d.files.set name [], d.written.set name []⟩
  | .mkstemp _, d, .error _, d' => d' = d
  | .fdopen _, d, _, d' => d' = d
  | .write name piece, d, .ok _, d' =>
    ∃ content, d' = ⟨d.files.set name content,
      d.written.set name ((d.written.get? name).getD [] ++ piece)⟩
  | .write name _, d, .error _, d' => ∃ content, d' = { d with files := d.files.set name content }
  | .close name, d, .ok _, d' =>
    d' = ⟨d.files.set name ((d.written.get? name).getD []), d.written.erase name⟩
  | .close name, d, .error _, d' =>
    ∃ content, d' = ⟨d.files.set name content, d.written.erase name⟩
  | .replace src dst, d, .ok _, d' =>
    ∃ content, d.files.get? src = some content ∧
      d' = { d with files := (d.files.erase src).set dst content }
  | .replace _ _, d, .error _, d' => d' = d
  | .unlink name, d, .ok _, d' =>
    d.files.get? name ≠ none ∧ d' = { d with files := d.files.erase name }
  | .unlink _, d, .error _, d' => d' = d

/-- A file is reported missing only if it is. -/
def Truthful : (op : FileOp) → Disk → op.Ans → Prop
  | .pathExists name, d, .ok present => present = d.files.contains name
  | _, _, _ => True

/-- **The file operations where nothing fails that need not fail**: an operation raises only if it
cannot return. -/
def healthyExec (op : FileOp) (d : Disk) (r : op.Ans) (d' : Disk) : Prop :=
  fileExec op d r d' ∧ Truthful op d r ∧
    ∀ e, r = .error e → ∀ out d'', ¬ fileExec op d (.ok out) d''

/-- There is always a name for a new file. -/
lemma exists_fresh (files : Dict String Bytes) (suffix : String) :
    ∃ stem, files.get? (stem ++ suffix) = none := by
  let name : ℕ → String := fun n => String.ofList (List.replicate n 'x') ++ suffix
  have hinj : Function.Injective name := by
    intro m n h
    have hlen := congrArg String.length h
    simp only [name, String.length_append, String.length_ofList, List.length_replicate] at hlen
    omega
  obtain ⟨_, ⟨n, rfl⟩, hn⟩ := (Set.infinite_range_of_injective hinj).exists_notMem_finset
    files.keys.toFinset
  rw [List.mem_toFinset] at hn
  exact ⟨_, Dict.get?_eq_none_iff.mpr hn⟩

/-- **Every operation has an answer** where nothing fails that need not fail.

**Proof sketch.** Either the operation can succeed truthfully, and then it does; or it cannot, and
then it may raise. Looking for a file can always succeed. -/
lemma exists_healthyExec (op : FileOp) (d : Disk) : ∃ r d', healthyExec op d r d' := by
  by_cases hout : ∃ out d', fileExec op d (.ok out) d' ∧ Truthful op d (.ok out)
  · obtain ⟨out, d', hexec, htrue⟩ := hout
    exact ⟨.ok out, d', hexec, htrue, nofun⟩
  · -- then it can only raise
    have hno : ∀ out d', ¬ fileExec op d (.ok out) d' := by
      intro out d' hexec
      cases op with
      | pathExists name =>
        exact hout ⟨d.files.contains name, d, ⟨rfl, fun h => Except.ok.inj h⟩, rfl⟩
      | _ => exact hout ⟨out, d', hexec, trivial⟩
    have herror : ∃ d', fileExec op d (.error ⟨"OSError", []⟩) d' := by
      cases op with
      | pathExists name | read name => exact ⟨d, rfl, nofun⟩
      | write name piece => exact ⟨_, [], rfl⟩
      | close name => exact ⟨_, [], rfl⟩
      | _ => exact ⟨d, rfl⟩
    obtain ⟨d', hexec⟩ := herror
    refine ⟨_, d', hexec, ?_, fun _ _ => hno⟩
    cases op <;> trivial

/-! ## Programs -/

/-- Programs over the file operations that can raise. -/
abbrev FileProg := ExceptT Exn (Prog FileOp FileOp.Ans)

/-- One operation. -/
def step (op : FileOp) : FileProg op.Out := ExceptT.mk (Prog.perform op)

/-- Write the pieces to an open file. -/
def writePieces (name : String) : List Bytes → FileProg Unit
  | [] => return ()
  | piece :: rest => do
    step (.write name piece)
    writePieces name rest

/-- Close the file after the body, also if the body raises. -/
def closing (name : String) (body : FileProg Unit) : FileProg Unit := do
  tryCatch body fun e => do
    step (.close name)
    throw e
  step (.close name)

/-! ## Rules -/

section Rules

variable {exec : (op : FileOp) → Disk → op.Ans → Disk → Prop} {C : Disk → Prop} {d u : Disk}
  {name : String}

/-- Some operation fails that need not fail. -/
def Fails (exec : (op : FileOp) → Disk → op.Ans → Disk → Prop) : Prop :=
  ∃ op d e d', exec op d (.error e) d' ∧ ∃ out d'', fileExec op d (.ok out) d''

/-- Where nothing fails that need not fail, nothing does. -/
lemma not_fails_healthyExec : ¬ Fails healthyExec := by
  rintro ⟨op, d, e, d', h, out, d'', hout⟩
  exact h.2.2 e rfl out d'' hout

/-- **A file is being written**: it is there, and every other file is as before. -/
structure Writing (d : Disk) (name : String) (d' : Disk) : Prop where
  others : ∀ n, n ≠ name → d'.files.get? n = d.files.get? n
  present : d'.files.get? name ≠ none

/-- Any content can be found in a file that is being written. -/
lemma Writing.set (h : Writing d name u) (content : Bytes) (written : Dict String Bytes) :
    Writing d name ⟨u.files.set name content, written⟩ where
  others n hn := by rw [Dict.get?_set_of_ne u.files hn, h.others n hn]
  present := by rw [Dict.get?_set_self]; exact Option.some_ne_none content

/-- The operation leaves the disk as it is, and can always return. -/
structure FileOp.Idle (op : FileOp) : Prop where
  same : ∀ d r d', fileExec op d r d' → d' = d
  returns : ∀ d, ∃ out d', fileExec op d (.ok out) d'

lemma idle_mkdir (name : String) : (FileOp.mkdir name).Idle :=
  ⟨fun _ _ _ h => h, fun d => ⟨(), d, rfl⟩⟩

lemma idle_chmod (name : String) (mode : ℕ) : (FileOp.chmod name mode).Idle :=
  ⟨fun _ _ _ h => h, fun d => ⟨(), d, rfl⟩⟩

lemma idle_fdopen (name : String) : (FileOp.fdopen name).Idle :=
  ⟨fun _ _ _ h => h, fun d => ⟨(), d, rfl⟩⟩

/-- One operation. -/
lemma meets_step {op : FileOp} {Q : Except Exn op.Out → Disk → Prop} (hd : C d)
    (h : ∀ r d', exec op d r d' → C d' ∧ Q r d') : (step op).run.Meets exec C Q d :=
  Prog.meets_perform hd h

/-- What a computation without operations gives. -/
lemma meets_pure {α : Type} {Q : Except Exn α → Disk → Prop} {answer : Except Exn α} (hd : C d)
    (h : Q answer d) : (ExceptT.mk (pure answer) : FileProg α).run.Meets exec C Q d :=
  ⟨hd, h⟩

variable (hexec : ∀ op d r d', exec op d r d' → fileExec op d r d')
include hexec

/-- An operation that leaves the disk as it is. -/
lemma meets_idle {op : FileOp} (hop : op.Idle) (hu : C u) :
    (step op).run.Meets exec C
      (fun out d' => d' = u ∧ match out with
        | .ok _ => True
        | .error _ => Fails exec) u := by
  refine meets_step hu fun r d' hr => ?_
  obtain rfl := hop.same _ _ _ (hexec _ _ _ _ hr)
  refine ⟨hu, rfl, ?_⟩
  cases r with
  | ok _ => trivial
  | error e => exact ⟨_, _, _, _, hr, hop.returns d'⟩

/-- A piece that is written to an open file is added to its content. -/
lemma meets_write (piece : Bytes) (hu : Writing d name u) :
    (step (.write name piece)).run.Meets exec (Writing d name)
      (fun out d' => match out with
        | .ok _ => (d'.written.get? name).getD [] = (u.written.get? name).getD [] ++ piece
        | .error _ => Fails exec) u := by
  refine meets_step hu fun r d' hr => ?_
  cases r with
  | ok _ =>
    obtain ⟨content, rfl⟩ := hexec _ _ _ _ hr
    exact ⟨hu.set content _, by simp⟩
  | error e =>
    obtain ⟨content, rfl⟩ := hexec _ _ _ _ hr
    exact ⟨hu.set content _, _, _, _, _, hr, (), _, [], rfl⟩

/-- **Writing to an open file** touches no other file. All pieces are written, unless an operation
fails. -/
lemma meets_writePieces {pieces : List Bytes} (hu : Writing d name u) :
    (writePieces name pieces).run.Meets exec (Writing d name)
      (fun out d' => match out with
        | .ok _ => (d'.written.get? name).getD [] =
            (u.written.get? name).getD [] ++ pieces.flatten
        | .error _ => Fails exec) u := by
  induction pieces generalizing u with
  | nil => exact meets_pure hu (by simp)
  | cons piece rest ih =>
    refine Prog.Meets.bindExcept (meets_write hexec piece hu) (fun _ d' hd' hwritten => ?_)
      fun _ _ _ hfails => hfails
    refine (ih hd').mono (fun _ h => h) fun out _ _ hout => ?_
    cases out with
    | ok _ =>
      refine Eq.trans hout ?_
      rw [hwritten, List.flatten_cons, List.append_assoc]
    | error e => exact hout

/-- **Closing a file that was written**: it has what was written to it, unless an operation fails
or the body raises.

**Proof sketch.** Closing the file makes what was written its content, or fails (`hclose`). If the
body raises, the file is closed and the exception raised again, unless closing raises another one,
which is a failure of an operation as well. -/
lemma meets_closing {body : FileProg Unit} {done : Bytes → Prop} {raised : Exn → Prop}
    (h : body.run.Meets exec (Writing d name)
      (fun out d' => match out with
        | .ok _ => done ((d'.written.get? name).getD [])
        | .error e => Fails exec ∨ raised e) u) :
    (closing name body).run.Meets exec (Writing d name)
      (fun out d' => match out with
        | .ok _ => ∃ content, d'.files.get? name = some content ∧ done content
        | .error e => Fails exec ∨ raised e) u := by
  have hclose : ∀ d', Writing d name d' → (step (.close name)).run.Meets exec (Writing d name)
      (fun out d'' => match out with
        | .ok _ => d''.files.get? name = some ((d'.written.get? name).getD [])
        | .error _ => Fails exec) d' := by
    intro d' hd'
    refine meets_step hd' fun r d'' hr => ?_
    cases r with
    | ok _ =>
      obtain rfl := hexec _ _ _ _ hr
      exact ⟨hd'.set _ _, by simp⟩
    | error e =>
      obtain ⟨content, rfl⟩ := hexec _ _ _ _ hr
      exact ⟨hd'.set content _, _, _, _, _, hr, (), _, rfl⟩
  have hbody : (tryCatch body fun e => do
      step (.close name)
      throw e : FileProg Unit).run.Meets exec (Writing d name)
      (fun out d' => match out with
        | .ok _ => done ((d'.written.get? name).getD [])
        | .error e => Fails exec ∨ raised e) u := by
    refine Prog.Meets.tryCatch h (fun _ _ _ hout => hout) fun e d' hd' hout => ?_
    -- the exception is raised again, unless closing raises another one
    exact Prog.Meets.bindExcept (hclose d' hd') (fun _ d'' hd'' _ => meets_pure hd'' hout)
      fun _ _ _ hfails => Or.inl hfails
  refine Prog.Meets.bindExcept hbody (fun _ d' hd' hdone => ?_) fun _ _ _ hout => hout
  refine (hclose d' hd').mono (fun _ h => h) fun out _ _ hout => ?_
  cases out with
  | ok _ => exact ⟨_, hout, hdone⟩
  | error e => exact Or.inl hout

end Rules

end Py
