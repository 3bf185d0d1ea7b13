import SolMesh.Store.JsonStore
import SolMesh.Store.Saving

set_option relaxedAutoImplicit false
set_option autoImplicit false

/-!
# Queue files with any content

A file that is not a JSON list is read as the empty queue, as long as it is UTF-8. The members of a
list can be anything, but what the store does with them raises for members that are not `dict`s, and
for pending members that cannot be sorted by the time of their creation.

## Main definitions

* `SolMesh.jsonCodec` — queue files with a JSON parser.
* `SolMesh.session` — opening the store, and then all of its reading operations.
* `SolMesh.Tolerated` — a session returns with this content.
* `SolMesh.Tolerable` — the contents for which it does.

## Main results

* `SolMesh.meets_session` — what a session gives.
* `SolMesh.tolerated_iff` — exactly these contents are tolerated.
* `SolMesh.not_tolerated_ff` — a content that is not UTF-8 is not tolerated.
-/

namespace SolMesh

open Py Text Conc JsonStore

variable {R α : Type}

/-! ## Sessions -/

/-- Queue files with a JSON parser, which also translates the ends of lines, and a JSON encoder. -/
def jsonCodec (parse : Text → Except Exn Json) (dump : List Json → List Bytes × Except Exn Unit) :
    Codec Json where
  load content := do
    match ← parse (← decodeUtf8 content) with
    | .list records => return some records
    | _ => return none
  dump := dump

/-- The constructor of the store. -/
def openStore (codec : Codec Json) (now : Json → ℚ) : FileProg Unit := do
  openQueueDir
  runOp codec (JsonStore.recoverSending now)

/-- An operation of the store that saves nothing. -/
def readOp (codec : Codec R) (op : List R → Except Exn α) : FileProg α :=
  runOp codec fun records => do return (← op records, none)

/-- What the reading operations answer. -/
structure Answers where
  listed : List Json
  found : Option Json
  pending : List Json

/-- Open the store, and then list the intents, get one and list the pending ones. -/
def session (codec : Codec Json) (now : Json → ℚ) (status : Option Text) (intentId : Text)
    (sort : List (Json × Json) → Except Exn (List (Json × Json))) : FileProg Answers := do
  openStore codec now
  let listed ← readOp codec (JsonStore.listIntents status)
  let found ← readOp codec (JsonStore.get intentId)
  let pending ← readOp codec (JsonStore.pendingIntents sort)
  return ⟨listed, found, pending⟩

/-- The content is a JSON list. -/
def IsJsonList (parse : Text → Except Exn Json) (content : Bytes) : Prop :=
  ∃ text records, decodeUtf8 content = .ok text ∧ parse text = .ok (.list records)

/-- **The content is tolerated**: where no file operation fails that need not fail, every session
returns. If the content is not a JSON list, then the queue is empty. -/
def Tolerated (parse : Text → Except Exn Json) (dump : List Json → List Bytes × Except Exn Unit)
    (content : Bytes) : Prop :=
  ∀ sort, IsListSort sort → ∀ now status intentId d, d.files.get? queueFile = some content →
    ∀ t out d', Prog.Runs healthyExec
      (session (jsonCodec parse dump) now status intentId sort).run d t out d' →
      ∃ answers, out = .ok answers ∧ (¬ IsJsonList parse content → answers = ⟨[], none, []⟩)

/-- The intent is pending, or it will be after recovery. -/
def isWaiting (r : Json) : Bool :=
  hasField "status" (ofString "pending") r || hasField "status" (ofString "sending") r

/-- **The contents that are tolerated**: UTF-8 that the parser refuses with a `JSONDecodeError` or
an `OSError`, JSON that is not a list, and lists of `dict`s. The times of creation of any two
waiting members must be comparable, and if a member was being sent, then it must be possible to dump
the list. -/
def Tolerable (parse : Text → Except Exn Json) (dump : List Json → List Bytes × Except Exn Unit)
    (content : Bytes) : Prop :=
  ∃ text, decodeUtf8 content = .ok text ∧ match parse text with
    | .error e => IsUnreadable e
    | .ok (.list records) => (∀ r ∈ records, r.isDict) ∧
        ((records.filter isWaiting).map createdAt).Pairwise Json.Comparable ∧
        (records.any (hasField "status" (ofString "sending")) →
          ∀ now, (dump (records.map (recovered now))).2 = .ok ())
    | .ok _ => True

/-! ## Operations where nothing fails -/

section Healthy

variable {codec : Codec R} {d : Disk} {records : List R}

/-- The queue file is there, and is read as this queue. -/
def Codec.Holds (codec : Codec R) (d : Disk) (records : List R) : Prop :=
  ∃ content, d.files.get? queueFile = some content ∧ codec.queueOf content = .ok records

/-- A file that is there is found and read.

**Proof sketch.** Looking for the file and reading it can both succeed truthfully, so they do, and
there is only one truthful answer to each. -/
lemma answers_healthyExec {content : Bytes} (hfile : d.files.get? queueFile = some content) :
    (⟨.ok true, .ok content⟩ : Reading).Answers healthyExec d := by
  have hcontains := Dict.contains_of_get?_eq_some hfile
  constructor
  · intro r d' ⟨hexec, htrue, hneed⟩
    cases r with
    | ok present =>
      have hpresent : present = d.files.contains queueFile := htrue
      exact congrArg Except.ok (hpresent.trans hcontains)
    | error e => exact absurd ⟨rfl, fun _ => hcontains⟩ (hneed e rfl true d)
  · intro r d' ⟨hexec, _, hneed⟩
    cases r with
    | ok content' =>
      have hcontent : d.files.get? queueFile = some content' := hexec.2 content' rfl
      exact congrArg Except.ok (Option.some.inj (hcontent.symm.trans hfile))
    | error e =>
      refine absurd ⟨rfl, fun content' h => ?_⟩ (hneed e rfl content d)
      exact hfile.trans (congrArg some (Except.ok.inj h))

/-- **An operation of the store where nothing fails** is performed on the queue that the file is
read as. It raises only if it raises itself, or if the queue that it makes cannot be dumped.

**Proof sketch.** The general rule for an operation of the store (`meets_runOp`), for the one
reading that the file allows; nothing fails, so what is raised comes from the operation or from
dumping. -/
lemma meets_runOp_healthy (hd : codec.Holds d records)
    (op : List R → Except Exn (α × Option (List R))) :
    (runOp codec op).run.Meets healthyExec (fun _ => True)
      (fun out d' => match out with
        | .ok answer => ∃ saved, op records = .ok (answer, saved) ∧ codec.Ends d d' saved
        | .error e => op records = .error e ∨ ∃ answer saved,
            op records = .ok (answer, some saved) ∧ (codec.dump saved).2 = .error e) d := by
  obtain ⟨content, hfile, hqueue⟩ := hd
  refine (meets_runOp (fun _ _ _ _ h => h.1) (answers_healthyExec hfile) op).mono
    (fun _ _ => trivial) fun out d' _ h => ?_
  have hgiven : codec.given ⟨.ok true, .ok content⟩ = .ok records := hqueue
  rw [hgiven] at h
  cases out with
  | ok answer =>
    obtain ⟨_, _, saved, hrecords, hop, hends⟩ := h
    cases hrecords
    exact ⟨saved, hop, hends⟩
  | error e =>
    obtain ⟨_, _, hraised | ⟨_, hrecords, hop | ⟨answer, saved, hop, hfails | hdump⟩⟩⟩ := h
    · cases hraised
    · cases hrecords
      exact Or.inl hop
    · exact absurd hfails not_fails_healthyExec
    · cases hrecords
      exact Or.inr ⟨answer, saved, hop, hdump⟩

/-- An operation that saves nothing answers what it answers on this queue, and leaves it.

**Proof sketch.** The operation is one that saves nothing, so `meets_runOp_healthy` gives its answer
and leaves the files; if it raises, the operation on the queue did. -/
lemma meets_readOp_healthy (hd : codec.Holds d records) (op : List R → Except Exn α) :
    (readOp codec op).run.Meets healthyExec (fun _ => True)
      (fun out d' => out = op records ∧ ∀ answer, out = .ok answer → codec.Holds d' records)
      d := by
  refine (meets_runOp_healthy hd _).mono (fun _ _ => trivial) fun out d' _ h => ?_
  cases out with
  | ok answer =>
    obtain ⟨saved, hop, hends⟩ := h
    obtain ⟨answer', hanswer, heq⟩ := bind_eq_ok.mp hop
    cases heq
    obtain ⟨content, hfile, hqueue⟩ := hd
    exact ⟨hanswer.symm, fun _ _ => ⟨content, (hends queueFile).trans hfile, hqueue⟩⟩
  | error e =>
    rcases h with hop | ⟨answer, saved, hop, _⟩
    · cases hanswer : op records with
      | ok answer =>
        rw [hanswer] at hop
        cases hop
      | error e' =>
        rw [hanswer] at hop
        cases hop
        exact ⟨rfl, nofun⟩
    · obtain ⟨_, _, heq⟩ := bind_eq_ok.mp hop
      cases heq

/-- Opening the directory does not fail. -/
lemma meets_openQueueDir_healthy (d : Disk) :
    openQueueDir.run.Meets healthyExec (fun _ => True) (fun out d' => out = .ok () ∧ d' = d) d := by
  refine (meets_openQueueDir (fun _ _ _ _ h => h.1) trivial).mono (fun _ h => h)
    fun out d' _ h => ?_
  cases out with
  | ok _ => exact ⟨rfl, h.1⟩
  | error e => exact absurd h.2 not_fails_healthyExec

end Healthy

/-! ## What a session gives -/

section Session

variable {codec : Codec Json} {d : Disk} {records : List Json} {now : Json → ℚ}
  {status : Option Text} {intentId : Text}
  {sort : List (Json × Json) → Except Exn (List (Json × Json))}

/-- The store can be opened with this queue: all of its members are `dict`s, and the queue after
recovery can be dumped if there is something to recover. -/
structure CanOpen (codec : Codec Json) (now : Json → ℚ) (records : List Json) : Prop where
  isDict : ∀ r ∈ records, r.isDict
  dumped : records.any (hasField "status" (ofString "sending")) →
    (codec.dump (records.map (recovered now))).2 = .ok ()

/-- **Opening the store**: the queue is the one after recovery then.

**Proof sketch.** Opening makes the directory, which succeeds, and recovers. Recovery needs every
record to be a dictionary, and saves only if one is being sent; then the recovered queue has to be
dumped, and is read back as it is (`hback`). Otherwise the recovered queue is the stored one. -/
lemma meets_openStore (hd : codec.Holds d records)
    (hback : records.any (hasField "status" (ofString "sending")) →
      codec.ReadsBack (records.map (recovered now))) :
    (openStore codec now).run.Meets healthyExec (fun _ => True)
      (fun out d' => match out with
        | .ok _ => CanOpen codec now records ∧ codec.Holds d' (records.map (recovered now))
        | .error _ => ¬ CanOpen codec now records) d := by
  refine Prog.Meets.bindExcept (meets_openQueueDir_healthy d) (fun _ d' _ h => ?_)
    fun _ _ _ ⟨h, _⟩ => by cases h
  obtain ⟨_, rfl⟩ := h
  refine (meets_runOp_healthy hd _).mono (fun _ h => h) fun out u _ h => ?_
  cases out with
  | ok _ =>
    obtain ⟨saved, hop, hends⟩ := h
    have hdict := isDict_of_recoverSending hop
    rw [recoverSending_of_isDict hdict] at hop
    split_ifs at hop with hsending
    · cases hop
      refine ⟨⟨hdict, fun _ => hends.dumped⟩, _, hends.content, ?_⟩
      rw [Codec.queueOf, hback hsending hends.dumped]
      rfl
    · cases hop
      obtain ⟨content, hfile, hqueue⟩ := hd
      rw [map_recovered now hsending]
      exact ⟨⟨hdict, fun h => absurd h hsending⟩, content, (hends queueFile).trans hfile, hqueue⟩
  | error e =>
    intro hopen
    rw [recoverSending_of_isDict hopen.isDict] at h
    rcases h with hop | ⟨answer, saved, hop, hdump⟩
    · cases hop
    · split_ifs at hop with hsending
      · cases hop
        rw [hopen.dumped hsending] at hdump
        cases hdump
      · cases hop

/-- **A session** returns exactly if the store can be opened and the pending intents can be sorted.
Listing and looking for an intent do not raise then.

**Proof sketch.** The four parts of the session in order. After the store was opened
(`meets_openStore`), every record is a dictionary, so listing and looking for an intent do not
raise; only sorting may. -/
lemma meets_session (hd : codec.Holds d records)
    (hback : records.any (hasField "status" (ofString "sending")) →
      codec.ReadsBack (records.map (recovered now))) :
    (session codec now status intentId sort).run.Meets healthyExec (fun _ => True)
      (fun out _ => match out with
        | .ok answers => CanOpen codec now records ∧
            JsonStore.listIntents status (records.map (recovered now)) = .ok answers.listed ∧
            JsonStore.get intentId (records.map (recovered now)) = .ok answers.found ∧
            JsonStore.pendingIntents sort (records.map (recovered now)) = .ok answers.pending
        | .error _ => CanOpen codec now records →
            ∃ e, JsonStore.pendingIntents sort (records.map (recovered now)) = .error e) d := by
  refine Prog.Meets.bindExcept (meets_openStore hd hback) (fun _ d₁ _ h => ?_)
    fun _ _ _ hopen hcan => absurd hcan hopen
  obtain ⟨hopen, hd₁⟩ := h
  have hdict : ∀ r ∈ records.map (recovered now), r.isDict := by
    intro r hr
    obtain ⟨r', hr', rfl⟩ := List.mem_map.mp hr
    rw [isDict_recovered]
    exact hopen.isDict r' hr'
  refine Prog.Meets.bindExcept (meets_readOp_healthy hd₁ _) (fun listed d₂ _ h => ?_)
    fun e _ _ h => ?_
  · obtain ⟨hlisted, hd₂⟩ := h
    refine Prog.Meets.bindExcept (meets_readOp_healthy (hd₂ _ rfl) _) (fun found d₃ _ h => ?_)
      fun e _ _ h => ?_
    · obtain ⟨hfound, hd₃⟩ := h
      refine Prog.Meets.bindExcept (meets_readOp_healthy (hd₃ _ rfl) _) (fun pending d₄ hd₄ h => ?_)
        fun e _ _ h _ => ⟨e, h.1.symm⟩
      exact ⟨hd₄, hopen, hlisted.symm, hfound.symm, h.1.symm⟩
    · rw [get_of_isDict hdict] at h
      cases h.1
  · rw [listIntents_of_isDict hdict] at h
    cases h.1

variable (now) in
/-- The keys of the pending intents after recovery are the times of creation of the waiting ones. -/
lemma keys_pending (hdict : ∀ r ∈ records, r.isDict) :
    (((records.map (recovered now)).filter (hasField "status" (ofString "pending"))).map
      fun r => (createdAt r, r)).map Prod.fst = (records.filter isWaiting).map createdAt := by
  have hfilter : (records.map (recovered now)).filter (hasField "status" (ofString "pending")) =
      (records.filter isWaiting).map (recovered now) := by
    rw [List.filter_map]
    refine congrArg _ (List.filter_congr fun r hr => ?_)
    exact pending_recovered now (hdict r hr)
  rw [hfilter, List.map_map, List.map_map]
  exact List.map_congr_left fun r _ => createdAt_recovered now r

variable (now) in
/-- **Sorting the pending intents** after recovery sorts the waiting ones by their times of
creation. -/
lemma pendingIntents_recovered (hdict : ∀ r ∈ records, r.isDict)
    (sort : List (Json × Json) → Except Exn (List (Json × Json))) :
    ∃ items, items.map Prod.fst = (records.filter isWaiting).map createdAt ∧
      JsonStore.pendingIntents sort (records.map (recovered now)) = (do
        let sorted ← sort items
        return sorted.map Prod.snd) := by
  refine ⟨_, keys_pending now hdict, pendingIntents_of_isDict (fun r hr => ?_) sort⟩
  obtain ⟨r', hr', rfl⟩ := List.mem_map.mp hr
  rw [isDict_recovered]
  exact hdict r' hr'

end Session

/-! ## Exactly the contents that are tolerated -/

section Tolerated

variable {parse : Text → Except Exn Json} {dump : List Json → List Bytes × Except Exn Unit}
  {content : Bytes}

/-- A content that is not UTF-8 cannot be read. -/
lemma queueOf_of_decode {e : Exn} (h : decodeUtf8 content = .error e) :
    (jsonCodec parse dump).queueOf content = .error e := by
  have hload : (jsonCodec parse dump).load content = .error e := by
    dsimp only [jsonCodec]
    rw [h, error_bind]
  have hcaught : ¬ IsUnreadable e := by
    obtain ⟨_, _, rfl⟩ := decodeUtf8_eq_error h
    simp [IsUnreadable, Exn.IsOSError]
  rw [Codec.queueOf, hload]
  exact if_neg hcaught

/-- A text that is refused. -/
lemma queueOf_of_parse {text : Text} {e : Exn} (h : decodeUtf8 content = .ok text)
    (hparse : parse text = .error e) : (jsonCodec parse dump).queueOf content =
      if IsUnreadable e then .ok [] else .error e := by
  have hload : (jsonCodec parse dump).load content = .error e := by
    dsimp only [jsonCodec]
    rw [h, ok_bind, hparse, error_bind]
  rw [Codec.queueOf, hload]

/-- JSON that is a list. -/
lemma queueOf_of_list {text : Text} {records : List Json} (h : decodeUtf8 content = .ok text)
    (hparse : parse text = .ok (.list records)) :
    (jsonCodec parse dump).queueOf content = .ok records := by
  have hload : (jsonCodec parse dump).load content = .ok (some records) := by
    dsimp only [jsonCodec]
    rw [h, ok_bind, hparse, ok_bind]
    rfl
  rw [Codec.queueOf, hload]
  rfl

/-- JSON that is not a list. -/
lemma queueOf_of_not_list {text : Text} {v : Json} (h : decodeUtf8 content = .ok text)
    (hparse : parse text = .ok v) (hv : ∀ records, v ≠ .list records) :
    (jsonCodec parse dump).queueOf content = .ok [] := by
  have hload : (jsonCodec parse dump).load content = .ok none := by
    dsimp only [jsonCodec]
    rw [h, ok_bind, hparse, ok_bind]
    cases v with
    | list records => exact absurd rfl (hv records)
    | _ => rfl
  rw [Codec.queueOf, hload]
  rfl

/-- Exactly these contents are read as a queue that the store can work with.

**Proof sketch.** A content that is not UTF-8, or not parsed, is a queue only if the exception is
caught, and then an empty one. A parsed value that is no list is taken for an empty queue too, and a
list for its records. -/
lemma tolerable_iff : Tolerable parse dump content ↔
    ∃ records, (jsonCodec parse dump).queueOf content = .ok records ∧
      (∀ now, CanOpen (jsonCodec parse dump) now records) ∧
      ((records.filter isWaiting).map createdAt).Pairwise Json.Comparable := by
  have hnil : ∀ now, CanOpen (jsonCodec parse dump) now [] := fun now => ⟨nofun, nofun⟩
  cases hdecode : decodeUtf8 content with
  | error e =>
    refine ⟨fun ⟨text, htext, _⟩ => ?_, fun ⟨records, hqueue, _⟩ => ?_⟩
    · rw [hdecode] at htext
      cases htext
    · rw [queueOf_of_decode hdecode] at hqueue
      cases hqueue
  | ok text =>
    have htolerable : Tolerable parse dump content ↔ match parse text with
        | .error e => IsUnreadable e
        | .ok (.list records) => (∀ r ∈ records, r.isDict) ∧
            ((records.filter isWaiting).map createdAt).Pairwise Json.Comparable ∧
            (records.any (hasField "status" (ofString "sending")) →
              ∀ now, (dump (records.map (recovered now))).2 = .ok ())
        | .ok _ => True := by
      refine ⟨fun ⟨text', htext, h⟩ => ?_, fun h => ⟨text, hdecode, h⟩⟩
      rw [hdecode] at htext
      cases htext
      exact h
    rw [htolerable]
    cases hparse : parse text with
    | error e =>
      rw [queueOf_of_parse hdecode hparse]
      by_cases he : IsUnreadable e
      · rw [if_pos he]
        exact ⟨fun _ => ⟨[], rfl, hnil, List.Pairwise.nil⟩, fun _ => he⟩
      · rw [if_neg he]
        exact ⟨fun h => absurd h he, fun ⟨_, h, _⟩ => by cases h⟩
    | ok v =>
      by_cases hlist : ∃ records, v = .list records
      · obtain ⟨records, rfl⟩ := hlist
        rw [queueOf_of_list hdecode hparse]
        constructor
        · rintro ⟨hdict, hcomparable, hdumped⟩
          exact ⟨records, rfl, fun now => ⟨hdict, fun h => hdumped h now⟩, hcomparable⟩
        · rintro ⟨_, heq, hopen, hcomparable⟩
          cases heq
          exact ⟨(hopen fun _ => 0).isDict, hcomparable, fun h now => (hopen now).dumped h⟩
      · rw [queueOf_of_not_list hdecode hparse fun records h => hlist ⟨records, h⟩]
        cases v with
        | list records => exact absurd ⟨records, rfl⟩ hlist
        | _ => exact ⟨fun _ => ⟨[], rfl, hnil, List.Pairwise.nil⟩, fun _ => trivial⟩

/-- A content that is not a list is not read as a queue with members.

**Proof sketch.** Along the ways in which a content is no list of JSON values: each is read as no
queue or as an empty one. -/
lemma eq_nil_of_not_list {records : List Json} (hlist : ¬ IsJsonList parse content)
    (h : (jsonCodec parse dump).queueOf content = .ok records) : records = [] := by
  cases hdecode : decodeUtf8 content with
  | error e =>
    rw [queueOf_of_decode hdecode] at h
    cases h
  | ok text =>
    cases hparse : parse text with
    | error e =>
      rw [queueOf_of_parse hdecode hparse] at h
      split_ifs at h
      exact (Except.ok.inj h).symm
    | ok v =>
      have hv : ∀ records, v ≠ .list records := by
        rintro records rfl
        exact hlist ⟨text, records, hdecode, hparse⟩
      rw [queueOf_of_not_list hdecode hparse hv] at h
      exact (Except.ok.inj h).symm

/-- On the empty queue, the reading operations answer nothing. -/
lemma answers_nil {sort : List (Json × Json) → Except Exn (List (Json × Json))}
    (hsort : IsListSort sort) {status : Option Text} {intentId : Text} {answers : Answers}
    (hlisted : JsonStore.listIntents status [] = .ok answers.listed)
    (hfound : JsonStore.get intentId [] = .ok answers.found)
    (hpending : JsonStore.pendingIntents sort [] = .ok answers.pending) :
    answers = ⟨[], none, []⟩ := by
  obtain ⟨listed, found, pending⟩ := answers
  rw [pendingIntents_of_isDict (by simp)] at hpending
  obtain ⟨sorted, hsorted, heq⟩ := bind_eq_ok.mp hpending
  obtain rfl := (hsort.perm [] sorted hsorted).eq_nil
  cases heq
  cases hfound
  cases status <;> cases hlisted <;> rfl

/-- A content that cannot be read is not tolerated.

**Proof sketch.** A store with this file alone cannot be opened, because recovery loads the queue
and the exception is not caught. The session has a run, and every run ends with an exception. -/
lemma not_tolerated_of_error {e : Exn} (h : (jsonCodec parse dump).queueOf content = .error e) :
    ¬ Tolerated parse dump content := by
  intro htolerated
  obtain ⟨sort, hsort, _⟩ := exists_isListSort Json
  let d : Disk := ⟨(∅ : Dict String Bytes).set queueFile content, ∅⟩
  have hfile : d.files.get? queueFile = some content := Dict.get?_set_self _ _ _
  have hopen : (openStore (jsonCodec parse dump) fun _ => 0).run.Meets healthyExec (fun _ => True)
      (fun out _ => ∃ e, out = .error e) d := by
    refine Prog.Meets.bindExcept (meets_openQueueDir_healthy d) (fun _ d' _ hd' => ?_)
      fun e _ _ _ => ⟨e, rfl⟩
    obtain ⟨_, rfl⟩ := hd'
    refine (meets_runOp (fun _ _ _ _ h => h.1) (answers_healthyExec hfile) _).mono
      (fun _ _ => trivial) fun out _ _ hout => ?_
    cases out with
    | ok _ =>
      obtain ⟨_, records, _, hgiven, _⟩ := hout
      have hqueue : (jsonCodec parse dump).queueOf content = .ok records := hgiven
      rw [h] at hqueue
      cases hqueue
    | error e => exact ⟨e, rfl⟩
  have hsession : (session (jsonCodec parse dump) (fun _ => 0) none [] sort).run.Meets healthyExec
      (fun _ => True) (fun out _ => ∃ e, out = .error e) d :=
    Prog.Meets.bindExcept hopen (fun _ _ _ ⟨_, h⟩ => by cases h) fun e _ _ _ => ⟨e, rfl⟩
  obtain ⟨t, out, d', hrun⟩ := Prog.exists_runs exists_healthyExec
    (session (jsonCodec parse dump) (fun _ => 0) none [] sort).run d
  obtain ⟨answers, hanswers, _⟩ := htolerated sort hsort _ _ _ d hfile t out d' hrun
  obtain ⟨e', herror⟩ := hsession.of_runs hrun
  rw [hanswers] at herror
  cases herror

/-- **Exactly which contents are tolerated.** The parser and the encoder are arbitrary, as long as
the encoder's list after recovery is read back. Sorting is only known to raise if two keys cannot be
compared.

**Proof sketch.** Opening the store asks every member for its status, so that all of them are
`dict`s when it returns; listing and looking for an intent do not raise then. The keys of the
pending intents are the times of creation of the waiting ones. -/
theorem tolerated_iff (hback : ∀ records, (jsonCodec parse dump).queueOf content = .ok records →
    records.any (hasField "status" (ofString "sending")) →
      ∀ now, (jsonCodec parse dump).ReadsBack (records.map (recovered now))) :
    Tolerated parse dump content ↔ Tolerable parse dump content := by
  rw [tolerable_iff]
  constructor
  · intro htolerated
    cases hqueue : (jsonCodec parse dump).queueOf content with
    | error e => exact absurd htolerated (not_tolerated_of_error hqueue)
    | ok records =>
      obtain ⟨sort, hsort, hstrict⟩ := exists_isListSort Json
      let d : Disk := ⟨(∅ : Dict String Bytes).set queueFile content, ∅⟩
      have hfile : d.files.get? queueFile = some content := Dict.get?_set_self _ _ _
      have hsession : ∀ now, ∃ answers : Answers, CanOpen (jsonCodec parse dump) now records ∧
          JsonStore.pendingIntents sort (records.map (recovered now)) = .ok answers.pending := by
        intro now
        obtain ⟨t, out, d', hrun⟩ := Prog.exists_runs exists_healthyExec
          (session (jsonCodec parse dump) now none [] sort).run d
        obtain ⟨answers, rfl, _⟩ := htolerated sort hsort now none [] d hfile t out d' hrun
        have hout := (meets_session ⟨content, hfile, hqueue⟩ fun h => hback records hqueue h
          now).of_runs hrun
        exact ⟨answers, hout.1, hout.2.2.2⟩
      refine ⟨records, rfl, fun now => (hsession now).choose_spec.1, ?_⟩
      obtain ⟨answers, hopen, hpending⟩ := hsession fun _ => 0
      obtain ⟨items, hkeys, heq⟩ := pendingIntents_recovered (fun _ => 0) hopen.isDict sort
      rw [heq] at hpending
      obtain ⟨sorted, hsorted, _⟩ := bind_eq_ok.mp hpending
      rw [← hkeys, List.pairwise_map]
      exact hstrict items sorted hsorted
  · intro ⟨records, hqueue, hopen, hcomparable⟩ sort hsort now status intentId d hfile t out d'
      hrun
    have hout := (meets_session ⟨content, hfile, hqueue⟩ fun h => hback records hqueue h
      now).of_runs hrun
    obtain ⟨items, hkeys, heq⟩ := pendingIntents_recovered now (hopen now).isDict sort
    rw [← hkeys, List.pairwise_map] at hcomparable
    obtain ⟨sorted, hsorted⟩ := hsort.returns items hcomparable
    cases out with
    | ok answers =>
      refine ⟨answers, rfl, fun hlist => ?_⟩
      obtain rfl := eq_nil_of_not_list hlist hqueue
      exact answers_nil hsort hout.2.1 hout.2.2.1 hout.2.2.2
    | error e =>
      obtain ⟨e', herror⟩ := hout (hopen now)
      rw [heq, hsorted] at herror
      cases herror

/-- A member without most of its fields. -/
def sampleRecord : Json :=
  .dict [(ofString "id", .str (ofString "a")), (ofString "status", .str (ofString "pending"))]

/-- The text of a queue with this member. -/
def sampleQueueText : String :=
  "[\n  \x7b\n    \"id\": \"a\",\n    \"status\": \"pending\"\n  \x7d\n]"

/-- A JSON parser, on this text. -/
def sampleParse (text : Text) : Except Exn Json :=
  if text = ofString sampleQueueText then .ok (.list [sampleRecord])
  else .error ⟨"JSONDecodeError", ofString "Expecting value: line 1 column 1 (char 0)"⟩

/-- A JSON encoder, on this queue. -/
def sampleDump (_ : List Json) : List Bytes × Except Exn Unit :=
  ([utf8 (ofString sampleQueueText)], .ok ())

/-- Missing fields are tolerated. -/
theorem tolerated_sampleRecord :
    Tolerated sampleParse sampleDump (utf8 (ofString sampleQueueText)) := by
  have hdecode : decodeUtf8 (utf8 (ofString sampleQueueText)) = .ok (ofString sampleQueueText) :=
    decodeUtf8_utf8 (encodable_ofString _)
  have hparse : sampleParse (ofString sampleQueueText) = .ok (.list [sampleRecord]) := if_pos rfl
  have hsending : ¬ [sampleRecord].any (hasField "status" (ofString "sending")) := by decide
  refine (tolerated_iff fun records hqueue h => ?_).mpr ⟨_, hdecode, ?_⟩
  · rw [queueOf_of_list hdecode hparse] at hqueue
    cases hqueue
    exact absurd h hsending
  · rw [hparse]
    refine ⟨fun r hr => ?_, List.pairwise_singleton _ _, fun h => absurd h hsending⟩
    rw [List.mem_singleton.mp hr]
    rfl

/-- **A content that is not UTF-8 is not tolerated**, whatever the JSON parser does. -/
theorem not_tolerated_ff : ¬ ∃ parse dump, Tolerated parse dump [0xFF] := by
  intro ⟨parse, dump, htolerated⟩
  have hdecode : ∃ e, decodeUtf8 [0xFF] = .error e := ⟨_, rfl⟩
  obtain ⟨e, he⟩ := hdecode
  exact not_tolerated_of_error (queueOf_of_decode he) htolerated

end Tolerated

end SolMesh
