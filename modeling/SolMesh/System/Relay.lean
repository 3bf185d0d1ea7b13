import SolMesh.System.RelayNet

set_option relaxedAutoImplicit false
set_option autoImplicit false

/-!
# When a reported failure is final

Three writers share the one result of a relayed transaction: the handler of `NACK` messages, the
handler of `TX_RESULT` messages and the retry loop. A failure they record need not be final: a
chunk that the rate limiter refused is sent again, and what is not acknowledged may have arrived.
A failure is final in every run that takes one of two courses: either nothing is refused, by the
rate limiter, by the RPC node or by the retry loop, or the last missing chunk never gets through to
an RPC node that accepts the transaction.

## Main definitions

* `SolMesh.Course`, `SolMesh.Course.Allows` — the two courses of a run, and the steps they allow.
* `SolMesh.Tracked` — where reported, recorded and returned outcomes come from.

## Main results

* `SolMesh.Tracked.run` — outcomes are tracked in every run.
* `SolMesh.failure_final` — failures are final in runs that take one course, and the first step that
  leaves both can be followed by a failure that is not.
* `SolMesh.not_failure_final` — a transaction that is executed after its failure was reported.
-/

namespace SolMesh

open Py Text Conc

variable {F : Type} [Number F] {S : Solders}

/-! ## The condition -/

/-- The courses of a run: nothing is refused, or nothing is executed. -/
inductive Course
  | unrefused
  | unexecuted

/-- **The steps that a course allows.** If nothing is refused, the client's bucket holds a token
whenever a frame is delivered, the RPC node does not reject the transaction when its last missing
chunk is delivered, and the retry loop does not give up. If nothing is executed, then whenever the
last missing chunk is delivered, the bucket holds no token or the RPC node does not accept the
transaction. -/
def Course.Allows (txBytes : Bytes) (clientId : String) :
    Course → RelayNet F S → RelayEvent S → Prop
  | .unrefused, s, .deliver env frame => s.gateway.HasToken env clientId ∧
      ¬ (s.gateway.Awaits env frame clientId ∧ env.rpc.Rejects txBytes)
  | .unrefused, _, .giveUp => False
  | .unexecuted, s, .deliver env frame => ¬ (s.gateway.HasToken env clientId ∧
      s.gateway.Awaits env frame clientId ∧ env.rpc.Accepts txBytes)
  | .unexecuted, _, .giveUp => True

/-! ## Where failures come from -/

section Runs

variable {clientId : String} {msgId : UInt16} {txBytes : Bytes}
  {ok : RelayNet F S → RelayEvent S → Prop} {s s' : RelayNet F S}

/-- The result of the message. -/
def RelayNet.slot (s : RelayNet F S) (msgId : UInt16) : Option TxOutcome :=
  s.client.results.get? msgId.toNat

/-- **Outcomes are tracked**: what is reported, recorded or returned as a failure comes from a
branch that reports one, what is reported or recorded as a success from a broadcast, and a failure
stays in sight until there is a success. -/
structure Tracked (txBytes : Bytes) (msgId : UInt16) (s : RelayNet F S) : Prop where
  uplink : ∀ frame ∈ s.uplink, frame ∈ chunkFrames txBytes MsgType.txChunk msgId
  reported : ∀ error, (msgId.toNat, .failure error) ∈ s.reports → s.failed = true
  recorded : ∀ error, s.slot msgId = some (.failure error) → s.failed = true
  returned : ∀ error, .failure error ∈ s.returned → s.failed = true
  success_reported : ∀ signature, (msgId.toNat, .success signature) ∈ s.reports → s.confirmed ≠ []
  success_recorded : ∀ signature, s.slot msgId = some (.success signature) → s.confirmed ≠ []
  in_sight : s.failed = true → s.confirmed = [] →
    (∃ error, (msgId.toNat, .failure error) ∈ s.reports) ∨
      (∃ error, s.slot msgId = some (.failure error)) ∨ ∃ error, .failure error ∈ s.returned

/-- The reports after a delivery. -/
lemma RelayNet.reports_deliver (s : RelayNet F S) (env : Moment S) (frame : Bytes) :
    (s.deliver clientId env frame).reports = s.reports ++
      (framesTo clientId (s.gateway.effectsOf env frame clientId)).filterMap
        ClientNode.reportOf := by
  rw [RelayNet.reports, RelayNet.deliver, List.filterMap_append]
  rfl

/-- A delivery to the gateway keeps outcomes tracked.

**Proof sketch.** The delivery reports a failure exactly if it fails, and a success only if it is
confirmed (`deliver_branches`). So each part of the invariant holds of what was there before, and of
what the delivery adds. -/
lemma Tracked.deliver (h : Tracked txBytes msgId s) {frame : Bytes} (hmem : frame ∈ s.uplink)
    (env : Moment S) : Tracked txBytes msgId (s.deliver clientId env frame) := by
  obtain ⟨hfails, hexecutes, hsuccess⟩ := deliver_branches
    (isChunkOf_of_mem (h.uplink frame hmem)) env clientId s.gateway
  have hfailed : (s.deliver clientId env frame).failed =
      (s.failed || s.gateway.fails env frame clientId) := rfl
  have hconfirmed : (s.deliver clientId env frame).confirmed =
      s.confirmed ++ acceptedBy env.rpc (s.gateway.effectsOf env frame clientId) := rfl
  refine ⟨h.uplink, ?_, ?_, ?_, ?_, ?_, ?_⟩
  · intro error hin
    rw [RelayNet.reports_deliver] at hin
    rw [hfailed, Bool.or_eq_true]
    rcases List.mem_append.mp hin with hold | hnew
    · exact Or.inl (h.reported error hold)
    · exact Or.inr (hfails.mpr ⟨error, hnew⟩)
  · intro error hslot
    rw [hfailed, h.recorded error hslot, Bool.true_or]
  · intro error hin
    rw [hfailed, h.returned error hin, Bool.true_or]
  · intro signature hin
    rw [RelayNet.reports_deliver] at hin
    rw [hconfirmed]
    rcases List.mem_append.mp hin with hold | hnew
    · exact List.append_ne_nil_of_left_ne_nil (h.success_reported signature hold) _
    · exact List.append_ne_nil_of_right_ne_nil _ (hexecutes.mp (hsuccess signature hnew))
  · intro signature hslot
    rw [hconfirmed]
    exact List.append_ne_nil_of_left_ne_nil (h.success_recorded signature hslot) _
  · intro hf hc
    rw [RelayNet.reports_deliver]
    rw [hconfirmed, List.append_eq_nil_iff] at hc
    rw [hfailed, Bool.or_eq_true] at hf
    rcases hf with hold | hnew
    · rcases h.in_sight hold hc.1 with ⟨error, hin⟩ | hrest
      · exact Or.inl ⟨error, List.mem_append_left _ hin⟩
      · exact Or.inr hrest
    · obtain ⟨error, hin⟩ := hfails.mp hnew
      exact Or.inl ⟨error, List.mem_append_right _ hin⟩

omit [Number F] in
/-- The result of the message after a frame was delivered to the client. -/
lemma RelayNet.slot_reply (s : RelayNet F S) (frame : Bytes) (msgId : UInt16) :
    (s.reply frame).slot msgId = s.slot msgId ∨ ∃ outcome,
      ClientNode.reportOf frame = some (msgId.toNat, outcome) ∧
        (s.reply frame).slot msgId = some outcome := by
  unfold RelayNet.slot RelayNet.reply
  rw [ClientNode.results_receive]
  cases hreport : ClientNode.reportOf frame with
  | none => exact Or.inl rfl
  | some report =>
    obtain ⟨id, outcome⟩ := report
    dsimp only
    by_cases hid : id = msgId.toNat
    · subst hid
      exact Or.inr ⟨outcome, rfl, Dict.get?_set_self _ _ _⟩
    · exact Or.inl (Dict.get?_set_of_ne _ (Ne.symm hid) _)

omit [Number F] in
/-- A delivery to the client keeps outcomes tracked.

**Proof sketch.** The reply sets the slot of the message to what it reports, or leaves it
(`slot_reply`). What it reports was sent, so it is tracked already. A success would replace a
failure in the slot only if the transaction was confirmed. -/
lemma Tracked.reply (h : Tracked txBytes msgId s) {frame : Bytes} (hmem : frame ∈ s.downlink) :
    Tracked txBytes msgId (s.reply frame) := by
  have hin : ∀ {outcome}, ClientNode.reportOf frame = some (msgId.toNat, outcome) →
      (msgId.toNat, outcome) ∈ s.reports :=
    fun hreport => List.mem_filterMap.mpr ⟨frame, hmem, hreport⟩
  have hslot := s.slot_reply frame msgId
  refine ⟨h.uplink, h.reported, ?_, h.returned, h.success_reported, ?_, ?_⟩
  · intro error herror
    rcases hslot with hsame | ⟨outcome, hreport, hset⟩
    · exact h.recorded error (hsame ▸ herror)
    · obtain rfl := Option.some.inj (hset.symm.trans herror)
      exact h.reported error (hin hreport)
  · intro signature hsignature
    rcases hslot with hsame | ⟨outcome, hreport, hset⟩
    · exact h.success_recorded signature (hsame ▸ hsignature)
    · obtain rfl := Option.some.inj (hset.symm.trans hsignature)
      exact h.success_reported signature (hin hreport)
  · intro hf hc
    rcases h.in_sight hf hc with hreported | ⟨error, herror⟩ | hreturned
    · exact Or.inl hreported
    · rcases hslot with hsame | ⟨outcome, hreport, hset⟩
      · exact Or.inr (Or.inl ⟨error, hsame.trans herror⟩)
      · cases outcome with
        | failure error' => exact Or.inr (Or.inl ⟨error', hset⟩)
        | success signature => exact absurd hc (h.success_reported signature (hin hreport))
    · exact Or.inr (Or.inr hreturned)

omit [Number F] in
/-- A wait that ends keeps outcomes tracked.

**Proof sketch.** A wait without a result changes nothing. One with a result moves it from the slot
to what was returned, where a failure is still in sight. -/
lemma Tracked.wait (h : Tracked txBytes msgId s) {r : Option TxOutcome} {client : ClientNode}
    (hwait : s.client.Waits msgId r client) :
    Tracked txBytes msgId { s with client := client, returned := s.returned ++ r.toList } := by
  rcases hwait with ⟨rfl, rfl⟩ | ⟨outcome, hget, rfl, rfl⟩
  · rw [Option.toList_none, List.append_nil]
    exact h
  · have hempty : RelayNet.slot { s with
        client := { s.client with results := s.client.results.erase msgId.toNat }
        returned := s.returned ++ [outcome] } msgId = none := Dict.get?_erase_self _ _
    refine ⟨h.uplink, h.reported, ?_, ?_, h.success_reported, ?_, ?_⟩
    · intro error herror
      rw [Option.toList_some, hempty] at herror
      cases herror
    · intro error hin
      rcases List.mem_append.mp hin with hold | hnew
      · exact h.returned error hold
      · rw [Option.toList_some] at hnew
        obtain rfl := List.mem_singleton.mp hnew
        exact h.recorded error hget
    · intro signature hsignature
      rw [Option.toList_some, hempty] at hsignature
      cases hsignature
    · intro hf hc
      rcases h.in_sight hf hc with hreported | ⟨error, herror⟩ | ⟨error, hin⟩
      · exact Or.inl hreported
      · obtain rfl := Option.some.inj (hget.symm.trans herror)
        exact Or.inr (Or.inr ⟨error, List.mem_append_right _ (by simp)⟩)
      · exact Or.inr (Or.inr ⟨error, List.mem_append_left _ hin⟩)

/-- **What happens besides the retry loop** keeps outcomes tracked.

**Proof sketch.** By the kind of the move. Deliveries, replies and waits have lemmas of their own;
messages of others and the rest of the client leave every part that is tracked as it is. -/
lemma Tracked.moves (h : Tracked txBytes msgId s) (hmoves : RelayMoves clientId msgId ok s s') :
    Tracked txBytes msgId s' := by
  cases hmoves with
  | deliver hmem _ => exact h.deliver hmem _
  | foreign _ => exact ⟨h.uplink, h.reported, h.recorded, h.returned, h.success_reported,
      h.success_recorded, h.in_sight⟩
  | reply hmem => exact h.reply hmem
  | wait hwait => exact h.wait hwait
  | @other client _ hresult =>
    have hslot : RelayNet.slot { s with client := client } msgId = s.slot msgId := hresult
    refine ⟨h.uplink, h.reported, ?_, h.returned, h.success_reported, ?_, ?_⟩
    · rw [hslot]
      exact h.recorded
    · rw [hslot]
      exact h.success_recorded
    · rw [hslot]
      exact h.in_sight

omit [Number F] in
/-- **An operation of the retry loop** of the message keeps outcomes tracked.

**Proof sketch.** One case for each operation. A sent frame is one of the chunks, because the loop
serves them in order (`hserves`). A failure that the loop records counts as one, and is in the slot
then. -/
lemma Tracked.exec (h : Tracked txBytes msgId s) {op : RetryOp} {r : op.Ans}
    (hserves : op.Serves (chunkFrames txBytes MsgType.txChunk msgId) msgId.toNat)
    (hr : relayExec ok op s r s') : Tracked txBytes msgId s' := by
  cases op with
  | send frame =>
    rcases hr with rfl | ⟨_, rfl⟩
    · refine ⟨?_, h.reported, h.recorded, h.returned, h.success_reported, h.success_recorded,
        h.in_sight⟩
      intro frame' hin
      rcases List.mem_append.mp hin with hold | hnew
      · exact h.uplink frame' hold
      · rw [List.mem_singleton.mp hnew]
        exact hserves
    · exact h
  | sleep seconds =>
    obtain rfl := hr
    exact h
  | acked id =>
    obtain ⟨_, rfl⟩ := hr
    exact h
  | setResult id outcome =>
    obtain ⟨_, rfl⟩ := hr
    obtain ⟨rfl, error, rfl⟩ := hserves
    have hslot : (s.setResult msgId.toNat (.failure error)).slot msgId = some (.failure error) :=
      Dict.get?_set_self _ _ _
    refine ⟨h.uplink, fun _ _ => rfl, fun _ _ => rfl, fun _ _ => rfl, h.success_reported, ?_, ?_⟩
    · intro signature hsignature
      rw [hslot] at hsignature
      cases hsignature
    · exact fun _ _ => Or.inr (Or.inl ⟨error, hslot⟩)

omit [Number F] in
/-- Before anything was sent there is nothing to track, if no result is left from before. -/
lemma tracked_start {client : ClientNode} (hfresh : client.results.get? msgId.toNat = none)
    (gateway : GatewayNode F S) : Tracked txBytes msgId (RelayNet.start client gateway) := by
  refine ⟨by simp [RelayNet.start], by simp [RelayNet.start, RelayNet.reports], ?_,
    by simp [RelayNet.start], by simp [RelayNet.start, RelayNet.reports], ?_,
    by simp [RelayNet.start]⟩
  · intro error herror
    exact absurd (hfresh.symm.trans herror) (by simp)
  · intro signature hsignature
    exact absurd (hfresh.symm.trans hsignature) (by simp)

/-- The condition that no step fails to meet. -/
def AnyStep (_ : RelayNet F S) (_ : RelayEvent S) : Prop := True

/-- The process serves the message: so does every operation its program can come to. -/
def Serving (txBytes : Bytes) (msgId : UInt16) (c : Relaying F S) : Prop :=
  ∀ p, c.running = some p →
    p.Performs (RetryOp.Serves (chunkFrames txBytes MsgType.txChunk msgId) msgId.toNat)

/-- **In every run outcomes are tracked**, and what else is kept by the steps holds as well. -/
lemma Tracked.run {c c' : Relaying F S} (hrun : RelayRun clientId msgId ok c c')
    (h : Tracked txBytes msgId c.state) (hserving : Serving txBytes msgId c)
    {J : RelayNet F S → Prop}
    (hexec : ∀ op s r s', relayExec ok op s r s' → J s → J s')
    (hmoves : ∀ s s', Tracked txBytes msgId s → RelayMoves clientId msgId ok s s' → J s → J s')
    (hJ : J c.state) :
    (Tracked txBytes msgId c'.state ∧ J c'.state) ∧ Serving txBytes msgId c' := by
  obtain ⟨ls, hsteps⟩ := hrun
  refine hsteps.invariant (J := fun s => Tracked txBytes msgId s ∧ J s) (fun _ => False.elim)
    ?_ ?_ (fun _ _ => False.elim) ⟨h, hJ⟩ hserving
  · rintro op s r s' hop hr ⟨htracked, hs⟩
    exact ⟨htracked.exec hop hr, hexec op s r s' hr hs⟩
  · rintro s s' hm ⟨htracked, hs⟩
    exact ⟨htracked.moves hm, hmoves s s' htracked hm hs⟩

omit [Number F] in
/-- The retry loop leaves the gateway alone, and reports a failure only when it gives up. -/
lemma relayExec_frame {op : RetryOp} {r : op.Ans} (hr : relayExec ok op s r s') :
    s'.gateway = s.gateway ∧ s'.confirmed = s.confirmed ∧
      (s'.failed = s.failed ∨ s'.failed = true ∧ ok s .giveUp) := by
  cases op with
  | send frame => rcases hr with rfl | ⟨_, rfl⟩ <;> exact ⟨rfl, rfl, Or.inl rfl⟩
  | sleep seconds =>
    obtain rfl := hr
    exact ⟨rfl, rfl, Or.inl rfl⟩
  | acked id =>
    obtain ⟨_, rfl⟩ := hr
    exact ⟨rfl, rfl, Or.inl rfl⟩
  | setResult id outcome =>
    obtain ⟨hok, rfl⟩ := hr
    exact ⟨rfl, rfl, Or.inr ⟨rfl, hok⟩⟩

omit [Number F] in
/-! ## What a course keeps -/

/-- The gateway gathers the relayed message. -/
abbrev RelayNet.Gathers (s : RelayNet F S) (txBytes : Bytes) (clientId : String) (msgId : UInt16) :
    Prop :=
  Gathering txBytes (clientId, msgId.toNat) s.gateway.reassembler

/-- **In every run the gateway gathers the message.** -/
lemma gathers_run (hlen : txBytes.length ≤ 255 * maxChunkData) {c c' : Relaying F S}
    (hrun : RelayRun clientId msgId ok c c') (h : Tracked txBytes msgId c.state)
    (hserving : Serving txBytes msgId c) (hgathers : c.state.Gathers txBytes clientId msgId) :
    c'.state.Gathers txBytes clientId msgId := by
  refine (h.run hrun hserving (J := fun s => s.Gathers txBytes clientId msgId) ?_ ?_ hgathers).1.2
  · intro op s r s' hr hs
    rw [RelayNet.Gathers, (relayExec_frame hr).1]
    exact hs
  · intro s s' htracked hmoves hs
    cases hmoves with
    | deliver hmem _ => exact (gathering_chunk hlen hs (htracked.uplink _ hmem) _).1
    | foreign hforeign => exact gathering_foreign hs (fun h => hforeign (.inl h)) _
    | reply | wait | other => exact hs

/-- **The branches that report a failure**, in terms of what the delivery finds. -/
lemma fails_iff (hlen : txBytes.length ≤ 255 * maxChunkData)
    (h : s.Gathers txBytes clientId msgId) {frame : Bytes}
    (hframe : frame ∈ chunkFrames txBytes MsgType.txChunk msgId) (env : Moment S) :
    s.gateway.fails env frame clientId = true ↔ ¬ s.gateway.HasToken env clientId ∨
      s.gateway.Awaits env frame clientId ∧ env.rpc.Rejects txBytes := by
  have hcompletes := (gathering_chunk hlen h hframe env).2
  unfold GatewayNode.fails
  rw [Bool.or_eq_true, ← GatewayNode.admits_iff, ← Rpc.rejects_iff, Option.any_eq_true]
  refine or_congr (by simp) ⟨?_, ?_⟩
  · rintro ⟨data, hdata, hrejected⟩
    obtain ⟨rfl, hawaits⟩ := (hcompletes data).mp hdata
    exact ⟨hawaits, by simpa using hrejected⟩
  · rintro ⟨hawaits, hrejected⟩
    exact ⟨txBytes, (hcompletes txBytes).mpr ⟨rfl, hawaits⟩, by simpa using hrejected⟩

/-- **The branch that executes the transaction**, in terms of what the delivery finds. -/
lemma executes_iff (hlen : txBytes.length ≤ 255 * maxChunkData)
    (h : s.Gathers txBytes clientId msgId) {frame : Bytes}
    (hframe : frame ∈ chunkFrames txBytes MsgType.txChunk msgId) (env : Moment S) :
    s.gateway.executes env frame clientId = true ↔ s.gateway.HasToken env clientId ∧
      s.gateway.Awaits env frame clientId ∧ env.rpc.Accepts txBytes := by
  have hcompletes := (gathering_chunk hlen h hframe env).2
  unfold GatewayNode.executes
  rw [Bool.and_eq_true, GatewayNode.admits_iff, Option.any_eq_true]
  refine and_congr_right fun _ => ⟨?_, ?_⟩
  · rintro ⟨data, hdata, haccepted⟩
    obtain ⟨rfl, hawaits⟩ := (hcompletes data).mp hdata
    exact ⟨hawaits, (Rpc.accepts_iff _ _).mp haccepted⟩
  · rintro ⟨hawaits, haccepted⟩
    exact ⟨txBytes, (hcompletes txBytes).mpr ⟨rfl, hawaits⟩, (Rpc.accepts_iff _ _).mpr haccepted⟩

/-- What holds on a course: no branch was taken that reports a failure, or nothing was broadcast
successfully. -/
def Course.Keeps (course : Course) (s : RelayNet F S) : Prop :=
  match course with
  | .unrefused => s.failed = false
  | .unexecuted => s.confirmed = []

/-- **A delivery keeps to a course** exactly if the course allows it.

**Proof sketch.** The delivery adds a failure if the gateway refuses the frame (`fails_iff`), and a
confirmation if it executes the transaction (`executes_iff`). What each course allows is that this
does not happen. -/
lemma Course.keeps_deliver_iff (course : Course) (hlen : txBytes.length ≤ 255 * maxChunkData)
    (h : s.Gathers txBytes clientId msgId) {frame : Bytes}
    (hframe : frame ∈ chunkFrames txBytes MsgType.txChunk msgId) (env : Moment S) :
    course.Keeps (s.deliver clientId env frame) ↔
      course.Keeps s ∧ course.Allows txBytes clientId s (.deliver env frame) := by
  cases course with
  | unrefused =>
    have hfails := not_congr (fails_iff hlen h hframe env)
    rw [Bool.not_eq_true, not_or, not_not] at hfails
    change (s.failed || s.gateway.fails env frame clientId) = false ↔ _
    rw [Bool.or_eq_false_iff, hfails]
    rfl
  | unexecuted =>
    have hnone : acceptedBy env.rpc (s.gateway.effectsOf env frame clientId) = [] ↔
        ¬ (s.gateway.HasToken env clientId ∧ s.gateway.Awaits env frame clientId ∧
          env.rpc.Accepts txBytes) := by
      rw [← executes_iff hlen h hframe env,
        (deliver_branches (isChunkOf_of_mem hframe) env clientId s.gateway).2.1, not_not]
    change s.confirmed ++ acceptedBy env.rpc (s.gateway.effectsOf env frame clientId) = [] ↔ _
    rw [List.append_eq_nil_iff, hnone]
    rfl

omit [Number F] in
/-- A step that takes no branch and broadcasts nothing keeps to every course. -/
lemma Course.keeps_congr (course : Course) (hfailed : s'.failed = s.failed)
    (hconfirmed : s'.confirmed = s.confirmed) : course.Keeps s' ↔ course.Keeps s := by
  unfold Course.Keeps
  rw [hfailed, hconfirmed]

/-- **A run whose steps a course allows** keeps to the course.

**Proof sketch.** Carried along the run together with what the gateway gathers, since what a
delivery does depends on that. The retry loop changes neither, except where the course allows it to
fail; a delivery is `keeps_deliver_iff`; and the other moves touch neither. -/
lemma Course.keeps_run (course : Course) (hlen : txBytes.length ≤ 255 * maxChunkData)
    {c c' : Relaying F S} (hrun : RelayRun clientId msgId (course.Allows txBytes clientId) c c')
    (h : Tracked txBytes msgId c.state) (hserving : Serving txBytes msgId c)
    (hgathers : c.state.Gathers txBytes clientId msgId) (hkeeps : course.Keeps c.state) :
    course.Keeps c'.state := by
  refine (h.run hrun hserving (J := fun s => s.Gathers txBytes clientId msgId ∧ course.Keeps s)
    ?_ ?_ ⟨hgathers, hkeeps⟩).1.2.2
  · rintro op s r s' hr ⟨hs, hcourse⟩
    obtain ⟨hgateway, hconfirmed, hfailed⟩ := relayExec_frame hr
    refine ⟨by rwa [RelayNet.Gathers, hgateway], ?_⟩
    rcases hfailed with hfailed | ⟨_, hallowed⟩
    · exact (course.keeps_congr hfailed hconfirmed).mpr hcourse
    · cases course with
      | unrefused => exact hallowed.elim
      | unexecuted => exact hconfirmed.trans hcourse
  · rintro s s' htracked hmoves ⟨hs, hcourse⟩
    cases hmoves with
    | deliver hmem hallowed =>
      have hframe := htracked.uplink _ hmem
      exact ⟨(gathering_chunk hlen hs hframe _).1,
        (course.keeps_deliver_iff hlen hs hframe _).mpr ⟨hcourse, hallowed⟩⟩
    | foreign hforeign => exact ⟨gathering_foreign hs (fun h => hforeign (.inl h)) _, hcourse⟩
    | reply | wait | other => exact ⟨hs, hcourse⟩

/-- **A step after which a course is still kept** is one that the course allows, and it was kept
before.

**Proof sketch.** Cases on the step. Only a delivery and a failure that the loop records can leave
the course, and each is allowed exactly if the course is still kept after it
(`Course.keeps_deliver_iff`); what is kept after a step was kept before, because failures and
confirmations only grow. -/
lemma Course.step_of_keeps (course : Course) (hlen : txBytes.length ≤ 255 * maxChunkData)
    {c c' : Relaying F S} {l : Host.Label RetryOp RetryOp.Ans} (h : Tracked txBytes msgId c.state)
    (hgathers : c.state.Gathers txBytes clientId msgId)
    (hstep : (relayHost clientId msgId AnyStep).Step (fun _ => False) c l c')
    (hkeeps : course.Keeps c'.state) : course.Keeps c.state ∧
      (relayHost clientId msgId (course.Allows txBytes clientId)).Step (fun _ => False) c l c' := by
  cases hstep with
  | start hp => exact hp.elim
  | finish => exact ⟨hkeeps, .finish⟩
  | crash hs => exact hs.elim
  | @own op next s s' r hr =>
    cases op with
    | send frame =>
      refine ⟨?_, .own hr⟩
      rcases hr with rfl | ⟨_, rfl⟩
      · exact (course.keeps_congr rfl rfl).mp hkeeps
      · exact hkeeps
    | sleep seconds =>
      obtain rfl := hr
      exact ⟨hkeeps, .own rfl⟩
    | acked id =>
      obtain ⟨hanswer, rfl⟩ := hr
      exact ⟨hkeeps, .own ⟨hanswer, rfl⟩⟩
    | setResult id outcome =>
      obtain ⟨_, rfl⟩ := hr
      cases course with
      | unrefused => exact absurd hkeeps (by simp [Course.Keeps, RelayNet.setResult])
      | unexecuted => exact ⟨hkeeps, .own ⟨trivial, rfl⟩⟩
  | @others running s s' hmoves =>
    cases hmoves with
    | @deliver frame env hmem _ =>
      obtain ⟨hbefore, hallowed⟩ :=
        (course.keeps_deliver_iff hlen hgathers (h.uplink _ hmem) _).mp hkeeps
      exact ⟨hbefore, .others (.deliver hmem hallowed)⟩
    | foreign hforeign => exact ⟨hkeeps, .others (.foreign hforeign)⟩
    | reply hmem => exact ⟨hkeeps, .others (.reply hmem)⟩
    | wait hwait => exact ⟨hkeeps, .others (.wait hwait)⟩
    | other hacked hresult => exact ⟨hkeeps, .others (.other hacked hresult)⟩

/-- **A run after which a course is still kept** is one whose steps the course allows.

**Proof sketch.** Induction on the steps, from the first one on. What is kept after the rest of the
run was kept before it, so that the first step is allowed, too. -/
lemma Course.run_of_keeps (course : Course) (hlen : txBytes.length ≤ 255 * maxChunkData)
    {c c' : Relaying F S} (hrun : RelayRun clientId msgId AnyStep c c')
    (h : Tracked txBytes msgId c.state) (hserving : Serving txBytes msgId c)
    (hgathers : c.state.Gathers txBytes clientId msgId) (hkeeps : course.Keeps c'.state) :
    course.Keeps c.state ∧ RelayRun clientId msgId (course.Allows txBytes clientId) c c' := by
  obtain ⟨ls, hsteps⟩ := hrun
  induction hsteps with
  | nil c => exact ⟨hkeeps, _, .nil c⟩
  | cons hstep _ ih =>
    have hone : RelayRun clientId msgId AnyStep _ _ := ⟨_, .cons hstep (.nil _)⟩
    obtain ⟨⟨htracked, _⟩, hserving'⟩ := h.run hone hserving (J := fun _ => True)
      (fun _ _ _ _ _ _ => trivial) (fun _ _ _ _ _ => trivial) trivial
    obtain ⟨hnext, _, hrest⟩ :=
      ih htracked hserving' (gathers_run hlen hone h hserving hgathers) hkeeps
    obtain ⟨hfirst, hallowed⟩ := course.step_of_keeps hlen h hgathers hstep hnext
    exact ⟨hfirst, _, .cons hallowed hrest⟩

/-- **In every run the only transaction** broadcast on chunks of the message is the one that was
relayed.

**Proof sketch.** The gateway gathers chunks of the message all along (`gathering_chunk`,
`gathering_foreign`), so a delivery that completes a transaction completes this one, and only that
is confirmed (`deliver_events`). -/
lemma confirmed_run (hlen : txBytes.length ≤ 255 * maxChunkData) {c c' : Relaying F S}
    (hrun : RelayRun clientId msgId ok c c') (h : Tracked txBytes msgId c.state)
    (hserving : Serving txBytes msgId c) (hgathers : c.state.Gathers txBytes clientId msgId)
    (hconfirmed : ∀ data ∈ c.state.confirmed, data = txBytes) :
    ∀ data ∈ c'.state.confirmed, data = txBytes := by
  refine (h.run hrun hserving (J := fun s => s.Gathers txBytes clientId msgId ∧
    ∀ data ∈ s.confirmed, data = txBytes) ?_ ?_ ⟨hgathers, hconfirmed⟩).1.2.2
  · intro op s r s' hr hs
    obtain ⟨hgateway, hsame, _⟩ := relayExec_frame hr
    rw [RelayNet.Gathers, hgateway, hsame]
    exact hs
  · rintro s s' htracked hmoves ⟨hkept, hall⟩
    cases hmoves with
    | @deliver frame env hmem _ =>
      have hframe := htracked.uplink _ hmem
      obtain ⟨hkept', hdata⟩ := gathering_chunk hlen hkept hframe env
      refine ⟨hkept', ?_⟩
      intro data hin
      rcases List.mem_append.mp hin with hold | hnew
      · exact hall data hold
      · rw [(deliver_events (isChunkOf_of_mem hframe) env clientId s.gateway).2] at hnew
        split_ifs at hnew
        · split at hnew
          · cases hnew
          · next data' hcompletes =>
            split_ifs at hnew
            · rw [List.mem_singleton.mp hnew]
              exact ((hdata data').mp hcompletes).1
            · cases hnew
        · cases hnew
    | foreign hforeign => exact ⟨gathering_foreign hkept (fun h => hforeign (.inl h)) _, hall⟩
    | reply | wait | other => exact ⟨hkept, hall⟩

/-- A state in which a failure was returned although a transaction was broadcast successfully. -/
def RelayNet.Wrong (s : RelayNet F S) : Prop :=
  (∃ error, .failure error ∈ s.returned) ∧ s.confirmed ≠ []

/-- A failure that is in sight can be returned to a wait.

**Proof sketch.** A wait returns what the slot holds, so it suffices to bring the failure there. If
it is still on its way then its frame is received first, if it is in the slot then the wait comes at
once, and if it was returned then nothing remains to be done. -/
lemma exists_wrong {running : Option (Prog RetryOp RetryOp.Ans (Except Exn Unit))}
    (hconfirmed : s.confirmed ≠ [])
    (hsight : (∃ error, (msgId.toNat, .failure error) ∈ s.reports) ∨
      (∃ error, s.slot msgId = some (.failure error)) ∨ ∃ error, .failure error ∈ s.returned) :
    ∃ c', RelayRun clientId msgId AnyStep ⟨running, s⟩ c' ∧ c'.state.Wrong := by
  have hwait : ∀ t : RelayNet F S, t.confirmed ≠ [] →
      (∃ error, t.slot msgId = some (.failure error)) →
      ∃ t', RelayMoves clientId msgId AnyStep t t' ∧ t'.Wrong := by
    rintro t ht ⟨error, herror⟩
    exact ⟨_, .wait (Or.inr ⟨_, herror, rfl, rfl⟩), ⟨error, List.mem_append_right _ (by simp)⟩, ht⟩
  rcases hsight with ⟨error, hin⟩ | hslot | hreturned
  · obtain ⟨frame, hmem, hreport⟩ := List.mem_filterMap.mp hin
    have hslot : (s.reply frame).slot msgId = some (.failure error) := by
      unfold RelayNet.slot RelayNet.reply
      rw [ClientNode.results_receive, hreport]
      exact Dict.get?_set_self _ _ _
    obtain ⟨t', hmoves, hwrong⟩ := hwait (s.reply frame) hconfirmed ⟨error, hslot⟩
    exact ⟨⟨running, t'⟩, ⟨_, .cons (.others (.reply hmem)) (.cons (.others hmoves) (.nil _))⟩,
      hwrong⟩
  · obtain ⟨t', hmoves, hwrong⟩ := hwait s hconfirmed hslot
    exact ⟨⟨running, t'⟩, ⟨_, .cons (.others hmoves) (.nil _)⟩, hwrong⟩
  · exact ⟨⟨running, s⟩, ⟨_, .nil _⟩, hreturned, hconfirmed⟩

/-- **The step that leaves both courses** can be followed by a failure that is not final.

**Proof sketch.** The step takes a branch that reports a failure, or the one that executes the
transaction. In the first case the failure is on its way or recorded. In the second case such a
branch was taken before, and its failure is still in sight, since there was no success so far. -/
lemma exists_wrong_of_step (course : Course) {c c' : Relaying F S}
    {l : Host.Label RetryOp RetryOp.Ans} (h : Tracked txBytes msgId c.state)
    (hserving : Serving txBytes msgId c) (hkeeps : course.Keeps c.state)
    (hstep : (relayHost clientId msgId AnyStep).Step (fun _ => False) c l c')
    (hfailed : c'.state.failed = true) (hconfirmed : c'.state.confirmed ≠ []) :
    ∃ c'', RelayRun clientId msgId AnyStep c' c'' ∧ c''.state.Wrong := by
  have hleft : ¬ course.Keeps c'.state := by
    cases course with
    | unrefused => exact fun hk => absurd (hk.symm.trans hfailed) Bool.false_ne_true
    | unexecuted => exact hconfirmed
  cases hstep with
  | start hp => exact hp.elim
  | finish => exact absurd hkeeps hleft
  | crash hs => exact hs.elim
  | @own op next s s' r hr =>
    cases op with
    | send frame => rcases hr with rfl | ⟨_, rfl⟩ <;> exact absurd hkeeps hleft
    | sleep seconds =>
      obtain rfl := hr
      exact absurd hkeeps hleft
    | acked id =>
      obtain ⟨_, rfl⟩ := hr
      exact absurd hkeeps hleft
    | setResult id outcome =>
      obtain ⟨_, rfl⟩ := hr
      obtain ⟨⟨rfl, error, rfl⟩, _⟩ := hserving _ rfl
      exact exists_wrong hconfirmed (Or.inr (Or.inl ⟨error, Dict.get?_set_self _ _ _⟩))
  | @others running s s' hmoves =>
    cases hmoves with
    | foreign | reply | wait | other => exact absurd hkeeps hleft
    | @deliver frame env hmem _ =>
      obtain ⟨hfails, _, _⟩ := deliver_branches
        (isChunkOf_of_mem (h.uplink frame hmem)) env clientId s.gateway
      apply exists_wrong hconfirmed
      rw [RelayNet.reports_deliver]
      cases hbranch : s.gateway.fails env frame clientId with
      | true =>
        obtain ⟨error, hin⟩ := hfails.mp hbranch
        exact Or.inl ⟨error, List.mem_append_right _ hin⟩
      | false =>
        have hbefore : s.failed = true := by
          change (s.failed || s.gateway.fails env frame clientId) = true at hfailed
          rwa [hbranch, Bool.or_false] at hfailed
        have hnone : s.confirmed = [] := by
          cases course with
          | unrefused => exact absurd (hkeeps.symm.trans hbefore) Bool.false_ne_true
          | unexecuted => exact hkeeps
        rcases h.in_sight hbefore hnone with ⟨error, hin⟩ | hrest
        · exact Or.inl ⟨error, List.mem_append_left _ hin⟩
        · exact Or.inr hrest

/-- Steps that meet a condition meet a weaker one.

**Proof sketch.** Induction on the steps: only the conditions on deliveries and recorded failures
change. -/
lemma RelayRun.mono {ok' : RelayNet F S → RelayEvent S → Prop} {c c' : Relaying F S}
    (hrun : RelayRun clientId msgId ok c c') (hmono : ∀ s e, ok s e → ok' s e) :
    RelayRun clientId msgId ok' c c' := by
  obtain ⟨ls, hsteps⟩ := hrun
  induction hsteps with
  | nil c => exact ⟨_, .nil c⟩
  | @cons c₁ c₂ c₃ l ls hstep _ ih =>
    obtain ⟨ls', hrest⟩ := ih
    refine ⟨l :: ls', .cons ?_ hrest⟩
    cases hstep with
    | start hp => exact hp.elim
    | finish => exact .finish
    | crash hs => exact hs.elim
    | @own op next s s' r hr =>
      cases op with
      | send | sleep | acked => exact .own hr
      | setResult id outcome => exact .own ⟨hmono _ _ hr.1, hr.2⟩
    | others hmoves =>
      cases hmoves with
      | deliver hmem hok => exact .others (.deliver hmem (hmono _ _ hok))
      | foreign hforeign => exact .others (.foreign hforeign)
      | reply hmem => exact .others (.reply hmem)
      | wait hwait => exact .others (.wait hwait)
      | other hacked hresult => exact .others (.other hacked hresult)

/-- **When a reported failure is final.** A transaction is relayed under an id that is not in use:
the client has no result under it, and the gateway no chunks. In every run whose steps are allowed
by one course: if a wait for the result has returned a failure, then the gateway has not broadcast
the transaction successfully, and does not do so later; and nothing else is broadcast on chunks of
the message. No weaker condition does: after the first step with which a run leaves both courses, a
wait can return a failure of a transaction that was broadcast successfully.

**Proof sketch.** A returned failure comes from a branch that reports one (`Tracked.run`). On the
first course no such branch is taken, on the second one nothing is broadcast successfully
(`Course.keeps_run`). A run that keeps to a course in what it leaves takes only steps that the
course allows (`Course.run_of_keeps`), so a run that leaves both has taken a branch that reports a
failure and has broadcast the transaction (`exists_wrong_of_step`). -/
theorem failure_final {client client' : ClientNode} {loop : RetryLoop Unit}
    {gateway : GatewayNode F S} (hrelay : relayRawTx txBytes msgId client = .ok (loop, client'))
    (hfresh : client.results.get? msgId.toNat = none)
    (hempty : gateway.reassembler.buffers.get? (clientId, msgId.toNat) = none)
    (course : Course) {c : Relaying F S}
    (hrun : RelayRun clientId msgId (course.Allows txBytes clientId)
      ⟨some loop.run, RelayNet.start client' gateway⟩ c) :
    (∀ error, .failure error ∈ c.state.returned → c.state.confirmed = [] ∧
      ∀ c', RelayRun clientId msgId (course.Allows txBytes clientId) c c' →
        c'.state.confirmed = []) ∧
    (∀ data ∈ c.state.confirmed, data = txBytes) ∧
    ∀ l c', (relayHost clientId msgId AnyStep).Step (fun _ => False) c l c' →
      (∀ course' : Course, ¬ RelayRun clientId msgId (course'.Allows txBytes clientId)
        ⟨some loop.run, RelayNet.start client' gateway⟩ c') →
      ∃ c'', RelayRun clientId msgId AnyStep c' c'' ∧ c''.state.Wrong := by
  have hlen := length_le_of_relayRawTx hrelay
  rw [relayRawTx_eq hlen] at hrelay
  obtain ⟨hloop, hclient⟩ := Prod.mk.inj (Except.ok.inj hrelay)
  have hfresh' : client'.results.get? msgId.toNat = none := by
    rw [← hclient]
    exact hfresh
  have hstart : Tracked txBytes msgId (RelayNet.start client' gateway) :=
    tracked_start hfresh' gateway
  have hgathers : (RelayNet.start client' gateway).Gathers txBytes clientId msgId :=
    gathering_of_none hempty
  have hserves : Serving txBytes msgId
      (⟨some loop.run, RelayNet.start client' gateway⟩ : Relaying F S) := by
    rintro p ⟨⟩
    rw [← hloop]
    exact performs_retryChunks (by simp)
  have hinitial : course.Keeps (RelayNet.start client' gateway) := by cases course <;> rfl
  obtain ⟨⟨htracked, _⟩, hserving⟩ := hstart.run hrun hserves (J := fun _ => True)
    (fun _ _ _ _ _ _ => trivial) (fun _ _ _ _ _ => trivial) trivial
  have hgathers' := gathers_run hlen hrun hstart hserves hgathers
  have hkeeps := course.keeps_run hlen hrun hstart hserves hgathers hinitial
  refine ⟨?_, confirmed_run hlen hrun hstart hserves hgathers (by simp [RelayNet.start]), ?_⟩
  · intro error hin
    cases course with
    | unrefused =>
      exact absurd (hkeeps.symm.trans (htracked.returned error hin)) Bool.false_ne_true
    | unexecuted =>
      exact ⟨hkeeps, fun c' hrun' =>
        Course.unexecuted.keeps_run hlen hrun' htracked hserving hgathers' hkeeps⟩
  · intro l c' hstep hneither
    have hany : RelayRun clientId msgId AnyStep
        ⟨some loop.run, RelayNet.start client' gateway⟩ c := hrun.mono fun _ _ _ => trivial
    obtain ⟨ls, hsteps⟩ := hany
    have hrun' : RelayRun clientId msgId AnyStep
        ⟨some loop.run, RelayNet.start client' gateway⟩ c' :=
      ⟨_, hsteps.append (.cons hstep (.nil _))⟩
    have hleft : ∀ course' : Course, ¬ course'.Keeps c'.state := fun course' hk =>
      hneither course' (course'.run_of_keeps hlen hrun' hstart hserves hgathers hk).2
    exact exists_wrong_of_step course htracked hserving hkeeps hstep
      (by simpa [Course.Keeps] using hleft .unrefused) (hleft .unexecuted)

end Runs

/-! ## A sample run -/

/-- A gateway at which the client has just used up its tokens. -/
def exhaustedGateway : GatewayNode ℤ sampleSolders :=
  { sampleGateway with
    rateLimiter := ⟨3, 1 / 6, Dict.ofList [("!client", ⟨3, 1 / 6, 0, 0⟩)]⟩ }

/-- Forty seconds later. -/
def laterMoment : Moment sampleSolders := { sampleMoment with now := 40 }

/-- The frame of a transaction that fits one chunk. -/
def sampleChunk : Bytes := chunkFrame (sampleTransaction 5) MsgType.txChunk 7 0

/-- The retry loop that sends it. -/
def sampleLoop : RetryLoop Unit := retryChunks [sampleChunk] (List.range 1) 7

/-- The client that tracks it. -/
def sampleClient : ClientNode :=
  { ClientNode.new with ackedChunks := ClientNode.new.ackedChunks.set 7 [] }

/-- The frame was sent. -/
def sampleOnAir : RelayNet ℤ sampleSolders :=
  { RelayNet.start sampleClient exhaustedGateway with uplink := [sampleChunk] }

/-- The gateway has refused it, and the client has heard of it. -/
def sampleRefused : RelayNet ℤ sampleSolders :=
  (sampleOnAir.deliver "!client" sampleMoment sampleChunk).reply (rateLimitedReply.frame 2 7)

/-- A wait has returned the failure. -/
def sampleReturned : RelayNet ℤ sampleSolders :=
  { sampleRefused with
    client := { sampleRefused.client with results := sampleRefused.client.results.erase 7 }
    returned := [.failure (ofString "Rate limited")] }

/-- The frame was sent again. -/
def sampleResent : RelayNet ℤ sampleSolders :=
  { sampleReturned with uplink := [sampleChunk, sampleChunk] }

/-- The frame is the only one of the transaction. -/
lemma chunkFrames_sample : chunkFrames (sampleTransaction 5) MsgType.txChunk 7 = [sampleChunk] := by
  have hone : numChunks (sampleTransaction 5).length = 1 := by decide +kernel
  rw [chunkFrames, hone]
  rfl

/-- This is how the transaction is relayed. -/
lemma relayRawTx_sample :
    relayRawTx (sampleTransaction 5) 7 ClientNode.new = .ok (sampleLoop, sampleClient) := by
  have hone : numChunks (sampleTransaction 5).length = 1 := by decide +kernel
  rw [relayRawTx_eq (by decide +kernel), chunkFrames_sample, hone]
  rfl

/-- How the loop begins: if the frame is not acknowledged in time, it is sent again. -/
lemma exists_next_sampleLoop :
    ∃ next₁ next₂ next₃ next₄, sampleLoop.run = Prog.call (.send sampleChunk) next₁ ∧
      next₁ (.ok true) = Prog.call (.sleep ackTimeout) next₂ ∧
      next₂ () = Prog.call (.acked 7) next₃ ∧
      next₃ [] = Prog.call (.send sampleChunk) next₄ :=
  ⟨_, _, _, _, rfl, rfl, rfl, rfl⟩

set_option maxRecDepth 10000 in
/-- A run in which the chunk is refused and a wait returns the failure, while the retry loop waits
for the acknowledgement. -/
lemma run_sampleReturned {ok : RelayNet ℤ sampleSolders → RelayEvent sampleSolders → Prop}
    (hok : ok sampleOnAir (.deliver sampleMoment sampleChunk))
    {next : Except Exn Bool → Prog RetryOp RetryOp.Ans (Except Exn Unit)}
    (hnext : sampleLoop.run = Prog.call (.send sampleChunk) next) :
    RelayRun "!client" 7 ok ⟨some sampleLoop.run, RelayNet.start sampleClient exhaustedGateway⟩
      ⟨some (next (.ok true)), sampleReturned⟩ := by
  have hsend : relayExec ok (.send sampleChunk) (RelayNet.start sampleClient exhaustedGateway)
      (.ok true) sampleOnAir := Or.inl rfl
  have hmem : sampleChunk ∈ sampleOnAir.uplink := List.mem_singleton.mpr rfl
  have hreply : rateLimitedReply.frame 2 7 ∈
      (sampleOnAir.deliver "!client" sampleMoment sampleChunk).downlink := by decide +kernel
  have hwait : sampleRefused.client.Waits 7 (some (.failure (ofString "Rate limited")))
      { sampleRefused.client with results := sampleRefused.client.results.erase 7 } :=
    Or.inr ⟨_, by decide +kernel, rfl, rfl⟩
  rw [hnext]
  exact ⟨_, .cons (.own hsend) (.cons (.others (.deliver hmem hok)) (.cons (.others (.reply hreply))
    (.cons (.others (.wait hwait)) (.nil _))))⟩

set_option maxRecDepth 10000 in
/-- **A failure need not be final**: a chunk is refused by the rate limiter and a wait returns this
failure, but the retry loop sends the chunk again, and the gateway broadcasts the transaction. -/
theorem not_failure_final :
    ∃ (client client' : ClientNode) (loop : RetryLoop Unit) (c : Relaying ℤ sampleSolders),
      relayRawTx (sampleTransaction 5) 7 client = .ok (loop, client') ∧
      client.results.get? 7 = none ∧
      RelayRun "!client" 7 AnyStep ⟨some loop.run, RelayNet.start client' exhaustedGateway⟩ c ∧
      (∃ error, .failure error ∈ c.state.returned) ∧
      c.state.confirmed = [sampleTransaction 5] := by
  obtain ⟨next₁, next₂, next₃, next₄, h₁, h₂, h₃, h₄⟩ := exists_next_sampleLoop
  have hrefused : RelayRun "!client" 7 AnyStep
      ⟨some sampleLoop.run, RelayNet.start sampleClient exhaustedGateway⟩
      ⟨some (next₁ (.ok true)), sampleReturned⟩ := run_sampleReturned trivial h₁
  obtain ⟨ls, hsteps⟩ := hrefused
  have hunacked : ([] : List ℕ) = (sampleReturned.client.ackedChunks.get? 7).getD [] := by
    decide +kernel
  have hsend : relayExec AnyStep (.send sampleChunk) sampleReturned (.ok true) sampleResent :=
    Or.inl rfl
  have hmem : sampleChunk ∈ sampleResent.uplink := List.mem_cons_self
  have hresend : (relayHost "!client" 7 AnyStep).Steps (fun _ => False)
      ⟨some (next₁ (.ok true)), sampleReturned⟩
      [.own (.sleep ackTimeout) (), .own (.acked 7) [], .own (.send sampleChunk) (.ok true),
        .others]
      ⟨some (next₄ (.ok true)), sampleResent.deliver "!client" laterMoment sampleChunk⟩ := by
    rw [h₂]
    refine .cons (.own rfl) ?_
    rw [h₃]
    refine .cons (.own ⟨hunacked, rfl⟩) ?_
    rw [h₄]
    exact .cons (.own hsend) (.cons (.others (.deliver hmem trivial)) (.nil _))
  have hconfirmed : (sampleResent.deliver "!client" laterMoment sampleChunk).confirmed =
      [sampleTransaction 5] := by decide +kernel
  exact ⟨ClientNode.new, sampleClient, sampleLoop, _, relayRawTx_sample, rfl,
    ⟨_, hsteps.append hresend⟩, ⟨_, List.mem_singleton.mpr rfl⟩, hconfirmed⟩

/-- In the run in which the chunk is refused and a wait returns the failure, nothing is executed:
the failure is final. -/
theorem failure_final_refused :
    ∃ next, RelayRun "!client" 7 (Course.unexecuted.Allows (sampleTransaction 5) "!client")
        ⟨some sampleLoop.run, RelayNet.start sampleClient exhaustedGateway⟩
        ⟨some next, sampleReturned⟩ ∧
      .failure (ofString "Rate limited") ∈ sampleReturned.returned ∧
      sampleReturned.confirmed = [] ∧
      ∀ c', RelayRun "!client" 7 (Course.unexecuted.Allows (sampleTransaction 5) "!client")
        ⟨some next, sampleReturned⟩ c' → c'.state.confirmed = [] := by
  obtain ⟨next₁, _, _, _, hnext, _⟩ := exists_next_sampleLoop
  have hempty : ¬ sampleOnAir.gateway.HasToken sampleMoment "!client" := by
    rw [← GatewayNode.admits_iff]
    decide +kernel
  have hrun : RelayRun "!client" 7 (Course.unexecuted.Allows (sampleTransaction 5) "!client")
      ⟨some sampleLoop.run, RelayNet.start sampleClient exhaustedGateway⟩
      ⟨some (next₁ (.ok true)), sampleReturned⟩ :=
    run_sampleReturned (fun hall => hempty hall.1) hnext
  have hin : TxOutcome.failure (ofString "Rate limited") ∈ sampleReturned.returned :=
    List.mem_singleton.mpr rfl
  obtain ⟨hconfirmed, hlater⟩ :=
    (failure_final relayRawTx_sample rfl rfl .unexecuted hrun).1 _ hin
  exact ⟨next₁ (.ok true), hrun, hin, hconfirmed, hlater⟩

end SolMesh
