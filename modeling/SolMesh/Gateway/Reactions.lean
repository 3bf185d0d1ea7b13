import SolMesh.Foundations.Budget
import SolMesh.Foundations.LastWrite
import SolMesh.Gateway.Service
import SolMesh.Mesh.Provenance

set_option relaxedAutoImplicit false
set_option autoImplicit false

/-!
# What a gateway does about an input

Each input adds to the record of effects, asks the rate limiter at most once and hands the
reassembler at most one chunk. What it adds has a reason: a frame answers the sender of the packet,
and a transaction is one that the input completes, asks for or submits.

## Main definitions

* `SolMesh.Gateway.reaction` — the effects of an input.
* `SolMesh.GatewayInput.limiterCall`, `SolMesh.Gateway.admittedChunk` — what an input asks of the
  rate limiter and of the reassembler.
* `SolMesh.Gateway.Causes`, `SolMesh.Gateway.Sends` — the input makes the gateway broadcast a
  transaction or send a frame.
* `SolMesh.Gateway.Justified` — what all effects of an input have in common.

## Main results

* `SolMesh.Gateway.justified_reaction` — the effects of every input are justified.
* `SolMesh.Gateway.events_after` — a run records the effects of its inputs one after the other.
* `SolMesh.Gateway.rateLimiter_after`, `SolMesh.Gateway.reassembler_after`,
  `SolMesh.Gateway.knownAddresses_after` — the components after a run.
-/

namespace SolMesh

open Py Text

variable {F : Type} {S : Solders}

/-! ## Calls of an input -/

namespace GatewayInput

/-- The call of the rate limiter that an input makes, if it makes one. -/
def limiterCall (config : ServiceConfig F) : GatewayInput F S → Option AllowCall
  | .packet env p =>
    match p.message with
    | none => none
    | some (header, _) =>
      if header.msgType ∈ Gateway.limitedTypes then
        some ⟨p.senderId, env.bucketCreation, env.now⟩
      else none
  | .beacon _ _ => none
  | .http env xApiKey _ =>
    if config.servesHttp = true ∧ config.accepts xApiKey = true then
      some ⟨httpBucket xApiKey, env.bucketCreation, env.now⟩
    else none

/-- The chunk in an input, as it is handed to the reassembler. -/
def chunkCall : GatewayInput F S → Option ChunkCall
  | .packet env p =>
    match p.message with
    | none => none
    | some (header, payload) =>
      if header.msgType = MsgType.txChunk then
        some ⟨env.clock, p.senderId, header.msgId.toNat, header.chunkNum.toNat,
          header.totalChunks.toNat, payload⟩
      else none
  | .beacon _ _ => none
  | .http _ _ _ => none

/-- The address that an input shares, under its sender. -/
def share : GatewayInput F S → Option (String × Bytes)
  | .packet _ p =>
    match p.message with
    | none => none
    | some (header, payload) =>
      if header.msgType = MsgType.addrShare then
        match decodeAddrShare payload with
        | .error _ => none
        | .ok data => some (p.senderId, data.pubkey)
      else none
  | .beacon _ _ => none
  | .http _ _ _ => none

/-- Whom frames may be sent to about an input; the empty name stands for all nodes. -/
def addressee : GatewayInput F S → Option String
  | .packet _ p => some p.senderId
  | .beacon _ _ => some ""
  | .http _ _ _ => none

end GatewayInput

namespace Gateway

/-- Does the rate limiter let the input through? -/
def grants (gw : Gateway F S) (input : GatewayInput F S) : Bool :=
  match input.limiterCall gw.config with
  | none => false
  | some c => (gw.node.rateLimiter.isAllowed c.senderId c.creation c.now).1

/-- The chunk that an input hands to the reassembler, if it gets there. -/
def admittedChunk (gw : Gateway F S) (input : GatewayInput F S) : Option ChunkCall :=
  if gw.grants input then input.chunkCall else none

variable [Number F] [LT F] [DecidableLT F]

/-- What the gateway does about an input. -/
def reaction (H : Hashes S) (gw : Gateway F S) (input : GatewayInput F S) : List GatewayEvent :=
  (gw.next H input).node.events.drop gw.node.events.length

/-- **The input makes the gateway broadcast the transaction**: it completes it, or asks for it, or
submits it. -/
inductive Causes (gw : Gateway F S) : GatewayInput F S → Bytes → Prop
  | completes {env : Surroundings S} {packet : Packet} {header : SolMeshHeader}
      {payload txBytes : Bytes} (hmessage : packet.message = some (header, payload))
      (htype : header.msgType = MsgType.txChunk)
      (hcompleted : gw.node.completed env.toMoment header payload packet.senderId =
        some txBytes) : Causes gw (.packet env packet) txBytes
  | requests {env : Surroundings S} {packet : Packet} {header : SolMeshHeader}
      {payload txBytes : Bytes} {keypair : S.Keypair} {req : TxRequest}
      {recentBlockhash : S.Blockhash} (hmessage : packet.message = some (header, payload))
      (htype : header.msgType = MsgType.txRequest) (hadm : Admitted gw.node payload keypair req)
      (htx : IsTransferOf S keypair req recentBlockhash txBytes) :
      Causes gw (.packet env packet) txBytes
  | submits {env : Surroundings S} {xApiKey : String} {req : TransferRequest F} {txBytes : Bytes}
      (haccepts : gw.config.accepts xApiKey = true)
      (htransfer : IsAdmittedTransfer env.toMoment gw.node req txBytes) :
      Causes gw (.http env xApiKey (.transfer req)) txBytes

/-- **The input makes the gateway send the frame**: a reply, the acknowledgement of a chunk or an
address share, the answer to a query, or a beacon. -/
inductive Sends (H : Hashes S) (gw : Gateway F S) : GatewayInput F S → Bytes → Prop
  | reply {env : Surroundings S} {packet : Packet} {header : SolMeshHeader} {payload : Bytes}
      (r : Reply) (hmessage : packet.message = some (header, payload))
      (htype : header.msgType ∈ limitedTypes) (hfits : r.Fits) :
      Sends H gw (.packet env packet) (r.frame env.replyId header.msgId)
  | ack {env : Surroundings S} {packet : Packet} {header : SolMeshHeader} {payload : Bytes}
      (hmessage : packet.message = some (header, payload))
      (htype : header.msgType = MsgType.txChunk) :
      Sends H gw (.packet env packet) (ackFrame env.ackId header)
  | balance {env : Surroundings S} {packet : Packet} {header : SolMeshHeader} {payload : Bytes}
      {req : BalanceReq} {pubkey : Pubkey} (hmessage : packet.message = some (header, payload))
      (htype : header.msgType = MsgType.balanceReq) (hreq : decodeBalanceReq payload = .ok req)
      (hkey : pubkey.val = req.pubkey)
      (hfits : 0 ≤ env.amount pubkey req.mint ∧ env.amount pubkey req.mint < 256 ^ 8) :
      Sends H gw (.packet env packet)
        (balanceRespFrame env.replyId pubkey.val (env.amount pubkey req.mint).toNat req.mint)
  | blockhash {env : Surroundings S} {packet : Packet} {header : SolMeshHeader} {payload : Bytes}
      {blockhash : S.Blockhash} (hmessage : packet.message = some (header, payload))
      (htype : header.msgType = MsgType.blockhashReq)
      (hrpc : env.rpc.getLatestBlockhash = .ok blockhash) :
      Sends H gw (.packet env packet) (blockhashRespFrame env.replyId (H.toBytes blockhash))
  | share {env : Surroundings S} {packet : Packet} {header : SolMeshHeader} {payload : Bytes}
      {data : AddrShare} (hmessage : packet.message = some (header, payload))
      (htype : header.msgType = MsgType.addrShare) (hdata : decodeAddrShare payload = .ok data) :
      Sends H gw (.packet env packet) (shareAckFrame env.ackId header.msgId)
  | beacon {env : Surroundings S} {now : ℚ} (hfits : gw.UptimeFits now) :
      Sends H gw (.beacon env now) ((gw.beacon now).frame env.replyId)

/-- **The effects are justified**: at most two frames are sent and at most one transaction is
broadcast; a frame is one that the input makes the gateway send, and goes to the one the input is
from; and a transaction is one that the input causes, and that the rate limiter let through. -/
structure Justified (H : Hashes S) (gw : Gateway F S) (input : GatewayInput F S)
    (events : List GatewayEvent) : Prop where
  frames : (sentFrames events).length ≤ 2
  broadcasts : broadcasts events ≤ 1
  sent : ∀ frame destinationId wantAck, .meshSend frame destinationId wantAck ∈ events →
    input.addressee = some destinationId ∧ gw.Sends H input frame
  caused : ∀ txBytes, .sendRawTransaction txBytes ∈ events →
    gw.grants input = true ∧ gw.Causes input txBytes

/-! ## The parts of an effect -/

section Parts

@[simp] lemma sentFrames_nil : sentFrames [] = [] := rfl

@[simp] lemma sentFrames_append (xs ys : List GatewayEvent) :
    sentFrames (xs ++ ys) = sentFrames xs ++ sentFrames ys := List.filterMap_append

/-- Calls of the RPC node send no frames. -/
lemma sentFrames_eq_nil {events : List GatewayEvent}
    (h : ∀ frame destinationId wantAck, .meshSend frame destinationId wantAck ∉ events) :
    sentFrames events = [] := by
  apply List.filterMap_eq_nil_iff.mpr
  intro event hevent
  cases event with
  | meshSend frame destinationId wantAck => exact absurd hevent (h frame destinationId wantAck)
  | getLatestBlockhash | getAccountInfo | sendRawTransaction => rfl

variable {env : Surroundings S} {txBytes : Bytes}

omit [Number F] [LT F] [DecidableLT F] in
/-- A broadcast sends no frames. -/
lemma not_mem_broadcast (rpc : Rpc S) (txBytes frame : Bytes) (destinationId : String)
    (wantAck : Bool) : .meshSend frame destinationId wantAck ∉ (rpc.broadcast txBytes).1 := by
  intro hmem
  cases mem_broadcast_calls hmem

omit [LT F] [DecidableLT F] in
/-- The calls of the request handler send no frames.

**Proof sketch.** One case for each exit of the handler. Those before the blockhash make no call;
the others ask for the blockhash, make the calls of the transfer (`mem_transfer_calls`), and
broadcast. -/
lemma not_mem_of_txRequestExit {moment : Moment S} {g : GatewayNode F S} {payload : Bytes}
    {calls : List GatewayEvent} {reply : Except Exn Reply}
    (h : TxRequestExit moment g payload calls reply) (frame : Bytes) (destinationId : String)
    (wantAck : Bool) : .meshSend frame destinationId wantAck ∉ calls := by
  intro hmem
  have htransfer : ∀ {keypair : S.Keypair} {req : TxRequest} {recentBlockhash : S.Blockhash}
      {dest : Pubkey}, GatewayEvent.meshSend frame destinationId wantAck ∉
        (moment.rpc.transfer keypair req recentBlockhash dest).1 := by
    intro keypair req recentBlockhash dest hmem
    obtain ⟨address, heq⟩ := mem_transfer_calls hmem
    cases heq
  cases h with
  | noHotWallet | malformed | badSignature | notAllowed | unsupportedToken | amountExceeded
  | limitUndefined => cases hmem
  | noBlockhash => cases List.mem_singleton.mp hmem
  | notCreated =>
    rcases List.mem_cons.mp hmem with heq | hmem
    · cases heq
    · exact htransfer hmem
  | broadcast =>
    rcases List.mem_cons.mp hmem with heq | hmem
    · cases heq
    · rcases List.mem_append.mp hmem with hmem | hmem
      · exact htransfer hmem
      · exact not_mem_broadcast _ _ _ _ _ hmem

/-- The calls of the transfer endpoint send no frames.

**Proof sketch.** One case for each exit: the endpoint asks for the blockhash and for accounts, and
broadcasts. -/
lemma not_mem_of_transferExit {moment : Moment S} {g : GatewayNode F S} {req : TransferRequest F}
    {calls : List GatewayEvent} (h : TransferExit moment g req calls) (frame : Bytes)
    (destinationId : String) (wantAck : Bool) :
    .meshSend frame destinationId wantAck ∉ calls := by
  intro hmem
  have hcreate : ∀ {calls : List GatewayEvent},
      (∀ event ∈ calls, ∃ address, event = .getAccountInfo address) →
        GatewayEvent.meshSend frame destinationId wantAck ∉
          GatewayEvent.getLatestBlockhash :: calls := by
    intro calls hcalls hmem
    rcases List.mem_cons.mp hmem with heq | hmem
    · cases heq
    · obtain ⟨address, heq⟩ := hcalls _ hmem
      cases heq
  cases h with
  | refused => cases hmem
  | noBlockhash => cases List.mem_singleton.mp hmem
  | notCreated hcalls => exact hcreate hcalls hmem
  | broadcast hcalls htransfer =>
    rcases List.mem_append.mp hmem with hmem | hmem
    · exact hcreate hcalls hmem
    · exact not_mem_broadcast _ _ _ _ _ hmem

/-- The transfer endpoint broadcasts at most one transaction.

**Proof sketch.** One case for each exit: only the last one broadcasts, once. -/
lemma broadcasts_of_transferExit {moment : Moment S} {g : GatewayNode F S}
    {req : TransferRequest F} {calls : List GatewayEvent} (h : TransferExit moment g req calls) :
    SolMesh.broadcasts calls ≤ 1 := by
  have hcreate : ∀ {calls : List GatewayEvent},
      (∀ event ∈ calls, ∃ address, event = .getAccountInfo address) →
        SolMesh.broadcasts (.getLatestBlockhash :: calls) = 0 := by
    intro calls hcalls
    rw [broadcasts_getLatestBlockhash]
    apply broadcasts_eq_zero
    rintro event hevent txBytes rfl
    obtain ⟨address, heq⟩ := hcalls _ hevent
    cases heq
  cases h with
  | refused => exact Nat.zero_le 1
  | noBlockhash => exact Nat.zero_le 1
  | notCreated hcalls => exact (hcreate hcalls).le.trans (Nat.zero_le 1)
  | broadcast hcalls htransfer =>
    rw [broadcasts_append, hcreate hcalls, Nat.zero_add]
    exact broadcasts_broadcast_le _ _

/-- At most one frame is sent: one that the input makes the gateway send, to the one the input is
from. -/
def Answers (H : Hashes S) (gw : Gateway F S) (input : GatewayInput F S)
    (events : List GatewayEvent) : Prop :=
  events = [] ∨ ∃ frame destinationId wantAck,
    events = [.meshSend frame destinationId wantAck] ∧
      input.addressee = some destinationId ∧ gw.Sends H input frame

variable {H : Hashes S} {gw : Gateway F S} {input : GatewayInput F S}
  {acks calls answer : List GatewayEvent}

omit [Number F] [LT F] [DecidableLT F] in
lemma answers_nil (H : Hashes S) (gw : Gateway F S) (input : GatewayInput F S) :
    Answers H gw input [] := Or.inl rfl

omit [Number F] [LT F] [DecidableLT F] in
lemma answers_singleton {frame : Bytes} (h : gw.Sends H input frame) {destinationId : String}
    (haddressee : input.addressee = some destinationId) (wantAck : Bool) :
    Answers H gw input [.meshSend frame destinationId wantAck] :=
  Or.inr ⟨frame, destinationId, wantAck, rfl, haddressee, h⟩

section Packets

variable {packet : Packet} {header : SolMeshHeader} {payload : Bytes}

omit [Number F] [LT F] [DecidableLT F] in
/-- A reply is an answer. -/
lemma answers_sent (r : Reply) (hmessage : packet.message = some (header, payload))
    (htype : header.msgType ∈ limitedTypes) :
    Answers H gw (.packet env packet) (r.sent env.toMoment header.msgId packet.senderId) := by
  unfold Reply.sent
  split_ifs with hfits
  · exact answers_singleton (.reply r hmessage htype hfits) rfl _
  · exact answers_nil _ _ _

omit [Number F] [LT F] [DecidableLT F] in
/-- So is the reply that ends a run of the request handler. -/
lemma answers_sentReply (reply : Except Exn Reply)
    (hmessage : packet.message = some (header, payload)) (htype : header.msgType ∈ limitedTypes) :
    Answers H gw (.packet env packet) (sentReply env reply header.msgId packet.senderId) := by
  cases reply with
  | error e => exact answers_nil _ _ _
  | ok r => exact answers_sent r hmessage htype

omit [Number F] [LT F] [DecidableLT F] in
/-- So is the answer to a query for a balance. -/
lemma answers_balanceReply {req : BalanceReq} {pubkey : Pubkey}
    (hmessage : packet.message = some (header, payload))
    (htype : header.msgType = MsgType.balanceReq) (hreq : decodeBalanceReq payload = .ok req)
    (hkey : pubkey.val = req.pubkey) :
    Answers H gw (.packet env packet) (env.balanceReply pubkey req.mint packet.senderId) := by
  unfold Surroundings.balanceReply
  split_ifs with hfits
  · exact answers_singleton (.balance hmessage htype hreq hkey hfits) rfl _
  · exact answers_nil _ _ _

end Packets

omit [Number F] [LT F] [DecidableLT F] in
/-- An answer is one frame at most. -/
lemma Answers.length_le (h : Answers H gw input answer) : (sentFrames answer).length ≤ 1 := by
  rcases h with rfl | ⟨frame, destinationId, wantAck, rfl, _⟩
  · exact Nat.zero_le 1
  · exact le_refl 1

omit [Number F] [LT F] [DecidableLT F] in
/-- An answer is a frame that is sent for a reason. -/
lemma Answers.eq_of_mem (h : Answers H gw input answer) {event : GatewayEvent}
    (hevent : event ∈ answer) : ∃ frame destinationId wantAck,
      event = .meshSend frame destinationId wantAck ∧
        input.addressee = some destinationId ∧ gw.Sends H input frame := by
  rcases h with rfl | ⟨frame, destinationId, wantAck, rfl, hreason⟩
  · cases hevent
  · exact ⟨frame, destinationId, wantAck, List.mem_singleton.mp hevent, hreason⟩

omit [Number F] [LT F] [DecidableLT F] in
/-- An answer is no broadcast. -/
lemma Answers.not_mem (h : Answers H gw input answer) (txBytes : Bytes) :
    .sendRawTransaction txBytes ∉ answer := by
  intro hmem
  obtain ⟨frame, destinationId, wantAck, heq, _⟩ := h.eq_of_mem hmem
  cases heq

omit [Number F] [LT F] [DecidableLT F] in
/-- An answer broadcasts nothing. -/
lemma Answers.broadcasts (h : Answers H gw input answer) : SolMesh.broadcasts answer = 0 := by
  apply broadcasts_eq_zero
  rintro event hevent txBytes rfl
  exact h.not_mem txBytes hevent

/-- **Effects that consist of an acknowledgement, calls and an answer** are justified if the calls
are.

**Proof sketch.** The frames are those of the two parts that answer, as the calls send none, and
each of them has the reason that its part gives. The broadcasts are those of the calls, as answers
broadcast nothing. -/
lemma justified_of_parts (hacks : Answers H gw input acks) (hanswer : Answers H gw input answer)
    (hcalls : ∀ frame destinationId wantAck, .meshSend frame destinationId wantAck ∉ calls)
    (hbroadcasts : SolMesh.broadcasts calls ≤ 1)
    (hcaused : ∀ txBytes, .sendRawTransaction txBytes ∈ calls →
      gw.grants input = true ∧ gw.Causes input txBytes) :
    Justified H gw input (acks ++ (calls ++ answer)) where
  frames := by
    have hfirst := hacks.length_le
    have hlast := hanswer.length_le
    simp only [sentFrames_append, sentFrames_eq_nil hcalls, List.length_append, List.length_nil]
    omega
  broadcasts := by
    rw [broadcasts_append, broadcasts_append, hacks.broadcasts, hanswer.broadcasts]
    omega
  sent := by
    intro frame destinationId wantAck hmem
    have hsent : ∀ {events : List GatewayEvent}, Answers H gw input events →
        .meshSend frame destinationId wantAck ∈ events →
          input.addressee = some destinationId ∧ gw.Sends H input frame := by
      intro events hevents hmem
      obtain ⟨_, _, _, heq, hreason⟩ := hevents.eq_of_mem hmem
      cases heq
      exact hreason
    rcases List.mem_append.mp hmem with hmem | hmem
    · exact hsent hacks hmem
    · exact hsent hanswer ((List.mem_append.mp hmem).resolve_left (hcalls _ _ _))
  caused := by
    intro txBytes hmem
    have hrest := (List.mem_append.mp hmem).resolve_left (hacks.not_mem txBytes)
    exact hcaused txBytes ((List.mem_append.mp hrest).resolve_right (hanswer.not_mem txBytes))

/-- Nothing at all is justified. -/
lemma justified_nil (H : Hashes S) (gw : Gateway F S) (input : GatewayInput F S) :
    Justified H gw input [] :=
  ⟨Nat.zero_le 2, Nat.zero_le 1, fun _ _ _ h => absurd h List.not_mem_nil,
    fun _ h => absurd h List.not_mem_nil⟩

/-- An answer alone is justified. -/
lemma justified_of_answers (hanswer : Answers H gw input answer) :
    Justified H gw input answer := by
  have hparts : Justified H gw input ([] ++ ([] ++ answer)) :=
    justified_of_parts (answers_nil _ _ _) hanswer (fun _ _ _ h => absurd h List.not_mem_nil)
      (Nat.zero_le 1) (fun _ h => absurd h List.not_mem_nil)
  exact hparts

end Parts

/-! ## One input -/

section Inputs

variable {H : Hashes S} {gw gw' : Gateway F S} {env : Surroundings S} {packet : Packet}
  {header : SolMeshHeader} {payload : Bytes} {input : GatewayInput F S}

omit [Number F] [LT F] [DecidableLT F] in
/-- A packet whose handler checks the rate limit asks for its sender. -/
lemma limiterCall_packet (config : ServiceConfig F) (env : Surroundings S)
    (hmessage : packet.message = some (header, payload)) (htype : header.msgType ∈ limitedTypes) :
    (GatewayInput.packet env packet).limiterCall config =
      some ⟨packet.senderId, env.bucketCreation, env.now⟩ := by
  rw [GatewayInput.limiterCall, hmessage]
  exact if_pos htype

omit [Number F] [LT F] [DecidableLT F] in
/-- Other packets do not ask. -/
lemma limiterCall_packet_of_not_mem (config : ServiceConfig F) (env : Surroundings S)
    (h : ∀ header payload, packet.message = some (header, payload) →
      header.msgType ∉ limitedTypes) :
    (GatewayInput.packet (F := F) env packet).limiterCall config = none := by
  rw [GatewayInput.limiterCall]
  cases hmessage : packet.message with
  | none => rfl
  | some message => exact if_neg (h _ _ hmessage)

omit [Number F] [LT F] [DecidableLT F] in
/-- The rate limiter lets a packet through if it admits its sender. -/
lemma grants_packet (gw : Gateway F S) (env : Surroundings S)
    (hmessage : packet.message = some (header, payload)) (htype : header.msgType ∈ limitedTypes) :
    gw.grants (.packet env packet) = gw.admits env packet.senderId := by
  rw [grants, limiterCall_packet gw.config env hmessage htype]
  rfl

omit [Number F] [LT F] [DecidableLT F] in
/-- A request over HTTP with the key asks for the bucket of the key. -/
lemma limiterCall_http {config : ServiceConfig F} {xApiKey : String}
    (h : config.servesHttp = true ∧ config.accepts xApiKey = true) (env : Surroundings S)
    (request : ApiRequest F) :
    (GatewayInput.http env xApiKey request).limiterCall config =
      some ⟨httpBucket xApiKey, env.bucketCreation, env.now⟩ := if_pos h

/-- **What an input adds to the record is justified.**

**Proof sketch.** One case for each step. A chunk adds its acknowledgement, the broadcast and the
answer if it completes a transaction; a request adds the calls of its exit and the reply; the other
packets and the beacon add one answer, or nothing. A call of the server adds what its endpoint does,
which sends no frames. -/
lemma Step.exists_events (h : Step H gw input gw') :
    ∃ events, gw'.node.events = gw.node.events ++ events ∧ Justified H gw input events := by
  cases h with
  | ignored | malformedShare | noBeacon | httpRefused =>
    exact ⟨[], (List.append_nil _).symm, justified_nil _ _ _⟩
  | malformedQuery | httpLimited => exact ⟨[], (List.append_nil _).symm, justified_nil _ _ _⟩
  | refused hmessage htype =>
    exact ⟨_, rfl, justified_of_answers
      (answers_singleton (.reply rateLimitedReply hmessage htype rateLimitedReply_fits) rfl _)⟩
  | @chunk env packet header payload hmessage htype hadmits =>
    have hlimited : header.msgType ∈ limitedTypes := by
      rw [htype]
      decide
    have hack : Answers H gw (.packet env packet)
        [.meshSend (ackFrame env.ackId header) packet.senderId false] :=
      answers_singleton (.ack hmessage htype) rfl _
    have hevents := List.append_assoc gw.node.events
      [.meshSend (ackFrame env.ackId header) packet.senderId false]
      (gw.completion env header payload packet.senderId)
    refine ⟨_, hevents, ?_⟩
    unfold completion
    cases hcompleted : gw.node.completed env.toMoment header payload packet.senderId with
    | none => exact justified_of_answers hack
    | some data =>
      refine justified_of_parts hack (answers_sent _ hmessage hlimited) (not_mem_broadcast _ _)
        (broadcasts_broadcast_le _ _) fun txBytes hmem => ?_
      cases mem_broadcast_calls hmem
      rw [grants_packet gw env hmessage hlimited]
      exact ⟨hadmits, .completes hmessage htype hcompleted⟩
  | @request env packet header payload calls reply hmessage htype hadmits hexit =>
    have hlimited : header.msgType ∈ limitedTypes := by
      rw [htype]
      decide
    refine ⟨[] ++ (calls ++ sentReply env reply header.msgId packet.senderId), rfl, ?_⟩
    refine justified_of_parts (answers_nil _ _ _) (answers_sentReply _ hmessage hlimited)
      (not_mem_of_txRequestExit hexit) hexit.broadcasts_le fun txBytes hmem => ?_
    obtain ⟨keypair, req, recentBlockhash, hadm, _, htx, _⟩ := hexit.of_sendRawTransaction hmem
    rw [grants_packet gw env hmessage hlimited]
    exact ⟨hadmits, .requests hmessage htype hadm htx⟩
  | balance hmessage htype hadmits hreq hkey =>
    exact ⟨_, rfl, justified_of_answers (answers_balanceReply hmessage htype hreq hkey)⟩
  | @blockhash env packet header payload hmessage htype hadmits =>
    have hanswer : ∃ answer, env.blockhashCalls H header.msgId packet.senderId =
        [.getLatestBlockhash] ++ answer ∧ Answers H gw (.packet env packet) answer := by
      refine ⟨_, rfl, ?_⟩
      cases hrpc : env.rpc.getLatestBlockhash with
      | error e => exact answers_sent _ hmessage (by rw [htype]; decide)
      | ok blockhash => exact answers_singleton (.blockhash hmessage htype hrpc) rfl _
    obtain ⟨answer, hcalls, hanswer⟩ := hanswer
    refine ⟨[] ++ ([.getLatestBlockhash] ++ answer), congrArg (gw.node.events ++ ·) hcalls, ?_⟩
    refine justified_of_parts (answers_nil _ _ _) hanswer ?_ (Nat.zero_le 1) ?_
    · intro frame destinationId wantAck hmem
      cases List.mem_singleton.mp hmem
    · intro txBytes hmem
      cases List.mem_singleton.mp hmem
  | share hmessage htype hdata =>
    exact ⟨_, rfl, justified_of_answers (answers_singleton (.share hmessage htype hdata) rfl _)⟩
  | beacon hfits =>
    exact ⟨_, rfl, justified_of_answers (answers_singleton (.beacon hfits) rfl _)⟩
  | @http env xApiKey request calls queries haccepts hadmits hcalls =>
    have hgrants : gw.grants (.http env xApiKey request) = true := by
      rw [grants, limiterCall_http haccepts env request]
      exact hadmits
    refine ⟨calls, rfl, ?_⟩
    rcases hcalls with ⟨req, rfl, hexit⟩ | rfl | rfl
    · have hframes := not_mem_of_transferExit hexit
      refine ⟨?_, broadcasts_of_transferExit hexit, fun _ _ _ hmem => absurd hmem (hframes _ _ _),
        fun txBytes hmem => ⟨hgrants, ?_⟩⟩
      · rw [sentFrames_eq_nil hframes]
        exact Nat.zero_le 2
      · exact .submits haccepts.2 (hexit.of_sendRawTransaction hmem)
    · exact justified_nil _ _ _
    · refine ⟨Nat.zero_le 2, Nat.zero_le 1, fun _ _ _ hmem => ?_, fun txBytes hmem => ?_⟩
      · cases List.mem_singleton.mp hmem
      · cases List.mem_singleton.mp hmem

/-- The record grows by the effects of the input. -/
lemma events_next (H : Hashes S) (gw : Gateway F S) (input : GatewayInput F S) :
    (gw.next H input).node.events = gw.node.events ++ gw.reaction H input := by
  obtain ⟨events, hevents, _⟩ := (step_next H gw input).exists_events
  rw [reaction, hevents, List.drop_left]

/-- **The effects of every input are justified.** -/
lemma justified_reaction (H : Hashes S) (gw : Gateway F S) (input : GatewayInput F S) :
    Justified H gw input (gw.reaction H input) := by
  obtain ⟨events, hevents, hjustified⟩ := (step_next H gw input).exists_events
  rw [reaction, hevents, List.drop_left]
  exact hjustified

/-! ### The components -/

/-- What no input changes: the configuration, the hot wallet and the time of the start. -/
structure SameSetup (gw gw' : Gateway F S) : Prop where
  config : gw'.config = gw.config
  limits : gw'.node.config = gw.node.config
  hotKeypair : gw'.node.hotKeypair = gw.node.hotKeypair
  startTime : gw'.startTime = gw.startTime

/-- An input leaves the setup as it is. -/
lemma Step.sameSetup (h : Step H gw input gw') : SameSetup gw gw' := by
  cases h <;> exact ⟨rfl, rfl, rfl, rfl⟩

omit [Number F] [LT F] [DecidableLT F] in
/-- A gateway has its own setup. -/
lemma SameSetup.refl (gw : Gateway F S) : SameSetup gw gw := ⟨rfl, rfl, rfl, rfl⟩

/-- A setup is kept by one more input. -/
lemma SameSetup.next (h : SameSetup gw gw') (H : Hashes S) (input : GatewayInput F S) :
    SameSetup gw (gw'.next H input) := by
  have hstep := (step_next H gw' input).sameSetup
  exact ⟨hstep.config.trans h.config, hstep.limits.trans h.limits,
    hstep.hotKeypair.trans h.hotKeypair, hstep.startTime.trans h.startTime⟩

omit [Number F] [LT F] [DecidableLT F] in
/-- A packet that hands over no chunk. -/
lemma chunkCall_packet_of_ne (env : Surroundings S)
    (h : ∀ header payload, packet.message = some (header, payload) →
      header.msgType ≠ MsgType.txChunk) :
    (GatewayInput.packet (F := F) env packet).chunkCall = none := by
  rw [GatewayInput.chunkCall]
  cases hmessage : packet.message with
  | none => rfl
  | some message => exact if_neg (h _ _ hmessage)

omit [Number F] [LT F] [DecidableLT F] in
/-- A packet that hands over a chunk. -/
lemma chunkCall_packet (env : Surroundings S) (hmessage : packet.message = some (header, payload))
    (htype : header.msgType = MsgType.txChunk) :
    (GatewayInput.packet (F := F) env packet).chunkCall =
      some ⟨env.clock, packet.senderId, header.msgId.toNat, header.chunkNum.toNat,
        header.totalChunks.toNat, payload⟩ := by
  rw [GatewayInput.chunkCall, hmessage]
  exact if_pos htype

omit [Number F] [LT F] [DecidableLT F] in
/-- A property of the type of the message in a packet. -/
lemma forall_message {P : UInt8 → Prop} (hmessage : packet.message = some (header, payload))
    (h : P header.msgType) :
    ∀ header payload, packet.message = some (header, payload) → P header.msgType := by
  intro header' payload' hmessage'
  rw [hmessage] at hmessage'
  cases hmessage'
  exact h

/-- **What an input asks of the rate limiter**: at most one decision.

**Proof sketch.** One case for each step. A packet of a limited type asks about its sender
(`hasked`), and so does a call of the server with the right key about the bucket of the key; all
others ask nothing. -/
lemma Step.rateLimiter (h : Step H gw input gw') :
    gw'.node.rateLimiter = match input.limiterCall gw.config with
      | none => gw.node.rateLimiter
      | some c => gw.node.rateLimiter.call (.isAllowed c) := by
  have hasked : ∀ {env : Surroundings S} {packet : Packet} {header : SolMeshHeader}
      {payload : Bytes}, packet.message = some (header, payload) →
      header.msgType ∈ limitedTypes → (gw.limited env packet.senderId).node.rateLimiter =
        match (GatewayInput.packet env packet).limiterCall gw.config with
        | none => gw.node.rateLimiter
        | some c => gw.node.rateLimiter.call (.isAllowed c) := by
    intro env packet header payload hmessage htype
    rw [limiterCall_packet gw.config env hmessage htype]
    rfl
  cases h with
  | @ignored env packet h =>
    rw [limiterCall_packet_of_not_mem gw.config env fun header payload hmessage hmem =>
      h header payload hmessage (List.mem_append_left [MsgType.addrShare] hmem)]
  | refused hmessage htype => exact hasked hmessage htype
  | chunk hmessage htype => exact hasked hmessage (by rw [htype]; decide)
  | request hmessage htype => exact hasked hmessage (by rw [htype]; decide)
  | malformedQuery hmessage htype => exact hasked hmessage (by rw [htype]; decide)
  | balance hmessage htype => exact hasked hmessage (by rw [htype]; decide)
  | blockhash hmessage htype => exact hasked hmessage (by rw [htype]; decide)
  | @malformedShare env packet header payload e hmessage htype =>
    rw [limiterCall_packet_of_not_mem gw.config env
      (forall_message (P := (· ∉ limitedTypes)) hmessage (by rw [htype]; decide))]
  | @share env packet header payload data hmessage htype =>
    rw [limiterCall_packet_of_not_mem gw.config env
      (forall_message (P := (· ∉ limitedTypes)) hmessage (by rw [htype]; decide))]
    rfl
  | beacon => rfl
  | noBeacon => rfl
  | @httpRefused env xApiKey request h =>
    rw [GatewayInput.limiterCall, if_neg h]
  | @httpLimited env xApiKey request h =>
    rw [limiterCall_http h env request]
    rfl
  | @http env xApiKey request calls queries h =>
    rw [limiterCall_http h env request]
    rfl

/-- **What an input hands to the reassembler**: the chunk of a packet, if the packet is admitted.

**Proof sketch.** One case for each step. A packet that is refused is not granted a token, so its
chunk is not handed over; an admitted chunk is. All other inputs carry no chunk (`hother`). -/
lemma Step.reassembler (h : Step H gw input gw') :
    gw'.node.reassembler = match gw.admittedChunk input with
      | none => gw.node.reassembler
      | some c => (gw.node.reassembler.receive c).2 := by
  have hnone : input.chunkCall = none → gw'.node.reassembler = gw.node.reassembler →
      gw'.node.reassembler = match gw.admittedChunk input with
        | none => gw.node.reassembler
        | some c => (gw.node.reassembler.receive c).2 := by
    intro hcall heq
    unfold admittedChunk
    rw [hcall, ite_self]
    exact heq
  have hother : ∀ {env : Surroundings S} {packet : Packet} {header : SolMeshHeader}
      {payload : Bytes}, packet.message = some (header, payload) →
      header.msgType ≠ MsgType.txChunk →
        (GatewayInput.packet (F := F) env packet).chunkCall = none :=
    fun {env} {packet} {header} {payload} hmessage htype => chunkCall_packet_of_ne env
      (forall_message (P := (· ≠ MsgType.txChunk)) hmessage htype)
  cases h with
  | @ignored env packet h =>
    refine hnone (chunkCall_packet_of_ne env fun header payload hmessage htype => ?_) rfl
    exact h header payload hmessage (by rw [htype]; decide)
  | @refused env packet header payload hmessage htype hadmits =>
    rw [admittedChunk, grants_packet gw env hmessage htype, hadmits, if_neg Bool.false_ne_true]
    rfl
  | @chunk env packet header payload hmessage htype hadmits =>
    rw [admittedChunk, grants_packet gw env hmessage (by rw [htype]; decide), hadmits, if_pos rfl,
      chunkCall_packet env hmessage htype]
    rfl
  | request hmessage htype => exact hnone (hother hmessage (by rw [htype]; decide)) rfl
  | malformedQuery hmessage htype => exact hnone (hother hmessage (by rw [htype]; decide)) rfl
  | balance hmessage htype => exact hnone (hother hmessage (by rw [htype]; decide)) rfl
  | blockhash hmessage htype => exact hnone (hother hmessage (by rw [htype]; decide)) rfl
  | malformedShare hmessage htype => exact hnone (hother hmessage (by rw [htype]; decide)) rfl
  | share hmessage htype => exact hnone (hother hmessage (by rw [htype]; decide)) rfl
  | beacon | noBeacon | httpRefused | httpLimited | http => exact hnone rfl rfl

omit [Number F] [LT F] [DecidableLT F] in
/-- A packet that shares no address. -/
lemma share_packet_of_ne (env : Surroundings S)
    (h : ∀ header payload, packet.message = some (header, payload) →
      header.msgType ≠ MsgType.addrShare) :
    (GatewayInput.packet (F := F) env packet).share = none := by
  rw [GatewayInput.share]
  cases hmessage : packet.message with
  | none => rfl
  | some message => exact if_neg (h _ _ hmessage)

omit [Number F] [LT F] [DecidableLT F] in
/-- A packet that may share an address. -/
lemma share_packet (env : Surroundings S) (hmessage : packet.message = some (header, payload))
    (htype : header.msgType = MsgType.addrShare) :
    (GatewayInput.packet (F := F) env packet).share = match decodeAddrShare payload with
      | .error _ => none
      | .ok data => some (packet.senderId, data.pubkey) := by
  rw [GatewayInput.share, hmessage]
  exact if_pos htype

/-- **What an input writes to the address book**: the address that it shares.

**Proof sketch.** One case for each step. A packet of another type shares nothing (`hother`), and a
packet that may share an address does if it can be decoded. The other inputs share nothing. -/
lemma Step.knownAddresses (h : Step H gw input gw') :
    gw'.knownAddresses = gw.knownAddresses.assign input.share := by
  have hother : ∀ {env : Surroundings S} {packet : Packet} {header : SolMeshHeader}
      {payload : Bytes}, packet.message = some (header, payload) →
      header.msgType ≠ MsgType.addrShare → gw.knownAddresses =
        gw.knownAddresses.assign (GatewayInput.packet (F := F) env packet).share := by
    intro env packet header payload hmessage htype
    rw [share_packet_of_ne env (forall_message (P := (· ≠ MsgType.addrShare)) hmessage htype)]
    rfl
  cases h with
  | @ignored env packet h =>
    rw [share_packet_of_ne env fun header payload hmessage htype =>
      h header payload hmessage (by rw [htype]; decide)]
    rfl
  | @refused env packet header payload hmessage htype =>
    exact hother hmessage (by rintro heq; rw [heq] at htype; revert htype; decide)
  | chunk hmessage htype => exact hother hmessage (by rw [htype]; decide)
  | request hmessage htype => exact hother hmessage (by rw [htype]; decide)
  | malformedQuery hmessage htype => exact hother hmessage (by rw [htype]; decide)
  | balance hmessage htype => exact hother hmessage (by rw [htype]; decide)
  | blockhash hmessage htype => exact hother hmessage (by rw [htype]; decide)
  | @malformedShare env packet header payload e hmessage htype hdata =>
    rw [share_packet env hmessage htype, hdata]
    rfl
  | @share env packet header payload data hmessage htype hdata =>
    rw [share_packet env hmessage htype, hdata]
    rfl
  | beacon | noBeacon | httpRefused | httpLimited | http => rfl

end Inputs

/-! ## Runs -/

section Runs

variable (H : Hashes S) (gw : Gateway F S)

/-- A run leaves the setup as it is. -/
lemma sameSetup_after (inputs : List (GatewayInput F S)) : SameSetup gw (gw.after H inputs) :=
  Conc.foldl_keeps (fun _ input h => h.next H input) (.refl gw) inputs

/-- The calls of the rate limiter in a run. -/
def limiterCalls (config : ServiceConfig F) (inputs : List (GatewayInput F S)) :
    List LimiterCall := (inputs.filterMap (GatewayInput.limiterCall config)).map .isAllowed

/-- The chunks that a run hands to the reassembler. -/
def chunkCalls (gw : Gateway F S) : List (GatewayInput F S) → List ChunkCall
  | [] => []
  | input :: inputs => (gw.admittedChunk input).toList ++ (gw.next H input).chunkCalls inputs

/-- **A run records the effects of its inputs** one after the other. -/
lemma events_after (inputs : List (GatewayInput F S)) :
    (gw.after H inputs).node.events =
      gw.node.events ++ (Conc.along (next H) (reaction H) gw inputs).flatten := by
  induction inputs generalizing gw with
  | nil => exact (List.append_nil _).symm
  | cons input inputs ih =>
    have hrest := ih (gw.next H input)
    rw [events_next, List.append_assoc] at hrest
    exact hrest

/-- **The rate limiter after a run** is the one of the gateway before, after the calls. -/
lemma rateLimiter_after (inputs : List (GatewayInput F S)) :
    (gw.after H inputs).node.rateLimiter =
      gw.node.rateLimiter.after (limiterCalls gw.config inputs) := by
  induction inputs generalizing gw with
  | nil => rfl
  | cons input inputs ih =>
    have hrest := ih (gw.next H input)
    have hstep := (step_next H gw input).rateLimiter
    rw [(step_next H gw input).sameSetup.config, hstep] at hrest
    change ((gw.next H input).after H inputs).node.rateLimiter = _
    rw [hrest, limiterCalls, limiterCalls, List.filterMap_cons]
    cases input.limiterCall gw.config <;> rfl

/-- **The reassembler after a run** is the one of the gateway before, after the chunks. -/
lemma reassembler_after (inputs : List (GatewayInput F S)) :
    (gw.after H inputs).node.reassembler =
      gw.node.reassembler.after (gw.chunkCalls H inputs) := by
  induction inputs generalizing gw with
  | nil => rfl
  | cons input inputs ih =>
    have hrest := ih (gw.next H input)
    have hstep := (step_next H gw input).reassembler
    rw [hstep] at hrest
    change ((gw.next H input).after H inputs).node.reassembler = _
    rw [hrest, chunkCalls]
    cases gw.admittedChunk input <;> rfl

/-- **The address book after a run** holds the last address that each node shared. -/
lemma knownAddresses_after (inputs : List (GatewayInput F S)) (nodeId : String) :
    (gw.after H inputs).knownAddresses.get? nodeId =
      (Dict.latest GatewayInput.share nodeId inputs).or (gw.knownAddresses.get? nodeId) := by
  have hbook : (gw.after H inputs).knownAddresses =
      inputs.foldl (fun d input => d.assign input.share) gw.knownAddresses := by
    induction inputs generalizing gw with
    | nil => rfl
    | cons input inputs ih =>
      have hrest := ih (gw.next H input)
      rw [(step_next H gw input).knownAddresses] at hrest
      exact hrest
  rw [hbook, Dict.get?_foldl_assign]

/-- The chunks of a run are in its inputs. -/
lemma exists_of_mem_chunkCalls {inputs : List (GatewayInput F S)} {c : ChunkCall}
    (h : c ∈ gw.chunkCalls H inputs) : ∃ input ∈ inputs, input.chunkCall = some c := by
  induction inputs generalizing gw with
  | nil => exact absurd h List.not_mem_nil
  | cons input inputs ih =>
    rcases List.mem_append.mp h with hfirst | hrest
    · refine ⟨input, List.mem_cons_self, ?_⟩
      unfold admittedChunk at hfirst
      split_ifs at hfirst
      · exact Option.mem_toList.mp hfirst
      · exact absurd hfirst List.not_mem_nil
    · obtain ⟨input', hmem, hcall⟩ := ih (gw.next H input) hrest
      exact ⟨input', List.mem_cons_of_mem _ hmem, hcall⟩

end Runs

end Gateway

end SolMesh
