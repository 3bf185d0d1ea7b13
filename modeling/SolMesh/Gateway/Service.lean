import SolMesh.Gateway.Beacon
import SolMesh.Gateway.Broadcasts
import SolMesh.Gateway.Endpoints

set_option relaxedAutoImplicit false
set_option autoImplicit false

/-!
# The whole gateway

A gateway that runs takes packets of the mesh and requests over HTTP, and sends beacons in
between. What one of these inputs can do is listed once; what holds of whole runs is read off the
list.

## Main definitions

* `SolMesh.gatewayHandlers` — the handlers that are registered when a gateway starts.
* `SolMesh.GatewayInput`, `SolMesh.Gateway.next`, `SolMesh.Gateway.after` — inputs, and the gateway
  after one of them and after a run of them.
* `SolMesh.Gateway.Step` — what an input can do.

## Main results

* `SolMesh.Gateway.step_next` — every input takes one of the listed steps.
-/

namespace SolMesh

open Py Text

variable {F : Type} [Number F] {S : Solders}

/-! ## Handlers -/

/-- The handlers that a gateway registers when it starts. -/
def gatewayHandlers (H : Hashes S) : Handlers (Surroundings S) (Gateway F S) :=
  let handlers := registerHandler ∅ MsgType.txChunk fun env header payload senderId =>
    onNode (handleTxChunk env.toMoment header payload senderId)
  let handlers := registerHandler handlers MsgType.txRequest fun env header payload senderId =>
    onNode (handleTxRequest env.toMoment header payload senderId)
  let handlers := registerHandler handlers MsgType.balanceReq handleBalanceReq
  let handlers := registerHandler handlers MsgType.blockhashReq (handleBlockhashReq H)
  registerHandler handlers MsgType.addrShare handleAddrShare

/-- The message types that a gateway takes. -/
def handledTypes : List UInt8 :=
  [MsgType.txChunk, MsgType.txRequest, MsgType.balanceReq, MsgType.blockhashReq, MsgType.addrShare]

/-- Each of these types has its handler. -/
lemma handlersOf_gatewayHandlers (H : Hashes S) :
    handlersOf (gatewayHandlers (F := F) H) MsgType.txChunk =
      [fun env header payload senderId =>
        onNode (handleTxChunk env.toMoment header payload senderId)] ∧
    handlersOf (gatewayHandlers (F := F) H) MsgType.txRequest =
      [fun env header payload senderId =>
        onNode (handleTxRequest env.toMoment header payload senderId)] ∧
    handlersOf (gatewayHandlers (F := F) H) MsgType.balanceReq = [handleBalanceReq] ∧
    handlersOf (gatewayHandlers (F := F) H) MsgType.blockhashReq = [handleBlockhashReq H] ∧
    handlersOf (gatewayHandlers (F := F) H) MsgType.addrShare = [handleAddrShare] :=
  ⟨rfl, rfl, rfl, rfl, rfl⟩

/-- No other type has one. -/
lemma handlersOf_gatewayHandlers_of_not_mem (H : Hashes S) {msgType : UInt8}
    (h : msgType ∉ handledTypes) : handlersOf (gatewayHandlers (F := F) H) msgType = [] := by
  simp only [handledTypes, List.mem_cons, List.not_mem_nil, or_false, not_or] at h
  simp only [gatewayHandlers, handlersOf_registerHandler, handlersOf_empty, if_neg h.1,
    if_neg h.2.1, if_neg h.2.2.1, if_neg h.2.2.2.1, if_neg h.2.2.2.2, List.append_nil]

/-! ## Inputs -/

/-- What reaches a gateway: a packet of the mesh, the turn of the beacon thread, or a request over
HTTP. -/
inductive GatewayInput (F : Type) (S : Solders)
  | packet (env : Surroundings S) (packet : Packet)
  | beacon (env : Surroundings S) (now : ℚ)
  | http (env : Surroundings S) (xApiKey : String) (request : ApiRequest F)

variable [LT F] [DecidableLT F]

namespace Gateway

/-- The gateway after a packet was received. -/
def receive (H : Hashes S) (env : Surroundings S) (packet : Packet) (gw : Gateway F S) :
    Gateway F S := afterReceive (gatewayHandlers H) env packet gw

/-- The gateway after an input. -/
def next (H : Hashes S) (gw : Gateway F S) : GatewayInput F S → Gateway F S
  | .packet env packet => gw.receive H env packet
  | .beacon env now => stateAfter (sendBeacon env now) gw
  | .http env xApiKey request =>
    if gw.config.servesHttp then stateAfter (serve env xApiKey request) gw else gw

/-- The gateway after a run of inputs. -/
def after (H : Hashes S) (gw : Gateway F S) (inputs : List (GatewayInput F S)) : Gateway F S :=
  inputs.foldl (next H) gw

/-- What the gateway does about the transaction that a chunk completes, if it completes one. -/
def completion (gw : Gateway F S) (env : Surroundings S) (header : SolMeshHeader)
    (payload : Bytes) (senderId : String) : List GatewayEvent :=
  match gw.node.completed env.toMoment header payload senderId with
  | none => []
  | some data => (env.rpc.broadcast data).1 ++
      (env.rpc.result data).sent env.toMoment header.msgId senderId

/-- The frame that ends a run of the request handler, if there is a reply and it fits. -/
def sentReply (env : Surroundings S) (reply : Except Exn Reply) (msgId : UInt16)
    (senderId : String) : List GatewayEvent :=
  match reply with
  | .ok r => r.sent env.toMoment msgId senderId
  | .error _ => []

/-- The types whose handlers check the rate limit. -/
def limitedTypes : List UInt8 :=
  [MsgType.txChunk, MsgType.txRequest, MsgType.balanceReq, MsgType.blockhashReq]

/-- **What an input can do.** A packet is ignored, refused, or handled according to its type; a
beacon is sent or not; a request over HTTP is refused, or makes the calls of its endpoint. -/
inductive Step (H : Hashes S) (gw : Gateway F S) : GatewayInput F S → Gateway F S → Prop
  | ignored {env : Surroundings S} {packet : Packet}
      (h : ∀ header payload, packet.message = some (header, payload) →
        header.msgType ∉ handledTypes) : Step H gw (.packet env packet) gw
  | refused {env : Surroundings S} {packet : Packet} {header : SolMeshHeader} {payload : Bytes}
      (hmessage : packet.message = some (header, payload)) (htype : header.msgType ∈ limitedTypes)
      (hadmits : gw.admits env packet.senderId = false) :
      Step H gw (.packet env packet) ((gw.limited env packet.senderId).record
        [.meshSend (rateLimitedReply.frame env.replyId header.msgId) packet.senderId true])
  | chunk {env : Surroundings S} {packet : Packet} {header : SolMeshHeader} {payload : Bytes}
      (hmessage : packet.message = some (header, payload))
      (htype : header.msgType = MsgType.txChunk) (hadmits : gw.admits env packet.senderId = true) :
      Step H gw (.packet env packet) (({ gw with
        node := gw.node.received env.toMoment header payload packet.senderId } :
          Gateway F S).record (gw.completion env header payload packet.senderId))
  | request {env : Surroundings S} {packet : Packet} {header : SolMeshHeader} {payload : Bytes}
      {calls : List GatewayEvent} {reply : Except Exn Reply}
      (hmessage : packet.message = some (header, payload))
      (htype : header.msgType = MsgType.txRequest)
      (hadmits : gw.admits env packet.senderId = true)
      (hexit : TxRequestExit env.toMoment gw.node payload calls reply) :
      Step H gw (.packet env packet) ((gw.limited env packet.senderId).record
        (calls ++ sentReply env reply header.msgId packet.senderId))
  | malformedQuery {env : Surroundings S} {packet : Packet} {header : SolMeshHeader}
      {payload : Bytes} {e : Exn} (hmessage : packet.message = some (header, payload))
      (htype : header.msgType = MsgType.balanceReq)
      (hadmits : gw.admits env packet.senderId = true)
      (hreq : decodeBalanceReq payload = .error e) :
      Step H gw (.packet env packet) (gw.limited env packet.senderId)
  | balance {env : Surroundings S} {packet : Packet} {header : SolMeshHeader} {payload : Bytes}
      {req : BalanceReq} {pubkey : Pubkey} (hmessage : packet.message = some (header, payload))
      (htype : header.msgType = MsgType.balanceReq)
      (hadmits : gw.admits env packet.senderId = true)
      (hreq : decodeBalanceReq payload = .ok req) (hkey : pubkey.val = req.pubkey) :
      Step H gw (.packet env packet) (((gw.limited env packet.senderId).asked
        (env.query pubkey req.mint).1).record (env.balanceReply pubkey req.mint packet.senderId))
  | blockhash {env : Surroundings S} {packet : Packet} {header : SolMeshHeader} {payload : Bytes}
      (hmessage : packet.message = some (header, payload))
      (htype : header.msgType = MsgType.blockhashReq)
      (hadmits : gw.admits env packet.senderId = true) :
      Step H gw (.packet env packet) ((gw.limited env packet.senderId).record
        (env.blockhashCalls H header.msgId packet.senderId))
  | malformedShare {env : Surroundings S} {packet : Packet} {header : SolMeshHeader}
      {payload : Bytes} {e : Exn} (hmessage : packet.message = some (header, payload))
      (htype : header.msgType = MsgType.addrShare) (hdata : decodeAddrShare payload = .error e) :
      Step H gw (.packet env packet) gw
  | share {env : Surroundings S} {packet : Packet} {header : SolMeshHeader} {payload : Bytes}
      {data : AddrShare} (hmessage : packet.message = some (header, payload))
      (htype : header.msgType = MsgType.addrShare) (hdata : decodeAddrShare payload = .ok data) :
      Step H gw (.packet env packet) (({ gw with
        knownAddresses := gw.knownAddresses.set packet.senderId data.pubkey } :
          Gateway F S).record
            [.meshSend (shareAckFrame env.ackId header.msgId) packet.senderId false])
  | beacon {env : Surroundings S} {now : ℚ} (hfits : gw.UptimeFits now) :
      Step H gw (.beacon env now)
        (gw.record [.meshSend ((gw.beacon now).frame env.replyId) "" false])
  | noBeacon {env : Surroundings S} {now : ℚ} (hfits : ¬ gw.UptimeFits now) :
      Step H gw (.beacon env now) gw
  | httpRefused {env : Surroundings S} {xApiKey : String} {request : ApiRequest F}
      (h : ¬ (gw.config.servesHttp = true ∧ gw.config.accepts xApiKey = true)) :
      Step H gw (.http env xApiKey request) gw
  | httpLimited {env : Surroundings S} {xApiKey : String} {request : ApiRequest F}
      (h : gw.config.servesHttp = true ∧ gw.config.accepts xApiKey = true)
      (hadmits : gw.admits env (httpBucket xApiKey) = false) :
      Step H gw (.http env xApiKey request) (gw.limited env (httpBucket xApiKey))
  | http {env : Surroundings S} {xApiKey : String} {request : ApiRequest F}
      {calls : List GatewayEvent} {queries : List QueryCall}
      (h : gw.config.servesHttp = true ∧ gw.config.accepts xApiKey = true)
      (hadmits : gw.admits env (httpBucket xApiKey) = true)
      (hcalls : (∃ req, request = .transfer req ∧ TransferExit env.toMoment gw.node req calls) ∨
        calls = [] ∨ calls = [.getLatestBlockhash]) :
      Step H gw (.http env xApiKey request)
        (((gw.limited env (httpBucket xApiKey)).record calls).asked queries)

/-! ## Every input takes a step -/

section StepNext

variable {H : Hashes S} {gw : Gateway F S} {env : Surroundings S} {packet : Packet}
  {header : SolMeshHeader} {payload : Bytes}

omit [LT F] [DecidableLT F] in
/-- A packet of a type with one handler runs it. -/
lemma receive_of_handler (hmessage : packet.message = some (header, payload))
    {handler : Handler (Surroundings S) (Gateway F S)}
    (h : handlersOf (gatewayHandlers H) header.msgType = [handler]) :
    gw.receive H env packet = stateAfter (handler env header payload packet.senderId) gw := by
  rw [receive, afterReceive_of_some hmessage, h]
  rfl

/-- A chunk is refused or handled.

**Proof sketch.** The handler of chunks runs (`receive_of_handler`), and `stateAfter_handleTxChunk`
says what it leaves behind. The chunk is refused if the limiter says so; otherwise it is handled,
and what its completion adds comes after the acknowledgement. -/
lemma step_chunk (hmessage : packet.message = some (header, payload))
    (htype : header.msgType = MsgType.txChunk) :
    Step H gw (.packet env packet) (gw.receive H env packet) := by
  have hhandler := (handlersOf_gatewayHandlers (F := F) H).1
  rw [← htype] at hhandler
  rw [receive_of_handler hmessage hhandler, onNode, stateAfter_focus, Gateway.nodePart,
    stateAfter_handleTxChunk]
  cases hadmits : gw.admits env packet.senderId with
  | false =>
    have hno : gw.node.admits env.toMoment packet.senderId = false := hadmits
    rw [hno, if_neg Bool.false_ne_true]
    exact .refused hmessage (by rw [htype]; decide) hadmits
  | true =>
    have hyes : gw.node.admits env.toMoment packet.senderId = true := hadmits
    have hstep := Step.chunk (H := H) hmessage htype hadmits
    rw [hyes, if_pos rfl]
    unfold completion at hstep
    cases hdata : gw.node.completed env.toMoment header payload packet.senderId with
    | none =>
      rw [hdata, Gateway.record_nil] at hstep
      exact hstep
    | some data =>
      rw [hdata] at hstep
      dsimp only
      rw [GatewayNode.record_record]
      exact hstep

/-- A transfer request is refused, or takes one of the exits of its handler.

**Proof sketch.** The handler of requests runs (`receive_of_handler`), and `handleTxRequest_cases`
gives its exits. The request is refused if the limiter says so; otherwise it takes one of the exits,
and the reply of the exit is sent if it can be (`stateAfter_sendReply`). -/
lemma step_request (hmessage : packet.message = some (header, payload))
    (htype : header.msgType = MsgType.txRequest) :
    Step H gw (.packet env packet) (gw.receive H env packet) := by
  have hhandler := (handlersOf_gatewayHandlers (F := F) H).2.1
  rw [← htype] at hhandler
  have hcases := handleTxRequest_cases env.toMoment header payload packet.senderId gw.node
  rw [receive_of_handler hmessage hhandler, onNode, stateAfter_focus, Gateway.nodePart]
  cases hadmits : gw.admits env packet.senderId with
  | false =>
    have hno : gw.node.admits env.toMoment packet.senderId = false := hadmits
    rw [hno, if_neg Bool.false_ne_true] at hcases
    rw [stateAfter_of_ok hcases]
    exact .refused hmessage (by rw [htype]; decide) hadmits
  | true =>
    have hyes : gw.node.admits env.toMoment packet.senderId = true := hadmits
    rw [hyes, if_pos rfl] at hcases
    obtain ⟨calls, reply, hexit, hrun⟩ := hcases
    have hstep := Step.request (H := H) hmessage htype hadmits hexit
    have hafter : stateAfter (handleTxRequest env.toMoment header payload packet.senderId)
        gw.node = (gw.node.limited env.toMoment packet.senderId).record
          (calls ++ sentReply env reply header.msgId packet.senderId) := by
      rw [← GatewayNode.record_record, stateAfter, hrun, ← stateAfter]
      cases reply with
      | error e => exact (GatewayNode.record_nil _).symm
      | ok r => exact stateAfter_sendReply env.toMoment header.msgId r packet.senderId _
    rw [hafter]
    exact hstep

/-- A balance query is refused, dropped or answered.

**Proof sketch.** The handler of balance queries runs. The query is refused if the limiter says so,
dropped if it cannot be decoded, and answered otherwise (`stateAfter_handleBalanceReq`). -/
lemma step_balance (hmessage : packet.message = some (header, payload))
    (htype : header.msgType = MsgType.balanceReq) :
    Step H gw (.packet env packet) (gw.receive H env packet) := by
  have hhandler := (handlersOf_gatewayHandlers (F := F) H).2.2.1
  rw [← htype] at hhandler
  rw [receive_of_handler hmessage hhandler]
  cases hadmits : gw.admits env packet.senderId with
  | false =>
    rw [stateAfter_handleBalanceReq_of_not_admits hadmits]
    exact .refused hmessage (by rw [htype]; decide) hadmits
  | true =>
    cases hreq : decodeBalanceReq payload with
    | error e =>
      rw [stateAfter_handleBalanceReq_of_malformed hadmits hreq]
      exact .malformedQuery hmessage htype hadmits hreq
    | ok req =>
      obtain ⟨pubkey, hkey⟩ : ∃ pubkey : Pubkey, pubkey.val = req.pubkey :=
        ⟨⟨req.pubkey, (wellFormed_of_decodeBalanceReq hreq).pubkey⟩, rfl⟩
      rw [stateAfter_handleBalanceReq hadmits hreq hkey]
      exact .balance hmessage htype hadmits hreq hkey

/-- A query for the blockhash is refused or answered. -/
lemma step_blockhash (hmessage : packet.message = some (header, payload))
    (htype : header.msgType = MsgType.blockhashReq) :
    Step H gw (.packet env packet) (gw.receive H env packet) := by
  have hhandler := (handlersOf_gatewayHandlers (F := F) H).2.2.2.1
  rw [← htype] at hhandler
  rw [receive_of_handler hmessage hhandler]
  cases hadmits : gw.admits env packet.senderId with
  | false =>
    rw [stateAfter_handleBlockhashReq_of_not_admits H hadmits]
    exact .refused hmessage (by rw [htype]; decide) hadmits
  | true =>
    rw [stateAfter_handleBlockhashReq H hadmits]
    exact .blockhash hmessage htype hadmits

/-- An address share is dropped or remembered. -/
lemma step_share (hmessage : packet.message = some (header, payload))
    (htype : header.msgType = MsgType.addrShare) :
    Step H gw (.packet env packet) (gw.receive H env packet) := by
  have hhandler := (handlersOf_gatewayHandlers (F := F) H).2.2.2.2
  rw [← htype] at hhandler
  rw [receive_of_handler hmessage hhandler]
  cases hdata : decodeAddrShare payload with
  | error e =>
    rw [stateAfter_handleAddrShare_of_malformed hdata]
    exact .malformedShare hmessage htype hdata
  | ok data =>
    rw [stateAfter_handleAddrShare hdata]
    exact .share hmessage htype hdata

/-- A packet takes one of the steps.

**Proof sketch.** A packet that cannot be read, or of a type without a handler, is ignored; for each
of the five other types there is a lemma above. -/
lemma step_packet (H : Hashes S) (gw : Gateway F S) (env : Surroundings S) (packet : Packet) :
    Step H gw (.packet env packet) (gw.receive H env packet) := by
  cases hmessage : packet.message with
  | none =>
    rw [receive, afterReceive_of_none hmessage]
    exact .ignored fun header payload h => by rw [hmessage] at h; cases h
  | some message =>
    obtain ⟨header, payload⟩ := message
    by_cases hhandled : header.msgType ∈ handledTypes
    · simp only [handledTypes, List.mem_cons, List.not_mem_nil, or_false] at hhandled
      rcases hhandled with htype | htype | htype | htype | htype
      · exact step_chunk hmessage htype
      · exact step_request hmessage htype
      · exact step_balance hmessage htype
      · exact step_blockhash hmessage htype
      · exact step_share hmessage htype
    · rw [receive, afterReceive_of_some hmessage, handlersOf_gatewayHandlers_of_not_mem H hhandled]
      refine .ignored fun header' payload' h => ?_
      rw [hmessage] at h
      cases h
      exact hhandled

/-- The exits of a transfer do not depend on the rate limiter. -/
lemma transferExit_of_limited {env' : Moment S} {senderId : String} {req : TransferRequest F}
    {calls : List GatewayEvent}
    (h : TransferExit env' (gw.limited env senderId).node req calls) :
    TransferExit env' gw.node req calls := by
  cases h with
  | refused => exact .refused
  | noBlockhash => exact .noBlockhash
  | notCreated hcalls => exact .notCreated hcalls
  | broadcast hcalls htransfer => exact .broadcast hcalls htransfer

/-- **Every input takes one of the steps.**

**Proof sketch.** One case for each input. A packet is treated in `step_packet`. A beacon is sent
exactly if the uptime fits its field. A call of the server passes the key first and the limiter
next; only if both let it through does the endpoint run (`stateAfter_endpoint`). -/
lemma step_next (H : Hashes S) (gw : Gateway F S) (input : GatewayInput F S) :
    Step H gw input (gw.next H input) := by
  cases input with
  | packet env packet => exact step_packet H gw env packet
  | beacon env now =>
    by_cases hfits : gw.UptimeFits now
    · have hsent := stateAfter_of_ok (run_sendBeacon_of_fits hfits env)
      rw [next, hsent]
      exact .beacon hfits
    · obtain ⟨e, hraised⟩ := run_sendBeacon_of_not_fits hfits env
      rw [next, stateAfter_of_error hraised]
      exact .noBeacon hfits
  | http env xApiKey request =>
    rw [next]
    cases hserves : gw.config.servesHttp with
    | false => exact .httpRefused (by rw [hserves]; simp)
    | true =>
      cases haccepts : gw.config.accepts xApiKey with
      | false =>
        rw [if_pos rfl, stateAfter_serve_of_not_accepts haccepts]
        exact .httpRefused (by rw [haccepts]; simp)
      | true =>
        rw [if_pos rfl, stateAfter_serve_of_accepts haccepts]
        cases hadmits : gw.admits env (httpBucket xApiKey) with
        | false => exact .httpLimited ⟨hserves, haccepts⟩ hadmits
        | true =>
          obtain ⟨calls, queries, hafter, hcalls⟩ := stateAfter_endpoint env request
            (gw.limited env (httpBucket xApiKey))
          rw [if_pos rfl, hafter]
          refine .http ⟨hserves, haccepts⟩ hadmits (hcalls.imp_left ?_)
          rintro ⟨req, hreq, hexit⟩
          exact ⟨req, hreq, transferExit_of_limited hexit⟩

end StepNext

end Gateway

/-! ## A sample -/

/-- Blockhashes of the sample library. -/
def sampleHashes : Hashes sampleSolders := ⟨id, id⟩

/-- Surroundings in which every query succeeds, too. -/
def sampleSurroundings : Surroundings sampleSolders :=
  { sampleMoment with answer := fun _ => .ok 7, lastValidBlockHeight := 150 }

/-- A gateway that serves HTTP to callers with a key. -/
def sampleServiceConfig : ServiceConfig ℤ :=
  ⟨some "hot", ⟨[], 10, 10, ∅⟩, 10, 3, 60, some 8080, some "secret"⟩

/-- This gateway when it was just started. -/
def sampleService : Gateway ℤ sampleSolders := ⟨sampleServiceConfig, sampleGateway, ∅, 0, []⟩

/-- It can be started. -/
lemma start_sampleService :
    Gateway.start sampleWallets sampleServiceConfig [] 0 = .ok sampleService := rfl

end SolMesh
