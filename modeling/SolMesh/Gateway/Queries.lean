import SolMesh.Foundations.Focus
import SolMesh.Mesh.Interface
import SolMesh.Gateway.TxRequest

set_option relaxedAutoImplicit false
set_option autoImplicit false

/-!
# Queries and address shares

Besides the requests that move money, a gateway answers queries about balances and the recent
blockhash, and remembers the addresses that nodes share with it. Its whole state is that of the
money handlers together with the address book.

## Main definitions

* `SolMesh.Gateway` — the state of a whole gateway.
* `SolMesh.Surroundings` — what one run of a handler finds outside the gateway.
* `SolMesh.handleBalanceReq`, `SolMesh.handleBlockhashReq`, `SolMesh.handleAddrShare` — the
  handlers.
* `SolMesh.balanceRespFrame`, `SolMesh.blockhashRespFrame` — the frames of the answers.
-/

namespace SolMesh

open Py Text

/-! ## State and surroundings -/

/-- The bytes of a blockhash. -/
abbrev HashBytes := { bs : Bytes // bs.length = 32 }

/-- What the program uses of blockhashes: `bytes` of one, and `Hash.from_bytes`. -/
structure Hashes (S : Solders) where
  toBytes : S.Blockhash → HashBytes
  fromBytes : HashBytes → S.Blockhash

/-- A query of the RPC node whose answer is a number. -/
inductive QueryCall
  | getBalance (pubkey : Pubkey)
  | getTokenAccountBalance (ata : Pubkey)
  | getSlot
  deriving DecidableEq

/-- The state of a whole gateway: its configuration, the state of the money handlers, the
addresses that nodes shared by their mesh ids, and when it was started; and the queries it made
so far. -/
structure Gateway (F : Type) (S : Solders) where
  config : ServiceConfig F
  node : GatewayNode F S
  knownAddresses : Dict String Bytes
  startTime : ℚ
  queries : List QueryCall

/-- What one run of a handler finds outside the whole gateway. -/
structure Surroundings (S : Solders) extends Moment S where
  /-- `get_balance(...).value`, `int(get_token_account_balance(...).value.amount)` and
  `get_slot().value`. -/
  answer : QueryCall → Except Exn ℤ
  /-- `get_latest_blockhash().value.last_valid_block_height`. -/
  lastValidBlockHeight : ℤ

variable {F : Type} {S : Solders}

/-- The money handlers work on their part of the gateway. -/
def Gateway.nodePart : Part (Gateway F S) (GatewayNode F S) where
  get gw := gw.node
  set g gw := { gw with node := g }
  get_set _ _ := rfl
  set_get _ := rfl
  set_set _ _ _ := rfl

/-- Run a method of the money handlers' part. -/
def onNode {α : Type} (m : Method (GatewayNode F S) α) : Method (Gateway F S) α :=
  focus Gateway.nodePart m

/-- Put a query to the RPC node. -/
def ask (env : Surroundings S) (call : QueryCall) : Method (Gateway F S) ℤ := do
  modify fun gw => { gw with queries := gw.queries ++ [call] }
  ofExcept (env.answer call)

/-! ## The handlers -/

/-- The block that queries a balance: of the token account, if there is a mint. -/
def queryBalance (env : Surroundings S) (pubkey : Pubkey) (mintBytes : Bytes) :
    Method (Gateway F S) ℤ := do
  if mintBytes ≠ [] then
    let mintPubkey ← ofExcept (Pubkey.fromBytes mintBytes)
    let ata ← ofExcept (findAssociatedTokenAddress S pubkey mintPubkey)
    ask env (.getTokenAccountBalance ata)
  else ask env (.getBalance pubkey)

/-- Handle a `BALANCE_REQ`: query the RPC node and respond. A query that fails counts as zero. -/
def handleBalanceReq (env : Surroundings S) (header : SolMeshHeader) (payload : Bytes)
    (senderId : String) : Method (Gateway F S) Unit := do
  if !(← onNode (checkRateLimit env.toMoment senderId header.msgId)) then
    return
  match decodeBalanceReq payload with
  | .error e => if e.IsValueError then return else throw e
  | .ok req =>
  let pubkey ← ofExcept (Pubkey.fromBytes req.pubkey)
  let amount := match ← attempt (queryBalance env pubkey req.mint) with
    | .ok amount => amount
    | .error _ => 0
  let respPayload ← ofExcept (encodeBalanceResp req.pubkey amount req.mint)
  onNode (sendMessage MsgType.balanceResp env.replyId respPayload senderId true)

/-- Handle a `BLOCKHASH_REQ`: query the RPC node for the latest blockhash. -/
def handleBlockhashReq (H : Hashes S) (env : Surroundings S) (header : SolMeshHeader)
    (_payload : Bytes) (senderId : String) : Method (Gateway F S) Unit := do
  if !(← onNode (checkRateLimit env.toMoment senderId header.msgId)) then
    return
  onNode (emit .getLatestBlockhash)
  match env.rpc.getLatestBlockhash with
  | .error e =>
    onNode (sendNack env.toMoment header.msgId ErrorCode.rpcError
      (ofString "Blockhash fetch failed: " ++ e.text) senderId)
  | .ok blockhash =>
    let respPayload ← ofExcept (encodeBlockhashResp (H.toBytes blockhash).val)
    onNode (sendMessage MsgType.blockhashResp env.replyId respPayload senderId true)

/-- Handle an `ADDR_SHARE`: remember the address of the node, and acknowledge. There is no rate
limit. -/
def handleAddrShare (env : Surroundings S) (header : SolMeshHeader) (payload : Bytes)
    (senderId : String) : Method (Gateway F S) Unit := do
  match decodeAddrShare payload with
  | .error e => if e.IsValueError then return else throw e
  | .ok data =>
  modify fun gw => { gw with knownAddresses := gw.knownAddresses.set senderId data.pubkey }
  let _pubkey ← ofExcept (Pubkey.fromBytes data.pubkey)
  let ackPayload ← ofExcept (encodeAck header.msgId.toNat 0 0)
  onNode (sendMessage MsgType.ack env.ackId ackPayload senderId false)

/-! ## Running the handlers -/

namespace Gateway

/-- The decision of the rate limiter. -/
def admits (gw : Gateway F S) (env : Surroundings S) (senderId : String) : Bool :=
  gw.node.admits env.toMoment senderId

/-- The gateway after the decision of the rate limiter. -/
def limited (gw : Gateway F S) (env : Surroundings S) (senderId : String) : Gateway F S :=
  { gw with node := gw.node.limited env.toMoment senderId }

/-- Append to the record of effects. -/
def record (gw : Gateway F S) (events : List GatewayEvent) : Gateway F S :=
  { gw with node := gw.node.record events }

/-- Append to the queries. -/
def asked (gw : Gateway F S) (calls : List QueryCall) : Gateway F S :=
  { gw with queries := gw.queries ++ calls }

@[simp] lemma record_nil (gw : Gateway F S) : gw.record [] = gw := by
  simp [record]

@[simp] lemma asked_nil (gw : Gateway F S) : gw.asked [] = gw := by
  simp [asked]

@[simp] lemma record_record (gw : Gateway F S) (xs ys : List GatewayEvent) :
    (gw.record xs).record ys = gw.record (xs ++ ys) := by
  simp [record]

end Gateway

section Blocks

variable {gw : Gateway F S} {env : Surroundings S} {senderId : String}

/-- A request beyond the rate limit is refused, and nothing else happens. -/
lemma stateAfter_of_not_admits (h : gw.admits env senderId = false) (msgId : UInt16)
    (rest : Bool → Method (Gateway F S) Unit) (hrest : rest false = pure ()) :
    stateAfter (onNode (checkRateLimit env.toMoment senderId msgId) >>= rest) gw =
      (gw.limited env senderId).record
        [.meshSend (rateLimitedReply.frame env.replyId msgId) senderId true] := by
  have hlimit := run_checkRateLimit env.toMoment senderId msgId gw.node
  rw [Gateway.admits] at h
  rw [h, if_neg Bool.false_ne_true] at hlimit
  rw [onNode, stateAfter_focus_bind hlimit, hrest]
  rfl

/-- A request within the rate limit goes on behind the limiter. -/
lemma stateAfter_of_admits (h : gw.admits env senderId = true) (msgId : UInt16)
    (rest : Bool → Method (Gateway F S) Unit) :
    stateAfter (onNode (checkRateLimit env.toMoment senderId msgId) >>= rest) gw =
      stateAfter (rest true) (gw.limited env senderId) := by
  have hlimit := run_checkRateLimit env.toMoment senderId msgId gw.node
  rw [Gateway.admits] at h
  rw [if_pos h] at hlimit
  rw [onNode, stateAfter_focus_bind hlimit]
  rfl

/-- Sending a message that fits records it. -/
lemma stateAfter_onNode_sendMessage {payload : Bytes} (h : payload.length ≤ maxChunkData)
    (msgType : UInt8) (msgId : UInt16) (destinationId : String) (wantAck : Bool)
    (gw : Gateway F S) :
    stateAfter (onNode (sendMessage msgType msgId payload destinationId wantAck)) gw =
      gw.record [.meshSend (frameBytes msgType msgId 0 1 payload) destinationId wantAck] := by
  have hsend := sendMessage_of_le h msgType msgId destinationId wantAck gw.node
  rw [onNode]
  exact stateAfter_of_ok (run_focus_ok (p := Gateway.nodePart) hsend)

/-- Sending a reply records it if it fits. -/
lemma stateAfter_onNode_sendReply (env : Surroundings S) (originalMsgId : UInt16) (r : Reply)
    (destinationId : String) (gw : Gateway F S) :
    stateAfter (onNode (sendReply env.toMoment originalMsgId r destinationId)) gw =
      gw.record (r.sent env.toMoment originalMsgId destinationId) := by
  rw [onNode, stateAfter_focus, Gateway.nodePart, stateAfter_sendReply, Gateway.record]

/-- An effect is recorded before what follows it. -/
lemma stateAfter_onNode_emit_bind (event : GatewayEvent) (rest : Unit → Method (Gateway F S) Unit)
    (gw : Gateway F S) :
    stateAfter (onNode (emit event) >>= rest) gw = stateAfter (rest ()) (gw.record [event]) := by
  rw [onNode, stateAfter_focus_bind (run_emit event gw.node), Gateway.nodePart, Gateway.record]

end Blocks

/-! ### Balances -/

section Balance

/-- What a query for a balance does: the calls, and the amount or the exception. -/
def Surroundings.query (env : Surroundings S) (pubkey : Pubkey) (mintBytes : Bytes) :
    List QueryCall × Except Exn ℤ :=
  if mintBytes ≠ [] then
    match Pubkey.fromBytes mintBytes >>= findAssociatedTokenAddress S pubkey with
    | .error e => ([], .error e)
    | .ok ata => ([.getTokenAccountBalance ata], env.answer (.getTokenAccountBalance ata))
  else ([.getBalance pubkey], env.answer (.getBalance pubkey))

/-- The amount that is reported: zero if the query fails. -/
def Surroundings.amount (env : Surroundings S) (pubkey : Pubkey) (mintBytes : Bytes) : ℤ :=
  match (env.query pubkey mintBytes).2 with
  | .ok amount => amount
  | .error _ => 0

/-- The frame of a `BALANCE_RESP`. -/
def balanceRespFrame (replyId : UInt16) (pubkey : Bytes) (amount : ℕ) (mint : Bytes) : Bytes :=
  frameBytes MsgType.balanceResp replyId 0 1 (pubkey ++ Bytes.toBE 8 amount ++ mint)

/-- The answer to a query that is sent: an amount that does not fit its field is not. -/
def Surroundings.balanceReply (env : Surroundings S) (pubkey : Pubkey) (mint : Bytes)
    (senderId : String) : List GatewayEvent :=
  if 0 ≤ env.amount pubkey mint ∧ env.amount pubkey mint < 256 ^ 8 then
    [.meshSend (balanceRespFrame env.replyId pubkey.val (env.amount pubkey mint).toNat mint)
      senderId true]
  else []

/-- The attempt to query a balance makes these calls and has this answer.

**Proof sketch.** Along the branches of the handler. Without a mint there is one call; with one, the
key of the mint and the account that belongs to it are computed first, and no call is made if one of
them fails. -/
lemma run_queryBalance (env : Surroundings S) (pubkey : Pubkey) (mint : Bytes)
    (gw : Gateway F S) :
    (attempt (queryBalance env pubkey mint)).run gw =
      .ok (env.query pubkey mint).2 (gw.asked (env.query pubkey mint).1) := by
  have hask : ∀ call : QueryCall, (attempt (ask env call)).run gw =
      .ok (env.answer call) (gw.asked [call]) := by
    intro call
    exact run_attempt_ofExcept (env.answer call) (gw.asked [call])
  unfold queryBalance Surroundings.query
  by_cases hmint : mint ≠ []
  · rw [if_pos hmint, if_pos hmint]
    cases hkey : Pubkey.fromBytes mint with
    | error e =>
      rw [error_bind, Gateway.asked_nil]
      rfl
    | ok mintPubkey =>
      rw [ok_bind, run_attempt, run_bind_ok (run_ofExcept_ok mintPubkey gw)]
      cases findAssociatedTokenAddress S pubkey mintPubkey with
      | error e =>
        rw [Gateway.asked_nil]
        rfl
      | ok ata =>
        rw [run_bind_ok (run_ofExcept_ok ata gw), ← run_attempt]
        exact hask _
  · rw [if_neg hmint, if_neg hmint]
    exact hask _

/-- What a decoded `BALANCE_REQ` looks like. -/
structure BalanceReq.WellFormed (req : BalanceReq) : Prop where
  pubkey : req.pubkey.length = 32
  mint : req.mint = [] ∨ req.mint.length = 32

/-- The mint is not longer than a key. -/
lemma BalanceReq.WellFormed.mint_le {req : BalanceReq} (h : req.WellFormed) :
    req.mint.length ≤ 32 := by
  rcases h.mint with hnil | hlen
  · rw [hnil]
    exact Nat.zero_le _
  · exact hlen.le

/-- Decoded queries are well-formed. -/
lemma wellFormed_of_decodeBalanceReq {payload : Bytes} {req : BalanceReq}
    (h : decodeBalanceReq payload = .ok req) : req.WellFormed := by
  unfold decodeBalanceReq at h
  split_ifs at h with hshort hmint
  · cases h
    exact ⟨Bytes.length_slice (by omega), Or.inr (Bytes.length_slice hmint)⟩
  · cases h
    exact ⟨Bytes.length_slice (by omega), Or.inl rfl⟩

/-- The errors of the decoder are `ValueError`s. -/
lemma isValueError_of_decodeBalanceReq {payload : Bytes} {e : Exn}
    (h : decodeBalanceReq payload = .error e) : e.IsValueError := by
  unfold decodeBalanceReq at h
  split_ifs at h
  cases h
  exact isValueError_valueError _

variable {gw : Gateway F S} {env : Surroundings S} {senderId : String}

/-- A query that is too short is dropped without an answer. -/
lemma stateAfter_handleBalanceReq_of_malformed (h : gw.admits env senderId = true)
    {payload : Bytes} {e : Exn} (hdec : decodeBalanceReq payload = .error e)
    (header : SolMeshHeader) :
    stateAfter (handleBalanceReq env header payload senderId) gw = gw.limited env senderId := by
  unfold handleBalanceReq
  rw [stateAfter_of_admits h, Bool.not_true, if_neg Bool.false_ne_true, hdec]
  dsimp only
  rw [if_pos (isValueError_of_decodeBalanceReq hdec)]
  rfl

/-- A query beyond the rate limit is refused. -/
lemma stateAfter_handleBalanceReq_of_not_admits (h : gw.admits env senderId = false)
    (header : SolMeshHeader) (payload : Bytes) :
    stateAfter (handleBalanceReq env header payload senderId) gw =
      (gw.limited env senderId).record
        [.meshSend (rateLimitedReply.frame env.replyId header.msgId) senderId true] :=
  stateAfter_of_not_admits h _ _ rfl

/-- **What the handler leaves behind** when it admits a query: the calls of the query, and the
answer if it can be sent.

**Proof sketch.** An admitted query with a payload that is read back has a key of 32 bytes, and the
calls made are those of `run_queryBalance`. The answer can be encoded exactly if the amount fits
eight bytes (`encodeBalanceResp_eq_ok_iff`); then its payload is short enough to be sent. -/
lemma stateAfter_handleBalanceReq (h : gw.admits env senderId = true) {payload : Bytes}
    {req : BalanceReq} (hdec : decodeBalanceReq payload = .ok req) {pubkey : Pubkey}
    (hkey : pubkey.val = req.pubkey) (header : SolMeshHeader) :
    stateAfter (handleBalanceReq env header payload senderId) gw =
      ((gw.limited env senderId).asked (env.query pubkey req.mint).1).record
        (env.balanceReply pubkey req.mint senderId) := by
  have hwf := wellFormed_of_decodeBalanceReq hdec
  obtain rfl : pubkey = ⟨req.pubkey, hwf.pubkey⟩ := Subtype.ext hkey
  unfold handleBalanceReq
  rw [stateAfter_of_admits h, Bool.not_true, if_neg Bool.false_ne_true, hdec]
  dsimp only
  rw [Pubkey.fromBytes_of_length hwf.pubkey, stateAfter_bind_ok (run_ofExcept_ok _ _),
    stateAfter_bind_ok (run_queryBalance env _ _ _)]
  change stateAfter (ofExcept (encodeBalanceResp req.pubkey
    (env.amount ⟨req.pubkey, hwf.pubkey⟩ req.mint) req.mint) >>= _) _ = _
  unfold Surroundings.balanceReply
  split_ifs with hfits
  · have henc : encodeBalanceResp req.pubkey (env.amount ⟨req.pubkey, hwf.pubkey⟩ req.mint)
        req.mint = .ok (req.pubkey ++
          Bytes.toBE 8 (env.amount ⟨req.pubkey, hwf.pubkey⟩ req.mint).toNat ++ req.mint) :=
      encodeBalanceResp_eq_ok_iff.mpr ⟨hwf.pubkey, hwf.mint, hfits, rfl⟩
    rw [henc, stateAfter_bind_ok (run_ofExcept_ok _ _)]
    refine stateAfter_onNode_sendMessage ?_ _ _ _ _ _
    have hmint := hwf.mint_le
    simp only [List.length_append, hwf.pubkey, Bytes.length_toBE, maxChunkData_eq]
    omega
  · obtain ⟨e, henc⟩ : ∃ e, encodeBalanceResp req.pubkey
        (env.amount ⟨req.pubkey, hwf.pubkey⟩ req.mint) req.mint = .error e := by
      cases henc : encodeBalanceResp req.pubkey (env.amount ⟨req.pubkey, hwf.pubkey⟩ req.mint)
          req.mint with
      | error e => exact ⟨e, rfl⟩
      | ok payload' => exact absurd (encodeBalanceResp_eq_ok_iff.mp henc).2.2.1 hfits
    rw [henc, stateAfter_bind_error (run_ofExcept_error _ _), Gateway.record_nil]

end Balance

/-! ### Blockhashes -/

section Blockhash

/-- The frame of a `BLOCKHASH_RESP`. -/
def blockhashRespFrame (replyId : UInt16) (blockhash : HashBytes) : Bytes :=
  frameBytes MsgType.blockhashResp replyId 0 1 blockhash.val

/-- What an admitted query for the blockhash makes the gateway do. -/
def Surroundings.blockhashCalls (H : Hashes S) (env : Surroundings S) (msgId : UInt16)
    (senderId : String) : List GatewayEvent :=
  .getLatestBlockhash :: match env.rpc.getLatestBlockhash with
    | .error e => (Reply.nack ErrorCode.rpcError
        (ofString "Blockhash fetch failed: " ++ e.text)).sent env.toMoment msgId senderId
    | .ok blockhash =>
      [.meshSend (blockhashRespFrame env.replyId (H.toBytes blockhash)) senderId true]

variable {gw : Gateway F S} {env : Surroundings S} {senderId : String}

/-- A query beyond the rate limit is refused. -/
lemma stateAfter_handleBlockhashReq_of_not_admits (H : Hashes S)
    (h : gw.admits env senderId = false) (header : SolMeshHeader) (payload : Bytes) :
    stateAfter (handleBlockhashReq H env header payload senderId) gw =
      (gw.limited env senderId).record
        [.meshSend (rateLimitedReply.frame env.replyId header.msgId) senderId true] :=
  stateAfter_of_not_admits h _ _ rfl

/-- **What the handler leaves behind** when it admits a query.

**Proof sketch.** The RPC node is asked for the latest blockhash. Without one a NACK is sent; a
blockhash has 32 bytes, so it can be encoded and sent. -/
lemma stateAfter_handleBlockhashReq (H : Hashes S) (h : gw.admits env senderId = true)
    (header : SolMeshHeader) (payload : Bytes) :
    stateAfter (handleBlockhashReq H env header payload senderId) gw =
      (gw.limited env senderId).record (env.blockhashCalls H header.msgId senderId) := by
  unfold handleBlockhashReq Surroundings.blockhashCalls
  rw [stateAfter_of_admits h, Bool.not_true, if_neg Bool.false_ne_true]
  rw [stateAfter_onNode_emit_bind]
  cases env.rpc.getLatestBlockhash with
  | error e =>
    dsimp only
    rw [← sendReply_nack, stateAfter_onNode_sendReply, Gateway.record_record,
      List.singleton_append]
  | ok blockhash =>
    have henc : encodeBlockhashResp (H.toBytes blockhash).val = .ok (H.toBytes blockhash).val :=
      encodeBlockhashResp_eq_ok_iff.mpr ⟨(H.toBytes blockhash).property, rfl⟩
    have hlen : (H.toBytes blockhash).val.length ≤ maxChunkData := by
      rw [(H.toBytes blockhash).property, maxChunkData_eq]
      decide
    dsimp only
    rw [henc, stateAfter_bind_ok (run_ofExcept_ok _ _), stateAfter_onNode_sendMessage hlen,
      Gateway.record_record, List.singleton_append,
      blockhashRespFrame]

end Blockhash

/-! ### Address shares -/

section AddrShare

/-- The acknowledgement of an address share. -/
def shareAckFrame (ackId msgId : UInt16) : Bytes :=
  frameBytes MsgType.ack ackId 0 1 (Bytes.toBE 2 msgId.toNat ++ [0, 0])

/-- The errors of the decoder are `ValueError`s. -/
lemma isValueError_of_decodeAddrShare {payload : Bytes} {e : Exn}
    (h : decodeAddrShare payload = .error e) : e.IsValueError := by
  unfold decodeAddrShare decodeTail at h
  split_ifs at h with hshort htail
  · cases h
    exact isValueError_valueError _
  · cases hdec : decodeUtf8 (payload.drop 32) with
    | ok label => rw [hdec] at h; cases h
    | error e' =>
      rw [hdec, error_bind] at h
      cases h
      obtain ⟨d, _, rfl⟩ := decodeUtf8_eq_error hdec
      exact Or.inr (Or.inl rfl)
  · cases h

variable {gw : Gateway F S} {env : Surroundings S} {senderId : String}

/-- An address share that cannot be decoded is dropped. -/
lemma stateAfter_handleAddrShare_of_malformed {payload : Bytes} {e : Exn}
    (hdec : decodeAddrShare payload = .error e) (header : SolMeshHeader) :
    stateAfter (handleAddrShare env header payload senderId) gw = gw := by
  unfold handleAddrShare
  rw [hdec]
  dsimp only
  rw [if_pos (isValueError_of_decodeAddrShare hdec)]
  rfl

/-- **What the handler leaves behind**: the address under the sender, and an acknowledgement.

**Proof sketch.** The address is put into the book first. It was decoded, so it is a key, and the
acknowledgement can be encoded and sent. -/
lemma stateAfter_handleAddrShare {payload : Bytes} {data : AddrShare}
    (hdec : decodeAddrShare payload = .ok data) (header : SolMeshHeader) :
    stateAfter (handleAddrShare env header payload senderId) gw =
      ({ gw with knownAddresses := gw.knownAddresses.set senderId data.pubkey } :
        Gateway F S).record
          [.meshSend (shareAckFrame env.ackId header.msgId) senderId false] := by
  have henc : encodeAck header.msgId.toNat 0 0 =
      .ok (Bytes.toBE 2 header.msgId.toNat ++ [0, 0]) := by
    have hzero : packB 0 = .ok [0] := rfl
    rw [encodeAck, packH_uint16, hzero]
    simp [pure, Except.pure]
  have hlen : (Bytes.toBE 2 header.msgId.toNat ++ [0, 0]).length ≤ maxChunkData := by
    rw [List.length_append, Bytes.length_toBE, maxChunkData_eq]
    decide
  unfold handleAddrShare
  rw [hdec]
  dsimp only
  rw [stateAfter_bind_ok (EStateM.run_modify _ _),
    Pubkey.fromBytes_of_length (length_of_decodeAddrShare hdec),
    stateAfter_bind_ok (run_ofExcept_ok _ _), henc, stateAfter_bind_ok (run_ofExcept_ok _ _)]
  rw [stateAfter_onNode_sendMessage hlen, shareAckFrame]

end AddrShare

end SolMesh
