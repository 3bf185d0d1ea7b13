import SolMesh.Foundations.Method
import SolMesh.Protocol.Payload
import SolMesh.Mesh.Chunker
import SolMesh.Gateway.RateLimiter
import SolMesh.Gateway.Config
import SolMesh.Gateway.Solana

set_option relaxedAutoImplicit false
set_option autoImplicit false

/-!
# The gateway node

The handlers of the messages that move money: chunks of signed transactions (Mode 1) and signed
transfer requests (Mode 3). A handler is a method of the gateway. What it does to the world, the
frames it hands to the mesh and the calls it makes to the RPC node, is recorded in order.

## Main definitions

* `SolMesh.GatewayEvent` — an effect of a handler on the world.
* `SolMesh.GatewayNode` — the state of a gateway.
* `SolMesh.Moment` — what one run of a handler finds outside the gateway.
* `SolMesh.handleTxChunk`, `SolMesh.handleTxRequest` — the handlers.
-/

namespace SolMesh

open Py Text

/-! ## State and surroundings -/

/-- An effect of a handler on the world. -/
inductive GatewayEvent
  | meshSend (frame : Bytes) (destinationId : String) (wantAck : Bool)
  | getLatestBlockhash
  | getAccountInfo (address : Pubkey)
  | sendRawTransaction (txBytes : Bytes)
  deriving DecidableEq

/-- The state of a gateway, and what it did so far. -/
structure GatewayNode (F : Type) (S : Solders) where
  config : GatewayConfig F
  hotKeypair : Option S.Keypair
  rateLimiter : RateLimiter
  reassembler : ChunkReassembler
  events : List GatewayEvent

/-- The answers of the RPC node during one run of a handler. -/
structure Rpc (S : Solders) where
  /-- `get_latest_blockhash().value.blockhash`. -/
  getLatestBlockhash : Except Exn S.Blockhash
  /-- Does `get_account_info(...).value` hold an account? -/
  getAccountInfo : Pubkey → Except Exn Bool
  /-- `str(send_raw_transaction(...).value)`. -/
  sendRawTransaction : Bytes → Except Exn Text

/-- What one run of a handler finds outside the gateway: clock readings, drawn message ids and
answers of the RPC node. -/
structure Moment (S : Solders) where
  bucketCreation : ℚ
  now : ℚ
  clock : Clock
  ackId : UInt16
  replyId : UInt16
  rpc : Rpc S

variable {F : Type} [Number F] {S : Solders}

/-- Record an effect. -/
def emit (event : GatewayEvent) : Method (GatewayNode F S) Unit :=
  modify fun g => { g with events := g.events ++ [event] }

/-! ## Replies -/

/-- Pack a payload into a frame of one chunk and hand it to the mesh. -/
def sendMessage (msgType : UInt8) (msgId : UInt16) (payload : Bytes) (destinationId : String)
    (wantAck : Bool) : Method (GatewayNode F S) Unit := do
  let msg ← ofExcept (packMessage msgType.toNat msgId.toNat 0 1 payload)
  emit (.meshSend msg destinationId wantAck)

/-- Send a `NACK` back to the requesting node. -/
def sendNack (env : Moment S) (originalMsgId : UInt16) (errorCode : UInt8) (errorMsg : Text)
    (destinationId : String) : Method (GatewayNode F S) Unit := do
  let nackPayload ← ofExcept (encodeNack originalMsgId.toNat errorCode.toNat errorMsg)
  sendMessage MsgType.nack env.replyId nackPayload destinationId true

/-- Send a `TX_RESULT` back to the requesting node. -/
def sendTxResult (env : Moment S) (originalMsgId : UInt16) (success : Bool) (sigOrError : Text)
    (destinationId : String) : Method (GatewayNode F S) Unit := do
  let data ← ofExcept (encodeUtf8 sigOrError)
  let resultPayload ← ofExcept (encodeTxResult originalMsgId.toNat success data)
  sendMessage MsgType.txResult env.replyId resultPayload destinationId true

/-- Is the sender within its rate limit? Otherwise send a `NACK`. -/
def checkRateLimit (env : Moment S) (senderId : String) (msgId : UInt16) :
    Method (GatewayNode F S) Bool := do
  let g ← get
  let (allowed, rateLimiter) := g.rateLimiter.isAllowed senderId env.bucketCreation env.now
  set { g with rateLimiter := rateLimiter }
  if !allowed then
    sendNack env msgId ErrorCode.rateLimited (ofString "Rate limited") senderId
    return false
  return true

/-! ## Broadcasting -/

/-- Send raw transaction bytes to the RPC node: success, and the signature or the error. -/
def broadcastToSolana (env : Moment S) (txBytes : Bytes) :
    Method (GatewayNode F S) (Bool × Text) := do
  let answer ← attempt do
    let _tx ← ofExcept (deserializeTransaction S txBytes)
    emit (.sendRawTransaction txBytes)
    ofExcept (env.rpc.sendRawTransaction txBytes)
  match answer with
  | .ok sig => return (true, sig)
  | .error e => return (false, e.text)

/-! ## Mode 1: chunks of signed transactions -/

/-- Handle a `TX_CHUNK`: acknowledge it, and broadcast the transaction it completes. -/
def handleTxChunk (env : Moment S) (header : SolMeshHeader) (payload : Bytes)
    (senderId : String) : Method (GatewayNode F S) Unit := do
  if !(← checkRateLimit env senderId header.msgId) then
    return
  let ackPayload ← ofExcept (encodeAck header.msgId.toNat header.chunkNum.toNat 0)
  sendMessage MsgType.ack env.ackId ackPayload senderId false
  let g ← get
  let (answer, reassembler) := g.reassembler.receiveChunk env.clock senderId header.msgId.toNat
    header.chunkNum.toNat header.totalChunks.toNat payload
  set { g with reassembler := reassembler }
  match ← ofExcept answer with
  | none => return
  | some completeData =>
    let (success, result) ← broadcastToSolana env completeData
    sendTxResult env header.msgId success result senderId

/-! ## Mode 3: signed transfer requests -/

/-- The bytes a request must be signed over: sender, destination, amount, and the flags and the
mint of a token request. -/
def signedData (req : TxRequest) : Except Exn Bytes := do
  let signed := req.senderPubkey ++ req.destPubkey ++ (← packQ req.amount)
  if req.flags ≠ 0 then
    let signed := signed ++ (← packB req.flags.toNat)
    if req.flags &&& 0x01 ≠ 0 ∧ req.mint ≠ [] then return signed ++ req.mint else return signed
  else return signed

/-- Why a request exceeds what the gateway transfers. -/
inductive Refusal
  | unsupportedToken (mintStr : String)
  | amountExceeded (text : Text)

/-- `int(limit * 10**decimals)`. -/
def maxBaseUnits (limit : F) (factor : ℤ) : Except Exn ℤ :=
  Number.toInt (Number.mulInt limit factor)

/-- The block that checks the asset and the amount of a request: `none` if it passes. -/
def checkAmount (S : Solders) (config : GatewayConfig F) (req : TxRequest) :
    Except Exn (Option Refusal) := do
  if req.mint.length = 32 then
    let mintPubkey ← Pubkey.fromBytes req.mint
    let mintStr := S.pubkeyStr mintPubkey
    match knownTokens.get? mintStr with
    | none => return some (.unsupportedToken mintStr)
    | some (symbol, decimals) =>
      match config.getMaxTransferToken mintStr with
      | none => return none
      | some maxAmount =>
        if (req.amount : ℤ) > (← maxBaseUnits maxAmount (10 ^ decimals)) then
          return some (.amountExceeded
            (ofString "Max " ++ Number.str maxAmount ++ ofString " " ++ ofString symbol))
        else return none
  else
    if (req.lamports : ℤ) > (← maxBaseUnits config.maxTransferSol lamportsPerSol) then
      return some (.amountExceeded
        (ofString "Max " ++ Number.str config.maxTransferSol ++ ofString " SOL"))
    else return none

/-- `KNOWN_TOKENS[mint_str]`. -/
def knownToken (mintStr : String) : Except Exn (String × ℕ) :=
  match knownTokens.get? mintStr with
  | some token => .ok token
  | none => .error ⟨"KeyError", ofString mintStr⟩

/-- Must the account be created? An error of the query counts as a missing account. -/
def Rpc.createAta (rpc : Rpc S) (recipientAta : Pubkey) : Bool :=
  match rpc.getAccountInfo recipientAta with
  | .ok present => !present
  | .error _ => true

/-- The block that creates and signs the transfer. -/
def createTransfer (env : Moment S) (hotKeypair : S.Keypair) (req : TxRequest)
    (recentBlockhash : S.Blockhash) (destPubkey : Pubkey) : Method (GatewayNode F S) Bytes := do
  if req.mint.length = 32 then
    let mintPubkey ← ofExcept (Pubkey.fromBytes req.mint)
    let (_, decimals) ← ofExcept (knownToken (S.pubkeyStr mintPubkey))
    let recipientAta ← ofExcept (findAssociatedTokenAddress S destPubkey mintPubkey)
    emit (.getAccountInfo recipientAta)
    ofExcept (createSplTransfer S hotKeypair destPubkey mintPubkey req.amount decimals
      recentBlockhash (env.rpc.createAta recipientAta))
  else
    ofExcept (createSolTransfer S hotKeypair destPubkey req.lamports recentBlockhash)

/-- Handle a `TX_REQUEST`: verify signature, authorization and limits, then create, sign and
broadcast the transfer from the hot wallet. -/
def handleTxRequest (env : Moment S) (header : SolMeshHeader) (payload : Bytes)
    (senderId : String) : Method (GatewayNode F S) Unit := do
  if !(← checkRateLimit env senderId header.msgId) then
    return
  let g ← get
  let some hotKeypair := g.hotKeypair
    | sendNack env header.msgId ErrorCode.unauthorized (ofString "No hot wallet configured")
        senderId
  match decodeTxRequest payload with
  | .error e =>
    if e.IsValueError then sendNack env header.msgId ErrorCode.invalidTx e.text senderId
    else throw e
  | .ok req =>
  let senderPubkey ← ofExcept (Pubkey.fromBytes req.senderPubkey)
  let signed ← ofExcept (signedData req)
  if !verifyPayload S senderPubkey signed req.signature then
    sendNack env header.msgId ErrorCode.unauthorized (ofString "Invalid signature") senderId
    return
  if g.config.allowedRequesters ≠ [] ∧ S.pubkeyStr senderPubkey ∉ g.config.allowedRequesters then
    sendNack env header.msgId ErrorCode.unauthorized (ofString "Not in allowed requesters") senderId
    return
  match ← ofExcept (checkAmount S g.config req) with
  | some (.unsupportedToken mintStr) =>
    sendNack env header.msgId ErrorCode.unsupportedToken
      (ofString "Unsupported token: " ++ (ofString mintStr).take 16 ++ ofString "...") senderId
  | some (.amountExceeded text) =>
    sendNack env header.msgId ErrorCode.amountExceeded text senderId
  | none =>
  emit .getLatestBlockhash
  match env.rpc.getLatestBlockhash with
  | .error e =>
    sendNack env header.msgId ErrorCode.rpcError (ofString "Blockhash fetch failed: " ++ e.text)
      senderId
  | .ok recentBlockhash =>
  let destPubkey ← ofExcept (Pubkey.fromBytes req.destPubkey)
  match ← attempt (createTransfer env hotKeypair req recentBlockhash destPubkey) with
  | .error e =>
    sendNack env header.msgId ErrorCode.rpcError (ofString "TX creation failed: " ++ e.text)
      senderId
  | .ok txBytes =>
  let (success, result) ← broadcastToSolana env txBytes
  sendTxResult env header.msgId success result senderId

/-! ## A sample gateway -/

/-- Surroundings in which every call of the RPC node succeeds. -/
def sampleMoment : Moment sampleSolders where
  bucketCreation := 0
  now := 0
  clock := ⟨fun _ => 0, 0⟩
  ackId := 1
  replyId := 2
  rpc := { getLatestBlockhash := .ok sampleBlockhash
           getAccountInfo := fun _ => .ok true
           sendRawTransaction := fun _ => .ok (ofString "sig") }

/-- A new gateway with a hot wallet that serves everybody. -/
def sampleGateway : GatewayNode ℤ sampleSolders where
  config := ⟨[], 10, 10, ∅⟩
  hotKeypair := some hotKey
  rateLimiter := RateLimiter.new 10 3
  reassembler := ∅
  events := []

end SolMesh
