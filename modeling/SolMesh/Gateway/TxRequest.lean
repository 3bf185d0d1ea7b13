import SolMesh.Gateway.Replies

set_option relaxedAutoImplicit false
set_option autoImplicit false

/-!
# What the handler of transfer requests does

The handler has a dozen exits. Each is listed once, with the checks that were passed before it,
the calls made to the RPC node and the reply; every run of the handler takes one of them. The
soundness of Mode 3 spending is then a matter of looking at the only exit that broadcasts.

## Main definitions

* `SolMesh.signedBytes` — the bytes a request must be signed over.
* `SolMesh.Authorised`, `SolMesh.Admitted` — the checks a request passes.
* `SolMesh.TxRequestExit` — the exits of the handler behind the rate limiter.

## Main results

* `SolMesh.handleTxRequest_cases` — every run takes one of the exits.
* `SolMesh.spending_sound` — what holds whenever the handler broadcasts a transaction.
-/

namespace SolMesh

open Py Text

/-! ## Signed bytes -/

/-- The bytes a request must be signed over: sender, destination and amount, followed by the
flags unless they are zero, and by the mint if bit 0 of the flags is set. -/
def signedBytes (req : TxRequest) : Bytes :=
  req.senderPubkey ++ (req.destPubkey ++ (Bytes.toBE 8 req.amount ++
    if req.flags ≠ 0 then
      req.flags :: if req.flags &&& 0x01 ≠ 0 then req.mint else []
    else []))

/-- The handler rebuilds the signed bytes of a well-formed request.

**Proof sketch.** The amount was decoded from eight bytes, so it can be packed again. The flags are
signed if they are not zero, and the mint if they say that there is one, which it is then. -/
lemma signedData_eq {req : TxRequest} (h : req.WellFormed) :
    signedData req = .ok (signedBytes req) := by
  have hamount : packQ (req.amount : ℤ) = .ok (Bytes.toBE 8 req.amount) :=
    packUInt_natCast _ h.amount
  rw [signedData, hamount, ok_bind]
  dsimp only
  by_cases hflags : req.flags ≠ 0
  · rw [if_pos hflags, packB_uint8, ok_bind]
    by_cases hbit : req.flags &&& 0x01 ≠ 0
    · have hmint : req.mint ≠ [] := by
        intro hnil
        have hlen := h.mint hbit
        rw [hnil] at hlen
        cases hlen
      rw [if_pos ⟨hbit, hmint⟩, signedBytes, if_pos hflags, if_pos hbit]
      simp [pure, Except.pure]
    · rw [if_neg fun hb => hbit hb.1, signedBytes, if_pos hflags, if_neg hbit]
      simp [pure, Except.pure]
  · rw [if_neg hflags, signedBytes, if_neg hflags]
    simp [pure, Except.pure]

/-- **The signed bytes determine the request**: sender, destination, amount, flags and mint.

**Proof sketch.** The first three fields have fixed widths. What is left is empty, one byte or 33
bytes long, so its length tells the three layouts apart, and each layout determines its fields. -/
lemma signedBytes_injective {req₁ req₂ : TxRequest} (h₁ : req₁.WellFormed) (h₂ : req₂.WellFormed)
    (h : signedBytes req₁ = signedBytes req₂) :
    req₁.senderPubkey = req₂.senderPubkey ∧ req₁.destPubkey = req₂.destPubkey ∧
      req₁.amount = req₂.amount ∧ req₁.flags = req₂.flags ∧ req₁.mint = req₂.mint := by
  unfold signedBytes at h
  obtain ⟨hsender, h⟩ := Bytes.append_inj_of_length h
    (h₁.senderPubkey.trans h₂.senderPubkey.symm)
  obtain ⟨hdest, h⟩ := Bytes.append_inj_of_length h (h₁.destPubkey.trans h₂.destPubkey.symm)
  obtain ⟨hamount, h⟩ := Bytes.append_inj_of_length h (by simp)
  refine ⟨hsender, hdest, Bytes.toBE_injective h₁.amount h₂.amount hamount, ?_⟩
  have hmint : ∀ {req : TxRequest}, req.WellFormed → req.flags = 0 → req.mint = [] := by
    intro req hreq hzero
    exact hreq.noMint (by rw [hzero]; decide)
  by_cases hz₁ : req₁.flags ≠ 0 <;> by_cases hz₂ : req₂.flags ≠ 0
  · rw [if_pos hz₁, if_pos hz₂] at h
    obtain ⟨hflags, htail⟩ := List.cons.inj h
    refine ⟨hflags, ?_⟩
    rw [hflags] at htail
    by_cases hbit : req₂.flags &&& 0x01 ≠ 0
    · rwa [if_pos hbit, if_pos hbit] at htail
    · rw [h₁.noMint (by rwa [hflags]), h₂.noMint hbit]
  · rw [if_pos hz₁, if_neg hz₂] at h
    cases h
  · rw [if_neg hz₁, if_pos hz₂] at h
    cases h
  · rw [not_not] at hz₁ hz₂
    exact ⟨hz₁.trans hz₂.symm, (hmint h₁ hz₁).trans (hmint h₂ hz₂).symm⟩

/-! ## Blocks of the handler -/

section Blocks

variable {F : Type} {S : Solders}

/-- The decision of the rate limiter. -/
def GatewayNode.admits (g : GatewayNode F S) (env : Moment S) (senderId : String) : Bool :=
  (g.rateLimiter.isAllowed senderId env.bucketCreation env.now).1

/-- The gateway after the decision of the rate limiter. -/
def GatewayNode.limited (g : GatewayNode F S) (env : Moment S) (senderId : String) :
    GatewayNode F S :=
  { g with rateLimiter := (g.rateLimiter.isAllowed senderId env.bucketCreation env.now).2 }

@[simp] lemma GatewayNode.limited_config (g : GatewayNode F S) (env : Moment S)
    (senderId : String) : (g.limited env senderId).config = g.config := rfl

@[simp] lemma GatewayNode.limited_hotKeypair (g : GatewayNode F S) (env : Moment S)
    (senderId : String) : (g.limited env senderId).hotKeypair = g.hotKeypair := rfl

@[simp] lemma GatewayNode.limited_reassembler (g : GatewayNode F S) (env : Moment S)
    (senderId : String) : (g.limited env senderId).reassembler = g.reassembler := rfl

@[simp] lemma GatewayNode.limited_events (g : GatewayNode F S) (env : Moment S)
    (senderId : String) : (g.limited env senderId).events = g.events := rfl

/-- The reply to a request beyond the rate limit. -/
def rateLimitedReply : Reply := .nack ErrorCode.rateLimited (ofString "Rate limited")

/-- A reply whose text the program chose itself fits. -/
lemma rateLimitedReply_fits : rateLimitedReply.Fits :=
  textFits_of_ascii (by decide) (by decide)

/-- What the check of the rate limit does. -/
lemma run_checkRateLimit (env : Moment S) (senderId : String) (msgId : UInt16)
    (g : GatewayNode F S) :
    (checkRateLimit env senderId msgId).run g =
      if g.admits env senderId then .ok true (g.limited env senderId)
      else .ok false ((g.limited env senderId).record
        [.meshSend (rateLimitedReply.frame env.replyId msgId) senderId true]) := by
  have hsend := sendReply_of_fits env msgId rateLimitedReply_fits senderId (g.limited env senderId)
  rw [rateLimitedReply, sendReply_nack] at hsend
  unfold checkRateLimit
  rw [EStateM.run_bind, EStateM.run_get]
  dsimp only
  rw [EStateM.run_bind, EStateM.run_set]
  dsimp only
  change EStateM.run (if (!g.admits env senderId) = true then _ else _) (g.limited env senderId) = _
  cases g.admits env senderId with
  | true => rfl
  | false =>
    rw [Bool.not_false, if_pos rfl, run_bind_ok hsend, if_neg Bool.false_ne_true,
      rateLimitedReply]
    rfl

/-- What broadcasting does: the calls, success, and the signature or the error. -/
def Rpc.broadcast (rpc : Rpc S) (txBytes : Bytes) : List GatewayEvent × Bool × Text :=
  match deserializeTransaction S txBytes with
  | .error e => ([], false, e.text)
  | .ok _ => ([.sendRawTransaction txBytes],
      match rpc.sendRawTransaction txBytes with
      | .ok sig => (true, sig)
      | .error e => (false, e.text))

/-- Broadcasting catches every exception. -/
lemma run_broadcastToSolana (env : Moment S) (txBytes : Bytes) (g : GatewayNode F S) :
    (broadcastToSolana env txBytes).run g =
      .ok (env.rpc.broadcast txBytes).2 (g.record (env.rpc.broadcast txBytes).1) := by
  unfold broadcastToSolana Rpc.broadcast
  cases deserializeTransaction S txBytes with
  | error e =>
    rw [GatewayNode.record_nil]
    rfl
  | ok tx =>
    cases env.rpc.sendRawTransaction txBytes with
    | error e => rfl
    | ok sig => rfl

/-- A broadcast hands at most this transaction to the RPC node. -/
lemma mem_broadcast_calls {rpc : Rpc S} {txBytes : Bytes} {event : GatewayEvent}
    (h : event ∈ (rpc.broadcast txBytes).1) : event = .sendRawTransaction txBytes := by
  unfold Rpc.broadcast at h
  cases hd : deserializeTransaction S txBytes with
  | error e => rw [hd] at h; cases h
  | ok tx =>
    rw [hd] at h
    exact List.mem_singleton.mp h

/-- The transaction is the signed transfer a request asks for, from the wallet of `keypair`: of
lamports if there is no mint, else of the token with its registered decimals. -/
def IsTransferOf (S : Solders) (keypair : S.Keypair) (req : TxRequest)
    (recentBlockhash : S.Blockhash) (txBytes : Bytes) : Prop :=
  ∃ dest : Pubkey, dest.val = req.destPubkey ∧
    ((req.mint = [] ∧ createSolTransfer S keypair dest req.amount recentBlockhash = .ok txBytes) ∨
      ∃ (mint : Pubkey) (symbol : String) (decimals : ℕ) (createAta : Bool),
        mint.val = req.mint ∧ knownTokens.get? (S.pubkeyStr mint) = some (symbol, decimals) ∧
        createSplTransfer S keypair dest mint req.amount decimals recentBlockhash createAta =
          .ok txBytes)

/-- A key consists of the bytes it was made from. -/
lemma Pubkey.val_of_fromBytes {bs : Bytes} {key : Pubkey} (h : Pubkey.fromBytes bs = .ok key) :
    key.val = bs := by
  unfold Pubkey.fromBytes at h
  split_ifs at h
  cases h
  rfl

/-- A mint is either missing or a key. -/
lemma TxRequest.WellFormed.mint_cases {req : TxRequest} (h : req.WellFormed) :
    req.mint = [] ∨ req.mint.length = 32 := by
  by_cases hbit : req.flags &&& 0x01 ≠ 0
  · exact Or.inr (h.mint hbit)
  · exact Or.inl (h.noMint hbit)

/-- The mint of a token request, its registered decimals and the account of the recipient. -/
def tokenAccount (S : Solders) (req : TxRequest) (dest : Pubkey) :
    Except Exn (Pubkey × ℕ × Pubkey) := do
  let mint ← Pubkey.fromBytes req.mint
  let (_, decimals) ← knownToken (S.pubkeyStr mint)
  let ata ← findAssociatedTokenAddress S dest mint
  return (mint, decimals, ata)

/-- What creating the transfer does: the calls, and the transaction or the exception. -/
def Rpc.transfer (rpc : Rpc S) (keypair : S.Keypair) (req : TxRequest)
    (recentBlockhash : S.Blockhash) (dest : Pubkey) : List GatewayEvent × Except Exn Bytes :=
  if req.mint.length = 32 then
    match tokenAccount S req dest with
    | .error e => ([], .error e)
    | .ok (mint, decimals, ata) => ([.getAccountInfo ata],
        createSplTransfer S keypair dest mint req.amount decimals recentBlockhash
          (rpc.createAta ata))
  else ([], createSolTransfer S keypair dest req.lamports recentBlockhash)

/-- The attempt to create the transfer makes these calls and has this answer.

**Proof sketch.** The program branches as the list of its calls does: a mint that cannot be used
raises before anything is asked, and a token transfer asks for one account. -/
lemma run_createTransfer (env : Moment S) (keypair : S.Keypair) (req : TxRequest)
    (recentBlockhash : S.Blockhash) (dest : Pubkey) (g : GatewayNode F S) :
    (attempt (createTransfer env keypair req recentBlockhash dest)).run g =
      .ok (env.rpc.transfer keypair req recentBlockhash dest).2
        (g.record (env.rpc.transfer keypair req recentBlockhash dest).1) := by
  unfold createTransfer Rpc.transfer tokenAccount
  by_cases hlen : req.mint.length = 32
  · rw [if_pos hlen, if_pos hlen]
    cases Pubkey.fromBytes req.mint with
    | error e =>
      rw [error_bind, GatewayNode.record_nil]
      rfl
    | ok mint =>
      rw [ok_bind, run_attempt, run_bind_ok (run_ofExcept_ok mint g)]
      cases knownToken (S.pubkeyStr mint) with
      | error e =>
        rw [error_bind, GatewayNode.record_nil]
        rfl
      | ok token =>
        rw [ok_bind, run_bind_ok (run_ofExcept_ok token g)]
        dsimp only
        cases findAssociatedTokenAddress S dest mint with
        | error e =>
          rw [error_bind, GatewayNode.record_nil]
          rfl
        | ok ata => exact run_attempt_ofExcept _ (g.record [.getAccountInfo ata])
  · rw [if_neg hlen, if_neg hlen, GatewayNode.record_nil]
    exact run_attempt_ofExcept _ g

/-- Creating the transfer only asks for an account. -/
lemma mem_transfer_calls {rpc : Rpc S} {keypair : S.Keypair} {req : TxRequest}
    {recentBlockhash : S.Blockhash} {dest : Pubkey} {event : GatewayEvent}
    (h : event ∈ (rpc.transfer keypair req recentBlockhash dest).1) :
    ∃ address, event = .getAccountInfo address := by
  unfold Rpc.transfer at h
  split_ifs at h
  · split at h
    · cases h
    · exact ⟨_, List.mem_singleton.mp h⟩
  · cases h

/-- **What is created is the transfer the request asks for.**

**Proof sketch.** A mint of 32 bytes makes it a token transfer, with the decimals of a known token
(`tokenAccount`). Otherwise the request has no mint, and it is a transfer of SOL. -/
lemma isTransferOf_of_transfer {rpc : Rpc S} {keypair : S.Keypair} {req : TxRequest}
    (hreq : req.WellFormed) {recentBlockhash : S.Blockhash} {dest : Pubkey}
    (hdest : dest.val = req.destPubkey) {txBytes : Bytes}
    (h : (rpc.transfer keypair req recentBlockhash dest).2 = .ok txBytes) :
    IsTransferOf S keypair req recentBlockhash txBytes := by
  refine ⟨dest, hdest, ?_⟩
  unfold Rpc.transfer at h
  split_ifs at h with hlen
  · cases haccount : tokenAccount S req dest with
    | error e => rw [haccount] at h; cases h
    | ok account =>
      obtain ⟨mint, decimals, ata⟩ := account
      rw [haccount] at h
      unfold tokenAccount at haccount
      obtain ⟨mint', hmint, haccount⟩ := bind_eq_ok.mp haccount
      obtain ⟨⟨symbol, decimals'⟩, htoken, haccount⟩ := bind_eq_ok.mp haccount
      obtain ⟨ata', hata, haccount⟩ := bind_eq_ok.mp haccount
      cases haccount
      refine Or.inr ⟨mint, symbol, decimals, _, Pubkey.val_of_fromBytes hmint, ?_, h⟩
      unfold knownToken at htoken
      split at htoken
      · next token heq => rw [heq, Except.ok.inj htoken]
      · cases htoken
  · refine Or.inl ⟨hreq.mint_cases.resolve_right hlen, ?_⟩
    rw [← hreq.lamports]
    exact h

end Blocks

/-! ## The exits of the handler -/

section Exits

variable {F : Type} [Number F] {S : Solders}

/-- The request is signed by the key it names, and the key may request transfers. -/
structure Authorised (S : Solders) (config : GatewayConfig F) (req : TxRequest)
    (senderPubkey : Pubkey) : Prop where
  pubkey : senderPubkey.val = req.senderPubkey
  signed : verifyPayload S senderPubkey (signedBytes req) req.signature = true
  allowed : config.allowedRequesters = [] ∨
    S.pubkeyStr senderPubkey ∈ config.allowedRequesters

/-- The request passes all checks of a gateway with this hot wallet. -/
structure Admitted (g : GatewayNode F S) (payload : Bytes) (keypair : S.Keypair)
    (req : TxRequest) : Prop where
  hotKeypair : g.hotKeypair = some keypair
  decoded : decodeTxRequest payload = .ok req
  authorised : ∃ senderPubkey, Authorised S g.config req senderPubkey
  amount : checkAmount S g.config req = .ok none

/-- **The exits of the handler** behind the rate limiter: the calls made to the RPC node, and the
reply or the exception. -/
inductive TxRequestExit (env : Moment S) (g : GatewayNode F S) (payload : Bytes) :
    List GatewayEvent → Except Exn Reply → Prop
  | noHotWallet (hkey : g.hotKeypair = none) :
      TxRequestExit env g payload []
        (.ok (.nack ErrorCode.unauthorized (ofString "No hot wallet configured")))
  | malformed {keypair : S.Keypair} {e : Exn} (hkey : g.hotKeypair = some keypair)
      (hreq : decodeTxRequest payload = .error e) :
      TxRequestExit env g payload [] (.ok (.nack ErrorCode.invalidTx e.text))
  | badSignature {keypair : S.Keypair} {req : TxRequest} {senderPubkey : Pubkey}
      (hkey : g.hotKeypair = some keypair) (hreq : decodeTxRequest payload = .ok req)
      (hsender : senderPubkey.val = req.senderPubkey)
      (hsig : verifyPayload S senderPubkey (signedBytes req) req.signature = false) :
      TxRequestExit env g payload []
        (.ok (.nack ErrorCode.unauthorized (ofString "Invalid signature")))
  | notAllowed {keypair : S.Keypair} {req : TxRequest} {senderPubkey : Pubkey}
      (hkey : g.hotKeypair = some keypair) (hreq : decodeTxRequest payload = .ok req)
      (hsender : senderPubkey.val = req.senderPubkey)
      (hnot : g.config.allowedRequesters ≠ [] ∧
        S.pubkeyStr senderPubkey ∉ g.config.allowedRequesters) :
      TxRequestExit env g payload []
        (.ok (.nack ErrorCode.unauthorized (ofString "Not in allowed requesters")))
  | unsupportedToken {keypair : S.Keypair} {req : TxRequest} {senderPubkey : Pubkey}
      {mintStr : String} (hkey : g.hotKeypair = some keypair)
      (hreq : decodeTxRequest payload = .ok req)
      (hauth : Authorised S g.config req senderPubkey)
      (hamount : checkAmount S g.config req = .ok (some (.unsupportedToken mintStr))) :
      TxRequestExit env g payload [] (.ok (.nack ErrorCode.unsupportedToken
        (ofString "Unsupported token: " ++ (ofString mintStr).take 16 ++ ofString "...")))
  | amountExceeded {keypair : S.Keypair} {req : TxRequest} {senderPubkey : Pubkey}
      {text : Text} (hkey : g.hotKeypair = some keypair)
      (hreq : decodeTxRequest payload = .ok req)
      (hauth : Authorised S g.config req senderPubkey)
      (hamount : checkAmount S g.config req = .ok (some (.amountExceeded text))) :
      TxRequestExit env g payload [] (.ok (.nack ErrorCode.amountExceeded text))
  | limitUndefined {keypair : S.Keypair} {req : TxRequest} {senderPubkey : Pubkey}
      {e : Exn} (hkey : g.hotKeypair = some keypair) (hreq : decodeTxRequest payload = .ok req)
      (hauth : Authorised S g.config req senderPubkey)
      (hamount : checkAmount S g.config req = .error e) :
      TxRequestExit env g payload [] (.error e)
  | noBlockhash {keypair : S.Keypair} {req : TxRequest} {e : Exn}
      (hadm : Admitted g payload keypair req) (hrpc : env.rpc.getLatestBlockhash = .error e) :
      TxRequestExit env g payload [.getLatestBlockhash]
        (.ok (.nack ErrorCode.rpcError (ofString "Blockhash fetch failed: " ++ e.text)))
  | notCreated {keypair : S.Keypair} {req : TxRequest} {recentBlockhash : S.Blockhash}
      {dest : Pubkey} {e : Exn} (hadm : Admitted g payload keypair req)
      (hrpc : env.rpc.getLatestBlockhash = .ok recentBlockhash)
      (hdest : dest.val = req.destPubkey)
      (hcreate : (env.rpc.transfer keypair req recentBlockhash dest).2 = .error e) :
      TxRequestExit env g payload
        (.getLatestBlockhash :: (env.rpc.transfer keypair req recentBlockhash dest).1)
        (.ok (.nack ErrorCode.rpcError (ofString "TX creation failed: " ++ e.text)))
  | broadcast {keypair : S.Keypair} {req : TxRequest} {recentBlockhash : S.Blockhash}
      {dest : Pubkey} {txBytes : Bytes} (hadm : Admitted g payload keypair req)
      (hrpc : env.rpc.getLatestBlockhash = .ok recentBlockhash)
      (hdest : dest.val = req.destPubkey)
      (hcreate : (env.rpc.transfer keypair req recentBlockhash dest).2 = .ok txBytes) :
      TxRequestExit env g payload
        (.getLatestBlockhash :: ((env.rpc.transfer keypair req recentBlockhash dest).1 ++
          (env.rpc.broadcast txBytes).1))
        (.ok (.txResult (env.rpc.broadcast txBytes).2.1 (env.rpc.broadcast txBytes).2.2))

/-- Send the reply of an exit, or raise its exception. -/
def finish (env : Moment S) (msgId : UInt16) (senderId : String) (reply : Except Exn Reply) :
    Method (GatewayNode F S) Unit :=
  match reply with
  | .ok r => sendReply env msgId r senderId
  | .error e => throw e

/-- **Every run of the handler takes one of the exits**, unless the rate limiter refuses it.

**Proof sketch.** The checks of the handler are gone through in their order, and each one that fails
is an exit with its reply. What was decoded is well-formed (`wellFormed_of_decodeTxRequest`), so
that reading the keys and rebuilding the signed data cannot raise (`Pubkey.fromBytes_of_length`,
`signedData_eq`). -/
theorem handleTxRequest_cases (env : Moment S) (header : SolMeshHeader) (payload : Bytes)
    (senderId : String) (g : GatewayNode F S) :
    if g.admits env senderId then
      ∃ calls reply, TxRequestExit env g payload calls reply ∧
        (handleTxRequest env header payload senderId).run g =
          (finish env header.msgId senderId reply).run ((g.limited env senderId).record calls)
    else (handleTxRequest env header payload senderId).run g =
      .ok () ((g.limited env senderId).record
        [.meshSend (rateLimitedReply.frame env.replyId header.msgId) senderId true]) := by
  have hlimit := run_checkRateLimit env senderId header.msgId g
  unfold handleTxRequest
  split_ifs with hadmits
  swap
  · rw [if_neg hadmits] at hlimit
    rw [run_bind_ok hlimit]
    rfl
  rw [if_pos hadmits] at hlimit
  rw [run_bind_ok hlimit, Bool.not_true, if_neg Bool.false_ne_true, EStateM.run_bind,
    EStateM.run_get]
  dsimp only
  have hkeep : ∀ r : Except Exn Reply, (finish env header.msgId senderId r).run
      ((g.limited env senderId).record []) =
        (finish env header.msgId senderId r).run (g.limited env senderId) := by
    intro r
    rw [GatewayNode.record_nil]
  rw [GatewayNode.limited_hotKeypair, GatewayNode.limited_config]
  cases hkey : g.hotKeypair with
  | none =>
    refine ⟨[], _, .noHotWallet hkey, ?_⟩
    rw [hkeep]
    rfl
  | some keypair =>
  dsimp only
  cases hreq : decodeTxRequest payload with
  | error e =>
    refine ⟨[], _, .malformed hkey hreq, ?_⟩
    dsimp only
    rw [if_pos (isValueError_of_decodeTxRequest hreq), hkeep]
    rfl
  | ok req =>
  have hwf := wellFormed_of_decodeTxRequest hreq
  dsimp only
  rw [Pubkey.fromBytes_of_length hwf.senderPubkey, run_bind_ok (run_ofExcept_ok _ _),
    signedData_eq hwf, run_bind_ok (run_ofExcept_ok _ _)]
  cases hsig : verifyPayload S ⟨req.senderPubkey, hwf.senderPubkey⟩ (signedBytes req)
      req.signature with
  | false =>
    refine ⟨[], _, .badSignature hkey hreq rfl hsig, ?_⟩
    rw [Bool.not_false, if_pos rfl, bind_pure_unit, hkeep]
    rfl
  | true =>
  rw [Bool.not_true, if_neg Bool.false_ne_true]
  split_ifs with hallowed
  · refine ⟨[], _, .notAllowed hkey hreq rfl hallowed, ?_⟩
    rw [bind_pure_unit, hkeep]
    rfl
  have hauth : Authorised S g.config req ⟨req.senderPubkey, hwf.senderPubkey⟩ := by
    refine ⟨rfl, hsig, ?_⟩
    tauto
  cases hamount : checkAmount S g.config req with
  | error e =>
    refine ⟨[], _, .limitUndefined hkey hreq hauth hamount, ?_⟩
    rw [run_bind_error (run_ofExcept_error _ _), hkeep]
    rfl
  | ok refusal =>
  rw [run_bind_ok (run_ofExcept_ok _ _)]
  rcases refusal with _ | (mintStr | text)
  · have hadm : Admitted g payload keypair req := ⟨hkey, hreq, ⟨_, hauth⟩, hamount⟩
    dsimp only
    rw [run_bind_ok (run_emit _ _)]
    cases hrpc : env.rpc.getLatestBlockhash with
    | error e => exact ⟨[.getLatestBlockhash], _, .noBlockhash hadm hrpc, rfl⟩
    | ok recentBlockhash =>
    dsimp only
    rw [Pubkey.fromBytes_of_length hwf.destPubkey, run_bind_ok (run_ofExcept_ok _ _),
      run_bind_ok (run_createTransfer env keypair req recentBlockhash _ _),
      GatewayNode.record_record]
    cases hcreate : (env.rpc.transfer keypair req recentBlockhash
        ⟨req.destPubkey, hwf.destPubkey⟩).2 with
    | error e => exact ⟨_, _, .notCreated hadm hrpc rfl hcreate, rfl⟩
    | ok txBytes =>
      refine ⟨_, _, .broadcast hadm hrpc rfl hcreate, ?_⟩
      dsimp only
      rw [run_bind_ok (run_broadcastToSolana env txBytes _), GatewayNode.record_record,
        List.append_assoc]
      rfl
  · refine ⟨[], _, .unsupportedToken hkey hreq hauth hamount, ?_⟩
    rw [hkeep]
    rfl
  · refine ⟨[], _, .amountExceeded hkey hreq hauth hamount, ?_⟩
    rw [hkeep]
    rfl

omit [Number F] in
/-- What finishing a run leaves behind: at most one more frame. -/
lemma stateAfter_finish (env : Moment S) (msgId : UInt16) (senderId : String)
    (reply : Except Exn Reply) (g : GatewayNode F S) :
    ∃ sent : List GatewayEvent, stateAfter (finish env msgId senderId reply) g = g.record sent ∧
      ∀ event ∈ sent, ∃ frame, event = .meshSend frame senderId true := by
  cases reply with
  | error e => exact ⟨[], by rw [GatewayNode.record_nil]; rfl, by simp⟩
  | ok r =>
    refine ⟨_, stateAfter_sendReply env msgId r senderId g, ?_⟩
    intro event hevent
    unfold Reply.sent at hevent
    split_ifs at hevent
    · exact ⟨_, List.mem_singleton.mp hevent⟩
    · cases hevent

/-- **What the handler leaves behind** when the rate limiter admits the request: the calls of an
exit, and at most one frame. -/
lemma stateAfter_handleTxRequest {env : Moment S} {g : GatewayNode F S} {senderId : String}
    (hadmits : g.admits env senderId = true) (header : SolMeshHeader) (payload : Bytes) :
    ∃ calls reply, ∃ sent : List GatewayEvent, TxRequestExit env g payload calls reply ∧
      stateAfter (handleTxRequest env header payload senderId) g =
        (g.limited env senderId).record (calls ++ sent) ∧
      ∀ event ∈ sent, ∃ frame, event = .meshSend frame senderId true := by
  have hcases := handleTxRequest_cases env header payload senderId g
  rw [if_pos hadmits] at hcases
  obtain ⟨calls, reply, hexit, hrun⟩ := hcases
  obtain ⟨sent, hafter, hsent⟩ := stateAfter_finish env header.msgId senderId reply
    ((g.limited env senderId).record calls)
  refine ⟨calls, reply, sent, hexit, ?_, hsent⟩
  rw [GatewayNode.record_record] at hafter
  rw [← hafter, stateAfter, stateAfter, hrun]

/-- A request beyond the rate limit only causes a `NACK`. -/
lemma stateAfter_handleTxRequest_of_not_admits {env : Moment S} {g : GatewayNode F S}
    {senderId : String} (hadmits : g.admits env senderId = false) (header : SolMeshHeader)
    (payload : Bytes) :
    stateAfter (handleTxRequest env header payload senderId) g =
      (g.limited env senderId).record
        [.meshSend (rateLimitedReply.frame env.replyId header.msgId) senderId true] := by
  have hcases := handleTxRequest_cases env header payload senderId g
  rw [if_neg (by rw [hadmits]; exact Bool.false_ne_true)] at hcases
  exact stateAfter_of_ok hcases

/-- **Only one exit broadcasts**: the one behind all checks.

**Proof sketch.** Creating a transfer asks for accounts only (`mem_transfer_calls`), so no other
exit has a broadcast among its calls. At the last exit it is that of what was created, which is the
transfer that the request asks for (`isTransferOf_of_transfer`), and it is there once. -/
lemma TxRequestExit.of_sendRawTransaction {env : Moment S} {g : GatewayNode F S} {payload : Bytes}
    {calls : List GatewayEvent} {reply : Except Exn Reply}
    (h : TxRequestExit env g payload calls reply) {txBytes : Bytes}
    (hsend : .sendRawTransaction txBytes ∈ calls) :
    ∃ keypair req recentBlockhash, Admitted g payload keypair req ∧
      env.rpc.getLatestBlockhash = .ok recentBlockhash ∧
      IsTransferOf S keypair req recentBlockhash txBytes ∧
      calls.count (.sendRawTransaction txBytes) = 1 := by
  have hnot : ∀ {keypair : S.Keypair} {req : TxRequest} {recentBlockhash : S.Blockhash}
      {dest : Pubkey} {tx : Bytes}, GatewayEvent.sendRawTransaction tx ∉
        (env.rpc.transfer keypair req recentBlockhash dest).1 := by
    intro keypair req recentBlockhash dest tx hmem
    obtain ⟨address, heq⟩ := mem_transfer_calls hmem
    cases heq
  cases h with
  | noHotWallet | malformed | badSignature | notAllowed | unsupportedToken | amountExceeded
  | limitUndefined => cases hsend
  | noBlockhash => cases List.mem_singleton.mp hsend
  | notCreated =>
    rcases List.mem_cons.mp hsend with heq | hmem
    · cases heq
    · exact absurd hmem hnot
  | @broadcast keypair req recentBlockhash dest tx hadm hrpc hdest hcreate =>
    have hmem : GatewayEvent.sendRawTransaction txBytes ∈ (env.rpc.broadcast tx).1 := by
      rcases List.mem_cons.mp hsend with heq | hmem
      · cases heq
      · exact (List.mem_append.mp hmem).resolve_left hnot
    obtain rfl : txBytes = tx := by
      cases mem_broadcast_calls hmem
      rfl
    refine ⟨keypair, req, recentBlockhash, hadm, hrpc,
      isTransferOf_of_transfer (wellFormed_of_decodeTxRequest hadm.decoded) hdest hcreate, ?_⟩
    rw [List.count_cons_of_ne (by simp), List.count_append, List.count_eq_zero_of_not_mem hnot,
      Nat.zero_add]
    unfold Rpc.broadcast at hmem ⊢
    cases hd : deserializeTransaction S txBytes with
    | error e => rw [hd] at hmem; cases hmem
    | ok t => simp

/-- **An admitted request whose transfer is created is broadcast**: the other exits do not
apply.

**Proof sketch.** Each other exit contradicts what is known of the request, since the payload is
decoded to one request only. At the last exit, what was created is this transaction. -/
lemma TxRequestExit.of_admitted {env : Moment S} {g : GatewayNode F S} {payload : Bytes}
    {calls : List GatewayEvent} {reply : Except Exn Reply}
    (h : TxRequestExit env g payload calls reply) {keypair : S.Keypair} {req : TxRequest}
    (hadm : Admitted g payload keypair req) {recentBlockhash : S.Blockhash}
    (hrpc : env.rpc.getLatestBlockhash = .ok recentBlockhash) {dest : Pubkey}
    (hdest : dest.val = req.destPubkey) {txBytes : Bytes}
    (hcreate : (env.rpc.transfer keypair req recentBlockhash dest).2 = .ok txBytes) :
    calls = .getLatestBlockhash :: ((env.rpc.transfer keypair req recentBlockhash dest).1 ++
        (env.rpc.broadcast txBytes).1) ∧
      reply = .ok (.txResult (env.rpc.broadcast txBytes).2.1 (env.rpc.broadcast txBytes).2.2) := by
  obtain ⟨hkey, hreq, ⟨key, hauth⟩, hamount⟩ := hadm
  have huniq : ∀ {req' : TxRequest}, decodeTxRequest payload = .ok req' → req' = req := by
    intro req' hreq'
    rw [hreq] at hreq'
    exact (Except.ok.inj hreq').symm
  cases h with
  | noHotWallet hkey' => rw [hkey] at hkey'; cases hkey'
  | malformed _ hreq' => rw [hreq] at hreq'; cases hreq'
  | badSignature _ hreq' hsender hsig =>
    obtain rfl := huniq hreq'
    have hk := Subtype.ext (hsender.trans hauth.pubkey.symm)
    rw [hk, hauth.signed] at hsig
    cases hsig
  | notAllowed _ hreq' hsender hnot =>
    obtain rfl := huniq hreq'
    have hk := Subtype.ext (hsender.trans hauth.pubkey.symm)
    rw [hk] at hnot
    exact absurd (hauth.allowed.resolve_left hnot.1) hnot.2
  | unsupportedToken _ hreq' _ hamount' =>
    obtain rfl := huniq hreq'
    rw [hamount] at hamount'
    cases hamount'
  | amountExceeded _ hreq' _ hamount' =>
    obtain rfl := huniq hreq'
    rw [hamount] at hamount'
    cases hamount'
  | limitUndefined _ hreq' _ hamount' =>
    obtain rfl := huniq hreq'
    rw [hamount] at hamount'
    cases hamount'
  | noBlockhash _ hrpc' => rw [hrpc] at hrpc'; cases hrpc'
  | @notCreated keypair' req' hash' dest' e hadm' hrpc' hdest' hcreate' =>
    obtain rfl := huniq hadm'.decoded
    obtain rfl := Option.some.inj (hkey.symm.trans hadm'.hotKeypair)
    obtain rfl := Except.ok.inj (hrpc.symm.trans hrpc')
    obtain rfl : dest' = dest := Subtype.ext (hdest'.trans hdest.symm)
    rw [hcreate] at hcreate'
    cases hcreate'
  | @broadcast keypair' req' hash' dest' tx' hadm' hrpc' hdest' hcreate' =>
    obtain rfl := huniq hadm'.decoded
    obtain rfl := Option.some.inj (hkey.symm.trans hadm'.hotKeypair)
    obtain rfl := Except.ok.inj (hrpc.symm.trans hrpc')
    obtain rfl : dest' = dest := Subtype.ext (hdest'.trans hdest.symm)
    obtain rfl := Except.ok.inj (hcreate.symm.trans hcreate')
    exact ⟨rfl, rfl⟩

/-- A number of base units passes the comparison with a limit exactly if it is within the limit in
base units. -/
lemma withinLimit_iff {limit : F} {factor : ℤ} {n : ℕ} {text : Text} :
    (do if (n : ℤ) > (← maxBaseUnits limit factor) then
          return some (Refusal.amountExceeded text)
        else return none : Except Exn (Option Refusal)) = .ok none ↔
      ∃ m, maxBaseUnits limit factor = .ok m ∧ (n : ℤ) ≤ m := by
  rw [bind_eq_ok]
  refine exists_congr fun m => and_congr_right fun _ => ?_
  split_ifs with hgt
  · simp [pure, Except.pure, hgt]
  · simp [pure, Except.pure, not_lt.mp hgt]

/-- **Which amounts of lamports pass** the check. -/
lemma checkAmount_eq_none_iff_of_noMint {config : GatewayConfig F} {req : TxRequest}
    (hmint : ¬ req.mint.length = 32) :
    checkAmount S config req = .ok none ↔
      ∃ m, maxBaseUnits config.maxTransferSol lamportsPerSol = .ok m ∧ (req.lamports : ℤ) ≤ m := by
  rw [checkAmount, if_neg hmint]
  exact withinLimit_iff

/-- **Which amounts of a token pass** the check: the token is known, and the amount is within its
limit, if it has one.

**Proof sketch.** The mint is looked up among the known tokens, and then its limit among those of
the setup. An amount is compared with a limit only if there is one (`withinLimit_iff`). -/
lemma checkAmount_eq_none_iff_of_mint {config : GatewayConfig F} {req : TxRequest} {mint : Pubkey}
    (hmint : req.mint = mint.val) :
    checkAmount S config req = .ok none ↔
      ∃ symbol decimals, knownTokens.get? (S.pubkeyStr mint) = some (symbol, decimals) ∧
        ∀ limit, config.getMaxTransferToken (S.pubkeyStr mint) = some limit →
          ∃ m, maxBaseUnits limit (10 ^ decimals) = .ok m ∧ (req.amount : ℤ) ≤ m := by
  have hlen : req.mint.length = 32 := by rw [hmint]; exact mint.property
  have hkey : Pubkey.fromBytes req.mint = .ok mint := by
    rw [Pubkey.fromBytes_of_length hlen]
    exact congrArg Except.ok (Subtype.ext hmint)
  rw [checkAmount, if_pos hlen, hkey, ok_bind]
  dsimp only
  cases htoken : knownTokens.get? (S.pubkeyStr mint) with
  | none => exact iff_of_false nofun nofun
  | some token =>
    obtain ⟨symbol, decimals⟩ := token
    have hinj : ∀ {P : String → ℕ → Prop}, (∃ symbol' decimals',
        some (symbol, decimals) = some (symbol', decimals') ∧ P symbol' decimals') ↔
          P symbol decimals := by
      intro P
      simp
    rw [hinj]
    dsimp only
    cases config.getMaxTransferToken (S.pubkeyStr mint) with
    | none => exact iff_of_true rfl nofun
    | some limit =>
      simp only [Option.some.injEq, forall_eq']
      exact withinLimit_iff

/-- What a passed check of the amount means. -/
lemma of_checkAmount_eq_none {config : GatewayConfig F} {req : TxRequest} (hreq : req.WellFormed)
    (h : checkAmount S config req = .ok none) :
    (req.mint = [] ∧ ∃ m, maxBaseUnits config.maxTransferSol lamportsPerSol = .ok m ∧
      (req.amount : ℤ) ≤ m) ∨
    ∃ (mint : Pubkey) (symbol : String) (decimals : ℕ), mint.val = req.mint ∧
      knownTokens.get? (S.pubkeyStr mint) = some (symbol, decimals) ∧
      ∀ limit, config.getMaxTransferToken (S.pubkeyStr mint) = some limit →
        ∃ m, maxBaseUnits limit (10 ^ decimals) = .ok m ∧ (req.amount : ℤ) ≤ m := by
  rcases hreq.mint_cases with hnil | hlen
  · have hne : ¬ req.mint.length = 32 := by rw [hnil]; decide
    have hle := (checkAmount_eq_none_iff_of_noMint hne).mp h
    rw [hreq.lamports] at hle
    exact Or.inl ⟨hnil, hle⟩
  · let mint : Pubkey := ⟨req.mint, hlen⟩
    have hmint : req.mint = mint.val := rfl
    obtain ⟨symbol, decimals, htoken, hmax⟩ := (checkAmount_eq_none_iff_of_mint hmint).mp h
    exact Or.inr ⟨mint, symbol, decimals, rfl, htoken, hmax⟩

/-- Whenever the handler hands a transaction to the RPC node, the rate limiter granted a token, and
the transaction is the transfer that an admitted request asks for.

**Proof sketch.** The effects of the handler are the calls of its exit and a reply, which is a
frame; so the broadcast is among the calls, and only one exit has it
(`TxRequestExit.of_sendRawTransaction`). -/
lemma admitted_of_sendRawTransaction {env : Moment S} {g : GatewayNode F S}
    {header : SolMeshHeader} {payload : Bytes} {senderId : String} {txBytes : Bytes}
    (h : .sendRawTransaction txBytes ∈ effects (handleTxRequest env header payload senderId) g) :
    g.admits env senderId = true ∧ ∃ keypair req recentBlockhash,
      Admitted g payload keypair req ∧ IsTransferOf S keypair req recentBlockhash txBytes := by
  unfold effects at h
  cases hadmits : g.admits env senderId with
  | false =>
    rw [stateAfter_handleTxRequest_of_not_admits hadmits] at h
    simp at h
  | true =>
    obtain ⟨calls, reply, sent, hexit, hafter, hsent⟩ :=
      stateAfter_handleTxRequest hadmits header payload
    have hmem : GatewayEvent.sendRawTransaction txBytes ∈ calls := by
      rw [hafter] at h
      simp only [GatewayNode.record_events, GatewayNode.limited_events, List.drop_left,
        List.mem_append] at h
      refine h.resolve_right fun hin => ?_
      obtain ⟨frame, heq⟩ := hsent _ hin
      cases heq
    obtain ⟨keypair, req, recentBlockhash, hadm, _, htx, _⟩ := hexit.of_sendRawTransaction hmem
    exact ⟨rfl, keypair, req, recentBlockhash, hadm, htx⟩

/-- **Mode 3 spending is sound.** Whenever the handler hands a transaction to the RPC node, a hot
wallet is loaded, the rate limiter granted a token, the payload is signed by the key it names
over sender, destination, amount, flags and mint, this key may request transfers, the token is
known, the amount is within the limit, and the transaction is the transfer of exactly that amount
and token to that destination. The signed bytes determine all of these fields.

**Proof sketch.** A transaction is handed over on one exit of the handler only, which all checks
lead to (`admitted_of_sendRawTransaction`); each check says what it let through. The fields of a
request that was decoded have fixed widths, so the signed bytes determine them
(`signedBytes_injective`). -/
theorem spending_sound :
    (∀ (env : Moment S) (g : GatewayNode F S) (header : SolMeshHeader) (payload : Bytes)
      (senderId : String) (txBytes : Bytes),
      .sendRawTransaction txBytes ∈ effects (handleTxRequest env header payload senderId) g →
      ∃ (keypair : S.Keypair) (req : TxRequest) (senderPubkey : Pubkey)
        (recentBlockhash : S.Blockhash),
        g.hotKeypair = some keypair ∧
        (g.rateLimiter.isAllowed senderId env.bucketCreation env.now).1 = true ∧
        (stateAfter (handleTxRequest env header payload senderId) g).rateLimiter =
          (g.rateLimiter.isAllowed senderId env.bucketCreation env.now).2 ∧
        decodeTxRequest payload = .ok req ∧
        senderPubkey.val = req.senderPubkey ∧
        verifyPayload S senderPubkey (signedBytes req) req.signature = true ∧
        (g.config.allowedRequesters ≠ [] →
          S.pubkeyStr senderPubkey ∈ g.config.allowedRequesters) ∧
        ((req.mint = [] ∧ ∃ m, maxBaseUnits g.config.maxTransferSol lamportsPerSol = .ok m ∧
            (req.amount : ℤ) ≤ m) ∨
          ∃ (mint : Pubkey) (symbol : String) (decimals : ℕ), mint.val = req.mint ∧
            knownTokens.get? (S.pubkeyStr mint) = some (symbol, decimals) ∧
            ∀ limit, g.config.getMaxTransferToken (S.pubkeyStr mint) = some limit →
              ∃ m, maxBaseUnits limit (10 ^ decimals) = .ok m ∧ (req.amount : ℤ) ≤ m) ∧
        IsTransferOf S keypair req recentBlockhash txBytes) ∧
    ∀ (payload₁ payload₂ : Bytes) (req₁ req₂ : TxRequest),
      decodeTxRequest payload₁ = .ok req₁ → decodeTxRequest payload₂ = .ok req₂ →
      signedBytes req₁ = signedBytes req₂ →
      req₁.senderPubkey = req₂.senderPubkey ∧ req₁.destPubkey = req₂.destPubkey ∧
        req₁.amount = req₂.amount ∧ req₁.flags = req₂.flags ∧ req₁.mint = req₂.mint := by
  refine ⟨?_, fun payload₁ payload₂ req₁ req₂ h₁ h₂ h =>
    signedBytes_injective (wellFormed_of_decodeTxRequest h₁) (wellFormed_of_decodeTxRequest h₂) h⟩
  intro env g header payload senderId txBytes hsend
  obtain ⟨hadmits, keypair, req, recentBlockhash, hadm, htx⟩ :=
    admitted_of_sendRawTransaction hsend
  obtain ⟨senderPubkey, hauth⟩ := hadm.authorised
  obtain ⟨calls, reply, sent, _, hafter, _⟩ := stateAfter_handleTxRequest hadmits header payload
  refine ⟨keypair, req, senderPubkey, recentBlockhash, hadm.hotKeypair, hadmits, ?_,
    hadm.decoded, hauth.pubkey, hauth.signed, fun hne => hauth.allowed.resolve_left hne,
    of_checkAmount_eq_none (wellFormed_of_decodeTxRequest hadm.decoded) hadm.amount, htx⟩
  rw [hafter]
  rfl

end Exits

/-- The payload of a request for five SOL, signed with the sample library. -/
def samplePayload : Bytes :=
  txRequestBytes sampleKey.val sampleKey.val 5000000000 (sampleSignature sampleKey
    (sampleKey.val ++ sampleKey.val ++ Bytes.toBE 8 5000000000)).val [] []

/-- The sample gateway spends five SOL on a request that asks for five SOL. -/
theorem spending_sound_five_sol :
    ∃ req recentBlockhash, decodeTxRequest samplePayload = .ok req ∧
      IsTransferOf sampleSolders hotKey req recentBlockhash
        (signedTransfer hotKey sampleKey 5000000000) := by
  obtain ⟨keypair, req, _, recentBlockhash, hkey, _, _, hreq, _, _, _, _, htx⟩ :=
    spending_sound.1 sampleMoment sampleGateway ⟨MsgType.txRequest, 7, 0, 1, 137, 0⟩ samplePayload
      "!a" (signedTransfer hotKey sampleKey 5000000000) (by decide +kernel)
  have hhot : sampleGateway.hotKeypair = some hotKey := rfl
  obtain rfl : hotKey = keypair := Option.some.inj (hhot.symm.trans hkey)
  exact ⟨req, recentBlockhash, hreq, htx⟩

end SolMesh
