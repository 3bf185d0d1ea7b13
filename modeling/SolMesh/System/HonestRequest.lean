import SolMesh.Gateway.TxRequest
import SolMesh.Client.Request

set_option relaxedAutoImplicit false
set_option autoImplicit false

/-!
# Honest requests are executed as asked

Client and gateway put the signed bytes together independently, before encoding and after
decoding. They agree on them, so the request of an allowed requester within the limits passes all
checks and its transfer is broadcast.

## Main definitions

* `SolMesh.Ready` — a gateway that serves a requester.
* `SolMesh.Executed` — the handler broadcast a transaction and reported success, nothing else.

## Main results

* `SolMesh.honest_requests_executed` — both kinds of requests are executed.
-/

namespace SolMesh

open Py Text

variable {F : Type} [Number F] {S : Solders}

/-- A gateway with a hot wallet, a token for the sender, and the requester allowed. -/
structure Ready (env : Moment S) (g : GatewayNode F S) (senderId : String) (hot : S.Keypair)
    (requester : Pubkey) : Prop where
  hotKeypair : g.hotKeypair = some hot
  token : g.admits env senderId = true
  allowed : g.config.allowedRequesters = [] ∨
    S.pubkeyStr requester ∈ g.config.allowedRequesters

/-- The handler returned, after it broadcast the transaction and answered the message with a
successful `TX_RESULT`. Otherwise it only asked the RPC node for information. -/
def Executed (env : Moment S) (g : GatewayNode F S) (header : SolMeshHeader) (payload : Bytes)
    (senderId : String) (msgId : UInt16) (txBytes : Bytes) (sig : Text) : Prop :=
  ∃ calls frame replyHeader replyPayload,
    (handleTxRequest env header payload senderId).run g =
      .ok () ((g.limited env senderId).record
        (calls ++ [.sendRawTransaction txBytes, .meshSend frame senderId true])) ∧
    (∀ event ∈ calls, event = .getLatestBlockhash ∨ ∃ address, event = .getAccountInfo address) ∧
    unpackMessage frame = .ok (replyHeader, replyPayload) ∧
    replyHeader.msgType = MsgType.txResult ∧
    decodeTxResult replyPayload = .ok ⟨msgId.toNat, true, utf8 sig⟩

/-- A `TX_RESULT` that fits is read back. -/
lemma unpackMessage_txResult {success : Bool} {text : Text}
    (h : (Reply.txResult success text).Fits) (replyId originalMsgId : UInt16) :
    ∃ header payload,
      unpackMessage ((Reply.txResult success text).frame replyId originalMsgId) =
        .ok (header, payload) ∧ header.msgType = MsgType.txResult ∧
      decodeTxResult payload = .ok ⟨originalMsgId.toNat, success, utf8 text⟩ := by
  have hlen := length_reply_payload originalMsgId (Reply.txResult success text)
  obtain ⟨checksum, hu⟩ := unpackMessage_frameBytes_append MsgType.txResult replyId 0 1 []
    (hlen.le.trans h.2)
  rw [List.append_nil] at hu
  exact ⟨_, _, hu, rfl, decodeTxResult_reply originalMsgId success (utf8 text)⟩

/-- An admitted request is executed if its transfer is created and broadcast.

**Proof sketch.** An admitted request leaves the handler through the exit that broadcasts
(`TxRequestExit.of_admitted`). The transaction parses and the node accepts it, so the reply is the
success with its signature; this fits a frame, and is therefore sent and can be unpacked. -/
lemma executed_of_admitted {env : Moment S} {g : GatewayNode F S} {header : SolMeshHeader}
    {payload : Bytes} {senderId : String} {hot : S.Keypair} {req : TxRequest}
    (htoken : g.admits env senderId = true) (hadm : Admitted g payload hot req)
    {recentBlockhash : S.Blockhash} (hrpc : env.rpc.getLatestBlockhash = .ok recentBlockhash)
    {dest : Pubkey} (hdest : dest.val = req.destPubkey) {txBytes : Bytes}
    (hcreate : (env.rpc.transfer hot req recentBlockhash dest).2 = .ok txBytes)
    {tx : S.Transaction} (hparse : deserializeTransaction S txBytes = .ok tx) {sig : Text}
    (hsend : env.rpc.sendRawTransaction txBytes = .ok sig)
    (hfits : (Reply.txResult true sig).Fits) :
    Executed env g header payload senderId header.msgId txBytes sig := by
  have hbroadcast : env.rpc.broadcast txBytes = ([.sendRawTransaction txBytes], true, sig) := by
    rw [Rpc.broadcast, hparse, hsend]
  have hcases := handleTxRequest_cases env header payload senderId g
  rw [if_pos htoken] at hcases
  obtain ⟨calls, reply, hexit, hrun⟩ := hcases
  obtain ⟨rfl, rfl⟩ := hexit.of_admitted hadm hrpc hdest hcreate
  obtain ⟨replyHeader, replyPayload, hunpack, htype, hdecode⟩ :=
    unpackMessage_txResult hfits env.replyId header.msgId
  refine ⟨.getLatestBlockhash :: (env.rpc.transfer hot req recentBlockhash dest).1, _, replyHeader,
    replyPayload, ?_, ?_, hunpack, htype, hdecode⟩
  · rw [hrun, hbroadcast]
    refine (sendReply_of_fits env header.msgId hfits senderId _).trans ?_
    rw [GatewayNode.record_record]
    simp
  · intro event hevent
    rcases List.mem_cons.mp hevent with rfl | hmem
    · exact Or.inl rfl
    · exact Or.inr (mem_transfer_calls hmem)

section Honest

variable (hsign : ∀ (k : S.Keypair) (m : Bytes),
  verifyPayload S (S.pubkey k) m (signPayload S k m) = true)

include hsign in
/-- The signature on a request for lamports is over the bytes the gateway rebuilds. -/
lemma verify_transferSignature (kp : S.Keypair) (dest : Pubkey) (n : ℕ) :
    verifyPayload S (S.pubkey kp) (signedBytes ⟨transferSignature kp dest n, (S.pubkey kp).val,
      dest.val, n, n, flagsOf [], [], []⟩) (transferSignature kp dest n) = true := by
  have hbytes : signedBytes ⟨transferSignature kp dest n, (S.pubkey kp).val, dest.val, n, n,
      flagsOf [], [], []⟩ = (S.pubkey kp).val ++ dest.val ++ Bytes.toBE 8 n := by
    simp [signedBytes, flagsOf]
  rw [hbytes]
  exact hsign kp _

include hsign in
/-- The signature on a token request is over the bytes the gateway rebuilds. -/
lemma verify_tokenTransferSignature (kp : S.Keypair) (dest mint : Pubkey) (n : ℕ) :
    verifyPayload S (S.pubkey kp) (signedBytes ⟨tokenTransferSignature kp dest mint n,
      (S.pubkey kp).val, dest.val, n, n, flagsOf mint.val, mint.val, []⟩)
      (tokenTransferSignature kp dest mint n) = true := by
  have hne : mint.val ≠ [] := by
    intro hnil
    have hlen := mint.property
    rw [hnil] at hlen
    cases hlen
  have hflags : flagsOf mint.val = 0x01 := if_pos hne
  have hbytes : signedBytes ⟨tokenTransferSignature kp dest mint n, (S.pubkey kp).val, dest.val,
      n, n, flagsOf mint.val, mint.val, []⟩ =
        (S.pubkey kp).val ++ dest.val ++ Bytes.toBE 8 n ++ [0x01] ++ mint.val := by
    simp [signedBytes, hflags]
  rw [hbytes]
  exact hsign kp _

/-- **Honest requests are executed as asked.** The frame of a request is unpacked and decoded by a
gateway that serves the requester, and if the amount is within the limit and creating and
broadcasting the transfer succeeds, then exactly the transfer that was asked for is broadcast and
a successful result is sent.

**Proof sketch.** The same for both kinds of requests. The frame is unpacked and decoded to what was
asked for (`unpackMessage_requestFrame`), the signature is verified because it is that of the
requester, and the amount is within the limit, so the handler admits the request and creates the
transfer by assumption (`executed_of_admitted`). -/
theorem honest_requests_executed
    (hsign : ∀ (k : S.Keypair) (m : Bytes),
      verifyPayload S (S.pubkey k) m (signPayload S k m) = true)
    {wallets : WalletManager S} {walletName destination gateway : String} {passphrase : Text}
    {kp : S.Keypair} {dest : Pubkey} {n : ℕ} {msgId : UInt16} {amount : F} (hgw : gateway ≠ "")
    (hkp : wallets.loadKeypair walletName passphrase = .ok kp)
    (hdest : S.pubkeyFromString destination = .ok dest) (hn : n < 2 ^ 64) :
    (Number.toInt (Number.mulInt amount lamportsPerSol) = .ok (n : ℤ) →
      ∃ request header payload,
        requestTransfer wallets (some gateway) walletName destination amount passphrase msgId =
          .ok request ∧
        request.destinationId = gateway ∧ request.msgId = msgId ∧
        unpackMessage request.frame = .ok (header, payload) ∧
        header.msgType = MsgType.txRequest ∧ header.msgId = msgId ∧
        ∀ (env : Moment S) (g : GatewayNode F S) (senderId : String) (hot : S.Keypair) (m : ℤ)
          (recentBlockhash : S.Blockhash) (txBytes : Bytes) (tx : S.Transaction) (sig : Text),
          Ready env g senderId hot (S.pubkey kp) →
          maxBaseUnits g.config.maxTransferSol lamportsPerSol = .ok m → (n : ℤ) ≤ m →
          env.rpc.getLatestBlockhash = .ok recentBlockhash →
          createSolTransfer S hot dest n recentBlockhash = .ok txBytes →
          deserializeTransaction S txBytes = .ok tx →
          env.rpc.sendRawTransaction txBytes = .ok sig → (Reply.txResult true sig).Fits →
          Executed env g header payload senderId msgId txBytes sig) ∧
    ∀ (mintAddress : String) (mint : Pubkey) (decimals : ℕ),
      S.pubkeyFromString mintAddress = .ok mint →
      Number.toInt (Number.mulInt amount (10 ^ decimals)) = .ok (n : ℤ) →
      ∃ request header payload,
        requestTokenTransfer wallets (some gateway) walletName destination mintAddress amount
          decimals passphrase msgId = .ok request ∧
        request.destinationId = gateway ∧ request.msgId = msgId ∧
        unpackMessage request.frame = .ok (header, payload) ∧
        header.msgType = MsgType.txRequest ∧ header.msgId = msgId ∧
        ∀ (env : Moment S) (g : GatewayNode F S) (senderId : String) (hot : S.Keypair)
          (symbol : String) (decimals' : ℕ) (recentBlockhash : S.Blockhash) (ata : Pubkey)
          (txBytes : Bytes) (tx : S.Transaction) (sig : Text),
          Ready env g senderId hot (S.pubkey kp) →
          knownTokens.get? (S.pubkeyStr mint) = some (symbol, decimals') →
          (∀ limit, g.config.getMaxTransferToken (S.pubkeyStr mint) = some limit →
            ∃ m, maxBaseUnits limit (10 ^ decimals') = .ok m ∧ (n : ℤ) ≤ m) →
          env.rpc.getLatestBlockhash = .ok recentBlockhash →
          findAssociatedTokenAddress S dest mint = .ok ata →
          createSplTransfer S hot dest mint n decimals' recentBlockhash (env.rpc.createAta ata) =
            .ok txBytes →
          deserializeTransaction S txBytes = .ok tx →
          env.rpc.sendRawTransaction txBytes = .ok sig → (Reply.txResult true sig).Fits →
          Executed env g header payload senderId msgId txBytes sig := by
  have hn' : n < 256 ^ 8 := by omega
  have hsender := (S.pubkey kp).property
  constructor
  · intro hamount
    have hs : (transferSignature kp dest n).length = 64 := length_signPayload _ _
    obtain ⟨_, header, payload, hunpack, htype, hid, hdecode⟩ :=
      unpackMessage_requestFrame hs hsender dest.property (Or.inl rfl) hn' msgId
    refine ⟨_, header, payload, requestTransfer_eq hgw hkp hdest hamount hn' msgId, rfl, rfl,
      hunpack, htype, hid, ?_⟩
    intro env g senderId hot m recentBlockhash txBytes tx sig hready hmax hle hrpc hcreate hparse
      hsend hfits
    have hadm : Admitted g payload hot ⟨transferSignature kp dest n, (S.pubkey kp).val, dest.val,
        n, n, flagsOf [], [], []⟩ :=
      ⟨hready.hotKeypair, hdecode,
        ⟨_, rfl, verify_transferSignature hsign kp dest n, hready.allowed⟩,
        (checkAmount_eq_none_iff_of_noMint (by simp)).mpr ⟨m, hmax, hle⟩⟩
    rw [← hid]
    refine executed_of_admitted hready.token hadm hrpc (rfl : dest.val = dest.val) ?_ hparse hsend
      hfits
    rw [Rpc.transfer, if_neg (by simp)]
    exact hcreate
  · intro mintAddress mint decimals hmint hamount
    have hs : (tokenTransferSignature kp dest mint n).length = 64 := length_signPayload _ _
    obtain ⟨_, header, payload, hunpack, htype, hid, hdecode⟩ :=
      unpackMessage_requestFrame hs hsender dest.property (Or.inr mint.property) hn' msgId
    refine ⟨_, header, payload, requestTokenTransfer_eq hgw hkp hdest hmint hamount hn' msgId, rfl,
      rfl, hunpack, htype, hid, ?_⟩
    intro env g senderId hot symbol decimals' recentBlockhash ata txBytes tx sig hready htoken hmax
      hrpc hata hcreate hparse hsend hfits
    have hadm : Admitted g payload hot ⟨tokenTransferSignature kp dest mint n, (S.pubkey kp).val,
        dest.val, n, n, flagsOf mint.val, mint.val, []⟩ :=
      ⟨hready.hotKeypair, hdecode,
        ⟨_, rfl, verify_tokenTransferSignature hsign kp dest mint n, hready.allowed⟩,
        (checkAmount_eq_none_iff_of_mint rfl).mpr ⟨symbol, decimals', htoken, hmax⟩⟩
    rw [← hid]
    refine executed_of_admitted hready.token hadm hrpc (rfl : dest.val = dest.val) ?_ hparse hsend
      hfits
    have haccount : tokenAccount S ⟨tokenTransferSignature kp dest mint n, (S.pubkey kp).val,
        dest.val, n, n, flagsOf mint.val, mint.val, []⟩ dest = .ok (mint, decimals', ata) := by
      have hkey : Pubkey.fromBytes mint.val = .ok mint := Pubkey.fromBytes_of_length mint.property
      have hknown : knownToken (S.pubkeyStr mint) = .ok (symbol, decimals') := by
        rw [knownToken, htoken]
      rw [tokenAccount, hkey, ok_bind, hknown, ok_bind]
      dsimp only
      rw [hata]
      rfl
    rw [Rpc.transfer, if_pos mint.property, haccount]
    exact hcreate

end Honest

/-- A request for five SOL and a request for five USDC are executed by the sample gateway. -/
theorem honest_requests_executed_sol_and_usdc :
    (∃ request header payload,
      requestTransfer (F := ℤ) (S := sampleSolders) sampleWallets (some "!gw") "alice"
        sampleAddress 5 [] 7 = .ok request ∧
      unpackMessage request.frame = .ok (header, payload) ∧
      Executed sampleMoment sampleGateway header payload "!a" 7
        (signedTransfer hotKey sampleKey 5000000000) (ofString "sig")) ∧
    ∃ request header payload,
      requestTokenTransfer (F := ℤ) (S := sampleSolders) sampleWallets (some "!gw") "alice"
        sampleAddress usdcMintMainnet 5 6 [] 8 = .ok request ∧
      unpackMessage request.frame = .ok (header, payload) ∧
      Executed sampleMoment sampleGateway header payload "!a" 8
        (signedTokenTransfer hotKey sampleKey usdcKey 5000000) (ofString "sig") := by
  have hready : Ready sampleMoment sampleGateway "!a" hotKey sampleKey :=
    ⟨rfl, by decide +kernel, Or.inl rfl⟩
  have hfits : (Reply.txResult true (ofString "sig")).Fits :=
    textFits_of_ascii (by decide) (by decide)
  have hkp : sampleWallets.loadKeypair "alice" [] = .ok sampleKey := rfl
  constructor
  · obtain ⟨request, header, payload, hrequest, _, _, hunpack, _, _, hexec⟩ :=
      (@honest_requests_executed ℤ _ sampleSolders verifyPayload_sample sampleWallets
        "alice" sampleAddress "!gw" [] sampleKey sampleKey 5000000000 7 5
        (by decide) hkp pubkeyFromString_sampleAddress (by decide)).1 rfl
    have hcreate : createSolTransfer sampleSolders hotKey sampleKey (5000000000 : ℕ)
        sampleBlockhash = .ok (signedTransfer hotKey sampleKey 5000000000) := by decide +kernel
    have hparse : (skipTransaction (signedTransfer hotKey sampleKey 5000000000)).isSome = true := by
      decide +kernel
    exact ⟨request, header, payload, hrequest, hunpack, hexec sampleMoment sampleGateway "!a"
      hotKey 10000000000 sampleBlockhash _ _ (ofString "sig") hready rfl (by decide) rfl hcreate
      (deserializeTransaction_sample hparse) rfl hfits⟩
  · obtain ⟨request, header, payload, hrequest, _, _, hunpack, _, _, hexec⟩ :=
      (@honest_requests_executed ℤ _ sampleSolders verifyPayload_sample sampleWallets
        "alice" sampleAddress "!gw" [] sampleKey sampleKey 5000000 8 5
        (by decide) hkp pubkeyFromString_sampleAddress (by decide)).2 usdcMintMainnet usdcKey 6
        pubkeyFromString_usdcMint rfl
    have htoken : knownTokens.get? (sampleSolders.pubkeyStr usdcKey) = some ("USDC", 6) := by
      rw [pubkeyStr_usdcKey]
      rfl
    have hlimit : ∀ limit,
        sampleGateway.config.getMaxTransferToken (sampleSolders.pubkeyStr usdcKey) = some limit →
        ∃ m, maxBaseUnits limit (10 ^ 6) = .ok m ∧ ((5000000 : ℕ) : ℤ) ≤ m := by
      rw [pubkeyStr_usdcKey]
      rintro _ ⟨⟩
      exact ⟨10000000, rfl, by decide⟩
    have hcreate : createSplTransfer sampleSolders hotKey sampleKey usdcKey (5000000 : ℕ)
        (6 : ℕ) sampleBlockhash false =
          .ok (signedTokenTransfer hotKey sampleKey usdcKey 5000000) := by
      decide +kernel
    have hparse :
        (skipTransaction (signedTokenTransfer hotKey sampleKey usdcKey 5000000)).isSome = true := by
      decide +kernel
    exact ⟨request, header, payload, hrequest, hunpack, hexec sampleMoment sampleGateway "!a"
      hotKey "USDC" 6 sampleBlockhash _ _ _ (ofString "sig") hready htoken hlimit rfl rfl hcreate
      (deserializeTransaction_sample hparse) rfl hfits⟩

end SolMesh
