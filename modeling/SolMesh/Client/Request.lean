import SolMesh.Protocol.Frame
import SolMesh.Protocol.RoundTrip
import SolMesh.Gateway.Solana

set_option relaxedAutoImplicit false
set_option autoImplicit false

/-!
# Transfer requests of the client

In Mode 3 the client asks the gateway for a transfer. It signs the request with its own key, over
bytes it puts together before it encodes the payload.

## Main definitions

* `SolMesh.requestTransfer`, `SolMesh.requestTokenTransfer` — the frames of the two requests.

## Main results

* `SolMesh.requestTransfer_eq`, `SolMesh.requestTokenTransfer_eq` — what the gateway decodes.
-/

namespace SolMesh

open Py Text

/-! ## The requests -/

/-- The wallet files: `load_keypair(name, passphrase)`. -/
structure WalletManager (S : Solders) where
  loadKeypair : String → Text → Except Exn S.Keypair

/-- A frame handed to the mesh, with its message id and its destination. -/
structure SentRequest where
  msgId : UInt16
  frame : Bytes
  destinationId : String
  deriving DecidableEq

/-- The configured gateway; an empty id counts as none. -/
def requireGateway (gatewayId : Option String) : Except Exn String :=
  match gatewayId with
  | none => .error (valueError (ofString "Gateway node ID not set"))
  | some id =>
    if id = "" then .error (valueError (ofString "Gateway node ID not set")) else .ok id

variable {F : Type} [Number F] {S : Solders}

/-- Send a signed request for a transfer of lamports; `msgId` is the id drawn for it. -/
def requestTransfer (wallets : WalletManager S) (gatewayId : Option String)
    (walletName destination : String) (amountSol : F) (passphrase : Text) (msgId : UInt16) :
    Except Exn SentRequest := do
  let gateway ← requireGateway gatewayId
  let kp ← wallets.loadKeypair walletName passphrase
  let senderPubkeyBytes := (S.pubkey kp).val
  let destPubkey ← S.pubkeyFromString destination
  let destPubkeyBytes := destPubkey.val
  let lamports ← Number.toInt (Number.mulInt amountSol lamportsPerSol)
  let signed := senderPubkeyBytes ++ destPubkeyBytes ++ (← packQ lamports)
  let sig := signPayload S kp signed
  let payload ← encodeTxRequest senderPubkeyBytes destPubkeyBytes lamports sig [] []
  let msg ← packMessage MsgType.txRequest.toNat msgId.toNat 0 1 payload
  return ⟨msgId, msg, gateway⟩

/-- Send a signed request for a token transfer; `msgId` is the id drawn for it. -/
def requestTokenTransfer (wallets : WalletManager S) (gatewayId : Option String)
    (walletName destination mintAddress : String) (amount : F) (decimals : ℕ)
    (passphrase : Text) (msgId : UInt16) : Except Exn SentRequest := do
  let gateway ← requireGateway gatewayId
  let kp ← wallets.loadKeypair walletName passphrase
  let senderPubkeyBytes := (S.pubkey kp).val
  let destPubkey ← S.pubkeyFromString destination
  let destPubkeyBytes := destPubkey.val
  let mintPubkey ← S.pubkeyFromString mintAddress
  let mintBytes := mintPubkey.val
  let baseUnits ← Number.toInt (Number.mulInt amount (10 ^ decimals))
  let flags : ℤ := 0x01
  let signed := senderPubkeyBytes ++ destPubkeyBytes ++ (← packQ baseUnits) ++ (← packB flags) ++
    mintBytes
  let sig := signPayload S kp signed
  let payload ← encodeTxRequest senderPubkeyBytes destPubkeyBytes baseUnits sig [] mintBytes
  let msg ← packMessage MsgType.txRequest.toNat msgId.toNat 0 1 payload
  return ⟨msgId, msg, gateway⟩

/-! ## What the gateway receives -/

/-- The signature on a request for a transfer of lamports. -/
def transferSignature (kp : S.Keypair) (dest : Pubkey) (amount : ℕ) : Bytes :=
  signPayload S kp ((S.pubkey kp).val ++ dest.val ++ Bytes.toBE 8 amount)

/-- The signature on a request for a token transfer. -/
def tokenTransferSignature (kp : S.Keypair) (dest mint : Pubkey) (amount : ℕ) : Bytes :=
  signPayload S kp ((S.pubkey kp).val ++ dest.val ++ Bytes.toBE 8 amount ++ [0x01] ++ mint.val)

/-- The frame of a request. -/
def requestFrame (sender dest : Bytes) (amount : ℕ) (signature mint : Bytes) (msgId : UInt16) :
    Bytes :=
  frameBytes MsgType.txRequest msgId 0 1 (txRequestBytes sender dest amount signature [] mint)

/-- A request fits a frame, and the gateway decodes the fields it was made of. -/
lemma unpackMessage_requestFrame {sender dest signature mint : Bytes} {amount : ℕ}
    (hs : signature.length = 64) (hf : sender.length = 32) (hd : dest.length = 32)
    (hm : mint = [] ∨ mint.length = 32) (ha : amount < 256 ^ 8) (msgId : UInt16) :
    (txRequestBytes sender dest amount signature [] mint).length ≤ maxChunkData ∧
    ∃ header payload,
      unpackMessage (requestFrame sender dest amount signature mint msgId) =
        .ok (header, payload) ∧ header.msgType = MsgType.txRequest ∧ header.msgId = msgId ∧
      decodeTxRequest payload =
        .ok ⟨signature, sender, dest, amount, amount, flagsOf mint, mint, []⟩ := by
  have hlen : (txRequestBytes sender dest amount signature [] mint).length ≤ maxChunkData := by
    have hmlen : mint.length ≤ 32 := by
      rcases hm with rfl | hm
      · exact Nat.zero_le _
      · exact hm.le
    simp only [txRequestBytes, List.length_append, hs, hf, hd, Bytes.length_toBE,
      List.length_singleton, maxChunkData_eq]
    change 64 + (32 + (32 + (8 + (1 + (mint.length + 0))))) ≤ 210
    omega
  obtain ⟨checksum, hu⟩ := unpackMessage_frameBytes_append MsgType.txRequest msgId 0 1 [] hlen
  rw [List.append_nil] at hu
  exact ⟨hlen, _, _, hu, rfl, rfl,
    decodeTxRequest_txRequestBytes hs hf hd ha hm (by simp [Text.IsEncodable])⟩

/-- A signature has 64 bytes. -/
lemma length_signPayload (kp : S.Keypair) (m : Bytes) : (signPayload S kp m).length = 64 :=
  (S.signMessage kp m).property

/-- The frame of a request is what packing the encoded payload gives. -/
lemma packMessage_txRequest {sender dest signature mint : Bytes} {amount : ℕ}
    (h : (txRequestBytes sender dest amount signature [] mint).length ≤ maxChunkData)
    (msgId : UInt16) :
    packMessage MsgType.txRequest.toNat msgId.toNat 0 1
      (txRequestBytes sender dest amount signature [] mint) =
        .ok (requestFrame sender dest amount signature mint msgId) := by
  have hpack := packMessage_eq MsgType.txRequest msgId 0 1 h
  rwa [show ((0 : UInt8).toNat : ℤ) = 0 from rfl, show ((1 : UInt8).toNat : ℤ) = 1 from rfl]
    at hpack

section Eq

variable {wallets : WalletManager S} {walletName destination gateway : String} {passphrase : Text}
  {kp : S.Keypair} {dest : Pubkey} {amount : F} {n : ℕ}

/-- A gateway that is set is found. -/
lemma requireGateway_some (h : gateway ≠ "") : requireGateway (some gateway) = .ok gateway :=
  if_neg h

/-- **What `requestTransfer` sends.**

**Proof sketch.** Every step succeeds: the wallet and the address are given, the amount fits eight
bytes, and the payload fits a frame. -/
lemma requestTransfer_eq (hgw : gateway ≠ "")
    (hkp : wallets.loadKeypair walletName passphrase = .ok kp)
    (hdest : S.pubkeyFromString destination = .ok dest)
    (hamount : Number.toInt (Number.mulInt amount lamportsPerSol) = .ok (n : ℤ))
    (hn : n < 256 ^ 8) (msgId : UInt16) :
    requestTransfer wallets (some gateway) walletName destination amount passphrase msgId =
      .ok ⟨msgId, requestFrame (S.pubkey kp).val dest.val n (transferSignature kp dest n) []
        msgId, gateway⟩ := by
  have hpack : packQ (n : ℤ) = .ok (Bytes.toBE 8 n) := packUInt_natCast _ hn
  have hs : (transferSignature kp dest n).length = 64 := length_signPayload _ _
  have hlen := (unpackMessage_requestFrame hs (S.pubkey kp).property dest.property (Or.inl rfl)
    hn msgId).1
  have henc : encodeTxRequest (S.pubkey kp).val dest.val n (transferSignature kp dest n) [] [] =
      .ok (txRequestBytes (S.pubkey kp).val dest.val n (transferSignature kp dest n) [] []) :=
    encodeTxRequest_eq_ok_iff.mpr ⟨hs, (S.pubkey kp).property, dest.property, Or.inl rfl,
      by omega, by simp [Text.IsEncodable], by rw [Int.toNat_natCast]⟩
  unfold requestTransfer
  rw [requireGateway_some hgw, ok_bind, hkp, ok_bind]
  dsimp only
  rw [hdest, ok_bind, hamount, ok_bind, hpack, ok_bind]
  change (encodeTxRequest (S.pubkey kp).val dest.val n (transferSignature kp dest n) [] [] >>= _)
    = _
  rw [henc, ok_bind, packMessage_txRequest hlen]
  rfl

/-- **What `requestTokenTransfer` sends.** -/
lemma requestTokenTransfer_eq {mintAddress : String} {mint : Pubkey} {decimals : ℕ}
    (hgw : gateway ≠ "") (hkp : wallets.loadKeypair walletName passphrase = .ok kp)
    (hdest : S.pubkeyFromString destination = .ok dest)
    (hmint : S.pubkeyFromString mintAddress = .ok mint)
    (hamount : Number.toInt (Number.mulInt amount (10 ^ decimals)) = .ok (n : ℤ))
    (hn : n < 256 ^ 8) (msgId : UInt16) :
    requestTokenTransfer wallets (some gateway) walletName destination mintAddress amount decimals
      passphrase msgId = .ok ⟨msgId, requestFrame (S.pubkey kp).val dest.val n
        (tokenTransferSignature kp dest mint n) mint.val msgId, gateway⟩ := by
  have hpack : packQ (n : ℤ) = .ok (Bytes.toBE 8 n) := packUInt_natCast _ hn
  have hflags : packB 0x01 = .ok [0x01] := rfl
  have hs : (tokenTransferSignature kp dest mint n).length = 64 := length_signPayload _ _
  have hlen := (unpackMessage_requestFrame hs (S.pubkey kp).property dest.property
    (Or.inr mint.property) hn msgId).1
  have henc : encodeTxRequest (S.pubkey kp).val dest.val n (tokenTransferSignature kp dest mint n)
      [] mint.val = .ok (txRequestBytes (S.pubkey kp).val dest.val n
        (tokenTransferSignature kp dest mint n) [] mint.val) :=
    encodeTxRequest_eq_ok_iff.mpr ⟨hs, (S.pubkey kp).property, dest.property,
      Or.inr mint.property, by omega, by simp [Text.IsEncodable], by rw [Int.toNat_natCast]⟩
  unfold requestTokenTransfer
  rw [requireGateway_some hgw, ok_bind, hkp, ok_bind]
  dsimp only
  rw [hdest, ok_bind, hmint, ok_bind, hamount, ok_bind, hpack, ok_bind, hflags, ok_bind]
  change (encodeTxRequest (S.pubkey kp).val dest.val n (tokenTransferSignature kp dest mint n) []
    mint.val >>= _) = _
  rw [henc, ok_bind, packMessage_txRequest hlen]
  rfl

/-- **Whatever `requestTransfer` sends** names the key of the wallet, the destination and the amount
of the call, and is signed with the key.

**Proof sketch.** Every step has to succeed, so the address is a key and the amount fits eight
bytes; the rest is computed from these. -/
lemma exists_of_requestTransfer {gatewayId : Option String} {msgId : UInt16}
    {request : SentRequest} (hkp : wallets.loadKeypair walletName passphrase = .ok kp)
    (h : requestTransfer wallets gatewayId walletName destination amount passphrase msgId =
      .ok request) :
    ∃ (dest : Pubkey) (n : ℕ), n < 256 ^ 8 ∧ S.pubkeyFromString destination = .ok dest ∧
      Number.toInt (Number.mulInt amount lamportsPerSol) = .ok (n : ℤ) ∧
      request.msgId = msgId ∧ request.frame =
        requestFrame (S.pubkey kp).val dest.val n (transferSignature kp dest n) [] msgId := by
  unfold requestTransfer at h
  obtain ⟨gateway, _, h⟩ := bind_eq_ok.mp h
  rw [hkp, ok_bind] at h
  obtain ⟨dest, hdest, h⟩ := bind_eq_ok.mp h
  obtain ⟨lamports, hamount, h⟩ := bind_eq_ok.mp h
  obtain ⟨amountBytes, hpack, h⟩ := bind_eq_ok.mp h
  obtain ⟨payload, henc, h⟩ := bind_eq_ok.mp h
  obtain ⟨msg, hmsg, h⟩ := bind_eq_ok.mp h
  obtain ⟨n, rfl, hn, rfl⟩ := exists_of_packUInt hpack
  obtain ⟨hs, hf, hd, hm, _, _, rfl⟩ := encodeTxRequest_eq_ok_iff.mp henc
  rw [Int.toNat_natCast, packMessage_txRequest
    (unpackMessage_requestFrame hs hf hd hm hn msgId).1] at hmsg
  cases hmsg
  cases h
  exact ⟨dest, n, hn, hdest, hamount, rfl, rfl⟩

/-- **Whatever `requestTokenTransfer` sends** names the key of the wallet, the destination, the mint
and the amount of the call, and is signed with the key. -/
lemma exists_of_requestTokenTransfer {gatewayId : Option String} {mintAddress : String}
    {decimals : ℕ} {msgId : UInt16} {request : SentRequest}
    (hkp : wallets.loadKeypair walletName passphrase = .ok kp)
    (h : requestTokenTransfer wallets gatewayId walletName destination mintAddress amount decimals
      passphrase msgId = .ok request) :
    ∃ (dest mint : Pubkey) (n : ℕ), n < 256 ^ 8 ∧ S.pubkeyFromString destination = .ok dest ∧
      S.pubkeyFromString mintAddress = .ok mint ∧
      Number.toInt (Number.mulInt amount (10 ^ decimals)) = .ok (n : ℤ) ∧
      request.msgId = msgId ∧ request.frame = requestFrame (S.pubkey kp).val dest.val n
        (tokenTransferSignature kp dest mint n) mint.val msgId := by
  unfold requestTokenTransfer at h
  obtain ⟨gateway, _, h⟩ := bind_eq_ok.mp h
  rw [hkp, ok_bind] at h
  obtain ⟨dest, hdest, h⟩ := bind_eq_ok.mp h
  obtain ⟨mint, hmint, h⟩ := bind_eq_ok.mp h
  obtain ⟨baseUnits, hamount, h⟩ := bind_eq_ok.mp h
  obtain ⟨amountBytes, hpack, h⟩ := bind_eq_ok.mp h
  obtain ⟨flagsBytes, hflags, h⟩ := bind_eq_ok.mp h
  obtain ⟨payload, henc, h⟩ := bind_eq_ok.mp h
  obtain ⟨msg, hmsg, h⟩ := bind_eq_ok.mp h
  obtain ⟨n, rfl, hn, rfl⟩ := exists_of_packUInt hpack
  obtain ⟨hs, hf, hd, hm, _, _, rfl⟩ := encodeTxRequest_eq_ok_iff.mp henc
  rw [Int.toNat_natCast, packMessage_txRequest
    (unpackMessage_requestFrame hs hf hd hm hn msgId).1] at hmsg
  cases hmsg
  cases h
  cases hflags
  exact ⟨dest, mint, n, hn, hdest, hmint, hamount, rfl, rfl⟩

end Eq

/-- Wallets of the sample library that any passphrase opens. -/
def sampleWallets : WalletManager sampleSolders :=
  ⟨fun name _ => .ok (if name = "hot" then hotKey else sampleKey)⟩

end SolMesh
