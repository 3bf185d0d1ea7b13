import SolMesh.Client.Flush

set_option relaxedAutoImplicit false
set_option autoImplicit false

/-!
# What the calls that send a transfer pay

In Mode 1 the client signs the transaction itself and relays it; in Mode 3 it asks the gateway for
the transfer. Each of the four calls turns its arguments into a payment: who pays whom, and how many
base units of what.

## Main definitions

* `SolMesh.relaySignedTx`, `SolMesh.relaySignedTokenTx` — the transactions that are relayed.
* `SolMesh.Dispatch.send` — what a call sends.
* `SolMesh.Payment`, `SolMesh.Dispatch.payment` — the payment that a call is for.

## Main results

* `SolMesh.carriedOut_of_send` — what a call sends carries out its payment.
-/

namespace SolMesh

open Py Text

/-! ## Relaying a signed transaction -/

/-- Where the recent blockhash comes from: the gateway, or an argument. -/
structure Blockhashes (S : Solders) where
  fetchBlockhash : Except Exn (Option Bytes)
  fromBytes : Bytes → Except Exn S.Blockhash
  fromString : String → Except Exn S.Blockhash

/-- The block that finds the recent blockhash; if it is not provided, it is fetched. -/
def recentBlockhash {S : Solders} (hashes : Blockhashes S) (blockhash : Option String) :
    Except Exn S.Blockhash :=
  match blockhash with
  | none => do
    match ← hashes.fetchBlockhash with
    | none => throw ⟨"TimeoutError", ofString "Failed to fetch blockhash from gateway"⟩
    | some bhBytes => hashes.fromBytes bhBytes
  | some blockhash => hashes.fromString blockhash

variable {F : Type} [Number F] {S : Solders}

/-- Create and sign a transfer of lamports; the transaction is then relayed. -/
def relaySignedTx (wallets : WalletManager S) (hashes : Blockhashes S)
    (walletName recipient : String) (amountSol : F) (blockhash : Option String)
    (passphrase : Text) : Except Exn Bytes := do
  let kp ← wallets.loadKeypair walletName passphrase
  let recentBlockhash ← recentBlockhash hashes blockhash
  let recipientPubkey ← S.pubkeyFromString recipient
  let lamports ← Number.toInt (Number.mulInt amountSol lamportsPerSol)
  createSolTransfer S kp recipientPubkey lamports recentBlockhash

/-- Create and sign a token transfer; the transaction is then relayed. -/
def relaySignedTokenTx (wallets : WalletManager S) (hashes : Blockhashes S)
    (walletName recipient mintAddress : String) (amount : F) (decimals : ℕ)
    (blockhash : Option String) (passphrase : Text) (createRecipientAta : Bool) :
    Except Exn Bytes := do
  let kp ← wallets.loadKeypair walletName passphrase
  let recentBlockhash ← recentBlockhash hashes blockhash
  let recipientPubkey ← S.pubkeyFromString recipient
  let mintPubkey ← S.pubkeyFromString mintAddress
  let baseUnits ← Number.toInt (Number.mulInt amount (10 ^ decimals))
  createSplTransfer S kp recipientPubkey mintPubkey baseUnits decimals recentBlockhash
    createRecipientAta

/-! ## The four calls -/

/-- What a call sends: the frame of a request, or a transaction that is relayed in chunks. -/
inductive Outgoing
  | request (sent : SentRequest)
  | transaction (txBytes : Bytes)

namespace Dispatch

/-- What a call sends; all arguments beyond those of `Dispatch` are left to their defaults. -/
def send (wallets : WalletManager S) (hashes : Blockhashes S) (gatewayId : Option String)
    (msgId : UInt16) : Dispatch F → Except Exn Outgoing
  | requestTransfer walletName destination amountSol passphrase => do
    return .request (← SolMesh.requestTransfer wallets gatewayId walletName destination amountSol
      passphrase msgId)
  | requestTokenTransfer walletName destination mintAddress amount decimals passphrase => do
    return .request (← SolMesh.requestTokenTransfer wallets gatewayId walletName destination
      mintAddress amount decimals passphrase msgId)
  | relaySignedTx walletName recipient amountSol passphrase => do
    return .transaction (← SolMesh.relaySignedTx wallets hashes walletName recipient amountSol none
      passphrase)
  | relaySignedTokenTx walletName recipient mintAddress amount decimals passphrase => do
    return .transaction (← SolMesh.relaySignedTokenTx wallets hashes walletName recipient
      mintAddress amount decimals none passphrase false)

/-- The passphrase of a call. -/
def passphrase : Dispatch F → Text
  | requestTransfer _ _ _ p | requestTokenTransfer _ _ _ _ _ p | relaySignedTx _ _ _ p
  | relaySignedTokenTx _ _ _ _ _ p => p

end Dispatch

/-- The two ways of sending a transfer. -/
inductive Operation
  | request
  | relay
  deriving DecidableEq

/-- A payment: the way it is sent, the wallet of the sender, the address of the recipient, the
mint, or none for SOL, and the amount in base units. -/
structure Payment where
  operation : Operation
  sender : String
  recipient : String
  mint : Option String
  baseUnits : ℤ
  deriving DecidableEq

/-- **The payment that a call is for.** -/
def Dispatch.payment : Dispatch F → Except Exn Payment
  | requestTransfer walletName destination amountSol _ => do
    let lamports ← Number.toInt (Number.mulInt amountSol lamportsPerSol)
    return ⟨.request, walletName, destination, none, lamports⟩
  | requestTokenTransfer walletName destination mintAddress amount decimals _ => do
    let baseUnits ← Number.toInt (Number.mulInt amount (10 ^ decimals))
    return ⟨.request, walletName, destination, some mintAddress, baseUnits⟩
  | relaySignedTx walletName recipient amountSol _ => do
    let lamports ← Number.toInt (Number.mulInt amountSol lamportsPerSol)
    return ⟨.relay, walletName, recipient, none, lamports⟩
  | relaySignedTokenTx walletName recipient mintAddress amount decimals _ => do
    let baseUnits ← Number.toInt (Number.mulInt amount (10 ^ decimals))
    return ⟨.relay, walletName, recipient, some mintAddress, baseUnits⟩

/-- What is sent carries out the payment, with these keys of the sender and the recipient: a frame
that asks for it, signed by the sender, or a transaction that makes it, from the sender. -/
def Payment.CarriedOut (p : Payment) (kp : S.Keypair) (dest : Pubkey) (sent : Outgoing) : Prop :=
  match p.operation, p.mint, sent with
  | .request, none, .request r => ∃ n : ℕ, p.baseUnits = n ∧
      r.frame = requestFrame (S.pubkey kp).val dest.val n (transferSignature kp dest n) [] r.msgId
  | .request, some mintAddress, .request r => ∃ (n : ℕ) (mint : Pubkey), p.baseUnits = n ∧
      S.pubkeyFromString mintAddress = .ok mint ∧
      r.frame = requestFrame (S.pubkey kp).val dest.val n (tokenTransferSignature kp dest mint n)
        mint.val r.msgId
  | .relay, none, .transaction txBytes =>
    ∃ hash, createSolTransfer S kp dest p.baseUnits hash = .ok txBytes
  | .relay, some mintAddress, .transaction txBytes => ∃ (mint : Pubkey) (decimals : ℕ) (hash : _),
      S.pubkeyFromString mintAddress = .ok mint ∧
        createSplTransfer S kp dest mint p.baseUnits decimals hash false = .ok txBytes
  | _, _, _ => False

/-- A request is only sent with the keypair of the wallet. -/
lemma loadKeypair_of_requestTransfer {wallets : WalletManager S} {gatewayId : Option String}
    {walletName destination : String} {amount : F} {passphrase : Text} {msgId : UInt16}
    {r : SentRequest} (h : requestTransfer wallets gatewayId walletName destination amount
      passphrase msgId = .ok r) : ∃ kp, wallets.loadKeypair walletName passphrase = .ok kp := by
  unfold requestTransfer at h
  obtain ⟨_, _, h⟩ := bind_eq_ok.mp h
  obtain ⟨kp, hkp, _⟩ := bind_eq_ok.mp h
  exact ⟨kp, hkp⟩

/-- A request is only sent with the keypair of the wallet. -/
lemma loadKeypair_of_requestTokenTransfer {wallets : WalletManager S} {gatewayId : Option String}
    {walletName destination mintAddress : String} {amount : F} {decimals : ℕ} {passphrase : Text}
    {msgId : UInt16} {r : SentRequest} (h : requestTokenTransfer wallets gatewayId walletName
      destination mintAddress amount decimals passphrase msgId = .ok r) :
    ∃ kp, wallets.loadKeypair walletName passphrase = .ok kp := by
  unfold requestTokenTransfer at h
  obtain ⟨_, _, h⟩ := bind_eq_ok.mp h
  obtain ⟨kp, hkp, _⟩ := bind_eq_ok.mp h
  exact ⟨kp, hkp⟩

/-- **What a call sends carries out its payment**: from the wallet of its sender, to the address of
its recipient, the mint and the base units that it names.

**Proof sketch.** One case for each call. Every step of it has to succeed: the amount is a number of
base units, the wallet is loaded, and the addresses are keys; and the frame, or the transaction, is
made of these. -/
theorem carriedOut_of_send {wallets : WalletManager S} {hashes : Blockhashes S}
    {gatewayId : Option String} {msgId : UInt16} {call : Dispatch F} {sent : Outgoing}
    (h : call.send wallets hashes gatewayId msgId = .ok sent) :
    ∃ p kp dest, call.payment = .ok p ∧ wallets.loadKeypair p.sender call.passphrase = .ok kp ∧
      S.pubkeyFromString p.recipient = .ok dest ∧ p.CarriedOut kp dest sent := by
  cases call with
  | requestTransfer walletName destination amountSol passphrase =>
    obtain ⟨r, hr, hsent⟩ := bind_eq_ok.mp h
    cases hsent
    obtain ⟨kp, hkp⟩ := loadKeypair_of_requestTransfer hr
    obtain ⟨dest, n, _, hdest, hamount, hid, hframe⟩ := exists_of_requestTransfer hkp hr
    refine ⟨⟨.request, walletName, destination, none, n⟩, kp, dest, ?_, hkp, hdest, n, rfl,
      hid ▸ hframe⟩
    rw [Dispatch.payment, hamount]
    rfl
  | requestTokenTransfer walletName destination mintAddress amount decimals passphrase =>
    obtain ⟨r, hr, hsent⟩ := bind_eq_ok.mp h
    cases hsent
    obtain ⟨kp, hkp⟩ := loadKeypair_of_requestTokenTransfer hr
    obtain ⟨dest, mint, n, _, hdest, hmint, hamount, hid, hframe⟩ :=
      exists_of_requestTokenTransfer hkp hr
    refine ⟨⟨.request, walletName, destination, some mintAddress, n⟩, kp, dest, ?_, hkp, hdest, n,
      mint, rfl, hmint, hid ▸ hframe⟩
    rw [Dispatch.payment, hamount]
    rfl
  | relaySignedTx walletName recipient amountSol passphrase =>
    obtain ⟨tx, htx, hsent⟩ := bind_eq_ok.mp h
    cases hsent
    unfold SolMesh.relaySignedTx at htx
    obtain ⟨kp, hkp, htx⟩ := bind_eq_ok.mp htx
    obtain ⟨hash, _, htx⟩ := bind_eq_ok.mp htx
    obtain ⟨dest, hdest, htx⟩ := bind_eq_ok.mp htx
    obtain ⟨lamports, hamount, htx⟩ := bind_eq_ok.mp htx
    refine ⟨⟨.relay, walletName, recipient, none, lamports⟩, kp, dest, ?_, hkp, hdest, hash, htx⟩
    rw [Dispatch.payment, hamount]
    rfl
  | relaySignedTokenTx walletName recipient mintAddress amount decimals passphrase =>
    obtain ⟨tx, htx, hsent⟩ := bind_eq_ok.mp h
    cases hsent
    unfold SolMesh.relaySignedTokenTx at htx
    obtain ⟨kp, hkp, htx⟩ := bind_eq_ok.mp htx
    obtain ⟨hash, _, htx⟩ := bind_eq_ok.mp htx
    obtain ⟨dest, hdest, htx⟩ := bind_eq_ok.mp htx
    obtain ⟨mint, hmint, htx⟩ := bind_eq_ok.mp htx
    obtain ⟨baseUnits, hamount, htx⟩ := bind_eq_ok.mp htx
    refine ⟨⟨.relay, walletName, recipient, some mintAddress, baseUnits⟩, kp, dest, ?_, hkp, hdest,
      mint, decimals, hash, hmint, htx⟩
    rw [Dispatch.payment, hamount]
    rfl

end SolMesh
