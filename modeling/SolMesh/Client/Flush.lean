import SolMesh.Foundations.Interleaving
import SolMesh.Foundations.Dict
import SolMesh.Constants
import SolMesh.Store.Intent
import SolMesh.Client.Request

set_option relaxedAutoImplicit false
set_option autoImplicit false

/-!
# Queueing and flushing intents

The client stores a queued transfer as an intent. A flush cycle goes through the pending intents
and sends each of them. Its programs perform operations on the store, which other programs use at
the same time, and on the mesh.

## Main definitions

* `SolMesh.queueIntent` — the intent made of a transfer that is to be queued.
* `SolMesh.FlushOp` — the operations of a flush cycle.
* `SolMesh.flushIntent` — sending one intent.
* `SolMesh.FlushOp.Settles` — the operations that are left once it is dispatched.
* `SolMesh.flushAllPending` — a flush cycle.

## Main results

* `SolMesh.settles_sendFailed`, `SolMesh.settles_awaitResult` — nothing else is performed then.
-/

namespace SolMesh

open Py Text Conc

variable {F : Type}

/-! ## Queueing -/

/-- A passphrase that is given must open the wallet. -/
def checkPassphrase {S : Solders} (wallets : WalletManager S) (walletName : String)
    (passphrase : Option Text) : Except Exn Unit :=
  match passphrase with
  | some p => (wallets.loadKeypair walletName p).map fun _ => ()
  | none => .ok ()

/-- Make the intent that is added to the queue: check the mode, the wallet, and the passphrase if
it is given. -/
def queueIntent {S : Solders} (getPubkey : String → Except Exn Pubkey) (wallets : WalletManager S)
    (id : String) (createdAt updatedAt : ℚ) (mode : ℕ) (walletName recipient : String) (amount : F)
    (tokenMint : Option String) (tokenDecimals : ℕ) (passphrase : Option Text) :
    Except Exn (Intent F) := do
  if mode ≠ 1 ∧ mode ≠ 3 then
    throw (valueError (ofString "Invalid mode: " ++ dec mode ++ ofString ". Must be 1 or 3."))
  let _ ← getPubkey walletName
  checkPassphrase wallets walletName passphrase
  return { id := id, mode := mode, status := .pending, createdAt := createdAt,
           updatedAt := updatedAt, walletName := walletName, recipient := recipient,
           amount := amount, tokenMint := tokenMint, tokenDecimals := tokenDecimals,
           attempts := 0, maxAttempts := maxFlushAttempts, lastError := none,
           resultTxHash := none }

/-- A new intent: pending, not attempted, with at least one attempt to come. -/
structure Intent.IsNew (i : Intent F) : Prop where
  status : i.status = .pending
  attempts : i.attempts = 0
  maxAttempts : 1 ≤ i.maxAttempts

/-- **A queued intent is new.** -/
lemma isNew_of_queueIntent {S : Solders} {getPubkey : String → Except Exn Pubkey}
    {wallets : WalletManager S} {id : String} {createdAt updatedAt : ℚ} {mode : ℕ}
    {walletName recipient : String} {amount : F} {tokenMint : Option String} {tokenDecimals : ℕ}
    {passphrase : Option Text} {i : Intent F}
    (h : queueIntent getPubkey wallets id createdAt updatedAt mode walletName recipient amount
      tokenMint tokenDecimals passphrase = .ok i) : i.id = id ∧ i.IsNew := by
  unfold queueIntent at h
  split_ifs at h
  · cases h
  · obtain ⟨_, _, h⟩ := bind_eq_ok.mp h
    obtain ⟨_, _, h⟩ := bind_eq_ok.mp h
    cases h
    have hmax : 1 ≤ maxFlushAttempts := by decide
    exact ⟨rfl, rfl, rfl, hmax⟩

/-! ## Operations of a flush cycle -/

/-- What is recorded for a message: the signature of its transaction, or an error. -/
inductive TxOutcome
  | success (signature : Text)
  | failure (error : Text)
  deriving DecidableEq

/-- The call that sends an intent. It returns the id of the message. -/
inductive Dispatch (F : Type)
  | requestTransfer (walletName destination : String) (amountSol : F) (passphrase : Text)
  | requestTokenTransfer (walletName destination mintAddress : String) (amount : F)
      (decimals : ℕ) (passphrase : Text)
  | relaySignedTx (walletName recipient : String) (amountSol : F) (passphrase : Text)
  | relaySignedTokenTx (walletName recipient mintAddress : String) (amount : F) (decimals : ℕ)
      (passphrase : Text)

/-- The operations of a flush cycle. `enter` and `leave` do nothing; they mark where a call of
`flush_intent` begins and ends. -/
inductive FlushOp (F : Type)
  | pendingIntents
  | cachedPassphrase (walletName : String)
  | isGatewayOnline
  | enter (intent : Intent F)
  | leave (result : Except Exn TxOutcome)
  | updateStatus (intentId : String) (status : IntentStatus) (error txHash : Option Text)
  | incrementAttempts (intentId : String)
  | get (intentId : String)
  | dispatch (intentId : String) (request : Dispatch F)
  | waitForResult (msgId : UInt16)

/-- The answers of the operations. -/
def FlushOp.Ans : FlushOp F → Type
  | .pendingIntents => List (Intent F)
  | .cachedPassphrase _ => Option Text
  | .isGatewayOnline => Bool
  | .enter _ => Unit
  | .leave _ => Unit
  | .updateStatus _ _ _ _ => Bool
  | .incrementAttempts _ => Bool
  | .get _ => Option (Intent F)
  | .dispatch _ _ => Except Exn UInt16
  | .waitForResult _ => Option TxOutcome

/-- Programs of a flush cycle. -/
abbrev Flush (F α : Type) := Prog (FlushOp F) FlushOp.Ans α

namespace Flush

def pendingIntents : Flush F (List (Intent F)) := Prog.perform FlushOp.pendingIntents

def cachedPassphrase (walletName : String) : Flush F (Option Text) :=
  Prog.perform (FlushOp.cachedPassphrase walletName)

def isGatewayOnline : Flush F Bool := Prog.perform FlushOp.isGatewayOnline

def enter (intent : Intent F) : Flush F Unit := Prog.perform (FlushOp.enter intent)

def leave (result : Except Exn TxOutcome) : Flush F Unit := Prog.perform (FlushOp.leave result)

def updateStatus (intentId : String) (status : IntentStatus) (error txHash : Option Text) :
    Flush F Bool :=
  Prog.perform (FlushOp.updateStatus intentId status error txHash)

def incrementAttempts (intentId : String) : Flush F Bool :=
  Prog.perform (FlushOp.incrementAttempts intentId)

def get (intentId : String) : Flush F (Option (Intent F)) := Prog.perform (FlushOp.get intentId)

def dispatch (intentId : String) (request : Dispatch F) : Flush F (Except Exn UInt16) :=
  Prog.perform (FlushOp.dispatch intentId request)

def waitForResult (msgId : UInt16) : Flush F (Option TxOutcome) :=
  Prog.perform (FlushOp.waitForResult msgId)

end Flush

/-! ## Sending one intent -/

/-- `"InvalidTag" in type(e).__name__`: the passphrase of the wallet was wrong. -/
def wrongPassphrase (e : Exn) : Bool := decide ("InvalidTag".toList <:+: e.cls.toList)

/-- The call for an intent: by its mode, and by whether it has a mint. -/
def dispatchOf (intent : Intent F) (passphrase : Text) : Except Exn (Dispatch F) :=
  let mint := intent.tokenMint.filter fun m => decide (m ≠ "")
  if intent.mode = 3 then
    match mint with
    | some m => .ok (.requestTokenTransfer intent.walletName intent.recipient m intent.amount
        intent.tokenDecimals passphrase)
    | none => .ok (.requestTransfer intent.walletName intent.recipient intent.amount passphrase)
  else if intent.mode = 1 then
    match mint with
    | some m => .ok (.relaySignedTokenTx intent.walletName intent.recipient m intent.amount
        intent.tokenDecimals passphrase)
    | none => .ok (.relaySignedTx intent.walletName intent.recipient intent.amount passphrase)
  else .error (valueError (ofString "Unsupported intent mode: " ++ dec intent.mode))

/-- The `try` block: send the intent over the mesh. -/
def sendIntent (intent : Intent F) (passphrase : Text) : Flush F (Except Exn UInt16) :=
  match dispatchOf intent passphrase with
  | .error e => return .error e
  | .ok request => Flush.dispatch intent.id request

/-- The `except` block. A wrong passphrase is raised again, and is no attempt. -/
def sendFailed (intentId : String) (e : Exn) : Flush F (Except Exn TxOutcome) := do
  if wrongPassphrase e then
    let _ ← Flush.updateStatus intentId .pending (some (ofString "Wrong passphrase: " ++ e.text))
      none
    return .error e
  else
    let _ ← Flush.incrementAttempts intentId
    let current ← Flush.get intentId
    let status := match current with
      | some i => i.status
      | none => .pending
    let _ ← Flush.updateStatus intentId status (some e.text) none
    return .ok (.failure e.text)

/-- Make an intent pending again, unless it is gone or has failed for good. -/
def requeue (intentId : String) (error : Text) : Flush F Unit := do
  match ← Flush.get intentId with
  | none => return ()
  | some current =>
    if current.status ≠ .failed then
      let _ ← Flush.updateStatus intentId .pending (some error) none
      return ()
    else return ()

/-- After the intent was sent: count the attempt, wait for the result and record it. -/
def awaitResult (intentId : String) (msgId : UInt16) : Flush F (Except Exn TxOutcome) := do
  let _ ← Flush.incrementAttempts intentId
  match ← Flush.waitForResult msgId with
  | some (.success signature) =>
    let _ ← Flush.updateStatus intentId .sent none (some signature)
    return .ok (.success signature)
  | some (.failure error) =>
    requeue intentId error
    return .ok (.failure error)
  | none =>
    requeue intentId (ofString "Timeout waiting for result")
    return .ok (.failure (ofString "Timeout"))

/-- Flush a single intent: send it over the mesh and wait for the result. -/
def flushIntent (intent : Intent F) (passphrase : Text) : Flush F (Except Exn TxOutcome) := do
  let _ ← Flush.updateStatus intent.id .sending none none
  match ← sendIntent intent passphrase with
  | .error e => sendFailed intent.id e
  | .ok msgId => awaitResult intent.id msgId

/-! ### After the dispatch -/

/-- The operations that are left after the dispatch: those on the stored intent, and the wait. -/
def FlushOp.Settles (intentId : String) : FlushOp F → Prop
  | .updateStatus id .. | .incrementAttempts id | .get id => id = intentId
  | .waitForResult _ => True
  | .pendingIntents | .cachedPassphrase _ | .isGatewayOnline | .dispatch .. | .enter _ | .leave _ =>
    False

/-- Making an intent pending again. -/
lemma settles_requeue (intentId : String) (error : Text) :
    (requeue intentId error : Flush F Unit).Performs (FlushOp.Settles intentId) := by
  refine ⟨rfl, fun current => ?_⟩
  cases current with
  | none => trivial
  | some i =>
    change Prog.Performs _ (if i.status ≠ .failed then _ else _)
    split_ifs
    · exact ⟨rfl, fun _ => trivial⟩
    · trivial

/-- After a dispatch that raised. -/
lemma settles_sendFailed (intentId : String) (e : Exn) :
    (sendFailed intentId e : Flush F (Except Exn TxOutcome)).Performs
      (FlushOp.Settles intentId) := by
  unfold sendFailed
  split_ifs
  · exact ⟨rfl, fun _ => trivial⟩
  · exact ⟨rfl, fun _ => ⟨rfl, fun _ => ⟨rfl, fun _ => trivial⟩⟩⟩

/-- After an intent was sent. -/
lemma settles_awaitResult (intentId : String) (msgId : UInt16) :
    (awaitResult intentId msgId : Flush F (Except Exn TxOutcome)).Performs
      (FlushOp.Settles intentId) := by
  refine ⟨rfl, fun _ => ⟨trivial, fun outcome => ?_⟩⟩
  rcases outcome with _ | signature | error
  · exact (settles_requeue _ _).bind fun _ => trivial
  · exact ⟨rfl, fun _ => trivial⟩
  · exact (settles_requeue _ _).bind fun _ => trivial

/-! ## A flush cycle -/

/-- A call of `flushIntent`, with its beginning and its end marked. -/
def callFlushIntent (intent : Intent F) (passphrase : Text) : Flush F (Except Exn TxOutcome) := do
  Flush.enter intent
  let result ← flushIntent intent passphrase
  Flush.leave result
  return result

/-- The entry of one intent in the list of results; an exception counts as a failure. -/
def resultEntry (intentId : String) (result : Except Exn TxOutcome) : String × TxOutcome :=
  match result with
  | .ok outcome => (intentId, outcome)
  | .error e => (intentId, .failure e.text)

/-- The passphrase for a wallet: the one given, else the cached one. -/
def passphraseFor (passphraseMap : Dict String Text) (walletName : String) :
    Flush F (Option Text) :=
  match passphraseMap.get? walletName with
  | some p => return some p
  | none => Flush.cachedPassphrase walletName

/-- The loop over the pending intents. -/
def flushEach (passphraseMap : Dict String Text) (walletFilter : Option String) :
    List (String × TxOutcome) → List (Intent F) → Flush F (List (String × TxOutcome))
  | results, [] => return results
  | results, intent :: pending => do
    if (walletFilter.any fun w => decide (w ≠ "") && decide (intent.walletName ≠ w)) then
      flushEach passphraseMap walletFilter results pending
    else
      match ← passphraseFor passphraseMap intent.walletName with
      | none => flushEach passphraseMap walletFilter results pending
      | some passphrase =>
        if !(← Flush.isGatewayOnline) then return results
        else
          let result ← callFlushIntent intent passphrase
          flushEach passphraseMap walletFilter (results ++ [resultEntry intent.id result]) pending

/-- Flush all pending intents one by one. The queue is read once, at the beginning. -/
def flushAllPending (passphraseMap : Dict String Text) (walletFilter : Option String) :
    Flush F (List (String × TxOutcome)) := do
  let pending ← Flush.pendingIntents
  flushEach passphraseMap walletFilter [] pending

end SolMesh
