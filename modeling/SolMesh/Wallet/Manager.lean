import SolMesh.Foundations.Method
import SolMesh.Wallet.Secrets

set_option relaxedAutoImplicit false
set_option autoImplicit false

/-!
# Wallets on disk

A wallet is a file of the wallet directory. It holds the public key of a keypair, and the secret
key encrypted under a passphrase. A wallet is made in four ways, which differ in where the keypair
comes from: it is drawn, drawn with a mnemonic phrase, recovered from a phrase, or imported.

## Main definitions

* `SolMesh.WalletDir` — the wallet directory.
* `SolMesh.createWallet`, `SolMesh.createWalletWithMnemonic`, `SolMesh.recoverWallet`,
  `SolMesh.importWallet`, `SolMesh.deleteWallet` — the methods that change it.
* `SolMesh.loadKeypair`, `SolMesh.getPubkey` — the methods that read it.
* `SolMesh.walletFile` — what a wallet file holds.
* `SolMesh.MakesWallet` — what a method does that makes a wallet.

## Main results

* `SolMesh.makesWallet_addWallet`, `SolMesh.deleteWallet_cases` — all that a change can do.
* `SolMesh.loadKeypair_walletFile`, `SolMesh.loadKeypair_walletFile_of_ne` — the passphrase of a
  wallet gives its keypair, and no other passphrase does.
* `SolMesh.getPubkey_walletFile` — the public key of a wallet.
-/

namespace SolMesh

open Py Text

/-! ## The directory -/

/-- The wallet directory: the contents of its files, by their names. -/
abbrev WalletDir := Dict Text Json

/-- The name of a wallet, free of path separators: with it the path of the wallet is that of a file
in the directory. -/
abbrev WalletName := { name : Text // ofChar '/' ∉ name }

/-- The file of a wallet. -/
def walletPath (name : WalletName) : Text := name.val ++ ofString ".json"

/-- Different wallets have different files. -/
lemma walletPath_injective : Function.Injective walletPath := fun _ _ h =>
  Subtype.ext (List.append_cancel_right h)

/-- `FileExistsError`. -/
def fileExistsError (name : WalletName) : Exn :=
  ⟨"FileExistsError", ofString "Wallet '" ++ name.val ++ ofString "' already exists"⟩

/-- `FileNotFoundError`. -/
def fileNotFoundError (name : WalletName) : Exn :=
  ⟨"FileNotFoundError", ofString "Wallet '" ++ name.val ++ ofString "' not found"⟩

/-! ## Making and deleting wallets -/

section Methods

variable {S : Solders} (C : Cryptography S)

/-- What a wallet file holds, with the secret in its stored form. -/
def walletFields (kp : S.Keypair) (secret : Json) : Json :=
  .dict [(ofString "pubkey", .str (ofString (S.pubkeyStr (S.pubkey kp)))),
    (ofString "encrypted", .bool true), (ofString "secret", secret)]

/-- Save a keypair to disk, always encrypted. -/
def saveKeypair (name : WalletName) (kp : S.Keypair) (passphrase : Text) (draws : Draws) :
    Method WalletDir Unit := do
  if passphrase = [] then
    throw (valueError (ofString "A passphrase is required to protect your private key. " ++
      ofString "Wallet files are never stored unencrypted."))
  let secretBytes := C.keypairBytes kp
  let secret ← ofExcept (encryptSecret C secretBytes passphrase draws)
  modify fun d => d.set (walletPath name) (walletFields kp secret)

/-- What the four ways of making a wallet have in common: there must be no wallet of this name, then
the keypair is made, and then it is saved. -/
def addWallet (name : WalletName) (keypair : Except Exn S.Keypair) (passphrase : Text)
    (draws : Draws) : Method WalletDir S.Keypair := do
  if (← get).contains (walletPath name) then throw (fileExistsError name)
  let kp ← ofExcept keypair
  saveKeypair C name kp passphrase draws
  return kp

/-- Save a new keypair; `kp` is the one that is drawn. -/
def createWallet (name : WalletName) (passphrase : Text) (kp : S.Keypair) (draws : Draws) :
    Method WalletDir Pubkey := do
  let kp ← addWallet C name (.ok kp) passphrase draws
  return S.pubkey kp

/-- Save a new keypair that can be recovered from a mnemonic phrase, which is given out and not
stored; `mnemonicPhrase` is the one that is drawn. -/
def createWalletWithMnemonic (name : WalletName) (passphrase mnemonicPhrase : Text)
    (draws : Draws) : Method WalletDir (Pubkey × Text) := do
  let kp ← addWallet C name (deriveSolanaKeypairFromMnemonic C mnemonicPhrase []) passphrase draws
  return (S.pubkey kp, mnemonicPhrase)

/-- Recover a wallet from its mnemonic phrase. -/
def recoverWallet (name : WalletName) (mnemonicPhrase passphrase : Text) (draws : Draws) :
    Method WalletDir Pubkey := do
  let kp ← addWallet C name (deriveSolanaKeypairFromMnemonic C mnemonicPhrase []) passphrase draws
  return S.pubkey kp

/-- Import a keypair from the bytes of its secret key. -/
def importWallet (name : WalletName) (secretKey : Bytes) (passphrase : Text) (draws : Draws) :
    Method WalletDir Pubkey := do
  let kp ← addWallet C name (C.keypairFromBytes secretKey) passphrase draws
  return S.pubkey kp

/-- Delete a wallet file. -/
def deleteWallet (name : WalletName) : Method WalletDir Unit := do
  if !(← get).contains (walletPath name) then throw (fileNotFoundError name)
  modify fun d => d.erase (walletPath name)

/-! ## Reading wallets -/

/-- The contents of a wallet file. -/
def readWallet (d : WalletDir) (name : WalletName) : Except Exn Json :=
  match d.get? (walletPath name) with
  | some data => .ok data
  | none => .error (fileNotFoundError name)

/-- Load a keypair from disk and decrypt it. -/
def loadKeypair (d : WalletDir) (name : WalletName) (passphrase : Text) :
    Except Exn S.Keypair := do
  let data ← readWallet d name
  let encrypted ← data.get (ofString "encrypted")
  if !encrypted.elim false Json.truthy then
    throw (valueError (ofString "Wallet '" ++ name.val ++ ofString "' is not encrypted. " ++
      ofString "Re-create it with a passphrase using: " ++
      ofString "solmesh wallet create --name <name>"))
  let secretBytes ← decryptSecret C (← data.getItem (ofString "secret")) passphrase
  C.keypairFromBytes secretBytes

/-- `Pubkey.from_string(value)` of a value of any type. -/
def pubkeyFromStringOf (S : Solders) : Json → Except Exn Pubkey
  | .str t => do
    let _ ← encodeUtf8 t
    S.pubkeyFromString (toStr t)
  | v => .error ⟨"TypeError", ofString "argument 's': '" ++ ofString v.typeName ++
      ofString "' object cannot be converted to 'PyString'"⟩

/-- Load the public key only, for which no passphrase is needed. -/
def getPubkey (S : Solders) (d : WalletDir) (name : WalletName) : Except Exn Pubkey := do
  let data ← readWallet d name
  pubkeyFromStringOf S (← data.getItem (ofString "pubkey"))

end Methods

/-! ## What a change can do -/

section Cases

variable {S : Solders} {C : Cryptography S} {name : WalletName} {kp : S.Keypair}
  {keypair : Except Exn S.Keypair} {passphrase : Text} {draws : Draws} {d : WalletDir}

variable (C) in
/-- What a wallet file holds. -/
def walletFile (kp : S.Keypair) (passphrase : Text) (draws : Draws) : Json :=
  walletFields kp (sealedSecret C (C.keypairBytes kp) (utf8 passphrase) draws)

/-- Saving raises and changes nothing, or writes the file.

**Proof sketch.** Along the checks of the method: an empty passphrase and one that cannot be encoded
raise before the file is touched; otherwise the file is written. -/
lemma saveKeypair_cases (name : WalletName) (kp : S.Keypair) (passphrase : Text) (draws : Draws)
    (d : WalletDir) :
    (∃ e, (saveKeypair C name kp passphrase draws).run d = .error e d) ∨
      passphrase ≠ [] ∧ IsEncodable passphrase ∧
        (saveKeypair C name kp passphrase draws).run d =
          .ok () (d.set (walletPath name) (walletFile C kp passphrase draws)) := by
  unfold saveKeypair
  by_cases hempty : passphrase = []
  · left
    rw [if_pos hempty]
    exact ⟨_, rfl⟩
  rw [if_neg hempty]
  dsimp only
  cases hsecret : encryptSecret C (C.keypairBytes kp) passphrase draws with
  | error e =>
    left
    exact ⟨e, rfl⟩
  | ok secret =>
    right
    obtain ⟨henc, rfl⟩ := encryptSecret_eq_ok_iff.mp hsecret
    exact ⟨hempty, henc, rfl⟩

variable (C) in
/-- The method raises and changes nothing, or it gets the keypair and writes the file of a wallet
that was not there. -/
def MakesWallet {α : Type} (name : WalletName) (keypair : Except Exn S.Keypair)
    (passphrase : Text) (draws : Draws) (m : Method WalletDir α) (d : WalletDir) : Prop :=
  (∃ e, m.run d = .error e d) ∨
    ∃ kp a, keypair = .ok kp ∧ passphrase ≠ [] ∧ IsEncodable passphrase ∧
      d.get? (walletPath name) = none ∧
      m.run d = .ok a (d.set (walletPath name) (walletFile C kp passphrase draws))

/-- Computing a result from what was returned adds nothing to it. -/
lemma MakesWallet.bind_pure {α β : Type} {m : Method WalletDir α}
    (h : MakesWallet C name keypair passphrase draws m d) (f : α → β) :
    MakesWallet C name keypair passphrase draws (m >>= fun a => pure (f a)) d := by
  rcases h with ⟨e, hm⟩ | ⟨kp, a, hkp, hne, henc, hnew, hm⟩
  · exact Or.inl ⟨e, run_bind_error hm _⟩
  · exact Or.inr ⟨kp, f a, hkp, hne, henc, hnew, run_bind_ok hm _⟩

/-- **Making a wallet raises and changes nothing, or it writes a file that was not there.**

**Proof sketch.** Adding raises if the file is there, or if the keypair could not be made. Otherwise
it saves the keypair, which raises or writes the file (`saveKeypair_cases`). -/
lemma makesWallet_addWallet (name : WalletName) (keypair : Except Exn S.Keypair)
    (passphrase : Text) (draws : Draws) (d : WalletDir) :
    MakesWallet C name keypair passphrase draws (addWallet C name keypair passphrase draws) d := by
  unfold MakesWallet addWallet
  rw [EStateM.run_bind, EStateM.run_get]
  dsimp only
  cases hget : d.get? (walletPath name) with
  | some content =>
    left
    rw [if_pos (Dict.contains_of_get?_eq_some hget)]
    exact ⟨_, rfl⟩
  | none =>
    rw [Dict.contains_of_get?_eq_none hget, if_neg Bool.false_ne_true]
    cases keypair with
    | error e =>
      left
      exact ⟨e, rfl⟩
    | ok kp =>
      rcases saveKeypair_cases name kp passphrase draws d with ⟨e, hsave⟩ | ⟨hne, henc, hsave⟩
      · left
        exact ⟨e, run_bind_error hsave _⟩
      · right
        exact ⟨kp, kp, rfl, hne, henc, rfl, run_bind_ok hsave _⟩

/-- **Deleting a wallet raises and changes nothing, or it removes a file that was there.** -/
lemma deleteWallet_cases (name : WalletName) (d : WalletDir) :
    (∃ e, (deleteWallet name).run d = .error e d) ∨
      (∃ content, d.get? (walletPath name) = some content) ∧
        (deleteWallet name).run d = .ok () (d.erase (walletPath name)) := by
  unfold deleteWallet
  rw [EStateM.run_bind, EStateM.run_get]
  dsimp only
  cases hget : d.get? (walletPath name) with
  | none =>
    left
    rw [Dict.contains_of_get?_eq_none hget]
    exact ⟨_, rfl⟩
  | some content =>
    right
    rw [Dict.contains_of_get?_eq_some hget]
    exact ⟨⟨content, rfl⟩, rfl⟩

/-! ## What is read from a wallet file -/

/-- The parts of a wallet file. -/
lemma field_walletFields (kp : S.Keypair) (secret : Json) :
    (walletFields kp secret).field (ofString "pubkey") =
        some (.str (ofString (S.pubkeyStr (S.pubkey kp)))) ∧
      (walletFields kp secret).field (ofString "encrypted") = some (.bool true) ∧
      (walletFields kp secret).field (ofString "secret") = some secret := by
  refine ⟨rfl, ?_, ?_⟩ <;> simp [walletFields, Json.field, ofString_injective.eq_iff]

/-- Loading from a wallet file is decrypting its secret. -/
lemma loadKeypair_eq (hfile : d.get? (walletPath name) = some (walletFile C kp passphrase draws))
    (other : Text) :
    loadKeypair C d name other =
      decryptSecret C (sealedSecret C (C.keypairBytes kp) (utf8 passphrase) draws) other >>=
        C.keypairFromBytes := by
  obtain ⟨-, hencrypted, hsecret⟩ := field_walletFields kp
    (sealedSecret C (C.keypairBytes kp) (utf8 passphrase) draws)
  unfold loadKeypair readWallet
  rw [hfile]
  dsimp only
  rw [ok_bind, walletFile, Json.get_of_isDict rfl, hencrypted, Json.getItem_of_field hsecret]
  rfl

/-- **The passphrase of a wallet gives its keypair.** -/
lemma loadKeypair_walletFile (hlaw : C.Lawful) (henc : IsEncodable passphrase)
    (hfile : d.get? (walletPath name) = some (walletFile C kp passphrase draws)) :
    loadKeypair C d name passphrase = .ok kp := by
  rw [loadKeypair_eq hfile, decryptSecret_sealed hlaw henc, ok_bind]
  exact hlaw.fromBytes_bytes kp

/-- **No other passphrase gives a keypair.** -/
lemma loadKeypair_walletFile_of_ne (hlaw : C.Lawful) (henc : IsEncodable passphrase)
    (hfile : d.get? (walletPath name) = some (walletFile C kp passphrase draws)) {other : Text}
    (hne : other ≠ passphrase) : ∃ e, loadKeypair C d name other = .error e := by
  have hsealed : ∃ e, decryptSecret C (sealedSecret C (C.keypairBytes kp) (utf8 passphrase) draws)
      other = .error e := decryptSecret_sealed_of_ne hlaw henc hne
  obtain ⟨e, he⟩ := hsealed
  rw [loadKeypair_eq hfile, he]
  exact ⟨e, rfl⟩

/-- **The public key of a wallet** is that of its keypair. -/
lemma getPubkey_walletFile (hlaw : C.Lawful)
    (hfile : d.get? (walletPath name) = some (walletFile C kp passphrase draws)) :
    getPubkey S d name = .ok (S.pubkey kp) := by
  obtain ⟨hpubkey, -, -⟩ := field_walletFields kp
    (sealedSecret C (C.keypairBytes kp) (utf8 passphrase) draws)
  unfold getPubkey readWallet
  rw [hfile]
  dsimp only
  rw [ok_bind, walletFile, Json.getItem_of_field hpubkey, ok_bind, pubkeyFromStringOf,
    encodeUtf8_of_encodable (encodable_ofString _), ok_bind, toStr_ofString]
  exact hlaw.fromString_str (S.pubkey kp)

end Cases

end SolMesh
