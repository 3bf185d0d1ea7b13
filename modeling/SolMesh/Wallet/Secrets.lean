import SolMesh.Foundations.Hex
import SolMesh.Foundations.Json
import SolMesh.Gateway.Solana

set_option relaxedAutoImplicit false
set_option autoImplicit false

/-!
# Secrets of wallets

The secret of a keypair is encrypted with a key that is derived from a passphrase, and stored with
the salt and the nonce in hexadecimal form. A keypair may also be derived from a mnemonic phrase.
The ciphers, the hash functions and the encoding of keypairs come from libraries outside the
program.

## Main definitions

* `SolMesh.Cryptography` — what the wallets use of these libraries.
* `SolMesh.Cryptography.Lawful` — what they rely on.
* `SolMesh.encryptSecret`, `SolMesh.decryptSecret` — a secret under a passphrase.
* `SolMesh.deriveSolanaKeypairFromMnemonic` — the keypair behind a mnemonic phrase.

## Main results

* `SolMesh.encryptSecret_eq_ok_iff` — under which passphrases secrets are encrypted.
* `SolMesh.decryptSecret_sealed` — the passphrase opens the secret.
* `SolMesh.decryptSecret_sealed_of_ne` — no other passphrase does.
-/

namespace SolMesh

open Py Text

/-! ## The interface of the libraries -/

/-- What the wallets use of the libraries. Operations that can raise return an `Except`. -/
structure Cryptography (S : Solders) where
  /-- PBKDF2 with HMAC-SHA256: passphrase, salt, length of the key, iterations. -/
  pbkdf2Sha256 : Bytes → Bytes → ℕ → ℕ → Bytes
  /-- AES-GCM without associated data: key, nonce, data. -/
  encrypt : Bytes → Bytes → Bytes → Bytes
  /-- Key, nonce, ciphertext. -/
  decrypt : Bytes → Bytes → Bytes → Except Exn Bytes
  /-- Is this an English mnemonic phrase with the right checksum? -/
  checkMnemonic : Text → Bool
  /-- PBKDF2 with HMAC-SHA512: password, salt, iterations. -/
  pbkdf2Sha512 : Bytes → Bytes → ℕ → Bytes
  /-- Key, message. -/
  hmacSha512 : Bytes → Bytes → Bytes
  /-- `bytes` of a keypair. -/
  keypairBytes : S.Keypair → Bytes
  keypairFromBytes : Bytes → Except Exn S.Keypair
  keypairFromSeed : Bytes → Except Exn S.Keypair

def pbkdf2Iterations : ℕ := 480000

def saltSize : ℕ := 16

def nonceSize : ℕ := 12

/-- What `os.urandom` gives for an encryption. -/
structure Draws where
  salt : Bytes
  nonce : Bytes
  length_salt : salt.length = saltSize
  length_nonce : nonce.length = nonceSize

variable {S : Solders} (C : Cryptography S)

/-- The key for the UTF-8 form of a passphrase. -/
def Cryptography.aesKey (passphrase salt : Bytes) : Bytes :=
  C.pbkdf2Sha256 passphrase salt 32 pbkdf2Iterations

/-- What the wallets rely on: the key of the passphrase opens what it sealed, the key of another
passphrase does not, and keypairs and public keys are read back as they were written. -/
structure Cryptography.Lawful (C : Cryptography S) : Prop where
  decrypt_encrypt : ∀ passphrase (draws : Draws) data,
    C.decrypt (C.aesKey passphrase draws.salt) draws.nonce
      (C.encrypt (C.aesKey passphrase draws.salt) draws.nonce data) = .ok data
  decrypt_other : ∀ passphrase other (draws : Draws) data, other ≠ passphrase →
    ∃ e, C.decrypt (C.aesKey other draws.salt) draws.nonce
      (C.encrypt (C.aesKey passphrase draws.salt) draws.nonce data) = .error e
  fromBytes_bytes : ∀ kp, C.keypairFromBytes (C.keypairBytes kp) = .ok kp
  fromString_str : ∀ key, S.pubkeyFromString (S.pubkeyStr key) = .ok key

/-! ## Encryption -/

/-- Derive a key from a passphrase. -/
def deriveKey (passphrase : Text) (salt : Bytes) : Except Exn Bytes := do
  return C.aesKey (← encodeUtf8 passphrase) salt

/-- The stored form of a ciphertext. -/
def secretFields (salt nonce ciphertext : Bytes) : Json :=
  .dict [(ofString "salt", .str (hex salt)), (ofString "nonce", .str (hex nonce)),
    (ofString "ciphertext", .str (hex ciphertext))]

/-- Encrypt the bytes of a secret key. -/
def encryptSecret (secretBytes : Bytes) (passphrase : Text) (draws : Draws) : Except Exn Json := do
  let key ← deriveKey C passphrase draws.salt
  return secretFields draws.salt draws.nonce (C.encrypt key draws.nonce secretBytes)

/-- `bytes.fromhex(value)` of a value of any type. -/
def fromHexOf : Json → Except Exn Bytes
  | .str t => fromHex t
  | v => .error ⟨"TypeError",
      ofString "fromhex() argument must be str, not " ++ ofString v.typeName⟩

/-- Decrypt the bytes of a secret key. -/
def decryptSecret (encData : Json) (passphrase : Text) : Except Exn Bytes := do
  let salt ← fromHexOf (← encData.getItem (ofString "salt"))
  let nonce ← fromHexOf (← encData.getItem (ofString "nonce"))
  let ciphertext ← fromHexOf (← encData.getItem (ofString "ciphertext"))
  let key ← deriveKey C passphrase salt
  C.decrypt key nonce ciphertext

/-- A secret sealed under the UTF-8 form of a passphrase. -/
def sealedSecret (secretBytes passphrase : Bytes) (draws : Draws) : Json :=
  secretFields draws.salt draws.nonce
    (C.encrypt (C.aesKey passphrase draws.salt) draws.nonce secretBytes)

variable {C} {passphrase : Text} {secretBytes : Bytes} {draws : Draws}

/-- **Secrets are encrypted under the passphrases that UTF-8 can encode.** -/
lemma encryptSecret_eq_ok_iff {secret : Json} :
    encryptSecret C secretBytes passphrase draws = .ok secret ↔
      IsEncodable passphrase ∧ secret = sealedSecret C secretBytes (utf8 passphrase) draws := by
  unfold encryptSecret deriveKey
  by_cases henc : IsEncodable passphrase
  · rw [encodeUtf8_of_encodable henc, ok_bind]
    constructor
    · intro h
      exact ⟨henc, (Except.ok.inj h).symm⟩
    · rintro ⟨-, rfl⟩
      rfl
  · obtain ⟨e, he⟩ := encodeUtf8_of_not_encodable henc
    rw [he]
    exact iff_of_false (fun h => by cases h) fun h => henc h.1

/-- The bytes behind a field in hexadecimal form. -/
lemma fromHexOf_getItem {r : Json} {key : Text} {bs : Bytes}
    (h : r.field key = some (.str (hex bs))) : (r.getItem key >>= fromHexOf) = .ok bs := by
  rw [Json.getItem_of_field h, ok_bind]
  exact fromHex_hex bs

/-- Decrypting a stored ciphertext reads its parts.

**Proof sketch.** Each of the three fields holds a text of hexadecimal digits, which is read back to
the bytes it was written from (`fromHexOf_getItem`). -/
lemma decryptSecret_secretFields (salt nonce ciphertext : Bytes) (passphrase : Text) :
    decryptSecret C (secretFields salt nonce ciphertext) passphrase =
      deriveKey C passphrase salt >>= fun key => C.decrypt key nonce ciphertext := by
  have hsalt : (secretFields salt nonce ciphertext).field (ofString "salt") =
      some (.str (hex salt)) := rfl
  have hnonce : (secretFields salt nonce ciphertext).field (ofString "nonce") =
      some (.str (hex nonce)) := by
    simp [secretFields, Json.field, ofString_injective.eq_iff]
  have hciphertext : (secretFields salt nonce ciphertext).field (ofString "ciphertext") =
      some (.str (hex ciphertext)) := by
    simp [secretFields, Json.field, ofString_injective.eq_iff]
  have hbind : ∀ {bs : Bytes} {key : Text} {β : Type} (f : Bytes → Except Exn β),
      (secretFields salt nonce ciphertext).field key = some (.str (hex bs)) →
      ((secretFields salt nonce ciphertext).getItem key >>= fun v => fromHexOf v >>= f) = f bs := by
    intro bs key β f h
    rw [← bind_assoc, fromHexOf_getItem h, ok_bind]
  unfold decryptSecret
  rw [hbind _ hsalt, hbind _ hnonce, hbind _ hciphertext]

/-- **The passphrase opens the secret.** -/
lemma decryptSecret_sealed (hlaw : C.Lawful) (henc : IsEncodable passphrase) :
    decryptSecret C (sealedSecret C secretBytes (utf8 passphrase) draws) passphrase =
      .ok secretBytes := by
  rw [sealedSecret, decryptSecret_secretFields, deriveKey, encodeUtf8_of_encodable henc, ok_bind]
  exact hlaw.decrypt_encrypt (utf8 passphrase) draws secretBytes

/-- **No other passphrase opens the secret.** -/
lemma decryptSecret_sealed_of_ne (hlaw : C.Lawful) (henc : IsEncodable passphrase) {other : Text}
    (hne : other ≠ passphrase) :
    ∃ e, decryptSecret C (sealedSecret C secretBytes (utf8 passphrase) draws) other =
      .error e := by
  rw [sealedSecret, decryptSecret_secretFields, deriveKey]
  by_cases hother : IsEncodable other
  · have hbytes : utf8 other ≠ utf8 passphrase := by
      intro heq
      have hread := decodeUtf8_utf8 hother
      rw [heq, decodeUtf8_utf8 henc] at hread
      exact hne (Except.ok.inj hread).symm
    rw [encodeUtf8_of_encodable hother, ok_bind]
    exact hlaw.decrypt_other (utf8 passphrase) (utf8 other) draws secretBytes hbytes
  · obtain ⟨e, he⟩ := encodeUtf8_of_not_encodable hother
    rw [he]
    exact ⟨e, rfl⟩

/-! ## Mnemonic phrases -/

/-- The derivation path `m/44'/501'/0'/0'`. -/
def solanaDerivationPath : List ℤ := [44, 501, 0, 0]

variable (C) in
/-- A hardened child: key and chain code of the child with this index. -/
def deriveChild (parent : Bytes × Bytes) (index : ℤ) : Except Exn (Bytes × Bytes) := do
  let (key, chainCode) := parent
  let hardenedIndex := 0x80000000 + index
  let data := [0] ++ key ++ (← packI hardenedIndex)
  let i := C.hmacSha512 chainCode data
  return (i.take 32, i.drop 32)

variable (C) in
/-- The keypair behind a mnemonic phrase, along the derivation path. -/
def deriveSolanaKeypairFromMnemonic (mnemonicPhrase bip39Passphrase : Text) :
    Except Exn S.Keypair := do
  if !C.checkMnemonic mnemonicPhrase then
    throw (valueError (ofString "Invalid BIP39 mnemonic phrase"))
  let password ← encodeUtf8 mnemonicPhrase
  let salt ← encodeUtf8 (ofString "mnemonic" ++ bip39Passphrase)
  let seed := C.pbkdf2Sha512 password salt 2048
  let i := C.hmacSha512 (utf8 (ofString "ed25519 seed")) seed
  let (key, _) ← solanaDerivationPath.foldlM (deriveChild C) (i.take 32, i.drop 32)
  C.keypairFromSeed key

/-! ## A sample of the libraries -/

/-- The sample library of keys, with public keys written in hexadecimal form. -/
def hexSolders : Solders :=
  { sampleSolders with
    pubkeyStr := fun key => String.ofList
      (key.val.flatMap fun b => [Nat.digitChar (b.toNat / 16), Nat.digitChar (b.toNat % 16)])
    pubkeyFromString := fun s => fromHex (ofString s) >>= Pubkey.fromBytes }

/-- What is written in hexadecimal form is read back. -/
lemma hexSolders_fromString_str (key : Pubkey) :
    hexSolders.pubkeyFromString (hexSolders.pubkeyStr key) = .ok key := by
  have hstr : ofString (hexSolders.pubkeyStr key) = hex key.val := by
    simp [hexSolders, ofString, hex, hex2, List.map_flatMap]
  change fromHex (ofString (hexSolders.pubkeyStr key)) >>= Pubkey.fromBytes = _
  rw [hstr, fromHex_hex, ok_bind]
  exact Pubkey.fromBytes_of_length key.property

/-- What the sample cipher puts in front of the data: the key, and where it ends. -/
def lock (key : Bytes) : Bytes := key.flatMap (fun b => [1, b]) ++ [0]

/-- The data behind a key, if it is this one. -/
def unlock (key ciphertext : Bytes) : Except Exn Bytes :=
  if lock key <+: ciphertext then .ok (ciphertext.drop (lock key).length)
  else .error ⟨"InvalidTag", []⟩

/-- A key does not begin like another one. -/
lemma eq_of_lock_append {key key' data data' : Bytes}
    (h : lock key ++ data = lock key' ++ data') : key = key' := by
  induction key generalizing key' with
  | nil =>
    cases key' with
    | nil => rfl
    | cons b key' => cases h
  | cons b key ih =>
    cases key' with
    | nil => cases h
    | cons b' key' =>
      simp only [lock, List.flatMap_cons, List.cons_append, List.nil_append,
        List.cons.injEq, true_and] at h
      rw [h.1, ih h.2]

/-- The key opens what it locks. -/
lemma unlock_lock (key data : Bytes) : unlock key (lock key ++ data) = .ok data := by
  rw [unlock, if_pos (List.prefix_append _ _), List.drop_left]

/-- Another key does not. -/
lemma unlock_lock_of_ne {key key' : Bytes} (data : Bytes) (h : key' ≠ key) :
    ∃ e, unlock key' (lock key ++ data) = .error e := by
  rw [unlock, if_neg]
  · exact ⟨_, rfl⟩
  · rintro ⟨rest, hrest⟩
    exact h (eq_of_lock_append hrest)

/-- The secret key of a keypair of the sample library, which is its public key, repeats it. -/
def repeatKey (key : Pubkey) : Bytes := key.val ++ key.val

/-- The keypair of a secret key. -/
def secondHalf (bs : Bytes) : Except Exn Pubkey :=
  if bs.length = 64 then Pubkey.fromBytes (bs.drop 32)
  else .error (valueError (ofString "expected a sequence of length 64"))

/-- The keypair is read back. -/
lemma secondHalf_repeatKey (key : Pubkey) : secondHalf (repeatKey key) = .ok key := by
  have hlen : (repeatKey key).length = 64 := by rw [repeatKey, List.length_append, key.property]
  have hdrop : (repeatKey key).drop 32 = key.val := List.drop_left' key.property
  rw [secondHalf, if_pos hlen, hdrop]
  exact Pubkey.fromBytes_of_length key.property

/-- The libraries for sample runs: the keys of the cipher are the passphrase and the salt. -/
def sampleCryptography : Cryptography hexSolders where
  pbkdf2Sha256 passphrase salt _ _ := passphrase ++ salt
  encrypt key _ data := lock key ++ data
  decrypt key _ ciphertext := unlock key ciphertext
  checkMnemonic phrase := decide (phrase.count (ofChar ' ') = 23)
  pbkdf2Sha512 password salt _ := password ++ salt
  hmacSha512 key message := (message ++ key ++ List.replicate 64 0).take 64
  keypairBytes := repeatKey
  keypairFromBytes := secondHalf
  keypairFromSeed := Pubkey.fromBytes

/-- The sample behaves as the wallets rely on. -/
lemma sampleCryptography_lawful : sampleCryptography.Lawful where
  decrypt_encrypt passphrase draws data := unlock_lock (passphrase ++ draws.salt) data
  decrypt_other _ _ _ data hne :=
    unlock_lock_of_ne data fun heq => hne (List.append_cancel_right heq)
  fromBytes_bytes := secondHalf_repeatKey
  fromString_str := hexSolders_fromString_str

end SolMesh
