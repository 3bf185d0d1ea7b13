import SolMesh.Constants
import SolMesh.Foundations.Python

set_option relaxedAutoImplicit false
set_option autoImplicit false

/-!
# Keys, signatures and transactions

Keys, signatures, message compilation and transaction encoding come from a library outside the
program. The program's own transaction builders are written over an interface of what they use
of it.

## Main definitions

* `SolMesh.Pubkey`, `SolMesh.Signature` — byte strings of the right length.
* `SolMesh.Solders` — the operations of the library.
* `SolMesh.signPayload`, `SolMesh.verifyPayload` — signatures on protocol payloads.
* `SolMesh.createSolTransfer`, `SolMesh.createSplTransfer` — signed transfer transactions.
-/

namespace SolMesh

open Py Text

/-! ## The interface of the library -/

/-- A public key. -/
abbrev Pubkey := { bs : Bytes // bs.length = 32 }

/-- An Ed25519 signature. -/
abbrev Signature := { bs : Bytes // bs.length = 64 }

/-- `Pubkey.from_bytes`. -/
def Pubkey.fromBytes (bs : Bytes) : Except Exn Pubkey :=
  if h : bs.length = 32 then .ok ⟨bs, h⟩
  else .error (valueError (ofString "expected a sequence of length 32"))

/-- A key made of the right number of bytes. -/
lemma Pubkey.fromBytes_of_length {bs : Bytes} (h : bs.length = 32) :
    Pubkey.fromBytes bs = .ok ⟨bs, h⟩ := dif_pos h

/-- `Signature.from_bytes`. -/
def Signature.fromBytes (bs : Bytes) : Except Exn Signature :=
  if h : bs.length = 64 then .ok ⟨bs, h⟩
  else .error (valueError (ofString "expected a sequence of length 64"))

structure AccountMeta where
  pubkey : Pubkey
  isSigner : Bool
  isWritable : Bool
  deriving DecidableEq

structure Instruction where
  programId : Pubkey
  accounts : List AccountMeta
  data : Bytes
  deriving DecidableEq

/-- What the program uses of the library. Operations that can raise return an `Except`. -/
structure Solders where
  Keypair : Type
  Blockhash : Type
  Message : Type
  Transaction : Type
  /-- The public half of a keypair. -/
  pubkey : Keypair → Pubkey
  signMessage : Keypair → Bytes → Signature
  verify : Signature → Pubkey → Bytes → Except Exn Bool
  /-- `str` of a public key. -/
  pubkeyStr : Pubkey → String
  pubkeyFromString : String → Except Exn Pubkey
  /-- Address and bump seed of a program-derived account. -/
  findProgramAddress : List Bytes → Pubkey → Except Exn (Pubkey × ℕ)
  splTokenProgram : Pubkey
  associatedTokenProgram : Pubkey
  systemProgram : Pubkey
  /-- The system transfer instruction: payer, recipient, lamports. -/
  systemTransfer : Pubkey → Pubkey → ℤ → Except Exn Instruction
  /-- `MessageV0.try_compile` without lookup tables: payer, instructions, blockhash. -/
  compile : Pubkey → List Instruction → Blockhash → Except Exn Message
  signTransaction : Message → List Keypair → Except Exn Transaction
  transactionBytes : Transaction → Bytes
  transactionFromBytes : Bytes → Except Exn Transaction

variable (S : Solders)

/-! ## Signatures on payloads -/

/-- Sign a protocol payload. -/
def signPayload (keypair : S.Keypair) (payload : Bytes) : Bytes :=
  (S.signMessage keypair payload).val

/-- Was the payload signed by the holder of the key? Errors count as no. -/
def verifyPayload (pubkey : Pubkey) (payload signature : Bytes) : Bool :=
  let answer := do
    let sig ← Signature.fromBytes signature
    S.verify sig pubkey payload
  match answer with
  | .ok b => b
  | .error _ => false

/-! ## Transfers of lamports -/

/-- A signed and serialized transfer of lamports. -/
def createSolTransfer (senderKeypair : S.Keypair) (recipientPubkey : Pubkey) (lamports : ℤ)
    (recentBlockhash : S.Blockhash) : Except Exn Bytes := do
  let ix ← S.systemTransfer (S.pubkey senderKeypair) recipientPubkey lamports
  let msg ← S.compile (S.pubkey senderKeypair) [ix] recentBlockhash
  let tx ← S.signTransaction msg [senderKeypair]
  return S.transactionBytes tx

/-! ## Transfers of tokens -/

/-- The associated token account of a wallet for a mint. -/
def findAssociatedTokenAddress (wallet mint : Pubkey) : Except Exn Pubkey := do
  let (ata, _) ← S.findProgramAddress [wallet.val, S.splTokenProgram.val, mint.val]
    S.associatedTokenProgram
  return ata

/-- The instruction that creates an associated token account. -/
def createAssociatedTokenAccountInstruction (payer wallet mint : Pubkey) :
    Except Exn Instruction := do
  let ata ← findAssociatedTokenAddress S wallet mint
  return { programId := S.associatedTokenProgram
           accounts := [⟨payer, true, true⟩, ⟨ata, false, true⟩, ⟨wallet, false, false⟩,
             ⟨mint, false, false⟩, ⟨S.systemProgram, false, false⟩,
             ⟨S.splTokenProgram, false, false⟩]
           data := [] }

/-- The `TransferChecked` instruction: discriminator 12, amount (little-endian), decimals. -/
def transferCheckedInstruction (sourceAta mint destAta owner : Pubkey) (amount decimals : ℤ) :
    Except Exn Instruction := do
  let data := (← packB 12) ++ (← packQ amount).reverse ++ (← packB decimals)
  return { programId := S.splTokenProgram
           accounts := [⟨sourceAta, false, true⟩, ⟨mint, false, false⟩, ⟨destAta, false, true⟩,
             ⟨owner, true, false⟩]
           data := data }

/-- A signed and serialized token transfer, on request with the instruction that creates the
recipient's account in front. -/
def createSplTransfer (senderKeypair : S.Keypair) (recipientPubkey mint : Pubkey)
    (amount decimals : ℤ) (recentBlockhash : S.Blockhash) (createRecipientAta : Bool) :
    Except Exn Bytes := do
  let senderAta ← findAssociatedTokenAddress S (S.pubkey senderKeypair) mint
  let recipientAta ← findAssociatedTokenAddress S recipientPubkey mint
  let createIxs ← if createRecipientAta then do
      let createIx ← createAssociatedTokenAccountInstruction S (S.pubkey senderKeypair)
        recipientPubkey mint
      pure [createIx]
    else pure []
  let transferIx ← transferCheckedInstruction S senderAta mint recipientAta
    (S.pubkey senderKeypair) amount decimals
  let msg ← S.compile (S.pubkey senderKeypair) (createIxs ++ [transferIx]) recentBlockhash
  let tx ← S.signTransaction msg [senderKeypair]
  return S.transactionBytes tx

/-- Parse a serialized transaction. -/
def deserializeTransaction (raw : Bytes) : Except Exn S.Transaction := S.transactionFromBytes raw

/-! ## A sample of the library -/

/-- The digits of base 58. -/
def alphabet58 : List Char :=
  "123456789ABCDEFGHJKLMNPQRSTUVWXYZabcdefghijkmnopqrstuvwxyz".toList

/-- The digits of a number in base 58, at most so many. -/
def digits58 : ℕ → ℕ → List Char
  | 0, _ => []
  | count + 1, n =>
    if n = 0 then [] else digits58 count (n / 58) ++ [alphabet58.getD (n % 58) '1']

/-- A key in base 58, with a digit of its own for each zero byte in front. -/
def base58 (key : Pubkey) : String :=
  String.ofList ((key.val.takeWhile (· = 0)).map (fun _ => '1') ++ digits58 44 (Bytes.ofBE key.val))

/-- The key that is written so in base 58. -/
def ofBase58 (s : String) : Except Exn Pubkey :=
  let n := s.toList.foldl (fun n c => 58 * n + alphabet58.idxOf c) 0
  let key : Pubkey := ⟨Bytes.toBE 32 n, Bytes.length_toBE 32 n⟩
  if base58 key = s then .ok key else .error (valueError (ofString "Invalid Base58 string"))

/-- The number of elements in front of an array, seven bits a byte, and what comes after it. -/
def shortLength : ℕ → Bytes → Option (ℕ × Bytes)
  | 0, _ => none
  | _, [] => none
  | count + 1, b :: bs =>
    if b < 0x80 then some (b.toNat, bs)
    else (shortLength count bs).map fun (n, rest) => (b.toNat - 0x80 + 0x80 * n, rest)

/-- Skip so many bytes. -/
def skipBytes (n : ℕ) (bs : Bytes) : Option Bytes :=
  if n ≤ bs.length then some (bs.drop n) else none

/-- Skip an array of elements of `size` bytes each. -/
def skipArray (size : ℕ) (bs : Bytes) : Option Bytes := do
  let (n, rest) ← shortLength 3 bs
  skipBytes (n * size) rest

/-- Skip so many elements. -/
def skipEach (skip : Bytes → Option Bytes) : ℕ → Bytes → Option Bytes
  | 0, bs => some bs
  | n + 1, bs => (skip bs).bind (skipEach skip n)

/-- Skip an instruction: the index of its program, the indices of its accounts, its data. -/
def skipInstruction (bs : Bytes) : Option Bytes :=
  (skipBytes 1 bs).bind fun bs => (skipArray 1 bs).bind (skipArray 1)

/-- Skip a lookup: the key of its table, and the indices of accounts in it. -/
def skipLookup (bs : Bytes) : Option Bytes :=
  (skipBytes 32 bs).bind fun bs => (skipArray 1 bs).bind (skipArray 1)

/-- Skip a serialized transaction: the signatures, the version byte of a message that is not of the
first kind, the three numbers of its header, its keys, its blockhash, its instructions, and its
lookups if it has a version. -/
def skipTransaction (bs : Bytes) : Option Bytes := do
  let bs ← skipArray 64 bs
  let version ← bs.head?
  let bs ← skipBytes (if version = 0x80 then 4 else 3) bs
  let bs ← skipArray 32 bs
  let bs ← skipBytes 32 bs
  let (instructions, bs) ← shortLength 3 bs
  let bs ← skipEach skipInstruction instructions bs
  if version = 0x80 then
    let (lookups, bs) ← shortLength 3 bs
    skipEach skipLookup lookups bs
  else if version < 0x80 then return bs
  else none

/-- The accounts of a message: the payer, and those of its instructions. -/
def accountsOf (payer : Pubkey) (instructions : List Instruction) : List AccountMeta :=
  ⟨payer, true, true⟩ ::
    instructions.flatMap fun ix => ix.accounts ++ [⟨ix.programId, false, false⟩]

/-- The keys of a message, those of signers first, and of these those of writable accounts. -/
def keysOf (accounts : List AccountMeta) : List Pubkey :=
  let keys := (accounts.map AccountMeta.pubkey).eraseDups
  let signs := fun key => accounts.any fun a => decide (a.pubkey = key) && a.isSigner
  let writes := fun key => accounts.any fun a => decide (a.pubkey = key) && a.isWritable
  keys.filter (fun key => signs key && writes key) ++
    keys.filter (fun key => signs key && !writes key) ++
    keys.filter (fun key => !signs key && writes key) ++
    keys.filter (fun key => !signs key && !writes key)

/-- The bytes of an array that is not longer than 127 elements. -/
def shortArray (elements : List Bytes) : Bytes :=
  UInt8.ofNat elements.length :: elements.flatten

/-- The bytes of a message of version 0 without lookups. -/
def messageBytes (payer : Pubkey) (instructions : List Instruction) (blockhash : Pubkey) : Bytes :=
  let accounts := accountsOf payer instructions
  let keys := keysOf accounts
  let signs := fun key => accounts.any fun a => decide (a.pubkey = key) && a.isSigner
  let writes := fun key => accounts.any fun a => decide (a.pubkey = key) && a.isWritable
  let index := fun key => UInt8.ofNat (keys.idxOf key)
  [0x80, UInt8.ofNat (keys.countP signs),
    UInt8.ofNat (keys.countP fun key => signs key && !writes key),
    UInt8.ofNat (keys.countP fun key => !signs key && !writes key)] ++
    shortArray (keys.map Subtype.val) ++ blockhash.val ++
    shortArray (instructions.map fun ix =>
      index ix.programId :: shortArray (ix.accounts.map fun a => [index a.pubkey]) ++
        shortArray (ix.data.map fun b => [b])) ++
    [0]

/-- What the sample library gives as the signature of a key on a message. -/
def sampleSignature (key : Pubkey) (message : Bytes) : Signature :=
  ⟨key.val ++ (message.drop 40 ++ List.replicate 32 0).take 32, by simp [key.property]⟩

/-- A key made of one byte. -/
def keyOf (b : UInt8) : Pubkey := ⟨List.replicate 32 b, List.length_replicate⟩

/-- A library for sample runs. Keys have their text in base 58, and transactions have their wire
format: other bytes are refused. A keypair is its public key, what stands for signatures can be
forged, and the address of a derived account is the sum of its seeds. -/
def sampleSolders : Solders where
  Keypair := Pubkey
  Blockhash := Pubkey
  Message := Bytes
  Transaction := Bytes
  pubkey key := key
  signMessage := sampleSignature
  verify sig key message := .ok (sig = sampleSignature key message)
  pubkeyStr := base58
  pubkeyFromString := ofBase58
  findProgramAddress seeds program :=
    let n := (seeds.map Bytes.ofBE).sum + Bytes.ofBE program.val
    .ok (⟨Bytes.toBE 32 n, Bytes.length_toBE 32 n⟩, 255)
  splTokenProgram := keyOf 0xA1
  associatedTokenProgram := keyOf 0xA2
  systemProgram := keyOf 0
  systemTransfer payer recipient lamports :=
    .ok ⟨keyOf 0, [⟨payer, true, true⟩, ⟨recipient, false, true⟩],
      [2, 0, 0, 0] ++ (Bytes.toBE 8 lamports.toNat).reverse⟩
  compile payer instructions blockhash := .ok (messageBytes payer instructions blockhash)
  signTransaction message keypairs :=
    .ok (shortArray (keypairs.map fun key => (sampleSignature key message).val) ++ message)
  transactionBytes tx := tx
  transactionFromBytes bs :=
    match skipTransaction bs with
    | some _ => .ok bs
    | none => .error (valueError (ofString "io error: unexpected end of file"))

/-- The key of the sample wallets. -/
def sampleKey : Pubkey := keyOf 7

/-- The address that is the text of this key. -/
def sampleAddress : String := "US517G5965aydkZ46HS38QLi7UQiSojurfbQfKCELFx"

/-- The address is read as the key. -/
lemma pubkeyFromString_sampleAddress :
    sampleSolders.pubkeyFromString sampleAddress = .ok sampleKey := by decide +kernel

/-- The key of the sample gateway's hot wallet. -/
def hotKey : Pubkey := keyOf 9

/-- The mint of USDC on the main network. -/
def usdcKey : Pubkey :=
  ⟨[198, 250, 122, 243, 190, 219, 173, 58, 61, 101, 243, 106, 171, 201, 116, 49, 177, 187, 228, 194,
    210, 246, 224, 228, 124, 166, 2, 3, 69, 47, 93, 97], rfl⟩

/-- Its text is the address that the program knows. -/
lemma pubkeyStr_usdcKey : sampleSolders.pubkeyStr usdcKey = usdcMintMainnet := by decide +kernel

/-- The address that the program knows is read as the key. -/
lemma pubkeyFromString_usdcMint :
    sampleSolders.pubkeyFromString usdcMintMainnet = .ok usdcKey := by decide +kernel

/-- The mint of FXN on the main network. -/
def fxnKey : Pubkey :=
  ⟨[119, 71, 31, 89, 37, 228, 243, 241, 4, 98, 103, 249, 196, 57, 205, 99, 239, 222, 73, 40, 204,
    22, 30, 59, 61, 112, 248, 123, 234, 12, 82, 239], rfl⟩

-- The address that the program knows is read as the key.
example : sampleSolders.pubkeyFromString fxnMintMainnet = .ok fxnKey := by decide +kernel

/-- A number has a digit more than the exponent of a power of 58 that is not greater. -/
lemma lt_length_digits58 {m count n : ℕ} (hm : m < count) (h : 58 ^ m ≤ n) :
    m < (digits58 count n).length := by
  induction count generalizing m n with
  | zero => exact absurd hm (Nat.not_lt_zero m)
  | succ count ih =>
    have hpos : n ≠ 0 := (lt_of_lt_of_le (by positivity) h).ne'
    rw [digits58, if_neg hpos, List.length_append, List.length_singleton]
    cases m with
    | zero => exact Nat.succ_pos _
    | succ m =>
      have hdiv : 58 ^ m ≤ n / 58 := by
        rwa [Nat.le_div_iff_mul_le (by norm_num), ← pow_succ]
      exact Nat.succ_lt_succ (ih (Nat.lt_of_succ_lt_succ hm) hdiv)

/-- Bytes are worth at least what the first of them that is not zero is worth.

**Proof sketch.** Induction on the bytes from the end. While all bytes before are zero, the last one
decides, and it is worth at least one if it is not zero. After a byte that is not zero, one more
byte multiplies both sides by 256. -/
lemma pow_le_ofBE (bs : Bytes) : (bs.takeWhile (· = 0)).length = bs.length ∨
    256 ^ (bs.length - 1 - (bs.takeWhile (· = 0)).length) ≤ Bytes.ofBE bs := by
  induction bs using List.reverseRecOn with
  | nil => exact Or.inl rfl
  | append_singleton bs b ih =>
    rw [Bytes.ofBE_append_singleton, List.takeWhile_append, List.length_append,
      List.length_singleton]
    by_cases hzero : (bs.takeWhile (· = 0)).length = bs.length
    · rw [if_pos hzero, List.length_append]
      by_cases hb : b = 0
      · left
        simp [hb]
      · right
        have hpos : b.toNat ≠ 0 := fun h => hb (UInt8.toNat_inj.mp h)
        simp [hb]
        omega
    · right
      have hle := ih.resolve_left hzero
      have hlt := lt_of_le_of_ne (List.takeWhile_prefix (· = 0) (l := bs)).length_le hzero
      rw [if_neg hzero, show bs.length + 1 - 1 - (bs.takeWhile (· = 0)).length =
        (bs.length - 1 - (bs.takeWhile (· = 0)).length) + 1 by omega, pow_succ]
      omega

/-- The text of a key has at least as many characters as the key has bytes. -/
lemma le_length_base58 (key : Pubkey) : 32 ≤ (base58 key).length := by
  have hlen := key.property
  rw [base58, String.length_ofList, List.length_append, List.length_map]
  rcases pow_le_ofBE key.val with hzero | hle
  · omega
  · have hpow : 58 ^ (key.val.length - 1 - (key.val.takeWhile (· = 0)).length) ≤
        Bytes.ofBE key.val := (Nat.pow_le_pow_left (by norm_num) _).trans hle
    have hcount : key.val.length - 1 - (key.val.takeWhile (· = 0)).length < 44 := by omega
    have hdigits := lt_length_digits58 hcount hpow
    omega

/-- A blockhash. -/
def sampleBlockhash : Pubkey := keyOf 0xBB

/-- A signed transfer of lamports. -/
def signedTransfer (payer recipient : Pubkey) (lamports : ℕ) : Bytes :=
  ((createSolTransfer sampleSolders payer recipient lamports sampleBlockhash).toOption).getD []

/-- A signed transfer of lamports from the sample wallet to itself. -/
def sampleTransaction (lamports : ℕ) : Bytes := signedTransfer sampleKey sampleKey lamports

/-- A signed transfer of a token of six decimals to an account that exists. -/
def signedTokenTransfer (payer recipient mint : Pubkey) (baseUnits : ℕ) : Bytes :=
  ((createSplTransfer sampleSolders payer recipient mint baseUnits 6 sampleBlockhash
    false).toOption).getD []

/-- A transfer to oneself fits one chunk, and is a transaction, unlike what is left of it without
its last byte. -/
example : (sampleTransaction 5).length = 185 ∧
    (deserializeTransaction sampleSolders (sampleTransaction 5)).isOk = true ∧
    (deserializeTransaction sampleSolders (sampleTransaction 5).dropLast).isOk = false := by
  decide +kernel

/-- The sample library accepts bytes that can be skipped as a transaction. -/
lemma deserializeTransaction_sample {raw : Bytes} (h : (skipTransaction raw).isSome = true) :
    deserializeTransaction sampleSolders raw = .ok raw := by
  obtain ⟨rest, hrest⟩ := Option.isSome_iff_exists.mp h
  change (match skipTransaction raw with
    | some _ => .ok raw
    | none => .error _) = Except.ok raw
  rw [hrest]

/-- The sample library verifies what it signs. -/
lemma verifyPayload_sample (key : Pubkey) (message : Bytes) :
    verifyPayload sampleSolders key message (signPayload sampleSolders key message) = true := by
  have hsig : Signature.fromBytes (sampleSignature key message).val =
      .ok (sampleSignature key message) := dif_pos (sampleSignature key message).property
  change (match (Signature.fromBytes (sampleSignature key message).val >>= fun sig =>
    (.ok (decide (sig = sampleSignature key message)) : Except Exn Bool)) with
    | .ok b => b
    | .error _ => false) = true
  rw [hsig]
  simp

end SolMesh
