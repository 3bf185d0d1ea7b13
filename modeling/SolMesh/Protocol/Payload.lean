import SolMesh.Constants
import SolMesh.Foundations.Python

set_option relaxedAutoImplicit false
set_option autoImplicit false

/-!
# Payload formats

The encoders and decoders of the message payloads. Every format is a sequence of fields of fixed
width, followed by at most one field of free length; whether an optional field is there is read
off a flag or off the length. Encoders take the integers of the caller and refuse those that do
not fit; decoders return natural numbers.

## Main definitions

* `SolMesh.encodeTxRequest`, `SolMesh.decodeTxRequest` — signed transfer requests.
* `SolMesh.encodeAddrShare`, `SolMesh.encodeAck`, `SolMesh.encodeNack`, `SolMesh.encodeBalanceReq`,
  `SolMesh.encodeBalanceResp`, `SolMesh.encodeBlockhashResp`, `SolMesh.encodeGatewayBeacon`,
  `SolMesh.encodeTxResult` and their decoders — the other formats.

## Main results

* `SolMesh.encodeTxRequest_eq_ok_iff` and its companions — what each encoder accepts, and the
  bytes it gives.
-/

namespace SolMesh

open Py Text

/-! ## Fields shared by the formats -/

/-- `if len(bs) != n: raise ValueError(message)`. -/
def requireLength (n : ℕ) (message : String) (bs : Bytes) : Except Exn Unit :=
  if bs.length ≠ n then .error (valueError (ofString message)) else .ok ()

/-- `if bs and len(bs) != n: raise ValueError(message)`. -/
def requireOptional (n : ℕ) (message : String) (bs : Bytes) : Except Exn Unit :=
  if bs ≠ [] ∧ bs.length ≠ n then .error (valueError (ofString message)) else .ok ()

/-- The error of a decoder on a payload of `len` bytes that needs `n`. -/
def tooShort (what : String) (len n : ℕ) : Exn :=
  valueError (ofString what ++ ofString ": " ++ dec len ++ ofString " < " ++ dec n)

/-- The bytes that `if text: payload += text.encode("utf-8")` appends. -/
def encodeTail (text : Text) : Except Exn Bytes :=
  if text ≠ [] then encodeUtf8 text else .ok []

/-- `payload[offset:].decode("utf-8") if len(payload) > offset else ""`. -/
def decodeTail (payload : Bytes) (offset : ℕ) : Except Exn Text :=
  if payload.length > offset then decodeUtf8 (payload.drop offset) else .ok []

/-- The required lengths are accepted. -/
@[simp] lemma requireLength_eq_ok {n : ℕ} {message : String} {bs : Bytes} {u : Unit} :
    requireLength n message bs = .ok u ↔ bs.length = n := by
  unfold requireLength
  split_ifs with h
  · simp [h]
  · simp [not_not.mp h]

/-- An optional field is empty or has the required length. -/
@[simp] lemma requireOptional_eq_ok {n : ℕ} {message : String} {bs : Bytes} {u : Unit} :
    requireOptional n message bs = .ok u ↔ bs = [] ∨ bs.length = n := by
  unfold requireOptional
  split_ifs with h
  · simp only [false_iff, not_or]
    exact h
  · simp only [true_iff]
    tauto

/-- A trailing text is appended in UTF-8. -/
lemma encodeTail_eq_ok_iff {text : Text} {bs : Bytes} :
    encodeTail text = .ok bs ↔ IsEncodable text ∧ bs = utf8 text := by
  unfold encodeTail
  split_ifs with h
  · exact encodeUtf8_eq_ok_iff
  · obtain rfl : text = [] := not_not.mp h
    simp [Text.IsEncodable, utf8, eq_comm]

/-- A trailing text is read back. -/
lemma decodeTail_append {text : Text} {pre : Bytes} {offset : ℕ} (h : IsEncodable text)
    (hpre : pre.length = offset) : decodeTail (pre ++ utf8 text) offset = .ok text := by
  unfold decodeTail
  split_ifs with hlen
  · rw [← hpre, List.drop_left, decodeUtf8_utf8 h]
  · have hnil : utf8 text = [] := by
      rw [List.length_append] at hlen
      exact List.length_eq_zero_iff.mp (by omega)
    rw [utf8_eq_nil_iff.mp hnil]

/-! ## Transfer requests -/

/-- The payload of a `TX_REQUEST`: signature(64), sender(32), destination(32), amount(8),
flags(1), mint(0 or 32) and memo. The amount counts lamports or base units of the token. -/
def encodeTxRequest (senderPubkey destPubkey : Bytes) (amount : ℤ) (signature : Bytes)
    (memo : Text) (mint : Bytes) : Except Exn Bytes := do
  requireLength 64 "Signature must be 64 bytes" signature
  requireLength 32 "Sender pubkey must be 32 bytes" senderPubkey
  requireLength 32 "Destination pubkey must be 32 bytes" destPubkey
  requireOptional 32 "Mint must be 32 bytes" mint
  let flags : ℤ := if mint ≠ [] then 0x01 else 0x00
  let payload := signature ++ senderPubkey ++ destPubkey ++ (← packQ amount)
  let payload := payload ++ (← packB flags)
  let payload := payload ++ mint
  return payload ++ (← encodeTail memo)

/-- The fields of a decoded `TX_REQUEST`; `lamports` is an alias of `amount`. -/
structure TxRequest where
  signature : Bytes
  senderPubkey : Bytes
  destPubkey : Bytes
  amount : ℕ
  lamports : ℕ
  flags : UInt8
  mint : Bytes
  memo : Text
  deriving DecidableEq

/-- The fields in front of the flags, the flags, the mint and the memo from its offset on. -/
def TxRequest.read (payload : Bytes) (flags : UInt8) (mint : Bytes) (memoOffset : ℕ) :
    Except Exn TxRequest := do
  let amount := Bytes.ofBE (Bytes.slice payload 128 136)
  let memo ← decodeTail payload memoOffset
  return { signature := Bytes.slice payload 0 64
           senderPubkey := Bytes.slice payload 64 96
           destPubkey := Bytes.slice payload 96 128
           amount := amount
           lamports := amount
           flags := flags
           mint := mint
           memo := memo }

/-- The parser of `TX_REQUEST` payloads. Flags and memo may be missing. -/
def decodeTxRequest (payload : Bytes) : Except Exn TxRequest :=
  if payload.length < 136 then .error (tooShort "TX_REQUEST too short" payload.length 136)
  else if payload.length > 136 then
    let flags := payload.getD 136 0
    if flags &&& 0x01 ≠ 0 then
      if payload.length < 169 then
        .error (tooShort "TX_REQUEST has mint flag but too short" payload.length 169)
      else TxRequest.read payload flags (Bytes.slice payload 137 169) 169
    else TxRequest.read payload flags [] 137
  else TxRequest.read payload 0 [] 136

/-- What a decoded request looks like: fields of the right lengths, and a mint exactly if bit 0 of
the flags announces one. -/
structure TxRequest.WellFormed (req : TxRequest) : Prop where
  signature : req.signature.length = 64
  senderPubkey : req.senderPubkey.length = 32
  destPubkey : req.destPubkey.length = 32
  amount : req.amount < 256 ^ 8
  lamports : req.lamports = req.amount
  mint : req.flags &&& 0x01 ≠ 0 → req.mint.length = 32
  noMint : ¬ req.flags &&& 0x01 ≠ 0 → req.mint = []

/-- Reading the fields of a payload that is long enough. -/
lemma TxRequest.wellFormed_of_read {payload mint : Bytes} {flags : UInt8} {offset : ℕ}
    {req : TxRequest} (h : TxRequest.read payload flags mint offset = .ok req)
    (hlen : 136 ≤ payload.length) (hmint : flags &&& 0x01 ≠ 0 → mint.length = 32)
    (hnone : ¬ flags &&& 0x01 ≠ 0 → mint = []) : req.WellFormed := by
  simp only [TxRequest.read, bind_eq_ok, pure, Except.pure, Except.ok.injEq] at h
  obtain ⟨memo, _, rfl⟩ := h
  have hamount := Bytes.ofBE_lt (Bytes.slice payload 128 136)
  rw [Bytes.length_slice hlen] at hamount
  exact ⟨Bytes.length_slice (by omega), Bytes.length_slice (by omega),
    Bytes.length_slice (by omega), hamount, rfl, hmint, hnone⟩

/-- **Decoded requests are well-formed.** -/
lemma wellFormed_of_decodeTxRequest {payload : Bytes} {req : TxRequest}
    (h : decodeTxRequest payload = .ok req) : req.WellFormed := by
  unfold decodeTxRequest at h
  dsimp only at h
  split_ifs at h with hshort hflags hbit
  · exact TxRequest.wellFormed_of_read h (by omega)
      (fun _ => Bytes.length_slice (by omega)) (fun hn => absurd hbit hn)
  · exact TxRequest.wellFormed_of_read h (by omega) (fun hb => absurd hb hbit) (fun _ => rfl)
  · exact TxRequest.wellFormed_of_read h (by omega) (fun hb => absurd rfl hb) (fun _ => rfl)

/-- An error of reading the fields is an error of decoding the memo. -/
lemma TxRequest.read_eq_error {payload mint : Bytes} {flags : UInt8} {offset : ℕ} {e : Exn}
    (h : TxRequest.read payload flags mint offset = .error e) :
    decodeUtf8 (payload.drop offset) = .error e := by
  unfold TxRequest.read decodeTail at h
  dsimp only at h
  split_ifs at h with hlen
  · cases hd : decodeUtf8 (payload.drop offset) with
    | ok memo => rw [hd] at h; cases h
    | error e' =>
      rw [hd, error_bind] at h
      rw [Except.error.inj h]
  · cases h

/-- The errors of `decodeTxRequest` are `ValueError`s. -/
lemma isValueError_of_decodeTxRequest {payload : Bytes} {e : Exn}
    (h : decodeTxRequest payload = .error e) : e.IsValueError := by
  have hread : ∀ flags mint offset, TxRequest.read payload flags mint offset = .error e →
      e.IsValueError := by
    intro flags mint offset hr
    obtain ⟨d, _, rfl⟩ := decodeUtf8_eq_error (TxRequest.read_eq_error hr)
    exact Or.inr (Or.inl rfl)
  unfold decodeTxRequest at h
  dsimp only at h
  split_ifs at h
  · obtain rfl := Except.error.inj h
    exact isValueError_valueError _
  · obtain rfl := Except.error.inj h
    exact isValueError_valueError _
  · exact hread _ _ _ h
  · exact hread _ _ _ h
  · exact hread _ _ _ h

/-- **The errors of `decodeTxRequest`** on the payload of a frame have short ASCII texts.

**Proof sketch.** The decoder raises because the payload is too short, and then the text tells two
numbers of at most three digits; or because the memo is not UTF-8, and then the text tells positions
in the payload (`decode_error_span`). -/
lemma decodeTxRequest_eq_error {payload : Bytes} {e : Exn}
    (h : decodeTxRequest payload = .error e) (hlen : payload.length ≤ 255) :
    Ascii e.text ∧ e.text.length ≤ 90 := by
  have hshort : ∀ what : String, Ascii (ofString what) → (ofString what).length ≤ 38 →
      ∀ n < 1000, Ascii (tooShort what payload.length n).text ∧
        (tooShort what payload.length n).text.length ≤ 90 := by
    intro what hascii hwhat n hn
    have h₁ : Ascii (ofString ": ") := by decide
    have h₂ : Ascii (ofString " < ") := by decide
    have hl₁ : (ofString ": ").length = 2 := by decide
    have hl₂ : (ofString " < ").length = 3 := by decide
    have hd₁ : (dec payload.length).length ≤ 3 := length_dec_le (by omega)
    have hd₂ : (dec n).length ≤ 3 := length_dec_le hn
    refine ⟨by simp [tooShort, valueError, hascii, h₁, h₂], ?_⟩
    simp only [tooShort, valueError, List.length_append]
    omega
  have hread : ∀ flags mint offset, TxRequest.read payload flags mint offset = .error e →
      Ascii e.text ∧ e.text.length ≤ 90 := by
    intro flags mint offset hr
    obtain ⟨d, hd, rfl⟩ := decodeUtf8_eq_error (TxRequest.read_eq_error hr)
    obtain ⟨hspan, hstop⟩ := decode_error_span hd
    rw [List.length_drop] at hstop
    exact ⟨ascii_decodeMessage d, length_decodeMessage_le hspan (by omega)⟩
  unfold decodeTxRequest at h
  dsimp only at h
  split_ifs at h
  · obtain rfl := Except.error.inj h
    exact hshort _ (by decide) (by decide) _ (by omega)
  · obtain rfl := Except.error.inj h
    exact hshort _ (by decide) (by decide) _ (by omega)
  · exact hread _ _ _ h
  · exact hread _ _ _ h
  · exact hread _ _ _ h

/-- The flags byte the encoder writes. -/
def flagsOf (mint : Bytes) : UInt8 := if mint ≠ [] then 0x01 else 0x00

/-- Bit 0 of the flags says whether there is a mint. -/
lemma flagsOf_bit (mint : Bytes) : flagsOf mint &&& 0x01 ≠ 0 ↔ mint ≠ [] := by
  unfold flagsOf
  split_ifs with h <;> simp [h]

/-- The bytes of an encoded `TX_REQUEST`. -/
def txRequestBytes (senderPubkey destPubkey : Bytes) (amount : ℕ) (signature : Bytes)
    (memo : Text) (mint : Bytes) : Bytes :=
  signature ++ (senderPubkey ++ (destPubkey ++ (Bytes.toBE 8 amount ++
    ([flagsOf mint] ++ (mint ++ utf8 memo)))))

/-- **What `encodeTxRequest` accepts**, and the bytes it gives. -/
lemma encodeTxRequest_eq_ok_iff {sender dest signature mint payload : Bytes} {amount : ℤ}
    {memo : Text} :
    encodeTxRequest sender dest amount signature memo mint = .ok payload ↔
      signature.length = 64 ∧ sender.length = 32 ∧ dest.length = 32 ∧
      (mint = [] ∨ mint.length = 32) ∧ (0 ≤ amount ∧ amount < 256 ^ 8) ∧ IsEncodable memo ∧
      payload = txRequestBytes sender dest amount.toNat signature memo mint := by
  have hflags : packB (if mint ≠ [] then 0x01 else 0x00) = .ok [flagsOf mint] := by
    unfold flagsOf
    split_ifs <;> rfl
  simp only [encodeTxRequest, bind_eq_ok, hflags, packQ, packUInt_eq_ok_iff, encodeTail_eq_ok_iff,
    requireLength_eq_ok, requireOptional_eq_ok, pure, Except.pure, Except.ok.injEq]
  constructor
  · rintro ⟨_, hs, _, hf, _, hd, _, hm, _, ⟨h0, h1, rfl⟩, _, rfl, _, ⟨he, rfl⟩, rfl⟩
    exact ⟨hs, hf, hd, hm, ⟨h0, h1⟩, he, by simp [txRequestBytes]⟩
  · rintro ⟨hs, hf, hd, hm, ⟨h0, h1⟩, he, rfl⟩
    exact ⟨(), hs, (), hf, (), hd, (), hm, _, ⟨h0, h1, rfl⟩, _, rfl, _, ⟨he, rfl⟩,
      by simp [txRequestBytes]⟩

/-! ## Address shares -/

/-- The payload of an `ADDR_SHARE`: public key and optional label. -/
def encodeAddrShare (pubkey : Bytes) (label : Text) : Except Exn Bytes := do
  requireLength 32 "Pubkey must be 32 bytes" pubkey
  return pubkey ++ (← encodeTail label)

structure AddrShare where
  pubkey : Bytes
  label : Text
  deriving DecidableEq

/-- The parser of `ADDR_SHARE` payloads. -/
def decodeAddrShare (payload : Bytes) : Except Exn AddrShare :=
  if payload.length < 32 then .error (tooShort "ADDR_SHARE too short" payload.length 32)
  else do return ⟨Bytes.slice payload 0 32, ← decodeTail payload 32⟩

/-- What `encodeAddrShare` accepts. -/
lemma encodeAddrShare_eq_ok_iff {pubkey payload : Bytes} {label : Text} :
    encodeAddrShare pubkey label = .ok payload ↔
      pubkey.length = 32 ∧ IsEncodable label ∧ payload = pubkey ++ utf8 label := by
  simp only [encodeAddrShare, bind_eq_ok, requireLength_eq_ok, encodeTail_eq_ok_iff, pure,
    Except.pure, Except.ok.injEq]
  constructor
  · rintro ⟨_, hp, _, ⟨he, rfl⟩, rfl⟩
    exact ⟨hp, he, rfl⟩
  · rintro ⟨hp, he, rfl⟩
    exact ⟨(), hp, _, ⟨he, rfl⟩, rfl⟩

/-- A decoded address is a public key. -/
lemma length_of_decodeAddrShare {payload : Bytes} {data : AddrShare}
    (h : decodeAddrShare payload = .ok data) : data.pubkey.length = 32 := by
  unfold decodeAddrShare at h
  split_ifs at h with hshort
  obtain ⟨label, _, h⟩ := bind_eq_ok.mp h
  cases h
  exact Bytes.length_slice (by omega)

/-! ## Acknowledgements -/

/-- The payload of an `ACK`: message id(2), chunk(1) and status(1). -/
def encodeAck (ackedMsgId ackedChunk status : ℤ) : Except Exn Bytes := do
  return (← packH ackedMsgId) ++ (← packB ackedChunk) ++ (← packB status)

structure Ack where
  ackedMsgId : ℕ
  ackedChunk : ℕ
  status : ℕ
  deriving DecidableEq

/-- The parser of `ACK` payloads. -/
def decodeAck (payload : Bytes) : Except Exn Ack :=
  if payload.length < 4 then .error (tooShort "ACK too short" payload.length 4)
  else .ok ⟨Bytes.ofBE (Bytes.slice payload 0 2), Bytes.ofBE (Bytes.slice payload 2 3),
    Bytes.ofBE (Bytes.slice payload 3 4)⟩

/-- The payload of a `NACK`: message id(2), error code(1) and error text. -/
def encodeNack (nackedMsgId errorCode : ℤ) (errorMsg : Text) : Except Exn Bytes := do
  let payload := (← packH nackedMsgId) ++ (← packB errorCode)
  return payload ++ (← encodeTail errorMsg)

structure Nack where
  nackedMsgId : ℕ
  errorCode : ℕ
  errorMsg : Text
  deriving DecidableEq

/-- The parser of `NACK` payloads. -/
def decodeNack (payload : Bytes) : Except Exn Nack :=
  if payload.length < 3 then .error (tooShort "NACK too short" payload.length 3)
  else do
    let errorMsg ← decodeTail payload 3
    return ⟨Bytes.ofBE (Bytes.slice payload 0 2), Bytes.ofBE (Bytes.slice payload 2 3), errorMsg⟩

/-- What `encodeAck` accepts. -/
lemma encodeAck_eq_ok_iff {msgId chunk status : ℤ} {payload : Bytes} :
    encodeAck msgId chunk status = .ok payload ↔
      (0 ≤ msgId ∧ msgId < 256 ^ 2) ∧ (0 ≤ chunk ∧ chunk < 256 ^ 1) ∧
      (0 ≤ status ∧ status < 256 ^ 1) ∧
      payload = Bytes.toBE 2 msgId.toNat ++ Bytes.toBE 1 chunk.toNat ++
        Bytes.toBE 1 status.toNat := by
  simp only [encodeAck, bind_eq_ok, packH, packB, packUInt_eq_ok_iff, pure, Except.pure,
    Except.ok.injEq]
  constructor
  · rintro ⟨_, ⟨hi, hi', rfl⟩, _, ⟨hc, hc', rfl⟩, _, ⟨hs, hs', rfl⟩, rfl⟩
    exact ⟨⟨hi, hi'⟩, ⟨hc, hc'⟩, ⟨hs, hs'⟩, rfl⟩
  · rintro ⟨⟨hi, hi'⟩, ⟨hc, hc'⟩, ⟨hs, hs'⟩, rfl⟩
    exact ⟨_, ⟨hi, hi', rfl⟩, _, ⟨hc, hc', rfl⟩, _, ⟨hs, hs', rfl⟩, rfl⟩

/-- What `encodeNack` accepts. -/
lemma encodeNack_eq_ok_iff {msgId code : ℤ} {text : Text} {payload : Bytes} :
    encodeNack msgId code text = .ok payload ↔
      (0 ≤ msgId ∧ msgId < 256 ^ 2) ∧ (0 ≤ code ∧ code < 256 ^ 1) ∧ IsEncodable text ∧
      payload = Bytes.toBE 2 msgId.toNat ++ Bytes.toBE 1 code.toNat ++ utf8 text := by
  simp only [encodeNack, bind_eq_ok, packH, packB, packUInt_eq_ok_iff, encodeTail_eq_ok_iff, pure,
    Except.pure, Except.ok.injEq]
  constructor
  · rintro ⟨_, ⟨hi, hi', rfl⟩, _, ⟨hc, hc', rfl⟩, _, ⟨he, rfl⟩, rfl⟩
    exact ⟨⟨hi, hi'⟩, ⟨hc, hc'⟩, he, rfl⟩
  · rintro ⟨⟨hi, hi'⟩, ⟨hc, hc'⟩, he, rfl⟩
    exact ⟨_, ⟨hi, hi', rfl⟩, _, ⟨hc, hc', rfl⟩, _, ⟨he, rfl⟩, rfl⟩

/-! ## Balances -/

/-- The payload of a `BALANCE_REQ`: public key and optional mint. -/
def encodeBalanceReq (pubkey mint : Bytes) : Except Exn Bytes := do
  requireLength 32 "Pubkey must be 32 bytes" pubkey
  requireOptional 32 "Mint must be 32 bytes" mint
  return pubkey ++ mint

structure BalanceReq where
  pubkey : Bytes
  mint : Bytes
  deriving DecidableEq

/-- The parser of `BALANCE_REQ` payloads. -/
def decodeBalanceReq (payload : Bytes) : Except Exn BalanceReq :=
  if payload.length < 32 then .error (tooShort "BALANCE_REQ too short" payload.length 32)
  else .ok ⟨Bytes.slice payload 0 32,
    if payload.length ≥ 64 then Bytes.slice payload 32 64 else []⟩

/-- The payload of a `BALANCE_RESP`: public key(32), amount(8) and optional mint. -/
def encodeBalanceResp (pubkey : Bytes) (amount : ℤ) (mint : Bytes) : Except Exn Bytes := do
  requireLength 32 "Pubkey must be 32 bytes" pubkey
  requireOptional 32 "Mint must be 32 bytes" mint
  return pubkey ++ (← packQ amount) ++ mint

/-- The fields of a decoded `BALANCE_RESP`; `lamports` is an alias of `amount`. -/
structure BalanceResp where
  pubkey : Bytes
  lamports : ℕ
  amount : ℕ
  mint : Bytes
  deriving DecidableEq

/-- The parser of `BALANCE_RESP` payloads. -/
def decodeBalanceResp (payload : Bytes) : Except Exn BalanceResp :=
  if payload.length < 40 then .error (tooShort "BALANCE_RESP too short" payload.length 40)
  else
    let amount := Bytes.ofBE (Bytes.slice payload 32 40)
    .ok ⟨Bytes.slice payload 0 32, amount, amount,
      if payload.length ≥ 72 then Bytes.slice payload 40 72 else []⟩

/-- What `encodeBalanceReq` accepts. -/
lemma encodeBalanceReq_eq_ok_iff {pubkey mint payload : Bytes} :
    encodeBalanceReq pubkey mint = .ok payload ↔
      pubkey.length = 32 ∧ (mint = [] ∨ mint.length = 32) ∧ payload = pubkey ++ mint := by
  simp only [encodeBalanceReq, bind_eq_ok, requireLength_eq_ok, requireOptional_eq_ok, pure,
    Except.pure, Except.ok.injEq]
  constructor
  · rintro ⟨_, hp, _, hm, rfl⟩
    exact ⟨hp, hm, rfl⟩
  · rintro ⟨hp, hm, rfl⟩
    exact ⟨(), hp, (), hm, rfl⟩

/-- What `encodeBalanceResp` accepts. -/
lemma encodeBalanceResp_eq_ok_iff {pubkey mint payload : Bytes} {amount : ℤ} :
    encodeBalanceResp pubkey amount mint = .ok payload ↔
      pubkey.length = 32 ∧ (mint = [] ∨ mint.length = 32) ∧ (0 ≤ amount ∧ amount < 256 ^ 8) ∧
      payload = pubkey ++ Bytes.toBE 8 amount.toNat ++ mint := by
  simp only [encodeBalanceResp, bind_eq_ok, requireLength_eq_ok, requireOptional_eq_ok, packQ,
    packUInt_eq_ok_iff, pure, Except.pure, Except.ok.injEq]
  constructor
  · rintro ⟨_, hp, _, hm, _, ⟨h0, h1, rfl⟩, rfl⟩
    exact ⟨hp, hm, ⟨h0, h1⟩, rfl⟩
  · rintro ⟨hp, hm, ⟨h0, h1⟩, rfl⟩
    exact ⟨(), hp, (), hm, _, ⟨h0, h1, rfl⟩, rfl⟩

/-! ## Blockhashes -/

/-- The payload of a `BLOCKHASH_RESP`. -/
def encodeBlockhashResp (blockhash : Bytes) : Except Exn Bytes := do
  requireLength 32 "Blockhash must be 32 bytes" blockhash
  return blockhash

structure BlockhashResp where
  blockhash : Bytes
  deriving DecidableEq

/-- The parser of `BLOCKHASH_RESP` payloads. -/
def decodeBlockhashResp (payload : Bytes) : Except Exn BlockhashResp :=
  if payload.length < 32 then .error (tooShort "BLOCKHASH_RESP too short" payload.length 32)
  else .ok ⟨Bytes.slice payload 0 32⟩

/-- What `encodeBlockhashResp` accepts. -/
lemma encodeBlockhashResp_eq_ok_iff {blockhash payload : Bytes} :
    encodeBlockhashResp blockhash = .ok payload ↔
      blockhash.length = 32 ∧ payload = blockhash := by
  simp only [encodeBlockhashResp, bind_eq_ok, requireLength_eq_ok, pure, Except.pure,
    Except.ok.injEq]
  constructor
  · rintro ⟨_, hb, rfl⟩
    exact ⟨hb, rfl⟩
  · rintro ⟨hb, rfl⟩
    exact ⟨(), hb, rfl⟩

/-! ## Gateway beacons -/

/-- The payload of a `GATEWAY_BEACON`: version(1), capabilities(1), uptime(4) and public key
(0 or 32). The key is checked after the integers have been packed. -/
def encodeGatewayBeacon (version capabilities : ℤ) (hotWalletPubkey : Bytes)
    (uptimeSeconds : ℤ) : Except Exn Bytes := do
  let payload := (← packB version) ++ (← packB capabilities) ++ (← packI uptimeSeconds)
  requireOptional 32 "Hot wallet pubkey must be 32 bytes" hotWalletPubkey
  return payload ++ hotWalletPubkey

structure GatewayBeacon where
  version : ℕ
  capabilities : ℕ
  uptimeSeconds : ℕ
  hotWalletPubkey : Bytes
  deriving DecidableEq

/-- The parser of `GATEWAY_BEACON` payloads. -/
def decodeGatewayBeacon (payload : Bytes) : Except Exn GatewayBeacon :=
  if payload.length < 6 then .error (tooShort "GATEWAY_BEACON too short" payload.length 6)
  else .ok ⟨Bytes.ofBE (Bytes.slice payload 0 1), Bytes.ofBE (Bytes.slice payload 1 2),
    Bytes.ofBE (Bytes.slice payload 2 6),
    if payload.length ≥ 38 then Bytes.slice payload 6 38 else []⟩

/-- What `encodeGatewayBeacon` accepts. -/
lemma encodeGatewayBeacon_eq_ok_iff {version capabilities uptimeSeconds : ℤ}
    {hotWalletPubkey payload : Bytes} :
    encodeGatewayBeacon version capabilities hotWalletPubkey uptimeSeconds = .ok payload ↔
      (0 ≤ version ∧ version < 256 ^ 1) ∧ (0 ≤ capabilities ∧ capabilities < 256 ^ 1) ∧
      (0 ≤ uptimeSeconds ∧ uptimeSeconds < 256 ^ 4) ∧
      (hotWalletPubkey = [] ∨ hotWalletPubkey.length = 32) ∧
      payload = Bytes.toBE 1 version.toNat ++ Bytes.toBE 1 capabilities.toNat ++
        Bytes.toBE 4 uptimeSeconds.toNat ++ hotWalletPubkey := by
  simp only [encodeGatewayBeacon, bind_eq_ok, packB, packI, packUInt_eq_ok_iff,
    requireOptional_eq_ok, pure, Except.pure, Except.ok.injEq]
  constructor
  · rintro ⟨_, ⟨hv, hv', rfl⟩, _, ⟨hc, hc', rfl⟩, _, ⟨hu, hu', rfl⟩, _, hp, rfl⟩
    exact ⟨⟨hv, hv'⟩, ⟨hc, hc'⟩, ⟨hu, hu'⟩, hp, rfl⟩
  · rintro ⟨⟨hv, hv'⟩, ⟨hc, hc'⟩, ⟨hu, hu'⟩, hp, rfl⟩
    exact ⟨_, ⟨hv, hv', rfl⟩, _, ⟨hc, hc', rfl⟩, _, ⟨hu, hu', rfl⟩, (), hp, rfl⟩

/-! ## Transaction results -/

/-- The payload of a `TX_RESULT`: message id(2), success(1) and signature or error. -/
def encodeTxResult (origMsgId : ℤ) (success : Bool) (data : Bytes) : Except Exn Bytes := do
  return (← packH origMsgId) ++ (← packB (if success then 1 else 0)) ++ data

structure TxResult where
  origMsgId : ℕ
  success : Bool
  data : Bytes
  deriving DecidableEq

/-- What `encodeTxResult` accepts. -/
lemma encodeTxResult_eq_ok_iff {msgId : ℤ} {success : Bool} {data payload : Bytes} :
    encodeTxResult msgId success data = .ok payload ↔ (0 ≤ msgId ∧ msgId < 256 ^ 2) ∧
      payload = Bytes.toBE 2 msgId.toNat ++ Bytes.toBE 1 success.toNat ++ data := by
  have hbyte : packB (if success then 1 else 0) = .ok (Bytes.toBE 1 success.toNat) := by
    cases success <;> rfl
  simp only [encodeTxResult, bind_eq_ok, packH, hbyte, packUInt_eq_ok_iff, pure, Except.pure,
    Except.ok.injEq]
  constructor
  · rintro ⟨_, ⟨hi, hi', rfl⟩, _, rfl, rfl⟩
    exact ⟨⟨hi, hi'⟩, rfl⟩
  · rintro ⟨⟨hi, hi'⟩, rfl⟩
    exact ⟨_, ⟨hi, hi', rfl⟩, _, rfl, rfl⟩

/-- The parser of `TX_RESULT` payloads. -/
def decodeTxResult (payload : Bytes) : Except Exn TxResult :=
  if payload.length < 3 then .error (tooShort "TX_RESULT too short" payload.length 3)
  else .ok ⟨Bytes.ofBE (Bytes.slice payload 0 2), Bytes.ofBE (Bytes.slice payload 2 3) = 1,
    payload.drop 3⟩

end SolMesh
