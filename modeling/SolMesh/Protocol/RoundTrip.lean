import SolMesh.Protocol.Payload

set_option relaxedAutoImplicit false
set_option autoImplicit false

/-!
# Decoding undoes encoding

For every payload format, whatever the encoder accepts the decoder reads back. The fields of fixed
width stand at fixed offsets, so each of them is a slice behind a prefix of known length; what is
left is that the presence of an optional field is read off the same condition under which it was
written.

## Main results

* `SolMesh.decodeTxRequest_encodeTxRequest` and its companions — one round trip for each format.
* `SolMesh.decode_encode_payloads` — all of them.
-/

namespace SolMesh

open Py Text

/-! ## Transfer requests -/

section TxRequest

variable {sender dest signature mint : Bytes} {amount : ℕ} {memo : Text}

/-- The fields of fixed width of an encoded request are read back, whatever was made of the
optional fields. -/
lemma read_txRequestBytes (hs : signature.length = 64) (hf : sender.length = 32)
    (hd : dest.length = 32) (ha : amount < 256 ^ 8) {offset : ℕ}
    (hmemo : decodeTail (txRequestBytes sender dest amount signature memo mint) offset = .ok memo)
    (flags : UInt8) (mint' : Bytes) :
    TxRequest.read (txRequestBytes sender dest amount signature memo mint) flags mint' offset =
      .ok ⟨signature, sender, dest, amount, amount, flags, mint', memo⟩ := by
  have hn := Bytes.length_toBE 8 amount
  rw [TxRequest.read, hmemo, ok_bind]
  simp (disch := omega) only [txRequestBytes, Bytes.slice_append_right _ _ hs,
    Bytes.slice_append_right _ _ hf, Bytes.slice_append_right _ _ hd,
    Bytes.slice_append_self _ hs, Bytes.slice_append_self _ hf, Bytes.slice_append_self _ hd,
    Bytes.slice_append_self _ hn, Nat.reduceSub, Bytes.ofBE_toBE ha, pure, Except.pure]

/-- **The decoder on an encoded request**: flags, mint and memo are told apart.

**Proof sketch.** The fields in front of the flags have fixed widths, so the decoder finds the flag
byte, and a mint exactly if there is one (`flagsOf_bit`). In both cases it takes what is behind the
mint for the memo, which is read back (`decodeTail_append`), and the other fields as well
(`read_txRequestBytes`). -/
lemma decodeTxRequest_txRequestBytes (hs : signature.length = 64) (hf : sender.length = 32)
    (hd : dest.length = 32) (ha : amount < 256 ^ 8) (hm : mint = [] ∨ mint.length = 32)
    (he : IsEncodable memo) :
    decodeTxRequest (txRequestBytes sender dest amount signature memo mint) =
      .ok ⟨signature, sender, dest, amount, amount, flagsOf mint, mint, memo⟩ := by
  have hn := Bytes.length_toBE 8 amount
  have hlen : (txRequestBytes sender dest amount signature memo mint).length =
      137 + mint.length + (utf8 memo).length := by
    simp only [txRequestBytes, List.length_append, hs, hf, hd, hn, List.length_singleton]
    omega
  have hflags : (txRequestBytes sender dest amount signature memo mint).getD 136 0 =
      flagsOf mint := by
    simp (disch := omega) only [txRequestBytes, Bytes.getD_append_right _ _ hs,
      Bytes.getD_append_right _ _ hf, Bytes.getD_append_right _ _ hd,
      Bytes.getD_append_right _ _ hn, Nat.reduceSub, List.cons_append, List.getD_cons_zero]
  -- everything in front of the memo
  have hpre : txRequestBytes sender dest amount signature memo mint =
      (signature ++ sender ++ dest ++ Bytes.toBE 8 amount ++ [flagsOf mint] ++ mint) ++
        utf8 memo := by simp [txRequestBytes]
  have hprelen : (signature ++ sender ++ dest ++ Bytes.toBE 8 amount ++ [flagsOf mint] ++
      mint).length = 137 + mint.length := by
    simp only [List.length_append, hs, hf, hd, hn, List.length_singleton]
  have hmemo : decodeTail (txRequestBytes sender dest amount signature memo mint)
      (137 + mint.length) = .ok memo := by
    rw [hpre]
    exact decodeTail_append he hprelen
  rw [decodeTxRequest, if_neg (by omega), if_pos (by omega)]
  dsimp only
  rw [hflags]
  rcases hm with rfl | hm
  · rw [if_neg (by rw [flagsOf_bit]; exact not_not.mpr rfl)]
    exact read_txRequestBytes hs hf hd ha hmemo _ _
  · have hne : mint ≠ [] := by
      rintro rfl
      cases hm
    have hmint : Bytes.slice (txRequestBytes sender dest amount signature memo mint) 137 169 =
        mint := by
      simp (disch := first | omega | rfl) only [txRequestBytes, Bytes.slice_append_right _ _ hs,
        Bytes.slice_append_right _ _ hf, Bytes.slice_append_right _ _ hd,
        Bytes.slice_append_right _ _ hn, Bytes.slice_append_right _ _ List.length_singleton,
        Nat.reduceSub, Bytes.slice_append_self _ hm]
    rw [if_pos ((flagsOf_bit mint).mpr hne), if_neg (by omega), hmint]
    rw [hm] at hmemo
    exact read_txRequestBytes hs hf hd ha hmemo _ _

end TxRequest

/-- What `encodeTxRequest` writes, `decodeTxRequest` reads. -/
lemma decodeTxRequest_encodeTxRequest {sender dest signature mint payload : Bytes} {amount : ℤ}
    {memo : Text} (h : encodeTxRequest sender dest amount signature memo mint = .ok payload) :
    ∃ n : ℕ, amount = n ∧ decodeTxRequest payload =
      .ok ⟨signature, sender, dest, n, n, flagsOf mint, mint, memo⟩ := by
  obtain ⟨hs, hf, hd, hm, ⟨h0, h1⟩, he, rfl⟩ := encodeTxRequest_eq_ok_iff.mp h
  exact ⟨amount.toNat, by omega, decodeTxRequest_txRequestBytes hs hf hd (by omega) hm he⟩

/-! ## The other formats -/

/-- What `encodeAddrShare` writes, `decodeAddrShare` reads. -/
lemma decodeAddrShare_encodeAddrShare {pubkey payload : Bytes} {label : Text}
    (h : encodeAddrShare pubkey label = .ok payload) :
    decodeAddrShare payload = .ok ⟨pubkey, label⟩ := by
  obtain ⟨hp, he, rfl⟩ := encodeAddrShare_eq_ok_iff.mp h
  rw [decodeAddrShare, if_neg (by rw [List.length_append]; omega), decodeTail_append he hp,
    Bytes.slice_append_self _ hp]
  rfl

/-- What `encodeAck` writes, `decodeAck` reads. -/
lemma decodeAck_encodeAck {msgId chunk status : ℤ} {payload : Bytes}
    (h : encodeAck msgId chunk status = .ok payload) :
    ∃ i c s : ℕ, msgId = i ∧ chunk = c ∧ status = s ∧ decodeAck payload = .ok ⟨i, c, s⟩ := by
  simp only [encodeAck, bind_eq_ok, pure, Except.pure, Except.ok.injEq] at h
  obtain ⟨bi, hi, bc, hc, bs, hs, rfl⟩ := h
  obtain ⟨i, rfl, hilt, rfl⟩ := exists_of_packUInt hi
  obtain ⟨c, rfl, hclt, rfl⟩ := exists_of_packUInt hc
  obtain ⟨s, rfl, hslt, rfl⟩ := exists_of_packUInt hs
  have hci := Bytes.length_toBE 2 i
  have hcc := Bytes.length_toBE 1 c
  have hcs := Bytes.length_toBE 1 s
  refine ⟨i, c, s, rfl, rfl, rfl, ?_⟩
  have hlast : Bytes.slice (Bytes.toBE 1 s) 0 1 = Bytes.toBE 1 s := rfl
  rw [decodeAck, if_neg (by simp)]
  simp (disch := omega) only [List.append_assoc, Bytes.slice_append_self _ hci,
    Bytes.slice_append_right _ _ hci, Bytes.slice_append_self _ hcc,
    Bytes.slice_append_right _ _ hcc, Nat.reduceSub, hlast, Bytes.ofBE_toBE hilt,
    Bytes.ofBE_toBE hclt, Bytes.ofBE_toBE hslt]

/-- What `encodeNack` writes, `decodeNack` reads. -/
lemma decodeNack_encodeNack {msgId code : ℤ} {text : Text} {payload : Bytes}
    (h : encodeNack msgId code text = .ok payload) :
    ∃ i c : ℕ, msgId = i ∧ code = c ∧ decodeNack payload = .ok ⟨i, c, text⟩ := by
  simp only [encodeNack, bind_eq_ok, encodeTail_eq_ok_iff, pure, Except.pure,
    Except.ok.injEq] at h
  obtain ⟨bi, hi, bc, hc, _, ⟨he, rfl⟩, rfl⟩ := h
  obtain ⟨i, rfl, hilt, rfl⟩ := exists_of_packUInt hi
  obtain ⟨c, rfl, hclt, rfl⟩ := exists_of_packUInt hc
  have hci := Bytes.length_toBE 2 i
  have hcc := Bytes.length_toBE 1 c
  refine ⟨i, c, rfl, rfl, ?_⟩
  rw [decodeNack, if_neg (by simp; omega), decodeTail_append he (by simp), ok_bind]
  simp (disch := omega) only [List.append_assoc, Bytes.slice_append_self _ hci,
    Bytes.slice_append_right _ _ hci, Bytes.slice_append_self _ hcc, Nat.reduceSub,
    Bytes.ofBE_toBE hilt, Bytes.ofBE_toBE hclt, pure, Except.pure]

/-- What `encodeBalanceReq` writes, `decodeBalanceReq` reads. -/
lemma decodeBalanceReq_encodeBalanceReq {pubkey mint payload : Bytes}
    (h : encodeBalanceReq pubkey mint = .ok payload) :
    decodeBalanceReq payload = .ok ⟨pubkey, mint⟩ := by
  simp only [encodeBalanceReq, bind_eq_ok, requireLength_eq_ok, requireOptional_eq_ok, pure,
    Except.pure, Except.ok.injEq] at h
  obtain ⟨_, hp, _, hm, rfl⟩ := h
  rw [decodeBalanceReq, if_neg (by rw [List.length_append]; omega),
    Bytes.slice_append_self _ hp]
  rcases hm with rfl | hm
  · rw [if_neg (by simp [hp])]
  · have hmint : Bytes.slice (pubkey ++ mint) 32 64 = mint := by
      rw [Bytes.slice_append_right _ _ hp le_rfl]
      simpa using Bytes.slice_append_self [] hm
    rw [if_pos (by rw [List.length_append]; omega), hmint]

/-- What `encodeBalanceResp` writes, `decodeBalanceResp` reads.

**Proof sketch.** The key and the amount have fixed widths, so the decoder cuts the payload where
the encoder put it together, and finds a mint exactly if one was written. -/
lemma decodeBalanceResp_encodeBalanceResp {pubkey mint payload : Bytes} {amount : ℤ}
    (h : encodeBalanceResp pubkey amount mint = .ok payload) :
    ∃ n : ℕ, amount = n ∧ decodeBalanceResp payload = .ok ⟨pubkey, n, n, mint⟩ := by
  simp only [encodeBalanceResp, bind_eq_ok, requireLength_eq_ok, requireOptional_eq_ok, pure,
    Except.pure, Except.ok.injEq] at h
  obtain ⟨_, hp, _, hm, ba, ha, rfl⟩ := h
  obtain ⟨n, rfl, hlt, rfl⟩ := exists_of_packUInt ha
  have hn := Bytes.length_toBE 8 n
  refine ⟨n, rfl, ?_⟩
  have hamount : Bytes.slice (pubkey ++ (Bytes.toBE 8 n ++ mint)) 32 40 = Bytes.toBE 8 n := by
    rw [Bytes.slice_append_right _ _ hp le_rfl, Bytes.slice_append_self _ hn]
  rw [decodeBalanceResp, if_neg (by simp only [List.length_append]; omega), List.append_assoc,
    Bytes.slice_append_self _ hp, hamount, Bytes.ofBE_toBE hlt]
  rcases hm with rfl | hm
  · rw [if_neg (by simp [hp])]
  · have hmint : Bytes.slice (pubkey ++ (Bytes.toBE 8 n ++ mint)) 40 72 = mint := by
      rw [Bytes.slice_append_right _ _ hp (by omega), Bytes.slice_append_right _ _ hn le_rfl]
      simpa using Bytes.slice_append_self [] hm
    rw [if_pos (by simp only [List.length_append]; omega), hmint]

/-- What `encodeBlockhashResp` writes, `decodeBlockhashResp` reads. -/
lemma decodeBlockhashResp_encodeBlockhashResp {blockhash payload : Bytes}
    (h : encodeBlockhashResp blockhash = .ok payload) :
    decodeBlockhashResp payload = .ok ⟨blockhash⟩ := by
  simp only [encodeBlockhashResp, bind_eq_ok, requireLength_eq_ok, pure, Except.pure,
    Except.ok.injEq] at h
  obtain ⟨_, hb, rfl⟩ := h
  have hslice : Bytes.slice blockhash 0 32 = blockhash := by
    simpa using Bytes.slice_append_self [] hb
  rw [decodeBlockhashResp, if_neg (by omega), hslice]

/-- What `encodeGatewayBeacon` writes, `decodeGatewayBeacon` reads.

**Proof sketch.** The encoder accepts numbers that fit their widths only (`exists_of_packUInt`). The
decoder cuts the payload at the same places, and takes the rest for a key if it has 32 bytes. -/
lemma decodeGatewayBeacon_encodeGatewayBeacon {version caps uptime : ℤ} {pubkey payload : Bytes}
    (h : encodeGatewayBeacon version caps pubkey uptime = .ok payload) :
    ∃ v c u : ℕ, version = v ∧ caps = c ∧ uptime = u ∧
      decodeGatewayBeacon payload = .ok ⟨v, c, u, pubkey⟩ := by
  simp only [encodeGatewayBeacon, bind_eq_ok, requireOptional_eq_ok, pure, Except.pure,
    Except.ok.injEq] at h
  obtain ⟨bv, hv, bc, hc, bu, hu, _, hp, rfl⟩ := h
  obtain ⟨v, rfl, hvlt, rfl⟩ := exists_of_packUInt hv
  obtain ⟨c, rfl, hclt, rfl⟩ := exists_of_packUInt hc
  obtain ⟨u, rfl, hult, rfl⟩ := exists_of_packUInt hu
  have hcv := Bytes.length_toBE 1 v
  have hcc := Bytes.length_toBE 1 c
  have hcu := Bytes.length_toBE 4 u
  refine ⟨v, c, u, rfl, rfl, rfl, ?_⟩
  rw [decodeGatewayBeacon, if_neg (by simp only [List.length_append]; omega)]
  simp (disch := omega) only [List.append_assoc, Bytes.slice_append_self _ hcv,
    Bytes.slice_append_right _ _ hcv, Bytes.slice_append_self _ hcc,
    Bytes.slice_append_right _ _ hcc, Bytes.slice_append_self _ hcu,
    Bytes.slice_append_right _ _ hcu, Nat.reduceSub, Bytes.ofBE_toBE hvlt, Bytes.ofBE_toBE hclt,
    Bytes.ofBE_toBE hult]
  rcases hp with rfl | hp
  · rw [if_neg (by simp)]
  · have hkey : Bytes.slice pubkey 0 32 = pubkey := by
      simpa using Bytes.slice_append_self [] hp
    rw [if_pos (by simp only [List.length_append]; omega), hkey]

/-- What `encodeTxResult` writes, `decodeTxResult` reads. -/
lemma decodeTxResult_encodeTxResult {msgId : ℤ} {success : Bool} {data payload : Bytes}
    (h : encodeTxResult msgId success data = .ok payload) :
    ∃ i : ℕ, msgId = i ∧ decodeTxResult payload = .ok ⟨i, success, data⟩ := by
  have hbyte : packB (if success then 1 else 0) = .ok (Bytes.toBE 1 success.toNat) := by
    cases success <;> rfl
  have hread : (decide (Bytes.ofBE (Bytes.toBE 1 success.toNat) = 1)) = success := by
    cases success <;> decide
  simp only [encodeTxResult, bind_eq_ok, hbyte, pure, Except.pure, Except.ok.injEq] at h
  obtain ⟨bi, hi, _, rfl, rfl⟩ := h
  obtain ⟨i, rfl, hilt, rfl⟩ := exists_of_packUInt hi
  have hci := Bytes.length_toBE 2 i
  have hcs := Bytes.length_toBE 1 success.toNat
  refine ⟨i, rfl, ?_⟩
  rw [decodeTxResult, if_neg (by simp only [List.length_append]; omega), List.append_assoc,
    Bytes.slice_append_self _ hci, Bytes.slice_append_right _ _ hci le_rfl,
    Bytes.slice_append_self _ hcs, Bytes.drop_append_right _ hci (by omega),
    Bytes.drop_append_right _ hcs le_rfl, Bytes.ofBE_toBE hilt, hread]
  rfl

/-- **Decoding undoes encoding for every payload format.** Each encoder accepts exactly keys and
signatures of their lengths, optional fields that are empty or of theirs, integers that fit their
fields and texts that UTF-8 can encode; and on whatever it accepts, the decoder returns the encoded
fields. Bit 0 of the flags of a request says whether a mint was given.

**Proof sketch.** What an encoder accepts is read off its `eq_ok_iff` lemma, and there is one round
trip for each format. -/
theorem decode_encode_payloads :
    (∀ sender dest amount signature memo mint,
      ((∃ payload, encodeTxRequest sender dest amount signature memo mint = .ok payload) ↔
        signature.length = 64 ∧ sender.length = 32 ∧ dest.length = 32 ∧
        (mint = [] ∨ mint.length = 32) ∧ (0 ≤ amount ∧ amount < 256 ^ 8) ∧ IsEncodable memo) ∧
      ∀ payload, encodeTxRequest sender dest amount signature memo mint = .ok payload →
        ∃ r, decodeTxRequest payload = .ok r ∧ r.signature = signature ∧ r.senderPubkey = sender ∧
          r.destPubkey = dest ∧ (r.amount : ℤ) = amount ∧ (r.lamports : ℤ) = amount ∧
          (r.flags &&& 0x01 ≠ 0 ↔ mint ≠ []) ∧ r.mint = mint ∧ r.memo = memo) ∧
    (∀ pubkey label,
      ((∃ payload, encodeAddrShare pubkey label = .ok payload) ↔
        pubkey.length = 32 ∧ IsEncodable label) ∧
      ∀ payload, encodeAddrShare pubkey label = .ok payload →
        decodeAddrShare payload = .ok ⟨pubkey, label⟩) ∧
    (∀ msgId chunk status,
      ((∃ payload, encodeAck msgId chunk status = .ok payload) ↔
        (0 ≤ msgId ∧ msgId < 256 ^ 2) ∧ (0 ≤ chunk ∧ chunk < 256 ^ 1) ∧
        0 ≤ status ∧ status < 256 ^ 1) ∧
      ∀ payload, encodeAck msgId chunk status = .ok payload →
        ∃ i c s : ℕ, msgId = i ∧ chunk = c ∧ status = s ∧ decodeAck payload = .ok ⟨i, c, s⟩) ∧
    (∀ msgId code text,
      ((∃ payload, encodeNack msgId code text = .ok payload) ↔
        (0 ≤ msgId ∧ msgId < 256 ^ 2) ∧ (0 ≤ code ∧ code < 256 ^ 1) ∧ IsEncodable text) ∧
      ∀ payload, encodeNack msgId code text = .ok payload →
        ∃ i c : ℕ, msgId = i ∧ code = c ∧ decodeNack payload = .ok ⟨i, c, text⟩) ∧
    (∀ pubkey mint,
      ((∃ payload, encodeBalanceReq pubkey mint = .ok payload) ↔
        pubkey.length = 32 ∧ (mint = [] ∨ mint.length = 32)) ∧
      ∀ payload, encodeBalanceReq pubkey mint = .ok payload →
        decodeBalanceReq payload = .ok ⟨pubkey, mint⟩) ∧
    (∀ pubkey amount mint,
      ((∃ payload, encodeBalanceResp pubkey amount mint = .ok payload) ↔
        pubkey.length = 32 ∧ (mint = [] ∨ mint.length = 32) ∧ 0 ≤ amount ∧ amount < 256 ^ 8) ∧
      ∀ payload, encodeBalanceResp pubkey amount mint = .ok payload →
        ∃ n : ℕ, amount = n ∧ decodeBalanceResp payload = .ok ⟨pubkey, n, n, mint⟩) ∧
    (∀ blockhash,
      ((∃ payload, encodeBlockhashResp blockhash = .ok payload) ↔ blockhash.length = 32) ∧
      ∀ payload, encodeBlockhashResp blockhash = .ok payload →
        decodeBlockhashResp payload = .ok ⟨blockhash⟩) ∧
    (∀ version caps pubkey uptime,
      ((∃ payload, encodeGatewayBeacon version caps pubkey uptime = .ok payload) ↔
        (0 ≤ version ∧ version < 256 ^ 1) ∧ (0 ≤ caps ∧ caps < 256 ^ 1) ∧
        (0 ≤ uptime ∧ uptime < 256 ^ 4) ∧ (pubkey = [] ∨ pubkey.length = 32)) ∧
      ∀ payload, encodeGatewayBeacon version caps pubkey uptime = .ok payload →
        ∃ v c u : ℕ, version = v ∧ caps = c ∧ uptime = u ∧
          decodeGatewayBeacon payload = .ok ⟨v, c, u, pubkey⟩) ∧
    ∀ msgId success data,
      ((∃ payload, encodeTxResult msgId success data = .ok payload) ↔
        0 ≤ msgId ∧ msgId < 256 ^ 2) ∧
      ∀ payload, encodeTxResult msgId success data = .ok payload →
        ∃ i : ℕ, msgId = i ∧ decodeTxResult payload = .ok ⟨i, success, data⟩ := by
  refine ⟨?_, fun pubkey label => ⟨?_, fun _ => decodeAddrShare_encodeAddrShare⟩,
    fun msgId chunk status => ⟨?_, fun _ => decodeAck_encodeAck⟩,
    fun msgId code text => ⟨?_, fun _ => decodeNack_encodeNack⟩,
    fun pubkey mint => ⟨?_, fun _ => decodeBalanceReq_encodeBalanceReq⟩,
    fun pubkey amount mint => ⟨?_, fun _ => decodeBalanceResp_encodeBalanceResp⟩,
    fun blockhash => ⟨?_, fun _ => decodeBlockhashResp_encodeBlockhashResp⟩,
    fun version caps pubkey uptime => ⟨?_, fun _ => decodeGatewayBeacon_encodeGatewayBeacon⟩,
    fun msgId success data => ⟨?_, fun _ => decodeTxResult_encodeTxResult⟩⟩
  · intro sender dest amount signature memo mint
    refine ⟨?_, fun payload h => ?_⟩
    · simp only [encodeTxRequest_eq_ok_iff, exists_and_left, exists_eq, and_true]
    · obtain ⟨n, rfl, hdec⟩ := decodeTxRequest_encodeTxRequest h
      exact ⟨_, hdec, rfl, rfl, rfl, rfl, rfl, flagsOf_bit mint, rfl, rfl⟩
  · simp only [encodeAddrShare_eq_ok_iff, exists_and_left, exists_eq, and_true]
  · simp only [encodeAck_eq_ok_iff, exists_and_left, exists_eq, and_true]
  · simp only [encodeNack_eq_ok_iff, exists_and_left, exists_eq, and_true]
  · simp only [encodeBalanceReq_eq_ok_iff, exists_and_left, exists_eq, and_true]
  · simp only [encodeBalanceResp_eq_ok_iff, exists_and_left, exists_eq, and_true]
  · simp only [encodeBlockhashResp_eq_ok_iff, exists_and_left, exists_eq, and_true]
  · simp only [encodeGatewayBeacon_eq_ok_iff, exists_and_left, exists_eq, and_true]
  · simp only [encodeTxResult_eq_ok_iff, exists_and_left, exists_eq, and_true]

/-- A payload of each format comes back as it was, the request with a mint and a memo. -/
theorem decode_encode_payloads_one_each :
    (∃ payload r, encodeTxRequest (List.replicate 32 1) (List.replicate 32 2) 5
        (List.replicate 64 3) (ofString "hi") (List.replicate 32 4) = .ok payload ∧
      decodeTxRequest payload = .ok r ∧ r.mint = List.replicate 32 4 ∧ r.memo = ofString "hi") ∧
    (∃ payload, encodeAddrShare (List.replicate 32 1) (ofString "é") = .ok payload ∧
      decodeAddrShare payload = .ok ⟨List.replicate 32 1, ofString "é"⟩) ∧
    (∃ payload, encodeAck 65535 3 0 = .ok payload ∧ decodeAck payload = .ok ⟨65535, 3, 0⟩) ∧
    (∃ payload, encodeNack 7 8 (ofString "no") = .ok payload ∧
      decodeNack payload = .ok ⟨7, 8, ofString "no"⟩) ∧
    (∃ payload, encodeBalanceReq (List.replicate 32 1) (List.replicate 32 4) = .ok payload ∧
      decodeBalanceReq payload = .ok ⟨List.replicate 32 1, List.replicate 32 4⟩) ∧
    (∃ payload, encodeBalanceResp (List.replicate 32 1) 9 [] = .ok payload ∧
      decodeBalanceResp payload = .ok ⟨List.replicate 32 1, 9, 9, []⟩) ∧
    (∃ payload, encodeBlockhashResp (List.replicate 32 6) = .ok payload ∧
      decodeBlockhashResp payload = .ok ⟨List.replicate 32 6⟩) ∧
    (∃ payload, encodeGatewayBeacon 1 29 (List.replicate 32 1) 60 = .ok payload ∧
      decodeGatewayBeacon payload = .ok ⟨1, 29, 60, List.replicate 32 1⟩) ∧
    ∃ payload, encodeTxResult 7 true [1, 2] = .ok payload ∧
      decodeTxResult payload = .ok ⟨7, true, [1, 2]⟩ := by
  obtain ⟨hreq, hshare, hack, hnack, hbalance, hresp, hhash, hbeacon, hresult⟩ :=
    decode_encode_payloads
  refine ⟨?_, ?_, ?_, ?_, ?_, ?_, ?_, ?_, ?_⟩
  · obtain ⟨payload, h⟩ := (hreq (List.replicate 32 1) (List.replicate 32 2) 5
      (List.replicate 64 3) (ofString "hi") (List.replicate 32 4)).1.mpr
      ⟨rfl, rfl, rfl, Or.inr rfl, by decide, encodable_ofString _⟩
    obtain ⟨r, hr, _, _, _, _, _, _, hmint, hmemo⟩ := (hreq _ _ _ _ _ _).2 payload h
    exact ⟨payload, r, h, hr, hmint, hmemo⟩
  · obtain ⟨payload, h⟩ := (hshare (List.replicate 32 1) (ofString "é")).1.mpr
      ⟨rfl, encodable_ofString _⟩
    exact ⟨payload, h, (hshare _ _).2 payload h⟩
  · obtain ⟨payload, h⟩ := (hack 65535 3 0).1.mpr (by decide)
    obtain ⟨i, c, s, hi, hc, hs, hdecode⟩ := (hack _ _ _).2 payload h
    obtain ⟨rfl, rfl, rfl⟩ : i = 65535 ∧ c = 3 ∧ s = 0 := by omega
    exact ⟨payload, h, hdecode⟩
  · obtain ⟨payload, h⟩ := (hnack 7 8 (ofString "no")).1.mpr
      ⟨by decide, by decide, encodable_ofString _⟩
    obtain ⟨i, c, hi, hc, hdecode⟩ := (hnack _ _ _).2 payload h
    obtain ⟨rfl, rfl⟩ : i = 7 ∧ c = 8 := by omega
    exact ⟨payload, h, hdecode⟩
  · obtain ⟨payload, h⟩ := (hbalance (List.replicate 32 1) (List.replicate 32 4)).1.mpr
      ⟨rfl, Or.inr rfl⟩
    exact ⟨payload, h, (hbalance _ _).2 payload h⟩
  · obtain ⟨payload, h⟩ := (hresp (List.replicate 32 1) 9 []).1.mpr ⟨rfl, Or.inl rfl, by decide⟩
    obtain ⟨n, hn, hdecode⟩ := (hresp _ _ _).2 payload h
    obtain rfl : n = 9 := by omega
    exact ⟨payload, h, hdecode⟩
  · obtain ⟨payload, h⟩ := (hhash (List.replicate 32 6)).1.mpr rfl
    exact ⟨payload, h, (hhash _).2 payload h⟩
  · obtain ⟨payload, h⟩ := (hbeacon 1 29 (List.replicate 32 1) 60).1.mpr
      ⟨by decide, by decide, by decide, Or.inr rfl⟩
    obtain ⟨v, c, u, hv, hc, hu, hdecode⟩ := (hbeacon _ _ _ _).2 payload h
    obtain ⟨rfl, rfl, rfl⟩ : v = 1 ∧ c = 29 ∧ u = 60 := by omega
    exact ⟨payload, h, hdecode⟩
  · obtain ⟨payload, h⟩ := (hresult 7 true [1, 2]).1.mpr (by decide)
    obtain ⟨i, hi, hdecode⟩ := (hresult _ _ _).2 payload h
    obtain rfl : i = 7 := by omega
    exact ⟨payload, h, hdecode⟩

end SolMesh
