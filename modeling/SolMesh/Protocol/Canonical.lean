import SolMesh.Protocol.RoundTrip

set_option relaxedAutoImplicit false
set_option autoImplicit false

/-!
# Encoding undoes decoding

A decoder takes more payloads than its encoder writes: it does not look at bytes behind the last
field, nor at the flag bits that it does not know. Everything else it reads, so what it returns is
encoded to the payload again, up to these bytes. This holds for the texts, too, since there is only
one UTF-8 form of each.

## Main results

* `SolMesh.encodeTxRequest_decodeTxRequest` and its companions — one round trip for each format.
* `SolMesh.encode_decode_payloads` — all of them.
-/

namespace SolMesh

open Py Text

/-! ## Fields -/

section Fields

variable {payload : Bytes} {offset : ℕ} {text : Text}

/-- A trailing text is the rest of the payload. -/
lemma encodeTail_of_decodeTail (h : decodeTail payload offset = .ok text) :
    IsEncodable text ∧ utf8 text = payload.drop offset := by
  unfold decodeTail at h
  split_ifs at h with hlen
  · unfold decodeUtf8 at h
    cases hdecode : decode (payload.drop offset) with
    | error e => rw [hdecode] at h; cases h
    | ok text' =>
      rw [hdecode] at h
      obtain rfl := Except.ok.inj h
      obtain ⟨hencodable, hrest⟩ := encode_eq_ok_iff.mp (encode_decode hdecode)
      exact ⟨hencodable, hrest.symm⟩
  · cases h
    rw [List.drop_eq_nil_of_le (by omega)]
    exact ⟨by simp [IsEncodable], rfl⟩

/-- A number that was read from a slice is written as this slice. -/
lemma toBE_ofBE_slice {i j w : ℕ} (hj : j ≤ payload.length) (hw : j - i = w) :
    Bytes.toBE w (Bytes.ofBE (Bytes.slice payload i j)) = Bytes.slice payload i j := by
  have hlen := Bytes.length_slice (i := i) hj
  rw [← hw, ← hlen]
  exact Bytes.toBE_ofBE _

/-- And it fits its field. -/
lemma ofBE_slice_lt {i j w : ℕ} (hj : j ≤ payload.length) (hw : j - i = w) :
    ((Bytes.ofBE (Bytes.slice payload i j) : ℕ) : ℤ) < 256 ^ w := by
  have hlt := Bytes.ofBE_lt (Bytes.slice payload i j)
  rw [Bytes.length_slice hj, hw] at hlt
  exact_mod_cast hlt

/-- So it is packed to this slice. -/
lemma packUInt_ofBE_slice {i j w : ℕ} (hj : j ≤ payload.length) (hw : j - i = w) (r : ℤ → Text) :
    packUInt w r (Bytes.ofBE (Bytes.slice payload i j)) = .ok (Bytes.slice payload i j) := by
  refine packUInt_eq_ok_iff.mpr ⟨Int.natCast_nonneg _, ofBE_slice_lt hj hw, ?_⟩
  rw [Int.toNat_natCast, toBE_ofBE_slice hj hw]

/-- A slice and the rest behind it. -/
lemma slice_append_drop {i j : ℕ} (h : i ≤ j) :
    Bytes.slice payload i j ++ payload.drop j = payload.drop i := by
  have hdrop : payload.drop j = (payload.drop i).drop (j - i) := by
    rw [List.drop_drop]
    congr 1
    omega
  rw [Bytes.slice, hdrop, List.take_append_drop]

/-- A key at the end, if there is room for one, and what is in front of it. -/
lemma optionalKey (payload : Bytes) (i : ℕ) :
    let key := if payload.length ≥ i + 32 then Bytes.slice payload i (i + 32) else []
    (key = [] ∨ key.length = 32) ∧ Bytes.slice payload 0 i ++ key =
      payload.take (if i + 32 ≤ payload.length then i + 32 else i) := by
  dsimp only
  split_ifs with hlong
  · refine ⟨Or.inr ?_, Bytes.slice_append_slice payload (Nat.zero_le i) (by omega)⟩
    rw [Bytes.length_slice hlong]
    omega
  · exact ⟨Or.inl rfl, List.append_nil _⟩

end Fields

/-! ## Transfer requests -/

/-- The encoder writes the fields of a request that was read: the bytes in front of the flags, the
flags that say whether there is a mint, and the rest. -/
lemma encodeTxRequest_of_read {payload mint : Bytes} {flags : UInt8} {offset : ℕ}
    {req : TxRequest} (h : TxRequest.read payload flags mint offset = .ok req)
    (hlen : 136 ≤ payload.length) (hmint : mint = [] ∨ mint.length = 32)
    (hrest : mint ++ payload.drop offset = payload.drop 137) :
    encodeTxRequest req.senderPubkey req.destPubkey req.amount req.signature req.memo req.mint =
      .ok (payload.take 136 ++ flagsOf req.mint :: payload.drop 137) := by
  simp only [TxRequest.read, bind_eq_ok, pure, Except.pure, Except.ok.injEq] at h
  obtain ⟨memo, hmemo, rfl⟩ := h
  obtain ⟨hencodable, hutf8⟩ := encodeTail_of_decodeTail hmemo
  refine encodeTxRequest_eq_ok_iff.mpr ⟨Bytes.length_slice (by omega),
    Bytes.length_slice (by omega), Bytes.length_slice (by omega), hmint,
    ⟨Int.natCast_nonneg _, ofBE_slice_lt hlen rfl⟩, hencodable, ?_⟩
  have hamount : Bytes.toBE 8 (Bytes.ofBE (Bytes.slice payload 128 136)) =
      Bytes.slice payload 128 136 := toBE_ofBE_slice hlen rfl
  have hfront : Bytes.slice payload 0 64 ++ (Bytes.slice payload 64 96 ++
      (Bytes.slice payload 96 128 ++ Bytes.slice payload 128 136)) = payload.take 136 := by
    simp (disch := omega) only [Bytes.slice_append_slice]
    rfl
  rw [txRequestBytes, Int.toNat_natCast, hamount, hutf8, hrest, ← hfront]
  simp only [List.append_assoc, List.cons_append, List.nil_append]

/-- **What `decodeTxRequest` reads, `encodeTxRequest` writes**, except for the flag bits. -/
lemma encodeTxRequest_decodeTxRequest {payload : Bytes} {req : TxRequest}
    (h : decodeTxRequest payload = .ok req) :
    encodeTxRequest req.senderPubkey req.destPubkey req.amount req.signature req.memo req.mint =
      .ok (payload.take 136 ++ flagsOf req.mint :: payload.drop 137) := by
  unfold decodeTxRequest at h
  dsimp only at h
  split_ifs at h with hshort hflags hbit hmint
  · exact encodeTxRequest_of_read h (by omega) (Or.inr (Bytes.length_slice (by omega)))
      (slice_append_drop (by omega))
  · exact encodeTxRequest_of_read h (by omega) (Or.inl rfl) rfl
  · refine encodeTxRequest_of_read h (by omega) (Or.inl rfl) ?_
    rw [List.drop_eq_nil_of_le (by omega), List.drop_eq_nil_of_le (by omega)]
    rfl

/-! ## The other formats -/

section Others

variable {payload : Bytes}

/-- What `decodeAddrShare` reads, `encodeAddrShare` writes. -/
lemma encodeAddrShare_decodeAddrShare {data : AddrShare} (h : decodeAddrShare payload = .ok data) :
    encodeAddrShare data.pubkey data.label = .ok payload := by
  unfold decodeAddrShare at h
  split_ifs at h with hshort
  obtain ⟨label, hlabel, h⟩ := bind_eq_ok.mp h
  cases h
  obtain ⟨hencodable, hutf8⟩ := encodeTail_of_decodeTail hlabel
  refine encodeAddrShare_eq_ok_iff.mpr ⟨Bytes.length_slice (by omega), hencodable, ?_⟩
  rw [hutf8]
  exact (slice_append_drop (Nat.zero_le 32)).symm

/-- What `decodeAck` reads, `encodeAck` writes. -/
lemma encodeAck_decodeAck {ack : Ack} (h : decodeAck payload = .ok ack) :
    encodeAck ack.ackedMsgId ack.ackedChunk ack.status = .ok (payload.take 4) := by
  unfold decodeAck at h
  split_ifs at h with hshort
  cases h
  unfold encodeAck packH packB
  simp (disch := omega) only [packUInt_ofBE_slice, ok_bind, pure, Except.pure,
    Bytes.slice_append_slice]
  rfl

/-- What `decodeNack` reads, `encodeNack` writes. -/
lemma encodeNack_decodeNack {nack : Nack} (h : decodeNack payload = .ok nack) :
    encodeNack nack.nackedMsgId nack.errorCode nack.errorMsg = .ok payload := by
  unfold decodeNack at h
  split_ifs at h with hshort
  obtain ⟨errorMsg, htext, h⟩ := bind_eq_ok.mp h
  cases h
  have htail := encodeTail_eq_ok_iff.mpr ((encodeTail_of_decodeTail htext).imp_right Eq.symm)
  unfold encodeNack packH packB
  simp (disch := omega) only [packUInt_ofBE_slice, ok_bind, pure, Except.pure, htail,
    Bytes.slice_append_slice, slice_append_drop, List.drop_zero]

/-- What `decodeBalanceReq` reads, `encodeBalanceReq` writes. -/
lemma encodeBalanceReq_decodeBalanceReq {req : BalanceReq}
    (h : decodeBalanceReq payload = .ok req) :
    encodeBalanceReq req.pubkey req.mint =
      .ok (payload.take (if 64 ≤ payload.length then 64 else 32)) := by
  unfold decodeBalanceReq at h
  by_cases hshort : payload.length < 32
  · rw [if_pos hshort] at h
    cases h
  rw [if_neg hshort] at h
  cases h
  obtain ⟨hmint, hall⟩ := optionalKey payload 32
  exact encodeBalanceReq_eq_ok_iff.mpr ⟨Bytes.length_slice (by omega), hmint, hall.symm⟩

/-- What `decodeBalanceResp` reads, `encodeBalanceResp` writes. -/
lemma encodeBalanceResp_decodeBalanceResp {resp : BalanceResp}
    (h : decodeBalanceResp payload = .ok resp) :
    encodeBalanceResp resp.pubkey resp.amount resp.mint =
      .ok (payload.take (if 72 ≤ payload.length then 72 else 40)) := by
  unfold decodeBalanceResp at h
  by_cases hshort : payload.length < 40
  · rw [if_pos hshort] at h
    cases h
  rw [if_neg hshort] at h
  cases h
  have hamount : Bytes.toBE 8 (Bytes.ofBE (Bytes.slice payload 32 40)) =
      Bytes.slice payload 32 40 := toBE_ofBE_slice (by omega) rfl
  obtain ⟨hmint, hall⟩ := optionalKey payload 40
  refine encodeBalanceResp_eq_ok_iff.mpr ⟨Bytes.length_slice (by omega), hmint,
    ⟨Int.natCast_nonneg _, ofBE_slice_lt (by omega) rfl⟩, ?_⟩
  dsimp only
  rw [Int.toNat_natCast, hamount, Bytes.slice_append_slice _ (by omega) (by omega)]
  exact hall.symm

/-- What `decodeBlockhashResp` reads, `encodeBlockhashResp` writes. -/
lemma encodeBlockhashResp_decodeBlockhashResp {resp : BlockhashResp}
    (h : decodeBlockhashResp payload = .ok resp) :
    encodeBlockhashResp resp.blockhash = .ok (payload.take 32) := by
  unfold decodeBlockhashResp at h
  split_ifs at h with hshort
  cases h
  exact encodeBlockhashResp_eq_ok_iff.mpr ⟨Bytes.length_slice (by omega), rfl⟩

/-- What `decodeGatewayBeacon` reads, `encodeGatewayBeacon` writes. -/
lemma encodeGatewayBeacon_decodeGatewayBeacon {beacon : GatewayBeacon}
    (h : decodeGatewayBeacon payload = .ok beacon) :
    encodeGatewayBeacon beacon.version beacon.capabilities beacon.hotWalletPubkey
      beacon.uptimeSeconds = .ok (payload.take (if 38 ≤ payload.length then 38 else 6)) := by
  unfold decodeGatewayBeacon at h
  by_cases hshort : payload.length < 6
  · rw [if_pos hshort] at h
    cases h
  rw [if_neg hshort] at h
  cases h
  obtain ⟨hkey, hall⟩ := optionalKey payload 6
  unfold encodeGatewayBeacon packB packI
  simp (disch := omega) only [packUInt_ofBE_slice, ok_bind, pure, Except.pure,
    Bytes.slice_append_slice]
  rw [@requireOptional_eq_ok _ _ _ () |>.mpr hkey, ok_bind]
  exact congrArg Except.ok hall

/-- What `decodeTxResult` reads, `encodeTxResult` writes, except for what else than one can stand
for a failure. -/
lemma encodeTxResult_decodeTxResult {result : TxResult} (h : decodeTxResult payload = .ok result) :
    encodeTxResult result.origMsgId result.success result.data =
      .ok (payload.take 2 ++ (if result.success then 1 else 0) :: payload.drop 3) := by
  unfold decodeTxResult at h
  split_ifs at h with hshort
  cases h
  have hbyte : ∀ success : Bool, packB (if success then 1 else 0) =
      .ok [if success then (1 : UInt8) else 0] := by
    intro success
    cases success <;> rfl
  unfold encodeTxResult packH
  simp (disch := omega) only [packUInt_ofBE_slice, ok_bind, pure, Except.pure, hbyte]
  rw [List.append_assoc]
  rfl

end Others

/-! ## All formats -/

/-- **Encoding undoes decoding for every payload format.** Whatever payload a decoder accepts, the
encoder accepts the fields that it returned, and writes the payload again: all of it for address
shares and refusals; for the formats of fixed width, as far as the last field goes; and for requests
and results all but one byte, which becomes the one that the encoder uses. -/
theorem encode_decode_payloads (payload : Bytes) :
    (∀ req, decodeTxRequest payload = .ok req →
      encodeTxRequest req.senderPubkey req.destPubkey req.amount req.signature req.memo req.mint =
        .ok (payload.take 136 ++ flagsOf req.mint :: payload.drop 137)) ∧
    (∀ data, decodeAddrShare payload = .ok data →
      encodeAddrShare data.pubkey data.label = .ok payload) ∧
    (∀ ack, decodeAck payload = .ok ack →
      encodeAck ack.ackedMsgId ack.ackedChunk ack.status = .ok (payload.take 4)) ∧
    (∀ nack, decodeNack payload = .ok nack →
      encodeNack nack.nackedMsgId nack.errorCode nack.errorMsg = .ok payload) ∧
    (∀ req, decodeBalanceReq payload = .ok req → encodeBalanceReq req.pubkey req.mint =
      .ok (payload.take (if 64 ≤ payload.length then 64 else 32))) ∧
    (∀ resp, decodeBalanceResp payload = .ok resp →
      encodeBalanceResp resp.pubkey resp.amount resp.mint =
        .ok (payload.take (if 72 ≤ payload.length then 72 else 40))) ∧
    (∀ resp, decodeBlockhashResp payload = .ok resp →
      encodeBlockhashResp resp.blockhash = .ok (payload.take 32)) ∧
    (∀ beacon, decodeGatewayBeacon payload = .ok beacon →
      encodeGatewayBeacon beacon.version beacon.capabilities beacon.hotWalletPubkey
        beacon.uptimeSeconds = .ok (payload.take (if 38 ≤ payload.length then 38 else 6))) ∧
    ∀ result, decodeTxResult payload = .ok result →
      encodeTxResult result.origMsgId result.success result.data =
        .ok (payload.take 2 ++ (if result.success then 1 else 0) :: payload.drop 3) :=
  ⟨fun _ => encodeTxRequest_decodeTxRequest, fun _ => encodeAddrShare_decodeAddrShare,
    fun _ => encodeAck_decodeAck, fun _ => encodeNack_decodeNack,
    fun _ => encodeBalanceReq_decodeBalanceReq, fun _ => encodeBalanceResp_decodeBalanceResp,
    fun _ => encodeBlockhashResp_decodeBlockhashResp,
    fun _ => encodeGatewayBeacon_decodeGatewayBeacon, fun _ => encodeTxResult_decodeTxResult⟩

/-- The payload of a request with a flag bit that no decoder looks at. -/
def oddPayload : Bytes := List.replicate 136 7 ++ [2, 0x68]

/-- What is read from it. -/
def oddRequest : TxRequest :=
  ⟨List.replicate 64 7, List.replicate 32 7, List.replicate 32 7, 0x0707070707070707,
    0x0707070707070707, 2, [], ofString "h"⟩

/-- The request is written without this bit. -/
theorem encode_decode_payloads_odd_request :
    encodeTxRequest oddRequest.senderPubkey oddRequest.destPubkey oddRequest.amount
        oddRequest.signature oddRequest.memo oddRequest.mint =
      .ok (oddPayload.take 136 ++ flagsOf oddRequest.mint :: oddPayload.drop 137) :=
  (encode_decode_payloads oddPayload).1 oddRequest (by decide +kernel)

end SolMesh
