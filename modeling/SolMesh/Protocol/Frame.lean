import SolMesh.Constants
import SolMesh.Foundations.Python

set_option relaxedAutoImplicit false
set_option autoImplicit false

/-!
# Frames: the ten-byte header and its checksum

A frame is a ten-byte header followed by a payload. The last header byte is a CRC-8 of the nine
bytes before it and of the payload, so it stands between the bytes it protects.

## Main definitions

* `SolMesh.crc8` — the checksum.
* `SolMesh.SolMeshHeader` — the header fields, each of the width it has on the wire.
* `SolMesh.packMessage`, `SolMesh.unpackMessage` — the packer and the parser of frames.
* `SolMesh.IsFrame` — the byte strings that begin with a frame.

## Main results

* `SolMesh.unpackMessage_frameBytes_append` — the parser recovers what was packed and ignores
  what follows the frame.
* `SolMesh.unpackMessage_eq_ok_iff` — the parser accepts exactly the byte strings that begin with
  a frame.
* `SolMesh.packMessage_unpackMessage` — what the parser accepts is what the packer writes.
* `SolMesh.frame_codec_exact` — all of it.
-/

namespace SolMesh

open Py Text

/-! ## The checksum -/

/-- One of the eight shifts of `crc8`. -/
def crc8Shift (crc : ℕ) : ℕ :=
  (if crc &&& 0x80 ≠ 0 then (crc <<< 1) ^^^ 0x31 else crc <<< 1) &&& 0xFF

/-- One byte of `crc8`. -/
def crc8Byte (crc : ℕ) (byte : UInt8) : ℕ := crc8Shift^[8] (crc ^^^ byte.toNat)

/-- The CRC-8 of a byte string, polynomial `0x31`. -/
def crc8 (data : Bytes) : ℕ := data.foldl crc8Byte 0

/-- A shift leaves a byte. -/
lemma crc8Shift_lt (crc : ℕ) : crc8Shift crc < 256 :=
  Nat.lt_succ_of_le Nat.and_le_right

/-- A checksum is a byte. -/
lemma crc8_lt (data : Bytes) : crc8 data < 256 := by
  induction data using List.reverseRecOn with
  | nil => decide
  | append_singleton data b _ =>
    rw [crc8, List.foldl_append, List.foldl_cons, List.foldl_nil, crc8Byte,
      Function.iterate_succ_apply']
    exact crc8Shift_lt _

/-! ## Headers -/

/-- The header of a frame. -/
structure SolMeshHeader where
  msgType : UInt8
  msgId : UInt16
  chunkNum : UInt8
  totalChunks : UInt8
  payloadLen : UInt8
  checksum : UInt8
  deriving DecidableEq

/-- `f"{b!r}"` of a byte string: quoted, with escapes for what is not printable ASCII. -/
def bytesRepr (bs : Bytes) : Text :=
  let quote : Text := if 0x27 ∈ bs ∧ 0x22 ∉ bs then ofString "\"" else ofString "'"
  let char (b : UInt8) : Text :=
    if b = 0x5c ∨ (b = 0x27 ∧ 0x22 ∈ bs) then ofString "\\" ++ [point b.toNat]
    else if b = 0x09 then ofString "\\t"
    else if b = 0x0a then ofString "\\n"
    else if b = 0x0d then ofString "\\r"
    else if b.toNat < 0x20 ∨ 0x7f ≤ b.toNat then ofString "\\x" ++ hex2 b.toNat
    else [point b.toNat]
  ofString "b" ++ quote ++ bs.flatMap char ++ quote

/-! ## Packing and parsing -/

/-- `struct.pack("!2sBBHBBB", MAGIC, PROTOCOL_VERSION, ...)`: the header without checksum. -/
def packHeader (msgType msgId chunkNum totalChunks payloadLen : ℤ) : Except Exn Bytes := do
  return magic ++ (← packB protocolVersion) ++ (← packB msgType) ++ (← packH msgId) ++
    (← packB chunkNum) ++ (← packB totalChunks) ++ (← packB payloadLen)

/-- A complete frame: header and payload. -/
def packMessage (msgType msgId chunkNum totalChunks : ℤ) (payload : Bytes) :
    Except Exn Bytes :=
  if payload.length > maxChunkData then
    .error (valueError (ofString "Payload too large: " ++ dec payload.length ++ ofString " > " ++
      dec maxChunkData))
  else do
    let headerNoCrc ← packHeader msgType msgId chunkNum totalChunks payload.length
    let check := crc8 (headerNoCrc ++ payload)
    return headerNoCrc ++ (← packB check) ++ payload

/-- Header and payload of a raw byte string. The byte `raw[i]` is only read where the string is
long enough. -/
def unpackMessage (raw : Bytes) : Except Exn (SolMeshHeader × Bytes) :=
  if raw.length < headerSize then
    .error (valueError (ofString "Message too short: " ++ dec raw.length ++ ofString " < " ++
      dec headerSize))
  else
    let magic' := Bytes.slice raw 0 2
    if magic' ≠ magic then .error (valueError (ofString "Invalid magic: " ++ bytesRepr magic'))
    else
      let version := (raw.getD 2 0).toNat
      if version ≠ protocolVersion then
        .error (valueError (ofString "Unsupported protocol version: " ++ dec version))
      else
        let msgType := raw.getD 3 0
        let msgId := UInt16.ofNat (Bytes.ofBE (Bytes.slice raw 4 6))
        let chunkNum := raw.getD 6 0
        let totalChunks := raw.getD 7 0
        let payloadLen := raw.getD 8 0
        let checksum := raw.getD 9 0
        let payload := Bytes.slice raw headerSize (headerSize + payloadLen.toNat)
        if payload.length ≠ payloadLen.toNat then
          .error (valueError (ofString "Payload length mismatch: expected " ++
            dec payloadLen.toNat ++ ofString ", got " ++ dec payload.length))
        else
          let headerNoCrc := Bytes.slice raw 0 9
          let expectedCrc := crc8 (headerNoCrc ++ payload)
          if checksum.toNat ≠ expectedCrc then
            .error (valueError (ofString "Checksum mismatch: got 0x" ++ hex2 checksum.toNat ++
              ofString ", expected 0x" ++ hex2 expectedCrc))
          else
            .ok (⟨msgType, msgId, chunkNum, totalChunks, payloadLen, checksum⟩, payload)

/-! ## The layout of a frame -/

/-- The nine header bytes in front of the checksum. -/
def headerBytes (msgType : UInt8) (msgId : UInt16) (chunkNum totalChunks payloadLen : UInt8) :
    Bytes :=
  magic ++ [1, msgType] ++ Bytes.toBE 2 msgId.toNat ++ [chunkNum, totalChunks, payloadLen]

/-- The bytes of a frame. -/
def frameBytes (msgType : UInt8) (msgId : UInt16) (chunkNum totalChunks : UInt8)
    (payload : Bytes) : Bytes :=
  let header := headerBytes msgType msgId chunkNum totalChunks (UInt8.ofNat payload.length)
  header ++ [UInt8.ofNat (crc8 (header ++ payload))] ++ payload

/-- The header in front of the checksum has nine bytes. -/
@[simp] lemma length_headerBytes (t : UInt8) (m : UInt16) (c n l : UInt8) :
    (headerBytes t m c n l).length = 9 := by simp [headerBytes, magic]

/-- A frame is ten bytes longer than its payload. -/
@[simp] lemma length_frameBytes (t : UInt8) (m : UInt16) (c n : UInt8) (payload : Bytes) :
    (frameBytes t m c n payload).length = headerSize + payload.length := by
  simp [frameBytes, headerSize]
  omega

/-- Packing one byte that is given as a number. -/
lemma packB_natCast {n : ℕ} (h : n < 256) : packB (n : ℤ) = .ok [UInt8.ofNat n] :=
  packUInt_natCast _ (by simpa using h)

/-- Fields of the right widths give the nine bytes in front of the checksum. -/
lemma packHeader_eq (t : UInt8) (m : UInt16) (c n l : UInt8) :
    packHeader t.toNat m.toNat c.toNat n.toNat l.toNat = .ok (headerBytes t m c n l) := by
  have hver : packB (protocolVersion : ℤ) = .ok [1] := packB_natCast (by decide)
  rw [packHeader, hver, packB_uint8, packH_uint16, packB_uint8, packB_uint8, packB_uint8]
  simp only [ok_bind, headerBytes, List.append_assoc, List.cons_append, List.nil_append, pure,
    Except.pure]

/-- **The packer's output**: fields of the right widths and a payload that fits give the frame. -/
lemma packMessage_eq {payload : Bytes} (t : UInt8) (m : UInt16) (c n : UInt8)
    (h : payload.length ≤ maxChunkData) :
    packMessage t.toNat m.toNat c.toNat n.toNat payload = .ok (frameBytes t m c n payload) := by
  have hlen : (UInt8.ofNat payload.length).toNat = payload.length :=
    toNat_byte (by rw [maxChunkData_eq] at h; omega)
  have hhead := packHeader_eq t m c n (UInt8.ofNat payload.length)
  have hcrc := packB_natCast
    (crc8_lt (headerBytes t m c n (UInt8.ofNat payload.length) ++ payload))
  rw [hlen] at hhead
  rw [packMessage, if_neg (not_lt.mpr h), hhead, ok_bind]
  dsimp only
  rw [hcrc, ok_bind]
  rfl

/-- A payload that does not fit is refused. -/
lemma packMessage_of_too_long {payload : Bytes} (t m c n : ℤ)
    (h : maxChunkData < payload.length) : ∃ e, packMessage t m c n payload = .error e := by
  rw [packMessage, if_pos h]
  exact ⟨_, rfl⟩

/-! ## What the parser accepts -/

/-- A byte string that begins with a frame: ten header bytes that open with the magic and the
version, the announced number of payload bytes behind them, and a matching checksum. -/
structure IsFrame (raw : Bytes) : Prop where
  header : headerSize ≤ raw.length
  magic : raw.take 2 = SolMesh.magic
  version : (raw.getD 2 0).toNat = protocolVersion
  payload : (raw.getD 8 0).toNat ≤ (raw.drop headerSize).length
  checksum : (raw.getD 9 0).toNat =
    crc8 (raw.take 9 ++ (raw.drop headerSize).take (raw.getD 8 0).toNat)

/-- A byte string of ten bytes or more, byte by byte. -/
lemma exists_eq_of_headerSize_le {raw : Bytes} (h : headerSize ≤ raw.length) :
    ∃ a b v t i j c n l k rest, raw = a :: b :: v :: t :: i :: j :: c :: n :: l :: k :: rest := by
  match raw, h with
  | a :: b :: v :: t :: i :: j :: c :: n :: l :: k :: rest, _ =>
    exact ⟨a, b, v, t, i, j, c, n, l, k, rest, rfl⟩

/-- **The parser on a frame**: the fields and the payload are read off their places. -/
lemma unpackMessage_of_isFrame {raw : Bytes} (h : IsFrame raw) :
    unpackMessage raw = .ok
      (⟨raw.getD 3 0, UInt16.ofNat (Bytes.ofBE (Bytes.slice raw 4 6)), raw.getD 6 0,
        raw.getD 7 0, raw.getD 8 0, raw.getD 9 0⟩,
        (raw.drop headerSize).take (raw.getD 8 0).toNat) := by
  have hs : Bytes.slice raw 0 2 = magic := h.magic
  have hp : Bytes.slice raw headerSize (headerSize + (raw.getD 8 0).toNat) =
      (raw.drop headerSize).take (raw.getD 8 0).toNat := by simp [Bytes.slice]
  have hl : ((raw.drop headerSize).take (raw.getD 8 0).toNat).length = (raw.getD 8 0).toNat :=
    List.length_take_of_le h.payload
  have hk : (raw.getD 9 0).toNat =
      crc8 (Bytes.slice raw 0 9 ++ (raw.drop headerSize).take (raw.getD 8 0).toNat) := h.checksum
  rw [unpackMessage, if_neg (not_lt.mpr h.header)]
  simp only [hs, hp, hl, h.version, ← hk, ne_eq, not_true_eq_false, if_false]

/-- **The parser accepts nothing else**, and refuses with a `ValueError`. -/
lemma unpackMessage_of_not_isFrame {raw : Bytes} (h : ¬ IsFrame raw) :
    ∃ text, unpackMessage raw = .error (valueError text) := by
  unfold unpackMessage
  dsimp only
  split_ifs with h₁ h₂ h₃ h₄ h₅
  case neg =>
    -- every check passed, so the byte string was a frame after all
    have hp : Bytes.slice raw headerSize (headerSize + (raw.getD 8 0).toNat) =
        (raw.drop headerSize).take (raw.getD 8 0).toNat := by simp [Bytes.slice]
    rw [not_not] at h₂ h₃ h₄ h₅
    refine absurd ⟨not_lt.mp h₁, h₂, h₃, ?_, ?_⟩ h
    · rw [hp, List.length_take] at h₄
      omega
    · rw [h₅, hp]
      rfl
  all_goals exact ⟨_, rfl⟩

/-- **The parser accepts exactly the byte strings that begin with a frame.** -/
lemma unpackMessage_eq_ok_iff {raw : Bytes} :
    (∃ r, unpackMessage raw = .ok r) ↔ IsFrame raw := by
  constructor
  · rintro ⟨r, hr⟩
    by_contra h
    obtain ⟨text, he⟩ := unpackMessage_of_not_isFrame h
    rw [he] at hr
    cases hr
  · exact fun h => ⟨_, unpackMessage_of_isFrame h⟩

/-- The first bytes of an accepted byte string are the frame of what was read.

**Proof sketch.** The ten header bytes are the magic, the version, the fields in their order and
the checksum; the two identifier bytes are the numeral of the identifier, and the length byte is
the length of the payload, which the acceptance bounds from below. -/
lemma take_eq_frameBytes {raw : Bytes} {header : SolMeshHeader} {payload : Bytes}
    (h : unpackMessage raw = .ok (header, payload)) :
    payload.length = header.payloadLen.toNat ∧
      raw.take (headerSize + header.payloadLen.toNat) =
        frameBytes header.msgType header.msgId header.chunkNum header.totalChunks payload := by
  have hf : IsFrame raw := unpackMessage_eq_ok_iff.mp ⟨_, h⟩
  rw [unpackMessage_of_isFrame hf] at h
  simp only [Except.ok.injEq, Prod.mk.injEq] at h
  obtain ⟨rfl, rfl⟩ := h
  have hlen := List.length_take_of_le hf.payload
  refine ⟨hlen, ?_⟩
  obtain ⟨a, b, v, t, i, j, c, n, l, k, rest, rfl⟩ := exists_eq_of_headerSize_le hf.header
  have hm := hf.magic
  have hv := hf.version
  have hk := hf.checksum
  simp only [headerSize, List.getD_cons_succ, List.getD_cons_zero, List.drop_succ_cons,
    List.drop_zero, List.take_succ_cons, List.take_zero, Bytes.slice] at hm hv hk hlen ⊢
  have hid : (UInt16.ofNat (Bytes.ofBE [i, j])).toNat = Bytes.ofBE [i, j] :=
    UInt16.toNat_ofNat_of_lt' (by simpa using Bytes.ofBE_lt [i, j])
  have hbe : Bytes.toBE 2 (Bytes.ofBE [i, j]) = [i, j] := Bytes.toBE_ofBE [i, j]
  have hv' : v = 1 := by
    apply UInt8.toNat_inj.mp
    rw [hv]
    rfl
  have hk' : ∀ x : ℕ, k.toNat = x → UInt8.ofNat x = k := by
    rintro x rfl
    simp
  have hhead : headerBytes t (UInt16.ofNat (Bytes.ofBE [i, j])) c n l =
      [a, b, v, t, i, j, c, n, l] := by
    rw [headerBytes, hid, hbe, ← hm, hv']
    rfl
  have hl : UInt8.ofNat (rest.take l.toNat).length = l := by rw [hlen]; simp
  change _ = frameBytes t (UInt16.ofNat (Bytes.ofBE [i, j])) c n (rest.take l.toNat)
  rw [frameBytes, hl, hhead, hk' _ hk, show 10 + l.toNat = l.toNat + 10 by omega]
  rfl

/-- A frame followed by anything begins with a frame. -/
lemma isFrame_frameBytes_append {payload : Bytes} (t : UInt8) (m : UInt16) (c n : UInt8)
    (rest : Bytes) (h : payload.length ≤ maxChunkData) :
    IsFrame (frameBytes t m c n payload ++ rest) := by
  have hlen : (UInt8.ofNat payload.length).toNat = payload.length :=
    toNat_byte (by rw [maxChunkData_eq] at h; omega)
  have hid : Bytes.toBE 2 m.toNat = [UInt8.ofNat (m.toNat / 256), UInt8.ofNat m.toNat] := rfl
  have hcrc := fun data => toNat_byte (crc8_lt data)
  constructor <;>
    simp only [frameBytes, headerBytes, magic, hid, headerSize, List.cons_append, List.nil_append,
      List.length_cons, List.take_succ_cons, List.take_zero,
      List.drop_succ_cons, List.drop_zero, List.getD_cons_succ, List.getD_cons_zero, hlen, hcrc,
      List.length_append]
  · omega
  · rfl
  · omega
  · rw [List.take_left]

/-- **The parser inverts the packer**, whatever follows the frame. -/
lemma unpackMessage_frameBytes_append {payload : Bytes} (t : UInt8) (m : UInt16) (c n : UInt8)
    (rest : Bytes) (h : payload.length ≤ maxChunkData) :
    ∃ checksum, unpackMessage (frameBytes t m c n payload ++ rest) =
      .ok (⟨t, m, c, n, UInt8.ofNat payload.length, checksum⟩, payload) := by
  have hlen : (UInt8.ofNat payload.length).toNat = payload.length :=
    toNat_byte (by rw [maxChunkData_eq] at h; omega)
  have hid : Bytes.toBE 2 m.toNat = [UInt8.ofNat (m.toNat / 256), UInt8.ofNat m.toNat] := rfl
  have hm : UInt16.ofNat (Bytes.ofBE [UInt8.ofNat (m.toNat / 256), UInt8.ofNat m.toNat]) = m := by
    rw [← hid, Bytes.ofBE_toBE (by simpa using m.toNat_lt)]
    simp
  rw [unpackMessage_of_isFrame (isFrame_frameBytes_append t m c n rest h)]
  refine ⟨(frameBytes t m c n payload ++ rest).getD 9 0, ?_⟩
  simp only [frameBytes, headerBytes, magic, hid, headerSize, List.cons_append, List.nil_append,
    List.getD_cons_succ, List.getD_cons_zero, List.drop_succ_cons, List.drop_zero, hlen,
    Bytes.slice, List.take_left, List.take_succ_cons, List.take_zero, hm]

/-- **The packer inverts the parser** on frames whose payload it would pack. -/
lemma packMessage_unpackMessage {raw : Bytes} {header : SolMeshHeader} {payload : Bytes}
    (h : unpackMessage raw = .ok (header, payload))
    (hmax : header.payloadLen.toNat ≤ maxChunkData) :
    packMessage header.msgType.toNat header.msgId.toNat header.chunkNum.toNat
      header.totalChunks.toNat payload =
        .ok (raw.take (headerSize + header.payloadLen.toNat)) := by
  obtain ⟨hlen, htake⟩ := take_eq_frameBytes h
  rw [packMessage_eq _ _ _ _ (hlen ▸ hmax), htake]

/-- **The frame parser accepts exactly its format and is inverse to the packer.**

**Proof sketch.** What is packed is read back whatever comes after it
(`unpackMessage_frameBytes_append`). What is accepted is a frame (`unpackMessage_eq_ok_iff`), whose
bytes are those that packing its fields gives (`packMessage_unpackMessage`). -/
theorem frame_codec_exact :
    (∀ (t : UInt8) (m : UInt16) (c n : UInt8) (payload rest : Bytes),
      payload.length ≤ maxChunkData →
      ∃ frame header, packMessage t.toNat m.toNat c.toNat n.toNat payload = .ok frame ∧
        unpackMessage (frame ++ rest) = .ok (header, payload) ∧
        header.msgType = t ∧ header.msgId = m ∧ header.chunkNum = c ∧ header.totalChunks = n ∧
        header.payloadLen.toNat = payload.length) ∧
    ∀ raw : Bytes,
      ((∃ r, unpackMessage raw = .ok r) ↔ IsFrame raw) ∧
      (¬ IsFrame raw → ∃ text, unpackMessage raw = .error (valueError text)) ∧
      ∀ header payload, unpackMessage raw = .ok (header, payload) →
        header.payloadLen.toNat ≤ maxChunkData →
        packMessage header.msgType.toNat header.msgId.toNat header.chunkNum.toNat
          header.totalChunks.toNat payload =
            .ok (raw.take (headerSize + header.payloadLen.toNat)) := by
  refine ⟨fun t m c n payload rest h => ?_, fun raw => ⟨unpackMessage_eq_ok_iff,
    unpackMessage_of_not_isFrame, fun header payload hok hmax =>
      packMessage_unpackMessage hok hmax⟩⟩
  obtain ⟨checksum, hu⟩ := unpackMessage_frameBytes_append t m c n rest h
  exact ⟨_, _, packMessage_eq t m c n h, hu, rfl, rfl, rfl, rfl,
    toNat_byte (by rw [maxChunkData_eq] at h; omega)⟩

/-- A two-byte payload survives the way through packer and parser, with a byte behind it. -/
theorem frame_codec_exact_two_bytes :
    ∃ frame header, packMessage (UInt8.toNat 0x10) (UInt16.toNat 7) (UInt8.toNat 0)
        (UInt8.toNat 1) [0xca, 0xfe] = .ok frame ∧
      unpackMessage (frame ++ [0xff]) = .ok (header, [0xca, 0xfe]) ∧
      header.payloadLen.toNat = 2 := by
  obtain ⟨frame, header, hpack, hunpack, _, _, _, _, hlen⟩ :=
    frame_codec_exact.1 0x10 7 0 1 [0xca, 0xfe] [0xff] (by decide)
  exact ⟨frame, header, hpack, hunpack, hlen⟩

end SolMesh
