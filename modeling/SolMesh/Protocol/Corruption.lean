import Mathlib.Data.Nat.Bitwise
import SolMesh.Foundations.Checksum
import SolMesh.Protocol.Frame

set_option relaxedAutoImplicit false
set_option autoImplicit false

/-!
# Frames with one flipped bit

A step of the CRC-8 can be undone, so a checksum over fixed bytes notices a change of any one of
them. A flipped bit of the length byte changes which bytes are checked. If the announced length
grows, the payload is too short for it. If it shrinks, the frame is read as a shorter one, and the
checksum of the remaining bytes may happen to be the one the frame carries.

## Main definitions

* `SolMesh.flipAt` — a byte string with one bit flipped.
* `SolMesh.Shortens` — the bit is one of those that make up the length.

## Main results

* `SolMesh.crc8_lossless` — no step of the checksum forgets anything.
* `SolMesh.IsFrame.not_isFrame_set` — changing a checked byte other than the length is noticed.
* `SolMesh.single_bit_corruption` — which flipped bits are noticed.
-/

namespace SolMesh

open Py Text

/-! ## Flipped bits -/

/-- The byte with a bit flipped, counted from the lowest. -/
def flipBit (b : UInt8) (j : ℕ) : UInt8 := b ^^^ UInt8.ofNat (2 ^ j)

/-- The byte string with bit `j` of byte `i` flipped. -/
def flipAt (raw : Bytes) (i j : ℕ) : Bytes := raw.set i (flipBit (raw.getD i 0) j)

/-- The flipped bit is one that makes up the length of the payload. -/
def Shortens (payload : Bytes) (i j : ℕ) : Prop := i = 8 ∧ payload.length.testBit j = true

/-- A flipped bit changes the byte. -/
lemma flipBit_ne (b : UInt8) {j : ℕ} (hj : j < 8) : flipBit b j ≠ b := by
  intro h
  have hpow : ∀ k < 8, UInt8.ofNat (2 ^ k) ≠ 0 := by decide
  rw [flipBit, ← UInt8.xor_zero (a := b), UInt8.xor_assoc, UInt8.xor_right_inj] at h
  rw [UInt8.zero_xor] at h
  exact hpow j hj h

/-- Flipping a bit of a number adds it or takes it away. -/
lemma toNat_flipBit (b : UInt8) {j : ℕ} (hj : j < 8) :
    (flipBit b j).toNat =
      if b.toNat.testBit j then b.toNat - 2 ^ j else b.toNat + 2 ^ j := by
  have hall : ∀ x < 256, ∀ k < 8, (UInt8.ofNat x ^^^ UInt8.ofNat (2 ^ k)).toNat =
      if x.testBit k then x - 2 ^ k else x + 2 ^ k := by decide +kernel
  have h := hall b.toNat b.toNat_lt j hj
  rw [UInt8.ofNat_toNat] at h
  exact h

/-! ## The checksum -/

/-- One shift of `crc8`, undone. -/
def crc8Unshift (crc : ℕ) : ℕ :=
  if crc % 2 = 1 then ((crc ^^^ 0x31) >>> 1) ||| 0x80 else crc >>> 1

/-- The lowest bit tells whether the polynomial was added. -/
lemma crc8Unshift_crc8Shift : ∀ crc < 256, crc8Unshift (crc8Shift crc) = crc := by
  decide +kernel

/-- A shift forgets nothing. -/
lemma injOn_crc8Shift : Set.InjOn crc8Shift (Set.Iio 256) := by
  intro x hx y hy h
  rw [← crc8Unshift_crc8Shift x hx, ← crc8Unshift_crc8Shift y hy, h]

/-- A byte added to a byte is a byte. -/
lemma xor_lt {crc : ℕ} (h : crc < 256) (b : UInt8) : crc ^^^ b.toNat < 256 :=
  Nat.xor_lt_two_pow (n := 8) h b.toNat_lt

/-- **No step of the checksum forgets anything.** -/
lemma crc8_lossless : Checksum.Lossless crc8Byte (Set.Iio 256) := by
  have hmaps : Set.MapsTo crc8Shift (Set.Iio 256) (Set.Iio 256) := fun crc _ => crc8Shift_lt crc
  have hinj : Set.InjOn (crc8Shift^[8]) (Set.Iio 256) := injOn_crc8Shift.iterate hmaps 8
  refine ⟨fun b crc hcrc => hmaps.iterate 8 (xor_lt hcrc b), fun b x hx y hy h => ?_,
    fun crc hcrc b b' h => ?_⟩
  · exact Nat.xor_left_injective (hinj (xor_lt hx b) (xor_lt hy b) h)
  · exact UInt8.toNat_inj.mp (Nat.xor_right_injective (hinj (xor_lt hcrc b) (xor_lt hcrc b') h))

/-- **A changed byte changes the checksum.** -/
lemma crc8_set_ne {bs : Bytes} {i : ℕ} {b : UInt8} (hi : i < bs.length) (hb : bs[i] ≠ b) :
    crc8 (bs.set i b) ≠ crc8 bs :=
  crc8_lossless.foldl_set_ne (Nat.zero_lt_succ 255) hi hb

/-! ## Changed frames -/

section Changed

variable {raw : Bytes} {i : ℕ} {b : UInt8}

/-- Overwriting a byte leaves the others. -/
lemma getD_set_of_ne {k : ℕ} (h : i ≠ k) : (raw.set i b).getD k 0 = raw.getD k 0 := by
  rw [List.getD_eq_getElem?_getD, List.getD_eq_getElem?_getD, List.getElem?_set_ne h]

/-- An overwritten byte is read back. -/
lemma getD_set_self (h : i < raw.length) : (raw.set i b).getD i 0 = b := by
  rw [List.getD_eq_getElem?_getD, List.getElem?_set_self h]
  rfl

/-- The bytes under the checksum. -/
def checkedBytes (raw : Bytes) : Bytes :=
  raw.take 9 ++ (raw.drop headerSize).take (raw.getD 8 0).toNat

/-- Overwriting a header byte in front of the length overwrites it under the checksum. -/
lemma checkedBytes_set_header (h : i < 8) (hraw : headerSize ≤ raw.length) :
    checkedBytes (raw.set i b) = (checkedBytes raw).set i b := by
  have hlen : i < (raw.take 9).length := by
    rw [List.length_take]
    rw [headerSize] at hraw
    omega
  have hdrop : (raw.set i b).drop headerSize = raw.drop headerSize := by
    rw [List.drop_set, if_pos (by rw [headerSize]; omega)]
  rw [checkedBytes, checkedBytes, getD_set_of_ne (by omega), hdrop, List.take_set,
    List.set_append_left _ _ hlen]

/-- Overwriting a payload byte overwrites it under the checksum, one place further to the front. -/
lemma checkedBytes_set_payload (h : headerSize ≤ i) (hraw : headerSize ≤ raw.length) :
    checkedBytes (raw.set i b) = (checkedBytes raw).set (i - 1) b := by
  rw [headerSize] at h hraw
  have hlen : (raw.take 9).length = 9 := by
    rw [List.length_take]
    omega
  have hdrop : (raw.set i b).drop headerSize = (raw.drop headerSize).set (i - headerSize) b := by
    rw [List.drop_set, if_neg (by rw [headerSize]; omega)]
  have htake : (raw.take 9).set i b = raw.take 9 := List.set_eq_of_length_le (by omega)
  rw [checkedBytes, checkedBytes, getD_set_of_ne (by omega), hdrop, List.take_set, List.take_set,
    htake, List.set_append_right _ _ (by omega), hlen, headerSize, Nat.sub_sub]

/-- **Changing a checked byte other than the length is noticed**, by the checksum if by nothing
else.

**Proof sketch.** If both were frames, the bytes that the checksum is of would differ in one place
and have the same checksum. The place is `i` in the header (`checkedBytes_set_header`) and `i - 1`
in the payload (`checkedBytes_set_payload`), where the checksum itself is left out. Two such byte
strings have different checksums (`crc8_set_ne`). -/
lemma IsFrame.not_isFrame_set (h : IsFrame raw)
    (hi : i < 8 ∨ headerSize ≤ i ∧ i < headerSize + (raw.getD 8 0).toNat)
    (hb : raw.getD i 0 ≠ b) : ¬ IsFrame (raw.set i b) := by
  intro h'
  have hraw := h.header
  have hpayload := h.payload
  have hsum := h.checksum
  have hsum' := h'.checksum
  change _ = crc8 (checkedBytes raw) at hsum
  change _ = crc8 (checkedBytes (raw.set i b)) at hsum'
  rw [headerSize] at hi hraw
  rw [List.length_drop, headerSize] at hpayload
  rw [getD_set_of_ne (by omega), hsum] at hsum'
  have hlen9 : (raw.take 9).length = 9 := by
    rw [List.length_take]
    omega
  rcases hi with hi | ⟨hlo, hhi⟩
  · have hlt : i < (checkedBytes raw).length := by
      rw [checkedBytes, List.length_append, hlen9]
      omega
    have hget : (checkedBytes raw)[i] ≠ b := by
      simp only [checkedBytes]
      rw [List.getElem_append_left (by omega), List.getElem_take]
      rwa [List.getD_eq_getElem _ _ (by omega)] at hb
    rw [checkedBytes_set_header hi h.header] at hsum'
    exact crc8_set_ne hlt hget hsum'.symm
  · have hlt : i - 1 < (checkedBytes raw).length := by
      rw [checkedBytes, List.length_append, hlen9, List.length_take, List.length_drop, headerSize]
      omega
    have hget : (checkedBytes raw)[i - 1] ≠ b := by
      have hplace : headerSize + (i - 1 - 9) = i := by
        rw [headerSize]
        omega
      simp only [checkedBytes]
      rw [List.getElem_append_right (by omega), List.getElem_take, List.getElem_drop]
      simp only [hlen9, hplace]
      rwa [List.getD_eq_getElem _ _ (by omega)] at hb
    rw [checkedBytes_set_payload hlo h.header] at hsum'
    exact crc8_set_ne hlt hget hsum'.symm

/-- Changing the checksum is noticed. -/
lemma IsFrame.not_isFrame_set_checksum (h : IsFrame raw) (hb : raw.getD 9 0 ≠ b) :
    ¬ IsFrame (raw.set 9 b) := by
  intro h'
  have hraw := h.header
  rw [headerSize] at hraw
  have hdrop : (raw.set 9 b).drop headerSize = raw.drop headerSize := by
    rw [List.drop_set, if_pos (by rw [headerSize]; omega)]
  have htake : (raw.set 9 b).take 9 = raw.take 9 := by
    rw [List.take_set]
    exact List.set_eq_of_length_le (List.length_take_le _ _)
  have hsum := h'.checksum
  rw [getD_set_self (by omega), getD_set_of_ne (by omega), hdrop, htake, ← h.checksum] at hsum
  exact hb (UInt8.toNat_inj.mp hsum).symm

end Changed

/-! ## Frames with one flipped bit -/

section Frames

variable {t m c n : ℤ} {payload frame : Bytes} {i j : ℕ}

/-- What the packer gives out is the frame of fields of the right widths.

**Proof sketch.** A payload that is too long is refused (`packMessage_of_too_long`). Each field was
packed into one byte or two, so it fits them (`exists_of_packUInt`), and then the frame is known
(`packMessage_eq`). -/
lemma exists_of_packMessage (h : packMessage t m c n payload = .ok frame) :
    payload.length ≤ maxChunkData ∧ ∃ (t' : UInt8) (m' : UInt16) (c' n' : UInt8),
      frame = frameBytes t' m' c' n' payload := by
  have hfits : payload.length ≤ maxChunkData := by
    by_contra hlong
    obtain ⟨e, he⟩ := packMessage_of_too_long t m c n (not_le.mp hlong)
    exact absurd (he.symm.trans h) (by simp)
  refine ⟨hfits, ?_⟩
  have hpack := h
  rw [packMessage, if_neg (not_lt.mpr hfits)] at hpack
  obtain ⟨header, hheader, _⟩ := bind_eq_ok.mp hpack
  rw [packHeader] at hheader
  obtain ⟨_, _, hheader⟩ := bind_eq_ok.mp hheader
  obtain ⟨_, ht, hheader⟩ := bind_eq_ok.mp hheader
  obtain ⟨_, hm, hheader⟩ := bind_eq_ok.mp hheader
  obtain ⟨_, hc, hheader⟩ := bind_eq_ok.mp hheader
  obtain ⟨_, hn, _⟩ := bind_eq_ok.mp hheader
  obtain ⟨t', rfl, ht', _⟩ := exists_of_packUInt ht
  obtain ⟨m', rfl, hm', _⟩ := exists_of_packUInt hm
  obtain ⟨c', rfl, hc', _⟩ := exists_of_packUInt hc
  obtain ⟨n', rfl, hn', _⟩ := exists_of_packUInt hn
  have heq := packMessage_eq (UInt8.ofNat t') (UInt16.ofNat m') (UInt8.ofNat c') (UInt8.ofNat n')
    hfits
  rw [toNat_byte ht', toNat_byte hc', toNat_byte hn', UInt16.toNat_ofNat_of_lt' hm'] at heq
  exact ⟨_, _, _, _, Except.ok.inj (h.symm.trans heq)⟩

/-- The length byte of a frame. -/
lemma getD_eight_frameBytes (t : UInt8) (m : UInt16) (c n : UInt8)
    (h : payload.length ≤ maxChunkData) :
    ((frameBytes t m c n payload).getD 8 0).toNat = payload.length := by
  have hid : Bytes.toBE 2 m.toNat = [UInt8.ofNat (m.toNat / 256), UInt8.ofNat m.toNat] := rfl
  have hget : (frameBytes t m c n payload).getD 8 0 = UInt8.ofNat payload.length := by
    simp only [frameBytes, headerBytes, magic, hid, List.cons_append, List.nil_append,
      List.getD_cons_succ, List.getD_cons_zero]
  rw [hget]
  exact toNat_byte (by rw [maxChunkData_eq] at h; omega)

/-- The payload of a frame. -/
lemma drop_frameBytes (payload : Bytes) (t : UInt8) (m : UInt16) (c n : UInt8) :
    (frameBytes t m c n payload).drop headerSize = payload := by
  rw [frameBytes, List.drop_append_of_le_length (by simp [headerSize]),
    List.drop_eq_nil_of_le (by simp [headerSize]), List.nil_append]

/-- What is read with a flipped bit of the length: nothing if the length grows, and a frame with
the first bytes of the payload, if its checksum happens to be right, if the length shrinks.

**Proof sketch.** The flipped bit adds `2 ^ j` to the length byte or takes it away
(`toNat_flipBit`), and changes no other byte. With a larger length the payload is too short. With a
smaller one, all conditions but that on the checksum hold as before. -/
lemma isFrame_flipAt_length (t : UInt8) (m : UInt16) (c n : UInt8)
    (h : payload.length ≤ maxChunkData) (hj : j < 8) :
    IsFrame (flipAt (frameBytes t m c n payload) 8 j) ↔ payload.length.testBit j = true ∧
      ((frameBytes t m c n payload).getD 9 0).toNat =
        crc8 ((flipAt (frameBytes t m c n payload) 8 j).take 9 ++
          payload.take (payload.length - 2 ^ j)) := by
  have hframe := isFrame_frameBytes_append t m c n [] h
  rw [List.append_nil] at hframe
  have hraw := hframe.header
  have hget := getD_eight_frameBytes t m c n h
  have hlen := toNat_flipBit ((frameBytes t m c n payload).getD 8 0) hj
  have hdrop := drop_frameBytes payload t m c n
  rw [hget] at hlen
  rw [flipAt]
  generalize flipBit ((frameBytes t m c n payload).getD 8 0) j = b at hlen ⊢
  generalize frameBytes t m c n payload = raw at *
  rw [headerSize] at hraw
  have hdrop' : (raw.set 8 b).drop headerSize = payload := by
    rw [List.drop_set, if_pos (by rw [headerSize]; omega), hdrop]
  have hb : (raw.set 8 b).getD 8 0 = b := getD_set_self (by omega)
  constructor
  · intro h'
    have hpayload := h'.payload
    have hsum := h'.checksum
    rw [hb, hdrop'] at hpayload
    rw [getD_set_of_ne (by omega), hb, hdrop'] at hsum
    split_ifs at hlen with hbit
    · rw [hlen] at hsum
      exact ⟨hbit, hsum⟩
    · have hpos := Nat.two_pow_pos j
      omega
  · rintro ⟨hbit, hsum⟩
    rw [if_pos hbit] at hlen
    refine ⟨by rw [List.length_set, headerSize]; exact hraw, ?_, ?_, ?_, ?_⟩
    · rw [List.take_set, List.set_eq_of_length_le ((List.length_take_le _ _).trans (by omega))]
      exact hframe.magic
    · rw [getD_set_of_ne (by omega)]
      exact hframe.version
    · rw [hb, hdrop', hlen]
      exact Nat.sub_le _ _
    · rw [getD_set_of_ne (by omega), hb, hdrop', hlen]
      exact hsum

end Frames

/-- A parser of frames raises exactly on what is no frame. -/
lemma raises_iff {raw : Bytes} :
    (∃ text, unpackMessage raw = .error (valueError text)) ↔ ¬ IsFrame raw := by
  refine ⟨fun ⟨text, htext⟩ hframe => ?_, unpackMessage_of_not_isFrame⟩
  obtain ⟨r, hr⟩ := unpackMessage_eq_ok_iff.mpr hframe
  exact absurd (hr.symm.trans htext) (by simp)

/-- What is read with a smaller length: a frame with the first bytes of the payload. -/
lemma unpackMessage_flipAt_length {payload : Bytes} {j : ℕ} (t : UInt8) (m : UInt16)
    (c n : UInt8) (h : payload.length ≤ maxChunkData) (hj : j < 8)
    (hframe : IsFrame (flipAt (frameBytes t m c n payload) 8 j)) :
    ∃ header, unpackMessage (flipAt (frameBytes t m c n payload) 8 j) =
      .ok (header, payload.take (payload.length - 2 ^ j)) := by
  have hbit := ((isFrame_flipAt_length t m c n h hj).mp hframe).1
  have hlen := toNat_flipBit ((frameBytes t m c n payload).getD 8 0) hj
  rw [getD_eight_frameBytes t m c n h, if_pos hbit] at hlen
  have hread := unpackMessage_of_isFrame hframe
  have hlong : 8 < (frameBytes t m c n payload).length := by
    rw [length_frameBytes, headerSize]
    omega
  have hlast : (flipAt (frameBytes t m c n payload) 8 j).getD 8 0 =
      flipBit ((frameBytes t m c n payload).getD 8 0) j := getD_set_self hlong
  have hdrop : (flipAt (frameBytes t m c n payload) 8 j).drop headerSize = payload := by
    rw [flipAt, List.drop_set, if_pos (by rw [headerSize]; omega), drop_frameBytes]
  rw [hlast, hdrop, hlen] at hread
  exact ⟨_, hread⟩

/-- **Which flipped bits are noticed.** Flipping one bit of a packed frame makes the parser raise
`ValueError`, unless the bit is one of those that make up the length of the payload. Then the parser
raises exactly if the checksum of what is left of the checked bytes is not the one in the frame, and
otherwise reads a frame with as much of the payload as the length says.

**Proof sketch.** A bit of the checksum changes the checksum but not the bytes it is of. A bit
elsewhere than in the length changes one of those bytes, and no step of the checksum forgets that
(`IsFrame.not_isFrame_set`). With a bit of the length, the parser takes the payload to be longer
than what is there, or shorter by the value of the bit (`isFrame_flipAt_length`). -/
theorem single_bit_corruption {t m c n : ℤ} {payload frame : Bytes}
    (hpack : packMessage t m c n payload = .ok frame) {i j : ℕ} (hi : i < frame.length)
    (hj : j < 8) :
    (¬ Shortens payload i j →
      ∃ text, unpackMessage (flipAt frame i j) = .error (valueError text)) ∧
    (Shortens payload i j →
      ((∃ text, unpackMessage (flipAt frame i j) = .error (valueError text)) ↔
        (frame.getD 9 0).toNat ≠
          crc8 ((flipAt frame i j).take 9 ++ payload.take (payload.length - 2 ^ j))) ∧
      ((frame.getD 9 0).toNat =
          crc8 ((flipAt frame i j).take 9 ++ payload.take (payload.length - 2 ^ j)) →
        ∃ header, unpackMessage (flipAt frame i j) =
          .ok (header, payload.take (payload.length - 2 ^ j)))) := by
  obtain ⟨hfits, t', m', c', n', rfl⟩ := exists_of_packMessage hpack
  have hframe := isFrame_frameBytes_append t' m' c' n' [] hfits
  rw [List.append_nil] at hframe
  rw [raises_iff]
  by_cases h8 : i = 8
  · subst h8
    have hiff := isFrame_flipAt_length t' m' c' n' hfits hj
    refine ⟨fun hshort hread => hshort ⟨rfl, (hiff.mp hread).1⟩, fun hshort => ⟨?_, fun hsum => ?_⟩⟩
    · rw [hiff, not_and]
      exact ⟨fun h => h hshort.2, fun h _ => h⟩
    · exact unpackMessage_flipAt_length t' m' c' n' hfits hj (hiff.mpr ⟨hshort.2, hsum⟩)
  · refine ⟨fun _ => ?_, fun hshort => absurd hshort.1 h8⟩
    have hflip := (flipBit_ne ((frameBytes t' m' c' n' payload).getD i 0) hj).symm
    by_cases h9 : i = 9
    · subst h9
      exact hframe.not_isFrame_set_checksum hflip
    · refine hframe.not_isFrame_set ?_ hflip
      rw [getD_eight_frameBytes t' m' c' n' hfits, headerSize]
      rw [length_frameBytes, headerSize] at hi
      omega

/-- Byte 4 of a frame is the first byte of the message id. -/
theorem single_bit_corruption_msgId :
    ∃ frame, packMessage 1 7 0 1 [0xca] = .ok frame ∧
      ∃ text, unpackMessage (flipAt frame 4 2) = .error (valueError text) := by
  obtain ⟨frame, hframe⟩ : ∃ frame, packMessage 1 7 0 1 [0xca] = .ok frame :=
    ⟨_, packMessage_eq 1 7 0 1 (by decide)⟩
  have hlen : 4 < frame.length := by
    obtain ⟨_, _, _, _, _, rfl⟩ := exists_of_packMessage hframe
    rw [length_frameBytes, headerSize]
    omega
  exact ⟨frame, hframe, (single_bit_corruption hframe hlen (by decide)).1 fun h => by cases h.1⟩

/-- A frame with the payload `07` whose length byte goes from one to zero: it is read as a frame
with an empty payload. -/
theorem not_single_bit_corruption_length :
    ∃ frame header, packMessage 1 7 0 1 [7] = .ok frame ∧ 8 < frame.length ∧
      unpackMessage (flipAt frame 8 0) = .ok (header, []) ∧
      ¬ ∃ text, unpackMessage (flipAt frame 8 0) = .error (valueError text) := by
  have hpack : packMessage 1 7 0 1 [7] = .ok (frameBytes 1 7 0 1 [7]) :=
    packMessage_eq 1 7 0 1 (by decide)
  have hread : unpackMessage (flipAt (frameBytes 1 7 0 1 [7]) 8 0) =
      .ok (⟨1, 7, 0, 1, 0, UInt8.ofNat (crc8 (headerBytes 1 7 0 1 1 ++ [7]))⟩, []) := by
    decide +kernel
  refine ⟨_, _, hpack, by decide, hread, ?_⟩
  rintro ⟨text, htext⟩
  exact absurd (hread.symm.trans htext) (by simp)

end SolMesh
