import Mathlib.Algebra.Ring.Parity
import Mathlib.Algebra.Field.ZMod
import Mathlib.Tactic.IntervalCases
import Mathlib.Tactic.Ring
import SolMesh.Protocol.Corruption

set_option relaxedAutoImplicit false
set_option autoImplicit false

/-!
# What the checksum detects

Eight shifts for a byte are one shift for each of its bits, the most significant first, where the
bit is added at the top of the register. Seen so, the checksum folds a step over the bits of the
message that is additive, that forgets neither the register nor the bit, and that adds the bit to
the parity of the register. An error of odd weight changes the parity. An error in a window of
eight bits starts from an empty register and fills it without running over.

## Main definitions

* `SolMesh.bits` — the bits of a byte string, in the order in which the checksum takes them.
* `SolMesh.crc8Bit` — one bit of the checksum.

## Main results

* `SolMesh.crc8_eq_foldl_bits` — the checksum, bit by bit.
* `SolMesh.foldl_crc8Bit_ne` — no register confuses two windows.
* `SolMesh.crc8_detection` — linearity, parity, and the errors that are detected.
-/

namespace SolMesh

/-! ## Bits -/

/-- The bits of a byte, the most significant first. -/
def byteBits (n : ℕ) : List Bool := [7, 6, 5, 4, 3, 2, 1, 0].map n.testBit

/-- The bits of a byte string. -/
def bits (data : Bytes) : List Bool := data.flatMap fun byte => byteBits byte.toNat

/-- Byte strings of one length have equally many bits. -/
lemma length_bits (data : Bytes) : (bits data).length = 8 * data.length := by
  induction data with
  | nil => rfl
  | cons byte data ih =>
    rw [bits, List.flatMap_cons, List.length_append, ← bits, ih, List.length_cons, byteBits]
    simp only [List.length_map, List.length_cons, List.length_nil]
    omega

/-- Different windows of one length have a set bit in their difference. -/
lemma true_mem_zipWith_xor {bs cs : List Bool} (hlen : bs.length = cs.length) (h : bs ≠ cs) :
    true ∈ List.zipWith Bool.xor bs cs := by
  induction bs generalizing cs with
  | nil => exact absurd (List.eq_nil_of_length_eq_zero hlen.symm).symm h
  | cons b bs ih =>
    obtain ⟨c, cs, rfl⟩ := List.exists_cons_of_length_eq_add_one hlen.symm
    rw [List.zipWith_cons_cons, List.mem_cons]
    by_cases hbc : b = c
    · subst hbc
      exact Or.inr (ih (Nat.succ.inj hlen) fun hrest => h (by rw [hrest]))
    · exact Or.inl (by cases b <;> cases c <;> simp_all)

/-- The places in which two windows differ are, up to an even number, their set bits. -/
lemma countP_zip_ne {bs cs : List Bool} (hlen : bs.length = cs.length) :
    (bs.zip cs).countP (fun p => p.1 != p.2) % 2 = (bs.count true + cs.count true) % 2 := by
  induction bs generalizing cs with
  | nil =>
    obtain rfl := List.eq_nil_of_length_eq_zero hlen.symm
    rfl
  | cons b bs ih =>
    obtain ⟨c, cs, rfl⟩ := List.exists_cons_of_length_eq_add_one hlen.symm
    have hrest := ih (Nat.succ.inj hlen)
    rw [List.zip_cons_cons, List.countP_cons, List.count_cons, List.count_cons]
    cases b <;> cases c <;> simp <;> omega

/-! ## The checksum, bit by bit -/

/-- One bit of the checksum: it is added at the top, and one of the eight shifts follows. -/
def crc8Bit (crc : ℕ) (bit : Bool) : ℕ := crc8Shift (crc ^^^ if bit then 0x80 else 0)

/-- A shift adds the polynomial if the top bit is set. -/
lemma crc8Shift_eq (crc : ℕ) :
    crc8Shift crc = ((crc <<< 1) ^^^ if crc.testBit 7 then 0x31 else 0) &&& 0xFF := by
  have htop : crc &&& 0x80 = (crc.testBit 7).toNat * 0x80 := Nat.and_two_pow crc 7
  unfold crc8Shift
  rw [htop]
  cases crc.testBit 7
  · simp
  · simp

/-- **A shift is additive.** -/
lemma crc8Shift_xor (x y : ℕ) : crc8Shift (x ^^^ y) = crc8Shift x ^^^ crc8Shift y := by
  have hpoly : (if (x ^^^ y).testBit 7 then 0x31 else 0) =
      (if x.testBit 7 then 0x31 else 0) ^^^ (if y.testBit 7 then 0x31 else 0) := by
    rw [Nat.testBit_xor]
    cases x.testBit 7 <;> cases y.testBit 7 <;> rfl
  rw [crc8Shift_eq, crc8Shift_eq, crc8Shift_eq, hpoly, Nat.shiftLeft_xor_distrib,
    ← Nat.and_xor_distrib_right]
  congr 1
  ac_rfl

/-- So are eight of them. -/
lemma iterate_crc8Shift_xor (n x y : ℕ) :
    crc8Shift^[n] (x ^^^ y) = crc8Shift^[n] x ^^^ crc8Shift^[n] y := by
  induction n generalizing x y with
  | zero => rfl
  | succ n ih => rw [Function.iterate_succ_apply, crc8Shift_xor, ih]; rfl

/-- **A bit of the checksum is additive.** -/
lemma crc8Bit_additive : Checksum.Additive crc8Bit (· ^^^ ·) Bool.xor := by
  intro x y b c
  have hbit : (if Bool.xor b c then 0x80 else 0) =
      (if b then 0x80 else 0) ^^^ (if c then 0x80 else 0) := by
    cases b <;> cases c <;> rfl
  simp only [crc8Bit]
  rw [← crc8Shift_xor, hbit]
  congr 1
  ac_rfl

/-- Bits at the top of a register, the first of them at the very top. -/
def topBits : List Bool → ℕ
  | [] => 0
  | b :: bs => (if b then 0x80 else 0) ^^^ topBits bs >>> 1

/-- They fit into the register. -/
lemma topBits_lt (bs : List Bool) : topBits bs < 256 := by
  induction bs with
  | nil => exact Nat.zero_lt_succ 255
  | cons b bs ih =>
    have htop : (if b then 0x80 else 0) < 2 ^ 8 := by cases b <;> decide
    exact Nat.xor_lt_two_pow htop ((Nat.shiftRight_le _ 1).trans_lt ih)

/-- Below them the register is empty. -/
lemma testBit_topBits {bs : List Bool} {i : ℕ} (h : bs.length + i < 8) :
    (topBits bs).testBit i = false := by
  induction bs generalizing i with
  | nil => exact Nat.zero_testBit i
  | cons b bs ih =>
    rw [List.length_cons] at h
    have htop : (if b then 0x80 else 0 : ℕ).testBit i = false := by
      have hpow : (0x80 : ℕ).testBit i = false := Nat.testBit_two_pow_of_ne (n := 7) (by omega)
      cases b
      · exact Nat.zero_testBit i
      · exact hpow
    rw [topBits, Nat.testBit_xor, htop, Nat.testBit_shiftRight, ih (by omega)]
    rfl

/-- A shift takes up to seven bits back to the top. -/
lemma crc8Shift_topBits {bs : List Bool} (h : bs.length ≤ 7) :
    crc8Shift (topBits bs >>> 1) = topBits bs := by
  have hlt := topBits_lt bs
  have hlow : (topBits bs).testBit 0 = false := testBit_topBits (by omega)
  have htop : (topBits bs >>> 1).testBit 7 = false := by
    rw [Nat.testBit_shiftRight]
    exact Nat.testBit_lt_two_pow hlt
  rw [crc8Shift_eq, htop]
  rw [Nat.testBit_zero, decide_eq_false_iff_not] at hlow
  change ((topBits bs >>> 1) <<< 1 ^^^ 0) &&& (2 ^ 8 - 1) = topBits bs
  rw [Nat.xor_zero, Nat.and_two_pow_sub_one_eq_mod, Nat.shiftLeft_eq, Nat.shiftRight_eq_div_pow]
  omega

/-- **Up to eight bits of the checksum** are added at the top of the register, before as many
shifts.

**Proof sketch.** By induction on the bits. A shift takes the remaining ones to the top, and is
additive. -/
lemma foldl_crc8Bit {bs : List Bool} (h : bs.length ≤ 8) (crc : ℕ) :
    bs.foldl crc8Bit crc = crc8Shift^[bs.length] (crc ^^^ topBits bs) := by
  induction bs generalizing crc with
  | nil => rw [topBits, Nat.xor_zero]; rfl
  | cons b bs ih =>
    have hlen : bs.length ≤ 7 := Nat.le_of_succ_le_succ h
    have hshift : crc8Bit crc b ^^^ topBits bs = crc8Shift (crc ^^^ topBits (b :: bs)) := by
      rw [topBits, ← Nat.xor_assoc, crc8Shift_xor, crc8Shift_topBits hlen, crc8Bit]
    rw [List.foldl_cons, ih (hlen.trans (Nat.le_succ 7)), hshift, List.length_cons,
      Function.iterate_succ_apply]

/-- The bits of a byte at the top of a register are the byte.

**Proof sketch.** Bit by bit: the eight bits of the register are those of the byte, and there are no
others in either number. -/
lemma topBits_byteBits {n : ℕ} (h : n < 256) : topBits (byteBits n) = n := by
  refine Nat.eq_of_testBit_eq fun i => ?_
  by_cases hi : i < 8
  · have htop : ∀ (b : Bool) (k : ℕ),
        (if b then 0x80 else 0 : ℕ).testBit k = (b && decide (k = 7)) := by
      intro b k
      cases b
      · exact Nat.zero_testBit k
      · rw [Bool.true_and, if_pos rfl, show 0x80 = 2 ^ 7 from rfl, Nat.testBit_two_pow]
        simp [eq_comm]
    simp only [byteBits, List.map_cons, List.map_nil, topBits, Nat.testBit_xor,
      Nat.testBit_shiftRight, htop]
    interval_cases i <;> simp
  · have hbig : 2 ^ 8 ≤ 2 ^ i := Nat.pow_le_pow_right Nat.two_pos (not_lt.mp hi)
    rw [Nat.testBit_lt_two_pow ((topBits_lt _).trans_le hbig),
      Nat.testBit_lt_two_pow (h.trans_le hbig)]

/-- A byte of the checksum is its eight bits. -/
lemma crc8Byte_eq_foldl (crc : ℕ) (byte : UInt8) :
    crc8Byte crc byte = (byteBits byte.toNat).foldl crc8Bit crc := by
  have hlen : (byteBits byte.toNat).length = 8 := rfl
  rw [foldl_crc8Bit hlen.le, topBits_byteBits byte.toNat_lt, hlen, crc8Byte]

/-- Byte strings with the same bits are equal.

**Proof sketch.** Induction on both byte strings: the first eight bits determine the first byte
(`topBits_byteBits`). -/
lemma bits_injective : Function.Injective bits := by
  intro a b h
  induction a generalizing b with
  | nil =>
    cases b with
    | nil => rfl
    | cons y b => cases h
  | cons x a ih =>
    cases b with
    | nil => cases h
    | cons y b =>
      obtain ⟨hbyte, hrest⟩ := List.append_inj h rfl
      have htop : topBits (byteBits x.toNat) = topBits (byteBits y.toNat) :=
        congrArg topBits hbyte
      rw [topBits_byteBits x.toNat_lt, topBits_byteBits y.toNat_lt] at htop
      rw [UInt8.toNat_inj.mp htop, ih hrest]

/-- **A byte of the checksum is additive.** -/
lemma crc8Byte_additive : Checksum.Additive crc8Byte (· ^^^ ·) (· ^^^ ·) := by
  intro x y b c
  simp only [crc8Byte]
  rw [← iterate_crc8Shift_xor, UInt8.toNat_xor]
  congr 1
  ac_rfl

/-- **The checksum, bit by bit.** -/
lemma crc8_eq_foldl_bits (data : Bytes) : crc8 data = (bits data).foldl crc8Bit 0 := by
  have hbyte : crc8Byte = fun crc byte => (byteBits byte.toNat).foldl crc8Bit crc := by
    funext crc byte
    exact crc8Byte_eq_foldl crc byte
  rw [crc8, hbyte, bits, List.foldl_flatMap]

/-- **No bit of the checksum forgets anything.** -/
lemma crc8Bit_lossless : Checksum.Lossless crc8Bit (Set.Iio 256) := by
  have hlt : ∀ {crc : ℕ}, crc < 256 → ∀ b : Bool, (crc ^^^ if b then 0x80 else 0) < 256 :=
    fun hcrc b => Nat.xor_lt_two_pow (n := 8) hcrc (by cases b <;> decide)
  refine ⟨fun b crc _ => crc8Shift_lt _, fun b x hx y hy h => ?_, fun crc hcrc b b' h => ?_⟩
  · exact Nat.xor_left_injective (injOn_crc8Shift (hlt hx b) (hlt hy b) h)
  · have hbit := Nat.xor_right_injective (injOn_crc8Shift (hlt hcrc b) (hlt hcrc b') h)
    cases b <;> cases b' <;> first | rfl | exact absurd hbit (by decide)

/-! ## Parity -/

/-- The parity of a register. -/
def parity (crc : ℕ) : ZMod 2 := (byteBits crc).count true

/-- The sum of bits is the number of those that are set. -/
lemma sum_map_eq_count (bs : List Bool) :
    (bs.map fun b => if b then (1 : ZMod 2) else 0).sum = (bs.count true : ℕ) := by
  induction bs with
  | nil => rfl
  | cons b bs ih =>
    rw [List.map_cons, List.sum_cons, ih, List.count_cons]
    cases b <;> simp [add_comm]

/-- The parity is the sum of the bits. -/
lemma parity_eq_sum (crc : ℕ) :
    parity crc = ((byteBits crc).map fun b => if b then (1 : ZMod 2) else 0).sum :=
  (sum_map_eq_count _).symm

/-- **The parity is additive.** -/
lemma parity_xor (x y : ℕ) : parity (x ^^^ y) = parity x + parity y := by
  have hbit : ∀ b c : Bool, (if Bool.xor b c then (1 : ZMod 2) else 0) =
      (if b then 1 else 0) + (if c then 1 else 0) := by decide
  simp only [parity_eq_sum, byteBits, List.map_cons, List.map_nil, List.sum_cons, List.sum_nil,
    Nat.testBit_xor, hbit]
  ring

/-- The bits of a shifted byte. -/
lemma byteBits_shiftLeft (crc : ℕ) :
    byteBits (crc <<< 1 &&& 0xFF) = [6, 5, 4, 3, 2, 1, 0].map crc.testBit ++ [false] := by
  have hmod : crc <<< 1 &&& 0xFF = crc <<< 1 % 2 ^ 8 := Nat.and_two_pow_sub_one_eq_mod _ 8
  simp only [hmod, byteBits, List.map_cons, List.map_nil, Nat.testBit_mod_two_pow,
    Nat.testBit_shiftLeft]
  rfl

/-- A shift keeps the parity: the bit that leaves at the top comes back as the polynomial, which
has an odd number of terms. -/
lemma parity_crc8Shift (crc : ℕ) : parity (crc8Shift crc) = parity crc := by
  have hpoly : parity ((if crc.testBit 7 then 0x31 else 0) &&& 0xFF) =
      if crc.testBit 7 then 1 else 0 := by
    cases crc.testBit 7 <;> rfl
  have hbits : byteBits crc = crc.testBit 7 :: [6, 5, 4, 3, 2, 1, 0].map crc.testBit := rfl
  have hout : parity (crc <<< 1 &&& 0xFF) + (if crc.testBit 7 then 1 else 0) = parity crc := by
    rw [parity, parity, byteBits_shiftLeft, hbits, List.count_append, List.count_cons]
    cases crc.testBit 7 <;> simp
  rw [crc8Shift_eq, Nat.and_xor_distrib_right, parity_xor, hpoly, hout]

/-- **A bit of the checksum is added to the parity of the register.** -/
lemma parity_crc8Bit (crc : ℕ) (b : Bool) :
    parity (crc8Bit crc b) = parity crc + if b then 1 else 0 := by
  have hbit : parity (if b then 0x80 else 0) = if b then 1 else 0 := by cases b <;> rfl
  rw [crc8Bit, parity_crc8Shift, parity_xor, hbit]

/-- **The parity of a checksum is that of the message.** -/
lemma parity_crc8 (data : Bytes) :
    (byteBits (crc8 data)).count true % 2 = (bits data).count true % 2 := by
  have hzero : parity 0 = 0 := rfl
  have hsum := crc8Bit_lossless.measure_foldl (fun crc _ => parity_crc8Bit crc)
    (Nat.zero_lt_succ 255) (bits data)
  rw [← crc8_eq_foldl_bits, hzero, zero_add, sum_map_eq_count, parity] at hsum
  exact (ZMod.natCast_eq_natCast_iff' _ _ 2).mp hsum

/-! ## Windows -/

/-- Up to eight bits, not all of them zero, are not an empty register.

**Proof sketch.** Induction on the bits. If the first one is set, it is bit 7 of the register, where
the rest has none (`topBits_lt`). Otherwise shifting the register back gives that of the rest
(`crc8Shift_topBits`), and from an empty one it would give an empty one. -/
lemma topBits_ne_zero {bs : List Bool} (hlen : bs.length ≤ 8) (h : true ∈ bs) :
    topBits bs ≠ 0 := by
  induction bs with
  | nil => exact absurd h List.not_mem_nil
  | cons b bs ih =>
    have hlen' : bs.length ≤ 7 := Nat.le_of_succ_le_succ hlen
    intro hzero
    cases b with
    | true =>
      have htop : (topBits (true :: bs)).testBit 7 = true := by
        have hrest : (topBits bs).testBit (1 + 7) = false := Nat.testBit_lt_two_pow (topBits_lt bs)
        rw [topBits, Nat.testBit_xor, Nat.testBit_shiftRight, hrest]
        rfl
      rw [hzero] at htop
      exact absurd htop (by decide)
    | false =>
      have hmem : true ∈ bs := (List.mem_cons.mp h).resolve_left (by decide)
      have hhalf : topBits bs >>> 1 = 0 := by
        rwa [topBits, if_neg Bool.false_ne_true, Nat.zero_xor] at hzero
      have hback := crc8Shift_topBits hlen'
      rw [hhalf] at hback
      exact ih (hlen'.trans (Nat.le_succ 7)) hmem hback.symm

/-- An empty register that takes up to eight bits, not all of them zero, is not empty: the shifts
take no register but the empty one to the empty one. -/
lemma foldl_crc8Bit_ne_zero {bs : List Bool} (hlen : bs.length ≤ 8) (h : true ∈ bs) :
    bs.foldl crc8Bit 0 ≠ 0 := by
  intro hempty
  have hmaps : Set.MapsTo crc8Shift (Set.Iio 256) (Set.Iio 256) := fun crc _ => crc8Shift_lt crc
  have hinj : Set.InjOn (crc8Shift^[bs.length]) (Set.Iio 256) := injOn_crc8Shift.iterate hmaps _
  have hzero : crc8Shift^[bs.length] 0 = 0 := Function.iterate_fixed rfl _
  rw [foldl_crc8Bit hlen, Nat.zero_xor] at hempty
  exact topBits_ne_zero hlen h
    (hinj (topBits_lt bs) (Nat.zero_lt_succ 255) (hempty.trans hzero.symm))

/-- **No register confuses two windows** of up to eight bits. -/
lemma foldl_crc8Bit_ne {window window' : List Bool} (hlen : window.length = window'.length)
    (hle : window.length ≤ 8) (h : window ≠ window') (crc : ℕ) :
    window.foldl crc8Bit crc ≠ window'.foldl crc8Bit crc := by
  intro heq
  have hsum := crc8Bit_additive.foldl_zipWith hlen crc crc
  simp only [Nat.xor_self, heq] at hsum
  refine foldl_crc8Bit_ne_zero ?_ (true_mem_zipWith_xor hlen h) hsum
  rwa [List.length_zipWith, ← hlen, min_self]

/-! ## Errors -/

/-- **What the checksum detects.** It is additive, and has the parity of the message. So it tells
byte strings of one length apart that differ in an odd number of bits, or only in a window of
eight bits, wherever the window lies and whatever stands around it.

**Proof sketch.** One step of the register is additive, so the checksum is. It keeps the parity of
the bits (`parity_crc8`), which differ in parity if they differ in an odd number of places. Seen bit
by bit, a step loses nothing, so two registers that differ after a window still differ at the end;
and they do differ after a window of eight bits, which fill the register (`foldl_crc8Bit_ne`). -/
theorem crc8_detection {a b : Bytes} (h : a.length = b.length) :
    crc8 (List.zipWith (· ^^^ ·) a b) = crc8 a ^^^ crc8 b ∧
    (byteBits (crc8 a)).count true % 2 = (bits a).count true % 2 ∧
    (Odd (((bits a).zip (bits b)).countP fun p => p.1 != p.2) → crc8 a ≠ crc8 b) ∧
    (a ≠ b → ∀ i, (∀ k, k < i ∨ i + 8 ≤ k → (bits a)[k]? = (bits b)[k]?) → crc8 a ≠ crc8 b) := by
  have hlen : (bits a).length = (bits b).length := by
    rw [length_bits, length_bits, h]
  refine ⟨?_, parity_crc8 a, fun hodd heq => ?_, fun hne i hout => ?_⟩
  · exact crc8Byte_additive.foldl_zipWith h 0 0
  · have hparity := countP_zip_ne hlen
    have ha := parity_crc8 a
    have hb := parity_crc8 b
    rw [heq] at ha
    rw [Nat.odd_iff] at hodd
    omega
  · rw [crc8_eq_foldl_bits, crc8_eq_foldl_bits]
    have hbits : bits a ≠ bits b := fun heq => hne (bits_injective heq)
    exact crc8Bit_lossless.foldl_ne_of_agree (Nat.zero_lt_succ 255)
      (fun crc _ window window' hsame hle hdiffer => foldl_crc8Bit_ne hsame hle hdiffer crc)
      hlen hbits hout

/-- Two bits that differ, on both sides of a byte boundary. -/
theorem crc8_detection_straddling : crc8 [0x01, 0x80, 0x2a] ≠ crc8 [0x00, 0x00, 0x2a] := by
  have hout : ∀ k, k < 7 ∨ 7 + 8 ≤ k →
      (bits [0x01, 0x80, 0x2a])[k]? = (bits [0x00, 0x00, 0x2a])[k]? := by
    have hall : ∀ k < 24, k < 7 ∨ 7 + 8 ≤ k →
        (bits [0x01, 0x80, 0x2a])[k]? = (bits [0x00, 0x00, 0x2a])[k]? := by decide
    intro k hk
    by_cases hin : k < 24
    · exact hall k hin hk
    · have hlen : ∀ data : Bytes, data.length = 3 → (bits data)[k]? = none := by
        intro data hdata
        rw [List.getElem?_eq_none_iff, length_bits, hdata]
        exact not_lt.mp hin
      rw [hlen _ rfl, hlen _ rfl]
  have hsame : ([0x01, 0x80, 0x2a] : Bytes).length = ([0x00, 0x00, 0x2a] : Bytes).length := rfl
  have hdetects := crc8_detection hsame
  exact hdetects.2.2.2 (by decide) 7 hout

end SolMesh
