import Mathlib.Data.List.Induction
import Mathlib.Tactic.Ring

set_option relaxedAutoImplicit false
set_option autoImplicit false

/-!
# Byte strings: slices and big-endian numerals

Byte strings are lists of `UInt8`. This file has the two operations every fixed-layout wire
format is made of: cutting a slice out of a byte string, and reading or writing a natural
number in network byte order.

## Main definitions

* `Bytes.slice` — the part of a list from one index up to another, clamped at the ends.
* `Bytes.toBE`, `Bytes.ofBE` — a natural number as `w` bytes, most significant first, and back.

## Main results

* `Bytes.ofBE_toBE`, `Bytes.toBE_ofBE` — the two are inverse on numbers below `256 ^ w` and on
  byte strings of length `w`.
* `Bytes.append_inj_of_length` — two concatenations with equally long first parts agree only
  part by part.
-/

/-- A byte string. -/
abbrev Bytes := List UInt8

namespace Bytes

/-! ## Slices -/

variable {α : Type}

/-- The elements of `xs` from index `i` up to, but not including, index `j`. Indices past the
end are clamped. -/
def slice (xs : List α) (i j : ℕ) : List α := (xs.drop i).take (j - i)

/-- A slice is at most as long as the distance of its ends. -/
lemma length_slice_le (xs : List α) (i j : ℕ) : (slice xs i j).length ≤ j - i := by
  simp [slice]

/-- A slice within the list has exactly the length asked for. -/
lemma length_slice {xs : List α} {i j : ℕ} (h : j ≤ xs.length) :
    (slice xs i j).length = j - i := by
  simp only [slice, List.length_take, List.length_drop]
  omega

/-- A slice that starts behind a prefix skips the prefix. -/
lemma slice_append_right {pre : List α} {i n : ℕ} (xs : List α) (j : ℕ) (h : pre.length = n)
    (hi : n ≤ i) : slice (pre ++ xs) i j = slice xs (i - n) (j - n) := by
  subst h
  have hj : j - i = j - pre.length - (i - pre.length) := by omega
  rw [slice, slice, hj, List.drop_append, List.drop_eq_nil_of_le hi, List.nil_append]

/-- A slice that ends with the first part of a concatenation is the first part. -/
lemma slice_append_self {pre : List α} {j : ℕ} (xs : List α) (h : pre.length = j) :
    slice (pre ++ xs) 0 j = pre := by
  simp [slice, ← h]

/-- Dropping more than a prefix. -/
lemma drop_append_right {pre : List α} {i n : ℕ} (xs : List α) (h : pre.length = n)
    (hi : n ≤ i) : (pre ++ xs).drop i = xs.drop (i - n) := by
  subst h
  rw [List.drop_append, List.drop_eq_nil_of_le hi, List.nil_append]

/-- Indexing behind a prefix. -/
lemma getD_append_right {pre : List α} {i n : ℕ} (xs : List α) (d : α) (h : pre.length = n)
    (hi : n ≤ i) : (pre ++ xs).getD i d = xs.getD (i - n) d := by
  subst h
  rw [List.getD_eq_getElem?_getD, List.getElem?_append_right hi, ← List.getD_eq_getElem?_getD]

/-- Adjacent slices concatenate to the slice between the outer ends. -/
lemma slice_append_slice (xs : List α) {i j k : ℕ} (hij : i ≤ j) (hjk : j ≤ k) :
    slice xs i j ++ slice xs j k = slice xs i k := by
  have hd : xs.drop j = (xs.drop i).drop (j - i) := by
    rw [List.drop_drop]; congr 1; omega
  have hk : k - i = (j - i) + (k - j) := by omega
  rw [slice, slice, slice, hd, hk, List.take_add]

/-- The end of a slice is clamped to the length. -/
lemma slice_min (xs : List α) (i j : ℕ) : slice xs i (min j xs.length) = slice xs i j := by
  rw [slice, slice, List.take_eq_take_iff, List.length_drop]
  omega

/-- **Consecutive slices of one width** cover a prefix. -/
lemma flatMap_slice (xs : List α) (w n : ℕ) :
    ((List.range n).flatMap fun i => slice xs (i * w) (i * w + w)) = xs.take (n * w) := by
  induction n with
  | zero => simp
  | succ n ih =>
    rw [List.range_succ, List.flatMap_append, ih, List.flatMap_singleton]
    have h := slice_append_slice xs (Nat.zero_le (n * w)) (Nat.le_add_right (n * w) w)
    rw [Nat.succ_mul]
    simpa only [slice, List.drop_zero, Nat.sub_zero] using h

/-- Two concatenations whose first parts are equally long agree only part by part. -/
lemma append_inj_of_length {a b c d : List α} (h : a ++ b = c ++ d)
    (hl : a.length = c.length) : a = c ∧ b = d :=
  List.append_inj h hl

/-! ## Big-endian numerals -/

/-- The last `w` base-256 digits of `n`, most significant first. -/
def toBE : ℕ → ℕ → Bytes
  | 0, _ => []
  | w + 1, n => toBE w (n / 256) ++ [UInt8.ofNat n]

/-- The number a byte string denotes, read most significant byte first. -/
def ofBE (bs : Bytes) : ℕ := bs.foldl (fun acc b => 256 * acc + b.toNat) 0

/-- A `w`-byte numeral has `w` bytes. -/
@[simp] lemma length_toBE (w n : ℕ) : (toBE w n).length = w := by
  induction w generalizing n with
  | zero => rfl
  | succ w ih => simp [toBE, ih]

/-- The empty byte string denotes zero. -/
@[simp] lemma ofBE_nil : ofBE [] = 0 := rfl

/-- Appending a byte shifts the number one digit. -/
@[simp] lemma ofBE_append_singleton (bs : Bytes) (b : UInt8) :
    ofBE (bs ++ [b]) = 256 * ofBE bs + b.toNat := by
  simp [ofBE]

/-- A one-byte numeral is the byte. -/
@[simp] lemma ofBE_singleton (b : UInt8) : ofBE [b] = b.toNat := by simp [ofBE]

/-- A numeral of one byte. -/
lemma toBE_one (n : ℕ) : toBE 1 n = [UInt8.ofNat n] := rfl

/-- **Reading back a written number**: a number that fits in `w` bytes is recovered.

**Proof sketch.** Induction on `w`: the last byte is the remainder modulo `256`, and the bytes
before it denote the quotient, which fits in one byte less. -/
lemma ofBE_toBE {w n : ℕ} (h : n < 256 ^ w) : ofBE (toBE w n) = n := by
  induction w generalizing n with
  | zero => simp only [pow_zero, Nat.lt_one_iff] at h; simp [toBE, h]
  | succ w ih =>
    have hq : n / 256 < 256 ^ w := by
      rw [pow_succ] at h
      exact Nat.div_lt_of_lt_mul (by rwa [Nat.mul_comm])
    have hr : (UInt8.ofNat n).toNat = n % 256 := UInt8.toNat_ofNat'
    rw [toBE, ofBE_append_singleton, ih hq, hr]
    exact Nat.div_add_mod n 256

/-- The number a byte string denotes fits in as many bytes. -/
lemma ofBE_lt (bs : Bytes) : ofBE bs < 256 ^ bs.length := by
  induction bs using List.reverseRecOn with
  | nil => simp
  | append_singleton bs b ih =>
    have hb := b.toNat_lt
    rw [ofBE_append_singleton, List.length_append, List.length_singleton, pow_succ]
    omega

/-- **Writing back a read number**: a byte string is the numeral of the number it denotes. -/
lemma toBE_ofBE (bs : Bytes) : toBE bs.length (ofBE bs) = bs := by
  induction bs using List.reverseRecOn with
  | nil => rfl
  | append_singleton bs b ih =>
    have hb := b.toNat_lt
    have hq : (256 * ofBE bs + b.toNat) / 256 = ofBE bs := by omega
    have hr : UInt8.ofNat (256 * ofBE bs + b.toNat) = b := by
      apply UInt8.toNat_inj.mp
      rw [UInt8.toNat_ofNat']
      omega
    rw [List.length_append, List.length_singleton, toBE, ofBE_append_singleton, hq, ih, hr]

/-- Numbers that fit are determined by their numerals. -/
lemma toBE_injective {w m n : ℕ} (hm : m < 256 ^ w) (hn : n < 256 ^ w)
    (h : toBE w m = toBE w n) : m = n := by
  rw [← ofBE_toBE hm, h, ofBE_toBE hn]

end Bytes
