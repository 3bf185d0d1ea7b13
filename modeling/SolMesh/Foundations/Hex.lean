import SolMesh.Foundations.Python

set_option relaxedAutoImplicit false
set_option autoImplicit false

/-!
# Hexadecimal numerals of byte strings

`bytes.hex` and `bytes.fromhex`. Reading skips white space between the bytes and takes digits of
either case; it names the position at which it stops.

## Main definitions

* `Py.hex`, `Py.fromHex` — the two functions.

## Main results

* `Py.fromHex_hex` — reading gives back what was written.
-/

namespace Py

open Text

/-- `bs.hex()`. -/
def hex (bs : Bytes) : Text := bs.flatMap fun b => hex2 b.toNat

/-- The value of a hexadecimal digit. -/
def hexValue (c : CodePoint) : Option ℕ :=
  if 0x30 ≤ c.val ∧ c.val ≤ 0x39 then some (c.val - 0x30)
  else if 0x61 ≤ c.val ∧ c.val ≤ 0x66 then some (c.val - 0x61 + 10)
  else if 0x41 ≤ c.val ∧ c.val ≤ 0x46 then some (c.val - 0x41 + 10)
  else none

/-- White space among the ASCII characters. -/
def isSpace (c : CodePoint) : Bool := decide (c.val = 0x20 ∨ 0x09 ≤ c.val ∧ c.val ≤ 0x0D)

/-- What `bytes.fromhex` raises at a position. -/
def notHex (pos : ℕ) : Exn :=
  valueError (ofString "non-hexadecimal number found in fromhex() arg at position " ++ dec pos)

/-- The bytes of an ASCII text that stands at position `pos` of the whole text. -/
def fromHexFrom (pos : ℕ) : Text → Except Exn Bytes
  | [] => .ok []
  | [c] =>
    if isSpace c then .ok []
    else match hexValue c with
      | none => .error (notHex pos)
      | some _ => .error (notHex (pos + 1))
  | c :: d :: t =>
    if isSpace c then fromHexFrom (pos + 1) (d :: t)
    else match hexValue c, hexValue d with
      | none, _ => .error (notHex pos)
      | some _, none => .error (notHex (pos + 1))
      | some hi, some lo => (UInt8.ofNat (16 * hi + lo) :: ·) <$> fromHexFrom (pos + 2) t

/-- `bytes.fromhex(t)`. A character beyond ASCII is found before anything else is. -/
def fromHex (t : Text) : Except Exn Bytes :=
  match t.findIdx? fun c => decide (0x80 ≤ c.val) with
  | some pos => .error (notHex pos)
  | none => fromHexFrom 0 t

/-- A hexadecimal numeral is ASCII. -/
lemma ascii_hex (bs : Bytes) : Ascii (hex bs) := by
  rw [ascii_iff]
  intro c hc
  obtain ⟨b, -, hb⟩ := List.mem_flatMap.mp hc
  exact ascii_iff.mp (ascii_hex2 b) c hb

/-- The two digits of a byte are read back. -/
lemma fromHexFrom_hex2_append (pos : ℕ) (b : UInt8) (t : Text) :
    fromHexFrom pos (hex2 b.toNat ++ t) = (b :: ·) <$> fromHexFrom (pos + 2) t := by
  have hdigit : ∀ n < 16, isSpace (ofChar (Nat.digitChar n)) = false ∧
      hexValue (ofChar (Nat.digitChar n)) = some n := by decide +kernel
  have hlt := b.toNat_lt
  obtain ⟨hspace, hhi⟩ := hdigit (b.toNat / 16) (by omega)
  obtain ⟨-, hlo⟩ := hdigit (b.toNat % 16) (by omega)
  have hbyte : UInt8.ofNat (16 * (b.toNat / 16) + b.toNat % 16) = b := by
    rw [Nat.div_add_mod, UInt8.ofNat_toNat]
  simp only [hex2, List.cons_append, List.nil_append, fromHexFrom]
  rw [hspace, hhi, hlo, if_neg Bool.false_ne_true]
  dsimp only
  rw [hbyte]

/-- Reading a numeral from any position. -/
lemma fromHexFrom_hex (pos : ℕ) (bs : Bytes) : fromHexFrom pos (hex bs) = .ok bs := by
  induction bs generalizing pos with
  | nil => rfl
  | cons b bs ih =>
    rw [hex, List.flatMap_cons, fromHexFrom_hex2_append, ← hex, ih]
    rfl

/-- **Reading gives back what was written.** -/
lemma fromHex_hex (bs : Bytes) : fromHex (hex bs) = .ok bs := by
  have hascii : (hex bs).findIdx? (fun c => decide (0x80 ≤ c.val)) = none := by
    rw [List.findIdx?_eq_none_iff]
    intro c hc
    exact decide_eq_false (not_le.mpr (ascii_iff.mp (ascii_hex bs) c hc))
  rw [fromHex, hascii]
  exact fromHexFrom_hex 0 bs

end Py
