import Mathlib.Data.Nat.Digits.Defs
import Mathlib.Data.Nat.Digits.Lemmas
import SolMesh.Foundations.Utf8

set_option relaxedAutoImplicit false
set_option autoImplicit false

/-!
# The parts of Python and its standard library the program rests on

Exceptions with their class name and text, `str.encode` and `bytes.decode` with the messages of
their errors, the big-endian integer formats of `struct.pack`, and numbers as far as a program
that never looks inside a `float` can see them.

## Main definitions

* `Py.Exn` — a raised exception; `Py.Exn.IsValueError` — what `except ValueError` catches.
* `Py.encodeUtf8`, `Py.decodeUtf8` — `s.encode("utf-8")` and `b.decode("utf-8")`.
* `Py.packUInt` and its instances `packB`, `packH`, `packI`, `packQ` — `struct.pack` in network
  byte order.
* `Py.Number` — the operations of a numeric type the program uses.

## Main results

* `Py.decodeUtf8_of_encodeUtf8` — decoding undoes encoding.
* `Py.length_decodeMessage_le` — the message of a decoding error of at most 255 bytes is short.
-/

namespace Text

/-! ## Building messages -/

/-- The decimal digits of a natural number, as `str(n)` gives them. -/
def dec (n : ℕ) : Text := (Nat.toDigits 10 n).map ofChar

/-- `str` of a list of natural numbers. -/
def natList (ns : List ℕ) : Text :=
  ofString "[" ++ (ofString ", ").intercalate (ns.map dec) ++ ofString "]"

/-- A byte as two lower-case hexadecimal digits, as `f"{b:02x}"` gives it. -/
def hex2 (b : ℕ) : Text := [ofChar (Nat.digitChar (b / 16)), ofChar (Nat.digitChar (b % 16))]

/-- A text of ASCII characters. -/
def Ascii (t : Text) : Prop := (t.all fun c => decide (c.val < 0x80)) = true

instance (t : Text) : Decidable (Ascii t) := inferInstanceAs (Decidable (_ = true))

/-- The characters of an ASCII text are ASCII. -/
lemma ascii_iff {t : Text} : Ascii t ↔ ∀ c ∈ t, c.val < 0x80 := by simp [Ascii]

/-- Concatenating ASCII texts. -/
@[simp] lemma ascii_append {s t : Text} : Ascii (s ++ t) ↔ Ascii s ∧ Ascii t := by
  simp [ascii_iff, or_imp, forall_and]

/-- ASCII has no surrogates. -/
lemma Ascii.encodable {t : Text} (h : Ascii t) : IsEncodable t := by
  intro c hc hs
  have hlt := ascii_iff.mp h c hc
  have hge := hs.1
  omega

/-- An ASCII text takes one byte for each character. -/
lemma Ascii.length_utf8 {t : Text} (h : Ascii t) : (utf8 t).length = t.length := by
  induction t with
  | nil => rfl
  | cons c t ih =>
    rw [ascii_iff] at h
    have hc : c.val < 0x80 := h c (by simp)
    have ht : Ascii t := ascii_iff.mpr fun d hd => h d (by simp [hd])
    have hl : (utf8 (c :: t)).length = (encodePoint c).length + (utf8 t).length := by
      simp [utf8]
    rw [hl, ih ht, List.length_cons, encodePoint]
    simp only [if_pos hc, List.length_singleton]
    omega

/-- Decimal digits are ASCII. -/
@[simp] lemma ascii_dec (n : ℕ) : Ascii (dec n) := by
  rw [ascii_iff]
  intro c hc
  obtain ⟨ch, hch, rfl⟩ := List.mem_map.mp hc
  have hd := Nat.isDigit_of_mem_toDigits (by decide) (by decide) hch
  simp only [Char.isDigit, Bool.and_eq_true, decide_eq_true_eq] at hd
  have hle : ch.toNat ≤ 57 := by
    have h := hd.2
    rwa [UInt32.le_iff_toNat_le] at h
  change ch.toNat < 0x80
  omega

/-- A number below a thousand has at most three digits. -/
lemma length_dec_le {n : ℕ} (h : n < 1000) : (dec n).length ≤ 3 := by
  rw [dec, List.length_map]
  exact Nat.toDigits_length 10 n 3 (by decide) (by omega)

/-- Hexadecimal digits are ASCII. -/
@[simp] lemma ascii_hex2 (b : UInt8) : Ascii (hex2 b.toNat) := by
  have hdigit : ∀ n < 16, (ofChar (Nat.digitChar n)).val < 0x80 := by decide
  have hb := b.toNat_lt
  have hhigh := hdigit (b.toNat / 16) (by omega)
  have hlow := hdigit (b.toNat % 16) (Nat.mod_lt _ (by decide))
  simp [ascii_iff, hex2, hhigh, hlow]

end Text

namespace Py

open Text

/-! ## Exceptions -/

/-- A raised exception: the name of its class and what `str` gives for it. -/
structure Exn where
  cls : String
  text : Text
  deriving DecidableEq

/-- `ValueError(text)`. -/
def valueError (text : Text) : Exn := ⟨"ValueError", text⟩

/-- What an `except ValueError` clause catches: the class and its two Unicode subclasses. -/
def Exn.IsValueError (e : Exn) : Prop :=
  e.cls = "ValueError" ∨ e.cls = "UnicodeDecodeError" ∨ e.cls = "UnicodeEncodeError"

instance (e : Exn) : Decidable e.IsValueError := inferInstanceAs (Decidable (_ ∨ _ ∨ _))

/-- Going on after a computation that returned. -/
@[simp] lemma ok_bind {α β : Type} (a : α) (f : α → Except Exn β) :
    ((Except.ok a : Except Exn α) >>= f) = f a := rfl

/-- Nothing happens after a computation that raised. -/
@[simp] lemma error_bind {α β : Type} (e : Exn) (f : α → Except Exn β) :
    ((Except.error e : Except Exn α) >>= f) = .error e := rfl

/-- A sequence returns when both of its parts do. -/
lemma bind_eq_ok {α β : Type} {x : Except Exn α} {f : α → Except Exn β} {b : β} :
    x >>= f = .ok b ↔ ∃ a, x = .ok a ∧ f a = .ok b := by
  cases x <;> simp

/-- Running a computation that returns at every element of a list. -/
lemma mapM_eq_ok {α β : Type} {f : α → Except Exn β} {g : α → β} {xs : List α}
    (h : ∀ x ∈ xs, f x = .ok (g x)) : xs.mapM f = .ok (xs.map g) := by
  induction xs with
  | nil => rfl
  | cons x xs ih =>
    rw [List.mapM_cons, h x (by simp), ok_bind, ih fun y hy => h y (by simp [hy]), ok_bind]
    rfl

/-- If the map raises nowhere, it raises at no member. -/
lemma ok_of_mapM_eq_ok {α β : Type} {f : α → Except Exn β} {xs : List α} {ys : List β}
    (h : xs.mapM f = .ok ys) : ∀ x ∈ xs, ∃ y, f x = .ok y := by
  induction xs generalizing ys with
  | nil => exact fun x hx => absurd hx List.not_mem_nil
  | cons x xs ih =>
    rw [List.mapM_cons] at h
    obtain ⟨y, hy, hrest⟩ := bind_eq_ok.mp h
    obtain ⟨ys', hys, _⟩ := bind_eq_ok.mp hrest
    rw [List.forall_mem_cons]
    exact ⟨⟨y, hy⟩, ih hys⟩

/-- A `ValueError` is one. -/
@[simp] lemma isValueError_valueError (t : Text) : (valueError t).IsValueError := Or.inl rfl

/-! ## UTF-8 -/

/-- The code point as `\uXXXX`, the form `repr` gives a surrogate. -/
def surrogateRepr (c : CodePoint) : Text :=
  ofString "\\u" ++ hex2 (c.val / 256) ++ hex2 (c.val % 256)

/-- What `str` gives for a `UnicodeEncodeError`. -/
def encodeMessage (e : EncodeError) : Text :=
  if e.stop = e.start + 1 then
    ofString "'utf-8' codec can't encode character '" ++ surrogateRepr e.point ++
      ofString "' in position " ++ dec e.start ++ ofString ": surrogates not allowed"
  else
    ofString "'utf-8' codec can't encode characters in position " ++ dec e.start ++
      ofString "-" ++ dec (e.stop - 1) ++ ofString ": surrogates not allowed"

/-- The strict decoder's words for its reasons. -/
def reasonText : DecodeReason → Text
  | .invalidStart => ofString "invalid start byte"
  | .invalidContinuation => ofString "invalid continuation byte"
  | .unexpectedEnd => ofString "unexpected end of data"

/-- What `str` gives for a `UnicodeDecodeError`. -/
def decodeMessage (e : DecodeError) : Text :=
  if e.stop = e.start + 1 then
    ofString "'utf-8' codec can't decode byte 0x" ++ hex2 e.byte.toNat ++
      ofString " in position " ++ dec e.start ++ ofString ": " ++ reasonText e.reason
  else
    ofString "'utf-8' codec can't decode bytes in position " ++ dec e.start ++
      ofString "-" ++ dec (e.stop - 1) ++ ofString ": " ++ reasonText e.reason

/-- `t.encode("utf-8")`. -/
def encodeUtf8 (t : Text) : Except Exn Bytes :=
  match encode t with
  | .ok bs => .ok bs
  | .error e => .error ⟨"UnicodeEncodeError", encodeMessage e⟩

/-- `bs.decode("utf-8")`. -/
def decodeUtf8 (bs : Bytes) : Except Exn Text :=
  match decode bs with
  | .ok t => .ok t
  | .error e => .error ⟨"UnicodeDecodeError", decodeMessage e⟩

/-- Exactly the encodable texts are encoded, to their UTF-8 form. -/
lemma encodeUtf8_eq_ok_iff {t : Text} {bs : Bytes} :
    encodeUtf8 t = .ok bs ↔ IsEncodable t ∧ bs = utf8 t := by
  rw [← encode_eq_ok_iff, encodeUtf8]
  cases encode t <;> simp

/-- Encoding an encodable text succeeds. -/
lemma encodeUtf8_of_encodable {t : Text} (h : IsEncodable t) : encodeUtf8 t = .ok (utf8 t) :=
  encodeUtf8_eq_ok_iff.mpr ⟨h, rfl⟩

/-- A text with a surrogate is refused. -/
lemma encodeUtf8_of_not_encodable {t : Text} (h : ¬ IsEncodable t) :
    ∃ e, encodeUtf8 t = .error e := by
  cases he : encodeUtf8 t with
  | error e => exact ⟨e, rfl⟩
  | ok bs => exact absurd (encodeUtf8_eq_ok_iff.mp he).1 h

/-- Decoding undoes encoding. -/
lemma decodeUtf8_of_encodeUtf8 {t : Text} {bs : Bytes} (h : encodeUtf8 t = .ok bs) :
    decodeUtf8 bs = .ok t := by
  obtain ⟨he, rfl⟩ := encodeUtf8_eq_ok_iff.mp h
  rw [decodeUtf8, decode_encode (encode_of_encodable he)]

/-- Decoding the UTF-8 form of an encodable text. -/
lemma decodeUtf8_utf8 {t : Text} (h : IsEncodable t) : decodeUtf8 (utf8 t) = .ok t :=
  decodeUtf8_of_encodeUtf8 (encodeUtf8_of_encodable h)

/-- A decoding error is a `ValueError` whose text is the message of the span it names. -/
lemma decodeUtf8_eq_error {bs : Bytes} {e : Exn} (h : decodeUtf8 bs = .error e) :
    ∃ d, decode bs = .error d ∧ e = ⟨"UnicodeDecodeError", decodeMessage d⟩ := by
  rw [decodeUtf8] at h
  cases hd : decode bs with
  | ok t => rw [hd] at h; cases h
  | error d => rw [hd] at h; cases h; exact ⟨d, rfl, rfl⟩

/-- The messages of the decoder are ASCII. -/
lemma ascii_decodeMessage (e : DecodeError) : Ascii (decodeMessage e) := by
  have hr : Ascii (reasonText e.reason) := by cases e.reason <;> decide
  have h₁ : Ascii (ofString "'utf-8' codec can't decode byte 0x") := by decide
  have h₂ : Ascii (ofString "'utf-8' codec can't decode bytes in position ") := by decide
  have h₃ : Ascii (ofString " in position ") := by decide
  have h₄ : Ascii (ofString ": ") := by decide
  have h₅ : Ascii (ofString "-") := by decide
  unfold decodeMessage
  split_ifs <;> simp [hr, h₁, h₂, h₃, h₄, h₅]

/-- The message of a decoding error within 255 bytes has at most 90 characters. -/
lemma length_decodeMessage_le {e : DecodeError} (h : e.start < e.stop) (h' : e.stop ≤ 255) :
    (decodeMessage e).length ≤ 90 := by
  have hr : (reasonText e.reason).length ≤ 25 := by cases e.reason <;> decide
  have hs : (dec e.start).length ≤ 3 := length_dec_le (by omega)
  have ht : (dec (e.stop - 1)).length ≤ 3 := length_dec_le (by omega)
  have h₁ : (ofString "'utf-8' codec can't decode byte 0x").length = 34 := by decide
  have h₂ : (ofString "'utf-8' codec can't decode bytes in position ").length = 45 := by decide
  have h₃ : (ofString " in position ").length = 13 := by decide
  have h₄ : (ofString ": ").length = 2 := by decide
  have h₅ : (ofString "-").length = 1 := by decide
  have h₆ : (hex2 e.byte.toNat).length = 2 := rfl
  unfold decodeMessage
  split_ifs <;> simp only [List.length_append] <;> omega

/-! ## Packing integers -/

/-- `struct.pack` of one unsigned integer of `w` bytes in network byte order. The text of the
refusal depends on the number. -/
def packUInt (w : ℕ) (refusal : ℤ → Text) (x : ℤ) : Except Exn Bytes :=
  if 0 ≤ x ∧ x < 256 ^ w then .ok (Bytes.toBE w x.toNat) else .error ⟨"error", refusal x⟩

/-- A refusal for a number that is first converted to a C integer with these bounds, which may
itself refuse it. -/
def refusalAfter (lower upper : ℤ) (message : String) (x : ℤ) : Text :=
  if lower ≤ x ∧ x < upper then ofString message else ofString "argument out of range"

/-- `struct.pack("!B", x)`, by way of a `long`. -/
def packB (x : ℤ) : Except Exn Bytes :=
  packUInt 1 (refusalAfter (-2 ^ 63) (2 ^ 63) "ubyte format requires 0 <= number <= 255") x

/-- `struct.pack("!H", x)`, by way of an `unsigned long`. -/
def packH (x : ℤ) : Except Exn Bytes :=
  packUInt 2 (refusalAfter 0 (2 ^ 64) "'H' format requires 0 <= number <= 65535") x

/-- `struct.pack("!I", x)`, by way of an `unsigned long`. -/
def packI (x : ℤ) : Except Exn Bytes :=
  packUInt 4 (refusalAfter 0 (2 ^ 64) "'I' format requires 0 <= number <= 4294967295") x

/-- `struct.pack("!Q", x)`. -/
def packQ (x : ℤ) : Except Exn Bytes :=
  packUInt 8 (fun _ => ofString "int too large to convert") x

/-- Exactly the numbers that fit are packed. -/
lemma packUInt_eq_ok_iff {w : ℕ} {r : ℤ → Text} {x : ℤ} {bs : Bytes} :
    packUInt w r x = .ok bs ↔ 0 ≤ x ∧ x < 256 ^ w ∧ bs = Bytes.toBE w x.toNat := by
  unfold packUInt
  split_ifs with h
  · simp [h, eq_comm]
  · simp only [false_iff]
    tauto

/-- What is packed is the numeral of a natural number. -/
lemma exists_of_packUInt {w : ℕ} {r : ℤ → Text} {x : ℤ} {bs : Bytes}
    (h : packUInt w r x = .ok bs) : ∃ n : ℕ, x = n ∧ n < 256 ^ w ∧ bs = Bytes.toBE w n := by
  obtain ⟨h0, h1, rfl⟩ := packUInt_eq_ok_iff.mp h
  lift x to ℕ using h0
  exact ⟨x, rfl, by exact_mod_cast h1, rfl⟩

/-- Packing a natural number that fits. -/
lemma packUInt_natCast {w n : ℕ} (r : ℤ → Text) (h : n < 256 ^ w) :
    packUInt w r (n : ℤ) = .ok (Bytes.toBE w n) := by
  rw [packUInt, if_pos ⟨by omega, by exact_mod_cast h⟩, Int.toNat_natCast]

@[simp] lemma packB_uint8 (b : UInt8) : packB (b.toNat : ℤ) = .ok [b] := by
  rw [packB, packUInt_natCast _ (by simpa using b.toNat_lt), Bytes.toBE_one]
  simp

@[simp] lemma packH_uint16 (m : UInt16) :
    packH (m.toNat : ℤ) = .ok (Bytes.toBE 2 m.toNat) :=
  packUInt_natCast _ (by simpa using m.toNat_lt)

/-! ## Numbers -/

/-- What the program does with the numbers people write, `float`s for the most part: multiply
by an `int`, convert with `int(x)` (which refuses infinities and NaN) and print with `str(x)`. -/
class Number (F : Type) where
  mulInt : F → ℤ → F
  toInt : F → Except Exn ℤ
  str : F → Text

/-- Integers are numbers. -/
instance : Number ℤ where
  mulInt x n := x * n
  toInt x := .ok x
  str x := ofString (toString x)

end Py
