import SolMesh.Foundations.Bytes

set_option relaxedAutoImplicit false
set_option autoImplicit false

/-!
# Texts and their UTF-8 form

A text is a list of code points, the surrogates `U+D800`-`U+DFFF` included: this is what a
Python `str` is, and it is more than UTF-8 can encode. Encoding refuses a text at its first run
of surrogates; decoding refuses a byte string at its first ill-formed sequence and reports the
span and the reason the strict decoder of the standard library reports.

## Main definitions

* `Text` — a list of code points; `Text.ofString` — the text of a Lean string.
* `Text.encode`, `Text.decode` — the strict UTF-8 codec.
* `Text.IsEncodable` — no surrogate occurs.

## Main results

* `Text.decode_encode` — decoding an encoded text gives the text back.
* `Text.encode_decode` — encoding a decoded text gives the byte string back.
* `Text.encode_eq_ok_iff` — exactly the texts without surrogates can be encoded.
* `Text.decode_error_span` — the span of a decoding error is at most three bytes and lies within
  the byte string.
-/

/-- A Unicode code point, surrogates included. -/
abbrev CodePoint := Fin 0x110000

/-- A text: a list of code points. -/
abbrev Text := List CodePoint

namespace Text

/-- The code point of a character. -/
def ofChar (c : Char) : CodePoint :=
  ⟨c.toNat, by
    rcases c.valid with h | ⟨_, h⟩
    · exact Nat.lt_trans h (by decide)
    · exact h⟩

/-- The text of a Lean string. -/
def ofString (s : String) : Text := s.toList.map ofChar

/-- Different strings have different texts. -/
lemma ofString_injective : Function.Injective ofString := by
  have hchar : ∀ c d : Char, ofChar c = ofChar d → c = d := by
    intro c d h
    have hval : c.toNat = d.toNat := congrArg (fun x : CodePoint => x.val) h
    exact Char.ext (UInt32.toNat_inj.mp hval)
  intro s t h
  exact String.toList_injective ((List.map_inj_right hchar).mp h)

/-- The Lean string of a text without surrogates. -/
def toStr (t : Text) : String := String.ofList (t.map fun c => Char.ofNat c.val)

/-- The text of a string gives the string back. -/
@[simp] lemma toStr_ofString (s : String) : toStr (ofString s) = s := by
  rw [toStr, ofString, List.map_map]
  have hchar : (fun c : CodePoint => Char.ofNat c.val) ∘ ofChar = id := by
    funext c
    exact Char.ofNat_toNat c
  rw [hchar, List.map_id, String.ofList_toList]

/-! ## Encoding -/

/-- The surrogate code points, which have no UTF-8 form. -/
def IsSurrogate (c : CodePoint) : Prop := 0xD800 ≤ c.val ∧ c.val ≤ 0xDFFF

instance (c : CodePoint) : Decidable (IsSurrogate c) := inferInstanceAs (Decidable (_ ∧ _))

/-- The UTF-8 form of a code point that is not a surrogate. -/
def encodePoint (c : CodePoint) : Bytes :=
  let n := c.val
  if n < 0x80 then [UInt8.ofNat n]
  else if n < 0x800 then [UInt8.ofNat (0xC0 + n / 64), UInt8.ofNat (0x80 + n % 64)]
  else if n < 0x10000 then
    [UInt8.ofNat (0xE0 + n / 4096), UInt8.ofNat (0x80 + n / 64 % 64), UInt8.ofNat (0x80 + n % 64)]
  else
    [UInt8.ofNat (0xF0 + n / 262144), UInt8.ofNat (0x80 + n / 4096 % 64),
      UInt8.ofNat (0x80 + n / 64 % 64), UInt8.ofNat (0x80 + n % 64)]

/-- Why a text cannot be encoded: its first run of surrogates is `[start, stop)`, and `point` is
the first of them. -/
structure EncodeError where
  start : ℕ
  stop : ℕ
  point : CodePoint
  deriving DecidableEq

/-- Encode `t`, whose first code point stands at index `pos` of the whole text. -/
def encodeFrom (pos : ℕ) : Text → Except EncodeError Bytes
  | [] => .ok []
  | c :: t =>
    if IsSurrogate c then
      .error ⟨pos, pos + 1 + (t.takeWhile fun d => decide (IsSurrogate d)).length, c⟩
    else (encodePoint c ++ ·) <$> encodeFrom (pos + 1) t

/-- The strict UTF-8 form of a text. -/
def encode (t : Text) : Except EncodeError Bytes := encodeFrom 0 t

/-- A text UTF-8 can encode: no surrogate occurs. -/
def IsEncodable (t : Text) : Prop := ∀ c ∈ t, ¬ IsSurrogate c

instance (t : Text) : Decidable (IsEncodable t) := List.decidableBAll _ t

/-- The UTF-8 form of an encodable text. -/
def utf8 (t : Text) : Bytes := t.flatMap encodePoint

/-- An encodable text is encoded code point by code point. -/
lemma encodeFrom_of_encodable {t : Text} (h : IsEncodable t) (pos : ℕ) :
    encodeFrom pos t = .ok (utf8 t) := by
  induction t generalizing pos with
  | nil => rfl
  | cons c t ih =>
    have hc : ¬ IsSurrogate c := h c (by simp)
    have ht : IsEncodable t := fun d hd => h d (by simp [hd])
    rw [encodeFrom, if_neg hc, ih ht]
    rfl

/-- Encoding an encodable text succeeds. -/
lemma encode_of_encodable {t : Text} (h : IsEncodable t) : encode t = .ok (utf8 t) :=
  encodeFrom_of_encodable h 0

/-- A text with a surrogate is refused. -/
lemma encodeFrom_of_not_encodable {t : Text} (h : ¬ IsEncodable t) (pos : ℕ) :
    ∃ e, encodeFrom pos t = .error e := by
  induction t generalizing pos with
  | nil => exact absurd (by simp [IsEncodable]) h
  | cons c t ih =>
    rw [encodeFrom]
    by_cases hc : IsSurrogate c
    · exact ⟨_, if_pos hc⟩
    · have ht : ¬ IsEncodable t := fun ht => h (by
        intro d hd
        rcases List.mem_cons.mp hd with rfl | hd
        · exact hc
        · exact ht d hd)
      obtain ⟨e, he⟩ := ih ht (pos + 1)
      exact ⟨e, by rw [if_neg hc, he]; rfl⟩

/-- **Exactly the encodable texts are encoded**, to their UTF-8 form. -/
lemma encode_eq_ok_iff {t : Text} {bs : Bytes} :
    encode t = .ok bs ↔ IsEncodable t ∧ bs = utf8 t := by
  by_cases h : IsEncodable t
  · simp [encode_of_encodable h, h, eq_comm]
  · obtain ⟨e, he⟩ := encodeFrom_of_not_encodable h 0
    simp [encode, he, h]

/-- The characters of a Lean string are never surrogates. -/
lemma encodable_ofString (s : String) : IsEncodable (ofString s) := by
  intro c hc
  obtain ⟨ch, _, rfl⟩ := List.mem_map.mp hc
  rintro ⟨h₁, h₂⟩
  have hn : (ofChar ch).val = ch.val.toNat := rfl
  rw [hn] at h₁ h₂
  rcases ch.valid with h | ⟨h, _⟩ <;> simp only [UInt32.toNat] at * <;> omega

/-- Concatenating encodable texts. -/
lemma encodable_append {s t : Text} : IsEncodable (s ++ t) ↔ IsEncodable s ∧ IsEncodable t := by
  simp [IsEncodable, or_imp, forall_and]

/-- A code point takes at most four bytes. -/
lemma length_encodePoint_le (c : CodePoint) : (encodePoint c).length ≤ 4 := by
  simp only [encodePoint]
  split_ifs <;> simp

/-- A text takes at most four bytes for each code point. -/
lemma length_utf8_le (t : Text) : (utf8 t).length ≤ 4 * t.length := by
  induction t with
  | nil => simp [utf8]
  | cons c t ih =>
    have hc := length_encodePoint_le c
    have hl : (utf8 (c :: t)).length = (encodePoint c).length + (utf8 t).length := by
      simp [utf8]
    rw [hl, List.length_cons]
    omega

/-- Every code point takes at least one byte. -/
lemma encodePoint_ne_nil (c : CodePoint) : encodePoint c ≠ [] := by
  simp only [encodePoint]
  split_ifs <;> simp

/-- Only the empty text has the empty form. -/
lemma utf8_eq_nil_iff {t : Text} : utf8 t = [] ↔ t = [] := by
  cases t with
  | nil => simp [utf8]
  | cons c t => simp [utf8, encodePoint_ne_nil c]

/-! ## Decoding -/

/-- The three reasons the strict decoder gives. -/
inductive DecodeReason
  | invalidStart
  | invalidContinuation
  | unexpectedEnd
  deriving DecidableEq

/-- Why a byte string cannot be decoded: the bytes `[start, stop)`, the first of which is
`byte`, are ill-formed. -/
structure DecodeError where
  byte : UInt8
  start : ℕ
  stop : ℕ
  reason : DecodeReason
  deriving DecidableEq

/-- A continuation byte. -/
def isCont (b : UInt8) : Bool := 0x80 ≤ b.toNat && b.toNat < 0xC0

/-- May `b1` follow the lead byte `b` of a three-byte form? Overlong forms and surrogates are
excluded here. -/
def second3 (b b1 : UInt8) : Bool :=
  isCont b1 && !(b.toNat == 0xE0 && b1.toNat < 0xA0) && !(b.toNat == 0xED && 0xA0 ≤ b1.toNat)

/-- May `b1` follow the lead byte `b` of a four-byte form? Overlong forms and code points past
`U+10FFFF` are excluded here. -/
def second4 (b b1 : UInt8) : Bool :=
  isCont b1 && !(b.toNat == 0xF0 && b1.toNat < 0x90) && !(b.toNat == 0xF4 && 0x90 ≤ b1.toNat)

/-- The code point with number `n`, and `U+0000` out of range. -/
def point (n : ℕ) : CodePoint := Fin.ofNat 0x110000 n

/-- Decode `bs`, whose first byte stands at index `pos` of the whole byte string. -/
def decodeFrom (pos : ℕ) : Bytes → Except DecodeError Text
  | [] => .ok []
  | b :: rest =>
    if b.toNat < 0x80 then (point b.toNat :: ·) <$> decodeFrom (pos + 1) rest
    else if b.toNat < 0xC2 then .error ⟨b, pos, pos + 1, .invalidStart⟩
    else if b.toNat < 0xE0 then
      match rest with
      | [] => .error ⟨b, pos, pos + 1, .unexpectedEnd⟩
      | b1 :: rest =>
        if isCont b1 then
          (point ((b.toNat - 0xC0) * 64 + (b1.toNat - 0x80)) :: ·) <$> decodeFrom (pos + 2) rest
        else .error ⟨b, pos, pos + 1, .invalidContinuation⟩
    else if b.toNat < 0xF0 then
      match rest with
      | [] => .error ⟨b, pos, pos + 1, .unexpectedEnd⟩
      | b1 :: rest =>
        if second3 b b1 then
          match rest with
          | [] => .error ⟨b, pos, pos + 2, .unexpectedEnd⟩
          | b2 :: rest =>
            if isCont b2 then
              (point ((b.toNat - 0xE0) * 4096 + (b1.toNat - 0x80) * 64 + (b2.toNat - 0x80)) :: ·)
                <$> decodeFrom (pos + 3) rest
            else .error ⟨b, pos, pos + 2, .invalidContinuation⟩
        else .error ⟨b, pos, pos + 1, .invalidContinuation⟩
    else if b.toNat < 0xF5 then
      match rest with
      | [] => .error ⟨b, pos, pos + 1, .unexpectedEnd⟩
      | b1 :: rest =>
        if second4 b b1 then
          match rest with
          | [] => .error ⟨b, pos, pos + 2, .unexpectedEnd⟩
          | b2 :: rest =>
            if isCont b2 then
              match rest with
              | [] => .error ⟨b, pos, pos + 3, .unexpectedEnd⟩
              | b3 :: rest =>
                if isCont b3 then
                  (point ((b.toNat - 0xF0) * 262144 + (b1.toNat - 0x80) * 4096 +
                    (b2.toNat - 0x80) * 64 + (b3.toNat - 0x80)) :: ·)
                    <$> decodeFrom (pos + 4) rest
                else .error ⟨b, pos, pos + 3, .invalidContinuation⟩
            else .error ⟨b, pos, pos + 2, .invalidContinuation⟩
        else .error ⟨b, pos, pos + 1, .invalidContinuation⟩
    else .error ⟨b, pos, pos + 1, .invalidStart⟩

/-- The text a byte string is the strict UTF-8 form of. -/
def decode (bs : Bytes) : Except DecodeError Text := decodeFrom 0 bs

/-- Decode as far as possible, at most `fuel` pieces, with U+FFFD for each ill-formed piece. -/
def decodeReplaceFrom : ℕ → Bytes → Text
  | 0, _ => []
  | fuel + 1, bs =>
    match decode bs with
    | .ok t => t
    | .error e =>
      (decode (bs.take e.start)).toOption.getD [] ++
        point 0xFFFD :: decodeReplaceFrom fuel (bs.drop e.stop)

/-- The text of a byte string, with U+FFFD for each piece that is ill-formed. -/
def decodeReplace (bs : Bytes) : Text := decodeReplaceFrom (bs.length + 1) bs

/-- The number of a code point is recovered. -/
lemma point_val (c : CodePoint) : point c.val = c := by
  simp [point, Fin.ofNat, Nat.mod_eq_of_lt c.isLt]

/-- Prefixing a point to a decoded rest fails only where the rest fails. -/
lemma map_cons_eq_error {c : CodePoint} {r : Except DecodeError Text} {e : DecodeError}
    (h : (c :: ·) <$> r = .error e) : r = .error e := by
  cases r with
  | error e' => simpa using h
  | ok t => cases h

/-- **Where a decoding error lies**: its span is not empty, starts no earlier than the byte
string and ends within it.

**Proof sketch.** Induction along the decoder. A refusal names at most the bytes it has read;
otherwise the error comes from the rest, which starts further right. -/
lemma decodeFrom_error_span {pos : ℕ} {bs : Bytes} {e : DecodeError}
    (h : decodeFrom pos bs = .error e) :
    pos ≤ e.start ∧ e.start < e.stop ∧ e.stop ≤ pos + bs.length := by
  fun_induction decodeFrom pos bs
  case case1 => cases h
  case case2 ih | case5 ih | case9 ih | case15 ih =>
    have hr := ih (map_cons_eq_error h)
    simp only [List.length_cons]
    omega
  all_goals
    cases h
    simp only [List.length_cons]
    omega

/-- The span of a decoding error lies within the byte string. -/
lemma decode_error_span {bs : Bytes} {e : DecodeError} (h : decode bs = .error e) :
    e.start < e.stop ∧ e.stop ≤ bs.length := by
  have hs := decodeFrom_error_span h
  omega

/-- A byte below `2 ^ 8` is the number it was made from. -/
lemma toNat_byte {n : ℕ} (h : n < 256) : (UInt8.ofNat n).toNat = n :=
  UInt8.toNat_ofNat_of_lt' h

/-- The decoder on a one-byte form. -/
lemma decodeFrom_one {pos : ℕ} {b : UInt8} {rest : Bytes} (h : b.toNat < 0x80) :
    decodeFrom pos (b :: rest) = (point b.toNat :: ·) <$> decodeFrom (pos + 1) rest := by
  rw [decodeFrom.eq_def]
  dsimp only
  rw [if_pos h]

/-- The decoder on a two-byte form. -/
lemma decodeFrom_two {pos : ℕ} {b b1 : UInt8} {rest : Bytes} (h : 0xC2 ≤ b.toNat)
    (h' : b.toNat < 0xE0) (h1 : isCont b1) :
    decodeFrom pos (b :: b1 :: rest) =
      (point ((b.toNat - 0xC0) * 64 + (b1.toNat - 0x80)) :: ·) <$> decodeFrom (pos + 2) rest := by
  rw [decodeFrom.eq_def]
  dsimp only
  rw [if_neg (by omega), if_neg (by omega), if_pos h']
  simp only [h1, if_true]

/-- The decoder on a three-byte form. -/
lemma decodeFrom_three {pos : ℕ} {b b1 b2 : UInt8} {rest : Bytes} (h : 0xE0 ≤ b.toNat)
    (h' : b.toNat < 0xF0) (h1 : second3 b b1) (h2 : isCont b2) :
    decodeFrom pos (b :: b1 :: b2 :: rest) =
      (point ((b.toNat - 0xE0) * 4096 + (b1.toNat - 0x80) * 64 + (b2.toNat - 0x80)) :: ·)
        <$> decodeFrom (pos + 3) rest := by
  rw [decodeFrom.eq_def]
  dsimp only
  rw [if_neg (by omega), if_neg (by omega), if_neg (by omega), if_pos h']
  simp only [h1, h2, if_true]

/-- The decoder on a four-byte form. -/
lemma decodeFrom_four {pos : ℕ} {b b1 b2 b3 : UInt8} {rest : Bytes} (h : 0xF0 ≤ b.toNat)
    (h' : b.toNat < 0xF5) (h1 : second4 b b1) (h2 : isCont b2) (h3 : isCont b3) :
    decodeFrom pos (b :: b1 :: b2 :: b3 :: rest) =
      (point ((b.toNat - 0xF0) * 262144 + (b1.toNat - 0x80) * 4096 +
        (b2.toNat - 0x80) * 64 + (b3.toNat - 0x80)) :: ·) <$> decodeFrom (pos + 4) rest := by
  rw [decodeFrom.eq_def]
  dsimp only
  rw [if_neg (by omega), if_neg (by omega), if_neg (by omega), if_neg (by omega), if_pos h']
  simp only [h1, h2, h3, if_true]

/-- A byte that carries six bits behind the mark `10` is a continuation byte. -/
lemma isCont_byte {n : ℕ} (h : n < 64) : isCont (UInt8.ofNat (0x80 + n)) := by
  simp only [isCont, toNat_byte (show 0x80 + n < 256 by omega), Bool.and_eq_true,
    decide_eq_true_eq]
  omega

/-- **One code point**: the decoder reads the form of a code point and goes on behind it.

**Proof sketch.** One case for each length of the form. The lead byte tells the length, the
continuation bytes pass their checks because the number is neither overlong nor a surrogate,
and the digits add up to it. -/
lemma decodeFrom_encodePoint_append {c : CodePoint} (hc : ¬ IsSurrogate c) (pos : ℕ)
    (bs : Bytes) :
    decodeFrom pos (encodePoint c ++ bs) =
      (c :: ·) <$> decodeFrom (pos + (encodePoint c).length) bs := by
  obtain ⟨n, hn⟩ := c
  have hpt : ∀ m, m = n → point m = ⟨n, hn⟩ := by
    rintro m rfl
    exact point_val ⟨m, hn⟩
  simp only [IsSurrogate, not_and, not_le] at hc
  unfold encodePoint
  dsimp only
  split_ifs with h₁ h₂ h₃
  · -- one byte
    have hb := toNat_byte (show n < 256 by omega)
    rw [List.singleton_append, decodeFrom_one (by omega), hpt _ hb]
    rfl
  · -- two bytes
    have hb := toNat_byte (show 0xC0 + n / 64 < 256 by omega)
    have hb1 := toNat_byte (show 0x80 + n % 64 < 256 by omega)
    simp only [List.cons_append, List.nil_append]
    rw [decodeFrom_two (by omega) (by omega) (isCont_byte (by omega)), hpt _ (by omega)]
    rfl
  · -- three bytes
    have hb := toNat_byte (show 0xE0 + n / 4096 < 256 by omega)
    have hb1 := toNat_byte (show 0x80 + n / 64 % 64 < 256 by omega)
    have hb2 := toNat_byte (show 0x80 + n % 64 < 256 by omega)
    have hsec : second3 (UInt8.ofNat (0xE0 + n / 4096)) (UInt8.ofNat (0x80 + n / 64 % 64)) := by
      simp only [second3, isCont_byte (show n / 64 % 64 < 64 by omega), hb, hb1, Bool.true_and,
        Bool.and_eq_true, Bool.not_eq_true', Bool.and_eq_false_iff, decide_eq_false_iff_not,
        beq_eq_false_iff_ne]
      omega
    simp only [List.cons_append, List.nil_append]
    rw [decodeFrom_three (by omega) (by omega) hsec (isCont_byte (by omega)), hpt _ (by omega)]
    rfl
  · -- four bytes
    have hb := toNat_byte (show 0xF0 + n / 262144 < 256 by omega)
    have hb1 := toNat_byte (show 0x80 + n / 4096 % 64 < 256 by omega)
    have hb2 := toNat_byte (show 0x80 + n / 64 % 64 < 256 by omega)
    have hb3 := toNat_byte (show 0x80 + n % 64 < 256 by omega)
    have hsec : second4 (UInt8.ofNat (0xF0 + n / 262144))
        (UInt8.ofNat (0x80 + n / 4096 % 64)) := by
      simp only [second4, isCont_byte (show n / 4096 % 64 < 64 by omega), hb, hb1, Bool.true_and,
        Bool.and_eq_true, Bool.not_eq_true', Bool.and_eq_false_iff, decide_eq_false_iff_not,
        beq_eq_false_iff_ne]
      omega
    simp only [List.cons_append, List.nil_append]
    rw [decodeFrom_four (by omega) (by omega) hsec (isCont_byte (by omega))
      (isCont_byte (by omega)), hpt _ (by omega)]
    rfl

/-- Decoding the form of an encodable text gives the text back, from any position. -/
lemma decodeFrom_utf8 {t : Text} (h : IsEncodable t) (pos : ℕ) :
    decodeFrom pos (utf8 t) = .ok t := by
  induction t generalizing pos with
  | nil => rfl
  | cons c t ih =>
    have hc : ¬ IsSurrogate c := h c (by simp)
    have ht : IsEncodable t := fun d hd => h d (by simp [hd])
    have hu : utf8 (c :: t) = encodePoint c ++ utf8 t := by simp [utf8]
    rw [hu, decodeFrom_encodePoint_append hc, ih ht]
    rfl

/-- **Decoding undoes encoding.** -/
theorem decode_encode {t : Text} {bs : Bytes} (h : encode t = .ok bs) : decode bs = .ok t := by
  obtain ⟨he, rfl⟩ := encode_eq_ok_iff.mp h
  exact decodeFrom_utf8 he 0

/-! ## The decoder takes nothing else -/

/-- The number of a point in range. -/
lemma val_point {n : ℕ} (h : n < 0x110000) : (point n).val = n := Nat.mod_eq_of_lt h

/-- A byte is made from its number. -/
lemma ofNat_eq_byte {n : ℕ} {b : UInt8} (h : n = b.toNat) : UInt8.ofNat n = b := by
  rw [h, UInt8.ofNat_toNat]

/-- The numbers of the continuation bytes. -/
lemma isCont_iff {b : UInt8} : isCont b = true ↔ 0x80 ≤ b.toNat ∧ b.toNat < 0xC0 := by
  simp [isCont]

/-- What is read from one byte has this byte as its form. -/
lemma encodePoint_one {b : UInt8} (h : b.toNat < 0x80) :
    ¬ IsSurrogate (point b.toNat) ∧ encodePoint (point b.toNat) = [b] := by
  have hval : (point b.toNat).val = b.toNat := val_point (by omega)
  unfold IsSurrogate encodePoint
  dsimp only
  rw [hval, if_pos h, ofNat_eq_byte rfl]
  exact ⟨by omega, rfl⟩

/-- What is read from two bytes has these bytes as its form. -/
lemma encodePoint_two {b b1 : UInt8} (h : 0xC2 ≤ b.toNat) (h' : b.toNat < 0xE0)
    (h1 : isCont b1 = true) :
    let c := point ((b.toNat - 0xC0) * 64 + (b1.toNat - 0x80))
    ¬ IsSurrogate c ∧ encodePoint c = [b, b1] := by
  have hc := isCont_iff.mp h1
  have hval : (point ((b.toNat - 0xC0) * 64 + (b1.toNat - 0x80))).val =
      (b.toNat - 0xC0) * 64 + (b1.toNat - 0x80) := val_point (by omega)
  unfold IsSurrogate encodePoint
  dsimp only
  rw [hval, if_neg (by omega), if_pos (by omega), @ofNat_eq_byte _ b (by omega),
    @ofNat_eq_byte _ b1 (by omega)]
  exact ⟨by omega, rfl⟩

/-- What is read from three bytes has these bytes as its form. -/
lemma encodePoint_three {b b1 b2 : UInt8} (h : 0xE0 ≤ b.toNat) (h' : b.toNat < 0xF0)
    (h1 : second3 b b1 = true) (h2 : isCont b2 = true) :
    let c := point ((b.toNat - 0xE0) * 4096 + (b1.toNat - 0x80) * 64 + (b2.toNat - 0x80))
    ¬ IsSurrogate c ∧ encodePoint c = [b, b1, b2] := by
  simp only [second3, Bool.and_eq_true, Bool.not_eq_true', Bool.and_eq_false_iff,
    decide_eq_false_iff_not, beq_eq_false_iff_ne] at h1
  -- the second byte excludes overlong forms and surrogates
  obtain ⟨⟨hc1, hlong⟩, hsurrogate⟩ := h1
  have hc1 := isCont_iff.mp hc1
  have hc2 := isCont_iff.mp h2
  have hval : (point ((b.toNat - 0xE0) * 4096 + (b1.toNat - 0x80) * 64 + (b2.toNat - 0x80))).val =
      (b.toNat - 0xE0) * 4096 + (b1.toNat - 0x80) * 64 + (b2.toNat - 0x80) := val_point (by omega)
  unfold IsSurrogate encodePoint
  dsimp only
  rw [hval, if_neg (by omega), if_neg (by omega), if_pos (by omega),
    @ofNat_eq_byte _ b (by omega), @ofNat_eq_byte _ b1 (by omega), @ofNat_eq_byte _ b2 (by omega)]
  exact ⟨by omega, rfl⟩

/-- What is read from four bytes has these bytes as its form.

**Proof sketch.** The conditions on the four bytes bound each of them, so the point lies in the
range of four bytes and is no surrogate, and its form is computed from the bounds. -/
lemma encodePoint_four {b b1 b2 b3 : UInt8} (h : 0xF0 ≤ b.toNat) (h' : b.toNat < 0xF5)
    (h1 : second4 b b1 = true) (h2 : isCont b2 = true) (h3 : isCont b3 = true) :
    let c := point ((b.toNat - 0xF0) * 262144 + (b1.toNat - 0x80) * 4096 +
      (b2.toNat - 0x80) * 64 + (b3.toNat - 0x80))
    ¬ IsSurrogate c ∧ encodePoint c = [b, b1, b2, b3] := by
  simp only [second4, Bool.and_eq_true, Bool.not_eq_true', Bool.and_eq_false_iff,
    decide_eq_false_iff_not, beq_eq_false_iff_ne] at h1
  -- the second byte excludes overlong forms and numbers that are too large
  obtain ⟨⟨hc1, hlong⟩, hlarge⟩ := h1
  have hc1 := isCont_iff.mp hc1
  have hc2 := isCont_iff.mp h2
  have hc3 := isCont_iff.mp h3
  have hval : (point ((b.toNat - 0xF0) * 262144 + (b1.toNat - 0x80) * 4096 +
      (b2.toNat - 0x80) * 64 + (b3.toNat - 0x80))).val = (b.toNat - 0xF0) * 262144 +
        (b1.toNat - 0x80) * 4096 + (b2.toNat - 0x80) * 64 + (b3.toNat - 0x80) :=
    val_point (by omega)
  unfold IsSurrogate encodePoint
  dsimp only
  rw [hval, if_neg (by omega), if_neg (by omega), if_neg (by omega),
    @ofNat_eq_byte _ b (by omega), @ofNat_eq_byte _ b1 (by omega), @ofNat_eq_byte _ b2 (by omega),
    @ofNat_eq_byte _ b3 (by omega)]
  exact ⟨by omega, rfl⟩

/-- A code point is put in front of a text. -/
lemma utf8_of_map_cons {c : CodePoint} {form rest : Bytes} {r : Except DecodeError Text}
    {t : Text} (hform : ¬ IsSurrogate c ∧ encodePoint c = form)
    (hrest : ∀ {t' : Text}, r = .ok t' → IsEncodable t' ∧ utf8 t' = rest)
    (h : (c :: ·) <$> r = .ok t) : IsEncodable t ∧ utf8 t = form ++ rest := by
  obtain ⟨hc, rfl⟩ := hform
  cases r with
  | error e => cases h
  | ok t' =>
    obtain rfl := Except.ok.inj h
    obtain ⟨hencodable, rfl⟩ := hrest rfl
    exact ⟨List.forall_mem_cons.mpr ⟨hc, hencodable⟩, by simp [utf8]⟩

/-- **What is decoded is the form of the text that is returned.**

**Proof sketch.** Induction along the decoder. Each piece that it accepts is the form of the code
point that it reads: the checks of the second byte leave no other form of it. -/
lemma utf8_of_decodeFrom {pos : ℕ} {bs : Bytes} {t : Text} (h : decodeFrom pos bs = .ok t) :
    IsEncodable t ∧ utf8 t = bs := by
  fun_induction decodeFrom pos bs generalizing t
  case case1 =>
    cases h
    exact ⟨by simp [IsEncodable], rfl⟩
  case case2 hone ih => exact utf8_of_map_cons (encodePoint_one hone) ih h
  case case5 hcont ih =>
    exact utf8_of_map_cons (encodePoint_two (by omega) (by omega) hcont) ih h
  case case9 hsecond _ _ hcont ih =>
    exact utf8_of_map_cons (encodePoint_three (by omega) (by omega) hsecond hcont) ih h
  case case15 hsecond _ hcont _ _ hcont' ih =>
    exact utf8_of_map_cons (encodePoint_four (by omega) (by omega) hsecond hcont hcont') ih h
  all_goals cases h

/-- **Encoding undoes decoding.** -/
theorem encode_decode {bs : Bytes} {t : Text} (h : decode bs = .ok t) : encode t = .ok bs := by
  obtain ⟨hencodable, hutf8⟩ := utf8_of_decodeFrom h
  exact encode_eq_ok_iff.mpr ⟨hencodable, hutf8.symm⟩

/-- Different strings have different UTF-8 forms. -/
lemma utf8_ofString_injective : Function.Injective fun s => utf8 (ofString s) := by
  intro s t h
  change utf8 (ofString s) = utf8 (ofString t) at h
  have hs := decodeFrom_utf8 (encodable_ofString s) 0
  rw [h, decodeFrom_utf8 (encodable_ofString t)] at hs
  exact ofString_injective (Except.ok.inj hs).symm

end Text
