import Mathlib
import LogAudit.Xml.Document

/-! # Documents in UTF-8

The bytes of a text in UTF-8 are read back as that text.

* `utf8Bytes`: the bytes of a text.
* `CharBytes`: the bytes of one character, whichever reader takes them.
* `utf8Text_utf8Bytes`: what is read from them.
* `decodeUtf8_utf8Bytes`: what is read from them where no flaw is allowed. -/

namespace LogAudit.Xml
set_option autoImplicit false

open Encoding

/-- The bytes of a text in UTF-8. -/
def utf8Bytes (text : List Char) : List UInt8 := text.flatMap String.utf8EncodeChar

theorem utf8Bytes_append (text more : List Char) :
    utf8Bytes (text ++ more) = utf8Bytes text ++ utf8Bytes more :=
  List.flatMap_append

/-! ## Bytes -/

theorem toNat_byte {code : Nat} (h : code < 256) : (UInt8.ofNat code).toNat = code := by
  rw [UInt8.toNat_ofNat', Nat.mod_eq_of_lt h]

theorem byte_lt_iff {code : Nat} (h : code < 256) (bound : UInt8) :
    UInt8.ofNat code < bound ↔ code < bound.toNat := by
  rw [UInt8.lt_iff_toNat_lt, toNat_byte h]

theorem le_byte_iff {code : Nat} (h : code < 256) (bound : UInt8) :
    bound ≤ UInt8.ofNat code ↔ bound.toNat ≤ code := by
  rw [UInt8.le_iff_toNat_le, toNat_byte h]

theorem byte_beq_iff {code : Nat} (h : code < 256) (other : UInt8) :
    (UInt8.ofNat code == other) = true ↔ code = other.toNat := by
  rw [beq_iff_eq, ← UInt8.toNat_inj, toNat_byte h]

theorem isContinuation_byte (code : Nat) : isContinuation (UInt8.ofNat (code % 64 + 128)) = true := by
  have hsmall : code % 64 + 128 < 256 := by omega
  simp only [isContinuation, Bool.and_eq_true, decide_eq_true_eq, le_byte_iff hsmall,
    byte_lt_iff hsmall, UInt8.reduceToNat]
  omega

theorem payload_byte (code : Nat) : payload (UInt8.ofNat (code % 64 + 128)) = code % 64 := by
  rw [payload, toNat_byte (by omega)]
  omega

theorem canFollow_byte {first code : Nat} (hfirst : first < 256)
    (h : (first = 0xE0 → 32 ≤ code % 64) ∧ (first = 0xED → code % 64 < 32) ∧
      (first = 0xF0 → 16 ≤ code % 64) ∧ (first = 0xF4 → code % 64 < 16)) :
    canFollow (UInt8.ofNat first) (UInt8.ofNat (code % 64 + 128)) = true := by
  have hsmall : code % 64 + 128 < 256 := by omega
  simp only [canFollow, isContinuation_byte, Bool.true_and, Bool.and_eq_true, Bool.not_eq_true',
    ← Bool.not_eq_true, byte_beq_iff hfirst, decide_eq_true_eq, byte_lt_iff hsmall, ge_iff_le,
    le_byte_iff hsmall, UInt8.reduceToNat]
  omega

/-! ## Characters -/

/-- The bytes that stand for the character of a code. -/
inductive CharBytes (code : Nat) : List UInt8 → Prop
  | one {a : UInt8} : a.toNat < 0x80 → a.toNat = code → CharBytes code [a]
  | two {a b : UInt8} : 0xC2 ≤ a.toNat → a.toNat < 0xE0 → isContinuation b = true →
      a.toNat % 32 * 64 + payload b = code → CharBytes code [a, b]
  | three {a b c : UInt8} : 0xE0 ≤ a.toNat → a.toNat < 0xF0 → canFollow a b = true →
      isContinuation c = true → (a.toNat % 16 * 64 + payload b) * 64 + payload c = code →
      CharBytes code [a, b, c]
  | four {a b c d : UInt8} : 0xF0 ≤ a.toNat → a.toNat < 0xF5 → canFollow a b = true →
      isContinuation c = true → isContinuation d = true →
      ((a.toNat % 8 * 64 + payload b) * 64 + payload c) * 64 + payload d = code →
      CharBytes code [a, b, c, d]

theorem charBytes_utf8EncodeChar (c : Char) :
    CharBytes c.val.toNat (String.utf8EncodeChar c) := by
  have hvalid : c.val.toNat < 55296 ∨ 57343 < c.val.toNat ∧ c.val.toNat < 1114112 := c.valid
  unfold String.utf8EncodeChar
  dsimp only
  generalize c.val.toNat = code at hvalid ⊢
  split_ifs with hone htwo hthree
  · have hsmall : code < 256 := by omega
    refine .one ?_ (toNat_byte hsmall)
    rw [toNat_byte hsmall]
    omega
  · have hsmall : code / 64 % 32 + 192 < 256 := by omega
    refine .two ?_ ?_ (isContinuation_byte code) ?_
    all_goals rw [toNat_byte hsmall]
    · omega
    · omega
    · rw [payload_byte]
      omega
  · have hsmall : code / 4096 % 16 + 224 < 256 := by omega
    refine .three ?_ ?_ (canFollow_byte hsmall (by omega)) (isContinuation_byte code) ?_
    all_goals rw [toNat_byte hsmall]
    · omega
    · omega
    · rw [payload_byte, payload_byte]
      omega
  · have hsmall : code / 262144 % 8 + 240 < 256 := by omega
    refine .four ?_ ?_ (canFollow_byte hsmall (by omega)) (isContinuation_byte _)
      (isContinuation_byte code) ?_
    all_goals rw [toNat_byte hsmall]
    · omega
    · omega
    · rw [payload_byte, payload_byte, payload_byte]
      omega

/-- A character is read from its bytes, whatever follows them. -/
theorem CharBytes.utf8Text_append {code : Nat} {bytes : List UInt8} (h : CharBytes code bytes)
    (rest : List UInt8) : utf8Text (bytes ++ rest) = (utf8Text rest).cons (Char.ofNat code) := by
  cases h <;> rw [List.cons_append, utf8Text.eq_def] <;>
    simp only [List.cons_append, List.nil_append, UInt8.lt_iff_toNat_lt, ge_iff_le,
      UInt8.le_iff_toNat_le, UInt8.reduceToNat, Bool.or_eq_true, Bool.and_eq_true, decide_eq_true_eq]
  case one hfirst hcode => rw [if_pos hfirst, hcode]
  case two hlow hhigh hcontinues hcode =>
    rw [if_neg (by omega), if_neg (by omega), if_pos hhigh, if_pos ⟨hlow, hcontinues⟩, hcode]
  case three hlow hhigh hfollows hcontinues hcode =>
    rw [if_neg (by omega), if_neg (by omega), if_neg (by omega), if_pos hhigh,
      if_pos ⟨hfollows, hcontinues⟩, hcode]
  case four hlow hhigh hfollows hcontinues hlast hcode =>
    rw [if_neg (by omega), if_neg (by omega), if_neg (by omega), if_neg (by omega),
      if_pos ⟨⟨hfollows, hcontinues⟩, hlast⟩, hcode]

/-- The same where no flaw is allowed. -/
theorem CharBytes.decodeUtf8_append {code : Nat} {bytes : List UInt8} (h : CharBytes code bytes)
    (rest : List UInt8) : decodeUtf8 (bytes ++ rest) = prepend code (decodeUtf8 rest) := by
  cases h <;> rw [List.cons_append, decodeUtf8.eq_def] <;>
    simp only [List.cons_append, List.nil_append, UInt8.lt_iff_toNat_lt, ge_iff_le,
      UInt8.le_iff_toNat_le, UInt8.reduceToNat, Bool.or_eq_true, Bool.and_eq_true, decide_eq_true_eq]
  case one hfirst hcode => rw [if_pos hfirst, hcode]
  case two hlow hhigh hcontinues hcode =>
    rw [if_neg (by omega), if_neg (by omega), if_pos hhigh, if_pos hcontinues, hcode]
  case three hlow hhigh hfollows hcontinues hcode =>
    rw [if_neg (by omega), if_neg (by omega), if_neg (by omega), if_pos hhigh,
      if_pos ⟨hfollows, hcontinues⟩, hcode]
  case four hlow hhigh hfollows hcontinues hlast hcode =>
    rw [if_neg (by omega), if_neg (by omega), if_neg (by omega), if_neg (by omega),
      if_pos ⟨⟨hfollows, hcontinues⟩, hlast⟩, hcode]

/-! ## Texts -/

/-- A text is read from its bytes. -/
theorem utf8Text_utf8Bytes (text : List Char) : utf8Text (utf8Bytes text) = ⟨text, .whole⟩ := by
  induction text with
  | nil => rw [utf8Bytes, List.flatMap_nil, utf8Text]
  | cons c text ih =>
    have hc : Char.ofNat c.val.toNat = c := Char.ofNat_toNat c
    rw [utf8Bytes, List.flatMap_cons, (charBytes_utf8EncodeChar c).utf8Text_append, ← utf8Bytes, ih, hc]
    rfl

/-- The bytes of a text are flawless, and they stand for that text. -/
theorem decodeUtf8_utf8Bytes (text : List Char) : decodeUtf8 (utf8Bytes text) = .ok text := by
  induction text with
  | nil => rw [utf8Bytes, List.flatMap_nil, decodeUtf8]
  | cons c text ih =>
    have hc : Char.ofNat c.val.toNat = c := Char.ofNat_toNat c
    rw [utf8Bytes, List.flatMap_cons, (charBytes_utf8EncodeChar c).decodeUtf8_append, ← utf8Bytes, ih,
      prepend, hc]
    rfl

/-! ## Bytes of strings -/

end LogAudit.Xml
