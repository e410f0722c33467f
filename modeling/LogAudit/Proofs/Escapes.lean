import LogAudit.Json.Parser
import LogAudit.Json.Printer
import LogAudit.Proofs.Scanning

/-! # Strings are read back

A character of a string is written as it is, or in one of several escapes. The reader undoes one of them at
a time, so that the text of a string tells the string and where it ends, whichever way it is written.

* `HexCode`: four hexadecimal digits, in either case.
* `Spells`: the ways to write a character.
* `spells_charText`: one of them is chosen when a string is written.
* `string?_flatten`, `stringText_cancel`: whole strings. -/

namespace LogAudit.Json
set_option autoImplicit false

open Text

variable {ascii : Bool} {rest : List Char}

/-! ## Codes -/

/-- A hexadecimal digit, in either case, for a value. -/
def IsHexDigit (value : Nat) (digit : Char) : Prop :=
  "0123456789abcdef".toList[value]? = some digit ∨ "0123456789ABCDEF".toList[value]? = some digit

instance (value : Nat) (digit : Char) : Decidable (IsHexDigit value digit) :=
  inferInstanceAs (Decidable (_ ∨ _))

/-- A code of sixteen bits in four hexadecimal digits, the highest one first. -/
inductive HexCode : Nat → List Char → Prop
  | digits {a b c d : Nat} {w x y z : Char} : IsHexDigit a w → IsHexDigit b x → IsHexDigit c y →
      IsHexDigit d z → HexCode (((a * 16 + b) * 16 + c) * 16 + d) [w, x, y, z]

theorem hexValue?_of_isHexDigit {value : Nat} {digit : Char} (h : IsHexDigit value digit) :
    hexValue? digit = some value := by
  have hlt : value < 16 := h.elim (fun h => (List.getElem?_eq_some_iff.mp h).1)
    (fun h => (List.getElem?_eq_some_iff.mp h).1)
  interval_cases value
  all_goals
    rcases h with h | h
    all_goals
      obtain rfl := Option.some.inj h
      rfl

theorem isHexDigit_hexDigit : ∀ value < 16, IsHexDigit value (hexDigit value) := by decide

theorem hexCode_hexDigits {unit : Nat} (h : unit < 0x10000) : HexCode unit (hexDigits 4 unit) := by
  have hdigit : ∀ value, IsHexDigit (value % 16) (hexDigit (value % 16)) := fun value =>
    isHexDigit_hexDigit _ (Nat.mod_lt _ (by decide))
  have hcode := HexCode.digits (hdigit (unit / 16 / 16 / 16)) (hdigit (unit / 16 / 16))
    (hdigit (unit / 16)) (hdigit unit)
  rwa [show ((unit / 16 / 16 / 16 % 16 * 16 + unit / 16 / 16 % 16) * 16 + unit / 16 % 16) * 16 + unit % 16 =
    unit by omega] at hcode

variable {unit : Nat} {digits : List Char}

theorem hexUnit?_of_hexCode (h : HexCode unit digits) : hexUnit? (digits ++ rest) = some (unit, rest) := by
  obtain ⟨ha, hb, hc, hd⟩ := h
  simp only [List.cons_append, List.nil_append, hexUnit?, hexValue?_of_isHexDigit ha,
    hexValue?_of_isHexDigit hb, hexValue?_of_isHexDigit hc, hexValue?_of_isHexDigit hd]

theorem escape?_unit (h : HexCode unit digits) (hunit : unit < 0xD800 ∨ 0xDFFF < unit) :
    escape? ('u' :: (digits ++ rest)) = some (Char.ofNat unit, rest) := by
  have hhigh : ¬ (0xD800 ≤ unit ∧ unit ≤ 0xDBFF) := by omega
  have hlow : ¬ (0xDC00 ≤ unit ∧ unit ≤ 0xDFFF) := by omega
  simp only [escape?, unicodeEscape?]
  rw [hexUnit?_of_hexCode h, Option.map_some]
  simp only [if_neg hhigh, if_neg hlow]

theorem escape?_pair {offset : Nat} {high low : List Char} (h : offset < 0x100000)
    (hfirst : HexCode (0xD800 + offset / 0x400) high) (hsecond : HexCode (0xDC00 + offset % 0x400) low) :
    escape? ('u' :: (high ++ '\\' :: 'u' :: (low ++ rest))) =
      some (Char.ofNat (0x10000 + offset), rest) := by
  have hmod : offset % 0x400 < 0x400 := Nat.mod_lt _ (by decide)
  have hhigh : 0xD800 ≤ 0xD800 + offset / 0x400 ∧ 0xD800 + offset / 0x400 ≤ 0xDBFF := by omega
  have hlow : 0xDC00 ≤ 0xDC00 + offset % 0x400 ∧ 0xDC00 + offset % 0x400 ≤ 0xDFFF := by omega
  have hunit : lowUnit? ('\\' :: 'u' :: (low ++ rest)) = some (0xDC00 + offset % 0x400, rest) := by
    simp only [lowUnit?]
    rw [hexUnit?_of_hexCode hsecond]
    simp only [if_pos hlow]
  have hcode : 0x10000 + (0xD800 + offset / 0x400 - 0xD800) * 0x400 +
      (0xDC00 + offset % 0x400 - 0xDC00) = 0x10000 + offset := by omega
  simp only [escape?, unicodeEscape?]
  rw [hexUnit?_of_hexCode hfirst, Option.map_some]
  simp only [if_pos hhigh, hunit, hcode]

/-! ## Characters -/

theorem toNat_bounds (c : Char) : c.toNat < 0xD800 ∨ 0xDFFF < c.toNat ∧ c.toNat < 0x110000 :=
  c.valid

/-- The letters that stand for a character behind a backslash, with these characters. -/
def shortEscapes : List (Char × Char) :=
  [('"', '"'), ('\\', '\\'), ('/', '/'), ('b', '\x08'), ('f', '\x0c'), ('n', '\n'), ('r', '\r'),
    ('t', '\t')]

/-- The ways to write a character in a string: as it is, unless it is a quote, a backslash or a control
character; with a backslash and a letter; by its code, or beyond the basic plane by the codes of a pair. -/
inductive Spells : Char → List Char → Prop
  | plain {c : Char} : 0x20 ≤ c.toNat → c ≠ '"' → c ≠ '\\' → Spells c [c]
  | short {mark c : Char} : (mark, c) ∈ shortEscapes → Spells c ['\\', mark]
  | unit {c : Char} {digits : List Char} : HexCode c.toNat digits → Spells c ('\\' :: 'u' :: digits)
  | pair {c : Char} {high low : List Char} : 0x10000 ≤ c.toNat →
      HexCode (0xD800 + (c.toNat - 0x10000) / 0x400) high →
      HexCode (0xDC00 + (c.toNat - 0x10000) % 0x400) low →
      Spells c ('\\' :: 'u' :: (high ++ '\\' :: 'u' :: low))

/-- What can stand for a character in a string: the character itself, if it has no other meaning
there, or a backslash and what the reader takes for the character. -/
def StandsFor (c : Char) (written : List Char) : Prop :=
  (written = [c] ∧ c ≠ '"' ∧ c ≠ '\\' ∧ 32 ≤ c.toNat) ∨
    ∃ code, written = '\\' :: code ∧ ∀ rest, escape? (code ++ rest) = some (c, rest)

variable {c : Char} {written : List Char}

theorem standsFor_escaped (code : List Char)
    (h : ∀ rest, escape? (code ++ rest) = some (c, rest)) : StandsFor c ('\\' :: code) :=
  Or.inr ⟨code, rfl, h⟩

theorem Spells.standsFor (h : Spells c written) : StandsFor c written := by
  have hbounds := toNat_bounds c
  cases h with
  | plain hcontrol hquote hslash => exact Or.inl ⟨rfl, hquote, hslash, hcontrol⟩
  | @short mark _ hmem =>
    simp only [shortEscapes, List.mem_cons, Prod.mk.injEq, List.not_mem_nil, or_false] at hmem
    rcases hmem with ⟨rfl, rfl⟩ | ⟨rfl, rfl⟩ | ⟨rfl, rfl⟩ | ⟨rfl, rfl⟩ | ⟨rfl, rfl⟩ | ⟨rfl, rfl⟩ |
      ⟨rfl, rfl⟩ | ⟨rfl, rfl⟩
    all_goals exact standsFor_escaped [_] fun _ => rfl
  | @unit _ digits hcode =>
    refine standsFor_escaped ('u' :: digits) fun rest => ?_
    rw [List.cons_append, escape?_unit hcode (by omega), Char.ofNat_toNat]
  | @pair _ high low hplane hhigh hlow =>
    refine standsFor_escaped ('u' :: (high ++ '\\' :: 'u' :: low)) fun rest => ?_
    rw [List.cons_append, List.append_assoc, List.cons_append, List.cons_append,
      escape?_pair (by omega) hhigh hlow, Nat.add_sub_cancel' hplane, Char.ofNat_toNat]

theorem spells_charText (ascii : Bool) (c : Char) : Spells c (charText ascii c) := by
  by_cases hquote : c = '"'
  · exact hquote ▸ .short (by decide)
  by_cases hslash : c = '\\'
  · exact hslash ▸ .short (by decide)
  by_cases hnewline : c = '\n'
  · exact hnewline ▸ .short (by decide)
  by_cases hreturn : c = '\r'
  · exact hreturn ▸ .short (by decide)
  by_cases htab : c = '\t'
  · exact htab ▸ .short (by decide)
  by_cases hback : c = Char.ofNat 8
  · exact hback ▸ .short (by decide)
  by_cases hfeed : c = Char.ofNat 12
  · exact hfeed ▸ .short (by decide)
  have hother : charText ascii c =
      if c.toNat < 32 then unitEscape c.toNat
      else if ascii && c.toNat > 126 then
        if c.toNat < 0x10000 then unitEscape c.toNat
        else unitEscape (0xD800 + (c.toNat - 0x10000) / 0x400) ++
          unitEscape (0xDC00 + (c.toNat - 0x10000) % 0x400)
      else [c] := by
    have hcode : ∀ code, c ≠ Char.ofNat code → c.toNat ≠ code := by
      rintro code hne rfl
      exact hne (Char.ofNat_toNat c).symm
    simp only [charText, beq_iff_eq, hquote, hslash, hnewline, hreturn, htab, hcode 8 hback,
      hcode 12 hfeed, if_false]
  have hbounds := toNat_bounds c
  rw [hother]
  by_cases hcontrol : c.toNat < 32
  · rw [if_pos hcontrol]
    exact .unit (hexCode_hexDigits (by omega))
  rw [if_neg hcontrol]
  by_cases hbeyond : (ascii && c.toNat > 126) = true
  · rw [if_pos hbeyond]
    by_cases hplane : c.toNat < 0x10000
    · rw [if_pos hplane]
      exact .unit (hexCode_hexDigits hplane)
    · rw [if_neg hplane]
      exact .pair (by omega) (hexCode_hexDigits (by omega)) (hexCode_hexDigits (by omega))
  · rw [if_neg hbeyond]
    exact .plain (by omega) hquote hslash

/-- One written character is read back, and uses up one of the characters that are allowed. -/
theorem stringFrom?_spelled (h : Spells c written) (count : Nat) (read rest : List Char) :
    stringFrom? (count + 1) read (written ++ rest) = stringFrom? count (c :: read) rest := by
  rcases h.standsFor with ⟨htext, hquote, hslash, hcontrol⟩ | ⟨code, htext, hcode⟩
  · have hplain : ¬ c.toNat < 32 := by omega
    simp [htext, stringFrom?, hquote, hslash, hplain]
  · simp [htext, stringFrom?, hcode]

theorem Spells.ne_nil (h : Spells c written) : written ≠ [] := by
  cases h <;> exact List.cons_ne_nil _ _

/-! ## Strings -/

variable {text : List Char} {parts : List (List Char)}

theorem stringFrom?_flatten (h : List.Forall₂ Spells text parts) {count : Nat} (read rest : List Char)
    (hcount : text.length < count) :
    stringFrom? count read (parts.flatten ++ '"' :: rest) =
      some (String.ofList (read.reverse ++ text), rest) := by
  induction h generalizing count read with
  | nil =>
    obtain ⟨count, rfl⟩ : ∃ further, count = further + 1 := ⟨count - 1, by simp at hcount; omega⟩
    simp [stringFrom?]
  | cons hc _ ih =>
    rw [List.length_cons] at hcount
    obtain ⟨count, rfl⟩ : ∃ further, count = further + 1 := ⟨count - 1, by omega⟩
    rw [List.flatten_cons, List.append_assoc, stringFrom?_spelled hc, ih _ (by omega), List.reverse_cons,
      List.append_assoc, List.singleton_append]

theorem length_le_flatten (h : List.Forall₂ Spells text parts) : text.length ≤ parts.flatten.length := by
  induction h with
  | nil => simp
  | cons hc _ ih =>
    have hpos := List.length_pos_iff.mpr hc.ne_nil
    rw [List.flatten_cons, List.length_append, List.length_cons]
    omega

theorem string?_flatten {text : String} (h : List.Forall₂ Spells text.toList parts) (rest : List Char) :
    string? (parts.flatten ++ '"' :: rest) = some (text, rest) := by
  have hlength := length_le_flatten h
  have hcount : text.toList.length < (parts.flatten ++ '"' :: rest).length + 1 := by
    rw [List.length_append]
    omega
  rw [string?, stringFrom?_flatten h _ _ hcount]
  simp

theorem forall₂_spells_charText (ascii : Bool) (text : List Char) :
    List.Forall₂ Spells text (text.map (charText ascii)) :=
  List.forall₂_map_right_iff.mpr (List.forall₂_same.mpr fun c _ => spells_charText ascii c)

theorem string?_flatMap (ascii : Bool) (text : String) (rest : List Char) :
    string? (text.toList.flatMap (charText ascii) ++ '"' :: rest) = some (text, rest) :=
  string?_flatten (forall₂_spells_charText ascii text.toList) rest

theorem toList_stringText (ascii : Bool) (text : String) :
    (stringText ascii text).toList = '"' :: (text.toList.flatMap (charText ascii) ++ ['"']) := by
  rw [stringText, String.toList_ofList, List.cons_append]

theorem stringText_cancel {text other : String} {rest rest' : List Char}
    (h : (stringText ascii text).toList ++ rest = (stringText ascii other).toList ++ rest') :
    text = other ∧ rest = rest' := by
  simp only [toList_stringText, List.cons_append, List.append_assoc, List.nil_append,
    List.cons.injEq, true_and] at h
  have hread := string?_flatMap ascii text rest
  rw [h, string?_flatMap] at hread
  obtain ⟨htext, hrest⟩ := Prod.mk.inj (Option.some.inj hread)
  exact ⟨htext.symm, hrest.symm⟩

end LogAudit.Json
