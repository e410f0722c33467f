import Mathlib
import LogAudit.Encoding.Decode
import LogAudit.Settings.Read

/-! # When bytes are not decoded at all

Bytes that are no text in a character set have a flaw. Apart from that, a decoder can refuse bytes as a
whole: it is no decoder of text, or it wants a mark that the bytes do not begin with.

* `Refused`: the reasons, by character set.
* `refuses_decode_iff`: decoding fails without a flaw exactly for these reasons.
* `read_encoding_known`: the settings admit only names of character sets. -/

namespace LogAudit.Encoding
set_option autoImplicit false

/-- A failure that no flaw of the bytes accounts for. -/
def Failure.IsRefusal (failure : Failure) : Prop := ∀ flaw, failure ≠ .flawed flaw

/-- Bytes that a decoder wants a mark for: there are some, they do not begin with one of the two marks,
and without a mark they would be text with the low byte first. -/
structure Unmarked (marks : List UInt8 × List UInt8)
    (decodeUnits : Bool → List UInt8 → Except Flaw (List Char)) (bytes : List UInt8) : Prop where
  some_bytes : bytes ≠ []
  not_little : ¬ marks.1 <+: bytes
  not_big : ¬ marks.2 <+: bytes
  is_text : ∃ text, decodeUnits true bytes = .ok text

/-- Bytes that the decoder of a character set refuses as a whole. -/
def Refused (codecs : Codecs) (name : String) (bytes : List UInt8) : Charset → Prop
  | .transform => True
  | .refusing => True
  | .utf16 => Unmarked marks16 decodeUtf16 bytes
  | .utf32 => Unmarked marks32 decodeUtf32 bytes
  | .wide => ∃ failure, codecs name bytes = .error failure ∧ failure.IsRefusal
  | .other => ∃ failure, codecs name bytes = .error failure ∧ failure.IsRefusal
  | _ => False

/-! ## Decoders -/

/-- A decoding that fails for a reason other than a flaw. -/
def Refuses (result : Except Failure (List Char)) : Prop :=
  ∃ failure, result = .error failure ∧ failure.IsRefusal

theorem not_refuses_ok {text : List Char} : ¬ Refuses (.ok text) := by
  rintro ⟨failure, h, _⟩
  cases h

theorem not_refuses_flawed {flaw : Flaw} : ¬ Refuses (.error (.flawed flaw)) := by
  rintro ⟨failure, h, hrefusal⟩
  exact hrefusal flaw (Except.error.inj h).symm

theorem not_refuses_mapError (result : Except Flaw (List Char)) :
    ¬ Refuses (result.mapError .flawed) := by
  cases result with
  | ok text => exact not_refuses_ok
  | error flaw => exact not_refuses_flawed

theorem refuses_of_isRefusal {failure : Failure} (h : failure.IsRefusal) :
    Refuses (.error failure) :=
  ⟨failure, rfl, h⟩

theorem isPrefixOf?_eq_none_iff {mark bytes : List UInt8} :
    mark.isPrefixOf? bytes = none ↔ ¬ mark <+: bytes := by
  rw [← Option.not_isSome_iff_eq_none, Option.isSome_iff_exists]
  simp only [List.isPrefixOf?_eq_some_iff_append_eq]
  rfl

theorem refuses_marked_iff {bits : Nat} {marks : List UInt8 × List UInt8}
    {decodeUnits : Bool → List UInt8 → Except Flaw (List Char)} {bytes : List UInt8} :
    Refuses (decodeMarked bits marks decodeUnits bytes) ↔ Unmarked marks decodeUnits bytes := by
  cases hlittle : marks.1.isPrefixOf? bytes with
  | some rest =>
    simp only [decodeMarked, hlittle, not_refuses_mapError, false_iff]
    intro hunmarked
    rw [isPrefixOf?_eq_none_iff.mpr hunmarked.not_little] at hlittle
    cases hlittle
  | none =>
    cases hbig : marks.2.isPrefixOf? bytes with
    | some rest =>
      simp only [decodeMarked, hlittle, hbig, not_refuses_mapError, false_iff]
      intro hunmarked
      rw [isPrefixOf?_eq_none_iff.mpr hunmarked.not_big] at hbig
      cases hbig
    | none =>
      have hlittle' := isPrefixOf?_eq_none_iff.mp hlittle
      have hbig' := isPrefixOf?_eq_none_iff.mp hbig
      cases htext : decodeUnits true bytes with
      | error flaw =>
        simp only [decodeMarked, hlittle, hbig, htext, not_refuses_flawed, false_iff]
        intro hunmarked
        obtain ⟨text, hok⟩ := hunmarked.is_text
        rw [htext] at hok
        cases hok
      | ok text =>
        simp only [decodeMarked, hlittle, hbig, htext]
        split
        · next hempty =>
          simp only [not_refuses_ok, false_iff]
          exact fun hunmarked => hunmarked.some_bytes (List.isEmpty_iff.mp hempty)
        · next hsome =>
          refine iff_of_true (refuses_of_isRefusal nofun) ⟨?_, hlittle', hbig', text, htext⟩
          exact fun hnil => hsome (List.isEmpty_iff.mpr hnil)

/-- Decoding under the name of a character set fails without a flaw exactly if the decoder of the set
refuses the bytes as a whole. -/
theorem refuses_decode_iff {codecs : Codecs} {name : String} {bytes : List UInt8} {charset : Charset}
    (hname : Charset.named? name = some charset) :
    Refuses (decode codecs name bytes) ↔ Refused codecs name bytes charset := by
  cases charset with
  | transform =>
    simp only [decode, hname, Refused, iff_true]
    exact refuses_of_isRefusal nofun
  | refusing =>
    simp only [decode, hname, Refused, iff_true]
    exact refuses_of_isRefusal nofun
  | wide =>
    simp only [decode, hname, Refused]
    rfl
  | other =>
    simp only [decode, hname, Refused]
    rfl
  | _ => simp only [decode, hname, Refused, refuses_marked_iff, not_refuses_mapError, not_refuses_ok]

/-! ## Settings -/

/-- A setting that passes its check has its default or was read. -/
theorem check_value {α : Type} {name : String} {default : α} {read : Json → Except SettingCause α}
    {value? : Option Json} (h : (Settings.check name default read value?).faults = []) :
    (Settings.check name default read value?).value = default ∨
      ∃ value, read value = .ok (Settings.check name default read value?).value := by
  cases value? with
  | none => exact Or.inl rfl
  | some value =>
    cases hread : read value with
    | error cause => simp [Settings.check, hread] at h
    | ok result => exact Or.inr ⟨value, by simp [Settings.check, hread]⟩

theorem readEncoding_known {value : Json} {name : String}
    (h : Settings.readEncoding value = .ok name) : (Charset.named? name).isSome = true := by
  cases htext : Settings.readText value with
  | error cause => simp [Settings.readEncoding, htext, bind, Except.bind] at h
  | ok text =>
    simp only [Settings.readEncoding, htext, bind, Except.bind] at h
    split_ifs at h with hnull hknown
    obtain rfl : text = name := Except.ok.inj h
    exact hknown

theorem bind_eq_ok {ε α β : Type} {first : Except ε α} {next : α → Except ε β} {result : β}
    (h : first >>= next = .ok result) : ∃ value, first = .ok value ∧ next value = .ok result := by
  cases first with
  | error failure => cases h
  | ok value => exact ⟨value, rfl, h⟩

theorem read_encoding {limits : Json.Limits} {given : List (String × Json)}
    {environment : List (String × String)} {settings : Settings}
    (h : Settings.read limits given environment = .ok settings) :
    ∃ value?, (Settings.check "file_encoding" "utf-8" Settings.readEncoding value?).faults = [] ∧
      settings.encoding =
        (Settings.check "file_encoding" "utf-8" Settings.readEncoding value?).value := by
  unfold Settings.read at h
  dsimp only at h
  obtain ⟨roots, -, h⟩ := bind_eq_ok h
  obtain ⟨extensions, -, h⟩ := bind_eq_ok h
  obtain ⟨skippedNames, -, h⟩ := bind_eq_ok h
  split at h
  · cases h
  · next hfaults =>
    have hempty := List.isEmpty_iff.mp
      (by simpa only [Bool.not_eq_true', Bool.not_eq_false] using hfaults)
    simp only [List.append_eq_nil_iff] at hempty
    obtain ⟨⟨⟨⟨⟨⟨⟨_, hencoding⟩, _⟩, _⟩, _⟩, _⟩, _⟩, _⟩ := hempty
    exact ⟨_, hencoding, congrArg Settings.encoding (Except.ok.inj h).symm⟩

/-- The settings admit only names of character sets. -/
theorem read_encoding_known {limits : Json.Limits} {given : List (String × Json)}
    {environment : List (String × String)} {settings : Settings}
    (h : Settings.read limits given environment = .ok settings) :
    ∃ charset, Charset.named? settings.encoding = some charset := by
  obtain ⟨value?, hfaults, hencoding⟩ := read_encoding h
  rw [← Option.isSome_iff_exists, hencoding]
  rcases check_value hfaults with hdefault | ⟨value, hread⟩
  · rw [hdefault]
    decide +kernel
  · exact readEncoding_known hread

end LogAudit.Encoding
