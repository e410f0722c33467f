import LogAudit.Proofs.Masked

/-! # The members of a written mapping

The entries of a mapping are written into another mapping. A truth value or an integer keeps its
kind there, and any other key turns into text, so that keys which were different can meet. Of the entries
that meet, the first one gives the name and the last one gives the value.

* `Key.place`: two keys meet if they have the same place.
* `mem_foldl_putWritten_iff`: what is written for the entries of a place.
* `mem_mappingJson_iff`: the members of a written mapping. -/

namespace LogAudit.Masking
set_option autoImplicit false

/-! ## Places -/

/-- The place of a key among the written entries. -/
def Key.place : Key → Int ⊕ String
  | bool value => .inl (if value then 1 else 0)
  | int value => .inl value
  | key => .inr key.display

theorem Key.place_written (key : Key) : key.written.place = key.place := by
  cases key <;> rfl

theorem Key.memberName_written (key : Key) : key.written.memberName = key.memberName := by
  cases key <;> rfl

theorem Key.written_written (key : Key) : key.written.written = key.written := by
  cases key <;> rfl

theorem Key.written_cases (key : Key) :
    (∃ value, key.written = .bool value) ∨ (∃ value, key.written = .int value) ∨
      ∃ value, key.written = .text value := by
  cases key with
  | bool value => exact .inl ⟨value, rfl⟩
  | int value => exact .inr (.inl ⟨value, rfl⟩)
  | _ => exact .inr (.inr ⟨_, rfl⟩)

theorem Key.memberName_of_place {key : Key} {text : String} (h : key.place = .inr text) :
    key.memberName = text := by
  cases key <;> simp_all [Key.place, Key.memberName]

theorem ofRatio_ne_nan (negative : Bool) (numerator denominator : Nat) :
    Decimal.Double.ofRatio negative numerator denominator ≠ .nan := by
  rw [Decimal.Double.ofRatio]
  split
  · simp [Decimal.Double.zero]
  · dsimp only
    split <;> split <;> simp

theorem Key.sameNumber_whole (a b : Int) :
    Key.sameNumber (.whole a) (.whole b) = true ↔ a = b := by
  simp only [Key.sameNumber, Decimal.Number.toDouble, Decimal.Double.ofInt, Decimal.Number.lt,
    Bool.and_eq_true, bne_iff_ne, ne_eq, ofRatio_ne_nan, not_false_eq_true, true_and,
    Bool.not_eq_true', decide_eq_false_iff_not]
  omega

theorem Key.same_written_iff (key other : Key) :
    key.written.same other.written = true ↔ key.place = other.place := by
  rw [← key.place_written, ← other.place_written]
  rcases key.written_cases with ⟨a, ha⟩ | ⟨a, ha⟩ | ⟨a, ha⟩ <;>
    rcases other.written_cases with ⟨b, hb⟩ | ⟨b, hb⟩ | ⟨b, hb⟩ <;>
    simp [ha, hb, Key.same, Key.number?, Key.sameNumber_whole, Key.place, Key.display]

/-! ## Entries that meet -/

/-- The entries of a place, in order. -/
def entriesAt {α : Type} (entries : List (Key × α)) (place : Int ⊕ String) : List (Key × α) :=
  entries.filter fun entry => entry.1.place = place

theorem mem_putWritten_iff {kept : List (Key × Json)} (hkept : ∀ old ∈ kept, old.1.written = old.1)
    (new key : Key) (value json : Json) :
    (key, json) ∈ putWritten kept new.written value ↔
      if key.place = new.place then
        json = value ∧ ((∃ old, (key, old) ∈ kept) ∨
          key = new.written ∧ ∀ old ∈ kept, old.1.place ≠ new.place)
      else (key, json) ∈ kept := by
  have hsame : ∀ old ∈ kept, (old.1.same new.written = true ↔ old.1.place = new.place) := by
    intro old hold
    rw [← Key.same_written_iff, hkept old hold]
  rw [putWritten]
  split
  next hany =>
    obtain ⟨met, hmet, hplace⟩ := List.any_eq_true.mp hany
    rw [hsame met hmet] at hplace
    rw [List.mem_map]
    split
    next hkey =>
      constructor
      · rintro ⟨old, hold, heq⟩
        split at heq
        · cases heq
          exact ⟨rfl, .inl ⟨old.2, hold⟩⟩
        next hdiffer =>
          subst heq
          exact absurd ((hsame _ hold).mpr hkey) hdiffer
      · rintro ⟨rfl, ⟨old, hold⟩ | ⟨-, hnone⟩⟩
        · exact ⟨(key, old), hold, if_pos ((hsame _ hold).mpr hkey)⟩
        · exact absurd hplace (hnone met hmet)
    next hkey =>
      constructor
      · rintro ⟨old, hold, heq⟩
        split at heq
        next hmeets =>
          cases heq
          exact absurd ((hsame _ hold).mp hmeets) hkey
        · exact heq ▸ hold
      · intro hmem
        exact ⟨(key, json), hmem, if_neg (mt (hsame _ hmem).mp hkey)⟩
  next hany =>
    have hnone : ∀ old ∈ kept, old.1.place ≠ new.place := by
      intro old hold hplace
      exact hany (List.any_eq_true.mpr ⟨old, hold, (hsame old hold).mpr hplace⟩)
    rw [List.mem_append, List.mem_singleton, Prod.mk.injEq]
    split
    next hkey =>
      constructor
      · rintro (hmem | ⟨rfl, rfl⟩)
        · exact absurd hkey (hnone _ hmem)
        · exact ⟨rfl, .inr ⟨rfl, hnone⟩⟩
      · rintro ⟨rfl, ⟨old, hold⟩ | ⟨rfl, -⟩⟩
        · exact absurd hkey (hnone _ hold)
        · exact .inr ⟨rfl, rfl⟩
    next hkey =>
      constructor
      · rintro (hmem | ⟨rfl, -⟩)
        · exact hmem
        · exact absurd new.place_written hkey
      · exact .inl

theorem place_of_mem_entriesAt {α : Type} {entries : List (Key × α)} {place : Int ⊕ String}
    {entry : Key × α} (h : entry ∈ entriesAt entries place) : entry.1.place = place := by
  simpa using (List.mem_filter.mp h).2

theorem entriesAt_append_singleton {α : Type} (entries : List (Key × α)) (new : Key × α)
    (place : Int ⊕ String) :
    entriesAt (entries ++ [new]) place =
      if new.1.place = place then entriesAt entries place ++ [new] else entriesAt entries place := by
  by_cases h : new.1.place = place <;> simp [entriesAt, h]

/-- The first entry of a place gives the key and the last one gives the value. -/
theorem mem_foldl_putWritten_iff (entries : List (Key × Json)) (key : Key) (json : Json) :
    (key, json) ∈ entries.foldl (fun kept entry => putWritten kept entry.1.written entry.2) [] ↔
      (entriesAt entries key.place).head?.map (·.1.written) = some key ∧
        (entriesAt entries key.place).getLast?.map (·.2) = some json := by
  -- on the last entry, which is the one that is put last
  induction entries using List.reverseRecOn generalizing key json with
  | nil => simp [entriesAt]
  | append_singleton entries new ih =>
    rw [List.foldl_append, List.foldl_cons, List.foldl_nil]
    set kept := entries.foldl (fun kept entry => putWritten kept entry.1.written entry.2) []
    have hkept : ∀ old ∈ kept, old.1.written = old.1 := by
      intro ⟨old, json⟩ hold
      obtain ⟨first, -, rfl⟩ := Option.map_eq_some_iff.mp ((ih old json).mp hold).1
      exact first.1.written_written
    have hfirst : ∀ key, (∃ old, (key, old) ∈ kept) ↔
        (entriesAt entries key.place).head?.map (·.1.written) = some key := by
      intro key
      constructor
      · rintro ⟨old, hold⟩
        exact ((ih key old).mp hold).1
      · intro hhead
        obtain ⟨first, hfirst, -⟩ := Option.map_eq_some_iff.mp hhead
        have hne : entriesAt entries key.place ≠ [] := List.ne_nil_of_mem (List.mem_of_head? hfirst)
        exact ⟨_, (ih key _).mpr ⟨hhead, by rw [List.getLast?_eq_some_getLast hne]; rfl⟩⟩
    have hnone : (∀ old ∈ kept, old.1.place ≠ new.1.place) ↔ entriesAt entries new.1.place = [] := by
      constructor
      · intro hdiffer
        cases hat : entriesAt entries new.1.place with
        | nil => rfl
        | cons first rest =>
          have hplace : first.1.place = new.1.place := place_of_mem_entriesAt (hat ▸ List.mem_cons_self)
          obtain ⟨old, hold⟩ := (hfirst first.1.written).mpr (by
            rw [Key.place_written, hplace, hat]
            rfl)
          exact absurd (first.1.place_written.trans hplace) (hdiffer _ hold)
      · intro hnil old hold hplace
        have hhead := (hfirst old.1).mp ⟨old.2, hold⟩
        rw [hplace, hnil] at hhead
        simp at hhead
    rw [mem_putWritten_iff hkept, entriesAt_append_singleton]
    by_cases hplace : key.place = new.1.place
    · rw [if_pos hplace, if_pos hplace.symm, hfirst, hnone, hplace, List.getLast?_concat]
      cases entriesAt entries new.1.place with
      | nil => simp [eq_comm, and_comm]
      | cons first rest => simp [eq_comm, and_comm]
    · rw [if_neg hplace, if_neg (Ne.symm hplace), ih]

/-! ## Members -/

/-- An entry whose value is written, and the name under which it is. -/
structure WrittenAs (entries : List (Key × Value)) (name : String) (entry : Key × Value) : Prop where
  first : (entriesAt entries entry.1.place).head?.map (·.1.memberName) = some name
  last : (entriesAt entries entry.1.place).getLast? = some entry

theorem entriesAt_writtenMembers (sensitive : Key → Bool) (write : Value → Json)
    (entries : List (Key × Value)) (place : Int ⊕ String) :
    entriesAt (writtenMembers sensitive write entries) place =
      writtenMembers sensitive write (entriesAt entries place) := by
  rw [entriesAt, entriesAt, writtenMembers, writtenMembers, List.filter_map]
  rfl

theorem mem_mappingJson_iff {sensitive : Key → Bool} {write : Value → Json}
    {entries : List (Key × Value)} {name : String} {json : Json} :
    (name, json) ∈ (mappingJson (writtenMembers sensitive write entries)).members ↔
      ∃ entry, WrittenAs entries name entry ∧
        json = if sensitive entry.1 then mask else write entry.2 := by
  rw [mappingJson, Json.members, List.mem_map]
  constructor
  · rintro ⟨⟨key, json⟩, hmem, heq⟩
    cases heq
    rw [mem_foldl_putWritten_iff, entriesAt_writtenMembers, writtenMembers] at hmem
    simp only [List.head?_map, List.getLast?_map, Option.map_map, Option.map_eq_some_iff] at hmem
    obtain ⟨⟨first, hfirst, rfl⟩, last, hlast, rfl⟩ := hmem
    have hplace : last.1.place = _ := place_of_mem_entriesAt (List.mem_of_getLast? hlast)
    refine ⟨last, ⟨?_, ?_⟩, rfl⟩
    · rw [hplace, hfirst]
      exact congrArg some first.1.memberName_written.symm
    · rw [hplace, hlast]
  · rintro ⟨last, ⟨hname, hlast⟩, rfl⟩
    obtain ⟨first, hfirst, rfl⟩ := Option.map_eq_some_iff.mp hname
    have hplace : first.1.place = last.1.place := place_of_mem_entriesAt (List.mem_of_head? hfirst)
    refine ⟨(first.1.written, if sensitive last.1 then mask else write last.2), ?_,
      Prod.ext first.1.memberName_written rfl⟩
    rw [mem_foldl_putWritten_iff, entriesAt_writtenMembers, writtenMembers, Key.place_written, hplace]
    simp [hfirst, hlast]

end LogAudit.Masking
