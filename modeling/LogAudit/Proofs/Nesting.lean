import LogAudit.Proofs.Reading

/-! # How deep a text goes

A platform opens only so many arrays and objects inside of each other. Whether a text is read within
such a limit depends on one number of the text, its depth: a limit that reaches it changes nothing, and
below it the reader gives up.

* `Unless`: two outcomes are the same, unless the first is that the text goes too deep.
* `reads_tighter`: a tighter limit gives the same outcome, unless the text goes too deep for it.
* `Keeps`: what is left over is the end of the text, and the text does not go too deep.
* `reads_keep`: no text goes deeper than it has opening brackets and braces.
* `exists_depth`: the depth of a text. -/

namespace LogAudit.Json
set_option autoImplicit false

open Text

variable {limits wider inside : Limits} {fuel depth : Nat} {text rest : List Char} {value : Json}

/-! ## Limits -/

/-- Whether a number of arrays and objects can be open at a time. -/
def Limits.reaches (limits : Limits) (depth : Nat) : Bool :=
  limits.deepest.all (depth ≤ ·)

theorem reaches_mono {less more : Nat} (h : less ≤ more) (hmore : limits.reaches more = true) :
    limits.reaches less = true := by
  unfold Limits.reaches at *
  cases hdeepest : limits.deepest with
  | none => rfl
  | some levels =>
    simp only [hdeepest, Option.all_some, decide_eq_true_eq] at hmore ⊢
    omega

theorem reaches_of_inside (h : limits.inside? = some inside) :
    inside.digits = limits.digits ∧ ∀ depth, inside.reaches depth = limits.reaches (depth + 1) := by
  unfold Limits.inside? at h
  split at h
  · next hnone =>
    obtain rfl := Option.some.inj h
    exact ⟨rfl, by simp [Limits.reaches, hnone]⟩
  · cases h
  · next levels hlevels =>
    obtain rfl := Option.some.inj h
    exact ⟨rfl, by simp [Limits.reaches, hlevels]⟩

theorem inside?_eq_none_iff : limits.inside? = none ↔ limits.reaches 1 = false := by
  unfold Limits.inside? Limits.reaches
  split
  · next hnone => simp [hnone]
  · next hzero => simp [hzero]
  · next levels hlevels => simp [hlevels]

/-- A limit that reaches no further than another one. -/
structure Tighter (limits wider : Limits) : Prop where
  digits : limits.digits = wider.digits
  reaches : ∀ depth, limits.reaches depth = true → wider.reaches depth = true

theorem Tighter.step (h : Tighter limits wider) (hinside : limits.inside? = some inside) :
    ∃ wider', wider.inside? = some wider' ∧ Tighter inside wider' := by
  obtain ⟨hdigits, hreaches⟩ := reaches_of_inside hinside
  cases hwider : wider.inside? with
  | none =>
    have hone : limits.reaches 1 = true := by
      by_contra hno
      rw [Bool.not_eq_true, ← inside?_eq_none_iff, hinside] at hno
      cases hno
    have hwide := h.reaches 1 hone
    rw [inside?_eq_none_iff.mp hwider] at hwide
    cases hwide
  | some wider' =>
    obtain ⟨hdigits', hreaches'⟩ := reaches_of_inside hwider
    refine ⟨wider', rfl, by rw [hdigits, hdigits', h.digits], ?_⟩
    intro depth hdepth
    rw [hreaches'] at *
    rw [hreaches] at hdepth
    exact h.reaches _ hdepth

/-! ## Tighter limits -/

/-- The outcome that a text goes too deep. -/
def TooDeep (outcome : Parsed) : Prop :=
  ∃ container, outcome = .error (.tooDeep container)

/-- Two outcomes are the same, unless the first is that the text goes too deep. -/
def Unless (first second : Parsed) : Prop :=
  TooDeep first ∨ first = second

theorem Unless.refl (outcome : Parsed) : Unless outcome outcome := .inr rfl

theorem Unless.thenRead {first second : Parsed} {next next' : Json → List Char → Parsed}
    (h : Unless first second) (hnext : ∀ value rest, Unless (next value rest) (next' value rest)) :
    Unless (thenRead first next) (thenRead second next') := by
  rcases h with ⟨container, rfl⟩ | rfl
  · exact .inl ⟨container, rfl⟩
  · cases first with
    | error failure => exact .refl _
    | ok found => exact hnext found.1 found.2

theorem Unless.within {container : Container} {next next' : Limits → Parsed} (h : Tighter limits wider)
    (hnext : ∀ inside wider', Tighter inside wider' → Unless (next inside) (next' wider')) :
    Unless (limits.within container next) (wider.within container next') := by
  unfold Limits.within
  cases hinside : limits.inside? with
  | none => exact .inl ⟨container, rfl⟩
  | some inside =>
    obtain ⟨wider', hwider, htighter⟩ := h.step hinside
    rw [hwider]
    exact hnext inside wider' htighter

theorem scalar?_congr (h : limits.digits = wider.digits) (text : List Char) :
    scalar? limits text = scalar? wider text := by
  have hallows : limits.allows = wider.allows := by
    unfold Limits.allows
    rw [h]
  have hnumber : ∀ negative, number? limits negative = number? wider negative := by
    intro negative
    unfold number?
    rw [hallows]
  unfold scalar?
  rw [hnumber, hnumber]

theorem reads_tighter (fuel : Nat) {limits wider : Limits} (h : Tighter limits wider) :
    (∀ text, Unless (readValue limits fuel text) (readValue wider fuel text)) ∧
    (∀ before text, Unless (readItems limits fuel before text) (readItems wider fuel before text)) ∧
    ∀ before text, Unless (readMembers limits fuel before text) (readMembers wider fuel before text) := by
  -- each of the three calls the others with one unit of fuel less
  induction fuel generalizing limits wider with
  | zero =>
    refine ⟨fun text => ?_, fun before text => ?_, fun before text => ?_⟩
    · simp only [readValue, Unless.refl]
    · simp only [readItems, Unless.refl]
    · simp only [readMembers, Unless.refl]
  | succ fuel ih =>
    refine ⟨fun text => ?_, fun before text => ?_, fun before text => ?_⟩
    · unfold readValue
      split
      · refine .within h fun inside wider' htighter => ?_
        split
        · exact .refl _
        · exact (ih htighter).2.1 _ _
      · refine .within h fun inside wider' htighter => ?_
        split
        · exact .refl _
        · exact (ih htighter).2.2 _ _
      · rw [scalar?_congr h.digits]
        exact .refl _
    · unfold readItems
      refine ((ih h).1 text).thenRead fun item rest => ?_
      split
      · exact (ih h).2.1 _ _
      · exact .refl _
      · exact .refl _
    · unfold readMembers
      split
      · exact .refl _
      · refine ((ih h).1 _).thenRead fun value rest => ?_
        split
        · exact (ih h).2.2 _ _
        · exact .refl _
        · exact .refl _

/-! ## What is left over -/

theorem dropSpaces_suffix (text : List Char) : dropSpaces text <:+ text :=
  List.dropWhile_suffix _

theorem hexUnit?_suffix {unit : Nat} (h : hexUnit? text = some (unit, rest)) : rest <:+ text := by
  unfold hexUnit? at h
  split at h
  · split at h
    · obtain ⟨-, rfl⟩ := Prod.mk.inj (Option.some.inj h)
      exact List.suffix_append [_, _, _, _] _
    · cases h
  · cases h

theorem lowUnit?_suffix {unit : Nat} (h : lowUnit? text = some (unit, rest)) : rest <:+ text := by
  unfold lowUnit? at h
  split at h
  · split at h
    · next hunit =>
      split at h
      · obtain ⟨-, rfl⟩ := Prod.mk.inj (Option.some.inj h)
        exact (hexUnit?_suffix hunit).trans (List.suffix_append ['\\', 'u'] _)
      · cases h
    · cases h
  · cases h

theorem unicodeEscape?_suffix {c : Char} (h : unicodeEscape? text = some (c, rest)) : rest <:+ text := by
  obtain ⟨⟨unit, behind⟩, hunit, hvalue⟩ := Option.map_eq_some_iff.mp h
  have hbehind := hexUnit?_suffix hunit
  simp only at hvalue
  split at hvalue
  · split at hvalue
    · next hlow =>
      obtain ⟨-, rfl⟩ := Prod.mk.inj hvalue
      exact (lowUnit?_suffix hlow).trans hbehind
    · obtain ⟨-, rfl⟩ := Prod.mk.inj hvalue
      exact hbehind
  · split at hvalue
    all_goals
      obtain ⟨-, rfl⟩ := Prod.mk.inj hvalue
      exact hbehind

theorem escape?_suffix {c : Char} (h : escape? text = some (c, rest)) : rest <:+ text := by
  unfold escape? at h
  split at h
  case h_9 => exact (unicodeEscape?_suffix h).trans (List.suffix_cons _ _)
  case h_10 => cases h
  all_goals
    obtain ⟨-, rfl⟩ := Prod.mk.inj (Option.some.inj h)
    exact List.suffix_cons _ _

theorem stringFrom?_suffix {count : Nat} {before : List Char} {found : String}
    (h : stringFrom? count before text = some (found, rest)) : rest <:+ text := by
  induction count generalizing before text with
  | zero => simp [stringFrom?] at h
  | succ count ih =>
    unfold stringFrom? at h
    split at h
    · cases h
    · cases h
    · next hcount =>
      obtain rfl := Nat.succ.inj hcount
      split at h
      · obtain ⟨-, rfl⟩ := Prod.mk.inj (Option.some.inj h)
        exact List.suffix_cons _ _
      · split at h
        · split at h
          · next hescape => exact ((ih h).trans (escape?_suffix hescape)).trans (List.suffix_cons _ _)
          · cases h
        · split at h
          · cases h
          · exact (ih h).trans (List.suffix_cons _ _)

theorem spanDigits_suffix {digits : List Char} (h : spanDigits text = (digits, rest)) : rest <:+ text := by
  obtain ⟨-, rfl⟩ := Prod.mk.inj h
  exact List.dropWhile_suffix _

theorem whole?_suffix {digits : List Char} (h : whole? text = some (digits, rest)) : rest <:+ text := by
  unfold whole? at h
  split at h
  · obtain ⟨-, rfl⟩ := Prod.mk.inj (Option.some.inj h)
    exact List.suffix_cons _ _
  · split at h
    · cases h
    · next hspan =>
      obtain ⟨-, rfl⟩ := Prod.mk.inj (Option.some.inj h)
      exact spanDigits_suffix hspan

theorem fraction?_suffix {digits : List Char} (h : fraction? text = some (digits, rest)) :
    rest <:+ text := by
  unfold fraction? at h
  split at h
  · split at h
    · cases h
    · next hspan =>
      obtain ⟨-, rfl⟩ := Prod.mk.inj (Option.some.inj h)
      exact (spanDigits_suffix hspan).trans (List.suffix_cons _ _)
  · cases h

theorem exponent?_suffix {exponent : Int} (h : exponent? text = some (exponent, rest)) :
    rest <:+ text := by
  unfold exponent? at h
  split at h
  · next c behind =>
    split at h
    · split at h
      next negative digits hsign =>
      have hdigits : digits <:+ behind := by
        split at hsign
        all_goals obtain ⟨-, rfl⟩ := Prod.mk.inj hsign
        · exact List.suffix_cons _ _
        · exact List.suffix_cons _ _
        · exact List.suffix_refl _
      split at h
      · cases h
      · next hspan =>
        obtain ⟨-, rfl⟩ := Prod.mk.inj (Option.some.inj h)
        exact ((spanDigits_suffix hspan).trans hdigits).trans (List.suffix_cons _ _)
    · cases h
  · cases h

theorem number?_suffix {negative : Bool} (h : number? limits negative text = some (value, rest)) :
    rest <:+ text := by
  unfold number? at h
  split at h
  · cases h
  · next whole behind hwhole =>
    have hfront := whole?_suffix hwhole
    split at h
    next fraction after hfraction =>
    have hafter : after <:+ behind := by
      split at hfraction
      · next hfound =>
        obtain ⟨-, rfl⟩ := Prod.mk.inj hfraction
        exact fraction?_suffix hfound
      · obtain ⟨-, rfl⟩ := Prod.mk.inj hfraction
        exact List.suffix_refl _
    split at h
    next exponent final hexponent =>
    have hfinal : final <:+ after := by
      split at hexponent
      · next hfound =>
        obtain ⟨-, rfl⟩ := Prod.mk.inj hexponent
        exact exponent?_suffix hfound
      · obtain ⟨-, rfl⟩ := Prod.mk.inj hexponent
        exact List.suffix_refl _
    have hall : final <:+ text := (hfinal.trans hafter).trans hfront
    split at h
    · split at h
      · obtain ⟨-, rfl⟩ := Prod.mk.inj (Option.some.inj h)
        exact hall
      · cases h
    · obtain ⟨-, rfl⟩ := Prod.mk.inj (Option.some.inj h)
      exact hall

theorem word?_suffix (h : word? text = some (value, rest)) : rest <:+ text := by
  obtain ⟨⟨word, meaning⟩, -, hfound⟩ := List.exists_of_findSome?_eq_some h
  obtain ⟨behind, hword, hvalue⟩ := Option.map_eq_some_iff.mp hfound
  obtain ⟨-, rfl⟩ := Prod.mk.inj hvalue
  exact ⟨word.toList, (dropWord_eq_some.mp hword).symm⟩

theorem scalar?_suffix (h : scalar? limits text = some (value, rest)) : rest <:+ text := by
  unfold scalar? at h
  split at h
  · obtain ⟨⟨found, behind⟩, hstring, hvalue⟩ := Option.map_eq_some_iff.mp h
    obtain ⟨-, rfl⟩ := Prod.mk.inj hvalue
    exact (stringFrom?_suffix hstring).trans (List.suffix_cons _ _)
  · rcases Option.or_eq_some_iff.mp h with hnumber | ⟨-, hword⟩
    · exact (number?_suffix hnumber).trans (List.suffix_cons _ _)
    · exact word?_suffix hword
  · rcases Option.or_eq_some_iff.mp h with hword | ⟨-, hnumber⟩
    · exact word?_suffix hword
    · exact number?_suffix hnumber

theorem name?_suffix {name : String} (h : name? text = some (name, rest)) : rest <:+ text := by
  unfold name? at h
  split at h
  · split at h
    · cases h
    · next behind hstring =>
      split at h
      · next final hcolon =>
        obtain ⟨-, rfl⟩ := Prod.mk.inj (Option.some.inj h)
        have hbehind := (stringFrom?_suffix hstring).trans (List.suffix_cons '"' _)
        have hfinal : final <:+ dropSpaces behind := hcolon ▸ List.suffix_cons _ _
        exact (((dropSpaces_suffix final).trans hfinal).trans (dropSpaces_suffix _)).trans hbehind
      · cases h
  · cases h

/-! ## Limits that are wide enough -/

/-- How many brackets and braces a text opens. -/
def openings (text : List Char) : Nat :=
  text.countP fun c => c == '[' || c == '\x7b'

theorem openings_le (h : rest <:+ text) : openings rest ≤ openings text :=
  h.sublist.countP_le

/-- A text does not go too deep, and what is left over is the end of it. -/
structure Keeps (text : List Char) (outcome : Parsed) : Prop where
  shallow : ¬ TooDeep outcome
  suffix : ∀ value rest, outcome = .ok (value, rest) → rest <:+ text

theorem keeps_malformed (text : List Char) : Keeps text (.error .malformed) := by
  refine ⟨?_, ?_⟩
  · rintro ⟨container, h⟩
    cases h
  · intro value rest h
    cases h

theorem keeps_ok (value : Json) (h : rest <:+ text) : Keeps text (.ok (value, rest)) := by
  refine ⟨?_, ?_⟩
  · rintro ⟨container, h⟩
    cases h
  · intro value rest hok
    obtain ⟨-, rfl⟩ := Prod.mk.inj (Except.ok.inj hok)
    exact h

theorem Keeps.mono {outcome : Parsed} (h : Keeps rest outcome) (htext : rest <:+ text) :
    Keeps text outcome :=
  ⟨h.shallow, fun value behind hok => (h.suffix value behind hok).trans htext⟩

theorem keeps_scalar (limits : Limits) (text : List Char) : Keeps text (parsed (scalar? limits text)) := by
  cases hscalar : scalar? limits text with
  | none => exact keeps_malformed text
  | some found => exact keeps_ok found.1 (scalar?_suffix hscalar)

theorem Keeps.thenRead {first : Parsed} {next : Json → List Char → Parsed} (h : Keeps text first)
    (hnext : ∀ value rest, rest <:+ text → Keeps text (next value rest)) :
    Keeps text (thenRead first next) := by
  cases first with
  | error failure =>
    cases failure with
    | malformed => exact keeps_malformed text
    | tooDeep container => exact absurd ⟨container, rfl⟩ h.shallow
  | ok found => exact hnext found.1 found.2 (h.suffix _ _ rfl)

theorem Keeps.within {container : Container} {c : Char} {next : Limits → Parsed}
    (hc : (c == '[' || c == '\x7b') = true) (hreaches : limits.reaches (openings (c :: rest)) = true)
    (hnext : ∀ inside, inside.reaches (openings rest) = true → Keeps (c :: rest) (next inside)) :
    Keeps (c :: rest) (limits.within container next) := by
  have hopen : openings (c :: rest) = openings rest + 1 := List.countP_cons_of_pos hc
  unfold Limits.within
  cases hinside : limits.inside? with
  | none =>
    have hone := inside?_eq_none_iff.mp hinside
    unfold Limits.reaches at hone hreaches
    cases hdeepest : limits.deepest with
    | none => simp [hdeepest] at hone
    | some levels =>
      simp only [hdeepest, Option.all_some, decide_eq_true_eq, decide_eq_false_iff_not] at hone hreaches
      omega
  | some inside =>
    apply hnext inside
    rw [(reaches_of_inside hinside).2, ← hopen]
    exact hreaches

theorem suffix_of_dropSpaces {c : Char} {rest final : List Char} (h : dropSpaces rest = c :: final) :
    final <:+ rest := by
  have hspaces := dropSpaces_suffix rest
  rw [h] at hspaces
  exact (List.suffix_cons c final).trans hspaces

theorem reads_keep (fuel : Nat) {limits : Limits} {text : List Char}
    (h : limits.reaches (openings text) = true) :
    Keeps text (readValue limits fuel text) ∧
    (∀ before, Keeps text (readItems limits fuel before text)) ∧
    ∀ before, Keeps text (readMembers limits fuel before text) := by
  induction fuel generalizing limits text with
  | zero =>
    refine ⟨?_, fun before => ?_, fun before => ?_⟩
    · simp only [readValue, keeps_malformed]
    · simp only [readItems, keeps_malformed]
    · simp only [readMembers, keeps_malformed]
  | succ fuel ih =>
    have hstep : ∀ {rest}, rest <:+ text → limits.reaches (openings rest) = true :=
      fun hrest => reaches_mono (openings_le hrest) h
    refine ⟨?_, fun before => ?_, fun before => ?_⟩
    · unfold readValue
      split
      · next rest =>
        refine .within rfl h fun inside hinside => ?_
        have hspaces := dropSpaces_suffix rest
        split
        · next final hclosing =>
          exact keeps_ok _ ((suffix_of_dropSpaces hclosing).trans (List.suffix_cons _ _))
        · exact ((ih (reaches_mono (openings_le hspaces) hinside)).2.1 _).mono
            (hspaces.trans (List.suffix_cons _ _))
      · next rest =>
        refine .within rfl h fun inside hinside => ?_
        have hspaces := dropSpaces_suffix rest
        split
        · next final hclosing =>
          exact keeps_ok _ ((suffix_of_dropSpaces hclosing).trans (List.suffix_cons _ _))
        · exact ((ih (reaches_mono (openings_le hspaces) hinside)).2.2 _).mono
            (hspaces.trans (List.suffix_cons _ _))
      · exact keeps_scalar limits text
    · unfold readItems
      refine (ih h).1.thenRead fun item rest hrest => ?_
      split
      · next final hcomma =>
        have hall := (dropSpaces_suffix final).trans ((suffix_of_dropSpaces hcomma).trans hrest)
        exact ((ih (hstep hall)).2.1 _).mono hall
      · next final hclosing => exact keeps_ok _ ((suffix_of_dropSpaces hclosing).trans hrest)
      · exact keeps_malformed text
    · unfold readMembers
      split
      · exact keeps_malformed text
      · next name behind hname =>
        have hbehind := name?_suffix hname
        refine ((ih (hstep hbehind)).1.mono hbehind).thenRead fun value rest hrest => ?_
        split
        · next final hcomma =>
          have hall := (dropSpaces_suffix final).trans ((suffix_of_dropSpaces hcomma).trans hrest)
          exact ((ih (hstep hall)).2.2 _).mono hall
        · next final hclosing => exact keeps_ok _ ((suffix_of_dropSpaces hclosing).trans hrest)
        · exact keeps_malformed text

/-! ## The depth of a text -/

theorem read_tooDeep_iff {limits : Limits} {text : String} {container : Container} :
    read limits text = .error (.tooDeep container) ↔
      readValue limits (2 * text.toList.length + 2) (dropSpaces text.toList) =
        .error (.tooDeep container) := by
  unfold read
  split
  · next hvalue =>
    rw [hvalue]
    split <;> simp
  · next hvalue => simp [hvalue]

theorem read_tighter {text : String} (h : Tighter limits wider) :
    (∃ container, read limits text = .error (.tooDeep container)) ∨ read limits text = read wider text := by
  rcases (reads_tighter _ h).1 (dropSpaces text.toList) with ⟨container, hdeep⟩ | hsame
  · exact .inl ⟨container, read_tooDeep_iff.mpr hdeep⟩
  · right
    unfold read
    rw [hsame]

theorem read_shallow {text : String} (h : limits.reaches (openings text.toList) = true)
    (container : Container) : read limits text ≠ .error (.tooDeep container) := by
  intro hdeep
  have hreaches := reaches_mono (openings_le (dropSpaces_suffix text.toList)) h
  exact (reads_keep _ hreaches).1.shallow ⟨container, read_tooDeep_iff.mp hdeep⟩

/-- A text goes too deep for just those limits that do not reach its depth, which is at most the number of
brackets and braces that it opens. -/
theorem exists_depth (digits : Option Nat) (text : String) :
    ∃ depth ≤ openings text.toList, ∀ limits : Limits, limits.digits = digits →
      ((∃ container, read limits text = .error (.tooDeep container)) ↔ limits.reaches depth = false) := by
  classical
  have hsome : ∃ depth, ∀ container, read ⟨some depth, digits⟩ text ≠ .error (.tooDeep container) :=
    ⟨openings text.toList, read_shallow (by simp [Limits.reaches])⟩
  refine ⟨Nat.find hsome, Nat.find_le (read_shallow (by simp [Limits.reaches])), ?_⟩
  rintro ⟨deepest, digits⟩ rfl
  constructor
  · rintro ⟨container, hdeep⟩
    rw [Bool.eq_false_iff]
    intro hreaches
    have htighter : Tighter ⟨some (Nat.find hsome), digits⟩ ⟨deepest, digits⟩ := by
      refine ⟨rfl, fun depth hdepth => reaches_mono ?_ hreaches⟩
      simpa [Limits.reaches] using hdepth
    rcases @read_tighter _ _ text htighter with ⟨container', hdeep'⟩ | hsame
    · exact Nat.find_spec hsome container' hdeep'
    · exact Nat.find_spec hsome container (hsame.trans hdeep)
  · intro hreaches
    cases deepest with
    | none => cases hreaches
    | some levels =>
      have hlt : levels < Nat.find hsome := by simpa [Limits.reaches] using hreaches
      have hdeep := Nat.find_min hsome hlt
      simpa using hdeep

end LogAudit.Json
