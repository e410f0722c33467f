import LogAudit.Proofs.Documents

/-! # Documents are read back

The indented text of a document is read back as that document, as long as it holds no binary numbers, no
object has two members of one name, and it keeps within the limits of the platform.

* `number?_int`: integers of as many digits as can be read.
* `Reads`: a text is read as a value, whatever stands behind it.
* `readItems_closed`, `readMembers_closed`: the items of an array and the members of an object.
* `Readable.reads`: documents, by induction on their form.
* `read_text`: whole texts. -/

namespace LogAudit.Json
set_option autoImplicit false

open Text Decimal

variable {ascii : Bool} {limits inside : Limits} {level fuel : Nat} {rest : List Char}

/-! ## Integers -/

theorem digitsToNat_toDigits (value : Nat) : digitsToNat (Nat.toDigits 10 value) = value :=
  Nat.ofDigitChars_ten_toDigits

theorem isDigit_toDigits (value : Nat) : ∀ c ∈ Nat.toDigits 10 value, c.isDigit = true :=
  fun _ hc => Nat.isDigit_of_mem_toDigits (by decide) (by decide) hc

/-- Only the number zero begins with a zero. -/
theorem head_toDigits_ne_zero (value : Nat) (h : 0 < value) :
    (Nat.toDigits 10 value).head? ≠ some '0' := by
  induction value using Nat.strongRecOn with
  | ind value ih =>
    by_cases hsmall : value < 10
    · rw [Nat.toDigits_of_lt_base hsmall]
      interval_cases value <;> decide
    · have hfront := ih (value / 10) (by omega) (by omega)
      rw [Nat.toDigits_of_base_le (by decide) (by omega), List.head?_append_of_ne_nil _ Nat.toDigits_ne_nil]
      exact hfront

theorem spanDigits_append {digits : List Char} (hdigits : ∀ c ∈ digits, c.isDigit = true)
    (hrest : Stops rest) : spanDigits (digits ++ rest) = (digits, rest) := by
  have hstop : rest.takeWhile Char.isDigit = [] ∧ rest.dropWhile Char.isDigit = rest := by
    cases rest with
    | nil => exact ⟨rfl, rfl⟩
    | cons c rest =>
      have hc : c.isDigit = false := by
        rw [Bool.eq_false_iff]
        intro hdigit
        have hplain := hrest c rfl
        rw [isPlain_of_isDigit hdigit] at hplain
        cases hplain
      simp [hc]
  rw [spanDigits, List.takeWhile_append_of_pos hdigits, List.dropWhile_append_of_pos hdigits, hstop.1,
    hstop.2, List.append_nil]

theorem whole?_toDigits (value : Nat) (hrest : Stops rest) :
    whole? (Nat.toDigits 10 value ++ rest) = some (Nat.toDigits 10 value, rest) := by
  rcases Nat.eq_zero_or_pos value with rfl | hpos
  · rfl
  · obtain ⟨c, digits, hdigits⟩ : ∃ c digits, Nat.toDigits 10 value = c :: digits :=
      List.exists_cons_of_ne_nil Nat.toDigits_ne_nil
    have hzero : c ≠ '0' := by
      rintro rfl
      exact head_toDigits_ne_zero value hpos (by rw [hdigits]; rfl)
    have hspan := spanDigits_append (isDigit_toDigits value) hrest
    rw [hdigits] at hspan ⊢
    rw [List.cons_append] at hspan ⊢
    unfold whole?
    split
    · next heq => exact absurd (List.cons.inj heq).1 hzero
    · rw [hspan]

theorem fraction?_of_stops (h : Stops rest) : fraction? rest = none := by
  unfold fraction?
  split
  · exact absurd (h '.' rfl) (by decide)
  · rfl

theorem exponent?_of_stops (h : Stops rest) : exponent? rest = none := by
  cases rest with
  | nil => rfl
  | cons c rest =>
    have hc : ¬(c = 'e' ∨ c = 'E') := by
      rintro (rfl | rfl)
      · exact absurd (h 'e' rfl) (by decide)
      · exact absurd (h 'E' rfl) (by decide)
    unfold exponent?
    exact if_neg hc

theorem number?_int (negative : Bool) {value : Nat}
    (hdigits : limits.allows (Nat.toDigits 10 value).length = true) (hrest : Stops rest) :
    number? limits negative (Nat.toDigits 10 value ++ rest) =
      some (.int (if negative then -(value : Int) else value), rest) := by
  rw [number?, whole?_toDigits value hrest]
  simp only [fraction?_of_stops hrest, exponent?_of_stops hrest, digitsToNat_toDigits, hdigits, if_true]

/-! ## Blanks and words -/

theorem dropSpaces_cons {c : Char} (h : isSpace c = false) (rest : List Char) :
    dropSpaces (c :: rest) = c :: rest := by
  simp [dropSpaces, h]

/-- A text of the blanks of JSON. -/
def AllSpace (text : List Char) : Prop := ∀ c ∈ text, isSpace c = true

theorem dropSpaces_append {spaces : List Char} (h : AllSpace spaces) (rest : List Char) :
    dropSpaces (spaces ++ rest) = dropSpaces rest :=
  List.dropWhile_append_of_pos h

theorem dropSpaces_lineBreak (rest : List Char) :
    dropSpaces ((lineBreak level).toList ++ rest) = dropSpaces rest := by
  have hspace : AllSpace (lineBreak level).toList := by
    unfold AllSpace
    rw [toList_lineBreak, List.forall_mem_cons]
    refine ⟨by decide, fun c hc => ?_⟩
    rw [List.eq_of_mem_replicate hc]
    decide
  exact dropSpaces_append hspace rest

theorem isSpace_of_isPlain {c : Char} (h : isPlain c = true) : isSpace c = false := by
  rw [Bool.eq_false_iff]
  intro hspace
  simp only [isSpace, Bool.or_eq_true, beq_iff_eq, or_assoc] at hspace
  rcases hspace with rfl | rfl | rfl | rfl <;> exact absurd h (by decide)

theorem readValue_scalar {c : Char} (hbracket : c ≠ '[') (hbrace : c ≠ '\x7b') :
    readValue limits (fuel + 1) (c :: rest) = parsed (scalar? limits (c :: rest)) := by
  unfold readValue
  split
  · next heq => exact absurd (List.cons.inj heq).1 hbracket
  · next heq => exact absurd (List.cons.inj heq).1 hbrace
  · rfl

/-- Neither a word nor anything that is bracketed or quoted begins with a digit. -/
theorem readValue_digit {c : Char} (h : c.isDigit = true) :
    readValue limits (fuel + 1) (c :: rest) = parsed (number? limits false (c :: rest)) := by
  have hne : ∀ {first}, first.isDigit = false → first ≠ c := by
    rintro first hfirst rfl
    rw [h] at hfirst
    cases hfirst
  have hword : word? (c :: rest) = none := by
    simp [word?, words, dropWord, List.isPrefixOf?, hne]
  rw [readValue_scalar (hne (by decide)).symm (hne (by decide)).symm]
  unfold scalar?
  split
  case h_3 => rw [hword, Option.none_or]
  all_goals
    next heq => exact absurd (List.cons.inj heq).1.symm (hne (by decide))

/-! ## Values -/

/-- A text is read as a value, whatever stands behind it. -/
def Reads (limits : Limits) (part : List Char) (value : Json) : Prop :=
  ∀ fuel rest, part.length ≤ fuel → Stops rest →
    readValue limits fuel (part ++ rest) = .ok (value, rest)

theorem reads_int {value : Int} (h : limits.allowsInteger value = true) :
    Reads limits (toString value).toList (.int value) := by
  intro fuel rest hfuel hrest
  have hpos : 0 < fuel := lt_of_lt_of_le (List.length_pos_iff.mpr (plainText_int value).1) hfuel
  obtain ⟨fuel, rfl⟩ := Nat.exists_eq_add_one.mpr hpos
  cases value with
  | ofNat value =>
    have htext : (toString (Int.ofNat value)).toList = Nat.toDigits 10 value := Nat.toList_repr
    obtain ⟨c, digits, hdigits⟩ : ∃ c digits, Nat.toDigits 10 value = c :: digits :=
      List.exists_cons_of_ne_nil Nat.toDigits_ne_nil
    have hc : c.isDigit = true := isDigit_toDigits value c (hdigits ▸ List.mem_cons_self)
    have hnumber : number? limits false (Nat.toDigits 10 value ++ rest) = some (.int value, rest) :=
      number?_int false h hrest
    rw [htext]
    rw [hdigits, List.cons_append] at hnumber ⊢
    rw [readValue_digit hc, hnumber]
    rfl
  | negSucc value =>
    have htext : (toString (Int.negSucc value)).toList = '-' :: Nat.toDigits 10 (value + 1) := by
      change ("-" ++ Nat.repr (value + 1)).toList = _
      rw [String.toList_append, Nat.toList_repr]
      rfl
    have hnumber : number? limits true (Nat.toDigits 10 (value + 1) ++ rest) =
        some (.int (-((value + 1 : Nat) : Int)), rest) := number?_int true h hrest
    rw [htext, List.cons_append, readValue_scalar (by decide) (by decide), scalar?, hnumber]
    rfl

theorem reads_string (ascii : Bool) (text : String) :
    Reads limits (stringText ascii text).toList (.string text) := by
  intro fuel rest hfuel hrest
  rw [toList_stringText] at hfuel ⊢
  obtain ⟨fuel, rfl⟩ := Nat.exists_eq_add_one.mpr (lt_of_lt_of_le (by simp) hfuel)
  rw [List.cons_append, List.append_assoc, List.singleton_append,
    readValue_scalar (by decide) (by decide), scalar?, string?_flatMap]
  rfl

/-- The first character of a value is no blank and closes nothing. -/
theorem itemText_eq_cons (ascii : Bool) (level : Nat) (json : Json) :
    ∃ c tail, itemText ascii level json = c :: tail ∧ isSpace c = false ∧ c ≠ ']' := by
  obtain ⟨c, tail, htext, hc⟩ :
      ∃ c tail, itemText ascii level json = c :: tail ∧ shapeOf c = json.shape := head_itemText json
  refine ⟨c, tail, htext, ?_⟩
  by_cases hshape : json.shape = .scalar
  · have hall : ∀ c ∈ itemText ascii level json, isPlain c = true :=
      (plainText_scalar hshape ⟨ascii, true⟩ level).2
    have hplain : isPlain c = true := hall c (htext ▸ List.mem_cons_self)
    refine ⟨isSpace_of_isPlain hplain, ?_⟩
    rintro rfl
    exact absurd hplain (by decide)
  · have hopens : c = '"' ∨ c = '[' ∨ c = '\x7b' := by
      by_contra hother
      rw [not_or, not_or] at hother
      apply hshape
      rw [← hc, shapeOf, if_neg (by simpa using hother.1), if_neg (by simpa using hother.2.1),
        if_neg (by simpa using hother.2.2)]
    rcases hopens with rfl | rfl | rfl <;> decide

theorem dropSpaces_itemText (json : Json) (rest : List Char) :
    dropSpaces (itemText ascii level json ++ rest) = itemText ascii level json ++ rest := by
  obtain ⟨c, tail, htext, hspace, -⟩ := itemText_eq_cons ascii level json
  rw [htext, List.cons_append, dropSpaces_cons hspace]

/-- What stands behind an item: the further ones, and the closing bracket on a line of its own. -/
def closed (closing : Char) (level : Nat) (parts : List (List Char)) (rest : List Char) : List Char :=
  parts.flatMap (following (level + 1)) ++ ((lineBreak level).toList ++ closing :: rest)

theorem closed_cons (closing : Char) (part : List Char) (parts : List (List Char)) :
    closed closing level (part :: parts) rest =
      ',' :: ((lineBreak (level + 1)).toList ++ (part ++ closed closing level parts rest)) := by
  simp [closed, following]

theorem stops_closed (closing : Char) (parts : List (List Char)) :
    Stops (closed closing level parts rest) := by
  rw [closed, toList_lineBreak, List.cons_append]
  exact stops_following parts

theorem bracketed_append (opening closing : Char) (part : List Char) (parts : List (List Char)) :
    bracketed opening closing level (part :: parts) ++ rest =
      opening :: ((lineBreak (level + 1)).toList ++ (part ++ closed closing level parts rest)) := by
  simp [bracketed, closed]

theorem length_bracketed (opening closing : Char) (part : List Char) (parts : List (List Char)) :
    (bracketed opening closing level (part :: parts)).length =
      2 * level + 4 + (part ++ closed closing level parts []).length := by
  rw [← List.append_nil (bracketed _ _ _ _), bracketed_append]
  simp [toList_lineBreak]
  omega

theorem dropSpaces_closed_nil {closing : Char} (h : isSpace closing = false) :
    dropSpaces (closed closing level [] rest) = closing :: rest := by
  rw [closed, List.flatMap_nil, List.nil_append, dropSpaces_lineBreak, dropSpaces_cons h]

theorem dropSpaces_closed_cons (closing : Char) (part : List Char) (parts : List (List Char)) :
    dropSpaces (closed closing level (part :: parts) rest) =
      ',' :: ((lineBreak (level + 1)).toList ++ (part ++ closed closing level parts rest)) := by
  rw [closed_cons, dropSpaces_cons (by decide)]

theorem length_closed_nil (closing : Char) :
    (closed closing level [] []).length = 2 * level + 2 := by
  simp [closed, toList_lineBreak]

theorem length_closed_cons (closing : Char) (part : List Char) (parts : List (List Char)) :
    (closed closing level (part :: parts) []).length =
      2 * level + 4 + (part ++ closed closing level parts []).length := by
  simp [closed_cons, toList_lineBreak]
  omega

theorem readItems_closed {item : Json} {items before : List Json}
    (hitems : ∀ other ∈ item :: items, Reads limits (itemText ascii (level + 1) other) other)
    (hfuel : (itemText ascii (level + 1) item ++
      closed ']' level (items.map (itemText ascii (level + 1))) []).length ≤ fuel) :
    readItems limits fuel before (itemText ascii (level + 1) item ++
      closed ']' level (items.map (itemText ascii (level + 1))) rest) =
        .ok (.array (before.reverse ++ item :: items), rest) := by
  induction items generalizing item before fuel with
  | nil =>
    rw [List.length_append, List.map_nil, length_closed_nil] at hfuel
    obtain ⟨fuel, rfl⟩ := Nat.exists_eq_add_one.mpr (by omega : 0 < fuel)
    have hitem := hitems item List.mem_cons_self fuel (closed ']' level [] rest) (by omega)
      (stops_closed ']' [])
    rw [List.map_nil, readItems, hitem]
    simp only [thenRead, dropSpaces_closed_nil (show isSpace ']' = false by decide), List.reverse_cons]
  | cons next items ih =>
    rw [List.length_append, List.map_cons, length_closed_cons] at hfuel
    obtain ⟨fuel, rfl⟩ := Nat.exists_eq_add_one.mpr (by omega : 0 < fuel)
    have hitem := hitems item List.mem_cons_self fuel (closed ']' level _ rest) (by omega)
      (stops_closed ']' ((next :: items).map (itemText ascii (level + 1))))
    rw [readItems, hitem]
    simp only [thenRead, List.map_cons, dropSpaces_closed_cons, dropSpaces_lineBreak, dropSpaces_itemText]
    rw [ih (fun other hother => hitems other (List.mem_cons_of_mem _ hother)) (by omega)]
    simp

theorem insertMember_of_not_mem {members : List (String × Json)} {name : String} (value : Json)
    (h : name ∉ members.map Prod.fst) : insertMember members name value = members ++ [(name, value)] := by
  have hnone : members.any (·.1 == name) = false := by
    rw [List.any_eq_false]
    intro member hmember hname
    exact h (List.mem_map.mpr ⟨member, hmember, beq_iff_eq.mp hname⟩)
  rw [insertMember, if_neg (by simp [hnone])]

theorem name_not_mem_of_nodup {member : String × Json} {members before : List (String × Json)}
    (hnames : ((before ++ member :: members).map Prod.fst).Nodup) : member.1 ∉ before.map Prod.fst := by
  rw [List.map_append, List.nodup_append] at hnames
  exact fun hmem => hnames.2.2 _ hmem _ (by simp) rfl

/-- A member of a new name is read; behind it another follows, or the object ends. -/
theorem readMembers_memberText {member : String × Json} {before : List (String × Json)}
    {more : List Char} (hvalue : Reads limits (itemText ascii level member.2) member.2)
    (hnew : member.1 ∉ before.map Prod.fst)
    (hfuel : (memberText ascii level member).length ≤ fuel) (hrest : Stops rest) :
    (dropSpaces rest = ',' :: more →
      readMembers limits (fuel + 1) before (memberText ascii level member ++ rest) =
        readMembers limits fuel (before ++ [member]) (dropSpaces more)) ∧
    (dropSpaces rest = '\x7d' :: more →
      readMembers limits (fuel + 1) before (memberText ascii level member ++ rest) =
        .ok (.object (before ++ [member]), more)) := by
  have htext : memberText ascii level member ++ rest =
      '"' :: (member.1.toList.flatMap (charText ascii) ++
        '"' :: ':' :: ' ' :: (itemText ascii level member.2 ++ rest)) := by
    simp [memberText, toList_stringText]
  have hread : readValue limits fuel (dropSpaces (' ' :: (itemText ascii level member.2 ++ rest))) =
      .ok (member.2, rest) := by
    have hblank : dropSpaces (' ' :: (itemText ascii level member.2 ++ rest)) =
        itemText ascii level member.2 ++ rest := dropSpaces_itemText member.2 rest
    rw [memberText, List.length_append, List.length_cons, List.length_cons] at hfuel
    rw [hblank]
    exact hvalue fuel rest (by omega) hrest
  have hcolon : isSpace ':' = false := by decide
  have hname : name? (memberText ascii level member ++ rest) =
      some (member.1, dropSpaces (' ' :: (itemText ascii level member.2 ++ rest))) := by
    rw [htext, name?]
    simp only [string?_flatMap, dropSpaces_cons hcolon]
  rw [readMembers, hname]
  constructor
  all_goals
    intro hbehind
    simp only [hread, thenRead, hbehind, insertMember_of_not_mem member.2 hnew]

theorem dropSpaces_memberText (member : String × Json) (rest : List Char) :
    dropSpaces (memberText ascii level member ++ rest) = memberText ascii level member ++ rest := by
  rw [memberText, toList_stringText, List.cons_append, List.cons_append, dropSpaces_cons (by decide)]

theorem readMembers_closed {member : String × Json} {members before : List (String × Json)}
    (hmembers : ∀ other ∈ member :: members, Reads limits (itemText ascii (level + 1) other.2) other.2)
    (hnames : ((before ++ member :: members).map Prod.fst).Nodup)
    (hfuel : (memberText ascii (level + 1) member ++
      closed '\x7d' level (members.map (memberText ascii (level + 1))) []).length ≤ fuel) :
    readMembers limits fuel before (memberText ascii (level + 1) member ++
      closed '\x7d' level (members.map (memberText ascii (level + 1))) rest) =
        .ok (.object (before ++ member :: members), rest) := by
  induction members generalizing member before fuel with
  | nil =>
    rw [List.length_append, List.map_nil, length_closed_nil] at hfuel
    obtain ⟨fuel, rfl⟩ := Nat.exists_eq_add_one.mpr (by omega : 0 < fuel)
    exact (readMembers_memberText (hmembers member List.mem_cons_self) (name_not_mem_of_nodup hnames)
      (by omega) (stops_closed '\x7d' [])).2 (dropSpaces_closed_nil (by decide))
  | cons next members ih =>
    rw [List.length_append, List.map_cons, length_closed_cons] at hfuel
    obtain ⟨fuel, rfl⟩ := Nat.exists_eq_add_one.mpr (by omega : 0 < fuel)
    rw [List.map_cons, (readMembers_memberText (hmembers member List.mem_cons_self)
      (name_not_mem_of_nodup hnames) (by omega) (stops_closed '\x7d' _)).1 (dropSpaces_closed_cons _ _ _),
      dropSpaces_lineBreak, dropSpaces_memberText]
    rw [ih (fun other hother => hmembers other (List.mem_cons_of_mem _ hother)) (by simpa using hnames)
      (by omega)]
    simp

/-! ## Documents -/

/-- A document within limits, with integers for its numbers, and no two members of one name in an
object. -/
inductive Readable : Limits → Json → Prop
  | null {limits : Limits} : Readable limits .null
  | bool {limits : Limits} (value : Bool) : Readable limits (.bool value)
  | int {limits : Limits} {value : Int} (hdigits : limits.allowsInteger value = true) :
      Readable limits (.int value)
  | string {limits : Limits} (text : String) : Readable limits (.string text)
  | array {limits inside : Limits} {items : List Json} (hinside : limits.inside? = some inside)
      (hitems : ∀ item ∈ items, Readable inside item) : Readable limits (.array items)
  | object {limits inside : Limits} {members : List (String × Json)}
      (hinside : limits.inside? = some inside) (hnames : (members.map Prod.fst).Nodup)
      (hvalues : ∀ member ∈ members, Readable inside member.2) : Readable limits (.object members)

theorem reads_array {items : List Json} (hinside : limits.inside? = some inside)
    (hitems : ∀ item ∈ items, Reads inside (itemText ascii (level + 1) item) item) :
    Reads limits (itemText ascii level (.array items)) (.array items) := by
  intro fuel rest hfuel hrest
  rw [itemText_array] at hfuel ⊢
  cases items with
  | nil =>
    obtain ⟨fuel, rfl⟩ := Nat.exists_eq_add_one.mpr (lt_of_lt_of_le (by simp [bracketed]) hfuel)
    simp only [List.map_nil, bracketed, List.cons_append, List.nil_append, readValue, Limits.within, hinside,
      dropSpaces_cons (show isSpace ']' = false by decide)]
  | cons item items =>
    rw [List.map_cons, length_bracketed] at hfuel
    obtain ⟨fuel, rfl⟩ := Nat.exists_eq_add_one.mpr (by omega : 0 < fuel)
    obtain ⟨c, tail, htext, -, hc⟩ := itemText_eq_cons ascii (level + 1) item
    rw [List.map_cons, bracketed_append, readValue, Limits.within, hinside]
    simp only [dropSpaces_lineBreak, dropSpaces_itemText]
    have hread : readItems inside fuel [] (itemText ascii (level + 1) item ++
        closed ']' level (items.map (itemText ascii (level + 1))) rest) =
          .ok (.array ([] ++ item :: items), rest) := readItems_closed hitems (by omega)
    split
    · next heq =>
      rw [htext, List.cons_append] at heq
      exact absurd (List.cons.inj heq).1 hc
    · exact hread

theorem reads_object {members : List (String × Json)} (hinside : limits.inside? = some inside)
    (hnames : (members.map Prod.fst).Nodup)
    (hmembers : ∀ member ∈ members, Reads inside (itemText ascii (level + 1) member.2) member.2) :
    Reads limits (itemText ascii level (.object members)) (.object members) := by
  intro fuel rest hfuel hrest
  rw [itemText_object] at hfuel ⊢
  cases members with
  | nil =>
    obtain ⟨fuel, rfl⟩ := Nat.exists_eq_add_one.mpr (lt_of_lt_of_le (by simp [bracketed]) hfuel)
    simp only [List.map_nil, bracketed, List.cons_append, List.nil_append, readValue, Limits.within, hinside,
      dropSpaces_cons (show isSpace '\x7d' = false by decide)]
  | cons member members =>
    rw [List.map_cons, length_bracketed] at hfuel
    obtain ⟨fuel, rfl⟩ := Nat.exists_eq_add_one.mpr (by omega : 0 < fuel)
    rw [List.map_cons, bracketed_append, readValue, Limits.within, hinside]
    simp only [dropSpaces_lineBreak, dropSpaces_memberText]
    have hread : readMembers inside fuel [] (memberText ascii (level + 1) member ++
        closed '\x7d' level (members.map (memberText ascii (level + 1))) rest) =
          .ok (.object ([] ++ member :: members), rest) := readMembers_closed hmembers hnames (by omega)
    split
    · next heq =>
      rw [memberText, toList_stringText, List.cons_append, List.cons_append] at heq
      exact absurd (List.cons.inj heq).1 (by decide)
    · exact hread

theorem Readable.reads {json : Json} (h : Readable limits json) (level : Nat) :
    Reads limits (itemText ascii level json) json := by
  induction h generalizing level with
  | null =>
    intro fuel rest hfuel hrest
    rw [itemText, textAt] at hfuel ⊢
    obtain ⟨fuel, rfl⟩ := Nat.exists_eq_add_one.mpr (lt_of_lt_of_le (by decide) hfuel)
    rfl
  | bool value =>
    intro fuel rest hfuel hrest
    rw [itemText, textAt] at hfuel ⊢
    cases value
    all_goals
      obtain ⟨fuel, rfl⟩ := Nat.exists_eq_add_one.mpr (lt_of_lt_of_le (by decide) hfuel)
      rfl
  | int hdigits =>
    rw [itemText, textAt]
    exact reads_int hdigits
  | string text =>
    rw [itemText_string]
    exact reads_string ascii text
  | array hinside hitems ih => exact reads_array hinside fun item hitem => ih item hitem (level + 1)
  | object hinside hnames hvalues ih =>
    exact reads_object hinside hnames fun member hmember => ih member hmember (level + 1)

end LogAudit.Json
