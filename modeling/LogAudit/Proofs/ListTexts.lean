import LogAudit.Proofs.Nesting
import LogAudit.Proofs.Spelling
import LogAudit.Settings.Value

/-! # Lists that are given as one text

A list of texts can be given as a JSON array of strings, or as items with commas between them. A text is
tried as JSON first, so the two must not be taken for each other: the first character that is no blank
tells them apart. A list with commas is taken apart only if it does not go deeper than JSON can be read.

* `shape_of_readValue`: the first character of a text tells the kind of value that is read from it.
* `ArrayAs`: the JSON texts of a list, with any blanks and escapes.
* `read_arrayAs`: all of these are read as the list.
* `JoinedAs`: a list with commas, and with blanks and empty items besides.
* `splitList_decodes`: both are taken apart into the list.
* `splitList_burrow`: a list of one text that goes too deep. -/

namespace LogAudit.Json
set_option autoImplicit false

open Text

variable {limits : Limits} {fuel : Nat} {text rest : List Char} {value : Json}

/-! ## What a value begins with -/

theorem shape_of_number? {negative : Bool} (h : number? limits negative text = some (value, rest)) :
    value.shape = .scalar := by
  unfold number? at h
  split at h
  · cases h
  · simp only at h
    split at h
    · split at h
      · obtain ⟨rfl, -⟩ := Prod.mk.inj (Option.some.inj h)
        rfl
      · cases h
    · obtain ⟨rfl, -⟩ := Prod.mk.inj (Option.some.inj h)
      rfl

theorem shape_of_word? (h : word? text = some (value, rest)) : value.shape = .scalar := by
  obtain ⟨⟨word, meaning⟩, hmem, hfound⟩ := List.exists_of_findSome?_eq_some h
  obtain ⟨behind, -, hvalue⟩ := Option.map_eq_some_iff.mp hfound
  obtain ⟨rfl, -⟩ := Prod.mk.inj hvalue
  simp only [words, List.mem_cons, Prod.mk.injEq, List.not_mem_nil, or_false] at hmem
  rcases hmem with ⟨-, rfl⟩ | ⟨-, rfl⟩ | ⟨-, rfl⟩ | ⟨-, rfl⟩ | ⟨-, rfl⟩ | ⟨-, rfl⟩ <;> rfl

theorem exists_of_thenRead {first : Parsed} {next : Json → List Char → Parsed} {found : Json × List Char}
    (h : thenRead first next = .ok found) : ∃ value rest, next value rest = .ok found := by
  cases first with
  | error failure => cases h
  | ok read => exact ⟨read.1, read.2, h⟩

theorem shape_of_readItems {before : List Json} (h : readItems limits fuel before text = .ok (value, rest)) :
    value.shape = .array := by
  induction fuel generalizing before text with
  | zero => simp [readItems] at h
  | succ fuel ih =>
    rw [readItems] at h
    obtain ⟨item, behind, hnext⟩ := exists_of_thenRead h
    split at hnext
    · exact ih hnext
    · obtain ⟨rfl, -⟩ := Prod.mk.inj (Except.ok.inj hnext)
      rfl
    · cases hnext

theorem shape_of_readMembers {before : List (String × Json)}
    (h : readMembers limits fuel before text = .ok (value, rest)) : value.shape = .object := by
  induction fuel generalizing before text with
  | zero => simp [readMembers] at h
  | succ fuel ih =>
    rw [readMembers] at h
    split at h
    · cases h
    · obtain ⟨member, behind, hnext⟩ := exists_of_thenRead h
      split at hnext
      · exact ih hnext
      · obtain ⟨rfl, -⟩ := Prod.mk.inj (Except.ok.inj hnext)
        rfl
      · cases hnext

theorem shapeOf_of_ne {c : Char} (hquote : c ≠ '"') (hbracket : c ≠ '[') (hbrace : c ≠ '\x7b') :
    shapeOf c = .scalar := by
  simp [shapeOf, hquote, hbracket, hbrace]

theorem eq_bracket_of_shapeOf {c : Char} (h : shapeOf c = .array) : c = '[' := by
  unfold shapeOf at h
  split at h
  · cases h
  · split at h
    · next hbracket => exact beq_iff_eq.mp hbracket
    · split at h <;> cases h

theorem shape_of_scalar? (h : scalar? limits text = some (value, rest))
    (hbracket : ∀ behind, text ≠ '[' :: behind) (hbrace : ∀ behind, text ≠ '\x7b' :: behind) :
    ∃ c behind, text = c :: behind ∧ shapeOf c = value.shape := by
  unfold scalar? at h
  split at h
  · obtain ⟨_, -, hvalue⟩ := Option.map_eq_some_iff.mp h
    obtain ⟨rfl, -⟩ := Prod.mk.inj hvalue
    exact ⟨_, _, rfl, rfl⟩
  · refine ⟨_, _, rfl, ?_⟩
    rcases Option.or_eq_some_iff.mp h with hnumber | ⟨-, hword⟩
    · exact (shape_of_number? hnumber).symm
    · exact (shape_of_word? hword).symm
  · next hquote _ =>
    have hshape : value.shape = .scalar := by
      rcases Option.or_eq_some_iff.mp h with hword | ⟨-, hnumber⟩
      · exact shape_of_word? hword
      · exact shape_of_number? hnumber
    cases text with
    | nil => cases h
    | cons c behind =>
      refine ⟨c, behind, rfl, ?_⟩
      rw [hshape]
      apply shapeOf_of_ne
      · rintro rfl
        exact hquote behind rfl
      · rintro rfl
        exact hbracket behind rfl
      · rintro rfl
        exact hbrace behind rfl

theorem exists_of_within {container : Container} {next : Limits → Parsed} {found : Json × List Char}
    (h : limits.within container next = .ok found) : ∃ inside, next inside = .ok found := by
  unfold Limits.within at h
  split at h
  · next inside _ => exact ⟨inside, h⟩
  · cases h

theorem shape_of_readValue (h : readValue limits fuel text = .ok (value, rest)) :
    ∃ c behind, text = c :: behind ∧ shapeOf c = value.shape := by
  cases fuel with
  | zero => simp [readValue] at h
  | succ fuel =>
    unfold readValue at h
    split at h
    · refine ⟨_, _, rfl, ?_⟩
      obtain ⟨inside, hnext⟩ := exists_of_within h
      split at hnext
      · obtain ⟨rfl, -⟩ := Prod.mk.inj (Except.ok.inj hnext)
        rfl
      · exact (shape_of_readItems hnext).symm
    · refine ⟨_, _, rfl, ?_⟩
      obtain ⟨inside, hnext⟩ := exists_of_within h
      split at hnext
      · obtain ⟨rfl, -⟩ := Prod.mk.inj (Except.ok.inj hnext)
        rfl
      · exact (shape_of_readMembers hnext).symm
    · next hbracket hbrace =>
      cases hscalar : scalar? limits text with
      | none =>
        rw [hscalar] at h
        cases h
      | some found =>
        rw [hscalar] at h
        obtain rfl := Except.ok.inj h
        exact shape_of_scalar? hscalar hbracket hbrace

/-! ## Arrays of strings -/

/-- A string in quotes, every character of which is written in any way. -/
def QuotedAs (text : String) (written : List Char) : Prop :=
  ∃ parts, List.Forall₂ Spells text.toList parts ∧ written = '"' :: (parts.flatten ++ ['"'])

/-- A string with blanks around it. -/
def ItemAs (text : String) (written : List Char) : Prop :=
  ∃ front quoted back, AllSpace front ∧ QuotedAs text quoted ∧ AllSpace back ∧
    written = front ++ (quoted ++ back)

/-- What stands between the brackets of an array of strings: nothing but blanks, or its strings with
commas between them. -/
inductive BodyAs : List String → List Char → Prop
  | empty {spaces : List Char} : AllSpace spaces → BodyAs [] spaces
  | items {texts : List String} {items : List (List Char)} : texts ≠ [] →
      List.Forall₂ ItemAs texts items → BodyAs texts ([','].intercalate items)

/-- The text of an array of strings, with blanks around it. -/
def ArrayAs (texts : List String) (written : List Char) : Prop :=
  ∃ front body back, AllSpace front ∧ BodyAs texts body ∧ AllSpace back ∧
    written = front ++ '[' :: (body ++ ']' :: back)

theorem readValue_quoted {text : String} {written : List Char} (h : QuotedAs text written) (fuel : Nat)
    (rest : List Char) : readValue limits (fuel + 1) (written ++ rest) = .ok (.string text, rest) := by
  obtain ⟨parts, hparts, rfl⟩ := h
  rw [List.cons_append, List.append_assoc, List.singleton_append,
    readValue_scalar (by decide) (by decide), scalar?, string?_flatten hparts]
  rfl

/-- The blanks in front of an item are dropped, so that it begins with its quote. -/
theorem dropSpaces_item {text : String} {item : List Char} (h : ItemAs text item) (rest : List Char) :
    ∃ quoted back, QuotedAs text quoted ∧ AllSpace back ∧
      dropSpaces (item ++ rest) = quoted ++ (back ++ rest) := by
  obtain ⟨front, quoted, back, hfront, hquoted, hback, rfl⟩ := h
  refine ⟨quoted, back, hquoted, hback, ?_⟩
  obtain ⟨parts, -, rfl⟩ := hquoted
  rw [List.append_assoc, dropSpaces_append hfront, List.append_assoc, List.cons_append,
    dropSpaces_cons (by decide)]

theorem length_item {text : String} {item : List Char} (h : ItemAs text item) : 2 ≤ item.length := by
  obtain ⟨front, quoted, back, -, ⟨parts, -, rfl⟩, -, rfl⟩ := h
  simp only [List.length_append, List.length_cons]
  omega

/-- An item is read; behind it another follows, or the array ends. -/
theorem readItems_item {text : String} {item : List Char} (h : ItemAs text item) (fuel : Nat)
    (before : List Json) (rest : List Char) :
    readItems limits (fuel + 2) before (dropSpaces (item ++ ',' :: rest)) =
      readItems limits (fuel + 1) (.string text :: before) (dropSpaces rest) ∧
    readItems limits (fuel + 2) before (dropSpaces (item ++ ']' :: rest)) =
      .ok (.array (.string text :: before).reverse, rest) := by
  have hread : ∀ c, isSpace c = false → ∃ behind, dropSpaces behind = c :: rest ∧
      readValue limits (fuel + 1) (dropSpaces (item ++ c :: rest)) = .ok (.string text, behind) := by
    intro c hc
    obtain ⟨quoted, back, hquoted, hback, hdrop⟩ := dropSpaces_item h (c :: rest)
    refine ⟨back ++ c :: rest, ?_, ?_⟩
    · rw [dropSpaces_append hback, dropSpaces_cons hc]
    · rw [hdrop, readValue_quoted hquoted]
  constructor
  · obtain ⟨behind, hbehind, hvalue⟩ := hread ',' (by decide)
    rw [readItems, hvalue]
    simp only [thenRead, hbehind]
  · obtain ⟨behind, hbehind, hvalue⟩ := hread ']' (by decide)
    rw [readItems, hvalue]
    simp only [thenRead, hbehind]

theorem readItems_intercalate {text : String} {texts : List String} {item : List Char}
    {items : List (List Char)} {before : List Json}
    (h : List.Forall₂ ItemAs (text :: texts) (item :: items))
    (hfuel : ([','].intercalate (item :: items)).length ≤ fuel) :
    readItems limits fuel before (dropSpaces ([','].intercalate (item :: items) ++ ']' :: rest)) =
      .ok (.array (before.reverse ++ (text :: texts).map .string), rest) := by
  induction items generalizing text texts item before fuel with
  | nil =>
    obtain ⟨hitem, hnone⟩ := List.forall₂_cons.mp h
    obtain rfl := List.forall₂_nil_right_iff.mp hnone
    have hlength := length_item hitem
    rw [List.intercalate_singleton] at hfuel ⊢
    obtain ⟨fuel, rfl⟩ : ∃ further, fuel = further + 2 := ⟨fuel - 2, by omega⟩
    rw [(readItems_item hitem fuel before rest).2]
    simp
  | cons next items ih =>
    obtain ⟨hitem, hmore⟩ := List.forall₂_cons.mp h
    obtain ⟨text', texts', -, -, rfl⟩ := List.forall₂_cons_right_iff.mp hmore
    have hlength := length_item hitem
    have hjoin : [','].intercalate (item :: next :: items) =
        item ++ ',' :: [','].intercalate (next :: items) := by
      rw [List.intercalate_cons_cons, List.append_assoc, List.singleton_append]
    rw [hjoin, List.length_append, List.length_cons] at hfuel
    obtain ⟨fuel, rfl⟩ : ∃ further, fuel = further + 2 := ⟨fuel - 2, by omega⟩
    rw [hjoin, List.append_assoc, List.cons_append, (readItems_item hitem fuel before _).1,
      ih hmore (by omega)]
    simp

/-- Joined parts begin with the first of them, and a comma follows it if anything does. -/
theorem intercalate_cons_eq (part : List Char) (parts : List (List Char)) :
    ∃ more, [','].intercalate (part :: parts) = part ++ more ∧ ∀ c ∈ more.head?, c = ',' := by
  cases parts with
  | nil => exact ⟨[], by simp, by simp⟩
  | cons next parts =>
    refine ⟨',' :: [','].intercalate (next :: parts), ?_, by simp⟩
    rw [List.intercalate_cons_cons, List.append_assoc, List.singleton_append]

theorem head_dropSpaces_intercalate {text : String} {item : List Char} (h : ItemAs text item)
    (items : List (List Char)) (rest : List Char) :
    ∃ tail, dropSpaces ([','].intercalate (item :: items) ++ rest) = '"' :: tail := by
  obtain ⟨more, hmore, -⟩ := intercalate_cons_eq item items
  obtain ⟨quoted, back, ⟨parts, -, rfl⟩, -, hdrop⟩ := dropSpaces_item h (more ++ rest)
  rw [hmore, List.append_assoc, hdrop]
  exact ⟨_, rfl⟩

/-- Between brackets, blanks are an empty array, and strings are the items of one. -/
theorem readValue_body {texts : List String} {body : List Char} {inside : Limits}
    (hinside : limits.inside? = some inside) (h : BodyAs texts body) (hfuel : body.length ≤ fuel) :
    readValue limits (fuel + 1) ('[' :: (body ++ ']' :: rest)) = .ok (.array (texts.map .string), rest) := by
  rw [readValue, Limits.within, hinside]
  cases h with
  | empty hspaces =>
    simp only [dropSpaces_append hspaces, dropSpaces_cons (show isSpace ']' = false by decide),
      List.map_nil]
  | @items _ items hsome hitems =>
    obtain ⟨text, texts, rfl⟩ := List.exists_cons_of_ne_nil hsome
    obtain ⟨item, items, hitem, -, rfl⟩ := List.forall₂_cons_left_iff.mp hitems
    obtain ⟨tail, htail⟩ := head_dropSpaces_intercalate hitem items (']' :: rest)
    have hread : readItems inside fuel [] (dropSpaces ([','].intercalate (item :: items) ++ ']' :: rest)) =
        .ok (.array ([].reverse ++ (text :: texts).map .string), rest) :=
      readItems_intercalate hitems hfuel
    rw [htail] at hread
    simp only [htail]
    exact hread

theorem read_arrayAs {texts : List String} {written : String} (h : ArrayAs texts written.toList) :
    (limits.reaches 1 = true → read limits written = .ok (.array (texts.map .string))) ∧
    (limits.reaches 1 = false → read limits written = .error (.tooDeep .array)) := by
  obtain ⟨front, body, back, hfront, hbody, hback, hwritten⟩ := h
  have hlength : body.length ≤ 2 * written.toList.length + 1 := by
    rw [hwritten]
    simp only [List.length_append, List.length_cons]
    omega
  have hblank : dropSpaces back = [] := List.dropWhile_eq_nil_iff.mpr hback
  have hdrop : dropSpaces written.toList = '[' :: (body ++ ']' :: back) := by
    rw [hwritten, dropSpaces_append hfront, dropSpaces_cons (by decide)]
  constructor
  · intro hreaches
    obtain ⟨inside, hinside⟩ : ∃ inside, limits.inside? = some inside := by
      rw [← Option.ne_none_iff_exists', ne_eq, inside?_eq_none_iff, hreaches]
      decide
    rw [read, hdrop, readValue_body hinside hbody hlength]
    simp only [hblank, List.isEmpty_nil, if_true]
  · intro hreaches
    rw [read_tooDeep_iff, hdrop, readValue, Limits.within, inside?_eq_none_iff.mpr hreaches]

/-- A text that is read as an array begins with a bracket, blanks aside. -/
theorem bracket_of_read {written : String} {items : List Json} (h : read limits written = .ok (.array items)) :
    ∃ spaces behind, AllSpace spaces ∧ written.toList = spaces ++ '[' :: behind := by
  unfold read at h
  split at h
  · next value rest hvalue =>
    split at h
    · obtain rfl := Except.ok.inj h
      obtain ⟨c, behind, htext, hc⟩ := shape_of_readValue hvalue
      have hbracket : c = '[' := eq_bracket_of_shapeOf hc
      refine ⟨written.toList.takeWhile isSpace, behind, fun d hd => List.mem_takeWhile_imp hd, ?_⟩
      rw [← hbracket, ← htext]
      exact (List.takeWhile_append_dropWhile).symm
    · cases h
  · cases h

/-! ## Arrays as they are written -/

theorem allSpace_nil : AllSpace [] := List.forall_mem_nil _

theorem itemAs_stringText (ascii : Bool) {spaces : List Char} (h : AllSpace spaces) (text : String) :
    ItemAs text (spaces ++ (stringText ascii text).toList) := by
  have hquoted : QuotedAs text (stringText ascii text).toList :=
    ⟨_, forall₂_spells_charText ascii text.toList, toList_stringText ascii text⟩
  exact ⟨spaces, _, [], h, hquoted, allSpace_nil, by rw [List.append_nil]⟩

theorem itemsAt_strings (ascii : Bool) (level : Nat) (text : String) (texts : List String) :
    (itemsAt ⟨ascii, false⟩ level ((text :: texts).map .string)).toList = [','].intercalate
      ((stringText ascii text).toList :: texts.map fun next => ' ' :: (stringText ascii next).toList) := by
  induction texts generalizing text with
  | nil => simp [itemsAt, textAt]
  | cons next texts ih =>
    have hstep : itemsAt ⟨ascii, false⟩ level ((text :: next :: texts).map .string) =
        stringText ascii text ++ (", " ++ itemsAt ⟨ascii, false⟩ level ((next :: texts).map .string)) := by
      rw [List.map_cons, itemsAt, textAt]
      rfl
    have hcomma : ", ".toList = [',', ' '] := rfl
    rw [hstep, String.toList_append, String.toList_append, hcomma, ih next, List.map_cons,
      List.intercalate_cons_cons, List.append_assoc]
    cases texts <;> simp [List.intercalate_cons_cons]

/-- An array of strings is written on one line as one of its texts. -/
theorem arrayAs_text (ascii : Bool) (texts : List String) :
    ArrayAs texts ((Json.array (texts.map .string)).text ⟨ascii, false⟩).toList := by
  cases texts with
  | nil =>
    refine ⟨[], [], [], allSpace_nil, .empty allSpace_nil, allSpace_nil, ?_⟩
    rw [List.map_nil, Json.text, textAt]
    rfl
  | cons text texts =>
    have hitems : List.Forall₂ ItemAs (text :: texts) ((stringText ascii text).toList ::
        texts.map fun next => ' ' :: (stringText ascii next).toList) := by
      have hfirst := itemAs_stringText ascii allSpace_nil text
      have hblank : AllSpace [' '] := by
        intro c hc
        rw [List.mem_singleton.mp hc]
        rfl
      rw [List.nil_append] at hfirst
      refine .cons hfirst ?_
      rw [List.forall₂_map_right_iff, List.forall₂_same]
      intro next _
      exact itemAs_stringText ascii hblank next
    refine ⟨[], _, [], allSpace_nil, .items (List.cons_ne_nil _ _) hitems, allSpace_nil, ?_⟩
    rw [← itemsAt_strings ascii 0 text texts, Json.text, List.map_cons, textAt, if_neg Bool.false_ne_true,
      String.toList_append, String.toList_append]
    rfl

end LogAudit.Json

namespace LogAudit.Settings
set_option autoImplicit false

open Text

variable {texts : List String} {parts : List (List Char)} {written : String}

/-! ## Items between commas -/

/-- What can be an item between commas: some text without a comma and without blanks at its ends. -/
structure IsItem (text : String) : Prop where
  nonempty : text ≠ ""
  comma : ',' ∉ text.toList
  unpadded : Unpadded text.toList

theorem isItem_of_all {text : String} (hsome : text ≠ "")
    (hall : text.toList.all (fun c => c != ',' && !isBlank c) = true) : IsItem text := by
  simp only [List.all_eq_true, Bool.and_eq_true, bne_iff_ne, Bool.not_eq_true'] at hall
  exact ⟨hsome, fun hmem => (hall _ hmem).1 rfl, unpadded_of_no_blank fun c hc => (hall c hc).2⟩

/-- Parts that hold the texts in order, with blanks around each of them, and parts of nothing but blanks
anywhere between. -/
inductive PartsAs : List String → List (List Char) → Prop
  | none : PartsAs [] []
  | blank {texts : List String} {part : List Char} {parts : List (List Char)} :
      AllBlank part → PartsAs texts parts → PartsAs texts (part :: parts)
  | item {text : String} {texts : List String} {part : List Char} {parts : List (List Char)} :
      Pads part text.toList → PartsAs texts parts → PartsAs (text :: texts) (part :: parts)

/-- A list of texts with commas between them, with blanks and empty items besides. -/
def JoinedAs (texts : List String) (written : List Char) : Prop :=
  ∃ parts, PartsAs texts parts ∧ written = [','].intercalate parts

theorem PartsAs.comma_not_mem (h : PartsAs texts parts) (hitems : ∀ text ∈ texts, IsItem text) :
    ∀ part ∈ parts, ',' ∉ part := by
  induction h with
  | none => nofun
  | blank hpart _ ih => exact List.forall_mem_cons.mpr ⟨not_mem_of_class hpart (by decide), ih hitems⟩
  | item hpads _ ih =>
    obtain ⟨hitem, hmore⟩ := List.forall_mem_cons.mp hitems
    obtain ⟨front, back, hfront, hback, rfl⟩ := hpads
    have hleft : ',' ∉ front := not_mem_of_class hfront (by decide)
    have hright : ',' ∉ back := not_mem_of_class hback (by decide)
    exact List.forall_mem_cons.mpr ⟨by simp [hleft, hitem.comma, hright], ih hmore⟩

/-- Trimming leaves the texts, and nothing of the other parts. -/
theorem PartsAs.trim_eq (h : PartsAs texts parts) (hitems : ∀ text ∈ texts, IsItem text) :
    ((parts.map String.ofList).map trim).filter (· != "") = texts := by
  induction h with
  | none => rfl
  | @blank _ part _ hpart _ ih =>
    have hempty : trim (String.ofList part) = "" := by
      have hpads : Pads part [] := ⟨part, [], hpart, List.forall_mem_nil _, by simp⟩
      rw [trim, String.toList_ofList, trimmed_padded hpads (unpadded_of_no_blank (List.forall_mem_nil _))]
    rw [List.map_cons, List.map_cons, hempty, List.filter_cons_of_neg (by decide), ih hitems]
  | @item text _ part _ hpads _ ih =>
    obtain ⟨hitem, hmore⟩ := List.forall_mem_cons.mp hitems
    have htrim : trim (String.ofList part) = text := by
      rw [trim, String.toList_ofList, trimmed_padded hpads hitem.unpadded, String.ofList_toList]
    rw [List.map_cons, List.map_cons, htrim, List.filter_cons_of_pos (by simpa using hitem.nonempty),
      ih hmore]

theorem splitCommas_joined (hitems : ∀ text ∈ texts, IsItem text) (h : JoinedAs texts written.toList) :
    splitCommas written = texts := by
  obtain ⟨parts, hparts, hwritten⟩ := h
  by_cases hnone : parts = []
  · subst hnone
    cases hparts
    obtain rfl : written = "" := String.toList_eq_nil_iff.mp hwritten
    rfl
  · unfold splitCommas pieces
    rw [hwritten, splitAtMark_intercalate hnone (hparts.comma_not_mem hitems)]
    exact hparts.trim_eq hitems

/-- Blanks aside, a joined list begins with its first text or with a comma, and not as an array does. -/
theorem PartsAs.head_ne_bracket (h : PartsAs texts parts) (hitems : ∀ text ∈ texts, IsItem text)
    (hfirst : ∀ first ∈ texts.head?, first.toList.head? ≠ some '[') :
    (dropBlanks ([','].intercalate parts)).head? ≠ some '[' := by
  cases h with
  | none => simp [dropBlanks]
  | @blank _ part parts hpart _ =>
    obtain ⟨more, hmore, hcomma⟩ := Json.intercalate_cons_eq part parts
    have hhead : ∀ c ∈ more.head?, isBlank c = false := by
      intro c hc
      rw [hcomma c hc]
      decide
    rw [hmore, dropBlanks_padded hpart hhead]
    intro hbracket
    exact absurd (hcomma '[' hbracket) (by decide)
  | @item text _ part parts hpads _ =>
    obtain ⟨more, hmore, -⟩ := Json.intercalate_cons_eq part parts
    obtain ⟨front, back, hfront, -, rfl⟩ := hpads
    have hitem := hitems text List.mem_cons_self
    obtain ⟨c, tail, htext⟩ := List.exists_cons_of_ne_nil (mt String.toList_eq_nil_iff.mp hitem.nonempty)
    have hhead : ∀ d ∈ (text.toList ++ (back ++ more)).head?, isBlank d = false := by
      rw [htext]
      simpa [htext] using hitem.unpadded.front
    rw [hmore, List.append_assoc, List.append_assoc, dropBlanks_padded hfront hhead, htext]
    have hne := hfirst text rfl
    rw [htext] at hne
    exact hne

theorem isBlank_of_isSpace {c : Char} (h : Json.isSpace c = true) : isBlank c = true := by
  simp only [Json.isSpace, Bool.or_eq_true, beq_iff_eq, or_assoc] at h
  rcases h with rfl | rfl | rfl | rfl <;> decide

/-- So it is not read as an array. -/
theorem JoinedAs.not_array (h : JoinedAs texts written.toList) (hitems : ∀ text ∈ texts, IsItem text)
    (hfirst : ∀ first ∈ texts.head?, first.toList.head? ≠ some '[') (limits : Json.Limits)
    (items : List Json) : Json.read limits written ≠ .ok (.array items) := by
  intro hread
  obtain ⟨spaces, behind, hspaces, hbracket⟩ := Json.bracket_of_read hread
  obtain ⟨parts, hparts, hwritten⟩ := h
  have hblanks : AllBlank spaces := fun c hc => isBlank_of_isSpace (hspaces c hc)
  have hdrop : dropBlanks written.toList = '[' :: behind := by
    rw [hbracket, dropBlanks_padded hblanks]
    intro c hc
    obtain rfl := Option.some.inj hc
    decide
  apply hparts.head_ne_bracket hitems hfirst
  rw [← hwritten, hdrop]
  rfl

theorem joinedAs_intercalate (texts : List String) :
    JoinedAs texts ([','].intercalate (texts.map String.toList)) := by
  refine ⟨texts.map String.toList, ?_, rfl⟩
  induction texts with
  | nil => exact .none
  | cons text texts ih =>
    have hpads : Pads text.toList text.toList :=
      ⟨[], [], List.forall_mem_nil _, List.forall_mem_nil _, by simp⟩
    exact .item hpads ih

theorem splitList_array {limits : Json.Limits} (h : Json.ArrayAs texts written.toList) :
    (limits.reaches 1 = true → splitList limits written = .ok texts) ∧
    (limits.reaches 1 = false → splitList limits written = .error .array) := by
  have hdisplay : (texts.map Json.string).map Json.display = texts := by
    simp [Function.comp_def, Json.display]
  constructor
  · intro hreaches
    rw [splitList, (Json.read_arrayAs h).1 hreaches]
    simp only [hdisplay]
  · intro hreaches
    rw [splitList, (Json.read_arrayAs h).2 hreaches]

theorem splitList_joined {limits : Json.Limits} (hitems : ∀ text ∈ texts, IsItem text)
    (hfirst : ∀ first ∈ texts.head?, first.toList.head? ≠ some '[') (h : JoinedAs texts written.toList) :
    (∀ container, Json.read limits written = .error (.tooDeep container) →
      splitList limits written = .error container) ∧
    ((∀ container, Json.read limits written ≠ .error (.tooDeep container)) →
      splitList limits written = .ok texts) := by
  constructor
  · intro container hdeep
    rw [splitList, hdeep]
  · intro hshallow
    have hcommas : splitCommas written = texts := splitCommas_joined hitems h
    unfold splitList
    split
    · next items hread => exact absurd hread (h.not_array hitems hfirst limits items)
    · rw [hcommas]
    · rw [hcommas]
    · next container hdeep => exact absurd hdeep (hshallow container)

/-- A list that is given as one text is taken apart into its items, if JSON can be read as deep as the text
goes. Given as a JSON array, it may have blanks between its parts and any characters in escapes; the text
that is written for the array is one such. Given with commas, it may have blanks and empty items around
them, as long as no item is empty, holds a comma or has blanks at its ends, and the first one does not look
like the beginning of an array; the items with nothing but commas between them are one such text. It has a
depth, at most the number of brackets and braces that it opens, and is refused for just those limits that do
not reach this depth. -/
theorem splitList_decodes (texts : List String) :
    (∀ ascii, Json.ArrayAs texts ((Json.array (texts.map .string)).text ⟨ascii, false⟩).toList) ∧
    (∀ written : String, Json.ArrayAs texts written.toList → ∀ limits : Json.Limits,
      (limits.reaches 1 = true → splitList limits written = .ok texts) ∧
      (limits.reaches 1 = false → splitList limits written = .error .array)) ∧
    JoinedAs texts ([','].intercalate (texts.map String.toList)) ∧
    ((∀ text ∈ texts, IsItem text) → (∀ first ∈ texts.head?, first.toList.head? ≠ some '[') →
      ∀ written : String, JoinedAs texts written.toList →
      ∀ digits, ∃ depth ≤ Json.openings written.toList, ∀ limits : Json.Limits, limits.digits = digits →
        (limits.reaches depth = true → splitList limits written = .ok texts) ∧
        (limits.reaches depth = false → ∃ container, splitList limits written = .error container)) := by
  refine ⟨fun ascii => Json.arrayAs_text ascii texts, fun written h limits => splitList_array h,
    joinedAs_intercalate texts, ?_⟩
  intro hitems hfirst written h digits
  obtain ⟨depth, hbound, hdepth⟩ := Json.exists_depth digits written
  refine ⟨depth, hbound, fun limits hdigits => ⟨?_, ?_⟩⟩
  · intro hreaches
    apply (splitList_joined hitems hfirst h).2
    intro container hdeep
    have hfalse := (hdepth limits hdigits).mp ⟨container, hdeep⟩
    rw [hreaches] at hfalse
    cases hfalse
  · intro hreaches
    obtain ⟨container, hdeep⟩ := (hdepth limits hdigits).mpr hreaches
    exact ⟨container, (splitList_joined hitems hfirst h).1 container hdeep⟩

/-- An array with a pair of codes, an escape and blanks, and a list with a brace, an empty item and
blanks. -/
theorem splitList_decodes_escaped_and_padded :
    (Json.ArrayAs ["𝄞", "a/"] " [ \"\\uD834\\udd1e\" ,\t\"a\\/\"]\n".toList ∧
      splitList ⟨some 1, some 1⟩ " [ \"\\uD834\\udd1e\" ,\t\"a\\/\"]\n" = .ok ["𝄞", "a/"]) ∧
    (JoinedAs ["\x7bsrc/a", "src/b"] " \x7bsrc/a , ,src/b ".toList ∧
      splitList ⟨some 1, some 1⟩ " \x7bsrc/a , ,src/b " = .ok ["\x7bsrc/a", "src/b"]) := by
  have hclef : Json.Spells '𝄞' "\\uD834\\udd1e".toList :=
    @Json.Spells.pair '𝄞' ['D', '8', '3', '4'] ['d', 'd', '1', 'e'] (by decide)
      (@Json.HexCode.digits 13 8 3 4 'D' '8' '3' '4' (by decide) (by decide) (by decide) (by decide))
      (@Json.HexCode.digits 13 13 1 14 'd' 'd' '1' 'e' (by decide) (by decide) (by decide) (by decide))
  have hslash : Json.Spells '/' ['\\', '/'] := .short (by decide)
  have hletter : Json.Spells 'a' ['a'] := .plain (by decide) (by decide) (by decide)
  have hfirst : Json.ItemAs "𝄞" " \"\\uD834\\udd1e\" ".toList :=
    ⟨[' '], _, [' '], List.all_eq_true.mp (by decide), ⟨_, .cons hclef .nil, rfl⟩,
      List.all_eq_true.mp (by decide), by decide⟩
  have hsecond : Json.ItemAs "a/" "\t\"a\\/\"".toList :=
    ⟨['\t'], _, [], List.all_eq_true.mp (by decide), ⟨_, .cons hletter (.cons hslash .nil), rfl⟩,
      List.all_eq_true.mp (by decide), by decide⟩
  have harray : Json.ArrayAs ["𝄞", "a/"] " [ \"\\uD834\\udd1e\" ,\t\"a\\/\"]\n".toList :=
    ⟨[' '], _, ['\n'], List.all_eq_true.mp (by decide), .items (by decide) (.cons hfirst (.cons hsecond .nil)),
      List.all_eq_true.mp (by decide), by decide⟩
  have hjoined : JoinedAs ["\x7bsrc/a", "src/b"] " \x7bsrc/a , ,src/b ".toList := by
    refine ⟨[" \x7bsrc/a ".toList, [' '], "src/b ".toList], .item ?_ (.blank ?_ (.item ?_ .none)), by decide⟩
    · exact ⟨[' '], [' '], List.all_eq_true.mp (by decide), List.all_eq_true.mp (by decide), by decide⟩
    · exact List.all_eq_true.mp (by decide)
    · exact ⟨[], [' '], List.all_eq_true.mp (by decide), List.all_eq_true.mp (by decide), by decide⟩
  have hitems : ∀ text ∈ ["\x7bsrc/a", "src/b"], IsItem text := by
    simpa using ⟨isItem_of_all (by decide) (by decide), isItem_of_all (by decide) (by decide)⟩
  obtain ⟨depth, hbound, hdepth⟩ := (splitList_decodes _).2.2.2 hitems (by decide) _ hjoined (some 1)
  have hopenings : Json.openings " \x7bsrc/a , ,src/b ".toList = 1 := by decide
  have hreaches : Json.Limits.reaches ⟨some 1, some 1⟩ depth = true := by
    simp only [Json.Limits.reaches, Option.all_some, decide_eq_true_eq]
    omega
  exact ⟨⟨harray, ((splitList_decodes _).2.1 _ harray _).1 (by decide)⟩,
    ⟨hjoined, (hdepth _ rfl).1 hreaches⟩⟩

/-! ## A list that goes too deep -/

/-- An object in an object, and so on, none of which is closed. -/
def burrow : Nat → List Char
  | 0 => []
  | levels + 1 => '\x7b' :: '"' :: 'a' :: '"' :: ':' :: burrow levels

theorem readValue_burrow (levels more : Nat) (digits : Option Nat) {fuel : Nat}
    (hfuel : 2 * levels + 1 ≤ fuel) :
    Json.readValue ⟨some levels, digits⟩ fuel (burrow (more + levels + 1)) =
      .error (.tooDeep .object) := by
  induction levels generalizing fuel with
  | zero =>
    obtain ⟨fuel, rfl⟩ := Nat.exists_eq_add_one.mpr (by omega : 0 < fuel)
    rfl
  | succ levels ih =>
    obtain ⟨fuel, rfl⟩ : ∃ further, fuel = further + 2 := ⟨fuel - 2, by omega⟩
    have hinner := @ih fuel (by omega)
    have hname : Json.name? ('"' :: 'a' :: '"' :: ':' :: burrow (more + levels + 1)) =
        some ("a", burrow (more + levels + 1)) := rfl
    rw [← Nat.add_assoc, burrow, Json.readValue]
    change Json.readMembers ⟨some levels, digits⟩ (fuel + 1) []
      ('"' :: 'a' :: '"' :: ':' :: burrow (more + levels + 1)) = _
    rw [Json.readMembers, hname]
    simp only [hinner, Json.thenRead]

theorem length_burrow (levels : Nat) : (burrow levels).length = 5 * levels := by
  induction levels with
  | zero => rfl
  | succ levels ih =>
    simp only [burrow, List.length_cons, ih]
    omega

theorem burrow_all (levels : Nat) : (burrow levels).all (fun c => c != ',' && !isBlank c) = true := by
  induction levels with
  | zero => rfl
  | succ levels ih => simpa [burrow, ih] using by decide

theorem isItem_burrow {levels : Nat} (h : 0 < levels) :
    IsItem (String.ofList (burrow levels)) ∧
      (String.ofList (burrow levels)).toList.head? ≠ some '[' ∧
      JoinedAs [String.ofList (burrow levels)] (burrow levels) := by
  obtain ⟨levels, rfl⟩ := Nat.exists_eq_add_one.mpr h
  refine ⟨isItem_of_all (by simp [burrow]) ?_, by simp [burrow], ?_⟩
  · rw [String.toList_ofList]
    exact burrow_all (levels + 1)
  · simpa using joinedAs_intercalate [String.ofList (burrow (levels + 1))]

/-- However deep JSON can be read, a text that goes deeper is refused. -/
theorem splitList_of_burrow {deepest levels : Nat} (h : deepest < levels) (digits : Option Nat) :
    splitList ⟨some deepest, digits⟩ (String.ofList (burrow levels)) = .error .object := by
  obtain ⟨more, rfl⟩ : ∃ more, levels = more + deepest + 1 := ⟨levels - deepest - 1, by omega⟩
  have hdrop : Json.dropSpaces (burrow (more + deepest + 1)) = burrow (more + deepest + 1) :=
    Json.dropSpaces_cons (by decide) _
  have hread : Json.read ⟨some deepest, digits⟩ (String.ofList (burrow (more + deepest + 1))) =
      .error (.tooDeep .object) := by
    rw [Json.read_tooDeep_iff, String.toList_ofList, hdrop]
    apply readValue_burrow
    rw [length_burrow]
    omega
  rw [splitList, hread]

/-- A list of one text, which is not empty, holds neither commas nor blanks and begins with no bracket,
but is refused. -/
theorem splitList_burrow :
    (IsItem (String.ofList (burrow 20000)) ∧
      (String.ofList (burrow 20000)).toList.head? ≠ some '[' ∧
      JoinedAs [String.ofList (burrow 20000)] (burrow 20000)) ∧
    splitList ⟨some 1000, some 4300⟩ (String.ofList (burrow 20000)) = .error .object :=
  ⟨isItem_burrow (by decide), splitList_of_burrow (by decide) (some 4300)⟩

end LogAudit.Settings
