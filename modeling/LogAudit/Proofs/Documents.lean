import LogAudit.Proofs.Escapes

/-! # Which members an indented text has

The text of a document tells its members. Two documents with the same text can differ in the numbers
they hold, but they have members of the same names at the same places, with the same strings.

* `HasMember`: the members of a document, at any depth.
* `plainText_scalar`: a value that is neither a string nor made of others is letters, digits and signs.
* `bracketed_cancel`: items between brackets are told apart.
* `itemText_cancels`: an indented text is told apart from what follows it.
* `sameMembers_of_text_eq`: documents with the same text. -/

namespace LogAudit.Json
set_option autoImplicit false

open Text Decimal

variable {ascii : Bool} {level : Nat}

/-! ## Members -/

/-- A member of a document, in an object at any depth. -/
inductive HasMember : Json → String → Json → Prop
  | here {members : List (String × Json)} {name : String} {value : Json} :
      (name, value) ∈ members → HasMember (.object members) name value
  | member {members : List (String × Json)} {inner : String × Json} {name : String} {value : Json} :
      inner ∈ members → HasMember inner.2 name value → HasMember (.object members) name value
  | item {items : List Json} {inner : Json} {name : String} {value : Json} :
      inner ∈ items → HasMember inner name value → HasMember (.array items) name value

theorem hasMember_of_mem_members {json value : Json} {name : String}
    (h : (name, value) ∈ json.members) : json.HasMember name value := by
  cases json with
  | object members => exact .here h
  | _ => simp [members] at h

theorem hasMember_of_inner {json value : Json} {inner : String × Json} {name : String}
    (h : inner ∈ json.members) (hinner : inner.2.HasMember name value) :
    json.HasMember name value := by
  cases json with
  | object members => exact .member h hinner
  | _ => simp [members] at h

/-- The kinds of values that the first character of a text tells apart. -/
inductive Shape
  | scalar
  | string
  | array
  | object

def shape : Json → Shape
  | .string _ => .string
  | .array _ => .array
  | .object _ => .object
  | _ => .scalar

theorem shape_eq_string_iff {json : Json} : json.shape = .string ↔ ∃ text, json = .string text := by
  cases json <;> simp [shape]

theorem shape_eq_array_iff {json : Json} : json.shape = .array ↔ ∃ items, json = .array items := by
  cases json <;> simp [shape]

theorem shape_eq_object_iff {json : Json} :
    json.shape = .object ↔ ∃ members, json = .object members := by
  cases json <;> simp [shape]

theorem not_hasMember {json value : Json} {name : String} (harray : json.shape ≠ .array)
    (hobject : json.shape ≠ .object) : ¬ json.HasMember name value := by
  intro h
  cases h with
  | here _ => exact hobject rfl
  | member _ _ => exact hobject rfl
  | item _ _ => exact harray rfl

/-- Members of the same names, that are the same strings where they are strings. -/
structure SameMembers (json other : Json) : Prop where
  string_iff : ∀ text, json = .string text ↔ other = .string text
  member : ∀ {name value}, json.HasMember name value →
    ∃ value', other.HasMember name value' ∧ ∀ text, value = .string text ↔ value' = .string text

theorem SameMembers.scalar {json other : Json} (h : json.shape = .scalar)
    (h' : other.shape = .scalar) : SameMembers json other := by
  refine ⟨fun text => ⟨?_, ?_⟩, fun hmember => ?_⟩
  · rintro rfl
    cases h
  · rintro rfl
    cases h'
  · exact absurd hmember (not_hasMember (by simp [h]) (by simp [h]))

theorem SameMembers.string (text : String) : SameMembers (.string text) (.string text) := by
  refine ⟨fun _ => Iff.rfl, fun hmember => ?_⟩
  exact absurd hmember (not_hasMember (by simp [shape]) (by simp [shape]))

theorem SameMembers.array {items others : List Json}
    (h : ∀ item ∈ items, ∃ other ∈ others, SameMembers item other) :
    SameMembers (.array items) (.array others) := by
  refine ⟨by simp, fun hmember => ?_⟩
  cases hmember with
  | item hitem hinner =>
    obtain ⟨other, hother, hsame⟩ := h _ hitem
    obtain ⟨value', hvalue', heq⟩ := hsame.member hinner
    exact ⟨value', .item hother hvalue', heq⟩

/-- Two members of the same name with the same members below. -/
def AlikeMembers (member other : String × Json) : Prop :=
  member.1 = other.1 ∧ SameMembers member.2 other.2

theorem SameMembers.object {members others : List (String × Json)}
    (h : ∀ member ∈ members, ∃ other ∈ others, AlikeMembers member other) :
    SameMembers (.object members) (.object others) := by
  refine ⟨by simp, fun hmember => ?_⟩
  cases hmember with
  | here hentry =>
    obtain ⟨⟨_, value'⟩, hother, rfl, hsame⟩ := h _ hentry
    exact ⟨value', .here hother, hsame.string_iff⟩
  | member hentry hinner =>
    obtain ⟨other, hother, _, hsame⟩ := h _ hentry
    obtain ⟨value', hvalue', heq⟩ := hsame.member hinner
    exact ⟨value', .member hother hvalue', heq⟩

/-! ## The texts of scalars -/

/-- The characters in the text of a scalar: letters, digits, signs and the point. -/
def isPlain (c : Char) : Bool :=
  c.isAlphanum || c == '.' || c == '-' || c == '+'

/-- A text of such characters that is not empty. -/
def PlainText (text : List Char) : Prop :=
  text ≠ [] ∧ ∀ c ∈ text, isPlain c = true

theorem plainText_of_all {text : List Char} (hne : text ≠ []) (hall : text.all isPlain = true) :
    PlainText text :=
  ⟨hne, List.all_eq_true.mp hall⟩

theorem isPlain_of_isDigit {c : Char} (h : c.isDigit = true) : isPlain c = true := by
  simp [isPlain, Char.isAlphanum, h]

theorem plainText_digitsOf (value : Nat) : PlainText (digitsOf value) :=
  ⟨Nat.toDigits_ne_nil, fun _ hc =>
    isPlain_of_isDigit (Nat.isDigit_of_mem_toDigits (by decide) (by decide) hc)⟩

theorem isPlain_of_mem_zeros {count : Nat} : ∀ c ∈ List.replicate count '0', isPlain c = true := by
  intro c hc
  rw [List.eq_of_mem_replicate hc]
  decide

theorem plainText_positional {digits : List Char} (h : PlainText digits) (point : Int) :
    PlainText (positional digits point) := by
  unfold positional
  split
  · refine ⟨by simp, ?_⟩
    simp only [List.forall_mem_cons, List.forall_mem_append]
    exact ⟨by decide, by decide, isPlain_of_mem_zeros, h.2⟩
  · refine ⟨by simp, ?_⟩
    simp only [List.forall_mem_cons, List.forall_mem_append]
    refine ⟨⟨fun c hc => h.2 c (List.mem_of_mem_take hc), isPlain_of_mem_zeros⟩, by decide, ?_⟩
    split
    · exact fun c hc => List.mem_singleton.mp hc ▸ by decide
    · exact fun c hc => h.2 c (List.mem_of_mem_drop hc)

theorem isPlain_of_mem_exponentText (exponent : Int) :
    ∀ c ∈ exponentText exponent, isPlain c = true := by
  rw [exponentText]
  simp only [List.forall_mem_cons, List.forall_mem_append]
  refine ⟨by decide, ?_, isPlain_of_mem_zeros, (plainText_digitsOf _).2⟩
  split <;> decide

theorem plainText_scientific {digits : List Char} (h : PlainText digits) (exponent : Int) :
    PlainText (scientific digits exponent) := by
  obtain ⟨hne, hall⟩ := h
  unfold scientific
  split
  · exact absurd rfl hne
  · refine ⟨by simp, ?_⟩
    simp only [List.forall_mem_cons] at hall ⊢
    exact ⟨hall.1, isPlain_of_mem_exponentText exponent⟩
  · refine ⟨by simp, ?_⟩
    simp only [List.forall_mem_cons, List.forall_mem_append] at hall ⊢
    exact ⟨⟨hall.1, by decide, hall.2⟩, isPlain_of_mem_exponentText exponent⟩

theorem PlainText.signed {text : List Char} (h : PlainText text) (negative : Bool) :
    PlainText ((if negative then ['-'] else []) ++ text) := by
  cases negative with
  | false => exact h
  | true =>
    refine ⟨by simp, ?_⟩
    simp only [if_true, List.singleton_append, List.forall_mem_cons]
    exact ⟨by decide, h.2⟩

theorem plainText_int (value : Int) : PlainText (toString value).toList := by
  cases value with
  | ofNat value =>
    change PlainText (Nat.repr value).toList
    rw [Nat.toList_repr]
    exact plainText_digitsOf value
  | negSucc value =>
    change PlainText ("-" ++ Nat.repr (value + 1)).toList
    rw [String.toList_append, Nat.toList_repr]
    exact (plainText_digitsOf (value + 1)).signed true

theorem plainText_float (value : Double) : PlainText (floatText value).toList := by
  cases value with
  | nan => exact plainText_of_all (by decide) (by decide)
  | infinite negative => cases negative <;> exact plainText_of_all (by decide) (by decide)
  | finite negative mantissa exponent =>
    change PlainText (Double.text _).toList
    rw [Double.text]
    split
    · rw [String.toList_ofList]
      exact PlainText.signed (plainText_of_all (by decide) (by decide)) negative
    · rw [String.toList_ofList]
      refine PlainText.signed ?_ negative
      split
      · exact plainText_positional (plainText_digitsOf _) _
      · exact plainText_scientific (plainText_digitsOf _) _

theorem plainText_scalar {json : Json} (h : json.shape = .scalar) (style : Style) (level : Nat) :
    PlainText (textAt style level json).toList := by
  cases json with
  | null =>
    rw [textAt]
    exact plainText_of_all (by decide) (by decide)
  | bool value =>
    rw [textAt]
    cases value <;> exact plainText_of_all (by decide) (by decide)
  | int value =>
    rw [textAt]
    exact plainText_int value
  | float value =>
    rw [textAt]
    exact plainText_float value
  | string text => cases h
  | array items => cases h
  | object members => cases h

/-! ## Items between brackets -/

/-- A text before which a scalar ends. -/
def Stops (rest : List Char) : Prop :=
  ∀ c ∈ rest.head?, isPlain c = false

/-- An item after another one. -/
def following (level : Nat) (part : List Char) : List Char :=
  ',' :: ((lineBreak level).toList ++ part)

/-- Items on lines of their own, one level deeper than the brackets. -/
def bracketed (opening closing : Char) (level : Nat) : List (List Char) → List Char
  | [] => [opening, closing]
  | part :: parts =>
    opening :: ((lineBreak (level + 1)).toList ++ (part ++ (parts.flatMap (following (level + 1)) ++
      ((lineBreak level).toList ++ [closing]))))

/-- The part of an item can be told from what follows it, up to items that are alike. -/
def Cancels {α : Type} (part : α → List Char) (alike : α → α → Prop) (item : α) : Prop :=
  ∀ other rest rest', Stops rest → Stops rest' → part item ++ rest = part other ++ rest' →
    alike item other ∧ rest = rest'

theorem toList_lineBreak : (lineBreak level).toList = '\n' :: List.replicate (2 * level) ' ' := by
  rw [lineBreak, String.toList_ofList]

section
variable {α : Type} {part : α → List Char} {alike : α → α → Prop} {items others : List α}
  {rest rest' : List Char}

theorem stops_following (parts : List (List Char)) :
    Stops (parts.flatMap (following level) ++ '\n' :: rest) := by
  cases parts with
  | nil =>
    intro c hc
    obtain rfl : '\n' = c := by simpa using hc
    decide
  | cons part parts =>
    intro c hc
    obtain rfl : ',' = c := by simpa [following] using hc
    decide

/-- A comma stands before every further item, and a line break after the last one. -/
theorem following_cancel (hpart : ∀ item ∈ items, Cancels part alike item)
    (h : (items.map part).flatMap (following level) ++ '\n' :: rest =
      (others.map part).flatMap (following level) ++ '\n' :: rest') :
    (∀ item ∈ items, ∃ other ∈ others, alike item other) ∧ rest = rest' := by
  induction items generalizing others with
  | nil =>
    cases others with
    | nil => exact ⟨by simp, by simpa using h⟩
    | cons other others => simp [following] at h
  | cons item items ih =>
    cases others with
    | nil => simp [following] at h
    | cons other others =>
      simp only [List.map_cons, List.flatMap_cons, following, List.cons_append, List.append_assoc,
        List.cons.injEq, true_and, List.append_cancel_left_eq] at h
      obtain ⟨hitem, htail⟩ := hpart item List.mem_cons_self other _ _
        (stops_following _) (stops_following _) h
      obtain ⟨hitems, hrest⟩ := ih (fun item hmem => hpart item (List.mem_cons_of_mem _ hmem)) htail
      refine ⟨?_, hrest⟩
      rw [List.forall_mem_cons]
      refine ⟨⟨other, List.mem_cons_self, hitem⟩, fun item hmem => ?_⟩
      obtain ⟨other', hother', halike⟩ := hitems item hmem
      exact ⟨other', List.mem_cons_of_mem _ hother', halike⟩

theorem bracketed_cancel {opening closing : Char} (hclosing : closing ≠ '\n')
    (hpart : ∀ item ∈ items, Cancels part alike item)
    (h : bracketed opening closing level (items.map part) ++ rest =
      bracketed opening closing level (others.map part) ++ rest') :
    (∀ item ∈ items, ∃ other ∈ others, alike item other) ∧ rest = rest' := by
  cases items with
  | nil =>
    cases others with
    | nil => exact ⟨by simp, by simpa [bracketed] using h⟩
    | cons other others => simp [bracketed, toList_lineBreak, hclosing] at h
  | cons item items =>
    cases others with
    | nil => simp [bracketed, toList_lineBreak, hclosing.symm] at h
    | cons other others =>
      -- both sides get a comma in front, so that the first item is one that follows another
      have hfollows : ((item :: items).map part).flatMap (following (level + 1)) ++
          '\n' :: (List.replicate (2 * level) ' ' ++ closing :: rest) =
          ((other :: others).map part).flatMap (following (level + 1)) ++
          '\n' :: (List.replicate (2 * level) ' ' ++ closing :: rest') := by
        simpa [bracketed, following, toList_lineBreak] using h
      obtain ⟨hitems, htail⟩ := following_cancel hpart hfollows
      exact ⟨hitems, by simpa using htail⟩

end

/-! ## Documents -/

/-- The indented text of a value. -/
def itemText (ascii : Bool) (level : Nat) (json : Json) : List Char :=
  (textAt ⟨ascii, true⟩ level json).toList

/-- The indented text of a member. -/
def memberText (ascii : Bool) (level : Nat) (member : String × Json) : List Char :=
  (stringText ascii member.1).toList ++ ':' :: ' ' :: itemText ascii level member.2

theorem toList_itemsAt (item : Json) (items : List Json) :
    (itemsAt ⟨ascii, true⟩ level (item :: items)).toList =
      itemText ascii level item ++
        (items.map (itemText ascii level)).flatMap (following level) := by
  induction items generalizing item with
  | nil => simp [itemsAt, itemText]
  | cons next items ih =>
    rw [itemsAt, String.toList_append]
    simp [ih, following, itemText]

theorem toList_membersAt (member : String × Json) (members : List (String × Json)) :
    (membersAt ⟨ascii, true⟩ level (member :: members)).toList =
      memberText ascii level member ++
        (members.map (memberText ascii level)).flatMap (following level) := by
  induction members generalizing member with
  | nil => simp [membersAt, memberText, itemText]
  | cons next members ih =>
    rw [membersAt, String.toList_append]
    simp [ih, following, memberText, itemText]

theorem itemText_string (text : String) :
    itemText ascii level (.string text) = (stringText ascii text).toList := by
  rw [itemText, textAt]

theorem itemText_array (items : List Json) :
    itemText ascii level (.array items) =
      bracketed '[' ']' level (items.map (itemText ascii (level + 1))) := by
  cases items with
  | nil => simp [itemText, textAt, bracketed]
  | cons item items =>
    rw [itemText, textAt, if_pos rfl]
    simp [toList_itemsAt, bracketed]

theorem itemText_object (members : List (String × Json)) :
    itemText ascii level (.object members) =
      bracketed '\x7b' '\x7d' level (members.map (memberText ascii (level + 1))) := by
  cases members with
  | nil => simp [itemText, textAt, bracketed]
  | cons member members =>
    rw [itemText, textAt, if_pos rfl]
    simp [toList_membersAt, bracketed]

/-- The shape of the values whose text begins with a character. -/
def shapeOf (c : Char) : Shape :=
  if c == '"' then .string
  else if c == '[' then .array
  else if c == '\x7b' then .object
  else .scalar

theorem shapeOf_plain {c : Char} (h : isPlain c = true) : shapeOf c = .scalar := by
  have hne : ∀ other, isPlain other = false → (c == other) = false := by
    intro other hother
    rw [beq_eq_false_iff_ne]
    rintro rfl
    rw [h] at hother
    cases hother
  rw [shapeOf, hne '"' (by decide), hne '[' (by decide), hne '\x7b' (by decide)]
  rfl

theorem head_bracketed (opening closing : Char) (parts : List (List Char)) :
    ∃ tail, bracketed opening closing level parts = opening :: tail := by
  cases parts <;> exact ⟨_, rfl⟩

theorem head_itemText (json : Json) :
    ∃ c tail, itemText ascii level json = c :: tail ∧ shapeOf c = json.shape := by
  cases hshape : json.shape with
  | scalar =>
    obtain ⟨hne, hall⟩ := plainText_scalar hshape ⟨ascii, true⟩ level
    obtain ⟨c, tail, htext⟩ := List.exists_cons_of_ne_nil hne
    exact ⟨c, tail, htext, shapeOf_plain (hall c (htext ▸ List.mem_cons_self))⟩
  | string =>
    obtain ⟨text, rfl⟩ := shape_eq_string_iff.mp hshape
    rw [itemText_string, toList_stringText]
    exact ⟨_, _, rfl, rfl⟩
  | array =>
    obtain ⟨items, rfl⟩ := shape_eq_array_iff.mp hshape
    rw [itemText_array]
    obtain ⟨tail, htail⟩ := head_bracketed '[' ']' _
    exact ⟨_, tail, htail, rfl⟩
  | object =>
    obtain ⟨members, rfl⟩ := shape_eq_object_iff.mp hshape
    rw [itemText_object]
    obtain ⟨tail, htail⟩ := head_bracketed '\x7b' '\x7d' _
    exact ⟨_, tail, htail, rfl⟩

theorem shape_eq_of_text_append {json other : Json} {rest rest' : List Char}
    (h : itemText ascii level json ++ rest = itemText ascii level other ++ rest') :
    json.shape = other.shape := by
  obtain ⟨c, tail, htext, hc⟩ := head_itemText json
  obtain ⟨c', tail', htext', hc'⟩ := head_itemText other
  rw [htext, htext'] at h
  rw [← hc, ← hc', (List.cons.inj h).1]

theorem itemText_cancels_of_scalar {json : Json} (h : json.shape = .scalar) :
    Cancels (itemText ascii level) SameMembers json := by
  intro other rest rest' hrest hrest' htext
  have hother : other.shape = .scalar := shape_eq_of_text_append htext ▸ h
  obtain ⟨-, htail⟩ := split_unique isPlain (plainText_scalar h _ _).2 hrest
    (plainText_scalar hother _ _).2 hrest' htext
  exact ⟨.scalar h hother, htail⟩

theorem memberText_cancels {member : String × Json}
    (h : Cancels (itemText ascii level) SameMembers member.2) :
    Cancels (memberText ascii level) AlikeMembers member := by
  intro other rest rest' hrest hrest' htext
  rw [memberText, memberText, List.append_assoc, List.append_assoc] at htext
  obtain ⟨hname, htail⟩ := stringText_cancel htext
  simp only [List.cons_append, List.cons.injEq, true_and] at htail
  obtain ⟨hvalue, hrests⟩ := h other.2 rest rest' hrest hrest' htail
  exact ⟨⟨hname, hvalue⟩, hrests⟩

theorem itemText_cancels (json : Json) (level : Nat) :
    Cancels (itemText ascii level) SameMembers json := by
  cases json with
  | string text =>
    intro other rest rest' hrest hrest' h
    obtain ⟨text', rfl⟩ := shape_eq_string_iff.mp (shape_eq_of_text_append h).symm
    rw [itemText_string, itemText_string] at h
    obtain ⟨rfl, htail⟩ := stringText_cancel h
    exact ⟨.string text, htail⟩
  | array items =>
    intro other rest rest' hrest hrest' h
    obtain ⟨others, rfl⟩ := shape_eq_array_iff.mp (shape_eq_of_text_append h).symm
    rw [itemText_array, itemText_array] at h
    have hitems : ∀ item ∈ items, Cancels (itemText ascii (level + 1)) SameMembers item :=
      fun item _ => itemText_cancels item (level + 1)
    obtain ⟨halike, htail⟩ := bracketed_cancel (by decide) hitems h
    exact ⟨.array halike, htail⟩
  | object members =>
    intro other rest rest' hrest hrest' h
    obtain ⟨others, rfl⟩ := shape_eq_object_iff.mp (shape_eq_of_text_append h).symm
    rw [itemText_object, itemText_object] at h
    have hmembers : ∀ member ∈ members,
        Cancels (memberText ascii (level + 1)) AlikeMembers member := by
      intro ⟨name, value⟩ hmember
      have hsize : sizeOf value < sizeOf members := by
        have hlt := List.sizeOf_lt_of_mem hmember
        rw [Prod.mk.sizeOf_spec] at hlt
        omega
      exact memberText_cancels (itemText_cancels value (level + 1))
    obtain ⟨halike, htail⟩ := bracketed_cancel (by decide) hmembers h
    exact ⟨.object halike, htail⟩
  | null => exact itemText_cancels_of_scalar rfl
  | bool value => exact itemText_cancels_of_scalar rfl
  | int value => exact itemText_cancels_of_scalar rfl
  | float value => exact itemText_cancels_of_scalar rfl
termination_by sizeOf json

theorem sameMembers_of_text_eq {json other : Json}
    (h : json.text ⟨ascii, true⟩ = other.text ⟨ascii, true⟩) : SameMembers json other := by
  have hstops : Stops [] := by simp [Stops]
  have htext : itemText ascii 0 json ++ [] = itemText ascii 0 other ++ [] :=
    congrArg (·.toList ++ []) h
  exact (itemText_cancels json 0 other [] [] hstops hstops htext).1

end LogAudit.Json
