import LogAudit.Xml.Fault
import LogAudit.Xml.Lexer

/-! # Document types

What a document type declares: entities, and the kinds and defaults of attributes. Values of
attributes are read with its help: references are replaced and blanks normalised.

* `Dtd.entity?`, `Dtd.attribute?`: what is declared.
* `attributeText`: the value of an attribute from its written form. -/

namespace LogAudit.Xml
set_option autoImplicit false

/-- A declared entity: with a text of its own, or elsewhere. Those elsewhere may be binary. -/
inductive Entity
  | internal (text : List Char)
  | external (isBinary : Bool)
deriving Repr, DecidableEq

/-- A declared attribute of an element: whether blanks in it are kept, and its default. -/
structure AttributeRule where
  element : String
  name : String
  keepsBlanks : Bool
  default? : Option String
deriving Repr, DecidableEq

/-- What a document type declares. `isOpen` says that it has parts elsewhere, which are not read, so
that what is not declared here may be declared there. -/
structure Dtd where
  entities : List (String × Entity) := []
  attributes : List AttributeRule := []
  isOpen : Bool := false
  standalone : Bool := false
  isRead : Bool := true
deriving Repr, DecidableEq

namespace Dtd

/-- The entity of a name; the first declaration counts. -/
def entity? (dtd : Dtd) (name : String) : Option Entity := dtd.entities.lookup name

/-- Whether every entity must be declared here. -/
def isComplete (dtd : Dtd) : Bool := !dtd.isOpen || dtd.standalone

/-- The rules for the attributes of an element. -/
def rulesFor (dtd : Dtd) (element : String) : List AttributeRule :=
  dtd.attributes.filter (·.element == element)

/-- Adds a rule for an attribute. One with a default counts only if it is the first of its name. -/
def addAttribute (dtd : Dtd) (rule : AttributeRule) : Dtd :=
  if rule.default?.isSome && (dtd.rulesFor rule.element).any (·.name == rule.name) then dtd
  else { dtd with attributes := dtd.attributes ++ [rule] }

/-- Adds an entity, unless its name is declared or known to every document. -/
def addEntity (dtd : Dtd) (name : String) (entity : Entity) : Dtd :=
  if (knownEntity? name).isSome || (dtd.entity? name).isSome then dtd
  else { dtd with entities := dtd.entities ++ [(name, entity)] }

end Dtd

/-! ## Values of attributes -/

/-- A fault in a value: what is left of the value where it stands, or nothing if it stands in the
text of an entity. -/
structure ValueHalt where
  fault : Fault
  rest? : Option (List Char)
deriving Repr, DecidableEq

/-- Adds a space to a value, last character first; it is dropped at the front and behind another one
unless blanks are kept. -/
def addSpace (keepsBlanks : Bool) (value : List Char) : List Char :=
  if keepsBlanks || value.head?.any (· != ' ') then ' ' :: value else value

/-- Goes through a written value and adds its characters to a value, last character first. `expand`
adds the text of an entity. The number counts characters of a token already read. -/
def valueFrom (keepsBlanks : Bool) (expand : String → List Char → List Char → Except ValueHalt (List Char)) :
    Nat → List Char → List Char → Except ValueHalt (List Char)
  | _, value, [] => .ok value
  | inside + 1, value, _ :: rest => valueFrom keepsBlanks expand inside value rest
  | 0, value, c :: rest =>
    if c = '&' then
      match readReference rest with
      | .cut => .error ⟨.invalidToken, some (c :: rest)⟩
      | .invalid place => .error ⟨.invalidToken, some place⟩
      | .found (.character code) after =>
        match characterOf? code with
        | none => .error ⟨.badCharacterNumber, some (c :: rest)⟩
        | some ' ' =>
          valueFrom keepsBlanks expand (rest.length - after.length) (addSpace keepsBlanks value) rest
        | some d => valueFrom keepsBlanks expand (rest.length - after.length) (d :: value) rest
      | .found (.entity name) after =>
        match knownEntity? name with
        | some d => valueFrom keepsBlanks expand (rest.length - after.length) (d :: value) rest
        | none =>
          match expand name (c :: rest) value with
          | .error halt => .error halt
          | .ok longer => valueFrom keepsBlanks expand (rest.length - after.length) longer rest
    else if c = '<' || !isXmlChar c then .error ⟨.invalidToken, some (c :: rest)⟩
    else if c = '\r' && rest.head? == some '\n' then
      valueFrom keepsBlanks expand 1 (addSpace keepsBlanks value) rest
    else if isSpace c then valueFrom keepsBlanks expand 0 (addSpace keepsBlanks value) rest
    else valueFrom keepsBlanks expand 0 (c :: value) rest

/-- Adds the text of an entity to a value; the number bounds the depth of entities in entities, and
`opened` holds those being expanded. -/
def expandEntity (dtd : Dtd) (keepsBlanks : Bool) :
    Nat → List String → String → List Char → List Char → Except ValueHalt (List Char)
  | 0, _, _, _, _ => .error ⟨.recursiveEntity, none⟩
  | depth + 1, opened, name, place, value =>
    match dtd.entity? name with
    | none => if dtd.isComplete then .error ⟨.undefinedEntity, none⟩ else .ok value
    | some entity =>
      if opened.contains name then .error ⟨.recursiveEntity, some place⟩
      else match entity with
        | .external true => .error ⟨.binaryEntity, some place⟩
        | .external false => .error ⟨.externalInAttribute, some place⟩
        | .internal text =>
          match valueFrom keepsBlanks (expandEntity dtd keepsBlanks depth (name :: opened)) 0 value text with
          | .ok longer => .ok longer
          | .error halt => .error ⟨halt.fault, none⟩

/-- The value of an attribute from its written form. -/
def attributeText (dtd : Dtd) (keepsBlanks : Bool) (opened : List String) (written : List Char) :
    Except ValueHalt String :=
  match valueFrom keepsBlanks (expandEntity dtd keepsBlanks (dtd.entities.length + 1) opened) 0 [] written with
  | .error halt => .error halt
  | .ok value =>
    let kept := if keepsBlanks then value else value.dropWhile (· == ' ')
    .ok (String.ofList kept.reverse)

end LogAudit.Xml
