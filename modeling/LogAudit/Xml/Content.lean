import LogAudit.Xml.Element

/-! # Content of documents

The tokens of content build up elements: a start tag opens one, text goes to the innermost one that is
open as long as it has no child, and an end tag closes it. The text of an entity is content of its own,
in which every element that is opened is also closed.

* `contentFrom`: content up to the end of the root element or of the text.
* `expandContent`: the content of an entity. -/

namespace LogAudit.Xml
set_option autoImplicit false

/-- An element that is open: its written name, what is known of it, its text with the last character
first and its children with the last one first. -/
structure Frame where
  written : String
  tag : OpenTag
  text : List Char := []
  children : List Element := []
deriving Repr

/-- The element that a frame makes when it is closed. -/
def Frame.close (frame : Frame) : Element :=
  .mk frame.tag.name frame.tag.attributes (String.ofList frame.text.reverse) frame.children.reverse

/-- Adds a character to the text of the innermost element, unless it has a child. -/
def addCharacter (c : Char) : List Frame → List Frame
  | [] => []
  | frame :: outer =>
    if frame.children.isEmpty then { frame with text := c :: frame.text } :: outer
    else frame :: outer

/-- Adds a child to the innermost element. -/
def addChild (child : Element) : List Frame → List Frame
  | [] => []
  | frame :: outer => { frame with children := child :: frame.children } :: outer

/-- The prefixes in force. -/
def scopeOf : List Frame → Scope
  | [] => []
  | frame :: _ => frame.tag.scope

/-- How content comes to an end. -/
inductive Outcome
  | root (element : Element) (rest : List Char)
  | ended (frames : List Frame)
deriving Repr

/-- Reads a section of plain characters up to its end. -/
def readCdata : List Char → Except Halt (List Char × List Char)
  | [] => .error ⟨.unclosedCdata, []⟩
  | ']' :: ']' :: '>' :: rest => .ok ([], rest)
  | [']'] => .error ⟨.unclosedCdata, [']']⟩
  | [']', ']'] => .error ⟨.unclosedCdata, [']', ']']⟩
  | ['\r'] => .error ⟨.unclosedCdata, ['\r']⟩
  | '\r' :: '\n' :: rest => (readCdata rest).map fun (text, after) => ('\n' :: text, after)
  | '\r' :: rest => (readCdata rest).map fun (text, after) => ('\n' :: text, after)
  | c :: rest =>
    if isXmlChar c then (readCdata rest).map fun (text, after) => (c :: text, after)
    else .error ⟨.invalidToken, c :: rest⟩

/-- Closes the innermost element. -/
def closeFrame (frame : Frame) (outer : List Frame) : Element ⊕ List Frame :=
  if outer.isEmpty then .inl frame.close else .inr (addChild frame.close outer)

/-- Reads content. `expand` adds the content of an entity, `opened` holds the entities being read,
`level` is the number of elements that were open where the text began, and the first number bounds
the tokens. -/
def contentFrom (dtd : Dtd) (expand : String → List Frame → Except Fault (List Frame))
    (opened : List String) (level : Nat) (ending : Ending) :
    Nat → List Frame → List Char → Except Halt Outcome
  | 0, _, text => .error ⟨.noElement, text⟩
  | _ + 1, frames, [] =>
    if ending ≠ .whole then .error ⟨ending.tokenFault, []⟩
    else if level = 0 then .error ⟨.noElement, []⟩
    else if frames.length = level then .ok (.ended frames)
    else .error ⟨.unbalancedEntity, []⟩
  | more + 1, frames, text =>
    match readContent text with
    | .cut => .error ⟨ending.tokenFault, text⟩
    | .invalid rest => .error ⟨.invalidToken, rest⟩
    | .found (.character c) rest =>
      if level = 0 && text == ['\r'] then .error ⟨.noElement, text⟩
      else contentFrom dtd expand opened level ending more (addCharacter c frames) rest
    | .found (.reference (.character code)) rest =>
      match characterOf? code with
      | none => .error ⟨.badCharacterNumber, text⟩
      | some c => contentFrom dtd expand opened level ending more (addCharacter c frames) rest
    | .found (.reference (.entity name)) rest =>
      match knownEntity? name with
      | some c => contentFrom dtd expand opened level ending more (addCharacter c frames) rest
      | none =>
        match expand name frames with
        | .error fault => .error ⟨fault, text⟩
        | .ok grown => contentFrom dtd expand opened level ending more grown rest
    | .found (.startTag name attributes isEmpty) rest =>
      match openTag dtd opened (scopeOf frames) name attributes with
      | .error (fault, place) => .error ⟨fault, place.getD text⟩
      | .ok tag =>
        if isEmpty then
          match closeFrame ⟨name, tag, [], []⟩ frames with
          | .inl element => .ok (.root element rest)
          | .inr grown => contentFrom dtd expand opened level ending more grown rest
        else contentFrom dtd expand opened level ending more (⟨name, tag, [], []⟩ :: frames) rest
    | .found (.endTag name) rest =>
      match frames with
      | [] => .error ⟨.unbalancedEntity, text⟩
      | frame :: outer =>
        if frames.length = level then .error ⟨.unbalancedEntity, text⟩
        else if frame.written != name then .error ⟨.mismatchedTag, text.drop 2⟩
        else match closeFrame frame outer with
          | .inl element => .ok (.root element rest)
          | .inr grown => contentFrom dtd expand opened level ending more grown rest
    | .found .skipped rest => contentFrom dtd expand opened level ending more frames rest
    | .found .declaration _ => .error ⟨.misplacedDeclaration, text⟩
    | .found .cdata rest =>
      match readCdata rest with
      | .error halt =>
        let isPartial := ending = .withinCharacter ∧ halt.fault = .unclosedCdata
        .error ⟨if isPartial then .partialCharacter else halt.fault, halt.rest⟩
      | .ok (characters, after) =>
        contentFrom dtd expand opened level ending more
          (characters.foldl (fun grown c => addCharacter c grown) frames) after

/-- Adds the content of an entity; the number bounds the depth of entities in entities. -/
def expandContent (dtd : Dtd) : Nat → List String → String → List Frame → Except Fault (List Frame)
  | 0, _, _, _ => .error .recursiveEntity
  | depth + 1, opened, name, frames =>
    match dtd.entity? name with
    | none => .error (if dtd.isComplete then .undefinedEntity else .skippedEntity name)
    | some entity =>
      if opened.contains name then .error .recursiveEntity
      else match entity with
        | .external true => .error .binaryEntity
        | .external false => .error (.skippedEntity name)
        | .internal text =>
          let opened := name :: opened
          match contentFrom dtd (expandContent dtd depth opened) opened frames.length .whole
              (text.length + 1) frames text with
          | .ok (.ended grown) => .ok grown
          | .ok (.root _ _) => .error .unbalancedEntity
          | .error halt => .error halt.fault

/-- Reads the root element and returns what follows it. -/
def readRoot (dtd : Dtd) (ending : Ending) (text : List Char) : Except Halt (Element × List Char) :=
  match contentFrom dtd (expandContent dtd (dtd.entities.length + 1) []) [] 0 ending
      (text.length + 1) [] text with
  | .ok (.root element rest) => .ok (element, rest)
  | .ok (.ended _) => .error ⟨.noElement, []⟩
  | .error halt => .error halt

end LogAudit.Xml
