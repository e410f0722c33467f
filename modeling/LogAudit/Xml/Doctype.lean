import LogAudit.Xml.Prolog

/-! # The document type declaration

The tokens before the root element are taken one after another. Between them only the state counts: what
may come next, and the declarations read so far. -/

namespace LogAudit.Xml
set_option autoImplicit false

/-- What may come next. -/
inductive Stage
  | start
  | misc
  | afterType
  | typeName
  | typeBody
  | typePublic
  | typeSystem
  | typeSubset
  | typeEnd
  | subset
  | entityHead
  | parameterHead
  | entityBody
  | entityPublic
  | entitySystem
  | entityData
  | entityFormat
  | formatName
  | formatBody
  | formatPublic
  | formatSystem
  | formatLast
  | listName
  | listBody
  | attributeKind
  | enumeration
  | enumerationNext
  | formatsOpen
  | formats
  | formatsNext
  | attributeDefault
  | attributeFixed
  | elementName
  | elementBody
  | modelFirst
  | mixedFirst
  | mixedNext
  | mixedMore
  | modelItem
  | modelNext
  | declEnd
deriving Repr, DecidableEq

/-- The declarations read so far, and the one that is being read. -/
structure Draft where
  stage : Stage := .start
  dtd : Dtd := {}
  isParameter : Bool := false
  name : String := ""
  attributeName : String := ""
  keepsBlanks : Bool := true
  connectors : List (Option Char) := []
deriving Repr

/-! ## Entities -/

/-- The text of an entity from its written form: characters given by number are put in, and line ends
unified. The number counts characters of a token already read. -/
def entityTextFrom : Nat → List Char → Except (Fault × List Char) (List Char)
  | _, [] => .ok []
  | inside + 1, _ :: rest => entityTextFrom inside rest
  | 0, c :: rest =>
    if c = '&' then
      match readReference rest with
      | .cut => .error (.invalidToken, c :: rest)
      | .invalid place => .error (.invalidToken, place)
      | .found (.character code) after =>
        match characterOf? code with
        | none => .error (.badCharacterNumber, c :: rest)
        | some d => (entityTextFrom (rest.length - after.length) rest).map (d :: ·)
      | .found (.entity name) after =>
        (entityTextFrom (rest.length - after.length) rest).map fun text =>
          ('&' :: name.toList ++ [';']) ++ text
    else if c = '%' then
      match readPercent rest with
      | .cut => .error (.invalidToken, c :: rest)
      | .invalid place => .error (.invalidToken, place)
      | .found .parameterReference _ => .error (.parameterReference, c :: rest)
      | .found _ place => .error (.invalidToken, place)
    else if c = '\r' then
      if rest.head? == some '\n' then entityTextFrom 0 rest
      else (entityTextFrom 0 rest).map ('\n' :: ·)
    else (entityTextFrom 0 rest).map (c :: ·)

/-- Whether a character can stand in a public identifier. -/
def isPublicChar (c : Char) : Bool :=
  c.isAlphanum || "-'()+,./:=?;!*#@$_% \n\r".toList.contains c

/-! ## Steps -/

/-- Goes on to another stage. -/
def Draft.to (draft : Draft) (stage : Stage) : Except (Fault × Option (List Char)) Draft :=
  .ok { draft with stage }

/-- Refuses a token. -/
def refuse (token : Outer) : Except (Fault × Option (List Char)) Draft :=
  match token with
  | .parameterReference => .error (.parameterReference, none)
  | .declaration => .error (.misplacedDeclaration, none)
  | _ => .error (.syntaxError, none)

/-- Reads a public identifier. -/
def Draft.readPublic (draft : Draft) (content fromContent : List Char) (next : Stage) :
    Except (Fault × Option (List Char)) Draft :=
  match content.findIdx? (!isPublicChar ·) with
  | some place => .error (.publicId, some (fromContent.drop place))
  | none => draft.to next

/-- Declares an entity under the name read last, if declarations still count. -/
def Draft.declare (draft : Draft) (entity : Entity) : Draft :=
  if draft.dtd.isRead && !draft.isParameter then
    { draft with dtd := draft.dtd.addEntity draft.name entity }
  else draft

/-- Declares an attribute, if declarations still count. -/
def Draft.declareAttribute (draft : Draft) (default? : Option String) : Draft :=
  if draft.dtd.isRead then
    { draft with
      dtd := draft.dtd.addAttribute ⟨draft.name, draft.attributeName, draft.keepsBlanks, default?⟩ }
  else draft

/-- Reads the default of an attribute. -/
def Draft.readDefault (draft : Draft) (content fromContent : List Char) :
    Except (Fault × Option (List Char)) Draft :=
  if draft.dtd.isRead then
    match attributeText draft.dtd draft.keepsBlanks [] content with
    | .error halt =>
      .error (halt.fault, halt.rest?.map fun rest => fromContent.drop (content.length - rest.length))
    | .ok value => (draft.declareAttribute (some value)).to .listBody
  else draft.to .listBody

/-- The kinds of attributes that have a name. -/
def attributeKinds : List String :=
  ["CDATA", "ID", "IDREF", "IDREFS", "ENTITY", "ENTITIES", "NMTOKEN", "NMTOKENS"]

/-- Notes a connector of the innermost group, which must be the same throughout. -/
def Draft.connect (draft : Draft) (token : Outer) (connector : Char) :
    Except (Fault × Option (List Char)) Draft :=
  match draft.connectors with
  | some other :: rest =>
    if other = connector then { draft with connectors := some other :: rest }.to .modelItem
    else refuse token
  | _ :: rest => { draft with connectors := some connector :: rest }.to .modelItem
  | [] => refuse token

/-- Leaves the innermost group. -/
def Draft.leaveGroup (draft : Draft) : Except (Fault × Option (List Char)) Draft :=
  let outer := draft.connectors.drop 1
  { draft with connectors := outer }.to (if outer.isEmpty then .declEnd else .modelNext)

/-- Whether a keyword opens something in the internal subset, and what. -/
def subsetStage? (keyword : String) : Option Stage :=
  match keyword with
  | "ENTITY" => some .entityHead
  | "ATTLIST" => some .listName
  | "ELEMENT" => some .elementName
  | "NOTATION" => some .formatName
  | _ => none

/-- Takes one token before the root element other than its start. A fault stands at the token itself
unless a place is given. -/
def Draft.step (draft : Draft) (token : Outer) : Except (Fault × Option (List Char)) Draft :=
  match draft.stage, token with
  | .start, .space => draft.to .misc
  | _, .space => .ok draft
  | .start, .comment => draft.to .misc
  | .start, .instruction => draft.to .misc
  | .misc, .comment => .ok draft
  | .misc, .instruction => .ok draft
  | .afterType, .comment => .ok draft
  | .afterType, .instruction => .ok draft
  | .start, .declOpen keyword => if keyword == "DOCTYPE" then draft.to .typeName else refuse token
  | .misc, .declOpen keyword => if keyword == "DOCTYPE" then draft.to .typeName else refuse token
  -- the declaration of the document type
  | .typeName, .name _ => draft.to .typeBody
  | .typeName, .prefixedName _ => draft.to .typeBody
  | .typeBody, .openBracket => draft.to .subset
  | .typeBody, .declClose => draft.to .afterType
  | .typeBody, .name keyword =>
    if keyword == "SYSTEM" then draft.to .typeSystem
    else if keyword == "PUBLIC" then draft.to .typePublic
    else refuse token
  | .typePublic, .literal content place => draft.readPublic content place .typeSystem
  | .typeSystem, .literal _ _ =>
    { draft with dtd := { draft.dtd with isOpen := true } }.to .typeSubset
  | .typeSubset, .openBracket => draft.to .subset
  | .typeSubset, .declClose => draft.to .afterType
  | .typeEnd, .declClose => draft.to .afterType
  -- the internal subset
  | .subset, .declOpen keyword =>
    match subsetStage? keyword with
    | some stage => { draft with isParameter := false }.to stage
    | none => refuse token
  | .subset, .comment => .ok draft
  | .subset, .instruction => .ok draft
  | .subset, .parameterReference =>
    .ok { draft with dtd := { draft.dtd with isOpen := true, isRead := draft.dtd.standalone } }
  | .subset, .closeBracket => draft.to .typeEnd
  | .declEnd, .declClose => draft.to .subset
  -- entities
  | .entityHead, .percent => { draft with isParameter := true }.to .parameterHead
  | .entityHead, .name name => { draft with name }.to .entityBody
  | .parameterHead, .name name => { draft with name }.to .entityBody
  | .entityBody, .name keyword =>
    if keyword == "SYSTEM" then draft.to .entitySystem
    else if keyword == "PUBLIC" then draft.to .entityPublic
    else refuse token
  | .entityBody, .literal content place =>
    if draft.dtd.isRead then
      match entityTextFrom 0 content with
      | .error (fault, rest) => .error (fault, some (place.drop (content.length - rest.length)))
      | .ok text => (draft.declare (.internal text)).to .declEnd
    else draft.to .declEnd
  | .entityPublic, .literal content place => draft.readPublic content place .entitySystem
  | .entitySystem, .literal _ _ => draft.to .entityData
  | .entityData, .declClose => (draft.declare (.external false)).to .subset
  | .entityData, .name keyword =>
    if keyword == "NDATA" && !draft.isParameter then draft.to .entityFormat else refuse token
  | .entityFormat, .name _ => (draft.declare (.external true)).to .declEnd
  -- formats of binary entities
  | .formatName, .name _ => draft.to .formatBody
  | .formatBody, .name keyword =>
    if keyword == "SYSTEM" then draft.to .formatSystem
    else if keyword == "PUBLIC" then draft.to .formatPublic
    else refuse token
  | .formatPublic, .literal content place => draft.readPublic content place .formatLast
  | .formatSystem, .literal _ _ => draft.to .declEnd
  | .formatLast, .literal _ _ => draft.to .declEnd
  | .formatLast, .declClose => draft.to .subset
  -- attributes
  | .listName, .name name => { draft with name }.to .listBody
  | .listName, .prefixedName name => { draft with name }.to .listBody
  | .listBody, .declClose => draft.to .subset
  | .listBody, .name name => { draft with attributeName := name }.to .attributeKind
  | .listBody, .prefixedName name => { draft with attributeName := name }.to .attributeKind
  | .attributeKind, .name keyword =>
    if attributeKinds.contains keyword then
      { draft with keepsBlanks := keyword == "CDATA" }.to .attributeDefault
    else if keyword == "NOTATION" then { draft with keepsBlanks := false }.to .formatsOpen
    else refuse token
  | .attributeKind, .openGroup => { draft with keepsBlanks := false }.to .enumeration
  | .enumeration, .nameToken => draft.to .enumerationNext
  | .enumeration, .name _ => draft.to .enumerationNext
  | .enumeration, .prefixedName _ => draft.to .enumerationNext
  | .enumerationNext, .closeGroup .once => draft.to .attributeDefault
  | .enumerationNext, .bar => draft.to .enumeration
  | .formatsOpen, .openGroup => draft.to .formats
  | .formats, .name _ => draft.to .formatsNext
  | .formatsNext, .closeGroup .once => draft.to .attributeDefault
  | .formatsNext, .bar => draft.to .formats
  | .attributeDefault, .hashName keyword =>
    if keyword == "IMPLIED" || keyword == "REQUIRED" then (draft.declareAttribute none).to .listBody
    else if keyword == "FIXED" then draft.to .attributeFixed
    else refuse token
  | .attributeDefault, .literal content place => draft.readDefault content place
  | .attributeFixed, .literal content place => draft.readDefault content place
  -- elements
  | .elementName, .name _ => draft.to .elementBody
  | .elementName, .prefixedName _ => draft.to .elementBody
  | .elementBody, .name keyword =>
    if keyword == "EMPTY" || keyword == "ANY" then draft.to .declEnd else refuse token
  | .elementBody, .openGroup => { draft with connectors := [none] }.to .modelFirst
  | .modelFirst, .hashName keyword => if keyword == "PCDATA" then draft.to .mixedFirst else refuse token
  | .modelFirst, .openGroup => { draft with connectors := none :: draft.connectors }.to .modelItem
  | .modelFirst, .name _ => draft.to .modelNext
  | .modelFirst, .prefixedName _ => draft.to .modelNext
  | .modelFirst, .counted _ _ => draft.to .modelNext
  | .mixedFirst, .closeGroup .once => draft.to .declEnd
  | .mixedFirst, .closeGroup .anyNumber => draft.to .declEnd
  | .mixedFirst, .bar => draft.to .mixedNext
  | .mixedNext, .name _ => draft.to .mixedMore
  | .mixedNext, .prefixedName _ => draft.to .mixedMore
  | .mixedMore, .closeGroup .anyNumber => draft.to .declEnd
  | .mixedMore, .bar => draft.to .mixedNext
  | .modelItem, .openGroup => { draft with connectors := none :: draft.connectors }.to .modelItem
  | .modelItem, .name _ => draft.to .modelNext
  | .modelItem, .prefixedName _ => draft.to .modelNext
  | .modelItem, .counted _ _ => draft.to .modelNext
  | .modelNext, .closeGroup _ => draft.leaveGroup
  | .modelNext, .comma => draft.connect token ','
  | .modelNext, .bar => draft.connect token '|'
  | _, _ => refuse token

/-- Whether the root element may begin. -/
def Stage.allowsElement : Stage → Bool
  | .start => true
  | .misc => true
  | .afterType => true
  | _ => false

/-- Reads all that stands before the root element. The number bounds the tokens, and `ending` says
how the text ends. -/
def readProlog (ending : Ending) : Nat → Draft → List Char → Except Halt (Dtd × List Char)
  | 0, _, text => .error ⟨.noElement, text⟩
  | _ + 1, _, [] => .error ⟨ending.faultOr .noElement, []⟩
  | more + 1, draft, text =>
    match readOuter text with
    | .cut => .error ⟨ending.tokenFault, text⟩
    | .invalid rest => .error ⟨.invalidToken, rest⟩
    | .found .elementStart _ =>
      if draft.stage.allowsElement then .ok (draft.dtd, text) else .error ⟨.syntaxError, text⟩
    | .found token rest =>
      match draft.step token with
      | .ok next => readProlog ending more next rest
      | .error (fault, place) => .error ⟨fault, place.getD text⟩

/-- Reads all that stands behind the root element. -/
def readEpilog (ending : Ending) : Nat → List Char → Except Halt Unit
  | 0, text => .error ⟨.junkAfterElement, text⟩
  | _ + 1, [] => if ending = .whole then .ok () else .error ⟨ending.tokenFault, []⟩
  | more + 1, text =>
    match readOuter text with
    | .cut => .error ⟨ending.tokenFault, text⟩
    | .invalid rest => .error ⟨.invalidToken, rest⟩
    | .found .space rest => readEpilog ending more rest
    | .found .comment rest => readEpilog ending more rest
    | .found .instruction rest => readEpilog ending more rest
    | .found _ _ => .error ⟨.junkAfterElement, text⟩

end LogAudit.Xml
