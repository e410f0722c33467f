import LogAudit.Xml.Dtd

/-! # Elements and namespaces

An element has a name, attributes, the text before its first child, and children. A name with a prefix
is the name of the namespace in braces and the local name; so is a name without one where a default
namespace is declared.

* `Element.withDescendants`: an element and all below it in document order.
* `openTag`: name, attributes and declared prefixes of a start tag. -/

namespace LogAudit.Xml
set_option autoImplicit false

/-- An element of a document. -/
inductive Element
  | mk (name : String) (attributes : List (String × String)) (text : String)
      (children : List Element)
deriving Repr

namespace Element

/-- The name of an element. -/
def name : Element → String
  | .mk name _ _ _ => name

/-- The value of an attribute. -/
def attribute? (key : String) : Element → Option String
  | .mk _ attributes _ _ => attributes.lookup key

/-- The text before the first child. -/
def text : Element → String
  | .mk _ _ text _ => text

mutual

/-- An element and all elements below it, in document order. -/
def withDescendants : Element → List Element
  | .mk name attributes text children =>
    .mk name attributes text children :: allWithDescendants children

/-- Elements and all elements below them, in document order. -/
def allWithDescendants : List Element → List Element
  | [] => []
  | first :: rest => first.withDescendants ++ allWithDescendants rest

end

/-- The elements of a given name in a document, in document order. -/
def named (root : Element) (name : String) : List Element :=
  root.withDescendants.filter (·.name == name)

end Element

/-! ## Namespaces -/

/-- Prefixes with the namespaces they stand for, the innermost first; the empty one is the default. -/
abbrev Scope : Type := List (String × String)

/-- The namespace of the prefix `xml`. -/
def xmlNamespace : String := "http://www.w3.org/XML/1998/namespace"

/-- The namespace of the prefix `xmlns`. -/
def xmlnsNamespace : String := "http://www.w3.org/2000/xmlns/"

/-- Prefix and local name. -/
def splitName (name : String) : Option String × String :=
  let chars := name.toList
  match chars.dropWhile (· != ':') with
  | [] => (none, name)
  | _ :: localName => (some (String.ofList (chars.takeWhile (· != ':'))), String.ofList localName)

/-- The prefix that an attribute declares, if it declares one. -/
def declaredPrefix? (name : String) : Option String :=
  if name == "xmlns" then some ""
  else match splitName name with
    | (some "xmlns", localName) => some localName
    | _ => none

/-- Declares a prefix. -/
def bindPrefix (scope : Scope) (label uri : String) : Except Fault Scope :=
  if label != "" && uri == "" then .error .undeclaredPrefix
  else if label == "xmlns" then .error .reservedXmlns
  else if uri.toList.contains '\x7d' then .error .syntaxError
  else if label == "xml" && uri != xmlNamespace then .error .reservedXml
  else if label != "xml" && uri == xmlNamespace then .error .reservedNamespace
  else if uri == xmlnsNamespace then .error .reservedNamespace
  else .ok ((label, uri) :: scope)

/-- The namespace of a prefix. -/
def namespaceOf? (scope : Scope) (label : String) : Option String :=
  if label == "xml" then some xmlNamespace else scope.lookup label

/-- A namespace and a local name in one. -/
def universalName (uri localName : String) : String :=
  "\x7b" ++ uri ++ "\x7d" ++ localName

/-- The full name of an element. -/
def elementName (scope : Scope) (name : String) : Except Fault String :=
  match splitName name with
  | (some label, localName) =>
    match namespaceOf? scope label with
    | some uri => .ok (universalName uri localName)
    | none => .error .unboundPrefix
  | (none, localName) =>
    match scope.lookup "" with
    | none => .ok localName
    | some uri => .ok (if uri == "" then localName else universalName uri localName)

/-- The full names of attributes; no two with prefixes may be the same. -/
def attributeNames (scope : Scope) :
    List String → List (String × String) → Except Fault (List (String × String))
  | _, [] => .ok []
  | seen, (name, value) :: rest =>
    match splitName name with
    | (none, _) => (attributeNames scope seen rest).map ((name, value) :: ·)
    | (some label, localName) =>
      match namespaceOf? scope label with
      | none => .error .unboundPrefix
      | some uri =>
        let full := universalName uri localName
        if seen.contains full then .error .duplicateAttribute
        else (attributeNames scope (full :: seen) rest).map ((full, value) :: ·)

/-! ## Start tags -/

/-- Attributes by their written names, and the prefixes declared so far. -/
structure TagDraft where
  attributes : List (String × String) := []
  scope : Scope
deriving Repr

/-- Takes one attribute into account. -/
def TagDraft.add (draft : TagDraft) (name value : String) : Except Fault TagDraft :=
  let attributes := draft.attributes ++ [(name, value)]
  match declaredPrefix? name with
  | some label => (bindPrefix draft.scope label value).map fun scope => { attributes, scope }
  | none => .ok { draft with attributes }

/-- Takes the written attributes of a tag into account. A fault stands at the tag itself unless a
place is given. -/
def TagDraft.addWritten (dtd : Dtd) (opened : List String) (rules : List AttributeRule) :
    TagDraft → List RawAttribute → Except (Fault × Option (List Char)) TagDraft
  | draft, [] => .ok draft
  | draft, raw :: rest =>
    if draft.attributes.any (·.1 == raw.name) then
      .error (.duplicateAttribute, some raw.fromName)
    else
      let keepsBlanks := ((rules.find? (·.name == raw.name)).map (·.keepsBlanks)).getD true
      match attributeText dtd keepsBlanks opened raw.value with
      | .error halt =>
        .error (halt.fault, halt.rest?.map fun place =>
          raw.fromValue.drop (raw.value.length - place.length))
      | .ok value =>
        match draft.add raw.name value with
        | .error fault => .error (fault, none)
        | .ok longer => addWritten dtd opened rules longer rest

/-- Takes the defaults of attributes that are not written into account. -/
def TagDraft.addDefaults : TagDraft → List AttributeRule → Except Fault TagDraft
  | draft, [] => .ok draft
  | draft, rule :: rest =>
    match rule.default? with
    | none => draft.addDefaults rest
    | some value =>
      if draft.attributes.any (·.1 == rule.name) then draft.addDefaults rest
      else match draft.add rule.name value with
        | .error fault => .error fault
        | .ok longer => longer.addDefaults rest

/-- Full name, attributes and prefixes of a start tag. -/
structure OpenTag where
  name : String
  attributes : List (String × String)
  scope : Scope
deriving Repr

/-- Reads a start tag in a scope of prefixes. -/
def openTag (dtd : Dtd) (opened : List String) (scope : Scope) (name : String)
    (attributes : List RawAttribute) : Except (Fault × Option (List Char)) OpenTag :=
  let rules := dtd.rulesFor name
  match TagDraft.addWritten dtd opened rules { scope } attributes with
  | .error halt => .error halt
  | .ok written =>
    let finish : Except Fault OpenTag := do
      let draft ← written.addDefaults rules
      let plain := draft.attributes.filter fun pair => (declaredPrefix? pair.1).isNone
      let named ← attributeNames draft.scope [] plain
      let full ← elementName draft.scope name
      return ⟨full, named, draft.scope⟩
    finish.mapError fun fault => (fault, none)

end LogAudit.Xml
