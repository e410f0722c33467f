/-! # Faults of XML documents

Why a text is no well-formed document, and where: a position is the line, counted from one, and the
column, counted from zero. -/

namespace LogAudit.Xml
set_option autoImplicit false

/-- What is wrong with a document. -/
inductive Fault
  | noElement
  | syntaxError
  | invalidToken
  | unclosedToken
  | partialCharacter
  | mismatchedTag
  | duplicateAttribute
  | junkAfterElement
  | parameterReference
  | undefinedEntity
  | skippedEntity (name : String)
  | recursiveEntity
  | unbalancedEntity
  | badCharacterNumber
  | binaryEntity
  | externalInAttribute
  | misplacedDeclaration
  | malformedDeclaration
  | unknownEncoding
  | wrongEncoding
  | unclosedCdata
  | unboundPrefix
  | undeclaredPrefix
  | reservedXml
  | reservedXmlns
  | reservedNamespace
  | publicId
deriving Repr, DecidableEq

/-- The words for a fault. -/
def Fault.message : Fault → String
  | noElement => "no element found"
  | syntaxError => "syntax error"
  | invalidToken => "not well-formed (invalid token)"
  | unclosedToken => "unclosed token"
  | partialCharacter => "partial character"
  | mismatchedTag => "mismatched tag"
  | duplicateAttribute => "duplicate attribute"
  | junkAfterElement => "junk after document element"
  | parameterReference => "illegal parameter entity reference"
  | undefinedEntity => "undefined entity"
  | skippedEntity name => "undefined entity &" ++ name ++ ";"
  | recursiveEntity => "recursive entity reference"
  | unbalancedEntity => "asynchronous entity"
  | badCharacterNumber => "reference to invalid character number"
  | binaryEntity => "reference to binary entity"
  | externalInAttribute => "reference to external entity in attribute"
  | misplacedDeclaration => "XML or text declaration not at start of entity"
  | malformedDeclaration => "XML declaration not well-formed"
  | unknownEncoding => "unknown encoding"
  | wrongEncoding => "encoding specified in XML declaration is incorrect"
  | unclosedCdata => "unclosed CDATA section"
  | unboundPrefix => "unbound prefix"
  | undeclaredPrefix => "must not undeclare prefix"
  | reservedXml => "reserved prefix (xml) must not be undeclared or bound to another namespace name"
  | reservedXmlns => "reserved prefix (xmlns) must not be declared or undeclared"
  | reservedNamespace => "prefix must not be bound to one of the reserved namespace names"
  | publicId => "illegal character(s) in public id"

/-- How the bytes of a document end: with a whole character, with bytes too few for a unit, or with
units too few for a character. -/
inductive Ending
  | whole
  | withinUnit
  | withinCharacter
deriving Repr, DecidableEq

/-- The fault of a token that is cut off by the end. -/
def Ending.tokenFault : Ending → Fault
  | whole => .unclosedToken
  | withinUnit => .unclosedToken
  | withinCharacter => .partialCharacter

/-- The fault at an end behind which more was to come; `fault` is that of a whole text. -/
def Ending.faultOr (ending : Ending) (fault : Fault) : Fault :=
  if ending = .whole then fault else ending.tokenFault

/-- A fault, and what is left of the text from the place of the fault on. -/
structure Halt where
  fault : Fault
  rest : List Char
deriving Repr, DecidableEq

/-- Line and column behind some characters. -/
def positionFrom : Nat → Nat → List Char → Nat × Nat
  | line, column, [] => (line, column)
  | line, _, '\r' :: '\n' :: rest => positionFrom (line + 1) 0 rest
  | line, column, c :: rest =>
    if c = '\n' ∨ c = '\r' then positionFrom (line + 1) 0 rest else positionFrom line (column + 1) rest

/-- Line and column of the place in a text from which on `rest` is left. -/
def positionOf (text rest : List Char) : Nat × Nat :=
  positionFrom 1 0 (text.take (text.length - rest.length))

end LogAudit.Xml
