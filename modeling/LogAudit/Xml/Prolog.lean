import LogAudit.Xml.Dtd

/-! # Tokens before and behind the root element

Outside of the root element stand comments, instructions, blanks and the declaration of the document
type, whose inside has tokens of its own. -/

namespace LogAudit.Xml
set_option autoImplicit false

/-- How often something may occur in a content model. -/
inductive Occurrence
  | once
  | optional
  | anyNumber
  | oneOrMore
deriving Repr, DecidableEq

/-- What text outside of the root element can begin with. -/
inductive Outer
  | space
  | comment
  | instruction
  | declaration
  | elementStart
  | declOpen (keyword : String)
  | declClose
  | name (name : String)
  | prefixedName (name : String)
  | counted (name : String) (occurrence : Occurrence)
  | nameToken
  | hashName (name : String)
  | literal (content fromContent : List Char)
  | percent
  | parameterReference
  | openBracket
  | closeBracket
  | sectionOpen
  | sectionClose
  | openGroup
  | closeGroup (occurrence : Occurrence)
  | comma
  | bar
deriving Repr, DecidableEq

/-! ## Parts -/

/-- The mark of an occurrence. -/
def occurrenceOf? (c : Char) : Option Occurrence :=
  match c with
  | '?' => some .optional
  | '*' => some .anyNumber
  | '+' => some .oneOrMore
  | _ => none

/-- Reads a literal behind its opening quote. -/
def readLiteral (quote : Char) (start : List Char) : List Char → Lexed Outer
  | [] => .cut
  | c :: rest =>
    if c = quote then
      let content := start.take (start.length - (rest.length + 1))
      match rest with
      | [] => .found (.literal content start) []
      | d :: _ =>
        if isSpace d || d = '>' || d = '%' || d = '[' then .found (.literal content start) rest
        else .invalid rest
    else if isXmlChar c then readLiteral quote start rest
    else .invalid (c :: rest)

/-- Reads a declaration or a comment behind `<!`. -/
def readDeclaration (text : List Char) : Lexed Outer :=
  match text with
  | [] => .cut
  | '-' :: rest =>
    match rest with
    | [] => .cut
    | '-' :: after => (readComment after).map fun _ => .comment
    | _ => .invalid rest
  | '[' :: rest => .found .sectionOpen rest
  | c :: _ =>
    let isLetter := fun (d : Char) => d.isAlpha || d == '_'
    if isLetter c then
      let rest := text.dropWhile isLetter
      let keyword := String.ofList (text.takeWhile isLetter)
      match rest with
      | [] => .cut
      | ['%'] => .cut
      | '%' :: d :: _ =>
        if isSpace d || d = '%' then .invalid rest else .found (.declOpen keyword) rest
      | d :: _ => if isSpace d then .found (.declOpen keyword) rest else .invalid rest
    else .invalid text

/-- Reads what a percent sign begins, behind it. -/
def readPercent (text : List Char) : Lexed Outer :=
  match text with
  | [] => .cut
  | c :: _ =>
    if isSpace c || c = '%' then .found .percent text
    else (readName text).andThen fun _ rest =>
      match rest with
      | [] => .cut
      | ';' :: after => .found .parameterReference after
      | _ => .invalid rest

/-- Reads a name behind a hash mark. -/
def readHashName (text : List Char) : Lexed Outer :=
  (readName text).andThen fun name rest =>
    match rest with
    | [] => .found (.hashName name) []
    | c :: _ =>
      if isSpace c || c = ')' || c = '>' || c = '%' || c = '|' then .found (.hashName name) rest
      else .invalid rest

/-- Reads the end of a group behind its bracket. -/
def readGroupEnd (text : List Char) : Lexed Outer :=
  match text with
  | [] => .found (.closeGroup .once) []
  | c :: rest =>
    match occurrenceOf? c with
    | some occurrence => .found (.closeGroup occurrence) rest
    | none =>
      if isSpace c || c = '>' || c = ',' || c = '|' || c = ')' then .found (.closeGroup .once) text
      else .invalid text

/-- Reads a name or a name token with what counts it. -/
def readWordToken (text : List Char) : Lexed Outer :=
  let inWord := fun c => isNamePart c || c == ':'
  let word := text.takeWhile inWord
  let rest := text.dropWhile inWord
  let name := String.ofList word
  let colons := (word.filter (· == ':')).length
  let isName := text.head?.any isNameStart && colons = 0
  let isPrefixed := text.head?.any isNameStart && colons = 1 && word.getLast? != some ':'
  let kind : Outer := if isName then .name name else if isPrefixed then .prefixedName name else .nameToken
  match rest with
  | [] => if word.getLast? == some ':' && colons = 1 && text.head?.any isNameStart then .cut
          else .found kind []
  | c :: after =>
    match occurrenceOf? c with
    | some occurrence =>
      if isName || isPrefixed then .found (.counted name occurrence) after else .invalid rest
    | none =>
      if isSpace c || c = '>' || c = ')' || c = ',' || c = '|' || c = '[' || c = '%' then
        .found kind rest
      else .invalid rest

/-! ## Tokens -/

/-- Reads the first token of text that is not empty. -/
def readOuter (text : List Char) : Lexed Outer :=
  match text with
  | [] => .cut
  | '"' :: rest => readLiteral '"' rest rest
  | '\'' :: rest => readLiteral '\'' rest rest
  | '<' :: rest =>
    match rest with
    | [] => .cut
    | '!' :: after => readDeclaration after
    | '?' :: after => (readInstruction after).map fun isDeclaration =>
        if isDeclaration then .declaration else .instruction
    | c :: _ =>
      if isNameStart c || (c.toNat ≥ 128 && isXmlChar c) then .found .elementStart text
      else .invalid rest
  | '%' :: rest => readPercent rest
  | ',' :: rest => .found .comma rest
  | '[' :: rest => .found .openBracket rest
  | ']' :: rest =>
    match rest with
    | [']'] => .cut
    | ']' :: '>' :: after => .found .sectionClose after
    | _ => .found .closeBracket rest
  | '(' :: rest => .found .openGroup rest
  | ')' :: rest => readGroupEnd rest
  | '|' :: rest => .found .bar rest
  | '>' :: rest => .found .declClose rest
  | '#' :: rest => readHashName rest
  | c :: _ =>
    if isSpace c then .found .space (dropSpaces text)
    else if isNamePart c || c = ':' then readWordToken text
    else .invalid text

end LogAudit.Xml
