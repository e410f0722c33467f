import LogAudit.Xml.Fault
import LogAudit.Xml.Lexer

/-! # The declaration of a document

A document can begin with a declaration of its version, its encoding and whether it stands alone, in
this order; only the version is needed. -/

namespace LogAudit.Xml
set_option autoImplicit false

/-- What the declaration says, and what is left of the text at the name of the encoding. -/
structure Declaration where
  encoding? : Option (String × List Char) := none
  standalone : Bool := false
deriving Repr, DecidableEq

/-- A name with a value, and what is left at the name, at the value and behind. -/
structure Setting where
  name : String
  value : String
  fromName : List Char
  fromValue : List Char
  rest : List Char
deriving Repr, DecidableEq

/-- Whether a character can stand in a value. -/
def isSettingChar (c : Char) : Bool :=
  c.isAlphanum || c == '.' || c == '-' || c == '_'

/-- Reads a value behind its opening quote, and what is left behind the closing one. A failure is what
is left at its place. -/
def readSettingValue (quote : Char) : List Char → Except (List Char) (List Char × List Char)
  | [] => .error []
  | c :: rest =>
    if c = quote then .ok ([], rest)
    else if isSettingChar c then
      (readSettingValue quote rest).map fun (value, after) => (c :: value, after)
    else .error (c :: rest)

/-- Reads a name with a value, if there is one. A failure is what is left at its place. -/
def readSetting (text : List Char) : Except (List Char) (Option Setting) :=
  let start := dropSpaces text
  if text.isEmpty then .ok none
  else if !text.head?.any isSpace then .error text
  else if start.isEmpty then .ok none
  else
    let isEnd := fun c => c == '=' || isSpace c
    let name := start.takeWhile (!isEnd ·)
    let behind := dropSpaces (start.dropWhile (!isEnd ·))
    match behind with
    | '=' :: rest =>
      if name.isEmpty then .error behind
      else match dropSpaces rest with
        | [] => .error []
        | c :: after =>
          if c = '"' || c = '\'' then
            (readSettingValue c after).map fun (value, rest) =>
              some ⟨String.ofList name, String.ofList value, start, after, rest⟩
          else .error (c :: after)
    | _ => .error behind

/-- Reads whether the document stands alone, up to the end of the declaration. -/
def readStandalone (declared : Declaration) (setting : Setting) : Except (List Char) Declaration :=
  if setting.name != "standalone" then .error setting.fromName
  else if setting.value != "yes" && setting.value != "no" then .error setting.fromValue
  else
    let rest := dropSpaces setting.rest
    if rest.isEmpty then .ok { declared with standalone := setting.value == "yes" } else .error rest

/-- Reads what stands behind the version. -/
def readEncoding (setting : Setting) : Except (List Char) Declaration :=
  if setting.name == "encoding" then
    if !setting.value.toList.head?.any Char.isAlpha then .error setting.fromValue
    else
      let declared : Declaration := { encoding? := some (setting.value, setting.fromValue) }
      match readSetting setting.rest with
      | .error place => .error place
      | .ok none => .ok declared
      | .ok (some next) => readStandalone declared next
  else readStandalone {} setting

/-- Reads the inside of a declaration. A failure is what is left at its place. -/
def readDeclared (text : List Char) : Except (List Char) Declaration :=
  match readSetting text with
  | .error place => .error place
  | .ok none => .error (dropSpaces text)
  | .ok (some version) =>
    if version.name != "version" then .error version.fromName
    else match readSetting version.rest with
      | .error place => .error place
      | .ok none => .ok {}
      | .ok (some next) => readEncoding next

/-- The declaration that a text begins with, and what follows it. Without a complete declaration
there is none. -/
def readTextDeclaration (text : List Char) : Except Halt (Option (Declaration × List Char)) :=
  match text with
  | '<' :: '?' :: rest =>
    match readInstruction rest with
    | .found true after =>
      let inside := (rest.drop 3).take (rest.length - 3 - after.length - 2)
      match readDeclared inside with
      | .ok declared => .ok (some (declared, after))
      | .error place => .error ⟨.malformedDeclaration, place ++ '?' :: '>' :: after⟩
    | _ => .ok none
  | _ => .ok none

end LogAudit.Xml
