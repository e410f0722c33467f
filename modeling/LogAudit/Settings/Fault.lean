import LogAudit.Json.Parser

/-! # Faults of settings

Why a value cannot be a setting. A fault names the setting, the cause, and the value that was given.
Several faults together are described in one text. -/

namespace LogAudit
set_option autoImplicit false

/-- Why a value is refused. -/
inductive SettingCause
  | notInteger
  | fractional
  | integerTooLong
  | notFinite
  | noInteger
  | notNumber
  | noNumber
  | notTruth
  | noTruth
  | noText
  | noList
  | below (least : Int)
  | above (most : Int)
  | notPositive
  | unknownName
  | notAmong (name : String) (allowed : List String)
  | unknownEncoding (name : String)
  | nullCharacter
deriving Repr, DecidableEq

namespace SettingCause

/-- The short name of a cause. -/
def code : SettingCause → String
  | notInteger => "int_parsing"
  | fractional => "int_from_float"
  | integerTooLong => "int_parsing_size"
  | notFinite => "finite_number"
  | noInteger => "int_type"
  | notNumber => "float_parsing"
  | noNumber => "float_type"
  | notTruth => "bool_parsing"
  | noTruth => "bool_type"
  | noText => "string_type"
  | noList => "list_type"
  | below _ => "greater_than_equal"
  | above _ => "less_than_equal"
  | notPositive => "greater_than"
  | unknownName => "extra_forbidden"
  | notAmong _ _ => "value_error"
  | unknownEncoding _ => "value_error"
  | nullCharacter => "value_error"

/-- The words for a cause. -/
def message : SettingCause → String
  | notInteger => "Input should be a valid integer, unable to parse string as an integer"
  | fractional => "Input should be a valid integer, got a number with a fractional part"
  | integerTooLong => "Unable to parse input string as an integer, exceeded maximum size"
  | notFinite => "Input should be a finite number"
  | noInteger => "Input should be a valid integer"
  | notNumber => "Input should be a valid number, unable to parse string as a number"
  | noNumber => "Input should be a valid number"
  | notTruth => "Input should be a valid boolean, unable to interpret input"
  | noTruth => "Input should be a valid boolean"
  | noText => "Input should be a valid string"
  | noList => "Input should be a valid list"
  | below least => "Input should be greater than or equal to " ++ toString least
  | above most => "Input should be less than or equal to " ++ toString most
  | notPositive => "Input should be greater than 0"
  | unknownName => "Extra inputs are not permitted"
  | notAmong name allowed =>
    "Value error, " ++ name ++ " must be one of " ++ (Json.array (allowed.map .string)).shown
  | unknownEncoding name => "Value error, unknown file_encoding: " ++ name
  | nullCharacter => "Value error, embedded null character"

end SettingCause

/-- A refused value: the setting, with the index of an item if it is one of a list, the cause and the
value. -/
structure SettingFault where
  place : List String
  cause : SettingCause
  value : Json
deriving Repr

namespace SettingFault

/-- The place of a fault, with points between its parts. -/
def location (fault : SettingFault) : String :=
  String.intercalate "." fault.place

/-- The name of the kind of a value. -/
def kindOf : Json → String
  | .null => "NoneType"
  | .bool _ => "bool"
  | .int _ => "int"
  | .float _ => "float"
  | .string _ => "str"
  | .array _ => "list"
  | .object _ => "dict"

/-- A text cut in its middle if it has more than fifty bytes: the first 25 and the last 24 are kept,
and no character is split. -/
def shortened (text : String) : String :=
  let size := text.utf8ByteSize
  if size ≤ 50 then text
  else
    let chars := text.toList
    let ends := chars.scanl (fun count c => count + c.utf8Size) 0
    let front := (ends.filter (· ≤ 25)).length - 1
    let back := (ends.filter (· < size - 24)).length
    String.ofList (chars.take front) ++ "..." ++ String.ofList (chars.drop back)

/-- A fault in words, over several lines; for the code of its cause there may be a line of help. -/
def describe (help? : String → Option String) (fault : SettingFault) : String :=
  fault.location ++ "\n  " ++ fault.cause.message ++ " [type=" ++ fault.cause.code ++
    ", input_value=" ++ shortened fault.value.shown ++ ", input_type=" ++ kindOf fault.value ++ "]" ++
    match help? fault.cause.code with
    | some line => "\n    " ++ line
    | none => ""

/-- Several faults in words. -/
def describeAll (help? : String → Option String) (faults : List SettingFault) : String :=
  let count := faults.length
  String.intercalate "\n"
    ((toString count ++ " validation error" ++ (if count = 1 then "" else "s") ++
      " for ScannerSettings") :: faults.map (describe help?))

end SettingFault

/-- Why there are no settings: faults of the values, or a list whose text goes too deep to be read. -/
inductive SettingsFailure
  | invalid (faults : List SettingFault)
  | tooDeep (container : Json.Container)
deriving Repr

/-- The words for a text that goes too deep. -/
def Json.Container.depthMessage (container : Json.Container) : String :=
  "maximum recursion depth exceeded while decoding a JSON " ++
    (match container with
      | .array => "array"
      | .object => "object") ++ " from a unicode string"

end LogAudit
