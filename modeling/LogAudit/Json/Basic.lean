import LogAudit.Decimal.Layout
import LogAudit.Text.Quoted

/-! # JSON values

Values as they are read and written: integers and binary numbers are told apart, and the members of an
object keep their order. `shown` is the text of a value in messages and log lines. -/

namespace LogAudit
set_option autoImplicit false

/-- A JSON value. -/
inductive Json
  | null
  | bool (value : Bool)
  | int (value : Int)
  | float (value : Decimal.Double)
  | string (value : String)
  | array (items : List Json)
  | object (members : List (String × Json))
deriving Repr

namespace Json

/-- The member of an object with a given name. -/
def member? (name : String) : Json → Option Json
  | .object members => members.lookup name
  | _ => none

/-- The members of an object, or none. -/
def members : Json → List (String × Json)
  | .object members => members
  | _ => []

/-- Adds a member; a name that is already there keeps its place and gets the new value. -/
def insertMember (members : List (String × Json)) (name : String) (value : Json) :
    List (String × Json) :=
  if members.any (·.1 == name) then
    members.map fun old => if old.1 == name then (name, value) else old
  else members ++ [(name, value)]

/-! ## The text of a value in messages -/

mutual

/-- A value as it is shown inside of others: strings are quoted. -/
def shown : Json → String
  | .null => "None"
  | .bool value => if value then "True" else "False"
  | .int value => toString value
  | .float value => value.text
  | .string value => Text.quoted value
  | .array items => "[" ++ shownItems items ++ "]"
  | .object members => "\x7b" ++ shownMembers members ++ "\x7d"

/-- The items of an array, with commas between them. -/
def shownItems : List Json → String
  | [] => ""
  | [item] => shown item
  | item :: rest => shown item ++ ", " ++ shownItems rest

/-- The members of an object, with commas between them. -/
def shownMembers : List (String × Json) → String
  | [] => ""
  | [(name, value)] => Text.quoted name ++ ": " ++ shown value
  | (name, value) :: rest =>
    Text.quoted name ++ ": " ++ shown value ++ ", " ++ shownMembers rest

end

/-- A value as it is shown by itself: a string stands for itself. -/
def display : Json → String
  | .string value => value
  | value => value.shown

/-- How far a platform goes with JSON; where there is no number, there is no limit. -/
structure Limits where
  /-- how many arrays and objects can be open at a time -/
  deepest : Option Nat := none
  /-- how many digits an integer can have -/
  digits : Option Nat := none
deriving Repr, DecidableEq

/-- Whether an integer can have a number of digits. -/
def Limits.allows (limits : Limits) (digits : Nat) : Bool :=
  limits.digits.all (digits ≤ ·)

/-- Whether an integer has no more digits than it can have. -/
def Limits.allowsInteger (limits : Limits) (value : Int) : Bool :=
  limits.allows (Nat.toDigits 10 value.natAbs).length

end Json

end LogAudit
