import LogAudit.Decimal.Exact
import LogAudit.Decimal.Number
import LogAudit.Moment
import LogAudit.Text.Quoted

/-! # Object graphs

A graph is a list of nodes; the address of a node is its index. Members refer to nodes by address, so
that nodes can be shared and can reach themselves.

* `Key`: the key of a mapping, which may be text, a number, a compound value, or an object.
* `Value`: a scalar, or the address of a node.
* `Node`: a mapping, a sequence, a set, a record of named fields, or a value known by its text only. -/

namespace LogAudit.Masking
set_option autoImplicit false

/-! ## Keys -/

/-- The key of a mapping. -/
inductive Key
  | null
  | bool (value : Bool)
  | int (value : Int)
  | float (value : Decimal.Double)
  | text (value : String)
  | bytes (value : List UInt8)
  | decimal (value : String)
  | date (year month day : Nat)
  | tuple (items : List Key)
  /-- items in the order in which the set lists them -/
  | set (items : List Key)
  /-- the object at an address, with the texts that it has inside of other keys and by itself -/
  | object (address : Nat) (inside alone : String)
deriving Repr, Inhabited

/-- Bytes in quotes: ASCII characters that can be shown stand for themselves. -/
def quotedBytes (bytes : List UInt8) : String :=
  let chars := bytes.map fun byte => Char.ofNat byte.toNat
  let quote := Text.quoteFor chars
  let written := chars.flatMap fun c =>
    if c.toNat < 128 then Text.quotedChar quote c else Text.codeEscape c
  String.ofList ('b' :: quote :: written ++ [quote])

namespace Key

/-- The number that a key stands for; a truth value counts as one or zero. -/
def number? : Key → Option Decimal.Number
  | bool value => some (.whole (if value then 1 else 0))
  | int value => some (.whole value)
  | float value => some (.real value)
  | _ => none

/-- Whether two numbers are equal; what is no number equals nothing. -/
def sameNumber (a b : Decimal.Number) : Bool :=
  a.toDouble != .nan && b.toDouble != .nan && !a.lt b && !b.lt a

mutual

/-- Whether two keys name the same entry of a mapping. Numbers of all kinds are compared by value. -/
def same : Key → Key → Bool
  | null, null => true
  | text a, text b => a == b
  | bytes a, bytes b => a == b
  | decimal a, decimal b => a == b
  | date y m d, date y' m' d' => y == y' && m == m' && d == d'
  | tuple a, tuple b => sameItems a b
  | set a, set b => sameItems a b
  | object a _ _, object b _ _ => a == b
  | a, b => match a.number?, b.number? with
    | some a, some b => sameNumber a b
    | _, _ => false

/-- Whether two lists of keys agree item by item. -/
def sameItems : List Key → List Key → Bool
  | [], [] => true
  | a :: as, b :: bs => same a b && sameItems as bs
  | _, _ => false

end

mutual

/-- A key as it is shown inside of others. -/
def shown : Key → String
  | null => "None"
  | bool value => if value then "True" else "False"
  | int value => toString value
  | float value => value.text
  | text value => Text.quoted value
  | bytes value => quotedBytes value
  | decimal value => s!"Decimal('{value}')"
  | date year month day => s!"datetime.date({year}, {month}, {day})"
  | tuple items =>
    "(" ++ String.intercalate ", " (shownItems items) ++ if items.length = 1 then ",)" else ")"
  | set items =>
    if items.isEmpty then "frozenset()"
    else "frozenset(\x7b" ++ String.intercalate ", " (shownItems items) ++ "\x7d)"
  | object _ inside _ => inside

/-- Keys as they are shown inside of others. -/
def shownItems : List Key → List String
  | [] => []
  | item :: rest => shown item :: shownItems rest

end

/-- A key as it is shown by itself. -/
def display : Key → String
  | text value => value
  | decimal value => value
  | date year month day =>
    String.ofList (List.replicate (4 - (toString year).length) '0') ++
      s!"{year}-{Moment.twoDigits month}-{Moment.twoDigits day}"
  | object _ _ alone => alone
  | key => key.shown

/-- The name of a member in a written object. -/
def memberName : Key → String
  | bool value => if value then "true" else "false"
  | key => key.display

/-- Whether a key keeps its kind when it is written. Any other key turns into text. -/
def keepsKind : Key → Bool
  | bool _ => true
  | int _ => true
  | text _ => true
  | _ => false

end Key

/-! ## Nodes -/

/-- A value: a scalar, or the node at an address. -/
inductive Value
  | null
  | bool (value : Bool)
  | int (value : Int)
  | float (value : Decimal.Double)
  | text (value : String)
  | node (address : Nat)
deriving Repr, Inhabited

/-- A node of a graph. -/
inductive Node
  /-- entries in the order in which their keys were first put -/
  | mapping (entries : List (Key × Value))
  /-- items in order -/
  | sequence (items : List Value)
  /-- items in the order in which the set lists them -/
  | collection (items : List Value)
  /-- named fields in the order in which they were first set -/
  | record (fields : List (String × Value))
  /-- a value without members that are known, by its text -/
  | printed (text : String)
deriving Repr

/-- Puts an entry into a mapping; a key that is there already stays and gets the new value. -/
def putEntry (entries : List (Key × Value)) (key : Key) (value : Value) : List (Key × Value) :=
  if entries.any fun old => old.1.same key then
    entries.map fun old => if old.1.same key then (old.1, value) else old
  else entries ++ [(key, value)]

/-- A mapping with entries put one after the other. -/
def Node.ofEntries (entries : List (Key × Value)) : Node :=
  .mapping (entries.foldl (fun kept entry => putEntry kept entry.1 entry.2) [])

/-- A record with fields set one after the other. -/
def Node.ofFields (fields : List (String × Value)) : Node :=
  .record (fields.foldl (fun kept field =>
    if kept.any (·.1 == field.1) then
      kept.map fun old => if old.1 == field.1 then field else old
    else kept ++ [field]) [])

/-- The nodes of a graph by address. -/
abbrev Graph := List Node

end LogAudit.Masking
