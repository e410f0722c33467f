import LogAudit.Json.Printer
import LogAudit.Masking.Graph
import LogAudit.Text.Case
import LogAudit.Text.Scan

/-! # Masking

A value of an object graph turns into JSON. Members with a sensitive name are replaced by a mask without
a look at their value. A node that is met below itself is replaced by a mark, and a node that is only
shared is written in each place.

* `isSensitive`: the names that are masked.
* `maskValue`: masking with the addresses of the nodes that are being written.
* `serialize`: the written text. -/

namespace LogAudit.Masking
set_option autoImplicit false

/-! ## Names -/

/-- The parts of names that are masked unless others are given. -/
def defaultPatterns : List String := [
  "password", "passwd", "pwd",
  "ssn", "social_security", "socialsecurity",
  "credit_card", "creditcard", "debit_card", "debitcard",
  "api_key", "apikey", "secret",
  "token", "auth_token", "authtoken",
  "pin", "cvv", "cvc",
  "dob", "date_of_birth", "dateofbirth"]

/-- Whether a name contains one of the patterns, small and capital letters alike. -/
def isSensitive (patterns : List String) (name : String) : Bool :=
  patterns.any fun pattern => Text.occursIn (Text.lower pattern).toList (Text.lower name).toList

/-- Whether the entry of a key is masked: only text can be a sensitive name. -/
def Key.isSensitive (patterns : List String) : Key → Bool
  | .text name => Masking.isSensitive patterns name
  | _ => false

/-! ## Values -/

/-- What stands in the place of a sensitive value. -/
def mask : Json := .string "***"

/-- What stands in the place of a node below itself. -/
def circular : Json := .string "[Circular Reference]"

/-- The addresses of the nodes that are being written. -/
abbrev Seen := List Nat

/-- A masking step: it writes a value and gives the addresses back. -/
abbrev Step := Value → Seen → Json × Seen

/-- Writes items one after the other. -/
def maskItems (step : Step) : List Value → Seen → List Json × Seen
  | [], seen => ([], seen)
  | item :: rest, seen =>
    let (json, seen) := step item seen
    let (jsons, seen) := maskItems step rest seen
    (json :: jsons, seen)

/-- Writes members one after the other; those with a sensitive name are not looked at. -/
def maskMembers {α : Type} (sensitive : α → Bool) (step : Step) :
    List (α × Value) → Seen → List (α × Json) × Seen
  | [], seen => ([], seen)
  | (name, value) :: rest, seen =>
    let (json, seen) := if sensitive name then (mask, seen) else step value seen
    let (members, seen) := maskMembers sensitive step rest seen
    ((name, json) :: members, seen)

/-- The key of a written entry. -/
def Key.written (key : Key) : Key :=
  if key.keepsKind then key else .text key.display

/-- Adds a written entry; a key that is there already keeps its place and gets the new value. -/
def putWritten (entries : List (Key × Json)) (key : Key) (json : Json) : List (Key × Json) :=
  if entries.any fun old => old.1.same key then
    entries.map fun old => if old.1.same key then (old.1, json) else old
  else entries ++ [(key, json)]

/-- The written form of a mapping. Keys of different kinds can have the same name. -/
def mappingJson (entries : List (Key × Json)) : Json :=
  let entries := entries.foldl (fun kept entry => putWritten kept entry.1.written entry.2) []
  .object (entries.map fun entry => (entry.1.memberName, entry.2))

/-- Writes a node whose address is among the addresses given. -/
def maskNode (patterns : List String) (step : Step) : Node → Seen → Json × Seen
  | .mapping entries, seen =>
    let (members, seen) := maskMembers (Key.isSensitive patterns) step entries seen
    (mappingJson members, seen)
  | .sequence items, seen | .collection items, seen =>
    let (jsons, seen) := maskItems step items seen
    (.array jsons, seen)
  | .record fields, seen =>
    let (members, seen) := maskMembers (isSensitive patterns) step fields seen
    (.object members, seen)
  | .printed text, seen => (.string text, seen)

/-- Writes a value. The fuel bounds the number of nodes below each other; as no node stands below
itself, the number of nodes of the graph is enough. -/
def maskValue (graph : Graph) (patterns : List String) : Nat → Step
  | _, .null, seen => (.null, seen)
  | _, .bool value, seen => (.bool value, seen)
  | _, .int value, seen => (.int value, seen)
  | _, .float value, seen => (.float value, seen)
  | _, .text value, seen => (.string value, seen)
  | 0, .node _, seen => (circular, seen)
  | fuel + 1, .node address, seen =>
    if seen.contains address then (circular, seen)
    else match graph[address]? with
      | none => (.null, seen)
      | some node =>
        let (json, seen) := maskNode patterns (maskValue graph patterns fuel) node (address :: seen)
        (json, seen.erase address)

/-- The masked form of a value of a graph. -/
def maskGraph (graph : Graph) (patterns : List String) (root : Value) : Json :=
  (maskValue graph patterns (graph.length + 1) root []).1

/-- The masked form as indented text. -/
def serialize (graph : Graph) (patterns : List String) (root : Value) : String :=
  (maskGraph graph patterns root).text ⟨true, true⟩

end LogAudit.Masking
