import SearchWire.Index.Definition
import SearchWire.Json.Basic
import SearchWire.Query.Basic

/-!
# Settings

The defaults of an index, and their reading from JSON, by name or by position.

* `Settings`, `Settings.ofMembers?`, `Settings.ofJson?`.
-/

namespace SearchWire

/-- The defaults of an index. -/
structure Settings where
  /-- The dialect of queries that set none. -/
  dialect : Nat := defaultDialect
  /-- What stands between the lead of a key and the id of a document. -/
  separator : String := ":"
  storage : Storage := .hash
  /-- Whether ids lose the lead of their keys when they are read. -/
  dropLead : Bool := true
deriving DecidableEq, Repr

namespace Settings

/-- A natural number below `2 ^ 32`. -/
def natural? : Json → Option Nat
  | .int n => if 0 ≤ n ∧ n < 0x100000000 then some n.toNat else none
  | _ => none

def string? : Json → Option String
  | .string s => some s
  | _ => none

def bool? : Json → Option Bool
  | .bool b => some b
  | _ => none

/-- A storage by its name in lower case. -/
def storageOfName? : String → Option Storage
  | "hash" => some .hash
  | "json" => some .json
  | _ => none

/-- A storage: its name, or an object whose only member is null under that name. -/
def storage? : Json → Option Storage
  | .string name => storageOfName? name
  | .object [(name, .null)] => storageOfName? name
  | _ => none

/-- The setting under a name: the default if the name is missing, nothing if its value is bad. -/
def get {α : Type} (members : Bindings Json) (name : String) (read : Json → Option α)
    (default : α) : Option α :=
  match members.find? name with
  | none => some default
  | some j => read j

/-- The settings of named values. Names that are not known are passed over; a null is no value. -/
def ofMembers? (members : Bindings Json) : Option Settings := do
  let base : Settings := {}
  let dialect ← get members "default_dialect" natural? base.dialect
  let separator ← get members "key_separator" string? base.separator
  let storage ← get members "storage" storage? base.storage
  let dropLead ← get members "strip_prefix_on_read" bool? base.dropLead
  return { dialect, separator, storage, dropLead }

/-- The names of all settings, in the order in which a list gives their values. -/
def names : List String := ["default_dialect", "key_separator", "storage", "strip_prefix_on_read"]

/-- The settings of a JSON value: an object of named values, or a list of the first values in
order, which is no longer than the list of names. -/
def ofJson? : Json → Option Settings
  | .object members => ofMembers? members
  | .array values =>
    if values.length ≤ names.length then ofMembers? (names.zip values) else none
  | _ => none

end Settings

end SearchWire
