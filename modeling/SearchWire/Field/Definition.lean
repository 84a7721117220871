import SearchWire.Fault

/-!
# Field definitions

A field described by its type, its name and a JSON object of options. Every name of an option is
checked before any value is read.

* `checkNames`: the options that the type does not have, all at once;
* `Options.flag`, `Options.number?`, `Options.string?`: the readers of values;
* `Field.define`.
-/

namespace SearchWire

/-- The members of an option object; null has none. -/
def optionMembers (name : String) : Json → Except Fault (List (String × Json))
  | .null => .ok []
  | .object members => .ok members
  | got => .error (.schema name (.notObject got))

/-- The options that a type does not have, in the order of the object. -/
def unknownOptions (type : FieldType) (members : List (String × Json)) : List String :=
  (Bindings.names members).filter fun option => option != "as" && !type.options.contains option

/-- Refuse options that the type does not have. -/
def checkNames (type : FieldType) (name : String) (members : List (String × Json)) :
    Except Fault Unit :=
  match unknownOptions type members with
  | [] => .ok ()
  | unknown => .error (.schema name (.unknown type unknown))

/-- The options of the field `field`, ready to be read. An option that is null is not given. -/
structure Options where
  field : String
  members : List (String × Json)

namespace Options

variable (o : Options)

/-- The value of an option, if it is given. -/
def get? (option : String) : Option Json := (Json.object o.members).member? option

/-- The fault of a value of the wrong kind. -/
def wrongKind (option : String) (wanted : Json.Kind) (got : Json) : Fault :=
  .schema o.field (.wrongKind option wanted got)

/-- A flag; one that is not given is off. -/
def flag (option : String) : Except Fault Bool :=
  match o.get? option with
  | none => .ok false
  | some (.bool b) => .ok b
  | some got => .error (o.wrongKind option .boolean got)

def number? (option : String) : Except Fault (Option Binary64) :=
  match o.get? option with
  | none => .ok none
  | some got =>
    match got.real? with
    | some x => .ok (some x)
    | none => .error (o.wrongKind option .number got)

def string? (option : String) : Except Fault (Option String) :=
  match o.get? option with
  | none => .ok none
  | some (.string s) => .ok (some s)
  | some got => .error (o.wrongKind option .string got)

/-- The fault of this field with a cause. -/
def refuse {α : Type} (cause : OptionFault) : Except Fault α := .error (.schema o.field cause)

def phonetic? : Except Fault (Option Phonetic) := do
  match ← o.string? "phonetic" with
  | none => return none
  | some code =>
    match Phonetic.ofCode? code with
    | some matcher => return some matcher
    | none => o.refuse (.phonetic code)

def textKind : Except Fault FieldKind := do
  let phonetic ← o.phonetic?
  let weight ← o.number? "weight"
  let noStem ← o.flag "no_stem"
  let sortable ← o.flag "sortable"
  let noIndex ← o.flag "no_index"
  let indexEmpty ← o.flag "index_empty"
  let indexMissing ← o.flag "index_missing"
  let suffixTrie ← o.flag "withsuffixtrie"
  return .text ⟨weight, phonetic, noStem, sortable, noIndex, indexEmpty, indexMissing, suffixTrie⟩

def tagKind : Except Fault FieldKind := do
  let separator ← o.string? "separator"
  let caseSensitive ← o.flag "case_sensitive"
  let sortable ← o.flag "sortable"
  let noIndex ← o.flag "no_index"
  let indexEmpty ← o.flag "index_empty"
  let indexMissing ← o.flag "index_missing"
  let suffixTrie ← o.flag "withsuffixtrie"
  return .tag ⟨separator, caseSensitive, sortable, noIndex, indexEmpty, indexMissing, suffixTrie⟩

def numericOptions : Except Fault NumericOptions := do
  let sortable ← o.flag "sortable"
  let noIndex ← o.flag "no_index"
  let indexMissing ← o.flag "index_missing"
  return ⟨sortable, noIndex, indexMissing⟩

/-- The coordinate system of a shape field: a word in letters of either case, spherical if it is
not given. -/
def coordSystem : Except Fault CoordSystem := do
  match ← o.string? "coord_system" with
  | none => return .spherical
  | some s =>
    let word := Text.upper s
    if word = CoordSystem.flat.keyword then return .flat
    else if word = CoordSystem.spherical.keyword then return .spherical
    else o.refuse (.coordSystem word)

def vectorAlgorithm : Except Fault VectorAlgorithm := do
  match ← o.string? "algorithm" with
  | none => o.refuse .vectorWithoutAlgorithm
  | some name =>
    match VectorAlgorithm.ofName? name with
    | some algorithm => return algorithm
    | none => o.refuse (.vectorAlgorithm name)

/-- The text of an attribute: a string itself, any other value as compact JSON. -/
def attributeText : Json → String
  | .string s => s
  | value => value.print

/-- The attributes of a vector field. -/
def attributes : Except Fault (List (String × String)) :=
  match o.get? "attributes" with
  | none => .ok []
  | some (.object members) => .ok (members.map fun p => (p.1, attributeText p.2))
  | some got => o.refuse (.attributesNotObject got)

/-- The kind of a vector field, which can be neither sortable nor outside the index. -/
def vectorKind : Except Fault FieldKind := do
  if ← o.flag "sortable" then o.refuse .vectorSortable
  if ← o.flag "no_index" then o.refuse .vectorNoIndex
  let algorithm ← o.vectorAlgorithm
  let attributes ← o.attributes
  let indexMissing ← o.flag "index_missing"
  return .vector ({ algorithm, indexMissing : VectorOptions }.addAttributes attributes)

def fieldKind : FieldType → Except Fault FieldKind
  | .text => o.textKind
  | .tag => o.tagKind
  | .numeric => o.numericOptions.map .numeric
  | .geo => o.numericOptions.map .geo
  | .geoshape => o.coordSystem.map .geoshape
  | .vector => o.vectorKind

end Options

/-- The field of a type and a name with the given options. -/
def Field.define (type : FieldType) (name : String) (options : Json) : Except Fault Field := do
  let members ← optionMembers name options
  checkNames type name members
  let o : Options := ⟨name, members⟩
  let asName ← o.string? "as"
  let kind ← o.fieldKind type
  return { name, asName, kind }

end SearchWire
