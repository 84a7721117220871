import SearchWire.Field.Definition

/-!
# Schemas

The fields of an index, in order.

* `Schema`, `Schema.find?`, `Schema.tokens`;
* `Definition`, `Schema.build`: the names of all options are checked before any field is made.
-/

namespace SearchWire

/-- The fields of an index, in order. -/
structure Schema where
  fields : List Field := []
deriving DecidableEq, Repr

namespace Schema

/-- The first field that a document key means. -/
def find? (s : Schema) (key : String) : Option Field := s.fields.find? (·.answersTo key)

/-- The schema with one more field at its end. -/
def push (s : Schema) (f : Field) : Schema := ⟨s.fields ++ [f]⟩

/-- The word `SCHEMA` and the tokens of all fields. -/
def tokens (s : Schema) : Command := "SCHEMA" :: s.fields.flatMap Field.tokens

end Schema

/-- A field that is made already, or one that is described. -/
inductive Definition where
  | made (f : Field)
  | described (type : FieldType) (name : String) (options : Json)

namespace Definition

/-- Check the names of the options. -/
def check : Definition → Except Fault Unit
  | made _ => .ok ()
  | described type name options => do checkNames type name (← optionMembers name options)

/-- The field of a definition. -/
def field : Definition → Except Fault Field
  | made f => .ok f
  | described type name options => Field.define type name options

end Definition

/-- The schema of some definitions, or the first fault: those of the names of options come before
all others. -/
def Schema.build (definitions : List Definition) : Except Fault Schema := do
  definitions.forM Definition.check
  let fields ← definitions.mapM Definition.field
  return ⟨fields⟩

end SearchWire
