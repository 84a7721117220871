import SearchWire.Index.Basic

/-!
# Writing documents

A document is checked against the schema and becomes a hash or a JSON value.

* `Index.checkDocument`: numeric fields hold numbers;
* `hashValue?`: the value of a field in a hash;
* `Index.addCommand`.
-/

namespace SearchWire

/-- A list of numbers as a vector. -/
def vector? (items : List Json) : Option (List Binary32) :=
  items.mapM fun j => j.real?.map Binary64.narrow

/-- The value of a field in a hash. Null has none; a list of numbers is packed if the field holds
vectors; any other list or object is JSON text. -/
def hashValue? (isVector : Bool) : Json → Option Token
  | .null => none
  | .string s => some s
  | j@(.array items) =>
    match isVector, vector? items with
    | true, some v => some (.ofVector v)
    | _, _ => some j.print
  | j => some j.print

namespace Index

variable (x : Index)

/-- Whether the field that a key means has a type. -/
def keyHasType (key : String) (type : FieldType) : Bool :=
  (x.schema.find? key).any fun f => f.type == type

/-- Check one member of a document. A numeric field takes numbers and null. -/
def checkMember (m : String × Json) : Except Fault Unit :=
  if x.keyHasType m.1 .numeric && m.2.kind != .number && m.2.kind != .null then
    .error (.notNumeric m.1 m.2.kind)
  else .ok ()

def checkDocument (document : List (String × Json)) : Except Fault Unit :=
  document.forM x.checkMember

/-- A member of a document as it stands in a hash. -/
def hashMember (m : String × Json) : Command :=
  match hashValue? (x.keyHasType m.1 .vector) m.2 with
  | none => []
  | some value => [m.1, value]

/-- Write a document. A hash takes all members but the null ones, and at least one. -/
def addCommand (id : String) (document : List (String × Json)) : Except Fault Command := do
  x.checkDocument document
  match x.storage with
  | .json => return ["JSON.SET", x.keyOf id, "$", (Json.object document).print]
  | .hash =>
    match document.flatMap x.hashMember with
    | [] => .error (.query (.emptyDocument id))
    | members => return "HSET" :: x.keyOf id :: members

end Index

end SearchWire
