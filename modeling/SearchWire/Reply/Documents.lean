import SearchWire.Reply.Reading
import SearchWire.Text.Lead

/-!
# Documents found

The reply to a search: a total, then the columns of each document.

* `Layout`: which columns a document has;
* `Document`, `SearchResults`;
* `Reply.documents`, `SearchResults.dropLead`.
-/

namespace SearchWire

/-- Which columns a document has besides its id. -/
structure Layout where
  content : Bool := true
  scores : Bool := false
  payloads : Bool := false
deriving DecidableEq, Repr

/-- The number of columns of a document. -/
def Layout.stride (l : Layout) : Nat := 1 + l.scores.toNat + l.payloads.toNat + l.content.toNat

/-- A document that was found. -/
structure Document where
  id : String
  score : Option Binary64 := none
  payload : Option String := none
  fields : Bindings String := []
deriving DecidableEq, Repr

/-- The value of a field. -/
def Document.get? (d : Document) (field : String) : Option String :=
  Bindings.find? d.fields field

/-- What a search found: how many documents there are, and those that were sent. -/
structure SearchResults where
  total : Nat := 0
  documents : List Document := []
deriving DecidableEq, Repr

/-- Take a leading text off every id that begins with it. -/
def SearchResults.dropLead (r : SearchResults) (lead : String) : SearchResults :=
  { r with documents := r.documents.map fun d =>
      { d with id := (Text.dropLead? lead d.id).getD d.id } }

/-- The first `count` slices of a list, each with `size` elements. -/
def slices {α : Type} (size : Nat) : Nat → List α → List (List α)
  | 0, _ => []
  | count + 1, xs => xs.take size :: slices size count (xs.drop size)

namespace Reply

/-- The next column if it is wanted, and the columns after it. -/
def column (wanted : Bool) (columns : List Reply) : Option Reply × List Reply :=
  if wanted then (columns.head?, columns.tail) else (none, columns)

/-- The fields of a document; a value that is no scalar counts as empty. -/
def documentFields : Reply → Except Fault (Bindings String) :=
  table "FT.SEARCH" fun v => .ok v.stringOrEmpty

/-- A document with its id and its other columns. A score or a payload that cannot be read is left
out. -/
def document (l : Layout) (id : Reply) (columns : List Reply) : Except Fault Document := do
  let id ← string "FT.SEARCH" id
  let (score, columns) := column l.scores columns
  let (payload, columns) := column l.payloads columns
  let (content, _) := column l.content columns
  let fields ← match content with
    | none => .ok []
    | some content => documentFields content
  return ⟨id, score.bind real?, payload.bind text?, fields⟩

/-- A document of a slice of columns, the first of them its id. -/
def documentOfSlice (l : Layout) : List Reply → Except Fault Document
  | [] => .ok { id := "" }
  | id :: columns => document l id columns

/-- The reply to a search. No items at all mean nothing was found. -/
def documents (l : Layout) (r : Reply) : Except Fault SearchResults := do
  match ← items "FT.SEARCH" r with
  | [] => return {}
  | total :: rest =>
    match total.natural? with
    | none => .error (.reply "FT.SEARCH" (.badTotal total))
    | some n =>
      if rest.length % l.stride ≠ 0 then
        .error (.reply "FT.SEARCH" (.ragged rest.length l.stride))
      else
        let documents ← (slices l.stride (rest.length / l.stride) rest).mapM (documentOfSlice l)
        return ⟨n, documents⟩

end Reply

end SearchWire
