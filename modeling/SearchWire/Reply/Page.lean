import SearchWire.Reply.Reading

/-!
# Pages of rows

The reply to an aggregation: a total and rows, alone or beside the id of a cursor.

* `Page`, `Reply.page`.
-/

namespace SearchWire

/-- A page of rows. -/
structure Page where
  total : Nat := 0
  rows : List (Bindings Reply) := []
  /-- Where the next page is; there is none after the last page. -/
  cursor : Option Nat := none
deriving Repr

namespace Reply

/-- Whether a reply is an array. -/
def isArray : Reply → Bool
  | .array _ => true
  | _ => false

/-- The part of a reply that holds the rows, and the cursor beside it: an array with something
after it that is no array. A cursor of zero is at its end. -/
def pageParts : List Reply → Except Fault (List Reply × Option Nat)
  | [.array body, id] =>
    if id.isArray then .ok ([.array body, id], none)
    else
      match id.natural? with
      | none => .error (.reply "FT.AGGREGATE" (.badCursor id))
      | some n => .ok (body, if n = 0 then none else some n)
  | items => .ok (items, none)

/-- A row: columns and their values. -/
def row : Reply → Except Fault (Bindings Reply) := table "FT.AGGREGATE" .ok

/-- The reply to an aggregation or to the reading of a cursor. -/
def page (r : Reply) : Except Fault Page := do
  let (body, cursor) ← pageParts (← items "FT.AGGREGATE" r)
  match body with
  | [] => return { cursor }
  | total :: rows =>
    match total.natural? with
    | none => .error (.reply "FT.AGGREGATE" (.badTotal total))
    | some n => return ⟨n, ← rows.mapM row, cursor⟩

end Reply

end SearchWire
