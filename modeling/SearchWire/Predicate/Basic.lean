import SearchWire.Token

/-!
# Predicates

Tests on fields, grouped by conjunction and disjunction, and their text in the query language.

* `escapeTag`: a literal value in tag syntax;
* `Predicate`, `Predicate.render`;
* `PredicateTree`, `Collection`, `Collection.render`, `Collection.queryText`.

A leaf is `(@f:\x7bv\x7d)`, `(@f:p)` or `(@f:[min max])`, a conjunction `(a b)` and a disjunction
`(a | b)`.
-/

namespace SearchWire

/-- The characters that have a meaning in tag syntax. -/
def tagSpecials : List Char :=
  [',', '.', '<', '>', '\x7b', '\x7d', '[', ']', '"', '\'', ':', ';', '!', '@', '#', '$', '%', '^',
    '&', '*', '(', ')', '-', '+', '=', '~', '|', '/', '\\', ' ']

/-- A character of a literal tag value: a special one stands after a backslash. -/
def escapeTagChar (c : Char) : List Char := if tagSpecials.contains c then ['\\', c] else [c]

/-- A literal value in tag syntax. -/
def escapeTag (value : String) : String := String.ofList (value.toList.flatMap escapeTagChar)

/-- A test on one field. -/
inductive Predicate where
  /-- The field holds a tag; the value is in tag syntax. -/
  | tag (field value : String)
  /-- The field matches a pattern. -/
  | text (field pattern : String)
  /-- The field lies in a range. -/
  | numeric (field : String) (min max : Binary64)
deriving DecidableEq, Repr

namespace Predicate

/-- The field holds exactly this value as a tag. -/
def tagLiteral (field value : String) : Predicate := .tag field (escapeTag value)

/-- A predicate in the query language. -/
def render : Predicate → String
  | tag field value => "(@" ++ field ++ ":\x7b" ++ value ++ "\x7d)"
  | text field pattern => "(@" ++ field ++ ":" ++ pattern ++ ")"
  | numeric field min max =>
    "(@" ++ field ++ ":[" ++ Token.realText min ++ " " ++ Token.realText max ++ "])"

end Predicate

/-- How the members of a collection are combined. -/
inductive Connective where
  | all
  | any
deriving DecidableEq, Repr, Inhabited

namespace Connective

/-- What stands between two members. -/
def separator : Connective → String
  | all => " "
  | any => " | "

/-- Members in parentheses; no members give no text. -/
def wrap (c : Connective) (parts : List String) : String :=
  if parts.isEmpty then "" else "(" ++ String.intercalate c.separator parts ++ ")"

end Connective

/-- Predicates and nested collections of them. -/
inductive PredicateTree where
  | leaf (p : Predicate)
  | group (c : Connective) (children : List PredicateTree)
deriving Repr, Inhabited

namespace PredicateTree

mutual

/-- A tree in the query language. -/
def render : PredicateTree → String
  | leaf p => p.render
  | group c children => c.wrap (renderAll children)

/-- The members of a collection in the query language. -/
def renderAll : List PredicateTree → List String
  | [] => []
  | t :: rest => render t :: renderAll rest

end

end PredicateTree

/-- A collection of predicates. -/
structure Collection where
  connective : Connective
  children : List PredicateTree := []
deriving Repr

namespace Collection

/-- The collection as a member of another one. -/
def tree (c : Collection) : PredicateTree := .group c.connective c.children

/-- The collection with one more member at its end. -/
def add (c : Collection) (t : PredicateTree) : Collection :=
  { c with children := c.children ++ [t] }

def isEmpty (c : Collection) : Bool := c.children.isEmpty

/-- The collection in the query language; an empty one has no text. -/
def render (c : Collection) : String := c.tree.render

/-- The collection as a whole query: an empty one gives way to `base`, or matches all. -/
def queryText (c : Collection) (base : Option String) : String :=
  if c.isEmpty then base.getD "*" else c.render

end Collection

end SearchWire
