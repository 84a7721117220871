import SearchWire.Predicate.Scopes

/-!
# Queries

A search: its text, given or built from predicates, and the options that shape its results.

* `SortOrder`, `NumericFilter`, `GeoFilter`, `Summary`, `Highlight`: parts of a query;
* `Query`, `Query.text`: the query string;
* `Query.optionTokens`, `Query.compile`: the arguments of a search after the name of the index.
-/

namespace SearchWire

inductive SortOrder where
  | ascending
  | descending
deriving DecidableEq, Repr

def SortOrder.keyword : SortOrder → String
  | .ascending => "ASC"
  | .descending => "DESC"

/-- A range that a numeric field must lie in. -/
structure NumericFilter where
  field : String
  min : Binary64
  max : Binary64
deriving DecidableEq, Repr

inductive GeoUnit where
  | metre
  | kilometre
  | mile
  | foot
deriving DecidableEq, Repr

def GeoUnit.keyword : GeoUnit → String
  | .metre => "m"
  | .kilometre => "km"
  | .mile => "mi"
  | .foot => "ft"

/-- A circle that a geo field must lie in. -/
structure GeoFilter where
  field : String
  lon : Binary64
  lat : Binary64
  radius : Binary64
  unit : GeoUnit := .kilometre
deriving DecidableEq, Repr

/-- How fields are cut down to fragments. -/
structure Summary where
  fields : List String := []
  fragments : Option Nat := none
  length : Option Nat := none
  separator : Option String := none
deriving DecidableEq, Repr

/-- How matches are marked. -/
structure Highlight where
  fields : List String := []
  /-- The texts before and after a match. -/
  tags : Option (String × String) := none
deriving DecidableEq, Repr

/-- The dialect of a query that sets none. -/
def defaultDialect : Nat := 2

/-- A search. -/
structure Query where
  /-- The text that the predicates refine. -/
  base : Option String := none
  scopes : Scopes := {}
  /-- Whether a collection was closed when none was open. -/
  unbalanced : Bool := false
  noContent : Bool := false
  verbatim : Bool := false
  noStopwords : Bool := false
  withPayloads : Bool := false
  withScores : Bool := false
  inOrder : Bool := false
  scorer : Option String := none
  inFields : List String := []
  inKeys : List String := []
  filters : List NumericFilter := []
  geoFilters : List GeoFilter := []
  /-- Fields and the names they are returned under. -/
  returned : List (String × Option String) := []
  summary : Option Summary := none
  highlight : Option Highlight := none
  slop : Option Nat := none
  /-- Milliseconds. -/
  timeout : Option Nat := none
  language : Option String := none
  expander : Option String := none
  sortBy : Option (String × Option SortOrder) := none
  /-- Offset and count. -/
  limit : Option (Nat × Nat) := none
  params : Bindings Token := []
  dialect : Option Nat := none
deriving Repr

/-! ## Parts of a command -/

def NumericFilter.tokens (f : NumericFilter) : Command :=
  ["FILTER", f.field, .ofReal f.min, .ofReal f.max]

def GeoFilter.tokens (g : GeoFilter) : Command :=
  ["GEOFILTER", g.field, .ofReal g.lon, .ofReal g.lat, .ofReal g.radius, g.unit.keyword]

def Summary.tokens (s : Summary) : Command :=
  "SUMMARIZE" ::
    (Command.listing "FIELDS" (Command.words s.fields) ++
      Command.number "FRAGS" s.fragments ++
      Command.number "LEN" s.length ++
      Command.text "SEPARATOR" s.separator)

/-- The texts before and after a match. -/
def tagTokens (tags : String × String) : Command := ["TAGS", tags.1, tags.2]

def Highlight.tokens (h : Highlight) : Command :=
  "HIGHLIGHT" ::
    (Command.listing "FIELDS" (Command.words h.fields) ++ Command.part tagTokens h.tags)

/-- A returned field and the name it is returned under. -/
def returnTokens (r : String × Option String) : Command := (r.1 : Token) :: Command.text "AS" r.2

/-- A field to sort by and its direction. -/
def sortTokens : String × Option SortOrder → Command
  | (field, none) => ["SORTBY", field]
  | (field, some order) => ["SORTBY", field, order.keyword]

/-- An offset and a count. -/
def limitTokens (limit : Nat × Nat) : Command := ["LIMIT", .ofNat limit.1, .ofNat limit.2]

namespace Query

def ofText (base : String) : Query := { base := some base }

def matchAll : Query := {}

def ofCollection (root : Collection) : Query := { scopes := { root := root } }

/-- The query string: the text, the predicates after it, or `*` when there is neither. It exists
once the collections are balanced. -/
def text (q : Query) : Except QueryFault String :=
  if q.unbalanced then .error .unbalanced
  else do
    let root ← q.scopes.root?
    match q.base, root.isEmpty with
    | some base, false => return base ++ " " ++ root.render
    | base, _ => return root.queryText base

/-- The tokens after the query string, but for the dialect. -/
def settingTokens (q : Query) : Command :=
  Command.flag "NOCONTENT" q.noContent ++
  Command.flag "VERBATIM" q.verbatim ++
  Command.flag "NOSTOPWORDS" q.noStopwords ++
  Command.flag "WITHPAYLOADS" q.withPayloads ++
  Command.text "SCORER" q.scorer ++
  Command.flag "WITHSCORES" q.withScores ++
  Command.listing "INFIELDS" (Command.words q.inFields) ++
  Command.listing "INKEYS" (Command.words q.inKeys) ++
  q.filters.flatMap NumericFilter.tokens ++
  q.geoFilters.flatMap GeoFilter.tokens ++
  Command.listing "RETURN" (q.returned.flatMap returnTokens) ++
  Command.part Summary.tokens q.summary ++
  Command.part Highlight.tokens q.highlight ++
  Command.number "SLOP" q.slop ++
  Command.number "TIMEOUT" q.timeout ++
  Command.text "LANGUAGE" q.language ++
  Command.text "EXPANDER" q.expander ++
  Command.flag "INORDER" q.inOrder ++
  Command.part sortTokens q.sortBy ++
  Command.part limitTokens q.limit ++
  Command.params q.params

/-- The tokens after the query string. -/
def optionTokens (q : Query) : Command :=
  q.settingTokens ++ Command.number "DIALECT" (some (q.dialect.getD defaultDialect))

/-- The arguments of a search after the name of the index. -/
def compile (q : Query) : Except QueryFault Command := do
  return (← q.text : Token) :: q.optionTokens

end Query

end SearchWire
