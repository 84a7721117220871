import SearchWire.Aggregate.Pipeline
import SearchWire.Hybrid.Query
import SearchWire.Index.Settings
import SearchWire.Query.Overrides
import SearchWire.Reply.Documents
import SearchWire.Schema

/-!
# Indexes

An index with its schema, and the commands on it. The keys of its documents may share a lead,
which is put before an id on its way out and taken off on its way in.

* `Index`, `Index.keyLead`, `Index.keyOf`;
* `SearchInput`, `Index.searchQuery`, `Query.layout`;
* the commands: `Index.createCommand`, `Index.searchCommand`, `Index.profileCommand` and others.
-/

namespace SearchWire

/-- A search index. -/
structure Index where
  name : String
  schema : Schema := {}
  settings : Settings := {}
  storage : Storage := settings.storage
  /-- The lead of all keys, without the separator. -/
  lead : Option String := none
  definition : IndexDefinition := {}
  createOptions : CreateOptions := {}

/-- What a search is given: a text, a query, or steps that build one from the query for all. -/
inductive SearchInput where
  | text (base : String)
  | query (q : Query)
  | build (calls : List Query.Call)

/-- The query of an input. -/
def SearchInput.toQuery : SearchInput → Query
  | .text base => .ofText base
  | .query q => q
  | .build calls => Query.matchAll.callAll calls

/-- What a profile runs. -/
inductive ProfileTarget where
  | search (q : Query)
  | aggregate (p : Pipeline)

/-- Whether a dictionary adds to or takes from the terms that are spelled right. -/
inductive TermsMode where
  | include
  | exclude
deriving DecidableEq, Repr

def TermsMode.keyword : TermsMode → String
  | .include => "INCLUDE"
  | .exclude => "EXCLUDE"

structure SpellingOptions where
  distance : Option Nat := none
  /-- Dictionaries and how they count. -/
  terms : List (TermsMode × String) := []
  dialect : Option Nat := none
  /-- Whether the reply is read, or left as it is. -/
  parsed : Bool := false
deriving DecidableEq, Repr

/-- One more dictionary. -/
def SpellingOptions.addTerms (o : SpellingOptions) (mode : TermsMode) (dictionary : String) :
    SpellingOptions :=
  { o with terms := o.terms ++ [(mode, dictionary)] }

/-- A dictionary and how it counts. -/
def termsTokens (t : TermsMode × String) : Command := ["TERMS", t.1.keyword, t.2]

def SpellingOptions.tokens (o : SpellingOptions) : Command :=
  Command.number "DISTANCE" o.distance ++
  o.terms.flatMap termsTokens ++
  Command.number "DIALECT" o.dialect

/-- The columns of the documents that a query finds. -/
def Query.layout (q : Query) : Layout := ⟨!q.noContent, q.withScores, q.withPayloads⟩

namespace Index

variable (x : Index)

/-- The lead of all keys, with the separator. -/
def keyLead : Option String := x.lead.map (· ++ x.settings.separator)

def keyOf (id : String) : String := x.keyLead.getD "" ++ id

/-- A command on this index. -/
def on (command : String) (args : Command) : Command := command :: x.name :: args

/-! ## Queries -/

/-- A query as it is sent: with a dialect, and with keys in place of ids. -/
def prepare (q : Query) : Query :=
  { q with
    dialect := some (q.dialect.getD x.settings.dialect)
    inKeys := q.inKeys.map x.keyOf }

/-- The query of a search, as it is sent. -/
def searchQuery (input : SearchInput) (o : Overrides) : Query := x.prepare (o.apply input.toQuery)

def searchCommand (input : SearchInput) (o : Overrides) : Except QueryFault Command := do
  return x.on "FT.SEARCH" (← (x.searchQuery input o).compile)

def explainCommand (q : Query) : Except QueryFault Command := do
  return x.on "FT.EXPLAIN"
    [← q.text, "DIALECT", .ofNat (q.dialect.getD x.settings.dialect)]

def aggregateCommand (p : Pipeline) : Command := x.on "FT.AGGREGATE" p.compile

def profileWord : ProfileTarget → String
  | .search _ => "SEARCH"
  | .aggregate _ => "AGGREGATE"

def profileBody : ProfileTarget → Except QueryFault Command
  | .search q => (x.prepare q).compile
  | .aggregate p => .ok p.compile

def profileCommand (target : ProfileTarget) (limited : Bool) : Except QueryFault Command := do
  let body ← x.profileBody target
  return x.on "FT.PROFILE"
    (profileWord target :: (Command.flag "LIMITED" limited ++ ("QUERY" : Token) :: body))

def hybridCommand (q : HybridQuery) : Command := "FT.HYBRID" :: q.compile x.name

/-! ## The index itself -/

def createCommand : Command :=
  x.on "FT.CREATE"
    (x.definition.tokens x.storage x.keyLead ++ x.createOptions.tokens ++ x.schema.tokens)

def alterCommand (f : Field) (skipInitialScan : Bool) : Command :=
  x.on "FT.ALTER"
    (Command.flag "SKIPINITIALSCAN" skipInitialScan ++ ("SCHEMA" : Token) :: "ADD" :: f.tokens)

/-- Drop the index, with its documents or without. -/
def dropCommand (deleteDocuments : Bool) : Command :=
  x.on "FT.DROPINDEX" (Command.flag "DD" deleteDocuments)

def spellingCommand (query : String) (o : SpellingOptions) : Command :=
  x.on "FT.SPELLCHECK" (query :: o.tokens)

/-- Put terms into a group of synonyms. -/
def synonymCommand (group : String) (terms : List Token) (skipInitialScan : Bool) : Command :=
  x.on "FT.SYNUPDATE" (group :: (Command.flag "SKIPINITIALSCAN" skipInitialScan ++ terms))

end Index

end SearchWire
