import SearchWire.Index.Document
import SearchWire.Reply.Page
import SearchWire.Reply.Tables

/-!
# Calls

What can be asked of an index, as data. A call has a command, which is compiled before anything is
sent, and a reading of the reply.

* `Call`, `Answer`;
* `Call.command`, `Call.read`.
-/

namespace SearchWire

/-- What can be asked of an index. -/
inductive Call where
  | create
  | alter (f : Field) (skipInitialScan : Bool)
  | drop (deleteDocuments : Bool)
  | info
  | add (id : String) (document : List (String × Json))
  | search (input : SearchInput) (o : Overrides)
  | aggregate (p : Pipeline)
  | cursorRead (id : Nat) (maxIdle count : Option Nat)
  | cursorDelete (id : Nat)
  | hybrid (q : HybridQuery)
  | explain (q : Query)
  | profile (target : ProfileTarget) (limited : Bool)
  | spelling (query : String) (o : SpellingOptions)
  | updateSynonyms (group : String) (words : List Token) (skipInitialScan : Bool)
  | synonyms
  | tagValues (field : String)
  | setOption (name : String) (value : Token)
  | getOption (name : String)
  | addAlias (name : String)
  | updateAlias (name : String)
  | deleteAlias (name : String)
  | addTerms (dictionary : String) (words : List Token)
  | deleteTerms (dictionary : String) (words : List Token)
  | listTerms (dictionary : String)

/-- What a call gives back. -/
inductive Answer where
  | done
  | attributes (table : Bindings Reply)
  | results (r : SearchResults)
  | page (p : Page)
  | raw (r : Reply)
  | text (s : String)
  | suggestions (table : Bindings (List Suggestion))
  | synonyms (table : Bindings (List String))
  | strings (list : List String)
  | options (table : Bindings String)
  | count (n : Int)

namespace Call

/-- The command of a call on an index. Only `add`, `search`, `explain` and `profile` can be
refused. -/
def command (x : Index) : Call → Except Fault Command
  | .create => .ok x.createCommand
  | .alter f skip => .ok (x.alterCommand f skip)
  | .drop deleteDocuments => .ok (x.dropCommand deleteDocuments)
  | .info => .ok (x.on "FT.INFO" [])
  | .add id document => x.addCommand id document
  | .search input o => (x.searchCommand input o).mapError .query
  | .aggregate p => .ok (x.aggregateCommand p)
  | .cursorRead id maxIdle count => .ok (Cursor.readCommand x.name id maxIdle count)
  | .cursorDelete id => .ok (Cursor.deleteCommand x.name id)
  | .hybrid q => .ok (x.hybridCommand q)
  | .explain q => (x.explainCommand q).mapError .query
  | .profile target limited => (x.profileCommand target limited).mapError .query
  | .spelling query o => .ok (x.spellingCommand query o)
  | .updateSynonyms group words skip => .ok (x.synonymCommand group words skip)
  | .synonyms => .ok (x.on "FT.SYNDUMP" [])
  | .tagValues field => .ok (x.on "FT.TAGVALS" [field])
  | .setOption name value => .ok ["FT.CONFIG", "SET", name, value]
  | .getOption name => .ok ["FT.CONFIG", "GET", name]
  | .addAlias name => .ok ["FT.ALIASADD", name, x.name]
  | .updateAlias name => .ok ["FT.ALIASUPDATE", name, x.name]
  | .deleteAlias name => .ok ["FT.ALIASDEL", name]
  | .addTerms dictionary words => .ok ("FT.DICTADD" :: dictionary :: words)
  | .deleteTerms dictionary words => .ok ("FT.DICTDEL" :: dictionary :: words)
  | .listTerms dictionary => .ok ["FT.DICTDUMP", dictionary]

/-- An answer that says only that the server agreed. -/
def agreed (command : String) (r : Reply) : Except Fault Answer :=
  (r.expectOk command).map fun _ => .done

/-- The plan of a query: a text, or lines of text. -/
def plan (r : Reply) : Except Fault String :=
  match r.text? with
  | some s => .ok s
  | none => (r.strings "FT.EXPLAIN").map fun lines => String.intercalate "\n" lines

/-- The results of a search, with ids in place of keys if the settings say so. -/
def results (x : Index) (input : SearchInput) (o : Overrides) (r : Reply) :
    Except Fault SearchResults := do
  let found ← r.documents (x.searchQuery input o).layout
  match x.settings.dropLead, x.keyLead with
  | true, some lead => return found.dropLead lead
  | _, _ => return found

/-- The reading of the reply to a call. -/
def read (x : Index) (r : Reply) : Call → Except Fault Answer
  | .create => agreed "FT.CREATE" r
  | .alter .. => agreed "FT.ALTER" r
  | .drop _ => agreed "FT.DROPINDEX" r
  | .info => r.attributes.map .attributes
  | .add .. => .ok .done
  | .search input o => (results x input o r).map .results
  | .aggregate _ | .cursorRead .. => r.page.map .page
  | .cursorDelete _ => agreed "FT.CURSOR DEL" r
  | .hybrid _ | .profile .. => .ok (.raw r)
  | .explain _ => (plan r).map .text
  | .spelling _ o => if o.parsed then r.spelling.map .suggestions else .ok (.raw r)
  | .updateSynonyms .. => agreed "FT.SYNUPDATE" r
  | .synonyms => r.synonyms.map .synonyms
  | .tagValues _ => (r.strings "FT.TAGVALS").map .strings
  | .setOption .. => agreed "FT.CONFIG SET" r
  | .getOption _ => r.options.map .options
  | .addAlias _ => agreed "FT.ALIASADD" r
  | .updateAlias _ => agreed "FT.ALIASUPDATE" r
  | .deleteAlias _ => agreed "FT.ALIASDEL" r
  | .addTerms .. => (r.integer "FT.DICTADD").map .count
  | .deleteTerms .. => (r.integer "FT.DICTDEL").map .count
  | .listTerms _ => (r.strings "FT.DICTDUMP").map .strings

end Call

end SearchWire
