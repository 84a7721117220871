import SearchWire.Command
import SearchWire.Text.Lead
import SearchWire.Text.LetterCase

/-!
# Fields

One column of an index: its name, the name it goes under and the options of its kind. A kind has
only the options that the engine accepts for it.

* `FieldType`, `Phonetic`, `VectorAlgorithm`, `CoordSystem`;
* `FieldKind`, `Field`, `Field.answersTo`;
* `Field.tokens`: the field as it stands in a schema.
-/

namespace SearchWire

inductive FieldType where
  | text
  | tag
  | numeric
  | geo
  | geoshape
  | vector
deriving DecidableEq, Repr

def FieldType.keyword : FieldType → String
  | .text => "TEXT"
  | .tag => "TAG"
  | .numeric => "NUMERIC"
  | .geo => "GEO"
  | .geoshape => "GEOSHAPE"
  | .vector => "VECTOR"

/-- The names of the options of a type, besides the alias. A vector field has two that are known
only to be refused. -/
def FieldType.options : FieldType → List String
  | .text =>
    ["weight", "sortable", "no_index", "phonetic", "no_stem", "index_empty", "index_missing",
      "withsuffixtrie"]
  | .tag =>
    ["separator", "case_sensitive", "sortable", "no_index", "index_empty", "index_missing",
      "withsuffixtrie"]
  | .numeric | .geo => ["sortable", "no_index", "index_missing"]
  | .geoshape => ["coord_system"]
  | .vector => ["algorithm", "attributes", "index_missing", "sortable", "no_index"]

/-- Double Metaphone matchers, by language. -/
inductive Phonetic where
  | english
  | french
  | portuguese
  | spanish
deriving DecidableEq, Repr

namespace Phonetic

def code : Phonetic → String
  | english => "dm:en"
  | french => "dm:fr"
  | portuguese => "dm:pt"
  | spanish => "dm:es"

def all : List Phonetic := [english, french, portuguese, spanish]

def ofCode? (s : String) : Option Phonetic := all.find? fun m => m.code == s

end Phonetic

inductive VectorAlgorithm where
  | flat
  | hnsw
  | svsVamana
deriving DecidableEq, Repr

namespace VectorAlgorithm

def keyword : VectorAlgorithm → String
  | flat => "FLAT"
  | hnsw => "HNSW"
  | svsVamana => "SVS-VAMANA"

/-- The algorithm of a name, in letters of either case, with underscores or hyphens. -/
def ofName? (s : String) : Option VectorAlgorithm :=
  let name := String.ofList ((Text.upper s).toList.map fun c => if c = '_' then '-' else c)
  [flat, hnsw, svsVamana].find? fun a => a.keyword == name

end VectorAlgorithm

inductive CoordSystem where
  | flat
  | spherical
deriving DecidableEq, Repr

def CoordSystem.keyword : CoordSystem → String
  | .flat => "FLAT"
  | .spherical => "SPHERICAL"

structure TextOptions where
  weight : Option Binary64 := none
  phonetic : Option Phonetic := none
  noStem : Bool := false
  sortable : Bool := false
  noIndex : Bool := false
  indexEmpty : Bool := false
  indexMissing : Bool := false
  suffixTrie : Bool := false
deriving DecidableEq, Repr

structure TagOptions where
  separator : Option String := none
  caseSensitive : Bool := false
  sortable : Bool := false
  noIndex : Bool := false
  indexEmpty : Bool := false
  indexMissing : Bool := false
  suffixTrie : Bool := false
deriving DecidableEq, Repr

structure NumericOptions where
  sortable : Bool := false
  noIndex : Bool := false
  indexMissing : Bool := false
deriving DecidableEq, Repr

structure VectorOptions where
  algorithm : VectorAlgorithm
  /-- Names and values, in upper case. -/
  attributes : List (String × String) := []
  indexMissing : Bool := false
deriving DecidableEq, Repr

/-- Add an attribute; its name and value are put into upper case. -/
def VectorOptions.addAttribute (o : VectorOptions) (name value : String) : VectorOptions :=
  { o with attributes := o.attributes ++ [(Text.upper name, Text.upper value)] }

def VectorOptions.addAttributes (o : VectorOptions) (pairs : List (String × String)) :
    VectorOptions :=
  pairs.foldl (fun o p => o.addAttribute p.1 p.2) o

/-- What a field is, with its options. -/
inductive FieldKind where
  | text (o : TextOptions)
  | tag (o : TagOptions)
  | numeric (o : NumericOptions)
  | geo (o : NumericOptions)
  | geoshape (system : CoordSystem)
  | vector (o : VectorOptions)
deriving DecidableEq, Repr

/-- The flags that stand at the end of a field. -/
structure FieldFlags where
  noIndex : Bool := false
  indexMissing : Bool := false
  indexEmpty : Bool := false
  sortable : Bool := false
  suffixTrie : Bool := false
deriving DecidableEq, Repr

/-- The words of the flags, in their fixed order. -/
def FieldFlags.tokens (f : FieldFlags) : Command :=
  Command.flag "NOINDEX" f.noIndex ++ Command.flag "INDEXMISSING" f.indexMissing ++
    Command.flag "INDEXEMPTY" f.indexEmpty ++ Command.flag "SORTABLE" f.sortable ++
    Command.flag "WITHSUFFIXTRIE" f.suffixTrie

namespace FieldKind

def type : FieldKind → FieldType
  | .text _ => .text
  | .tag _ => .tag
  | .numeric _ => .numeric
  | .geo _ => .geo
  | .geoshape _ => .geoshape
  | .vector _ => .vector

def flags : FieldKind → FieldFlags
  | .text o => ⟨o.noIndex, o.indexMissing, o.indexEmpty, o.sortable, o.suffixTrie⟩
  | .tag o => ⟨o.noIndex, o.indexMissing, o.indexEmpty, o.sortable, o.suffixTrie⟩
  | .numeric o | .geo o =>
    { noIndex := o.noIndex, indexMissing := o.indexMissing, sortable := o.sortable }
  | .geoshape _ => {}
  | .vector o => { indexMissing := o.indexMissing }

/-- The tokens of the options that only this kind has. -/
def ownTokens : FieldKind → Command
  | .text o =>
    Command.flag "NOSTEM" o.noStem ++ Command.real "WEIGHT" o.weight ++
      Command.text "PHONETIC" (o.phonetic.map Phonetic.code)
  | .tag o => Command.text "SEPARATOR" o.separator ++ Command.flag "CASESENSITIVE" o.caseSensitive
  | .numeric _ | .geo _ => []
  | .geoshape system => [system.keyword]
  | .vector o => Command.table o.algorithm.keyword (o.attributes.map fun p => (p.1, p.2))

end FieldKind

/-- One column of an index. -/
structure Field where
  name : String
  asName : Option String := none
  kind : FieldKind
deriving DecidableEq, Repr

namespace Field

def type (f : Field) : FieldType := f.kind.type

/-- Whether a document key means this field: its name, the name it goes under, or its name without
the leading `$.` of a path. -/
def answersTo (f : Field) (key : String) : Bool :=
  f.name == key || f.asName == some key || Text.dropLead? "$." f.name == some key

def tokens (f : Field) : Command :=
  (f.name : Token) :: (Command.text "AS" f.asName ++
    ((f.type.keyword : Token) :: (f.kind.ownTokens ++ f.kind.flags.tokens)))

theorem tokens_eq (f : Field) : f.tokens = (f.name : Token) :: (Command.text "AS" f.asName ++
    ((f.type.keyword : Token) :: (f.kind.ownTokens ++ f.kind.flags.tokens))) := rfl

end Field

end SearchWire
