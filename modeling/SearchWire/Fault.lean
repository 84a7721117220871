import SearchWire.Field.Basic
import SearchWire.Json.Printer
import SearchWire.Reply.Description

/-!
# Faults

Everything that can go wrong, as causes. The wording is in `Fault.message`.

* `OptionFault`, `QueryFault`, `ReplyFault`: the causes of each family;
* `Fault`, `Fault.kind`, `Fault.message`.
-/

namespace SearchWire

/-- Why the options of a field are refused. -/
inductive OptionFault where
  | notObject (got : Json)
  /-- Options that the type of the field does not have. -/
  | unknown (type : FieldType) (names : List String)
  /-- An option of the wrong kind. -/
  | wrongKind (name : String) (wanted : Json.Kind) (got : Json)
  | phonetic (code : String)
  | coordSystem (name : String)
  | vectorSortable
  | vectorNoIndex
  | vectorWithoutAlgorithm
  | vectorAlgorithm (name : String)
  | attributesNotObject (got : Json)

/-- Why a query or a document gives no command. -/
inductive QueryFault where
  /-- A collection was to be closed and none was open. -/
  | nothingToClose
  /-- The query was built with a close too many. -/
  | unbalanced
  | leftOpen (depth : Nat)
  | emptyDocument (id : String)
deriving DecidableEq, Repr

/-- Why a reply is refused. -/
inductive ReplyFault where
  | notOk (got : Reply)
  | notString (got : Reply)
  | notArray (got : Reply)
  | notInteger (got : Reply)
  | oddLength (length : Nat)
  | badTotal (got : Reply)
  | badCursor (got : Reply)
  | badScore (got : Reply)
  | badTerm (length : Nat)
  | badSuggestion
  /-- The items after the total are no whole number of documents. -/
  | ragged (length stride : Nat)

/-- What went wrong. Only `transport` and `reply` can follow a command that was sent. -/
inductive Fault where
  | schema (field : String) (cause : OptionFault)
  /-- A document holds a value of this kind where a number is required. -/
  | notNumeric (field : String) (got : Json.Kind)
  | query (cause : QueryFault)
  | transport (message : String)
  /-- A reply to the named command has the wrong shape. -/
  | reply (command : String) (cause : ReplyFault)

inductive Fault.Kind where
  | schemaValidation
  | fieldTypeMismatch
  | queryBuilder
  | transport
  | unexpectedReply
deriving DecidableEq, Repr

def Fault.Kind.label : Fault.Kind → String
  | .schemaValidation => "schema_validation"
  | .fieldTypeMismatch => "field_type_mismatch"
  | .queryBuilder => "query_builder"
  | .transport => "transport"
  | .unexpectedReply => "unexpected_reply"

/-- The article and word for the kinds of values that options have. -/
def Json.Kind.phrase (k : Json.Kind) : String := "a " ++ k.word

def commaList (names : List String) : String := String.intercalate ", " names

/-- The wording of a refused option. -/
def OptionFault.message : OptionFault → String
  | .notObject got => "options must be an object, got " ++ got.print
  | .unknown type names =>
    "unknown " ++ Text.lower type.keyword ++ " field option(s): " ++ commaList names
  | .wrongKind name wanted got =>
    "option '" ++ name ++ "' must be " ++ wanted.phrase ++ ", got " ++ got.print
  | .phonetic code =>
    "invalid phonetic matcher '" ++ code ++ "', expected one of: " ++
      commaList (Phonetic.all.map Phonetic.code)
  | .coordSystem name => "invalid coord_system '" ++ name ++ "', expected FLAT or SPHERICAL"
  | .vectorSortable => "vector fields cannot be sortable"
  | .vectorNoIndex => "vector fields cannot have no_index"
  | .vectorWithoutAlgorithm => "vector fields require an algorithm"
  | .vectorAlgorithm name =>
    "invalid vector algorithm '" ++ name ++ "', expected FLAT, HNSW or SVS-VAMANA"
  | .attributesNotObject got => "attributes must be an object, got " ++ got.print

/-- What every fault of a query begins with. -/
def QueryFault.lead : String := "query builder error: "

/-- The wording of a query that gives no command. A query that was closed too often repeats the
whole message of the close that failed. -/
def QueryFault.message : QueryFault → String
  | .nothingToClose => "close() called with no open predicate collection"
  | .unbalanced => lead ++ "close() called with no open predicate collection"
  | .leftOpen depth => toString depth ++ " predicate collection(s) left open"
  | .emptyDocument id => "document '" ++ id ++ "' has no fields to write"

/-- The wording of a refused reply, after the name of the command. -/
def ReplyFault.message : ReplyFault → String
  | .notOk got => "expected OK, got " ++ got.describe
  | .notString got => "expected a string, got " ++ got.describe
  | .notArray got => "expected an array, got " ++ got.describe
  | .notInteger got => "expected an integer, got " ++ got.describe
  | .oddLength length => "odd number of elements (" ++ toString length ++ ")"
  | .badTotal got => "bad total " ++ got.describe
  | .badCursor got => "bad cursor id " ++ got.describe
  | .badScore got => "bad score " ++ got.describe
  | .badTerm length =>
    "expected [TERM, term, suggestions], got " ++ toString length ++ " elements"
  | .badSuggestion => "suggestion must be [score, term]"
  | .ragged length stride =>
    toString length ++ " elements do not divide into documents of " ++ toString stride

namespace Fault

def kind : Fault → Kind
  | .schema .. => .schemaValidation
  | .notNumeric .. => .fieldTypeMismatch
  | .query _ => .queryBuilder
  | .transport _ => .transport
  | .reply .. => .unexpectedReply

/-- The wording of a fault. -/
def message : Fault → String
  | .schema field cause => "invalid schema field '" ++ field ++ "': " ++ cause.message
  | .notNumeric field got =>
    "type mismatch for field '" ++ field ++ "': expected numeric, got " ++ got.word
  | .query cause => QueryFault.lead ++ cause.message
  | .transport message => "transport error: " ++ message
  | .reply command cause => "unexpected reply shape: " ++ command ++ ": " ++ cause.message

end Fault

end SearchWire
