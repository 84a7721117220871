import SearchWire.Command

/-!
# Definitions of indexes

What an index covers and how it is kept: the parts of its creation before the schema.

* `Storage`;
* `IndexDefinition`, `IndexDefinition.tokens`: which documents the index covers;
* `CreateOptions`, `CreateOptions.tokens`: how the index is kept.
-/

namespace SearchWire

/-- How documents are stored. -/
inductive Storage where
  | hash
  | json
deriving DecidableEq, Repr

def Storage.keyword : Storage → String
  | .hash => "HASH"
  | .json => "JSON"

/-- Which documents an index covers, and the defaults for them. -/
structure IndexDefinition where
  /-- The beginnings of the keys that are covered. -/
  leads : List String := []
  filter : Option String := none
  languageField : Option String := none
  language : Option String := none
  scoreField : Option String := none
  score : Option Binary64 := none
  payloadField : Option String := none
deriving DecidableEq, Repr

namespace IndexDefinition

/-- Cover the keys with one more beginning. -/
def addLead (d : IndexDefinition) (lead : String) : IndexDefinition :=
  { d with leads := d.leads ++ [lead] }

/-- The beginnings of the keys in effect: those of the definition, or else that of the index. -/
def leadsWith (d : IndexDefinition) (keyLead : Option String) : List String :=
  if d.leads.isEmpty then keyLead.toList else d.leads

def tokens (d : IndexDefinition) (storage : Storage) (keyLead : Option String) : Command :=
  "ON" :: storage.keyword ::
    (Command.listing "PREFIX" (Command.words (d.leadsWith keyLead)) ++
      Command.text "FILTER" d.filter ++
      Command.text "LANGUAGE_FIELD" d.languageField ++
      Command.text "LANGUAGE" d.language ++
      Command.text "SCORE_FIELD" d.scoreField ++
      Command.real "SCORE" d.score ++
      Command.text "PAYLOAD_FIELD" d.payloadField)

end IndexDefinition

/-- How an index is kept. -/
structure CreateOptions where
  maxTextFields : Bool := false
  /-- The seconds after which an unused index is dropped. -/
  temporary : Option Nat := none
  noOffsets : Bool := false
  noHighlight : Bool := false
  noFields : Bool := false
  noFreqs : Bool := false
  skipInitialScan : Bool := false
  /-- The words that are not indexed; an empty list stands for none. -/
  stopwords : Option (List String) := none
deriving DecidableEq, Repr

/-- A list of stopwords. -/
def stopwordTokens (words : List String) : Command :=
  "STOPWORDS" :: Command.counted (Command.words words)

def CreateOptions.tokens (o : CreateOptions) : Command :=
  Command.flag "MAXTEXTFIELDS" o.maxTextFields ++
  Command.number "TEMPORARY" o.temporary ++
  Command.flag "NOOFFSETS" o.noOffsets ++
  Command.flag "NOHL" o.noHighlight ++
  Command.flag "NOFIELDS" o.noFields ++
  Command.flag "NOFREQS" o.noFreqs ++
  Command.flag "SKIPINITIALSCAN" o.skipInitialScan ++
  Command.part stopwordTokens o.stopwords

end SearchWire
