import SearchWire.Index.Basic
import SearchWire.Proofs.Command.Codec

/-!
# Creations are read back

The command that creates an index says which documents the index covers and how it is kept, and
ends with the schema. Before the schema nearly everything is optional, and a text may be any word
of the command; still the command is read from left to right without a doubt.

* `Coverage`, `Index.coverage`: which documents an index covers, with the leads in effect; the score
  stands as the text it is written in;
* `Coverage.clause`, `CreateOptions.block`: the two parts before the schema, block by block;
* `Index.readCreation?`, **`Index.createCommand_eq_iff`**.
-/

namespace SearchWire

open Command

/-! ## What an index covers -/

namespace Storage

/-- The words of the storages. -/
def keywords : Keywords Storage := ⟨keyword, [hash, json], fun a => by cases a <;> decide⟩

end Storage

/-- Which documents an index covers, and the defaults for them, as its creation says. -/
structure Coverage where
  storage : Storage
  leads : List String
  filter : Option String
  languageField : Option String
  language : Option String
  scoreField : Option String
  score : Option String
  payloadField : Option String

/-- What a definition covers in an index with this storage and this lead of its keys. -/
def IndexDefinition.coverage (d : IndexDefinition) (storage : Storage) (keyLead : Option String) :
    Coverage where
  storage := storage
  leads := d.leadsWith keyLead
  filter := d.filter
  languageField := d.languageField
  language := d.language
  scoreField := d.scoreField
  score := d.score.map Token.realText
  payloadField := d.payloadField

/-- The storage and the blocks after it. -/
def Coverage.clause : Clause Coverage :=
  ((Clause.word "ON" Storage.keywords.item.toCodec).andThen <|
    (Block.words "PREFIX").andThen <|
    (Block.text "FILTER").andThen <|
    (Block.text "LANGUAGE_FIELD").andThen <|
    (Block.text "LANGUAGE").andThen <|
    (Block.text "SCORE_FIELD").andThen <|
    (Block.text "SCORE").andThen (Block.text "PAYLOAD_FIELD")).convert
    (fun c => (c.storage, c.leads, c.filter, c.languageField, c.language, c.scoreField, c.score,
      c.payloadField))
    (fun (storage, leads, filter, languageField, language, scoreField, score, payloadField) =>
      some ⟨storage, leads, filter, languageField, language, scoreField, score, payloadField⟩)
    fun _ => rfl

theorem Command.real_eq_text (w : String) (x : Option Binary64) :
    Command.real w x = Command.text w (x.map Token.realText) := by
  cases x <;> rfl

theorem IndexDefinition.tokens_eq_clause (d : IndexDefinition) (storage : Storage)
    (keyLead : Option String) :
    d.tokens storage keyLead = Coverage.clause.tokens (d.coverage storage keyLead) := by
  unfold tokens
  rw [real_eq_text]
  simp only [List.append_assoc]
  rfl

/-! ## How an index is kept -/

/-- The blocks of the options of a creation. -/
def CreateOptions.block : Block CreateOptions :=
  ((Block.flag "MAXTEXTFIELDS").andThen <|
    (Block.number "TEMPORARY").andThen <|
    (Block.flag "NOOFFSETS").andThen <|
    (Block.flag "NOHL").andThen <|
    (Block.flag "NOFIELDS").andThen <|
    (Block.flag "NOFREQS").andThen <|
    (Block.flag "SKIPINITIALSCAN").andThen
      (Clause.word "STOPWORDS" Item.words.toCodec).optional).convert
    (fun o => (o.maxTextFields, o.temporary, o.noOffsets, o.noHighlight, o.noFields, o.noFreqs,
      o.skipInitialScan, o.stopwords))
    (fun (maxTextFields, temporary, noOffsets, noHighlight, noFields, noFreqs, skipInitialScan,
      stopwords) =>
      some ⟨maxTextFields, temporary, noOffsets, noHighlight, noFields, noFreqs, skipInitialScan,
        stopwords⟩)
    fun _ => rfl

theorem CreateOptions.tokens_eq_block (o : CreateOptions) : o.tokens = block.tokens o := by
  unfold tokens
  simp only [block, Block.convert_tokens, Block.andThen_tokens, List.append_assoc]
  rfl

/-! ## A whole creation -/

namespace Index

/-- Which documents an index covers. -/
def coverage (x : Index) : Coverage := x.definition.coverage x.storage x.keyLead

/-- The name of an index, what it covers and how it is kept. -/
def creationCodec : Codec (String × Coverage × CreateOptions) :=
  (Clause.word "FT.CREATE"
    (Item.text.pair (Coverage.clause.andThen CreateOptions.block).toCodec)).toCodec

/-- What stands before the schema of a creation, and the tokens from the schema on. -/
def readCreation? (c : Command) : Option ((String × Coverage × CreateOptions) × Command) :=
  creationCodec.read c

variable (x y : Index)

theorem createCommand_eq_append : x.createCommand =
    creationCodec.tokens (x.name, x.coverage, x.createOptions) ++ x.schema.tokens := by
  unfold createCommand
  rw [IndexDefinition.tokens_eq_clause, CreateOptions.tokens_eq_block]
  rfl

theorem not_beginsWith_schema_tokens (s : Schema) :
    ¬ BeginsWith creationCodec.stops s.tokens :=
  (beginsWith_cons (List.mem_singleton_self "SCHEMA") _).disjoint (by decide)

theorem readCreation?_createCommand :
    readCreation? x.createCommand = some ((x.name, x.coverage, x.createOptions), x.schema.tokens) := by
  rw [readCreation?, createCommand_eq_append]
  exact creationCodec.read_append _ _ (not_beginsWith_schema_tokens x.schema)

/-- An empty list of stopwords is told from none, and a filter may be a word of the command. -/
example : (readCreation? (createCommand
      { name := "bikes", lead := some "bike", definition := { filter := some "STOPWORDS" },
        createOptions := { stopwords := some [] } })).map (fun p => (p.1.2.1.filter, p.1.2.2)) =
    some (some "STOPWORDS", { stopwords := some [] }) := by
  rfl

end Index

end SearchWire
