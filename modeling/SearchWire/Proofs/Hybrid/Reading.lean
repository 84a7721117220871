import SearchWire.Hybrid.Query
import SearchWire.Proofs.Aggregate.Reading
import SearchWire.Proofs.Command.Around

/-!
# Hybrid queries are read back

A filter of vectors and a filter of results are written with the same word. Between them stand only
blocks that may all be missing, so the arguments of a hybrid query tell everything but the owner of
a filter, and that too as soon as one of these blocks is there.

* clauses of the parts: `TextClause.clause`, `VectorClause.head`, `Fusion.clause`;
* `HybridQuery.Content`, `HybridQuery.content`, **`HybridQuery.compile_determines_content`**;
* **`HybridQuery.compile_filtered_eq_iff`**: exactly when the owner of a filter is lost.
-/

namespace SearchWire

open Command

/-! ## Parts of a hybrid query -/

namespace TextClause

def clause : Clause TextClause :=
  (Clause.word "SEARCH" (Item.text.pair
    ((Block.text "SCORER").andThen (Block.text "YIELD_SCORE_AS")).toCodec)).convert
    (fun c => (c.query, c.scorer, c.scoreAlias))
    (fun (query, scorer, scoreAlias) => some ⟨query, scorer, scoreAlias⟩) fun _ => rfl

end TextClause

namespace VectorMethod

def keywords : Keywords VectorMethod := ⟨keyword, [knn, range], fun a => by cases a <;> decide⟩

end VectorMethod

namespace VectorClause

/-- The field of a search by similarity, its vector and its method. -/
def head : Clause (String × Token × Option (VectorMethod × List (String × Token))) :=
  .word "VSIM" (Item.text.pair (Item.token.pair
    (VectorMethod.keywords.clauseWith Item.entries.toCodec).optional.toCodec))

end VectorClause

namespace Fusion

/-- A fusion with its numbers as they are written. -/
inductive Texts where
  | reciprocalRank (window : Option Nat) (constant : Option String)
  | linear (alpha beta : Option String)

/-- The settings of a fusion as they are written. -/
def texts : Fusion → Texts
  | reciprocalRank window constant => .reciprocalRank window (constant.map Token.realText)
  | linear alpha beta => .linear (alpha.map Token.realText) (beta.map Token.realText)

/-- A fusion: the name of its method, and what was set after the number of its tokens. -/
def clause : Clause Texts :=
  (Clause.word "COMBINE" ((Clause.word "RRF"
    (Item.within ((Block.number "WINDOW").andThen (Block.text "CONSTANT")).toCodec)).either
    (Clause.word "LINEAR"
      (Item.within ((Block.text "ALPHA").andThen (Block.text "BETA")).toCodec))).toCodec).convert
    (fun
      | .reciprocalRank window constant => .inl (window, constant)
      | .linear alpha beta => .inr (alpha, beta))
    (fun
      | .inl (window, constant) => some (.reciprocalRank window constant)
      | .inr (alpha, beta) => some (.linear alpha beta))
    fun f => by cases f <;> rfl

theorem tokens_eq_clause (f : Fusion) : f.tokens = clause.tokens f.texts := by
  rw [tokens, table_eq_counted]
  rcases f with ⟨_ | window, _ | constant⟩ | ⟨_ | alpha, _ | beta⟩ <;> rfl

end Fusion

namespace Refinement

/-- Fields to sort by and their directions. -/
def sortBlock : Block (List (String × SortOrder)) :=
  (Block.listing "SORTBY").convert (fun keys => keys.flatMap orderTokens)
    (Item.text.both SortOrder.keywords.item).members
    ((Item.text.both SortOrder.keywords.item).members_flatMap fun _ => List.cons_ne_nil _ _)

theorem sortBlock_tokens_eq_nil_iff (keys : List (String × SortOrder)) :
    sortBlock.tokens keys = [] ↔ keys = [] := by
  cases keys with
  | nil => exact iff_of_true rfl rfl
  | cons k keys => exact iff_of_false (List.cons_ne_nil _ _) (List.cons_ne_nil k keys)

end Refinement

/-! ## A whole hybrid query -/

namespace HybridQuery

/-- What may stand between a filter of vectors and a filter of results. -/
structure Between where
  scoreAlias : Option String
  fusion : Option Fusion.Texts
  load : Option Load
  groupBy : Option (List String × List Reducer)
  apply : List (String × String)
  sortBy : List (String × SortOrder)

/-- The blocks between a filter of vectors and a filter of results. -/
def Between.block : Block Between :=
  ((Block.text "YIELD_SCORE_AS").andThen <|
    Fusion.clause.optional.andThen <|
    Load.clause.optional.andThen <|
    groupClause.optional.andThen <|
    applyClause.many.andThen Refinement.sortBlock).convert
    (fun b => (b.scoreAlias, b.fusion, b.load, b.groupBy, b.apply, b.sortBy))
    (fun (scoreAlias, fusion, load, groupBy, apply, sortBy) =>
      some ⟨scoreAlias, fusion, load, groupBy, apply, sortBy⟩)
    fun _ => rfl

theorem Between.tokens_eq_nil_iff (b : Between) : Between.block.tokens b = [] ↔
    b.scoreAlias = none ∧ b.fusion = none ∧ b.load = none ∧ b.groupBy = none ∧ b.apply = [] ∧
      b.sortBy = [] := by
  simp only [Between.block, Block.convert_tokens, Block.andThen_tokens, List.append_eq_nil_iff,
    Block.text, Clause.optional_tokens_eq_nil_iff, Clause.many_tokens_eq_nil_iff,
    Refinement.sortBlock_tokens_eq_nil_iff]

/-- What stands after a filter of results. -/
structure Ending where
  limit : Option (Nat × Nat)
  params : Bindings Token
  timeout : Option Nat
  cursor : Option CursorOptions

def Ending.block : Block Ending :=
  (limitClause.optional.andThen <|
    Block.params.andThen <|
    (Block.number "TIMEOUT").andThen CursorOptions.clause.optional).convert
    (fun e => (e.limit, e.params, e.timeout, e.cursor))
    (fun (limit, params, timeout, cursor) => some ⟨limit, params, timeout, cursor⟩) fun _ => rfl

/-- The name of an index, the two halves of a query, the filters around the blocks between them,
and the ending. -/
def codec : Codec (String × TextClause ×
    (String × Token × Option (VectorMethod × List (String × Token))) ×
    Around String Between.block × Ending) :=
  Item.text.pair (TextClause.clause.andThen
    (VectorClause.head.andThen
      ((Around.block filterClause Between.block).andThen Ending.block)).toBlock).toCodec

variable (q : HybridQuery)

/-- What happens to the results; no refinement is one without steps. -/
def steps : Refinement := q.refinement.getD {}

/-- What stands between the two filters. -/
def between : Between where
  scoreAlias := q.vector.scoreAlias
  fusion := q.fusion.map Fusion.texts
  load := q.steps.load
  groupBy := q.steps.groupBy
  apply := q.steps.apply
  sortBy := q.steps.sortBy

/-- What stands after the two filters. -/
def ending : Ending where
  limit := q.steps.limit
  params := q.params
  timeout := q.timeout
  cursor := q.cursor

/-- The filters where a reader finds them. -/
def filters : Around String Between.block :=
  .place Between.block q.vector.filter.toList q.between q.steps.filter.toList

theorem part_refinement_tokens : part Refinement.tokens q.refinement = q.steps.tokens := by
  unfold steps
  cases q.refinement <;> rfl

theorem part_fusion_tokens (f : Option Fusion) :
    part Fusion.tokens f = Fusion.clause.optional.tokens (f.map Fusion.texts) := by
  cases f with
  | none => rfl
  | some f => exact f.tokens_eq_clause

theorem part_methodTokens (m : Option (VectorMethod × List (String × Token))) :
    part VectorClause.methodTokens m =
      (VectorMethod.keywords.clauseWith Item.entries.toCodec).optional.tokens m := by
  cases m with
  | none => rfl
  | some m => exact (VectorMethod.keywords.clauseWith_entries_tokens m.1 m.2).symm

theorem part_load_tokens (l : Option Load) :
    part Load.tokens l = Load.clause.optional.tokens l := by
  rw [Load.tokens_eq_clause]
  rfl

theorem text_filter_eq_flatMap (o : Option String) :
    Command.text "FILTER" o = o.toList.flatMap filterClause.tokens := by
  cases o <;> rfl

/-- **The tokens of a hybrid query stand block by block.** -/
theorem compile_eq_tokens (index : String) : q.compile index =
    codec.tokens (index, q.text, (q.vector.field, q.vector.vector, q.vector.method), q.filters,
      q.ending) := by
  have hfilters : (Around.block filterClause Between.block).tokens q.filters =
      Command.text "FILTER" q.vector.filter ++
        (Between.block.tokens q.between ++ Command.text "FILTER" q.steps.filter) := by
    rw [text_filter_eq_flatMap, text_filter_eq_flatMap]
    exact Around.tokens_place _ _ _ _ _
  have hcodec : codec.tokens (index, q.text, (q.vector.field, q.vector.vector, q.vector.method),
      q.filters, q.ending) = (index : Token) :: (q.text.tokens ++
        (VectorClause.head.tokens (q.vector.field, q.vector.vector, q.vector.method) ++
          ((Around.block filterClause Between.block).tokens q.filters ++
            Ending.block.tokens q.ending))) := rfl
  rw [hcodec, hfilters]
  unfold compile VectorClause.tokens
  rw [part_refinement_tokens, part_fusion_tokens, part_methodTokens, params_eq_tokens]
  unfold Refinement.tokens
  rw [part_load_tokens, Refinement.sortTokens_eq_listing]
  simp only [Between.block, Ending.block, Block.convert_tokens, Block.andThen_tokens,
    List.append_assoc, List.cons_append]
  rfl

/-! ## What is read back -/

/-- What the arguments of a hybrid query tell. -/
structure Content where
  text : TextClause
  field : String
  vector : Token
  method : Option (VectorMethod × List (String × Token))
  between : Between
  /-- The filters of vectors and results as they follow one another. -/
  filters : List String
  ending : Ending

/-- What the arguments of a hybrid query tell: all but the owners of its filters. -/
def content : Content where
  text := q.text
  field := q.vector.field
  vector := q.vector.vector
  method := q.vector.method
  between := q.between
  filters := q.vector.filter.toList ++ q.steps.filter.toList
  ending := q.ending

/-- The name of the index and what else the arguments of a hybrid query tell. -/
def read? (c : Command) : Option (String × Content) :=
  (codec.readAll c).map fun (index, text, (field, vector, method), filters, ending) =>
    (index, ⟨text, field, vector, method, filters.middle, filters.clauses, ending⟩)

theorem read?_compile (index : String) :
    read? (q.compile index) = some (index, q.content) := by
  rw [read?, compile_eq_tokens, Codec.readAll_tokens, Option.map_some]
  simp only [filters, Around.middle_place, Around.clauses_place]
  rfl

/-- **The arguments of a hybrid query determine it but for the owners of its filters.** -/
theorem compile_determines_content (q q' : HybridQuery) (index index' : String)
    (h : q.compile index = q'.compile index') : index = index' ∧ q.content = q'.content := by
  have hr := congrArg read? h
  rw [read?_compile, read?_compile] at hr
  exact Prod.mk.inj (Option.some.inj hr)

def filterVectors (expression : String) : HybridQuery :=
  { q with vector := { q.vector with filter := some expression } }

def filterResults (expression : String) : HybridQuery :=
  { q with refinement := some { q.steps with filter := some expression } }

/-- A search for bikes near a vector, with nothing optional. -/
def nearBikes : HybridQuery where
  text := { query := "@title:bike" }
  vector := { field := "@embedding", vector := "$vec" }

/-- Queries that differ in the owner of a filter can have the same arguments. -/
theorem content_filterVectors_nearBikes :
    (nearBikes.filterVectors "@price > 10").compile "bikes" =
        (nearBikes.filterResults "@price > 10").compile "bikes" ∧
      (nearBikes.filterVectors "@price > 10").content =
        (nearBikes.filterResults "@price > 10").content :=
  ⟨rfl, (compile_determines_content _ _ "bikes" "bikes" rfl).2⟩

/-! ## The owner of a filter -/

theorem filters_filterVectors (hr : q.steps.filter = none) (e : String) :
    (q.filterVectors e).filters = .place Between.block [e] q.between [] := by
  have hs : (q.filterVectors e).steps.filter.toList = [] := congrArg Option.toList hr
  unfold filters
  rw [hs]
  rfl

theorem filters_filterResults (hv : q.vector.filter = none) (e : String) :
    (q.filterResults e).filters = .place Between.block [] q.between [e] := by
  have hs : (q.filterResults e).vector.filter.toList = [] := congrArg Option.toList hv
  unfold filters
  rw [hs]
  rfl

/-- **When the owner of a filter is lost.** A query filtered before the search by similarity and one
filtered after it have the same arguments just if the expressions are the same and there is no name
for the vector score, no fusion, and no load, group, expression or sorting before the filter. -/
theorem compile_filtered_eq_iff (q : HybridQuery) (hv : q.vector.filter = none)
    (hr : q.steps.filter = none) (index index' e e' : String) :
    (q.filterVectors e).compile index = (q.filterResults e').compile index' ↔
      index = index' ∧ e = e' ∧ q.vector.scoreAlias = none ∧ q.fusion = none ∧
        q.steps.load = none ∧ q.steps.groupBy = none ∧ q.steps.apply = [] ∧
          q.steps.sortBy = [] := by
  have hfusion : q.fusion.map Fusion.texts = none ↔ q.fusion = none := Option.map_eq_none_iff
  rw [compile_eq_tokens, compile_eq_tokens, codec.tokens_inj,
    filters_filterVectors q hr, filters_filterResults q hv, ← hfusion]
  -- All parts but the placed filters agree from the start.
  constructor
  · intro h
    obtain ⟨hi, h⟩ := Prod.mk.inj h
    have hplace := congrArg (fun p => p.2.2.1) h
    obtain ⟨he, hm⟩ := (Around.place_left_eq_place_right_iff Between.block q.between e e').mp hplace
    exact ⟨hi, he, (Between.tokens_eq_nil_iff q.between).mp hm⟩
  · rintro ⟨rfl, he, hm⟩
    have hplace := (Around.place_left_eq_place_right_iff Between.block q.between e e').mpr
      ⟨he, (Between.tokens_eq_nil_iff q.between).mpr hm⟩
    rw [hplace]
    rfl

/-- A search for bikes near a vector that names the vector score. -/
def scoredBikes : HybridQuery where
  text := { query := "@title:bike" }
  vector := { field := "@embedding", vector := "$vec", scoreAlias := some "score" }

/-- A name for the vector score tells the owner of a filter. -/
theorem compile_filterVectors_ne_scoredBikes :
    scoredBikes.vector.filter = none ∧ scoredBikes.steps.filter = none ∧
      (scoredBikes.filterVectors "@price > 10").compile "bikes" ≠
        (scoredBikes.filterResults "@price > 10").compile "bikes" := by
  refine ⟨rfl, rfl, fun h => ?_⟩
  have hall := (compile_filtered_eq_iff scoredBikes rfl rfl "bikes" "bikes" _ _).mp h
  exact Option.some_ne_none "score" hall.2.2.1

/-- The owner of a filter is lost when nothing stands between the filters. -/
theorem not_compile_filterVectors_ne : ¬ ∀ (q : HybridQuery) (index e e' : String),
    q.vector.filter = none → q.steps.filter = none →
      (q.filterVectors e).compile index ≠ (q.filterResults e').compile index := by
  intro h
  exact h nearBikes "bikes" "@price > 10" "@price > 10" rfl rfl rfl

end HybridQuery

end SearchWire
