import SearchWire.Proofs.Index.Limits
import SearchWire.Proofs.Query.Building

/-!
# One query in many commands

A query that is searched for, profiled or explained is the same query: the commands have the same
text, the same options and the same dialect, or they are refused with the same fault.

* `Index.dialectOf`: the dialect that a query is sent with;
* `Index.searchCommand_eq_map`, `Index.profileCommand_eq_map`, `Index.explainCommand_eq_map`: the
  commands, from the text of the query;
* `Index.SameQuery`, `Index.sameQuery`: one query in all commands;
* `Index.QueriesAgree`, **`Index.queriesAgree`**.
-/

namespace SearchWire

theorem Query.optionTokens_of_dialect {q : Query} {dialect : Nat} (h : q.dialect = some dialect) :
    q.optionTokens = q.settingTokens ++ (["DIALECT", .ofNat dialect] : Command) := by
  unfold optionTokens
  rw [h]
  rfl

namespace Index

variable (x : Index)

/-- The dialect that a query is sent with: the one that the overrides give, else its own, else the
one of the settings. -/
def dialectOf (o : Overrides) (q : Query) : Nat := (o.dialect.or q.dialect).getD x.settings.dialect

/-- The end of the arguments of a query: the dialect that it is sent with. -/
def dialectTokens (o : Overrides) (q : Query) : Command := ["DIALECT", .ofNat (x.dialectOf o q)]

/-! ## Commands from the text of a query -/

theorem searchCommand_eq_map (input : SearchInput) (o : Overrides) :
    x.searchCommand input o = input.toQuery.text.map fun s : String => x.on "FT.SEARCH"
      ((s : Token) :: ((x.searchQuery input o).settingTokens ++
        x.dialectTokens o input.toQuery)) := by
  have hdialect : (x.searchQuery input o).dialect = some (x.dialectOf o input.toQuery) := by
    rw [searchQuery, prepare, Overrides.apply, dialectOf]
    cases o.dialect <;> rfl
  rw [searchCommand, Query.compile_eq_map, Query.optionTokens_of_dialect hdialect, text_searchQuery]
  cases input.toQuery.text <;> rfl

theorem profileCommand_eq_map (q : Query) (limited : Bool) :
    x.profileCommand (.search q) limited = q.text.map fun s : String => x.on "FT.PROFILE"
      ("SEARCH" :: (Command.flag "LIMITED" limited ++ ("QUERY" : Token) ::
        (s : Token) :: ((x.prepare q).settingTokens ++ x.dialectTokens {} q))) := by
  have hdialect : (x.prepare q).dialect = some (x.dialectOf {} q) := rfl
  rw [profileCommand, profileBody, Query.compile_eq_map, Query.optionTokens_of_dialect hdialect,
    text_prepare]
  cases q.text <;> rfl

theorem explainCommand_eq_map (q : Query) :
    x.explainCommand q = q.text.map fun s : String =>
      x.on "FT.EXPLAIN" ((s : Token) :: x.dialectTokens {} q) := by
  rw [explainCommand]
  cases q.text <;> rfl

/-! ## One query in all commands -/

/-- A query in the commands that take it. -/
structure SameQuery (q : Query) : Prop where
  refused : ∀ fault, q.text = .error fault →
    x.searchCommand (.query q) {} = .error fault ∧
    (∀ limited, x.profileCommand (.search q) limited = .error fault) ∧
    x.explainCommand q = .error fault
  /-- A query with a text stands in all of them with this text and the same dialect, and in a
  search and its profile with the same options between the two. -/
  accepted : ∀ s, q.text = .ok s → ∃ options : Command,
    x.searchCommand (.query q) {} =
      .ok (x.on "FT.SEARCH" ((s : Token) :: (options ++ x.dialectTokens {} q))) ∧
    (∀ limited, x.profileCommand (.search q) limited =
      .ok (x.on "FT.PROFILE" ("SEARCH" :: (Command.flag "LIMITED" limited ++ ("QUERY" : Token) ::
        (s : Token) :: (options ++ x.dialectTokens {} q))))) ∧
    x.explainCommand q = .ok (x.on "FT.EXPLAIN" ((s : Token) :: x.dialectTokens {} q))

theorem sameQuery (q : Query) : x.SameQuery q where
  refused fault h := by
    rw [searchCommand_eq_map, explainCommand_eq_map]
    simp only [profileCommand_eq_map, SearchInput.toQuery, h]
    exact ⟨rfl, fun _ => rfl, rfl⟩
  accepted s h := by
    -- Without overrides a search is sent with the options of the query that is profiled.
    have hquery : x.searchQuery (.query q) {} = x.prepare q := rfl
    refine ⟨(x.prepare q).settingTokens, ?_, fun limited => ?_, ?_⟩
    · rw [searchCommand_eq_map, hquery, SearchInput.toQuery, h]
      rfl
    · rw [profileCommand_eq_map, h]
      rfl
    · rw [explainCommand_eq_map, h]
      rfl

/-- What the commands of an index make of queries and of aggregations. -/
structure QueriesAgree : Prop where
  same : ∀ q, x.SameQuery q
  /-- A search is refused for the text of its query only, and ends in its dialect: the one that
  the overrides give, else the one of the query, else the one of the settings. -/
  search : ∀ input o,
    (∀ fault, input.toQuery.text = .error fault → x.searchCommand input o = .error fault) ∧
    ∀ s, input.toQuery.text = .ok s → ∃ options : Command, x.searchCommand input o =
      .ok (x.on "FT.SEARCH" ((s : Token) :: (options ++ x.dialectTokens o input.toQuery)))
  aggregate : ∀ p limited, ∃ args, x.aggregateCommand p = x.on "FT.AGGREGATE" args ∧
    x.profileCommand (.aggregate p) limited = .ok (x.on "FT.PROFILE"
      ("AGGREGATE" :: (Command.flag "LIMITED" limited ++ ("QUERY" : Token) :: args)))

/-- **All commands that take a query take the same query.** -/
theorem queriesAgree : x.QueriesAgree where
  same := x.sameQuery
  search input o := by
    rw [searchCommand_eq_map]
    refine ⟨fun fault h => ?_, fun s h => ⟨(x.searchQuery input o).settingTokens, ?_⟩⟩
    · rw [h]
      rfl
    · rw [h]
      rfl
  aggregate p _ := ⟨p.compile, rfl, rfl⟩

/-- The overrides of a search have a dialect of their own, which an explanation does not see. -/
example :
    let x : Index := { name := "bikes", settings := { dialect := 3 } }
    x.searchCommand (.text "*") { dialect := some 4 } =
        .ok ["FT.SEARCH", "bikes", "*", "DIALECT", "4"] ∧
      x.explainCommand (.ofText "*") = .ok ["FT.EXPLAIN", "bikes", "*", "DIALECT", "3"] := by
  constructor <;> rfl

end Index

end SearchWire
