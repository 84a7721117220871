import SearchWire.Proofs.Index.Keys
import SearchWire.Proofs.Index.Writing
import SearchWire.Proofs.Query.Overriding
import SearchWire.Proofs.Query.Reading

/-!
# Limits to keys

A search may be limited to some documents. Their ids become keys on the way out, as the ids of new
documents do, and the keys of a reply become ids on the way in, so that ids may be fed back.

* `Query.LimitsTo`: the arguments of a search limit it to some keys;
* `Index.searchCommand_limits`, `Index.profileCommand_limits`: commands with keys;
* `Index.addCommand_key`, `Index.createCommand_lead`: keys that are written, and keys that the index
  covers;
* `Index.KeysAgree`, **`Index.keysAgree`**: all of these use the same lead, once.
-/

namespace SearchWire

theorem Text.octets_append (s t : String) : octets (s ++ t) = octets s ++ octets t := by
  simp [octets]

/-! ## Arguments with keys -/

namespace Query

/-- The options of a search that stand before its keys. -/
def tokensBeforeKeys (q : Query) : Command :=
  Command.flag "NOCONTENT" q.noContent ++
  Command.flag "VERBATIM" q.verbatim ++
  Command.flag "NOSTOPWORDS" q.noStopwords ++
  Command.flag "WITHPAYLOADS" q.withPayloads ++
  Command.text "SCORER" q.scorer ++
  Command.flag "WITHSCORES" q.withScores ++
  Command.listing "INFIELDS" (Command.words q.inFields)

/-- The options of a search that stand after its keys. -/
def tokensAfterKeys (q : Query) : Command :=
  q.filters.flatMap NumericFilter.tokens ++
  q.geoFilters.flatMap GeoFilter.tokens ++
  Command.listing "RETURN" (q.returned.flatMap returnTokens) ++
  Command.part Summary.tokens q.summary ++
  Command.part Highlight.tokens q.highlight ++
  Command.number "SLOP" q.slop ++
  Command.number "TIMEOUT" q.timeout ++
  Command.text "LANGUAGE" q.language ++
  Command.text "EXPANDER" q.expander ++
  Command.flag "INORDER" q.inOrder ++
  Command.part sortTokens q.sortBy ++
  Command.part limitTokens q.limit ++
  Command.params q.params ++
  Command.number "DIALECT" (some (q.dialect.getD defaultDialect))

theorem optionTokens_eq_append (q : Query) : q.optionTokens =
    q.tokensBeforeKeys ++ (Command.listing "INKEYS" (Command.words q.inKeys) ++
      q.tokensAfterKeys) := by
  unfold optionTokens settingTokens tokensBeforeKeys tokensAfterKeys
  simp only [List.append_assoc]

/-- The keys that a search is limited to, after their number; no keys set no limit. -/
def keyTokens : List String → Command
  | [] => []
  | keys => ("INKEYS" : Token) :: .ofNat keys.length :: Command.words keys

theorem listing_words_eq_keyTokens (keys : List String) :
    Command.listing "INKEYS" (Command.words keys) = keyTokens keys := by
  cases keys with
  | nil => rfl
  | cons key keys => simp [Command.listing, Command.words, Command.counted, keyTokens]

/-- The arguments of a search limit it to some keys. -/
structure LimitsTo (q : Query) (keys : List String) (args : Command) : Prop where
  tokens : ∃ text, q.text = .ok text ∧
    args = (text : Token) :: (q.tokensBeforeKeys ++ (keyTokens keys ++ q.tokensAfterKeys))
  read : ∃ text o, read? args = some (text, o) ∧ o.inKeys = keys

theorem limitsTo_inKeys {q : Query} {args : Command} (h : q.compile = .ok args) :
    q.LimitsTo q.inKeys args := by
  obtain ⟨text, htext, rfl⟩ := (compile_eq_ok_iff q args).mp h
  refine ⟨⟨text, htext, ?_⟩, text, q.options, Command.Codec.readAll_tokens _ _, rfl⟩
  rw [← listing_words_eq_keyTokens, ← optionTokens_eq_append, optionTokens_eq_tokens]
  rfl

theorem exists_compile_of_text_eq {q q' : Query} {args : Command} (hq : q'.text = q.text)
    (h : q.compile = .ok args) : ∃ args', q'.compile = .ok args' := by
  rw [exists_compile_iff_text, hq, ← exists_compile_iff_text]
  exact ⟨args, h⟩

end Query

/-! ## Commands with keys -/

namespace Index

variable {x : Index}

theorem text_prepare (x : Index) (q : Query) : (x.prepare q).text = q.text := by
  unfold Query.text prepare
  rfl

theorem text_searchQuery (x : Index) (input : SearchInput) (o : Overrides) :
    (x.searchQuery input o).text = input.toQuery.text :=
  (x.text_prepare _).trans (o.text_apply _)

theorem searchCommand_limits {input : SearchInput} {args : Command}
    (h : input.toQuery.compile = .ok args) (o : Overrides) :
    ∃ args', x.searchCommand input o = .ok (x.on "FT.SEARCH" args') ∧
      (x.searchQuery input o).LimitsTo ((o.ids.getD input.toQuery.inKeys).map x.keyOf) args' := by
  obtain ⟨args', hargs⟩ := Query.exists_compile_of_text_eq (x.text_searchQuery input o) h
  exact ⟨args', searchCommand_eq_ok_iff.mpr ⟨args', hargs, rfl⟩, Query.limitsTo_inKeys hargs⟩

theorem profileCommand_limits {q : Query} {args : Command} (h : q.compile = .ok args)
    (limited : Bool) :
    ∃ args', x.profileCommand (.search q) limited = .ok (x.on "FT.PROFILE"
        ("SEARCH" :: (Command.flag "LIMITED" limited ++ ("QUERY" : Token) :: args'))) ∧
      (x.prepare q).LimitsTo (q.inKeys.map x.keyOf) args' := by
  obtain ⟨args', hargs⟩ := Query.exists_compile_of_text_eq (x.text_prepare q) h
  refine ⟨args', ?_, Query.limitsTo_inKeys hargs⟩
  rw [profileCommand, profileBody, hargs]
  rfl

theorem addCommand_key {id : String} {document : List (String × Json)} {c : Command}
    (h : x.addCommand id document = .ok c) :
    ∃ word rest, c = word :: (x.keyOf id : Token) :: rest := by
  have hcheck := checkDocument_of_addCommand h
  cases hs : x.storage with
  | json =>
    rw [addCommand_of_json hs hcheck] at h
    cases h
    exact ⟨_, _, rfl⟩
  | hash =>
    rw [addCommand_of_hash hs hcheck] at h
    split at h <;> cases h
    exact ⟨_, _, rfl⟩

theorem createCommand_lead {lead : String} (hx : x.keyLead = some lead)
    (hd : x.definition.leads = []) : ∃ rest, x.createCommand =
      x.on "FT.CREATE" ("ON" :: x.storage.keyword :: "PREFIX" :: .ofNat 1 :: lead :: rest) := by
  have hleads : x.definition.leadsWith x.keyLead = [lead] := by
    rw [IndexDefinition.leadsWith, hd, hx]
    rfl
  unfold createCommand IndexDefinition.tokens
  rw [hleads]
  exact ⟨_, rfl⟩

theorem octets_keyLead_isPrefix {lead : String} (hx : x.keyLead = some lead) (id : String) :
    (lead : Token).octets <+: (x.keyOf id : Token).octets := by
  rw [keyOf_of_lead hx]
  exact ⟨Text.octets id, (Text.octets_append lead id).symm⟩

/-- Ids that were read from keys with the lead become these keys again. -/
theorem map_keyOf_mapIds {lead : String} (hx : x.keyLead = some lead)
    (hd : x.settings.dropLead = true) {r : SearchResults}
    (hr : ∀ d ∈ r.documents, ∃ rest, d.id = lead ++ rest) :
    ((r.mapIds x.idOf).documents.map (·.id)).map x.keyOf = r.documents.map (·.id) := by
  rw [SearchResults.mapIds, List.map_map, List.map_map]
  refine List.map_congr_left fun d hmem => ?_
  obtain ⟨rest, hid⟩ := hr d hmem
  change x.keyOf (x.idOf d.id) = d.id
  rw [hid, keyOf_idOf hx hd]

/-- All that an index sends and reads puts the same lead before an id, once, and takes it off
once. -/
structure KeysAgree (x : Index) : Prop where
  search : ∀ input args, input.toQuery.compile = .ok args → ∀ o,
    ∃ args', x.searchCommand input o = .ok (x.on "FT.SEARCH" args') ∧
      (x.searchQuery input o).LimitsTo ((o.ids.getD input.toQuery.inKeys).map x.keyOf) args'
  profile : ∀ q args, q.compile = .ok args → ∀ limited,
    ∃ args', x.profileCommand (.search q) limited = .ok (x.on "FT.PROFILE"
        ("SEARCH" :: (Command.flag "LIMITED" limited ++ ("QUERY" : Token) :: args'))) ∧
      (x.prepare q).LimitsTo (q.inKeys.map x.keyOf) args'
  restores : ∀ lead, x.keyLead = some lead → ∀ r : SearchResults,
    (r.mapIds x.keyOf).dropLead lead = r
  keeps : ∀ lead, x.keyLead = some lead → ∀ (r : SearchResults) (i : Nat) (d : Document),
    r.documents[i]? = some d → (∀ rest, d.id ≠ lead ++ rest) →
      (r.dropLead lead).documents[i]? = some d
  /-- The ids of a reply whose keys all have the lead, fed into any search, are its keys again. -/
  feeds : ∀ lead, x.keyLead = some lead → x.settings.dropLead = true →
    ∀ input o (r : Reply) (raw : SearchResults),
    r.documents (x.searchQuery input o).layout = .ok raw →
    (∀ d ∈ raw.documents, ∃ rest, d.id = lead ++ rest) →
    ∃ found, (Call.search input o).read x r = .ok (.results found) ∧
      ∀ input' args o', input'.toQuery.compile = .ok args →
        o'.ids = some (found.documents.map (·.id)) →
        ∃ args', x.searchCommand input' o' = .ok (x.on "FT.SEARCH" args') ∧
          (x.searchQuery input' o').LimitsTo (raw.documents.map (·.id)) args'
  /-- The lead that the index covers, if its definition has none, begins every key: of a document
  that is written, and of an id that limits a search. -/
  covers : ∀ lead, x.keyLead = some lead → x.definition.leads = [] →
    (∃ rest, x.createCommand =
      x.on "FT.CREATE" ("ON" :: x.storage.keyword :: "PREFIX" :: .ofNat 1 :: lead :: rest)) ∧
    (∀ id document c, x.addCommand id document = .ok c →
      ∃ word rest, c = word :: (x.keyOf id : Token) :: rest) ∧
    ∀ id, (lead : Token).octets <+: (x.keyOf id : Token).octets

/-- **Keys and ids are translated consistently.** -/
theorem keysAgree (x : Index) : x.KeysAgree where
  search _ _ h o := searchCommand_limits h o
  profile _ _ h limited := profileCommand_limits h limited
  restores lead hx r := by
    rw [show x.keyOf = (lead ++ ·) from funext (keyOf_of_lead hx)]
    exact r.dropLead_mapIds_append lead
  keeps _ _ _ _ _ hi hd := SearchResults.getElem?_dropLead_of_ne hi hd
  feeds lead hx hd input o r raw hraw hlead := by
    refine ⟨raw.mapIds x.idOf, ?_, fun input' args o' h hids => ?_⟩
    · rw [Call.read, Call.results_eq_map, hraw]
      rfl
    · obtain ⟨args', hc, hlimits⟩ := searchCommand_limits (x := x) h o'
      rw [hids, Option.getD_some, map_keyOf_mapIds hx hd hlead] at hlimits
      exact ⟨args', hc, hlimits⟩
  covers _ hx hd :=
    ⟨createCommand_lead hx hd, fun _ _ _ => addCommand_key, octets_keyLead_isPrefix hx⟩

/-- An id that begins with the lead is prefixed like any other. -/
example : ({ name := "bikes", lead := some "bike" } : Index).searchCommand (.text "*")
      { ids := some ["1", "bike:1"] } =
    .ok ["FT.SEARCH", "bikes", "*", "INKEYS", "2", "bike:1", "bike:bike:1", "DIALECT", "2"] := by
  rfl

end Index

end SearchWire
