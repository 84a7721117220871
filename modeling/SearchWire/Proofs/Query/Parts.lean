import SearchWire.Proofs.Query.Balance

/-!
# Parts of a query

A query has parts, and a building step works on one of them: it looks at no other part and changes
none. So what becomes of a part hangs on the steps on this part only, and steps on different parts
may come in any order.

* `Query.Part`, `Query.part`, `Query.ext_parts`: the parts and what a query holds in them;
* `Query.Call.part`: the part that a step works on; `Query.part_call_of_ne`,
  `Query.part_call_congr`: one step;
* `Query.Call.stepsOn`, **`Query.part_callAll`**: a run;
* `Query.text_congr`, `Query.optionTokens_congr`: what the arguments of a query come from;
* `Query.PartsDecide`, **`Query.partsDecide`**.
-/

namespace SearchWire

namespace Query

/-! ## Parts -/

/-- What building steps change in a query. -/
inductive Part where
  /-- The predicates, the collections that are open, and the mark of a close that failed. -/
  | predicates
  | noContent
  | verbatim
  | noStopwords
  | withPayloads
  | withScores
  | inOrder
  | scorer
  | inFields
  | inKeys
  | filters
  | geoFilters
  | returned
  | summary
  | highlight
  | slop
  | timeout
  | language
  | expander
  | sortBy
  | limit
  | params
  | dialect
deriving DecidableEq

def Part.Value : Part → Type
  | predicates => Scopes × Bool
  | noContent | verbatim | noStopwords | withPayloads | withScores | inOrder => Bool
  | scorer | language | expander => Option String
  | inFields | inKeys => List String
  | filters => List NumericFilter
  | geoFilters => List GeoFilter
  | returned => List (String × Option String)
  | summary => Option Summary
  | highlight => Option Highlight
  | slop | timeout | dialect => Option Nat
  | sortBy => Option (String × Option SortOrder)
  | limit => Option (Nat × Nat)
  | params => Bindings Token

def part (q : Query) : (p : Part) → p.Value
  | .predicates => (q.scopes, q.unbalanced)
  | .noContent => q.noContent
  | .verbatim => q.verbatim
  | .noStopwords => q.noStopwords
  | .withPayloads => q.withPayloads
  | .withScores => q.withScores
  | .inOrder => q.inOrder
  | .scorer => q.scorer
  | .inFields => q.inFields
  | .inKeys => q.inKeys
  | .filters => q.filters
  | .geoFilters => q.geoFilters
  | .returned => q.returned
  | .summary => q.summary
  | .highlight => q.highlight
  | .slop => q.slop
  | .timeout => q.timeout
  | .language => q.language
  | .expander => q.expander
  | .sortBy => q.sortBy
  | .limit => q.limit
  | .params => q.params
  | .dialect => q.dialect

/-- Besides its parts a query has only the text that it starts from. -/
theorem ext_parts {q q' : Query} (hbase : q.base = q'.base) (h : ∀ p, q.part p = q'.part p) :
    q = q' := by
  obtain ⟨hscopes, hunbalanced⟩ := Prod.ext_iff.mp (h .predicates)
  cases q
  cases q'
  rw [Query.mk.injEq]
  exact ⟨hbase, hscopes, hunbalanced, h .noContent, h .verbatim, h .noStopwords, h .withPayloads,
    h .withScores, h .inOrder, h .scorer, h .inFields, h .inKeys, h .filters, h .geoFilters,
    h .returned, h .summary, h .highlight, h .slop, h .timeout, h .language, h .expander,
    h .sortBy, h .limit, h .params, h .dialect⟩

/-! ## One step -/

namespace Call

/-- The part that a step works on. A step with steps inside it is none of these: it stands for an
opening step, the steps inside it and a closing step. -/
def part : Call → Part
  | predicate _ | enter _ | leave | within .. => .predicates
  | noContent => .noContent
  | verbatim => .verbatim
  | noStopwords => .noStopwords
  | withPayloads => .withPayloads
  | withScores => .withScores
  | inOrder => .inOrder
  | scorer _ => .scorer
  | inFields _ => .inFields
  | limitIds _ => .inKeys
  | filter _ => .filters
  | geoFilter _ => .geoFilters
  | returnField _ | returnAs .. | returnFields _ => .returned
  | summarize _ => .summary
  | highlight _ => .highlight
  | slop _ => .slop
  | timeout _ => .timeout
  | language _ => .language
  | expander _ => .expander
  | sortBy .. => .sortBy
  | limit .. => .limit
  | param .. => .params
  | dialect _ => .dialect

/-- A step with no steps inside it. -/
def Single : Call → Prop
  | within .. => False
  | _ => True

mutual

theorem single_of_mem_expand {c : Call} (k : Call) (h : c ∈ k.expand) : c.Single := by
  cases k with
  | within connective calls =>
    rw [expand, List.mem_cons, List.mem_append, List.mem_singleton] at h
    obtain rfl | h | rfl := h
    · trivial
    · exact single_of_mem_expandAll calls h
    · trivial
  | _ =>
    obtain rfl := List.mem_singleton.mp h
    trivial

theorem single_of_mem_expandAll {c : Call} (calls : List Call) (h : c ∈ expandAll calls) :
    c.Single := by
  cases calls with
  | nil => cases h
  | cons k calls =>
    rw [expandAll, List.mem_append] at h
    exact h.elim (single_of_mem_expand k) (single_of_mem_expandAll calls)

end

end Call

theorem part_leave_of_ne (q : Query) {p : Part} (h : .predicates ≠ p) :
    q.leave.part p = q.part p := by
  unfold leave
  cases q.scopes.leave <;> cases p <;> first | rfl | exact absurd rfl h

/-- **A step changes no part but its own.** -/
theorem part_call_of_ne (q : Query) {c : Call} (hc : c.Single) {p : Part} (h : c.part ≠ p) :
    (q.call c).part p = q.part p := by
  cases c with
  | within => cases hc
  | leave => exact q.part_leave_of_ne h
  | _ => cases p <;> first | rfl | exact absurd rfl h

theorem part_leave_congr {q q' : Query} (h : q.part .predicates = q'.part .predicates) :
    q.leave.part .predicates = q'.leave.part .predicates := by
  obtain ⟨hscopes, hunbalanced⟩ := Prod.ext_iff.mp h
  replace hscopes : q.scopes = q'.scopes := hscopes
  unfold leave
  rw [hscopes]
  cases q'.scopes.leave with
  | ok s => exact Prod.ext rfl hunbalanced
  | error fault => rfl

/-- **A step looks at no part but its own.** -/
theorem part_call_congr {q q' : Query} {c : Call} (hc : c.Single)
    (h : q.part c.part = q'.part c.part) : (q.call c).part c.part = (q'.call c).part c.part := by
  cases c with
  | within => cases hc
  | predicate t => exact congrArg (fun v : Scopes × Bool => (v.1.add t, v.2)) h
  | enter c => exact congrArg (fun v : Scopes × Bool => (v.1.enter c, v.2)) h
  | leave => exact part_leave_congr h
  | inFields names => exact congrArg (fun v : List String => v ++ names) h
  | limitIds ids => exact congrArg (fun v : List String => v ++ ids) h
  | filter f => exact congrArg (fun v : List NumericFilter => v ++ [f]) h
  | geoFilter g => exact congrArg (fun v : List GeoFilter => v ++ [g]) h
  | returnField | returnAs | returnFields =>
    exact congrArg (fun v : List (String × Option String) => v ++ _) h
  | param name value => exact congrArg (Bindings.bind name value) h
  -- The other steps set their part to a value of their own.
  | _ => rfl

/-! ## A run -/

/-- The steps of a run on one part, in order. -/
def Call.stepsOn (p : Part) (calls : List Call) : List Call :=
  (expandAll calls).filter fun c => c.part = p

theorem part_callAll_filter {p : Part} {q q' : Query} {calls : List Call}
    (hsingle : ∀ c ∈ calls, c.Single) (h : q.part p = q'.part p) :
    (q.callAll calls).part p = (q'.callAll (calls.filter fun c => c.part = p)).part p := by
  induction calls generalizing q q' with
  | nil => exact h
  | cons c calls ih =>
    obtain ⟨hc, hcalls⟩ := List.forall_mem_cons.mp hsingle
    rw [callAll]
    by_cases hp : c.part = p
    · subst hp
      rw [List.filter_cons_of_pos (by simp), callAll]
      exact ih hcalls (part_call_congr hc h)
    · rw [List.filter_cons_of_neg (by simp [hp])]
      exact ih hcalls ((q.part_call_of_ne hc hp).trans h)

/-- **What becomes of a part hangs on the steps on this part only.** -/
theorem part_callAll (q : Query) (p : Part) (calls : List Call) :
    (q.callAll calls).part p = (q.callAll (Call.stepsOn p calls)).part p := by
  rw [← callAll_expandAll q calls]
  exact part_callAll_filter (fun _ => Call.single_of_mem_expandAll calls) rfl

/-! ## Arguments -/

theorem text_congr {q q' : Query} (hbase : q.base = q'.base)
    (h : q.part .predicates = q'.part .predicates) : q.text = q'.text := by
  obtain ⟨hscopes, hunbalanced⟩ := Prod.ext_iff.mp h
  replace hscopes : q.scopes = q'.scopes := hscopes
  replace hunbalanced : q.unbalanced = q'.unbalanced := hunbalanced
  unfold text
  rw [hbase, hscopes, hunbalanced]

theorem optionTokens_congr {q q' : Query} (h : ∀ p ≠ .predicates, q.part p = q'.part p) :
    q.optionTokens = q'.optionTokens := by
  -- The two differ in nothing but what the text comes from, which no option token comes from.
  have hq : q = { q' with base := q.base, scopes := q.scopes, unbalanced := q.unbalanced } := by
    refine ext_parts rfl fun p => ?_
    cases p with
    | predicates => rfl
    | _ => exact h _ (by simp)
  rw [hq]
  unfold optionTokens settingTokens
  rfl

theorem head?_compile (q : Query) :
    q.compile.map List.head? = q.text.map fun s : String => some (s : Token) := by
  rw [compile_eq_map]
  cases q.text <;> rfl

theorem tail_of_compile {q : Query} {args : Command} (h : q.compile = .ok args) :
    args.tail = q.optionTokens := by
  rw [compile_eq_map] at h
  cases htext : q.text with
  | error fault =>
    rw [htext] at h
    cases h
  | ok s =>
    rw [htext] at h
    cases h
    rfl

/-- What two runs from one query have in common. -/
structure PartsDecide (q : Query) (calls calls' : List Call) : Prop where
  query : (∀ p, Call.stepsOn p calls = Call.stepsOn p calls') →
    q.callAll calls = q.callAll calls' ∧
      (q.callAll calls).compile = (q.callAll calls').compile
  text : Call.stepsOn .predicates calls = Call.stepsOn .predicates calls' →
    (q.callAll calls).text = (q.callAll calls').text ∧
      (q.callAll calls).compile.map List.head? = (q.callAll calls').compile.map List.head?
  options : (∀ p ≠ .predicates, Call.stepsOn p calls = Call.stepsOn p calls') →
    (q.callAll calls).optionTokens = (q.callAll calls').optionTokens ∧
      ∀ args args', (q.callAll calls).compile = .ok args → (q.callAll calls').compile = .ok args' →
        args.tail = args'.tail

/-- **Steps on different parts of a query may come in any order.** -/
theorem partsDecide (q : Query) (calls calls' : List Call) : PartsDecide q calls calls' := by
  have hbase : (q.callAll calls).base = (q.callAll calls').base := by
    rw [base_callAll, base_callAll]
  have hpart (p : Part) (h : Call.stepsOn p calls = Call.stepsOn p calls') :
      (q.callAll calls).part p = (q.callAll calls').part p := by
    rw [part_callAll, h, ← part_callAll]
  refine ⟨fun h => ?_, fun h => ?_, fun h => ?_⟩
  · have hq := ext_parts hbase fun p => hpart p (h p)
    exact ⟨hq, congrArg compile hq⟩
  · have htext := text_congr hbase (hpart _ h)
    exact ⟨htext, by rw [head?_compile, htext, ← head?_compile]⟩
  · have hoptions := optionTokens_congr fun p hp => hpart p (h p hp)
    refine ⟨hoptions, fun args args' hargs hargs' => ?_⟩
    rw [tail_of_compile hargs, hoptions, tail_of_compile hargs']

/-- A step inside a collection is a step like any other, and a parameter keeps its first place. -/
example :
    matchAll.callAll [.param "a" "1", .within .any [.slop 1, .predicate (.leaf (.text "x" "y"))],
        .param "b" "2", .slop 2, .param "a" "3"] =
      matchAll.callAll [.slop 1, .slop 2, .enter .any, .param "a" "1", .param "b" "2",
        .predicate (.leaf (.text "x" "y")), .param "a" "3", .leave] := by
  rfl

end Query

end SearchWire
