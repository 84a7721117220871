import SearchWire.Hybrid.Query
import SearchWire.Proofs.Query.Overriding

/-!
# Parameters

Searches, aggregations and hybrid searches bind parameters by name, all in the same way: a name has
one place, that of its first binding, and the value of its last. Their arguments hold the parameters
in one block after the number of its tokens, and no block if nothing was bound.

* `Command.params_of_ne_nil`: the block of some parameters;
* `Parametric`: requests with parameters; `Parametric.search`, `Parametric.aggregation`,
  `Parametric.hybrid`;
* `Parametric.Binds`, **`Parametric.binds_of_params_eq`**: what pairs bind in a request and put
  into its arguments;
* `Query.params_call` (one step), `Query.params_callAll` (a run), `Parametric.params_paramAll`;
* **`Parametric.binds_lastValues`**.
-/

namespace SearchWire

namespace Command

theorem params_of_ne_nil {b : Bindings Token} (h : b ≠ []) :
    params b = ("PARAMS" : Token) :: .ofNat (2 * b.length) :: entries b := by
  rw [params, if_neg (by simpa using h), table, Nat.mul_comm]

theorem params_eq_nil_iff {b : Bindings Token} : params b = [] ↔ b = [] := by
  cases b with
  | nil => exact iff_of_true rfl rfl
  | cons p b => exact iff_of_false (List.cons_ne_nil _ _) (List.cons_ne_nil _ _)

end Command

/-! ## Requests with parameters -/

/-- A kind of requests that have parameters, and where their arguments hold them. -/
structure Parametric (Q : Type) where
  params : Q → Bindings Token
  param : Q → String → Token → Q
  /-- The request without parameters. -/
  bare : Q → Q
  args : Q → Command
  /-- The arguments after the parameters. -/
  rest : Q → Command
  params_param : ∀ q name value, params (param q name value) = .bind name value (params q)
  params_bare : ∀ q, params (bare q) = []
  args_eq : ∀ q, ∃ front, args (bare q) = front ++ rest q ∧
    args q = front ++ (Command.params (params q) ++ rest q)

namespace Parametric

variable {Q : Type} (K : Parametric Q)

/-- Bind parameters one after the other. -/
def paramAll (q : Q) (pairs : List (String × Token)) : Q :=
  pairs.foldl (fun q p => K.param q p.1 p.2) q

theorem params_paramAll (q : Q) (pairs : List (String × Token)) :
    K.params (K.paramAll q pairs) = Bindings.bindAll (K.params q) pairs := by
  induction pairs generalizing q with
  | nil => rfl
  | cons p pairs ih =>
    rw [Bindings.bindAll_cons, ← K.params_param]
    exact ih (K.param q p.1 p.2)

/-- A request has the parameters that `pairs` bind, and its arguments hold these and no others. -/
structure Binds (q : Q) (pairs : List (String × Token)) : Prop where
  stored : Bindings.LastWins pairs (K.params q)
  absent : K.args q = K.args (K.bare q) ↔ pairs = []
  block : pairs ≠ [] → ∃ front, K.args (K.bare q) = front ++ K.rest q ∧
    K.args q = front ++ (("PARAMS" : Token) ::
      .ofNat (2 * (Bindings.names pairs).eraseDups.length) ::
        ((K.params q).flatMap (fun p => [(p.1 : Token), p.2]) ++ K.rest q))
  /-- Binding one of the names again changes neither the number of names nor another parameter. -/
  rebound : ∀ name value, name ∈ Bindings.names pairs →
    Bindings.Rebound name (K.params q) (K.params (K.param q name value))

/-- **What is bound is what the arguments hold.** -/
theorem binds_of_params_eq {q : Q} {pairs : List (String × Token)}
    (h : K.params q = Bindings.ofList pairs) : K.Binds q pairs := by
  have hstored : Bindings.LastWins pairs (K.params q) := h ▸ Bindings.lastWins_ofList pairs
  obtain ⟨front, hbare, hargs⟩ := K.args_eq q
  have hnil : K.params q = [] ↔ pairs = [] := by
    rw [h, Bindings.ofList_eq_nil_iff]
  -- The arguments with the block and those without it agree before and after it.
  refine ⟨hstored, ?_, fun hne => ⟨front, hbare, ?_⟩, fun name value hname => ?_⟩
  · rw [hbare, hargs, List.append_cancel_left_eq, List.append_left_eq_self,
      Command.params_eq_nil_iff, hnil]
  · rw [hargs, Command.params_of_ne_nil (mt hnil.mp hne), hstored.length_eq]
    rfl
  · rw [K.params_param]
    refine Bindings.rebound_bind value ?_
    rwa [h, Bindings.mem_names_ofList]

end Parametric

/-! ## Searches -/

namespace Query

def withoutParams (q : Query) : Query := { q with params := [] }

/-- The parameter that a step binds. -/
def Call.param? : Call → Option (String × Token)
  | param name value => some (name, value)
  | _ => none

/-- The parameters that a run binds, in order. -/
def Call.paramsOf (calls : List Call) : List (String × Token) :=
  (expandAll calls).filterMap param?

theorem params_call (q : Query) {c : Call} (hc : c.Single) :
    (q.call c).params = Bindings.bindAll q.params c.param?.toList := by
  cases c with
  | within => cases hc
  | param name value => rfl
  | leave => exact q.part_leave_of_ne (p := .params) (by simp)
  | _ => rfl

theorem params_callAll_of_single (q : Query) {calls : List Call} (h : ∀ c ∈ calls, c.Single) :
    (q.callAll calls).params = Bindings.bindAll q.params (calls.filterMap Call.param?) := by
  induction calls generalizing q with
  | nil => rfl
  | cons c calls ih =>
    obtain ⟨hc, hcalls⟩ := List.forall_mem_cons.mp h
    rw [callAll, ih _ hcalls, params_call q hc, ← Bindings.bindAll_append]
    cases hp : c.param? <;> simp [hp]

theorem params_callAll (q : Query) (calls : List Call) :
    (q.callAll calls).params = Bindings.bindAll q.params (Call.paramsOf calls) := by
  rw [← callAll_expandAll q calls]
  exact q.params_callAll_of_single fun _ => Call.single_of_mem_expandAll calls

theorem params_withoutParams (q : Query) : q.withoutParams.params = [] := rfl

theorem params_call_param (q : Query) (name : String) (value : Token) :
    (q.call (.param name value)).params = .bind name value q.params := rfl

theorem settingTokens_eq_append (q : Query) :
    q.settingTokens = q.withoutParams.settingTokens ++ Command.params q.params := by
  -- The parameters are the last of the settings, so without them there is an empty block.
  have hnil (c : Command) : c = c ++ Command.params [] := (List.append_nil c).symm
  exact congrArg (· ++ Command.params q.params) (hnil _)

/-- The dialect stands after the parameters. -/
def dialectTokens (q : Query) : Command :=
  Command.number "DIALECT" (some (q.dialect.getD defaultDialect))

theorem exists_optionTokens_eq (q : Query) : ∃ front,
    q.withoutParams.optionTokens = front ++ q.dialectTokens ∧
      q.optionTokens = front ++ (Command.params q.params ++ q.dialectTokens) := by
  refine ⟨q.withoutParams.settingTokens, rfl, ?_⟩
  rw [optionTokens, settingTokens_eq_append, List.append_assoc]
  rfl

end Query

/-! ## Aggregations and hybrid searches -/

namespace Pipeline

def withoutParams (p : Pipeline) : Pipeline := { p with params := [] }

/-- The dialect and all steps but the loads stand after the parameters. -/
def tailTokens (p : Pipeline) : Command :=
  Command.number "DIALECT" p.dialect ++ p.stages.flatMap Step.tokens

theorem params_withoutParams (p : Pipeline) : p.withoutParams.params = [] := rfl

theorem params_param (p : Pipeline) (name : String) (value : Token) :
    (p.param name value).params = .bind name value p.params := rfl

theorem exists_compile_eq (p : Pipeline) : ∃ front,
    p.withoutParams.compile = front ++ p.tailTokens ∧
      p.compile = front ++ (Command.params p.params ++ p.tailTokens) := by
  refine ⟨(p.query : Token) :: (Command.part CursorOptions.tokens p.cursor ++
    Command.flag "ADDSCORES" p.addScores ++ Command.number "TIMEOUT" p.timeout ++
      p.loads.flatMap Step.tokens), ?_, ?_⟩
  · simp [compile, tailTokens, withoutParams, loads, stages, Command.params]
  · simp [compile, tailTokens, List.append_assoc]

end Pipeline

namespace HybridQuery

def withoutParams (q : HybridQuery) : HybridQuery := { q with params := [] }

/-- The limit of time and the cursor stand after the parameters. -/
def tailTokens (q : HybridQuery) : Command :=
  Command.number "TIMEOUT" q.timeout ++ Command.part CursorOptions.tokens q.cursor

theorem params_withoutParams (q : HybridQuery) : q.withoutParams.params = [] := rfl

theorem params_param (q : HybridQuery) (name : String) (value : Token) :
    (q.param name value).params = .bind name value q.params := rfl

theorem exists_compile_eq (q : HybridQuery) (index : String) : ∃ front,
    q.withoutParams.compile index = front ++ q.tailTokens ∧
      q.compile index = front ++ (Command.params q.params ++ q.tailTokens) := by
  refine ⟨(index : Token) :: (q.text.tokens ++ q.vector.tokens ++
    Command.part Fusion.tokens q.fusion ++ Command.part Refinement.tokens q.refinement), ?_, ?_⟩
  · simp [compile, tailTokens, withoutParams, Command.params]
  · simp [compile, tailTokens]

end HybridQuery

/-! ## The three kinds -/

namespace Parametric

/-- Searches; the arguments are those after the query string. -/
def search : Parametric Query where
  params := Query.params
  param q name value := q.call (.param name value)
  bare := Query.withoutParams
  args := Query.optionTokens
  rest := Query.dialectTokens
  params_param := Query.params_call_param
  params_bare := Query.params_withoutParams
  args_eq := Query.exists_optionTokens_eq

def aggregation : Parametric Pipeline where
  params := Pipeline.params
  param := Pipeline.param
  bare := Pipeline.withoutParams
  args := Pipeline.compile
  rest := Pipeline.tailTokens
  params_param := Pipeline.params_param
  params_bare := Pipeline.params_withoutParams
  args_eq := Pipeline.exists_compile_eq

def hybrid (index : String) : Parametric HybridQuery where
  params := HybridQuery.params
  param := HybridQuery.param
  bare := HybridQuery.withoutParams
  args q := q.compile index
  rest := HybridQuery.tailTokens
  params_param := HybridQuery.params_param
  params_bare := HybridQuery.params_withoutParams
  args_eq q := q.exists_compile_eq index

theorem binds_paramAll {Q : Type} (K : Parametric Q) (q : Q) (pairs : List (String × Token)) :
    K.Binds (K.paramAll (K.bare q) pairs) pairs := by
  refine K.binds_of_params_eq ?_
  rw [K.params_paramAll, K.params_bare, Bindings.ofList]

theorem binds_callAll (q : Query) (calls : List Query.Call) :
    search.Binds (q.withoutParams.callAll calls) (Query.Call.paramsOf calls) :=
  search.binds_of_params_eq (Query.params_callAll q.withoutParams calls)

theorem binds_apply_callAll (o : Overrides) (q : Query) (calls : List Query.Call) :
    search.Binds (o.apply (q.withoutParams.callAll calls))
      (Query.Call.paramsOf calls ++ o.params) := by
  refine search.binds_of_params_eq ?_
  have hparams := Query.params_callAll q.withoutParams calls
  rw [Bindings.ofList, Bindings.bindAll_append]
  exact (o.params_apply _).trans (congrArg (Bindings.bindAll · o.params) hparams)

/-- **Parameters are bound by name, the last value wins, and the first binding gives the place.** It
is so for the steps that build a search, whatever other steps stand between them, for the overrides
of a search after its own steps, for aggregations and for hybrid searches; and the arguments of a
search are its text and then those that hold its parameters. -/
theorem binds_lastValues (q : Query) (calls : List Query.Call) (o : Overrides) (p : Pipeline)
    (h : HybridQuery) (index : String) (pairs : List (String × Token)) :
    search.Binds (search.paramAll q.withoutParams pairs) pairs ∧
      search.Binds (q.withoutParams.callAll calls) (Query.Call.paramsOf calls) ∧
      search.Binds (o.apply (q.withoutParams.callAll calls))
        (Query.Call.paramsOf calls ++ o.params) ∧
      q.compile = q.text.map (fun s : String => (s : Token) :: search.args q) ∧
      aggregation.Binds (aggregation.paramAll p.withoutParams pairs) pairs ∧
      (hybrid index).Binds ((hybrid index).paramAll h.withoutParams pairs) pairs :=
  ⟨search.binds_paramAll q pairs, binds_callAll q calls, binds_apply_callAll o q calls,
    q.compile_eq_map, aggregation.binds_paramAll p pairs, (hybrid index).binds_paramAll h pairs⟩

/-- A parameter of a search that is bound again, within a collection and by overrides. -/
example :
    let calls : List Query.Call := [.param "a" "1", .within .any [.param "b" "2", .slop 1],
      .param "a" "3"]
    let o : Overrides := { params := [("c", "4"), ("b", "5")] }
    let params : Bindings Token := [("a", "3"), ("b", "5"), ("c", "4")]
    (o.apply (Query.matchAll.callAll calls)).params = params := by
  rfl

end Parametric

end SearchWire
