import SearchWire.Proofs.Session.Exchange

/-!
# What a script records

Every command that is handed to the wire is counted once, with its status, and timed once. Every
call that is rejected before that is counted by the kind of its fault, and every search that
succeeds leaves the number of its documents. Nothing else is recorded.

* `Metric.samples`: a series of samples; `Metric.eq_of_series`: what tells the series apart;
* `Turn.records`, `Turn.metrics_after`: one call of a script; **`Session.metrics_afterAll`**: a whole
  script;
* `Recorded`, `recorded_flatMap_records`: the records of some calls as series;
* **`Session.recorded_afterAll`**.
-/

namespace SearchWire

/-! ## Series -/

theorem Fault.Kind.label_inj {k l : Kind} : k.label = l.label ↔ k = l := by
  constructor
  · intro h
    cases k <;> cases l <;> first | rfl | exact absurd h (by decide)
  · rintro rfl
    rfl

namespace Metric

theorem status_inj {a b : Bool} : status a = status b ↔ a = b := by
  cases a <;> cases b <;> decide

/-- The samples of a series, in order: those of the records with this name and these labels. -/
def samples (ms : List Metric) (name : String) (labels : List (String × String)) : List Sample :=
  (ms.filter fun m => m.name = name ∧ m.labels = labels).map sample

theorem samples_append (ms ms' : List Metric) (name : String) (labels : List (String × String)) :
    samples (ms ++ ms') name labels = samples ms name labels ++ samples ms' name labels := by
  rw [samples, List.filter_append, List.map_append, samples, samples]

/-- A record is alone in its series, unless it tells a number of documents. -/
theorem eq_of_series {m m' : Metric} (hm : ∀ count, m ≠ .documents count)
    (hname : m'.name = m.name) (hlabels : m'.labels = m.labels) : m' = m := by
  cases m with
  | documents count => exact absurd rfl (hm count)
  | command word success =>
    cases m' with
    | command word' success' =>
      have h : word' = word ∧ status success' = status success := by simpa [labels] using hlabels
      rw [h.1, status_inj.mp h.2]
    | _ => simp [name] at hname
  | latency word =>
    cases m' with
    | latency word' =>
      have h : word' = word := by simpa [labels] using hlabels
      rw [h]
    | _ => simp [name] at hname
  | rejection kind =>
    cases m' with
    | rejection kind' =>
      have h : kind'.label = kind.label := by simpa [labels] using hlabels
      rw [Fault.Kind.label_inj.mp h]
    | _ => simp [name] at hname

theorem samples_eq_replicate (m : Metric) (hm : ∀ count, m ≠ .documents count) (ms : List Metric) :
    samples ms m.name m.labels = List.replicate (ms.count m) m.sample := by
  have hseries : (fun m' : Metric => decide (m'.name = m.name ∧ m'.labels = m.labels)) =
      fun m' => m' == m := by
    funext m'
    rw [Bool.eq_iff_iff, decide_eq_true_iff, beq_iff_eq]
    constructor
    · rintro ⟨hname, hlabels⟩
      exact eq_of_series hm hname hlabels
    · rintro rfl
      exact ⟨rfl, rfl⟩
  rw [samples, hseries, List.filter_beq, List.map_replicate]

end Metric

/-! ## One call -/

def Answer.documentCount : Answer → Nat
  | .results r => r.documents.length
  | _ => 0

/-- The number of documents that a search finds. -/
def Call.found? : Call → Answer → Option Nat
  | .search .., a => some a.documentCount
  | _, _ => none

namespace Turn

variable (t : Turn)

/-- The name of the command that a call hands to the wire. -/
def handed? : Option String := t.command?.map Command.name

/-- A call hands a command of this name to the wire, and a reply comes or it does not. -/
def Exchanges (word : String) (success : Bool) : Prop :=
  t.handed? = some word ∧ t.answer.isOk = success

instance (word : String) (success : Bool) : Decidable (t.Exchanges word success) :=
  inferInstanceAs (Decidable (_ ∧ _))

/-- The kind of the fault of a call that hands nothing to the wire. -/
def rejection? : Option Fault.Kind :=
  match t.command?, t.outcome with
  | none, .error fault => some fault.kind
  | _, _ => none

/-- The number of documents of a search that succeeds. -/
def found? : Option Nat := t.outcome.toOption.bind t.call.found?

def records : List Metric :=
  match t.command? with
  | none => t.rejection?.toList.map .rejection
  | some command =>
    .command command.name t.answer.isOk :: .latency command.name :: t.found?.toList.map .documents

end Turn

namespace Session

theorem exchange_metrics (s : Session) (c : Command) :
    (s.exchange c).1.metrics =
      s.metrics ++ [.command c.name s.wire.answer.isOk, .latency c.name] := rfl

theorem accept_metrics (s : Session) {c : Call} {x : Index} {r : Reply} {a : Answer}
    (h : c.read x r = .ok a) :
    (s.accept c a).metrics = s.metrics ++ (c.found? a).toList.map .documents := by
  cases c with
  | search input o =>
    cases hresults : Call.results x input o r with
    | error fault =>
      rw [Call.read, hresults] at h
      cases h
    | ok found =>
      rw [Call.read, hresults] at h
      cases h
      rfl
  | _ => exact (List.append_nil _).symm

end Session

namespace Turn

theorem metrics_after (t : Turn) : t.after.metrics = t.before.metrics ++ t.records := by
  have hanswer : t.before.wire.answer.isOk = t.answer.isOk := by
    rw [wire_answer]
    cases t.answer <;> rfl
  obtain ⟨fault, hcommand, hcall⟩ | ⟨command, fault, hcommand, hread, hcall⟩ |
    ⟨command, a, hcommand, hread, hcall⟩ := t.before.call_cases t.call
  · have hnone : t.command? = none := by rw [command?, hcommand]; rfl
    have hout : t.outcome = .error fault := by rw [outcome, hcall]
    rw [after, hcall, records, hnone, rejection?, hnone, hout]
    rfl
  · have hsome : t.command? = some command := by rw [command?, hcommand]; rfl
    have hfound : t.found? = none := by rw [found?, outcome, hcall]; rfl
    rw [after, hcall, records, hsome, hfound, Session.exchange_metrics, hanswer]
    rfl
  · have hsome : t.command? = some command := by rw [command?, hcommand]; rfl
    have hfound : t.found? = t.call.found? a := by rw [found?, outcome, hcall]; rfl
    obtain ⟨r, -, hread⟩ := bind_eq_ok_iff.mp hread
    rw [after, hcall, records, hsome, hfound, Session.accept_metrics _ hread,
      Session.exchange_metrics, hanswer, List.append_assoc]
    rfl

end Turn

/-! ## Scripts -/

/-- **The records of a script are those of its calls.** -/
theorem Session.metrics_afterAll (s : Session) (events : List Event) :
    (s.afterAll events).metrics = s.metrics ++ (s.turns events).flatMap Turn.records := by
  induction events generalizing s with
  | nil => exact (List.append_nil _).symm
  | cons e rest ih =>
    rw [afterAll_cons, ih]
    cases e with
    | reply r => rfl
    | failure message => rfl
    | call c =>
      have hmetrics : (s.after (.call c)).metrics = _ := Turn.metrics_after ⟨s, c⟩
      rw [hmetrics, turns, List.flatMap_cons, List.append_assoc]

/-! ## Series of a script -/

namespace Turn

variable (t : Turn)

theorem count_documents {m : Metric} (hm : ∀ count, m ≠ .documents count) :
    (t.found?.toList.map Metric.documents).count m = 0 := by
  rw [List.count_eq_zero, List.mem_map]
  rintro ⟨count, -, rfl⟩
  exact hm count rfl

theorem count_command_records (word : String) (success : Bool) :
    t.records.count (.command word success) = if t.Exchanges word success then 1 else 0 := by
  cases hcommand : t.command? with
  | none => simp [records, Exchanges, handed?, hcommand, List.count_eq_zero]
  | some command => simp [records, Exchanges, handed?, hcommand, List.count_cons, count_documents]

theorem count_latency_records (word : String) :
    t.records.count (.latency word) = if t.handed? = some word then 1 else 0 := by
  cases hcommand : t.command? with
  | none => simp [records, handed?, hcommand, List.count_eq_zero]
  | some command => simp [records, handed?, hcommand, List.count_cons, count_documents]

theorem count_rejection_records (kind : Fault.Kind) :
    t.records.count (.rejection kind) = if t.rejection? = some kind then 1 else 0 := by
  cases hcommand : t.command? with
  | none => cases hrejection : t.rejection? <;> simp [records, hcommand, hrejection, List.count_cons]
  | some command => simp [records, rejection?, hcommand, count_documents]

theorem found?_of_command?_eq_none (h : t.command? = none) : t.found? = none := by
  obtain ⟨-, -, fault, hout, -⟩ | ⟨command, hcommand, -⟩ := t.cases
  · rw [found?, hout]
    rfl
  · cases h.symm.trans hcommand

theorem samples_documents_records :
    Metric.samples t.records "redisearch_builder_search_results" [] =
      t.found?.toList.map fun n => .value (.ofInt n) := by
  cases hcommand : t.command? with
  | none =>
    rw [records, hcommand, t.found?_of_command?_eq_none hcommand]
    cases t.rejection? <;> simp [Metric.samples, Metric.name]
  | some command =>
    rw [records, hcommand]
    cases t.found? <;> simp [Metric.samples, Metric.name, Metric.labels, Metric.sample]

end Turn

theorem count_flatMap_records {m : Metric} {P : Turn → Prop} [DecidablePred P]
    (h : ∀ t : Turn, t.records.count m = if P t then 1 else 0) (turns : List Turn) :
    (turns.flatMap Turn.records).count m = turns.countP fun t => P t := by
  induction turns with
  | nil => rfl
  | cons t turns ih =>
    rw [List.flatMap_cons, List.count_append, h, ih, List.countP_cons, Nat.add_comm]
    simp

theorem samples_flatMap_records {m : Metric} (hm : ∀ count, m ≠ .documents count) {P : Turn → Prop}
    [DecidablePred P] (h : ∀ t : Turn, t.records.count m = if P t then 1 else 0)
    (turns : List Turn) : Metric.samples (turns.flatMap Turn.records) m.name m.labels =
      List.replicate (turns.countP fun t => P t) m.sample := by
  rw [Metric.samples_eq_replicate m hm, count_flatMap_records h]

theorem countP_handed (turns : List Turn) (word : String) :
    (turns.countP fun t => t.handed? = some word) =
      (turns.filterMap Turn.command?).countP fun c => c.name = word := by
  rw [List.countP_filterMap]
  refine List.countP_congr fun t _ => ?_
  cases hcommand : t.command? <;> simp [Turn.handed?, hcommand]

/-- A command that is handed to the wire gets a reply or fails, and not both. -/
theorem countP_exchanges (turns : List Turn) (word : String) :
    (turns.countP fun t => t.Exchanges word true) + (turns.countP fun t => t.Exchanges word false) =
      turns.countP fun t => t.handed? = some word := by
  have hsplit := List.countP_eq_countP_filter_add turns (fun t => t.handed? = some word)
    fun t => t.answer.isOk
  rw [hsplit, List.countP_filter, List.countP_filter]
  congr 1
  · refine List.countP_congr fun t _ => ?_
    rw [decide_eq_true_iff, Turn.Exchanges, Bool.and_eq_true, decide_eq_true_iff]
  · refine List.countP_congr fun t _ => ?_
    rw [decide_eq_true_iff, Turn.Exchanges, Bool.and_eq_true, decide_eq_true_iff, Bool.not_eq_true']

/-- What is recorded of some calls that hand some commands to the wire. -/
structure Recorded (turns : List Turn) (commands : List Command) (ms : List Metric) : Prop where
  handed : commands = turns.filterMap Turn.command?
  /-- A command is a success if a reply came, also one that could not be read. -/
  succeeded : ∀ word, Metric.samples ms "redisearch_builder_commands_total"
      [("command", word), ("status", "success")] =
    List.replicate (turns.countP fun t => t.Exchanges word true) (.increment 1)
  failed : ∀ word, Metric.samples ms "redisearch_builder_commands_total"
      [("command", word), ("status", "error")] =
    List.replicate (turns.countP fun t => t.Exchanges word false) (.increment 1)
  counted : ∀ word, (turns.countP fun t => t.Exchanges word true) +
    (turns.countP fun t => t.Exchanges word false) = commands.countP fun c => c.name = word
  timed : ∀ word, Metric.samples ms "redisearch_builder_command_seconds" [("command", word)] =
    List.replicate (commands.countP fun c => c.name = word) .elapsed
  rejected : ∀ kind : Fault.Kind,
    Metric.samples ms "redisearch_builder_validation_failures_total" [("kind", kind.label)] =
      List.replicate (turns.countP fun t => t.rejection? = some kind) (.increment 1)
  /-- Each search that succeeds leaves the number of its documents, in order, and nothing else
  does. -/
  found : Metric.samples ms "redisearch_builder_search_results" [] =
    (turns.filterMap Turn.found?).map fun n => .value (.ofInt n)

theorem recorded_flatMap_records (turns : List Turn) :
    Recorded turns (turns.filterMap Turn.command?) (turns.flatMap Turn.records) where
  handed := rfl
  succeeded word := samples_flatMap_records (m := .command word true) (by simp)
    (Turn.count_command_records · word true) turns
  failed word := samples_flatMap_records (m := .command word false) (by simp)
    (Turn.count_command_records · word false) turns
  counted word := (countP_exchanges turns word).trans (countP_handed turns word)
  timed word := by
    rw [← countP_handed]
    exact samples_flatMap_records (m := .latency word) (by simp)
      (Turn.count_latency_records · word) turns
  rejected kind := samples_flatMap_records (m := .rejection kind) (by simp)
    (Turn.count_rejection_records · kind) turns
  found := by
    induction turns with
    | nil => rfl
    | cons t turns ih =>
      rw [List.flatMap_cons, Metric.samples_append, t.samples_documents_records, ih,
        List.filterMap_cons]
      cases t.found? <;> rfl

/-- A reply that cannot be read is a success, and a query that is rejected is not timed. -/
example :
    let s : Session := { index := { name := "bikes" }, wire := { queue := [.ok (.int 3)] } }
    (s.callAll [.explain Query.matchAll.leave, .synonyms]).1.metrics =
      [.rejection .queryBuilder, .command "FT.SYNDUMP" true, .latency "FT.SYNDUMP"] := by
  rfl

end SearchWire
