import SearchWire.Proofs.Session.Faults
import SearchWire.Session.Script

/-!
# One exchange for each call

A call that fails for its document or its query leaves the wire alone. Any other call sends its
command and takes the oldest answer, so over a whole script the log is the commands of the calls
that were not refused, and the answers leave the queue in the order in which they came.

* `Session.call_cases`, `Turn.cases`: what a call does;
* `Turn.Refused`, `Turn.answer`, `Turn.Exchanged`: one call of a script;
* `Session.Exchanged`, **`Session.exchanged_afterAll`**: a whole script.
-/

namespace SearchWire

/-! ## What a call does -/

namespace Session

variable (s : Session)

@[simp] theorem reject_wire (fault : Fault) : (s.reject fault).wire = s.wire := rfl

@[simp] theorem reject_index (fault : Fault) : (s.reject fault).index = s.index := rfl

@[simp] theorem exchange_wire (c : Command) :
    (s.exchange c).1.wire = ⟨s.wire.sent ++ [c], s.wire.queue.tail⟩ := rfl

@[simp] theorem exchange_index (c : Command) : (s.exchange c).1.index = s.index := rfl

@[simp] theorem accept_wire (c : Call) (a : Answer) : (s.accept c a).wire = s.wire := by
  unfold accept
  split <;> rfl

/-- A call is refused, or it is sent and its answer is not read, or it is sent and its answer is
read. -/
theorem call_cases (c : Call) :
    (∃ fault, c.command s.index = .error fault ∧ s.call c = (s.reject fault, .error fault)) ∨
    (∃ command fault, c.command s.index = .ok command ∧
      s.wire.answer.bind (c.read s.index) = .error fault ∧
      s.call c = ((s.exchange command).1, .error fault)) ∨
    (∃ command a, c.command s.index = .ok command ∧
      s.wire.answer.bind (c.read s.index) = .ok a ∧
      s.call c = ((s.exchange command).1.accept c a, .ok a)) := by
  cases hcommand : c.command s.index with
  | error fault =>
    refine .inl ⟨fault, rfl, ?_⟩
    simp only [call, hcommand]
  | ok command =>
    have hanswer : (s.exchange command).2 = s.wire.answer := rfl
    cases hread : s.wire.answer.bind (c.read s.index) with
    | error fault =>
      refine .inr (.inl ⟨command, fault, rfl, rfl, ?_⟩)
      simp only [call, hcommand, hanswer, hread]
    | ok a =>
      refine .inr (.inr ⟨command, a, rfl, rfl, ?_⟩)
      simp only [call, hcommand, hanswer, hread]

end Session

/-! ## One call -/

namespace Turn

variable (t : Turn)

/-- The call fails, with a fault of this family. -/
def FailsWith (kind : Fault.Kind) : Prop := ∃ fault, t.outcome = .error fault ∧ fault.kind = kind

/-- The call fails for its document or its query. -/
def Refused : Prop := t.FailsWith .fieldTypeMismatch ∨ t.FailsWith .queryBuilder

/-- The command that is compiled for the call. -/
def command? : Option Command := (t.call.command t.before.index).toOption

/-- The answer to come: the oldest in the queue, or `OK`. -/
def answer : Except String Reply := t.before.wire.queue.head?.getD (.ok .okay)

/-- The answer that the call takes off the queue. -/
def taken? : Option (Except String Reply) := t.command?.bind fun _ => t.before.wire.queue.head?

/-- What a call does on the wire. -/
structure Exchanged : Prop where
  refused_iff : t.Refused ↔ t.command? = none
  refused : t.Refused → t.after.wire = t.before.wire
  /-- A call that is not refused sends its command and takes the oldest answer. -/
  sent : ¬ t.Refused → ∃ command, t.command? = some command ∧
    t.after.wire = ⟨t.before.wire.sent ++ [command], t.before.wire.queue.tail⟩
  failed : ∀ message, ¬ t.Refused → t.answer = .error message →
    t.outcome = .error (.transport message)
  replied : ∀ r, ¬ t.Refused → t.answer = .ok r → t.outcome = t.call.read t.before.index r
  transport_iff : t.FailsWith .transport ↔ ¬ t.Refused ∧ ∃ message, t.answer = .error message
  unexpected : t.FailsWith .unexpectedReply → ¬ t.Refused ∧ ∃ r, t.answer = .ok r

theorem wire_answer : t.before.wire.answer = t.answer.mapError .transport := by
  rw [answer, Wire.answer]
  rcases t.before.wire.queue with _ | ⟨_ | r, later⟩ <;> rfl

theorem cases :
    (t.command? = none ∧ t.after.wire = t.before.wire ∧
      ∃ fault, t.outcome = .error fault ∧ fault.Local) ∨
    ∃ command, t.command? = some command ∧
      t.after.wire = ⟨t.before.wire.sent ++ [command], t.before.wire.queue.tail⟩ ∧
      t.outcome = (t.answer.mapError .transport).bind (t.call.read t.before.index) := by
  rw [← wire_answer, command?]
  obtain ⟨fault, hcommand, hcall⟩ | ⟨command, fault, hcommand, hread, hcall⟩ |
    ⟨command, a, hcommand, hread, hcall⟩ := t.before.call_cases t.call
  · refine .inl ⟨by simp [hcommand, Except.toOption], ?_, fault, ?_, ?_⟩
    · rw [after, hcall, Session.reject_wire]
    · rw [outcome, hcall]
    · exact Call.failsOnly_command _ _ fault hcommand
  · refine .inr ⟨command, by simp [hcommand, Except.toOption], ?_, ?_⟩
    · rw [after, hcall, Session.exchange_wire]
    · rw [outcome, hcall, hread]
  · refine .inr ⟨command, by simp [hcommand, Except.toOption], ?_, ?_⟩
    · rw [after, hcall, Session.accept_wire, Session.exchange_wire]
    · rw [outcome, hcall, hread]

variable {t} {kind : Fault.Kind}

theorem FailsWith.eq_kind (h : t.FailsWith kind) {fault : Fault}
    (hout : t.outcome = .error fault) : kind = fault.kind := by
  obtain ⟨fault', hout', rfl⟩ := h
  rw [Except.error.inj (hout.symm.trans hout')]

/-- A call that reads a reply fails with no other family. -/
theorem FailsWith.eq_unexpectedReply (h : t.FailsWith kind) {r : Reply}
    (hout : t.outcome = t.call.read t.before.index r) : kind = .unexpectedReply := by
  obtain ⟨fault, hfault, rfl⟩ := h
  obtain ⟨command, hreply⟩ := Call.failsOnly_read _ _ r fault (hout.symm.trans hfault)
  exact hreply.kind

variable (t) in
/-- **A call is refused and leaves the wire alone, or it is one exchange.** -/
theorem exchanged : t.Exchanged := by
  obtain ⟨hcommand, hwire, fault, hout, hlocal⟩ | ⟨command, hcommand, hwire, hout⟩ := t.cases
  · have hrefused : t.Refused := hlocal.imp (⟨fault, hout, ·⟩) (⟨fault, hout, ·⟩)
    have hkind {kind : Fault.Kind} (h : t.FailsWith kind) :
        kind = .fieldTypeMismatch ∨ kind = .queryBuilder := h.eq_kind hout ▸ hlocal
    exact {
      refused_iff := iff_of_true hrefused hcommand
      refused := fun _ => hwire
      sent := fun h => absurd hrefused h
      failed := fun _ h => absurd hrefused h
      replied := fun _ h => absurd hrefused h
      transport_iff := ⟨fun h => by simpa using hkind h, fun h => absurd hrefused h.1⟩
      unexpected := fun h => by simpa using hkind h }
  · -- Either way no fault of a document or a query is left, so the call is not refused.
    cases hanswer : t.answer with
    | error message =>
      rw [hanswer] at hout
      replace hout : t.outcome = .error (.transport message) := hout
      have hsent : ¬ t.Refused := by
        rintro (h | h) <;> cases h.eq_kind hout
      exact {
        refused_iff := iff_of_false hsent (by simp [hcommand])
        refused := fun h => absurd h hsent
        sent := fun _ => ⟨command, hcommand, hwire⟩
        failed := fun _ _ h => Except.error.inj (hanswer.symm.trans h) ▸ hout
        replied := fun _ _ h => nomatch hanswer.symm.trans h
        transport_iff := iff_of_true ⟨_, hout, rfl⟩ ⟨hsent, message, hanswer⟩
        unexpected := fun h => nomatch h.eq_kind hout }
    | ok r =>
      rw [hanswer] at hout
      replace hout : t.outcome = t.call.read t.before.index r := hout
      have hsent : ¬ t.Refused := by
        rintro (h | h) <;> cases h.eq_unexpectedReply hout
      exact {
        refused_iff := iff_of_false hsent (by simp [hcommand])
        refused := fun h => absurd h hsent
        sent := fun _ => ⟨command, hcommand, hwire⟩
        failed := fun _ _ h => nomatch hanswer.symm.trans h
        replied := fun _ _ h => Except.ok.inj (hanswer.symm.trans h) ▸ hout
        transport_iff := by
          refine iff_of_false (fun h => nomatch h.eq_unexpectedReply hout) ?_
          rintro ⟨-, message, h⟩
          exact nomatch hanswer.symm.trans h
        unexpected := fun _ => ⟨hsent, r, hanswer⟩ }

/-! The same for the log and for the queue, in a form that adds up over a script. -/

variable (t)

theorem sent_after : t.after.wire.sent = t.before.wire.sent ++ t.command?.toList := by
  obtain ⟨hcommand, hwire, -⟩ | ⟨command, hcommand, hwire, -⟩ := t.cases
  · simp [hcommand, hwire]
  · simp [hcommand, hwire]

theorem taken_append_queue : t.taken?.toList ++ t.after.wire.queue = t.before.wire.queue := by
  obtain ⟨hcommand, hwire, -⟩ | ⟨command, hcommand, hwire, -⟩ := t.cases
  · simp [taken?, hcommand, hwire]
  · cases hqueue : t.before.wire.queue with
    | nil => simp [taken?, hcommand, hwire, hqueue]
    | cons first later => simp [taken?, hcommand, hwire, hqueue]

end Turn

/-! ## Scripts -/

namespace Session

theorem afterAll_cons (s : Session) (e : Event) (rest : List Event) :
    s.afterAll (e :: rest) = (s.after e).afterAll rest := rfl

theorem filterMap_turns_call {α : Type} (f : Turn → Option α) (s : Session) (c : Call)
    (rest : List Event) :
    (s.turns (.call c :: rest)).filterMap f =
      (f ⟨s, c⟩).toList ++ ((s.after (.call c)).turns rest).filterMap f := by
  simp only [turns, List.filterMap_eq_flatMap_toList, List.flatMap_cons]

theorem callAll_eq (s : Session) (calls : List Call) :
    s.callAll calls =
      (s.afterAll (calls.map .call), (s.turns (calls.map .call)).map Turn.outcome) := by
  induction calls generalizing s with
  | nil => rfl
  | cons c rest ih =>
    simp only [callAll, ih]
    rfl

theorem sent_afterAll (s : Session) (events : List Event) :
    (s.afterAll events).wire.sent =
      s.wire.sent ++ (s.turns events).filterMap Turn.command? := by
  induction events generalizing s with
  | nil => simp [afterAll, turns]
  | cons e rest ih =>
    rw [afterAll_cons, ih]
    cases e with
    | reply r => rfl
    | failure message => rfl
    | call c =>
      have hsent : (s.after (.call c)).wire.sent = _ := Turn.sent_after ⟨s, c⟩
      rw [filterMap_turns_call, hsent, List.append_assoc]

theorem taken_append_queue (s : Session) (events : List Event) :
    (s.turns events).filterMap Turn.taken? ++ (s.afterAll events).wire.queue =
      s.wire.queue ++ events.filterMap Event.queued? := by
  induction events generalizing s with
  | nil => simp [afterAll, turns]
  | cons e rest ih =>
    have hrest := ih (s.after e)
    rw [afterAll_cons]
    cases e with
    | reply r => simpa [turns, after, Wire.queueReply, Event.queued?] using hrest
    | failure message => simpa [turns, after, Wire.queueFailure, Event.queued?] using hrest
    | call c =>
      have hqueue : _ ++ (s.after (.call c)).wire.queue = s.wire.queue :=
        Turn.taken_append_queue ⟨s, c⟩
      rw [filterMap_turns_call, List.append_assoc, hrest, ← List.append_assoc, hqueue]
      rfl

/-- What a script does on the wire. -/
structure Exchanged (s : Session) (events : List Event) : Prop where
  turn : ∀ t ∈ s.turns events, t.Exchanged
  log : (s.afterAll events).wire.sent =
    s.wire.sent ++ (s.turns events).filterMap Turn.command?
  /-- First in, first out: the answers that were taken and those that are left are the answers
  that were queued. -/
  queue : (s.turns events).filterMap Turn.taken? ++ (s.afterAll events).wire.queue =
    s.wire.queue ++ events.filterMap Event.queued?

/-- **Every call of a script is refused or is one exchange, and nothing else touches the log or
takes an answer.** -/
theorem exchanged_afterAll (s : Session) (events : List Event) : s.Exchanged events where
  turn t _ := t.exchanged
  log := s.sent_afterAll events
  queue := s.taken_append_queue events

/-- A query that is refused leaves the reply to the next call. -/
example :
    let s : Session := { index := { name := "bikes" }, wire := { queue := [.ok (.int 3)] } }
    (s.callAll [.explain Query.matchAll.leave, .addTerms "slang" []]).2 =
      [.error (.query .unbalanced), .ok (.count 3)] := rfl

end Session

end SearchWire
