import SearchWire.Proofs.Steps
import SearchWire.Session.Call

/-!
# Faults of calls

A call that gives no command fails for its document or its query. A reply that cannot be read is a
fault of the reply, which names the command it answers.

* `Fault.OfReply`: the faults of the replies to a command; `Reply.failsOnly_table` and others: the
  readers have no other faults;
* `Fault.Local`: the faults that come before anything is sent;
* **`Call.failsOnly_command`**, **`Call.failsOnly_read`**.
-/

namespace SearchWire

namespace Fault

/-- A fault of the reply to a command. -/
def OfReply (command : String) (fault : Fault) : Prop := ∃ cause, fault = .reply command cause

/-- A fault that comes before anything is sent. -/
def Local (fault : Fault) : Prop := fault.kind = .fieldTypeMismatch ∨ fault.kind = .queryBuilder

theorem OfReply.kind {command : String} {fault : Fault} (h : fault.OfReply command) :
    fault.kind = .unexpectedReply := by
  obtain ⟨cause, rfl⟩ := h
  rfl

end Fault

/-! ## Readers -/

namespace Reply

open Fault (OfReply)

variable (command : String)

theorem failsOnly_string (r : Reply) : FailsOnly (OfReply command) (string command r) := by
  unfold string
  split
  · exact .ok _
  · exact .error ⟨_, rfl⟩

theorem failsOnly_integer (r : Reply) : FailsOnly (OfReply command) (integer command r) := by
  unfold integer
  split
  · exact .ok _
  · split
    · exact .ok _
    · exact .error ⟨_, rfl⟩

theorem failsOnly_expectOk (r : Reply) : FailsOnly (OfReply command) (expectOk command r) := by
  unfold expectOk
  split
  · exact .ok _
  · split
    · exact .ok _
    · exact .error ⟨_, rfl⟩
  · exact .error ⟨_, rfl⟩

theorem failsOnly_items (r : Reply) : FailsOnly (OfReply command) (items command r) := by
  unfold items
  split
  · exact .ok _
  · exact .ok _
  · exact .ok _
  · exact .error ⟨_, rfl⟩

theorem failsOnly_strings (r : Reply) : FailsOnly (OfReply command) (strings command r) :=
  (failsOnly_items command r).bind (.mapM (failsOnly_string command))

theorem failsOnly_entries (r : Reply) : FailsOnly (OfReply command) (entries command r) := by
  have hitems (l : List Reply) : FailsOnly (OfReply command) (entriesOfItems command l) := by
    unfold entriesOfItems
    split
    · exact .ok _
    · exact .error ⟨_, rfl⟩
  unfold entries
  split
  · exact .ok _
  · exact (failsOnly_items command r).bind hitems

theorem failsOnly_table {α : Type} {read : Reply → Except Fault α}
    (hread : ∀ v, FailsOnly (OfReply command) (read v)) (r : Reply) :
    FailsOnly (OfReply command) (table command read r) := by
  refine (failsOnly_entries command r).bind fun es => ?_
  refine .bind (.mapM (fun e => ?_) es) fun pairs => .ok _
  exact (failsOnly_string command e.1).bind fun _ => (hread e.2).bind fun _ => .ok _

theorem failsOnly_suggestion (r : Reply) :
    FailsOnly (OfReply "FT.SPELLCHECK") (suggestion r) := by
  refine (failsOnly_items _ r).bind fun parts => ?_
  split
  · split
    · exact .error ⟨_, rfl⟩
    · exact (failsOnly_string _ _).bind fun _ => .ok _
  · exact .error ⟨_, rfl⟩

theorem failsOnly_spellingTerm (r : Reply) :
    FailsOnly (OfReply "FT.SPELLCHECK") (spellingTerm r) := by
  refine (failsOnly_items _ r).bind fun parts => ?_
  split
  · exact (failsOnly_string _ _).bind fun _ => (failsOnly_items _ _).bind fun l =>
      .bind (.mapM failsOnly_suggestion l) fun _ => .ok _
  · exact .error ⟨_, rfl⟩

theorem failsOnly_spelling (r : Reply) : FailsOnly (OfReply "FT.SPELLCHECK") (spelling r) :=
  (failsOnly_items _ r).bind fun l => .bind (.mapM failsOnly_spellingTerm l) fun _ => .ok _

theorem failsOnly_documents (l : Layout) (r : Reply) :
    FailsOnly (OfReply "FT.SEARCH") (documents l r) := by
  have hdocument (slice : List Reply) :
      FailsOnly (OfReply "FT.SEARCH") (documentOfSlice l slice) := by
    cases slice with
    | nil => exact .ok _
    | cons id columns =>
      refine (failsOnly_string _ id).bind fun _ => ?_
      dsimp only
      split
      · exact .ok _
      · exact (failsOnly_table _ (fun v => .ok _) _).bind fun _ => .ok _
  refine (failsOnly_items _ r).bind fun parts => ?_
  split
  · exact .ok _
  · split
    · exact .error ⟨_, rfl⟩
    · split
      · exact .error ⟨_, rfl⟩
      · exact .bind (.mapM hdocument _) fun _ => .ok _

theorem failsOnly_page (r : Reply) : FailsOnly (OfReply "FT.AGGREGATE") (page r) := by
  have hparts (l : List Reply) : FailsOnly (OfReply "FT.AGGREGATE") (pageParts l) := by
    unfold pageParts
    split
    · split
      · exact .ok _
      · split
        · exact .error ⟨_, rfl⟩
        · exact .ok _
    · exact .ok _
  refine (failsOnly_items _ r).bind fun l => (hparts l).bind fun parts => ?_
  obtain ⟨body, cursor⟩ := parts
  cases body with
  | nil => exact .ok _
  | cons total rows =>
    dsimp only
    split
    · exact .error ⟨_, rfl⟩
    · exact .bind (.mapM (fun row => failsOnly_table _ (fun v => .ok v) row) rows) fun _ => .ok _

end Reply

/-! ## Calls -/

namespace Call

variable (x : Index)

theorem failsOnly_addCommand (id : String) (document : List (String × Json)) :
    FailsOnly Fault.Local (x.addCommand id document) := by
  have hmember (m : String × Json) : FailsOnly Fault.Local (x.checkMember m) := by
    unfold Index.checkMember
    split
    · exact .error (.inl rfl)
    · exact .ok _
  refine .bind (.forM hmember document) fun _ => ?_
  cases x.storage with
  | json => exact .ok _
  | hash =>
    dsimp only
    split
    · exact .error (.inr rfl)
    · exact .ok _

/-- **A call without a command fails for its document or its query.** -/
theorem failsOnly_command (c : Call) : FailsOnly Fault.Local (c.command x) := by
  cases c with
  | add id document => exact failsOnly_addCommand x id document
  | search input o => exact .mapError (fun _ => .inr rfl) _
  | explain q => exact .mapError (fun _ => .inr rfl) _
  | profile target limited => exact .mapError (fun _ => .inr rfl) _
  | _ => exact .ok _

/-- **A reply that cannot be read is a fault of the reply.** -/
theorem failsOnly_read (c : Call) (r : Reply) :
    FailsOnly (fun fault => ∃ command, fault.OfReply command) (c.read x r) := by
  have reads {α : Type} {command : String} {y : Except Fault α} (f : α → Answer)
      (hy : FailsOnly (Fault.OfReply command) y) :
      FailsOnly (fun fault => ∃ command, fault.OfReply command) (y.map f) :=
    (hy.mono fun _ h => ⟨command, h⟩).map f
  have hagreed (command : String) :
      FailsOnly (fun fault => ∃ command, fault.OfReply command) (agreed command r) :=
    reads _ (r.failsOnly_expectOk command)
  cases c with
  | create | alter | drop | cursorDelete | updateSynonyms | setOption => exact hagreed _
  | addAlias | updateAlias | deleteAlias => exact hagreed _
  | add | hybrid | profile => exact .ok _
  | info => exact reads _ (Reply.failsOnly_table _ (fun v => .ok v) r)
  | search input o =>
    have hresults : FailsOnly (Fault.OfReply "FT.SEARCH") (results x input o r) := by
      refine (r.failsOnly_documents _).bind fun found => ?_
      split
      · exact .ok _
      · exact .ok _
    exact reads _ hresults
  | aggregate | cursorRead => exact reads _ r.failsOnly_page
  | explain q =>
    have hplan : FailsOnly (Fault.OfReply "FT.EXPLAIN") (plan r) := by
      unfold plan
      split
      · exact .ok _
      · exact (r.failsOnly_strings _).map _
    exact reads _ hplan
  | spelling query o =>
    rw [read]
    split
    · exact reads _ r.failsOnly_spelling
    · exact .ok _
  | synonyms => exact reads _ (Reply.failsOnly_table _ (Reply.failsOnly_strings _) r)
  | getOption => exact reads _ (Reply.failsOnly_table _ (fun v => .ok _) r)
  | tagValues | listTerms => exact reads _ (r.failsOnly_strings _)
  | addTerms | deleteTerms => exact reads _ (r.failsOnly_integer _)

end Call

end SearchWire
