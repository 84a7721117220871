import Mathlib.Data.List.Nodup
import SearchWire.Proofs.Index.Keys
import SearchWire.Proofs.Query.Reading
import SearchWire.Proofs.Reply.Documents
import SearchWire.Proofs.Session.Exchange

/-!
# Searches over the wire

The columns that a search asks for are the columns that its reply is read with, so a server that
answers the command it was sent delivers its documents.

* `Session.call_of_answer`: a call whose reply is read;
* `Command.layout?`, `Index.layout?_searchCommand`: the columns that a command asks for;
* `Hit.Delivered`: what becomes of a document; **`Session.search_delivers`**.
-/

namespace SearchWire

/-! ## One exchange -/

/-- A call whose command is compiled and whose reply is read gives the answer and leaves the later
replies queued. -/
theorem Session.call_of_answer {s : Session} {k : Call} {c : Command} {r : Reply} {a : Answer}
    {later : List (Except String Reply)} (hc : k.command s.index = .ok c)
    (hq : s.wire.queue = .ok r :: later) (ha : k.read s.index r = .ok a) :
    (s.call k).2 = .ok a ∧ (s.call k).1.wire = ⟨s.wire.sent ++ [c], later⟩ := by
  have hanswer : s.wire.answer = .ok r := by rw [Wire.answer, hq]
  unfold call exchange Wire.send
  simp only [hc, hanswer, Except.bind, ha, accept_wire, record, hq, List.tail_cons, and_self]

/-! ## The columns asked for -/

/-- The columns that the options of a search ask for. -/
def Query.Options.layout (o : Query.Options) : Layout :=
  ⟨!o.noContent, o.withScores, o.withPayloads⟩

/-- The columns that the command of a search asks for: a score if it has `WITHSCORES`, a payload if
it has `WITHPAYLOADS`, the fields unless it has `NOCONTENT`, each in its place. -/
def Command.layout? (c : Command) : Option Layout := (Query.read? (c.drop 2)).map (·.2.layout)

theorem Index.layout?_searchCommand {x : Index} {input : SearchInput} {o : Overrides} {c : Command}
    (hc : x.searchCommand input o = .ok c) : c.layout? = some (x.searchQuery input o).layout := by
  obtain ⟨args, hargs, rfl⟩ := searchCommand_eq_ok_iff.mp hc
  obtain ⟨text, -, rfl⟩ := (Query.compile_eq_ok_iff _ _).mp hargs
  rw [Command.layout?, on, List.drop_succ_cons, List.drop_succ_cons, List.drop_zero, Query.read?,
    Command.Codec.readAll_tokens]
  rfl

/-! ## What becomes of a document -/

/-- What is read of a document: the columns asked for, and its key without the lead if leads are
taken off and the key has it. -/
structure Hit.Delivered (x : Index) (l : Layout) (h : Hit) (d : Document) : Prop where
  id : (∃ lead, x.settings.dropLead = true ∧ x.keyLead = some lead ∧ h.key = lead ++ d.id) ∨
    (d.id = h.key ∧ ∀ lead, x.settings.dropLead = true → x.keyLead = some lead →
      ∀ rest, h.key ≠ lead ++ rest)
  score : d.score = if l.scores then some h.score else none
  payload : d.payload = if l.payloads then h.payload else none
  fields : d.fields = if l.content then h.fields else []

theorem Hit.delivered_document (x : Index) (l : Layout) (h : Hit) :
    h.Delivered x l { h.document l with id := x.idOf h.key } where
  id := by
    have hid := Index.idOf_eq_iff.mp (rfl : x.idOf h.key = x.idOf h.key)
    cases hd : x.settings.dropLead <;> simpa [Index.droppedLead, hd] using hid
  score := rfl
  payload := rfl
  fields := rfl

/-- **A search gives the documents that the server found.** A server that answers the command with
a total and the columns asked for is read as that total and those documents in their order. -/
theorem Session.search_delivers {s : Session} {input : SearchInput} {o : Overrides} {c : Command}
    (hc : s.index.searchCommand input o = .ok c) :
    ∃ l, c.layout? = some l ∧ ∀ total hits later,
      s.wire.queue = .ok (.found l total hits) :: later →
      (s.call (.search input o)).1.wire = ⟨s.wire.sent ++ [c], later⟩ ∧
      ∃ found, (s.call (.search input o)).2 = .ok (.results found) ∧ found.total = total ∧
        List.Forall₂ (Hit.Delivered s.index l) hits found.documents := by
  refine ⟨_, Index.layout?_searchCommand hc, fun total hits later hq => ?_⟩
  have hcommand : (Call.search input o).command s.index = .ok c := by rw [Call.command, hc]; rfl
  let l := (s.index.searchQuery input o).layout
  have hread : (Call.search input o).read s.index (.found l total hits) =
      .ok (.results (SearchResults.mapIds s.index.idOf ⟨total, hits.map (Hit.document l)⟩)) := by
    rw [Call.read, Call.results_eq_map, Reply.documents_found]
    rfl
  obtain ⟨hanswer, hwire⟩ := call_of_answer hcommand hq hread
  refine ⟨hwire, _, hanswer, rfl, ?_⟩
  rw [SearchResults.mapIds, List.map_map]
  exact List.forall₂_map_right_iff.mpr <| List.forall₂_same.mpr fun h _ =>
    h.delivered_document s.index _

/-- A document with a title. -/
def Hit.titled (key title : String) : Hit where
  key := key
  score := ⟨0x3ff0000000000000⟩
  payload := none
  fields := [("title", title)]
  distinct := List.nodup_singleton "title"

/-- A session whose next reply holds a document with the lead of the keys and one without it. -/
def Session.withTwoBikes : Session where
  index := { name := "bikes", lead := some "bike" }
  wire := { queue := [.ok (.found ⟨true, true, true⟩ 7
    [.titled "bike:bike:1" "Trail", .titled "car:1" "Van"])] }

/-- A search with scores and payloads delivers both documents. -/
theorem Session.search_delivers_twoBikes :
    let input := SearchInput.query { base := some "*", withScores := true, withPayloads := true }
    (∃ c, withTwoBikes.index.searchCommand input {} = .ok c) ∧
      ∃ found, (withTwoBikes.call (.search input {})).2 = .ok (.results found) ∧
        found.total = 7 ∧
        List.Forall₂ (Hit.Delivered withTwoBikes.index ⟨true, true, true⟩)
          [.titled "bike:bike:1" "Trail", .titled "car:1" "Van"] found.documents := by
  intro input
  obtain ⟨c, hc⟩ : ∃ c, withTwoBikes.index.searchCommand input {} = .ok c := ⟨_, rfl⟩
  refine ⟨⟨c, hc⟩, ?_⟩
  obtain ⟨l, hl, hdelivers⟩ := search_delivers hc
  obtain rfl : ⟨true, true, true⟩ = l := by
    rw [Index.layout?_searchCommand hc] at hl
    exact Option.some.inj hl
  exact (hdelivers 7 _ [] rfl).2

end SearchWire
