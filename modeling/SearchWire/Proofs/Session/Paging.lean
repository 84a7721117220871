import SearchWire.Proofs.Reply.Pages
import SearchWire.Proofs.Session.Alteration
import SearchWire.Proofs.Session.Search

/-!
# Reading a cursor to its end

The rows of an aggregation come in pages, each but the last beside the id of a cursor. A caller
that reads on as long as it is given a cursor gets every page of the server once, in order, and
stops after the last.

* `SentRow`, `SentPage`, `Served`: what a server sends; `SentRow.ReadAs`, `SentPage.ReadAs`: what
  is read of it; `SentPage.exists_page`: one page;
* `Session.Pages`: what a caller does; `Session.Pages.unique`;
* `Call.GetsPage`, `Session.exists_call_of_getsPage`: one call;
* `Session.Delivered`, `Session.exists_delivered`: all calls; **`Session.delivered_of_served`**.
-/

namespace SearchWire

/-! ## What a server sends -/

/-- A row as a server sends it: its columns in any of the forms of a table. -/
structure SentRow where
  columns : List (Reply × Reply)
  reply : Reply
  scalar : ∀ c ∈ columns, ∃ s, c.1.text? = some s
  form : Reply.Encodes columns reply ∨ reply = .set (columns.map fun c => .array [c.1, c.2])

/-- What is read of a row: each column has the last of its values. -/
def SentRow.ReadAs (r : SentRow) (b : Bindings Reply) : Prop :=
  ∀ key, b.find? key = Reply.lastValue? r.columns key

/-- A row of named columns, names and values in turn. -/
def SentRow.named (columns : List (String × Reply)) : SentRow where
  columns := columns.map fun c => (.ofString c.1, c.2)
  reply := .array (Reply.inTurn (columns.map fun c => (.ofString c.1, c.2)))
  scalar := List.forall_mem_map.mpr fun c _ => ⟨c.1, Reply.text?_ofString c.1⟩
  form := .inl .array

/-- A page as a server sends it. -/
structure SentPage where
  total : Nat
  rows : List SentRow

namespace SentPage

variable (p : SentPage)

/-- A page beside the id of a cursor. -/
def reply (id : Nat) : Reply :=
  .array [.array (.int p.total :: p.rows.map (·.reply)), .int id]

structure ReadAs (page : Page) : Prop where
  total : page.total = p.total
  rows : List.Forall₂ SentRow.ReadAs p.rows page.rows

end SentPage

/-- All pages that a server sends. Each but the last stands beside the id of the cursor that the
next one is read with, and no cursor has the id zero. -/
inductive Served where
  | last (p : SentPage)
  | more (p : SentPage) (id : Nat) (positive : 0 < id) (rest : Served)

namespace Served

def pages : Served → List SentPage
  | last p => [p]
  | more p _ _ rest => p :: rest.pages

def ids : Served → List Nat
  | last _ => []
  | more _ id _ rest => id :: rest.ids

def replies : Served → List Reply
  | last p => [p.reply 0]
  | more p id _ rest => p.reply id :: rest.replies

end Served

/-! ## One page -/

theorem SentRow.isTable (r : SentRow) : r.reply.IsTable r.columns := by
  rcases r.form with hform | hset
  · exact Reply.isTable_of_encodes r.scalar hform
  · rw [hset]
    exact ⟨r.scalar, .inr (.inl (.set _))⟩

theorem exists_rows (rows : List SentRow) : ∃ bs,
    (rows.map (·.reply)).mapM Reply.row = .ok bs ∧ List.Forall₂ SentRow.ReadAs rows bs := by
  have htables : List.Forall₂ Reply.IsTable (rows.map (·.reply)) (rows.map (·.columns)) := by
    rw [List.forall₂_map_left_iff, List.forall₂_map_right_iff, List.forall₂_same]
    exact fun r _ => r.isTable
  obtain ⟨bs, hbs, hreads⟩ := Reply.exists_rows_of_isTable htables
  have hcolumns : List.Forall₂ (fun r b => Reply.RowReads (SentRow.columns r) b) rows bs :=
    List.forall₂_map_left_iff.mp hreads
  exact ⟨bs, hbs, hcolumns⟩

/-- **A page is read whole,** and its cursor leads on unless its id is zero. -/
theorem SentPage.exists_page (p : SentPage) (id : Nat) : ∃ page, (p.reply id).page = .ok page ∧
    p.ReadAs page ∧ page.cursor = if id = 0 then none else some id := by
  obtain ⟨bs, hbs, hreads⟩ := exists_rows p.rows
  exact ⟨_, Reply.page_beside (.rows (.int p.total) hbs) (.int id), ⟨rfl, hreads⟩, rfl⟩

/-! ## One call -/

/-- A call whose command is this one and whose reply is read as a page. -/
structure Call.GetsPage (c : Call) (x : Index) (command : Command) : Prop where
  command : c.command x = .ok command
  read : ∀ r, c.read x r = r.page.map .page
  other : ∀ f skip, c ≠ .alter f skip

theorem Call.getsPage_aggregate (x : Index) (p : Pipeline) :
    (aggregate p).GetsPage x (x.aggregateCommand p) := ⟨rfl, fun _ => rfl, fun _ _ h => nomatch h⟩

theorem Call.getsPage_cursorRead (x : Index) (id : Nat) (maxIdle count : Option Nat) :
    (cursorRead id maxIdle count).GetsPage x (Cursor.readCommand x.name id maxIdle count) :=
  ⟨rfl, fun _ => rfl, fun _ _ h => nomatch h⟩

namespace Session

theorem exists_call_of_getsPage {s : Session} {c : Call} {command : Command}
    (hc : c.GetsPage s.index command) {p : SentPage} {id : Nat}
    {later : List (Except String Reply)} (hq : s.wire.queue = .ok (p.reply id) :: later) :
    ∃ page s', s.call c = (s', .ok (.page page)) ∧ p.ReadAs page ∧
      page.cursor = (if id = 0 then none else some id) ∧ s'.index = s.index ∧
      s'.wire = ⟨s.wire.sent ++ [command], later⟩ := by
  obtain ⟨page, hpage, hread, hcursor⟩ := p.exists_page id
  have hanswer : c.read s.index (p.reply id) = .ok (.page page) := by
    rw [hc.read, hpage]
    rfl
  obtain ⟨hout, hwire⟩ := call_of_answer hc.command hq hanswer
  have hindex : (s.call c).1.index = s.index := (Turn.followed ⟨s, c⟩).other hc.other
  exact ⟨page, (s.call c).1, Prod.ext rfl hout, hread, hcursor, hindex, hwire⟩

/-! ## All calls -/

/-- A caller makes a call and, as long as the page that it gets has a cursor, reads the next page,
each time with options of its own: the pages that it gets, and the session after the last one. -/
inductive Pages : Session → Call → (Nat → CursorOptions) → List Page → Session → Prop
  | last {s s' : Session} {c : Call} {o : Nat → CursorOptions} {p : Page}
      (hcall : s.call c = (s', .ok (.page p))) (hcursor : p.cursor = none) : Pages s c o [p] s'
  | more {s s' s'' : Session} {c : Call} {o : Nat → CursorOptions} {p : Page} {id : Nat}
      {ps : List Page} (hcall : s.call c = (s', .ok (.page p))) (hcursor : p.cursor = some id)
      (hrest : Pages s' (.cursorRead id (o 0).maxIdle (o 0).count) (fun n => o (n + 1)) ps s'') :
      Pages s c o (p :: ps) s''

theorem Pages.unique {s s' s'' : Session} {c : Call} {o : Nat → CursorOptions} {ps ps' : List Page}
    (h : s.Pages c o ps s') (h' : s.Pages c o ps' s'') : ps' = ps ∧ s'' = s' := by
  induction h generalizing ps' s'' with
  | last hcall hcursor =>
    cases h' with
    | last hcall' _ =>
      cases hcall.symm.trans hcall'
      exact ⟨rfl, rfl⟩
    | more hcall' hcursor' _ =>
      cases hcall.symm.trans hcall'
      cases hcursor.symm.trans hcursor'
  | more hcall hcursor _ ih =>
    cases h' with
    | last hcall' hcursor' =>
      cases hcall.symm.trans hcall'
      cases hcursor.symm.trans hcursor'
    | more hcall' hcursor' hrest' =>
      cases hcall.symm.trans hcall'
      cases hcursor.symm.trans hcursor'
      obtain ⟨rfl, rfl⟩ := ih hrest'
      exact ⟨rfl, rfl⟩

/-- The commands that read the pages of some cursors, the id of each in decimal. -/
def readCommands (index : String) (o : Nat → CursorOptions) (ids : List Nat) : List Command :=
  ids.mapIdx fun n id => "FT.CURSOR" :: "READ" :: index ::
    .ofString (String.ofList (Nat.toDigits 10 id)) ::
      (Command.number "MAXIDLE" (o n).maxIdle ++ Command.number "COUNT" (o n).count)

theorem readCommands_cons (index : String) (o : Nat → CursorOptions) (id : Nat) (ids : List Nat) :
    readCommands index o (id :: ids) =
      Cursor.readCommand index id (o 0).maxIdle (o 0).count ::
        readCommands index (fun n => o (n + 1)) ids := by
  rw [readCommands, List.mapIdx_cons, Cursor.readCommand, Token.ofNat,
    Nat.toString_eq_ofList_toDigits]
  rfl

/-- What a caller gets that begins with a call of this command: the pages that the server sends,
once each and in their order, and nothing after the last one. -/
structure Delivered (s : Session) (c : Call) (command : Command) (o : Nat → CursorOptions)
    (served : Served) (later : List (Except String Reply)) (ps : List Page) (s' : Session) :
    Prop where
  pages : s.Pages c o ps s'
  read : List.Forall₂ SentPage.ReadAs served.pages ps
  cursors : ps.map Page.cursor = served.ids.map some ++ [none]
  /-- There is one command for each page, and after the first one each has the id that came with
  the page before. -/
  sent : s'.wire.sent = s.wire.sent ++ command :: readCommands s.index.name o served.ids
  left : s'.wire.queue = later

theorem exists_delivered {s : Session} {c : Call} {command : Command}
    (hc : c.GetsPage s.index command) {served : Served} {later : List (Except String Reply)}
    (hq : s.wire.queue = served.replies.map .ok ++ later) (o : Nat → CursorOptions) :
    ∃ ps s', s.Delivered c command o served later ps s' := by
  induction served generalizing s c command o with
  | last p =>
    obtain ⟨page, s', hcall, hread, hcursor, -, hwire⟩ := exists_call_of_getsPage hc hq
    rw [if_pos rfl] at hcursor
    refine ⟨[page], s', .last hcall hcursor, .cons hread .nil, ?_, ?_, ?_⟩
    · rw [List.map_singleton, hcursor]
      rfl
    · rw [hwire]
      rfl
    · rw [hwire]
      rfl
  | more p id positive rest ih =>
    obtain ⟨page, s', hcall, hread, hcursor, hindex, hwire⟩ := exists_call_of_getsPage hc hq
    rw [if_neg (Nat.ne_of_gt positive)] at hcursor
    -- The rest is read from the session after the first page, with the options but the first.
    have hnext := Call.getsPage_cursorRead s'.index id (o 0).maxIdle (o 0).count
    have hlater : s'.wire.queue = rest.replies.map .ok ++ later := by
      rw [hwire]
      rfl
    obtain ⟨ps, s'', hpages, hreads, hcursors, hsent, hleft⟩ :=
      ih hnext hlater fun n => o (n + 1)
    refine ⟨page :: ps, s'', .more hcall hcursor hpages, .cons hread hreads, ?_, ?_, hleft⟩
    · rw [List.map_cons, hcursor, hcursors]
      rfl
    · rw [hsent, hwire, hindex, Served.ids, readCommands_cons, List.append_assoc]
      rfl

/-- **Reading a cursor to its end gives every page of the server once,** in order, and the caller
stops exactly after the last page. -/
theorem delivered_of_served {s : Session} {served : Served} {later : List (Except String Reply)}
    (hq : s.wire.queue = served.replies.map .ok ++ later) (p : Pipeline)
    (o : Nat → CursorOptions) : ∃ ps s',
      s.Delivered (.aggregate p) (s.index.aggregateCommand p) o served later ps s' ∧
      ps.length = served.pages.length ∧
      List.Forall₂ SentRow.ReadAs (served.pages.flatMap (·.rows)) (ps.flatMap (·.rows)) ∧
      ∀ ps' s'', s.Pages (.aggregate p) o ps' s'' → ps' = ps ∧ s'' = s' := by
  obtain ⟨ps, s', h⟩ := exists_delivered (Call.getsPage_aggregate s.index p) hq o
  refine ⟨ps, s', h, h.read.length_eq.symm, ?_, fun _ _ => h.pages.unique⟩
  exact List.rel_flatMap h.read fun _ _ hp => hp.rows

end Session

/-- Three pages, the second without rows; the cursor after it has the largest id there is. -/
def Served.threePages : Served :=
  .more ⟨2, [.named [("condition", .ofString "new"), ("n", .int 5)]]⟩ 99 (by decide)
    (.more ⟨2, []⟩ 9223372036854775807 (by decide)
      (.last ⟨2, [.named [("condition", .array [.int 1, .int 2])]]⟩))

/-- A session that is sent three pages and then a failure. -/
def Session.withThreePages : Session where
  index := { name := "bikes" }
  wire := { queue := Served.threePages.replies.map .ok ++ [.error "closed"] }

/-- Three pages are read by three commands, and the failure after them is left. -/
theorem Session.delivered_of_served_threePages :
    let o (n : Nat) : CursorOptions := { count := some (n + 1) }
    withThreePages.wire.queue = Served.threePages.replies.map .ok ++ [.error "closed"] ∧
      ∃ ps s', withThreePages.Delivered (.aggregate {}) (withThreePages.index.aggregateCommand {}) o
          Served.threePages [.error "closed"] ps s' ∧
        ps.length = 3 ∧
        s'.wire.sent = ([["FT.AGGREGATE", "bikes", "*"],
          ["FT.CURSOR", "READ", "bikes", "99", "COUNT", "1"],
          ["FT.CURSOR", "READ", "bikes", "9223372036854775807", "COUNT", "2"]] : List Command) := by
  intro o
  refine ⟨rfl, ?_⟩
  obtain ⟨ps, s', h, hlength, -, -⟩ := delivered_of_served (s := withThreePages) rfl {} o
  refine ⟨ps, s', h, hlength, ?_⟩
  have hids : Served.threePages.ids = [99, 9223372036854775807] := rfl
  rw [h.sent, hids, readCommands_cons, readCommands_cons]
  rfl

end SearchWire
