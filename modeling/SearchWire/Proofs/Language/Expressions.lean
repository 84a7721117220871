import SearchWire.Proofs.Language.Lexemes

/-!
# Expressions of the query language

What a query text says. Operands side by side are a conjunction, conjunctions with bars between
them a union: juxtaposition binds tighter than the bar.

* `Expr`, `Grammar`: expressions, and the rows of lexemes that they are read from;
* `Parser.step`, `parseLexemes?`: a parser that holds the parentheses still open on a stack;
* `Parser.runs_of_grammar`: a parser finds every expression, from any state, by induction on the grammar;
* `Parser.Holds`: what a parser has read, kept by every step;
* **`parseLexemes?_eq_some_iff`**: parser and grammar agree, so no row has two readings;
* `parse?`, `Says`: the same for texts.
-/

namespace SearchWire

namespace Language

/-- What a query text says. -/
inductive Expr where
  | word (text : String)
  /-- An expression in parentheses, and what was attached to them. -/
  | group (mark : String) (inside : Expr)
  | all (left right : Expr)
  | any (left right : Expr)
deriving DecidableEq, Repr

/-- How loosely an expression is bound. -/
inductive Level where
  | operand
  | conjunction
  | union

/-- The expressions that a row of lexemes can be read as. -/
inductive Grammar : Level → List Lexeme → Expr → Prop where
  | word (text) : Grammar .operand [.word text] (.word text)
  | group (mark) {ls e} (h : Grammar .union ls e) :
    Grammar .operand (.opening mark :: (ls ++ [.closing])) (.group mark e)
  | operand {ls e} (h : Grammar .operand ls e) : Grammar .conjunction ls e
  | all {ls ms l r} (hl : Grammar .conjunction ls l) (hr : Grammar .operand ms r) :
    Grammar .conjunction (ls ++ ms) (.all l r)
  | conjunction {ls e} (h : Grammar .conjunction ls e) : Grammar .union ls e
  | any {ls ms l r} (hl : Grammar .union ls l) (hr : Grammar .conjunction ms r) :
    Grammar .union (ls ++ .bar :: ms) (.any l r)

/-! ## The parser -/

/-- What was read since an opening parenthesis. -/
structure Frame where
  /-- What is attached to the parenthesis. -/
  mark : String
  /-- What stands before the last bar. -/
  before : Option Expr := none
  /-- What stands after it. -/
  since : Option Expr := none

namespace Frame

def add (f : Frame) (e : Expr) : Frame :=
  { f with since := some (f.since.elim e fun l => .all l e) }

/-- The expression that was read, unless an operand is missing at its end. -/
def expr? (f : Frame) : Option Expr :=
  f.since.map fun r => f.before.elim r fun l => .any l r

end Frame

/-- What was read of a row of lexemes. -/
structure Parser where
  frame : Frame
  /-- What stands before every opening parenthesis that is still open, the last one first. -/
  outer : List Frame

namespace Parser

/-- The next lexeme. -/
def step (p : Parser) : Lexeme → Option Parser
  | .word text => some { p with frame := p.frame.add (.word text) }
  | .opening mark => some { frame := { mark := mark }, outer := p.frame :: p.outer }
  | .closing =>
    match p.outer with
    | [] => none
    | f :: outer =>
      p.frame.expr?.map fun e => { frame := f.add (.group p.frame.mark e), outer := outer }
  | .bar =>
    p.frame.expr?.map fun e => { p with frame := { mark := p.frame.mark, before := some e } }

def run (p : Parser) (ls : List Lexeme) : Option Parser := ls.foldlM step p

/-- The expression that was read, unless a parenthesis is open. -/
def expr? (p : Parser) : Option Expr := if p.outer.isEmpty then p.frame.expr? else none

end Parser

/-- What a row of lexemes says. -/
def parseLexemes? (ls : List Lexeme) : Option Expr :=
  (Parser.run ⟨{ mark := "" }, []⟩ ls).bind Parser.expr?

/-! ## A parser finds every expression -/

namespace Parser

theorem run_append {p p' : Parser} {ls : List Lexeme} (h : p.run ls = some p') (ms : List Lexeme) :
    p.run (ls ++ ms) = p'.run ms := by
  rw [run, List.foldlM_append, ← run, h]
  rfl

theorem run_cons {p p' : Parser} {l : Lexeme} (h : p.step l = some p') (ls : List Lexeme) :
    p.run (l :: ls) = p'.run ls := by
  rw [run, List.foldlM_cons, h]
  rfl

/-- What reading an expression does to a parser. An operand can be added anywhere, a conjunction
where none has begun, and a union after an opening parenthesis. -/
def Runs : Level → List Lexeme → Expr → Prop
  | .operand, ls, e => ∀ f outer, run ⟨f, outer⟩ ls = some ⟨f.add e, outer⟩
  | .conjunction, ls, e => ∀ f outer, f.since = none → run ⟨f, outer⟩ ls = some ⟨f.add e, outer⟩
  | .union, ls, e => ∀ mark outer, ∃ f, run ⟨{ mark := mark }, outer⟩ ls = some ⟨f, outer⟩ ∧
    f.mark = mark ∧ f.expr? = some e

/-- A parser finds every expression of the grammar. -/
theorem runs_of_grammar {level : Level} {ls : List Lexeme} {e : Expr} (h : Grammar level ls e) :
    Runs level ls e := by
  induction h with
  | word text => exact fun f outer => rfl
  | group mark _ ih =>
    intro f outer
    -- The inside is read into a frame of its own, which the closing parenthesis takes off again.
    obtain ⟨g, hg, rfl, he⟩ := ih mark (f :: outer)
    have hclose : step ⟨g, f :: outer⟩ .closing = some ⟨f.add (.group g.mark _), outer⟩ :=
      congrArg (Option.map _) he
    rw [run_cons rfl, run_append hg, run_cons hclose]
    rfl
  | operand _ ih => exact fun f outer _ => ih f outer
  | all _ _ ihl ihr =>
    intro f outer hf
    rw [run_append (ihl f outer hf), ihr]
    simp [Frame.add, hf]
  | conjunction _ ih =>
    exact fun mark outer => ⟨_, ih { mark := mark } outer rfl, rfl, rfl⟩
  | @any ls ms l r _ _ ihl ihr =>
    intro mark outer
    obtain ⟨f, hf, rfl, he⟩ := ihl mark outer
    have hbar : step ⟨f, outer⟩ .bar = some ⟨{ mark := f.mark, before := some l }, outer⟩ :=
      congrArg (Option.map _) he
    refine ⟨Frame.add { mark := f.mark, before := some l } r, ?_, rfl, rfl⟩
    rw [run_append hf, run_cons hbar, ihr _ _ rfl]

end Parser

/-! ## A parser finds nothing else -/

/-- What stands before the last bar, the bar included. -/
inductive ReadBefore : Option Expr → List Lexeme → Prop where
  | none : ReadBefore none []
  | some {e ls} (h : Grammar .union ls e) : ReadBefore (some e) (ls ++ [.bar])

inductive ReadSince : Option Expr → List Lexeme → Prop where
  | none : ReadSince none []
  | some {e ls} (h : Grammar .conjunction ls e) : ReadSince (some e) ls

namespace Frame

inductive Holds (f : Frame) : List Lexeme → Prop where
  | intro {ls ms} (before : ReadBefore f.before ls) (since : ReadSince f.since ms) :
    Holds f (ls ++ ms)

variable {f : Frame} {ls ms : List Lexeme} {e : Expr}

theorem holds_nil (mark : String) : Holds { mark := mark } [] :=
  (List.append_nil _).subst (.intro .none .none)

theorem Holds.add (h : f.Holds ls) (he : Grammar .operand ms e) : (f.add e).Holds (ls ++ ms) := by
  obtain ⟨mark, before, since⟩ := f
  obtain ⟨hbefore, hsince⟩ := h
  rw [List.append_assoc]
  refine ⟨hbefore, ?_⟩
  cases hsince with
  | none => exact .some (.operand he)
  | some hl => exact .some (.all hl he)

theorem Holds.grammar (h : f.Holds ls) (he : f.expr? = some e) : Grammar .union ls e := by
  obtain ⟨mark, before, since⟩ := f
  obtain ⟨hbefore, hsince⟩ := h
  cases hsince with
  | none => cases he
  | some hr =>
    cases hbefore with
    | none =>
      cases he
      exact .conjunction hr
    | some hl =>
      cases he
      rw [List.append_assoc]
      exact .any hl hr

end Frame

namespace Parser

/-- The lexemes that a parser has read. -/
inductive Holds : Parser → List Lexeme → Prop where
  | outermost {f ls} (h : f.Holds ls) : Holds ⟨f, []⟩ ls
  | inside {f g outer ls ms} (h : Holds ⟨g, outer⟩ ls) (hf : f.Holds ms) :
    Holds ⟨f, g :: outer⟩ (ls ++ .opening f.mark :: ms)

variable {f g : Frame} {outer : List Frame} {p p' : Parser} {ls ms : List Lexeme} {e : Expr}

/-- What is true of the innermost frame alone is true of the parser. -/
theorem Holds.frame (h : Holds ⟨f, outer⟩ ls) (hmark : g.mark = f.mark)
    (hg : ∀ ks, f.Holds ks → g.Holds (ks ++ ms)) : Holds ⟨g, outer⟩ (ls ++ ms) := by
  cases h with
  | outermost hf => exact .outermost (hg _ hf)
  | inside h hf =>
    rw [List.append_assoc, List.cons_append, ← hmark]
    exact .inside h (hg _ hf)

theorem Holds.step {l : Lexeme} (h : p.Holds ls) (hp : p.step l = some p') :
    p'.Holds (ls ++ [l]) := by
  cases l with
  | word text =>
    cases hp
    exact h.frame rfl fun ks hks => hks.add (.word text)
  | opening mark =>
    cases hp
    exact .inside h (Frame.holds_nil mark)
  | closing =>
    cases h with
    | outermost _ => cases hp
    | @inside f g outer ks ms h hf =>
      obtain ⟨e, he, rfl⟩ := Option.map_eq_some_iff.mp hp
      rw [List.append_assoc, List.cons_append]
      exact h.frame rfl fun ks hks => hks.add (.group f.mark (hf.grammar he))
  | bar =>
    obtain ⟨e, he, rfl⟩ := Option.map_eq_some_iff.mp hp
    refine h.frame rfl fun ks hks => ?_
    rw [← List.append_nil (ks ++ _)]
    exact .intro (.some (hks.grammar he)) .none

theorem Holds.run (h : p.Holds ls) (hp : p.run ms = some p') : p'.Holds (ls ++ ms) := by
  induction ms generalizing p ls with
  | nil =>
    cases hp
    rwa [List.append_nil]
  | cons m ms ih =>
    obtain ⟨q, hq, hrun⟩ := Option.bind_eq_some_iff.mp hp
    rw [List.append_cons]
    exact ih (h.step hq) hrun

end Parser

/-- **The parser finds just what the grammar says.** -/
theorem parseLexemes?_eq_some_iff {ls : List Lexeme} {e : Expr} :
    parseLexemes? ls = some e ↔ Grammar .union ls e := by
  constructor
  · intro h
    obtain ⟨⟨f, outer⟩, hp, he⟩ := Option.bind_eq_some_iff.mp h
    have hstart : Parser.Holds ⟨{ mark := "" }, []⟩ [] :=
      .outermost (Frame.holds_nil "")
    obtain ⟨houter, he⟩ := Option.ite_none_right_eq_some.mp he
    cases hstart.run hp with
    | outermost hf => exact hf.grammar he
    | inside _ _ => cases houter
  · intro h
    obtain ⟨f, hf, -, he⟩ := Parser.runs_of_grammar h "" []
    rw [parseLexemes?, hf]
    exact he

/-! ## Texts -/

/-- What a query text says. -/
def parse? (s : String) : Option Expr := (lex s).bind parseLexemes?

/-- A text can be read as an expression. -/
def Says (level : Level) (cs : List Char) (e : Expr) : Prop :=
  ∃ ls, Lexes cs ls ∧ Grammar level ls e

theorem parse?_eq_some_iff {s : String} {e : Expr} :
    parse? s = some e ↔ Says .union s.toList e := by
  rw [parse?, Option.bind_eq_some_iff]
  exact exists_congr fun ls => and_congr lex_eq_some_iff parseLexemes?_eq_some_iff

def Expr.joined : Connective → Expr → Expr → Expr
  | .all => .all
  | .any => .any

/-- How loosely the members of a collection are bound. -/
def Level.ofConnective : Connective → Level
  | .all => .conjunction
  | .any => .union

namespace Says

variable {cs ds : List Char} {l r e : Expr}

theorem loosened (c : Connective) (h : Says .operand cs e) : Says (.ofConnective c) cs e := by
  obtain ⟨ls, hls, he⟩ := h
  cases c with
  | all => exact ⟨ls, hls, .operand he⟩
  | any => exact ⟨ls, hls, .conjunction (.operand he)⟩

theorem union {c : Connective} (h : Says (.ofConnective c) cs e) : Says .union cs e := by
  obtain ⟨ls, hls, he⟩ := h
  cases c with
  | all => exact ⟨ls, hls, .conjunction he⟩
  | any => exact ⟨ls, hls, he⟩

theorem joined (c : Connective) (hl : Says (.ofConnective c) cs l) (hr : Says .operand ds r) :
    Says (.ofConnective c) (cs ++ (c.separator.toList ++ ds)) (Expr.joined c l r) := by
  obtain ⟨ls, hls, hl⟩ := hl
  obtain ⟨ms, hms, hr⟩ := hr
  refine ⟨_, hls.separated c hms, ?_⟩
  cases c with
  | all => exact .all hl hr
  | any => exact .any hl (.operand hr)

theorem enclosed (h : Says .union cs e) : Says .operand ('(' :: (cs ++ [')'])) (.group "" e) := by
  obtain ⟨ls, hls, he⟩ := h
  exact ⟨_, hls.enclosed, .group "" he⟩

theorem operand_of_group {mark : String} (h : Says .union cs (.group mark e)) :
    Says .operand cs (.group mark e) := by
  obtain ⟨ls, hls, he⟩ := h
  match he with
  | .conjunction (.operand he) => exact ⟨ls, hls, he⟩

end Says

end Language

end SearchWire
