import SearchWire.Predicate.Basic

/-!
# The lexemes of a query text

A query text as a row of words, parentheses and bars. A blank ends a word, but not inside braces,
brackets or quotes, nor after a backslash. What is attached to an opening parenthesis, such as a
field or a minus sign, belongs to it.

* `Lexeme`, `Lexer.feed`, `lex`: the lexemes of a text, character by character;
* `Lexes`: a text with certain lexemes, wherever it stands between blanks or parentheses;
* `Stays`: a stretch of text that stays inside one word;
* `Lexes.separated`, `Lexes.enclosed`, `lex_eq_some_iff`.
-/

namespace SearchWire

namespace Language

/-- The parts of a query text. -/
inductive Lexeme where
  | word (text : String)
  /-- An opening parenthesis, with what is attached to it. -/
  | opening (mark : String)
  | closing
  | bar
deriving DecidableEq, Repr

/-- The character that ends a stretch in which blanks, bars and parentheses mean nothing. -/
def closer? : Char → Option Char
  | '\x7b' => some '\x7d'
  | '[' => some ']'
  | '"' => some '"'
  | _ => none

/-- A query text read in part. -/
structure Lexer where
  done : List Lexeme := []
  /-- What was read of the next word. -/
  word : List Char := []
  /-- The character that is awaited. -/
  stop : Option Char := none
  /-- Whether a backslash was the last character. -/
  escaped : Bool := false
deriving Repr

namespace Lexer

def keep (x : Lexer) (c : Char) : Lexer := { x with word := x.word ++ [c] }

def emit (x : Lexer) (l : Lexeme) : Lexer := { x with done := x.done ++ [l] }

/-- The end of the word, if there is one. -/
def endWord (x : Lexer) : Lexer :=
  if x.word.isEmpty then x else { x.emit (.word (String.ofList x.word)) with word := [] }

/-- The next character of a text. -/
def feed (x : Lexer) (c : Char) : Lexer :=
  if x.escaped then { x.keep c with escaped := false }
  else if c = '\\' then { x.keep c with escaped := true }
  else match x.stop with
    | some stop => { x.keep c with stop := if c = stop then none else some stop }
    | none =>
      if c = ' ' then x.endWord
      else if c = '|' then x.endWord.emit .bar
      else if c = '(' then { x.emit (.opening (String.ofList x.word)) with word := [] }
      else if c = ')' then x.endWord.emit .closing
      else { x.keep c with stop := closer? c }

def read (x : Lexer) (cs : List Char) : Lexer := cs.foldl feed x

/-- Whether no character is awaited. -/
def closed (x : Lexer) : Bool :=
  match x.stop with
  | none => !x.escaped
  | some _ => false

end Lexer

/-- The lexemes of a text, in which every brace, bracket and quote is closed. -/
def lex (s : String) : Option (List Lexeme) :=
  let x := Lexer.read {} s.toList
  if x.closed then some x.endWord.done else none

/-! ## Texts one after another -/

/-- What the separator of a collection is read as. A blank leaves no trace. -/
def separatorLexemes : Connective → List Lexeme
  | .all => []
  | .any => [.bar]

namespace Lexer

theorem read_append (x : Lexer) (cs ds : List Char) : x.read (cs ++ ds) = (x.read cs).read ds :=
  List.foldl_append

theorem read_cons (x : Lexer) (c : Char) (cs : List Char) : x.read (c :: cs) = (x.feed c).read cs :=
  rfl

/-- A lexer with other lexemes before its own. -/
def after (x : Lexer) (ls : List Lexeme) : Lexer := { x with done := ls ++ x.done }

theorem endWord_after (x : Lexer) (ls : List Lexeme) :
    (x.after ls).endWord = x.endWord.after ls := by
  unfold endWord
  cases hw : x.word.isEmpty <;> simp [after, emit, hw]

theorem feed_after (x : Lexer) (ls : List Lexeme) (c : Char) :
    (x.after ls).feed c = (x.feed c).after ls := by
  unfold feed
  rw [endWord_after]
  obtain ⟨done, word, _ | stop, _ | _⟩ := x <;> simp only [after, keep, emit] <;> grind

theorem read_after (x : Lexer) (ls : List Lexeme) (cs : List Char) :
    (x.after ls).read cs = (x.read cs).after ls := by
  induction cs generalizing x with
  | nil => rfl
  | cons c cs ih => rw [read_cons, feed_after, ih, read_cons]

/-- A lexer between two words. -/
def between (ls : List Lexeme) : Lexer := { done := ls }

theorem between_eq_after (ls : List Lexeme) : between ls = after {} ls := by
  simp [between, after]

variable {x : Lexer}

theorem endWord_of_closed (h : x.closed = true) : x.endWord = between x.endWord.done := by
  obtain ⟨done, word, _ | stop, _ | _⟩ := x
  · cases word <;> rfl
  all_goals cases h

/-! Where no character is awaited, blanks and parentheses have their meaning. -/

theorem feed_blank (h : x.closed = true) : x.feed ' ' = x.endWord := by
  obtain ⟨done, word, _ | stop, _ | _⟩ := x <;> first | rfl | cases h

theorem feed_closing (h : x.closed = true) : x.feed ')' = x.endWord.emit .closing := by
  obtain ⟨done, word, _ | stop, _ | _⟩ := x <;> first | rfl | cases h

end Lexer

/-- What it is for a text to have some lexemes. -/
structure Lexes (cs : List Char) (ls : List Lexeme) : Prop where
  closed : (Lexer.read {} cs).closed = true
  done : (Lexer.read {} cs).endWord.done = ls

theorem lex_eq_some_iff {s : String} {ls : List Lexeme} : lex s = some ls ↔ Lexes s.toList ls := by
  unfold lex
  constructor
  · intro h
    obtain ⟨hclosed, hdone⟩ := Option.ite_none_right_eq_some.mp h
    exact ⟨hclosed, Option.some.inj hdone⟩
  · rintro ⟨hclosed, rfl⟩
    exact if_pos hclosed

namespace Lexes

open Lexer

variable {cs ds : List Char} {ls ms : List Lexeme}

theorem closed_after (h : Lexes cs ls) (ks : List Lexeme) :
    ((between ks).read cs).closed = true := by
  rw [between_eq_after, read_after]
  exact h.closed

/-- After a text that stands between two words, its last word ends where it ends. -/
theorem endWord_after (h : Lexes cs ls) (ks : List Lexeme) :
    ((between ks).read cs).endWord = between (ks ++ ls) := by
  rw [between_eq_after, read_after, Lexer.endWord_after, endWord_of_closed h.closed, h.done]
  rfl

theorem separated (c : Connective) (hcs : Lexes cs ls) (hds : Lexes ds ms) :
    Lexes (cs ++ (c.separator.toList ++ ds)) (ls ++ (separatorLexemes c ++ ms)) := by
  have hword : (Lexer.read {} cs).feed ' ' = between ls :=
    (feed_blank hcs.closed).trans (hcs.endWord_after [])
  have hsep : (Lexer.read {} (cs ++ c.separator.toList)) = between (ls ++ separatorLexemes c) := by
    rw [read_append]
    cases c with
    | all =>
      rw [separatorLexemes, List.append_nil]
      exact hword
    | any =>
      -- The blank before the bar ends the word, and the one after it has nothing to end.
      change (((Lexer.read {} cs).feed ' ').feed '|').feed ' ' = _
      rw [hword]
      rfl
  rw [← List.append_assoc, ← List.append_assoc]
  constructor
  · rw [read_append, hsep]
    exact hds.closed_after _
  · rw [read_append, hsep, hds.endWord_after]
    rfl

theorem enclosed (h : Lexes cs ls) :
    Lexes ('(' :: (cs ++ [')'])) (.opening "" :: (ls ++ [.closing])) := by
  have hopen : Lexer.feed {} '(' = between [.opening ""] := rfl
  have hread : Lexer.read {} ('(' :: (cs ++ [')'])) =
      between (.opening "" :: (ls ++ [.closing])) := by
    rw [read_cons, hopen, read_append]
    change ((between [.opening ""]).read cs).feed ')' = _
    rw [feed_closing (h.closed_after _), h.endWord_after]
    simp [between, emit]
  constructor
  · rw [hread]
    rfl
  · rw [hread]
    rfl

end Lexes

/-! ## Words -/

/-- A stretch of text that goes on with a word and ends nothing: where a word can stand, or inside
braces, brackets or quotes that end with `stop`. -/
def Stays (stop : Option Char) (cs : List Char) : Prop :=
  ∀ ls word, (⟨ls, word, stop, false⟩ : Lexer).read cs = ⟨ls, word ++ cs, stop, false⟩

/-- The characters that end a word or begin a stretch of another kind. -/
def marks : List Char := [' ', '|', '(', ')', '\\', '\x7b', '[', '"']

/-- Whether a stretch of text has none of these characters. -/
def unmarked (cs : List Char) : Bool := cs.all fun c => !marks.contains c

namespace Stays

open Lexer

variable {stop : Option Char} {cs ds : List Char}

theorem append (hcs : Stays stop cs) (hds : Stays stop ds) : Stays stop (cs ++ ds) := by
  intro ls word
  rw [read_append, hcs, hds, List.append_assoc]

theorem flatMap {f : Char → List Char} (h : ∀ c ∈ cs, Stays stop (f c)) :
    Stays stop (cs.flatMap f) := by
  induction cs with
  | nil => exact fun ls word => by rw [List.flatMap_nil, List.append_nil]; rfl
  | cons c cs ih =>
    obtain ⟨hc, hcs⟩ := List.forall_mem_cons.mp h
    rw [List.flatMap_cons]
    exact hc.append (ih hcs)

theorem of_forall (h : ∀ c ∈ cs, Stays stop [c]) : Stays stop cs := by
  rw [← List.flatMap_singleton' cs]
  exact flatMap h

theorem of_unmarked (h : unmarked cs = true) : Stays none cs := by
  refine of_forall fun c hc ls word => ?_
  have hmarks := List.all_eq_true.mp h c hc
  simp only [marks, List.contains_eq_mem, List.mem_cons, List.not_mem_nil, or_false,
    Bool.not_eq_true', decide_eq_false_iff_not, not_or] at hmarks
  have hcloser : closer? c = none := by
    unfold closer?
    split <;> simp_all
  simp [Lexer.read, feed, hmarks, hcloser, keep]

theorem lexes (h : Stays none cs) (hne : cs ≠ []) : Lexes cs [.word (String.ofList cs)] := by
  have hread : Lexer.read {} cs = ⟨[], cs, none, false⟩ := h [] []
  constructor
  · rw [hread]
    rfl
  · rw [hread]
    cases cs with
    | nil => exact absurd rfl hne
    | cons c cs => rfl

theorem inside {c stop : Char} (hstop : c ≠ stop) (hslash : c ≠ '\\') :
    Stays (some stop) [c] := by
  intro ls word
  simp [Lexer.read, feed, hstop, hslash, keep]

/-- A literal tag value stays inside its braces, whatever the value. -/
theorem escapeTag (value : String) : Stays (some '\x7d') (escapeTag value).toList := by
  rw [SearchWire.escapeTag, String.toList_ofList]
  refine flatMap fun c _ => ?_
  unfold escapeTagChar
  cases hc : tagSpecials.contains c with
  | true => exact fun ls word => by simp [Lexer.read, feed, keep]
  | false => exact inside (by rintro rfl; cases hc) (by rintro rfl; cases hc)

theorem enclosed (start : Char) {stop : Char} (h : Stays (some stop) cs)
    (hstart : closer? start = some stop) : Stays none (start :: (cs ++ [stop])) := by
  intro ls word
  have hopen : (⟨ls, word, none, false⟩ : Lexer).feed start =
      ⟨ls, word ++ [start], some stop, false⟩ := by
    unfold closer? at hstart
    split at hstart <;> cases hstart <;> rfl
  have hclose : ∀ word, (⟨ls, word, some stop, false⟩ : Lexer).read [stop] =
      ⟨ls, word ++ [stop], none, false⟩ := by
    intro word
    have hslash : stop ≠ '\\' := by
      unfold closer? at hstart
      split at hstart <;> cases hstart <;> decide
    simp [Lexer.read, feed, hslash, keep]
  rw [read_cons, hopen, read_append, h, hclose]
  simp

end Stays

end Language

end SearchWire
