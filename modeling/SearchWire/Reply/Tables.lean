import SearchWire.Reply.Reading

/-!
# Tables of replies

* `Reply.options`: options and their values;
* `Reply.attributes`: attributes of an index;
* `Reply.synonyms`: terms and their groups;
* `Suggestion`, `Reply.spelling`: misspelled terms and suggestions for them.
-/

namespace SearchWire

/-- A suggestion for a misspelled term. -/
structure Suggestion where
  score : Binary64
  text : String
deriving DecidableEq, Repr

namespace Reply

/-- Options and their values; a value that is no scalar counts as empty. -/
def options : Reply → Except Fault (Bindings String) :=
  table "FT.CONFIG GET" fun v => .ok v.stringOrEmpty

/-- Attributes of an index. -/
def attributes : Reply → Except Fault (Bindings Reply) := table "FT.INFO" .ok

/-- Terms and the groups of synonyms they are in. -/
def synonyms : Reply → Except Fault (Bindings (List String)) :=
  table "FT.SYNDUMP" (strings "FT.SYNDUMP")

/-- A score and a suggestion. -/
def suggestion (r : Reply) : Except Fault Suggestion := do
  match ← items "FT.SPELLCHECK" r with
  | [score, text] =>
    match score.real? with
    | none => .error (.reply "FT.SPELLCHECK" (.badScore score))
    | some x => return ⟨x, ← string "FT.SPELLCHECK" text⟩
  | _ => .error (.reply "FT.SPELLCHECK" .badSuggestion)

/-- A label, a term and the suggestions for it. -/
def spellingTerm (r : Reply) : Except Fault (String × List Suggestion) := do
  match ← items "FT.SPELLCHECK" r with
  | [_, term, suggestions] =>
    let term ← string "FT.SPELLCHECK" term
    let list ← (← items "FT.SPELLCHECK" suggestions).mapM suggestion
    return (term, list)
  | parts => .error (.reply "FT.SPELLCHECK" (.badTerm parts.length))

/-- Misspelled terms and the suggestions for them. -/
def spelling (r : Reply) : Except Fault (Bindings (List Suggestion)) := do
  let terms ← (← items "FT.SPELLCHECK" r).mapM spellingTerm
  return .ofList terms

end Reply

end SearchWire
