import SearchWire.Proofs.Language.Expressions
import SearchWire.Proofs.Number.Writing
import SearchWire.Proofs.Query.Grammar
import SearchWire.Proofs.Query.Replay

/-!
# Texts refined by predicates

A query string is a text and, after a blank, a collection of predicates in parentheses. The
collection joins the last conjunction of the text. So text and predicates are a conjunction as long
as the text has no bar outside parentheses; if it has one, the predicates refine only what stands
after the last bar.

* `Predicate.Readable`, `Predicate.Plain`: predicates that are one operand of the query language;
* `PredicateTree.says_render`: so is every tree of them without empty collections;
* `Language.Expr.followedBy`, `Language.Says.followedBy`: an operand after a text;
* **`Query.parse?_text`**.
-/

namespace SearchWire

open SearchWire.Language

/-! ## Predicates and trees -/

namespace Predicate

/-- The text of a predicate is an expression in parentheses. -/
def Readable (p : Predicate) : Prop := ∃ e, parse? p.render = some (.group "" e)

theorem Readable.operand {p : Predicate} (h : p.Readable) :
    ∃ e, Says .operand p.render.toList (.group "" e) := by
  obtain ⟨e, he⟩ := h
  exact ⟨e, (parse?_eq_some_iff.mp he).operand_of_group⟩

/-- Predicates on fields and of words without marks of the language. -/
inductive Plain : Predicate → Prop where
  | tag {field} (hfield : unmarked field.toList = true) (value : String) :
    Plain (tagLiteral field value)
  | text {field pattern} (hfield : unmarked field.toList = true)
    (hpattern : unmarked pattern.toList = true) : Plain (text field pattern)
  | numeric {field} (hfield : unmarked field.toList = true) (min max : Binary64) :
    Plain (numeric field min max)

theorem readable_of_stays {p : Predicate} {cs : List Char} (hp : p.render.toList =
    '(' :: (cs ++ [')'])) (hcs : Stays none cs) (hne : cs ≠ []) : p.Readable := by
  refine ⟨.word (String.ofList cs), parse?_eq_some_iff.mpr ?_⟩
  have hword : Says .union cs (.word (String.ofList cs)) :=
    ⟨_, hcs.lexes hne, .conjunction (.operand (.word _))⟩
  obtain ⟨ls, hls, he⟩ := hword.enclosed
  rw [hp]
  exact ⟨ls, hls, .conjunction (.operand he)⟩

/-- A test of a plain field is one operand: literal values and bounds cannot end it. -/
theorem Plain.readable {p : Predicate} (h : p.Plain) : p.Readable := by
  have hat : Stays none ['@'] := .of_unmarked rfl
  have hcolon : Stays none [':'] := .of_unmarked rfl
  have hword : ∀ {field : String} {cs : List Char}, unmarked field.toList = true → Stays none cs →
      Stays none ('@' :: (field.toList ++ ':' :: cs)) := fun hfield hcs =>
    hat.append ((Stays.of_unmarked hfield).append (hcolon.append hcs))
  cases h with
  | tag hfield value =>
    have hvalue := (Stays.escapeTag value).enclosed '\x7b' rfl
    refine readable_of_stays ?_ (hword hfield hvalue) (List.cons_ne_nil _ _)
    simp [render, tagLiteral]
  | text hfield hpattern =>
    have hwords := Stays.of_unmarked hpattern
    refine readable_of_stays ?_ (hword hfield hwords) (List.cons_ne_nil _ _)
    simp [render]
  | numeric hfield min max =>
    have hnumber : ∀ x, Stays (some ']') (Token.realText x).toList := by
      refine fun x => .of_forall fun c hc => .inside ?_ ?_ <;> rintro rfl <;>
        exact absurd (Token.mem_realText hc) (by decide)
    have hblank : Stays (some ']') [' '] := .inside (by decide) (by decide)
    have hbounds := ((hnumber min).append (hblank.append (hnumber max))).enclosed '[' rfl
    refine readable_of_stays ?_ (hword hfield hbounds) (List.cons_ne_nil _ _)
    simp [render]

end Predicate

namespace PredicateTree

theorem says_row (c : Connective) {cs : List Char} {e : Expr} (ss : List String)
    (h : Says (.ofConnective c) cs e) (hss : ∀ s ∈ ss, ∃ e, Says .operand s.toList e) :
    ∃ e, Says (.ofConnective c) (cs ++ ss.flatMap fun s => c.separator.toList ++ s.toList) e := by
  induction ss generalizing cs e with
  | nil =>
    refine ⟨e, ?_⟩
    rwa [List.flatMap_nil, List.append_nil]
  | cons s ss ih =>
    obtain ⟨⟨r, hr⟩, hss⟩ := List.forall_mem_cons.mp hss
    rw [List.flatMap_cons, ← List.append_assoc]
    exact ih (h.joined c hr) hss

/-- **A tree without empty collections is one operand** if its leaves are. -/
theorem says_render {t : PredicateTree} (hf : t.filled = true)
    (hp : ∀ p ∈ t.leaves, p.Readable) : ∃ e, Says .operand t.render.toList (.group "" e) := by
  refine induct_filled ?leaf ?group t hf hp
  case leaf => exact fun p hp => hp.operand
  case group =>
    rintro c first rest ⟨e, hfirst⟩ hrest
    have hparts : ∀ s ∈ rest.map render, ∃ e, Says .operand s.toList e :=
      List.forall_mem_map.mpr fun t ht => (hrest t ht).imp' _ fun _ h => h
    obtain ⟨e, he⟩ := says_row c (rest.map render) (hfirst.loosened c) hparts
    rw [render_group, List.map_cons, Connective.toList_wrap_cons]
    exact ⟨e, he.union.enclosed⟩

end PredicateTree

/-! ## An operand after a text -/

namespace Language

/-- An expression with one more operand after it, which joins its last conjunction. -/
def Expr.followedBy : Expr → Expr → Expr
  | .any l r, e => .any l (.all r e)
  | p, e => .all p e

theorem Expr.followedBy_eq_all_iff (p e : Expr) :
    p.followedBy e = .all p e ↔ ∀ l r, p ≠ .any l r := by
  cases p <;> simp [followedBy]

theorem Says.followedBy {cs ds : List Char} {p e : Expr} (hp : Says .union cs p)
    (he : Says .operand ds e) : Says .union (cs ++ ' ' :: ds) (p.followedBy e) := by
  obtain ⟨ls, hls, hp⟩ := hp
  obtain ⟨ms, hms, he⟩ := he
  refine ⟨ls ++ ms, hls.separated .all hms, ?_⟩
  -- The operand joins a conjunction, and in a union that is the one after the last bar.
  cases hp with
  | conjunction hp =>
    have hall : p.followedBy e = .all p e :=
      (Expr.followedBy_eq_all_iff p e).mpr fun l r hlr => by
        subst hlr
        nomatch hp
    rw [hall]
    exact .conjunction (.all hp he)
  | any hl hr =>
    rw [List.append_assoc, List.cons_append]
    exact .any hl (.all hr he)

end Language

/-! ## Queries -/

namespace Query

/-- A query that refines a text by a collection of predicates. -/
structure Refines (q : Query) (base : String) (root : Collection) : Prop where
  base : q.base = some base
  balanced : q.unbalanced = false
  scopes : q.scopes = { root := root }

theorem refines_callAll {ts : List PredicateTree} {calls : List Call} (h : Replays ts calls)
    (base : String) : ((ofText base).callAll calls).Refines base ⟨.all, ts⟩ := by
  rw [callAll_of_replays rfl h]
  exact ⟨rfl, rfl, rfl⟩

theorem Refines.text {q : Query} {base : String} {root : Collection} (h : q.Refines base root)
    (hne : root.isEmpty = false) : q.text = .ok (base ++ " " ++ root.render) := by
  refine (text_eq_ok_iff q _).mpr ⟨h.balanced, ?_, ?_⟩
  · rw [h.scopes]
  · simp [h.base, h.scopes, textOver, hne]

/-- **A text and the predicates that refine it are a conjunction just if the text is no union.** The
predicates join the last conjunction of the text. -/
theorem parse?_text {q : Query} {base : String} {root : Collection} {p : Expr}
    (hq : q.Refines base root) (hp : parse? base = some p) (hne : root.isEmpty = false)
    (hf : root.filled = true) (hleaves : ∀ l ∈ root.tree.leaves, l.Readable) :
    ∃ s e, q.text = .ok s ∧ parse? root.render = some e ∧
      parse? s = some (p.followedBy e) ∧
      (parse? s = some (.all p e) ↔ ∀ l r, p ≠ .any l r) := by
  -- The root collection is in parentheses, so it is one operand after the text.
  obtain ⟨e, he⟩ := PredicateTree.says_render (by rwa [Collection.filled_tree hne]) hleaves
  have hs : parse? (base ++ " " ++ root.render) = some (p.followedBy (.group "" e)) := by
    rw [parse?_eq_some_iff, String.toList_append, String.toList_append, List.append_assoc]
    exact (parse?_eq_some_iff.mp hp).followedBy he
  refine ⟨_, .group "" e, hq.text hne, ?_, hs, ?_⟩
  · exact parse?_eq_some_iff.mpr (he.loosened .any)
  · rw [hs, Option.some_inj]
    exact Expr.followedBy_eq_all_iff p _

/-- A color, and one of two brands. -/
def inRed : List PredicateTree :=
  [.leaf (.tagLiteral "color" "red"),
    .group .any [.leaf (.tagLiteral "brand" "Acme (EU)"), .leaf (.text "brand" "velo*")]]

/-- Refined by predicates, a text of two conjuncts is a conjunction. -/
theorem parse?_text_inRed : ∃ s e,
    ((ofText "@title:(bike | car) wheel").callAll (PredicateTree.nestedAll inRed)).text = .ok s ∧
      parse? (Collection.render ⟨.all, inRed⟩) = some e ∧
      parse? s = some (.all (.all (.group "@title:" (.any (.word "bike") (.word "car")))
        (.word "wheel")) e) := by
  have hp : parse? "@title:(bike | car) wheel" = some (.all
      (.group "@title:" (.any (.word "bike") (.word "car"))) (.word "wheel")) := by
    cbv
  have hplain : ∀ l ∈ (Collection.tree ⟨.all, inRed⟩).leaves, l.Plain := by
    refine List.forall_mem_cons.mpr ⟨.tag (by decide) "red", ?_⟩
    refine List.forall_mem_cons.mpr ⟨.tag (by decide) "Acme (EU)", ?_⟩
    exact List.forall_mem_singleton.mpr (.text (by decide) (by decide))
  obtain ⟨s, e, hs, he, -, hall⟩ := parse?_text
    (refines_callAll (replays_nestedAll inRed) "@title:(bike | car) wheel") hp rfl (by cbv)
    fun l hl => (hplain l hl).readable
  exact ⟨s, e, hs, he, hall.mpr (by simp)⟩

/-- After a text of two alternatives, predicates refine the last one only. -/
theorem not_parse?_text : ¬ ∀ (base : String) (ts : List PredicateTree) (p e : Expr) (s : String),
    parse? base = some p → ts ≠ [] → PredicateTree.allFilled ts = true →
    (∀ l ∈ PredicateTree.leavesAll ts, l.Readable) →
    ((ofText base).callAll (PredicateTree.nestedAll ts)).text = .ok s →
    parse? (Collection.render ⟨.all, ts⟩) = some e → parse? s = some (.all p e) := by
  intro h
  have hs := h "@title:bike | @title:car" [.leaf (.tagLiteral "color" "red")]
    (.any (.word "@title:bike") (.word "@title:car"))
    (.group "" (.group "" (.word "@color:\x7bred\x7d")))
    "@title:bike | @title:car ((@color:\x7bred\x7d))" (by cbv) (List.cons_ne_nil _ _) (by cbv)
    (List.forall_mem_singleton.mpr (Predicate.Plain.tag (by decide) "red").readable)
    (by cbv) (by cbv)
  have hlast : parse? "@title:bike | @title:car ((@color:\x7bred\x7d))" =
      some (.any (.word "@title:bike") (.all (.word "@title:car")
        (.group "" (.group "" (.word "@color:\x7bred\x7d"))))) := by
    cbv
  rw [hlast] at hs
  cases hs

end Query

end SearchWire
