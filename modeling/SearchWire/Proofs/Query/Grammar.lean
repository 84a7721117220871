import Mathlib.Data.List.Chain
import SearchWire.Proofs.Query.Building

/-!
# The grammar of query strings

A query string without a text before it is `*` or an expression: a predicate, or expressions in
parentheses with blanks or bars between them. That holds as long as no collection in the query is
empty, and no longer than that: an empty collection inside another one leaves a gap.

* `Derives`, `WellFormed`: the grammar;
* `Tidy`: no operand is missing; `Derives.tidy`, `PredicateTree.filled_of_tidy`;
* **`PredicateTree.derives_render`**, **`Query.text_wellFormed_iff`**.
-/

namespace SearchWire

/-! ## The grammar -/

/-- What a text can be: an expression, or what stands between the parentheses of a collection. -/
inductive Phrase where
  | expression
  | members (c : Connective)

/-- The texts of the grammar over the texts of some leaves. -/
inductive Derives (Leaf : String → Prop) : Phrase → String → Prop where
  | leaf {s} (hs : Leaf s) : Derives Leaf .expression s
  | group {c s} (hs : Derives Leaf (.members c) s) : Derives Leaf .expression ("(" ++ s ++ ")")
  | member {c s} (hs : Derives Leaf .expression s) : Derives Leaf (.members c) s
  | conjuncts {s t} (hs : Derives Leaf .expression s) (ht : Derives Leaf (.members .all) t) :
    Derives Leaf (.members .all) (s ++ " " ++ t)
  | disjuncts {s t} (hs : Derives Leaf .expression s) (ht : Derives Leaf (.members .any) t) :
    Derives Leaf (.members .any) (s ++ " | " ++ t)

/-- The texts of some predicates. -/
def TextOf (ps : List Predicate) (s : String) : Prop := ∃ p ∈ ps, p.render = s

/-- A whole query over some predicates: all documents, or an expression. -/
def WellFormed (ps : List Predicate) (s : String) : Prop :=
  s = "*" ∨ Derives (TextOf ps) .expression s

namespace Derives

variable {Leaf : String → Prop}

theorem more {c : Connective} {s t : String} (hs : Derives Leaf .expression s)
    (ht : Derives Leaf (.members c) t) : Derives Leaf (.members c) (s ++ c.separator ++ t) := by
  cases c with
  | all => exact conjuncts hs ht
  | any => exact disjuncts hs ht

theorem intercalate {c : Connective} {ss : List String} (hne : ss ≠ [])
    (hss : ∀ s ∈ ss, Derives Leaf .expression s) :
    Derives Leaf (.members c) (c.separator.intercalate ss) := by
  induction ss with
  | nil => exact absurd rfl hne
  | cons s ss ih =>
    obtain ⟨hs, hrest⟩ := List.forall_mem_cons.mp hss
    cases ss with
    | nil =>
      rw [String.intercalate_singleton]
      exact member hs
    | cons t ss =>
      rw [String.intercalate_cons_cons]
      exact more hs (ih (List.cons_ne_nil t ss) hrest)

end Derives

/-- **A tree without empty collections is written as an expression.** -/
theorem PredicateTree.derives_render {ps : List Predicate} {t : PredicateTree}
    (hf : t.filled = true) (hp : ∀ p ∈ t.leaves, p ∈ ps) :
    Derives (TextOf ps) .expression t.render := by
  refine induct_filled ?leaf ?group t hf hp
  case leaf => exact fun p hp => .leaf ⟨p, hp, rfl⟩
  case group =>
    intro c first rest hfirst hrest
    have hparts : ∀ s ∈ (first :: rest).map render, Derives (TextOf ps) .expression s :=
      List.forall_mem_map.mpr (List.forall_mem_cons.mpr ⟨hfirst, hrest⟩)
    rw [render_group]
    exact .group (.intercalate (List.cons_ne_nil _ _) hparts)

/-! ## Gaps -/

/-- No operand is missing between two characters: neither a blank nor a closing parenthesis stands
right after an opening parenthesis or a blank. -/
def Gapless (a b : Char) : Prop := ¬ (a ∈ ['(', ' '] ∧ b ∈ [' ', ')'])

instance : DecidableRel Gapless := fun a b =>
  inferInstanceAs (Decidable (¬ (a ∈ ['(', ' '] ∧ b ∈ [' ', ')'])))

/-- No operand is missing in a text. -/
def Tidy (s : String) : Prop := s.toList.IsChain Gapless

instance (s : String) : Decidable (Tidy s) := inferInstanceAs (Decidable (s.toList.IsChain Gapless))

/-- A tidy text in parentheses. -/
structure Framed (s : String) : Prop where
  tidy : Tidy s
  first : s.toList.head? = some '('
  last : s.toList.getLast? = some ')'

namespace Framed

variable {s t : String}

theorem parenthesized (hs : Framed s) : Framed ("(" ++ s ++ ")") where
  tidy := by
    simp only [Tidy, String.toList_append]
    refine .append (.append (by decide) hs.tidy ?_) (by decide) ?_
    · simp [hs.first, Gapless]
    · simp [List.getLast?_cons, hs.last, Gapless]
  first := by simp
  last := by simp [List.getLast?_cons]

theorem joined (c : Connective) (hs : Framed s) (ht : Framed t) :
    Framed (s ++ c.separator ++ t) where
  tidy := by
    simp only [Tidy, String.toList_append]
    refine .append (.append hs.tidy (by cases c <;> decide) ?_) ht.tidy ?_
    · cases c <;> simp [hs.last, Connective.separator, Gapless]
    · cases c <;> simp [ht.first, List.getLast?_append, Connective.separator, Gapless]
  first := by simp [hs.first]
  last := by simp [List.getLast?_append, ht.last]

end Framed

theorem Predicate.framed_render {p : Predicate} (hp : Tidy p.render) : Framed p.render where
  tidy := hp
  first := by cases p <;> simp [render]
  last := by cases p <;> simp [render, List.getLast?_cons]

/-- A text of the grammar is tidy if its leaves are. -/
theorem Derives.framed {ps : List Predicate} (hps : ∀ p ∈ ps, Tidy p.render) {f : Phrase}
    {s : String} (h : Derives (TextOf ps) f s) : Framed s := by
  induction h with
  | leaf hs =>
    obtain ⟨p, hp, rfl⟩ := hs
    exact p.framed_render (hps p hp)
  | group _ ih => exact ih.parenthesized
  | member _ ih => exact ih
  | conjuncts _ _ ihs iht => exact ihs.joined .all iht
  | disjuncts _ _ ihs iht => exact ihs.joined .any iht

theorem Connective.ne_empty_and_tidy {c : Connective} {ss : List String} {a : Char}
    (ha : a ∈ ['(', ' '])
    (h : (a :: ((c.separator.intercalate ss).toList ++ [')'])).IsChain Gapless) :
    ∀ s ∈ ss, s ≠ "" ∧ Tidy s := by
  induction ss generalizing a with
  | nil => exact fun s hs => nomatch hs
  | cons s ss ih =>
    have hfirst : ∀ {b : Char} {cs : List Char}, b ∈ [' ', ')'] →
        (a :: (s.toList ++ b :: cs)).IsChain Gapless → s ≠ "" ∧ Tidy s := by
      intro b cs hb hs
      refine ⟨?_, hs.tail.left_of_append⟩
      rintro rfl
      exact (List.isChain_cons_cons.mp hs).1 ⟨ha, hb⟩
    cases ss with
    | nil =>
      rw [String.intercalate_singleton] at h
      exact List.forall_mem_singleton.mpr (hfirst (by decide) h)
    | cons t ss =>
      -- A separator begins with a blank, before which `s` ends, and ends with one.
      obtain ⟨cs, hcs⟩ : ∃ cs, c.separator.toList = ' ' :: cs := by
        cases c <;> exact ⟨_, rfl⟩
      obtain ⟨ds, hds⟩ : ∃ ds, c.separator.toList = ds ++ [' '] := by
        cases c
        · exact ⟨[], rfl⟩
        · exact ⟨[' ', '|'], rfl⟩
      rw [String.intercalate_cons_cons, String.toList_append, String.toList_append,
        List.append_assoc, List.append_assoc] at h
      refine List.forall_mem_cons.mpr ⟨?_, ih (a := ' ') (by decide) ?_⟩
      · rw [hcs] at h
        exact hfirst (by decide) h
      · rw [hds] at h
        exact h.suffix ⟨a :: (s.toList ++ ds), by simp⟩

/-- A tree with a tidy text has no empty collection, unless it is one itself. -/
theorem PredicateTree.filled_of_tidy {t : PredicateTree} (h : Tidy t.render)
    (hne : t.render ≠ "") : t.filled = true := by
  induction t with
  | leaf p => rfl
  | group c children ih =>
    rw [render_group] at h hne
    have hchildren : children ≠ [] := by
      rintro rfl
      exact hne rfl
    obtain ⟨t, rest, rfl⟩ := List.exists_cons_of_ne_nil hchildren
    have hw : (c.wrap ((t :: rest).map render)).toList =
        '(' :: ((c.separator.intercalate ((t :: rest).map render)).toList ++ [')']) := by
      simp [Connective.wrap]
    rw [Tidy, hw] at h
    refine (filled_group c _).mpr ⟨hchildren, fun u hu => ?_⟩
    obtain ⟨hu', htidy⟩ := Connective.ne_empty_and_tidy (by decide) h _ (List.mem_map_of_mem hu)
    exact ih u hu htidy hu'

/-! ## Collections and queries -/

namespace Collection

/-- Whether every collection inside a collection has members. -/
def filled (c : Collection) : Bool := c.children.all PredicateTree.filled

theorem filled_tree {c : Collection} (he : c.isEmpty = false) : c.tree.filled = c.filled := by
  rw [tree, PredicateTree.filled, PredicateTree.allFilled_eq_all, filled]
  simp_all [isEmpty]

theorem filled_of_isEmpty {c : Collection} (he : c.isEmpty = true) : c.filled = true := by
  rw [filled, List.isEmpty_iff.mp he]
  rfl

theorem queryText_of_isEmpty {c : Collection} (he : c.isEmpty = true) :
    c.queryText none = "*" := if_pos he

theorem queryText_of_not_isEmpty {c : Collection} (he : c.isEmpty = false) :
    c.queryText none = c.tree.render := if_neg (by rw [he]; decide)

theorem wellFormed_queryText {c : Collection} (hf : c.filled = true) :
    WellFormed c.tree.leaves (c.queryText none) := by
  cases he : c.isEmpty with
  | true => exact .inl (queryText_of_isEmpty he)
  | false =>
    rw [queryText_of_not_isEmpty he]
    exact .inr (PredicateTree.derives_render (by rwa [filled_tree he]) fun _ hp => hp)

theorem tidy_of_wellFormed {ps : List Predicate} {s : String} (hps : ∀ p ∈ ps, Tidy p.render)
    (h : WellFormed ps s) : Tidy s := by
  rcases h with rfl | h
  · decide
  · exact (h.framed hps).tidy

theorem filled_of_wellFormed {c : Collection} (hps : ∀ p ∈ c.tree.leaves, Tidy p.render)
    (h : WellFormed c.tree.leaves (c.queryText none)) : c.filled = true := by
  cases he : c.isEmpty with
  | true => exact filled_of_isEmpty he
  | false =>
    have htidy := tidy_of_wellFormed hps h
    rw [queryText_of_not_isEmpty he] at htidy
    rw [← filled_tree he]
    refine PredicateTree.filled_of_tidy htidy ?_
    obtain ⟨k, _ | ⟨t, rest⟩⟩ := c
    · cases he
    · rw [tree, PredicateTree.render_group]
      exact k.wrap_cons_ne_empty _ _

end Collection

namespace Query

/-- **A query string is in the grammar as long as no collection inside the query is empty.** If no
operand is missing in the predicates themselves, it is in the grammar no longer than that. -/
theorem text_wellFormed_iff (root : Collection) (calls : List Call) (s : String)
    (h : ((ofCollection root).callAll calls).text = .ok s) :
    let inside := ((ofCollection root).callAll calls).scopes.root
    let added := root.tree.leaves ++ Call.leavesAll calls
    (inside.filled = true → WellFormed added s) ∧
      ((∀ p ∈ added, Tidy p.render) → WellFormed added s → inside.filled = true) := by
  intro inside added
  obtain ⟨-, hinner, hs⟩ := (text_eq_ok_iff _ s).mp h
  have hleaves : inside.tree.leaves = added := by
    have hall := leaves_callAll (ofCollection root) calls
    rw [Scopes.leaves, hinner] at hall
    simpa [inside, added, Scopes.leaves, ofCollection] using hall
  have htext : inside.queryText none = s := by
    rw [← hs, base_callAll]
    rfl
  rw [← hleaves, ← htext]
  exact ⟨Collection.wellFormed_queryText, Collection.filled_of_wellFormed⟩

/-- One of two cities and a title. -/
def inTwoCities : List Call :=
  [.within .any [.predicate (.leaf (.tagLiteral "city" "New York")),
    .predicate (.leaf (.tagLiteral "city" "(LA)"))], .predicate (.leaf (.text "title" "bike"))]

/-- A query without empty collections is in the grammar; after an empty one it is not. -/
theorem text_wellFormed_inTwoCities :
    ((matchAll.callAll inTwoCities).text =
        .ok "(((@city:\x7bNew\\ York\x7d) | (@city:\x7b\\(LA\\)\x7d)) (@title:bike))" ∧
      WellFormed (Call.leavesAll inTwoCities)
        "(((@city:\x7bNew\\ York\x7d) | (@city:\x7b\\(LA\\)\x7d)) (@title:bike))") ∧
    ((matchAll.callAll (inTwoCities ++ [.enter .any, .leave])).text =
        .ok "(((@city:\x7bNew\\ York\x7d) | (@city:\x7b\\(LA\\)\x7d)) (@title:bike) )" ∧
      ¬ WellFormed (Call.leavesAll (inTwoCities ++ [.enter .any, .leave]))
        "(((@city:\x7bNew\\ York\x7d) | (@city:\x7b\\(LA\\)\x7d)) (@title:bike) )") := by
  have hfilled : (matchAll.callAll inTwoCities).text =
      .ok "(((@city:\x7bNew\\ York\x7d) | (@city:\x7b\\(LA\\)\x7d)) (@title:bike))" := by cbv
  have hempty : (matchAll.callAll (inTwoCities ++ [.enter .any, .leave])).text =
      .ok "(((@city:\x7bNew\\ York\x7d) | (@city:\x7b\\(LA\\)\x7d)) (@title:bike) )" := by cbv
  have htidy : ∀ p ∈ Call.leavesAll (inTwoCities ++ [.enter .any, .leave]), Tidy p.render := by
    decide +kernel
  refine ⟨⟨hfilled, ?_⟩, hempty, fun hw => ?_⟩
  · exact (text_wellFormed_iff ⟨.all, []⟩ inTwoCities _ hfilled).1 (by cbv)
  · exact absurd ((text_wellFormed_iff ⟨.all, []⟩ _ _ hempty).2 htidy hw) (by decide +kernel)

/-- An empty collection leaves a gap. -/
theorem not_wellFormed_text : ¬ ∀ (calls : List Call) (s : String),
    (matchAll.callAll calls).text = .ok s → WellFormed (Call.leavesAll calls) s := by
  intro h
  have hempty := h [.enter .any, .leave] "()" (by cbv)
  have htidy : Tidy "()" :=
    Collection.tidy_of_wellFormed (fun p hp => absurd hp List.not_mem_nil) hempty
  exact absurd htidy (by decide)

end Query

end SearchWire
