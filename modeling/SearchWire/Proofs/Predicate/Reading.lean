import Mathlib.Data.Set.List
import SearchWire.Proofs.Number.Writing
import SearchWire.Proofs.Predicate.Tree

/-!
# Reading predicates back

The query language read as a server does it. A literal tag value may hold any character of the
language, and still a collection of literal predicates is read as the collection that was written:
no value can end its predicate or open another one.

* `Outline`, `Outline.read?`: what the text of a tree says, and its reader;
* `LiteralTree`: trees of literal tags and ranges, without empty collections;
* `Outline.tagValue_escapeTag`: a literal value ends where it was meant to end;
* `Outline.readMembers_row`, `Outline.readTree_render`: collections by induction on the tree;
* **`Collection.read?_render_literal`**.
-/

namespace SearchWire

/-! ## The reader -/

/-- What the text of a tree says. One member alone does not show how it would be combined. -/
inductive Outline where
  | tag (field value : String)
  | range (field min max : String)
  | group (connective : Option Connective) (members : List Outline)
deriving Repr

namespace Outline

/-- What stands before the next `stop`, and what comes after it. -/
def upTo (stop : Char) : List Char → Option (List Char × List Char)
  | [] => none
  | c :: cs => if c = stop then some ([], cs) else (upTo stop cs).map fun r => (c :: r.1, r.2)

/-- A tag value, up to the first closing brace that has no backslash; a character after a backslash
stands for itself. -/
def tagValue : List Char → Option (List Char × List Char)
  | '\\' :: c :: cs => (tagValue cs).map fun r => (c :: r.1, r.2)
  | '\x7d' :: cs => some ([], cs)
  | c :: cs => (tagValue cs).map fun r => (c :: r.1, r.2)
  | [] => none

def closed : List Char → Option (List Char)
  | ')' :: cs => some cs
  | _ => none

/-- A predicate after its `(@`. -/
def readLeaf (cs : List Char) : Option (Outline × List Char) := do
  let (field, cs) ← upTo ':' cs
  match cs with
  | '\x7b' :: cs =>
    let (value, cs) ← tagValue cs
    return (.tag (String.ofList field) (String.ofList value), ← closed cs)
  | '[' :: cs =>
    let (min, cs) ← upTo ' ' cs
    let (max, cs) ← upTo ']' cs
    return (.range (String.ofList field) (String.ofList min) (String.ofList max), ← closed cs)
  | _ => none

/-- The connective between the first member and the next one. -/
def connective? : List Char → Option Connective
  | ' ' :: '|' :: _ => some .any
  | ' ' :: _ => some .all
  | _ => none

def pastSeparator : Connective → List Char → Option (List Char)
  | .all, ' ' :: cs => some cs
  | .any, ' ' :: '|' :: ' ' :: cs => some cs
  | _, _ => none

/-- The members of a collection after the first, each after a separator, up to the closing
parenthesis. -/
def readMembers (member : List Char → Option (Outline × List Char)) (c : Connective) :
    Nat → List Char → Option (List Outline × List Char)
  | 0, _ => none
  | fuel + 1, cs =>
    match pastSeparator c cs with
    | none => (closed cs).map fun cs => ([], cs)
    | some cs => do
      let (t, cs) ← member cs
      let (ts, cs) ← readMembers member c fuel cs
      return (t :: ts, cs)

/-- A predicate or a collection. -/
def readTree : Nat → List Char → Option (Outline × List Char)
  | 0, _ => none
  | fuel + 1, cs =>
    match cs with
    | '(' :: '@' :: cs => readLeaf cs
    | '(' :: cs => do
      let (first, cs) ← readTree fuel cs
      match connective? cs with
      | none => return (.group none [first], ← closed cs)
      | some c =>
        let (rest, cs) ← readMembers (readTree fuel) c fuel cs
        return (.group (some c) (first :: rest), cs)
    | _ => none

def read? (s : String) : Option Outline :=
  match readTree s.toList.length s.toList with
  | some (t, []) => some t
  | _ => none

end Outline

/-! ## Literal trees -/

/-- Names of fields: words of letters, digits and underscores, and every other text without the
colon that ends a name. -/
structure FieldName where
  text : String
  noColon : ':' ∉ text.toList

/-- Trees of literal tags and ranges whose collections all have members. -/
inductive LiteralTree where
  | tag (field : FieldName) (value : String)
  | range (field : FieldName) (min max : Binary64)
  | group (c : Connective) (first : LiteralTree) (rest : List LiteralTree)

namespace LiteralTree

mutual

/-- The tree of predicates. -/
def tree : LiteralTree → PredicateTree
  | tag field value => .leaf (.tagLiteral field.text value)
  | range field min max => .leaf (.numeric field.text min max)
  | group c first rest => .group c (tree first :: trees rest)

def trees : List LiteralTree → List PredicateTree
  | [] => []
  | t :: rest => tree t :: trees rest

end

mutual

/-- What the text of the tree should say. -/
def outline : LiteralTree → Outline
  | tag field value => .tag field.text value
  | range field min max => .range field.text (Token.realText min) (Token.realText max)
  | group c first rest =>
    .group (if rest.isEmpty then none else some c) (outline first :: outlines rest)

def outlines : List LiteralTree → List Outline
  | [] => []
  | t :: rest => outline t :: outlines rest

end

theorem trees_eq_map (ts : List LiteralTree) : trees ts = ts.map tree := by
  induction ts with
  | nil => rfl
  | cons t ts ih => rw [trees, ih, List.map_cons]

theorem outlines_eq_map (ts : List LiteralTree) : outlines ts = ts.map outline := by
  induction ts with
  | nil => rfl
  | cons t ts ih => rw [outlines, ih, List.map_cons]

theorem tree_group (c : Connective) (first : LiteralTree) (rest : List LiteralTree) :
    (group c first rest).tree = .group c ((first :: rest).map tree) := by
  rw [tree, trees_eq_map, List.map_cons]

theorem outline_group (c : Connective) (first : LiteralTree) (rest : List LiteralTree) :
    (group c first rest).outline =
      .group (if rest.isEmpty then none else some c) ((first :: rest).map outline) := by
  rw [outline, outlines_eq_map, List.map_cons]

@[elab_as_elim, induction_eliminator]
theorem induct {P : LiteralTree → Prop} (tag : ∀ field value, P (tag field value))
    (range : ∀ field min max, P (range field min max))
    (group : ∀ c first rest, P first → (∀ t ∈ rest, P t) → P (group c first rest))
    (t : LiteralTree) : P t :=
  t.rec (motive_2 := fun ts => ∀ t ∈ ts, P t) tag range group (fun _ ht => nomatch ht)
    fun _ _ ht hts => List.forall_mem_cons.mpr ⟨ht, hts⟩

def chars (t : LiteralTree) : List Char := t.tree.render.toList

/-- The members of a collection after the first, each after a separator. -/
def row (c : Connective) (ts : List LiteralTree) : List Char :=
  ts.flatMap fun t => c.separator.toList ++ t.chars

theorem chars_tag (field : FieldName) (value : String) : (tag field value).chars =
    '(' :: '@' :: (field.text.toList ++ ':' :: '\x7b' ::
      (value.toList.flatMap escapeTagChar ++ ['\x7d', ')'])) := by
  simp [chars, tree, PredicateTree.render, Predicate.tagLiteral, Predicate.render, escapeTag]

theorem chars_range (field : FieldName) (min max : Binary64) : (range field min max).chars =
    '(' :: '@' :: (field.text.toList ++ ':' :: '[' ::
      ((Token.realText min).toList ++ ' ' :: ((Token.realText max).toList ++ [']', ')']))) := by
  simp [chars, tree, PredicateTree.render, Predicate.render]

theorem chars_group (c : Connective) (first : LiteralTree) (rest : List LiteralTree) :
    (group c first rest).chars = '(' :: (first.chars ++ row c rest ++ [')']) := by
  rw [chars, tree_group, PredicateTree.render_group, List.map_cons, List.map_cons,
    Connective.toList_wrap_cons, List.map_map, List.flatMap_map]
  rfl

theorem exists_chars_eq_cons (t : LiteralTree) : ∃ cs, t.chars = '(' :: cs := by
  cases t with
  | tag field value => exact ⟨_, chars_tag field value⟩
  | range field min max => exact ⟨_, chars_range field min max⟩
  | group c first rest => exact ⟨_, chars_group c first rest⟩

theorem row_cons (c : Connective) (t : LiteralTree) (ts : List LiteralTree) :
    row c (t :: ts) = c.separator.toList ++ (t.chars ++ row c ts) := by
  rw [row, List.flatMap_cons, List.append_assoc]
  rfl

theorem length_chars_le_row (c : Connective) {t : LiteralTree} {ts : List LiteralTree}
    (ht : t ∈ ts) : t.chars.length ≤ (row c ts).length := by
  induction ts with
  | nil => exact absurd ht List.not_mem_nil
  | cons u us ih =>
    simp only [row_cons, List.length_append]
    rcases List.mem_cons.mp ht with rfl | hu
    · omega
    · have := ih hu
      omega

theorem length_le_row (c : Connective) (ts : List LiteralTree) : ts.length ≤ (row c ts).length := by
  induction ts with
  | nil => exact Nat.zero_le _
  | cons t ts ih =>
    obtain ⟨cs, hcs⟩ := t.exists_chars_eq_cons
    rw [row_cons, hcs]
    simp only [List.length_append, List.length_cons]
    omega

end LiteralTree

/-! ## Reading what was written -/

namespace Outline

theorem upTo_append {stop : Char} {cs : List Char} (h : stop ∉ cs) (rest : List Char) :
    upTo stop (cs ++ stop :: rest) = some (cs, rest) := by
  induction cs with
  | nil => exact if_pos rfl
  | cons c cs ih =>
    obtain ⟨hc, hcs⟩ := not_or.mp (mt List.mem_cons.mpr h)
    rw [List.cons_append, upTo, if_neg (Ne.symm hc), ih hcs, Option.map_some]

theorem tagValue_escapeTagChar (c : Char) (cs : List Char) :
    tagValue (escapeTagChar c ++ cs) = (tagValue cs).map fun r => (c :: r.1, r.2) := by
  unfold escapeTagChar
  by_cases hc : tagSpecials.contains c = true
  · rw [if_pos hc]
    rfl
  · rw [if_neg hc, List.singleton_append]
    -- Neither a backslash nor a closing brace stands in a value without a backslash before it.
    have hslash : c ≠ '\\' := by
      rintro rfl
      exact hc (by decide)
    have hbrace : c ≠ '\x7d' := by
      rintro rfl
      exact hc (by decide)
    rw [tagValue]
    · exact fun _ _ h => absurd h hslash
    · exact hbrace

/-- **A literal value ends where it was meant to end,** whatever characters it holds. -/
theorem tagValue_escapeTag (value rest : List Char) :
    tagValue (value.flatMap escapeTagChar ++ '\x7d' :: rest) = some (value, rest) := by
  induction value with
  | nil => rfl
  | cons c cs ih =>
    rw [List.flatMap_cons, List.append_assoc, tagValue_escapeTagChar, ih, Option.map_some]

theorem notMem_realText {x : Binary64} {c : Char}
    (hc : ¬ (c.isDigit = true ∨ c ∈ Token.realMarks)) : c ∉ (Token.realText x).toList :=
  fun h => hc (Token.mem_realText h)

theorem pastSeparator_append (c : Connective) (cs : List Char) :
    pastSeparator c (c.separator.toList ++ cs) = some cs := by
  cases c <;> rfl

theorem pastSeparator_close (c : Connective) (cs : List Char) :
    pastSeparator c (')' :: cs) = none := by
  cases c <;> rfl

theorem connective?_append (c : Connective) (t : LiteralTree) (cs : List Char) :
    connective? (c.separator.toList ++ (t.chars ++ cs)) = some c := by
  obtain ⟨ds, hds⟩ := t.exists_chars_eq_cons
  rw [hds]
  cases c <;> rfl

/-- The reader of a tree gives its outline and what comes after it. -/
def Reads (fuel : Nat) (t : LiteralTree) : Prop :=
  ∀ rest, readTree fuel (t.chars ++ rest) = some (t.outline, rest)

/-- **A row of members is read member by member,** up to the closing parenthesis. -/
theorem readMembers_row {fuel : Nat} (c : Connective) (ts : List LiteralTree)
    (hts : ∀ t ∈ ts, Reads fuel t) (rest : List Char) {n : Nat} (hn : ts.length < n) :
    readMembers (readTree fuel) c n (LiteralTree.row c ts ++ ')' :: rest) =
      some (ts.map LiteralTree.outline, rest) := by
  induction ts generalizing n with
  | nil =>
    obtain ⟨n, rfl⟩ := Nat.exists_eq_succ_of_ne_zero (Nat.ne_zero_of_lt hn)
    rw [LiteralTree.row, List.flatMap_nil, List.nil_append, readMembers, pastSeparator_close]
    rfl
  | cons t ts ih =>
    obtain ⟨ht, hts⟩ := List.forall_mem_cons.mp hts
    obtain ⟨n, rfl⟩ := Nat.exists_eq_succ_of_ne_zero (Nat.ne_zero_of_lt hn)
    have hrest := ih hts (Nat.lt_of_succ_lt_succ hn)
    simp only [LiteralTree.row_cons, List.append_assoc, readMembers, pastSeparator_append, ht _,
      hrest, Option.bind_eq_bind, Option.bind_some, Option.pure_def, List.map_cons]

theorem readTree_tag (field : FieldName) (value : String) (fuel : Nat) :
    Reads (fuel + 1) (.tag field value) := by
  intro rest
  have hfield := upTo_append field.noColon
    ('\x7b' :: (value.toList.flatMap escapeTagChar ++ '\x7d' :: ')' :: rest))
  have hvalue := tagValue_escapeTag value.toList (')' :: rest)
  rw [LiteralTree.chars_tag]
  simp only [List.cons_append, List.append_assoc, List.nil_append, readTree, readLeaf, hfield,
    hvalue, closed, Option.bind_eq_bind, Option.bind_some, Option.pure_def, String.ofList_toList,
    LiteralTree.outline]

theorem readTree_range (field : FieldName) (min max : Binary64) (fuel : Nat) :
    Reads (fuel + 1) (.range field min max) := by
  intro rest
  have hfield := upTo_append field.noColon ('[' :: ((Token.realText min).toList ++
    ' ' :: ((Token.realText max).toList ++ ']' :: ')' :: rest)))
  have hmin := upTo_append (notMem_realText (x := min) (c := ' ') (by decide))
    ((Token.realText max).toList ++ ']' :: ')' :: rest)
  have hmax := upTo_append (notMem_realText (x := max) (c := ']') (by decide)) (')' :: rest)
  rw [LiteralTree.chars_range]
  simp only [List.cons_append, List.append_assoc, List.nil_append, readTree, readLeaf, hfield,
    hmin, hmax, closed, Option.bind_eq_bind, Option.bind_some, Option.pure_def,
    String.ofList_toList, LiteralTree.outline]

theorem readTree_group {fuel : Nat} (c : Connective) {first : LiteralTree}
    {rest : List LiteralTree} (hfirst : Reads fuel first) (hrest : ∀ t ∈ rest, Reads fuel t)
    (hfuel : rest.length < fuel) : Reads (fuel + 1) (.group c first rest) := by
  intro after
  -- A member begins with a parenthesis too, so the collection is not taken for a predicate.
  obtain ⟨ds, hds⟩ : ∃ ds, first.chars = '(' :: ds := first.exists_chars_eq_cons
  have hopen : readTree (fuel + 1) ((LiteralTree.group c first rest).chars ++ after) =
      (readTree fuel (first.chars ++ (LiteralTree.row c rest ++ ')' :: after))).bind fun r =>
        match connective? r.2 with
        | none => (closed r.2).bind fun cs => some (.group none [r.1], cs)
        | some c => (readMembers (readTree fuel) c fuel r.2).bind fun m =>
          some (.group (some c) (r.1 :: m.1), m.2) := by
    rw [LiteralTree.chars_group, hds]
    simp only [List.cons_append, List.append_assoc, List.nil_append, readTree]
    rfl
  rw [hopen, hfirst, Option.bind_some, LiteralTree.outline_group]
  cases rest with
  | nil => rfl
  | cons t ts =>
    have hconn : connective? (LiteralTree.row c (t :: ts) ++ ')' :: after) = some c := by
      rw [LiteralTree.row_cons, List.append_assoc, List.append_assoc]
      exact connective?_append c t _
    simp only [hconn, readMembers_row c (t :: ts) hrest after hfuel, Option.bind_some,
      List.isEmpty_cons, Bool.false_eq_true, if_false, List.map_cons]

/-- The length of its text is fuel enough to read a literal tree. -/
theorem readTree_render (t : LiteralTree) {fuel : Nat} (h : t.chars.length ≤ fuel) :
    Reads fuel t := by
  -- One unit of fuel is spent for each opening parenthesis and for each member of a row.
  induction t generalizing fuel with
  | tag field value =>
    obtain ⟨n, rfl⟩ : ∃ n, fuel = n + 1 := by
      rw [LiteralTree.chars_tag] at h
      exact Nat.exists_eq_succ_of_ne_zero (Nat.ne_zero_of_lt h)
    exact readTree_tag field value n
  | range field min max =>
    obtain ⟨n, rfl⟩ : ∃ n, fuel = n + 1 := by
      rw [LiteralTree.chars_range] at h
      exact Nat.exists_eq_succ_of_ne_zero (Nat.ne_zero_of_lt h)
    exact readTree_range field min max n
  | group c first rest ihfirst ihrest =>
    rw [LiteralTree.chars_group, List.length_cons, List.length_append, List.length_append,
      List.length_singleton] at h
    have hmembers : ∀ t ∈ rest, t.chars.length ≤ (LiteralTree.row c rest).length :=
      fun t => LiteralTree.length_chars_le_row c
    have hlength := LiteralTree.length_le_row c rest
    obtain ⟨n, rfl⟩ : ∃ n, fuel = n + 1 := Nat.exists_eq_succ_of_ne_zero (by omega)
    exact readTree_group c (ihfirst (by omega))
      (fun t ht => ihrest t ht (Nat.le_trans (hmembers t ht) (by omega))) (by omega)

theorem read?_render (t : LiteralTree) : read? t.tree.render = some t.outline := by
  have hread := readTree_render t (Nat.le_refl _) []
  rw [List.append_nil] at hread
  unfold read?
  rw [show t.tree.render.toList = t.chars from rfl, hread]

end Outline

/-! ## Collections -/

/-- A literal tag or a range, of a field whose name holds no colon. -/
def Predicate.Literal (p : Predicate) : Prop :=
  ∃ field : FieldName, (∃ value, p = .tagLiteral field.text value) ∨
    ∃ min max, p = .numeric field.text min max

/-- The literal trees are the trees of literal predicates without empty collections. -/
theorem LiteralTree.exists_tree_eq_iff (t : PredicateTree) : (∃ l : LiteralTree, l.tree = t) ↔
    t.filled = true ∧ ∀ p ∈ t.leaves, p.Literal := by
  constructor
  · rintro ⟨l, rfl⟩
    induction l with
    | tag field value =>
      exact ⟨rfl, List.forall_mem_singleton.mpr ⟨field, .inl ⟨value, rfl⟩⟩⟩
    | range field min max =>
      exact ⟨rfl, List.forall_mem_singleton.mpr ⟨field, .inr ⟨min, max, rfl⟩⟩⟩
    | group c first rest ihfirst ihrest =>
      have hall : ∀ t ∈ (first :: rest).map tree, t.filled = true ∧ ∀ p ∈ t.leaves, p.Literal :=
        List.forall_mem_map.mpr (List.forall_mem_cons.mpr ⟨ihfirst, ihrest⟩)
      rw [tree_group]
      refine ⟨(PredicateTree.filled_group _ _).mpr
        ⟨List.cons_ne_nil _ _, fun t ht => (hall t ht).1⟩, fun p hp => ?_⟩
      rw [PredicateTree.leaves_group] at hp
      obtain ⟨t, ht, hpt⟩ := List.mem_flatMap.mp hp
      exact (hall t ht).2 p hpt
  · rintro ⟨hf, hp⟩
    refine PredicateTree.induct_filled ?leaf ?group t hf hp
    case leaf =>
      rintro p ⟨field, ⟨value, rfl⟩ | ⟨min, max, rfl⟩⟩
      · exact ⟨tag field value, rfl⟩
      · exact ⟨range field min max, rfl⟩
    case group =>
      rintro c t ts ⟨first, rfl⟩ hrest
      obtain ⟨rest, rfl⟩ : ts ∈ Set.range (List.map tree) := by
        rw [Set.range_list_map]
        exact hrest
      exact ⟨group c first rest, tree_group c first rest⟩

/-- **Values cannot change the structure of a query.** From the text of a collection of literal
predicates one reads the same nesting and order, the fields, the values as they were before
escaping, the bounds, and the connective of every collection with at least two members. -/
theorem Collection.read?_render_literal (c : Connective) (first : LiteralTree)
    (rest : List LiteralTree) :
    Outline.read? (Collection.render ⟨c, (first :: rest).map LiteralTree.tree⟩) =
      some (.group (if rest.isEmpty then none else some c)
        ((first :: rest).map LiteralTree.outline)) := by
  have hread := Outline.read?_render (.group c first rest)
  rw [LiteralTree.tree_group, LiteralTree.outline_group] at hread
  exact hread

/-- A value that looks like the end of its predicate and another predicate, and one that ends with a
backslash. -/
example : Outline.read? (Collection.render ⟨.any, [.leaf (.tagLiteral "f" "x\x7d) | (@g:\x7by"),
    .group .all [.leaf (.tagLiteral "g" "\\")]]⟩) =
    some (.group (some .any) [.tag "f" "x\x7d) | (@g:\x7by", .group none [.tag "g" "\\"]]) := by
  cbv

end SearchWire
