import Mathlib.Data.List.Basic
import Mathlib.Data.List.Perm.Basic
import SearchWire.Predicate.Basic

/-!
# Escaped values

A literal tag value is written with a backslash before each of its marked characters: the blank and
the punctuation, the backslash among it. Reading from left to right tells the backslashes that were
added from those of the value. White space other than the blank is written as it is.

* `tagPunctuation`, `controlSpaces`, `tagSeparators`: the characters that separate;
  `tagSpecials_perm`: those that are marked;
* `markedPlace`, `Escapes`: which text has the marks, place by place; **`escapes_iff`**;
* `readMarked`, `readMarked_escapeMarked`: the marks read back; `escapeMarked_eq_iff`;
* `escapes_tagSeparators_iff`, **`escapes_escapeTag`**.
-/

namespace SearchWire

/-! ## Separators -/

/-- The punctuation that has a meaning in tag syntax. -/
def tagPunctuation : List Char :=
  ['!', '"', '#', '$', '%', '&', '\'', '(', ')', '*', '+', ',', '-', '.', '/', ':', ';', '<', '=',
    '>', '@', '[', '\\', ']', '^', '\x7b', '|', '\x7d', '~']

/-- White space other than the blank: tab, newline, vertical tab, form feed, carriage return. -/
def controlSpaces : List Char := ['\t', '\n', '\x0b', '\x0c', '\r']

def tagSeparators : List Char := ' ' :: tagPunctuation ++ controlSpaces

theorem tagSpecials_perm : tagSpecials.Perm (' ' :: tagPunctuation) := by decide

theorem mem_tagSpecials {c : Char} : c ∈ tagSpecials ↔ c ∈ ' ' :: tagPunctuation :=
  tagSpecials_perm.mem_iff

/-! ## Marks -/

variable (marked : List Char)

/-- A character, after a backslash if it is marked. -/
def markChar (c : Char) : List Char := if c ∈ marked then ['\\', c] else [c]

/-- A text with a backslash before each marked character. -/
def escapeMarked (cs : List Char) : List Char := cs.flatMap (markChar marked)

theorem escapeMarked_cons (c : Char) (cs : List Char) :
    escapeMarked marked (c :: cs) = markChar marked c ++ escapeMarked marked cs :=
  List.flatMap_cons

theorem toList_escapeTag (value : String) :
    (escapeTag value).toList = escapeMarked (' ' :: tagPunctuation) value.toList := by
  have hchar : escapeTagChar = markChar (' ' :: tagPunctuation) := by
    funext c
    simp only [escapeTagChar, markChar, List.contains_iff_mem, mem_tagSpecials]
  rw [escapeTag, String.toList_ofList, hchar, escapeMarked]

/-- Where the character at place `i` is written: it moves by one for each marked character before
it. -/
def markedPlace (value : List Char) (i : Nat) : Nat := i + (value.take i).countP (· ∈ marked)

/-- `escaped` is `value` with a backslash before each marked character. -/
structure Escapes (value escaped : List Char) : Prop where
  /-- A marked character stands right after a backslash of its own. -/
  marks : ∀ i c, value[i]? = some c → c ∈ marked →
    escaped[markedPlace marked value i]? = some '\\' ∧
      escaped[markedPlace marked value i + 1]? = some c
  copies : ∀ i c, value[i]? = some c → c ∉ marked → escaped[markedPlace marked value i]? = some c
  length : escaped.length = value.length + value.countP (· ∈ marked)

variable {marked}

theorem length_markChar (c : Char) :
    (markChar marked c).length = 1 + if c ∈ marked then 1 else 0 := by
  unfold markChar
  split <;> rfl

theorem markedPlace_zero (value : List Char) : markedPlace marked value 0 = 0 := rfl

theorem markedPlace_cons_succ (c : Char) (cs : List Char) (i : Nat) :
    markedPlace marked (c :: cs) (i + 1) =
      (markChar marked c).length + markedPlace marked cs i := by
  simp only [markedPlace, List.take_succ_cons, List.countP_cons, length_markChar,
    decide_eq_true_eq]
  omega

theorem getElem?_markChar_append (c : Char) (rest : List Char) (j : Nat) :
    (markChar marked c ++ rest)[(markChar marked c).length + j]? = rest[j]? := by
  rw [List.getElem?_append_right (Nat.le_add_right _ _), Nat.add_sub_cancel_left]

variable (marked) in
theorem getElem?_markedPlace_cons (c : Char) (cs rest : List Char) (i : Nat) :
    (markChar marked c ++ rest)[markedPlace marked (c :: cs) (i + 1)]? =
        rest[markedPlace marked cs i]? ∧
      (markChar marked c ++ rest)[markedPlace marked (c :: cs) (i + 1) + 1]? =
        rest[markedPlace marked cs i + 1]? := by
  rw [markedPlace_cons_succ, Nat.add_assoc, getElem?_markChar_append, getElem?_markChar_append]
  exact ⟨rfl, rfl⟩

/-- **What comes after the first character is escaped as it would be alone.** -/
theorem escapes_cons_append_iff {c : Char} {cs rest : List Char} :
    Escapes marked (c :: cs) (markChar marked c ++ rest) ↔ Escapes marked cs rest := by
  have hlength : (markChar marked c ++ rest).length =
      (c :: cs).length + (c :: cs).countP (· ∈ marked) ↔
        rest.length = cs.length + cs.countP (· ∈ marked) := by
    simp only [List.length_append, length_markChar, List.length_cons, List.countP_cons,
      decide_eq_true_eq]
    omega
  constructor
  · intro h
    refine ⟨fun i d hd hmem => ?_, fun i d hd hmem => ?_, hlength.mp h.length⟩
    · obtain ⟨hplace, hnext⟩ := getElem?_markedPlace_cons marked c cs rest i
      rw [← hplace, ← hnext]
      exact h.marks (i + 1) d hd hmem
    · rw [← (getElem?_markedPlace_cons marked c cs rest i).1]
      exact h.copies (i + 1) d hd hmem
  · intro h
    refine ⟨fun i d hd hmem => ?_, fun i d hd hmem => ?_, hlength.mpr h.length⟩
    · cases i with
      | zero =>
        obtain rfl := Option.some.inj hd
        rw [markChar, if_pos hmem]
        exact ⟨rfl, rfl⟩
      | succ i =>
        obtain ⟨hplace, hnext⟩ := getElem?_markedPlace_cons marked c cs rest i
        rw [hplace, hnext]
        exact h.marks i d hd hmem
    · cases i with
      | zero =>
        obtain rfl := Option.some.inj hd
        rw [markChar, if_neg hmem]
        rfl
      | succ i =>
        rw [(getElem?_markedPlace_cons marked c cs rest i).1]
        exact h.copies i d hd hmem

theorem Escapes.exists_eq_append {c : Char} {cs escaped : List Char}
    (h : Escapes marked (c :: cs) escaped) : ∃ rest, escaped = markChar marked c ++ rest := by
  unfold markChar
  by_cases hmem : c ∈ marked
  · obtain ⟨hslash, hnext⟩ := h.marks 0 c rfl hmem
    rw [markedPlace_zero] at hslash hnext
    rw [if_pos hmem]
    obtain ⟨d, ds, rfl⟩ := List.exists_cons_of_ne_nil (l := escaped) (by rintro rfl; cases hslash)
    obtain ⟨e, es, rfl⟩ := List.exists_cons_of_ne_nil (l := ds) (by rintro rfl; cases hnext)
    cases hslash
    cases hnext
    exact ⟨es, rfl⟩
  · have hcopy := h.copies 0 c rfl hmem
    rw [if_neg hmem]
    obtain ⟨d, ds, rfl⟩ := List.exists_cons_of_ne_nil (l := escaped) (by rintro rfl; cases hcopy)
    cases hcopy
    exact ⟨ds, rfl⟩

/-- **A text is escaped in one way.** -/
theorem escapes_iff {value escaped : List Char} :
    Escapes marked value escaped ↔ escaped = escapeMarked marked value := by
  induction value generalizing escaped with
  | nil =>
    constructor
    · exact fun h => List.eq_nil_of_length_eq_zero h.length
    · rintro rfl
      exact ⟨(fun _ _ h => nomatch h), (fun _ _ h => nomatch h), rfl⟩
  | cons c cs ih =>
    rw [escapeMarked_cons]
    constructor
    · intro h
      obtain ⟨rest, rfl⟩ := h.exists_eq_append
      rw [ih.mp (escapes_cons_append_iff.mp h)]
    · rintro rfl
      exact escapes_cons_append_iff.mpr (ih.mpr rfl)

/-! ## Reading marks -/

/-- The characters of an escaped text, each with whether it is marked. A backslash marks the next
character, also another backslash. -/
def readMarked : List Char → Option (List (Char × Bool))
  | [] => some []
  | ['\\'] => none
  | '\\' :: c :: cs => (readMarked cs).map ((c, true) :: ·)
  | c :: cs => (readMarked cs).map ((c, false) :: ·)

theorem readMarked_markChar_append (h : '\\' ∈ marked) (c : Char) (cs : List Char) :
    readMarked (markChar marked c ++ cs) =
      (readMarked cs).map ((c, decide (c ∈ marked)) :: ·) := by
  unfold markChar
  by_cases hc : c ∈ marked
  · rw [if_pos hc, decide_eq_true hc]
    rfl
  · -- It is no backslash, so it marks nothing.
    have hslash : c ≠ '\\' := fun he => hc (he ▸ h)
    rw [if_neg hc, decide_eq_false hc, List.singleton_append, readMarked]
    · exact fun he => absurd he hslash
    · exact fun _ _ he => absurd he hslash

/-- **The marks of an escaped text are those that were made,** if backslashes are marked too. -/
theorem readMarked_escapeMarked (h : '\\' ∈ marked) (cs : List Char) :
    readMarked (escapeMarked marked cs) = some (cs.map fun c => (c, decide (c ∈ marked))) := by
  induction cs with
  | nil => rfl
  | cons c cs ih =>
    rw [escapeMarked_cons, readMarked_markChar_append h, ih, Option.map_some, List.map_cons]

theorem escapeMarked_eq_iff {marked' : List Char} (h : '\\' ∈ marked) (h' : '\\' ∈ marked')
    (cs : List Char) : escapeMarked marked cs = escapeMarked marked' cs ↔
      ∀ c ∈ cs, (c ∈ marked ↔ c ∈ marked') := by
  constructor
  · intro heq
    have hread := congrArg readMarked heq
    rw [readMarked_escapeMarked h, readMarked_escapeMarked h', Option.some.injEq,
      List.map_inj_left] at hread
    exact fun c hc => decide_eq_decide.mp (Prod.ext_iff.mp (hread c hc)).2
  · intro hmarks
    refine List.flatMap_congr fun c hc => ?_
    simp only [markChar, hmarks c hc]

/-! ## Literal values -/

theorem mem_tagSeparators {c : Char} :
    c ∈ tagSeparators ↔ c ∈ ' ' :: tagPunctuation ∨ c ∈ controlSpaces := List.mem_append

theorem notMem_of_mem_controlSpaces {c : Char} (hc : c ∈ controlSpaces) :
    c ∉ ' ' :: tagPunctuation := by
  have hall : controlSpaces.all (fun c => decide (c ∉ ' ' :: tagPunctuation)) = true := by decide
  exact of_decide_eq_true (List.all_eq_true.mp hall c hc)

theorem escapes_tagSeparators_iff (value : String) :
    Escapes tagSeparators value.toList (escapeTag value).toList ↔
      ∀ c ∈ value.toList, c ∉ controlSpaces := by
  rw [escapes_iff, toList_escapeTag, escapeMarked_eq_iff (by decide) (by decide)]
  refine forall₂_congr fun c _ => ?_
  rw [mem_tagSeparators, iff_self_or]
  exact ⟨fun h hc => notMem_of_mem_controlSpaces hc (h hc), fun h hc => absurd hc h⟩

/-- **Escaping marks the blanks and the punctuation of a value, and nothing else.** Each stands
right after a backslash of its own, every other character is copied in place, and reading from left
to right finds just these marks. So all separators are marked unless the value has white space
other than blanks. -/
theorem escapes_escapeTag (value : String) :
    (∀ escaped, Escapes (' ' :: tagPunctuation) value.toList escaped ↔
        escaped = (escapeTag value).toList) ∧
      readMarked (escapeTag value).toList =
        some (value.toList.map fun c => (c, decide (c ∈ ' ' :: tagPunctuation))) ∧
      (Escapes tagSeparators value.toList (escapeTag value).toList ↔
        ∀ c ∈ value.toList, c ∉ controlSpaces) := by
  refine ⟨fun escaped => ?_, ?_, escapes_tagSeparators_iff value⟩
  · rw [escapes_iff, toList_escapeTag]
  · rw [toList_escapeTag]
    exact readMarked_escapeMarked (by decide) value.toList

/-- A backslash of the value is told from the one before the blank. -/
example : escapeTag "\\ \t" = "\\\\\\ \t" ∧ readMarked (escapeTag "\\ \t").toList =
    some [('\\', true), (' ', true), ('\t', false)] := by
  cbv

/-- A tab is copied without a backslash. -/
theorem not_escapes_tagSeparators :
    ¬ Escapes tagSeparators "New\tYork".toList (escapeTag "New\tYork").toList := by
  intro h
  exact (escapes_tagSeparators_iff "New\tYork").mp h '\t' (by decide) (by decide)

end SearchWire
