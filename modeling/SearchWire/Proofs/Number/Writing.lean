import SearchWire.Token

/-!
# Numbers in commands

Numbers in commands are written without an exponent, so that few characters can stand in them: no
blank, bracket or parenthesis of the query language.

* `Notation.mem_layMagnitude`: the characters of a number without an exponent;
* **`Token.mem_realText`**: the characters of a number in a command.
-/

namespace SearchWire

namespace Notation

variable {N : Notation} {digits : List Char} {e : Int} {c : Char}

theorem mem_layPositional (h : c ∈ N.layPositional digits e) :
    c ∈ digits ∨ c = '0' ∨ c = '.' := by
  unfold layPositional at h
  by_cases hneg : e < 0
  · rw [if_pos hneg] at h
    simp only [List.mem_cons, List.mem_append, List.mem_replicate] at h
    grind
  · rw [if_neg hneg] at h
    by_cases hwhole : digits.length ≤ e.toNat + 1
    · rw [if_pos hwhole] at h
      cases hp : N.pointZero <;> simp [hp] at h <;> grind
    · rw [if_neg hwhole, List.mem_append, List.mem_cons] at h
      rcases h with h | h | h
      · exact .inl (List.mem_of_mem_take h)
      · exact .inr (.inr h)
      · exact .inl (List.mem_of_mem_drop h)

theorem mem_layMagnitude (hN : ∀ e, N.positional e = true) {m : Nat} {q : Int}
    (h : c ∈ N.layMagnitude m q) : c.isDigit = true ∨ c = '.' := by
  have hzero : c = '0' → c.isDigit = true := by
    rintro rfl
    rfl
  unfold layMagnitude at h
  by_cases hm : m = 0
  · rw [if_pos hm] at h
    rcases mem_layPositional h with hd | hc | hc
    · exact .inl (hzero (List.mem_singleton.mp hd))
    · exact .inl (hzero hc)
    · exact .inr hc
  · rw [if_neg hm] at h
    simp only [hN, if_true] at h
    rcases mem_layPositional h with hd | hc | hc
    · exact .inl (Nat.isDigit_of_mem_toDigits (by decide) (by decide) hd)
    · exact .inl (hzero hc)
    · exact .inr hc

end Notation

namespace Token

/-- The characters of numbers in commands that are no digits: a point, a sign, and the letters of
`inf` and `NaN`. -/
def realMarks : List Char := ['.', '-', '+', 'i', 'n', 'f', 'N', 'a']

theorem mem_realText {x : Binary64} {c : Char} (h : c ∈ (realText x).toList) :
    c.isDigit = true ∨ c ∈ realMarks := by
  have hfinite : ∀ {m q}, c ∈ Notation.token.layMagnitude m q →
      c.isDigit = true ∨ c ∈ realMarks := fun hc =>
    (Notation.mem_layMagnitude (fun _ => rfl) hc).imp_right fun hp => by rw [hp]; decide
  have hword : ∀ {s : String}, s.toList.all realMarks.contains = true → c ∈ s.toList →
      c.isDigit = true ∨ c ∈ realMarks := fun hs hc =>
    .inr (List.contains_iff_mem.mp (List.all_eq_true.mp hs c hc))
  rw [realText, Notation.write] at h
  cases hx : x.meaning with
  | nan =>
    rw [hx] at h
    exact hword rfl h
  | infinite negative =>
    cases negative <;> rw [hx] at h
    · exact hword rfl h
    · exact hword rfl h
  | finite negative m q =>
    cases negative <;> rw [hx] at h <;> simp only [String.toList_ofList, List.mem_cons] at h
    · exact hfinite h
    · rcases h with rfl | h
      · exact .inr (by decide)
      · exact hfinite h

end Token

end SearchWire
