import SearchWire.Text.LetterCase

/-!
# Texts in upper case

* `Text.toNat_toUpper`, `Text.not_small_toUpper`, `Text.toUpper_eq_iff`: the capital of a character;
* `Text.upper_upper`, **`Text.isLower_of_mem_upper`**: a text in upper case has no small letters.
-/

namespace SearchWire.Text

theorem toNat_toUpper (c : Char) :
    c.toUpper.toNat = if 97 ≤ c.toNat ∧ c.toNat ≤ 122 then c.toNat - 32 else c.toNat := by
  unfold Char.toUpper
  simp only [Char.toNat, UInt32.le_iff_toNat_le]
  split
  · rename_i h
    simp only [Char.reduceVal, UInt32.reduceToNat] at h
    rw [if_pos h]
    simp only [UInt32.toNat_add, Char.reduceVal, UInt32.reduceSub, UInt32.reduceToNat]
    omega
  · rename_i h
    simp only [Char.reduceVal, UInt32.reduceToNat] at h
    rw [if_neg h]

theorem not_small_toUpper (c : Char) : ¬ (97 ≤ c.toUpper.toNat ∧ c.toUpper.toNat ≤ 122) := by
  rw [toNat_toUpper]
  split <;> omega

theorem toUpper_eq_iff {c capital small : Char} (h : 65 ≤ capital.toNat ∧ capital.toNat ≤ 90)
    (hsmall : small.toNat = capital.toNat + 32) : c.toUpper = capital ↔ c = capital ∨ c = small := by
  have hc := toNat_toUpper c
  rw [← Char.toNat_inj, ← Char.toNat_inj, ← Char.toNat_inj, hc]
  split <;> omega

@[simp] theorem upper_upper (s : String) : upper (upper s) = upper s := by
  have hchar (c : Char) : c.toUpper.toUpper = c.toUpper := by
    rw [← Char.toNat_inj, toNat_toUpper, if_neg (not_small_toUpper c)]
  simp [upper, Function.comp_def, hchar]

theorem isLower_of_mem_upper {s : String} {c : Char} (h : c ∈ (upper s).toList) :
    c.isLower = false := by
  rw [upper, String.toList_ofList] at h
  obtain ⟨d, -, rfl⟩ := List.mem_map.mp h
  refine Bool.eq_false_iff.mpr fun hlower => not_small_toUpper d ?_
  obtain ⟨hlow, hhigh⟩ := Bool.and_eq_true_iff.mp hlower
  exact ⟨UInt32.le_iff_toNat_le.mp (of_decide_eq_true hlow),
    UInt32.le_iff_toNat_le.mp (of_decide_eq_true hhigh)⟩

end SearchWire.Text
