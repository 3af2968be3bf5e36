import Mathlib.Data.List.Forall2
import MarkdownRender.Text.Basic

/-!
# The case of ASCII letters

Lowering moves the capitals onto the small letters and leaves everything else where it is. So a code
point that is no letter is lowered from itself only, and neither words nor hexadecimal digits tell
the cases apart. `SameLetters` says of two texts that they differ in the case of their letters; they
do if and only if they are equal once they are lowered.
-/

namespace MarkdownRender

namespace CodePoint

variable {c d : CodePoint}

/-! ### The classes as numbers -/

theorem isUpper_iff : c.isUpper = true ↔ 0x41 ≤ c.val ∧ c.val ≤ 0x5A := by
  simp only [isUpper, Bool.and_eq_true, decide_eq_true_eq, Char.reduceToNat]

theorem isLower_iff : c.isLower = true ↔ 0x61 ≤ c.val ∧ c.val ≤ 0x7A := by
  simp only [isLower, Bool.and_eq_true, decide_eq_true_eq, Char.reduceToNat]

theorem isDigit_iff : c.isDigit = true ↔ 0x30 ≤ c.val ∧ c.val ≤ 0x39 := by
  simp only [isDigit, Bool.and_eq_true, decide_eq_true_eq, Char.reduceToNat]

theorem isWord_iff :
    c.isWord = true ↔ c.isLower = true ∨ c.isUpper = true ∨ c.isDigit = true ∨ c = ofChar '_' := by
  simp only [isWord, Bool.or_eq_true, decide_eq_true_eq, or_assoc]

/-- Word characters are ASCII. -/
theorem lt_of_isWord (h : c.isWord) : c.val < 0x80 := by
  rcases isWord_iff.mp h with hl | hu | hd | rfl
  · have := isLower_iff.mp hl
    omega
  · have := isUpper_iff.mp hu
    omega
  · have := isDigit_iff.mp hd
    omega
  · decide

/-! ### Lowering -/

theorem val_asciiLower (c : CodePoint) :
    c.asciiLower.val = if c.isUpper then c.val + 32 else c.val := by
  unfold asciiLower
  split
  · next h =>
    have hlt : c.val + 32 < 0x110000 := by
      have := isUpper_iff.mp h
      omega
    have hnat : ((c.val : Int) + 32).toNat = c.val + 32 := by omega
    simp [shift, ofNat?, hnat, hlt]
  · rfl

theorem asciiLower_of_not_isUpper (h : c.isUpper = false) : c.asciiLower = c := by
  simp [asciiLower, h]

theorem isLower_asciiLower (h : c.isUpper) : c.asciiLower.isLower := by
  have hval := val_asciiLower c
  rw [if_pos h] at hval
  have := isUpper_iff.mp h
  apply isLower_iff.mpr
  omega

theorem isUpper_asciiLower (c : CodePoint) : c.asciiLower.isUpper = false := by
  by_cases hu : c.isUpper = true
  · have hlower := isLower_iff.mp (isLower_asciiLower hu)
    apply Bool.eq_false_iff.mpr
    intro h
    have hupper := isUpper_iff.mp h
    omega
  · have hfalse := Bool.eq_false_iff.mpr hu
    rwa [asciiLower_of_not_isUpper hfalse]

theorem asciiLower_asciiLower (c : CodePoint) : c.asciiLower.asciiLower = c.asciiLower :=
  asciiLower_of_not_isUpper c.isUpper_asciiLower

/-- What is no small letter is lowered from itself only. -/
theorem eq_of_asciiLower_eq (h : c.asciiLower = d) (hd : d.isLower = false) : c = d := by
  by_cases hu : c.isUpper = true
  · have hlower := isLower_asciiLower hu
    rw [h, hd] at hlower
    cases hlower
  · rwa [asciiLower_of_not_isUpper (Bool.eq_false_iff.mpr hu)] at h

theorem asciiLower_eq_iff (hlower : d.isLower = false) (hupper : d.isUpper = false) :
    c.asciiLower = d ↔ c = d := by
  constructor
  · intro h
    exact eq_of_asciiLower_eq h hlower
  · rintro rfl
    exact asciiLower_of_not_isUpper hupper

theorem isWord_asciiLower (c : CodePoint) : c.asciiLower.isWord = c.isWord := by
  by_cases hu : c.isUpper = true
  · simp [isWord, hu, isLower_asciiLower hu]
  · rw [asciiLower_of_not_isUpper (Bool.eq_false_iff.mpr hu)]

theorem isWord_of_isLower_asciiLower (h : c.asciiLower.isLower) : c.isWord := by
  rw [← isWord_asciiLower]
  exact isWord_iff.mpr (Or.inl h)

theorem hexValue?_asciiLower (c : CodePoint) : c.asciiLower.hexValue? = c.hexValue? := by
  have hv := val_asciiLower c
  by_cases hu : c.isUpper = true
  · rw [if_pos hu] at hv
    have hrange := isUpper_iff.mp hu
    simp only [hexValue?, isDigit, hv, Bool.and_eq_true, decide_eq_true_eq, Char.reduceToNat]
    by_cases hf : c.val ≤ 70
    · rw [if_neg (by omega), if_pos (by omega), if_neg (by omega), if_neg (by omega),
        if_pos (by omega), show c.val + 32 - 97 = c.val - 65 by omega]
    · rw [if_neg (by omega), if_neg (by omega), if_neg (by omega), if_neg (by omega),
        if_neg (by omega), if_neg (by omega)]
  · rw [asciiLower_of_not_isUpper (Bool.eq_false_iff.mpr hu)]

/-! ### Letters of either case -/

/-- The same code point, or an ASCII letter in its two cases. -/
def SameLetter (c d : CodePoint) : Prop :=
  c = d ∨ (c.isUpper ∧ d.val = c.val + 32) ∨ (d.isUpper ∧ c.val = d.val + 32)

theorem asciiLower_eq_of_val (hu : c.isUpper) (hval : d.val = c.val + 32) : c.asciiLower = d := by
  apply ext
  rw [val_asciiLower, if_pos hu, hval]

theorem sameLetter_iff : SameLetter c d ↔ c.asciiLower = d.asciiLower := by
  constructor
  · rintro (rfl | ⟨hu, hval⟩ | ⟨hu, hval⟩)
    · rfl
    · rw [← asciiLower_eq_of_val hu hval, asciiLower_asciiLower]
    · rw [← asciiLower_eq_of_val hu hval, asciiLower_asciiLower]
  · intro h
    have hval := congrArg CodePoint.val h
    rw [val_asciiLower, val_asciiLower] at hval
    by_cases hc : c.isUpper = true
    · by_cases hd : d.isUpper = true
      · rw [if_pos hc, if_pos hd] at hval
        exact Or.inl (ext (by omega))
      · rw [if_pos hc, if_neg hd] at hval
        exact Or.inr (Or.inl ⟨hc, by omega⟩)
    · by_cases hd : d.isUpper = true
      · rw [if_neg hc, if_pos hd] at hval
        exact Or.inr (Or.inr ⟨hd, by omega⟩)
      · rw [if_neg hc, if_neg hd] at hval
        exact Or.inl (ext hval)

end CodePoint

namespace Text

/-- Two texts of one length that differ in the case of ASCII letters only. -/
def SameLetters : Text → Text → Prop := List.Forall₂ CodePoint.SameLetter

theorem sameLetters_iff {s t : Text} :
    s.SameLetters t ↔ s.map CodePoint.asciiLower = t.map CodePoint.asciiLower := by
  have hrel : CodePoint.SameLetter = fun c d => c.asciiLower = d.asciiLower :=
    funext₂ fun _ _ => propext CodePoint.sameLetter_iff
  rw [← List.forall₂_eq_eq_eq, List.forall₂_map_left_iff, List.forall₂_map_right_iff, SameLetters,
    hrel]

end Text

end MarkdownRender
