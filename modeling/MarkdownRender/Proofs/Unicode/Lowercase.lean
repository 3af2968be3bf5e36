import MarkdownRender.Proofs.Text.Numeral
import MarkdownRender.Unicode.Lowercase

/-!
# The lower case of ASCII texts

The first of all ranges of code points with a lower-case form holds the ASCII capitals, and the
others lie beyond ASCII. So an ASCII text is lowered letter by letter: none of its code points has a
form of two, and there is no sigma in it to look at its neighbours (`lower_of_ascii`). In any text,
the two cases of an ASCII letter have one lower-case form (`lowerForm_of_sameLetter`).
-/

namespace MarkdownRender

namespace Unicode

/-- The range of the ASCII capitals. -/
def asciiCapitals : CaseRange := ⟨0x41, 0x5A, 1, 32⟩

theorem covers_asciiCapitals (c : CodePoint) : asciiCapitals.covers c = c.isUpper := by
  have hstep : (c.val - asciiCapitals.first) % asciiCapitals.step = 0 := Nat.mod_one _
  simp only [CaseRange.covers, hstep, decide_true, Bool.and_true]
  rfl

theorem caseRanges_eq : caseRanges = asciiCapitals :: caseRanges.tail := rfl

theorem ascii_lt_first : ∀ range ∈ caseRanges.tail, 0x80 ≤ range.first := by decide +kernel

theorem lowerForm_ne_nil (c : CodePoint) : lowerForm c ≠ [] := by
  unfold lowerForm
  split
  · exact List.cons_ne_nil _ _
  · split
    · exact List.cons_ne_nil _ _
    · exact List.cons_ne_nil _ _

theorem lowerForm_of_ascii {c : CodePoint} (h : c.val < 0x80) : lowerForm c = [c.asciiLower] := by
  have hdotted : c ≠ dottedCapitalI := by
    rintro rfl
    exact absurd h (by decide)
  have htail : caseRanges.tail.find? (·.covers c) = none := by
    rw [List.find?_eq_none]
    intro range hrange hcovers
    have hfirst := ascii_lt_first range hrange
    simp only [CaseRange.covers, Bool.and_eq_true, decide_eq_true_eq] at hcovers
    omega
  rw [lowerForm, if_neg hdotted, caseRanges_eq, List.find?_cons, covers_asciiCapitals]
  unfold CodePoint.asciiLower
  cases c.isUpper with
  | true => rfl
  | false =>
    simp only [htail]
    rfl

/-- The two cases of an ASCII letter have one lower-case form. -/
theorem lowerForm_of_sameLetter {c d : CodePoint} (h : c.SameLetter d) :
    lowerForm c = lowerForm d := by
  have hcapital : ∀ {c d : CodePoint}, c.isUpper → d.val = c.val + 32 →
      lowerForm c = lowerForm d := by
    intro c d hu hval
    have hrange := CodePoint.isUpper_iff.mp hu
    rw [lowerForm_of_ascii (by omega), lowerForm_of_ascii (by omega),
      CodePoint.sameLetter_iff.mp (Or.inr (Or.inl ⟨hu, hval⟩))]
  rcases h with rfl | ⟨hu, hval⟩ | ⟨hu, hval⟩
  · rfl
  · exact hcapital hu hval
  · exact (hcapital hu hval).symm

end Unicode

namespace Text

open Unicode

/-- On its own, a sigma is not the end of a word. -/
theorem lower_singleton (c : CodePoint) : lower [c] = lowerForm c := by
  have hword : endsCasedWord [] [] = false := rfl
  simp [lower, lowerAfter, hword]

theorem SameLetters.flatMap_lowerForm {s t : Text} (h : s.SameLetters t) :
    s.flatMap lowerForm = t.flatMap lowerForm := by
  induction h with
  | nil => rfl
  | cons hcd _ ih => rw [List.flatMap_cons, List.flatMap_cons, lowerForm_of_sameLetter hcd, ih]

theorem lowerAfter_of_ascii {text : Text} (h : ∀ c ∈ text, c.val < 0x80) (before : Text) :
    lowerAfter before text = text.map CodePoint.asciiLower := by
  induction text generalizing before with
  | nil => rfl
  | cons c rest ih =>
    have hc : c.val < 0x80 := h c List.mem_cons_self
    have hsigma : c ≠ capitalSigma := by
      rintro rfl
      exact absurd hc (by decide)
    have hrest := ih (fun d hd => h d (List.mem_cons_of_mem c hd)) (c :: before)
    rw [lowerAfter, hrest, lowerForm_of_ascii hc]
    simp [hsigma]

/-- An ASCII text is lowered letter by letter. -/
theorem lower_of_ascii {text : Text} (h : ∀ c ∈ text, c.val < 0x80) :
    text.lower = text.map CodePoint.asciiLower :=
  lowerAfter_of_ascii h []

end Text

end MarkdownRender
