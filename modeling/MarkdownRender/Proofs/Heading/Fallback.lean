import MarkdownRender.Proofs.Heading.Slug

/-!
# Ids made of numbers

A source without a slug is told by the numbers of its code points. The numerals are not empty and
hold no hyphen, so they are read back from the text that joins them, and each gives back its number.
The empty source is the only one without a numeral. So the numbers tell any two sources apart
(`codePointNumbers_injective`), and since they do not begin with a letter, an id that consists of
them always has the same letters in front.
-/

namespace MarkdownRender.Heading

open CodePoint (ofChar)

theorem hyphen_notMem_decimal (n : Nat) : ofChar '-' ∉ Text.decimal n := by
  intro h
  have hdigit := Text.isDigit_of_mem_decimal h
  exact absurd hdigit (by decide)

/-- **The numbers tell sources apart.** -/
theorem codePointNumbers_injective : Function.Injective codePointNumbers := by
  have hread : ∀ source : Text, ((codePointNumbers source).splitOn (ofChar '-')).filter (· ≠ []) =
      source.map fun c => Text.decimal c.val := by
    intro source
    refine Text.splitOn_join fun part hpart => ?_
    obtain ⟨c, -, rfl⟩ := List.mem_map.mp hpart
    exact ⟨Text.decimal_ne_nil c.val, hyphen_notMem_decimal c.val⟩
  have hnumeral : Function.Injective fun c : CodePoint => Text.decimal c.val :=
    fun _ _ h => CodePoint.ext (Text.decimal_injective h)
  intro source source' h
  apply List.map_injective_iff.mpr hnumeral
  rw [← hread source, ← hread source', h]

theorem withLetter_codePointNumbers (source : Text) :
    withLetter (codePointNumbers source) = "id-" ++ codePointNumbers source := by
  have hlower : ∀ c ∈ codePointNumbers source, ¬ c.isLower := by
    intro c hc hlower
    rcases Text.mem_or_mem_of_mem_join hc with hsep | ⟨part, hpart, hmem⟩
    · obtain rfl := List.mem_singleton.mp hsep
      exact absurd hlower (by decide)
    · obtain ⟨d, -, rfl⟩ := List.mem_map.mp hpart
      have hdigit := CodePoint.isDigit_iff.mp (Text.isDigit_of_mem_decimal hmem)
      have hletter := CodePoint.isLower_iff.mp hlower
      omega
  unfold withLetter
  cases hnumbers : codePointNumbers source with
  | nil => rfl
  | cons c rest =>
    have hc : ¬ c.isLower := by
      apply hlower
      rw [hnumbers]
      exact List.mem_cons_self
    exact if_neg hc

theorem anchorId_of_slug_eq_nil {source : Text} (h : slug source = []) :
    anchorId source = "id-" ++ codePointNumbers source := by
  rw [anchorId, h, if_pos List.isEmpty_nil, withLetter_codePointNumbers]

/-- **Sources without a slug never share an id.** If the lower-case form of neither source holds a
letter, a digit or a low line that a slug would keep, the ids are made of the numbers of the code
points, and they are equal only if the sources are. Sources of hyphens are among these, and so is
the empty source. -/
theorem anchorId_eq_iff_of_no_slug {source source' : Text}
    (h : ∀ c ∈ source.lower, ¬ isSlugLetter c) (h' : ∀ c ∈ source'.lower, ¬ isSlugLetter c) :
    anchorId source = "id-" ++ codePointNumbers source ∧
      (anchorId source = anchorId source' ↔ source = source') := by
  have hid := anchorId_of_slug_eq_nil (slug_eq_nil_iff.mpr h)
  have hid' := anchorId_of_slug_eq_nil (slug_eq_nil_iff.mpr h')
  refine ⟨hid, ?_, congrArg anchorId⟩
  rw [hid, hid']
  intro heq
  exact codePointNumbers_injective (List.append_cancel_left heq)

/-- The same digits, with the hyphen in another place. -/
theorem anchorId_ne_of_same_digits :
    anchorId "¹-" = "id-185-45" ∧ anchorId "\u0012\u0221" = "id-18-545" ∧
      anchorId "¹-" ≠ anchorId "\u0012\u0221" := by
  have hplain : ∀ c ∈ Text.lower "¹-", ¬ isSlugLetter c := by decide +kernel
  have hplain' : ∀ c ∈ Text.lower "\u0012\u0221", ¬ isSlugLetter c := by decide +kernel
  obtain ⟨-, hiff⟩ := anchorId_eq_iff_of_no_slug hplain hplain'
  exact ⟨by decide +kernel, by decide +kernel, fun heq => absurd (hiff.mp heq) (by decide)⟩

end MarkdownRender.Heading
