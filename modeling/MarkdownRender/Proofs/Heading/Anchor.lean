import MarkdownRender.Heading.Anchor
import MarkdownRender.Proofs.Text.Lines
import MarkdownRender.Proofs.Text.Numeral

/-!
# What derived ids are made of

A slug keeps small letters, digits, low lines and hyphens, and so does everything that an id is
put together from. Neither a trimmed slug nor a list of numbers ends with a hyphen, and what is put
in front of them does not change their end; so the only id that ends with one is that of the empty
source (`anchorId_isLegal`). None of this depends on what lower-casing makes of the source.
-/

namespace MarkdownRender

open CodePoint (ofChar)

namespace Heading

theorem isSlugChar_of_mem_collapseGaps {inGap : Bool} {text : Text} :
    ∀ c ∈ collapseGaps inGap text, isSlugChar c := by
  induction text generalizing inGap with
  | nil => simp [collapseGaps]
  | cons d rest ih =>
    rw [collapseGaps]
    split
    · next hd => exact List.forall_mem_cons.mpr ⟨hd, ih⟩
    · split
      · exact ih
      · exact List.forall_mem_cons.mpr ⟨by decide, ih⟩

theorem mem_of_mem_trimHyphens {text : Text} {c : CodePoint} (h : c ∈ trimHyphens text) :
    c ∈ text := by
  rw [trimHyphens, Text.dropEndWhile_eq_rdropWhile] at h
  exact (List.dropWhile_suffix _).subset ((List.rdropWhile_prefix _ _).subset h)

theorem isSlugChar_of_mem_codePointNumbers {source : Text} :
    ∀ c ∈ codePointNumbers source, isSlugChar c := by
  have hhyphen : ∀ c ∈ Text.ofString "-", isSlugChar c := by decide
  intro c hc
  rcases Text.mem_or_mem_of_mem_join hc with hc | ⟨part, hpart, hc⟩
  · exact hhyphen c hc
  · obtain ⟨d, -, rfl⟩ := List.mem_map.mp hpart
    simp [isSlugChar, Text.isDigit_of_mem_decimal hc]

theorem isSlugChar_of_mem_withLetter {body : Text} (h : ∀ c ∈ body, isSlugChar c) :
    ∀ c ∈ withLetter body, isSlugChar c := by
  have hid : ∀ c ∈ Text.ofString "id-", isSlugChar c := by decide
  rw [withLetter]
  split
  · exact h
  · exact List.forall_mem_append.mpr ⟨hid, h⟩

theorem withLetter_ne_nil (body : Text) : withLetter body ≠ [] := by
  unfold withLetter
  split
  · next h =>
    rintro rfl
    cases h
  · exact List.cons_ne_nil _ _

/-- **A derived id has no other code points than a slug.** -/
theorem isSlugChar_of_mem_anchorId {source : Text} : ∀ c ∈ anchorId source, isSlugChar c := by
  refine isSlugChar_of_mem_withLetter ?_
  split
  · exact isSlugChar_of_mem_codePointNumbers
  · exact fun c hc => isSlugChar_of_mem_collapseGaps c (mem_of_mem_trimHyphens hc)

/-! ### How ids begin and end -/

theorem exists_cons_withLetter (body : Text) :
    ∃ first rest, withLetter body = first :: rest ∧ first.isLower := by
  unfold withLetter
  split
  · next h =>
    cases body with
    | nil => cases h
    | cons first rest => exact ⟨first, rest, rfl, h⟩
  · exact ⟨ofChar 'i', Text.ofString "d-" ++ body, rfl, by decide⟩

/-- What is put in front of an id does not change its end. -/
theorem getLast?_withLetter {body : Text} (h : body ≠ []) :
    (withLetter body).getLast? = body.getLast? := by
  unfold withLetter
  split
  · rfl
  · exact List.getLast?_append_of_ne_nil _ h

theorem getLast?_trimHyphens_ne (text : Text) : (trimHyphens text).getLast? ≠ some (ofChar '-') := by
  intro h
  rw [trimHyphens, Text.dropEndWhile_eq_rdropWhile] at h
  have hne : (text.dropWhile (· = ofChar '-')).rdropWhile (· = ofChar '-') ≠ [] := by
    intro hnil
    rw [hnil] at h
    cases h
  apply List.rdropWhile_last_not _ _ hne
  rw [List.getLast?_eq_some_getLast hne] at h
  exact decide_eq_true (Option.some.inj h)

/-- The numbers of the code points end with the number of the last one. -/
theorem exists_codePointNumbers_concat (front : Text) (c : CodePoint) :
    ∃ before, codePointNumbers (front ++ [c]) = before ++ Text.decimal c.val := by
  unfold codePointNumbers
  rw [List.map_append]
  by_cases h : front = []
  · subst h
    exact ⟨[], rfl⟩
  · have hne : front.map (fun c => Text.decimal c.val) ≠ [] := by simpa using h
    exact ⟨_, Text.join_concat "-" hne (Text.decimal c.val)⟩

theorem codePointNumbers_ne_nil_and_getLast? {source : Text} (h : source ≠ []) :
    codePointNumbers source ≠ [] ∧ (codePointNumbers source).getLast? ≠ some (ofChar '-') := by
  obtain ⟨front, c, rfl⟩ := (List.eq_nil_or_concat' source).resolve_left h
  obtain ⟨before, hnumbers⟩ := exists_codePointNumbers_concat front c
  have hne : Text.decimal c.val ≠ [] := Text.decimal_ne_nil c.val
  rw [hnumbers, List.getLast?_append_of_ne_nil before hne]
  refine ⟨List.append_ne_nil_of_right_ne_nil before hne, fun hlast => ?_⟩
  have hdigit := Text.isDigit_of_mem_decimal (List.mem_of_getLast? hlast)
  exact absurd hdigit (by decide)

/-- The id of a source that is not empty ends with the end of its slug, or with a digit. -/
theorem getLast?_anchorId_ne {source : Text} (h : source ≠ []) :
    (anchorId source).getLast? ≠ some (ofChar '-') := by
  unfold anchorId
  split
  · obtain ⟨hne, hlast⟩ := codePointNumbers_ne_nil_and_getLast? h
    rwa [getLast?_withLetter hne]
  · next hslug =>
    rw [getLast?_withLetter (by simpa using hslug)]
    exact getLast?_trimHyphens_ne _

/-- The ids that a heading may have: a small letter, and behind it small letters, digits, low lines
and hyphens. -/
def IsLegalId (id : Text) : Prop :=
  ∃ first rest, id = first :: rest ∧ first.isLower ∧
    ∀ c ∈ rest, c.isLower ∨ c.isDigit ∨ c = ofChar '_' ∨ c = ofChar '-'

theorem isLegalId_anchorId (source : Text) : IsLegalId (anchorId source) := by
  obtain ⟨first, rest, hid, hfirst⟩ :=
    exists_cons_withLetter (if (slug source).isEmpty then codePointNumbers source else slug source)
  refine ⟨first, rest, hid, hfirst, fun c hc => ?_⟩
  have hslug : ∀ d ∈ anchorId source, isSlugChar d := isSlugChar_of_mem_anchorId
  rw [anchorId, hid] at hslug
  simpa [isSlugChar, or_assoc] using hslug c (List.mem_cons_of_mem first hc)

/-- **Derived ids are legal**, whatever the source. The id of the empty source is `id-`, and no other
source has this id. It is also the only derived id that ends with a hyphen. -/
theorem anchorId_isLegal (source : Text) :
    IsLegalId (anchorId source) ∧ (anchorId source = Text.ofString "id-" ↔ source = []) ∧
      ((anchorId source).getLast? = some (ofChar '-') ↔ source = []) := by
  have hempty : anchorId [] = Text.ofString "id-" := by decide
  have hend : (anchorId source).getLast? = some (ofChar '-') ↔ source = [] := by
    constructor
    · intro hlast
      by_contra h
      exact getLast?_anchorId_ne h hlast
    · rintro rfl
      rw [hempty]
      decide
  refine ⟨isLegalId_anchorId source, ⟨fun hid => ?_, ?_⟩, hend⟩
  · apply hend.mp
    rw [hid]
    decide
  · rintro rfl
    exact hempty

/-- A Kelvin sign is lowered to an ASCII letter and makes a slug; hyphens alone make none. -/
example : anchorId "\u212Aelvin" = "kelvin" ∧ anchorId "--" = "id-45-45" := by decide +kernel

end Heading

end MarkdownRender
