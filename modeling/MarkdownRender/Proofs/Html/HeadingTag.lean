import MarkdownRender.Proofs.Html.HeadingMarkup
import MarkdownRender.Proofs.Html.StartTag

/-!
# The opening tag of a heading

A heading writes its id between quotation marks, as it is. A derived id is made of what slugs are
made of, so nothing in it can end the attribute or the tag. The token of a marker is whatever the
source has between the braces, and it may hold quotation marks and brackets. Brackets between
quotation marks belong to the value, but a quotation mark ends it. The opening tag is therefore
read as a single tag with one attribute at most if and only if the token, where there is one, holds
no quotation mark: `heading_openingTag`.
-/

namespace MarkdownRender.Html

open CodePoint (ofChar)
open Heading (marker stripMarkers explicitId? anchorId)

/-! ### Tags and values -/

/-- A value without quotation marks and brackets. -/
def IsAttributeValue (value : Text) : Prop :=
  ∀ c ∈ value, c ≠ ofChar '"' ∧ c ≠ ofChar '<' ∧ c ≠ ofChar '>'

instance (value : Text) : Decidable (IsAttributeValue value) :=
  inferInstanceAs (Decidable (∀ _ ∈ _, _))

theorem IsAttributeValue.quote_notMem {value : Text} (h : IsAttributeValue value) :
    ofChar '"' ∉ value :=
  fun hmem => (h _ hmem).1 rfl

/-- An opening tag of a heading, with an id or without one. -/
def headingTag (level : Int) : Option Text → Text
  | none => "<h" ++ Text.integer level ++ ">"
  | some anchor => "<h" ++ Text.integer level ++ " id=\"" ++ anchor ++ "\">"

/-- What a heading has behind its opening tag. -/
def headingRest (text : Text) (level : Int) : Text :=
  stripMarkers text ++ ("</h" ++ Text.integer level ++ ">\n")

/-- **When an opening tag is a single tag**: its id must not hold a quotation mark. -/
theorem isSingleTag_headingTag_iff (level : Int) (anchor : Option Text) :
    IsSingleTag (headingTag level anchor) ↔ ∀ id ∈ anchor, ofChar '"' ∉ id := by
  have hname : IsName (headingName level) := isName_heading level
  cases anchor with
  | none =>
    have htag : headingTag level none = startTag (headingName level) [] := by
      simp [headingTag, startTag, headingName, Text.ofString]
    rw [htag]
    exact iff_of_true (isSingleTag_startTag hname) (by simp)
  | some id =>
    have htag : headingTag level (some id) = startTag (headingName level) (attr "id" id) := by
      simp [headingTag, startTag, attr, headingName, Text.ofString]
    rw [htag, isSingleTag_startTag_attr_iff hname (by decide)]
    simp

/-! ### The opening tag -/

theorem isAttributeValue_anchorId (source : Text) : IsAttributeValue (anchorId source) := by
  have hslug : ∀ c ∈ anchorId source, Heading.isSlugChar c := Heading.isSlugChar_of_mem_anchorId
  intro c hc
  refine ⟨?_, (isMarkupFree_of_isSlugChar hslug).no_brackets c hc⟩
  rintro rfl
  exact absurd (hslug _ hc) (by decide)

/-- The id of a heading has a property that derived ids have if and only if the token of the marker,
if there is one, has it. -/
theorem forall_headingAnchor_iff (o : RenderOptions) (source : Text) {p : Text → Prop}
    (hderived : p (anchorId source)) :
    (∀ id ∈ headingAnchor o source, p id) ↔ ∀ token ∈ explicitId? source, p token := by
  cases htoken : explicitId? source with
  | some token => rw [headingAnchor, htoken]
  | none =>
    refine iff_of_true (fun id hid => ?_) (by simp)
    rw [headingAnchor, htoken] at hid
    obtain ⟨-, hanchor⟩ := Option.ite_none_right_eq_some.mp hid
    cases hanchor
    exact hderived

theorem ne_nil_of_headingAnchor {o : RenderOptions} {source anchor : Text}
    (h : headingAnchor o source = some anchor) : anchor ≠ [] := by
  have hderived : anchorId source ≠ [] := Heading.withLetter_ne_nil _
  refine (forall_headingAnchor_iff o source (p := (· ≠ [])) hderived).mpr ?_ anchor h
  intro token htoken
  obtain ⟨_, _, -, hid⟩ := Heading.exists_marker_of_explicitId? htoken
  exact hid.ne_nil

theorem heading_eq_headingTag (o : RenderOptions) (text : Text) (level : Int) (source : Text) :
    heading o text level source =
      headingTag level (headingAnchor o source) ++ headingRest text level := by
  have htag : Text.ofString "<h" ++ Text.integer level ++
      optionalAttribute "id" (headingAnchor o source) ++ Text.ofString ">" =
        headingTag level (headingAnchor o source) := by
    cases hanchor : headingAnchor o source with
    | none => simp [optionalAttribute, headingTag]
    | some anchor =>
      cases anchor with
      | nil => exact absurd rfl (ne_nil_of_headingAnchor hanchor)
      | cons c rest => simp [optionalAttribute, headingTag, Text.ofString]
  rw [← htag]
  simp only [heading, headingRest, List.append_assoc]

/-- **What the opening tag of a heading holds**, whatever its text, its level, its source and the
options. Its id is the token of the marker in the source, as it stands there, or it is derived from
a source without a marker. A derived id holds neither quotation marks nor brackets, so the id holds
none if and only if the token of the marker, if there is one, holds none. The opening tag is read as
a single tag with one attribute at most if and only if that token holds no quotation mark. -/
theorem heading_openingTag (o : RenderOptions) (text : Text) (level : Int) (source : Text) :
    ∃ anchor : Option Text,
      heading o text level source = headingTag level anchor ++ headingRest text level ∧
      ((∃ token front back, explicitId? source = some token ∧ anchor = some token ∧
          source = front ++ marker token ++ back) ∨
        (explicitId? source = none ∧
          anchor = if o.headerAutoId.truthy then some (anchorId source) else none)) ∧
      IsAttributeValue (anchorId source) ∧
      ((∀ id ∈ anchor, IsAttributeValue id) ↔
        ∀ token ∈ explicitId? source, IsAttributeValue token) ∧
      (IsSingleTag (headingTag level anchor) ↔
        ∀ token ∈ explicitId? source, ofChar '"' ∉ token) := by
  have hderived := isAttributeValue_anchorId source
  refine ⟨headingAnchor o source, heading_eq_headingTag o text level source, ?_, hderived,
    forall_headingAnchor_iff o source hderived, ?_⟩
  · cases htoken : explicitId? source with
    | some token =>
      obtain ⟨front, back, hsource, -⟩ := Heading.exists_marker_of_explicitId? htoken
      exact Or.inl ⟨token, front, back, rfl, by rw [headingAnchor, htoken], hsource⟩
    | none => exact Or.inr ⟨rfl, by rw [headingAnchor, htoken]⟩
  · exact (isSingleTag_headingTag_iff level _).trans
      (forall_headingAnchor_iff o source hderived.quote_notMem)

/-- A token with quotation marks ends the attribute and begins another one. What is written is a
tag with two attributes, and it has neither of the two forms that are free of marks. -/
theorem heading_token_adds_attribute :
    (∃ t : StartTag, heading {} "T" 1 "T \x7b#a\" b=\"c\x7d" = t.written ++ headingRest "T" 1 ∧
      t.attributes.map (·.name) = ["id", "b"]) ∧
    ¬ ∃ tag, heading {} "T" 1 "T \x7b#a\" b=\"c\x7d" = tag ++ headingRest "T" 1 ∧
      (tag = headingTag 1 none ∨
        ∃ id, tag = headingTag 1 (some id) ∧ IsAttributeValue id) := by
  have hheading : ∃ t : StartTag,
      heading {} "T" 1 "T \x7b#a\" b=\"c\x7d" = t.written ++ headingRest "T" 1 ∧
        t.attributes.map (·.name) = ["id", "b"] :=
    ⟨⟨"h1", [⟨"id", "a", by decide, by decide⟩, ⟨"b", "c", by decide, by decide⟩], by decide⟩,
      by decide +kernel, rfl⟩
  refine ⟨hheading, ?_⟩
  obtain ⟨t, hwritten, hnames⟩ := hheading
  rintro ⟨tag, htag, hform⟩
  have hsame : tag = t.written := List.append_cancel_right (htag.symm.trans hwritten)
  have hsingle : IsSingleTag tag := by
    rcases hform with rfl | ⟨id, rfl, hvalue⟩
    · exact (isSingleTag_headingTag_iff 1 none).mpr (by simp)
    · exact (isSingleTag_headingTag_iff 1 (some id)).mpr (by simpa using hvalue.quote_notMem)
  obtain ⟨t', ht', hlength⟩ := hsingle
  obtain rfl : t' = t := StartTag.written_injective (ht'.trans hsame)
  have htwo : t'.attributes.length = 2 := by simpa using congrArg List.length hnames
  omega

end MarkdownRender.Html
