import MarkdownRender.Proofs.Heading.Anchor
import MarkdownRender.Proofs.Heading.Markers
import MarkdownRender.Proofs.Html.Elements

/-!
# Markers in rendered headings

Markers are removed from the text of a heading when it is markup already, and a marker reaches to
the last closing brace of its line, whatever tags stand before that. A heading stays well nested as
long as each marker, read where it stands, leaves the same elements open as before it. Where one
opens or closes elements, they lose their other halves.
-/

namespace MarkdownRender.Html

open CodePoint (ofChar)
open Heading (marker stripMarkers IsMarkerIn)

/-! ### Ids -/

/-- The id of a heading is a token in its source, or made of what slugs are made of. -/
theorem marker_or_slug_of_headingAnchor {o : RenderOptions} {source anchor : Text}
    (h : headingAnchor o source = some anchor) :
    (∃ front back, source = front ++ marker anchor ++ back) ∨
      ∀ c ∈ anchor, Heading.isSlugChar c := by
  unfold headingAnchor at h
  split at h
  · next token htoken =>
    cases h
    obtain ⟨front, back, hsource, -⟩ := Heading.exists_marker_of_explicitId? htoken
    exact Or.inl ⟨front, back, hsource⟩
  · obtain ⟨-, hanchor⟩ := Option.ite_none_right_eq_some.mp h
    cases hanchor
    exact Or.inr Heading.isSlugChar_of_mem_anchorId

theorem isMarkupFree_of_isSlugChar {text : Text} (h : ∀ c ∈ text, Heading.isSlugChar c) :
    IsMarkupFree text := by
  have hslug : ∀ d ∈ Text.ofString "<>\x7b", ¬ Heading.isSlugChar d := by decide
  intro c hc
  have hne : ∀ d ∈ Text.ofString "<>\x7b", c ≠ d := fun d hd heq => hslug d hd (heq ▸ h c hc)
  exact ⟨hne _ (by decide), hne _ (by decide), hne _ (by decide)⟩

/-- A source without angle brackets gives an id without any. -/
theorem isAttributes_headingAnchor (o : RenderOptions) {source : Text}
    (h : ∀ c ∈ source, c ≠ ofChar '<' ∧ c ≠ ofChar '>') :
    IsAttributes (optionalAttribute "id" (headingAnchor o source)) := by
  refine .optionalAttribute (by decide) fun anchor hanchor => ?_
  rcases marker_or_slug_of_headingAnchor hanchor with ⟨front, back, rfl⟩ | hslug
  · exact fun c hc => h c (by simp [marker, hc])
  · exact (isMarkupFree_of_isSlugChar hslug).no_brackets

/-! ### Removal of markers -/

/-- Reading `stretch` behind `front` leaves the reader where it was. -/
def IsNeutral (xhtml : Bool) (front stretch : Text) : Prop :=
  Reader.read xhtml {} (front ++ stretch) = Reader.read xhtml {} front

/-- A marker that stands between tags and holds none is neutral. -/
theorem isNeutral_of_no_brackets {xhtml : Bool} {front token : Text} {opened : List Text}
    (hfront : Reader.read xhtml {} front = some ⟨opened, none⟩)
    (htoken : ∀ c ∈ token, c ≠ ofChar '<' ∧ c ≠ ofChar '>') :
    IsNeutral xhtml front (marker token) := by
  have hmarker : ∀ c ∈ marker token, c ≠ ofChar '<' ∧ c ≠ ofChar '>' :=
    List.forall_mem_cons.mpr ⟨by decide, List.forall_mem_cons.mpr ⟨by decide,
      List.forall_mem_append.mpr ⟨htoken, by decide⟩⟩⟩
  rw [IsNeutral, Reader.read_append_of_read hfront, Reader.read_text hmarker, hfront]

/-- The name of the element that a heading becomes. -/
def headingName (level : Int) : Text := "h" ++ Text.integer level

section Heading

variable (o : RenderOptions) (level : Int) {text source : Text}

/-- A heading is as well nested as the text that is left between its tags. -/
theorem wellNested_heading_iff_read (hsource : ∀ c ∈ source, c ≠ ofChar '<' ∧ c ≠ ofChar '>') :
    WellNested o.xhtml.truthy (heading o text level source) ↔
      Reader.read o.xhtml.truthy ⟨[headingName level], none⟩ (stripMarkers text) =
        some ⟨[headingName level], none⟩ := by
  rw [heading_eq, WellNested.append_text_iff (by decide),
    WellNested.tagged_iff (isName_heading level) (heading_notMem_voidNames level)
      (isAttributes_headingAnchor o hsource)]
  rfl

/-- What is left is read like the whole text if each marker is neutral where it stands. -/
theorem read_stripMarkers {xhtml : Bool}
    (h : ∀ front token back, IsMarkerIn text front token back →
      IsNeutral xhtml front (marker token)) :
    Reader.read xhtml {} (stripMarkers text) = Reader.read xhtml {} text := by
  have hscan : Reader.read xhtml {} text = Reader.read xhtml {} (stripMarkers text) := by
    refine Heading.stripMarkers_invariant
      (Q := fun front out => Reader.read xhtml {} front = Reader.read xhtml {} out) rfl ?_ ?_
    · intro front out c hq
      rw [Reader.read_append, Reader.read_append, hq]
    · intro front token back out hmarker hq
      exact (h front token back hmarker).trans hq
  exact hscan.symm

variable {o level} {front token back : Text} {opened opened' : List Text}

theorem wellNested_heading_of_neutral (htext : WellNested o.xhtml.truthy text)
    (hsource : ∀ c ∈ source, c ≠ ofChar '<' ∧ c ≠ ofChar '>')
    (hmarkers : ∀ front token back, IsMarkerIn text front token back →
      IsNeutral o.xhtml.truthy front (marker token)) :
    WellNested o.xhtml.truthy (heading o text level source) := by
  have hleft : WellNested o.xhtml.truthy (stripMarkers text) :=
    (read_stripMarkers hmarkers).trans htext
  exact (wellNested_heading_iff_read o level hsource).mpr (hleft.read [headingName level])

/-- Where one marker stands on a single line and between tags, the heading is well nested if and
only if the same elements are open on both its sides. -/
theorem wellNested_heading_iff_opened (htext : WellNested o.xhtml.truthy text)
    (hsource : ∀ c ∈ source, c ≠ ofChar '<' ∧ c ≠ ofChar '>')
    (hmarker : IsMarkerIn text front token back) (hline : ofChar '\n' ∉ text)
    (hfront : Reader.read o.xhtml.truthy {} front = some ⟨opened, none⟩)
    (hbehind : Reader.read o.xhtml.truthy {} (front ++ marker token) = some ⟨opened', none⟩) :
    WellNested o.xhtml.truthy (heading o text level source) ↔ opened = opened' := by
  have hback : Reader.read o.xhtml.truthy ⟨opened', none⟩ back = some {} := by
    rw [← Reader.read_append_of_read hbehind, ← hmarker.eq]
    exact htext
  have habove : Reader.read o.xhtml.truthy ⟨opened' ++ [headingName level], none⟩ back =
      some ⟨[headingName level], none⟩ := Reader.read_above hback _
  have hstart : Reader.read o.xhtml.truthy ⟨[headingName level], none⟩ front =
      some ⟨opened ++ [headingName level], none⟩ := Reader.read_above hfront _
  rw [wellNested_heading_iff_read o level hsource, hmarker.stripMarkers_eq hline,
    Reader.read_append_of_read hstart]
  constructor
  · intro hleft
    exact List.append_cancel_right (Reader.opened_eq_of_read hleft habove)
  · rintro rfl
    exact habove

end Heading

/-- **Markers that leave the open elements as they are do no damage.** The text is read with its
markers: if each of them leaves the reader where it was, the heading is well nested. The condition
is needed: where the marker of a single line stands between tags, the heading is well nested if and
only if the same elements are open before and behind the marker. -/
theorem wellNested_heading (o : RenderOptions) {text : Text} (level : Int) {source : Text}
    (htext : WellNested o.xhtml.truthy text)
    (hsource : ∀ c ∈ source, c ≠ ofChar '<' ∧ c ≠ ofChar '>') :
    ((∀ front token back, IsMarkerIn text front token back →
        IsNeutral o.xhtml.truthy front (marker token)) →
      WellNested o.xhtml.truthy (heading o text level source)) ∧
    ∀ front token back opened opened', IsMarkerIn text front token back → ofChar '\n' ∉ text →
      Reader.read o.xhtml.truthy {} front = some ⟨opened, none⟩ →
      Reader.read o.xhtml.truthy {} (front ++ marker token) = some ⟨opened', none⟩ →
      (WellNested o.xhtml.truthy (heading o text level source) ↔ opened = opened') := by
  refine ⟨wellNested_heading_of_neutral htext hsource, ?_⟩
  intro front token back opened opened' hmarker hline hfront hbehind
  exact wellNested_heading_iff_opened htext hsource hmarker hline hfront hbehind

/-- A marker inside an element, and one that reaches from outside an element into it. -/
theorem wellNested_heading_inside_and_across :
    WellNested false (heading {} "<em>Use \x7b#if\x7d now</em>" 1 "Use") ∧
      ¬ WellNested false (heading {} "Use \x7b#if\x7d and <em>then \x7b#end\x7d</em>" 1 "Use") := by
  have hfirst : ∀ front : Text, ofChar '\x7b' ∉ front → ∀ before line,
      front = before ++ ofChar '\x7b' :: ofChar '#' :: line → ofChar '\n' ∈ line := by
    rintro front hnone before line rfl
    simp at hnone
  have hinside : IsMarkerIn "<em>Use \x7b#if\x7d now</em>" "<em>Use " "if" " now</em>" :=
    ⟨⟨by decide, by decide, by decide⟩, by decide, hfirst _ (by decide)⟩
  have hacross : IsMarkerIn "Use \x7b#if\x7d and <em>then \x7b#end\x7d</em>" "Use "
      "if\x7d and <em>then \x7b#end" "</em>" :=
    ⟨⟨by decide, by decide, by decide⟩, by decide, hfirst _ (by decide)⟩
  constructor
  · refine (wellNested_heading {} 1 (by decide +kernel) (by decide)).1 ?_
    intro front token back hmarker
    obtain ⟨rfl, rfl⟩ := hinside.unique hmarker (by decide)
    have hfront : Reader.read false {} "<em>Use " = some ⟨["em"], none⟩ := by decide +kernel
    exact isNeutral_of_no_brackets hfront (by decide)
  · intro hnested
    have hopened := ((wellNested_heading {} 1 (by decide +kernel) (by decide)).2 _ _ _ [] ["em"]
      hacross (by decide) (by decide +kernel) (by decide +kernel)).mp hnested
    cases hopened

/-- Two markers on a line, the second of them inside an element, are removed as one. -/
theorem heading_cuts_tags :
    WellNested false "Use \x7b#if\x7d and <em>then \x7b#end\x7d</em>" ∧
      heading {} "Use \x7b#if\x7d and <em>then \x7b#end\x7d</em>" 1 "Use" =
        Text.ofString "<h1 id=\"use\">Use </em></h1>\n" ∧
      ¬ WellNested false (Text.ofString "<h1 id=\"use\">Use </em></h1>\n") := by
  decide +kernel

end MarkdownRender.Html
