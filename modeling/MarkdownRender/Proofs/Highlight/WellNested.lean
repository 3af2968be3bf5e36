import MarkdownRender.Proofs.Highlight.Unwrapping
import MarkdownRender.Proofs.Html.Elements
import MarkdownRender.Proofs.Html.Escaping
import MarkdownRender.Proofs.Html.OpenElements

/-!
# Well nested blocks

A block is cut at its first start tag and its last end tag without looking at what stands between
them, so the two may be tags of different elements: in a table with a column of line numbers, each
column has a `pre` of its own. What is left of well nested markup is well nested if and only if the
tags around it belong together, and they do where the markup holds one `pre` and one `code` at most.
-/

namespace MarkdownRender.CodeBlock

open CodePoint (ofChar)
open Html (tagged startTag endTag HasStart IsName IsInside WellNested voidNames)

variable {xhtml : Bool} {markup front inside back name attributes before after : Text}

theorem Unwraps.wellNested_iff (hunwraps : Unwraps markup front inside back)
    (h : WellNested xhtml markup) :
    WellNested xhtml (unwrap markup) ↔ IsInside xhtml front inside := by
  obtain ⟨before, rfl⟩ := hunwraps.exists_front
  rw [WellNested, hunwraps.eq, List.append_assoc] at h
  obtain ⟨⟨opened, tag⟩, hfront, -⟩ := Html.Reader.exists_read_of_append h
  obtain rfl : tag = none := Html.Reader.tag_eq_none_of_read_concat hfront
  obtain ⟨tail, htail, hnewlines⟩ := Text.exists_append_dropEndWhile (· = ofChar '\n') inside
  have hplain : ∀ c ∈ tail, c ≠ ofChar '<' ∧ c ≠ ofChar '>' := by
    intro c hc
    rw [of_decide_eq_true (hnewlines c hc)]
    decide
  have hunwrap : unwrap markup = Text.dropEndWhile (· = ofChar '\n') inside := hunwraps.unwrap_eq
  rw [← Html.wellNested_iff_isInside hfront, hunwrap, ← Html.WellNested.append_text_iff hplain,
    ← htail]

/-- Where the start tag of an element stands once, the end tag behind it is its own. -/
theorem isInside_of_once (hname : IsName name) (hvoid : ∀ void ∈ voidNames, ¬ name <+: void)
    (hattributes : ofChar '>' ∉ attributes) (h : WellNested xhtml markup)
    (heq : markup = before ++ startTag name attributes ++ inside ++ (endTag name ++ after))
    (honce : (Text.occurrences (ofChar '<' :: name) markup).length ≤ 1) :
    IsInside xhtml (before ++ startTag name attributes) inside := by
  have hcut : markup = before ++ (ofChar '<' :: name ++
      (attributes ++ [ofChar '>'] ++ inside ++ (endTag name ++ after))) := by
    rw [heq, List.append_assoc, List.append_assoc, startTag_append]
    simp
  have honce' := honce
  rw [hcut] at honce'
  obtain ⟨hbefore, hbehind⟩ :=
    Text.not_infix_of_length_occurrences_le_one (List.cons_ne_nil _ _) honce'
  rw [heq] at h
  refine Html.isInside_of_name_once hname hvoid hattributes h hbefore fun hinside => hbehind ?_
  exact hinside.trans (List.infix_append _ inside _)

/-- Where the tags of a block stand once, what is left of it stands between the tags of one
element. -/
theorem Unwraps.isInside (hunwraps : Unwraps markup front inside back) (h : WellNested xhtml markup)
    (hpre : (Text.occurrences "<pre" markup).length ≤ 1)
    (hcode : (Text.occurrences "<code" markup).length ≤ 1) : IsInside xhtml front inside := by
  have heq := hunwraps.eq
  cases hunwraps with
  | pre block =>
    exact isInside_of_once (by decide) (by decide) block.follows.no_bracket h heq hpre
  | code block follows =>
    rw [List.append_assoc (endTag _), List.append_assoc (endTag _)] at heq
    exact isInside_of_once (by decide) (by decide) follows.no_bracket h heq hcode

/-! ### In a block of the renderer -/

theorem wellNested_codeBlock {o : RenderOptions}
    (hclass : ∀ c ∈ o.langPrefix, c ≠ ofChar '<' ∧ c ≠ ofChar '>') (h : WellNested xhtml markup)
    (language : Option Text) : WellNested xhtml (Html.codeBlock o markup language) := by
  have hcontent : WellNested xhtml (markup ++ "\n") := h.append (.of_text (by decide))
  have hplain : WellNested xhtml (Html.codeBlock o markup none) := by
    rw [Html.codeBlock_none]
    exact .tagged (by decide) (by decide) .nil (.tagged (by decide) (by decide) .nil hcontent)
  rcases language with _ | _ | ⟨c, rest⟩
  · exact hplain
  · exact hplain
  · have hvalue : ∀ d ∈ o.langPrefix ++ Html.escape (c :: rest), d ≠ ofChar '<' ∧ d ≠ ofChar '>' := by
      refine List.forall_mem_append.mpr ⟨hclass, fun d hd => ?_⟩
      obtain ⟨hlt, hgt, -⟩ := Html.mem_escape hd
      exact ⟨hlt, hgt⟩
    have hattributes : Html.IsAttributes
        (Html.attr "class" (o.langPrefix ++ Html.escape (c :: rest))) := .attr (by decide) hvalue
    rw [Html.codeBlock_some o (List.cons_ne_nil _ _)]
    refine Html.WellNested.append ?_ (.of_text (by decide))
    exact .tagged (by decide) (by decide) .nil
      (.tagged (by decide) (by decide) hattributes hcontent)

/-- **Unwrapping keeps markup well nested as long as it cuts one element.** What is left of well
nested markup is well nested if and only if the elements that are open in front of it stay open up to
its end, that is, if the tags on both its sides belong together. They always do where the markup
holds one start tag of `pre` and one of `code` at most; then the block that the renderer writes
around what is left is well nested as well. -/
theorem wellNested_unwrap (h : WellNested xhtml markup) :
    (WellNested xhtml (unwrap markup) ↔
      ∀ front inside back, Unwraps markup front inside back → IsInside xhtml front inside) ∧
    ((Text.occurrences "<pre" markup).length ≤ 1 → (Text.occurrences "<code" markup).length ≤ 1 →
      WellNested xhtml (unwrap markup) ∧
        ∀ (o : RenderOptions) language, (∀ c ∈ o.langPrefix, c ≠ ofChar '<' ∧ c ≠ ofChar '>') →
          WellNested xhtml (Html.codeBlock o (unwrap markup) language)) := by
  have hiff : WellNested xhtml (unwrap markup) ↔
      ∀ front inside back, Unwraps markup front inside back → IsInside xhtml front inside := by
    constructor
    · intro hleft front inside back hunwraps
      exact (hunwraps.wellNested_iff h).mp hleft
    · intro hall
      by_cases hblock : HasBlock markup
      · obtain ⟨front, inside, back, hunwraps⟩ := exists_unwraps hblock
        exact (hunwraps.wellNested_iff h).mpr (hall front inside back hunwraps)
      · rw [unwrap_of_not_hasBlock hblock]
        exact h
  refine ⟨hiff, fun hpre hcode => ?_⟩
  have hleft : WellNested xhtml (unwrap markup) :=
    hiff.mpr fun front inside back hunwraps => hunwraps.isInside h hpre hcode
  exact ⟨hleft, fun o language hclass => wellNested_codeBlock hclass hleft language⟩

/-- A block in another element, and a table with a column of line numbers. -/
theorem wellNested_unwrap_block_and_table :
    WellNested false (Html.codeBlock {}
      (unwrap "<div><pre class=\"x\"><code><b>a</b>\n</code></pre></div>") (some "py")) ∧
    ¬ ∀ front inside back,
      Unwraps "<td><pre>1</pre></td><td><pre><b>a</b></pre></td>" front inside back →
        IsInside false front inside := by
  have htable : ¬ WellNested false (unwrap "<td><pre>1</pre></td><td><pre><b>a</b></pre></td>") := by
    decide +kernel
  constructor
  · exact ((wellNested_unwrap (by decide +kernel)).2 (by decide +kernel) (by decide +kernel)).2 {}
      (some "py") (by decide)
  · exact (wellNested_unwrap (by decide +kernel)).1.not.mp htable

/-- With two elements of a kind, the first start tag and the last end tag are not those of one. -/
theorem unwrap_cuts_across_elements :
    (WellNested false "<pre>1</pre><pre>a</pre>" ∧
      unwrap "<pre>1</pre><pre>a</pre>" = "1</pre><pre>a" ∧
      ¬ WellNested false "1</pre><pre>a" ∧
      ¬ WellNested false (Html.codeBlock {} "1</pre><pre>a" none)) ∧
    WellNested false "<pre><code>a</code><code>b</code></pre>" ∧
      unwrap "<pre><code>a</code><code>b</code></pre>" = "a</code><code>b" ∧
      ¬ WellNested false "a</code><code>b" := by
  decide +kernel

end MarkdownRender.CodeBlock
