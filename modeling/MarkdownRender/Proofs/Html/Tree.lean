import MarkdownRender.Proofs.Html.Fragment

/-!
# Trees of constructs

A tree is admissible if its own texts hold no markup: what stands in an attribute, or is put out
without being escaped, has no brackets and no opening braces. Rendering such a tree is never
stopped, and each construct makes a fragment out of the fragments below it, so the output as a whole
is well nested (`wellNested_node`).
-/

namespace MarkdownRender.Html

open CodePoint (ofChar)
open Attempt (gives_pure gives_lift)

/-! ### Admissible trees -/

/-- The nodes are texts, and `P` holds of what they say one after the other. -/
def Says (P : Text → Prop) (nodes : List Node) : Prop :=
  ∃ texts : List Text, nodes = texts.map Node.text ∧ P texts.flatten

mutual

/-- A tree whose own texts hold no markup. -/
def NodeAdmissible : Node → Prop
  | .text t => IsMarkupFree t
  | .construct c => ConstructAdmissible c

/-- Nodes may stand for the content of an element. What becomes an attribute, and what is put out
as it is, has to be plain text. -/
def ConstructAdmissible : Construct (List Node) → Prop
  | .code code language escaped =>
    Says (fun t => if escaped then IsMarkupFree t else ofChar '\x7b' ∉ t) code ∧
      ∀ nodes ∈ language, Says (fun t => ofChar '\x7b' ∉ t) nodes
  | .blockquote quote => NodesAdmissible quote
  | .html markup => Says IsMarkupFree markup
  | .heading text _ source => NodesAdmissible text ∧ Says IsHeadingSource source
  | .headingId source => Says (fun _ => True) source
  | .rule => True
  | .list body _ => NodesAdmissible body
  | .listItem text => NodesAdmissible text
  | .paragraph text => NodesAdmissible text
  | .table header body => NodesAdmissible header ∧ NodesAdmissible body
  | .tableRow content => NodesAdmissible content
  | .tableCell content flags =>
    NodesAdmissible content ∧
      ∃ f, CellFlags.coerce flags = .ok f ∧ ∀ t ∈ f.alignment?, IsMarkupFree t
  | .math content language _ => Says IsMarkupFree content ∧ Says IsMarkupFree language
  | .strong text => NodesAdmissible text
  | .emphasis text => NodesAdmissible text
  | .codeSpan text => NodesAdmissible text
  | .lineBreak => True
  | .deleted text => NodesAdmissible text
  | .footnoteReference name => Says IsMarkupFree name
  | .footnote name text => Says IsMarkupFree name ∧ NodesAdmissible text
  | .link href title text =>
    Says IsMarkupFree href ∧ (∀ nodes ∈ title, Says IsMarkupFree nodes) ∧ NodesAdmissible text
  | .image href title text =>
    Says IsMarkupFree href ∧ (∀ nodes ∈ title, Says IsMarkupFree nodes) ∧ Says IsMarkupFree text

def NodesAdmissible : List Node → Prop
  | [] => True
  | n :: rest => NodeAdmissible n ∧ NodesAdmissible rest

end

/-! ### Rendering -/

section Rendering

variable {r : Renderer} {P : Text → Prop}

theorem nodes_texts (texts : List Text) :
    Renderer.nodes r (texts.map Node.text) = pure texts.flatten := by
  induction texts with
  | nil => rfl
  | cons t rest ih =>
    rw [List.map_cons, Renderer.nodes, Renderer.node, ih, List.flatten_cons]
    simp

theorem says_text {t : Text} (h : P t) : Says P [.text t] := ⟨[t], rfl, by simpa using h⟩

theorem Says.gives {nodes : List Node} (h : Says P nodes) : (Renderer.nodes r nodes).Gives P := by
  obtain ⟨texts, rfl, htext⟩ := h
  rw [nodes_texts]
  exact gives_pure htext

theorem gives_optionalNodes {nodes : Option (List Node)} (h : ∀ ns ∈ nodes, Says P ns) :
    (Renderer.optionalNodes r nodes).Gives (fun text => ∀ t ∈ text, P t) := by
  cases nodes with
  | none => exact gives_pure (by simp)
  | some ns => exact (h ns rfl).gives.bind fun t ht => gives_pure (by simpa using ht)

end Rendering

/-- Options that add nothing to a tree but plain text. -/
structure IsPlainOptions (o : RenderOptions) : Prop where
  no_highlight : o.highlight = none
  class_free : IsMarkupFree o.langPrefix

section Trees

variable {o : RenderOptions}

/-- Without a highlighter, code is escaped unless it is so already. -/
theorem value_code (h : o.highlight = none) (code : Text) (language : Option Text)
    (escaped : Bool) : (Html.code o code language escaped).value =
      codeBlock o (if escaped then code else escape code) language := by
  simp [Html.code, highlighted, h]

theorem gives_code (ho : IsPlainOptions o) {code : Text} {language : Option Text} {escaped : Bool}
    (hcode : if escaped then IsMarkupFree code else ofChar '\x7b' ∉ code)
    (hlanguage : ∀ t ∈ language, ofChar '\x7b' ∉ t) :
    (Html.construct o (.code code language escaped)).Gives (IsFragment o.xhtml.truthy) := by
  have hmarkup : IsMarkupFree (if escaped then code else escape code) := by
    cases escaped with
    | false => exact .escape hcode
    | true => exact hcode
  refine gives_lift ?_
  rw [value_code ho.no_highlight]
  exact .codeBlock ho.class_free hmarkup hlanguage

theorem gives_tableCell {content : Text} {flags : CellFlagsInput}
    (h : IsFragment o.xhtml.truthy content)
    (hflags : ∃ f, CellFlags.coerce flags = .ok f ∧ ∀ t ∈ f.alignment?, IsMarkupFree t) :
    (Html.construct o (.tableCell content flags)).Gives (IsFragment o.xhtml.truthy) := by
  obtain ⟨f, hcoerce, halign⟩ := hflags
  have hyields : (Attempt.ofExcept (CellFlags.coerce flags)).Yields f := hcoerce
  exact Attempt.Gives.bind ⟨f, hyields, halign⟩ fun _ halign => gives_pure (h.tableCell halign)

mutual

theorem gives_node (ho : IsPlainOptions o) : (n : Node) → NodeAdmissible n →
    (Renderer.node ⟨.html, o⟩ n).Gives (IsFragment o.xhtml.truthy)
  | .text _, h => gives_pure (.of_markupFree h)
  | .construct c, h => (gives_parts ho c h).bind fun _ hc => hc

/-- The parts of a construct make it one with a well nested fragment. -/
theorem gives_parts (ho : IsPlainOptions o) : (c : Construct (List Node)) → ConstructAdmissible c →
    (Renderer.parts ⟨.html, o⟩ c).Gives
      fun c => (Html.construct o c).Gives (IsFragment o.xhtml.truthy)
  | .code code language escaped, ⟨hcode, hlanguage⟩ =>
    hcode.gives.bind fun _ hcode => (gives_optionalNodes hlanguage).bind fun _ hlanguage =>
      gives_pure (gives_code ho hcode hlanguage)
  | .blockquote quote, h =>
    (gives_nodes ho quote h).bind fun _ hquote => gives_pure (gives_pure hquote.blockquote)
  | .html markup, h =>
    h.gives.bind fun _ hmarkup => gives_pure (gives_pure (.of_markupFree hmarkup))
  | .heading text level source, ⟨h, hsource⟩ =>
    (gives_nodes ho text h).bind fun _ htext => hsource.gives.bind fun _ hsource =>
      gives_pure (gives_pure (htext.heading level hsource))
  | .headingId source, h => by
    have hsource : Says (fun _ => True) source := h
    exact hsource.gives.bind fun _ _ => gives_pure (gives_pure (.of_markupFree
      (isMarkupFree_of_isSlugChar Heading.isSlugChar_of_mem_anchorId)))
  | .rule, _ => gives_pure (gives_pure .rule)
  | .list body ordered, h =>
    (gives_nodes ho body h).bind fun _ hbody => gives_pure (gives_pure (hbody.list ordered))
  | .listItem text, h =>
    (gives_nodes ho text h).bind fun _ htext => gives_pure (gives_pure htext.listItem)
  | .paragraph text, h =>
    (gives_nodes ho text h).bind fun _ htext => gives_pure (gives_pure htext.paragraph)
  | .table header body, ⟨hheader, hbody⟩ =>
    (gives_nodes ho header hheader).bind fun _ hheader => (gives_nodes ho body hbody).bind fun _ hbody =>
      gives_pure (gives_pure (hheader.table hbody))
  | .tableRow content, h =>
    (gives_nodes ho content h).bind fun _ hcontent => gives_pure (gives_pure hcontent.tableRow)
  | .tableCell content flags, ⟨h, hflags⟩ =>
    (gives_nodes ho content h).bind fun _ hcontent => gives_pure (gives_tableCell hcontent hflags)
  | .math content language display, ⟨hcontent, hlanguage⟩ =>
    hcontent.gives.bind fun _ hcontent => hlanguage.gives.bind fun _ hlanguage =>
      gives_pure (gives_pure (.math hcontent hlanguage display))
  | .strong text, h =>
    (gives_nodes ho text h).bind fun _ htext => gives_pure (gives_pure (htext.element (by decide)))
  | .emphasis text, h =>
    (gives_nodes ho text h).bind fun _ htext => gives_pure (gives_pure (htext.element (by decide)))
  | .codeSpan text, h =>
    (gives_nodes ho text h).bind fun _ htext => gives_pure (gives_pure (htext.element (by decide)))
  | .lineBreak, _ => gives_pure (gives_pure .lineBreak)
  | .deleted text, h =>
    (gives_nodes ho text h).bind fun _ htext => gives_pure (gives_pure (htext.element (by decide)))
  | .footnoteReference name, h =>
    h.gives.bind fun _ hname => gives_pure (gives_pure (.footnoteReference hname))
  | .footnote name text, ⟨hname, h⟩ =>
    hname.gives.bind fun _ hname => (gives_nodes ho text h).bind fun _ htext =>
      gives_pure (gives_pure (htext.footnote hname))
  | .link href title text, ⟨hhref, htitle, h⟩ =>
    hhref.gives.bind fun _ hhref => (gives_optionalNodes htitle).bind fun _ htitle =>
      (gives_nodes ho text h).bind fun _ htext => gives_pure (gives_lift (htext.link hhref htitle))
  | .image href title text, ⟨hhref, htitle, htext⟩ =>
    hhref.gives.bind fun _ hhref => (gives_optionalNodes htitle).bind fun _ htitle =>
      htext.gives.bind fun _ htext => gives_pure (gives_lift (.image hhref htitle htext))

theorem gives_nodes (ho : IsPlainOptions o) : (nodes : List Node) → NodesAdmissible nodes →
    (Renderer.nodes ⟨.html, o⟩ nodes).Gives (IsFragment o.xhtml.truthy)
  | [], _ => gives_pure .nil
  | n :: rest, h =>
    (gives_node ho n h.1).bind fun _ hn => (gives_nodes ho rest h.2).bind fun _ hrest =>
      gives_pure (hn.append hrest)

end

end Trees

/-- **Every tree is rendered to well nested HTML.** -/
theorem wellNested_node (o : RenderOptions) (hhighlight : o.highlight = none)
    (hclass : IsMarkupFree o.langPrefix) (n : Node) (hn : NodeAdmissible n) :
    (Renderer.node ⟨.html, o⟩ n).Gives (WellNested o.xhtml.truthy) :=
  (gives_node ⟨hhighlight, hclass⟩ n hn).mono fun _ h => h.nested

/-- A quote with an id of its own, a break inside a link, code that is escaped and a link that is
dropped. -/
theorem wellNested_node_quote :
    (Renderer.node ⟨.html, { xhtml := .bool true, sanitize := .bool true }⟩
      (.construct (.blockquote
        [.construct (.heading [.text "Fish ", .construct (.emphasis [.text "and chips"])] (-2)
          [.text "Fish *and chips* \x7b#chips\x7d"]),
         .construct (.link [.text "/menu"] (some [.text "Menu"])
          [.text "today", .construct .lineBreak]),
         .construct (.code [.text "a < b"] (some [.text "c<d>"]) false),
         .construct (.link [.text "javascript:0"] none [.text "gone"])]))).Gives
      (WellNested true) := by
  have hleaf : ∀ {t : Text}, IsMarkupFree t → NodeAdmissible (.text t) := fun h => h
  have hheading : ConstructAdmissible (.heading
      [.text "Fish ", .construct (.emphasis [.text "and chips"])] (-2)
      [.text "Fish *and chips* \x7b#chips\x7d"]) :=
    ⟨⟨hleaf (by decide), ⟨hleaf (by decide), trivial⟩, trivial⟩, says_text (by decide)⟩
  have hlink : ConstructAdmissible (.link [.text "/menu"] (some [.text "Menu"])
      [.text "today", .construct .lineBreak]) := by
    refine ⟨says_text (by decide), ?_, hleaf (by decide), trivial, trivial⟩
    rintro _ ⟨⟩
    exact says_text (by decide)
  have hcode : ConstructAdmissible (.code [.text "a < b"] (some [.text "c<d>"]) false) := by
    refine ⟨says_text (by decide), ?_⟩
    rintro _ ⟨⟩
    exact says_text (by decide)
  have hdropped : ConstructAdmissible (.link [.text "javascript:0"] none [.text "gone"]) :=
    ⟨says_text (by decide), by simp, hleaf (by decide), trivial⟩
  exact wellNested_node _ rfl (by decide) _ ⟨hheading, hlink, hcode, hdropped, trivial⟩

end MarkdownRender.Html
