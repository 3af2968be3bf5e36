import MarkdownRender.Proofs.Html.Escaping
import MarkdownRender.Proofs.Html.HeadingMarkup
import MarkdownRender.Render.Renderer

/-!
# Every fragment is well nested

A tree of constructs whose own texts hold no markup is rendered to well nested HTML. What carries
the induction over the tree is one condition more: no fragment holds an opening brace. A heading
removes markers from markup that is rendered already, and where no brace is there is no marker, so
nothing is cut out of it. Braces may stand in the sources of headings, one in each; the id that is
read from a source has none.
-/

namespace MarkdownRender

open CodePoint (ofChar)

namespace Html

/-! ### Attributes and names -/

theorem IsMarkupFree.escape {text : Text} (h : ofChar '\x7b' ∉ text) :
    IsMarkupFree (escape text) := by
  intro c hc
  obtain ⟨hlt, hgt, hbrace⟩ := mem_escape hc
  exact ⟨hlt, hgt, fun heq => h (heq ▸ hbrace heq)⟩

/-- Attributes with nothing in them that could be taken for markup or for the end of their tag. -/
structure IsPlainAttributes (attributes : Text) : Prop extends IsAttributes attributes where
  no_brace : ofChar '\x7b' ∉ attributes
  last : ∀ c ∈ attributes.getLast?, c ≠ ofChar '/'

namespace IsPlainAttributes

variable {attributes attributes' name value : Text}

theorem nil : IsPlainAttributes [] := ⟨.nil, List.not_mem_nil, by simp⟩

theorem append (h : IsPlainAttributes attributes) (h' : IsPlainAttributes attributes') :
    IsPlainAttributes (attributes ++ attributes') := by
  refine ⟨h.toIsAttributes.append h'.toIsAttributes, by simp [h.no_brace, h'.no_brace], ?_⟩
  intro c hc
  rw [List.getLast?_append] at hc
  rcases Option.or_eq_some_iff.mp hc with hc | ⟨-, hc⟩
  · exact h'.last c hc
  · exact h.last c hc

theorem attr (hname : IsMarkupFree name) (hvalue : IsMarkupFree value) :
    IsPlainAttributes (attr name value) := by
  have hfree : IsMarkupFree (Html.attr name value) := forall_mem_attr hname hvalue (by decide)
  refine ⟨.attr hname.no_brackets hvalue.no_brackets, hfree.no_brace, ?_⟩
  have hlast : (Html.attr name value).getLast? = some (ofChar '"') := List.getLast?_concat
  rw [hlast]
  decide

theorem optionalAttribute {value : Option Text} (hname : IsMarkupFree name)
    (hvalue : ∀ t ∈ value, IsMarkupFree t) : IsPlainAttributes (optionalAttribute name value) := by
  rcases value with _ | _ | ⟨c, rest⟩
  · exact nil
  · exact nil
  · exact attr hname (hvalue _ rfl)

end IsPlainAttributes

/-- The name of an element that has content. -/
def IsElementName (name : Text) : Prop :=
  IsName name ∧ name ∉ voidNames ∧ ofChar '\x7b' ∉ name

instance (name : Text) : Decidable (IsElementName name) := inferInstanceAs (Decidable (_ ∧ _))

theorem isElementName_heading (level : Int) : IsElementName ("h" ++ Text.integer level) := by
  have hletter : ofChar '\x7b' ∉ Text.ofString "h" := by decide
  have hnumeral : ofChar '\x7b' ∉ ofChar '-' :: Text.decimalDigits := by decide
  refine ⟨isName_heading level, heading_notMem_voidNames level, fun hmem => ?_⟩
  rcases List.mem_append.mp hmem with hmem | hmem
  · exact hletter hmem
  · exact hnumeral (Text.mem_decimalDigits_of_mem_integer hmem)

/-! ### Fragments -/

/-- Well nested markup in which no marker can stand. -/
structure IsFragment (xhtml : Bool) (text : Text) : Prop where
  nested : WellNested xhtml text
  no_brace : ofChar '\x7b' ∉ text

namespace IsFragment

variable {xhtml : Bool} {text text' name attributes : Text}

theorem of_markupFree (h : IsMarkupFree text) : IsFragment xhtml text :=
  ⟨.of_text h.no_brackets, h.no_brace⟩

theorem append (h : IsFragment xhtml text) (h' : IsFragment xhtml text') :
    IsFragment xhtml (text ++ text') :=
  ⟨h.nested.append h'.nested, by simp [h.no_brace, h'.no_brace]⟩

theorem nil : IsFragment xhtml [] := of_markupFree (by decide)

theorem newline : IsFragment xhtml "\n" := of_markupFree (by decide)

theorem tagged (hname : IsElementName name) (hattributes : IsPlainAttributes attributes)
    (h : IsFragment xhtml text) : IsFragment xhtml (tagged name attributes text) := by
  obtain ⟨hname, hvoid, hbrace⟩ := hname
  have hmarks : ∀ mark ∈ [Text.ofString "<", Text.ofString ">", Text.ofString "</"],
      ofChar '\x7b' ∉ mark := by decide
  refine ⟨.tagged hname hvoid hattributes.toIsAttributes h.nested, ?_⟩
  simp_all [Html.tagged, h.no_brace, hattributes.no_brace]

theorem voidTag (hname : name ∈ voidNames) (hattributes : IsPlainAttributes attributes) :
    IsFragment xhtml (voidTag xhtml name attributes) := by
  have hnames : ∀ name ∈ voidNames, ofChar '\x7b' ∉ name := by decide
  have hmarks : ∀ mark ∈ [Text.ofString "<", Text.ofString ">", Text.ofString "/>"],
      ofChar '\x7b' ∉ mark := by decide
  have hlast : attributes.getLast? ≠ some (ofChar '/') := fun h => hattributes.last _ h rfl
  refine ⟨Reader.read_voidTag hname hattributes.toIsAttributes hlast [], ?_⟩
  have hbrace := hnames name hname
  cases xhtml <;> simp_all [Html.voidTag, hattributes.no_brace]

/-! ### Blocks and spans -/

variable {o : RenderOptions}

theorem element (hname : IsElementName name) (h : IsFragment xhtml text) :
    IsFragment xhtml (element name text) := by
  rw [element_eq]
  exact tagged hname .nil h

theorem codeBlock {markup : Text} {language : Option Text} (hclass : IsMarkupFree o.langPrefix)
    (hmarkup : IsMarkupFree markup) (hlanguage : ∀ t ∈ language, ofChar '\x7b' ∉ t) :
    IsFragment xhtml (codeBlock o markup language) := by
  have hcontent : IsFragment xhtml (markup ++ "\n") := (of_markupFree hmarkup).append newline
  have hplain : IsFragment xhtml (Html.codeBlock o markup none) := by
    rw [codeBlock_none]
    exact tagged (by decide) .nil (tagged (by decide) .nil hcontent)
  rcases language with _ | _ | ⟨c, rest⟩
  · exact hplain
  · exact hplain
  · have hvalue := hclass.append (.escape (hlanguage _ rfl))
    rw [codeBlock_some o (List.cons_ne_nil _ _)]
    exact (tagged (by decide) .nil
      (tagged (by decide) (.attr (by decide) hvalue) hcontent)).append newline

theorem blockquote {quote : Text} (h : IsFragment xhtml quote) :
    IsFragment xhtml (blockquote quote) := by
  rw [blockquote_eq]
  exact (tagged (by decide) .nil (newline.append h)).append newline

theorem rule : IsFragment o.xhtml.truthy (rule o) := by
  rw [rule_eq]
  exact (voidTag (by decide) .nil).append newline

theorem list {body : Text} (h : IsFragment xhtml body) (ordered : Bool) :
    IsFragment xhtml (list body ordered) := by
  have hname : IsElementName (if ordered then "ol" else "ul") := by
    cases ordered <;> decide
  rw [list_eq]
  exact (tagged hname .nil (newline.append h)).append newline

theorem listItem (h : IsFragment xhtml text) : IsFragment xhtml (listItem text) :=
  (element (by decide) h).append newline

theorem paragraph (h : IsFragment xhtml text) : IsFragment xhtml (paragraph text) :=
  (element (by decide) h).append newline

theorem table {header body : Text} (hheader : IsFragment xhtml header)
    (hbody : IsFragment xhtml body) : IsFragment xhtml (table header body) := by
  have hhead : IsFragment xhtml (Html.tagged "thead" [] ("\n" ++ header) ++ "\n") :=
    (tagged (by decide) .nil (newline.append hheader)).append newline
  have htail : IsFragment xhtml (Html.tagged "tbody" [] ("\n" ++ body) ++ "\n") :=
    (tagged (by decide) .nil (newline.append hbody)).append newline
  rw [table_eq]
  exact (tagged (by decide) .nil (newline.append (hhead.append htail))).append newline

theorem tableRow {content : Text} (h : IsFragment xhtml content) :
    IsFragment xhtml (tableRow content) := by
  rw [tableRow_eq]
  exact (tagged (by decide) .nil (newline.append h)).append newline

theorem tableCell {content : Text} (h : IsFragment xhtml content) {flags : CellFlags}
    (halign : ∀ t ∈ flags.alignment?, IsMarkupFree t) :
    IsFragment xhtml (tableCell content flags) := by
  have hname : IsElementName (if flags.header.truthy then "th" else "td") := by
    cases flags.header.truthy <;> decide
  have hstyle : ∀ t ∈ flags.alignment?.map (Text.ofString "text-align:" ++ ·), IsMarkupFree t := by
    intro t ht
    obtain ⟨align, hmem, rfl⟩ := Option.map_eq_some_iff.mp ht
    exact IsMarkupFree.append (by decide) (halign align hmem)
  rw [tableCell_eq]
  exact (tagged hname (.optionalAttribute (by decide) hstyle) h).append newline

theorem math {content language : Text} (hcontent : IsMarkupFree content)
    (hlanguage : IsMarkupFree language) (display : Bool) :
    IsFragment xhtml (math content language display) := by
  have hmode : IsMarkupFree (if display then Text.ofString "; mode=display" else []) := by
    cases display <;> decide
  rw [math_eq]
  exact tagged (by decide) (.attr (by decide) (hlanguage.append hmode)) (of_markupFree hcontent)

theorem footnote {refname : Text} (hrefname : IsMarkupFree refname) (h : IsFragment xhtml text) :
    IsFragment xhtml (footnote refname text) := by
  have hid : IsMarkupFree ("fn_" ++ refname) := IsMarkupFree.append (by decide) hrefname
  have hhref : IsMarkupFree ("#reffn_" ++ refname) := IsMarkupFree.append (by decide) hrefname
  have htitle : IsMarkupFree ("Jump back to footnote [" ++ refname ++ "] in the text.") :=
    (IsMarkupFree.append (by decide) hrefname).append (by decide)
  have hsup : IsFragment xhtml (Html.tagged "sup" [] refname) :=
    tagged (by decide) .nil (of_markupFree hrefname)
  have hback : IsFragment xhtml (Html.tagged "a" (Html.attr "href" ("#reffn_" ++ refname) ++
      Html.attr "title" ("Jump back to footnote [" ++ refname ++ "] in the text."))
      " &#8617;" ++ "\n") :=
    (tagged (by decide) ((IsPlainAttributes.attr (by decide) hhref).append
      (.attr (by decide) htitle)) (of_markupFree (by decide))).append newline
  have hstop : IsFragment xhtml ". " := of_markupFree (by decide)
  rw [footnote_eq]
  exact (tagged (by decide) (.attr (by decide) hid)
    (newline.append (hsup.append (hstop.append (h.append hback))))).append newline

theorem lineBreak : IsFragment o.xhtml.truthy (lineBreak o) := by
  rw [lineBreak_eq]
  exact voidTag (by decide) .nil

theorem footnoteReference {refname : Text} (h : IsMarkupFree refname) :
    IsFragment xhtml (footnoteReference refname) := by
  have hhref : IsMarkupFree ("#fn_" ++ refname) := IsMarkupFree.append (by decide) h
  have hid : IsMarkupFree ("reffn_" ++ refname) := IsMarkupFree.append (by decide) h
  rw [footnoteReference_eq]
  exact tagged (by decide) .nil (tagged (by decide)
    ((IsPlainAttributes.attr (by decide) hhref).append (.attr (by decide) hid)) (of_markupFree h))

/-- A link or an image is there as a whole or not at all. -/
theorem admitted {href output : Text} (h : IsFragment xhtml output) :
    IsFragment xhtml (o.screen href output).value := by
  rw [RenderOptions.screen]
  split
  · rw [Logged.value_bind]
    split
    · exact h
    · exact nil
  · exact h

theorem link {href : Text} {title : Option Text} (hhref : IsMarkupFree href)
    (htitle : ∀ t ∈ title, IsMarkupFree t) (h : IsFragment xhtml text) :
    IsFragment xhtml (link o href title text).value := by
  rw [link_eq]
  exact admitted (tagged (by decide)
    ((IsPlainAttributes.attr (by decide) hhref).append (.optionalAttribute (by decide) htitle)) h)

theorem image {href : Text} {title : Option Text} (hhref : IsMarkupFree href)
    (htitle : ∀ t ∈ title, IsMarkupFree t) (htext : IsMarkupFree text) :
    IsFragment o.xhtml.truthy (image o href title text).value := by
  rw [image_eq]
  exact admitted (voidTag (by decide) ((IsPlainAttributes.attr (by decide) hhref).append
    ((IsPlainAttributes.attr (by decide) htext).append
      (.optionalAttribute (by decide) htitle))))

end IsFragment

/-! ### Headings -/

/-- A heading source has no angle brackets, and one brace at most opens in it. -/
def IsHeadingSource (source : Text) : Prop :=
  (∀ c ∈ source, c ≠ ofChar '<' ∧ c ≠ ofChar '>') ∧ source.count (ofChar '\x7b') ≤ 1

instance (source : Text) : Decidable (IsHeadingSource source) :=
  inferInstanceAs (Decidable (_ ∧ _))

/-- The only brace of a source belongs to its marker, and is not part of the id. -/
theorem IsHeadingSource.headingAnchor {o : RenderOptions} {source : Text}
    (h : IsHeadingSource source) : ∀ anchor ∈ headingAnchor o source, IsMarkupFree anchor := by
  intro anchor hanchor
  rcases marker_or_slug_of_headingAnchor hanchor with ⟨front, back, rfl⟩ | hslug
  · obtain ⟨hbrackets, hcount⟩ := h
    have hnone : ofChar '\x7b' ∉ anchor := by
      rw [← List.count_eq_zero]
      simp only [Heading.marker, List.count_append, List.count_cons_self, List.count_cons] at hcount
      omega
    intro c hc
    obtain ⟨hlt, hgt⟩ := hbrackets c (by simp [Heading.marker, hc])
    exact ⟨hlt, hgt, fun heq => hnone (heq ▸ hc)⟩
  · exact isMarkupFree_of_isSlugChar hslug

/-- Where no brace is, there is no marker. -/
theorem stripMarkers_of_no_brace {text : Text} (h : ofChar '\x7b' ∉ text) :
    Heading.stripMarkers text = text := by
  refine Heading.stripMarkers_eq_self fun front token back heq _ => h ?_
  rw [heq]
  simp [Heading.marker]

theorem IsFragment.heading {xhtml : Bool} {o : RenderOptions} {text source : Text}
    (h : IsFragment xhtml text) (level : Int) (hsource : IsHeadingSource source) :
    IsFragment xhtml (heading o text level source) := by
  have hid : IsPlainAttributes (optionalAttribute "id" (headingAnchor o source)) :=
    .optionalAttribute (by decide) hsource.headingAnchor
  rw [heading_eq, stripMarkers_of_no_brace h.no_brace]
  exact (tagged (isElementName_heading level) hid h).append newline

end Html

end MarkdownRender
