import MarkdownRender.Proofs.Html.Nesting
import MarkdownRender.Proofs.Text.Numeral
import MarkdownRender.Render.Html

/-!
# Constructs as elements

Every fragment of HTML is put together from elements, the tags of void elements and text. The
equations here say how, so that what holds of elements can be carried over to all constructs.
-/

namespace MarkdownRender.Html

open CodePoint (ofChar)

/-! ### Texts without markup -/

/-- Text that holds neither tags nor markers, wherever it is put. -/
def IsMarkupFree (text : Text) : Prop :=
  ∀ c ∈ text, c ≠ ofChar '<' ∧ c ≠ ofChar '>' ∧ c ≠ ofChar '\x7b'

instance (text : Text) : Decidable (IsMarkupFree text) := inferInstanceAs (Decidable (∀ _ ∈ _, _))

namespace IsMarkupFree

variable {text text' : Text}

theorem append (h : IsMarkupFree text) (h' : IsMarkupFree text') : IsMarkupFree (text ++ text') :=
  List.forall_mem_append.mpr ⟨h, h'⟩

theorem no_brackets (h : IsMarkupFree text) : ∀ c ∈ text, c ≠ ofChar '<' ∧ c ≠ ofChar '>' :=
  fun c hc => ⟨(h c hc).1, (h c hc).2.1⟩

theorem no_brace (h : IsMarkupFree text) : ofChar '\x7b' ∉ text := fun hmem => (h _ hmem).2.2 rfl

end IsMarkupFree

/-! ### Names and attributes -/

/-- The name of a heading element, whatever its level. -/
theorem isName_heading (level : Int) : IsName ("h" ++ Text.integer level) := by
  have hletter : ∀ c ∈ Text.ofString "h", isNameChar c := by decide
  have hnumeral : ∀ c ∈ ofChar '-' :: Text.decimalDigits, isNameChar c := by decide
  refine ⟨List.cons_ne_nil _ _, List.forall_mem_append.mpr ⟨hletter, fun c hc => ?_⟩⟩
  exact hnumeral c (Text.mem_decimalDigits_of_mem_integer hc)

theorem heading_notMem_voidNames (level : Int) :
    Text.ofString "h" ++ Text.integer level ∉ voidNames := by
  have hvoid : ∀ name ∈ voidNames, name.head? = some (ofChar 'h') → ofChar 'r' ∈ name.tail := by
    decide
  have hnumeral : ofChar 'r' ∉ ofChar '-' :: Text.decimalDigits := by decide
  exact fun hmem => hnumeral (Text.mem_decimalDigits_of_mem_integer (hvoid _ hmem rfl))

/-- An attribute with a blank before it. -/
def attr (name value : Text) : Text := " " ++ name ++ "=\"" ++ value ++ "\""

/-- What holds of all code points of the name and the value, and of those between and around them,
holds of the whole attribute. -/
theorem forall_mem_attr {p : CodePoint → Prop} {name value : Text} (hname : ∀ c ∈ name, p c)
    (hvalue : ∀ c ∈ value, p c) (hmarks : ∀ c ∈ Text.ofString " =\"", p c) :
    ∀ c ∈ attr name value, p c := by
  have hfront : ∀ c ∈ Text.ofString " ", p c := fun c hc => hmarks c (by revert c; decide)
  have hmiddle : ∀ c ∈ Text.ofString "=\"", p c := fun c hc => hmarks c (by revert c; decide)
  have hend : ∀ c ∈ Text.ofString "\"", p c := fun c hc => hmarks c (by revert c; decide)
  simp only [attr, List.forall_mem_append]
  exact ⟨⟨⟨⟨hfront, hname⟩, hmiddle⟩, hvalue⟩, hend⟩

namespace IsAttributes

theorem attr {name value : Text} (hname : ∀ c ∈ name, c ≠ ofChar '<' ∧ c ≠ ofChar '>')
    (hvalue : ∀ c ∈ value, c ≠ ofChar '<' ∧ c ≠ ofChar '>') : IsAttributes (attr name value) :=
  ⟨by simp [Html.attr, Text.ofString]; decide, forall_mem_attr hname hvalue (by decide)⟩

theorem optionalAttribute {name : Text} {value : Option Text}
    (hname : ∀ c ∈ name, c ≠ ofChar '<' ∧ c ≠ ofChar '>')
    (hvalue : ∀ t ∈ value, ∀ c ∈ t, c ≠ ofChar '<' ∧ c ≠ ofChar '>') :
    IsAttributes (optionalAttribute name value) := by
  rcases value with _ | _ | ⟨c, rest⟩
  · exact nil
  · exact nil
  · exact attr hname (hvalue _ rfl)

end IsAttributes

/-! ### Equations -/

section Blocks

variable (o : RenderOptions)

theorem element_eq (name content : Text) : element name content = tagged name [] content := by
  simp [element, tagged]

theorem codeBlock_none (markup : Text) :
    codeBlock o markup none = tagged "pre" [] (tagged "code" [] (markup ++ "\n")) := by
  simp only [codeBlock, tagged, List.append_assoc]
  rfl

theorem codeBlock_some {language : Text} (h : language ≠ []) (markup : Text) :
    codeBlock o markup (some language) =
      tagged "pre" [] (tagged "code" (attr "class" (o.langPrefix ++ escape language))
        (markup ++ "\n")) ++ "\n" := by
  cases language with
  | nil => contradiction
  | cons c rest =>
    simp only [codeBlock, tagged, attr, List.append_assoc]
    rfl

theorem blockquote_eq (quote : Text) :
    blockquote quote = tagged "blockquote" [] ("\n" ++ quote) ++ "\n" := by
  simp only [blockquote, tagged, List.append_assoc]
  rfl

theorem heading_eq (text : Text) (level : Int) (source : Text) :
    heading o text level source =
      tagged ("h" ++ Text.integer level) (optionalAttribute "id" (headingAnchor o source))
        (Heading.stripMarkers text) ++ "\n" := by
  simp only [heading, tagged, List.append_assoc]
  rfl

theorem rule_eq : rule o = voidTag o.xhtml.truthy "hr" [] ++ "\n" := by
  simp only [rule, voidTag, voidEnd, List.append_assoc]
  rfl

theorem list_eq (body : Text) (ordered : Bool) :
    list body ordered = tagged (if ordered then "ol" else "ul") [] ("\n" ++ body) ++ "\n" := by
  simp only [list, tagged, List.append_assoc]
  rfl

theorem table_eq (header body : Text) :
    table header body =
      tagged "table" [] ("\n" ++ (tagged "thead" [] ("\n" ++ header) ++ "\n" ++
        (tagged "tbody" [] ("\n" ++ body) ++ "\n"))) ++ "\n" := by
  simp only [table, tagged, List.append_assoc]
  rfl

theorem tableRow_eq (content : Text) :
    tableRow content = tagged "tr" [] ("\n" ++ content) ++ "\n" := by
  simp only [tableRow, tagged, List.append_assoc]
  rfl

theorem tableCell_eq (content : Text) (flags : CellFlags) :
    tableCell content flags =
      tagged (if flags.header.truthy then "th" else "td")
        (optionalAttribute "style" (flags.alignment?.map ("text-align:" ++ ·))) content ++ "\n" := by
  simp only [tableCell, tagged, List.append_assoc]
  rfl

theorem math_eq (content language : Text) (display : Bool) :
    math content language display =
      tagged "script" (attr "type" (language ++ if display then Text.ofString "; mode=display" else []))
        content := by
  simp only [math, tagged, attr, List.append_assoc]
  rfl

theorem footnote_eq (name text : Text) :
    footnote name text =
      tagged "blockquote" (attr "id" ("fn_" ++ name))
        ("\n" ++ (tagged "sup" [] name ++ (". " ++ (text ++
          (tagged "a" (attr "href" ("#reffn_" ++ name) ++
            attr "title" ("Jump back to footnote [" ++ name ++ "] in the text."))
            " &#8617;" ++ "\n"))))) ++ "\n" := by
  simp only [footnote, tagged, attr, List.append_assoc]
  rfl

end Blocks

section Spans

variable (o : RenderOptions)

theorem lineBreak_eq : lineBreak o = voidTag o.xhtml.truthy "br" [] := by
  simp only [lineBreak, voidTag, voidEnd, List.append_assoc]
  rfl

theorem footnoteReference_eq (name : Text) :
    footnoteReference name =
      tagged "sup" [] (tagged "a" (attr "href" ("#fn_" ++ name) ++
        attr "id" ("reffn_" ++ name)) name) := by
  simp only [footnoteReference, tagged, attr, List.append_assoc]
  rfl

theorem link_eq (href : Text) (title : Option Text) (text : Text) :
    link o href title text =
      o.screen href
        (tagged "a" (attr "href" href ++ optionalAttribute "title" title) text) := by
  simp only [link, tagged, attr, List.append_assoc]
  rfl

theorem image_eq (href : Text) (title : Option Text) (text : Text) :
    image o href title text =
      o.screen href (voidTag o.xhtml.truthy "img"
        (attr "src" href ++ (attr "alt" text ++ optionalAttribute "title" title))) := by
  simp only [image, voidTag, voidEnd, attr, List.append_assoc]
  rfl

end Spans

end MarkdownRender.Html
