import MarkdownRender.Proofs.Html.Tree
import MarkdownRender.Proofs.Html.VoidEnds

/-!
# What the option for void elements changes

The same tree is rendered with all values of the option at once. Its outputs have one form in
common, in which the ends of void tags are left out (`HasForm`): every construct puts its own text
around the forms of its parts, and a heading removes the same markers from each of them. So the
option changes the ends of void tags and nothing else, and they can be told from all other text
(`only_void_tags_differ`).
-/

namespace MarkdownRender

open CodePoint (ofChar)

namespace Attempt

variable {ι α β : Type}

/-- None of the attempts is stopped, and what they give satisfies `P` as a family. -/
def GiveTogether (x : ι → Attempt α) (P : (ι → α) → Prop) : Prop :=
  ∃ a : ι → α, (∀ i, (x i).Yields (a i)) ∧ P a

theorem giveTogether_pure {P : (ι → α) → Prop} {a : ι → α} (h : P a) :
    GiveTogether (fun i => pure (a i)) P :=
  ⟨a, fun i => yields_pure (a i), h⟩

theorem giveTogether_lift {P : (ι → α) → Prop} {x : ι → Logged α} (h : P fun i => (x i).value) :
    GiveTogether (fun i => liftM (x i)) P :=
  ⟨_, fun i => yields_lift (x i), h⟩

theorem GiveTogether.bind {x : ι → Attempt α} {P : (ι → α) → Prop} {f : ι → α → Attempt β}
    {Q : (ι → β) → Prop} (hx : GiveTogether x P)
    (hf : ∀ a, P a → GiveTogether (fun i => f i (a i)) Q) :
    GiveTogether (fun i => x i >>= f i) Q := by
  obtain ⟨a, hyields, ha⟩ := hx
  obtain ⟨b, hyields', hb⟩ := hf a ha
  exact ⟨b, fun i => (hyields i).bind (hyields' i), hb⟩

/-- The attempts that follow may count on the same `b` where all attempts give it. -/
theorem GiveTogether.bind_same {x : ι → Attempt α} {P : α → Prop} {f : ι → α → Attempt β}
    {Q : (ι → β) → Prop} (hx : GiveTogether x fun a => ∃ b, P b ∧ a = fun _ => b)
    (hf : ∀ b, P b → GiveTogether (fun i => f i b) Q) : GiveTogether (fun i => x i >>= f i) Q := by
  refine hx.bind ?_
  rintro _ ⟨b, hb, rfl⟩
  exact hf b hb

end Attempt

namespace Html

open Attempt (GiveTogether giveTogether_pure giveTogether_lift)

/-- The options with another value for how void elements are closed. -/
def withXhtml (o : RenderOptions) (v : Value) : RenderOptions := { o with xhtml := v }

/-- Text that ends no tag. -/
abbrev Unbracketed (text : Text) : Prop := ofChar '>' ∉ text

/-! ### Outputs that have a form -/

/-- The output for each value of the option is one tidy form, filled in as the value says. -/
def HasForm (output : Value → Text) : Prop :=
  ∃ form : Form, form.IsTidy ∧ ∀ v, output v = form.fill v.truthy

/-- The outputs have a form, and a tag may end behind them. -/
def BeginsTag (output : Value → Text) : Prop :=
  ∃ front last, HasForm front ∧ last ∉ Form.tagMarks ∧ ∀ v, output v = front v ++ [last]

/-- Text that can stand last in a tag. -/
def IsTagText (text : Text) : Prop := text ≠ [] ∧ ∀ c ∈ text, c ∉ Form.tagMarks

instance (text : Text) : Decidable (IsTagText text) := inferInstanceAs (Decidable (_ ∧ _))

theorem isTagText_headingName (level : Int) : IsTagText (headingName level) := by
  have hmarks : ∀ c ∈ ofChar 'h' :: ofChar '-' :: Text.decimalDigits, c ∉ Form.tagMarks := by decide
  refine ⟨List.cons_ne_nil _ _, fun c hc => hmarks c ?_⟩
  rcases List.mem_append.mp hc with hletter | hnumeral
  · exact List.mem_cons.mpr (Or.inl (List.mem_singleton.mp hletter))
  · exact List.mem_cons_of_mem _ (Text.mem_decimalDigits_of_mem_integer hnumeral)

variable {o : RenderOptions} {name : Text} {text text' attributes : Value → Text}

namespace HasForm

theorem of_text (text : Text) (h : Unbracketed text) : HasForm fun _ => text :=
  ⟨.ofText text, Form.isTidy_ofText h, fun _ => (Form.fill_ofText text).symm⟩

theorem append (h : HasForm text) (h' : HasForm text') : HasForm fun v => text v ++ text' v := by
  obtain ⟨form, htidy, hform⟩ := h
  obtain ⟨form', htidy', hform'⟩ := h'
  refine ⟨form ++ form', htidy.append htidy', fun v => ?_⟩
  rw [Form.fill_append, ← hform, ← hform']

theorem newline : HasForm fun _ => Text.ofString "\n" := of_text _ (by decide)

/-- The same markers are removed from all outputs. -/
theorem stripMarkers (h : HasForm text) : HasForm fun v => Heading.stripMarkers (text v) := by
  obtain ⟨form, htidy, hform⟩ := h
  obtain ⟨left, hleft, hkeeps⟩ := Form.exists_stripMarkers_fill form
  exact ⟨left, hkeeps _ htidy, fun v => (congrArg Heading.stripMarkers (hform v)).trans (hleft _)⟩

end HasForm

namespace BeginsTag

variable {tag value : Value → Text}

theorem of_tagText {text : Text} (h : IsTagText text) : BeginsTag fun _ => text := by
  obtain ⟨hne, hmarks⟩ := h
  have hfront : Unbracketed text.dropLast := fun hmem =>
    hmarks _ (List.mem_of_mem_dropLast hmem) (by decide)
  exact ⟨_, _, .of_text _ hfront, hmarks _ (List.getLast_mem hne),
    fun _ => (List.dropLast_append_getLast hne).symm⟩

theorem behind (htext : HasForm text) (h : BeginsTag tag) : BeginsTag fun v => text v ++ tag v := by
  obtain ⟨front, last, hfront, hlast, htag⟩ := h
  refine ⟨_, last, htext.append hfront, hlast, fun v => ?_⟩
  simp only [htag, List.append_assoc]

theorem hasForm (h : BeginsTag tag) : HasForm tag := by
  obtain ⟨front, last, hfront, hlast, htag⟩ := h
  have hbracket : Unbracketed [last] := fun hmem =>
    hlast (List.mem_singleton.mp hmem ▸ by decide)
  obtain ⟨form, htidy, hform⟩ := hfront.append (.of_text _ hbracket)
  exact ⟨form, htidy, fun v => (htag v).trans (hform v)⟩

theorem append {tag' : Value → Text} (h : BeginsTag tag) (h' : BeginsTag tag') :
    BeginsTag fun v => tag v ++ tag' v :=
  behind h.hasForm h'

/-- A tag that ends the same way in all outputs. -/
theorem close (h : BeginsTag tag) : HasForm fun v => tag v ++ ">" := by
  obtain ⟨front, last, ⟨form, htidy, hform⟩, hlast, htag⟩ := h
  refine ⟨_, htidy.append_tagEnd hlast (some (ofChar '>')), fun v => ?_⟩
  simp only [htag, hform, Form.fill_append, List.append_assoc]
  rfl

/-- A void tag, which the option says how to end. -/
theorem closeVoid (h : BeginsTag tag) : HasForm fun v => tag v ++ voidTagEnd v.truthy := by
  obtain ⟨front, last, ⟨form, htidy, hform⟩, hlast, htag⟩ := h
  refine ⟨_, htidy.append_tagEnd hlast none, fun v => ?_⟩
  simp [htag, hform, Form.fill]

theorem attr (hname : Unbracketed name) (hvalue : HasForm value) :
    BeginsTag fun v => attr name (value v) := by
  have hfront : HasForm fun v => Text.ofString " " ++ name ++ "=\"" ++ value v :=
    (((HasForm.of_text _ (by decide)).append (.of_text _ hname)).append
      (.of_text _ (by decide))).append hvalue
  exact ⟨_, ofChar '"', hfront, by decide, fun _ => rfl⟩

theorem optionalAttribute {value : Option Text} (h : BeginsTag tag) (hname : Unbracketed name)
    (hvalue : ∀ t ∈ value, Unbracketed t) :
    BeginsTag fun v => tag v ++ optionalAttribute name value := by
  rcases value with _ | _ | ⟨c, rest⟩
  · simpa only [Html.optionalAttribute, List.append_nil] using h
  · simpa only [Html.optionalAttribute, List.append_nil] using h
  · exact h.append (attr hname (.of_text _ (hvalue _ rfl)))

end BeginsTag

/-! ### Elements -/

namespace HasForm

/-- An element. -/
theorem tagged (hname : IsTagText name) (hattributes : BeginsTag fun v => name ++ attributes v)
    (h : HasForm text) : HasForm fun v => tagged name (attributes v) (text v) := by
  have hstart := (BeginsTag.behind (.of_text "<" (by decide)) hattributes).close
  have hend := (BeginsTag.behind (.of_text "</" (by decide)) (.of_tagText hname)).close
  simpa only [Html.tagged, List.append_assoc] using (hstart.append h).append hend

theorem tagged_nil (hname : IsTagText name) (h : HasForm text) :
    HasForm fun v => Html.tagged name [] (text v) :=
  tagged hname (by simpa only [List.append_nil] using .of_tagText hname) h

theorem voidTag (hattributes : BeginsTag fun v => name ++ attributes v) :
    HasForm fun v => voidTag v.truthy name (attributes v) := by
  have htag := (BeginsTag.behind (.of_text "<" (by decide)) hattributes).closeVoid
  simpa only [Html.voidTag, voidTagEnd, List.append_assoc] using htag

theorem voidTag_nil (hname : IsTagText name) : HasForm fun v => Html.voidTag v.truthy name [] :=
  voidTag (by simpa only [List.append_nil] using .of_tagText hname)

theorem element (hname : IsTagText name) (h : HasForm text) :
    HasForm fun v => element name (text v) := by
  simpa only [element_eq] using tagged_nil hname h

/-- An element around lines of their own. -/
theorem block (hname : IsTagText name) (h : HasForm text) :
    HasForm fun v => Html.tagged name [] ("\n" ++ text v) ++ "\n" :=
  (tagged_nil hname (newline.append h)).append newline

/-! ### Blocks -/

theorem codeBlock {markup : Text} {language : Option Text} (hclass : Unbracketed o.langPrefix)
    (hmarkup : Unbracketed markup) : HasForm fun _ => codeBlock o markup language := by
  have hcontent : HasForm fun _ => markup ++ "\n" := (of_text _ hmarkup).append newline
  have hplain : HasForm fun _ => Html.codeBlock o markup none := by
    simp only [codeBlock_none]
    exact tagged_nil (by decide) (tagged_nil (by decide) hcontent)
  rcases language with _ | _ | ⟨c, rest⟩
  · exact hplain
  · exact hplain
  · have hvalue : HasForm fun _ => o.langPrefix ++ escape (c :: rest) :=
      (of_text _ hclass).append (of_text _ fun hmem => (mem_escape hmem).2.1 rfl)
    have htag : BeginsTag fun _ => "code" ++ attr "class" (o.langPrefix ++ escape (c :: rest)) :=
      .append (.of_tagText (by decide)) (.attr (by decide) hvalue)
    simp only [codeBlock_some o (List.cons_ne_nil c rest)]
    exact (tagged_nil (by decide) (tagged (by decide) htag hcontent)).append newline

theorem blockquote (h : HasForm text) : HasForm fun v => blockquote (text v) := by
  simpa only [blockquote_eq] using block (by decide) h

/-- The id of a heading comes from its source, which is the same in all outputs. -/
theorem heading (h : HasForm text) (level : Int) {source : Text} (hsource : Unbracketed source) :
    HasForm fun v => heading (withXhtml o v) (text v) level source := by
  have hanchor : ∀ anchor ∈ headingAnchor o source, Unbracketed anchor := by
    intro anchor hanchor hmem
    rcases marker_or_slug_of_headingAnchor hanchor with ⟨front, back, rfl⟩ | hslug
    · exact hsource (by simp [Heading.marker, hmem])
    · exact (isMarkupFree_of_isSlugChar hslug _ hmem).2.1 rfl
  have hname := isTagText_headingName level
  simp only [heading_eq]
  exact (tagged hname (BeginsTag.optionalAttribute (.of_tagText hname) (by decide) hanchor)
    h.stripMarkers).append newline

theorem rule : HasForm fun v => rule (withXhtml o v) := by
  simp only [rule_eq]
  exact (voidTag_nil (by decide)).append newline

theorem list (h : HasForm text) (ordered : Bool) : HasForm fun v => list (text v) ordered := by
  have hname : IsTagText (if ordered then "ol" else "ul") := by cases ordered <;> decide
  simpa only [list_eq] using block hname h

theorem listItem (h : HasForm text) : HasForm fun v => listItem (text v) :=
  (element (by decide) h).append newline

theorem paragraph (h : HasForm text) : HasForm fun v => paragraph (text v) :=
  (element (by decide) h).append newline

theorem table (h : HasForm text) (h' : HasForm text') :
    HasForm fun v => table (text v) (text' v) := by
  have hhead : HasForm fun v => Html.tagged "thead" [] ("\n" ++ text v) ++ "\n" :=
    block (by decide) h
  have hbody : HasForm fun v => Html.tagged "tbody" [] ("\n" ++ text' v) ++ "\n" :=
    block (by decide) h'
  simpa only [table_eq] using block (by decide) (hhead.append hbody)

theorem tableRow (h : HasForm text) : HasForm fun v => tableRow (text v) := by
  simpa only [tableRow_eq] using block (by decide) h

theorem tableCell (h : HasForm text) {flags : CellFlags}
    (halign : ∀ t ∈ flags.alignment?, Unbracketed t) :
    HasForm fun v => tableCell (text v) flags := by
  have hname : IsTagText (if flags.header.truthy then "th" else "td") := by
    cases flags.header.truthy <;> decide
  have hstyle : ∀ t ∈ flags.alignment?.map (Text.ofString "text-align:" ++ ·), Unbracketed t := by
    intro t ht hmem
    obtain ⟨align, halign', rfl⟩ := Option.map_eq_some_iff.mp ht
    exact halign align halign' ((List.mem_append.mp hmem).resolve_left (by decide))
  simp only [tableCell_eq]
  exact (tagged hname (.optionalAttribute (.of_tagText hname) (by decide) hstyle) h).append newline

theorem math (h : HasForm text) {language : Text} (hlanguage : Unbracketed language)
    (display : Bool) : HasForm fun v => math (text v) language display := by
  have hmode : Unbracketed (if display then Text.ofString "; mode=display" else []) := by
    cases display <;> decide
  simp only [math_eq]
  exact tagged (by decide) (.append (.of_tagText (by decide))
    (.attr (by decide) ((of_text _ hlanguage).append (of_text _ hmode)))) h

theorem footnote {refname : Text} (hrefname : Unbracketed refname) (h : HasForm text) :
    HasForm fun v => footnote refname (text v) := by
  have hname : HasForm fun _ => refname := of_text _ hrefname
  have hid : BeginsTag fun _ => "blockquote" ++ attr "id" ("fn_" ++ refname) :=
    .append (.of_tagText (by decide)) (.attr (by decide) ((of_text _ (by decide)).append hname))
  have hhref : BeginsTag fun _ => attr "href" ("#reffn_" ++ refname) :=
    .attr (by decide) ((of_text _ (by decide)).append hname)
  have htitle : BeginsTag fun _ =>
      attr "title" ("Jump back to footnote [" ++ refname ++ "] in the text.") :=
    .attr (by decide) (((of_text _ (by decide)).append hname).append (of_text _ (by decide)))
  have hsup : HasForm fun _ => Html.tagged "sup" [] refname := tagged_nil (by decide) hname
  have hback : HasForm fun _ => Html.tagged "a" (attr "href" ("#reffn_" ++ refname) ++
      attr "title" ("Jump back to footnote [" ++ refname ++ "] in the text.")) " &#8617;" ++ "\n" :=
    (tagged (by decide) (.append (.of_tagText (by decide)) (hhref.append htitle))
      (of_text _ (by decide))).append newline
  have hcontent := hsup.append ((of_text ". " (by decide)).append (h.append hback))
  simp only [footnote_eq]
  exact (tagged (by decide) hid (newline.append hcontent)).append newline

/-! ### Spans -/

theorem lineBreak : HasForm fun v => lineBreak (withXhtml o v) := by
  simp only [lineBreak_eq]
  exact voidTag_nil (by decide)

theorem footnoteReference {refname : Text} (h : Unbracketed refname) :
    HasForm fun _ => footnoteReference refname := by
  have hname : HasForm fun _ => refname := of_text _ h
  have hhref : BeginsTag fun _ => attr "href" ("#fn_" ++ refname) :=
    .attr (by decide) ((of_text _ (by decide)).append hname)
  have hid : BeginsTag fun _ => attr "id" ("reffn_" ++ refname) :=
    .attr (by decide) ((of_text _ (by decide)).append hname)
  simp only [footnoteReference_eq]
  exact tagged_nil (by decide)
    (tagged (by decide) (.append (.of_tagText (by decide)) (hhref.append hid)) hname)

/-- A link or an image is let through in all outputs or in none. -/
theorem admitted {href : Text} (h : HasForm text) :
    HasForm fun v => (RenderOptions.screen (withXhtml o v) href (text v)).value := by
  by_cases hsanitize : o.sanitize.truthy = true
  · by_cases hsafe : (Url.isSafe href).value = true
    · simpa [RenderOptions.screen, withXhtml, hsanitize, hsafe] using h
    · simpa [RenderOptions.screen, withXhtml, hsanitize, hsafe] using of_text _ List.not_mem_nil
  · simpa [RenderOptions.screen, withXhtml, hsanitize] using h

theorem link {href : Text} {title : Option Text} (hhref : Unbracketed href)
    (htitle : ∀ t ∈ title, Unbracketed t) (h : HasForm text) :
    HasForm fun v => (link (withXhtml o v) href title (text v)).value := by
  have hattributes : BeginsTag fun _ => attr "href" href ++ optionalAttribute "title" title :=
    .optionalAttribute (.attr (by decide) (of_text _ hhref)) (by decide) htitle
  simp only [link_eq]
  exact admitted (tagged (by decide) (.append (.of_tagText (by decide)) hattributes) h)

theorem image {href : Text} {title : Option Text} (hhref : Unbracketed href)
    (htitle : ∀ t ∈ title, Unbracketed t) (h : HasForm text) :
    HasForm fun v => (image (withXhtml o v) href title (text v)).value := by
  have hattributes : BeginsTag fun v =>
      attr "src" href ++ (attr "alt" (text v) ++ optionalAttribute "title" title) :=
    .append (.attr (by decide) (of_text _ hhref))
      (.optionalAttribute (.attr (by decide) h) (by decide) htitle)
  simp only [image_eq]
  exact admitted (voidTag (.append (.of_tagText (by decide)) hattributes))

end HasForm

/-! ### Trees -/

mutual

/-- A tree whose own texts hold no closing bracket. -/
def NodeUnbracketed : Node → Prop
  | .text t => Unbracketed t
  | .construct c => ConstructUnbracketed c

/-- Nodes may stand for what becomes part of the output as it is. What is escaped, read or used as a
name has to be plain text. -/
def ConstructUnbracketed : Construct (List Node) → Prop
  | .code code language _ => Says Unbracketed code ∧ ∀ nodes ∈ language, Says Unbracketed nodes
  | .blockquote quote => NodesUnbracketed quote
  | .html markup => NodesUnbracketed markup
  | .heading text _ source => NodesUnbracketed text ∧ Says Unbracketed source
  | .headingId source => Says Unbracketed source
  | .rule => True
  | .list body _ => NodesUnbracketed body
  | .listItem text => NodesUnbracketed text
  | .paragraph text => NodesUnbracketed text
  | .table header body => NodesUnbracketed header ∧ NodesUnbracketed body
  | .tableRow content => NodesUnbracketed content
  | .tableCell content flags =>
    NodesUnbracketed content ∧
      ∃ f, CellFlags.coerce flags = .ok f ∧ ∀ t ∈ f.alignment?, Unbracketed t
  | .math content language _ => NodesUnbracketed content ∧ Says Unbracketed language
  | .strong text => NodesUnbracketed text
  | .emphasis text => NodesUnbracketed text
  | .codeSpan text => NodesUnbracketed text
  | .lineBreak => True
  | .deleted text => NodesUnbracketed text
  | .footnoteReference name => Says Unbracketed name
  | .footnote name text => Says Unbracketed name ∧ NodesUnbracketed text
  | .link href title text =>
    Says Unbracketed href ∧ (∀ nodes ∈ title, Says Unbracketed nodes) ∧ NodesUnbracketed text
  | .image href title text =>
    Says Unbracketed href ∧ (∀ nodes ∈ title, Says Unbracketed nodes) ∧ NodesUnbracketed text

def NodesUnbracketed : List Node → Prop
  | [] => True
  | n :: rest => NodeUnbracketed n ∧ NodesUnbracketed rest

end

theorem unbracketed_text {t : Text} (h : Unbracketed t) : NodeUnbracketed (.text t) := h

/-- Options that add no closing bracket to a tree. -/
structure OptionsUnbracketed (o : RenderOptions) : Prop where
  no_highlight : o.highlight = none
  class_free : Unbracketed o.langPrefix

/-- The renderer for a value of the option. -/
def renderer (o : RenderOptions) (v : Value) : Renderer := ⟨.html, withXhtml o v⟩

section Trees

variable {P : Text → Prop}

/-- Plain text is the same in all outputs. -/
theorem Says.giveTogether {nodes : List Node} (h : Says P nodes) :
    GiveTogether (fun v => Renderer.nodes (renderer o v) nodes)
      fun a => ∃ t, P t ∧ a = fun _ => t := by
  obtain ⟨texts, rfl, htext⟩ := h
  simp only [nodes_texts]
  exact giveTogether_pure ⟨_, htext, rfl⟩

theorem giveTogether_optionalNodes {nodes : Option (List Node)} (h : ∀ ns ∈ nodes, Says P ns) :
    GiveTogether (fun v => Renderer.optionalNodes (renderer o v) nodes)
      fun a => ∃ t, (∀ x ∈ t, P x) ∧ a = fun _ => t := by
  cases nodes with
  | none => exact giveTogether_pure ⟨none, by simp, rfl⟩
  | some ns =>
    exact (h ns rfl).giveTogether.bind_same fun t ht =>
      giveTogether_pure ⟨some t, by simpa using ht, rfl⟩

theorem giveTogether_code (ho : OptionsUnbracketed o) {code : Text} (hcode : Unbracketed code)
    (language : Option Text) (escaped : Bool) :
    GiveTogether (fun v => Html.construct (withXhtml o v) (.code code language escaped))
      HasForm := by
  have hmarkup : Unbracketed (if escaped then code else escape code) := by
    cases escaped with
    | false => exact fun hmem => (mem_escape hmem).2.1 rfl
    | true => exact hcode
  refine giveTogether_lift ?_
  have hvalue : ∀ v, (Html.code (withXhtml o v) code language escaped).value =
      codeBlock o (if escaped then code else escape code) language :=
    fun v => value_code ho.no_highlight code language escaped
  simpa only [hvalue] using .codeBlock ho.class_free hmarkup

theorem giveTogether_tableCell {content : Value → Text} {flags : CellFlagsInput}
    (h : HasForm content)
    (hflags : ∃ f, CellFlags.coerce flags = .ok f ∧ ∀ t ∈ f.alignment?, Unbracketed t) :
    GiveTogether (fun v => Html.construct (withXhtml o v) (.tableCell (content v) flags))
      HasForm := by
  obtain ⟨f, hcoerce, halign⟩ := hflags
  have hyields : (Attempt.ofExcept (CellFlags.coerce flags)).Yields f := hcoerce
  exact ⟨fun v => tableCell (content v) f, fun v => hyields.bind (Attempt.yields_pure _),
    h.tableCell halign⟩

mutual

theorem giveTogether_node (ho : OptionsUnbracketed o) : (n : Node) → NodeUnbracketed n →
    GiveTogether (fun v => Renderer.node (renderer o v) n) HasForm
  | .text _, h => giveTogether_pure (.of_text _ h)
  | .construct c, h => (giveTogether_parts ho c h).bind fun _ hc => hc

/-- The parts of a construct make it one whose outputs have a form. -/
theorem giveTogether_parts (ho : OptionsUnbracketed o) :
    (c : Construct (List Node)) → ConstructUnbracketed c →
    GiveTogether (fun v => Renderer.parts (renderer o v) c)
      fun c => GiveTogether (fun v => Html.construct (withXhtml o v) (c v)) HasForm
  | .code code language escaped, ⟨hcode, hlanguage⟩ =>
    hcode.giveTogether.bind_same fun _ hcode =>
      (giveTogether_optionalNodes hlanguage).bind_same fun language _ =>
        giveTogether_pure (giveTogether_code ho hcode language escaped)
  | .blockquote quote, h =>
    (giveTogether_nodes ho quote h).bind fun _ hquote =>
      giveTogether_pure (giveTogether_pure hquote.blockquote)
  | .html markup, h =>
    (giveTogether_nodes ho markup h).bind fun _ hmarkup =>
      giveTogether_pure (giveTogether_pure hmarkup)
  | .heading text level source, ⟨h, hsource⟩ =>
    (giveTogether_nodes ho text h).bind fun _ htext =>
      hsource.giveTogether.bind_same fun _ hsource =>
        giveTogether_pure (giveTogether_pure (htext.heading level hsource))
  | .headingId source, h => by
    have hsource : Says Unbracketed source := h
    have hid : ∀ source, Unbracketed (Heading.anchorId source) := fun source hmem =>
      (isMarkupFree_of_isSlugChar Heading.isSlugChar_of_mem_anchorId _ hmem).2.1 rfl
    exact hsource.giveTogether.bind_same fun source _ =>
      giveTogether_pure (giveTogether_pure (.of_text _ (hid source)))
  | .rule, _ => giveTogether_pure (giveTogether_pure .rule)
  | .list body ordered, h =>
    (giveTogether_nodes ho body h).bind fun _ hbody =>
      giveTogether_pure (giveTogether_pure (hbody.list ordered))
  | .listItem text, h =>
    (giveTogether_nodes ho text h).bind fun _ htext =>
      giveTogether_pure (giveTogether_pure htext.listItem)
  | .paragraph text, h =>
    (giveTogether_nodes ho text h).bind fun _ htext =>
      giveTogether_pure (giveTogether_pure htext.paragraph)
  | .table header body, ⟨hheader, hbody⟩ =>
    (giveTogether_nodes ho header hheader).bind fun _ hheader =>
      (giveTogether_nodes ho body hbody).bind fun _ hbody =>
        giveTogether_pure (giveTogether_pure (hheader.table hbody))
  | .tableRow content, h =>
    (giveTogether_nodes ho content h).bind fun _ hcontent =>
      giveTogether_pure (giveTogether_pure hcontent.tableRow)
  | .tableCell content flags, ⟨h, hflags⟩ =>
    (giveTogether_nodes ho content h).bind fun _ hcontent =>
      giveTogether_pure (giveTogether_tableCell hcontent hflags)
  | .math content language display, ⟨h, hlanguage⟩ =>
    (giveTogether_nodes ho content h).bind fun _ hcontent =>
      hlanguage.giveTogether.bind_same fun _ hlanguage =>
        giveTogether_pure (giveTogether_pure (hcontent.math hlanguage display))
  | .strong text, h =>
    (giveTogether_nodes ho text h).bind fun _ htext =>
      giveTogether_pure (giveTogether_pure (htext.element (by decide)))
  | .emphasis text, h =>
    (giveTogether_nodes ho text h).bind fun _ htext =>
      giveTogether_pure (giveTogether_pure (htext.element (by decide)))
  | .codeSpan text, h =>
    (giveTogether_nodes ho text h).bind fun _ htext =>
      giveTogether_pure (giveTogether_pure (htext.element (by decide)))
  | .lineBreak, _ => giveTogether_pure (giveTogether_pure .lineBreak)
  | .deleted text, h =>
    (giveTogether_nodes ho text h).bind fun _ htext =>
      giveTogether_pure (giveTogether_pure (htext.element (by decide)))
  | .footnoteReference name, h => by
    have hname : Says Unbracketed name := h
    exact hname.giveTogether.bind_same fun _ hname =>
      giveTogether_pure (giveTogether_pure (.footnoteReference hname))
  | .footnote name text, ⟨hname, h⟩ =>
    hname.giveTogether.bind_same fun _ hname => (giveTogether_nodes ho text h).bind fun _ htext =>
      giveTogether_pure (giveTogether_pure (htext.footnote hname))
  | .link href title text, ⟨hhref, htitle, h⟩ =>
    hhref.giveTogether.bind_same fun _ hhref =>
      (giveTogether_optionalNodes htitle).bind_same fun _ htitle =>
        (giveTogether_nodes ho text h).bind fun _ htext =>
          giveTogether_pure (giveTogether_lift (htext.link hhref htitle))
  | .image href title text, ⟨hhref, htitle, h⟩ =>
    hhref.giveTogether.bind_same fun _ hhref =>
      (giveTogether_optionalNodes htitle).bind_same fun _ htitle =>
        (giveTogether_nodes ho text h).bind fun _ htext =>
          giveTogether_pure (giveTogether_lift (htext.image hhref htitle))

theorem giveTogether_nodes (ho : OptionsUnbracketed o) :
    (nodes : List Node) → NodesUnbracketed nodes →
    GiveTogether (fun v => Renderer.nodes (renderer o v) nodes) HasForm
  | [], _ => giveTogether_pure (.of_text _ List.not_mem_nil)
  | n :: rest, h =>
    (giveTogether_node ho n h.1).bind fun _ hn =>
      (giveTogether_nodes ho rest h.2).bind fun _ hrest => giveTogether_pure (hn.append hrest)

end

end Trees

/-- **The option changes nothing but the ends of void tags.** Whatever the tree, its output without
the option has no `/>` in it, and is the output with the option where `/>` is replaced by `>`. -/
theorem only_void_tags_differ (o : RenderOptions) (hhighlight : o.highlight = none)
    (hclass : Unbracketed o.langPrefix) (n : Node) (hn : NodeUnbracketed n) (off on : Value)
    (hoff : off.truthy = false) (hon : on.truthy = true) :
    ∃ plain closed : Text,
      (Renderer.node ⟨.html, { o with xhtml := off }⟩ n).Yields plain ∧
      (Renderer.node ⟨.html, { o with xhtml := on }⟩ n).Yields closed ∧
      ¬ Text.ofString "/>" <:+: plain ∧ Text.replaceAll "/>" ">" closed = plain := by
  obtain ⟨output, hyields, form, htidy, hform⟩ := giveTogether_node ⟨hhighlight, hclass⟩ n hn
  refine ⟨output off, output on, hyields off, hyields on, ?_, ?_⟩
  · rw [hform, hoff]
    exact htidy.not_infix
  · rw [hform, hform, hoff, hon]
    exact htidy.replaceAll_fill

/-- A marker that reaches into the tag of an image, between slashes. -/
theorem only_void_tags_differ_cut_image :
    ∃ plain closed : Text,
      (Renderer.node ⟨.html, { xhtml := .null }⟩ (.construct (.heading
        [.text "Fish \x7b#a/", .construct (.image [.text "/i"] none [.text "b\x7d/"]), .text "/",
          .construct .lineBreak] 1 [.text "Fish/"]))).Yields plain ∧
      (Renderer.node ⟨.html, { xhtml := .text "/" }⟩ (.construct (.heading
        [.text "Fish \x7b#a/", .construct (.image [.text "/i"] none [.text "b\x7d/"]), .text "/",
          .construct .lineBreak] 1 [.text "Fish/"]))).Yields closed ∧
      ¬ Text.ofString "/>" <:+: plain ∧ Text.replaceAll "/>" ">" closed = plain := by
  have himage : ConstructUnbracketed (.image [.text "/i"] none [.text "b\x7d/"]) :=
    ⟨says_text (by decide), by simp, unbracketed_text (by decide), trivial⟩
  have hheading : NodeUnbracketed (.construct (.heading
      [.text "Fish \x7b#a/", .construct (.image [.text "/i"] none [.text "b\x7d/"]), .text "/",
        .construct .lineBreak] 1 [.text "Fish/"])) :=
    ⟨⟨unbracketed_text (by decide), himage, unbracketed_text (by decide), trivial, trivial⟩,
      says_text (by decide)⟩
  exact only_void_tags_differ {} rfl (by decide) _ hheading .null (.text "/") rfl rfl

end Html

end MarkdownRender
