import MarkdownRender.Value

/-!
# Markdown constructs

A tokenizer recognises constructs, and a renderer turns each of them into a piece of output. What
stands where a construct holds text depends on who speaks: for a renderer it is text that has been
rendered already, for a whole document it is a list of nodes still to be rendered. `Construct` is
therefore open in that type, and `Node` closes it over itself.
-/

namespace MarkdownRender

/-- Whether a value can stand for an alignment: a text names one, and a falsy value says that there
is none. Flags with any other value in its place are not covered. -/
def Value.isAlignment : Value → Bool
  | .text _ => true
  | value => !value.truthy

/-- What is known about a table cell. -/
structure CellFlags where
  header : Value := .bool false
  align : Value := .null
  isAlignment : align.isAlignment := by rfl

namespace CellFlags

/-- The alignment, if a text names one. -/
def alignment? (f : CellFlags) : Option Text :=
  match f.align with
  | .text [] => none
  | .text t => some t
  | _ => none

/-- Nothing but a falsy alignment is left out. -/
theorem isSome_alignment? (f : CellFlags) : f.alignment?.isSome = f.align.truthy := by
  obtain ⟨header, align, h⟩ := f
  cases align with
  | text t => cases t <;> rfl
  | _ => simpa [Value.isAlignment, alignment?] using h

/-- The value of a key in a mapping; it is null if the key is missing. -/
def get (entries : List (Text × Value)) (key : Text) : Value :=
  (entries.lookup key).getD .null

end CellFlags

/-- What a renderer is given as the flags of a table cell. -/
inductive CellFlagsInput where
  | flags (f : CellFlags)
  | mapping (entries : List (Text × Value)) (h : (CellFlags.get entries "align").isAlignment)
  /-- A value that is neither. -/
  | other

/-- Flags are taken as they are. A mapping gives its `header` as a truth value and its `align`
unless it is falsy. Nothing else can stand for flags. -/
def CellFlags.coerce : CellFlagsInput → Except Fault CellFlags
  | .flags f => .ok f
  | .mapping entries h =>
    let align := get entries "align"
    .ok { header := .bool (get entries "header").truthy
          align := if align.truthy then align else .null
          isAlignment := by
            split
            · exact h
            · rfl }
  | .other => .error .flagsNotMapping

/-- A construct, with an `α` wherever it holds text. -/
inductive Construct (α : Type) where
  | code (code : α) (language : Option α) (escaped : Bool)
  | blockquote (quote : α)
  | html (markup : α)
  | heading (text : α) (level : Int) (source : α)
  /-- The id that a heading source gets when it has no marker. -/
  | headingId (source : α)
  | rule
  | list (body : α) (ordered : Bool)
  | listItem (text : α)
  | paragraph (text : α)
  | table (header body : α)
  | tableRow (content : α)
  | tableCell (content : α) (flags : CellFlagsInput)
  | math (content language : α) (display : Bool)
  | strong (text : α)
  | emphasis (text : α)
  | codeSpan (text : α)
  | lineBreak
  | deleted (text : α)
  | footnoteReference (name : α)
  | footnote (name text : α)
  | link (href : α) (title : Option α) (text : α)
  | image (href : α) (title : Option α) (text : α)

/-- A text, or a construct whose texts are lists of nodes. -/
inductive Node where
  | text (t : Text)
  | construct (c : Construct (List Node))

end MarkdownRender
