import MarkdownRender.Render.Html
import MarkdownRender.Render.PlainText

/-!
# Renderers

A renderer is a format together with options. It renders a construct whose texts are rendered
already, and, from the leaves up, a whole tree of them.
-/

namespace MarkdownRender

/-- The formats of the output. -/
inductive Format where
  | html
  | plainText
deriving DecidableEq

/-- A format and the options to render with. -/
structure Renderer where
  format : Format
  options : RenderOptions

namespace Renderer

/-- A renderer with the given options and those of a map on top. -/
def ofOptions (format : Format) (options : RenderOptions) (overrides : OptionMap) :
    Except ConfigError Renderer :=
  return { format, options := ← options.merge overrides }

/-- The output for a construct. -/
def construct (r : Renderer) : Construct Text → Attempt Text :=
  match r.format with
  | .html => Html.construct r.options
  | .plainText => PlainText.construct r.options

mutual

/-- The output for a node. -/
def node (r : Renderer) : Node → Attempt Text
  | .text t => return t
  | .construct c => do r.construct (← parts r c)

/-- Renders the texts of a construct, in the order in which it holds them. -/
def parts (r : Renderer) : Construct (List Node) → Attempt (Construct Text)
  | .code code language escaped =>
    return .code (← nodes r code) (← optionalNodes r language) escaped
  | .blockquote quote => return .blockquote (← nodes r quote)
  | .html markup => return .html (← nodes r markup)
  | .heading text level source => return .heading (← nodes r text) level (← nodes r source)
  | .headingId source => return .headingId (← nodes r source)
  | .rule => return .rule
  | .list body ordered => return .list (← nodes r body) ordered
  | .listItem text => return .listItem (← nodes r text)
  | .paragraph text => return .paragraph (← nodes r text)
  | .table header body => return .table (← nodes r header) (← nodes r body)
  | .tableRow content => return .tableRow (← nodes r content)
  | .tableCell content flags => return .tableCell (← nodes r content) flags
  | .math content language display =>
    return .math (← nodes r content) (← nodes r language) display
  | .strong text => return .strong (← nodes r text)
  | .emphasis text => return .emphasis (← nodes r text)
  | .codeSpan text => return .codeSpan (← nodes r text)
  | .lineBreak => return .lineBreak
  | .deleted text => return .deleted (← nodes r text)
  | .footnoteReference name => return .footnoteReference (← nodes r name)
  | .footnote name text => return .footnote (← nodes r name) (← nodes r text)
  | .link href title text =>
    return .link (← nodes r href) (← optionalNodes r title) (← nodes r text)
  | .image href title text =>
    return .image (← nodes r href) (← optionalNodes r title) (← nodes r text)

/-- The output for some nodes, one after the other. -/
def nodes (r : Renderer) : List Node → Attempt Text
  | [] => return []
  | n :: rest => return (← node r n) ++ (← nodes r rest)

/-- The output for nodes that may be missing. -/
def optionalNodes (r : Renderer) : Option (List Node) → Attempt (Option Text)
  | none => return none
  | some ns => return some (← nodes r ns)

end

end Renderer

end MarkdownRender
