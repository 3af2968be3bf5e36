import MarkdownRender.Construct
import MarkdownRender.Heading.Anchor
import MarkdownRender.Heading.Marker
import MarkdownRender.Html.Escape
import MarkdownRender.Render.Admission
import MarkdownRender.Text.Numeral

/-!
# HTML

Each construct becomes a fragment of HTML. Block fragments end with a newline, so that fragments
one after the other read one per line; the one exception is a code block without a language. Texts
that a construct holds are taken as rendered already: nothing but code and its language is escaped.
-/

namespace MarkdownRender.Html

/-- An element on one line, without attributes. -/
def element (name content : Text) : Text := "<" ++ name ++ ">" ++ content ++ "</" ++ name ++ ">"

/-- An attribute with a blank before it, if it has a value that is not empty. -/
def optionalAttribute (name : Text) : Option Text → Text
  | none | some [] => []
  | some value => " " ++ name ++ "=\"" ++ value ++ "\""

/-- How the tag of a void element ends. -/
def voidEnd (o : RenderOptions) : Text := if o.xhtml.truthy then "/>" else ">"

/-! ## Code -/

/-- The markup that the highlighter has for some code. There is none if there is no highlighter,
or if it fails, declines, or gives the code back unchanged. -/
def highlighted (o : RenderOptions) (code : Text) (language : Option Text) : Logged (Option Text) :=
  match o.highlight with
  | none => return none
  | some callback =>
    match callback.run code language with
    | .ok markup => return markup.filter (· ≠ code)
    | .error cause => do
      Logged.report (.highlightingFailed language cause)
      return none

/-- A code block around markup. -/
def codeBlock (o : RenderOptions) (markup : Text) : Option Text → Text
  | none | some [] => "<pre><code>" ++ markup ++ "\n</code></pre>"
  | some language =>
    "<pre><code class=\"" ++ o.langPrefix ++ escape language ++ "\">" ++ markup ++
      "\n</code></pre>\n"

/-- A code block: highlighted if that is possible, else escaped unless it is so already. -/
def code (o : RenderOptions) (code : Text) (language : Option Text) (escaped : Bool) :
    Logged Text := do
  match ← highlighted o code language with
  | some markup => return codeBlock o markup language
  | none => return codeBlock o (if escaped then code else escape code) language

/-! ## Blocks -/

def blockquote (quote : Text) : Text := "<blockquote>\n" ++ quote ++ "</blockquote>\n"

/-- The id of a heading: the token of a marker in its source, or one derived from the source if
the options want it. -/
def headingAnchor (o : RenderOptions) (source : Text) : Option Text :=
  match Heading.explicitId? source with
  | some token => some token
  | none => if o.headerAutoId.truthy then some (Heading.anchorId source) else none

/-- A heading. Markers are removed from its text. Levels of more than 4300 digits are not
covered. -/
def heading (o : RenderOptions) (text : Text) (level : Int) (source : Text) : Text :=
  "<h" ++ Text.integer level ++ optionalAttribute "id" (headingAnchor o source) ++ ">" ++
    Heading.stripMarkers text ++ "</h" ++ Text.integer level ++ ">\n"

def rule (o : RenderOptions) : Text := "<hr" ++ voidEnd o ++ "\n"

def list (body : Text) (ordered : Bool) : Text :=
  let name : Text := if ordered then "ol" else "ul"
  "<" ++ name ++ ">\n" ++ body ++ "</" ++ name ++ ">\n"

def listItem (text : Text) : Text := element "li" text ++ "\n"

def paragraph (text : Text) : Text := element "p" text ++ "\n"

def table (header body : Text) : Text :=
  "<table>\n" ++ "<thead>\n" ++ header ++ "</thead>\n" ++ "<tbody>\n" ++ body ++ "</tbody>\n" ++
    "</table>\n"

def tableRow (content : Text) : Text := "<tr>\n" ++ content ++ "</tr>\n"

/-- A cell: a header cell or a data cell, aligned if its flags say so. -/
def tableCell (content : Text) (flags : CellFlags) : Text :=
  let name : Text := if flags.header.truthy then "th" else "td"
  let style := optionalAttribute "style" (flags.alignment?.map ("text-align:" ++ ·))
  "<" ++ name ++ style ++ ">" ++ content ++ "</" ++ name ++ ">\n"

/-- The source of a formula, for a script that sets it. -/
def math (content language : Text) (display : Bool) : Text :=
  let mode : Text := if display then "; mode=display" else []
  "<script type=\"" ++ language ++ mode ++ "\">" ++ content ++ "</script>"

/-- The body of a footnote, with a link back to where it is referred to. -/
def footnote (name text : Text) : Text :=
  "<blockquote id=\"fn_" ++ name ++ "\">\n<sup>" ++ name ++ "</sup>. " ++ text ++
    "<a href=\"#reffn_" ++ name ++ "\" title=\"Jump back to footnote [" ++ name ++
    "] in the text.\"> &#8617;</a>\n</blockquote>\n"

/-! ## Spans -/

def lineBreak (o : RenderOptions) : Text := "<br" ++ voidEnd o

/-- A reference to a footnote. -/
def footnoteReference (name : Text) : Text :=
  "<sup><a href=\"#fn_" ++ name ++ "\" id=\"reffn_" ++ name ++ "\">" ++ name ++ "</a></sup>"

def link (o : RenderOptions) (href : Text) (title : Option Text) (text : Text) : Logged Text :=
  o.screen href
    ("<a href=\"" ++ href ++ "\"" ++ optionalAttribute "title" title ++ ">" ++ text ++ "</a>")

def image (o : RenderOptions) (href : Text) (title : Option Text) (text : Text) : Logged Text :=
  o.screen href
    ("<img src=\"" ++ href ++ "\" alt=\"" ++ text ++ "\"" ++ optionalAttribute "title" title ++
      voidEnd o)

/-! ## All constructs -/

/-- The fragment of a construct. -/
def construct (o : RenderOptions) : Construct Text → Attempt Text
  | .code code language escaped => Html.code o code language escaped
  | .blockquote quote => return blockquote quote
  | .html markup => return markup
  | .heading text level source => return heading o text level source
  | .headingId source => return Heading.anchorId source
  | .rule => return rule o
  | .list body ordered => return list body ordered
  | .listItem text => return listItem text
  | .paragraph text => return paragraph text
  | .table header body => return table header body
  | .tableRow content => return tableRow content
  | .tableCell content flags => return tableCell content (← .ofExcept (CellFlags.coerce flags))
  | .math content language display => return math content language display
  | .strong text => return element "strong" text
  | .emphasis text => return element "em" text
  | .codeSpan text => return element "code" text
  | .lineBreak => return lineBreak o
  | .deleted text => return element "del" text
  | .footnoteReference name => return footnoteReference name
  | .footnote name text => return footnote name text
  | .link href title text => link o href title text
  | .image href title text => image o href title text

end MarkdownRender.Html
