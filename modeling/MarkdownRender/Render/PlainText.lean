import MarkdownRender.Construct
import MarkdownRender.Heading.Marker
import MarkdownRender.Render.Admission
import MarkdownRender.Text.Blank
import MarkdownRender.Text.Lines
import MarkdownRender.Text.Numeral

/-!
# Plain text

Each construct becomes plain text that keeps its structure by marks in the manner of Markdown;
code, formulas and images carry a label. Nesting works line by line: a quote puts its mark before
each line, a list item indents each line but its first, and an ordered list numbers the lines that
still start with the mark of an item, which are the first lines of its own items.
-/

namespace MarkdownRender.PlainText

/-! ## Blocks -/

/-- Code between labels; the first label names the language, if there is one. -/
def code (code : Text) (language : Option Text) : Text :=
  let label : Text :=
    match language with
    | none | some [] => "[code]"
    | some language => "[code:" ++ language ++ "]"
  label ++ "\n" ++ code ++ "\n[/code]\n\n"

/-- A line of a quote. -/
def quoteLine (line : Text) : Text := if line.isEmpty then ">\n" else "> " ++ line ++ "\n"

/-- A quote marks each of its lines and is followed by an empty line. -/
def blockquote (quote : Text) : Text :=
  quote.dropEndNewlines.lines.flatMap quoteLine ++ "\n"

/-- Counts are signed numbers of 64 bits. -/
def isCount (n : Int) : Bool := -0x8000000000000000 ≤ n && n < 0x8000000000000000

/-- As many number signs as a level says; a negative level says none. A level that is no count is
refused, and no other bound is set to the output. -/
def headingSigns (level : Int) : Except Fault Text :=
  if isCount level then .ok (List.replicate level.toNat '#') else .error .countOutOfRange

/-- A heading has number signs before it, as many as its level says. -/
def heading (text : Text) (level : Int) : Except Fault Text := do
  return (← headingSigns level) ++ " " ++ (Heading.stripMarkers text).strip ++ "\n\n"

/-- What an item begins with. -/
def itemMark : Text := "- "

/-- Numbers the lines that begin with the mark of an item, counting on from `count`. -/
def numberItems (count : Nat) : List Text → Text
  | [] => []
  | line :: rest =>
    if line.startsWith itemMark then
      Text.decimal (count + 1) ++ ". " ++ line.drop itemMark.length ++ numberItems (count + 1) rest
    else line ++ numberItems count rest

/-- A list is followed by an empty line. -/
def list (body : Text) (ordered : Bool) : Text :=
  (if ordered then numberItems 0 body.brokenLines else body) ++ "\n"

/-- Indents a line, unless it is empty. -/
def indent (line : Text) : Text := if line.isEmpty then [] else "  " ++ line

/-- An item has its mark before its first line and a blank of the same width before the others. -/
def listItem (text : Text) : Text :=
  match text.strip.lines with
  | [] => itemMark ++ "\n"
  | first :: rest => Text.joinLines ((itemMark ++ first) :: rest.map indent) ++ "\n"

def paragraph (text : Text) : Text := text ++ "\n\n"

def table (header body : Text) : Text := header ++ body ++ "\n"

/-- A row has its cells on one line. Each cell that it is given ends with a newline. -/
def tableRow (content : Text) : Text :=
  "| " ++ Text.join " | " content.dropEndNewlines.lines ++ " |\n"

/-- A cell has no newline but the one that ends it. -/
def tableCell (content : Text) : Text := content.replace '\n' " " ++ "\n"

def math (content : Text) : Text := "[math] " ++ content ++ " [/math]"

/-- The body of a footnote. -/
def footnote (name text : Text) : Text := "[^" ++ name ++ "]: " ++ text ++ "\n\n"

/-! ## Spans -/

/-- A reference to a footnote. -/
def footnoteReference (name : Text) : Text := "[^" ++ name ++ "]"

def link (o : RenderOptions) (href text : Text) : Logged Text :=
  o.screen href (text ++ " (" ++ href ++ ")")

def image (o : RenderOptions) (href text : Text) : Logged Text :=
  o.screen href ("[image: " ++ text ++ "]")

/-! ## All constructs -/

/-- The plain text of a construct. -/
def construct (o : RenderOptions) : Construct Text → Attempt Text
  | .code code language _ => return PlainText.code code language
  | .blockquote quote => return blockquote quote
  | .html _ => return []
  | .heading text level _ => .ofExcept (heading text level)
  | .headingId _ => throw .noSuchOperation
  | .rule => return "---\n\n"
  | .list body ordered => return list body ordered
  | .listItem text => return listItem text
  | .paragraph text => return paragraph text
  | .table header body => return table header body
  | .tableRow content => return tableRow content
  | .tableCell content _ => return tableCell content
  | .math content _ _ => return math content
  | .strong text => return text
  | .emphasis text => return text
  | .codeSpan text => return text
  | .lineBreak => return " "
  | .deleted text => return text
  | .footnoteReference name => return footnoteReference name
  | .footnote name text => return footnote name text
  | .link href _ text => link o href text
  | .image href _ text => image o href text

end MarkdownRender.PlainText
