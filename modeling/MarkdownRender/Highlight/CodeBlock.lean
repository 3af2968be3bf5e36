import MarkdownRender.Text.Blank
import MarkdownRender.Unicode.Word

/-!
# Highlighted code blocks

Some highlighters answer with a whole block, preformatted text and all. `unwrap` reduces a block
to the markup inside it, for a renderer that writes a block of its own around it.
-/

namespace MarkdownRender.CodeBlock

/-- What follows the start tag of a `name` element, if the text begins with one. The name has to
end where the text says it does: `<preface>` is no start tag of `pre`. -/
def afterStartTag? (name text : Text) : Option Text :=
  let rest := text.drop (name.length + 1)
  if text.startsWith ('<' :: name) && !(rest.head?.any CodePoint.isUnicodeWord) then
    match (rest.dropWhile (· ≠ '>') : Text) with
    | [] => none
    | _ :: content => some content
  else none

/-- What stands between the first start tag of `pre` and the last end tag after it. -/
def preContent? : Text → Option Text
  | [] => none
  | c :: rest =>
    ((afterStartTag? "pre" (c :: rest)).bind (Text.beforeLast "</pre>")) <|> preContent? rest

/-- The content of a text that is one `code` element from its start to its end. -/
def codeContent? (text : Text) : Option Text :=
  (afterStartTag? "code" text).bind (Text.withoutEnding? "</code>")

/-- The markup inside a block, without its trailing newlines. Markup without a `pre` element is
left alone. -/
def unwrap (markup : Text) : Text :=
  match preContent? markup with
  | none => markup
  | some content => ((codeContent? content.strip).getD content).dropEndNewlines

end MarkdownRender.CodeBlock
