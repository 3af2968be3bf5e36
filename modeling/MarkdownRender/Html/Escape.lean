import MarkdownRender.Text.Basic

/-!
# Escaping HTML special characters

Strict escaping replaces every special character by its entity. Lenient escaping keeps an
ampersand that already begins an entity reference, so that text escaped before is not escaped
twice. The ampersands come first: the entities written afterwards contain ampersands themselves.
-/

namespace MarkdownRender.Html

/-- What follows an ampersand continues an entity reference: an optional `#`, one or more ASCII
word characters, and `;`. -/
def continuesReference (rest : Text) : Bool :=
  let body := if rest.head? = some (CodePoint.ofChar '#') then rest.tail else rest
  let name := body.takeWhile CodePoint.isWord
  !name.isEmpty && (body.drop name.length).head? = some (CodePoint.ofChar ';')

/-- Escapes the ampersands that do not begin an entity reference. -/
def escapeBareAmpersands : Text → Text
  | [] => []
  | c :: rest =>
    if c = '&' && !continuesReference rest then "&amp;" ++ escapeBareAmpersands rest
    else c :: escapeBareAmpersands rest

/-- Escapes angle brackets and both quotation marks. -/
def escapeMarkup (text : Text) : Text :=
  (((text.replace '<' "&lt;").replace '>' "&gt;").replace '"' "&quot;").replace '\'' "&#39;"

/-- Strict escaping: every special character becomes an entity. -/
def escape (text : Text) : Text := escapeMarkup (text.replace '&' "&amp;")

/-- Lenient escaping: as `escape`, but entity references that are there already stay. -/
def escapeLenient (text : Text) : Text := escapeMarkup (escapeBareAmpersands text)

end MarkdownRender.Html
