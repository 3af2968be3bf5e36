import MarkdownRender.Text.Numeral
import MarkdownRender.Unicode.Printable

/-!
# Quoted texts

The form in which a text is shown inside a message: between quotation marks, on one line, with
an escape sequence for each code point that cannot be shown.
-/

namespace MarkdownRender.Text

/-- Single quotation marks, unless the text holds some and no double one. -/
def quotationMark (text : Text) : CodePoint :=
  if text.contains (CodePoint.ofChar '\'') && !text.contains (CodePoint.ofChar '"') then '"'
  else '\''

/-- A code point between two `mark`s. The mark and the backslash stand behind a backslash; what
is not printable becomes a short escape or its number in two, four or eight hexadecimal digits. -/
def quotedForm (mark c : CodePoint) : Text :=
  if c = mark || c = '\\' then ['\\', c]
  else if c = '\n' then "\\n"
  else if c = '\r' then "\\r"
  else if c = '\t' then "\\t"
  else if c.isPrintable then [c]
  else if c.val < 0x100 then "\\x" ++ hex 2 c.val
  else if c.val < 0x10000 then "\\u" ++ hex 4 c.val
  else "\\U" ++ hex 8 c.val

/-- A text as it is shown inside a message. -/
def quoted (text : Text) : Text :=
  let mark := text.quotationMark
  mark :: text.flatMap (quotedForm mark) ++ [mark]

end MarkdownRender.Text
