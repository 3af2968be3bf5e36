import MarkdownRender.Text.Basic

/-!
# Blank space

The code points that are cut off at both ends of a text: the Unicode space separators and the
control characters that separate words, lines or records.
-/

namespace MarkdownRender

/-- White space: Unicode spaces, the line and paragraph separators, tabulators, line ends and the
four ASCII information separators. -/
def CodePoint.isBlank (c : CodePoint) : Bool :=
  (0x09 ≤ c.val && c.val ≤ 0x0D) || (0x1C ≤ c.val && c.val ≤ 0x20) || c.val = 0x85 ||
    c.val = 0xA0 || c.val = 0x1680 || (0x2000 ≤ c.val && c.val ≤ 0x200A) || c.val = 0x2028 ||
    c.val = 0x2029 || c.val = 0x202F || c.val = 0x205F || c.val = 0x3000

namespace Text

/-- The text without the white space at both its ends. -/
def strip (text : Text) : Text :=
  dropEndWhile CodePoint.isBlank (text.dropWhile CodePoint.isBlank)

end Text

end MarkdownRender
