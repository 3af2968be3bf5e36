import MarkdownRender.Text.Numeral
import MarkdownRender.Unicode.Lowercase

/-!
# Heading anchors

The id of a heading is derived from its source. The slug of the source is its lower-case form
with every run of other code points than `a`-`z`, `0`-`9`, `_` and `-` collapsed into one hyphen.
A source without a usable slug is told by the numbers of its code points instead. Either way an id
starts with a letter.
-/

namespace MarkdownRender.Heading

/-- The code points that a slug keeps. -/
def isSlugChar (c : CodePoint) : Bool := c.isLower || c.isDigit || c = '_' || c = '-'

/-- Collapses every run of code points that no slug keeps into one hyphen. `inGap` tells whether
the text continues such a run, whose hyphen is written already. -/
def collapseGaps (inGap : Bool) : Text → Text
  | [] => []
  | c :: rest =>
    if isSlugChar c then c :: collapseGaps false rest
    else if inGap then collapseGaps true rest
    else '-' :: collapseGaps true rest

/-- The text without the hyphens at both its ends. -/
def trimHyphens (text : Text) : Text :=
  Text.dropEndWhile (· = '-') (text.dropWhile (· = '-'))

/-- The slug of a heading source; it is empty if the source has nothing to keep but hyphens. -/
def slug (source : Text) : Text := trimHyphens (collapseGaps false source.lower)

/-- The numbers of the code points, in decimal. -/
def codePointNumbers (source : Text) : Text :=
  Text.join "-" (source.map fun c => Text.decimal c.val)

/-- An id has to start with a letter. -/
def withLetter (body : Text) : Text :=
  if body.head?.any CodePoint.isLower then body else "id-" ++ body

/-- The id derived from a heading source. -/
def anchorId (source : Text) : Text :=
  withLetter (if (slug source).isEmpty then codePointNumbers source else slug source)

end MarkdownRender.Heading
