import MarkdownRender.Html.Reference
import MarkdownRender.Log
import MarkdownRender.Url.Percent

/-!
# URL schemes

A URL is judged by what is left of it once the disguises that browsers undo are undone: entity
references and percent-encoding. Of the decoded text only ASCII word characters and colons count,
so that neither white space nor punctuation can hide the scheme.
-/

namespace MarkdownRender.Url

/-- The code points that count when a scheme is told. -/
def isSchemeChar (c : CodePoint) : Bool := c.isWord || c = ':'

/-- The word characters and colons of a text, in lower case. -/
def reduce (text : Text) : Text := (text.filter isSchemeChar).map CodePoint.asciiLower

/-- The bare form of a URL, by which its scheme is told. -/
def normalize (url : Text) : Except MalformedUrl Text :=
  (Percent.decode (Html.decodeReferences url)).map reduce

/-- The scheme that no link and no image may have. -/
def rejectedScheme : Text := "javascript:"

/-- Whether a link or an image may have this URL. A URL that cannot be decoded is not safe. -/
def isSafe (url : Text) : Logged Bool :=
  match normalize url with
  | .error _ => do
    Logged.report (.malformedUrl url)
    return false
  | .ok bare =>
    if bare.startsWith rejectedScheme then do
      Logged.report (.unsafeScheme url)
      return false
    else return true

end MarkdownRender.Url
