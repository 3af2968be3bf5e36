import MarkdownRender.Text.Substitution

/-!
# Heading markers

A heading may name its own id in a marker: an opening brace and a number sign, a token of one or
more code points, and a closing brace, all on one line. The token reaches as far as it can, up to
the last closing brace of the line. It follows that a line has at most one marker: what lies
between its first opening and its last closing brace, if that is not nothing.
-/

namespace MarkdownRender.Heading

/-- The token of a marker whose opening has been read: what stands before the last closing brace
of the line, if that is not nothing. -/
def token? (text : Text) : Option Text :=
  (Text.beforeLast "\x7d" (text.takeWhile (· ≠ '\n'))).filter (!·.isEmpty)

/-- The token of the marker that starts at `c`. -/
def markerAt? (c : CodePoint) (rest : Text) : Option Text :=
  if c = '\x7b' && rest.startsWith "#" then token? (rest.drop 1) else none

/-- The token of the first marker of a heading source. -/
def explicitId? : Text → Option Text
  | [] => none
  | c :: rest => markerAt? c rest <|> explicitId? rest

/-- A marker becomes nothing. Besides its token it has an opening brace, a number sign and a
closing brace. -/
def markerRule : Text.Rule := fun c rest =>
  (markerAt? c rest).map fun token => ([], token.length + 2)

/-- Removes every marker. -/
def stripMarkers (text : Text) : Text := text.substitute markerRule

end MarkdownRender.Heading
