import MarkdownRender.Text.CodePoint

/-!
# Ranges of code points

A Unicode property is a list of ranges, written as pairs of a first and a last code point, in
ascending order and without overlap.
-/

namespace MarkdownRender.Unicode

/-- Ranges of code points, each given by its ends, both included. -/
abbrev Ranges := List (Nat × Nat)

/-- Whether a code point lies in one of the ranges. -/
def Ranges.contains (ranges : Ranges) (c : CodePoint) : Bool :=
  ranges.any fun range => range.1 ≤ c.val && c.val ≤ range.2

end MarkdownRender.Unicode
