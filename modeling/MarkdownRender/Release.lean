import MarkdownRender.Text.Basic

/-!
# Release

The version of this library.
-/

namespace MarkdownRender

/-- The version, as major, minor and patch numbers. -/
def version : Text := "0.1.0"

end MarkdownRender
