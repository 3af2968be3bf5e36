import MarkdownRender.Options.Basic
import MarkdownRender.Url.Scheme

/-!
# Admission of links and images

Every renderer drops the same links and images: those whose URL is not safe, if the options ask
for that.
-/

namespace MarkdownRender

/-- The output for a link or an image, or nothing if the options do not let its URL through. -/
def RenderOptions.screen (o : RenderOptions) (href output : Text) : Logged Text :=
  if o.sanitize.truthy then do
    if ← Url.isSafe href then return output else return []
  else return output

end MarkdownRender
