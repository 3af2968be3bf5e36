import MarkdownRender.Construct
import MarkdownRender.Error
import MarkdownRender.Heading.Anchor
import MarkdownRender.Heading.Marker
import MarkdownRender.Highlight.Callback
import MarkdownRender.Highlight.CodeBlock
import MarkdownRender.Html.Escape
import MarkdownRender.Html.Reference
import MarkdownRender.Log
import MarkdownRender.Options.Basic
import MarkdownRender.Options.Map
import MarkdownRender.Release
import MarkdownRender.Render.Admission
import MarkdownRender.Render.Html
import MarkdownRender.Render.PlainText
import MarkdownRender.Render.Renderer
import MarkdownRender.Session.Action
import MarkdownRender.Session.Run
import MarkdownRender.Session.State
import MarkdownRender.Text.Basic
import MarkdownRender.Text.Blank
import MarkdownRender.Text.CodePoint
import MarkdownRender.Text.Lines
import MarkdownRender.Text.Numeral
import MarkdownRender.Text.Quoted
import MarkdownRender.Text.Substitution
import MarkdownRender.Unicode.Lowercase
import MarkdownRender.Unicode.Printable
import MarkdownRender.Unicode.Ranges
import MarkdownRender.Unicode.Word
import MarkdownRender.Url.Percent
import MarkdownRender.Url.Scheme
import MarkdownRender.Url.Utf8
import MarkdownRender.Value
import MarkdownRender.Proofs.Text.CodePoint
import MarkdownRender.Proofs.Text.Numeral
import MarkdownRender.Proofs.Html.ReferenceScan
import MarkdownRender.Proofs.Html.Spelling
import MarkdownRender.Proofs.Url.Utf8Decoding
import MarkdownRender.Proofs.Url.PercentDecoding
import MarkdownRender.Proofs.Url.Verdict
import MarkdownRender.Proofs.Text.Lines
import MarkdownRender.Proofs.PlainText.Outline
import MarkdownRender.Proofs.Session.Frames
import MarkdownRender.Proofs.Html.Nesting
import MarkdownRender.Proofs.Html.Elements
import MarkdownRender.Proofs.Heading.Markers
import MarkdownRender.Proofs.Heading.Anchor
import MarkdownRender.Proofs.Heading.Slug
import MarkdownRender.Proofs.Heading.Fallback
import MarkdownRender.Proofs.Heading.MarkerLines
import MarkdownRender.Proofs.Html.Escaping
import MarkdownRender.Proofs.Html.Fragment
import MarkdownRender.Proofs.Html.HeadingMarkup
import MarkdownRender.Proofs.Html.Tree
import MarkdownRender.Proofs.PlainText.Rows
import MarkdownRender.Proofs.PlainText.Numbering
import MarkdownRender.Proofs.Html.StartTag
import MarkdownRender.Proofs.Html.HeadingTag
import MarkdownRender.Proofs.Options.Layers
import MarkdownRender.Proofs.Html.CodeBlocks
import MarkdownRender.Proofs.Highlight.Fallback
import MarkdownRender.Proofs.Session.Storage
import MarkdownRender.Proofs.Session.Lockstep
import MarkdownRender.Proofs.Session.Faults
import MarkdownRender.Proofs.Session.Threads
import MarkdownRender.Proofs.Html.LenientEscaping
import MarkdownRender.Proofs.Url.Embedding
import MarkdownRender.Proofs.Url.LetterCase
import MarkdownRender.Proofs.Unicode.Lowercase
import MarkdownRender.Proofs.Url.BareForm
import MarkdownRender.Proofs.Render.Admission
import MarkdownRender.Proofs.Text.Occurrence
import MarkdownRender.Proofs.Heading.MarkerRemoval
import MarkdownRender.Proofs.Highlight.Unwrapping
import MarkdownRender.Proofs.Html.OpenElements
import MarkdownRender.Proofs.Highlight.WellNested
import MarkdownRender.Proofs.Options.MapForm
import MarkdownRender.Proofs.PlainText.Quoting
import MarkdownRender.Proofs.PlainText.Items
import MarkdownRender.Proofs.Html.VoidEnds
import MarkdownRender.Proofs.Html.XhtmlOption
import MarkdownRender.Proofs.Options.Equality
import MarkdownRender.Proofs.Session.Writes
import MarkdownRender.Proofs.Session.Renderers
import MarkdownRender.Proofs.Session.Identity
