import MarkdownPages.Anchor
import MarkdownPages.Build
import MarkdownPages.Calendar
import MarkdownPages.Command
import MarkdownPages.Disk
import MarkdownPages.Files
import MarkdownPages.Fragment
import MarkdownPages.Html.Tag
import MarkdownPages.Link
import MarkdownPages.Main
import MarkdownPages.Markdown.Document
import MarkdownPages.Marker
import MarkdownPages.Number.Shortest
import MarkdownPages.Page
import MarkdownPages.Path
import MarkdownPages.Program
import MarkdownPages.Proofs.Anchor.Hyphens
import MarkdownPages.Proofs.Build.Disk
import MarkdownPages.Proofs.Build.Memory
import MarkdownPages.Proofs.Build.Rebuild
import MarkdownPages.Proofs.Disk.Location
import MarkdownPages.Proofs.Link.Cut
import MarkdownPages.Proofs.Link.Grammar
import MarkdownPages.Proofs.Markdown.Headings
import MarkdownPages.Proofs.Markdown.Inline.Bare
import MarkdownPages.Proofs.Marker.Placeholder
import MarkdownPages.Proofs.Marker.Rejoin
import MarkdownPages.Proofs.Marker.Strip
import MarkdownPages.Proofs.Page.FileNames
import MarkdownPages.Proofs.Program.OnePage
import MarkdownPages.Proofs.Site.Keys
import MarkdownPages.Proofs.Site.Markup
import MarkdownPages.Site
import MarkdownPages.Site.Load
import MarkdownPages.Url.Destination
import MarkdownPages.Yaml.Value.Read
import MarkdownPages.Proofs.Link.Written
import MarkdownPages.Proofs.Markdown.OneLine
import MarkdownPages.Proofs.Fragment.LeadingLink
import MarkdownPages.Proofs.Html.Tag
import MarkdownPages.Proofs.Markdown.Inline.Token
import MarkdownPages.Proofs.Markdown.Inline.Run
import MarkdownPages.Proofs.Fragment.Destination
import MarkdownPages.Proofs.Link.Flanked
import MarkdownPages.Proofs.Markdown.Block.Holds
import MarkdownPages.Proofs.Markdown.Block.Inherited
import MarkdownPages.Proofs.Markdown.Block.Flanked
import MarkdownPages.Proofs.Markdown.Inline.RawHtml
import MarkdownPages.Proofs.Markdown.Sealed
import MarkdownPages.Proofs.Fragment.Untagged
import MarkdownPages.Proofs.Fragment.Prose
import MarkdownPages.Proofs.Fragment.Heading
import MarkdownPages.Proofs.Site.Names
import MarkdownPages.Proofs.Build.Template
import MarkdownPages.Proofs.Fragment.LinkedHeading
import MarkdownPages.Proofs.Page.Siblings
import MarkdownPages.Proofs.Site.Entries
import MarkdownPages.Proofs.Link.Guard
import MarkdownPages.Proofs.Link.LineEnds
import MarkdownPages.Proofs.Fragment.LineEnds
import MarkdownPages.Proofs.Fragment.Blocks
import MarkdownPages.Proofs.Anchor.Words
import MarkdownPages.Proofs.Site.Merged
import MarkdownPages.Proofs.Site.Mistyped
import MarkdownPages.Proofs.Link.Lines
import MarkdownPages.Proofs.Link.Closing
import MarkdownPages.Proofs.Link.Leftover
import MarkdownPages.Proofs.Link.Decoding
import MarkdownPages.Proofs.Text.Parts
import MarkdownPages.Proofs.Path.Normal
import MarkdownPages.Proofs.Path.Shown
import MarkdownPages.Proofs.Program.Announced
