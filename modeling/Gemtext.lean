import Gemtext.Compose
import Gemtext.Convert
import Gemtext.Depth
import Gemtext.Document.Attributes
import Gemtext.Document.Node
import Gemtext.Document.OfMarkdown
import Gemtext.Document.Registry
import Gemtext.Document.Tag
import Gemtext.Error
import Gemtext.Html.Denied
import Gemtext.Html.Markup
import Gemtext.Html.PlainText
import Gemtext.Html.Reference
import Gemtext.LinkLine
import Gemtext.Links
import Gemtext.Markdown.Atom
import Gemtext.Markdown.Autolink
import Gemtext.Markdown.Blocks
import Gemtext.Markdown.Bracket
import Gemtext.Markdown.Container
import Gemtext.Markdown.Emphasis
import Gemtext.Markdown.Escape
import Gemtext.Markdown.Event
import Gemtext.Markdown.HtmlBlock
import Gemtext.Markdown.Inline
import Gemtext.Markdown.Interrupt
import Gemtext.Markdown.Leaf
import Gemtext.Markdown.Line
import Gemtext.Markdown.LinkDefinition
import Gemtext.Markdown.LinkTarget
import Gemtext.Markdown.Notes
import Gemtext.Markdown.OfText
import Gemtext.Markdown.Place
import Gemtext.Markdown.RawHtml
import Gemtext.Markdown.Start
import Gemtext.Markdown.TableBlock
import Gemtext.Markdown.Tree
import Gemtext.Metadata
import Gemtext.Proofs.BlankLines
import Gemtext.Proofs.BlankQuotes
import Gemtext.Proofs.Built
import Gemtext.Proofs.Causes
import Gemtext.Proofs.Chains
import Gemtext.Proofs.Containers
import Gemtext.Proofs.DeniedPairs
import Gemtext.Proofs.DeniedSpans
import Gemtext.Proofs.DepthSearch
import Gemtext.Proofs.Descriptions
import Gemtext.Proofs.DroppedSpans
import Gemtext.Proofs.Erasure
import Gemtext.Proofs.Failures
import Gemtext.Proofs.FootnoteLines
import Gemtext.Proofs.Forest
import Gemtext.Proofs.Grammar
import Gemtext.Proofs.HeadingLines
import Gemtext.Proofs.Hoisting
import Gemtext.Proofs.Letters
import Gemtext.Proofs.LineBreaks
import Gemtext.Proofs.LinkDecoding
import Gemtext.Proofs.LinkLines
import Gemtext.Proofs.LinkPlaces
import Gemtext.Proofs.ListOpenings
import Gemtext.Proofs.Locality
import Gemtext.Proofs.MarkedWords
import Gemtext.Proofs.Misshapen
import Gemtext.Proofs.NestingLimit
import Gemtext.Proofs.Outline
import Gemtext.Proofs.PageLines
import Gemtext.Proofs.Preformatted
import Gemtext.Proofs.Prose
import Gemtext.Proofs.QuoteBreaks
import Gemtext.Proofs.QuotedLines
import Gemtext.Proofs.QuotedText
import Gemtext.Proofs.Rearrange
import Gemtext.Proofs.RefusedMarkup
import Gemtext.Proofs.Register
import Gemtext.Proofs.SkippedLabels
import Gemtext.Proofs.Sound
import Gemtext.Proofs.SpacedLines
import Gemtext.Proofs.Subtree
import Gemtext.Proofs.TableLines
import Gemtext.Proofs.TagRow
import Gemtext.Proofs.Unbroken
import Gemtext.Proofs.UnclosedSpans
import Gemtext.Proofs.Written
import Gemtext.Proofs.WrittenSpans
import Gemtext.Render
import Gemtext.Settings
import Gemtext.Table
import Gemtext.Text.Blank
import Gemtext.Text.Case
import Gemtext.Text.CodePoints
import Gemtext.Text.Digits
import Gemtext.Text.Lines
import Gemtext.Text.NamedCharacter
import Gemtext.Text.Printable
import Gemtext.Text.Punctuation
import Gemtext.Text.Quoted
import Gemtext.Text.Search
import Gemtext.Text.Split
import Gemtext.Text.Word
import Gemtext.Url.Parts
import Gemtext.Url.Percent
import Gemtext.Url.Punycode
