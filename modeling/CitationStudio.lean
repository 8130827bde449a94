import CitationStudio.Text.Basic
import CitationStudio.Text.Printable
import CitationStudio.Text.Digit
import CitationStudio.Text.Quoted
import CitationStudio.Text.Width
import CitationStudio.Text.Wrap
import CitationStudio.Part.Basic
import CitationStudio.Part.Escape
import CitationStudio.Compiled.Lexeme
import CitationStudio.Compiled.Reader
import CitationStudio.Citation.Run
import CitationStudio.Citation.Reader
import CitationStudio.Number.Numeral
import CitationStudio.Number.Binary64
import CitationStudio.Data.Value
import CitationStudio.Data.Json.Lexeme
import CitationStudio.Data.Json.Reader
import CitationStudio.Data.Json.Printer
import CitationStudio.Part.Offer
import CitationStudio.Render.Basic
import CitationStudio.Template.Basic
import CitationStudio.Template.Wrap
import CitationStudio.Span
import CitationStudio.Document.Basic
import CitationStudio.Fold.Token
import CitationStudio.Fold.Balance
import CitationStudio.Fold.Basic
import CitationStudio.Fold.Alignment
import CitationStudio.Surface
import CitationStudio.Feed
import CitationStudio.Lab.Basic
import CitationStudio.Tagging.Picks
import CitationStudio.Tagging.Cut
import CitationStudio.Tagging.Session
import CitationStudio.Tagging.Bench
import CitationStudio.Marking.Session
import CitationStudio.Lab.Follower
import CitationStudio.Stack
import CitationStudio.Render.Registry
import CitationStudio.Render.Catalogue
import CitationStudio.Text.Utf8
import CitationStudio.Files.Path
import CitationStudio.Files.Disk
import CitationStudio.Settings.Basic
import CitationStudio.Data.Yaml.Cursor
import CitationStudio.Data.Yaml.Content
import CitationStudio.Data.Yaml.Lexeme
import CitationStudio.Data.Yaml.Node
import CitationStudio.Data.Yaml.Scalar
import CitationStudio.Data.Yaml.Reader
import CitationStudio.Settings.Sources
import CitationStudio.Text.Markup
import CitationStudio.Text.Table
import CitationStudio.CommandLine.Flag
import CitationStudio.CommandLine.Options
import CitationStudio.CommandLine.Record
import CitationStudio.CommandLine.Run
import CitationStudio.Text.Location
import CitationStudio.Screen.TextArea
import CitationStudio.Screen.Log
import CitationStudio.Screen.Panels
import CitationStudio.Screen.Basic
import CitationStudio.CommandLine.Help
import CitationStudio.Lab.Draw
import CitationStudio.Screen.Dialogue
import CitationStudio.Main
import CitationStudio.Text.Lower
import CitationStudio.Number.Decimal
import CitationStudio.Data.NumberSet
import CitationStudio.Data.Yaml.Tag
import CitationStudio.Proofs.Part.Shape
import CitationStudio.Proofs.Compiled.Printed
import CitationStudio.Proofs.Compiled.RoundTrip
import CitationStudio.Proofs.Compiled.Grammar
import CitationStudio.Proofs.Render.Shown
import CitationStudio.Proofs.Render.Meaning
import CitationStudio.Proofs.Template.Snapshots
import CitationStudio.Proofs.Tagging.Cut
import CitationStudio.Proofs.Tagging.Run
import CitationStudio.Proofs.Tagging.Rendered
import CitationStudio.Proofs.Lab.Following
import CitationStudio.Proofs.Tagging.Preview
import CitationStudio.Proofs.Span.Cover
import CitationStudio.Proofs.Document.Marked
import CitationStudio.Proofs.Fold.Glyph
import CitationStudio.Proofs.Fold.Stretch
import CitationStudio.Proofs.Fold.Expanded
import CitationStudio.Proofs.Fold.Sound
import CitationStudio.Proofs.Fold.Owner
import CitationStudio.Proofs.Fold.Kinds
import CitationStudio.Proofs.Marking.Run
import CitationStudio.Proofs.Marking.Folding
import CitationStudio.Proofs.Document.Readable
import CitationStudio.Proofs.Marking.Readable
import CitationStudio.Proofs.Document.Cut
import CitationStudio.Proofs.Fold.Marking
import CitationStudio.Proofs.Fold.Unfolded
import CitationStudio.Proofs.Fold.Edited
import CitationStudio.Proofs.Template.Undo
import CitationStudio.Proofs.Tagging.Offsets
import CitationStudio.Proofs.Marking.Agreement
import CitationStudio.Proofs.Marking.Pieces
import CitationStudio.Proofs.Feed.Turns
import CitationStudio.Proofs.Lab.Choices
import CitationStudio.Proofs.Lab.Rows
import CitationStudio.Proofs.Lab.Run
import CitationStudio.Proofs.Json.Writable
import CitationStudio.Proofs.Settings.Layers
import CitationStudio.Proofs.Settings.Obstacles
import CitationStudio.Proofs.Settings.Loading
import CitationStudio.Proofs.Tagging.Conversion
import CitationStudio.Proofs.Tagging.Publishing
import CitationStudio.Proofs.Fold.Alignment
import CitationStudio.Proofs.Marking.Display
import CitationStudio.Proofs.Settings.Failing
import CitationStudio.Proofs.Render.Given
import CitationStudio.Proofs.Render.Resolved
import CitationStudio.Proofs.CommandLine.Working
import CitationStudio.Proofs.CommandLine.Ending
import CitationStudio.Proofs.Fold.Reopened
import CitationStudio.Proofs.Fold.Order
import CitationStudio.Proofs.Fold.Balanced
import CitationStudio.Proofs.Marking.Typing
import CitationStudio.Proofs.Marking.Balanced
import CitationStudio.Proofs.Render.Grouped
import CitationStudio.Proofs.Citation.Factors
import CitationStudio.Proofs.Lab.Withheld
import CitationStudio.Proofs.Document.Filled
import CitationStudio.Proofs.Compiled.Tidy
import CitationStudio.Proofs.Citation.Notes
import CitationStudio.Proofs.Fold.Cut
import CitationStudio.Proofs.Lab.Sampling
import CitationStudio.Proofs.Span.Sweep
import CitationStudio.Proofs.Document.Normal
import CitationStudio.Proofs.Citation.Runs
import CitationStudio.Proofs.Compiled.Literal
import CitationStudio.Proofs.Document.Place
import CitationStudio.Proofs.Compiled.Fault
import CitationStudio.Proofs.Text.Location
import CitationStudio.Proofs.Fold.Snapped
