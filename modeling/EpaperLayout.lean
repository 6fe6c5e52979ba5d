import EpaperLayout.Command.Generate
import EpaperLayout.Command.Import
import EpaperLayout.Command.Line
import EpaperLayout.Command.Outcome
import EpaperLayout.Command.Program
import EpaperLayout.Command.Validate
import EpaperLayout.Decimal.Nearest
import EpaperLayout.Decimal.Shortest
import EpaperLayout.Disk.Path
import EpaperLayout.Disk.Replacement
import EpaperLayout.Disk.Tree
import EpaperLayout.Json.Draft
import EpaperLayout.Json.Number
import EpaperLayout.Json.Shape
import EpaperLayout.Json.Value
import EpaperLayout.Layout.Color
import EpaperLayout.Layout.Device
import EpaperLayout.Layout.Exchange
import EpaperLayout.Layout.Page
import EpaperLayout.Layout.Report
import EpaperLayout.Layout.Storage
import EpaperLayout.Layout.Style
import EpaperLayout.Layout.Validation
import EpaperLayout.Layout.Widget
import EpaperLayout.Main
import EpaperLayout.Proofs.Command.RejectedInput
import EpaperLayout.Proofs.Disk.FollowedLinks
import EpaperLayout.Proofs.Disk.MadeDirectories
import EpaperLayout.Proofs.Disk.PathSteps
import EpaperLayout.Proofs.Disk.ReadBack
import EpaperLayout.Proofs.Disk.ReplacedFile
import EpaperLayout.Proofs.Disk.WholeReplacement
import EpaperLayout.Proofs.Layout.Clamping
import EpaperLayout.Proofs.Layout.ColorTexts
import EpaperLayout.Proofs.Layout.ExactReport
import EpaperLayout.Proofs.Layout.OutputPaths
import EpaperLayout.Proofs.Layout.PageOrder
import EpaperLayout.Proofs.Layout.StoredLayout
import EpaperLayout.Proofs.Layout.ValidEdits
import EpaperLayout.Proofs.Layout.Violations
import EpaperLayout.Proofs.Settings.StoredSettings
import EpaperLayout.Proofs.Settings.WrittenSettings
import EpaperLayout.Proofs.Snippet.BraceDepth
import EpaperLayout.Proofs.Snippet.BraceMatching
import EpaperLayout.Proofs.Snippet.BranchContents
import EpaperLayout.Proofs.Snippet.BranchFinding
import EpaperLayout.Proofs.Snippet.BranchOrder
import EpaperLayout.Proofs.Snippet.BranchPages
import EpaperLayout.Proofs.Snippet.CodeShape
import EpaperLayout.Proofs.Snippet.DamagedMarkers
import EpaperLayout.Proofs.Snippet.DigitSeparators
import EpaperLayout.Proofs.Snippet.DocumentLines
import EpaperLayout.Proofs.Snippet.EscapeGrammar
import EpaperLayout.Proofs.Snippet.EscapedText
import EpaperLayout.Proofs.Snippet.FieldGrammar
import EpaperLayout.Proofs.Snippet.Fragments
import EpaperLayout.Proofs.Snippet.FreeIds
import EpaperLayout.Proofs.Snippet.GapFillers
import EpaperLayout.Proofs.Snippet.GeneratedDispatch
import EpaperLayout.Proofs.Snippet.GeneratedFrame
import EpaperLayout.Proofs.Snippet.GeneratedLines
import EpaperLayout.Proofs.Snippet.GeneratedMarkers
import EpaperLayout.Proofs.Snippet.HandEdits
import EpaperLayout.Proofs.Snippet.LabelGrammar
import EpaperLayout.Proofs.Snippet.LexicalElements
import EpaperLayout.Proofs.Snippet.MarkerLines
import EpaperLayout.Proofs.Snippet.MarkerRoundTrip
import EpaperLayout.Proofs.Snippet.OffsetReader
import EpaperLayout.Proofs.Snippet.PageNames
import EpaperLayout.Proofs.Snippet.PageSequence
import EpaperLayout.Proofs.Snippet.Places
import EpaperLayout.Proofs.Snippet.QuietBranches
import EpaperLayout.Proofs.Snippet.QuietCode
import EpaperLayout.Proofs.Snippet.ReadingInPlace
import EpaperLayout.Proofs.Snippet.RoundTrip
import EpaperLayout.Proofs.Snippet.RoutineFragments
import EpaperLayout.Proofs.Snippet.SafeDrawing
import EpaperLayout.Proofs.Snippet.SafeEscapes
import EpaperLayout.Proofs.Snippet.SafeReading
import EpaperLayout.Proofs.Snippet.Tolerance
import EpaperLayout.Proofs.Snippet.UsableDispatch
import EpaperLayout.Proofs.Snippet.WarningOrder
import EpaperLayout.Proofs.Snippet.WidgetMarkers
import EpaperLayout.Proofs.Snippet.WrittenFields
import EpaperLayout.Proofs.Success
import EpaperLayout.Proofs.Text.LowerCase
import EpaperLayout.Proofs.Text.Numerals
import EpaperLayout.Proofs.Text.Slices
import EpaperLayout.Proofs.Toml.WrittenStrings
import EpaperLayout.Proofs.Yaml.BlockContent
import EpaperLayout.Proofs.Yaml.LiteralBlock
import EpaperLayout.Proofs.Yaml.ScannerSteps
import EpaperLayout.Settings.Basic
import EpaperLayout.Settings.Storage
import EpaperLayout.Snippet.Dispatch
import EpaperLayout.Snippet.Drawing
import EpaperLayout.Snippet.Escape
import EpaperLayout.Snippet.Generation
import EpaperLayout.Snippet.Import
import EpaperLayout.Snippet.Lambda
import EpaperLayout.Snippet.Marker
import EpaperLayout.Snippet.MarkerData
import EpaperLayout.Snippet.Outcome
import EpaperLayout.Snippet.PageReading
import EpaperLayout.Text.Blank
import EpaperLayout.Text.CaseTable
import EpaperLayout.Text.Lines
import EpaperLayout.Text.Lowercase
import EpaperLayout.Text.Numeral
import EpaperLayout.Text.Quoted
import EpaperLayout.Text.Ranges
import EpaperLayout.Text.Utf8
import EpaperLayout.Text.Visibility
import EpaperLayout.Text.Word
import EpaperLayout.Text.WordTable
import EpaperLayout.Toml.Reader
import EpaperLayout.Toml.Scalar
import EpaperLayout.Toml.Table
import EpaperLayout.Toml.Writing
import EpaperLayout.Yaml.BlockScalar
import EpaperLayout.Yaml.Document
import EpaperLayout.Yaml.Event
import EpaperLayout.Yaml.Fault
import EpaperLayout.Yaml.Folding
import EpaperLayout.Yaml.Node
import EpaperLayout.Yaml.Place
import EpaperLayout.Yaml.Scalar
import EpaperLayout.Yaml.Token
import EpaperLayout.Yaml.TokenStream
import EpaperLayout.Yaml.Value
