import SourceSimilarity.CommandLine.Arguments
import SourceSimilarity.CommandLine.Option
import SourceSimilarity.CommandLine.Program
import SourceSimilarity.CommandLine.Session
import SourceSimilarity.CommandLine.Setup
import SourceSimilarity.CommandLine.Word
import SourceSimilarity.Comparator
import SourceSimilarity.Config.Basic
import SourceSimilarity.Config.Reading
import SourceSimilarity.Console.Box
import SourceSimilarity.Console.Conversion
import SourceSimilarity.Console.Message
import SourceSimilarity.Console.Palette
import SourceSimilarity.Console.ProgressLine
import SourceSimilarity.Console.Template
import SourceSimilarity.Decimal.Binary
import SourceSimilarity.Decimal.Number
import SourceSimilarity.Decimal.Places
import SourceSimilarity.Decimal.Rounding
import SourceSimilarity.Decimal.Scientific
import SourceSimilarity.Decimal.Shortest
import SourceSimilarity.Discovery
import SourceSimilarity.EditDistance
import SourceSimilarity.FilePair
import SourceSimilarity.FileTree
import SourceSimilarity.Fingerprint.Hash
import SourceSimilarity.Fingerprint.Text
import SourceSimilarity.Fingerprint.Winnowing
import SourceSimilarity.Inputs
import SourceSimilarity.Json.Part
import SourceSimilarity.Json.Reader
import SourceSimilarity.Json.Shown
import SourceSimilarity.Json.Value
import SourceSimilarity.Json.Writer
import SourceSimilarity.Macro.Directive
import SourceSimilarity.Macro.Expansion
import SourceSimilarity.Macro.Lexeme
import SourceSimilarity.Limits
import SourceSimilarity.Main
import SourceSimilarity.Path
import SourceSimilarity.Pattern.CharSet
import SourceSimilarity.Pattern.Escape
import SourceSimilarity.Pattern.Expression
import SourceSimilarity.Pattern.Glob
import SourceSimilarity.Pattern.Mark
import SourceSimilarity.Pattern.Meaning
import SourceSimilarity.Pattern.Regex
import SourceSimilarity.Pattern.RegexError
import SourceSimilarity.Pattern.RegexOption
import SourceSimilarity.Pattern.RegexText
import SourceSimilarity.Position
import SourceSimilarity.Proofs.Config.Reading
import SourceSimilarity.Proofs.Config.Valid
import SourceSimilarity.Proofs.EditDistance
import SourceSimilarity.Proofs.EditDistance.Saturation
import SourceSimilarity.Proofs.EditDistance.Script
import SourceSimilarity.Proofs.Fingerprint.Cover
import SourceSimilarity.Proofs.Fingerprint.Hash
import SourceSimilarity.Proofs.Fingerprint.Rolling
import SourceSimilarity.Proofs.Fingerprint.Text
import SourceSimilarity.Proofs.Fingerprint.Winnowing
import SourceSimilarity.Proofs.Json.Document
import SourceSimilarity.Proofs.Json.Extent
import SourceSimilarity.Proofs.Json.Number
import SourceSimilarity.Proofs.Json.RoundTrip
import SourceSimilarity.Proofs.Json.Strings
import SourceSimilarity.Proofs.SavedScan.Loading
import SourceSimilarity.Proofs.SavedScan.Refusal
import SourceSimilarity.Proofs.Scan.Account
import SourceSimilarity.Proofs.Scan.Cancellation
import SourceSimilarity.Proofs.Scan.Course
import SourceSimilarity.Proofs.Scan.History
import SourceSimilarity.Proofs.Scan.Division
import SourceSimilarity.Proofs.Scan.Containment
import SourceSimilarity.Proofs.Inputs
import SourceSimilarity.Proofs.Scan.Session
import SourceSimilarity.Proofs.Scan.CacheInUse
import SourceSimilarity.Proofs.Scan.UnreadableFiles
import SourceSimilarity.Proofs.Scan.Refinement
import SourceSimilarity.Proofs.Scan.Snapshot
import SourceSimilarity.Proofs.Scan.Turns
import SourceSimilarity.Proofs.Scan.Undisturbed
import SourceSimilarity.Proofs.Scan.Visit
import SourceSimilarity.Proofs.Scan.Watch
import SourceSimilarity.Proofs.Score.Stream
import SourceSimilarity.Proofs.Source.Conversion
import SourceSimilarity.Proofs.Text.Utf8
import SourceSimilarity.Proofs.Tree.Composition
import SourceSimilarity.Proofs.Tree.DistanceTable
import SourceSimilarity.Proofs.Tree.EditDistance
import SourceSimilarity.Proofs.Tree.Growth
import SourceSimilarity.Proofs.Tree.InPlace
import SourceSimilarity.Proofs.Tree.Isomorphism
import SourceSimilarity.Proofs.Tree.Layout
import SourceSimilarity.Proofs.Tree.Metric
import SourceSimilarity.Proofs.Tree.Numbering
import SourceSimilarity.Proofs.Tree.Places
import SourceSimilarity.Proofs.Tree.PostOrder
import SourceSimilarity.Proofs.Tree.Rows
import SourceSimilarity.Proofs.Tree.SameTree
import SourceSimilarity.Proofs.Tree.ShapeName
import SourceSimilarity.Proofs.Tree.View
import SourceSimilarity.Proofs.Tree.Walk
import SourceSimilarity.Proofs.Tree.Window
import SourceSimilarity.Proofs.Tree.WriteOnce
import SourceSimilarity.Release
import SourceSimilarity.Report
import SourceSimilarity.SavedScan
import SourceSimilarity.Scan.Artefact
import SourceSimilarity.Scan.Cache
import SourceSimilarity.Scan.Log
import SourceSimilarity.Scan.Pool
import SourceSimilarity.Scan.Progress
import SourceSimilarity.Scan.Run
import SourceSimilarity.Scan.Task
import SourceSimilarity.Score.Ranking
import SourceSimilarity.Score.Stream
import SourceSimilarity.Score.Table
import SourceSimilarity.Snapshot
import SourceSimilarity.Source.Language
import SourceSimilarity.Source.Parsed
import SourceSimilarity.Source.Parser
import SourceSimilarity.Text.Blank
import SourceSimilarity.Text.CharName
import SourceSimilarity.Text.Digit
import SourceSimilarity.Text.Hex
import SourceSimilarity.Text.Identifier
import SourceSimilarity.Text.LetterCase
import SourceSimilarity.Text.Printable
import SourceSimilarity.Text.Quoted
import SourceSimilarity.Text.Range
import SourceSimilarity.Text.Point
import SourceSimilarity.Text.Utf16
import SourceSimilarity.Text.Utf8
import SourceSimilarity.Text.WholeNumber
import SourceSimilarity.Text.WordChar
import SourceSimilarity.Tree.Basic
import SourceSimilarity.Tree.EditDistance
import SourceSimilarity.Tree.PostOrder
import SourceSimilarity.Tree.Shape
import SourceSimilarity.Tree.Table
import SourceSimilarity.Proofs.Source.Outline
import SourceSimilarity.Proofs.Scan.Comparison
import SourceSimilarity.Proofs.Scan.Renaming
import SourceSimilarity.Proofs.Macro.Lexeme
import SourceSimilarity.Proofs.Macro.Expansion
import SourceSimilarity.Proofs.Macro.Splicing
import SourceSimilarity.Proofs.Macro.Lines
import SourceSimilarity.Proofs.Macro.Recording
import SourceSimilarity.Proofs.EditDistance.Matching
import SourceSimilarity.Proofs.Tree.Traversal
import SourceSimilarity.Proofs.Tree.Listing
import SourceSimilarity.Proofs.Fingerprint.Overlap
import SourceSimilarity.Proofs.Source.Kept
import SourceSimilarity.Proofs.Source.FirstError
import SourceSimilarity.Proofs.Score.Ranking
import SourceSimilarity.Proofs.Pairing
import SourceSimilarity.Proofs.Inputs.Numbering
import SourceSimilarity.Proofs.Text.Parts
import SourceSimilarity.Proofs.Path
import SourceSimilarity.Proofs.FileTree
import SourceSimilarity.Proofs.Discovery
import SourceSimilarity.Proofs.Result
