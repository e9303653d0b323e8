import SingleFile.Breach
import SingleFile.CommandLine
import SingleFile.CommandLine.Arguments
import SingleFile.Component
import SingleFile.Directive
import SingleFile.Failure
import SingleFile.File
import SingleFile.Grammar
import SingleFile.Grammar.ByteOffsets
import SingleFile.Grammar.Recorded
import SingleFile.Location
import SingleFile.Log
import SingleFile.Log.Event
import SingleFile.Main
import SingleFile.Markup
import SingleFile.Markup.Tree
import SingleFile.Path
import SingleFile.Proofs.Component.Calls
import SingleFile.Proofs.Component.Containers
import SingleFile.Proofs.Component.Tokens
import SingleFile.Proofs.Directive.Parts
import SingleFile.Proofs.Directive.Shorthands
import SingleFile.Proofs.Emission
import SingleFile.Proofs.Expression.Anchoring
import SingleFile.Proofs.Expression.Claims
import SingleFile.Proofs.Expression.Commit
import SingleFile.Proofs.Expression.InPlace
import SingleFile.Proofs.Expression.Rejection
import SingleFile.Proofs.Expression.Surrogate
import SingleFile.Proofs.Grammar.Boundaries
import SingleFile.Proofs.Grammar.Bytes
import SingleFile.Proofs.Grammar.Spans
import SingleFile.Proofs.Grammar.Trees
import SingleFile.Proofs.Ledger
import SingleFile.Proofs.Location.Agreement
import SingleFile.Proofs.Location.Lines
import SingleFile.Proofs.Location.Marks
import SingleFile.Proofs.Markup.Contents
import SingleFile.Proofs.Markup.Frames
import SingleFile.Proofs.Markup.Nested
import SingleFile.Proofs.Markup.Tiles
import SingleFile.Proofs.Markup.WellFormed
import SingleFile.Proofs.Reference.Decoding
import SingleFile.Proofs.Reference.Longest
import SingleFile.Proofs.Reference.OffsetMap
import SingleFile.Proofs.Reference.Slices
import SingleFile.Proofs.Render.Traversals
import SingleFile.Proofs.Script.Conversion
import SingleFile.Proofs.Script.Errors
import SingleFile.Proofs.Script.InPlace
import SingleFile.Proofs.Script.Padding
import SingleFile.Proofs.Script.Tokens
import SingleFile.Proofs.Settings.Delimiters
import SingleFile.Proofs.Settings.Layers
import SingleFile.Proofs.Settings.Paths
import SingleFile.Proofs.Span
import SingleFile.Proofs.Template.Answers
import SingleFile.Proofs.Template.Assignments
import SingleFile.Proofs.Template.Attributes
import SingleFile.Proofs.Template.Boundaries
import SingleFile.Proofs.Template.Caught
import SingleFile.Proofs.Template.Concatenation
import SingleFile.Proofs.Template.Counts
import SingleFile.Proofs.Template.Coverage
import SingleFile.Proofs.Template.Edges
import SingleFile.Proofs.Template.Ensures
import SingleFile.Proofs.Template.Entries
import SingleFile.Proofs.Template.Expressions
import SingleFile.Proofs.Template.Inside
import SingleFile.Proofs.Template.Nesting
import SingleFile.Proofs.Template.Parents
import SingleFile.Proofs.Template.Piece
import SingleFile.Proofs.Template.Raw
import SingleFile.Proofs.Template.Refusals
import SingleFile.Proofs.Template.Rejected
import SingleFile.Proofs.Template.Replay
import SingleFile.Proofs.Template.Reuse
import SingleFile.Proofs.Template.Runs
import SingleFile.Proofs.Template.Scan
import SingleFile.Proofs.Template.Search
import SingleFile.Proofs.Template.Splits
import SingleFile.Proofs.Template.Tags
import SingleFile.Proofs.Template.Transcript
import SingleFile.Proofs.Template.Visitors
import SingleFile.Proofs.Token.Listing
import SingleFile.Proofs.Token.Lookup
import SingleFile.Proofs.Token.Walk
import SingleFile.Proofs.Toml.Keys
import SingleFile.Reference
import SingleFile.Reference.Decoded
import SingleFile.Reference.Names
import SingleFile.Render
import SingleFile.Script
import SingleFile.Script.Block
import SingleFile.Script.Tree
import SingleFile.Settings
import SingleFile.Settings.Defaults
import SingleFile.Settings.Fault
import SingleFile.Settings.Layers
import SingleFile.Settings.Load
import SingleFile.Settings.Read
import SingleFile.Template
import SingleFile.Template.Emission
import SingleFile.Template.Expression
import SingleFile.Template.Interpolation
import SingleFile.Template.Name
import SingleFile.Template.Node
import SingleFile.Text
import SingleFile.Text.Blank
import SingleFile.Text.Case
import SingleFile.Text.CaseTable
import SingleFile.Text.CodeRanges
import SingleFile.Text.Letter
import SingleFile.Text.Plain
import SingleFile.Text.Printable
import SingleFile.Text.Quoted
import SingleFile.Token
import SingleFile.Token.EdgeIndex
import SingleFile.Token.Store
import SingleFile.Toml
import SingleFile.Toml.Nest
import SingleFile.Toml.Scalar
import SingleFile.Value
import SingleFile.Value.Json
