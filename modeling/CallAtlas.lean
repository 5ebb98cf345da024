import CallAtlas.CommandLine.Arguments
import CallAtlas.CommandLine.Command
import CallAtlas.CommandLine.Help
import CallAtlas.CommandLine.Run
import CallAtlas.CommandLine.Usage
import CallAtlas.Config.Config
import CallAtlas.Config.Load
import CallAtlas.Decimal.Reading
import CallAtlas.Decimal.Shortest
import CallAtlas.Export.Dot
import CallAtlas.Export.Drawing
import CallAtlas.Export.Identifier
import CallAtlas.Export.Mermaid
import CallAtlas.Export.Selection
import CallAtlas.Extract.Call
import CallAtlas.Extract.Dataset
import CallAtlas.Extract.Definition
import CallAtlas.Extract.Duplicates
import CallAtlas.Extract.Error
import CallAtlas.Extract.Event
import CallAtlas.Extract.Extraction
import CallAtlas.Extract.Language
import CallAtlas.Extract.Reader
import CallAtlas.Files.Path
import CallAtlas.Files.Tree
import CallAtlas.Grammar.Derivation
import CallAtlas.Grammar.Reading
import CallAtlas.Grammar.Rule
import CallAtlas.Grammar.Stack
import CallAtlas.Grammar.State
import CallAtlas.Grammar.Table
import CallAtlas.Graph.CallGraph
import CallAtlas.Graph.Component
import CallAtlas.Graph.Layout
import CallAtlas.Graph.NodeSet
import CallAtlas.Graph.Rank
import CallAtlas.Graph.Recursion
import CallAtlas.Graph.Stats
import CallAtlas.Graph.Store
import CallAtlas.Ignore.Glob
import CallAtlas.Ignore.Rule
import CallAtlas.Ignore.Rules
import CallAtlas.Json.Printer
import CallAtlas.Json.Reader
import CallAtlas.Json.Record
import CallAtlas.Json.Value
import CallAtlas.Log.Filter
import CallAtlas.Log.Line
import CallAtlas.Main
import CallAtlas.Present.Presentation
import CallAtlas.Present.Validation
import CallAtlas.Project.Exclude
import CallAtlas.Project.Index
import CallAtlas.Project.Walk
import CallAtlas.Proofs.Addresses
import CallAtlas.Proofs.Alignment
import CallAtlas.Proofs.Building
import CallAtlas.Proofs.CallAttribution
import CallAtlas.Proofs.CallerQueries
import CallAtlas.Proofs.Components
import CallAtlas.Proofs.DanglingCalls
import CallAtlas.Proofs.DatasetReport
import CallAtlas.Proofs.DefinitionOrder
import CallAtlas.Proofs.DepthFirst
import CallAtlas.Proofs.DocumentOrder
import CallAtlas.Proofs.DotText
import CallAtlas.Proofs.Duplicates
import CallAtlas.Proofs.EdgeSlots
import CallAtlas.Proofs.EventTrace
import CallAtlas.Proofs.ExtractedDataset
import CallAtlas.Proofs.FittingTree
import CallAtlas.Proofs.ForeignTrees
import CallAtlas.Proofs.Geometry
import CallAtlas.Proofs.GraphFaults
import CallAtlas.Proofs.Identifiers
import CallAtlas.Proofs.JsonText
import CallAtlas.Proofs.LastToken
import CallAtlas.Proofs.LogicalLines
import CallAtlas.Proofs.MermaidText
import CallAtlas.Proofs.Neighbourhood
import CallAtlas.Proofs.NestedCalls
import CallAtlas.Proofs.Nesting
import CallAtlas.Proofs.ParsedPlaces
import CallAtlas.Proofs.PolicyComparison
import CallAtlas.Proofs.Presentation
import CallAtlas.Proofs.ProjectWalk
import CallAtlas.Proofs.RankTable
import CallAtlas.Proofs.Ranks
import CallAtlas.Proofs.RecursiveGroups
import CallAtlas.Proofs.Replacements
import CallAtlas.Proofs.Rows
import CallAtlas.Proofs.Settings
import CallAtlas.Proofs.Sketches
import CallAtlas.Proofs.Slices
import CallAtlas.Proofs.Slots
import CallAtlas.Proofs.Statistics
import CallAtlas.Proofs.SyntaxFaults
import CallAtlas.Proofs.TokenPlaces
import CallAtlas.Proofs.Validation
import CallAtlas.Regex.Pattern
import CallAtlas.Regex.Property
import CallAtlas.Regex.Reader
import CallAtlas.Regex.Search
import CallAtlas.Regex.Syntax
import CallAtlas.Report.Render
import CallAtlas.Syntax.Fault
import CallAtlas.Syntax.Grammar
import CallAtlas.Syntax.Kind
import CallAtlas.Syntax.Offside
import CallAtlas.Syntax.Parse
import CallAtlas.Syntax.Token
import CallAtlas.Syntax.Tree
import CallAtlas.Syntax.Walk
import CallAtlas.Text.Alphanumeric
import CallAtlas.Text.CaseFold
import CallAtlas.Text.CharProperty
import CallAtlas.Text.CharSet
import CallAtlas.Text.CodeRange
import CallAtlas.Text.Column
import CallAtlas.Text.GeneralCategory
import CallAtlas.Text.Identifier
import CallAtlas.Text.Place
import CallAtlas.Text.Replace
import CallAtlas.Text.Script
import CallAtlas.Text.Span
import CallAtlas.Text.Utf8
import CallAtlas.Text.WhiteSpace
import CallAtlas.Toml.Document
import CallAtlas.Toml.Moment
import CallAtlas.Toml.Reader
import CallAtlas.Toml.Value
