import ChartDialogue.Chart.Context
import ChartDialogue.Chart.DataField
import ChartDialogue.Chart.Derivation
import ChartDialogue.Chart.Example
import ChartDialogue.Chart.Response
import ChartDialogue.Chart.Template
import ChartDialogue.Chart.TemplateReader
import ChartDialogue.Collection.Distinct
import ChartDialogue.Collection.StringMap
import ChartDialogue.CommandLine.Arguments
import ChartDialogue.CommandLine.Console
import ChartDialogue.CommandLine.Outcome
import ChartDialogue.CommandLine.PathTool
import ChartDialogue.Digest.Sha256
import ChartDialogue.Engine.Check
import ChartDialogue.Engine.Rule
import ChartDialogue.Engine.Synthesis
import ChartDialogue.Files.Access
import ChartDialogue.Files.Tree
import ChartDialogue.Fuzzy.Score
import ChartDialogue.Grammar.DeclaredType
import ChartDialogue.Grammar.EnumIndex
import ChartDialogue.Grammar.Fault
import ChartDialogue.Grammar.Grammar
import ChartDialogue.Grammar.Node
import ChartDialogue.Grammar.PathIndex
import ChartDialogue.Grammar.PathSearch
import ChartDialogue.Grammar.Preorder
import ChartDialogue.Grammar.Rank
import ChartDialogue.Grammar.SimplePath
import ChartDialogue.Grammar.Site
import ChartDialogue.Grammar.Walk
import ChartDialogue.Json.Basic
import ChartDialogue.Json.Decode
import ChartDialogue.Json.Edit
import ChartDialogue.Json.Error
import ChartDialogue.Json.Pointer
import ChartDialogue.Json.Printer
import ChartDialogue.Json.Reader
import ChartDialogue.Json.TypedReader
import ChartDialogue.Main
import ChartDialogue.Markup.Ini
import ChartDialogue.Markup.Json5.Document
import ChartDialogue.Markup.Json5.Missed
import ChartDialogue.Markup.Ron.Document
import ChartDialogue.Markup.Ron.Node
import ChartDialogue.Markup.Ron.Place
import ChartDialogue.Markup.Ron.Scalar
import ChartDialogue.Markup.Value
import ChartDialogue.Markup.Yaml.Document
import ChartDialogue.Markup.Yaml.Layout
import ChartDialogue.Markup.Yaml.Node
import ChartDialogue.Markup.Yaml.Place
import ChartDialogue.Markup.Yaml.Scalar
import ChartDialogue.Markup.Yaml.Tag
import ChartDialogue.Markup.Yaml.Token
import ChartDialogue.Number.Digits
import ChartDialogue.Number.Double
import ChartDialogue.Number.FloatValue
import ChartDialogue.Number.Shortest
import ChartDialogue.Number.Word
import ChartDialogue.Proofs.Chart.RestoredRecords
import ChartDialogue.Proofs.Engine.Alternatives
import ChartDialogue.Proofs.Engine.Cascade
import ChartDialogue.Proofs.Engine.CheckFaults
import ChartDialogue.Proofs.Engine.ListedPaths
import ChartDialogue.Proofs.Engine.Pools
import ChartDialogue.Proofs.Engine.Proposals
import ChartDialogue.Proofs.Engine.Verdict
import ChartDialogue.Proofs.Files.Writing
import ChartDialogue.Proofs.Grammar.DottedPaths
import ChartDialogue.Proofs.Grammar.Exclusion
import ChartDialogue.Proofs.Grammar.LiteralUses
import ChartDialogue.Proofs.Grammar.LoadedNodes
import ChartDialogue.Proofs.Grammar.NodePointers
import ChartDialogue.Proofs.Grammar.PathLookup
import ChartDialogue.Proofs.Grammar.PathRanking
import ChartDialogue.Proofs.Grammar.QueryMeaning
import ChartDialogue.Proofs.Grammar.References
import ChartDialogue.Proofs.Grammar.Traversal
import ChartDialogue.Proofs.Grammar.WalkBounds
import ChartDialogue.Proofs.Json.CompactText
import ChartDialogue.Proofs.Json.Decoding
import ChartDialogue.Proofs.Json.DigitText
import ChartDialogue.Proofs.Json.Editing
import ChartDialogue.Proofs.Json.NumberText
import ChartDialogue.Proofs.Json.PathWriting
import ChartDialogue.Proofs.Json.PointerText
import ChartDialogue.Proofs.Json.Scaling
import ChartDialogue.Proofs.Json.StringText
import ChartDialogue.Proofs.Json.WrittenRecords
import ChartDialogue.Proofs.Number.Rounding
import ChartDialogue.Proofs.Number.ShortestValue
import ChartDialogue.Proofs.Random.Draws
import ChartDialogue.Proofs.Resource.Loading
import ChartDialogue.Proofs.Session.CarriedContext
import ChartDialogue.Proofs.Session.CommandLog
import ChartDialogue.Proofs.Session.EchoedContext
import ChartDialogue.Proofs.Session.HistoryIndependence
import ChartDialogue.Proofs.Session.LoggedExamples
import ChartDialogue.Proofs.Session.ParserAndLearner
import ChartDialogue.Proofs.Session.QueryLog
import ChartDialogue.Proofs.Session.RestoredExamples
import ChartDialogue.Proofs.Session.Runs
import ChartDialogue.Proofs.Session.Selection
import ChartDialogue.Proofs.Session.SessionHistory
import ChartDialogue.Proofs.Session.SessionTable
import ChartDialogue.Proofs.Session.Suggestions
import ChartDialogue.Proofs.Session.Turns
import ChartDialogue.Proofs.Suggest.Changes
import ChartDialogue.Proofs.Suggest.FirstCharts
import ChartDialogue.Proofs.Suggest.SkippedEdits
import ChartDialogue.Random.Draw
import ChartDialogue.Random.WordSource
import ChartDialogue.Resource.Bundle
import ChartDialogue.Resource.Store
import ChartDialogue.Session.Parser
import ChartDialogue.Session.Payload
import ChartDialogue.Session.QueryLog
import ChartDialogue.Session.Router
import ChartDialogue.Session.Service
import ChartDialogue.Session.Session
import ChartDialogue.Settings.Basic
import ChartDialogue.Settings.Convert
import ChartDialogue.Settings.File
import ChartDialogue.Settings.Layer
import ChartDialogue.Settings.Source
import ChartDialogue.Suggest.Initial
import ChartDialogue.Suggest.Modification
import ChartDialogue.Text.Blank
import ChartDialogue.Text.Casing
import ChartDialogue.Text.Code
import ChartDialogue.Text.Invisible
import ChartDialogue.Text.Lowercase
import ChartDialogue.Text.Name
import ChartDialogue.Text.Quoted
import ChartDialogue.Toml.Moment
import ChartDialogue.Toml.Reader
import ChartDialogue.Toml.Scalar
import ChartDialogue.Toml.Table
import ChartDialogue.Toml.Text
import ChartDialogue.Toml.Value
import ChartDialogue.Toml.Writer
import ChartDialogue.Value.Tag
import ChartDialogue.Value.TypedValue
import ChartDialogue.Proofs.Engine.UniformDraws
import ChartDialogue.Proofs.Grammar.IndexTables
import ChartDialogue.Proofs.Toml.StringText
import ChartDialogue.Proofs.Toml.ValueText
import ChartDialogue.Proofs.Toml.DocumentText
import ChartDialogue.Proofs.Settings.Layers
import ChartDialogue.Proofs.Settings.SavedText
import ChartDialogue.Proofs.Settings.FilledPaths
import ChartDialogue.Proofs.Files.AbsoluteNames
import ChartDialogue.Proofs.Settings.SettingsFiles
import ChartDialogue.Proofs.Settings.SavedSettings
