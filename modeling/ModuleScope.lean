import ModuleScope.Analyzer.Basic
import ModuleScope.Analyzer.Session
import ModuleScope.Analyzer.World
import ModuleScope.Cache
import ModuleScope.Code.Basic
import ModuleScope.Code.Cursor
import ModuleScope.Code.Declaration
import ModuleScope.Code.Metadata
import ModuleScope.Code.Occurrence
import ModuleScope.Code.Receiver
import ModuleScope.CommandLine.Command
import ModuleScope.CommandLine.Run
import ModuleScope.Console
import ModuleScope.Document
import ModuleScope.Failure
import ModuleScope.FileSystem.Basic
import ModuleScope.FileSystem.Pattern
import ModuleScope.Log
import ModuleScope.Main
import ModuleScope.ModuleGraph
import ModuleScope.Notice
import ModuleScope.Path
import ModuleScope.Position
import ModuleScope.Report.Hover
import ModuleScope.Report.Layout
import ModuleScope.Search.Definition
import ModuleScope.Search.Graph
import ModuleScope.Search.Usages
import ModuleScope.Settings.Dotenv
import ModuleScope.Settings.Options
import ModuleScope.Symbol
import ModuleScope.Text.Basic
import ModuleScope.Text.CellWidth
import ModuleScope.Text.Integer
import ModuleScope.Text.LetterCase
import ModuleScope.Text.Literal
import ModuleScope.Text.Markup
import ModuleScope.Text.Printable
import ModuleScope.Text.Quoted
import ModuleScope.Text.Style
import ModuleScope.Text.Utf8
import ModuleScope.TypeScript.Grammar.Classes
import ModuleScope.TypeScript.Grammar.Expressions
import ModuleScope.TypeScript.Grammar.Markup
import ModuleScope.TypeScript.Grammar.Patterns
import ModuleScope.TypeScript.Grammar.Rule
import ModuleScope.TypeScript.Grammar.Statements
import ModuleScope.TypeScript.Grammar.Types
import ModuleScope.TypeScript.Kind
import ModuleScope.TypeScript.Parse
import ModuleScope.TypeScript.Reading
import ModuleScope.TypeScript.Token
import ModuleScope.TypeScript.Tree
import ModuleScope.Watcher
import ModuleScope.Work
import ModuleScope.Proofs.Lookup
import ModuleScope.Proofs.QueryKey
import ModuleScope.Proofs.CacheEntries
import ModuleScope.Proofs.Results
import ModuleScope.Proofs.SequentialRuns
import ModuleScope.Proofs.SessionCalls
import ModuleScope.Proofs.AnalyzerSteps
import ModuleScope.Proofs.CacheTransparency
import ModuleScope.Proofs.TaskSteps
import ModuleScope.Proofs.Runs
import ModuleScope.Proofs.Paths
import ModuleScope.Proofs.Patterns
import ModuleScope.Proofs.Sorting
import ModuleScope.Proofs.FileListing
import ModuleScope.Proofs.TreeWalk
import ModuleScope.Proofs.GraphBuilding
import ModuleScope.Proofs.UsageScope
import ModuleScope.Proofs.QueryCourses
import ModuleScope.Proofs.KeptAnswers
import ModuleScope.Proofs.RebuildFreshness
import ModuleScope.Proofs.ModuleVisibility
import ModuleScope.Proofs.BuildLifecycle
import ModuleScope.Proofs.Utf8
import ModuleScope.Proofs.Words
import ModuleScope.Proofs.WordPositions
import ModuleScope.Proofs.Positions
import ModuleScope.Proofs.SoundTrees
import ModuleScope.Proofs.IdentifierLookup
import ModuleScope.Proofs.Occurrences
import ModuleScope.Proofs.SourceOrder
import ModuleScope.Proofs.OccurrenceClasses
import ModuleScope.Proofs.BatchedSearch
import ModuleScope.Proofs.DefinitionSearch
import ModuleScope.Proofs.UsageClosure
import ModuleScope.Proofs.MemberQueries
import ModuleScope.Proofs.PlainUsages
import ModuleScope.Proofs.CacheRuns
import ModuleScope.Proofs.CacheInclusion
import ModuleScope.Proofs.LeastRecentlyUsed
import ModuleScope.Proofs.WatchedFiles
import ModuleScope.Proofs.Debounce
import ModuleScope.Proofs.FileInvalidation
import ModuleScope.Proofs.ModuleOfFile
import ModuleScope.Proofs.BindingNames
import ModuleScope.Proofs.CommentInsertion
import ModuleScope.Proofs.CommentIndependence
import ModuleScope.Proofs.OffsetOrder
import ModuleScope.Proofs.OffsetRoundTrip
import ModuleScope.Proofs.ErasedFiles
import ModuleScope.Proofs.DefinitionOrder
import ModuleScope.Proofs.DeclarationNames
import ModuleScope.Proofs.CursorWords
import ModuleScope.Proofs.CursorNodes
import ModuleScope.Proofs.UsagePreviews
import ModuleScope.Proofs.HoverWords
import ModuleScope.Proofs.MarkupPieces
import ModuleScope.Proofs.PlainIcons
import ModuleScope.Proofs.PlainText
import ModuleScope.Proofs.EscapedText
import ModuleScope.Proofs.HoverCards
import ModuleScope.Proofs.FileVariables
import ModuleScope.Proofs.Numerals
import ModuleScope.Proofs.OptionLoading
import ModuleScope.Proofs.WalkOrder
