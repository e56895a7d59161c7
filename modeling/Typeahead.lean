import Typeahead.Candidate
import Typeahead.Client.Address
import Typeahead.Client.Basic
import Typeahead.Client.Diagnostics
import Typeahead.Client.Exchange
import Typeahead.Client.Keepalive
import Typeahead.Client.Request
import Typeahead.Completer.Analyzed
import Typeahead.Completer.Available
import Typeahead.Completer.Basic
import Typeahead.Completer.Cache
import Typeahead.Completer.FileName
import Typeahead.Completer.General
import Typeahead.Completer.Identifier
import Typeahead.Completer.Omni
import Typeahead.Completer.Semantic
import Typeahead.Completer.Snippet
import Typeahead.Completer.Solution
import Typeahead.Component
import Typeahead.Conf.Store
import Typeahead.Cursor
import Typeahead.Decimal.Layout
import Typeahead.Decimal.Shortest
import Typeahead.Editor.Basic
import Typeahead.Editor.Jump
import Typeahead.Editor.Location
import Typeahead.Editor.Mark
import Typeahead.Editor.Message
import Typeahead.Editor.Quote
import Typeahead.Editor.Request
import Typeahead.Editor.Setting
import Typeahead.Event
import Typeahead.Fault
import Typeahead.Files
import Typeahead.Filetype
import Typeahead.Flags.Cache
import Typeahead.Flags.Own
import Typeahead.Flags.Prepare
import Typeahead.Flags.Project
import Typeahead.Frontend.Basic
import Typeahead.Frontend.Completion
import Typeahead.Frontend.Database
import Typeahead.Frontend.Diagnostic
import Typeahead.Frontend.Engine
import Typeahead.Frontend.Location
import Typeahead.Frontend.Store
import Typeahead.Future
import Typeahead.Highlight.Group
import Typeahead.Highlight.Keyword
import Typeahead.Identifier.Database
import Typeahead.Identifier.Scan
import Typeahead.Identifier.Tags
import Typeahead.Insertion
import Typeahead.Letter
import Typeahead.Machine
import Typeahead.Main
import Typeahead.Match
import Typeahead.Options
import Typeahead.Path
import Typeahead.Path.Glob
import Typeahead.Path.Solution
import Typeahead.Path.Typed
import Typeahead.Pool
import Typeahead.Proofs.Acts
import Typeahead.Proofs.ArrivalOrder
import Typeahead.Proofs.CacheUsers
import Typeahead.Proofs.CommonLength
import Typeahead.Proofs.ConfConsent
import Typeahead.Proofs.ConfRuns
import Typeahead.Proofs.EngineOutcomes
import Typeahead.Proofs.EngineRuns
import Typeahead.Proofs.IdentifierMap
import Typeahead.Proofs.KeptCompletions
import Typeahead.Proofs.LetterIndex
import Typeahead.Proofs.MatchOrder
import Typeahead.Proofs.Selection
import Typeahead.Proofs.SharedUnits
import Typeahead.Proofs.SmartCase
import Typeahead.Proofs.Sorting
import Typeahead.Proofs.TypingOn
import Typeahead.Proofs.UnitEntries
import Typeahead.Ranking
import Typeahead.Ranking.Items
import Typeahead.Response
import Typeahead.Retry
import Typeahead.Server.Arguments
import Typeahead.Server.Launch
import Typeahead.Server.Route
import Typeahead.Server.State
import Typeahead.Server.Watchdog
import Typeahead.Session.Basic
import Typeahead.Session.Client
import Typeahead.Session.Completers
import Typeahead.Session.Concurrency
import Typeahead.Session.Dispatch
import Typeahead.Session.Editor
import Typeahead.Session.Engines
import Typeahead.Session.Machine
import Typeahead.Session.Server
import Typeahead.Session.Stores
import Typeahead.Session.Surroundings
import Typeahead.Survey.Coverage
import Typeahead.Survey.Report
import Typeahead.Survey.Share
import Typeahead.Survey.Verdict
import Typeahead.Table
import Typeahead.Text.Alphanumeric
import Typeahead.Text.Basic
import Typeahead.Text.Column
import Typeahead.Text.Digit
import Typeahead.Text.Printable
import Typeahead.Text.Space
import Typeahead.Trigger
import Typeahead.Value
import Typeahead.Value.Access
import Typeahead.Value.Print
import Typeahead.Value.Read
import Typeahead.Workload.Basic
import Typeahead.Workload.Building
import Typeahead.Workload.Completing
import Typeahead.Workload.Housekeeping
import Typeahead.Workload.Serving
import Typeahead.Workload.Typing
import Typeahead.Workspace
import Typeahead.Proofs.ConfAnswers
import Typeahead.Proofs.PoolRuns
import Typeahead.Proofs.KeptFlags
import Typeahead.Proofs.Since
import Typeahead.Proofs.LastDiagnostics
import Typeahead.Proofs.SignTable
import Typeahead.Proofs.DiagnosticGroups
import Typeahead.Proofs.SignUpdates
import Typeahead.Proofs.SignsShown
import Typeahead.Proofs.CommonSubsequence
import Typeahead.Proofs.BestEmbedding
import Typeahead.Proofs.UnitMap
import Typeahead.Proofs.Overlap
import Typeahead.Proofs.FittedItems
import Typeahead.Proofs.IdentifierRuns
import Typeahead.Proofs.JoinedIdentifiers
import Typeahead.Proofs.TagLines
import Typeahead.Proofs.Overloads
import Typeahead.Proofs.PlainTexts
import Typeahead.Proofs.TriggerEnds
import Typeahead.Proofs.TextPieces
import Typeahead.Proofs.UserTriggers
import Typeahead.Proofs.CursorRuns
import Typeahead.Proofs.PrecedingIdentifier
import Typeahead.Proofs.PreparedFlags
import Typeahead.Proofs.NearestDiagnostic
import Typeahead.Proofs.GroupListing
import Typeahead.Proofs.GroupLinks
import Typeahead.Proofs.ListedKeywords
import Typeahead.Proofs.ErrorsFirst
import Typeahead.Proofs.CalmCalls
import Typeahead.Proofs.CrashNotices
import Typeahead.Proofs.EnclosingFolders
import Typeahead.Proofs.FileBuffers
import Typeahead.Proofs.NamingStyles
import Typeahead.Proofs.RelocatedFlags
import Typeahead.Proofs.LongCandidates
import Typeahead.Proofs.SolutionStarts
import Typeahead.Proofs.ListedNames
import Typeahead.Proofs.NearestSolutions
import Typeahead.Proofs.SignNumbers
import Typeahead.Proofs.HighlightColours
import Typeahead.Proofs.UnderscoreRuns
import Typeahead.Proofs.ModerateFloats
import Typeahead.Proofs.ShownLines
import Typeahead.Proofs.NamedPositions
import Typeahead.Proofs.RequestPlaces
import Typeahead.Proofs.FinishedIdentifiers
