import SqlAssist.Alias.Binding
import SqlAssist.Buffer
import SqlAssist.Cli.Parse
import SqlAssist.Cli.Run
import SqlAssist.Cli.Spec
import SqlAssist.Completion.Builder
import SqlAssist.Completion.Item
import SqlAssist.Completion.Keyword
import SqlAssist.Config.Lax
import SqlAssist.Config.Load
import SqlAssist.Config.Model
import SqlAssist.Config.Problem
import SqlAssist.Config.Validate
import SqlAssist.Cursor.Context
import SqlAssist.Decimal.Nearest
import SqlAssist.Decimal.Shortest
import SqlAssist.Decimal.Text
import SqlAssist.Json.Write
import SqlAssist.Log
import SqlAssist.Main
import SqlAssist.Postgres.Adapter
import SqlAssist.Postgres.Shared
import SqlAssist.Schema.Cache
import SqlAssist.Schema.Configured
import SqlAssist.Schema.Fetch
import SqlAssist.Schema.LoadError
import SqlAssist.Schema.Run
import SqlAssist.Schema.Snapshot
import SqlAssist.Schema.Source
import SqlAssist.Server
import SqlAssist.Service
import SqlAssist.Session
import SqlAssist.Statement.Bounds
import SqlAssist.Statement.Lexeme
import SqlAssist.Statement.Separator
import SqlAssist.Text.Alnum
import SqlAssist.Text.Blank
import SqlAssist.Text.Case
import SqlAssist.Text.CaseTable
import SqlAssist.Text.Digit
import SqlAssist.Text.Ranges
import SqlAssist.Text.Shown
import SqlAssist.Toml.Atom
import SqlAssist.Toml.Document
import SqlAssist.Toml.Lexical
import SqlAssist.Value
import SqlAssist.Value.Display
import SqlAssist.Word
import SqlAssist.Proofs.BuildSort
import SqlAssist.Proofs.Ranking
import SqlAssist.Proofs.Schema.Updates
import SqlAssist.Proofs.Schema.Sources
import SqlAssist.Proofs.Schema.Budget
import SqlAssist.Proofs.Schema.Fetched
import SqlAssist.Proofs.Schema.LoadRun
import SqlAssist.Proofs.Schema.LoadFrames
import SqlAssist.Proofs.Schema.LoadMoves
import SqlAssist.Proofs.Schema.LoadStepping
import SqlAssist.Proofs.Schema.LoadNotes
import SqlAssist.Proofs.Schema.LoadSteps
import SqlAssist.Proofs.Schema.LoneLoad
import SqlAssist.Proofs.Schema.Publication
import SqlAssist.Proofs.Sessions
import SqlAssist.Proofs.Aliases
import SqlAssist.Proofs.Statements
import SqlAssist.Proofs.Buffers
import SqlAssist.Proofs.TwoPass
import SqlAssist.Proofs.CursorWord
import SqlAssist.Proofs.Keywords
import SqlAssist.Proofs.Qualifier
import SqlAssist.Proofs.Schema.Coalescing
import SqlAssist.Proofs.Schema.Shielding
import SqlAssist.Proofs.Schema.Supersession
import SqlAssist.Proofs.Schema.Rounds
import SqlAssist.Proofs.Schema.Endings
import SqlAssist.Proofs.Schema.FirstFailure
import SqlAssist.Proofs.TableNames
import SqlAssist.Proofs.AliasOccurrences
import SqlAssist.Proofs.Indistinct
import SqlAssist.Proofs.CaseBlind
import SqlAssist.Proofs.Blanks
import SqlAssist.Proofs.FreshColumns
import SqlAssist.Proofs.Narrowing
import SqlAssist.Proofs.Schema.Spelling
import SqlAssist.Proofs.PoolLifecycle
