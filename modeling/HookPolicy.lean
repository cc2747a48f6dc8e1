import HookPolicy.Check.Basic
import HookPolicy.Child.Program
import HookPolicy.Child.Run
import HookPolicy.Cli.Arguments
import HookPolicy.Cli.Command
import HookPolicy.Cli.Reach
import HookPolicy.Cli.Session
import HookPolicy.Condition.Call
import HookPolicy.Condition.Eval
import HookPolicy.Condition.Manifest
import HookPolicy.Context.Basic
import HookPolicy.Context.Gather
import HookPolicy.Context.Normal
import HookPolicy.Dispatch.Basic
import HookPolicy.Dispatch.Build
import HookPolicy.Dispatch.Interpret
import HookPolicy.Dispatch.Plan
import HookPolicy.Dispatch.Run
import HookPolicy.Files.Path
import HookPolicy.Files.Tree
import HookPolicy.Handlers.SecretsGuard
import HookPolicy.Host.Client
import HookPolicy.Host.Reply
import HookPolicy.Json.Basic
import HookPolicy.Json.Reader
import HookPolicy.Json.Writer
import HookPolicy.Log.Entry
import HookPolicy.Log.Message
import HookPolicy.Log.Place
import HookPolicy.Log.Setup
import HookPolicy.Main
import HookPolicy.Number.Binary64
import HookPolicy.Number.Decimal
import HookPolicy.Number.Fixed
import HookPolicy.Number.IntText
import HookPolicy.Pattern.CharNames
import HookPolicy.Pattern.Charset
import HookPolicy.Pattern.Node
import HookPolicy.Pattern.Parse
import HookPolicy.Pattern.Search
import HookPolicy.Policy.Basic
import HookPolicy.Policy.Check
import HookPolicy.Policy.Dump
import HookPolicy.Policy.Lint
import HookPolicy.Policy.Load
import HookPolicy.Proofs.Check.Laws
import HookPolicy.Proofs.Child.Environment
import HookPolicy.Proofs.Condition.Agreement
import HookPolicy.Proofs.Condition.Faults
import HookPolicy.Proofs.Context.Arguments
import HookPolicy.Proofs.Context.Checking
import HookPolicy.Proofs.Context.Coercion
import HookPolicy.Proofs.Context.Encoding
import HookPolicy.Proofs.Context.Export
import HookPolicy.Proofs.Context.HostPayload
import HookPolicy.Proofs.Context.Input
import HookPolicy.Proofs.Context.Priority
import HookPolicy.Proofs.Context.Sources
import HookPolicy.Proofs.Context.Wire
import HookPolicy.Proofs.Dispatch.Aggregate
import HookPolicy.Proofs.Dispatch.Basic
import HookPolicy.Proofs.Dispatch.Fallback
import HookPolicy.Proofs.Dispatch.Handlers
import HookPolicy.Proofs.Dispatch.Parallel
import HookPolicy.Proofs.Dispatch.Programs
import HookPolicy.Proofs.Dispatch.Refusals
import HookPolicy.Proofs.Dispatch.Shapes
import HookPolicy.Proofs.Dispatch.Silence
import HookPolicy.Proofs.Dispatch.Starts
import HookPolicy.Proofs.Dispatch.Surroundings
import HookPolicy.Proofs.Dispatch.Turns
import HookPolicy.Proofs.Files.Walking
import HookPolicy.Proofs.Host.Decision
import HookPolicy.Proofs.Json.Fields
import HookPolicy.Proofs.Json.Inside
import HookPolicy.Proofs.Json.Numbers
import HookPolicy.Proofs.Json.Reading
import HookPolicy.Proofs.Json.Spelling
import HookPolicy.Proofs.Json.Texts
import HookPolicy.Proofs.Lists.Lookup
import HookPolicy.Proofs.Number.Digits
import HookPolicy.Proofs.Number.Rounding
import HookPolicy.Proofs.Number.Shortest
import HookPolicy.Proofs.Policy.Dumping
import HookPolicy.Proofs.Policy.Linting
import HookPolicy.Proofs.Rule.Acceptance
import HookPolicy.Proofs.Rule.Connectives
import HookPolicy.Proofs.Rule.Failure
import HookPolicy.Proofs.Rule.Grammar
import HookPolicy.Proofs.Rule.Printing
import HookPolicy.Proofs.Rule.Scanning
import HookPolicy.Proofs.Rule.Seams
import HookPolicy.Proofs.Shell.Arguments
import HookPolicy.Proofs.Shell.Cutting
import HookPolicy.Proofs.Shell.Outline
import HookPolicy.Proofs.Shell.Quoting
import HookPolicy.Proofs.Shell.Refusal
import HookPolicy.Proofs.Shell.Substitution
import HookPolicy.Proofs.Time.Calendar
import HookPolicy.Proofs.Time.Written
import HookPolicy.Rule.Eval
import HookPolicy.Rule.Expr
import HookPolicy.Rule.Lexer
import HookPolicy.Rule.Parse
import HookPolicy.Rule.Token
import HookPolicy.Shell.Format
import HookPolicy.Shell.Machine
import HookPolicy.Shell.Programs
import HookPolicy.Shell.Quote
import HookPolicy.Shell.Run
import HookPolicy.Shell.Safety
import HookPolicy.Shell.Script
import HookPolicy.Shell.Shape
import HookPolicy.Shell.Template
import HookPolicy.Shell.Words
import HookPolicy.Text.Case
import HookPolicy.Text.CaseRuns
import HookPolicy.Text.Class
import HookPolicy.Text.DigitStarts
import HookPolicy.Text.HiddenSpans
import HookPolicy.Text.Lines
import HookPolicy.Text.Pieces
import HookPolicy.Text.Quoted
import HookPolicy.Text.SigmaSpans
import HookPolicy.Text.Spans
import HookPolicy.Text.Utf8
import HookPolicy.Text.WordSpans
import HookPolicy.Time.Clock
import HookPolicy.Time.Timestamp
import HookPolicy.Toml.Basic
import HookPolicy.Toml.Reader
import HookPolicy.Toml.Token
import HookPolicy.World
import HookPolicy.Proofs.Dispatch.Declarations
import HookPolicy.Proofs.Shell.Shapes
import HookPolicy.Proofs.Shell.Placement
import HookPolicy.Proofs.Rule.Patterns
import HookPolicy.Proofs.Rule.Wording
import HookPolicy.Proofs.Rule.Completion
import HookPolicy.Proofs.Text.Casing
import HookPolicy.Proofs.Context.Normalizing
import HookPolicy.Proofs.Context.Attribution
import HookPolicy.Proofs.Context.Idempotence
import HookPolicy.Proofs.Condition.Declaring
import HookPolicy.Proofs.Policy.Labelling
import HookPolicy.Proofs.Context.Location
import HookPolicy.Proofs.Log.Configuring
import HookPolicy.Proofs.Rule.Membership
import HookPolicy.Proofs.Log.Placing
import HookPolicy.Proofs.Rule.Gaps
