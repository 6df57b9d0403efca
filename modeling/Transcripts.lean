import Transcripts.Channel
import Transcripts.Channel.Child
import Transcripts.Channel.Script
import Transcripts.Child
import Transcripts.Command
import Transcripts.Command.Arguments
import Transcripts.Config
import Transcripts.Datum
import Transcripts.Environment
import Transcripts.Files
import Transcripts.Format
import Transcripts.Json
import Transcripts.Json.Printer
import Transcripts.Json.Reader
import Transcripts.Logging
import Transcripts.Machine
import Transcripts.Machine.Run
import Transcripts.Machine.Step
import Transcripts.Main
import Transcripts.Mode
import Transcripts.Number.Double
import Transcripts.Number.Shortest
import Transcripts.Pattern.Ast
import Transcripts.Pattern.Meaning
import Transcripts.Pattern.Node
import Transcripts.Pattern.Program
import Transcripts.Pattern.Reader
import Transcripts.Pattern.Regex
import Transcripts.Pattern.Search
import Transcripts.Pattern.Size
import Transcripts.Process
import Transcripts.Profile
import Transcripts.Profile.Builtin
import Transcripts.Profile.Check
import Transcripts.Profile.Settings
import Transcripts.Programs
import Transcripts.Prompt
import Transcripts.Proofs.Json.Pretty
import Transcripts.Proofs.Json.Strings
import Transcripts.Proofs.Logging.Overrides
import Transcripts.Proofs.Number.Rounding
import Transcripts.Proofs.Number.Written
import Transcripts.Proofs.Pattern.Bracketed
import Transcripts.Proofs.Pattern.Built
import Transcripts.Proofs.Pattern.Compiled
import Transcripts.Proofs.Pattern.Cost
import Transcripts.Proofs.Pattern.Escaped
import Transcripts.Proofs.Pattern.Explored
import Transcripts.Proofs.Pattern.Grouped
import Transcripts.Proofs.Pattern.Opening
import Transcripts.Proofs.Pattern.Output
import Transcripts.Proofs.Pattern.Progress
import Transcripts.Proofs.Pattern.Reading
import Transcripts.Proofs.Pattern.Span
import Transcripts.Proofs.Pattern.Trailing
import Transcripts.Proofs.Pattern.Wrapped
import Transcripts.Proofs.Profile.Added
import Transcripts.Proofs.Profile.Grouping
import Transcripts.Proofs.Profile.Lookup
import Transcripts.Proofs.Profile.Usable
import Transcripts.Proofs.Prompt.Bare
import Transcripts.Proofs.Prompt.Exact
import Transcripts.Proofs.Prompt.Find
import Transcripts.Proofs.Prompt.LineEnding
import Transcripts.Proofs.Prompt.Nonempty
import Transcripts.Proofs.Prompt.Prepared
import Transcripts.Proofs.Run.Calls
import Transcripts.Proofs.Run.Carry
import Transcripts.Proofs.Run.Chunks
import Transcripts.Proofs.Run.Echo
import Transcripts.Proofs.Run.Emission
import Transcripts.Proofs.Run.Found
import Transcripts.Proofs.Run.Modes
import Transcripts.Proofs.Run.Recorded
import Transcripts.Proofs.Run.SaveVars
import Transcripts.Proofs.Run.Segments
import Transcripts.Proofs.Run.Simulation
import Transcripts.Proofs.Run.Stops
import Transcripts.Proofs.Run.Verdict
import Transcripts.Proofs.Sections.Distinct
import Transcripts.Proofs.Sections.File
import Transcripts.Proofs.Sections.History
import Transcripts.Proofs.Sections.Written
import Transcripts.Proofs.Stream.Account
import Transcripts.Proofs.Stream.Characters
import Transcripts.Proofs.Stream.Clock
import Transcripts.Proofs.Stream.Deadline
import Transcripts.Proofs.Stream.Queued
import Transcripts.Proofs.Stream.Resumed
import Transcripts.Proofs.Stream.Short
import Transcripts.Proofs.Text.Lines
import Transcripts.Proofs.Text.Newlines
import Transcripts.Proofs.Text.Occurrences
import Transcripts.Proofs.Text.Parted
import Transcripts.Proofs.Text.Split
import Transcripts.Proofs.Text.Utf8
import Transcripts.Proofs.Trim.Recognized
import Transcripts.Proofs.Trim.Rejoined
import Transcripts.Proofs.Trim.Stripped
import Transcripts.Run
import Transcripts.Sections
import Transcripts.Session
import Transcripts.Shell.Act
import Transcripts.Shell.Arithmetic
import Transcripts.Shell.Builtin
import Transcripts.Shell.Builtin.Basic
import Transcripts.Shell.Builtin.Control
import Transcripts.Shell.Builtin.Variables
import Transcripts.Shell.Condition
import Transcripts.Shell.Exec
import Transcripts.Shell.Expand
import Transcripts.Shell.Fields
import Transcripts.Shell.Glob
import Transcripts.Shell.Jobs
import Transcripts.Shell.Listing
import Transcripts.Shell.Printing
import Transcripts.Shell.Reader
import Transcripts.Shell.Redirection
import Transcripts.Shell.Search
import Transcripts.Shell.Services
import Transcripts.Shell.Source
import Transcripts.Shell.Start
import Transcripts.Shell.State
import Transcripts.Shell.Syntax
import Transcripts.Signal
import Transcripts.Str
import Transcripts.Stream
import Transcripts.Terminal
import Transcripts.Terminal.Report
import Transcripts.Terminal.Settings
import Transcripts.Text.Lines
import Transcripts.Text.Quoted
import Transcripts.Text.Utf8
import Transcripts.Timeout
import Transcripts.Toml
import Transcripts.Toml.Scalar
import Transcripts.Toml.Tree
import Transcripts.Tool
import Transcripts.Tool.Columns
import Transcripts.Tool.Concat
import Transcripts.Tool.Count
import Transcripts.Tool.Dump
import Transcripts.Tool.Ends
import Transcripts.Tool.Expression
import Transcripts.Tool.Facts
import Transcripts.Tool.Fill
import Transcripts.Tool.Launch
import Transcripts.Tool.Listing
import Transcripts.Tool.Manage
import Transcripts.Tool.Merge
import Transcripts.Tool.Names
import Transcripts.Tool.Numbers
import Transcripts.Tool.Options
import Transcripts.Tool.Order
import Transcripts.Tool.Print
import Transcripts.Tool.Search
import Transcripts.Tool.Sort
import Transcripts.Tool.Translate
import Transcripts.Tool.Truth
import Transcripts.Transcribe
import Transcripts.Unicode.Age
import Transcripts.Unicode.Boundary
import Transcripts.Unicode.CaseFold
import Transcripts.Unicode.Category
import Transcripts.Unicode.Property
import Transcripts.Unicode.Ranges
import Transcripts.Unicode.Script
import Transcripts.Unicode.Word
import Transcripts.Whole
