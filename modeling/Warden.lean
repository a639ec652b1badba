import Warden.Text.Blank
import Warden.Text.Quoted
import Warden.Text.Word
import Warden.Text.Folding
import Warden.Number.Binary64
import Warden.Number.Shortest
import Warden.Number.Unsigned
import Warden.Json.Basic
import Warden.Json.Reader
import Warden.Json.Writer
import Warden.Json.Decoding
import Warden.Category
import Warden.Navigation
import Warden.AppTable
import Warden.Duration
import Warden.Text.Items
import Warden.Persisted
import Warden.Surface
import Warden.Audit.Entry
import Warden.Bypass
import Warden.Sessions
import Warden.Tamper
import Warden.Keyword.Guard
import Warden.Keyword.Matcher
import Warden.Settings
import Warden.Engine.AppLock
import Warden.Engine.Content
import Warden.Engine.Lifecycle
import Warden.Audit.Log
import Warden.Timers
import Warden.Disk.Basic
import Warden.Disk.Tree
import Warden.StateFile
import Warden.Service
import Warden.Wire.Dispatch
import Warden.Audit.File
import Warden.InstanceLock
import Warden.Paths
import Warden.Toml.Basic
import Warden.Toml.Quoted
import Warden.Toml.Scalar
import Warden.Toml.Reader
import Warden.Config.Basic
import Warden.Config.Document
import Warden.Config.Key
import Warden.Config.Validity
import Warden.CommandLine.Grammar
import Warden.Config.File
import Warden.CommandLine.Invocation
import Warden.Program.Basic
import Warden.Program.Configuring
import Warden.Program.Log
import Warden.Program.Perform
import Warden.CommandLine.Help
import Warden.Main
import Warden.Proofs.Engine.Run
import Warden.Proofs.Engine.Unlocked
import Warden.Proofs.Expiry
import Warden.Proofs.Engine.Rules
import Warden.Proofs.Bypass
import Warden.Proofs.Tamper
import Warden.Proofs.Engine.Attempts
import Warden.Proofs.Keyword.Steps
import Warden.Proofs.Keyword.Traffic
import Warden.Proofs.Keyword.Life
import Warden.Proofs.Screen
import Warden.Proofs.Keyword.Display
import Warden.Proofs.Keyword.Drain
import Warden.Proofs.Engine.Display
import Warden.Proofs.Fallible
import Warden.Proofs.Text.Lines
import Warden.Proofs.Json.Literals
import Warden.Proofs.Json.RoundTrip
import Warden.Proofs.Json.Records
import Warden.Proofs.Persisted
import Warden.Proofs.Disk.Tree
import Warden.Proofs.Disk.Programs
import Warden.Proofs.StateFile
import Warden.Proofs.Restart
import Warden.Proofs.Audit.Entry
import Warden.Proofs.Audit.Growth
import Warden.Proofs.Audit.File
import Warden.Proofs.Audit.Chain
import Warden.Proofs.Engine.Expiry
import Warden.Proofs.Window
import Warden.Proofs.Engine.Prompts
import Warden.Proofs.Engine.Dismissal
import Warden.Proofs.WindowExpiry
import Warden.Proofs.Engine.WindowExpiry
import Warden.Proofs.Audit.Journal
import Warden.Proofs.Engine.Records
import Warden.Proofs.Engine.Closings
import Warden.Proofs.Engine.Rest
import Warden.Proofs.Engine.Traffic
import Warden.Proofs.Engine.Shares
import Warden.Proofs.Engine.Separation
import Warden.Proofs.Keyword.Book
import Warden.Proofs.Keyword.Solo
import Warden.Proofs.Wire.Exchange
import Warden.Proofs.Wire.Discipline
import Warden.Proofs.Wire.Sequential
import Warden.Proofs.Disk.Script
import Warden.Proofs.Disk.Place
import Warden.Proofs.Disk.Steps
import Warden.Proofs.Engine.Challenges
import Warden.Proofs.Program.Conduct
import Warden.Proofs.Program.Race
import Warden.Proofs.Program.Play
import Warden.Proofs.Keyword.Matcher
import Warden.Proofs.Json.Tagged
import Warden.Proofs.Navigation
import Warden.Proofs.Surface
import Warden.Proofs.Json.Stable
import Warden.Proofs.Wire.Framing
import Warden.Proofs.Engine.Values
import Warden.Proofs.Engine.Policies
import Warden.Proofs.Engine.Durations
import Warden.Proofs.Text.Blank
import Warden.Proofs.Text.Items
import Warden.Proofs.Number.Unsigned
import Warden.Proofs.Duration
import Warden.Proofs.Config.Validity
import Warden.Proofs.Config.Slots
import Warden.Proofs.Config.Edits
import Warden.Proofs.Paths
import Warden.Proofs.Engine.Strays
