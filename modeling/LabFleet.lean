import LabFleet.Decimal.Shortest
import LabFleet.Decimal.Nearest
import LabFleet.Decimal.Text
import LabFleet.Number
import LabFleet.Json.Basic
import LabFleet.Json.Read
import LabFleet.Config.Kind
import LabFleet.Error
import LabFleet.Wire.Reply
import LabFleet.Control.Message
import LabFleet.Decode.Escaped
import LabFleet.Decode.Message
import LabFleet.NameMap
import LabFleet.Yaml.Mark
import LabFleet.Yaml.Token
import LabFleet.Yaml.Scan
import LabFleet.Yaml.Event
import LabFleet.Yaml.Scalar
import LabFleet.Yaml.Node
import LabFleet.Yaml.Load
import LabFleet.Yaml.Emit
import LabFleet.Service.Catalog
import LabFleet.Config.Profile
import LabFleet.Config.Basic
import LabFleet.Config.Decode
import LabFleet.Config.Load
import LabFleet.Config.Render
import LabFleet.Archive.Read
import LabFleet.Archive.Shape
import LabFleet.Archive.Write
import LabFleet.Bytes
import LabFleet.Console.Answer
import LabFleet.Console.Basic
import LabFleet.Console.Config
import LabFleet.Console.Control
import LabFleet.Console.Daemon
import LabFleet.Console.Supervisor
import LabFleet.Console.Transport
import LabFleet.Console.Wire
import LabFleet.Control.Frame
import LabFleet.Daemon.Host
import LabFleet.Daemon.Locks
import LabFleet.Daemon.Registration
import LabFleet.Json.Decode
import LabFleet.Main
import LabFleet.Nameserver.Directory
import LabFleet.Service.Args
import LabFleet.Service.Sample
import LabFleet.Supervisor.CrashPolicy
import LabFleet.Supervisor.Host
import LabFleet.Supervisor.Lockfile
import LabFleet.Supervisor.LogBuffer
import LabFleet.Supervisor.LogFiles
import LabFleet.Supervisor.Registry
import LabFleet.Supervisor.Server
import LabFleet.Supervisor.Settings
import LabFleet.Timestamp
import LabFleet.Toml.Error
import LabFleet.Toml.Token
import LabFleet.Toml.Syntax
import LabFleet.Toml.Datetime
import LabFleet.Toml.Scalar
import LabFleet.Toml.Document
import LabFleet.Toml.Value
import LabFleet.Utf8
import LabFleet.Wire.Address
import LabFleet.Wire.Call
import LabFleet.Wire.Frame
import LabFleet.Wire.Server
import LabFleet.Wire.Text
import LabFleet.Console.Processes
import LabFleet.Console.Logs
import LabFleet.Console.Settings
import LabFleet.Console.Lockfile
import LabFleet.Proofs.NameMap
import LabFleet.Proofs.Daemon.Exclusion
import LabFleet.Proofs.Triple
import LabFleet.Proofs.Supervisor.Records
import LabFleet.Proofs.Supervisor.Ownership
import LabFleet.Proofs.Supervisor.Operations
import LabFleet.Proofs.Supervisor.Reload
import LabFleet.Proofs.Supervisor.Runs
import LabFleet.Proofs.Checks
import LabFleet.Proofs.Config.Valid
import LabFleet.Proofs.Yaml.Canonical
import LabFleet.Proofs.Config.Params
import LabFleet.Proofs.Config.Fields
import LabFleet.Proofs.Config.Sections
import LabFleet.Proofs.Config.RoundTrip
import LabFleet.Proofs.Wire.Connections
import LabFleet.Proofs.Daemon.Panics
import LabFleet.Proofs.Json.Written
import LabFleet.Proofs.Config.Fingerprint
import LabFleet.Proofs.Supervisor.Reconcile
import LabFleet.Proofs.Supervisor.LockRace
import LabFleet.Proofs.Supervisor.Effects
import LabFleet.Proofs.Supervisor.CrashWindow
import LabFleet.Proofs.Supervisor.CrashLoop
import LabFleet.Proofs.Supervisor.Incarnations
import LabFleet.Proofs.Supervisor.StartRace
import LabFleet.Proofs.Wire.AddressText
import LabFleet.Proofs.Config.RenameBack
import LabFleet.Proofs.Daemon.Identity
import LabFleet.Proofs.Daemon.LockMap
import LabFleet.Proofs.Nameserver.Refinement
import LabFleet.Proofs.Wire.Frames
import LabFleet.Proofs.Control.Frames
import LabFleet.Wire.Proxy
import LabFleet.Proofs.Wire.Proxy
import LabFleet.Proofs.Config.UnknownKeys
import LabFleet.Proofs.Config.SectionForms
import LabFleet.Proofs.Supervisor.LogExport
import LabFleet.Proofs.Supervisor.StartStop
import LabFleet.Proofs.Supervisor.LoopFlags
import LabFleet.Proofs.Supervisor.Journal
import LabFleet.Proofs.Supervisor.LogTail
import LabFleet.Proofs.Service.Arithmetic
import LabFleet.Proofs.Json.ReadBack
import LabFleet.Proofs.Wire.ErrorRelay
import LabFleet.Proofs.Service.ItemSort
