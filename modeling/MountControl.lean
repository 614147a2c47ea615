import MountControl.Client.Arguments
import MountControl.Client.Command
import MountControl.Client.Failure
import MountControl.Client.Session
import MountControl.Client.Table
import MountControl.Config.Decode
import MountControl.Config.Endpoint
import MountControl.Config.Environment
import MountControl.Config.Flags
import MountControl.Config.Load
import MountControl.Config.LogFormat
import MountControl.Config.Preparation
import MountControl.Config.Settings
import MountControl.Config.Toml.Document
import MountControl.Config.Toml.Scalar
import MountControl.Config.Value
import MountControl.Host.FileTree
import MountControl.Host.IoError
import MountControl.Host.Network
import MountControl.Host.Path
import MountControl.Host.Script.Command
import MountControl.Host.Script.Performance
import MountControl.Log.Event
import MountControl.Log.Filter
import MountControl.Log.Line
import MountControl.Main
import MountControl.Net.Ipv6
import MountControl.Net.Percent
import MountControl.Net.Url
import MountControl.Proofs.Client.Alignment
import MountControl.Proofs.Client.Arguments
import MountControl.Proofs.Client.Conversation
import MountControl.Proofs.Client.ExitStatus
import MountControl.Proofs.Client.Rows
import MountControl.Proofs.Client.Surroundings
import MountControl.Proofs.Client.Table
import MountControl.Proofs.Config.Endpoint
import MountControl.Proofs.Config.Preparation
import MountControl.Proofs.Host.FileTree
import MountControl.Proofs.Host.Growth
import MountControl.Proofs.Net.Ipv6
import MountControl.Proofs.Net.Path
import MountControl.Proofs.Net.Url
import MountControl.Proofs.Service.Accounting
import MountControl.Proofs.Service.Agreement
import MountControl.Proofs.Service.Allocation
import MountControl.Proofs.Service.Endings
import MountControl.Proofs.Service.Exchange
import MountControl.Proofs.Service.History
import MountControl.Proofs.Service.Lifecycle
import MountControl.Proofs.Service.Looking
import MountControl.Proofs.Service.Outcome
import MountControl.Proofs.Service.Ownership
import MountControl.Proofs.Service.Prehistory
import MountControl.Proofs.Service.Provenance
import MountControl.Proofs.Service.Reaping
import MountControl.Proofs.Service.Refusal
import MountControl.Proofs.Service.Registration
import MountControl.Proofs.Service.Registry
import MountControl.Proofs.Service.ReplySize
import MountControl.Proofs.Service.Reports
import MountControl.Proofs.Service.Run
import MountControl.Proofs.Service.Serving
import MountControl.Proofs.Service.Shutdown
import MountControl.Proofs.Service.SocketContest
import MountControl.Proofs.Service.Soundness
import MountControl.Proofs.Service.Stopping
import MountControl.Proofs.Text.Ascii
import MountControl.Proofs.Text.Cutting
import MountControl.Proofs.Text.Digits
import MountControl.Proofs.Text.Hexadecimal
import MountControl.Proofs.Text.Length
import MountControl.Proofs.Text.Numeral
import MountControl.Proofs.Text.Slices
import MountControl.Proofs.Text.Truncation
import MountControl.Proofs.Text.Utf8
import MountControl.Proofs.Text.Words
import MountControl.Proofs.Volume.Identifier
import MountControl.Proofs.Volume.Spelling
import MountControl.Proofs.Volume.Validation
import MountControl.Proofs.Wire.Body
import MountControl.Proofs.Wire.Cursor
import MountControl.Proofs.Wire.Denial
import MountControl.Proofs.Wire.FirstValue
import MountControl.Proofs.Wire.Framing
import MountControl.Proofs.Wire.Grammar
import MountControl.Proofs.Wire.Groups
import MountControl.Proofs.Wire.Holdings
import MountControl.Proofs.Wire.LineNumbers
import MountControl.Proofs.Wire.MountFields
import MountControl.Proofs.Wire.Offsets
import MountControl.Proofs.Wire.Reading
import MountControl.Proofs.Wire.Record
import MountControl.Proofs.Wire.Reencoding
import MountControl.Proofs.Wire.ReplyDelivery
import MountControl.Proofs.Wire.ReplyRoundTrip
import MountControl.Proofs.Wire.RequestRoundTrip
import MountControl.Proofs.Wire.Size
import MountControl.Proofs.Wire.StrayLine
import MountControl.Proofs.Wire.Truncation
import MountControl.Proofs.Wire.Waiting
import MountControl.Service.Bootstrap
import MountControl.Service.Child
import MountControl.Service.Dispatch
import MountControl.Service.Exchange
import MountControl.Service.Fault
import MountControl.Service.Health
import MountControl.Service.Launch
import MountControl.Service.Lifetime
import MountControl.Service.Listener
import MountControl.Service.Registry
import MountControl.Service.Rehearsal
import MountControl.Service.Rehearsal.Process
import MountControl.Service.Rehearsal.Troupe
import MountControl.Service.SocketFile
import MountControl.Service.Stage
import MountControl.Service.Telemetry
import MountControl.Service.Worker
import MountControl.Text.Blank
import MountControl.Text.CharRanges
import MountControl.Text.Columns
import MountControl.Text.Columns.Table
import MountControl.Text.Numeral
import MountControl.Text.Printable
import MountControl.Text.Quoted
import MountControl.Text.Shortest
import MountControl.Text.Split
import MountControl.Text.Utf8
import MountControl.Volume.Instance
import MountControl.Volume.Options
import MountControl.Volume.Record
import MountControl.Volume.State
import MountControl.Volume.Uuid
import MountControl.Wire.Field
import MountControl.Wire.Framing
import MountControl.Wire.Issue
import MountControl.Wire.Reader
import MountControl.Wire.Reply
import MountControl.Wire.Request
