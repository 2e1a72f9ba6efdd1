import BrickControl.Act
import BrickControl.Backend
import BrickControl.Backend.Rehearsal
import BrickControl.Brick.Opcode
import BrickControl.Brick.Port
import BrickControl.Brick.Status
import BrickControl.Brick.Values
import BrickControl.Brick.Volts
import BrickControl.Bytes
import BrickControl.Command
import BrickControl.CommandError
import BrickControl.CommandLine.Exit
import BrickControl.CommandLine.Invocation
import BrickControl.CommandLine.Run
import BrickControl.CommandLine.Syntax
import BrickControl.Connection
import BrickControl.Device
import BrickControl.Duration
import BrickControl.Envelope
import BrickControl.Envelope.Carrier
import BrickControl.Host
import BrickControl.Host.Call
import BrickControl.Host.Errno
import BrickControl.Host.IoError
import BrickControl.Host.Script
import BrickControl.Main
import BrickControl.Proofs.Act
import BrickControl.Proofs.Backend.Alike
import BrickControl.Proofs.Backend.Honest
import BrickControl.Proofs.Backend.Journal
import BrickControl.Proofs.Backend.Rehearsal
import BrickControl.Proofs.Backend.Signals
import BrickControl.Proofs.Command.Cells
import BrickControl.Proofs.Command.Decoding
import BrickControl.Proofs.Command.Layout
import BrickControl.Proofs.Command.Limits
import BrickControl.Proofs.Command.Refusals
import BrickControl.Proofs.Command.Room
import BrickControl.Proofs.CommandLine.Acknowledgements
import BrickControl.Proofs.CommandLine.Arguments
import BrickControl.Proofs.CommandLine.ExitCodes
import BrickControl.Proofs.CommandLine.Mailbox
import BrickControl.Proofs.CommandLine.Performing
import BrickControl.Proofs.CommandLine.Rejections
import BrickControl.Proofs.CommandLine.Run
import BrickControl.Proofs.CommandLine.Selection
import BrickControl.Proofs.CommandLine.Timeouts
import BrickControl.Proofs.Connection.Calls
import BrickControl.Proofs.Connection.Lifecycle
import BrickControl.Proofs.Connection.Misreports
import BrickControl.Proofs.Connection.Replies
import BrickControl.Proofs.Connection.Uses
import BrickControl.Proofs.Device.Calls
import BrickControl.Proofs.Device.Closings
import BrickControl.Proofs.Device.Connecting
import BrickControl.Proofs.Device.Dialling
import BrickControl.Proofs.Device.Footprint
import BrickControl.Proofs.Device.Links
import BrickControl.Proofs.Device.Resources
import BrickControl.Proofs.Device.Selection
import BrickControl.Proofs.Device.Sending
import BrickControl.Proofs.Device.Timeouts
import BrickControl.Proofs.Envelope.Course
import BrickControl.Proofs.Envelope.Indices
import BrickControl.Proofs.Envelope.Interruptions
import BrickControl.Proofs.Envelope.Loops
import BrickControl.Proofs.Envelope.Receiving
import BrickControl.Proofs.Envelope.RoundTrip
import BrickControl.Proofs.Envelope.Sending
import BrickControl.Proofs.Host.Holding
import BrickControl.Proofs.Host.Ledger
import BrickControl.Proofs.Radio.Adapter
import BrickControl.Proofs.Radio.Awaiting
import BrickControl.Proofs.Radio.Destinations
import BrickControl.Proofs.Radio.Events
import BrickControl.Proofs.Radio.Search
import BrickControl.Proofs.Radio.Signals
import BrickControl.Proofs.Radio.Sockets
import BrickControl.Proofs.Radio.Spelling
import BrickControl.Proofs.Radio.Verdicts
import BrickControl.Proofs.Report.Preview
import BrickControl.Proofs.Session.Bounds
import BrickControl.Proofs.Session.Brick
import BrickControl.Proofs.Session.Failures
import BrickControl.Proofs.Session.Fulfilled
import BrickControl.Proofs.Session.Lockstep
import BrickControl.Proofs.Session.Operation
import BrickControl.Proofs.Session.Performed
import BrickControl.Proofs.Session.ProgramNames
import BrickControl.Proofs.Session.Readings
import BrickControl.Proofs.Session.Refinement
import BrickControl.Proofs.Session.Refusals
import BrickControl.Proofs.Session.Requests
import BrickControl.Proofs.Session.Slices
import BrickControl.Proofs.Session.Transfers
import BrickControl.Proofs.Text.Lossy
import BrickControl.Proofs.Text.Printable
import BrickControl.Proofs.Text.Utf8
import BrickControl.Proofs.Usb.Handles
import BrickControl.Radio.Adapter
import BrickControl.Radio.Address
import BrickControl.Radio.Discovery
import BrickControl.Radio.Link
import BrickControl.Radio.Rehearsal
import BrickControl.Reply
import BrickControl.Report
import BrickControl.Report.Json
import BrickControl.Report.Table
import BrickControl.Text.CodePoints
import BrickControl.Text.ColumnTables
import BrickControl.Text.Columns
import BrickControl.Text.EmojiSequence
import BrickControl.Text.Ligature
import BrickControl.Text.Numerals
import BrickControl.Text.Quoted
import BrickControl.Text.Unprintable
import BrickControl.Text.Utf8
import BrickControl.TransportError
import BrickControl.Usb.Fault
import BrickControl.Usb.Link
