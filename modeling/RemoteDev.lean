import RemoteDev.Binary64.Basic
import RemoteDev.Binary64.Text
import RemoteDev.Buffer
import RemoteDev.Calendar
import RemoteDev.Command.Administration
import RemoteDev.Command.Basic
import RemoteDev.Command.DataSource
import RemoteDev.Command.Debugger
import RemoteDev.Command.File
import RemoteDev.CommandLine.Basic
import RemoteDev.DomainName.Basic
import RemoteDev.DomainName.Direction
import RemoteDev.DomainName.MappingTable
import RemoteDev.DomainName.Punycode
import RemoteDev.Failure
import RemoteDev.Field.Cursor
import RemoteDev.Field.Reader
import RemoteDev.Json.Basic
import RemoteDev.Json.Read
import RemoteDev.Main
import RemoteDev.Markup.CharacterData
import RemoteDev.Markup.Node
import RemoteDev.Markup.Token
import RemoteDev.Packet.Basic
import RemoteDev.Packet.Document
import RemoteDev.Packet.Value
import RemoteDev.Proofs.Binary64.Basic
import RemoteDev.Proofs.Binary64.Digits
import RemoteDev.Proofs.Binary64.Figures
import RemoteDev.Proofs.Binary64.Nearest
import RemoteDev.Proofs.Binary64.Places
import RemoteDev.Proofs.Binary64.Reading
import RemoteDev.Proofs.Binary64.Reread
import RemoteDev.Proofs.Binary64.Rerounding
import RemoteDev.Proofs.Binary64.Rounding
import RemoteDev.Proofs.Binary64.Text
import RemoteDev.Proofs.Buffer.Steps
import RemoteDev.Proofs.Command.Answer
import RemoteDev.Proofs.Command.Form
import RemoteDev.Proofs.Command.Parameters
import RemoteDev.Proofs.Command.WatchList
import RemoteDev.Proofs.Field.Basic
import RemoteDev.Proofs.Field.Cursor
import RemoteDev.Proofs.Field.Cut
import RemoteDev.Proofs.Field.Exact
import RemoteDev.Proofs.Field.Log
import RemoteDev.Proofs.Field.Padding
import RemoteDev.Proofs.Field.Plan
import RemoteDev.Proofs.Field.Tagged
import RemoteDev.Proofs.Field.Written
import RemoteDev.Proofs.Json.Object
import RemoteDev.Proofs.Markup.CharacterData
import RemoteDev.Proofs.Markup.LineEnds
import RemoteDev.Proofs.Markup.Node
import RemoteDev.Proofs.Markup.Token
import RemoteDev.Proofs.Outcome
import RemoteDev.Proofs.Packet.Acceptance
import RemoteDev.Proofs.Packet.Admission
import RemoteDev.Proofs.Packet.Characters
import RemoteDev.Proofs.Packet.CodedText
import RemoteDev.Proofs.Packet.Document
import RemoteDev.Proofs.Packet.FirstSlot
import RemoteDev.Proofs.Packet.Path
import RemoteDev.Proofs.Packet.PathText
import RemoteDev.Proofs.Packet.Placement
import RemoteDev.Proofs.Packet.Portable
import RemoteDev.Proofs.Packet.Reordered
import RemoteDev.Proofs.Packet.Same
import RemoteDev.Proofs.Packet.StructFields
import RemoteDev.Proofs.Packet.TextLeaf
import RemoteDev.Proofs.Packet.TwoPuts
import RemoteDev.Proofs.Packet.WellFormed
import RemoteDev.Proofs.Record.Analyzer
import RemoteDev.Proofs.Record.Bounded
import RemoteDev.Proofs.Record.CellRun
import RemoteDev.Proofs.Record.Event
import RemoteDev.Proofs.Record.Grid
import RemoteDev.Proofs.Record.GridShape
import RemoteDev.Proofs.Record.ListedTimes
import RemoteDev.Proofs.Record.Listing
import RemoteDev.Proofs.Record.ListingAcceptance
import RemoteDev.Proofs.Record.Members
import RemoteDev.Proofs.Record.Planned
import RemoteDev.Proofs.Record.ServerPort
import RemoteDev.Proofs.Record.Single
import RemoteDev.Proofs.Record.Tags
import RemoteDev.Proofs.Record.Truncation
import RemoteDev.Proofs.Record.Written
import RemoteDev.Proofs.Separator
import RemoteDev.Proofs.Session.Calls
import RemoteDev.Proofs.Session.Credentials
import RemoteDev.Proofs.Session.Debugger
import RemoteDev.Proofs.Session.History
import RemoteDev.Proofs.Session.Message
import RemoteDev.Proofs.Session.Refusal
import RemoteDev.Proofs.Session.Scan
import RemoteDev.Proofs.Session.Transfer
import RemoteDev.Proofs.Session.WatchList
import RemoteDev.Proofs.Text.Numeral
import RemoteDev.Proofs.Text.Utf8
import RemoteDev.Proofs.Transport.Calls
import RemoteDev.Proofs.Transport.Pieces
import RemoteDev.Proofs.Transport.Scripts
import RemoteDev.Proofs.Uri.Path
import RemoteDev.Proofs.Uri.Percent
import RemoteDev.Proofs.Uri.Read
import RemoteDev.Proofs.Uri.Spelling
import RemoteDev.Proofs.Wire.Head
import RemoteDev.Proofs.Wire.Message
import RemoteDev.Proofs.Wire.Reading
import RemoteDev.Proofs.Wire.Reply
import RemoteDev.Record.Administration
import RemoteDev.Record.CellRun
import RemoteDev.Record.DataSource
import RemoteDev.Record.Debugger
import RemoteDev.Record.File
import RemoteDev.Record.Grid
import RemoteDev.Session.Basic
import RemoteDev.Session.Transfer
import RemoteDev.Text.Basic
import RemoteDev.Text.CodeTable
import RemoteDev.Text.Normal.Basic
import RemoteDev.Text.Normal.Table
import RemoteDev.Text.Quoted
import RemoteDev.Text.Utf8
import RemoteDev.Transport.Basic
import RemoteDev.Transport.Scripted
import RemoteDev.Uri
import RemoteDev.Wire
