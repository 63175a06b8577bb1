import StaticDns.Octets
import StaticDns.Text.Split
import StaticDns.Text.Utf8
import StaticDns.Text.Decimal
import StaticDns.Text.Blank
import StaticDns.Text.Terminal
import StaticDns.Name
import StaticDns.Net.Ipv4
import StaticDns.Net.Ipv6
import StaticDns.Net.Endpoint
import StaticDns.Message.Header
import StaticDns.Message.Code
import StaticDns.Message.Query
import StaticDns.Message.Reply
import StaticDns.Table
import StaticDns.Settings
import StaticDns.Duration
import StaticDns.Interval
import StaticDns.Host.SystemError
import StaticDns.RecordFile.Line
import StaticDns.Notice
import StaticDns.RecordFile
import StaticDns.Respond
import StaticDns.Metrics.Http
import StaticDns.Digest.Sha512
import StaticDns.Host
import StaticDns.Source
import StaticDns.Server
import StaticDns.CommandLine
import StaticDns.Startup
import StaticDns.Daemon
import StaticDns.LogFile
import StaticDns.Main
import StaticDns.Proofs.Name.Tiling
import StaticDns.Proofs.Name.Labelwise
import StaticDns.Proofs.Message.Fields
import StaticDns.Proofs.Name.Dotted
import StaticDns.Proofs.Message.Decoding
import StaticDns.Proofs.Message.Grammar
import StaticDns.Proofs.Message.Framing
import StaticDns.Proofs.Message.Reader
import StaticDns.Proofs.Respond.Sending
import StaticDns.Proofs.Respond.Layout
import StaticDns.Proofs.Respond.Answering
import StaticDns.Proofs.Text.Utf8
import StaticDns.Proofs.RecordFile.Asking
import StaticDns.Proofs.Source.Loading
import StaticDns.Proofs.Server.Serving
import StaticDns.Proofs.Source.Polling
import StaticDns.Proofs.Message.Editing
import StaticDns.Proofs.Respond.Influence
import StaticDns.Proofs.Server.Reflection
import StaticDns.Proofs.Metrics.Accounting
import StaticDns.Proofs.Net.DottedQuad
import StaticDns.Proofs.Name.Spelling
import StaticDns.Proofs.RecordFile.Composition
import StaticDns.Proofs.RecordFile.Dumping
import StaticDns.Proofs.Table.Meeting
import StaticDns.Proofs.Table.Unambiguous
import StaticDns.Proofs.Respond.Wildcards
import StaticDns.Proofs.Respond.Respelling
import StaticDns.Proofs.Message.Fitting
import StaticDns.Proofs.Message.Rewriting
import StaticDns.Proofs.Respond.Lockstep
import StaticDns.Proofs.Interval.Spelling
import StaticDns.Proofs.Name.Stepping
import StaticDns.Proofs.Message.Codec
