import Throughput.Main
import Throughput.Rate.Live
import Throughput.Rate.Polling
import Throughput.Proofs.Bytes
import Throughput.Proofs.Der.Integer
import Throughput.Proofs.Der.Length
import Throughput.Proofs.Der.Reader
import Throughput.Proofs.Key.Layout
import Throughput.Proofs.Key.Canonical
import Throughput.Proofs.Report.Tick
import Throughput.Proofs.Report.Run
import Throughput.Proofs.Rate.Polling
import Throughput.Proofs.Rate.Conservation
import Throughput.Proofs.Der.Forest
import Throughput.Proofs.Rate.Live
import Throughput.Proofs.Agent.Start
import Throughput.Proofs.Agent.Gauge
import Throughput.Proofs.Credential
import Throughput.Proofs.Policy.Precedence
import Throughput.Proofs.Text.Lines
import Throughput.Proofs.Base64
import Throughput.Proofs.Key.Armor
import Throughput.Proofs.Key.Decode
import Throughput.Proofs.Credential.Bundle
import Throughput.Proofs.Rate.Hook
import Throughput.Proofs.Counter
import Throughput.Proofs.Rate.Following
import Throughput.Proofs.Policy.Accounting
import Throughput.Proofs.Discovery.Masked
import Throughput.Proofs.Policy.Masked
import Throughput.Proofs.Report.Correspondence
import Throughput.Proofs.Requests
import Throughput.Proofs.Agent.Secrecy
import Throughput.Proofs.Json.Value
import Throughput.Report.Poll
import Throughput.Proofs.Der.Stop
import Throughput.Proofs.Der.Cursor
import Throughput.Proofs.Der.Offset
import Throughput.Proofs.Text.Digits
import Throughput.Proofs.Binary64.Whole
import Throughput.Proofs.Json.Quoted
import Throughput.Proofs.Json.Numeral
import Throughput.Proofs.Json.Sequence
import Throughput.Proofs.Json.Printed
import Throughput.Proofs.Payload
import Throughput.Proofs.Report.Poll
import Throughput.Proofs.Report.Prompt
import Throughput.Proofs.Der.Magnitude
import Throughput.Proofs.Der.Strict
import Throughput.Proofs.Key.Consistency
import Throughput.Proofs.Rate.Rounding
import Throughput.Proofs.Json.Grammar
import Throughput.Proofs.Json.Documents
import Throughput.Proofs.Json.Order
import Throughput.Proofs.Json.Path
import Throughput.Proofs.Discovery.Binding
import Throughput.Proofs.Counter.Names
import Throughput.Proofs.Counter.Table
import Throughput.Proofs.Pem.Stop
import Throughput.Proofs.Tls.Place
import Throughput.Proofs.Text.Case
import Throughput.Proofs.Configuration.CommandLine
import Throughput.Proofs.Configuration.Variables
import Throughput.Proofs.Configuration.Spelling
import Throughput.Proofs.Configuration.Told
import Throughput.Proofs.Json.Skip
import Throughput.Proofs.Json.Record
import Throughput.Proofs.Discovery.Identity
import Throughput.Proofs.Json.Members
import Throughput.Proofs.Json.Row
import Throughput.Proofs.Rate.Synthetic
import Throughput.Proofs.Records
