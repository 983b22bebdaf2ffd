import JsonRpc.Admission
import JsonRpc.Binary64
import JsonRpc.Binary64.Shortest
import JsonRpc.Bytes
import JsonRpc.Call.Basic
import JsonRpc.Call.Scope
import JsonRpc.Call.Store
import JsonRpc.Cipher.Aes
import JsonRpc.Cipher.Base64
import JsonRpc.Cipher.Block
import JsonRpc.Cipher.Hex
import JsonRpc.Cipher.Padding
import JsonRpc.Cipher.Sealed
import JsonRpc.Envelope
import JsonRpc.Fault
import JsonRpc.Http.Headers
import JsonRpc.Http.Request
import JsonRpc.Http.Sink
import JsonRpc.Invocation
import JsonRpc.Json.Basic
import JsonRpc.Json.Codec
import JsonRpc.Json.Printer
import JsonRpc.Json.Reader
import JsonRpc.Json.Refusal
import JsonRpc.Json.Scan
import JsonRpc.Json.Scan.Content
import JsonRpc.Json.Scan.Number
import JsonRpc.Json.Scan.Separator
import JsonRpc.Json.Skip
import JsonRpc.Middleware
import JsonRpc.Name
import JsonRpc.Pool
import JsonRpc.Program
import JsonRpc.Proofs.Admission.Length
import JsonRpc.Proofs.Cipher.Aes
import JsonRpc.Proofs.Cipher.Base64
import JsonRpc.Proofs.Cipher.Hex
import JsonRpc.Proofs.Cipher.Opening
import JsonRpc.Proofs.Cipher.Sealed
import JsonRpc.Proofs.Envelope.Members
import JsonRpc.Proofs.Envelope.RoundTrip
import JsonRpc.Proofs.Fault.Folding
import JsonRpc.Proofs.Invocation.Marks
import JsonRpc.Proofs.Invocation.Plan
import JsonRpc.Proofs.Json.Agreement
import JsonRpc.Proofs.Json.Grammar
import JsonRpc.Proofs.Json.Reading
import JsonRpc.Proofs.Json.RoundTrip
import JsonRpc.Proofs.Json.Skip
import JsonRpc.Proofs.Json.Skip.Scalar
import JsonRpc.Proofs.Json.Token
import JsonRpc.Proofs.Name.Address
import JsonRpc.Proofs.Name.Fold
import JsonRpc.Proofs.Pool.Ledger
import JsonRpc.Proofs.Program.Blind
import JsonRpc.Proofs.Program.Chain
import JsonRpc.Proofs.Program.Discreet
import JsonRpc.Proofs.Program.Panic
import JsonRpc.Proofs.Program.Record
import JsonRpc.Proofs.Registry.Atomicity
import JsonRpc.Proofs.Registry.Contents
import JsonRpc.Proofs.Registry.Spelling
import JsonRpc.Proofs.Registry.Table
import JsonRpc.Proofs.Registry.Tries
import JsonRpc.Proofs.Server.Accounting
import JsonRpc.Proofs.Server.Admission
import JsonRpc.Proofs.Server.Answer
import JsonRpc.Proofs.Server.Arguments
import JsonRpc.Proofs.Server.Building
import JsonRpc.Proofs.Server.Concealment
import JsonRpc.Proofs.Server.Containment
import JsonRpc.Proofs.Server.Delivery
import JsonRpc.Proofs.Server.Edits
import JsonRpc.Proofs.Server.Execution
import JsonRpc.Proofs.Server.Exposure
import JsonRpc.Proofs.Server.Forgery
import JsonRpc.Proofs.Server.History
import JsonRpc.Proofs.Server.Installation
import JsonRpc.Proofs.Server.Reached
import JsonRpc.Proofs.Server.Record
import JsonRpc.Proofs.Server.Response
import JsonRpc.Proofs.Server.Spelling
import JsonRpc.Proofs.Server.Stages
import JsonRpc.Proofs.Server.Transparency
import JsonRpc.Proofs.Server.Unwinding
import JsonRpc.Proofs.Service.Binding
import JsonRpc.Proofs.Service.Naming
import JsonRpc.Proofs.Text.Utf8
import JsonRpc.Registry
import JsonRpc.Script.Feature
import JsonRpc.Script.Item
import JsonRpc.Script.Journal
import JsonRpc.Script.Layer
import JsonRpc.Script.Service
import JsonRpc.Script.Step
import JsonRpc.Server.Basic
import JsonRpc.Server.Builder
import JsonRpc.Service.Basic
import JsonRpc.Service.Param
import JsonRpc.SetupError
import JsonRpc.Text.Alphanumeric
import JsonRpc.Text.Blank
import JsonRpc.Text.Case
import JsonRpc.Text.Quoted
import JsonRpc.Text.Record
import JsonRpc.Text.Utf8
