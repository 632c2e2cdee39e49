import SatClient.CommandLine.Fault
import SatClient.CommandLine.Help
import SatClient.CommandLine.Invocation
import SatClient.CommandLine.Reading
import SatClient.CommandLine.Shape
import SatClient.Display.Explanation
import SatClient.Display.Paint
import SatClient.Display.Report
import SatClient.Display.Result
import SatClient.Display.SavedReport
import SatClient.Files.Path
import SatClient.Files.Tree
import SatClient.Formula.Basic
import SatClient.Formula.Calls
import SatClient.Formula.Grammar
import SatClient.Formula.Lexer
import SatClient.Formula.Recognizer
import SatClient.Formula.Scan
import SatClient.Formula.SyntaxError
import SatClient.Formula.Token
import SatClient.Forwarder
import SatClient.Http.Address
import SatClient.Http.Exchange
import SatClient.Http.SocketAddress
import SatClient.Http.Status
import SatClient.Idna.Domain
import SatClient.Idna.Label
import SatClient.Idna.Normalization
import SatClient.Idna.Punycode
import SatClient.Idna.Replacement
import SatClient.Json.Fault
import SatClient.Json.Number
import SatClient.Json.Reader
import SatClient.Json.Text
import SatClient.Json.Value
import SatClient.Log
import SatClient.Main
import SatClient.Number.Binary64
import SatClient.Number.Decimal
import SatClient.Number.Shortest
import SatClient.Outcome.Basic
import SatClient.Program.Course
import SatClient.Program.Interactive
import SatClient.Program.Proxy
import SatClient.Program.Run
import SatClient.Program.Setup
import SatClient.Program.Solve
import SatClient.Proofs.Display.JsonReport
import SatClient.Proofs.Display.ReportedWords
import SatClient.Proofs.Display.Unconstrained
import SatClient.Proofs.Formula.Acceptance
import SatClient.Proofs.Formula.BoundedCalls
import SatClient.Proofs.Formula.CaretColumn
import SatClient.Proofs.Formula.Characters
import SatClient.Proofs.Formula.Derivation
import SatClient.Proofs.Formula.Descent
import SatClient.Proofs.Formula.EarliestFault
import SatClient.Proofs.Formula.FaultPlace
import SatClient.Proofs.Formula.Layout
import SatClient.Proofs.Formula.Matching
import SatClient.Proofs.Formula.OnePass
import SatClient.Proofs.Formula.Scanning
import SatClient.Proofs.Formula.Spacing
import SatClient.Proofs.Formula.Spelling
import SatClient.Proofs.Forwarder.Contract
import SatClient.Proofs.Forwarder.Requested
import SatClient.Proofs.Forwarder.Unchanged
import SatClient.Proofs.Forwarder.Understood
import SatClient.Proofs.Http.Delivery
import SatClient.Proofs.Json.Grammar
import SatClient.Proofs.Json.Literal
import SatClient.Proofs.Json.Numeral
import SatClient.Proofs.Json.Reading
import SatClient.Proofs.Json.Skipping
import SatClient.Proofs.Json.Writing
import SatClient.Proofs.Outcome.Classification
import SatClient.Proofs.Outcome.Procedure
import SatClient.Proofs.Program.Preparation
import SatClient.Proofs.Program.SharedGuard
import SatClient.Proofs.Session.FreshResult
import SatClient.Proofs.Session.Freshness
import SatClient.Proofs.Session.History
import SatClient.Proofs.Session.Script
import SatClient.Proofs.Settings.Layers
import SatClient.Proofs.Settings.RoundTrip
import SatClient.Proofs.Solver.Encoding
import SatClient.Proofs.Solver.EndpointPlace
import SatClient.Proofs.Solver.Posting
import SatClient.Proofs.Solver.Tokens
import SatClient.Proofs.Solver.Verdict
import SatClient.Proofs.Solver.WireFormat
import SatClient.Proofs.Text.Splitting
import SatClient.Proofs.Url.Faint
import SatClient.Proofs.Url.Path
import SatClient.Session.Interactive
import SatClient.Session.Tracker
import SatClient.Settings.Basic
import SatClient.Settings.File
import SatClient.Settings.Yaml
import SatClient.Solver.Assignment
import SatClient.Solver.Client
import SatClient.Solver.Endpoint
import SatClient.Solver.Message
import SatClient.Solver.Question
import SatClient.Text.Basic
import SatClient.Text.CharTable
import SatClient.Text.Printable
import SatClient.Text.Similarity
import SatClient.Text.Uppercase
import SatClient.Text.Utf8
import SatClient.Url.Basic
import SatClient.Url.Host
import SatClient.Url.Ipv4
import SatClient.Url.Ipv6
import SatClient.Url.Path
import SatClient.Url.Percent
import SatClient.Yaml.Character
import SatClient.Yaml.Cursor
import SatClient.Yaml.Document
import SatClient.Yaml.Event.Stream
import SatClient.Yaml.Fault
import SatClient.Yaml.Load
import SatClient.Yaml.Scalar.Plain
import SatClient.Yaml.Scalar.Written
import SatClient.Yaml.Token.Basic
import SatClient.Yaml.Token.Property
import SatClient.Yaml.Token.Scalar
import SatClient.Yaml.Token.Stream
