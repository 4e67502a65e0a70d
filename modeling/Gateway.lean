import Gateway.Abi.Argument
import Gateway.Abi.Failure
import Gateway.Abi.Host
import Gateway.Buffer
import Gateway.Config.Dotenv
import Gateway.Config.Files
import Gateway.Config.Loader
import Gateway.Config.Section
import Gateway.Connection.Line
import Gateway.Connection.Registry
import Gateway.Connection.Session
import Gateway.Engine
import Gateway.Event
import Gateway.Event.Queue
import Gateway.Http.Head
import Gateway.Http.Header
import Gateway.Http.Method
import Gateway.Http.Status
import Gateway.Http.Uri
import Gateway.Id
import Gateway.Id.Json
import Gateway.Id.Uuid
import Gateway.Json.Printer
import Gateway.Json.Reader
import Gateway.Json.Shape
import Gateway.Json.Value
import Gateway.Log.Config
import Gateway.Log.Filter
import Gateway.Loopback
import Gateway.Metrics
import Gateway.Named
import Gateway.Pattern.Bracket
import Gateway.Pattern.Escape
import Gateway.Pattern.Node
import Gateway.Pattern.Reader
import Gateway.Proofs.Abi.Create
import Gateway.Proofs.Abi.Deployed
import Gateway.Proofs.Abi.Events
import Gateway.Proofs.Abi.Field
import Gateway.Proofs.Abi.Identifier
import Gateway.Proofs.Abi.Message
import Gateway.Proofs.Abi.NextEvent
import Gateway.Proofs.Abi.Refusal
import Gateway.Proofs.Abi.Settings
import Gateway.Proofs.Config.Layer
import Gateway.Proofs.Config.Overrides
import Gateway.Proofs.Config.RoundTrip
import Gateway.Proofs.Config.Served
import Gateway.Proofs.Config.Text
import Gateway.Proofs.Config.Variables
import Gateway.Proofs.Connection.LifeCycle
import Gateway.Proofs.Connection.Lines
import Gateway.Proofs.Connection.Registry
import Gateway.Proofs.Connection.Timer
import Gateway.Proofs.Connection.Turns
import Gateway.Proofs.Engine
import Gateway.Proofs.Engine.Broadcast
import Gateway.Proofs.Engine.Lines
import Gateway.Proofs.Engine.Reports
import Gateway.Proofs.Engine.Upgrade
import Gateway.Proofs.Engine.Writable
import Gateway.Proofs.Event.Queue
import Gateway.Proofs.Http.Header
import Gateway.Proofs.Http.Lines
import Gateway.Proofs.Id.Spelling
import Gateway.Proofs.Identifier
import Gateway.Proofs.Json.Grammar
import Gateway.Proofs.Json.Printer
import Gateway.Proofs.Json.Reader
import Gateway.Proofs.Loopback
import Gateway.Proofs.Metrics
import Gateway.Proofs.Request.Answer
import Gateway.Proofs.Request.Exchange
import Gateway.Proofs.Request.Headers
import Gateway.Proofs.Request.InFlight
import Gateway.Proofs.Request.Ledger
import Gateway.Proofs.Request.Legible
import Gateway.Proofs.Request.Registry
import Gateway.Proofs.Request.Response
import Gateway.Proofs.Request.Sent
import Gateway.Proofs.Request.StatusLine
import Gateway.Proofs.Request.TryEnd
import Gateway.Proofs.Route.Pattern
import Gateway.Proofs.Route.Table
import Gateway.Proofs.Server.Broadcast
import Gateway.Proofs.Server.Deployment
import Gateway.Proofs.Server.Drain
import Gateway.Proofs.Server.Metrics
import Gateway.Proofs.Server.Shutdown
import Gateway.Proofs.Server.Stop
import Gateway.Proofs.Server.Subject
import Gateway.Proofs.Server.Traffic
import Gateway.Proofs.Server.Waiting
import Gateway.Proofs.Service
import Gateway.Proofs.Service.AfterEnd
import Gateway.Proofs.Service.ConnectionEvents
import Gateway.Proofs.Service.Course
import Gateway.Proofs.Service.HostMove
import Gateway.Proofs.Service.Legible
import Gateway.Proofs.Service.Lines
import Gateway.Proofs.Service.Messages
import Gateway.Proofs.Service.Moved
import Gateway.Proofs.Service.RequestEvents
import Gateway.Proofs.Service.RequestMove
import Gateway.Proofs.Service.SessionMove
import Gateway.Proofs.Service.Simulation
import Gateway.Proofs.Service.Standing
import Gateway.Proofs.Service.Timer
import Gateway.Proofs.Service.Turns
import Gateway.Proofs.Service.Work
import Gateway.Proofs.Switchboard
import Gateway.Proofs.Text.Decimal
import Gateway.Proofs.Text.Lossy
import Gateway.Proofs.Text.Utf8
import Gateway.Proofs.WebSocket.Base64
import Gateway.Proofs.WebSocket.Sha1
import Gateway.Proofs.WebSocket.Upgrade
import Gateway.Request.Body
import Gateway.Request.Exchange
import Gateway.Request.Record
import Gateway.Request.Registry
import Gateway.Request.Response
import Gateway.Route
import Gateway.Server
import Gateway.Server.Config
import Gateway.Server.Drain
import Gateway.Server.Shutdown
import Gateway.Server.Summary
import Gateway.Status
import Gateway.Switchboard
import Gateway.Text.Alphanumeric
import Gateway.Text.Ascii
import Gateway.Text.Blank
import Gateway.Text.Case
import Gateway.Text.Case.Table
import Gateway.Text.Decimal
import Gateway.Text.Hex
import Gateway.Text.Scientific
import Gateway.Text.Utf8
import Gateway.Toml.Lexical
import Gateway.Toml.Reader
import Gateway.Toml.Tree
import Gateway.Verb
import Gateway.WebSocket.Base64
import Gateway.WebSocket.Endpoint
import Gateway.WebSocket.Message
import Gateway.WebSocket.Sha1
import Gateway.WebSocket.Upgrade
