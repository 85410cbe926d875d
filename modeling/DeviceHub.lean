import DeviceHub.Bridge
import DeviceHub.Command.Arguments
import DeviceHub.Command.Check
import DeviceHub.Command.Failure
import DeviceHub.Command.Interval
import DeviceHub.Command.Poll
import DeviceHub.Command.Program
import DeviceHub.Command.Run
import DeviceHub.Config.Basic
import DeviceHub.Config.Check
import DeviceHub.Config.Codec
import DeviceHub.Config.Error
import DeviceHub.Config.Layers
import DeviceHub.Config.Translate
import DeviceHub.Config.Variable
import DeviceHub.Credential.Basic
import DeviceHub.Credential.Refresher
import DeviceHub.Credential.Source
import DeviceHub.Credential.Store
import DeviceHub.Credential.TokenResponse
import DeviceHub.Decimal.Binary64
import DeviceHub.Decimal.Format
import DeviceHub.Decimal.Numeral
import DeviceHub.Decimal.Shortest
import DeviceHub.Device
import DeviceHub.Dict
import DeviceHub.Event
import DeviceHub.Failure
import DeviceHub.FieldValue
import DeviceHub.Health
import DeviceHub.Http.Client
import DeviceHub.Http.Message
import DeviceHub.Http.Status
import DeviceHub.Hub.Basic
import DeviceHub.Hub.Cycle
import DeviceHub.Hub.Devices
import DeviceHub.HubError
import DeviceHub.Identity
import DeviceHub.Instant
import DeviceHub.Json.Decode
import DeviceHub.Json.Numeral
import DeviceHub.Json.Reader
import DeviceHub.Json.Value
import DeviceHub.Json.Writer
import DeviceHub.KeyValue
import DeviceHub.Log
import DeviceHub.Main
import DeviceHub.Normalize
import DeviceHub.Payload
import DeviceHub.Poller
import DeviceHub.Proofs.Hub.Run
import DeviceHub.Proofs.Json.Finite
import DeviceHub.Proofs.Normalize.Channels
import DeviceHub.Proofs.Health.Records
import DeviceHub.Proofs.Normalize.Typed
import DeviceHub.Request.Basic
import DeviceHub.Request.Codec
import DeviceHub.Request.Envelope
import DeviceHub.Request.Error
import DeviceHub.Schema.Basic
import DeviceHub.Schema.Codec
import DeviceHub.Simulation.HubRun
import DeviceHub.Simulation.PollRun
import DeviceHub.Simulation.Script
import DeviceHub.Simulation.TokenRun
import DeviceHub.Snapshot
import DeviceHub.Snapshot.Store
import DeviceHub.Text.Base64
import DeviceHub.Text.Blank
import DeviceHub.Text.Duration
import DeviceHub.Text.Invisible
import DeviceHub.Text.Pieces
import DeviceHub.Text.Quoted
import DeviceHub.Text.Utf8
import DeviceHub.Toml.Date
import DeviceHub.Toml.Number
import DeviceHub.Toml.Reader
import DeviceHub.Toml.Table
import DeviceHub.Toml.Text
import DeviceHub.Url.Basic
import DeviceHub.Url.Domain
import DeviceHub.Url.Form
import DeviceHub.Url.Host
import DeviceHub.Url.Parse
import DeviceHub.Url.Percent
import DeviceHub.Url.Punycode
import DeviceHub.Proofs.Hub.Tasks
import DeviceHub.Proofs.Hub.History
import DeviceHub.Proofs.Credential.Run
import DeviceHub.Proofs.Credential.SingleFlight
import DeviceHub.Proofs.Hub.Stored
import DeviceHub.Proofs.Snapshot.Changes
import DeviceHub.Proofs.Hub.Connectivity
import DeviceHub.Proofs.Hub.Updates
import DeviceHub.Proofs.Hub.Registration
import DeviceHub.Proofs.Poll.Run
import DeviceHub.Proofs.Poll.Stages
import DeviceHub.Proofs.Poll.Schedule
import DeviceHub.Proofs.Http.Traffic
import DeviceHub.Proofs.Http.Rejections
import DeviceHub.Proofs.Credential.Replacement
import DeviceHub.Proofs.Credential.Memory
import DeviceHub.Proofs.Http.Contract
import DeviceHub.Proofs.Hub.Lives
import DeviceHub.Proofs.Hub.Suspension
import DeviceHub.Proofs.Hub.Agreement
import DeviceHub.Proofs.Config.Bridges
import DeviceHub.Proofs.Config.Devices
import DeviceHub.Proofs.Config.Sections
import DeviceHub.Proofs.Hub.Origins
import DeviceHub.Proofs.Hub.Isolation
import DeviceHub.Proofs.Hub.Shutdown
import DeviceHub.Proofs.Snapshot.Subscriptions
import DeviceHub.Proofs.Credential.Expiry
import DeviceHub.Proofs.Credential.RefreshTokens
import DeviceHub.Proofs.Normalize.KeyValue
import DeviceHub.Proofs.Normalize.Online
import DeviceHub.Proofs.Normalize.Members
import DeviceHub.Proofs.Normalize.Integers
import DeviceHub.Proofs.Normalize.Fields
import DeviceHub.Proofs.Normalize.Rendering
import DeviceHub.Proofs.KeyValue.Lines
import DeviceHub.Proofs.Hub.Refusals
import DeviceHub.Proofs.Url.References
import DeviceHub.Proofs.Http.Origin
import DeviceHub.Proofs.Config.Usable
import DeviceHub.Proofs.Poll.Answers
import DeviceHub.Proofs.Hub.Unsent
import DeviceHub.Proofs.Config.Pollable
import DeviceHub.Proofs.Credential.Settling
import DeviceHub.Proofs.Credential.Lifetime
import DeviceHub.Proofs.Config.Secrets
import DeviceHub.Proofs.Json.Lookups
import DeviceHub.Proofs.Config.Forms
