import SignIn.Calendar
import SignIn.Callback
import SignIn.ClientMetadata
import SignIn.CommandLine.Arguments
import SignIn.CommandLine.Commands
import SignIn.CommandLine.Console
import SignIn.CommandLine.Fault
import SignIn.CommandLine.Program
import SignIn.Disk
import SignIn.Domain.Label
import SignIn.Domain.LabelTable
import SignIn.Domain.Mapping
import SignIn.Domain.MappingTable
import SignIn.Domain.Name
import SignIn.Domain.Punycode
import SignIn.Endpoints
import SignIn.Fault
import SignIn.Gateway
import SignIn.Http.Client
import SignIn.Http.Status
import SignIn.Http.Traffic
import SignIn.Http.Wire
import SignIn.Json.Fault
import SignIn.Json.Printer
import SignIn.Json.Reader
import SignIn.Json.Record
import SignIn.Json.Scan
import SignIn.Json.Value
import SignIn.KeyValue
import SignIn.LoginFlow
import SignIn.LoginState
import SignIn.Main
import SignIn.Message
import SignIn.Number.Binary64
import SignIn.Number.Shortest
import SignIn.Proofs.Calendar
import SignIn.Proofs.Callback
import SignIn.Proofs.Disk
import SignIn.Proofs.Domain.Blanks
import SignIn.Proofs.Domain.Capitals
import SignIn.Proofs.Domain.Name
import SignIn.Proofs.Gateway
import SignIn.Proofs.Http.Alone
import SignIn.Proofs.Http.Credentials
import SignIn.Proofs.Http.Nonces
import SignIn.Proofs.Http.Retry
import SignIn.Proofs.Json.Layout
import SignIn.Proofs.Json.Numbers
import SignIn.Proofs.Json.Records
import SignIn.Proofs.Json.Texts
import SignIn.Proofs.LoginFlow
import SignIn.Proofs.Parameters
import SignIn.Proofs.RoundTrip
import SignIn.Proofs.Session.Agreement
import SignIn.Proofs.Session.Continuity
import SignIn.Proofs.Session.Dropped
import SignIn.Proofs.Session.Epochs
import SignIn.Proofs.Session.Fallible
import SignIn.Proofs.Session.FaultyTurn
import SignIn.Proofs.Session.Forwarding
import SignIn.Proofs.Session.Handover
import SignIn.Proofs.Session.Identity
import SignIn.Proofs.Session.Kept
import SignIn.Proofs.Session.Memory
import SignIn.Proofs.Session.Mirror
import SignIn.Proofs.Session.OperationTurn
import SignIn.Proofs.Session.Overlap
import SignIn.Proofs.Session.Pending
import SignIn.Proofs.Session.Rehydration
import SignIn.Proofs.Session.Rejection
import SignIn.Proofs.Session.Restart
import SignIn.Proofs.Session.SharedRejection
import SignIn.Proofs.Session.SingleUse
import SignIn.Proofs.Session.Story
import SignIn.Proofs.Session.Teardown
import SignIn.Proofs.Session.Turn
import SignIn.Proofs.Session.Undivided
import SignIn.Proofs.Settings.Domain
import SignIn.Proofs.Settings.Layers
import SignIn.Proofs.Settings.Publication
import SignIn.Proofs.Store.Backends
import SignIn.Proofs.Store.Faltering
import SignIn.Proofs.Store.File
import SignIn.Proofs.Store.Reliable
import SignIn.Proofs.Store.Replacement
import SignIn.Proofs.Store.Snapshot
import SignIn.Proofs.Store.Taking
import SignIn.Proofs.Text.Secret
import SignIn.Proofs.Text.Split
import SignIn.Proofs.Token
import SignIn.Proofs.Url.Address
import SignIn.Proofs.Url.Authority
import SignIn.Proofs.Url.Blanks
import SignIn.Proofs.Url.Encoding
import SignIn.Proofs.Url.Host
import SignIn.Proofs.Url.Origin
import SignIn.Proofs.Url.Parsed
import SignIn.Proofs.Url.Reading
import SignIn.Proofs.Url.Site
import SignIn.Session.Manager
import SignIn.Session.OpenManagers
import SignIn.Session.Phase
import SignIn.Session.View
import SignIn.Settings.Basic
import SignIn.Settings.Domain
import SignIn.Settings.Log
import SignIn.Settings.Paths
import SignIn.Store.Entries
import SignIn.Store.FileStorage
import SignIn.Store.Handles
import SignIn.Store.Rivals
import SignIn.Store.SessionStore
import SignIn.Store.Sharing
import SignIn.Store.Storage
import SignIn.Text.Base64
import SignIn.Text.Blank
import SignIn.Text.Bytes
import SignIn.Text.CombiningClasses
import SignIn.Text.Composites
import SignIn.Text.Composition
import SignIn.Text.Glyphless
import SignIn.Text.Quoted
import SignIn.Text.Ranges
import SignIn.Text.Secret
import SignIn.Token
import SignIn.Url.Address
import SignIn.Url.Basic
import SignIn.Url.Fault
import SignIn.Url.Form
import SignIn.Url.Host
import SignIn.Url.Origin
import SignIn.Url.Percent
import SignIn.Url.Reader
