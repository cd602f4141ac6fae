import LearningClient.Client.Alone
import LearningClient.Client.Basic
import LearningClient.Client.Query
import LearningClient.Command
import LearningClient.Decimal.Binary64
import LearningClient.Decimal.Layout
import LearningClient.Decimal.Shortest
import LearningClient.Failure
import LearningClient.Form
import LearningClient.Http.Exchange
import LearningClient.Http.Octets
import LearningClient.Http.Request
import LearningClient.Http.Response
import LearningClient.Json.Fault
import LearningClient.Json.Lexeme
import LearningClient.Json.Printer
import LearningClient.Json.Reader
import LearningClient.Json.Skip
import LearningClient.Json.Typed
import LearningClient.Json.Value
import LearningClient.Main
import LearningClient.Parameter
import LearningClient.Proofs.Client.Accepted
import LearningClient.Proofs.Client.Query
import LearningClient.Proofs.Client.Rules
import LearningClient.Proofs.Client.SamePage
import LearningClient.Proofs.Form
import LearningClient.Proofs.Http.Address
import LearningClient.Proofs.Http.ErrorText
import LearningClient.Proofs.Http.Query
import LearningClient.Proofs.Json.AsWritten
import LearningClient.Proofs.Json.Following
import LearningClient.Proofs.Json.Gathering
import LearningClient.Proofs.Json.Members
import LearningClient.Proofs.Json.Nested
import LearningClient.Proofs.Json.Passing
import LearningClient.Proofs.Json.RoundTrip
import LearningClient.Proofs.Json.Text
import LearningClient.Proofs.LastWord
import LearningClient.Proofs.Loads.Course
import LearningClient.Proofs.Loads.HandOver
import LearningClient.Proofs.Loads.Isolation
import LearningClient.Proofs.Loads.Landings
import LearningClient.Proofs.Loads.Lane
import LearningClient.Proofs.Loads.LaneMoves
import LearningClient.Proofs.Loads.Once
import LearningClient.Proofs.Loads.Queue
import LearningClient.Proofs.Loads.Results
import LearningClient.Proofs.Loads.Retries
import LearningClient.Proofs.Loads.Roster
import LearningClient.Proofs.Loads.Seen
import LearningClient.Proofs.Loads.Settled
import LearningClient.Proofs.Loads.SingleFlight
import LearningClient.Proofs.Loads.Truthful
import LearningClient.Proofs.Loads.Turns
import LearningClient.Proofs.Loads.Writes
import LearningClient.Proofs.Outcome
import LearningClient.Proofs.Session.HandOut
import LearningClient.Proofs.Settings
import LearningClient.Proofs.Store.Flights
import LearningClient.Proofs.Store.Places
import LearningClient.Proofs.Store.Sealed
import LearningClient.Proofs.Store.Stages
import LearningClient.Proofs.Store.Tickets
import LearningClient.Proofs.Text.Ascii
import LearningClient.Proofs.Text.Digits
import LearningClient.Proofs.Text.Numeral
import LearningClient.Proofs.Text.Trimming
import LearningClient.Proofs.Text.Utf8
import LearningClient.Proofs.Traffic.CachedRights
import LearningClient.Proofs.Traffic.Cursors
import LearningClient.Proofs.Traffic.Destinations
import LearningClient.Proofs.Traffic.Kept
import LearningClient.Proofs.Traffic.Origins
import LearningClient.Proofs.Traffic.Outgoing
import LearningClient.Proofs.Traffic.Paging
import LearningClient.Proofs.Traffic.Refusals
import LearningClient.Proofs.Traffic.Repeats
import LearningClient.Proofs.Traffic.Resets
import LearningClient.Proofs.Traffic.Services
import LearningClient.Proofs.Traffic.Sources
import LearningClient.Proofs.Traffic.TokenTurns
import LearningClient.Proofs.Traffic.Tokens
import LearningClient.Proofs.Traffic.Turns
import LearningClient.Proofs.Url.Address
import LearningClient.Proofs.Url.Escape
import LearningClient.Proofs.Url.Host
import LearningClient.Proofs.Url.Long
import LearningClient.Proofs.Url.Path
import LearningClient.Proofs.Url.Settled
import LearningClient.Proofs.Url.Short
import LearningClient.Proofs.Wire.Decoding
import LearningClient.Proofs.Wire.Projection
import LearningClient.Proofs.Wire.Question
import LearningClient.Proofs.Wire.RoundTrip
import LearningClient.Rehearsal.Course
import LearningClient.Rehearsal.Loads
import LearningClient.Rehearsal.Script
import LearningClient.Rehearsal.Server
import LearningClient.Rehearsal.Session
import LearningClient.Rehearsal.Traffic
import LearningClient.Settings
import LearningClient.Store.Accessor
import LearningClient.Store.Cache
import LearningClient.Store.TokenCell
import LearningClient.Table
import LearningClient.Text.Base64
import LearningClient.Text.Blank
import LearningClient.Text.CombiningClass
import LearningClient.Text.Composed
import LearningClient.Text.Composite
import LearningClient.Text.Digits
import LearningClient.Text.Direction
import LearningClient.Text.Hangul
import LearningClient.Text.Joining
import LearningClient.Text.Mark
import LearningClient.Text.Printable
import LearningClient.Text.Punycode
import LearningClient.Text.Quoted
import LearningClient.Text.Ranges
import LearningClient.Text.Utf8
import LearningClient.Url.Basic
import LearningClient.Url.Domain
import LearningClient.Url.Escape
import LearningClient.Url.File
import LearningClient.Url.Host
import LearningClient.Url.Mapped
import LearningClient.Url.Parser
import LearningClient.Url.Path
import LearningClient.Url.Permitted
import LearningClient.Wire.Question
import LearningClient.Wire.SkillRights
import LearningClient.Wire.Token
import LearningClient.Wire.Topic
