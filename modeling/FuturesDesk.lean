import FuturesDesk.Brokerage.Gateway
import FuturesDesk.Brokerage.Query
import FuturesDesk.Bus
import FuturesDesk.Client.Admission
import FuturesDesk.Client.Command
import FuturesDesk.Client.Frame
import FuturesDesk.Clock
import FuturesDesk.Config.Basic
import FuturesDesk.Config.Hours
import FuturesDesk.Config.Window
import FuturesDesk.Desk.Event
import FuturesDesk.Desk.Registry
import FuturesDesk.Desk.Session
import FuturesDesk.Desk.Sweep
import FuturesDesk.Desk.Trader
import FuturesDesk.Desk.Underway
import FuturesDesk.Digest.Hmac
import FuturesDesk.Digest.Sha256
import FuturesDesk.Fault
import FuturesDesk.Feed.Control
import FuturesDesk.Feed.Fields
import FuturesDesk.Feed.Frame
import FuturesDesk.Feed.Hub
import FuturesDesk.Feed.Line
import FuturesDesk.Feed.Wire
import FuturesDesk.Http.Exchange
import FuturesDesk.Http.Header
import FuturesDesk.Json.Basic
import FuturesDesk.Json.Decoder
import FuturesDesk.Json.Printer
import FuturesDesk.Json.Record
import FuturesDesk.Json.Scan
import FuturesDesk.Main
import FuturesDesk.Market.Basic
import FuturesDesk.Market.Snapshot
import FuturesDesk.Market.Wire
import FuturesDesk.Number.Binary64
import FuturesDesk.Number.Digits
import FuturesDesk.Number.Numeral
import FuturesDesk.Number.Power
import FuturesDesk.Number.Reading
import FuturesDesk.Number.Rounding
import FuturesDesk.Number.Shortest
import FuturesDesk.Number.Written
import FuturesDesk.Order.Action
import FuturesDesk.Order.Basic
import FuturesDesk.Order.Status
import FuturesDesk.Order.Wire
import FuturesDesk.Rehearsal.Brokerage
import FuturesDesk.Rehearsal.Shop
import FuturesDesk.Rehearsal.Stage
import FuturesDesk.Service.CommandLine
import FuturesDesk.Service.Filter
import FuturesDesk.Service.Listen
import FuturesDesk.Service.Serving
import FuturesDesk.Service.Startup
import FuturesDesk.Table
import FuturesDesk.Text.Blank
import FuturesDesk.Text.Combining
import FuturesDesk.Text.Composition
import FuturesDesk.Text.Direction
import FuturesDesk.Text.Joining
import FuturesDesk.Text.Mark
import FuturesDesk.Text.MarkClass
import FuturesDesk.Text.Normal
import FuturesDesk.Text.Percent
import FuturesDesk.Text.Printable
import FuturesDesk.Text.Quoted
import FuturesDesk.Text.Span
import FuturesDesk.Text.Unshown
import FuturesDesk.Text.Uuid
import FuturesDesk.Url.Address
import FuturesDesk.Url.Domain
import FuturesDesk.Url.Host
import FuturesDesk.Url.Label
import FuturesDesk.Url.Mapping
import FuturesDesk.Url.Mapping.Letters
import FuturesDesk.Url.Mapping.Shifts
import FuturesDesk.Url.Mapping.Words
import FuturesDesk.Url.Punycode
import FuturesDesk.Proofs.Mailboxes
import FuturesDesk.Proofs.RegistrySteps
import FuturesDesk.Proofs.TrackedStatus
import FuturesDesk.Proofs.ClosingOrders
import FuturesDesk.Proofs.TraderMoves
import FuturesDesk.Proofs.Bystanders
import FuturesDesk.Proofs.OneInFlight
import FuturesDesk.Proofs.TraderRuns
import FuturesDesk.Proofs.CancelWindows
import FuturesDesk.Proofs.Announcements
import FuturesDesk.Proofs.Completion
import FuturesDesk.Proofs.OrderFrames
import FuturesDesk.Proofs.PendingTargets
import FuturesDesk.Proofs.HiredTraders
import FuturesDesk.Proofs.CommandGuards
import FuturesDesk.Proofs.UnitOrders
import FuturesDesk.Proofs.DeclinedFrames
import FuturesDesk.Proofs.AssistOrders
import FuturesDesk.Proofs.TickCodes
import FuturesDesk.Proofs.ReadCommands
import FuturesDesk.Proofs.DoubleOrder
import FuturesDesk.Proofs.TriggerReach
import FuturesDesk.Proofs.SubmittedPrices
import FuturesDesk.Proofs.Subscriptions
import FuturesDesk.Proofs.BusHistory
import FuturesDesk.Proofs.Interruptions
import FuturesDesk.Proofs.KeepAlive
import FuturesDesk.Proofs.AssistSignals
import FuturesDesk.Proofs.GivenUpRoutes
import FuturesDesk.Proofs.FailedCancels
import FuturesDesk.Proofs.ExactSweeps
import FuturesDesk.Proofs.LeftRoutes
import FuturesDesk.Proofs.FilingRaces
import FuturesDesk.Proofs.FiniteNumbers
import FuturesDesk.Proofs.TextSpellings
import FuturesDesk.Proofs.WrittenDocuments
import FuturesDesk.Proofs.ArrangedRecords
import FuturesDesk.Proofs.ReadRecords
import FuturesDesk.Proofs.WireRoundTrip
import FuturesDesk.Proofs.HonestMarks
import FuturesDesk.Proofs.WholePlacements
import FuturesDesk.Proofs.AddressedFrames
import FuturesDesk.Proofs.CommandTexts
import FuturesDesk.Proofs.SignedQueries
import FuturesDesk.Proofs.WaitingOrders
import FuturesDesk.Proofs.TraderSchedules
import FuturesDesk.Proofs.TickLanes
import FuturesDesk.Proofs.TickFanOut
import FuturesDesk.Proofs.TimeTexts
import FuturesDesk.Proofs.OpenHours
import FuturesDesk.Proofs.ControlTexts
import FuturesDesk.Proofs.TimeTriggers
