import Presence.Activity
import Presence.AlertBand
import Presence.AlertRange
import Presence.Binary64
import Presence.Calendar
import Presence.Call
import Presence.Clock
import Presence.Configuration
import Presence.Configuration.Files
import Presence.Configuration.Load
import Presence.Consumer
import Presence.DayKey
import Presence.Fault
import Presence.Instant
import Presence.JobSwitch
import Presence.Json
import Presence.Json.Reader
import Presence.Json.Token
import Presence.Json.Writer
import Presence.Keys
import Presence.Ledger
import Presence.Logging
import Presence.Main
import Presence.Memory
import Presence.Metrics
import Presence.Mongo
import Presence.Notification
import Presence.Outcome
import Presence.Payload
import Presence.Program
import Presence.Proofs.AlertScan
import Presence.Proofs.AlertTargets
import Presence.Proofs.BucketListing
import Presence.Proofs.ConcurrentClosing
import Presence.Proofs.ConfigurationLayers
import Presence.Proofs.Conservation
import Presence.Proofs.Contract
import Presence.Proofs.Counting
import Presence.Proofs.DayKeys
import Presence.Proofs.Decimal
import Presence.Proofs.Delivery
import Presence.Proofs.Documents
import Presence.Proofs.Endurance
import Presence.Proofs.Enumeration
import Presence.Proofs.Evaluation
import Presence.Proofs.EventWire
import Presence.Proofs.Exposition
import Presence.Proofs.FailedChanges
import Presence.Proofs.FailedEvents
import Presence.Proofs.FilePlaces
import Presence.Proofs.FlushHistory
import Presence.Proofs.Growth
import Presence.Proofs.Handover
import Presence.Proofs.HandoverCalls
import Presence.Proofs.Interleaving
import Presence.Proofs.JsonRecords
import Presence.Proofs.JsonTokens
import Presence.Proofs.JsonTrees
import Presence.Proofs.JsonWriting
import Presence.Proofs.Keys
import Presence.Proofs.Keyspace
import Presence.Proofs.KnownRange
import Presence.Proofs.LedgerAgreement
import Presence.Proofs.LogFilters
import Presence.Proofs.LowerBound
import Presence.Proofs.MergedSettings
import Presence.Proofs.NotificationWire
import Presence.Proofs.OctetOrder
import Presence.Proofs.Overrides
import Presence.Proofs.PayloadAccount
import Presence.Proofs.Permits
import Presence.Proofs.Placement
import Presence.Proofs.ProfileOutage
import Presence.Proofs.Punctuality
import Presence.Proofs.QueueAgreement
import Presence.Proofs.QueueOrder
import Presence.Proofs.RangeChange
import Presence.Proofs.Reading
import Presence.Proofs.Redelivery
import Presence.Proofs.Refusals
import Presence.Proofs.ReminderScan
import Presence.Proofs.Request
import Presence.Proofs.ScanHistory
import Presence.Proofs.ScanOverlap
import Presence.Proofs.ScriptedServers
import Presence.Proofs.Segmentation
import Presence.Proofs.Separation
import Presence.Proofs.SessionMarks
import Presence.Proofs.SessionRefinement
import Presence.Proofs.SimulatedLoop
import Presence.Proofs.SimulatedRun
import Presence.Proofs.Sparing
import Presence.Proofs.StatisticHistory
import Presence.Proofs.StatisticWire
import Presence.Proofs.StoreAgreement
import Presence.Proofs.TimerLoops
import Presence.Proofs.TimerPlaces
import Presence.Proofs.Totals
import Presence.Proofs.Unranged
import Presence.Proofs.UserCalls
import Presence.Proofs.WholeNumbers
import Presence.Query
import Presence.Queue
import Presence.Redis
import Presence.Remote
import Presence.Remote.Address
import Presence.Remote.Relay
import Presence.Remote.Servers
import Presence.Remote.Startup
import Presence.Scan
import Presence.ScanGuard
import Presence.Schedule
import Presence.Service
import Presence.Session
import Presence.Settings
import Presence.Settings.Sources
import Presence.Signed64
import Presence.Simulation
import Presence.Statistic
import Presence.Store
import Presence.Table
import Presence.Text.Blank
import Presence.Text.Decimal
import Presence.Text.Float
import Presence.Toml
import Presence.Toml.Draft
import Presence.Toml.Moment
import Presence.Toml.Number
import Presence.Toml.Reader
import Presence.Toml.Record
import Presence.Toml.Text
import Presence.World
import Presence.Zone
import Presence.Zone.Africa
import Presence.Zone.Alias
import Presence.Zone.America
import Presence.Zone.Asia
import Presence.Zone.Etc
import Presence.Zone.Europe
import Presence.Zone.Ocean
