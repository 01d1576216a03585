import Switchboard.Address
import Switchboard.Aggregation
import Switchboard.Answering
import Switchboard.Binding
import Switchboard.CallControl
import Switchboard.CallError
import Switchboard.CallFacts
import Switchboard.CallState
import Switchboard.Capability
import Switchboard.Carrier
import Switchboard.Conference
import Switchboard.Configuration
import Switchboard.Connection
import Switchboard.Device
import Switchboard.Dialing
import Switchboard.Disconnect
import Switchboard.Document
import Switchboard.Document.Reading
import Switchboard.Document.Writing
import Switchboard.DomainSelection
import Switchboard.EmergencyNumbers
import Switchboard.EmergencyRoles
import Switchboard.Exchange
import Switchboard.HoldTracker
import Switchboard.Identity
import Switchboard.Logging.Config
import Switchboard.Logging.Directive
import Switchboard.Logging.Filter
import Switchboard.Logging.Level
import Switchboard.Media
import Switchboard.Named
import Switchboard.Network
import Switchboard.Placement
import Switchboard.Program
import Switchboard.Radio
import Switchboard.RecordField
import Switchboard.Redial
import Switchboard.Rehearsal.Cast
import Switchboard.Rehearsal.Minutes
import Switchboard.Rehearsal.Report
import Switchboard.Rehearsal.Run
import Switchboard.Rehearsal.Script
import Switchboard.Rehearsal.Sheet
import Switchboard.Rehearsal.Stage
import Switchboard.RetryQueue
import Switchboard.Schedule
import Switchboard.Selection
import Switchboard.Settings
import Switchboard.Subscriptions
import Switchboard.System
import Switchboard.Text
import Switchboard.Text.Alphanumeric
import Switchboard.Update
import Switchboard.Yaml.Node
import Switchboard.Yaml.Reader
import Switchboard.Yaml.Scalar
import Switchboard.Yaml.Source
import Switchboard.Proofs.Addresses
import Switchboard.Proofs.ConferenceEnd
import Switchboard.Proofs.Frames
import Switchboard.Proofs.Outcome
import Switchboard.Proofs.Ripple
import Switchboard.Proofs.Settling
import Switchboard.Proofs.Publishing
import Switchboard.Proofs.Hearing
import Switchboard.Proofs.Changes
import Switchboard.Proofs.Handling
import Switchboard.Proofs.ConnectedCalls
import Switchboard.Proofs.Laws
import Switchboard.Proofs.PublishedStates
import Switchboard.Proofs.Closing
import Switchboard.Proofs.Office
import Switchboard.Proofs.Duties
import Switchboard.Proofs.Effects
import Switchboard.Proofs.Safety
import Switchboard.Proofs.Commands
import Switchboard.Proofs.Attempts
import Switchboard.Proofs.Placing
import Switchboard.Proofs.Enrolling
import Switchboard.Proofs.TaskDuties
import Switchboard.Proofs.Occasions
import Switchboard.Proofs.Routing
import Switchboard.Proofs.Accounts
import Switchboard.Proofs.Cancelling
import Switchboard.Proofs.Dials
import Switchboard.Proofs.Failures
import Switchboard.Proofs.Diary
import Switchboard.Proofs.ConnectionLaws
import Switchboard.Proofs.ConnectionInvariant
import Switchboard.Proofs.InvariantUpdates
import Switchboard.Proofs.InvariantLevels
import Switchboard.Proofs.Assurances
import Switchboard.Proofs.Fairness
import Switchboard.Proofs.EndListeners
import Switchboard.Proofs.OutsideSteps
import Switchboard.Proofs.Causes
import Switchboard.Proofs.Courses
import Switchboard.Proofs.Rounds
import Switchboard.Proofs.Sequences
import Switchboard.Proofs.Verdicts
import Switchboard.Proofs.Recalculation
import Switchboard.Proofs.BookUpdates
import Switchboard.Proofs.Books
import Switchboard.Proofs.Entering
import Switchboard.Proofs.TaskSteps
import Switchboard.Proofs.Trace
import Switchboard.Proofs.Conferences
import Switchboard.Proofs.Restriction
import Switchboard.Proofs.Alone
import Switchboard.Proofs.CrossSubscription
import Switchboard.Proofs.Interleaving
import Switchboard.Proofs.TaskNotes
import Switchboard.Proofs.MakingRoom
import Switchboard.Proofs.Rejections
import Switchboard.Proofs.Selections
import Switchboard.Proofs.Licences
import Switchboard.Proofs.SelectorRequests
import Switchboard.Proofs.Limits
import Switchboard.Proofs.RegistryLosses
import Switchboard.Proofs.RegistryConsistency
import Switchboard.Proofs.Turns
import Switchboard.Proofs.PlacementSteps
import Switchboard.Proofs.Agreement
import Switchboard.Proofs.HostedPrograms
import Switchboard.Proofs.HostedPlacements
import Switchboard.Proofs.Rotation
import Switchboard.Proofs.Ranking
import Switchboard.Proofs.ObserverUpdates
import Switchboard.Proofs.Membership
import Switchboard.Proofs.Reentry
import Switchboard.Proofs.Staleness
import Switchboard.Proofs.SequenceCounts
import Switchboard.Proofs.Bridges
import Switchboard.Proofs.LegOwners
import Switchboard.Proofs.WiringComparison
