import ManagementServer.Client
import ManagementServer.Main
import ManagementServer.Server.Removal
import ManagementServer.Proofs.Action
import ManagementServer.Proofs.SessionRegistry
import ManagementServer.Proofs.SharedState
import ManagementServer.Proofs.ConnectionLoop
import ManagementServer.Proofs.Runs
import ManagementServer.Proofs.Validity
import ManagementServer.Proofs.Carriage
import ManagementServer.Proofs.Answers
import ManagementServer.Proofs.Conversation
import ManagementServer.Proofs.ModuleRegistry
import ManagementServer.Proofs.RegistryHistory
import ManagementServer.Proofs.ModuleLifetimes
import ManagementServer.Proofs.CapabilityRouting
import ManagementServer.Proofs.CapabilitySets
import ManagementServer.Proofs.CatalogPlan
import ManagementServer.Proofs.CatalogSync
import ManagementServer.Proofs.Reports
import ManagementServer.Proofs.CatalogFailures
import ManagementServer.Proofs.CatalogResync
import ManagementServer.Proofs.Isolation
import ManagementServer.Proofs.Containment
import ManagementServer.Proofs.Provenance
import ManagementServer.Proofs.FanOut
import ManagementServer.Proofs.JsonMerge
import ManagementServer.Proofs.ReplyMerge
import ManagementServer.Proofs.DeclaredOperations
import ManagementServer.Proofs.Attendance
import ManagementServer.Proofs.Stopping
import ManagementServer.Proofs.ServerReports
import ManagementServer.Proofs.SessionReports
import ManagementServer.Proofs.Shutdown
import ManagementServer.Proofs.Release
import ManagementServer.Proofs.BusHistory
import ManagementServer.Proofs.DeliveryMoves
import ManagementServer.Proofs.DeliveryCourse
import ManagementServer.Proofs.SubscriptionSteps
import ManagementServer.Proofs.SubscriptionTurns
import ManagementServer.Proofs.ReplyGate
import ManagementServer.Proofs.Crowd
import ManagementServer.Proofs.LateSubscription
import ManagementServer.Proofs.KillSession
import ManagementServer.Proofs.SubscriberNumbers
import ManagementServer.Proofs.SubscriptionRequests
import ManagementServer.Proofs.SubscriptionDesk
import ManagementServer.Proofs.RefusedSubscription
import ManagementServer.Proofs.TimestampText
import ManagementServer.Proofs.SubscriptionWindows
import ManagementServer.Proofs.SessionHistory
import ManagementServer.Proofs.SystemModule
import ManagementServer.Proofs.ConfigurationEvents
import ManagementServer.Proofs.ClockSetting
import ManagementServer.Proofs.AddressText
import ManagementServer.Proofs.HostNames
import ManagementServer.Proofs.NtpServers
import ManagementServer.Proofs.UrlPaths
import ManagementServer.Proofs.EndpointText
import ManagementServer.Proofs.AddressCharacters
import ManagementServer.Proofs.UrlHosts
import ManagementServer.Proofs.CanonicalEndpoints
import ManagementServer.Proofs.AddressEndpoints
import ManagementServer.Proofs.SystemInvariant
import ManagementServer.Proofs.Utf8
import ManagementServer.Proofs.JsonValues
import ManagementServer.Proofs.Descriptors
import ManagementServer.Proofs.JsonText
import ManagementServer.Proofs.RecordReading
import ManagementServer.Proofs.RoundTrip
import ManagementServer.Proofs.LineSplit
import ManagementServer.Proofs.ClientReading
import ManagementServer.Proofs.ClientCalls
