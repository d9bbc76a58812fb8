import BetterDesk.Auth.OidcOneTime
import BetterDesk.Auth.OidcRoles
import BetterDesk.Relay.Pairing
import BetterDesk.Relay.Accounting
import BetterDesk.Relay.Outcome
import BetterDesk.Relay.AuthWait
import BetterDesk.Billing.ChargedOnce
import BetterDesk.Billing.Suspension
import BetterDesk.Billing.SessionStatus
import BetterDesk.Api.OrgLogin
import BetterDesk.Api.Escalation
import BetterDesk.Api.OrgBoundary
import BetterDesk.Api.AccountRaces
import BetterDesk.Api.ProviderBinding
import BetterDesk.RemoteTarget.Confinement
import BetterDesk.RemoteTarget.Tenancy
import BetterDesk.Enrollment.TokenClaims
import BetterDesk.Enrollment.OutcomeClaims
import BetterDesk.Policy.Freshness
import BetterDesk.Signal.RelayPolicy
import BetterDesk.Signal.PendingIndex
import BetterDesk.Signal.TransportRoutes
import BetterDesk.Signal.PunchFallback
import BetterDesk.Signal.LanExchange
import BetterDesk.Signal.PeerStores
import BetterDesk.Signal.Acceptance
import BetterDesk.Signal.Slices
import BetterDesk.GuestAccess.Links
import BetterDesk.SessionGrant.Binding
import BetterDesk.Device.Durability
import BetterDesk.Device.Rollout
import BetterDesk.AddressBook.ScopeWrites
import BetterDesk.Mgmt.Routing
import BetterDesk.Mgmt.Replay
import BetterDesk.Panel.RestartRuns
import BetterDesk.Panel.SecondRun
import BetterDesk.Panel.UserIds
import BetterDesk.RdClient.Receiving
import BetterDesk.RdClient.Downloads
import BetterDesk.Cdap.Removal
import BetterDesk.MeshCentral.RelayPairing
import BetterDesk.Api.SessionLifetime
import BetterDesk.Policy.RelayHosts
import BetterDesk.Billing.MonthCrossing
import BetterDesk.Panel.SessionStore
import BetterDesk.Panel.BdRelay
import BetterDesk.Device.Telemetry
import BetterDesk.GuestAccess.RelayBridge
import BetterDesk.RdClient.FileUpload
import BetterDesk.Policy.DeviceAgreement
import BetterDesk.Panel.ChatTwoRuns
import BetterDesk.RateLimit.IPLimiter
import BetterDesk.Api.PendingTfa
import BetterDesk.Device.TotpLock
import BetterDesk.Signal.PeerStatus
import BetterDesk.Signal.UuidRecord
import BetterDesk.Signal.AddressForms
import BetterDesk.Security.BlocklistFile
import BetterDesk.RateLimit.BandwidthLimits
import BetterDesk.AddressBook.View
import BetterDesk.RdClient.Sha256
import BetterDesk.Panel.FileTransfer
import BetterDesk.MeshCentral.Handshake
import BetterDesk.Panel.BackupArchive
import BetterDesk.MeshCentral.Registration
