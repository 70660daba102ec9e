import SingboxVpn.Lib.Json
import SingboxVpn.Lib.FirstMatch
import SingboxVpn.Lib.Addr
import SingboxVpn.Lib.Text
import SingboxVpn.Model
import SingboxVpn.Authorization
import SingboxVpn.Deployment
import SingboxVpn.Server.Rules
import SingboxVpn.Server.Render
import SingboxVpn.Core
import SingboxVpn.Server.Blocks
import SingboxVpn.Server.Shape
import SingboxVpn.Server.Relay
import SingboxVpn.Server.Isolation
import SingboxVpn.Server.Exit
import SingboxVpn.Server.Doctor
import SingboxVpn.Server.DoctorSoundness
import SingboxVpn.Admin.Users
import SingboxVpn.Admin.Confinement
import SingboxVpn.Contract
import SingboxVpn.Server.Entries
import SingboxVpn.Admin.Agreement
import SingboxVpn.Admin.External
import SingboxVpn.Lib.Run
import SingboxVpn.Admin.Expiry
import SingboxVpn.Admin.LeasePool
import SingboxVpn.Admin.Writers
import SingboxVpn.Agent.ReportQueue
import SingboxVpn.Agent.Jobs
import SingboxVpn.Agent.Snapshot
import SingboxVpn.Agent.External
import SingboxVpn.Agent.LeasePool
import SingboxVpn.Agent.Batching
import SingboxVpn.Agent.Generations
import SingboxVpn.Agent.WriteAhead
import SingboxVpn.Admin.Apply
import SingboxVpn.Admin.Host
import SingboxVpn.Admin.Recovery
import SingboxVpn.Admin.Rotate
import SingboxVpn.StaticRevision
import SingboxVpn.Admin.StaticApply
import SingboxVpn.Admin.Revision
import SingboxVpn.CredentialPolicy
import SingboxVpn.Store
import SingboxVpn.Admin.LeaseSync
import SingboxVpn.Agent.AppliedFlag
import SingboxVpn.Agent.Acceptable
import SingboxVpn.Client.Document
import SingboxVpn.Client.Render
import SingboxVpn.Client.Provision
import SingboxVpn.Client.PrivacyClass
import SingboxVpn.Client.Agreement
import SingboxVpn.Client.Subscription
import SingboxVpn.Client.Audit
import SingboxVpn.Client.Servable
import SingboxVpn.Client.Withdrawal
import SingboxVpn.Client.Diagnostics
import SingboxVpn.Client.FromJson
import SingboxVpn.AddressPolicy
import SingboxVpn.AuthorizationExact
import SingboxVpn.CredentialArithmetic
import SingboxVpn.Admin.Restore
import SingboxVpn.AuthorizationRenewal
import SingboxVpn.Agent.Pacing
import SingboxVpn.Agent.Wakeups
import SingboxVpn.Agent.OpDedup
import SingboxVpn.Agent.SyncEffects
import SingboxVpn.DeploymentRoutes
import SingboxVpn.Lib.Lines
import SingboxVpn.Migration
import SingboxVpn.StaticFrame
import SingboxVpn.Lib.Utf8
import SingboxVpn.Lib.Pieces
import SingboxVpn.Framing
import SingboxVpn.Lib.Stretch
import SingboxVpn.Admin.Redact
import SingboxVpn.Lib.Locked
import SingboxVpn.Admin.Concurrent
import SingboxVpn.Pairing
import SingboxVpn.Admin.Pairing
