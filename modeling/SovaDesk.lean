import SovaDesk.Relay.OneToOne
import SovaDesk.Relay.Uncut
import SovaDesk.Relay.Accounting
import SovaDesk.Relay.SessionSlots
import SovaDesk.Api.OrgAdministration
import SovaDesk.Api.OrgDevices
import SovaDesk.Api.OrgPasswords
import SovaDesk.Api.SelfTOTP
import SovaDesk.Api.ClientSessions
import SovaDesk.Api.TokenScope
import SovaDesk.Api.Pages
import SovaDesk.Billing.Conservation
import SovaDesk.Billing.Suspension
import SovaDesk.Billing.Columns
import SovaDesk.Billing.Finalized
import SovaDesk.Billing.Reports
import SovaDesk.Billing.Split
import SovaDesk.Signal.Identity
import SovaDesk.Signal.Rename
import SovaDesk.Signal.Deleted
import SovaDesk.Signal.Blocked
import SovaDesk.Signal.Verdict
import SovaDesk.Signal.Initiators
import SovaDesk.Signal.Sessions
import SovaDesk.Signal.Enrollment
import SovaDesk.Signal.Unbilled
import SovaDesk.Signal.Panics
import SovaDesk.Signal.Allowlist
import SovaDesk.Signal.ResolvedRelay
import SovaDesk.Signal.Recovery
import SovaDesk.Signal.Fallback
import SovaDesk.Cdap.Isolation
import SovaDesk.Codec.Framing
import SovaDesk.Crypto.Secure
import SovaDesk.GuestAccess.Revocation
import SovaDesk.GuestAccess.Listing
import SovaDesk.Meshcentral.RelayTunnels
import SovaDesk.Meshcentral.Registry
import SovaDesk.Meshcentral.NewestAgent
import SovaDesk.Meshcentral.Handshake
import SovaDesk.Policy.Network
import SovaDesk.Security.Blocklist
import SovaDesk.Security.Spelling
import SovaDesk.Security.Unblocking
import SovaDesk.Api.APIKeys
import SovaDesk.Api.PeerScope
import SovaDesk.Peer.Tiers
import SovaDesk.Peer.Liveness
import SovaDesk.Users.LastAdmin
import SovaDesk.Users.RecoveryCodes
import SovaDesk.Users.Edits
import SovaDesk.Tokens.Limits
import SovaDesk.Db.Rename
import SovaDesk.Db.KeyRegistration
import SovaDesk.Db.IDChange
import SovaDesk.Cdap.Newest
import SovaDesk.Cdap.Outliving
import SovaDesk.Cdap.DesktopFrames
import SovaDesk.Agent.JPEGFrames
import SovaDesk.Console.Backup
import SovaDesk.Console.BackupArchive
import SovaDesk.Console.DeviceScope
import SovaDesk.Console.BdRelay
import SovaDesk.Console.FileTransfer
import SovaDesk.Console.RemoteRelay
import SovaDesk.Console.SafePath
import SovaDesk.Console.SsrfGuard
import SovaDesk.Rdclient.Crypto
import SovaDesk.Ratelimit.Bandwidth
import SovaDesk.Ratelimit.IPLimiter
import SovaDesk.Ratelimit.Polling
import SovaDesk.Ratelimit.Refill
import SovaDesk.Ratelimit.ThrottledWrite
import SovaDesk.Peer.Degradation
import SovaDesk.Api.PanelScope
import SovaDesk.Audit.Logger
import SovaDesk.Events.Bus
import SovaDesk.Api.TFASessions
import SovaDesk.Tokens.Expiry
import SovaDesk.Cdap.Delegations
import SovaDesk.Meshcentral.Cookies
import SovaDesk.Api.AddressBookScope
import SovaDesk.Lib.LikePattern
import SovaDesk.Db.Patterns
import SovaDesk.Crypto.AddrMangle
import SovaDesk.Signal.StoredUUID
import SovaDesk.Agent.HeaderParsers
import SovaDesk.Cdap.Manifests
import SovaDesk.Cdap.Alerts
import SovaDesk.Console.AlertRules
import SovaDesk.Lib.Sha256
import SovaDesk.Rdclient.Fallback
import SovaDesk.Agent.FileBrowser
import SovaDesk.Agent.FileTransfer
import SovaDesk.Agent.AnnexB
import SovaDesk.Console.EnvMerge
