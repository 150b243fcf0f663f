import RotatorProxy.Config.AppConfig
import RotatorProxy.Config.Startup
import RotatorProxy.Config.StatusRanges
import RotatorProxy.Health.Behind
import RotatorProxy.Health.Check
import RotatorProxy.Health.Effect
import RotatorProxy.Health.Prepared
import RotatorProxy.Health.Probe
import RotatorProxy.Health.Program
import RotatorProxy.Health.Refresh
import RotatorProxy.Health.Rounds
import RotatorProxy.Health.Schedule
import RotatorProxy.Health.Scheduler
import RotatorProxy.Health.Target
import RotatorProxy.Hysteria.Aligned
import RotatorProxy.Hysteria.InPlace
import RotatorProxy.Hysteria.Messages
import RotatorProxy.Hysteria.Packets
import RotatorProxy.Hysteria.Receive
import RotatorProxy.Hysteria.Request
import RotatorProxy.Hysteria.Send
import RotatorProxy.Hysteria.Session
import RotatorProxy.Hysteria.XPlus
import RotatorProxy.Library.Chunks
import RotatorProxy.Library.Delimited
import RotatorProxy.Library.Dialogue
import RotatorProxy.Library.Expiry
import RotatorProxy.Library.Infix
import RotatorProxy.Library.Keyed
import RotatorProxy.Library.Locks
import RotatorProxy.Library.Outcome
import RotatorProxy.Library.Replace
import RotatorProxy.Library.Run
import RotatorProxy.Library.Saves
import RotatorProxy.Library.Sections
import RotatorProxy.Library.Shifts
import RotatorProxy.Library.Workers
import RotatorProxy.Library.Worklist
import RotatorProxy.Link.Address
import RotatorProxy.Link.Credentials
import RotatorProxy.Link.Expansion
import RotatorProxy.Link.Loading
import RotatorProxy.Link.Native
import RotatorProxy.Link.Secrets
import RotatorProxy.Link.Sources
import RotatorProxy.Link.Url
import RotatorProxy.Mihomo.Batches
import RotatorProxy.Mihomo.Build
import RotatorProxy.Mihomo.Clash
import RotatorProxy.Mihomo.Document
import RotatorProxy.Mihomo.EmptyName
import RotatorProxy.Mihomo.Endpoints
import RotatorProxy.Mihomo.Fields
import RotatorProxy.Mihomo.Gate
import RotatorProxy.Mihomo.Generation
import RotatorProxy.Mihomo.HysteriaLink
import RotatorProxy.Mihomo.Keys
import RotatorProxy.Mihomo.Links
import RotatorProxy.Mihomo.Reach
import RotatorProxy.Mihomo.ServerName
import RotatorProxy.Mihomo.Settings
import RotatorProxy.Mihomo.Transport
import RotatorProxy.Mihomo.Yaml
import RotatorProxy.Outbound.Accounting
import RotatorProxy.Outbound.Connector
import RotatorProxy.Outbound.Exhaustion
import RotatorProxy.Outbound.Framing
import RotatorProxy.Outbound.Handshakes
import RotatorProxy.Outbound.Metadata
import RotatorProxy.Outbound.Resource
import RotatorProxy.Outbound.Socks4
import RotatorProxy.Outbound.Socks5
import RotatorProxy.Outbound.Traffic
import RotatorProxy.Outbound.Tunnel
import RotatorProxy.Proxy.Admission
import RotatorProxy.Proxy.Agreement
import RotatorProxy.Proxy.Attempts
import RotatorProxy.Proxy.Authority
import RotatorProxy.Proxy.Calls
import RotatorProxy.Proxy.Candidates
import RotatorProxy.Proxy.Cooldown
import RotatorProxy.Proxy.Durability
import RotatorProxy.Proxy.Entering
import RotatorProxy.Proxy.Filed
import RotatorProxy.Proxy.Interleaving
import RotatorProxy.Proxy.Invariant
import RotatorProxy.Proxy.Lifecycle
import RotatorProxy.Proxy.Linked
import RotatorProxy.Proxy.Locking
import RotatorProxy.Proxy.Looking
import RotatorProxy.Proxy.Merging
import RotatorProxy.Proxy.Node
import RotatorProxy.Proxy.Panics
import RotatorProxy.Proxy.Pool
import RotatorProxy.Proxy.Reports
import RotatorProxy.Proxy.Restart
import RotatorProxy.Proxy.Retirement
import RotatorProxy.Proxy.Saving
import RotatorProxy.Proxy.Scan
import RotatorProxy.Proxy.Selection
import RotatorProxy.Proxy.Stale
import RotatorProxy.Proxy.TargetAddr
import RotatorProxy.Server.Conversation
import RotatorProxy.Server.Destinations
import RotatorProxy.Server.Forwarding
import RotatorProxy.Server.Heads
import RotatorProxy.Server.Http
import RotatorProxy.Server.Lines
import RotatorProxy.Server.Listener
import RotatorProxy.Server.Relay
import RotatorProxy.Server.Socks5
import RotatorProxy.Server.Spellings
import RotatorProxy.Text.Base64
import RotatorProxy.Text.Casing
import RotatorProxy.Text.IpAddr
import RotatorProxy.Text.LiteralCase
import RotatorProxy.Text.Literals
import RotatorProxy.Text.Lossy
import RotatorProxy.Text.Octets
import RotatorProxy.Text.Percent
import RotatorProxy.Text.Pieces
import RotatorProxy.Text.Split
import RotatorProxy.Text.Str
