import Lb.Ring
import Lb.Probing
import Lb.Addr
import Lb.Runs
import Lb.Packet
import Lb.Connections
import Lb.Slots
import Lb.Maglev
import Lb.Applier
import Lb.Feed
import Lb.Maps
import Lb.Orchestrator
import Lb.Rebuilds
import Lb.Validator
import Lb.Announcements
import Lb.Speaker
import Lb.Fragments
import Lb.Buffer
import Lb.Mtu
import Lb.Gre
import Lb.Vips
import Lb.Rewriter
import Lb.Pinning
import Lb.Affinity
import Lb.Failover
import Lb.Interleavings
import Lb.Reload
import Lb.Threading
import Lb.Agreement
import Lb.Pipeline
import Lb.Census
import Lb.Ownership
import Lb.Steering
import Lb.Drain
import Lb.Checker
import Lb.Oversized
import Lb.Checked
import Lb.Panics
import Lb.Tracer
import Lb.Framing
import Lb.Rfc4271
import Lb.Messages
import Lb.Handshake
import Lb.Integrity
import Lb.Headers
import Lb.Copies
import Lb.Tracking
import Lb.Rejections
import Lb.Mappings
import Lb.OnesComplement
import Lb.Checksums
import Lb.Clamping
import Lb.Tunnel
import Lb.Xsk
import Lb.DataPath
import Lb.Icmp
import Lb.Isolation
import Lb.Preferences
import Lb.Rounds
import Lb.Shares
import Lb.Evidence
import Lb.Utf8
import Lb.Probes
import Lb.Resync
import Lb.Time
import Lb.Timers
import Lb.Backoff
import Lb.Compaction
import Lb.Batches
import Lb.Accounting
import Lb.HomeSlots
import Lb.Text
import Lb.Durations
import Lb.FlowKeys
import Lb.Watcher
import Lb.Transfers
import Lb.AddrText
import Lb.Endpoints
import Lb.Serde
import Lb.Cache
import Lb.Monitoring
import Lb.Shutdown
import Lb.Takeover
import Lb.Draining
import Lb.Keepalives
import Lb.Relays
import Lb.Staleness
import Lb.Detection
import Lb.Fairness
