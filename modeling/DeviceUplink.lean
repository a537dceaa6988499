import DeviceUplink.Channel.Reader
import DeviceUplink.Exchange
import DeviceUplink.Main
import DeviceUplink.Proofs.Channel.Attribution
import DeviceUplink.Proofs.Coordinator.Rotation
import DeviceUplink.Proofs.Frame.Segmentation
import DeviceUplink.Reachability
import DeviceUplink.Simulation.Client
import DeviceUplink.Proofs.Frame.RoundTrip
import DeviceUplink.Proofs.Channel.Deed
import DeviceUplink.Proofs.Channel.SessionKey
import DeviceUplink.Proofs.Channel.Conversation
import DeviceUplink.Proofs.Channel.Writing
import DeviceUplink.Proofs.Channel.WireOrder
import DeviceUplink.Proofs.Channel.World
import DeviceUplink.Proofs.Channel.Cuts
import DeviceUplink.Proofs.Channel.Tidings
import DeviceUplink.Proofs.Channel.Delivery
import DeviceUplink.Proofs.Switchboard.Custody
import DeviceUplink.Proofs.Switchboard.Selection
import DeviceUplink.Proofs.Switchboard.Agreement
import DeviceUplink.Proofs.Channel.Lateness
import DeviceUplink.Proofs.Failover.History
import DeviceUplink.Proofs.Channel.Silence
import DeviceUplink.Proofs.Crypto.Handshake
import DeviceUplink.Proofs.Channel.Bookkeeping
import DeviceUplink.Proofs.Frame.Residue
import DeviceUplink.Proofs.Switchboard.Passes
import DeviceUplink.Proofs.Coordinator.Signals
import DeviceUplink.Proofs.Failover.Backoff
import DeviceUplink.Proofs.Channel.Rekeying
import DeviceUplink.Proofs.Channel.Retargeting
import DeviceUplink.Proofs.Channel.Asking
import DeviceUplink.Proofs.Channel.Syncing
import DeviceUplink.Proofs.Crypto.Opening
import DeviceUplink.Proofs.Channel.Inertness
import DeviceUplink.Proofs.Settings.ServerList
import DeviceUplink.Proofs.Settings.Layers
import DeviceUplink.Proofs.KeepAlive.Schedule
import DeviceUplink.Proofs.Channel.Effects
import DeviceUplink.Proofs.Frame.SevenBits
import DeviceUplink.Proofs.Coordinator.Endpoints
