import Netmuxd.Lib.Run
import Netmuxd.Lib.Star
import Netmuxd.Lib.Loop
import Netmuxd.Lib.Mirror
import Netmuxd.Lib.Talk
import Netmuxd.Lib.Path
import Netmuxd.Lib.Transfer
import Netmuxd.Lib.Source
import Netmuxd.Lib.Feed
import Netmuxd.Lib.Sink
import Netmuxd.Usb.Wire
import Netmuxd.Usb.Reader
import Netmuxd.Usb.Mux
import Netmuxd.Usb.Checked
import Netmuxd.Usb.Tasks
import Netmuxd.Usb.Overlap
import Netmuxd.Usb.Apple
import Netmuxd.Usb.BulkIo
import Netmuxd.Usb.PipeIo
import Netmuxd.Usb.FrameReader
import Netmuxd.Daemon.Devices
import Netmuxd.Daemon.Manager
import Netmuxd.Daemon.System
import Netmuxd.Daemon.Hotplug
import Netmuxd.Daemon.Polling
import Netmuxd.Daemon.Calls
import Netmuxd.Daemon.PairingFile
import Netmuxd.Daemon.TxtRecord
import Netmuxd.Daemon.Identity
import Netmuxd.Daemon.Client
import Netmuxd.Daemon.Listen
import Netmuxd.Daemon.LibusbkBackend
import Netmuxd.Daemon.Options
import Netmuxd.Proofs.Wire
import Netmuxd.Proofs.Link
import Netmuxd.Proofs.Reaction
import Netmuxd.Proofs.Change
import Netmuxd.Proofs.Life
import Netmuxd.Proofs.Codec
import Netmuxd.Proofs.Session
import Netmuxd.Proofs.Checked
import Netmuxd.Proofs.Window
import Netmuxd.Proofs.Parting
import Netmuxd.Proofs.Tasks
import Netmuxd.Proofs.View
import Netmuxd.Proofs.Crosstalk
import Netmuxd.Proofs.Stream
import Netmuxd.Proofs.Stall
import Netmuxd.Proofs.Backlog
import Netmuxd.Proofs.Closing
import Netmuxd.Proofs.SendWindow
import Netmuxd.Proofs.Receive
import Netmuxd.Proofs.Teardown
import Netmuxd.Proofs.Writer
import Netmuxd.Proofs.Addressing
import Netmuxd.Proofs.FailedSend
import Netmuxd.Proofs.Answers
import Netmuxd.Proofs.Lasting
import Netmuxd.Proofs.Independence
import Netmuxd.Proofs.Manager
import Netmuxd.Proofs.Daemon
import Netmuxd.Proofs.Listeners
import Netmuxd.Proofs.Duplicates
import Netmuxd.Proofs.HeartbeatFailure
import Netmuxd.Proofs.Heartbeat
import Netmuxd.Proofs.Tunnels
import Netmuxd.Proofs.UsbTable
import Netmuxd.Proofs.Hotplug
import Netmuxd.Proofs.Polling
import Netmuxd.Proofs.PollingHotplug
import Netmuxd.Proofs.Kinds
import Netmuxd.Proofs.Client
import Netmuxd.Proofs.DeviceIds
import Netmuxd.Proofs.Relay
import Netmuxd.Proofs.PairRecords
import Netmuxd.Proofs.TxtRecord
import Netmuxd.Proofs.Discovery
import Netmuxd.Proofs.Identity
import Netmuxd.Proofs.DescriptorWalk
import Netmuxd.Proofs.MuxSearch
import Netmuxd.Proofs.LocationId
import Netmuxd.Proofs.Options
import Netmuxd.Proofs.BulkWriter
import Netmuxd.Proofs.FrameReader
import Netmuxd.Proofs.PipeReaders
import Netmuxd.Proofs.PipeWriters
import Netmuxd.Proofs.Output
import Netmuxd.Proofs.PairingHotplug
import Netmuxd.Proofs.PairedOnce
import Netmuxd.Proofs.OpenMux
import Netmuxd.Proofs.NusbBackend
import Netmuxd.Proofs.AddDevice
import Netmuxd.Proofs.Pipeline
