import EspCoordinator.Lib.Bytes
import EspCoordinator.Lib.Base64
import EspCoordinator.Lib.Chunked
import EspCoordinator.Lib.Run
import EspCoordinator.Lib.Memory
import EspCoordinator.Lib.Checked
import EspCoordinator.Lib.Scanner
import EspCoordinator.Lib.Incremental
import EspCoordinator.Utils
import EspCoordinator.Protocol
import EspCoordinator.Protocol.Lemmas
import EspCoordinator.Protocol.Buffer
import EspCoordinator.Protocol.Buffer.Theorems
import EspCoordinator.Protocol.Frame
import EspCoordinator.Protocol.Chunking
import EspCoordinator.Protocol.Retained
import EspCoordinator.Protocol.Incremental
import EspCoordinator.Protocol.Delivery
import EspCoordinator.Protocol.Delivery.Theorems
import EspCoordinator.ZbossSerial
import EspCoordinator.ZbossSerial.Lemmas
import EspCoordinator.ZbossSerial.Agreement
import EspCoordinator.ZbossSerial.RoundTrip
import EspCoordinator.Transport
import EspCoordinator.Transport.Path
import EspCoordinator.Transport.Path.Theorems
import EspCoordinator.Transport.Drain
import EspCoordinator.Transport.ProcessInput
import EspCoordinator.Transport.Pump
import EspCoordinator.Transport.Routing
import EspCoordinator.Transport.Routing.Theorems
import EspCoordinator.Transport.Pump.Theorems
import EspCoordinator.Protocol.Sequence
import EspCoordinator.Protocol.Sequence.Theorems
import EspCoordinator.Lib.Nor
import EspCoordinator.Restore
import EspCoordinator.Restore.Upload
import EspCoordinator.Restore.Commit
import EspCoordinator.Restore.ByteTrue
import EspCoordinator.Restore.Latch
import EspCoordinator.Lib.Lease
import EspCoordinator.Lib.Ticks
import EspCoordinator.Resolver
import EspCoordinator.Reply
import EspCoordinator.Resolver.Lemmas
import EspCoordinator.Requests
import EspCoordinator.Requests.Lemmas
import EspCoordinator.RequestProcess
import EspCoordinator.RequestProcess.Theorems
import EspCoordinator.RequestProcess.AddrResponse
import EspCoordinator.RequestProcess.SimpleDesc
import EspCoordinator.RequestProcess.SimpleDesc.Theorems
import EspCoordinator.Apsde
import EspCoordinator.Apsde.Lemmas
import EspCoordinator.Apsde.Watchdog
import EspCoordinator.Apsde.Confirm
import EspCoordinator.Lib.Tlv
import EspCoordinator.Backup
import EspCoordinator.Backup.Web
import EspCoordinator.Backup.Image
import EspCoordinator.Backup.Theorems
import EspCoordinator.Backup.Frame
import EspCoordinator.Backup.Replayable
import EspCoordinator.Backup.Snapshot
import EspCoordinator.Backup.Snapshot.Theorems
import EspCoordinator.Backup.Snapshot.Guard
import EspCoordinator.Lib.Cursor
import EspCoordinator.CommandId
import EspCoordinator.Immediate.Stack
import EspCoordinator.Immediate.StructuredBackup
import EspCoordinator.Backup.Lifecycle
import EspCoordinator.Backup.Lifecycle.Refinement
import EspCoordinator.Backup.Lifecycle.Theorems
import EspCoordinator.Immediate
import EspCoordinator.Immediate.Theorems
import EspCoordinator.Transport.CapacityWait
import EspCoordinator.Lib.Crc
import EspCoordinator.BindTableTool
import EspCoordinator.Utils.Crc
import EspCoordinator.BootGuard
import EspCoordinator.BootGuard.Theorems
import EspCoordinator.NwkFormation
import EspCoordinator.RequestProcess.ListResponse
import EspCoordinator.RequestProcess.ListResponse.Theorems
import EspCoordinator.RequestProcess.BindTable
import EspCoordinator.Backup.Pull
import EspCoordinator.Backup.Pull.Theorems
import EspCoordinator.Backup.Pull.Page
import EspCoordinator.Apsde.Forward
import EspCoordinator.Apsde.Forward.Theorems
import EspCoordinator.Apsde.Forward.Carried
import EspCoordinator.Backup.Pull.Refinement
import EspCoordinator.Backup.File
import EspCoordinator.Backup.File.Theorems
import EspCoordinator.Lib.Channel
import EspCoordinator.Immediate.Service
import EspCoordinator.Session.Theorems
import EspCoordinator.NcpReset.Theorems
import EspCoordinator.Commissioning.Theorems
import EspCoordinator.Lib.Credit
import EspCoordinator.Device
import EspCoordinator.Device.Theorems
import EspCoordinator.Lib.Packed
import EspCoordinator.RequestProcess.Outgoing
import EspCoordinator.RequestProcess.Outgoing.Theorems
import EspCoordinator.Firmware
import EspCoordinator.Indication
import EspCoordinator.Indication.Theorems
import EspCoordinator.Lib.Client
import EspCoordinator.BindTableTool.Main
import EspCoordinator.BindTableTool.Requests
import EspCoordinator.BindTableTool.Network
import EspCoordinator.BindTableTool.Network.Lemmas
import EspCoordinator.BindTableTool.Network.Kept
import EspCoordinator.BindTableTool.Network.Prompt
import EspCoordinator.BindTableTool.Modes
import EspCoordinator.BindTableTool.Cleanup
import EspCoordinator.BindTableTool.Probe
import EspCoordinator.BindTableTool.Link
