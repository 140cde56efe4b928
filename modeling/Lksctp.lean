import Lksctp.Types
import Lksctp.Addr
import Lksctp.AddrList
import Lksctp.Cmsg
import Lksctp.CmsgWalk
import Lksctp.NotificationLayout
import Lksctp.NotificationBounds
import Lksctp.Machine.Program
import Lksctp.Machine.System
import Lksctp.Machine.Ledger
import Lksctp.Machine.Simulation
import Lksctp.Params
import Lksctp.Uapi
import Lksctp.Syscall
import Lksctp.FdLogic
import Lksctp.Files
import Lksctp.Socket.Reads
import Lksctp.Socket.Reassembly
import Lksctp.Socket.Metadata
import Lksctp.Socket.Send
import Lksctp.Socket.Addrs
import Lksctp.Socket.Bindx
import Lksctp.Socket.Timeout
import Lksctp.Socket.Lifecycle
import Lksctp.Socket.LifecycleSpec
import Lksctp.Socket.OptionAbi
import Lksctp.Socket.Hostile
import Lksctp.Net.Connect
import Lksctp.Net.Readers
import Lksctp.Net.Async
import Lksctp.Net.Objects
import Lksctp.Net.Ownership
import Lksctp.Net.Safety
import Lksctp.Net.Abort
import Lksctp.Net.Delivery
import Lksctp.Net.Code
import Lksctp.Net.Messages
