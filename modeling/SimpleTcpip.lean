import SimpleTcpip.Lib.Fallible
import SimpleTcpip.Lib.Lists
import SimpleTcpip.Lib.Memory
import SimpleTcpip.Lib.OnesComplement
import SimpleTcpip.Model.Fixture
import SimpleTcpip.Proofs.Accept
import SimpleTcpip.Proofs.ArpTable
import SimpleTcpip.Proofs.ByteOrder
import SimpleTcpip.Proofs.Calls
import SimpleTcpip.Proofs.Changes
import SimpleTcpip.Proofs.Checksum
import SimpleTcpip.Proofs.Close
import SimpleTcpip.Proofs.Delivery
import SimpleTcpip.Proofs.Effect
import SimpleTcpip.Proofs.Forwarding
import SimpleTcpip.Proofs.Frame
import SimpleTcpip.Proofs.HeaderChecksum
import SimpleTcpip.Proofs.Ownership
import SimpleTcpip.Proofs.Send
import SimpleTcpip.Proofs.Custody
import SimpleTcpip.Proofs.Peers
import SimpleTcpip.Proofs.Window
import SimpleTcpip.Proofs.Accounting
import SimpleTcpip.Proofs.Room
import SimpleTcpip.Proofs.Stops
import SimpleTcpip.Proofs.Wire
import SimpleTcpip.Proofs.Budget
import SimpleTcpip.Proofs.TcpChecksum
import SimpleTcpip.Proofs.Reception
import SimpleTcpip.Proofs.Replies
import SimpleTcpip.Proofs.Corrupt
import SimpleTcpip.Proofs.Isolation
import SimpleTcpip.Lib.Registry
import SimpleTcpip.Proofs.Sockets
import SimpleTcpip.Proofs.Hops
import SimpleTcpip.Proofs.Routes
import SimpleTcpip.Proofs.Addresses
import SimpleTcpip.Proofs.Prefix
import SimpleTcpip.Proofs.Transmission
import SimpleTcpip.Proofs.Detection
import SimpleTcpip.Proofs.Outcome
import SimpleTcpip.Proofs.Atomic
import SimpleTcpip.Proofs.Echo
import SimpleTcpip.Proofs.Disposal
import SimpleTcpip.Proofs.Ways
import SimpleTcpip.Proofs.Exchange
import SimpleTcpip.Lib.Messages
import SimpleTcpip.Proofs.Datagrams
import SimpleTcpip.Proofs.Topology
import SimpleTcpip.Proofs.MacAddress
import SimpleTcpip.Model.Program
import SimpleTcpip.Proofs.OwnAddress
import SimpleTcpip.Proofs.Ping
import SimpleTcpip.Model.Flood
import SimpleTcpip.Proofs.Flood
import SimpleTcpip.Proofs.PortSharing
import SimpleTcpip.Proofs.Subnets
import SimpleTcpip.Model.CommUdp
import SimpleTcpip.Proofs.CommUdp
import SimpleTcpip.Proofs.Bookkeeping
import SimpleTcpip.Lib.Ring
import SimpleTcpip.Model.ListHead
import SimpleTcpip.Proofs.ListHead
import SimpleTcpip.Proofs.Slots
import SimpleTcpip.Proofs.Unlink
import SimpleTcpip.Proofs.Wiring
import SimpleTcpip.Proofs.Teardown
import SimpleTcpip.Proofs.Demux
import SimpleTcpip.Proofs.Stream
import SimpleTcpip.Lib.Ledger
import SimpleTcpip.Proofs.Traffic
import SimpleTcpip.Proofs.Balance
import SimpleTcpip.Proofs.Network
import SimpleTcpip.Proofs.Quiescence
import SimpleTcpip.Proofs.Conservation
import SimpleTcpip.Proofs.Arrival
import SimpleTcpip.Proofs.Harmless
import SimpleTcpip.Proofs.Passage
import SimpleTcpip.Proofs.Asking
import SimpleTcpip.Proofs.AllArrive
