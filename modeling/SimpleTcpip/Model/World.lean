/-
The data model: what the process holds in memory.

Records the source reaches through pointers are reached here through numbers: a
node, an interface, a socket, a connection.  Nodes, interfaces, links, sockets and
connections live in maps that hold `none` where nothing was allocated or it was
freed.  The tables the source embeds in a node or an interface (`arp_table`,
`rt_table`, `udp_socks_manager`, `tcp_socks_manager`) are maps keyed by that node
or interface.  An intrusive list is a list whose head is `next` of the list head,
so that `list_add` is `::` and `list_last_entry` is `getLast?`.

Socket buffers are passed by value, each with the identity of its allocation: a
function that keeps one links it in a queue, and no two queues share one.

Three fields of `World` are not in the source.  `trace` records the calls that the
properties speak about and that leave no other mark; no function reads it.
`sysSend` says what each `sendto` or `write` returns.  `checked` makes a run stop
when it reads a header byte that is not in the packet, as a memory checker would;
it changes nothing else.
-/
import SimpleTcpip.Model.Utils

namespace SimpleTcpip

abbrev NodeId := Nat
abbrev IntfId := Nat
abbrev LinkId := Nat
abbrev SockId := Nat
abbrev ConnId := Nat
abbrev SkbId := Nat

/-! ### Socket buffers -/

/--
`struct sk_buff`.  Pointers into the buffer are offsets from `head`.
`ethernet_hdr` and `tcp_hdr` are written by the source and never read, and are left
out.
-/
structure SkBuff where
  /-- Which allocation this is. -/
  id : SkbId
  intf : Option IntfId
  ipHdr : Option Nat
  udpHdr : Option Nat
  len : Nat
  data : Nat
  tail : Nat
  /-- `end`: one past the last byte of the buffer. -/
  limit : Nat
  /-- The bytes from `head` on. -/
  mem : Memory

namespace SkBuff

/-- The bytes the buffer carries: `len` bytes from `data`. -/
def bytes (skb : SkBuff) : List UInt8 := skb.mem.read skb.data skb.len

def store8 (skb : SkBuff) (p : Nat) (v : UInt8) : SkBuff := { skb with mem := skb.mem.store8 p v }
def store16 (skb : SkBuff) (p : Nat) (v : UInt16) : SkBuff :=
  { skb with mem := skb.mem.store16 p v }
def store32 (skb : SkBuff) (p : Nat) (v : UInt32) : SkBuff :=
  { skb with mem := skb.mem.store32 p v }

/-- `memcpy` into the buffer. -/
def copyIn (skb : SkBuff) (p : Nat) (bs : List UInt8) : SkBuff :=
  { skb with mem := skb.mem.write p bs }

end SkBuff

/-! ### Nodes, interfaces and links -/

def maxIntfsPerNode : Nat := 4
def maxIfNameSize : Nat := 15

/-- `struct node`, without the tables kept beside it in `World`. -/
structure Node where
  name : List UInt8
  /-- The interface slots. -/
  intfs : Fin maxIntfsPerNode → Option IntfId

/-- `enum comm_type`. -/
inductive CommType
  | none
  | udp
  | tuntap
  deriving DecidableEq

/-- `struct comm`; `ops` is determined by the type. -/
structure Comm where
  commType : CommType
  fd : Int
  port : UInt16

/-- `struct intf` with its `intf_nw_prop`, without the socket managers. -/
structure Intf where
  name : List UInt8
  node : NodeId
  link : Option LinkId
  macAddr : MacAddr
  isIpAddrConfig : Bool
  ipAddr : UInt32
  mask : Int8
  comm : Comm

/-- `struct link`: its two embedded interfaces. -/
structure Link where
  intf1 : IntfId
  intf2 : IntfId

/-- `struct rt_entry`. -/
structure RtEntry where
  dst : UInt32
  mask : Int8
  next : UInt32
  intf : IntfId

/-- `struct arp_entry`. -/
structure ArpEntry where
  ip : UInt32
  mac : MacAddr
  intf : IntfId
  resolved : Bool
  pendingPkts : List SkBuff

/-! ### Sockets -/

def maxUdpSocks : Nat := 8
def maxTcpSocks : Nat := 8
def maxTcpConnSocks : Nat := 8

/-- `struct udp_sock`. -/
structure UdpSock where
  bound : Bool
  node : NodeId
  intf : Option IntfId
  localPort : UInt16
  rxSkb : List SkBuff

/-- `struct tcp_sock`. -/
structure TcpSock where
  bound : Bool
  listening : Bool
  node : NodeId
  localIp : UInt32
  intf : Option IntfId
  localPort : UInt16
  conns : List ConnId
  closedConns : List ConnId

/-- The functions a connection's `state` points to. -/
inductive TcpHandle
  | handleSynSent
  | handleEstab
  deriving DecidableEq

/-- The `snt` record of a connection. -/
structure TcpSnt where
  una : UInt32
  nxt : UInt32
  wnd : UInt16
  iss : UInt32

/-- The `rcv` record of a connection. -/
structure TcpRcv where
  nxt : UInt32
  wnd : UInt16
  irs : UInt32

/-- `struct tcp_connection_sock`; `tx_skb` is never used and is left out. -/
structure TcpConnectionSock where
  parent : SockId
  state : TcpHandle
  remoteIp : UInt32
  remotePort : UInt16
  snt : TcpSnt
  rcv : TcpRcv
  rxSkb : List SkBuff

/-! ### The process -/

/-- What the trace records. -/
inductive Event
  /-- A buffer was allocated. -/
  | alloc (id : SkbId)
  /-- A buffer was freed. -/
  | free (id : SkbId)
  /-- `recv_task` filled a buffer with a frame from an interface. -/
  | received (intf : IntfId) (skb : SkBuff)
  /-- `ip_input` calls a transport protocol. -/
  | transport (proto : UInt8) (skb : SkBuff)
  /-- A transport protocol or a socket call follows `skb->ip_hdr`. -/
  | readIpHdr (skb : SkBuff)
  /-- `ip_output` is called. -/
  | ipOutput (node : NodeId) (ip : UInt32) (proto : UInt8) (skb : SkBuff)
  /-- `ip_postroute` parks a packet in the ARP entry of a next hop. -/
  | parked (node : NodeId) (nextHop : UInt32) (skb : SkBuff)
  /-- `ethernet_output` is called. -/
  | ethOutput (intf : IntfId) (mac : MacAddr) (proto : UInt16) (skb : SkBuff)
  /-- The system call that transmits a frame accepted it. -/
  | sent (intf : IntfId) (frame : List UInt8)

/-- The ways a run can end before its function returns. -/
inductive Fault
  /-- An `assert` failed. -/
  | assertion
  /-- A null pointer other than `ip_hdr` was followed. -/
  | nullDeref
  /-- `skb->ip_hdr` was followed while null. -/
  | nullIpHdr
  /-- A pointer to a record that is not allocated was followed. -/
  | useAfterFree
  /-- Local delivery nested deeper than the call depth allows. -/
  | callDepth
  /-- Under `checked`: a header byte outside the packet was read. -/
  | overread
  /-- Under `checked`: `skb->len` became smaller than zero. -/
  | lenUnderflow
  deriving DecidableEq

/-- The memory of the process. -/
structure World where
  node : NodeId → Option Node
  intf : IntfId → Option Intf
  link : LinkId → Option Link
  /-- `node_nw_prop.arp_table` of each node. -/
  arpTable : NodeId → List ArpEntry
  /-- `node_nw_prop.rt_table` of each node. -/
  rtTable : NodeId → List RtEntry
  /-- `intf_nw_prop.udp_socks_manager` of each interface. -/
  udpSocks : IntfId → List SockId
  /-- `intf_nw_prop.tcp_socks_manager` of each interface. -/
  tcpSocks : IntfId → List SockId
  udpSock : SockId → Option UdpSock
  tcpSock : SockId → Option TcpSock
  tcpConn : ConnId → Option TcpConnectionSock
  /-- `fd_to_sock` of udp.c. -/
  udpFdToSock : Nat → Option SockId
  /-- `fd_to_sock` of tcp.c. -/
  tcpFdToSock : Nat → Option SockId
  /-- `fd_conn_to_sock` of tcp.c. -/
  fdConnToSock : Nat → Option ConnId
  ipForwardEnable : Bool
  /-- The identity the next allocation gets. -/
  nextId : Nat
  sysSend : Nat → Int
  /-- How many system calls have tried to send. -/
  numSends : Nat
  trace : List Event
  checked : Bool

/-- A C function over the process memory. -/
abbrev M (α : Type) := EStateM Fault World α

/-- Record a call in the trace. -/
def log (e : Event) : M Unit := modify fun w => { w with trace := w.trace ++ [e] }

/-- Record a call that is only made under a condition. -/
def logIf (c : Bool) (e : Event) : M Unit := if c then log e else pure ()

/-- Follow a pointer to an interface. -/
def derefIntf (i : IntfId) : M Intf := do
  match (← get).intf i with
  | some x => pure x
  | none => throw .useAfterFree

/-- Follow a pointer to an interface that may be null. -/
def derefIntfPtr (i : Option IntfId) : M Intf :=
  match i with
  | some i => derefIntf i
  | none => throw .nullDeref

/-- Follow a pointer to a TCP socket. -/
def derefTcpSock (k : SockId) : M TcpSock := do
  match (← get).tcpSock k with
  | some x => pure x
  | none => throw .useAfterFree

/-- Follow a pointer to a TCP connection. -/
def derefTcpConn (c : ConnId) : M TcpConnectionSock := do
  match (← get).tcpConn c with
  | some x => pure x
  | none => throw .useAfterFree

/-- Follow a pointer to a UDP socket. -/
def derefUdpSock (k : SockId) : M UdpSock := do
  match (← get).udpSock k with
  | some x => pure x
  | none => throw .useAfterFree

def setTcpSock (k : SockId) (s : TcpSock) : M Unit :=
  modify fun w => { w with tcpSock := Function.update w.tcpSock k (some s) }

def setTcpConn (c : ConnId) (s : TcpConnectionSock) : M Unit :=
  modify fun w => { w with tcpConn := Function.update w.tcpConn c (some s) }

def setUdpSock (k : SockId) (s : UdpSock) : M Unit :=
  modify fun w => { w with udpSock := Function.update w.udpSock k (some s) }

/-- `calloc` of a record: its identity. -/
def allocId : M Nat := do
  let w ← get
  set { w with nextId := w.nextId + 1 }
  pure w.nextId

end SimpleTcpip
