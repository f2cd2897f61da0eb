/-
The network of the tests: test/fixture/fixture.c, with what net.c and graph.c do to
build it.

    node0 --- node1
           |
           --- node2

Node `n` is `node<n>`.  The interfaces are 0 (`eth01`), 1 (`eth10`), 2 (`eth02`) and
3 (`eth20`), each with a loopback UDP socket as its backend, and every system call
sends.
-/
import SimpleTcpip.Model.Graph

namespace SimpleTcpip

namespace Fixture

def node0 : List UInt8 := [110, 111, 100, 101, 48]
def node1 : List UInt8 := [110, 111, 100, 101, 49]
def node2 : List UInt8 := [110, 111, 100, 101, 50]
def eth01 : List UInt8 := [101, 116, 104, 48, 49]
def eth10 : List UInt8 := [101, 116, 104, 49, 48]
def eth02 : List UInt8 := [101, 116, 104, 48, 50]
def eth20 : List UInt8 := [101, 116, 104, 50, 48]

/-- An interface as `init_interface` leaves it. -/
def initInterface (nodeName name : List UInt8) (node : NodeId) (link : LinkId) (fd : Int)
    (port : UInt16) : Intf :=
  { name, node, link := some link, macAddr := interfaceAssignMacAddress nodeName name,
    isIpAddrConfig := false, ipAddr := 0, mask := 0, comm := { commType := .udp, fd, port } }

/-- The slots of a node, filled from the first. -/
def slots (is : List IntfId) : Fin maxIntfsPerNode → Option IntfId := fun s => is[s.val]?

/-- The graph before any interface got an address. -/
def graph : World where
  node
    | 0 => some { name := node0, intfs := slots [0, 2] }
    | 1 => some { name := node1, intfs := slots [1] }
    | 2 => some { name := node2, intfs := slots [3] }
    | _ => none
  intf
    | 0 => some (initInterface node0 eth01 0 0 3 40000)
    | 1 => some (initInterface node1 eth10 1 0 4 40001)
    | 2 => some (initInterface node0 eth02 0 1 5 40002)
    | 3 => some (initInterface node2 eth20 2 1 6 40003)
    | _ => none
  link
    | 0 => some { intf1 := 0, intf2 := 1 }
    | 1 => some { intf1 := 2, intf2 := 3 }
    | _ => none
  arpTable _ := []
  rtTable _ := []
  udpSocks _ := []
  tcpSocks _ := []
  udpSock _ := none
  tcpSock _ := none
  tcpConn _ := none
  udpFdToSock _ := none
  tcpFdToSock _ := none
  fdConnToSock _ := none
  ipForwardEnable := true
  nextId := 0
  sysSend _ := 1
  numSends := 0
  trace := []
  checked := true

theorem graph_initial : Initial graph where
  slots := by
    intro n node s i hn hs
    match n, hn with
    | 0, rfl =>
        rcases List.mem_cons.mp (List.mem_of_getElem? hs) with rfl | hs
        · exact ⟨_, rfl, rfl⟩
        · cases List.mem_singleton.mp hs
          exact ⟨_, rfl, rfl⟩
    | 1, rfl =>
        cases List.mem_singleton.mp (List.mem_of_getElem? hs)
        exact ⟨_, rfl, rfl⟩
    | 2, rfl =>
        cases List.mem_singleton.mp (List.mem_of_getElem? hs)
        exact ⟨_, rfl, rfl⟩
  links := by
    intro i intf l hi hl
    match i, hi with
    | 0, rfl => cases hl; exact ⟨_, rfl, rfl, rfl⟩
    | 1, rfl => cases hl; exact ⟨_, rfl, rfl, rfl⟩
    | 2, rfl => cases hl; exact ⟨_, rfl, rfl, rfl⟩
    | 3, rfl => cases hl; exact ⟨_, rfl, rfl, rfl⟩
  comms := by
    intro i intf hi
    match i, hi with
    | 0, rfl | 1, rfl | 2, rfl | 3, rfl => decide
  arpTable := rfl
  rtTable := rfl
  udpSocks := rfl
  tcpSocks := rfl
  udpSock := rfl
  tcpSock := rfl
  tcpConn := rfl
  udpFdToSock := rfl
  tcpFdToSock := rfl
  fdConnToSock := rfl
  trace := rfl

/-- The calls `create_test_topology` makes on the graph: `192.168.89.1`,
`172.16.10.1`, `192.168.89.2` and `172.16.10.2`. -/
def configure : List Op :=
  [ .nodeSetIntfIpAddr 0 eth01 [49, 57, 50, 46, 49, 54, 56, 46, 56, 57, 46, 49] 24,
    .nodeSetIntfIpAddr 0 eth02 [49, 55, 50, 46, 49, 54, 46, 49, 48, 46, 49] 16,
    .nodeSetIntfIpAddr 1 eth10 [49, 57, 50, 46, 49, 54, 56, 46, 56, 57, 46, 50] 24,
    .nodeSetIntfIpAddr 2 eth20 [49, 55, 50, 46, 49, 54, 46, 49, 48, 46, 50] 16 ]

/-- The state after `create_test_topology` and some calls; the bare graph if one of them
cannot be made or does not complete. -/
def after (ops : List Op) : World := (runOps graph (configure ++ ops)).getD graph

theorem reachable_after (ops : List Op) : Reachable (after ops) := by
  unfold after
  cases h : runOps graph (configure ++ ops) with
  | none => exact .init graph_initial
  | some w => exact (Reachable.init graph_initial).runOps h

theorem runOps_after {ops : List Op} (h : (runOps graph (configure ++ ops)).isSome) :
    runOps graph (configure ++ ops) = some (after ops) := by
  obtain ⟨w, hw⟩ := Option.isSome_iff_exists.mp h
  rw [after, hw]
  rfl

/-- `192.168.89.1` and its neighbours, as the four bytes of an address lie in memory. -/
def addr (a b c d : UInt8) : UInt32 :=
  UInt32.ofNat (a.toNat + 256 * (b.toNat + 256 * (c.toNat + 256 * d.toNat)))

/-- A frame from `192.168.89.2` to `172.16.10.2`, with a valid header checksum. -/
def forwardedFrame : List UInt8 :=
  List.replicate 12 0xff ++ [0x08, 0x00] ++
    [0x45, 0, 0, 28, 0, 0, 0, 0, 64, 17, 0xab, 0x14, 192, 168, 89, 2, 172, 16, 10, 2] ++
    List.replicate 8 0

/-- A TCP frame from `192.168.89.2` to port 80 of `192.168.89.1`, with window 200. -/
def tcpFrame (srcPort seq flags : UInt8) (payload : List UInt8) : List UInt8 :=
  List.replicate 12 0xff ++ [0x08, 0x00] ++
    [0x45, 0, 0, UInt8.ofNat (40 + payload.length), 0, 0, 0, 0, 64, 6, 0, 0,
      192, 168, 89, 2, 192, 168, 89, 1] ++
    [0, srcPort, 0, 80, 0, 0, 0, seq, 0, 0, 0, 0, 0x50, flags, 0, 200, 0, 0, 0, 0] ++ payload

/-- The same with an acknowledgement number. -/
def ackFrame (srcPort seq ack flags : UInt8) : List UInt8 :=
  List.replicate 12 0xff ++ [0x08, 0x00] ++
    [0x45, 0, 0, 40, 0, 0, 0, 0, 64, 6, 0, 0, 192, 168, 89, 2, 192, 168, 89, 1] ++
    [0, srcPort, 0, 80, 0, 0, 0, seq, 0, 0, 0, ack, 0x50, flags, 0, 200, 0, 0, 0, 0]

/-- A socket of `node0` bound to `192.168.89.1`, port 7. -/
def bound : World := after [.udpSocket 0, .udpBind 0 (addr 192 168 89 1) 7]

/-- A socket of `node0` listens on port 80. -/
def listen : List Op := [.tcpSocket 0, .tcpBind 0 (addr 192 168 89 1) 80, .tcpListen 0]

/-- A peer opens a connection from a port: SYN, and the acknowledgement of the answer. -/
def handshake (srcPort : UInt8) : List Op :=
  [.recvFrame 0 (tcpFrame srcPort 7 0x02 []), .recvFrame 0 (tcpFrame srcPort 8 0x10 [])]

/-- The state once the SYN of such a peer was answered. -/
def answered : World := after (listen ++ [.recvFrame 0 (tcpFrame 5 7 0x02 [])])

/-- The state once such a connection has been accepted. -/
def connected : World := after (listen ++ handshake 5 ++ [.tcpAccept 0])

theorem connected_reachable : Reachable connected := reachable_after _

/-- The state once the peer then reset it. -/
def reset : World := after (listen ++ handshake 5 ++ [.tcpAccept 0] ++
  [.recvFrame 0 (tcpFrame 5 8 0x14 [])])

theorem reset_reachable : Reachable reset := reachable_after _

example : isIpLocal (after []) 0 (addr 192 168 89 1) = true := by decide +kernel

end Fixture

end SimpleTcpip
