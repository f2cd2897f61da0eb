/-
Building and tearing down the graph: graph.c, the descriptor map and the two backends of
comm.c, comm_udp.c and comm_tuntap.c as far as they open and close.

`Host` is the process with what only these functions use.  `sysOpen`, `sysIoctl` and
`sysBind` say what the operating system answers; a `bind` that is refused is tried again
with the next port, so only the number of refusals matters.  `frees` is not in the source:
it lists what was given to `free`.  `close` and the `free` of the graph itself leave nothing
behind that is read again.

A record comes into being with its first assignments; nothing reads it between `calloc`
and then.  The `cost` of a link is left out.
-/
import SimpleTcpip.Model.Process

namespace SimpleTcpip

def maxNodeNameSize : Nat := 32
def maxComms : Nat := 1024

/-- What `free` was called on. -/
inductive Record
  | node (n : NodeId)
  | link (l : LinkId)
  | intf (i : IntfId)
  deriving DecidableEq

/-- The process, and the graph in it. -/
structure Host extends World where
  /-- `graph->nodes`. -/
  nodes : List NodeId
  /-- `fd_to_comm_map`; a `comm` goes by the interface it is embedded in. -/
  fdToCommMap : Nat → Option IntfId
  nextUdpPort : UInt16
  /-- What each `socket` and each `open` returns. -/
  sysOpen : Nat → Int
  /-- What the `ioctl` on each tap device returns. -/
  sysIoctl : Nat → Int
  /-- How many ports `bind` refuses each socket. -/
  sysBind : Nat → Nat
  /-- How many system calls have opened a descriptor. -/
  numOpens : Nat
  frees : List Record

/-- A C function over the process with its graph. -/
abbrev G (α : Type) := EStateM Fault Host α

/-- A function that leaves the graph's own records alone. -/
def onWorld {α : Type} (m : M α) : G α := fun h =>
  match m h.toWorld with
  | .ok a w => .ok a { h with toWorld := w }
  | .error e w => .error e { h with toWorld := w }

/-! ### Records -/

/-- Follow a pointer to a node. -/
def derefNode (n : NodeId) : G Node := do
  match (← get).node n with
  | some x => pure x
  | none => throw .useAfterFree

/-- Follow a pointer to a link. -/
def derefLink (l : LinkId) : G Link := do
  match (← get).link l with
  | some x => pure x
  | none => throw .useAfterFree

def setNode (n : NodeId) (x : Node) : G Unit :=
  modify fun h => { h with node := Function.update h.node n (some x) }

def setIntf (i : IntfId) (x : Intf) : G Unit :=
  modify fun h => { h with intf := Function.update h.intf i (some x) }

def setLink (l : LinkId) (x : Link) : G Unit :=
  modify fun h => { h with link := Function.update h.link l (some x) }

def setComm (i : IntfId) (c : Comm) : G Unit := do
  let intf ← onWorld (derefIntf i)
  setIntf i { intf with comm := c }

/-- `free` of a node. -/
def freeNode (n : NodeId) : G Unit := do
  let _ ← derefNode n
  modify fun h => { h with
    node := Function.update h.node n none, frees := h.frees ++ [.node n] }

/-- `free` of an interface of its own. -/
def freeIntf (i : IntfId) : G Unit := do
  let _ ← onWorld (derefIntf i)
  modify fun h => { h with
    intf := Function.update h.intf i none, frees := h.frees ++ [.intf i] }

/-- `free` of a link, and of the two interfaces embedded in it. -/
def freeLink (l : LinkId) : G Unit := do
  let link ← derefLink l
  modify fun h => { h with
    link := Function.update h.link l none
    intf := Function.update (Function.update h.intf link.intf1 none) link.intf2 none
    frees := h.frees ++ [.link l, .intf link.intf1, .intf link.intf2] }

/-! ### Descriptors -/

/-- `set_fd_comm`. -/
def setFdComm (fd : Int) (comm : Option IntfId) : G Bool :=
  if fd < 0 ∨ fd ≥ maxComms then pure false
  else do
    modify fun h => { h with fdToCommMap := Function.update h.fdToCommMap fd.toNat comm }
    pure true

/-- `fd_to_comm`. -/
def fdToComm (h : Host) (fd : Int) : Option IntfId :=
  if fd < 0 ∨ fd ≥ maxComms then none else h.fdToCommMap fd.toNat

/-- `socket`, or `open` of a tap device. -/
def sysOpenCall : G Int := do
  let h ← get
  set { h with numOpens := h.numOpens + 1 }
  pure (h.sysOpen h.numOpens)

/-- The loop of `udp_init_comm`: the first port that `bind` accepts. -/
def bindUdpPort : G UInt16 := do
  let h ← get
  let port := h.nextUdpPort + UInt16.ofNat (h.sysBind h.numOpens)
  set { h with nextUdpPort := port + 1 }
  pure port

/-- `udp_init_comm`. -/
def udpInitComm (i : IntfId) : G Bool := do
  let fd ← sysOpenCall
  let port ← bindUdpPort
  setComm i { commType := .udp, fd, port }
  setFdComm fd (some i)

/-- `tun_alloc`. -/
def tunAlloc : G Int := do
  let fd ← sysOpenCall
  if fd < 0 then pure (-1)
  else do
    let h ← get
    let err := h.sysIoctl h.numOpens
    if err < 0 then pure err else pure fd

/-- `tuntap_init_comm`. -/
def tuntapInitComm (i : IntfId) : G Bool := do
  let fd ← tunAlloc
  setComm i { commType := .tuntap, fd, port := 0 }
  if fd < 0 then pure false else setFdComm fd (some i)

/-- `init_comm`; any other type ends the process. -/
def initComm (i : IntfId) : CommType → G Bool
  | .udp => udpInitComm i
  | .tuntap => tuntapInitComm i
  | .none => throw .assertion

/-- What `udp_destroy_comm` and `tuntap_destroy_comm` share: the descriptor is taken out of
the map and closed, and the fields that named it are cleared. -/
def closeComm (i : IntfId) (cleared : Comm → Comm) : G Bool := do
  let intf ← onWorld (derefIntf i)
  if intf.comm.fd ≠ 0 then do
    let _ ← setFdComm intf.comm.fd none
    setComm i (cleared intf.comm)
    pure true
  else pure true

/-- `udp_destroy_comm`. -/
def udpDestroyComm (i : IntfId) : G Bool := closeComm i fun c => { c with fd := 0, port := 0 }

/-- `tuntap_destroy_comm`. -/
def tuntapDestroyComm (i : IntfId) : G Bool := closeComm i fun c => { c with fd := 0 }

/-- `destroy_comm`. -/
def destroyComm (i : IntfId) : G Bool := do
  let intf ← onWorld (derefIntf i)
  match intf.comm.commType with
  | .udp => udpDestroyComm i
  | .tuntap => tuntapDestroyComm i
  | .none => throw .nullDeref

/-! ### Interfaces and links -/

/-- `strncpy` into a field that is one byte longer. -/
def strncpy (name : List UInt8) (size : Nat) : List UInt8 := (name.takeWhile (· ≠ 0)).take size

/-- `hashcode`: the characters are signed. -/
def hashcode (string : List UInt8) : UInt64 :=
  string.foldl (fun result c => result * (c.toInt8.toInt64.toUInt64 * 31)) 7

/-- `interface_assign_mac_address`: the low six bytes of the product. -/
def interfaceAssignMacAddress (nodeName ifName : List UInt8) : MacAddr :=
  let code := hashcode nodeName * hashcode ifName
  ⟨(List.range macAddrSize).map fun i => UInt8.ofNat (code.toNat / 256 ^ i), by simp⟩

/-- `get_node_intf_available_slot`. -/
def Node.intfAvailableSlot (node : Node) : Option (Fin maxIntfsPerNode) :=
  (List.finRange maxIntfsPerNode).find? fun s => (node.intfs s).isNone

/-- An interface before its backend is opened. -/
def Intf.blank (nodeName name : List UInt8) (n : NodeId) (link : Option LinkId) : Intf :=
  { name, node := n, link, macAddr := interfaceAssignMacAddress nodeName name,
    isIpAddrConfig := false, ipAddr := 0, mask := 0,
    comm := { commType := .none, fd := 0, port := 0 } }

/-- `init_interface`. -/
def initInterface (i : IntfId) (name : List UInt8) (n : NodeId) (link : Option LinkId)
    (commType : CommType) : G Unit := do
  let node ← derefNode n
  match node.intfAvailableSlot with
  | none => throw .assertion
  | some slot => do
      setNode n { node with intfs := Function.update node.intfs slot (some i) }
      modify fun h => { h with
        udpSocks := Function.update h.udpSocks i []
        tcpSocks := Function.update h.tcpSocks i [] }
      setIntf i (.blank node.name (strncpy name maxIfNameSize) n link)
      let _ ← initComm i commType
      pure ()

/-- `insert_link_between_two_nodes`. -/
def insertLinkBetweenTwoNodes (node1 node2 : NodeId) (fromIfname toIfname : List UInt8) :
    G Unit := do
  let l ← onWorld allocId
  let intf1 ← onWorld allocId
  let intf2 ← onWorld allocId
  setLink l { intf1, intf2 }
  initInterface intf1 fromIfname node1 (some l) .udp
  initInterface intf2 toIfname node2 (some l) .udp

/-- `insert_tuntap_interface`. -/
def insertTuntapInterface (n : NodeId) (name : List UInt8) : G Unit := do
  let i ← onWorld allocId
  initInterface i name n none .tuntap

/-- `destroy_interface`. -/
def destroyInterface (i : IntfId) : G Unit := do
  let intf ← onWorld (derefIntf i)
  let ct := intf.comm.commType
  let _ ← destroyComm i
  if ct = .tuntap then freeIntf i else pure ()

/-- What the loop of `destroy_link` does to a slot of one of the two nodes. -/
def clearSlot (l : LinkId) (n : NodeId) (s : Fin maxIntfsPerNode) : G Unit := do
  let node ← derefNode n
  match node.intfs s with
  | none => pure ()
  | some i => do
      let intf ← onWorld (derefIntf i)
      if intf.link = some l then
        setNode n { node with intfs := Function.update node.intfs s none }
      else pure ()

/-- `destroy_link`. -/
def destroyLink (l : LinkId) : G Unit := do
  let link ← derefLink l
  let intf1 ← onWorld (derefIntf link.intf1)
  let intf2 ← onWorld (derefIntf link.intf2)
  (List.finRange maxIntfsPerNode).forM fun s => do
    clearSlot l intf1.node s
    clearSlot l intf2.node s
  destroyInterface link.intf1
  destroyInterface link.intf2
  freeLink l

/-- `get_nbr_node`. -/
def getNbrNode (i : IntfId) : M (Option NodeId) := do
  match ← getNbrIf i with
  | none => pure none
  | some j => do
      let nbr ← derefIntf j
      pure (some nbr.node)

/-! ### Nodes and the graph -/

/-- `create_graph_node`. -/
def createGraphNode (nodeName : List UInt8) : G NodeId := do
  let n ← onWorld allocId
  setNode n { name := strncpy nodeName maxNodeNameSize, intfs := fun _ => none }
  modify fun h => { h with
    arpTable := Function.update h.arpTable n []
    rtTable := Function.update h.rtTable n []
    nodes := n :: h.nodes }
  pure n

/-- The body of the loop of `destroy_node`. -/
def destroySlot (n : NodeId) (s : Fin maxIntfsPerNode) : G Unit := do
  let node ← derefNode n
  match node.intfs s with
  | none => pure ()
  | some i => do
      let intf ← onWorld (derefIntf i)
      match intf.link with
      | some l => destroyLink l
      | none => destroyInterface i

/-- `destroy_node`. -/
def destroyNode (n : NodeId) : G Unit := do
  let _ ← derefNode n
  modify fun h => { h with nodes := h.nodes.erase n }
  (List.finRange maxIntfsPerNode).forM (destroySlot n)
  -- `destroy_node_nw_prop`
  modify fun h => { h with
    arpTable := Function.update h.arpTable n []
    rtTable := Function.update h.rtTable n [] }
  freeNode n

/-- `destroy_graph`: the loop has read the next node before it frees one. -/
def destroyGraph : G Unit := do
  let h ← get
  h.nodes.forM destroyNode

end SimpleTcpip
