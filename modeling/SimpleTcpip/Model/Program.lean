/-
The program from its start: the calls that build and tear down the graph, and all the
others, one after another in any order.

`Reachable` starts from a graph that is there.  Here nothing is there at first, and nodes,
links and interfaces come and go between the other calls.
-/
import SimpleTcpip.Model.Fixture

namespace SimpleTcpip

/-- A call that builds or tears down, or any other. -/
inductive GraphOp
  | createGraphNode (nodeName : List UInt8)
  | insertLinkBetweenTwoNodes (node1 node2 : NodeId) (fromIfname toIfname : List UInt8)
  | insertTuntapInterface (n : NodeId) (name : List UInt8)
  | destroyInterface (i : IntfId)
  | destroyLink (l : LinkId)
  | destroyNode (n : NodeId)
  | destroyGraph
  | call (op : Op)

/-- The call itself. -/
def runGraphOp : GraphOp → G Unit
  | .createGraphNode nodeName => do
      let _ ← createGraphNode nodeName
      pure ()
  | .insertLinkBetweenTwoNodes node1 node2 fromIfname toIfname =>
      insertLinkBetweenTwoNodes node1 node2 fromIfname toIfname
  | .insertTuntapInterface n name => insertTuntapInterface n name
  | .destroyInterface i => destroyInterface i
  | .destroyLink l => destroyLink l
  | .destroyNode n => destroyNode n
  | .destroyGraph => destroyGraph
  | .call op => do
      let _ ← onWorld (runOp op)
      pure ()

/-- A process that has made no call.  What the operating system will answer is open. -/
structure Host.Started (h : Host) : Prop where
  node : h.node = fun _ => none
  intf : h.intf = fun _ => none
  link : h.link = fun _ => none
  arpTable : h.arpTable = fun _ => []
  rtTable : h.rtTable = fun _ => []
  udpSocks : h.udpSocks = fun _ => []
  tcpSocks : h.tcpSocks = fun _ => []
  udpSock : h.udpSock = fun _ => none
  tcpSock : h.tcpSock = fun _ => none
  tcpConn : h.tcpConn = fun _ => none
  udpFdToSock : h.udpFdToSock = fun _ => none
  tcpFdToSock : h.tcpFdToSock = fun _ => none
  fdConnToSock : h.fdConnToSock = fun _ => none
  trace : h.trace = []
  nodes : h.nodes = []
  fdToCommMap : h.fdToCommMap = fun _ => none
  nextUdpPort : h.nextUdpPort = 40000
  numOpens : h.numOpens = 0
  frees : h.frees = []

/-- The states the program passes through. -/
inductive HostReachable : Host → Prop
  | init {h : Host} (hstart : h.Started) : HostReachable h
  | step {h h' : Host} {op : GraphOp} {u : Unit} (hreach : HostReachable h)
      (hrun : runGraphOp op h = .ok u h') : HostReachable h'

/-- The states the program passes through when its calls all meet a condition. -/
inductive HostReachableBy (P : Host → GraphOp → Prop) : Host → Prop
  | init {h : Host} (hstart : h.Started) : HostReachableBy P h
  | step {h h' : Host} {op : GraphOp} {u : Unit} (hreach : HostReachableBy P h) (hP : P h op)
      (hrun : runGraphOp op h = .ok u h') : HostReachableBy P h'

theorem HostReachableBy.reachable {P : Host → GraphOp → Prop} {h : Host}
    (hreach : HostReachableBy P h) : HostReachable h := by
  induction hreach with
  | init hstart => exact .init hstart
  | step _ _ hrun ih => exact .step ih hrun

/-- The process after some calls, if they all complete. -/
def runGraphOps (h : Host) (ops : List GraphOp) : Option Host :=
  match ops.forM runGraphOp h with
  | .ok _ h' => some h'
  | .error _ _ => none

theorem HostReachableBy.forM {P : GraphOp → Prop} {h h' : Host} {ops : List GraphOp} {u : PUnit}
    (hreach : HostReachableBy (fun _ op => P op) h) (hP : ∀ op ∈ ops, P op)
    (hrun : ops.forM runGraphOp h = .ok u h') : HostReachableBy (fun _ op => P op) h' := by
  induction ops generalizing h with
  | nil =>
      cases hrun
      exact hreach
  | cons op ops ih =>
      obtain ⟨u, h₁, hop, hrest⟩ := Fallible.bind_ok_iff.mp hrun
      exact ih (.step hreach (hP op List.mem_cons_self) hop)
        (fun op hop => hP op (List.mem_cons_of_mem _ hop)) hrest

theorem HostReachableBy.runGraphOps {P : GraphOp → Prop} {h h' : Host} {ops : List GraphOp}
    (hreach : HostReachableBy (fun _ op => P op) h) (hP : ∀ op ∈ ops, P op)
    (hrun : SimpleTcpip.runGraphOps h ops = some h') : HostReachableBy (fun _ op => P op) h' := by
  unfold SimpleTcpip.runGraphOps at hrun
  split at hrun
  · rename_i hforM
    cases hrun
    exact hreach.forM hP hforM
  · cases hrun

/-- A process that has made no call, on a system that opens every descriptor and binds every
port. -/
def Fixture.started : Host :=
  { Fixture.graph with
    node := fun _ => none
    intf := fun _ => none
    link := fun _ => none
    nodes := []
    fdToCommMap := fun _ => none
    nextUdpPort := 40000
    sysOpen := fun k => 3 + k
    sysIoctl := fun _ => 0
    sysBind := fun _ => 0
    numOpens := 0
    frees := [] }

theorem Fixture.started_started : Fixture.started.Started := by
  constructor <;> rfl

end SimpleTcpip
