/-
The process: the calls its threads make, one after another.

An application calls the socket functions, `ping` and the configuration functions;
the receive thread handles one frame at a time.  `Op` is such a call with its
arguments, and a run is any sequence of them from a state in which the graph has
been built and nothing else has happened.  The nodes, interfaces and links stay as
they were built.
-/
import SimpleTcpip.Model.Receive

namespace SimpleTcpip

/-- `node_set_intf_ip_addr`. -/
def nodeSetIntfIpAddr (n : NodeId) (ifName ipAddr : List UInt8) (mask : Int8) : M Bool := do
  match getNodeIfByName (← get) n ifName with
  | none => pure false
  | some i => do
      let ip := convertIpFromStrToInt ipAddr
      if ip = 0 then pure false
      else do
        let intf ← derefIntf i
        modify fun w => { w with
          intf := Function.update w.intf i
            (some { intf with ipAddr := ip, mask := mask, isIpAddrConfig := true }) }
        rtTableAddRoute n (intIpMasked ip mask) mask 0 i
        pure true

/-- One call, with its arguments. -/
inductive Op
  | recvFrame (i : IntfId) (frame : List UInt8)
  | udpSocket (n : NodeId)
  | udpBind (sockfd : Int) (ip : UInt32) (port : UInt16)
  | udpSendto (sockfd : Int) (buff : List UInt8) (ip : UInt32) (port : UInt16)
  | udpRecvfrom (sockfd : Int) (size : Nat) (wantIp wantPort : Bool)
  | udpClose (sockfd : Int)
  | tcpSocket (n : NodeId)
  | tcpBind (sockfd : Int) (ip : UInt32) (port : UInt16)
  | tcpListen (sockfd : Int)
  | tcpAccept (sockfd : Int)
  | tcpRecv (connfd : Int) (size : Nat)
  | tcpSend (connfd : Int) (buff : List UInt8)
  | tcpClose (sockfd : Int)
  | icmpOut (n : NodeId) (ip : UInt32) (type code : UInt8) (payload : List UInt8)
  | ping (n : NodeId) (ipAddr : List UInt8)
  | nodeSetIntfIpAddr (n : NodeId) (ifName ipAddr : List UInt8) (mask : Int8)
  | rtTableAddRoute (n : NodeId) (dst : UInt32) (mask : Int8) (next : UInt32) (i : IntfId)
  | setIpForward (val : Bool)
  | sendArpBroadcastRequest (i : IntfId) (ip : UInt32)

/-- What a call returns. -/
inductive Ret
  | unit
  | bool (b : Bool)
  | int (n : Int)
  | datagram (d : Option Datagram)
  | accepted (a : Option Accepted)
  | bytes (bs : Option (List UInt8))
  deriving DecidableEq

/-- The call itself. -/
def runOp : Op → M Ret
  | .recvFrame i frame => do recvFrame i frame; pure .unit
  | .udpSocket n => do let r ← udpSocket n; pure (.int r)
  | .udpBind fd ip port => do let r ← udpBind fd ip port; pure (.int r)
  | .udpSendto fd buff ip port => do let r ← udpSendto ipInput fd buff ip port; pure (.int r)
  | .udpRecvfrom fd size wantIp wantPort => do
      let r ← udpRecvfrom fd size wantIp wantPort
      pure (.datagram r)
  | .udpClose fd => do let r ← udpClose fd; pure (.int r)
  | .tcpSocket n => do let r ← tcpSocket n; pure (.int r)
  | .tcpBind fd ip port => do let r ← tcpBind fd ip port; pure (.int r)
  | .tcpListen fd => do let r ← tcpListen fd; pure (.int r)
  | .tcpAccept fd => do let r ← tcpAccept fd; pure (.accepted r)
  | .tcpRecv fd size => do let r ← tcpRecv fd size; pure (.bytes r)
  | .tcpSend fd buff => do let r ← tcpSend ipInput fd buff; pure (.int r)
  | .tcpClose fd => do let r ← tcpClose fd; pure (.int r)
  | .icmpOut n ip type code payload => do
      let r ← icmpOut ipInput n ip type code payload
      pure (.bool r)
  | .ping n ipAddr => do let r ← ping ipInput n ipAddr; pure (.bool r)
  | .nodeSetIntfIpAddr n ifName ipAddr mask => do
      let r ← nodeSetIntfIpAddr n ifName ipAddr mask
      pure (.bool r)
  | .rtTableAddRoute n dst mask next i => do rtTableAddRoute n dst mask next i; pure .unit
  | .setIpForward val => do modify fun w => { w with ipForwardEnable := val }; pure .unit
  | .sendArpBroadcastRequest i ip => do sendArpBroadcastRequest i ip; pure .unit

/-- The state a call leaves, also when it stops the process. -/
def Op.after (op : Op) (w : World) : World := Fallible.final (runOp op) w

/-- The pointers a caller passes are valid. -/
def Op.Valid (w : World) : Op → Prop
  | .recvFrame i _ => (w.intf i).isSome
  | .rtTableAddRoute _ _ _ _ i => (w.intf i).isSome
  | .sendArpBroadcastRequest i _ => (w.intf i).isSome
  | _ => True

instance (w : World) (op : Op) : Decidable (op.Valid w) := by
  cases op <;> simp only [Op.Valid] <;> infer_instance

/-- The state after a call that may be made and that completes. -/
def Op.step? (w : World) (op : Op) : Option World :=
  if op.Valid w then
    match runOp op w with
    | .ok _ w' => some w'
    | .error _ _ => none
  else none

/-- The state after a sequence of calls. -/
def runOps (w : World) (ops : List Op) : Option World := ops.foldlM Op.step? w

/-- The graph as `graph.c` builds it, before anything was configured or sent. -/
structure Initial (w : World) : Prop where
  /-- An interface in a slot is live and belongs to the node. -/
  slots : ∀ n node s i, w.node n = some node → node.intfs s = some i →
    ∃ intf, w.intf i = some intf ∧ intf.node = n
  /-- The link of an interface is live, and so are its ends. -/
  links : ∀ i intf l, w.intf i = some intf → intf.link = some l →
    ∃ link, w.link l = some link ∧ (w.intf link.intf1).isSome ∧ (w.intf link.intf2).isSome
  /-- Every interface has a backend. -/
  comms : ∀ i intf, w.intf i = some intf → intf.comm.commType ≠ .none
  arpTable : w.arpTable = fun _ => []
  rtTable : w.rtTable = fun _ => []
  udpSocks : w.udpSocks = fun _ => []
  tcpSocks : w.tcpSocks = fun _ => []
  udpSock : w.udpSock = fun _ => none
  tcpSock : w.tcpSock = fun _ => none
  tcpConn : w.tcpConn = fun _ => none
  udpFdToSock : w.udpFdToSock = fun _ => none
  tcpFdToSock : w.tcpFdToSock = fun _ => none
  fdConnToSock : w.fdConnToSock = fun _ => none
  trace : w.trace = []

/-- The states a run passes through. -/
inductive Reachable : World → Prop
  | init {w : World} (h : Initial w) : Reachable w
  | step {w w' : World} {op : Op} {r : Ret} (h : Reachable w) (hv : op.Valid w)
      (hrun : runOp op w = .ok r w') : Reachable w'

/-- The states a run passes through whose calls all meet a condition. -/
inductive ReachableBy (P : World → Op → Prop) : World → Prop
  | init {w : World} (h : Initial w) : ReachableBy P w
  | step {w w' : World} {op : Op} {r : Ret} (h : ReachableBy P w) (hv : op.Valid w)
      (hP : P w op) (hrun : runOp op w = .ok r w') : ReachableBy P w'

theorem ReachableBy.reachable {P : World → Op → Prop} {w : World} (h : ReachableBy P w) :
    Reachable w := by
  induction h with
  | init h => exact .init h
  | step _ hv _ hrun ih => exact .step ih hv hrun

theorem Op.step?_eq_some {op : Op} {w w' : World} :
    op.step? w = some w' ↔ op.Valid w ∧ ∃ r, runOp op w = .ok r w' := by
  unfold Op.step?
  constructor
  · intro hs
    split at hs
    · rename_i hv
      split at hs
      · rename_i r t hrun
        cases hs
        exact ⟨hv, r, hrun⟩
      · cases hs
    · cases hs
  · rintro ⟨hv, r, hrun⟩
    rw [if_pos hv, hrun]

theorem Reachable.step? {w w' : World} {op : Op} (h : Reachable w) (hs : op.step? w = some w') :
    Reachable w' := by
  obtain ⟨hv, r, hrun⟩ := Op.step?_eq_some.mp hs
  exact .step h hv hrun

theorem Reachable.runOps {w w' : World} {ops : List Op} (h : Reachable w)
    (hs : SimpleTcpip.runOps w ops = some w') : Reachable w' := by
  induction ops generalizing w with
  | nil => cases hs; exact h
  | cons op ops ih =>
      rw [SimpleTcpip.runOps, List.foldlM_cons] at hs
      obtain ⟨t, ht, hrest⟩ := Option.bind_eq_some_iff.mp hs
      exact ih (h.step? ht) hrest

/-- What the process may look like after any calls, one that stopped it included. -/
def Steps : World → World → Prop :=
  Relation.ReflTransGen fun w w' => ∃ op : Op, op.Valid w ∧ w' = op.after w

end SimpleTcpip
