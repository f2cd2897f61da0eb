/-
Sending on all interfaces of a node but one: `send_bytes_flood` and `send_pkt_flood` of
comm.c.
-/
import SimpleTcpip.Model.Ip

namespace SimpleTcpip

/-- The body of the loop of `send_bytes_flood`. -/
def floodStep (exemptedIntf : Option IntfId) (frame : List UInt8) (rc : Bool) (i : IntfId) :
    M Bool := do
  if some i ≠ exemptedIntf then do
    let result ← sendBytesOut frame i
    pure (rc || decide (result < 0))
  else pure rc

/-- `send_bytes_flood`. -/
def sendBytesFlood (node : NodeId) (exemptedIntf : Option IntfId) (frame : List UInt8) :
    M Bool := do
  (nodeIntfs (← get) node).foldlM (floodStep exemptedIntf frame) false

/-- `send_pkt_flood`. -/
def sendPktFlood (node : NodeId) (exemptedIntf : Option IntfId) (skb : SkBuff) : M Bool := do
  let ok ← sendBytesFlood node exemptedIntf skb.bytes
  if ok then do
    freeSkb skb
    pure ok
  else pure ok

end SimpleTcpip
