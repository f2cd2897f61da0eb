/-
Handing a frame to the link: the sending half of comm.c, comm_udp.c and
comm_tuntap.c, and `ethernet_output` of ethernet.c.
-/
import SimpleTcpip.Model.Skbuff

namespace SimpleTcpip

def ethHdrSize : Nat := 14
def ethProtoIp : UInt16 := 0x0800
def ethProtoArp : UInt16 := 0x0806

/-- `get_nbr_if`. -/
def getNbrIf (i : IntfId) : M (Option IntfId) := do
  let intf ← derefIntf i
  match intf.link with
  | none => pure none
  | some l =>
      match (← get).link l with
      | none => throw .useAfterFree
      | some link => pure (some (if i = link.intf1 then link.intf2 else link.intf1))

/-- The system call that transmits: `sendto` or `write`. -/
def sysSendCall (i : IntfId) (frame : List UInt8) : M Int := do
  let w ← get
  let result := w.sysSend w.numSends
  set { w with numSends := w.numSends + 1 }
  logIf (0 ≤ result) (.sent i frame)
  pure result

/-- `udp_send_bytes`: a `bool` returned as `ssize_t`. -/
def udpSendBytes (i : IntfId) (frame : List UInt8) : M Int := do
  let intf ← derefIntf i
  match ← getNbrIf i with
  | none => pure 0
  | some j =>
      let nbr ← derefIntf j
      if nbr.comm.port = 0 ∨ intf.comm.fd = 0 then pure 0
      else
        let nsent ← sysSendCall i frame
        pure (if nsent < 0 then 0 else 1)

/-- `tuntap_send_bytes`. -/
def tuntapSendBytes (i : IntfId) (frame : List UInt8) : M Int := sysSendCall i frame

/-- `send_bytes_out`. -/
def sendBytesOut (frame : List UInt8) (i : IntfId) : M Int := do
  let intf ← derefIntf i
  match intf.comm.commType with
  | .udp => udpSendBytes i frame
  | .tuntap => tuntapSendBytes i frame
  | .none => throw .nullDeref

/-- `send_pkt_out`. -/
def sendPktOut (i : IntfId) (skb : SkBuff) : M Bool := do
  let result ← sendBytesOut skb.bytes i
  if 0 ≤ result then do
    freeSkb skb
    pure true
  else pure false

/-- `ethernet_output`. -/
def ethernetOutput (i : IntfId) (mac : MacAddr) (proto : UInt16) (skb : SkBuff) : M Bool := do
  log (.ethOutput i mac proto skb)
  let skb ← skbPush skb ethHdrSize
  let hdr := skb.data
  let intf ← derefIntf i
  let skb := skb.copyIn hdr mac.addr
  let skb := skb.copyIn (hdr + 6) intf.macAddr.addr
  let skb := skb.store16 (hdr + 12) (UInt16.ofNat (htons proto.toNat))
  if skb.len < 60 then do
    let skb ← skbPut skb (60 - skb.len)
    sendPktOut i skb
  else sendPktOut i skb

end SimpleTcpip
