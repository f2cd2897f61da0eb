/-
Receiving: `ip_input`, `ip_preroute` and `ip_forward` of ip.c, `ethernet_input` of
ethernet.c, and the receiving half of comm.c.

`ip_input` reaches itself through `ip_postroute` when a packet is sent to one of the
node's own addresses.  Its first argument bounds how deep that nests.  Two levels are
enough: such a packet has no `ip_hdr`, and a handler that answers reads it before it sends.
-/
import SimpleTcpip.Model.Icmp
import SimpleTcpip.Model.Tcp

namespace SimpleTcpip

/-- `ip_input`, with a bound on how often it may be entered. -/
def ipInputDepth : Nat → SkBuff → M Bool
  | 0, _ => throw .callDepth
  | depth + 1, skb => do
      let hdr := skb.data
      let proto ← readU8 skb (hdr + 9)
      if proto = ipProtoIcmp then do
        let skb ← skbPull skb ipHdrSize
        log (.transport proto skb)
        icmpInput (ipInputDepth depth) skb
      else if proto = ipProtoTcp then do
        let skb ← skbPull skb ipHdrSize
        log (.transport proto skb)
        tcpInput (ipInputDepth depth) skb
      else if proto = ipProtoUdp then do
        let skb ← skbPull skb ipHdrSize
        log (.transport proto skb)
        udpInput skb
      else pure false

/-- A packet received may be answered to the node itself, and no answer is answered. -/
def callDepth : Nat := 2

/-- `ip_input`. -/
def ipInput : SkBuff → M Bool := ipInputDepth callDepth

/-- `ip_forward`. -/
def ipForward (skb : SkBuff) : M Bool := do
  if ¬ (← get).ipForwardEnable then pure false
  else do
    let hdr := skb.data
    let ttl ← readU8 skb (hdr + 8)
    if ttl = 0 then pure false
    else
      let skb := skb.store8 (hdr + 8) (ttl - 1)
      if ttl - 1 = 0 then pure false
      else do
        let intf ← derefIntfPtr skb.intf
        ipPostroute ipInput intf.node { skb with intf := none }

/-- `ip_preroute`. -/
def ipPreroute (skb : SkBuff) : M Bool := do
  let intf ← derefIntfPtr skb.intf
  let dstIp ← readU32 skb (skb.data + 16)
  if isIpLocal (← get) intf.node dstIp then ipInput skb
  else ipForward skb

/-- `ethernet_input_qualify`. -/
def ethernetInputQualify (intf : Intf) (dstMac : MacAddr) : Bool :=
  dstMac == intf.macAddr || isMacBroadcastAddr dstMac

/-- `ethernet_input`. -/
def ethernetInput (skb : SkBuff) : M Bool := do
  let hdr := skb.data
  if skb.len < ethHdrSize then pure false
  else do
    let intf ← derefIntfPtr skb.intf
    let dstMac ← readMac skb hdr
    if ¬ ethernetInputQualify intf dstMac then pure false
    else do
      let type ← readU16 skb (hdr + 12)
      if type.toNat = htons ethProtoArp.toNat then do
        let skb ← skbPull skb ethHdrSize
        arpInput skb
      else if type.toNat = htons ethProtoIp.toNat then do
        let skb ← skbPull skb ethHdrSize
        ipPreroute { skb with ipHdr := some skb.data }
      else pure false

/-- `switch_input`: not implemented in the source. -/
def switchInput (_skb : SkBuff) : M Bool := pure false

/-- `pkt_receive`. -/
def pktReceive (skb : SkBuff) : M Bool := do
  let intf ← derefIntfPtr skb.intf
  if intf.isIpAddrConfig then ethernetInput skb
  else switchInput skb

def recvBufferSize : Nat := 2048

/-- The buffer `recv_task` fills with a frame. -/
def recvSkb (i : IntfId) (frame : List UInt8) : M SkBuff := do
  let skb ← allocSkb recvBufferSize
  let skb ← skbReserve skb recvReservedHeadRoom
  let skb := { skb with intf := some i }
  let frame := frame.take (skbTailroom skb)
  let p := skb.tail
  let skb ← skbPut skb frame.length
  let skb := skb.copyIn p frame
  log (.received i skb)
  pure skb

/-- The body of the loop of `recv_task` for one frame waiting on an interface; a
receive that returns no bytes is not a frame. -/
def recvFrame (i : IntfId) (frame : List UInt8) : M Unit := do
  let skb ← recvSkb i frame
  let ok ← pktReceive skb
  freeSkbIf (!ok) skb

end SimpleTcpip
