/-
Echo: icmp.c.  The header has `type` at 0, `code` at 1, `cksum` at 2 and the rest of
the message from 4 on.
-/
import SimpleTcpip.Model.Ip

namespace SimpleTcpip

def icmpEchoRequestType : UInt8 := 8
def icmpEchoRequestCode : UInt8 := 0
def icmpEchoReplyType : UInt8 := 0
def icmpEchoReplyCode : UInt8 := 0
def icmpHdrSize : Nat := 4

/-- `calc_icmp_cksum`. -/
def calcIcmpCksum (m : Memory) (hdr size : Nat) : UInt16 :=
  calcChecksum16 (fun i => m (hdr + i)) size

/-- `fill_icmp_cksum`. -/
def fillIcmpCksum (skb : SkBuff) (hdr size : Nat) : SkBuff :=
  skb.store16 (hdr + 2) (UInt16.ofNat (htons (calcIcmpCksum skb.mem hdr size).toNat))

/-- `check_icmp_cksum`; nothing calls it. -/
def checkIcmpCksum (m : Memory) (hdr size : Nat) : Bool := calcIcmpCksum m hdr size == 0

/-- `icmp_out`. -/
def icmpOut (ipInput : SkBuff → M Bool) (node : NodeId) (ip : UInt32) (type code : UInt8)
    (payload : List UInt8) : M Bool := do
  let size := payload.length
  let skb ← allocSkb (buffHeadroom + buffTailroom + icmpHdrSize + size)
  let skb ← skbReserve skb buffHeadroom
  let hdr := skb.tail
  let skb ← skbPut skb (icmpHdrSize + size)
  let skb := skb.store8 hdr type
  let skb := skb.store8 (hdr + 1) code
  let skb := skb.copyIn (hdr + 4) payload
  let skb := fillIcmpCksum skb hdr skb.len
  let result ← ipOutput ipInput node ip ipProtoIcmp skb
  if result then pure true
  else do
    freeSkb skb
    pure false

/-- `ping`. -/
def ping (ipInput : SkBuff → M Bool) (node : NodeId) (ipAddr : List UInt8) : M Bool :=
  icmpOut ipInput node (convertIpFromStrToInt ipAddr) icmpEchoRequestType icmpEchoRequestCode []

/-- `icmp_input`. -/
def icmpInput (ipInput : SkBuff → M Bool) (skb : SkBuff) : M Bool :=
  let hdr := skb.data
  if skb.len < icmpHdrSize then pure false
  else do
    let type ← readU8 skb hdr
    let code ← readU8 skb (hdr + 1)
    if type = icmpEchoRequestType ∧ code = icmpEchoRequestCode then do
      let intf ← derefIntfPtr skb.intf
      let iph ← followIpHdr skb
      let src ← readU32 skb (iph + 12)
      let _ ← icmpOut ipInput intf.node src icmpEchoReplyType icmpEchoRequestCode
        (skb.mem.read (hdr + 4) (skb.len - icmpHdrSize))
      freeSkb skb
      pure true
    else do
      freeSkb skb
      pure true

end SimpleTcpip
