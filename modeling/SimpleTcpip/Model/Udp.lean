/-
Datagrams: udp.c.  The header has `src_port` at 0, `dst_port` at 2, `total_len` at 4
and `cksum` at 6.
-/
import SimpleTcpip.Model.Ip

namespace SimpleTcpip

def udpHdrSize : Nat := 8
def maxUdpPayload : Nat := 1446

/-! ### Lookups -/

/-- `is_good_udp_sock` and the socket behind the descriptor. -/
def goodUdpSock (w : World) (sockfd : Int) : Option SockId :=
  if sockfd < 0 ∨ maxUdpSocks ≤ sockfd then none else w.udpFdToSock sockfd.toNat

/-- `udp_socks_manager_find`.  A closed socket is unlinked before it is freed. -/
def udpSocksManagerFind (w : World) (i : IntfId) (port : UInt16) : Option SockId :=
  (w.udpSocks i).find? fun k => (w.udpSock k).any fun sock => sock.localPort == port

/-! ### Input and output -/

/-- `udp_input`. -/
def udpInput (skb : SkBuff) : M Bool := do
  let hdr := skb.data
  match skb.intf with
  | none => throw .nullDeref
  | some i =>
      let dstPort ← readU16 skb (hdr + 2)
      let found := udpSocksManagerFind (← get) i (UInt16.ofNat (ntohs dstPort.toNat))
      let skb := { skb with udpHdr := some hdr }
      match found with
      | none => pure false
      | some k => do
          let skb ← skbPull skb udpHdrSize
          let sock ← derefUdpSock k
          setUdpSock k { sock with rxSkb := skb :: sock.rxSkb }
          pure true

/-- `udp_out`. -/
def udpOut (ipInput : SkBuff → M Bool) (sock : UdpSock) (buff : List UInt8) (ip : UInt32)
    (port : UInt16) : M Bool := do
  let size := buff.length
  let skb ← allocSkb (buffHeadroom + buffTailroom + udpHdrSize + size)
  let skb ← skbReserve skb buffHeadroom
  let hdr := skb.tail
  let skb ← skbPut skb udpHdrSize
  let payload := skb.tail
  let skb ← skbPut skb size
  let skb := skb.copyIn payload buff
  let skb := skb.store16 hdr (UInt16.ofNat (htons sock.localPort.toNat))
  let skb := skb.store16 (hdr + 2) (UInt16.ofNat (htons port.toNat))
  let skb := skb.store16 (hdr + 4) (UInt16.ofNat (htons skb.len))
  let skb := { skb with intf := sock.intf }
  let intf ← derefIntfPtr sock.intf
  ipOutput ipInput intf.node ip ipProtoUdp skb

/-! ### The socket calls -/

/-- The first free slot of a descriptor table. -/
def firstFree {α : Type} (size : Nat) (table : Nat → Option α) : Option Nat :=
  (List.range size).find? fun i => (table i).isNone

/-- `udp_socket`. -/
def udpSocket (node : NodeId) : M Int := do
  match firstFree maxUdpSocks (← get).udpFdToSock with
  | none => pure (-1)
  | some i => do
      let k ← allocId
      setUdpSock k { bound := false, node, intf := none, localPort := 0, rxSkb := [] }
      modify fun w => { w with udpFdToSock := Function.update w.udpFdToSock i (some k) }
      pure i

/-- `if (sock->bound) list_del(&sock->list)`. -/
def unlinkUdpSock (k : SockId) (sock : UdpSock) : M Unit :=
  match sock.bound, sock.intf with
  | true, some i =>
      modify fun w => { w with udpSocks := Function.update w.udpSocks i ((w.udpSocks i).erase k) }
  | _, _ => pure ()

/-- `udp_close`. -/
def udpClose (sockfd : Int) : M Int := do
  match goodUdpSock (← get) sockfd with
  | none => pure (-1)
  | some k => do
      let sock ← derefUdpSock k
      modify fun w =>
        { w with udpFdToSock := Function.update w.udpFdToSock sockfd.toNat none }
      unlinkUdpSock k sock
      modify fun w => { w with udpSock := Function.update w.udpSock k none }
      pure 0

/-- `udp_bind`. -/
def udpBind (sockfd : Int) (ip : UInt32) (port : UInt16) : M Int := do
  match goodUdpSock (← get) sockfd with
  | none => pure (-1)
  | some k => do
      let sock ← derefUdpSock k
      if sock.bound then pure (-1)
      else
        match getMatchingInterface (← get) sock.node ip with
        | none => pure (-1)
        | some i => do
            setUdpSock k { sock with bound := true, intf := some i, localPort := port }
            modify fun w =>
              { w with udpSocks := Function.update w.udpSocks i (k :: w.udpSocks i) }
            pure 0

/-- What `udp_recvfrom` hands to its caller. -/
structure Datagram where
  /-- The bytes written to the buffer; their number is the returned value. -/
  bytes : List UInt8
  /-- What is written through `ip`, unless it is null. -/
  ip : Option UInt32
  /-- What is written through `port`, unless it is null. -/
  port : Option UInt16
  deriving DecidableEq

/-- `if (ip) ip->iaddr = skb->ip_hdr->src_ip.iaddr`. -/
def recvSrcIp (skb : SkBuff) (wanted : Bool) : M (Option UInt32) :=
  if wanted then do
    let iph ← followIpHdr skb
    let src ← readU32 skb (iph + 12)
    pure (some src)
  else pure none

/-- `if (port) *port = NTOHS(skb->udp_hdr->src_port)`. -/
def recvSrcPort (skb : SkBuff) (wanted : Bool) : M (Option UInt16) :=
  if wanted then
    match skb.udpHdr with
    | none => throw .nullDeref
    | some hdr => do
        let port ← readU16 skb hdr
        pure (some (UInt16.ofNat (ntohs port.toNat)))
  else pure none

/-- The end of `udp_recvfrom`: a buffer read to its end is unlinked and freed. -/
def finishUdpRecv (k : SockId) (sock : UdpSock) (skb : SkBuff) : M Unit :=
  if skb.len = 0 then do
    setUdpSock k { sock with rxSkb := sock.rxSkb.dropLast }
    freeSkb skb
  else setUdpSock k { sock with rxSkb := sock.rxSkb.dropLast ++ [skb] }

/-- `udp_recvfrom`; `none` stands for the result -1. -/
def udpRecvfrom (sockfd : Int) (size : Nat) (wantIp wantPort : Bool) : M (Option Datagram) := do
  match goodUdpSock (← get) sockfd with
  | none => pure none
  | some k => do
      let sock ← derefUdpSock k
      if ¬ sock.bound then pure none
      else
        match sock.rxSkb.getLast? with
        | none => pure none
        | some skb => do
            let finalSize := min skb.len size
            let bytes := skb.mem.read skb.data finalSize
            let skb ← skbPull skb finalSize
            let ip ← recvSrcIp skb wantIp
            let port ← recvSrcPort skb wantPort
            finishUdpRecv k sock skb
            pure (some { bytes, ip, port })

/-- `udp_sendto`; the result is -1 or the number of bytes sent. -/
def udpSendto (ipInput : SkBuff → M Bool) (sockfd : Int) (buff : List UInt8) (ip : UInt32)
    (port : UInt16) : M Int := do
  match goodUdpSock (← get) sockfd with
  | none => pure (-1)
  | some k => do
      let sock ← derefUdpSock k
      if ¬ sock.bound then pure (-1)
      else do
        let finalSize := min buff.length maxUdpPayload
        let result ← udpOut ipInput sock (buff.take finalSize) ip port
        pure (if result then (finalSize : Int) else -1)

end SimpleTcpip
