/-
Connections: tcp.c.

The fields of `struct tcp_hdr` are at the offsets 0 (`src_port`), 2 (`dst_port`),
4 (`seq`), 8 (`ack`), 12 (`hlen`), 13 (`flags`), 14 (`wnd_sz`), 16 (`cksum`) and
18 (`urgp`).
-/
import SimpleTcpip.Model.Udp

namespace SimpleTcpip

def maxTcpPayload : Nat := 1446
def tcpHdrSize : Nat := 20
def tcpWindowSize : UInt16 := 1500
def pseudoIpHdrSize : Nat := 12

/-! ### Flags -/

/-- `struct tcp_flags`. -/
structure TcpFlags where
  val : UInt8
  deriving DecidableEq

namespace TcpFlags

def fin (f : TcpFlags) : Bool := f.val.toNat.testBit 0
def syn (f : TcpFlags) : Bool := f.val.toNat.testBit 1
def rst (f : TcpFlags) : Bool := f.val.toNat.testBit 2
def ack (f : TcpFlags) : Bool := f.val.toNat.testBit 4

/-- `flags.val = 0; flags.ack = 1`. -/
def onlyAck : TcpFlags := ⟨0x10⟩

/-- `flags.val = 0; flags.ack = 1; flags.rst = 1`. -/
def ackRst : TcpFlags := ⟨0x14⟩

/-- `flags.val = 0; flags.syn = 1; flags.ack = 1`. -/
def synAck : TcpFlags := ⟨0x12⟩

end TcpFlags

/-! ### The checksum -/

/-- The pseudo header `calc_tcp_cksum` writes in front of the segment. -/
def writePseudoHdr (m : Memory) (p : Nat) (size : Nat) (srcIp dstIp : UInt32) : Memory :=
  let m := m.store32 p srcIp
  let m := m.store32 (p + 4) dstIp
  let m := m.store8 (p + 8) 0
  let m := m.store8 (p + 9) ipProtoTcp
  m.store16 (p + 10) (UInt16.ofNat (htons size))

/-- `calc_tcp_cksum`: the checksum, and the buffer after the bytes in front of the
segment were put back. -/
def calcTcpCksum (m : Memory) (hdr size : Nat) (srcIp dstIp : UInt32) : UInt16 × Memory :=
  let p := hdr - pseudoIpHdrSize
  let backup := m.read p pseudoIpHdrSize
  let m := writePseudoHdr m p size srcIp dstIp
  let result := calcChecksum16 (fun i => m (p + i)) (size + pseudoIpHdrSize)
  (result, m.write p backup)

/-- `fill_tcp_cksum`. -/
def fillTcpCksum (skb : SkBuff) (hdr size : Nat) (srcIp dstIp : UInt32) : SkBuff :=
  let (result, mem) := calcTcpCksum skb.mem hdr size srcIp dstIp
  { skb with mem := mem.store16 (hdr + 16) (UInt16.ofNat (htons result.toNat)) }

/-- `check_tcp_cksum`; nothing calls it. -/
def checkTcpCksum (m : Memory) (hdr size : Nat) (srcIp dstIp : UInt32) : Bool :=
  (calcTcpCksum m hdr size srcIp dstIp).1 == 0

/-! ### Lookups -/

/-- `is_good_tcp_sock` and the socket behind the descriptor. -/
def goodTcpSock (w : World) (sockfd : Int) : Option SockId :=
  if sockfd < 0 ∨ maxTcpSocks ≤ sockfd then none else w.tcpFdToSock sockfd.toNat

/-- `is_good_tcp_connection_sock` and the connection behind the descriptor. -/
def goodTcpConnectionSock (w : World) (connfd : Int) : Option ConnId :=
  if connfd < 0 ∨ maxTcpConnSocks ≤ connfd then none else w.fdConnToSock connfd.toNat

/-- `tcp_socks_manager_find`.  A closed socket is unlinked before it is freed. -/
def tcpSocksManagerFind (w : World) (i : IntfId) (port : UInt16) : Option SockId :=
  (w.tcpSocks i).find? fun k => (w.tcpSock k).any fun sock => sock.localPort == port

/-- `find_matching_connection`.  Connections are never freed. -/
def findMatchingConnection (w : World) (sock : TcpSock) (remoteIp : UInt32) (remotePort : UInt16) :
    Option ConnId :=
  sock.conns.find? fun c =>
    (w.tcpConn c).any fun conn => conn.remotePort == remotePort && conn.remoteIp == remoteIp

/-! ### Output -/

/-- The test in `tcp_out` that the segment does not fit the window: the left side is a
`size_t`, the right side wraps at 32 bits. -/
def exceedsWindow (conn : TcpConnectionSock) (size : Nat) : Bool :=
  (conn.snt.una + conn.snt.wnd.toUInt32).toNat < conn.snt.nxt.toNat + size

/-- The sequence numbers a segment takes up. -/
def seqSpan (size : Nat) (flags : TcpFlags) : UInt32 :=
  UInt32.ofNat size + (if flags.syn then 1 else 0) + (if flags.fin then 1 else 0)

/-- The header fields `tcp_out` writes once the window test has passed. -/
def fillTcpHdr (skb : SkBuff) (hdr : Nat) (conn : TcpConnectionSock) (flags : TcpFlags) : SkBuff :=
  let skb := skb.store32 (hdr + 4) (htonl conn.snt.nxt)
  let skb := skb.store32 (hdr + 8) (htonl conn.rcv.nxt)
  let skb := skb.store8 (hdr + 13) flags.val
  let skb := skb.store16 (hdr + 14) (UInt16.ofNat (htons conn.rcv.wnd.toNat))
  skb.store8 (hdr + 12) 0x50

/-- `tcp_out`. -/
def tcpOut (ipInput : SkBuff → M Bool) (c : ConnId) (buff : List UInt8) (flags : TcpFlags) :
    M Bool := do
  let size := buff.length
  let conn ← derefTcpConn c
  let skb ← allocSkb (buffHeadroom + buffTailroom + tcpHdrSize + size)
  let parent ← derefTcpSock conn.parent
  let skb := { skb with intf := parent.intf }
  let skb ← skbReserve skb buffHeadroom
  let hdr := skb.tail
  let skb ← skbPut skb tcpHdrSize
  let skb := skb.store16 hdr (UInt16.ofNat (htons parent.localPort.toNat))
  let skb := skb.store16 (hdr + 2) (UInt16.ofNat (htons conn.remotePort.toNat))
  -- `return -1` in a function of type `bool`
  if exceedsWindow conn size then pure true
  else do
    let skb := fillTcpHdr skb hdr conn flags
    let payload := skb.tail
    let skb ← skbPut skb size
    let skb := skb.copyIn payload buff
    setTcpConn c { conn with snt := { conn.snt with nxt := conn.snt.nxt + seqSpan size flags } }
    let skb := fillTcpCksum skb hdr skb.len parent.localIp conn.remoteIp
    let intf ← derefIntfPtr parent.intf
    ipOutput ipInput intf.node conn.remoteIp ipProtoTcp skb

/-! ### Input -/

/-- `close_connection`: reset the peer, and move the connection to `closed_conns`. -/
def closeConnection (ipInput : SkBuff → M Bool) (c : ConnId) : M Bool := do
  let _ ← tcpOut ipInput c [] .ackRst
  let conn ← derefTcpConn c
  let parent ← derefTcpSock conn.parent
  setTcpSock conn.parent
    { parent with conns := parent.conns.erase c, closedConns := c :: parent.closedConns }
  pure true

/-- The flags of the header at `hdr`. -/
def readTcpFlags (skb : SkBuff) (hdr : Nat) : M TcpFlags := do
  let val ← readU8 skb (hdr + 13)
  pure ⟨val⟩

/-- The host-order sequence number of the header at `hdr`. -/
def readTcpSeq (skb : SkBuff) (hdr : Nat) : M UInt32 := do
  let seq ← readU32 skb (hdr + 4)
  pure (ntohl seq)

/-- `handle_estab`. -/
def handleEstab (ipInput : SkBuff → M Bool) (c : ConnId) (skb : SkBuff) : M Bool := do
  let hdr := skb.data
  let seq ← readTcpSeq skb hdr
  let conn ← derefTcpConn c
  if seq = conn.rcv.nxt then do
    let flags ← readTcpFlags skb hdr
    if flags.rst then closeConnection ipInput c
    else if flags.fin then do
      setTcpConn c { conn with rcv := { conn.rcv with nxt := conn.rcv.nxt + 1 } }
      closeConnection ipInput c
    else do
      let skb ← skbPull skb tcpHdrSize
      setTcpConn c { conn with
        rcv := { conn.rcv with nxt := conn.rcv.nxt + UInt32.ofNat skb.len }
        rxSkb := skb :: conn.rxSkb }
      pure true
  else pure false

/-- `handle_syn_sent`. -/
def handleSynSent (c : ConnId) (skb : SkBuff) : M Bool := do
  let hdr := skb.data
  let flags ← readTcpFlags skb hdr
  if flags.ack ∧ ¬ flags.syn then do
    let seq ← readTcpSeq skb hdr
    let conn ← derefTcpConn c
    if seq = conn.rcv.nxt then do
      setTcpConn c { conn with state := .handleEstab }
      pure false
    else pure false
  else pure false

/-- The connection `handle_new_connection` fills in. -/
def newConnection (k : SockId) (remoteIp : UInt32) (remotePort : UInt16) (wndSz : UInt16)
    (seq : UInt32) : TcpConnectionSock where
  parent := k
  state := .handleSynSent
  remoteIp := remoteIp
  remotePort := remotePort
  snt := { una := 0, nxt := 0, wnd := wndSz, iss := 0 }
  -- `irs` keeps the byte order of the wire
  rcv := { nxt := ntohl seq + 1, wnd := tcpWindowSize, irs := seq }
  rxSkb := []

/-- `handle_new_connection`. -/
def handleNewConnection (ipInput : SkBuff → M Bool) (k : SockId) (skb : SkBuff) : M Bool := do
  let hdr := skb.data
  let c ← allocId
  let iph ← followIpHdr skb
  let remoteIp ← readU32 skb (iph + 12)
  let srcPort ← readU16 skb hdr
  let wndSz ← readU16 skb (hdr + 14)
  let seq ← readU32 skb (hdr + 4)
  setTcpConn c (newConnection k remoteIp (UInt16.ofNat (ntohs srcPort.toNat))
    (UInt16.ofNat (ntohs wndSz.toNat)) seq)
  let sock ← derefTcpSock k
  setTcpSock k { sock with conns := c :: sock.conns }
  let _ ← tcpOut ipInput c [] .synAck
  pure false

/-- `conn->state(conn, skb)`. -/
def runState (ipInput : SkBuff → M Bool) (c : ConnId) (skb : SkBuff) : M Bool := do
  let conn ← derefTcpConn c
  match conn.state with
  | .handleSynSent => handleSynSent c skb
  | .handleEstab => handleEstab ipInput c skb

/-- `tcp_input` once the socket is known. -/
def tcpSockInput (ipInput : SkBuff → M Bool) (k : SockId) (skb : SkBuff) : M Bool := do
  let hdr := skb.data
  let sock ← derefTcpSock k
  let iph ← followIpHdr skb
  let srcIp ← readU32 skb (iph + 12)
  let srcPort ← readU16 skb hdr
  match findMatchingConnection (← get) sock srcIp (UInt16.ofNat (ntohs srcPort.toNat)) with
  | some c => runState ipInput c skb
  | none =>
      if sock.listening then do
        let flags ← readTcpFlags skb hdr
        if flags.syn ∧ ¬ flags.ack then handleNewConnection ipInput k skb
        else pure false
      else pure false

/-- `tcp_input`. -/
def tcpInput (ipInput : SkBuff → M Bool) (skb : SkBuff) : M Bool := do
  match skb.intf with
  | none => throw .nullDeref
  | some i => do
      let dstPort ← readU16 skb (skb.data + 2)
      match tcpSocksManagerFind (← get) i (UInt16.ofNat (ntohs dstPort.toNat)) with
      | none => pure false
      | some k => tcpSockInput ipInput k skb

/-! ### The socket calls -/

/-- `tcp_socket`. -/
def tcpSocket (node : NodeId) : M Int := do
  match firstFree maxTcpSocks (← get).tcpFdToSock with
  | none => pure (-1)
  | some i => do
      let k ← allocId
      setTcpSock k { bound := false, listening := false, node, localIp := 0, intf := none,
                     localPort := 0, conns := [], closedConns := [] }
      modify fun w => { w with tcpFdToSock := Function.update w.tcpFdToSock i (some k) }
      pure i

/-- `if (sock->bound) list_del(&sock->list)`. -/
def unlinkTcpSock (k : SockId) (sock : TcpSock) : M Unit :=
  match sock.bound, sock.intf with
  | true, some i =>
      modify fun w => { w with tcpSocks := Function.update w.tcpSocks i ((w.tcpSocks i).erase k) }
  | _, _ => pure ()

/-- `tcp_close`. -/
def tcpClose (sockfd : Int) : M Int := do
  match goodTcpSock (← get) sockfd with
  | none => pure (-1)
  | some k => do
      let sock ← derefTcpSock k
      modify fun w =>
        { w with tcpFdToSock := Function.update w.tcpFdToSock sockfd.toNat none }
      unlinkTcpSock k sock
      modify fun w => { w with tcpSock := Function.update w.tcpSock k none }
      pure 0

/-- `tcp_bind`. -/
def tcpBind (sockfd : Int) (ip : UInt32) (port : UInt16) : M Int := do
  match goodTcpSock (← get) sockfd with
  | none => pure (-1)
  | some k => do
      let sock ← derefTcpSock k
      if sock.bound then pure (-1)
      else
        match getMatchingInterface (← get) sock.node ip with
        | none => pure (-1)
        | some i => do
            setTcpSock k
              { sock with bound := true, intf := some i, localIp := ip, localPort := port }
            modify fun w =>
              { w with tcpSocks := Function.update w.tcpSocks i (k :: w.tcpSocks i) }
            pure 0

/-- `tcp_listen`. -/
def tcpListen (sockfd : Int) : M Int := do
  match goodTcpSock (← get) sockfd with
  | none => pure (-1)
  | some k => do
      let sock ← derefTcpSock k
      if ¬ sock.bound then pure (-1)
      else do
        setTcpSock k { sock with listening := true }
        pure 0

/-- Is a connection's `state` the function `handle_estab`? -/
def isEstab (w : World) (c : ConnId) : Bool :=
  (w.tcpConn c).any fun conn => conn.state == .handleEstab

/-- What `tcp_accept` hands to its caller. -/
structure Accepted where
  /-- The returned descriptor. -/
  connfd : Nat
  ip : UInt32
  port : UInt16
  deriving DecidableEq

/-- `tcp_accept`; `none` stands for the result -1. -/
def tcpAccept (sockfd : Int) : M (Option Accepted) := do
  match goodTcpSock (← get) sockfd with
  | none => pure none
  | some k => do
      let sock ← derefTcpSock k
      if ¬ sock.listening then pure none
      else
        match sock.conns.find? (isEstab (← get)) with
        | none => pure none
        | some c =>
            match firstFree maxTcpConnSocks (← get).fdConnToSock with
            | none => pure none
            | some i => do
                modify fun w =>
                  { w with fdConnToSock := Function.update w.fdConnToSock i (some c) }
                let conn ← derefTcpConn c
                pure (some { connfd := i, ip := conn.remoteIp, port := conn.remotePort })

/-- The end of `tcp_recv`: a buffer read to its end is unlinked and freed. -/
def finishTcpRecv (c : ConnId) (conn : TcpConnectionSock) (skb : SkBuff) : M Unit :=
  if skb.len = 0 then do
    setTcpConn c { conn with rxSkb := conn.rxSkb.dropLast }
    freeSkb skb
  else setTcpConn c { conn with rxSkb := conn.rxSkb.dropLast ++ [skb] }

/-- `tcp_recv`; `none` stands for the result -1, and otherwise the result is the number
of bytes written to the buffer. -/
def tcpRecv (connfd : Int) (size : Nat) : M (Option (List UInt8)) := do
  match goodTcpConnectionSock (← get) connfd with
  | none => pure none
  | some c => do
      let conn ← derefTcpConn c
      if conn.state ≠ .handleEstab then pure none
      else
        match conn.rxSkb.getLast? with
        | none => pure none
        | some skb => do
            let finalSize := min skb.len size
            let bytes := skb.mem.read skb.data finalSize
            let skb ← skbPull skb finalSize
            finishTcpRecv c conn skb
            pure (some bytes)

/-- `tcp_send`; the result is -1 or the number of bytes sent. -/
def tcpSend (ipInput : SkBuff → M Bool) (connfd : Int) (buff : List UInt8) : M Int := do
  match goodTcpConnectionSock (← get) connfd with
  | none => pure (-1)
  | some c => do
      let conn ← derefTcpConn c
      if conn.state ≠ .handleEstab then pure (-1)
      else do
        let finalSize := min buff.length maxTcpPayload
        let result ← tcpOut ipInput c (buff.take finalSize) .onlyAck
        pure (if result then (finalSize : Int) else -1)

end SimpleTcpip
