/-
The way of a received frame through the layers.

A completed `pkt_receive` went one of four ways: it ignored the frame, or handed it to
`arp_input`, `ip_forward` or `ip_input`; a completed `ip_input` handed the packet to one
protocol or refused it; and a completed `tcp_input` handed the segment to a connection, opened
one or refused it.  What a connection has queued, `tcp_recv` takes from the other end.  These are
the case distinctions later proofs start from.
-/
import SimpleTcpip.Proofs.Changes

namespace SimpleTcpip

open Fallible

/-- What a completed `pkt_receive` did with a frame. -/
inductive FrameInput (w : World) (skb : SkBuff) (r : Bool) (w' : World) : Prop
  /-- It dropped the frame before it looked at a packet. -/
  | ignored (hno : ¬ IpAccepted w skb) (hr : r = false) (hw : w' = w)
  | arp (hno : ¬ IpAccepted w skb) (hlen : ethHdrSize ≤ skb.len)
      (htype : (skb.mem.load16 (skb.data + 12)).toNat = htons ethProtoArp.toNat)
      (hrun : arpInput (skb.pulled ethHdrSize) w = .ok r w')
  | forwarded {i : IntfId} {intf : Intf} (hno : ¬ IpAccepted w skb) (hlen : ethHdrSize ≤ skb.len)
      (hi : skb.intf = some i) (hintf : w.intf i = some intf)
      (hlocal : isIpLocal w intf.node skb.ipPacket.dstIp = false)
      (hrun : ipForward skb.ipPacket w = .ok r w')
  | delivered (hip : IpAccepted w skb) (hrun : ipInput skb.ipPacket w = .ok r w')

/-- The process once `ip_input` has pulled the header of a packet. -/
def World.loops (w : World) (skb : SkBuff) : World :=
  { w with trace := w.trace ++ [.transport skb.proto (skb.pulled ipHdrSize)] }

/-- What a completed `ip_input` did: the protocol of the packet got it without its header. -/
inductive IpInput (depth : Nat) (w : World) (skb : SkBuff) (r : Bool) (w' : World) : Prop
  | unknown (hicmp : skb.proto ≠ ipProtoIcmp) (htcp : skb.proto ≠ ipProtoTcp)
      (hudp : skb.proto ≠ ipProtoUdp) (hr : r = false) (hw : w' = w)
  | icmp (hproto : skb.proto = ipProtoIcmp)
      (hrun : icmpInput (ipInputDepth depth) (skb.pulled ipHdrSize) (w.loops skb) = .ok r w')
  | tcp (hproto : skb.proto = ipProtoTcp)
      (hrun : tcpInput (ipInputDepth depth) (skb.pulled ipHdrSize) (w.loops skb) = .ok r w')
  | udp (hproto : skb.proto = ipProtoUdp)
      (hrun : udpInput (skb.pulled ipHdrSize) (w.loops skb) = .ok r w')

/-- The state in which a transport protocol gets a packet. -/
def World.transports (w : World) (skb : SkBuff) : World :=
  { w with trace := w.trace ++ [.transport skb.ipPacket.proto skb.segment] }

/-- What a completed `ip_input` did with a received packet. -/
inductive PacketInput (depth : Nat) (w : World) (skb : SkBuff) (r : Bool) (w' : World) : Prop
  | icmp (hproto : skb.ipPacket.proto = ipProtoIcmp)
      (hrun : icmpInput (ipInputDepth depth) skb.segment (w.transports skb) = .ok r w')
  | tcp (hproto : skb.ipPacket.proto = ipProtoTcp)
      (hrun : tcpInput (ipInputDepth depth) skb.segment (w.transports skb) = .ok r w')
  | udp (hproto : skb.ipPacket.proto = ipProtoUdp)
      (hrun : udpInput skb.segment (w.transports skb) = .ok r w')
  | refused (hicmp : skb.ipPacket.proto ≠ ipProtoIcmp) (htcp : skb.ipPacket.proto ≠ ipProtoTcp)
      (hudp : skb.ipPacket.proto ≠ ipProtoUdp) (hr : r = false) (hw : w' = w)

/-- The socket `tcp_input` finds for a segment. -/
def tcpReceiver (w : World) (skb : SkBuff) : Option SockId :=
  skb.intf.bind fun i => tcpSocksManagerFind w i skb.tcpDst

/-- The state once a transport protocol followed the pointer to the IP header. -/
def World.followed (w : World) (skb : SkBuff) : World :=
  { w with trace := w.trace ++ [.readIpHdr skb.segment] }

/-- The process when a new connection answers the SYN. -/
def World.connecting (w : World) (skb : SkBuff) (k : SockId) (sock : TcpSock) : World :=
  { w with
    nextId := w.nextId + 1
    tcpConn := Function.update w.tcpConn w.nextId (some (skb.opens k))
    tcpSock := Function.update w.tcpSock k (some { sock with conns := w.nextId :: sock.conns })
    trace := w.trace ++ [.readIpHdr skb.segment] }

/-- What a completed `tcp_input` did with a received segment. -/
inductive SegmentInput (ipInput : SkBuff → M Bool) (w : World) (skb : SkBuff) (r : Bool)
    (w' : World) : Prop
  /-- No socket is bound to where it came. -/
  | unheard (hsock : rxSock w skb = none) (hr : r = false) (hw : w' = w)
  | synSent {k : SockId} {sock : TcpSock} {c : ConnId} {conn : TcpConnectionSock}
      (hsock : rxSock w skb = some k) (hk : w.tcpSock k = some sock)
      (hfound : findMatchingConnection w sock skb.ipPacket.srcIp skb.segment.tcpSrc = some c)
      (hconn : w.tcpConn c = some conn) (hstate : conn.state = .handleSynSent)
      (hrun : handleSynSent c skb.segment (w.followed skb) = .ok r w')
  | estab {k : SockId} {sock : TcpSock} {c : ConnId} {conn : TcpConnectionSock}
      (hsock : rxSock w skb = some k) (hk : w.tcpSock k = some sock)
      (hfound : findMatchingConnection w sock skb.ipPacket.srcIp skb.segment.tcpSrc = some c)
      (hconn : w.tcpConn c = some conn) (hstate : conn.state = .handleEstab)
      (hrun : handleEstab ipInput c skb.segment (w.followed skb) = .ok r w')
  | opened {k : SockId} {sock : TcpSock} (hsock : rxSock w skb = some k)
      (hk : w.tcpSock k = some sock)
      (hfound : findMatchingConnection w sock skb.ipPacket.srcIp skb.segment.tcpSrc = none)
      (hopens : sock.listening ∧ skb.segment.tcpFlags.syn ∧ ¬ skb.segment.tcpFlags.ack)
      (hrun : handleNewConnection ipInput k skb.segment (w.followed skb) = .ok r w')
  | refused {k : SockId} {sock : TcpSock} (hsock : rxSock w skb = some k)
      (hk : w.tcpSock k = some sock)
      (hfound : findMatchingConnection w sock skb.ipPacket.srcIp skb.segment.tcpSrc = none)
      (hopens : ¬ (sock.listening ∧ skb.segment.tcpFlags.syn ∧ ¬ skb.segment.tcpFlags.ack))
      (hr : r = false) (hw : w' = w.followed skb)

/-- What a completed `tcp_recv` did. -/
inductive QueueRead (connfd : Int) (size : Nat) (w : World) (r : Option (List UInt8)) (w' : World) :
    Prop
  /-- There was nothing to read, or nobody to read it. -/
  | nothing (hr : r = none) (hw : w' = w)
  | read {c : ConnId} {conn : TcpConnectionSock} {skb : SkBuff}
      (hfd : goodTcpConnectionSock w connfd = some c) (hconn : w.tcpConn c = some conn)
      (hstate : conn.state = .handleEstab) (hlast : conn.rxSkb.getLast? = some skb)
      (hr : r = some (skb.mem.read skb.data (min skb.len size)))
      (hrun : finishTcpRecv c conn (skb.pulled (min skb.len size)) w = .ok () w')

section Ways

variable {w w' : World} {skb : SkBuff} {r : Bool} {depth : Nat}

/-- **The ways of a frame.** -/
theorem pktReceive_ok (hrun : pktReceive skb w = .ok r w') : FrameInput w skb r w' := by
  obtain ⟨intf, hderef, hrun⟩ := bind_ok_of_eq (derefIntfPtr_reads _) hrun
  obtain ⟨⟨i, hi, hintf⟩, -⟩ := derefIntfPtr_ok.mp hderef
  -- what an accepted packet must have passed
  have hpassed : IpAccepted w skb → intf.isIpAddrConfig = true ∧ ethHdrSize ≤ skb.len ∧
      ethernetInputQualify intf (MacAddr.load skb.mem skb.data) = true ∧
      (skb.mem.load16 (skb.data + 12)).toNat = htons ethProtoIp.toNat ∧
      isIpLocal w intf.node skb.ipPacket.dstIp = true := by
    rintro ⟨j, intf', hj, hintf', hrest⟩
    obtain ⟨rfl, rfl⟩ := intfPtr_unique hi hintf hj hintf'
    exact hrest
  have hignored : (pure false : M Bool) w = .ok r w' → ¬ IpAccepted w skb →
      FrameInput w skb r w' := by
    intro hpure hno
    cases hpure
    exact .ignored hno rfl rfl
  split at hrun
  swap
  · rename_i hconfig
    exact hignored hrun fun h => hconfig (hpassed h).1
  rename_i hconfig
  unfold ethernetInput at hrun
  split at hrun
  · rename_i hlen
    exact hignored hrun fun h => absurd (hpassed h).2.1 (Nat.not_le.mpr hlen)
  rename_i hlen
  have hlen' : ethHdrSize ≤ skb.len := Nat.le_of_not_lt hlen
  obtain ⟨intf', hderef', hrun⟩ := bind_ok_of_eq (derefIntfPtr_reads _) hrun
  obtain ⟨⟨j, hj, hintf'⟩, -⟩ := derefIntfPtr_ok.mp hderef'
  obtain ⟨rfl, rfl⟩ := intfPtr_unique hi hintf hj hintf'
  obtain ⟨mac, hmac, hrun⟩ := bind_ok_of_eq (readMac_reads _ _) hrun
  obtain ⟨-, rfl, -⟩ := readMac_ok.mp hmac
  split at hrun
  · rename_i hqual
    exact hignored hrun fun h => hqual (hpassed h).2.2.1
  rename_i hqual
  obtain ⟨type, htype, hrun⟩ := bind_ok_of_eq (readU16_reads _ _) hrun
  obtain ⟨-, rfl, -⟩ := readU16_ok.mp htype
  split at hrun
  · rename_i harp
    obtain ⟨s, hs, hrun⟩ := bind_ok_of_eq (skbPull_reads _ _) hrun
    obtain ⟨-, -, rfl, -⟩ := skbPull_ok.mp hs
    exact .arp (fun h => absurd (harp.symm.trans (hpassed h).2.2.2.1) (by decide)) hlen' harp hrun
  split at hrun
  · rename_i hip
    obtain ⟨s, hs, hrun⟩ := bind_ok_of_eq (skbPull_reads _ _) hrun
    obtain ⟨-, -, rfl, -⟩ := skbPull_ok.mp hs
    obtain ⟨intf', hderef', hrun⟩ := bind_ok_of_eq (derefIntfPtr_reads _) hrun
    obtain ⟨⟨j, hj, hintf'⟩, -⟩ := derefIntfPtr_ok.mp hderef'
    obtain ⟨rfl, rfl⟩ := intfPtr_unique hi hintf hj hintf'
    obtain ⟨dst, hdst, hrun⟩ := bind_ok_of_eq (readU32_reads _ _) hrun
    obtain ⟨-, rfl, -⟩ := readU32_ok.mp hdst
    obtain ⟨t, ht, hrun⟩ := bind_ok_of_eq get_reads hrun
    cases ht
    split at hrun
    · rename_i hlocal
      exact .delivered ⟨i, intf, hi, hintf, hconfig, hlen', Decidable.not_not.mp hqual, hip, hlocal⟩
        hrun
    · rename_i hlocal
      exact .forwarded (fun h => hlocal (hpassed h).2.2.2.2) hlen' hi hintf
        (Bool.eq_false_iff.mpr hlocal) hrun
  · rename_i hip
    exact hignored hrun fun h => hip (hpassed h).2.2.2.1

/-- **A packet goes to the protocol it names.** -/
theorem ipInput_goes (hrun : ipInputDepth (depth + 1) skb w = .ok r w') :
    IpInput depth w skb r w' := by
  obtain ⟨proto, hproto, hrest⟩ := bind_ok_of_eq (readU8_reads _ _) hrun
  obtain ⟨-, rfl, -⟩ := readU8_ok.mp hproto
  -- the handlers get the buffer with the IP header pulled
  have hpull : ∀ handler : SkBuff → M Bool,
      (do
        let s ← skbPull skb ipHdrSize
        log (.transport (skb.mem (skb.data + 9)) s)
        handler s : M Bool) w = .ok r w' →
        handler (skb.pulled ipHdrSize) (w.loops skb) = .ok r w' := by
    intro handler hrun
    obtain ⟨s, hs, hrest⟩ := bind_ok_of_eq (skbPull_reads _ _) hrun
    obtain ⟨-, -, rfl, -⟩ := skbPull_ok.mp hs
    obtain ⟨_, w1, h1, hlast⟩ := bind_ok_iff.mp hrest
    rw [log_ok] at h1
    subst h1
    exact hlast
  split at hrest
  · rename_i hicmp
    exact .icmp hicmp (hpull _ hrest)
  rename_i hicmp
  split at hrest
  · rename_i htcp
    exact .tcp htcp (hpull _ hrest)
  rename_i htcp
  split at hrest
  · rename_i hudp
    exact .udp hudp (hpull _ hrest)
  · rename_i hudp
    cases hrest
    exact .unknown hicmp htcp hudp rfl rfl

/-- **The ways of a packet for the node.** -/
theorem ipInput_ok (hrun : ipInputDepth (depth + 1) skb.ipPacket w = .ok r w') :
    PacketInput depth w skb r w' := by
  cases ipInput_goes hrun with
  | unknown hicmp htcp hudp hr hw => exact .refused hicmp htcp hudp hr hw
  | icmp hproto hrun => exact .icmp hproto hrun
  | tcp hproto hrun => exact .tcp hproto hrun
  | udp hproto hrun => exact .udp hproto hrun

section Segments

variable {ipInput : SkBuff → M Bool}

theorem tcpSockInput_ok {k : SockId} (hsock : rxSock w skb = some k)
    (hrun : tcpSockInput ipInput k skb.segment w = .ok r w') : SegmentInput ipInput w skb r w' := by
  obtain ⟨sock, hk, hrun⟩ := bind_ok_of_eq (derefTcpSock_reads k) hrun
  obtain ⟨hk, -⟩ := derefTcpSock_ok.mp hk
  obtain ⟨iph, w1, h1, hrun⟩ := bind_ok_iff.mp hrun
  obtain ⟨hiph, rfl⟩ := followIpHdr_ok.mp h1
  obtain rfl := Option.some.inj hiph
  obtain ⟨srcIp, hsrc, hrun⟩ := bind_ok_of_eq (readU32_reads _ _) hrun
  obtain ⟨-, rfl, -⟩ := readU32_ok.mp hsrc
  obtain ⟨srcPort, hport, hrun⟩ := bind_ok_of_eq (readU16_reads _ _) hrun
  obtain ⟨-, rfl, -⟩ := readU16_ok.mp hport
  obtain ⟨t, ht, hrun⟩ := bind_ok_of_eq get_reads hrun
  cases ht
  have hfind : findMatchingConnection (w.followed skb) sock
      (skb.segment.mem.load32 (skb.data + ethHdrSize + 12))
      (UInt16.ofNat (ntohs (skb.segment.mem.load16 skb.segment.data).toNat))
        = findMatchingConnection w sock skb.ipPacket.srcIp skb.segment.tcpSrc := rfl
  rw [World.followed] at hfind
  rw [hfind] at hrun
  cases hfound : findMatchingConnection w sock skb.ipPacket.srcIp skb.segment.tcpSrc with
  | some c =>
      rw [hfound] at hrun
      obtain ⟨conn, hconn, hrun⟩ := bind_ok_of_eq (derefTcpConn_reads c) hrun
      obtain ⟨hconn, -⟩ := derefTcpConn_ok.mp hconn
      cases hstate : conn.state with
      | handleSynSent =>
          rw [hstate] at hrun
          exact .synSent hsock hk hfound hconn hstate hrun
      | handleEstab =>
          rw [hstate] at hrun
          exact .estab hsock hk hfound hconn hstate hrun
  | none =>
      rw [hfound] at hrun
      dsimp only at hrun
      split at hrun
      · rename_i hlisten
        obtain ⟨flags, hflags, hrun⟩ := bind_ok_of_eq (readTcpFlags_reads _ _) hrun
        obtain ⟨-, rfl, -⟩ := readTcpFlags_ok.mp hflags
        split at hrun
        · rename_i hsyn
          exact .opened hsock hk hfound ⟨hlisten, hsyn⟩ hrun
        · rename_i hsyn
          cases hrun
          exact .refused hsock hk hfound (fun h => hsyn h.2) rfl rfl
      · rename_i hlisten
        cases hrun
        exact .refused hsock hk hfound (fun h => hlisten h.1) rfl rfl

/-- **A segment goes to the socket that is looked up.** -/
theorem tcpInput_goes (hrun : tcpInput ipInput skb w = .ok r w') :
    (tcpReceiver w skb = none ∧ r = false ∧ w' = w) ∨
      ∃ k, tcpReceiver w skb = some k ∧ tcpSockInput ipInput k skb w = .ok r w' := by
  unfold tcpInput at hrun
  unfold tcpReceiver
  cases hi : skb.intf with
  | none =>
      rw [hi] at hrun
      cases hrun
  | some i =>
      rw [hi] at hrun
      obtain ⟨port, hport, hrun⟩ := bind_ok_of_eq (readU16_reads _ _) hrun
      obtain ⟨-, rfl, -⟩ := readU16_ok.mp hport
      obtain ⟨t, ht, hrun⟩ := bind_ok_of_eq get_reads hrun
      cases ht
      have hfind : tcpSocksManagerFind w i
          (UInt16.ofNat (ntohs (skb.mem.load16 (skb.data + 2)).toNat))
            = tcpSocksManagerFind w i skb.tcpDst := rfl
      rw [hfind] at hrun
      rw [Option.bind_some]
      cases hk : tcpSocksManagerFind w i skb.tcpDst with
      | none =>
          rw [hk] at hrun
          cases hrun
          exact Or.inl ⟨rfl, rfl, rfl⟩
      | some k =>
          rw [hk] at hrun
          exact Or.inr ⟨k, rfl, hrun⟩

/-- **The ways of a segment.** -/
theorem tcpInput_ok (hrun : tcpInput ipInput skb.segment w = .ok r w') :
    SegmentInput ipInput w skb r w' := by
  rcases tcpInput_goes hrun with ⟨hnone, hr, hw⟩ | ⟨k, hk, hrun⟩
  · exact .unheard hnone hr hw
  · exact tcpSockInput_ok hk hrun

theorem connecting_tcpConn (skb : SkBuff) (k : SockId) (sock : TcpSock) :
    (w.connecting skb k sock).tcpConn w.nextId = some (skb.opens k) := Function.update_self ..

theorem connecting_tcpSock (skb : SkBuff) (k : SockId) (sock : TcpSock) :
    (w.connecting skb k sock).tcpSock k = some { sock with conns := w.nextId :: sock.conns } :=
  Function.update_self ..

/-- **A new connection is filled in and linked before it answers the SYN.** -/
theorem handleNewConnection_run {k : SockId} {sock : TcpSock} (hk : w.tcpSock k = some sock)
    (hrun : handleNewConnection ipInput k skb.segment w = .ok r w') :
    r = false ∧ ∃ sent, tcpOut ipInput w.nextId [] .synAck (w.connecting skb k sock)
      = .ok sent w' := by
  obtain ⟨c, w1, h1, hrun⟩ := bind_ok_iff.mp hrun
  obtain ⟨rfl, rfl⟩ := allocId_ok.mp h1
  obtain ⟨iph, w2, h2, hrun⟩ := bind_ok_iff.mp hrun
  obtain ⟨hiph, rfl⟩ := followIpHdr_ok.mp h2
  obtain rfl := Option.some.inj hiph
  obtain ⟨remoteIp, hremote, hrun⟩ := bind_ok_of_eq (readU32_reads _ _) hrun
  obtain ⟨-, rfl, -⟩ := readU32_ok.mp hremote
  obtain ⟨srcPort, hsrc, hrun⟩ := bind_ok_of_eq (readU16_reads _ _) hrun
  obtain ⟨-, rfl, -⟩ := readU16_ok.mp hsrc
  obtain ⟨wndSz, hwnd, hrun⟩ := bind_ok_of_eq (readU16_reads _ _) hrun
  obtain ⟨-, rfl, -⟩ := readU16_ok.mp hwnd
  obtain ⟨seq, hseq, hrun⟩ := bind_ok_of_eq (readU32_reads _ _) hrun
  obtain ⟨-, rfl, -⟩ := readU32_ok.mp hseq
  obtain ⟨_, w3, h3, hrun⟩ := bind_ok_iff.mp hrun
  rw [setTcpConn_ok] at h3
  have hk3 : w3.tcpSock k = some sock := by rw [h3]; exact hk
  obtain ⟨sock', hsock', hrun⟩ := bind_ok_of_eq (derefTcpSock_reads k) hrun
  rw [derefTcpSock_ok, hk3] at hsock'
  obtain rfl := Option.some.inj hsock'.1
  obtain ⟨_, w4, h4, hrun⟩ := bind_ok_iff.mp hrun
  rw [setTcpSock_ok] at h4
  obtain ⟨sent, w5, h5, hdone⟩ := bind_ok_iff.mp hrun
  cases hdone
  refine ⟨rfl, sent, ?_⟩
  have hstate : w4 = w.connecting skb k sock := by
    rw [h4, h3]
    rfl
  rw [← hstate]
  exact h5

end Segments

/-- **The ways of a read.** -/
theorem tcpRecv_ok {connfd : Int} {size : Nat} {r : Option (List UInt8)}
    (hrun : tcpRecv connfd size w = .ok r w') : QueueRead connfd size w r w' := by
  obtain ⟨t, ht, hrun⟩ := bind_ok_of_eq get_reads hrun
  cases ht
  cases hfd : goodTcpConnectionSock w connfd with
  | none =>
      rw [hfd] at hrun
      cases hrun
      exact .nothing rfl rfl
  | some c =>
      rw [hfd] at hrun
      obtain ⟨conn, hconn, hrun⟩ := bind_ok_of_eq (derefTcpConn_reads c) hrun
      obtain ⟨hconn, -⟩ := derefTcpConn_ok.mp hconn
      split at hrun
      · cases hrun
        exact .nothing rfl rfl
      rename_i hstate
      cases hlast : conn.rxSkb.getLast? with
      | none =>
          rw [hlast] at hrun
          cases hrun
          exact .nothing rfl rfl
      | some skb =>
          rw [hlast] at hrun
          obtain ⟨s, hs, hrun⟩ := bind_ok_of_eq (skbPull_reads _ _) hrun
          obtain ⟨-, -, rfl, -⟩ := skbPull_ok.mp hs
          obtain ⟨_, w1, h1, hdone⟩ := bind_ok_iff.mp hrun
          cases hdone
          exact .read hfd hconn (Decidable.not_not.mp hstate) hlast rfl h1

/-- A buffer read to its end leaves the queue, and any other stays at its end. -/
theorem finishTcpRecv_ok {c : ConnId} {conn : TcpConnectionSock} {u : Unit}
    (hrun : finishTcpRecv c conn skb w = .ok u w') :
    skb.len = 0 ∧ w' = { w with
      tcpConn := Function.update w.tcpConn c (some { conn with rxSkb := conn.rxSkb.dropLast })
      trace := w.trace ++ [.free skb.id] } ∨
    w' = { w with tcpConn :=
      Function.update w.tcpConn c (some { conn with rxSkb := conn.rxSkb.dropLast ++ [skb] }) } := by
  unfold finishTcpRecv at hrun
  split at hrun
  · rename_i hempty
    obtain ⟨_, w1, h1, hfree⟩ := bind_ok_iff.mp hrun
    obtain rfl := setTcpConn_ok.mp h1
    exact Or.inl ⟨hempty, freeSkb_ok.mp hfree⟩
  · exact Or.inr (setTcpConn_ok.mp hrun)

end Ways

end SimpleTcpip
