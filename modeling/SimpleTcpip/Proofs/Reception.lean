/-
What a received frame makes `pkt_receive` do, forwards.

`frameIntf` is the interface that takes a frame of a type.  There `pkt_receive` is `arp_input` of
an ARP packet, and `ip_input` or `ip_forward` of an IP packet whose header is all there.
`ip_input` is the handler of the protocol, and `tcpReads` says how many bytes of a segment
`tcp_input` looks at.
-/
import SimpleTcpip.Proofs.Effect
import SimpleTcpip.Proofs.Graph

namespace SimpleTcpip

open Fallible

/-! ### The bytes of a buffer -/

/-- A buffer whose bytes are those between its `data` and its `tail`. -/
structure Filled (skb : SkBuff) : Prop where
  data : recvReservedHeadRoom ≤ skb.data
  tail : skb.tail = skb.data + skb.len

theorem filled_recvBuffer (id : SkbId) (i : IntfId) (frame : List UInt8) :
    Filled (recvBuffer id i frame) := ⟨Nat.le_refl _, rfl⟩

theorem Filled.pulled {skb : SkBuff} (h : Filled skb) {n : Nat} (hn : n ≤ skb.len) :
    Filled (skb.pulled n) := by
  have hdata := h.data
  have htail := h.tail
  refine ⟨?_, ?_⟩
  · show recvReservedHeadRoom ≤ skb.data + n
    omega
  · show skb.tail = skb.data + n + sizeSub skb.len n
    rw [sizeSub_of_le hn]
    omega

theorem Filled.readable {skb : SkBuff} (h : Filled skb) {w : World} {off n : Nat}
    (hn : w.checked = true → off + n ≤ skb.len) : Readable w skb (skb.data + off) n := by
  intro hchecked
  have hdata := h.data
  have htail := h.tail
  have hlen := hn hchecked
  omega

theorem Filled.readable_start {skb : SkBuff} (h : Filled skb) {w : World} {n : Nat}
    (hn : w.checked = true → n ≤ skb.len) : Readable w skb skb.data n := by
  have hzero : Readable w skb (skb.data + 0) n := h.readable fun hchecked => by
    rw [Nat.zero_add]
    exact hn hchecked
  exact hzero

theorem Filled.pull {skb : SkBuff} (h : Filled skb) {w : World} {n : Nat} (hn : n ≤ skb.len) :
    skbPull skb n w = .ok (skb.pulled n) w := by
  have htail := h.tail
  exact skbPull_ok.mpr ⟨fun _ => hn, by omega, rfl, rfl⟩

section Packet

variable {skb : SkBuff}

theorem Filled.ipPacket (h : Filled skb) (hlen : ethHdrSize ≤ skb.len) : Filled skb.ipPacket :=
  ⟨(h.pulled hlen).data, (h.pulled hlen).tail⟩

theorem ipPacket_len (hlen : ethHdrSize ≤ skb.len) : skb.ipPacket.len = skb.len - ethHdrSize :=
  sizeSub_of_le hlen

theorem Filled.segment (h : Filled skb) (hlen : ethHdrSize + ipHdrSize ≤ skb.len) :
    Filled skb.segment := by
  have heth : ethHdrSize ≤ skb.len := by omega
  refine (h.ipPacket heth).pulled ?_
  rw [ipPacket_len heth]
  omega

theorem segment_len (hlen : ethHdrSize + ipHdrSize ≤ skb.len) :
    skb.segment.len = skb.len - (ethHdrSize + ipHdrSize) := by
  have heth : ethHdrSize ≤ skb.len := by omega
  show sizeSub skb.ipPacket.len ipHdrSize = _
  rw [ipPacket_len heth, sizeSub_of_le (by omega)]
  omega

end Packet

/-! ### The frames an interface takes -/

/-- The interface a frame came by, if `ethernet_input` takes the frame there and it is of a
type. -/
def frameIntf (w : World) (skb : SkBuff) (type : UInt16) : Option Intf :=
  (skb.intf.bind w.intf).filter fun intf =>
    intf.isIpAddrConfig && decide (ethHdrSize ≤ skb.len) &&
      ethernetInputQualify intf (MacAddr.load skb.mem skb.data) &&
      decide ((skb.mem.load16 (skb.data + 12)).toNat = htons type.toNat)

/-- The interface that takes a frame and whose node gets the packet in it. -/
def packetIntf (w : World) (skb : SkBuff) : Option Intf := frameIntf w skb ethProtoIp

section Taken

variable {w : World} {skb : SkBuff} {type : UInt16} {i : IntfId} {intf : Intf}

theorem frameIntf_eq (hi : skb.intf = some i) (hintf : w.intf i = some intf) :
    frameIntf w skb type =
      if intf.isIpAddrConfig = true ∧ ethHdrSize ≤ skb.len ∧
        ethernetInputQualify intf (MacAddr.load skb.mem skb.data) = true ∧
        (skb.mem.load16 (skb.data + 12)).toNat = htons type.toNat then some intf else none := by
  rw [frameIntf, hi, Option.bind_some, hintf, Option.filter_some]
  simp only [Bool.and_eq_true, decide_eq_true_eq, and_assoc]

theorem frameIntf_eq_some : frameIntf w skb type = some intf ↔
    ∃ i, skb.intf = some i ∧ w.intf i = some intf ∧ intf.isIpAddrConfig = true ∧
      ethHdrSize ≤ skb.len ∧ ethernetInputQualify intf (MacAddr.load skb.mem skb.data) = true ∧
      (skb.mem.load16 (skb.data + 12)).toNat = htons type.toNat := by
  constructor
  · intro h
    obtain ⟨hlive, htests⟩ := Option.filter_eq_some_iff.mp h
    obtain ⟨i, hi, hintf⟩ := Option.bind_eq_some_iff.mp hlive
    simp only [Bool.and_eq_true, decide_eq_true_eq, and_assoc] at htests
    exact ⟨i, hi, hintf, htests⟩
  · rintro ⟨i, hi, hintf, htests⟩
    rw [frameIntf_eq hi hintf, if_pos htests]

/-- A packet for the node is one its interface takes and that is addressed to the node. -/
theorem ipAccepted_iff :
    IpAccepted w skb ↔
      ∃ intf, packetIntf w skb = some intf ∧ isIpLocal w intf.node skb.ipPacket.dstIp = true := by
  constructor
  · rintro ⟨i, intf, hi, hintf, hconfig, heth, hqual, htype, hlocal⟩
    exact ⟨intf, frameIntf_eq_some.mpr ⟨i, hi, hintf, hconfig, heth, hqual, htype⟩, hlocal⟩
  · rintro ⟨intf, hpacket, hlocal⟩
    obtain ⟨i, hi, hintf, hconfig, heth, hqual, htype⟩ := frameIntf_eq_some.mp hpacket
    exact ⟨i, intf, hi, hintf, hconfig, heth, hqual, htype, hlocal⟩

end Taken

/-! ### The ways to a protocol -/

section Ways

variable {w : World} {skb : SkBuff} {depth : Nat}

/-- `pkt_receive` of a frame for the interface goes by the frame's type. -/
theorem pktReceive_qualified {i : IntfId} {intf : Intf} (hi : skb.intf = some i)
    (hintf : w.intf i = some intf) (hconfig : intf.isIpAddrConfig = true)
    (heth : ethHdrSize ≤ skb.len)
    (hqual : ethernetInputQualify intf (MacAddr.load skb.mem skb.data) = true)
    (hskb : Filled skb) : pktReceive skb w =
      if (skb.mem.load16 (skb.data + 12)).toNat = htons ethProtoArp.toNat
      then arpInput (skb.pulled ethHdrSize) w
      else if (skb.mem.load16 (skb.data + 12)).toNat = htons ethProtoIp.toNat
      then ipPreroute skb.ipPacket w
      else .ok false w := by
  have hderef : derefIntfPtr skb.intf w = .ok intf w := derefIntfPtr_ok.mpr ⟨⟨i, hi, hintf⟩, rfl⟩
  have hmac : Readable w skb skb.data 6 := hskb.readable_start fun _ => by
    rw [ethHdrSize] at heth
    omega
  have hread : Readable w skb (skb.data + 12) 2 := hskb.readable fun _ => heth
  unfold pktReceive
  rw [run_bind_ok hderef, if_pos hconfig]
  unfold ethernetInput
  rw [if_neg (Nat.not_lt.mpr heth), run_bind_ok hderef,
    run_bind_ok (readMac_ok.mpr ⟨hmac, rfl, rfl⟩), if_neg (not_not.mpr hqual),
    run_bind_ok (readU16_ok.mpr ⟨hread, rfl, rfl⟩)]
  split
  · rw [run_bind_ok (hskb.pull heth)]
  split
  · rw [run_bind_ok (hskb.pull heth)]
    rfl
  · rfl

/-- **A frame with an ARP packet makes `pkt_receive` call `arp_input`.** -/
theorem pktReceive_arpInput {intf : Intf} (harp : frameIntf w skb ethProtoArp = some intf)
    (hskb : Filled skb) : pktReceive skb w = arpInput (skb.pulled ethHdrSize) w := by
  obtain ⟨i, hi, hintf, hconfig, heth, hqual, htype⟩ := frameIntf_eq_some.mp harp
  rw [pktReceive_qualified hi hintf hconfig heth hqual hskb, if_pos htype]

/-- A frame with an IP packet makes it call `ip_preroute`. -/
theorem pktReceive_preroute {intf : Intf} (hip : packetIntf w skb = some intf) (hskb : Filled skb) :
    pktReceive skb w = ipPreroute skb.ipPacket w := by
  obtain ⟨i, hi, hintf, hconfig, heth, hqual, htype⟩ := frameIntf_eq_some.mp hip
  have hnarp : ¬ (skb.mem.load16 (skb.data + 12)).toNat = htons ethProtoArp.toNat := by
    rw [htype]
    decide
  rw [pktReceive_qualified hi hintf hconfig heth hqual hskb, if_neg hnarp, if_pos htype]

/-- Any other frame is dropped. -/
theorem pktReceive_dropped {i : IntfId} {intf : Intf} (hi : skb.intf = some i)
    (hintf : w.intf i = some intf) (harp : frameIntf w skb ethProtoArp = none)
    (hip : packetIntf w skb = none) (hskb : Filled skb) : pktReceive skb w = .ok false w := by
  have hderef : derefIntfPtr skb.intf w = .ok intf w := derefIntfPtr_ok.mpr ⟨⟨i, hi, hintf⟩, rfl⟩
  by_cases hconfig : intf.isIpAddrConfig = true
  swap
  · unfold pktReceive
    rw [run_bind_ok hderef, if_neg hconfig]
    rfl
  by_cases heth : ethHdrSize ≤ skb.len
  swap
  · unfold pktReceive ethernetInput
    rw [run_bind_ok hderef, if_pos hconfig, if_pos (Nat.lt_of_not_le heth)]
    rfl
  by_cases hqual : ethernetInputQualify intf (MacAddr.load skb.mem skb.data) = true
  swap
  · have hmac : Readable w skb skb.data 6 := hskb.readable_start fun _ => Nat.le_trans (by decide) heth
    unfold pktReceive ethernetInput
    rw [run_bind_ok hderef, if_pos hconfig, if_neg (Nat.not_lt.mpr heth), run_bind_ok hderef,
      run_bind_ok (readMac_ok.mpr ⟨hmac, rfl, rfl⟩), if_pos hqual]
    rfl
  -- only the type is left to be wrong
  have htype : ∀ {type : UInt16}, frameIntf w skb type = none →
      ¬ (skb.mem.load16 (skb.data + 12)).toNat = htons type.toNat := by
    intro type hnone htype
    rw [frameIntf_eq hi hintf, if_pos ⟨hconfig, heth, hqual, htype⟩] at hnone
    cases hnone
  rw [pktReceive_qualified hi hintf hconfig heth hqual hskb, if_neg (htype harp), if_neg (htype hip)]

/-- **A frame with a packet makes `pkt_receive` call `ip_input` or `ip_forward`.** -/
theorem pktReceive_ip {intf : Intf} (hip : packetIntf w skb = some intf) (hskb : Filled skb)
    (hlen : ethHdrSize + ipHdrSize ≤ skb.len) :
    pktReceive skb w = if isIpLocal w intf.node skb.ipPacket.dstIp then ipInput skb.ipPacket w
      else ipForward skb.ipPacket w := by
  obtain ⟨i, hi, hintf, -, heth, -⟩ := frameIntf_eq_some.mp hip
  rw [pktReceive_preroute hip hskb]
  have hderef : derefIntfPtr skb.ipPacket.intf w = .ok intf w :=
    derefIntfPtr_ok.mpr ⟨⟨i, hi, hintf⟩, rfl⟩
  have hdst : Readable w skb.ipPacket (skb.ipPacket.data + 16) 4 := by
    refine (hskb.ipPacket heth).readable fun _ => ?_
    rw [ipPacket_len heth]
    rw [ipHdrSize] at hlen
    omega
  unfold ipPreroute
  rw [run_bind_ok hderef, run_bind_ok (readU32_ok.mpr ⟨hdst, rfl, rfl⟩), run_bind_ok (run_get w)]
  show (if isIpLocal w intf.node skb.ipPacket.dstIp then ipInput skb.ipPacket
    else ipForward skb.ipPacket : M Bool) w = _
  split <;> rfl

/-- **A frame for the node makes `pkt_receive` call `ip_input`.** -/
theorem pktReceive_accepted (hip : IpAccepted w skb) (hskb : Filled skb)
    (hlen : ethHdrSize + ipHdrSize ≤ skb.len) :
    pktReceive skb w = ipInput skb.ipPacket w := by
  obtain ⟨intf, hpacket, hlocal⟩ := ipAccepted_iff.mp hip
  rw [pktReceive_ip hpacket hskb hlen, if_pos hlocal]

/-- `ip_input` up to the call of the handler. -/
theorem ipInput_run (hskb : Filled skb) (hlen : ethHdrSize + ipHdrSize ≤ skb.len) :
    ipInputDepth (depth + 1) skb.ipPacket w =
      if skb.ipPacket.proto = ipProtoIcmp then
        icmpInput (ipInputDepth depth) skb.segment (w.transports skb)
      else if skb.ipPacket.proto = ipProtoTcp then
        tcpInput (ipInputDepth depth) skb.segment (w.transports skb)
      else if skb.ipPacket.proto = ipProtoUdp then udpInput skb.segment (w.transports skb)
      else .ok false w := by
  have heth : ethHdrSize ≤ skb.len := by omega
  have hiplen : ipHdrSize ≤ skb.ipPacket.len := by
    rw [ipPacket_len heth]
    omega
  have hproto : Readable w skb.ipPacket (skb.ipPacket.data + 9) 1 :=
    (hskb.ipPacket heth).readable fun _ => by
      rw [ipHdrSize] at hiplen
      omega
  have hpull : skbPull skb.ipPacket ipHdrSize w = .ok skb.segment w :=
    (hskb.ipPacket heth).pull hiplen
  unfold ipInputDepth
  rw [run_bind_ok (readU8_ok.mpr ⟨hproto, rfl, rfl⟩)]
  change (if skb.ipPacket.proto = ipProtoIcmp then _ else _ : M Bool) w = _
  by_cases hicmp : skb.ipPacket.proto = ipProtoIcmp
  · rw [if_pos hicmp, if_pos hicmp, run_bind_ok hpull]
    rfl
  rw [if_neg hicmp, if_neg hicmp]
  change (if skb.ipPacket.proto = ipProtoTcp then _ else _ : M Bool) w = _
  by_cases htcp : skb.ipPacket.proto = ipProtoTcp
  · rw [if_pos htcp, if_pos htcp, run_bind_ok hpull]
    rfl
  rw [if_neg htcp, if_neg htcp]
  change (if skb.ipPacket.proto = ipProtoUdp then _ else _ : M Bool) w = _
  by_cases hudp : skb.ipPacket.proto = ipProtoUdp
  · rw [if_pos hudp, if_pos hudp, run_bind_ok hpull]
    rfl
  · rw [if_neg hudp, if_neg hudp]
    rfl

end Ways

theorem Filled.of_readable {w : World} {off n : Nat} (h : Filled skb)
    (hread : Readable w skb (skb.data + off) n) : w.checked = true → off + n ≤ skb.len := by
  intro hchecked
  have htail := h.tail
  have hlast := (hread hchecked).2
  omega

/-! ### Messages and datagrams -/

section Datagrams

variable {w w' : World} {skb : SkBuff} {r : Bool} {ipInput : SkBuff → M Bool}

/-- `icmp_input` on a message without a whole header. -/
theorem icmpInput_short (h : skb.segment.len < icmpHdrSize) :
    icmpInput ipInput skb.segment w = .ok false w := by
  unfold icmpInput
  rw [if_pos h]
  rfl

/-- Any other message it reports as taken. -/
theorem icmpInput_ok (h : icmpHdrSize ≤ skb.segment.len)
    (hrun : icmpInput ipInput skb.segment w = .ok r w') : r = true := by
  unfold icmpInput at hrun
  rw [if_neg (Nat.not_lt.mpr h)] at hrun
  obtain ⟨_, _, -, hrun⟩ := bind_ok_iff.mp hrun
  obtain ⟨_, _, -, hrun⟩ := bind_ok_iff.mp hrun
  split at hrun
  · obtain ⟨_, _, -, hrun⟩ := bind_ok_iff.mp hrun
    obtain ⟨_, _, -, hrun⟩ := bind_ok_iff.mp hrun
    obtain ⟨_, _, -, hrun⟩ := bind_ok_iff.mp hrun
    obtain ⟨_, _, -, hrun⟩ := bind_ok_iff.mp hrun
    obtain ⟨_, _, -, hrun⟩ := bind_ok_iff.mp hrun
    cases hrun
    rfl
  · obtain ⟨_, _, -, hrun⟩ := bind_ok_iff.mp hrun
    cases hrun
    rfl

/-- The socket `udp_input` finds for a datagram. -/
def udpReceiver (w : World) (skb : SkBuff) : Option SockId :=
  skb.intf.bind fun i => udpSocksManagerFind w i skb.udpDst

/-- `udp_input` up to the choice of the socket. -/
theorem udpInput_run (hskb : Filled skb) (hi : skb.intf.isSome)
    (hread : w.checked = true → 4 ≤ skb.len) :
    udpInput skb w =
      match udpReceiver w skb with
      | none => .ok false w
      | some k => (do
          let s ← skbPull { skb with udpHdr := some skb.data } udpHdrSize
          let sock ← derefUdpSock k
          setUdpSock k { sock with rxSkb := s :: sock.rxSkb }
          pure true : M Bool) w := by
  obtain ⟨i, hi⟩ := Option.isSome_iff_exists.mp hi
  have hport : Readable w skb (skb.data + 2) 2 := hskb.readable hread
  unfold udpInput udpReceiver
  rw [hi, Option.bind_some]
  dsimp only
  rw [run_bind_ok (readU16_ok.mpr ⟨hport, rfl, rfl⟩), run_bind_ok (run_get w),
    show UInt16.ofNat (ntohs (skb.mem.load16 (skb.data + 2)).toNat) = skb.udpDst from rfl]
  cases udpSocksManagerFind w i skb.udpDst with
  | none => rfl
  | some k => rfl

/-- What it has read when it is done. -/
theorem udpInput_reads (hseg : Filled skb.segment)
    (hrun : udpInput skb.segment w = .ok r w') : w.checked = true → 4 ≤ skb.segment.len := by
  unfold udpInput at hrun
  dsimp only at hrun
  cases hi : skb.segment.intf with
  | none =>
      rw [hi] at hrun
      cases hrun
  | some i =>
      rw [hi] at hrun
      obtain ⟨_, _, hport, -⟩ := bind_ok_iff.mp hrun
      exact hseg.of_readable (readU16_ok.mp hport).1

end Datagrams

/-! ### Segments -/

/-- How many bytes of a segment `conn->state` looks at. -/
def stateReads (skb : SkBuff) (conn : TcpConnectionSock) : Nat :=
  match conn.state with
  | .handleSynSent => 14
  | .handleEstab =>
      if skb.segment.tcpSeq = conn.rcv.nxt then
        if skb.segment.tcpFlags.rst ∨ skb.segment.tcpFlags.fin then 14 else tcpHdrSize
      else 8

/-- How many it looks at once the socket is known. -/
def sockReads (w : World) (skb : SkBuff) (sock : TcpSock) : Nat :=
  match findMatchingConnection w sock skb.ipPacket.srcIp skb.segment.tcpSrc with
  | some c => (w.tcpConn c).elim 4 (stateReads skb)
  | none =>
      if sock.listening then
        if skb.segment.tcpFlags.syn ∧ ¬ skb.segment.tcpFlags.ack then 16 else 14
      else 4

/-- **How many bytes of a segment `tcp_input` looks at.** -/
def tcpReads (w : World) (skb : SkBuff) : Nat :=
  ((rxSock w skb).bind w.tcpSock).elim 4 (sockReads w skb)

theorem stateReads_le (skb : SkBuff) (conn : TcpConnectionSock) :
    8 ≤ stateReads skb conn ∧ stateReads skb conn ≤ tcpHdrSize := by
  unfold stateReads
  rw [tcpHdrSize]
  split
  · omega
  · split
    · split <;> omega
    · omega

theorem sockReads_le (w : World) (skb : SkBuff) (sock : TcpSock) :
    4 ≤ sockReads w skb sock ∧ sockReads w skb sock ≤ tcpHdrSize := by
  unfold sockReads
  split
  · rename_i c _
    cases w.tcpConn c with
    | none => exact ⟨Nat.le_refl 4, by show 4 ≤ 20; omega⟩
    | some conn =>
        have := stateReads_le skb conn
        rw [Option.elim_some]
        omega
  · rw [tcpHdrSize]
    split
    · split <;> omega
    · omega

theorem tcpReads_le (w : World) (skb : SkBuff) : 4 ≤ tcpReads w skb ∧ tcpReads w skb ≤ tcpHdrSize := by
  unfold tcpReads
  cases (rxSock w skb).bind w.tcpSock with
  | none => exact ⟨Nat.le_refl 4, by show 4 ≤ 20; omega⟩
  | some sock => exact sockReads_le w skb sock

/-- A segment holds the bytes `tcp_input` looks at, and a header if it is delivered. -/
structure TcpHeld (w : World) (skb : SkBuff) : Prop where
  reads : w.checked = true → tcpReads w skb ≤ skb.segment.len
  pulls : ∀ c conn, segmentAct w skb = .deliver c conn → tcpHdrSize ≤ skb.segment.len

/-- A whole header is enough. -/
theorem TcpHeld.of_hdr {w : World} {skb : SkBuff} (h : tcpHdrSize ≤ skb.segment.len) :
    TcpHeld w skb :=
  ⟨fun _ => Nat.le_trans (tcpReads_le w skb).2 h, fun _ _ _ => h⟩

section Segments

variable {E : Fault → Prop} {w : World} {skb : SkBuff} {k : SockId} {sock : TcpSock} {depth : Nat}

/-- `tcp_input` when no socket listens on the port. -/
theorem tcpInput_none {ipInput : SkBuff → M Bool} (hskb : Filled skb)
    (hlen : ethHdrSize + ipHdrSize ≤ skb.len) (hi : skb.intf.isSome)
    (hread : w.checked = true → 4 ≤ skb.segment.len) (hsock : rxSock w skb = none) :
    tcpInput ipInput skb.segment w = .ok false w := by
  obtain ⟨i, hi⟩ := Option.isSome_iff_exists.mp hi
  have hport : Readable w skb.segment (skb.segment.data + 2) 2 :=
    (hskb.segment hlen).readable fun hchecked => hread hchecked
  unfold tcpInput
  rw [show skb.segment.intf = some i from hi]
  dsimp only
  rw [run_bind_ok (readU16_ok.mpr ⟨hport, rfl, rfl⟩), run_bind_ok (run_get w)]
  rw [rxSock, hi, Option.bind_some] at hsock
  rw [show UInt16.ofNat (ntohs (skb.segment.mem.load16 (skb.segment.data + 2)).toNat)
    = skb.segment.tcpDst from rfl, hsock]
  rfl

/-- `tcp_input` up to the choice of the connection. -/
theorem tcpInput_some {ipInput : SkBuff → M Bool} (hskb : Filled skb)
    (hlen : ethHdrSize + ipHdrSize ≤ skb.len)
    (hread : w.checked = true → 4 ≤ skb.segment.len) (hsock : rxSock w skb = some k)
    (hk : w.tcpSock k = some sock) :
    tcpInput ipInput skb.segment w =
      match findMatchingConnection w sock skb.ipPacket.srcIp skb.segment.tcpSrc with
      | some c => runState ipInput c skb.segment (w.followed skb)
      | none =>
          if sock.listening then (do
            let flags ← readTcpFlags skb.segment skb.segment.data
            if flags.syn ∧ ¬ flags.ack then handleNewConnection ipInput k skb.segment
            else pure false) (w.followed skb)
          else .ok false (w.followed skb) := by
  have hdata := hskb.data
  have htail := hskb.tail
  have hseg := hskb.segment hlen
  cases hi : skb.intf with
  | none =>
      rw [rxSock, hi, Option.bind_none] at hsock
      cases hsock
  | some i =>
      rw [rxSock, hi, Option.bind_some] at hsock
      have hport : Readable w skb.segment (skb.segment.data + 2) 2 :=
        hseg.readable fun hchecked => hread hchecked
      have hsrc : Readable (w.followed skb) skb.segment (skb.data + ethHdrSize + 12) 4 := by
        intro _
        rw [ethHdrSize, ipHdrSize] at *
        show recvReservedHeadRoom ≤ skb.data + 14 + 12 ∧ skb.data + 14 + 12 + 4 ≤ skb.tail
        omega
      have hsport : Readable (w.followed skb) skb.segment skb.segment.data 2 :=
        hseg.readable_start fun hchecked => by
          have := hread hchecked
          omega
      unfold tcpInput
      rw [show skb.segment.intf = some i from hi]
      dsimp only
      rw [run_bind_ok (readU16_ok.mpr ⟨hport, rfl, rfl⟩), run_bind_ok (run_get w),
        show UInt16.ofNat (ntohs (skb.segment.mem.load16 (skb.segment.data + 2)).toNat)
          = skb.segment.tcpDst from rfl, hsock]
      dsimp only
      unfold tcpSockInput
      rw [run_bind_ok (derefTcpSock_ok.mpr ⟨hk, rfl⟩), run_bind_ok (followIpHdr_ok.mpr ⟨rfl, rfl⟩)]
      change (readU32 skb.segment (skb.data + ethHdrSize + 12) >>= _) (w.followed skb) = _
      rw [run_bind_ok (readU32_ok.mpr ⟨hsrc, rfl, rfl⟩),
        run_bind_ok (readU16_ok.mpr ⟨hsport, rfl, rfl⟩), run_bind_ok (run_get _)]
      change (match findMatchingConnection w sock skb.ipPacket.srcIp skb.segment.tcpSrc with
        | some c => _ | none => _ : M Bool) (w.followed skb) = _
      cases findMatchingConnection w sock skb.ipPacket.srcIp skb.segment.tcpSrc with
      | some c => rfl
      | none =>
          dsimp only
          split <;> rfl

/-- A socket that is found is live. -/
theorem rxSock_live (h : rxSock w skb = some k) : ∃ sock, w.tcpSock k = some sock := by
  rw [rxSock] at h
  obtain ⟨i, -, hfind⟩ := Option.bind_eq_some_iff.mp h
  unfold tcpSocksManagerFind at hfind
  have hfound := List.find?_some hfind
  obtain ⟨sock, hk, -⟩ := (Option.any_eq_true _ _).mp hfound
  exact ⟨sock, hk⟩

/-- A connection that is found is live, on the list of the socket, and has the remote end. -/
theorem findMatchingConnection_live {c : ConnId} {ip : UInt32} {port : UInt16}
    (h : findMatchingConnection w sock ip port = some c) :
    c ∈ sock.conns ∧ ∃ conn, w.tcpConn c = some conn ∧ conn.remoteIp = ip ∧ conn.remotePort = port := by
  unfold findMatchingConnection at h
  have hfound := List.find?_some h
  obtain ⟨conn, hc, hends⟩ := (Option.any_eq_true _ _).mp hfound
  obtain ⟨hport, hip⟩ := Bool.and_eq_true_iff.mp hends
  exact ⟨List.mem_of_find?_eq_some h, conn, hc, beq_iff_eq.mp hip, beq_iff_eq.mp hport⟩

/-- The state machine refuses a segment: another number than the one expected, or, before the
handshake is complete, no acknowledgement. -/
def StateRefuses (skb : SkBuff) (conn : TcpConnectionSock) : Prop :=
  match conn.state with
  | .handleSynSent => ¬ (skb.segment.tcpFlags.ack = true ∧ ¬ skb.segment.tcpFlags.syn = true ∧
      skb.segment.tcpSeq = conn.rcv.nxt)
  | .handleEstab => skb.segment.tcpSeq ≠ conn.rcv.nxt

/-- **`tcp_input` has no use for a segment**: no socket is bound to its port, or the connection
it belongs to refuses it, or it belongs to none and opens none. -/
def TcpRefuses (w : World) (skb : SkBuff) : Prop :=
  ∀ k sock, rxSock w skb = some k → w.tcpSock k = some sock →
    match findMatchingConnection w sock skb.ipPacket.srcIp skb.segment.tcpSrc with
    | some c => ∀ conn, w.tcpConn c = some conn → StateRefuses skb conn
    | none => ¬ (sock.listening = true ∧ skb.segment.tcpFlags.syn = true ∧
        ¬ skb.segment.tcpFlags.ack = true)

theorem stateAct_refuse {c : ConnId} {conn : TcpConnectionSock} :
    stateAct skb c conn = .refuse ↔ StateRefuses skb conn := by
  unfold stateAct StateRefuses
  cases conn.state with
  | handleSynSent => simp
  | handleEstab =>
      dsimp only
      split
      · rename_i hseq
        refine iff_of_false (fun h => ?_) fun h => h hseq
        split at h
        · cases h
        · split at h <;> cases h
      · rename_i hseq
        exact iff_of_true rfl hseq

theorem segmentAct_refuse : segmentAct w skb = .refuse ↔ TcpRefuses w skb := by
  unfold segmentAct TcpRefuses
  cases hsock : rxSock w skb with
  | none => exact iff_of_true rfl fun k sock hk => by cases hk
  | some k =>
      obtain ⟨sock, hk⟩ := rxSock_live hsock
      have hforall : (∀ k' sock', some k = some k' → w.tcpSock k' = some sock' →
          match findMatchingConnection w sock' skb.ipPacket.srcIp skb.segment.tcpSrc with
          | some c => ∀ conn, w.tcpConn c = some conn → StateRefuses skb conn
          | none => ¬ (sock'.listening = true ∧ skb.segment.tcpFlags.syn = true ∧
              ¬ skb.segment.tcpFlags.ack = true)) ↔
          match findMatchingConnection w sock skb.ipPacket.srcIp skb.segment.tcpSrc with
          | some c => ∀ conn, w.tcpConn c = some conn → StateRefuses skb conn
          | none => ¬ (sock.listening = true ∧ skb.segment.tcpFlags.syn = true ∧
              ¬ skb.segment.tcpFlags.ack = true) := by
        constructor
        · intro h
          exact h k sock rfl hk
        · intro h k' sock' hk' hsock'
          obtain rfl := Option.some.inj hk'
          obtain rfl := Option.some.inj (hk.symm.trans hsock')
          exact h
      rw [Option.elim_some, hk, Option.elim_some, hforall, sockAct]
      cases hfound : findMatchingConnection w sock skb.ipPacket.srcIp skb.segment.tcpSrc with
      | none => simp
      | some c =>
          obtain ⟨-, conn, hc, -⟩ := findMatchingConnection_live hfound
          simp only [hc, Option.elim_some, stateAct_refuse, Option.some.injEq, forall_eq']

/-- The state machine on a segment it refuses. -/
theorem runState_refused {ipInput : SkBuff → M Bool} {c : ConnId} {conn : TcpConnectionSock}
    (hseg : Filled skb.segment) (hread : w.checked = true → stateReads skb conn ≤ skb.segment.len)
    (hc : w.tcpConn c = some conn) (h : StateRefuses skb conn) :
    runState ipInput c skb.segment w = .ok false w := by
  unfold runState
  rw [run_bind_ok (derefTcpConn_ok.mpr ⟨hc, rfl⟩)]
  unfold StateRefuses at h
  unfold stateReads at hread
  cases hstate : conn.state with
  | handleSynSent =>
      rw [hstate] at h hread
      dsimp only at h hread ⊢
      unfold handleSynSent
      rw [run_bind_ok (readTcpFlags_ok.mpr ⟨hseg.readable hread, rfl, rfl⟩)]
      change (if skb.segment.tcpFlags.ack = true ∧ ¬ skb.segment.tcpFlags.syn = true then _ else _ :
        M Bool) w = _
      split
      · rename_i hflags
        have hseq : Readable w skb.segment (skb.segment.data + 4) 4 :=
          hseg.readable fun hchecked => by
            have := hread hchecked
            omega
        rw [run_bind_ok (readTcpSeq_ok.mpr ⟨hseq, rfl, rfl⟩),
          run_bind_ok (derefTcpConn_ok.mpr ⟨hc, rfl⟩)]
        have hne : ¬ skb.segment.tcpSeq = conn.rcv.nxt := fun hseq =>
          h ⟨hflags.1, hflags.2, hseq⟩
        rw [if_neg (by exact hne)]
        rfl
      · rfl
  | handleEstab =>
      rw [hstate] at h hread
      dsimp only at h hread ⊢
      rw [if_neg h] at hread
      unfold handleEstab
      have hseq : Readable w skb.segment (skb.segment.data + 4) 4 := hseg.readable hread
      rw [run_bind_ok (readTcpSeq_ok.mpr ⟨hseq, rfl, rfl⟩),
        run_bind_ok (derefTcpConn_ok.mpr ⟨hc, rfl⟩), if_neg (by exact h)]
      rfl

/-- **`tcp_input` on a segment it has no use for.** -/
theorem tcpInput_refused (ipInput : SkBuff → M Bool) (hskb : Filled skb)
    (hlen : ethHdrSize + ipHdrSize ≤ skb.len) (hi : skb.intf.isSome)
    (hread : w.checked = true → tcpReads w skb ≤ skb.segment.len) (h : TcpRefuses w skb) :
    ∃ w', tcpInput ipInput skb.segment w = .ok false w' ∧ (w' = w ∨ w' = w.followed skb) := by
  have hread4 : w.checked = true → 4 ≤ skb.segment.len := fun hchecked =>
    Nat.le_trans (tcpReads_le w skb).1 (hread hchecked)
  cases hsock : rxSock w skb with
  | none => exact ⟨w, tcpInput_none hskb hlen hi hread4 hsock, Or.inl rfl⟩
  | some k =>
      obtain ⟨sock, hk⟩ := rxSock_live hsock
      refine ⟨w.followed skb, ?_, Or.inr rfl⟩
      rw [tcpInput_some hskb hlen hread4 hsock hk]
      rw [tcpReads, hsock, Option.bind_some, hk, Option.elim_some, sockReads] at hread
      have hrefuses := h k sock hsock hk
      cases hfound : findMatchingConnection w sock skb.ipPacket.srcIp skb.segment.tcpSrc with
      | some c =>
          obtain ⟨-, conn, hc, -⟩ := findMatchingConnection_live hfound
          rw [hfound] at hread hrefuses
          simp only [hc, Option.elim_some] at hread
          exact runState_refused (hskb.segment hlen) hread hc (hrefuses conn hc)
      | none =>
          rw [hfound] at hread hrefuses
          dsimp only at hread hrefuses ⊢
          split
          · rename_i hlisten
            rw [if_pos hlisten] at hread
            have hflags : ¬ (skb.segment.tcpFlags.syn = true ∧ ¬ skb.segment.tcpFlags.ack = true) :=
              fun hflags => hrefuses ⟨hlisten, hflags⟩
            rw [if_neg hflags] at hread
            have hfield : Readable (w.followed skb) skb.segment (skb.segment.data + 13) 1 :=
              (hskb.segment hlen).readable hread
            rw [run_bind_ok (readTcpFlags_ok.mpr ⟨hfield, rfl, rfl⟩), if_neg (by exact hflags)]
            rfl
          · rfl

theorem runState_reads {ipInput : SkBuff → M Bool} {c : ConnId} {conn : TcpConnectionSock}
    {r : Bool} {w' : World} (hseg : Filled skb.segment) (hc : w.tcpConn c = some conn)
    (hrun : runState ipInput c skb.segment w = .ok r w') :
    (w.checked = true → stateReads skb conn ≤ skb.segment.len) ∧
      (stateAct skb c conn = .deliver c conn → tcpHdrSize ≤ skb.segment.len) := by
  unfold runState at hrun
  rw [run_bind_ok (derefTcpConn_ok.mpr ⟨hc, rfl⟩)] at hrun
  unfold stateReads stateAct
  cases hstate : conn.state with
  | handleSynSent =>
      rw [hstate] at hrun
      obtain ⟨_, _, hflags, -⟩ := bind_ok_iff.mp hrun
      refine ⟨hseg.of_readable (readTcpFlags_ok.mp hflags).1, fun h => ?_⟩
      dsimp only at h
      split at h <;> cases h
  | handleEstab =>
      rw [hstate] at hrun
      obtain ⟨seq, hseq, hrun⟩ := bind_ok_of_eq (readTcpSeq_reads _ _) hrun
      obtain ⟨hread8, rfl, -⟩ := readTcpSeq_ok.mp hseq
      rw [run_bind_ok (derefTcpConn_ok.mpr ⟨hc, rfl⟩)] at hrun
      dsimp only
      split at hrun
      · rename_i hnxt
        have hnxt : skb.segment.tcpSeq = conn.rcv.nxt := hnxt
        obtain ⟨flags, hflags, hrun⟩ := bind_ok_of_eq (readTcpFlags_reads _ _) hrun
        obtain ⟨hread14, rfl, -⟩ := readTcpFlags_ok.mp hflags
        rw [if_pos hnxt, if_pos hnxt]
        by_cases hrst : skb.segment.tcpFlags.rst = true
        · rw [if_pos (Or.inl hrst), if_pos hrst]
          exact ⟨hseg.of_readable hread14, fun h => by cases h⟩
        rw [if_neg (by exact hrst)] at hrun
        by_cases hfin : skb.segment.tcpFlags.fin = true
        · rw [if_pos (Or.inr hfin), if_neg hrst, if_pos hfin]
          exact ⟨hseg.of_readable hread14, fun h => by cases h⟩
        rw [if_neg (by exact hfin)] at hrun
        obtain ⟨_, _, hpull, -⟩ := bind_ok_iff.mp hrun
        obtain ⟨-, htail, -⟩ := skbPull_ok.mp hpull
        have hheld : tcpHdrSize ≤ skb.segment.len := by
          have := hseg.tail
          omega
        rw [if_neg (not_or.mpr ⟨hrst, hfin⟩)]
        exact ⟨fun _ => hheld, fun _ => hheld⟩
      · rename_i hnxt
        have hnxt : ¬ skb.segment.tcpSeq = conn.rcv.nxt := hnxt
        rw [if_neg hnxt, if_neg hnxt]
        exact ⟨hseg.of_readable hread8, fun h => by cases h⟩

/-- **A `tcp_input` that completed had what it looks at.** -/
theorem tcpInput_held {ipInput : SkBuff → M Bool} {r : Bool} {w' : World} (hskb : Filled skb)
    (hlen : ethHdrSize + ipHdrSize ≤ skb.len)
    (hrun : tcpInput ipInput skb.segment w = .ok r w') : TcpHeld w skb := by
  have hseg := hskb.segment hlen
  have hread4 : w.checked = true → 4 ≤ skb.segment.len := by
    unfold tcpInput at hrun
    cases hi : skb.segment.intf with
    | none =>
        rw [hi] at hrun
        cases hrun
    | some i =>
        rw [hi] at hrun
        obtain ⟨_, _, hport, -⟩ := bind_ok_iff.mp hrun
        exact hseg.of_readable (readU16_ok.mp hport).1
  cases hsock : rxSock w skb with
  | none =>
      refine ⟨?_, fun c conn h => ?_⟩
      · rw [tcpReads, hsock]
        exact hread4
      · rw [segmentAct, hsock] at h
        cases h
  | some k =>
      obtain ⟨sock, hk⟩ := rxSock_live hsock
      rw [tcpInput_some hskb hlen hread4 hsock hk] at hrun
      have hact : segmentAct w skb = sockAct w skb k sock := by
        rw [segmentAct, hsock, Option.elim_some, hk, Option.elim_some]
      have hreads : tcpReads w skb = sockReads w skb sock := by
        rw [tcpReads, hsock, Option.bind_some, hk, Option.elim_some]
      unfold sockAct at hact
      unfold sockReads at hreads
      cases hfound : findMatchingConnection w sock skb.ipPacket.srcIp skb.segment.tcpSrc with
      | some c =>
          obtain ⟨-, conn, hc, -⟩ := findMatchingConnection_live hfound
          rw [hfound] at hrun hact hreads
          simp only [hc, Option.elim_some] at hact hreads
          obtain ⟨hread, hpull⟩ := runState_reads (w := w.followed skb) hseg hc hrun
          refine ⟨fun hchecked => hreads ▸ hread hchecked, fun c' conn' h => hpull ?_⟩
          rw [hact] at h
          -- the act names the connection that was found
          have hrx : rxConn w skb = some c := (rxConn_of_sock hsock hk).trans hfound
          have hchecked := stateAct_checked hrx hc
          rw [h] at hchecked
          obtain ⟨hc', hconn', -⟩ := hchecked
          obtain rfl := Option.some.inj (hrx.symm.trans hc')
          obtain rfl := Option.some.inj (hc.symm.trans hconn')
          exact h
      | none =>
          rw [hfound] at hrun hact hreads
          dsimp only at hrun hact hreads
          refine ⟨fun hchecked => ?_, fun c conn h => ?_⟩
          · rw [hreads]
            split at hrun
            · rename_i hlisten
              rw [if_pos hlisten]
              obtain ⟨flags, hflags, hrun⟩ := bind_ok_of_eq (readTcpFlags_reads _ _) hrun
              obtain ⟨hread14, rfl, -⟩ := readTcpFlags_ok.mp hflags
              split at hrun
              · obtain ⟨_, _, h1, hrun⟩ := bind_ok_iff.mp hrun
                obtain ⟨-, rfl⟩ := allocId_ok.mp h1
                obtain ⟨_, _, h2, hrun⟩ := bind_ok_iff.mp hrun
                obtain ⟨-, rfl⟩ := followIpHdr_ok.mp h2
                obtain ⟨_, -, hrun⟩ := bind_ok_of_eq (readU32_reads _ _) hrun
                obtain ⟨_, -, hrun⟩ := bind_ok_of_eq (readU16_reads _ _) hrun
                obtain ⟨_, hwnd, -⟩ := bind_ok_of_eq (readU16_reads _ _) hrun
                have hread16 := hseg.of_readable (readU16_ok.mp hwnd).1 hchecked
                split <;> omega
              · rename_i hflags
                rw [if_neg (by exact hflags)]
                exact hseg.of_readable hread14 hchecked
            · rename_i hlisten
              rw [if_neg hlisten]
              exact hread4 hchecked
          · rw [hact] at h
            split at h <;> cases h

end Segments

/-! ### Where a segment can stop the run -/

/-- What an answer depends on is the same: the graph, the routes, and what the sockets are. -/
structure SameNetwork (w t : World) : Prop where
  node : t.node = w.node
  intf : t.intf = w.intf
  link : t.link = w.link
  rtTable : t.rtTable = w.rtTable
  tcpSocks : t.tcpSocks = w.tcpSocks
  core : ∀ k, (t.tcpSock k).map TcpSock.core = (w.tcpSock k).map TcpSock.core

theorem SameNetwork.of_frame {w t : World} (hnode : t.node = w.node) (hintf : t.intf = w.intf)
    (hlink : t.link = w.link) (hrt : t.rtTable = w.rtTable) (hsocks : t.tcpSocks = w.tcpSocks)
    (hsock : t.tcpSock = w.tcpSock) : SameNetwork w t :=
  ⟨hnode, hintf, hlink, hrt, hsocks, fun k => by rw [hsock]⟩

/-- An answer to a remote end, from a socket, faults in `E` at most. -/
def Replies (E : Fault → Prop) (depth : Nat) (w : World) (k : SockId) (remoteIp : UInt32)
    (remotePort : UInt16) : Prop :=
  ∀ t c conn flags, SameNetwork w t → t.tcpConn c = some conn → conn.parent = k →
    conn.remoteIp = remoteIp → conn.remotePort = remotePort →
    FaultsIn E (tcpOut (ipInputDepth depth) c [] flags) t

/-- The acts that send an answer. -/
def SegmentAct.Answers : SegmentAct → Prop
  | .connect _ _ | .close _ _ _ => True
  | _ => False

section Faults

variable {E : Fault → Prop} {w : World} {skb : SkBuff} {k : SockId} {sock : TcpSock} {depth : Nat}
  {c : ConnId} {conn : TcpConnectionSock}

/-- An answer of a connection does not lose it or its socket. -/
theorem closeConnection_faultsIn (hc : w.tcpConn c = some conn)
    (hk : (w.tcpSock conn.parent).isSome)
    (hout : FaultsIn E (tcpOut (ipInputDepth depth) c [] .ackRst) w) :
    FaultsIn E (closeConnection (ipInputDepth depth) c) w := by
  refine faultsIn_bind hout fun _ t ht => ?_
  obtain ⟨-, hsock, hconns⟩ := tcpOut_frame hc ht
  have hlive : ∃ conn', t.tcpConn c = some conn' ∧ conn'.parent = conn.parent := by
    rcases hconns with hsame | hnumbered
    · exact ⟨conn, by rw [hsame, hc], rfl⟩
    · exact ⟨conn.numbered 0 .ackRst, by rw [hnumbered]; exact Function.update_self .., rfl⟩
  obtain ⟨conn', hc', hparent⟩ := hlive
  obtain ⟨parent, hk⟩ := Option.isSome_iff_exists.mp hk
  have hk' : t.tcpSock conn'.parent = some parent := by rw [hparent, hsock, hk]
  refine faultsIn_bind_of_ok (derefTcpConn_ok.mpr ⟨hc', rfl⟩) ?_
  refine faultsIn_bind_of_ok (derefTcpSock_ok.mpr ⟨hk', rfl⟩) ?_
  exact faultsIn_bind_of_ok (a := ⟨⟩) (setTcpSock_ok.mpr rfl) (faultsIn_pure _ _)

/-- **`conn->state` on a segment that holds what it looks at.** -/
theorem runState_faultsIn (hseg : Filled skb.segment)
    (hread : w.checked = true → stateReads skb conn ≤ skb.segment.len)
    (hpull : stateAct skb c conn = .deliver c conn → tcpHdrSize ≤ skb.segment.len)
    (hc : w.tcpConn c = some conn) (hk : (w.tcpSock conn.parent).isSome)
    (hreply : (stateAct skb c conn).Answers →
      Replies E depth w conn.parent conn.remoteIp conn.remotePort) :
    FaultsIn E (runState (ipInputDepth depth) c skb.segment) w := by
  by_cases hrefuses : StateRefuses skb conn
  · exact faultsIn_of_ok (runState_refused hseg hread hc hrefuses)
  refine faultsIn_bind_of_ok (derefTcpConn_ok.mpr ⟨hc, rfl⟩) ?_
  unfold StateRefuses at hrefuses
  unfold stateReads at hread
  unfold stateAct at hpull hreply
  cases hstate : conn.state with
  | handleSynSent =>
      rw [hstate] at hread
      dsimp only at hread ⊢
      refine faultsIn_bind_of_ok (readTcpFlags_ok.mpr ⟨hseg.readable hread, rfl, rfl⟩) ?_
      refine faultsIn_ite (fun _ => ?_) fun _ => faultsIn_pure _ _
      have hseq : Readable w skb.segment (skb.segment.data + 4) 4 :=
        hseg.readable fun hchecked => by
          have := hread hchecked
          omega
      refine faultsIn_bind_of_ok (readTcpSeq_ok.mpr ⟨hseq, rfl, rfl⟩) ?_
      refine faultsIn_bind_of_ok (derefTcpConn_ok.mpr ⟨hc, rfl⟩) ?_
      refine faultsIn_ite (fun _ => ?_) fun _ => faultsIn_pure _ _
      exact faultsIn_bind_of_ok (a := ⟨⟩) (setTcpConn_ok.mpr rfl) (faultsIn_pure _ _)
  | handleEstab =>
      rw [hstate] at hrefuses hread hpull hreply
      dsimp only at hrefuses hread hpull hreply ⊢
      have hnxt : skb.segment.tcpSeq = conn.rcv.nxt := not_not.mp hrefuses
      rw [if_pos hnxt] at hread hpull hreply
      -- every branch has read the sequence number and the flags
      have hread14 : w.checked = true → 14 ≤ skb.segment.len := fun hchecked => by
        have := hread hchecked
        rw [tcpHdrSize] at this
        split at this <;> omega
      have hseq : Readable w skb.segment (skb.segment.data + 4) 4 :=
        hseg.readable fun hchecked => by
          have := hread14 hchecked
          omega
      refine faultsIn_bind_of_ok (readTcpSeq_ok.mpr ⟨hseq, rfl, rfl⟩) ?_
      refine faultsIn_bind_of_ok (derefTcpConn_ok.mpr ⟨hc, rfl⟩) ?_
      refine faultsIn_ite (fun _ => ?_) fun _ => faultsIn_pure _ _
      refine faultsIn_bind_of_ok (readTcpFlags_ok.mpr ⟨hseg.readable hread14, rfl, rfl⟩) ?_
      refine faultsIn_ite (fun hrst => ?_) fun hrst => faultsIn_ite (fun hfin => ?_) fun hfin => ?_
      · rw [if_pos (show skb.segment.tcpFlags.rst = true from hrst)] at hreply
        refine closeConnection_faultsIn hc hk ?_
        exact hreply trivial w c conn .ackRst (.of_frame rfl rfl rfl rfl rfl rfl) hc rfl rfl rfl
      · rw [if_neg (show ¬ skb.segment.tcpFlags.rst = true from hrst),
          if_pos (show skb.segment.tcpFlags.fin = true from hfin)] at hreply
        refine faultsIn_bind_of_ok (a := ⟨⟩) (setTcpConn_ok.mpr rfl) ?_
        refine closeConnection_faultsIn (Function.update_self ..) hk ?_
        exact hreply trivial _ c _ .ackRst (.of_frame rfl rfl rfl rfl rfl rfl)
          (Function.update_self ..) rfl rfl rfl
      · rw [if_neg (show ¬ skb.segment.tcpFlags.rst = true from hrst),
          if_neg (show ¬ skb.segment.tcpFlags.fin = true from hfin)] at hpull
        refine faultsIn_bind_of_ok (hseg.pull (hpull rfl)) ?_
        exact faultsIn_bind_of_ok (a := ⟨⟩) (setTcpConn_ok.mpr rfl) (faultsIn_pure _ _)

/-- **A SYN that opens a connection.** -/
theorem handleNewConnection_faultsIn (hskb : Filled skb)
    (hlen : ethHdrSize + ipHdrSize ≤ skb.len)
    (hread : w.checked = true → 16 ≤ skb.segment.len) (hk : w.tcpSock k = some sock)
    (hreply : Replies E depth w k skb.ipPacket.srcIp skb.segment.tcpSrc) :
    FaultsIn E (handleNewConnection (ipInputDepth depth) k skb.segment) w := by
  have hdata := hskb.data
  have htail := hskb.tail
  have hseg := hskb.segment hlen
  have hfield : ∀ {off n : Nat}, off + n ≤ 16 → ∀ t : World, t.checked = w.checked →
      Readable t skb.segment (skb.segment.data + off) n := by
    intro off n hn t ht
    refine hseg.readable fun hchecked => ?_
    have := hread (ht ▸ hchecked)
    omega
  refine faultsIn_bind_of_ok (allocId_ok.mpr ⟨rfl, rfl⟩) ?_
  refine faultsIn_bind_of_ok (followIpHdr_ok.mpr ⟨rfl, rfl⟩) ?_
  refine faultsIn_bind_of_ok (readU32_ok.mpr ⟨fun _ => ?_, rfl, rfl⟩) ?_
  · show recvReservedHeadRoom ≤ skb.data + 14 + 12 ∧ skb.data + 14 + 12 + 4 ≤ skb.tail
    rw [ethHdrSize, ipHdrSize] at hlen
    omega
  have hstart : Readable _ skb.segment (skb.segment.data + 0) 2 := hfield (by omega) _ rfl
  refine faultsIn_bind_of_ok (readU16_ok.mpr ⟨hstart, rfl, rfl⟩) ?_
  refine faultsIn_bind_of_ok (readU16_ok.mpr ⟨hfield (by omega) _ rfl, rfl, rfl⟩) ?_
  refine faultsIn_bind_of_ok (readU32_ok.mpr ⟨hfield (by omega) _ rfl, rfl, rfl⟩) ?_
  refine faultsIn_bind_of_ok (a := ⟨⟩) (setTcpConn_ok.mpr rfl) ?_
  refine faultsIn_bind_of_ok (derefTcpSock_ok.mpr ⟨hk, rfl⟩) ?_
  refine faultsIn_bind_of_ok (a := ⟨⟩) (setTcpSock_ok.mpr rfl) ?_
  refine faultsIn_bind ?_ fun _ _ _ => faultsIn_pure _ _
  refine hreply _ _ (skb.opens k) .synAck ⟨rfl, rfl, rfl, rfl, rfl, fun j => ?_⟩
    (Function.update_self ..) rfl rfl rfl
  show (Function.update w.tcpSock k (some { sock with conns := w.nextId :: sock.conns }) j).map _ = _
  refine map_update_of_eq (f := TcpSock.core) hk ?_ j
  rfl

/-- **`tcp_input` on a segment that holds what it looks at.** -/
theorem tcpInput_faultsIn (hconns : ConnTables w) (hskb : Filled skb)
    (hlen : ethHdrSize + ipHdrSize ≤ skb.len) (hi : skb.intf.isSome) (hheld : TcpHeld w skb)
    (hreply : (segmentAct w skb).Answers → ∀ k, rxSock w skb = some k →
      Replies E depth w k skb.ipPacket.srcIp skb.segment.tcpSrc) :
    FaultsIn E (tcpInput (ipInputDepth depth) skb.segment) w := by
  have hread4 : w.checked = true → 4 ≤ skb.segment.len := fun hchecked =>
    Nat.le_trans (tcpReads_le w skb).1 (hheld.reads hchecked)
  have hread := hheld.reads
  have hpull := hheld.pulls
  cases hsock : rxSock w skb with
  | none => exact faultsIn_of_ok (tcpInput_none hskb hlen hi hread4 hsock)
  | some k =>
      obtain ⟨sock, hk⟩ := rxSock_live hsock
      unfold FaultsIn
      rw [tcpInput_some hskb hlen hread4 hsock hk]
      rw [tcpReads, hsock, Option.bind_some, hk, Option.elim_some, sockReads] at hread
      have hact : segmentAct w skb = sockAct w skb k sock := by
        rw [segmentAct, hsock, Option.elim_some, hk, Option.elim_some]
      rw [hact, sockAct] at hpull hreply
      have hframe : ∀ {ip port}, Replies E depth w k ip port →
          Replies E depth (w.followed skb) k ip port := fun h t c conn flags hsame =>
        h t c conn flags ⟨hsame.node, hsame.intf, hsame.link, hsame.rtTable, hsame.tcpSocks, hsame.core⟩
      cases hfound : findMatchingConnection w sock skb.ipPacket.srcIp skb.segment.tcpSrc with
      | some c =>
          obtain ⟨hmem, conn, hc, hip, hport⟩ := findMatchingConnection_live hfound
          have hparent : conn.parent = k := by
            have hown := hconns.parent k sock c hk (List.mem_append_left _ hmem)
            rw [hc] at hown
            exact Option.some.inj hown
          rw [hfound] at hread hpull hreply
          simp only [hc, Option.elim_some] at hread hpull hreply
          refine runState_faultsIn (hskb.segment hlen) hread (hpull c conn) hc ?_ fun hanswers => ?_
          · rw [hparent]
            exact Option.isSome_iff_exists.mpr ⟨sock, hk⟩
          · rw [hparent, hip, hport]
            exact hframe (hreply hanswers k hsock)
      | none =>
          rw [hfound] at hread hreply
          dsimp only at hread hreply ⊢
          split
          · rename_i hlisten
            rw [if_pos hlisten] at hread
            have hread14 : w.checked = true → 14 ≤ skb.segment.len := fun hchecked => by
              have := hread hchecked
              split at this <;> omega
            have hfield : Readable (w.followed skb) skb.segment (skb.segment.data + 13) 1 :=
              (hskb.segment hlen).readable hread14
            refine faultsIn_bind_of_ok (readTcpFlags_ok.mpr ⟨hfield, rfl, rfl⟩) ?_
            refine faultsIn_ite (fun hflags => ?_) fun _ => faultsIn_pure _ _
            have hflags : skb.segment.tcpFlags.syn = true ∧ ¬ skb.segment.tcpFlags.ack = true := hflags
            rw [if_pos hflags] at hread
            rw [if_pos ⟨hlisten, hflags⟩] at hreply
            exact handleNewConnection_faultsIn hskb hlen hread hk (hframe (hreply trivial k hsock))
          · exact faultsIn_of_ok rfl

end Faults

end SimpleTcpip
