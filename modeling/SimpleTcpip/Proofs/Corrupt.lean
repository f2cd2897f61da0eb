/-
Which corrupted packets are harmless.

The functions that check a checksum have no caller on the way of a received packet, so
what happens to a corrupted one is what would happen to a valid one.  One for the node is left
alone exactly when the protocol it carries has no use for it anyway, and one for somebody else
when `ip_forward` drops it anyway.
-/
import SimpleTcpip.Proofs.Harmless

namespace SimpleTcpip

open Fallible

/-! ### Corrupted packets -/

/-- The interface takes a frame, which carries a whole IP header. -/
def Addressed (w : World) (skb : SkBuff) : Prop :=
  (packetIntf w skb).isSome ∧ ethHdrSize + ipHdrSize ≤ skb.len

instance (w : World) (skb : SkBuff) : Decidable (Addressed w skb) :=
  inferInstanceAs (Decidable (_ ∧ _))

/-- The length of the message behind the IP header, by the header's total length. -/
def SkBuff.messageLen (skb : SkBuff) : Nat :=
  ntohs (skb.ipPacket.mem.load16 (skb.ipPacket.data + 2)).toNat - ipHdrSize

/-- **A packet whose checksum does not verify**: that of its IP header, or that of the message it
carries. -/
def Corrupt (skb : SkBuff) : Prop :=
  checkIpHcksum skb.ipPacket.mem skb.ipPacket.data = false ∨
  (skb.ipPacket.proto = ipProtoTcp ∧ checkTcpCksum skb.segment.mem skb.segment.data skb.messageLen
    skb.ipPacket.srcIp skb.ipPacket.dstIp = false) ∨
  (skb.ipPacket.proto = ipProtoIcmp ∧
    checkIcmpCksum skb.segment.mem skb.segment.data skb.messageLen = false)

instance (skb : SkBuff) : Decidable (Corrupt skb) := by
  unfold Corrupt
  infer_instance

/-- Nothing changed that a packet can change, and no frame was emitted. -/
structure Untouched (w w' : World) : Prop where
  arpTable : w'.arpTable = w.arpTable
  rtTable : w'.rtTable = w.rtTable
  udpSocks : w'.udpSocks = w.udpSocks
  tcpSocks : w'.tcpSocks = w.tcpSocks
  udpSock : w'.udpSock = w.udpSock
  tcpSock : w'.tcpSock = w.tcpSock
  tcpConn : w'.tcpConn = w.tcpConn
  udpFdToSock : w'.udpFdToSock = w.udpFdToSock
  tcpFdToSock : w'.tcpFdToSock = w.tcpFdToSock
  fdConnToSock : w'.fdConnToSock = w.fdConnToSock
  emits : ∃ es, w'.trace = w.trace ++ es ∧ ∀ e ∈ es, ¬ e.IsSent

/-- **A received frame is harmless if it is corrupted**: `pkt_receive` returns false and leaves
everything as it was. -/
def CorruptHarmless (w : World) (i : IntfId) (frame : List UInt8) : Prop :=
  Addressed (w.received i frame) (recvBuffer w.nextId i frame) →
    Corrupt (recvBuffer w.nextId i frame) →
    ∃ w', pktReceive (recvBuffer w.nextId i frame) (w.received i frame) = .ok false w' ∧
      Untouched (w.received i frame) w'

/-! ### Packets no protocol has a use for -/

/-- **No protocol has a use for a packet**: an ICMP message too short for its header, a TCP
segment that is refused, a datagram for a port no socket is bound to, or another protocol. -/
structure Unused (w : World) (skb : SkBuff) : Prop where
  icmp : skb.ipPacket.proto = ipProtoIcmp → skb.segment.len < icmpHdrSize
  tcp : skb.ipPacket.proto = ipProtoTcp → TcpRefuses w skb
  udp : skb.ipPacket.proto = ipProtoUdp → rxUdpSock w skb = none

/-- How many bytes of the message are looked at before a protocol drops it. -/
def messageReads (w : World) (skb : SkBuff) : Nat :=
  if skb.ipPacket.proto = ipProtoTcp then tcpReads w skb
  else if skb.ipPacket.proto = ipProtoUdp then 4 else 0

/-- **`ip_forward` drops a packet**: forwarding is off, the TTL has run out, no route is for it,
or the next hop is known and the link refuses. -/
def ForwardDrops (w : World) (n : NodeId) (skb : SkBuff) : Prop :=
  w.ipForwardEnable = false ∨ skb.ttl ≤ 1 ∨
    ∀ rt, rtLookupLpm (w.rtTable n) skb.dstIp = some rt → ¬ NeighbourOk w n rt skb.dstIp

/-- **A node has no use for a packet**, and drops it without looking behind its end. -/
def Useless (w : World) (n : NodeId) (skb : SkBuff) : Prop :=
  if isIpLocal w n skb.ipPacket.dstIp then
    Unused w skb ∧ (w.checked = true → messageReads w skb ≤ skb.segment.len)
  else
    ForwardDrops w n skb.ipPacket ∧
      (w.checked = true → forwardNeeds w n skb.ipPacket ≤ skb.ipPacket.len)

section Unused

variable {w w' : World} {skb : SkBuff} {r : Bool}

theorem Untouched.of_emits (h : Emits (fun e => ¬ e.IsSent) w w') : Untouched w w' :=
  ⟨h.arpTable, h.rtTable, h.udpSocks, h.tcpSocks, h.udpSock, h.tcpSock, h.tcpConn, h.udpFdToSock,
    h.tcpFdToSock, h.fdConnToSock, h.trace⟩

theorem Untouched.of_events {es : List Event} (h : ∀ e ∈ es, ¬ e.IsSent) :
    Untouched w { w with trace := w.trace ++ es } :=
  .of_emits ⟨rfl, Nat.le_refl _, es, rfl, h⟩

theorem ipInput_unused (hskb : Filled skb) (hi : skb.intf.isSome)
    (hlen : ethHdrSize + ipHdrSize ≤ skb.len) (hunused : Unused w skb)
    (hreads : w.checked = true → messageReads w skb ≤ skb.segment.len) :
    ∃ w', ipInput skb.ipPacket w = .ok false w' ∧ Untouched w w' := by
  have hquiet : Untouched w (w.transports skb) :=
    .of_events fun e he => by rw [List.mem_singleton.mp he]; exact id
  unfold ipInput callDepth
  rw [ipInput_run hskb hlen]
  unfold messageReads at hreads
  by_cases hicmp : skb.ipPacket.proto = ipProtoIcmp
  · rw [if_pos hicmp]
    exact ⟨_, icmpInput_short (hunused.icmp hicmp), hquiet⟩
  rw [if_neg hicmp]
  by_cases htcp : skb.ipPacket.proto = ipProtoTcp
  · rw [if_pos htcp] at hreads ⊢
    have hreads' : (w.transports skb).checked = true →
        tcpReads (w.transports skb) skb ≤ skb.segment.len := hreads
    obtain ⟨w', hrun, hw'⟩ := tcpInput_refused (ipInputDepth 1) hskb hlen hi hreads'
      (hunused.tcp htcp)
    refine ⟨w', hrun, ?_⟩
    rcases hw' with rfl | rfl
    · exact hquiet
    · have hevents : (w.transports skb).followed skb
          = { w with trace := w.trace ++ [.transport skb.ipPacket.proto skb.segment,
              .readIpHdr skb.segment] } := by
        simp only [World.transports, World.followed, List.append_assoc, List.cons_append,
          List.nil_append]
      rw [hevents]
      refine .of_events fun e he => ?_
      simp only [List.mem_cons, List.not_mem_nil, or_false] at he
      rcases he with rfl | rfl <;> exact id
  rw [if_neg htcp] at hreads ⊢
  by_cases hudp : skb.ipPacket.proto = ipProtoUdp
  · rw [if_pos hudp] at hreads ⊢
    have hsock : udpReceiver (w.transports skb) skb.segment = none := hunused.udp hudp
    have hreads' : (w.transports skb).checked = true → 4 ≤ skb.segment.len := hreads
    refine ⟨w.transports skb, ?_, hquiet⟩
    rw [udpInput_run (hskb.segment hlen) hi hreads', hsock]
  · rw [if_neg hudp]
    refine ⟨w, rfl, ?_⟩
    have hnone : Untouched w { w with trace := w.trace ++ [] } :=
      .of_events fun e he => by cases he
    rwa [List.append_nil] at hnone

/-- An act that shows in no table is none. -/
theorem refuse_of_untouched {act : SegmentAct} (hconns : ConnTables w) (hchecked : act.Checked w skb)
    (hacted : Acted act skb w w') (hsock : w'.tcpSock = w.tcpSock) (hconn : w'.tcpConn = w.tcpConn) :
    act = .refuse := by
  have hconn := hacted.tcpConn.symm.trans hconn
  have hsock := hacted.tcpSock.symm.trans hsock
  -- a write that changes nothing writes what was there
  have hwrite : ∀ {α : Type} {m : Nat → Option α} {c : Nat} {x y : α},
      Function.update m c (some x) = m → m c = some y → x = y := by
    intro α m c x y hsame hy
    have hc := congrFun hsame c
    rw [Function.update_self, hy] at hc
    exact Option.some.inj hc
  cases act with
  | refuse => rfl
  | connect k sock =>
      have hnew := congrFun hconn w.nextId
      change Function.update w.tcpConn w.nextId _ w.nextId = _ at hnew
      rw [Function.update_self] at hnew
      exact absurd (hconns.connLt w.nextId (by rw [← hnew]; rfl)) (Nat.lt_irrefl _)
  | establish c conn =>
      obtain ⟨-, hc, hstate, -⟩ := hchecked
      have hsame : TcpHandle.handleEstab = conn.state :=
        congrArg TcpConnectionSock.state (hwrite hconn hc)
      rw [hstate] at hsame
      cases hsame
  | deliver c conn =>
      obtain ⟨-, hc, -⟩ := hchecked
      have hsame := congrArg TcpConnectionSock.rxSkb (hwrite hconn hc)
      exact absurd hsame (List.cons_ne_self _ _)
  | close c conn fin =>
      obtain ⟨hrx, hc, -⟩ := hchecked
      obtain ⟨parent, hparent, -⟩ := hconns.parent_rxConn hrx hc
      rw [SegmentAct.socks, hparent, Option.elim_some] at hsock
      have hsame := congrArg TcpSock.closedConns (hwrite hsock hparent)
      exact absurd hsame (List.cons_ne_self _ _)

theorem unused_of_ipInput (hconns : ConnTables w) (hskb : Filled skb) (hi : skb.intf.isSome)
    (hlen : ethHdrSize + ipHdrSize ≤ skb.len) (hrun : ipInput skb.ipPacket w = .ok false w')
    (huntouched : Untouched w w') :
    Unused w skb ∧ (w.checked = true → messageReads w skb ≤ skb.segment.len) := by
  unfold ipInput callDepth at hrun
  rw [ipInput_run hskb hlen] at hrun
  unfold messageReads
  by_cases hicmp : skb.ipPacket.proto = ipProtoIcmp
  · rw [if_pos hicmp] at hrun
    refine ⟨⟨fun _ => ?_, fun htcp => ?_, fun hudp => ?_⟩, fun _ => ?_⟩
    · refine Nat.lt_of_not_le fun hle => ?_
      cases icmpInput_ok hle hrun
    · exact absurd (hicmp.symm.trans htcp) (by decide)
    · exact absurd (hicmp.symm.trans hudp) (by decide)
    · rw [hicmp]
      exact Nat.zero_le _
  rw [if_neg hicmp] at hrun
  by_cases htcp : skb.ipPacket.proto = ipProtoTcp
  · rw [if_pos htcp] at hrun
    have hconns' : ConnTables (w.transports skb) :=
      ⟨hconns.connLt, hconns.parent, hconns.nodup, hconns.closed, hconns.accepted⟩
    have hrefuse := refuse_of_untouched hconns' (segmentAct_checked _ skb) (tcpInput_acted hrun)
      huntouched.tcpSock huntouched.tcpConn
    refine ⟨⟨fun h => absurd h hicmp, fun _ => segmentAct_refuse.mp hrefuse, fun hudp => ?_⟩, ?_⟩
    · exact absurd (htcp.symm.trans hudp) (by decide)
    · rw [if_pos htcp]
      exact (tcpInput_held hskb hlen hrun).reads
  rw [if_neg htcp] at hrun
  by_cases hudp : skb.ipPacket.proto = ipProtoUdp
  · rw [if_pos hudp] at hrun
    have hread := udpInput_reads (hskb.segment hlen) hrun
    refine ⟨⟨fun h => absurd h hicmp, fun h => absurd h htcp, fun _ => ?_⟩, ?_⟩
    · rw [udpInput_run (hskb.segment hlen) hi hread] at hrun
      have hsame : udpReceiver (w.transports skb) skb.segment = rxUdpSock w skb := rfl
      rw [hsame] at hrun
      cases hsock : rxUdpSock w skb with
      | none => rfl
      | some k =>
          rw [hsock] at hrun
          obtain ⟨_, _, -, hrun⟩ := bind_ok_iff.mp hrun
          obtain ⟨_, _, -, hrun⟩ := bind_ok_iff.mp hrun
          obtain ⟨_, _, -, hrun⟩ := bind_ok_iff.mp hrun
          cases hrun
    · rw [if_neg htcp, if_pos hudp]
      exact hread
  · refine ⟨⟨fun h => absurd h hicmp, fun h => absurd h htcp, fun h => absurd h hudp⟩, fun _ => ?_⟩
    rw [if_neg htcp, if_neg hudp]
    exact Nat.zero_le _

end Unused

/-! ### Packets for somebody else -/

section Forward

variable {w w' : World} {skb : SkBuff} {i : IntfId} {intf : Intf} {r : Bool}

/-- **A completed `ip_forward` reports whether it had a use for the packet.** -/
theorem ipForward_reports (hi : skb.intf = some i) (hintf : w.intf i = some intf)
    (hread : Readable w skb (skb.data + 8) 1) (hforeign : isIpLocal w intf.node skb.dstIp = false)
    (hrun : ipForward skb w = .ok r w') : Reports (¬ ForwardDrops w intf.node skb) r w w' := by
  rw [ipForward_run hi hintf hread] at hrun
  by_cases hpass : w.ipForwardEnable = true ∧ 1 < skb.ttl
  swap
  · rw [if_neg hpass] at hrun
    cases hrun
    refine .no (not_not.mpr ?_)
    cases hon : w.ipForwardEnable with
    | false => exact Or.inl hon
    | true => exact Or.inr (Or.inl (Nat.le_of_not_lt fun httl => hpass ⟨hon, httl⟩))
  rw [if_pos hpass] at hrun
  -- what is left is the route
  have hdrops : ForwardDrops w intf.node skb ↔
      ∀ rt, rtLookupLpm (w.rtTable intf.node) skb.dstIp = some rt →
        ¬ NeighbourOk w intf.node rt skb.dstIp := by
    constructor
    · rintro (hoff | hexpired | hrefused)
      · cases hoff.symm.trans hpass.1
      · exact absurd hpass.2 (Nat.not_lt.mpr hexpired)
      · exact hrefused
    · exact fun hrefused => Or.inr (Or.inr hrefused)
  have hdst : skb.forwarded.dstIp = skb.dstIp := dstIp_forwarded skb
  rw [hdrops]
  cases ipPostroute_ok hrun with
  | unrouted hrt =>
      rw [hdst] at hrt
      refine .no (not_not.mpr fun rt hrt' => ?_)
      cases hrt.symm.trans hrt'
  | otherIntf _ hother => exact absurd hother.1 Bool.false_ne_true
  | looped _ _ _ hlocal _ =>
      rw [hdst, hforeign] at hlocal
      cases hlocal
  | @sent rt out r' w'' hrt _ _ _ hsend =>
      rw [hdst] at hrt hsend
      refine (ipNeighbourOutput_reports hsend).congr ⟨fun hok hrefused => hrefused rt hrt hok, ?_⟩
      intro hno
      by_contra hrefused
      refine hno fun rt' hrt' => ?_
      obtain rfl : rt = rt' := Option.some.inj (hrt.symm.trans hrt')
      exact hrefused

/-- **A packet for somebody else leaves everything alone exactly when `ip_forward` drops it.** -/
theorem ipForward_untouched_iff (hg : GraphOk w) (hskb : Filled skb) (hlen : ipHdrSize ≤ skb.len)
    (hi : skb.intf = some i) (hintf : w.intf i = some intf)
    (hroom : ∀ j src, LinkRoom (skb.forwarded.routed j src))
    (hforeign : isIpLocal w intf.node skb.dstIp = false) :
    (∃ w', ipForward skb w = .ok false w' ∧ Untouched w w') ↔
      ForwardDrops w intf.node skb ∧ (w.checked = true → forwardNeeds w intf.node skb ≤ skb.len) := by
  have hread : Readable w skb (skb.data + 8) 1 := hskb.readable fun _ => by
    rw [ipHdrSize] at hlen
    omega
  rw [← ipForward_completes_iff hg hskb hlen hi hintf hroom hforeign]
  constructor
  · rintro ⟨w', hrun, -⟩
    have hreports := ipForward_reports hi hintf hread hforeign hrun
    refine ⟨by_contra fun huse => Bool.false_ne_true (hreports.result.mpr huse), false, w', hrun⟩
  · rintro ⟨hdrops, r, w', hrun⟩
    have hreports := ipForward_reports hi hintf hread hforeign hrun
    obtain rfl : r = false := Bool.eq_false_iff.mpr fun h => hreports.result.mp h hdrops
    exact ⟨w', hrun, .of_emits (hreports.refused rfl)⟩

end Forward

/-! ### Corrupted or not -/

/-- The packet from `192.168.89.2` to `172.16.10.2`, with a wrong header checksum. -/
def Fixture.brokenFrame : List UInt8 := Fixture.forwardedFrame.set 24 0

/-- The SYN of the tests has no valid checksum, and is for `node0`. -/
theorem syn_corrupt :
    Addressed ((Fixture.after Fixture.listen).received 0 (Fixture.tcpFrame 5 7 0x02 []))
        (recvBuffer (Fixture.after Fixture.listen).nextId 0 (Fixture.tcpFrame 5 7 0x02 [])) ∧
      Corrupt (recvBuffer (Fixture.after Fixture.listen).nextId 0 (Fixture.tcpFrame 5 7 0x02 [])) := by
  decide +kernel

end SimpleTcpip
