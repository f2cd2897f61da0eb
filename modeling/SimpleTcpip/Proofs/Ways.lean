/-
The ways of a packet the node sends.

A completed `ip_postroute` refused the packet, handed it to the next hop, or handed it to
`ip_input` because the node sent it to itself.  `ip_output` leaves `ip_hdr` null, and
`icmp_input` and `tcp_input` follow `ip_hdr` before they answer or queue anything: what is left
to them is to refuse such a packet or to free it.  `udp_input` queues it.
-/
import SimpleTcpip.Proofs.Frame
import SimpleTcpip.Proofs.Neighbour

namespace SimpleTcpip

open Fallible

/-- The address `ip_postroute` resolves. -/
def RtEntry.target (rt : RtEntry) (dst : UInt32) : UInt32 := if rt.next = 0 then dst else rt.next

/-- What a completed `ip_postroute` did. -/
inductive Postrouted (ipInput : SkBuff → M Bool) (n : NodeId) (w : World) (skb : SkBuff) :
    Bool → World → Prop
  | unrouted (hrt : rtLookupLpm (w.rtTable n) skb.dstIp = none) : Postrouted ipInput n w skb false w
  | otherIntf {rt : RtEntry} (hrt : rtLookupLpm (w.rtTable n) skb.dstIp = some rt)
      (hintf : skb.intf.isSome ∧ skb.intf ≠ some rt.intf) : Postrouted ipInput n w skb false w
  | looped {rt : RtEntry} {out : Intf} {r : Bool} {w' : World}
      (hrt : rtLookupLpm (w.rtTable n) skb.dstIp = some rt)
      (hintf : ¬ (skb.intf.isSome ∧ skb.intf ≠ some rt.intf)) (hout : w.intf rt.intf = some out)
      (hlocal : isIpLocal w n skb.dstIp = true)
      (hrun : ipInput (skb.routed rt.intf out.ipAddr) w = .ok r w') : Postrouted ipInput n w skb r w'
  | sent {rt : RtEntry} {out : Intf} {r : Bool} {w' : World}
      (hrt : rtLookupLpm (w.rtTable n) skb.dstIp = some rt)
      (hintf : ¬ (skb.intf.isSome ∧ skb.intf ≠ some rt.intf)) (hout : w.intf rt.intf = some out)
      (hlocal : isIpLocal w n skb.dstIp = false)
      (hrun : ipNeighbourOutput n rt.intf (rt.target skb.dstIp) (skb.routed rt.intf out.ipAddr) w
        = .ok r w') : Postrouted ipInput n w skb r w'

/-- The process after `udp_input` queued a datagram on a socket. -/
def World.queued (w : World) (k : SockId) (sock : UdpSock) (skb : SkBuff) : World :=
  { w with udpSock := Function.update w.udpSock k (some { sock with
      rxSkb := { skb with udpHdr := some skb.data }.pulled udpHdrSize :: sock.rxSkb }) }

/-- What a completed `udp_input` did. -/
inductive UdpInput (w : World) (skb : SkBuff) : Bool → World → Prop
  | refused {i : IntfId} (hi : skb.intf = some i) (hk : udpSocksManagerFind w i skb.udpDst = none) :
      UdpInput w skb false w
  | queued {i : IntfId} {k : SockId} {sock : UdpSock} (hi : skb.intf = some i)
      (hk : udpSocksManagerFind w i skb.udpDst = some k) (hsock : w.udpSock k = some sock) :
      UdpInput w skb true (w.queued k sock skb)

/-- What a completed `ip_input` did with a packet whose `ip_hdr` is null. -/
inductive LoopedInput (w : World) (skb : SkBuff) : Bool → World → Prop
  | unknown (hicmp : skb.proto ≠ ipProtoIcmp) (hudp : skb.proto ≠ ipProtoUdp) :
      LoopedInput w skb false w
  | tcp (hproto : skb.proto = ipProtoTcp) : LoopedInput w skb false (w.loops skb)
  | short (hproto : skb.proto = ipProtoIcmp) (hlen : (skb.pulled ipHdrSize).len < icmpHdrSize) :
      LoopedInput w skb false (w.loops skb)
  | freed (hproto : skb.proto = ipProtoIcmp) (hlen : icmpHdrSize ≤ (skb.pulled ipHdrSize).len) :
      LoopedInput w skb true ((w.loops skb).freed (skb.pulled ipHdrSize))
  | udp {r : Bool} {w' : World} (hproto : skb.proto = ipProtoUdp)
      (h : UdpInput (w.loops skb) (skb.pulled ipHdrSize) r w') : LoopedInput w skb r w'

section Runs

variable {w w' : World} {skb : SkBuff} {r : Bool}

/-- **The ways of a packet with a header.** -/
theorem ipPostroute_ok {ipInput : SkBuff → M Bool} {n : NodeId}
    (hrun : ipPostroute ipInput n skb w = .ok r w') : Postrouted ipInput n w skb r w' := by
  obtain ⟨dst, hdst, hrest⟩ := bind_ok_of_eq (readU32_reads _ _) hrun
  obtain ⟨-, rfl, -⟩ := readU32_ok.mp hdst
  obtain ⟨t, ht, hroute⟩ := bind_ok_of_eq get_reads hrest
  cases ht
  cases hrt : rtLookupLpm (w.rtTable n) (skb.mem.load32 (skb.data + 16)) with
  | none =>
      rw [hrt] at hroute
      cases hroute
      exact .unrouted hrt
  | some rt =>
      rw [hrt] at hroute
      dsimp only at hroute
      split at hroute
      · rename_i hintf
        cases hroute
        exact .otherIntf hrt hintf
      · rename_i hintf
        obtain ⟨out, hout, hfill⟩ := bind_ok_of_eq (derefIntf_reads _) hroute
        obtain ⟨hout, -⟩ := derefIntf_ok.mp hout
        obtain ⟨s, hs, hlook⟩ := bind_ok_of_eq (fillIpHcksum_reads _ _) hfill
        obtain ⟨-, -, rfl, -⟩ := fillIpHcksum_ok.mp hs
        obtain ⟨t, ht, hlast⟩ := bind_ok_of_eq get_reads hlook
        cases ht
        split at hlast
        · rename_i hlocal
          exact .looped hrt hintf hout hlocal hlast
        · rename_i hlocal
          exact .sent hrt hintf hout (Bool.eq_false_iff.mpr hlocal) hlast

/-- **The ways of a datagram.** -/
theorem udpInput_ok (hrun : udpInput skb w = .ok r w') : UdpInput w skb r w' := by
  unfold udpInput at hrun
  cases hi : skb.intf with
  | none =>
      rw [hi] at hrun
      cases hrun
  | some i =>
      rw [hi] at hrun
      obtain ⟨port, hport, hrest⟩ := bind_ok_of_eq (readU16_reads _ _) hrun
      obtain ⟨-, rfl, -⟩ := readU16_ok.mp hport
      obtain ⟨t, ht, hfind⟩ := bind_ok_of_eq get_reads hrest
      cases ht
      dsimp only at hfind
      rw [show UInt16.ofNat (ntohs (skb.mem.load16 (skb.data + 2)).toNat) = skb.udpDst from rfl]
        at hfind
      cases hk : udpSocksManagerFind w i skb.udpDst with
      | none =>
          rw [hk] at hfind
          cases hfind
          exact .refused hi hk
      | some k =>
          rw [hk, ← hi] at hfind
          obtain ⟨s, hpull, hrest⟩ := bind_ok_of_eq (skbPull_reads _ _) hfind
          obtain ⟨-, -, rfl, -⟩ := skbPull_ok.mp hpull
          obtain ⟨sock, hsock, hset⟩ := bind_ok_of_eq (derefUdpSock_reads k) hrest
          obtain ⟨hsock, -⟩ := derefUdpSock_ok.mp hsock
          obtain ⟨_, w1, h1, hdone⟩ := bind_ok_iff.mp hset
          cases hdone
          obtain rfl := setUdpSock_ok.mp h1
          exact .queued hi hk hsock

/-- A null `ip_hdr` is not followed. -/
theorem followIpHdr_none {α : Type} {f : Nat → M α} {a : α} (h : skb.ipHdr = none)
    (hrun : (followIpHdr skb >>= f) w = .ok a w') : False := by
  obtain ⟨p, w1, h1, -⟩ := bind_ok_iff.mp hrun
  rw [followIpHdr_ok, h] at h1
  cases h1.1

/-- `icmp_input` without `ip_hdr` refuses a short message and frees any other. -/
theorem icmpInput_looped_ok {ipInput : SkBuff → M Bool} (h : skb.ipHdr = none)
    (hrun : icmpInput ipInput skb w = .ok r w') :
    (skb.len < icmpHdrSize ∧ r = false ∧ w' = w) ∨
      (icmpHdrSize ≤ skb.len ∧ r = true ∧ w' = w.freed skb) := by
  unfold icmpInput at hrun
  split at hrun
  · rename_i hshort
    cases hrun
    exact Or.inl ⟨hshort, rfl, rfl⟩
  · rename_i hlen
    obtain ⟨type, -, hrest⟩ := bind_ok_of_eq (readU8_reads _ _) hrun
    obtain ⟨code, -, hrest⟩ := bind_ok_of_eq (readU8_reads _ _) hrest
    split at hrest
    · obtain ⟨intf, -, hrest⟩ := bind_ok_of_eq (derefIntfPtr_reads _) hrest
      exact (followIpHdr_none h hrest).elim
    · obtain ⟨_, w1, h1, hdone⟩ := bind_ok_iff.mp hrest
      cases hdone
      obtain rfl := freeSkb_ok.mp h1
      exact Or.inr ⟨Nat.le_of_not_lt hlen, rfl, rfl⟩

/-- `tcp_input` without `ip_hdr` refuses every segment: one for a socket stops the run. -/
theorem tcpInput_looped_ok {ipInput : SkBuff → M Bool} (h : skb.ipHdr = none)
    (hrun : tcpInput ipInput skb w = .ok r w') : r = false ∧ w' = w := by
  rcases tcpInput_goes hrun with ⟨-, hr, hw⟩ | ⟨k, -, hrest⟩
  · exact ⟨hr, hw⟩
  · obtain ⟨sock, -, hrest⟩ := bind_ok_of_eq (derefTcpSock_reads k) hrest
    exact (followIpHdr_none h hrest).elim

/-- **The ways of a packet the node sent itself.** -/
theorem ipInput_looped_ok {depth : Nat} (h : skb.ipHdr = none)
    (hrun : ipInputDepth depth skb w = .ok r w') : LoopedInput w skb r w' := by
  cases depth with
  | zero => cases hrun
  | succ depth =>
      have hnull : (skb.pulled ipHdrSize).ipHdr = none := h
      cases ipInput_goes hrun with
      | unknown hicmp htcp hudp hr hw =>
          subst hr hw
          exact .unknown hicmp hudp
      | icmp hproto hicmp =>
          rcases icmpInput_looped_ok hnull hicmp with ⟨hlen, rfl, rfl⟩ | ⟨hlen, rfl, rfl⟩
          · exact .short hproto hlen
          · exact .freed hproto hlen
      | tcp hproto htcp =>
          obtain ⟨rfl, rfl⟩ := tcpInput_looped_ok hnull htcp
          exact .tcp hproto
      | udp hproto hudp => exact .udp hproto (udpInput_ok hudp)

end Runs

end SimpleTcpip
