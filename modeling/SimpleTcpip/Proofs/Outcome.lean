/-
What `ip_output` returns, and what it leaves when it returns false.

Its result is that of the last function it reaches: nothing routes the packet, the route is
not by the interface of the socket, local delivery, the queue of a next hop, or the link.
Each can be told from the state before the call, and a packet that was refused has left
nothing behind but the fact that it was tried.
-/
import SimpleTcpip.Proofs.Ownership
import SimpleTcpip.Proofs.Transmission

namespace SimpleTcpip

open Fallible

/-- A frame was given to the system call and taken. -/
def Event.IsSent : Event → Prop
  | .sent _ _ => True
  | _ => False

/-- A run returned whether `ok` holds; if it returned false, it sent and queued nothing. -/
structure Reports (ok : Prop) (r : Bool) (w w' : World) : Prop where
  result : r = true ↔ ok
  refused : r = false → Emits (fun e => ¬ e.IsSent) w w'

namespace Reports

variable {ok ok' : Prop} {r : Bool} {w w' w'' : World}

/-- What was refused before anything happened. -/
theorem no (h : ¬ ok) : Reports ok false w w :=
  ⟨iff_of_false Bool.false_ne_true h, fun _ => .refl _ _⟩

theorem yes (h : ok) : Reports ok true w w' :=
  ⟨iff_of_true rfl h, fun hf => by cases hf⟩

/-- Something that sends nothing happens first. -/
theorem after (h : Emits (fun e => ¬ e.IsSent) w w') (h' : Reports ok r w' w'') :
    Reports ok r w w'' :=
  ⟨h'.result, fun hr => h.trans (h'.refused hr)⟩

theorem congr (hiff : ok ↔ ok') (h : Reports ok r w w') : Reports ok' r w w' :=
  ⟨h.result.trans hiff, h.refused⟩

end Reports

/-! ### The link -/

section Link

variable {w w' : World} {i : IntfId} {r : Bool}

/-- `udp_send_bytes` never returns a negative number. -/
theorem udpSendBytes_nonneg {frame : List UInt8} {result : Int}
    (hrun : udpSendBytes i frame w = .ok result w') : 0 ≤ result := by
  obtain ⟨intf, -, hrest⟩ := bind_ok_of_eq (derefIntf_reads i) hrun
  obtain ⟨nbr, w1, -, hrest⟩ := bind_ok_iff.mp hrest
  cases nbr with
  | none =>
      cases hrest
      exact Int.le_refl 0
  | some j =>
      obtain ⟨nbr, -, hrest⟩ := bind_ok_of_eq (derefIntf_reads j) hrest
      split at hrest
      · cases hrest
        exact Int.le_refl 0
      · obtain ⟨nsent, w2, -, hret⟩ := bind_ok_iff.mp hrest
        cases hret
        split <;> decide

theorem sendPktOut_reports {skb : SkBuff} (hrun : sendPktOut i skb w = .ok r w') :
    Reports (w.accepts i = true) r w w' := by
  obtain ⟨result, w1, h1, hrest⟩ := bind_ok_iff.mp hrun
  obtain ⟨intf, hderef, hbytes⟩ := bind_ok_of_eq (derefIntf_reads i) h1
  obtain ⟨hintf, -⟩ := derefIntf_ok.mp hderef
  unfold World.accepts
  rw [hintf, Option.any_some]
  cases hcomm : intf.comm.commType with
  | none =>
      rw [hcomm] at hbytes
      cases hbytes
  | udp =>
      rw [hcomm] at hbytes
      rw [if_pos (udpSendBytes_nonneg hbytes)] at hrest
      obtain ⟨_, w2, -, hret⟩ := bind_ok_iff.mp hrest
      cases hret
      exact .yes rfl
  | tuntap =>
      rw [hcomm] at hbytes
      have hsys : sysSendCall i skb.bytes w = .ok result w1 := hbytes
      rw [sysSendCall_run] at hsys
      cases hsys
      split at hrest
      · rename_i hsent
        obtain ⟨_, w2, -, hret⟩ := bind_ok_iff.mp hrest
        cases hret
        exact .yes (decide_eq_true hsent)
      · rename_i hsent
        cases hrest
        refine ⟨iff_of_false Bool.false_ne_true fun h => hsent (of_decide_eq_true h), fun _ => ?_⟩
        refine ⟨rfl, Nat.le_refl _, [], ?_, fun e he => by cases he⟩
        change w.trace ++ _ = _
        rw [if_neg hsent]

theorem ethernetOutput_reports {mac : MacAddr} {proto : UInt16} {skb : SkBuff}
    (hrun : ethernetOutput i mac proto skb w = .ok r w') :
    Reports (w.accepts i = true) r w w' := by
  obtain ⟨_, w1, h1, hrest⟩ := bind_ok_iff.mp hrun
  have hlog : Emits (fun e => ¬ e.IsSent) w w1 :=
    (log_emits (e := .ethOutput i mac proto skb) (fun h => h)).ok h1
  rw [log_ok] at h1
  have haccepts : w1.accepts i = w.accepts i := by rw [h1]; rfl
  obtain ⟨s, -, hrest⟩ := bind_ok_of_eq (skbPush_reads _ _) hrest
  obtain ⟨intf, -, hrest⟩ := bind_ok_of_eq (derefIntf_reads i) hrest
  rw [← haccepts]
  refine .after hlog ?_
  dsimp only at hrest
  split at hrest
  · obtain ⟨s', -, hsend⟩ := bind_ok_of_eq (skbPut_reads _ _) hrest
    exact sendPktOut_reports hsend
  · exact sendPktOut_reports hrest

end Link

/-! ### The network layer -/

/-- Local delivery takes a packet the node sent itself: an ICMP message, or a datagram for a
port that is bound on the interface. -/
def LocalOk (w : World) (i : IntfId) (proto : UInt8) (message : SkBuff) : Prop :=
  proto = ipProtoIcmp ∧ icmpHdrSize ≤ message.len ∨
  proto = ipProtoUdp ∧ (udpSocksManagerFind w i message.udpDst).isSome

/-- A packet that leaves by a route is taken by the queue of the next hop or by the link. -/
def NeighbourOk (w : World) (n : NodeId) (rt : RtEntry) (dst : UInt32) : Prop :=
  Unresolved (w.arpTable n) (rt.target dst) ∨ w.accepts rt.intf = true

/-- **`ip_output` succeeds**: there is a route, it is by the interface of the socket if there
is one, and the packet is taken where it goes. -/
def OutputOk (w : World) (n : NodeId) (ip : UInt32) (proto : UInt8) (message : SkBuff) : Prop :=
  ∃ rt, rtLookupLpm (w.rtTable n) ip = some rt ∧
    (message.intf = none ∨ message.intf = some rt.intf) ∧
    if isIpLocal w n ip then LocalOk w rt.intf proto message else NeighbourOk w n rt ip

section Network

variable {w w' : World} {n : NodeId} {r : Bool} {skb : SkBuff}

theorem ipNeighbourOutput_reports {rt : RtEntry} {dst : UInt32}
    (hrun : ipNeighbourOutput n rt.intf (rt.target dst) skb w = .ok r w') :
    Reports (NeighbourOk w n rt dst) r w w' := by
  by_cases hwait : Unresolved (w.arpTable n) (rt.target dst)
  · rw [ipNeighbourOutput_unresolved hwait] at hrun
    obtain ⟨_, w1, -, hret⟩ := bind_ok_iff.mp hrun
    cases hret
    exact .yes (Or.inl hwait)
  · have hwait' := hwait
    unfold Unresolved at hwait
    push Not at hwait
    obtain ⟨entry, hlook, hres⟩ := hwait
    rw [ipNeighbourOutput_resolved hlook (Bool.not_eq_false _ ▸ hres)] at hrun
    exact (ethernetOutput_reports hrun).congr ⟨Or.inr, fun h => h.resolve_left hwait'⟩

theorem UdpInput.reports {i : IntfId} (h : UdpInput w skb r w') (hi : skb.intf = some i) :
    Reports ((udpSocksManagerFind w i skb.udpDst).isSome) r w w' := by
  cases h with
  | refused hj hk =>
      obtain rfl := Option.some.inj (hi.symm.trans hj)
      exact .no (by rw [hk]; simp)
  | queued hj hk hsock =>
      obtain rfl := Option.some.inj (hi.symm.trans hj)
      exact .yes (by rw [hk]; rfl)

/-- **Local delivery of a packet the node sent itself.** -/
theorem ipInput_looped_reports {depth : Nat} {i : IntfId} {message : SkBuff} {proto : UInt8}
    (h : skb.ipHdr = none) (hi : skb.intf = some i) (hproto : skb.proto = proto)
    (hlen : (skb.pulled ipHdrSize).len = message.len)
    (hport : (skb.pulled ipHdrSize).udpDst = message.udpDst)
    (hrun : ipInputDepth depth skb w = .ok r w') : Reports (LocalOk w i proto message) r w w' := by
  have hloops : Emits (fun e => ¬ e.IsSent) w (w.loops skb) :=
    (log_emits (e := .transport skb.proto (skb.pulled ipHdrSize)) (fun h => h)).ok rfl
  have hnotIcmp : proto ≠ ipProtoIcmp ∨ message.len < icmpHdrSize → proto ≠ ipProtoUdp →
      ¬ LocalOk w i proto message := by
    rintro hicmp hudp (⟨hp, hl⟩ | ⟨hp, -⟩)
    · exact hicmp.elim (fun hne => hne hp) (Nat.not_lt.mpr hl)
    · exact hudp hp
  subst hproto
  cases ipInput_looped_ok h hrun with
  | unknown hicmp hudp => exact .no (hnotIcmp (Or.inl hicmp) hudp)
  | tcp htcp =>
      exact .after hloops (.no (hnotIcmp (Or.inl (by rw [htcp]; decide)) (by rw [htcp]; decide)))
  | short hicmp hshort =>
      refine .after hloops (.no (hnotIcmp (Or.inr ?_) (by rw [hicmp]; decide)))
      rwa [← hlen]
  | freed hicmp hwhole =>
      refine .yes (Or.inl ⟨hicmp, ?_⟩)
      rwa [← hlen]
  | udp hudp hinput =>
      refine .after hloops ((hinput.reports (i := i) hi).congr ?_)
      rw [hport]
      refine ⟨fun hfind => Or.inr ⟨hudp, hfind⟩, fun hok => hok.elim (fun hicmp => ?_) And.right⟩
      exact absurd (hudp.symm.trans hicmp.1) (by decide)

/-- The message behind the header `ip_output` and `ip_postroute` write. -/
theorem pulled_routed_withIpHdr {message : SkBuff} (hdata : ipHdrSize ≤ message.data) (ip : UInt32)
    (proto : UInt8) (i : IntfId) (src : UInt32) :
    (((message.withIpHdr ip proto).routed i src).pulled ipHdrSize).len = message.len ∧
    (((message.withIpHdr ip proto).routed i src).pulled ipHdrSize).data = message.data ∧
    ∀ q, message.data ≤ q →
      (((message.withIpHdr ip proto).routed i src).pulled ipHdrSize).mem q = message.mem q := by
  refine ⟨?_, ?_, fun q hq => ?_⟩
  · change sizeSub (message.len + ipHdrSize) ipHdrSize = message.len
    rw [sizeSub_of_le (Nat.le_add_left _ _), Nat.add_sub_cancel]
  · change message.data - ipHdrSize + ipHdrSize = message.data
    exact Nat.sub_add_cancel hdata
  · change ((message.withIpHdr ip proto).routed i src).mem q = message.mem q
    rw [routed_mem_outside _ _ _ (Or.inr ?_), withIpHdr_mem_behind hdata hq]
    rw [withIpHdr_data]
    rw [ipHdrSize] at hdata ⊢
    omega

/-- **`ip_output` of a message the node made itself.** -/
theorem ipOutput_reports {depth : Nat} {ip : UInt32} {proto : UInt8} {message : SkBuff}
    (h : message.ipHdr = none)
    (hrun : ipOutput (ipInputDepth depth) n ip proto message w = .ok r w') :
    Reports (OutputOk w n ip proto message) r w w' := by
  obtain ⟨_, w1, h1, hrest⟩ := bind_ok_iff.mp hrun
  have hlog : Emits (fun e => ¬ e.IsSent) w w1 := (log_emits (fun h => h)).ok h1
  have hsame : OutputOk w1 n ip proto message ↔ OutputOk w n ip proto message := by
    rw [log_ok] at h1
    rw [h1]
    rfl
  refine .congr hsame (.after hlog ?_)
  obtain ⟨s, hpush, hpost⟩ := bind_ok_of_eq (skbPush_reads _ _) hrest
  obtain ⟨hdata, rfl, -⟩ := skbPush_ok.mp hpush
  change ipPostroute (ipInputDepth depth) n (message.withIpHdr ip proto) w1 = .ok r w' at hpost
  -- the message's interface is the one of its packet
  have hby : ∀ rt : RtEntry, (message.intf = none ∨ message.intf = some rt.intf) ↔
      ¬ ((message.withIpHdr ip proto).intf.isSome ∧
        (message.withIpHdr ip proto).intf ≠ some rt.intf) := by
    intro rt
    rw [withIpHdr_intf, not_and_or, Option.not_isSome_iff_eq_none, not_not]
  have hpost' := ipPostroute_ok hpost
  unfold OutputOk
  cases hpost' with
  | unrouted hrt =>
      rw [dstIp_withIpHdr] at hrt
      refine .no ?_
      rintro ⟨rt, hrt', -⟩
      rw [hrt] at hrt'
      cases hrt'
  | @otherIntf rt hrt hintf =>
      rw [dstIp_withIpHdr] at hrt
      refine .no ?_
      rintro ⟨rt', hrt', hok, -⟩
      obtain rfl : rt = rt' := Option.some.inj (hrt.symm.trans hrt')
      exact (hby rt).mp hok hintf
  | @looped rt out _ _ hrt hintf hout hlocal hin =>
      rw [dstIp_withIpHdr] at hrt hlocal
      obtain ⟨hlen, hback, hmem⟩ := pulled_routed_withIpHdr hdata ip proto rt.intf out.ipAddr
      have hport : (((message.withIpHdr ip proto).routed rt.intf out.ipAddr).pulled
          ipHdrSize).udpDst = message.udpDst := by
        unfold SkBuff.udpDst
        rw [hback, Memory.load16_congr (hmem _ (by omega)) (hmem _ (by omega))]
      have hreports : Reports (LocalOk w1 rt.intf proto message) r w1 w' :=
        ipInput_looped_reports (by exact h) rfl ((proto_routed ..).trans (proto_withIpHdr ..)) hlen
          hport hin
      refine hreports.congr ?_
      rw [hrt]
      simp only [Option.some.injEq, exists_eq_left', hlocal, if_true]
      exact (and_iff_right ((hby rt).mpr hintf)).symm
  | @sent rt out _ _ hrt hintf hout hlocal hsend =>
      rw [dstIp_withIpHdr] at hrt hlocal hsend
      refine (ipNeighbourOutput_reports hsend).congr ?_
      rw [hrt]
      simp only [Option.some.injEq, exists_eq_left', hlocal, Bool.false_eq_true, if_false]
      exact (and_iff_right ((hby rt).mpr hintf)).symm

end Network

end SimpleTcpip
