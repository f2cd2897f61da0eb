/-
The buffers a received frame makes the node allocate.

`icmp_input`, `process_arp_broadcast_request` and `handle_new_connection` answer a frame in a
buffer of their own, and `ip_postroute` asks for the address of a next hop in another.  `icmp_out`
and `send_arp_broadcast_request` give back what is not taken.  The other two senders do not, so
what `recv_task` may rely on also needs a link that takes the reply to a request, and a way for
the answer to a SYN.
-/
import SimpleTcpip.Model.Fixture
import SimpleTcpip.Proofs.Disposal
import SimpleTcpip.Proofs.Reception

namespace SimpleTcpip

open Fallible

/-! ### What a run allocates -/

/-- Every buffer a run allocated was given back once, or is in one queue. -/
def NoneLost (w w' : World) : Prop :=
  ∀ id, Event.alloc id ∈ newEvents w w' → ∃ h, tokens w' id = Pi.single h 1

/-- A run allocated no buffer. -/
def NoAlloc (w w' : World) : Prop :=
  ∃ es, w'.trace = w.trace ++ es ∧ ∀ id, Event.alloc id ∉ es

/-- A run allocated a buffer for each identity it used up, and for no other. -/
structure Counted (w w' : World) : Prop where
  nextId : w.nextId ≤ w'.nextId
  trace : ∃ es, w'.trace = w.trace ++ es ∧
    ∀ id, Event.alloc id ∈ es ↔ w.nextId ≤ id ∧ id < w'.nextId

section Runs

variable {w w₁ w' : World} {α β : Type}

theorem NoAlloc.of_trace (h : w'.trace = w.trace) : NoAlloc w w' :=
  ⟨[], by rw [h, List.append_nil], fun _ hmem => by cases hmem⟩

theorem NoAlloc.of_event {e : Event} (h : w'.trace = w.trace ++ [e]) (he : ∀ id, e ≠ .alloc id) :
    NoAlloc w w' :=
  ⟨[e], h, fun id hmem => he id (List.mem_singleton.mp hmem).symm⟩

theorem NoAlloc.trans (h : NoAlloc w w₁) (h' : NoAlloc w₁ w') : NoAlloc w w' := by
  obtain ⟨es, hes, hnone⟩ := h
  obtain ⟨es', hes', hnone'⟩ := h'
  refine ⟨es ++ es', by rw [hes', hes, List.append_assoc], fun id hmem => ?_⟩
  exact (List.mem_append.mp hmem).elim (hnone id) (hnone' id)

theorem NoAlloc.of_emits (h : Emits (fun e => ∀ id, e ≠ .alloc id) w w') : NoAlloc w w' := by
  obtain ⟨es, hes, hnone⟩ := h.trace
  exact ⟨es, hes, fun id hmem => hnone _ hmem id rfl⟩

/-- A run that allocates nothing loses nothing. -/
theorem NoAlloc.noneLost (h : NoAlloc w w') : NoneLost w w' := by
  obtain ⟨es, hes, hnone⟩ := h
  intro id hmem
  rw [newEvents_append hes] at hmem
  exact absurd hmem (hnone id)

theorem NoAlloc.counted (h : NoAlloc w w') (hid : SameId w w') : Counted w w' := by
  obtain ⟨es, hes, hnone⟩ := h
  refine ⟨Nat.le_of_eq hid.symm, es, hes, fun id => iff_of_false (hnone id) fun hrange => ?_⟩
  have hlt := hrange.2
  rw [hid] at hlt
  exact Nat.not_le.mpr hlt hrange.1

theorem Counted.refl (w : World) : Counted w w := (NoAlloc.of_trace rfl).counted rfl

theorem Counted.trans (h : Counted w w₁) (h' : Counted w₁ w') : Counted w w' := by
  obtain ⟨es, hes, hids⟩ := h.trace
  obtain ⟨es', hes', hids'⟩ := h'.trace
  have hle := h.nextId
  have hle' := h'.nextId
  refine ⟨Nat.le_trans hle hle', es ++ es', by rw [hes', hes, List.append_assoc], fun id => ?_⟩
  rw [List.mem_append, hids, hids']
  constructor
  · rintro (⟨hge, hlt⟩ | ⟨hge, hlt⟩)
    · exact ⟨hge, Nat.lt_of_lt_of_le hlt hle'⟩
    · exact ⟨Nat.le_trans hle hge, hlt⟩
  · rintro ⟨hge, hlt⟩
    exact (Nat.lt_or_ge id w₁.nextId).imp (fun hbefore => ⟨hge, hbefore⟩) fun hafter => ⟨hafter, hlt⟩

/-- **No buffer is lost in a run exactly when each identity it used up has one holder.** -/
theorem Counted.noneLost_iff (hbefore : NoAlloc w w₁) (h : Counted w₁ w') :
    NoneLost w w' ↔ Disposed w₁ w' := by
  obtain ⟨es, hes, hnone⟩ := hbefore
  obtain ⟨es', hes', hids⟩ := h.trace
  have hnew : newEvents w w' = es ++ es' := newEvents_append (by rw [hes', hes, List.append_assoc])
  unfold NoneLost Disposed
  rw [hnew]
  refine forall_congr' fun id => ?_
  rw [List.mem_append, or_iff_right (hnone id), hids, and_imp]

end Runs

/-! ### The senders -/

section Senders

variable {w w' : World} {skb : SkBuff} {depth : Nat} {n : NodeId} {i : IntfId} {r : Bool} {u : Unit}

theorem allocated_counted (w : World) : Counted w w.allocated := by
  refine ⟨Nat.le_succ _, [.alloc w.nextId], rfl, fun id => ?_⟩
  rw [List.mem_singleton, Event.alloc.injEq]
  constructor
  · rintro rfl
    exact ⟨Nat.le_refl _, Nat.lt_succ_self _⟩
  · rintro ⟨hge, hlt⟩
    exact Nat.le_antisymm (Nat.le_of_lt_succ hlt) hge

theorem freed_counted (w : World) (skb : SkBuff) : Counted w (w.freed skb) :=
  (NoAlloc.of_event rfl fun _ h => by cases h).counted rfl

theorem ethernetOutput_noAlloc {mac : MacAddr} {proto : UInt16}
    (hrun : ethernetOutput i mac proto skb w = .ok r w') : NoAlloc w w' := by
  have hemits : Keeps (Emits fun e => ∀ id, e ≠ .alloc id) (ethernetOutput i mac proto skb) :=
    ethernetOutput_emits_of (fun _ _ h => by cases h) (fun _ _ _ h => by cases h) fun _ h => by cases h
  exact .of_emits (hemits.ok hrun)

theorem ethernetOutput_counted {mac : MacAddr} {proto : UInt16}
    (hrun : ethernetOutput i mac proto skb w = .ok r w') : Counted w w' :=
  (ethernetOutput_noAlloc hrun).counted (ethernetOutput_nextId hrun)

theorem freeSkbIf_noAlloc {c : Bool} (hrun : freeSkbIf c skb w = .ok u w') : NoAlloc w w' := by
  rw [freeSkbIf_trace hrun]
  cases c with
  | true => exact .of_event rfl fun _ h => by cases h
  | false => exact .of_trace (List.append_nil _)

theorem freeSkbIf_counted {c : Bool} (hrun : freeSkbIf c skb w = .ok u w') : Counted w w' :=
  (freeSkbIf_noAlloc hrun).counted (by rw [freeSkbIf_trace hrun]; rfl)

theorem sendArpBroadcastRequest_counted {ip : UInt32}
    (hrun : sendArpBroadcastRequest i ip w = .ok u w') : Counted w w' := by
  unfold sendArpBroadcastRequest at hrun
  rw [run_bind_ok allocArpSkb_run] at hrun
  obtain ⟨intf, -, hrest⟩ := bind_ok_of_eq (derefIntf_reads i) hrun
  obtain ⟨ok, w1, h1, hfree⟩ := bind_ok_iff.mp hrest
  exact ((allocated_counted w).trans (ethernetOutput_counted h1)).trans (freeSkbIf_counted hfree)

theorem sendArpReplyMsg_counted {req : SkBuff} {shdr : Nat}
    (hrun : sendArpReplyMsg i req shdr w = .ok u w') : Counted w w' := by
  unfold sendArpReplyMsg at hrun
  rw [run_bind_ok allocArpSkb_run] at hrun
  obtain ⟨intf, -, hrest⟩ := bind_ok_of_eq (derefIntf_reads i) hrun
  obtain ⟨mac, -, hrest⟩ := bind_ok_of_eq (readMac_reads _ _) hrest
  obtain ⟨ip, -, hrest⟩ := bind_ok_of_eq (readU32_reads _ _) hrest
  obtain ⟨ok, w1, h1, hdone⟩ := bind_ok_iff.mp hrest
  cases hdone
  exact (allocated_counted w).trans (ethernetOutput_counted h1)

theorem ipNeighbourOutput_counted {ip : UInt32}
    (hrun : ipNeighbourOutput n i ip skb w = .ok r w') : Counted w w' := by
  by_cases hwait : Unresolved (w.arpTable n) ip
  · rw [ipNeighbourOutput_unresolved hwait] at hrun
    obtain ⟨_, w1, h1, hdone⟩ := bind_ok_iff.mp hrun
    cases hdone
    have hpark : Counted w (w.parked n ip i skb) :=
      (NoAlloc.of_event rfl fun _ h => by cases h).counted rfl
    exact hpark.trans (sendArpBroadcastRequest_counted h1)
  · unfold Unresolved at hwait
    push Not at hwait
    obtain ⟨entry, hlook, hres⟩ := hwait
    rw [ipNeighbourOutput_resolved hlook (Bool.not_eq_false _ ▸ hres)] at hrun
    exact ethernetOutput_counted hrun

theorem udpInput_noAlloc (hrun : udpInput skb w = .ok r w') : NoAlloc w w' := by
  cases udpInput_ok hrun with
  | refused _ _ => exact .of_trace rfl
  | queued _ _ _ => exact .of_trace rfl

/-- Delivering a packet to the node itself allocates nothing. -/
theorem ipInput_looped_noAlloc (h : skb.ipHdr = none)
    (hrun : ipInputDepth depth skb w = .ok r w') : NoAlloc w w' := by
  have hloops : NoAlloc w (w.loops skb) := .of_event rfl fun _ h => by cases h
  cases ipInput_looped_ok h hrun with
  | unknown _ _ => exact .of_trace rfl
  | tcp _ => exact hloops
  | short _ _ => exact hloops
  | freed _ _ => exact hloops.trans (.of_event rfl fun _ h => by cases h)
  | udp _ hudp =>
      cases hudp with
      | refused _ _ => exact hloops
      | queued _ _ _ => exact hloops.trans (.of_trace rfl)

theorem ipPostroute_counted (h : skb.ipHdr = none ∨ isIpLocal w n skb.dstIp = false)
    (hrun : ipPostroute (ipInputDepth depth) n skb w = .ok r w') : Counted w w' := by
  cases ipPostroute_ok hrun with
  | unrouted _ => exact .refl w
  | otherIntf _ _ => exact .refl w
  | looped _ _ _ hlocal hin =>
      have hnull : skb.ipHdr = none :=
        h.resolve_right fun hforeign => Bool.false_ne_true (hforeign.symm.trans hlocal)
      have hsame : SameId w w' := ipInput_looped_sameId ((routed_ipHdr ..).trans hnull) hin
      exact (ipInput_looped_noAlloc ((routed_ipHdr ..).trans hnull) hin).counted hsame
  | sent _ _ _ _ hsend => exact ipNeighbourOutput_counted hsend

theorem ipOutput_counted {ip : UInt32} {proto : UInt8} (h : skb.ipHdr = none)
    (hrun : ipOutput (ipInputDepth depth) n ip proto skb w = .ok r w') : Counted w w' := by
  obtain ⟨_, w1, h1, hrest⟩ := bind_ok_iff.mp hrun
  rw [log_ok] at h1
  have hlog : Counted w w1 := by
    rw [h1]
    exact (NoAlloc.of_event rfl fun _ h => by cases h).counted rfl
  obtain ⟨s, hpush, hpost⟩ := bind_ok_of_eq (skbPush_reads _ _) hrest
  obtain ⟨-, rfl, -⟩ := skbPush_ok.mp hpush
  change ipPostroute (ipInputDepth depth) n (skb.withIpHdr ip proto) w1 = .ok r w' at hpost
  have hnull : (skb.withIpHdr ip proto).ipHdr = none := h
  exact hlog.trans (ipPostroute_counted (Or.inl hnull) hpost)

theorem icmpOut_counted {ip : UInt32} {type code : UInt8} {payload : List UInt8}
    (hrun : icmpOut (ipInputDepth depth) n ip type code payload w = .ok r w') : Counted w w' := by
  rw [icmpOut_run] at hrun
  obtain ⟨sent, w1, h1, hrest⟩ := bind_ok_iff.mp hrun
  have hout : Counted w.allocated w1 := ipOutput_counted rfl h1
  cases sent with
  | true =>
      cases hrest
      exact (allocated_counted w).trans hout
  | false =>
      obtain ⟨_, w2, h2, hdone⟩ := bind_ok_iff.mp hrest
      cases hdone
      obtain rfl := freeSkb_ok.mp h2
      exact ((allocated_counted w).trans hout).trans (freed_counted w1 _)

theorem tcpOut_counted {c : ConnId} {buff : List UInt8} {flags : TcpFlags}
    (hrun : tcpOut (ipInputDepth depth) c buff flags w = .ok r w') : Counted w w' := by
  obtain ⟨conn, hderef, -⟩ := bind_ok_of_eq (derefTcpConn_reads c) hrun
  obtain ⟨hconn, -⟩ := derefTcpConn_ok.mp hderef
  obtain ⟨parent, hparent⟩ := tcpOut_parent hconn hrun
  rw [tcpOut_run hconn hparent] at hrun
  split at hrun
  · cases hrun
    exact allocated_counted w
  · obtain ⟨intf, -, hout⟩ := bind_ok_of_eq (derefIntfPtr_reads _) hrun
    have hset : NoAlloc w.allocated (w.segmented c conn buff.length flags) := .of_trace rfl
    have hcounted := (allocated_counted w).trans (hset.counted rfl)
    exact hcounted.trans (ipOutput_counted (tcpSegment_ipHdr ..) hout)

end Senders

/-! ### The protocols -/

/-- A received packet asks a listening socket for a connection, if `tcp_input` gets it. -/
def AsksForConn (w : World) (skb : SkBuff) (k : SockId) (sock : TcpSock) : Prop :=
  rxSock w skb = some k ∧ w.tcpSock k = some sock ∧ rxConn w skb = none ∧
    sock.listening = true ∧ skb.segment.tcpFlags.syn = true ∧ skb.segment.tcpFlags.ack = false

/-- The answer to a SYN that opens a connection is taken where it goes. -/
def AnswerTaken (w : World) (skb : SkBuff) : Prop :=
  ∀ k sock, AsksForConn w skb k sock →
    ∃ i intf, sock.intf = some i ∧ w.intf i = some intf ∧ SegmentOk w intf.node sock (skb.opens k)

section Protocols

variable {w₀ w w' : World} {skb : SkBuff} {depth : Nat} {r : Bool}

/-- An echo reply that is not taken is given back. -/
theorem icmpInput_noneLost (hbefore : NoAlloc w₀ w) (hb : Given w skb.id)
    (hrun : icmpInput (ipInputDepth depth) skb w = .ok r w') : NoneLost w₀ w' := by
  unfold icmpInput at hrun
  split at hrun
  · cases hrun
    exact hbefore.noneLost
  obtain ⟨type, -, hrun⟩ := bind_ok_of_eq (readU8_reads _ _) hrun
  obtain ⟨code, -, hrun⟩ := bind_ok_of_eq (readU8_reads _ _) hrun
  split at hrun
  · obtain ⟨intf, -, hrun⟩ := bind_ok_of_eq (derefIntfPtr_reads _) hrun
    obtain ⟨iph, w1, h1, hrun⟩ := bind_ok_iff.mp hrun
    obtain ⟨-, rfl⟩ := followIpHdr_ok.mp h1
    obtain ⟨src, -, hrun⟩ := bind_ok_of_eq (readU32_reads _ _) hrun
    obtain ⟨_, w2, h2, hrun⟩ := bind_ok_iff.mp hrun
    obtain ⟨_, w3, h3, hdone⟩ := bind_ok_iff.mp hrun
    cases hdone
    obtain rfl := freeSkb_ok.mp h3
    have hfollow : NoAlloc w { w with trace := w.trace ++ [.readIpHdr skb] } :=
      .of_event rfl fun _ h => by cases h
    have hfresh : Fresh { w with trace := w.trace ++ [.readIpHdr skb] } :=
      (log_spares hb.fresh fun _ => rfl).fresh
    have hreply : Disposed { w with trace := w.trace ++ [.readIpHdr skb] } w2 :=
      icmpOut_disposed hfresh h2
    have hcounted := (icmpOut_counted h2).trans (freed_counted w2 skb)
    refine (hcounted.noneLost_iff (hbefore.trans hfollow)).mpr ?_
    exact (disposed_freed_iff hb.allocated).mpr hreply
  · obtain ⟨_, w1, h1, hdone⟩ := bind_ok_iff.mp hrun
    cases hdone
    obtain rfl := freeSkb_ok.mp h1
    exact (hbefore.trans (.of_event rfl fun _ h => by cases h)).noneLost

theorem handleSynSent_noAlloc {c : ConnId} (hrun : handleSynSent c skb w = .ok r w') :
    NoAlloc w w' := by
  obtain ⟨flags, -, hrun⟩ := bind_ok_of_eq (readTcpFlags_reads _ _) hrun
  split at hrun
  swap
  · cases hrun
    exact .of_trace rfl
  obtain ⟨seq, -, hrun⟩ := bind_ok_of_eq (readTcpSeq_reads _ _) hrun
  obtain ⟨conn, hconn, hrun⟩ := bind_ok_of_eq (derefTcpConn_reads c) hrun
  split at hrun
  · obtain ⟨_, w1, h1, hdone⟩ := bind_ok_iff.mp hrun
    cases hdone
    rw [setTcpConn_ok] at h1
    exact .of_trace (by rw [h1])
  · cases hrun
    exact .of_trace rfl

/-- A segment that ends nothing is queued or dropped. -/
theorem handleEstab_noAlloc {c : ConnId} {conn : TcpConnectionSock}
    (hconn : w.tcpConn c = some conn) (hno : ¬ InOrderClose conn skb)
    (hrun : handleEstab (ipInputDepth depth) c skb w = .ok r w') : NoAlloc w w' := by
  obtain ⟨seq, hseq, hrun⟩ := bind_ok_of_eq (readTcpSeq_reads _ _) hrun
  obtain ⟨-, rfl, -⟩ := readTcpSeq_ok.mp hseq
  obtain ⟨conn', hconn', hrun⟩ := bind_ok_of_eq (derefTcpConn_reads c) hrun
  rw [derefTcpConn_ok, hconn] at hconn'
  obtain rfl := Option.some.inj hconn'.1
  split at hrun
  swap
  · cases hrun
    exact .of_trace rfl
  rename_i hseq
  obtain ⟨flags, hflags, hrun⟩ := bind_ok_of_eq (readTcpFlags_reads _ _) hrun
  obtain ⟨-, rfl, -⟩ := readTcpFlags_ok.mp hflags
  split at hrun
  · rename_i hrst
    exact absurd ⟨hseq, Or.inl hrst⟩ hno
  split at hrun
  · rename_i hfin
    exact absurd ⟨hseq, Or.inr hfin⟩ hno
  obtain ⟨s, -, hrun⟩ := bind_ok_of_eq (skbPull_reads _ _) hrun
  obtain ⟨_, w1, h1, hdone⟩ := bind_ok_iff.mp hrun
  cases hdone
  rw [setTcpConn_ok] at h1
  exact .of_trace (by rw [h1])

/-- **The answer to a SYN is lost unless it has a way to the peer.** -/
theorem handleNewConnection_noneLost_iff {k : SockId} {sock : TcpSock} (hbefore : NoAlloc w₀ w)
    (hw : Fresh w) (hk : w.tcpSock k = some sock)
    (hrun : handleNewConnection (ipInputDepth depth) k skb.segment w = .ok r w') :
    NoneLost w₀ w' ↔ ∃ i intf, sock.intf = some i ∧ w.intf i = some intf ∧
      SegmentOk w intf.node sock (skb.opens k) := by
  obtain ⟨-, sent, hout⟩ := handleNewConnection_run hk hrun
  have hlink : SparesAll w (w.connecting skb k sock) := connecting_spares hw
  have hsilent : NoAlloc w (w.connecting skb k sock) := .of_event rfl fun _ h => by cases h
  rw [(tcpOut_counted hout).noneLost_iff (hbefore.trans hsilent), tcpOut_disposed_iff hlink.fresh hout]
  constructor
  · rintro ⟨conn, parent, i, intf, hconn, hparent, hi, hintf, -, hok⟩
    rw [connecting_tcpConn] at hconn
    obtain rfl := Option.some.inj hconn
    obtain rfl := Option.some.inj ((connecting_tcpSock skb k sock).symm.trans hparent)
    exact ⟨i, intf, hi, hintf, hok⟩
  · rintro ⟨i, intf, hi, hintf, hok⟩
    exact ⟨skb.opens k, _, i, intf, connecting_tcpConn .., connecting_tcpSock .., hi, hintf,
      exceedsWindow_opens skb k, hok⟩

theorem tcpInput_noneLost_iff (hbefore : NoAlloc w₀ w) (hw : Fresh w) (hno : ¬ ClosesConn w skb)
    (hrun : tcpInput (ipInputDepth depth) skb.segment w = .ok r w') :
    NoneLost w₀ w' ↔ AnswerTaken w skb := by
  have hfollow : NoAlloc w₀ (w.followed skb) :=
    hbefore.trans (.of_event rfl fun _ h => by cases h)
  -- a segment that finds its connection opens none
  have hknown : ∀ {c}, rxConn w skb = some c → AnswerTaken w skb := by
    rintro c hc k sock ⟨-, -, hnew, -⟩
    cases hc.symm.trans hnew
  cases tcpInput_ok hrun with
  | unheard hsock _ hw' =>
      refine iff_of_true (hw' ▸ hbefore.noneLost) fun k sock hopens => ?_
      cases hsock.symm.trans hopens.1
  | synSent hsock hk hfound hconn hstate hrun =>
      exact iff_of_true (hfollow.trans (handleSynSent_noAlloc hrun)).noneLost
        (hknown ((rxConn_of_sock hsock hk).trans hfound))
  | estab hsock hk hfound hconn hstate hrun =>
      have hc := (rxConn_of_sock hsock hk).trans hfound
      have hopen : ¬ InOrderClose _ skb.segment := fun hclose =>
        hno ((closesConn_iff hc hconn).mpr ⟨hstate, hclose⟩)
      exact iff_of_true (hfollow.trans (handleEstab_noAlloc hconn hopen hrun)).noneLost (hknown hc)
  | @opened k sock hsock hk hfound hopens hrun =>
      have hfresh : Fresh (w.followed skb) := (log_spares hw fun _ => rfl).fresh
      rw [handleNewConnection_noneLost_iff hfollow hfresh hk hrun]
      constructor
      · rintro hok k' sock' ⟨hsock', hk', -⟩
        obtain rfl : k = k' := Option.some.inj (hsock.symm.trans hsock')
        obtain rfl : sock = sock' := Option.some.inj (hk.symm.trans hk')
        exact hok
      · intro htaken
        exact htaken k sock ⟨hsock, hk, (rxConn_of_sock hsock hk).trans hfound, hopens.1, hopens.2.1,
          Bool.eq_false_iff.mpr hopens.2.2⟩
  | @refused k sock hsock hk hfound hopens _ hw' =>
      refine iff_of_true (hw' ▸ hfollow.noneLost) fun k' sock' hconn => ?_
      obtain ⟨hsock', hk', -, hlisten, hsyn, hack⟩ := hconn
      obtain rfl : k = k' := Option.some.inj (hsock.symm.trans hsock')
      obtain rfl : sock = sock' := Option.some.inj (hk.symm.trans hk')
      exact absurd ⟨hlisten, hsyn, Bool.eq_false_iff.mp hack⟩ hopens

theorem ipInput_noneLost_iff (hb : Given w skb.id)
    (hno : ¬ (skb.ipPacket.proto = ipProtoTcp ∧ ClosesConn w skb))
    (hrun : ipInputDepth (depth + 1) skb.ipPacket w = .ok r w') :
    NoneLost w w' ↔ (skb.ipPacket.proto = ipProtoTcp → AnswerTaken w skb) := by
  have hlog : NoAlloc w (w.transports skb) := .of_event rfl fun _ h => by cases h
  have hgiven : Given (w.transports skb) skb.id := (log_spares hb.fresh fun _ => rfl).given hb
  have hother : ∀ {p : UInt8}, skb.ipPacket.proto = p → p ≠ ipProtoTcp →
      (skb.ipPacket.proto = ipProtoTcp → AnswerTaken w skb) :=
    fun hp hne htcp => absurd (hp.symm.trans htcp) hne
  cases ipInput_ok hrun with
  | icmp hproto hrun =>
      have hmessage : Given (w.transports skb) skb.segment.id := hgiven
      exact iff_of_true (icmpInput_noneLost hlog hmessage hrun) (hother hproto (by decide))
  | tcp hproto hrun =>
      have hopen : ¬ ClosesConn (w.transports skb) skb := fun hclose => hno ⟨hproto, hclose⟩
      have hsame : AnswerTaken (w.transports skb) skb ↔ AnswerTaken w skb := Iff.rfl
      rw [tcpInput_noneLost_iff hlog hgiven.fresh hopen hrun, hsame]
      exact ⟨fun h _ => h, fun h => h hproto⟩
  | udp hproto hrun =>
      exact iff_of_true (hlog.trans (udpInput_noAlloc hrun)).noneLost (hother hproto (by decide))
  | refused _ htcp _ _ hw' =>
      exact iff_of_true (hw' ▸ (NoAlloc.of_trace rfl).noneLost) fun h => absurd h htcp

/-- Forwarding loses nothing: the packet is the only buffer but for the requests it makes. -/
theorem ipForward_noneLost (hb : Given w skb.id)
    (hlocal : ∀ i intf, skb.intf = some i → w.intf i = some intf →
      isIpLocal w intf.node skb.ipPacket.dstIp = false)
    (hrun : ipForward skb.ipPacket w = .ok r w') : NoneLost w w' := by
  have hsame : NoAlloc w w := .of_trace rfl
  obtain ⟨t, ht, hrun⟩ := bind_ok_of_eq get_reads hrun
  cases ht
  split at hrun
  · cases hrun
    exact hsame.noneLost
  obtain ⟨ttl, httl, hrun⟩ := bind_ok_of_eq (readU8_reads _ _) hrun
  obtain ⟨-, rfl, -⟩ := readU8_ok.mp httl
  split at hrun
  · cases hrun
    exact hsame.noneLost
  split at hrun
  · cases hrun
    exact hsame.noneLost
  obtain ⟨intf, hintf, hrun⟩ := bind_ok_of_eq (derefIntfPtr_reads _) hrun
  obtain ⟨⟨i, hi, hintf⟩, -⟩ := derefIntfPtr_ok.mp hintf
  have hforeign : isIpLocal w intf.node (SkBuff.dstIp { skb.ipPacket.store8
      (skb.ipPacket.data + 8) (skb.ipPacket.mem (skb.ipPacket.data + 8) - 1) with intf := none })
        = false := by
    refine Eq.trans ?_ (hlocal i intf hi hintf)
    exact congrArg _ (dstIp_forwarded skb.ipPacket)
  have hcounted := ipPostroute_counted (Or.inr hforeign) hrun
  refine (hcounted.noneLost_iff hsame).mpr ?_
  exact ipPostroute_disposed (Or.inr hforeign) hb hrun

end Protocols

/-! ### Address resolution -/

section Arp

variable {w w' : World} {skb : SkBuff} {r : Bool} {n : NodeId} {u : Unit}

theorem flushPending_noAlloc {ip : UInt32} {mac : MacAddr} {pkts : List SkBuff}
    (hrun : flushPending n ip mac pkts w = .ok u w') : NoAlloc w w' := by
  induction pkts generalizing w with
  | nil =>
      cases hrun
      exact .of_trace rfl
  | cons s rest ih =>
      obtain ⟨_, w1, h1, hrest⟩ := bind_ok_iff.mp hrun
      obtain rfl := modifyArpEntry_ok.mp h1
      cases hi : s.intf with
      | none =>
          rw [hi] at hrest
          cases hrest
      | some i =>
          rw [hi] at hrest
          obtain ⟨ok, w2, h2, hrest⟩ := bind_ok_iff.mp hrest
          obtain ⟨_, w3, h3, hrest⟩ := bind_ok_iff.mp hrest
          have hmodify : NoAlloc w (w.modifyArp n ip fun entry => { entry with pendingPkts := rest }) :=
            .of_trace rfl
          exact hmodify.trans ((ethernetOutput_noAlloc h2).trans
            ((freeSkbIf_noAlloc h3).trans (ih hrest)))

theorem arpTableUpdateFromArpReply_noAlloc {hdr : Nat}
    (hrun : arpTableUpdateFromArpReply n skb hdr w = .ok u w') : NoAlloc w w' := by
  obtain ⟨ip, -, hrest⟩ := bind_ok_of_eq (readU32_reads _ _) hrun
  obtain ⟨t, ht, hrest⟩ := bind_ok_of_eq get_reads hrest
  cases ht
  cases hlook : arpTableLookup (w.arpTable n) ip with
  | none =>
      rw [hlook] at hrest
      cases hrest
      exact .of_trace rfl
  | some entry =>
      rw [hlook] at hrest
      obtain ⟨mac, -, hrest⟩ := bind_ok_of_eq (readMac_reads _ _) hrest
      obtain ⟨_, w1, h1, hrest⟩ := bind_ok_iff.mp hrest
      obtain rfl := modifyArpEntry_ok.mp h1
      have hmodify : NoAlloc w
          (w.modifyArp n ip fun entry => { entry with resolved := true, mac := mac }) :=
        .of_trace rfl
      exact hmodify.trans (flushPending_noAlloc hrest)

/-- **The reply to a request is lost unless the link takes it.** -/
theorem arpInput_noneLost_iff (hb : Given w skb.id) (hrun : arpInput skb w = .ok r w') :
    NoneLost w w' ↔ ∀ i intf, skb.intf = some i → w.intf i = some intf →
      skb.IsArpRequest intf.ipAddr → w.accepts i = true := by
  have hsame : NoAlloc w w := .of_trace rfl
  have hfreed : ∀ t : World, NoAlloc t (t.freed skb) := fun _ => .of_event rfl fun _ h => by cases h
  cases arpInput_ok hrun with
  | ignored _ hother =>
      exact iff_of_true hsame.noneLost fun i intf hi hintf hasked =>
        absurd hasked (hother i intf hi hintf)
  | unknown hreply _ _ _ =>
      exact iff_of_true (hfreed w).noneLost fun _ _ _ _ hasked => absurd hreply hasked.not_reply
  | reply hreply _ _ _ hlearn _ =>
      have hupdate := arpTableUpdateFromArpReply_noAlloc hlearn
      exact iff_of_true (hupdate.trans (hfreed _)).noneLost fun _ _ _ _ hasked =>
        absurd hreply hasked.not_reply
  | @answered w₁ i intf hi hintf hasked h =>
      have hcounted := (sendArpReplyMsg_counted h).trans (freed_counted w₁ skb)
      rw [hcounted.noneLost_iff hsame, disposed_freed_iff hb.allocated,
        sendArpReplyMsg_disposed_iff hb.fresh h]
      constructor
      · rintro haccepts j - hj - -
        obtain rfl : i = j := Option.some.inj (hi.symm.trans hj)
        exact haccepts
      · intro htaken
        exact htaken i intf hi hintf hasked

end Arp

/-! ### The frame -/

/-- **Every packet the node answers a frame with is taken where it goes**, or given back. -/
structure RepliesTaken (w : World) (skb : SkBuff) : Prop where
  /-- The link takes the reply to an ARP request for the address of the interface. -/
  arp : ∀ i intf, skb.intf = some i → frameIntf w skb ethProtoArp = some intf →
    (skb.pulled ethHdrSize).IsArpRequest intf.ipAddr → w.accepts i = true
  /-- The answer to a SYN that opens a connection has a way to the peer. -/
  syn : TakenTo w ipProtoTcp skb → AnswerTaken w skb

section Frame

variable {w w' : World} {skb : SkBuff} {r : Bool}

/-- **A frame that ends no connection loses no buffer exactly when its replies are taken.** -/
theorem pktReceive_noneLost_iff (hskb : Filled skb) (hb : Given w skb.id) (hno : ¬ Closes w skb)
    (hrun : pktReceive skb w = .ok r w') : NoneLost w w' ↔ RepliesTaken w skb := by
  have hsame : NoAlloc w w := .of_trace rfl
  cases harp : frameIntf w skb ethProtoArp with
  | some intf =>
      obtain ⟨i, hi, hintf, -, -, -, htype⟩ := frameIntf_eq_some.mp harp
      have hnot : ¬ TakenTo w ipProtoTcp skb := by
        rintro ⟨⟨-, -, -, -, -, -, -, hip, -⟩, -⟩
        exact absurd (htype.symm.trans hip) (by decide)
      have hgiven : Given w (skb.pulled ethHdrSize).id := hb
      rw [pktReceive_arpInput harp hskb] at hrun
      rw [arpInput_noneLost_iff hgiven hrun]
      constructor
      · intro htaken
        refine ⟨fun j intf' hj hframe hasked => ?_, fun h => absurd h hnot⟩
        obtain rfl : i = j := Option.some.inj (hi.symm.trans hj)
        obtain rfl : intf = intf' := Option.some.inj (harp.symm.trans hframe)
        exact htaken i intf hi hintf hasked
      · intro htaken j intf' hj hintf' hasked
        obtain ⟨rfl, rfl⟩ := intfPtr_unique hi hintf hj hintf'
        exact htaken.arp i intf hi harp hasked
  | none =>
      have hrequest : (TakenTo w ipProtoTcp skb → AnswerTaken w skb) → RepliesTaken w skb :=
        fun hsyn => ⟨fun _ _ _ hframe => (by cases harp.symm.trans hframe), hsyn⟩
      have hforeign : ¬ IpAccepted w skb → RepliesTaken w skb := fun hno =>
        hrequest fun htaken => absurd htaken.1 hno
      cases pktReceive_ok hrun with
      | ignored hno _ hw =>
          exact iff_of_true (hw ▸ hsame.noneLost) (hforeign hno)
      | arp hno _ htype _ =>
          -- the interface does not take it
          have hip : packetIntf w skb = none := by
            rw [Option.eq_none_iff_forall_ne_some]
            intro intf hpacket
            obtain ⟨-, -, -, -, -, -, hip⟩ := frameIntf_eq_some.mp hpacket
            exact absurd (htype.symm.trans hip) (by decide)
          obtain ⟨intf, hderef, -⟩ := bind_ok_of_eq (derefIntfPtr_reads _) hrun
          obtain ⟨⟨i, hi, hintf⟩, -⟩ := derefIntfPtr_ok.mp hderef
          rw [pktReceive_dropped hi hintf harp hip hskb] at hrun
          cases hrun
          exact iff_of_true hsame.noneLost (hforeign hno)
      | @forwarded i intf hno _ hi hintf hlocal hrun =>
          refine iff_of_true (ipForward_noneLost hb (fun j intf' hj hintf' => ?_) hrun) (hforeign hno)
          obtain ⟨rfl, rfl⟩ := intfPtr_unique hi hintf hj hintf'
          exact hlocal
      | delivered hip hrun =>
          rw [ipInput_noneLost_iff hb (fun hclose => hno ⟨⟨hip, hclose.1⟩, hclose.2⟩) hrun]
          constructor
          · intro hsyn
            exact hrequest fun htaken => hsyn htaken.2
          · intro htaken htcp
            exact htaken.syn ⟨hip, htcp⟩

end Frame

/-! ### What the receive thread relies on -/

/-- What `recv_task` may rely on after `pkt_receive`. -/
structure OwnerKept (w : World) (b : SkbId) (r : Bool) (w' : World) : Prop where
  /-- The frame's buffer is still the caller's, or it has one holder. -/
  frame : r = false ∧ tokens w' b = 0 ∨ r = true ∧ ∃ h, tokens w' b = Pi.single h 1
  /-- A buffer from before is where it was, or it waited for an address and was sent. -/
  old : ∀ id, id < w.nextId → id ≠ b → Moved (tokens w id) (tokens w' id)
  /-- A buffer that was allocated on the way was given back once, or is in one queue. -/
  new : NoneLost w w'
  /-- No buffer was freed twice, or freed while it is queued. -/
  once : ∀ id, Settled w' id

theorem Receipt.ownerKept {closes : Prop} {w w' : World} {b : SkbId} {r : Bool}
    (h : Receipt closes b r w w') (hb : Given w b) (hw : Accounted w) :
    OwnerKept w b r w' ↔ ¬ closes ∧ NoneLost w w' := by
  constructor
  · intro hkept
    refine ⟨fun hcloses => ?_, hkept.new⟩
    obtain ⟨rfl, hspares⟩ := h.dropped hcloses
    rcases hkept.frame with ⟨hfalse, -⟩ | ⟨-, holder, hone⟩
    · cases hfalse
    · have hzero : tokens w' b = 0 := (hspares.given hb).live
      have hat := congrFun (hzero.symm.trans hone) holder
      rw [Pi.single_eq_same] at hat
      cases hat
  · rintro ⟨hno, hnew⟩
    have hhandled := h.kept hno
    refine ⟨?_, hhandled.old, hnew, (hhandled.accounted hw).settled⟩
    have houtcome := hhandled.outcome
    cases r with
    | true => exact Or.inr ⟨rfl, houtcome⟩
    | false => exact Or.inl ⟨rfl, houtcome⟩

/-- **Every buffer finds its one owner unless the frame ends a connection**, whose segment
`close_connection` forgets, or a reply of the node is not taken. -/
theorem pktReceive_owner_iff {w w' : World} (h : Reachable w) {i : IntfId} {frame : List UInt8}
    {r : Bool}
    (hrun : pktReceive (recvBuffer w.nextId i frame) (w.received i frame) = .ok r w') :
    OwnerKept (w.received i frame) w.nextId r w' ↔
      ¬ Closes (w.received i frame) (recvBuffer w.nextId i frame) ∧
        RepliesTaken (w.received i frame) (recvBuffer w.nextId i frame) := by
  have hw := h.accounted
  have hw1 := (received_spares hw.fresh i frame).accounted hw
  have hb := received_given hw.fresh i frame
  refine ((pktReceive_receipt hb hw1.settled hrun).ownerKept hb hw1).trans ?_
  exact and_congr_right fun hno => pktReceive_noneLost_iff (filled_recvBuffer _ _ _) hb hno hrun

/-- A segment that neither resets nor finishes ends no connection. -/
theorem not_closes {w : World} {skb : SkBuff} (hrst : skb.segment.tcpFlags.rst = false)
    (hfin : skb.segment.tcpFlags.fin = false) : ¬ Closes w skb := by
  rintro ⟨-, c, conn, -, -, -, -, hflag | hflag⟩
  · exact Bool.false_ne_true (hrst.symm.trans hflag)
  · exact Bool.false_ne_true (hfin.symm.trans hflag)

/-- A data segment of the peer is queued, and a SYN is answered: the answer waits for the
address of the peer, and the request for that is sent. -/
theorem pktReceive_owner_fixture :
    (∃ r w', pktReceive (recvBuffer Fixture.connected.nextId 0 (Fixture.tcpFrame 5 8 0x10 [1, 2]))
        (Fixture.connected.received 0 (Fixture.tcpFrame 5 8 0x10 [1, 2])) = .ok r w' ∧
      OwnerKept (Fixture.connected.received 0 (Fixture.tcpFrame 5 8 0x10 [1, 2]))
        Fixture.connected.nextId r w') ∧
    ∃ r w', pktReceive (recvBuffer (Fixture.after Fixture.listen).nextId 0
          (Fixture.tcpFrame 5 7 0x02 []))
        ((Fixture.after Fixture.listen).received 0 (Fixture.tcpFrame 5 7 0x02 [])) = .ok r w' ∧
      OwnerKept ((Fixture.after Fixture.listen).received 0 (Fixture.tcpFrame 5 7 0x02 []))
        (Fixture.after Fixture.listen).nextId r w' := by
  constructor
  · have hresult : (result (pktReceive (recvBuffer Fixture.connected.nextId 0
        (Fixture.tcpFrame 5 8 0x10 [1, 2])))
        (Fixture.connected.received 0 (Fixture.tcpFrame 5 8 0x10 [1, 2]))) = some true := by
      decide +kernel
    have hplain : (recvBuffer 0 0 (Fixture.tcpFrame 5 8 0x10 [1, 2])).segment.tcpFlags.rst = false ∧
        (recvBuffer 0 0 (Fixture.tcpFrame 5 8 0x10 [1, 2])).segment.tcpFlags.fin = false ∧
        (recvBuffer 0 0 (Fixture.tcpFrame 5 8 0x10 [1, 2])).segment.tcpFlags.syn = false ∧
        frameIntf (Fixture.connected.received 0 (Fixture.tcpFrame 5 8 0x10 [1, 2]))
          (recvBuffer 0 0 (Fixture.tcpFrame 5 8 0x10 [1, 2])) ethProtoArp = none := by
      decide +kernel
    have hreach := Fixture.connected_reachable
    generalize Fixture.connected = w at *
    have hrun := run_of_result hresult
    obtain ⟨hrst, hfin, hsyn, harp⟩ := hplain
    refine ⟨_, _, hrun, (pktReceive_owner_iff hreach hrun).mpr ⟨?_, ?_, ?_⟩⟩
    · exact not_closes hrst hfin
    · intro i intf hi hframe
      cases harp.symm.trans hframe
    · rintro - k sock ⟨-, -, -, -, hflag, -⟩
      exact absurd (hsyn.symm.trans hflag) Bool.false_ne_true
  · have hresult : (result (pktReceive (recvBuffer (Fixture.after Fixture.listen).nextId 0
        (Fixture.tcpFrame 5 7 0x02 [])))
        ((Fixture.after Fixture.listen).received 0 (Fixture.tcpFrame 5 7 0x02 []))) = some false := by
      decide +kernel
    have hplain : (recvBuffer 0 0 (Fixture.tcpFrame 5 7 0x02 [])).segment.tcpFlags.rst = false ∧
        (recvBuffer 0 0 (Fixture.tcpFrame 5 7 0x02 [])).segment.tcpFlags.fin = false ∧
        frameIntf ((Fixture.after Fixture.listen).received 0 (Fixture.tcpFrame 5 7 0x02 []))
          (recvBuffer 0 0 (Fixture.tcpFrame 5 7 0x02 [])) ethProtoArp = none := by
      decide +kernel
    -- the way to the peer
    have hway : ((rxSock ((Fixture.after Fixture.listen).received 0 (Fixture.tcpFrame 5 7 0x02 []))
        (recvBuffer 0 0 (Fixture.tcpFrame 5 7 0x02 []))).bind
          (Fixture.after Fixture.listen).tcpSock).any (fun sock =>
        (sock.intf.bind (Fixture.after Fixture.listen).intf).any fun intf =>
          (rtLookupLpm ((Fixture.after Fixture.listen).rtTable intf.node)
            (recvBuffer 0 0 (Fixture.tcpFrame 5 7 0x02 [])).ipPacket.srcIp).any fun rt =>
              sock.intf == some rt.intf && !isIpLocal (Fixture.after Fixture.listen) intf.node
                (recvBuffer 0 0 (Fixture.tcpFrame 5 7 0x02 [])).ipPacket.srcIp &&
              (Fixture.after Fixture.listen).accepts rt.intf) = true := by
      decide +kernel
    have hreach : Reachable (Fixture.after Fixture.listen) := Fixture.reachable_after _
    generalize Fixture.after Fixture.listen = w at *
    have hrun := run_of_result hresult
    obtain ⟨hrst, hfin, harp⟩ := hplain
    refine ⟨_, _, hrun, (pktReceive_owner_iff hreach hrun).mpr ⟨?_, ?_, ?_⟩⟩
    · exact not_closes hrst hfin
    · intro i intf hi hframe
      cases harp.symm.trans hframe
    · rintro - k sock ⟨hsock, hk, -⟩
      obtain ⟨sock', hsock', hway⟩ := (Option.any_eq_true _ _).mp hway
      have hsame : some sock' = some sock := by
        rw [← hsock', show rxSock _ (recvBuffer 0 0 (Fixture.tcpFrame 5 7 0x02 [])) = some k from hsock]
        exact hk
      obtain rfl := Option.some.inj hsame
      obtain ⟨intf, hintf, hway⟩ := (Option.any_eq_true _ _).mp hway
      obtain ⟨i, hi, hintf⟩ := Option.bind_eq_some_iff.mp hintf
      obtain ⟨rt, hrt, hway⟩ := (Option.any_eq_true _ _).mp hway
      simp only [Bool.and_eq_true, beq_iff_eq, Bool.not_eq_true'] at hway
      exact ⟨i, intf, hi, hintf, rt, hrt, hway.1.1, hway.1.2, Or.inr hway.2⟩

/-- **A reset is taken and never given back.** -/
theorem pktReceive_forgets_reset :
    Reachable Fixture.connected ∧
    ∃ w', pktReceive (recvBuffer Fixture.connected.nextId 0 (Fixture.tcpFrame 5 8 0x14 []))
        (Fixture.connected.received 0 (Fixture.tcpFrame 5 8 0x14 [])) = .ok true w' ∧
      tokens w' Fixture.connected.nextId = 0 ∧
      ¬ OwnerKept (Fixture.connected.received 0 (Fixture.tcpFrame 5 8 0x14 []))
        Fixture.connected.nextId true w' := by
  have hresult : (result (pktReceive (recvBuffer Fixture.connected.nextId 0
      (Fixture.tcpFrame 5 8 0x14 [])))
      (Fixture.connected.received 0 (Fixture.tcpFrame 5 8 0x14 []))) = some true := by
    decide +kernel
  have hconn : rxConn (Fixture.connected.received 0 (Fixture.tcpFrame 5 8 0x14 []))
      (recvBuffer Fixture.connected.nextId 0 (Fixture.tcpFrame 5 8 0x14 [])) = some 2 := by
    decide +kernel
  have hstate : ((Fixture.connected.received 0 (Fixture.tcpFrame 5 8 0x14 [])).tcpConn 2).any
      (fun conn => conn.state == .handleEstab && conn.rcv.nxt == 8) = true := by decide +kernel
  have hlocal : ((Fixture.connected.received 0 (Fixture.tcpFrame 5 8 0x14 [])).intf 0).any
      (fun intf => intf.isIpAddrConfig && isIpLocal
        (Fixture.connected.received 0 (Fixture.tcpFrame 5 8 0x14 [])) intf.node
        (recvBuffer 0 0 (Fixture.tcpFrame 5 8 0x14 [])).ipPacket.dstIp) = true := by decide +kernel
  have hframe : ethHdrSize ≤ (recvBuffer 0 0 (Fixture.tcpFrame 5 8 0x14 [])).len ∧
      isMacBroadcastAddr (MacAddr.load (recvBuffer 0 0 (Fixture.tcpFrame 5 8 0x14 [])).mem
        (recvBuffer 0 0 (Fixture.tcpFrame 5 8 0x14 [])).data) = true ∧
      ((recvBuffer 0 0 (Fixture.tcpFrame 5 8 0x14 [])).mem.load16
        ((recvBuffer 0 0 (Fixture.tcpFrame 5 8 0x14 [])).data + 12)).toNat = htons ethProtoIp.toNat ∧
      (recvBuffer 0 0 (Fixture.tcpFrame 5 8 0x14 [])).ipPacket.proto = ipProtoTcp ∧
      (recvBuffer 0 0 (Fixture.tcpFrame 5 8 0x14 [])).segment.tcpSeq = 8 ∧
      (recvBuffer 0 0 (Fixture.tcpFrame 5 8 0x14 [])).segment.tcpFlags.rst = true := by
    decide +kernel
  obtain ⟨hlen, hmac, htype, hproto, hseq, hrst⟩ := hframe
  have hreach := Fixture.connected_reachable
  generalize Fixture.connected = w at *
  have hrun := run_of_result hresult
  have hw := hreach.accounted
  have hw1 := (received_spares hw.fresh 0 (Fixture.tcpFrame 5 8 0x14 [])).accounted hw
  have hb := received_given hw.fresh 0 (Fixture.tcpFrame 5 8 0x14 [])
  have hreceipt := pktReceive_receipt hb hw1.settled hrun
  obtain ⟨conn, hc, hconn'⟩ := (Option.any_eq_true _ _).mp hstate
  obtain ⟨intf, hintf, hintf'⟩ := (Option.any_eq_true _ _).mp hlocal
  simp only [Bool.and_eq_true, beq_iff_eq] at hconn' hintf'
  have hcloses : Closes (w.received 0 (Fixture.tcpFrame 5 8 0x14 []))
      (recvBuffer w.nextId 0 (Fixture.tcpFrame 5 8 0x14 [])) := by
    refine ⟨⟨⟨0, intf, rfl, hintf, hintf'.1, hlen, ?_, htype, hintf'.2⟩, hproto⟩, 2, conn,
      hconn, hc, hconn'.1, ?_, Or.inl hrst⟩
    · rw [ethernetInputQualify, Bool.or_eq_true]
      exact Or.inr hmac
    · rw [hconn'.2]
      exact hseq
  refine ⟨hreach, _, hrun, ((hreceipt.dropped hcloses).2.given hb).live, fun hkept => ?_⟩
  exact ((hreceipt.ownerKept hb hw1).mp hkept).1 hcloses

end SimpleTcpip
