/-
From a call to the link.

Between `ip_input` or a send call and the link, the functions read headers, allocate and free
buffers, write the tables of the transport protocols, and in the end hand a packet to
`ip_postroute`, which hands it to a neighbour or back to `ip_input`.  A relation between states
that each of these steps respects is respected by all of the functions.  That is said once
here: what is left to show of such a relation is what handing a packet to a neighbour does.
-/
import SimpleTcpip.Proofs.Neighbour

namespace SimpleTcpip

open Fallible

/-- A relation that the steps between a call and the link respect. -/
structure Upheld (R : World → World → Prop) : Prop where
  refl : ∀ w, R w w
  trans : ∀ s t u, R s t → R t u → R s u
  /-- It ignores buffers, system calls and the trace. -/
  emits : ∀ {s t : World}, Emits (fun _ => True) s t → R s t
  /-- It ignores the tables of the transport protocols. -/
  tables : ∀ {s t : World}, t = { s with
    udpSock := t.udpSock, tcpSock := t.tcpSock, tcpConn := t.tcpConn } → R s t
  /-- Handing a packet to a neighbour respects it. -/
  neighbour : ∀ {w : World} {n : NodeId} {i : IntfId} {ip : UInt32} {skb : SkBuff},
    skb.intf = some i → (w.intf i).isSome → R w (final (ipNeighbourOutput n i ip skb) w)

section Upheld

variable {R : World → World → Prop} {α β : Type}

/-! ### Single steps -/

theorem Upheld.reads (h : Upheld R) {m : M α} (hm : Keeps Eq m) : Keeps R m :=
  keeps_of_eq h.refl hm

theorem Upheld.ret (h : Upheld R) (a : α) : Keeps R (pure a : M α) := keeps_pure h.refl a

theorem Upheld.seq (h : Upheld R) {x : M α} {f : α → M β} (hx : Keeps R x)
    (hf : ∀ a, Keeps R (f a)) : Keeps R (x >>= f) := keeps_bind h.trans hx hf

theorem Upheld.step (h : Upheld R) {m : M α} (hm : Keeps (Emits fun _ => True) m) : Keeps R m :=
  fun w => h.emits (hm w)

theorem Upheld.log (h : Upheld R) (e : Event) : Keeps R (log e) := h.step (log_emits trivial)

theorem Upheld.freeSkb (h : Upheld R) (skb : SkBuff) : Keeps R (freeSkb skb) := h.log _

theorem Upheld.allocSkb (h : Upheld R) (size : Nat) : Keeps R (allocSkb size) :=
  h.step (allocSkb_emits (fun _ _ => trivial) size)

theorem Upheld.allocId (h : Upheld R) : Keeps R allocId :=
  fun w => h.emits ⟨rfl, Nat.le_succ w.nextId, [], (List.append_nil _).symm, by simp⟩

theorem Upheld.setUdpSock (h : Upheld R) (k : SockId) (sock : UdpSock) :
    Keeps R (setUdpSock k sock) := keeps_modify fun _ => h.tables rfl

theorem Upheld.setTcpSock (h : Upheld R) (k : SockId) (sock : TcpSock) :
    Keeps R (setTcpSock k sock) := keeps_modify fun _ => h.tables rfl

theorem Upheld.setTcpConn (h : Upheld R) (c : ConnId) (conn : TcpConnectionSock) :
    Keeps R (setTcpConn c conn) := keeps_modify fun _ => h.tables rfl

theorem Upheld.followIpHdr (h : Upheld R) (skb : SkBuff) : Keeps R (followIpHdr skb) := by
  refine h.seq (h.log _) fun _ => ?_
  cases skb.ipHdr with
  | some p => exact h.ret p
  | none => exact h.reads (throw_reads _)

/-! ### The output path -/

section Functions

variable {ipInput : SkBuff → M Bool}

/-- A packet goes to a neighbour through the interface of its route, or back to the node. -/
theorem Upheld.ipPostroute (h : Upheld R) (hin : ∀ skb, Keeps R (ipInput skb)) (n : NodeId)
    (skb : SkBuff) : Keeps R (ipPostroute ipInput n skb) := by
  refine h.seq (h.reads (readU32_reads _ _)) fun dstIp => ?_
  refine h.seq (h.reads get_reads) fun w => ?_
  cases rtLookupLpm (w.rtTable n) dstIp with
  | none => exact h.ret _
  | some rt =>
      refine keeps_ite (h.ret _) fun t => ?_
      refine final_bind_rel h.trans (h.reads (derefIntf_reads _) t) fun out t' ht' => ?_
      obtain ⟨hout, rfl⟩ := derefIntf_ok.mp ht'
      refine final_bind_rel h.trans (h.reads (fillIpHcksum_reads _ _) t') fun s u hu => ?_
      obtain ⟨-, -, rfl, rfl⟩ := fillIpHcksum_ok.mp hu
      refine final_bind_rel h.trans (h.reads get_reads u) fun v v' hv => ?_
      cases hv
      refine final_ite_rel (fun _ => hin _ _) fun _ => h.neighbour rfl ?_
      rw [hout]
      rfl

theorem Upheld.ipOutput (h : Upheld R) (hin : ∀ skb, Keeps R (ipInput skb)) (n : NodeId)
    (ip : UInt32) (proto : UInt8) (skb : SkBuff) : Keeps R (ipOutput ipInput n ip proto skb) := by
  refine h.seq (h.log _) fun _ => h.seq (h.reads (skbPush_reads _ _)) fun s => ?_
  exact h.ipPostroute hin n _

theorem Upheld.icmpOut (h : Upheld R) (hin : ∀ skb, Keeps R (ipInput skb)) (n : NodeId)
    (ip : UInt32) (type code : UInt8) (payload : List UInt8) :
    Keeps R (icmpOut ipInput n ip type code payload) := by
  refine h.seq (h.allocSkb _) fun s => h.seq (h.reads (skbReserve_reads _ _)) fun s => ?_
  refine h.seq (h.reads (skbPut_reads _ _)) fun s => ?_
  refine h.seq (h.ipOutput hin n ip ipProtoIcmp _) fun sent => ?_
  exact keeps_ite (h.ret _) (h.seq (h.freeSkb _) fun _ => h.ret _)

theorem Upheld.udpOut (h : Upheld R) (hin : ∀ skb, Keeps R (ipInput skb)) (sock : UdpSock)
    (buff : List UInt8) (ip : UInt32) (port : UInt16) :
    Keeps R (udpOut ipInput sock buff ip port) := by
  refine h.seq (h.allocSkb _) fun s => h.seq (h.reads (skbReserve_reads _ _)) fun s => ?_
  refine h.seq (h.reads (skbPut_reads _ _)) fun s => h.seq (h.reads (skbPut_reads _ _)) fun s => ?_
  refine h.seq (h.reads (derefIntfPtr_reads _)) fun intf => ?_
  exact h.ipOutput hin _ _ _ _

theorem Upheld.tcpOut (h : Upheld R) (hin : ∀ skb, Keeps R (ipInput skb)) (c : ConnId)
    (buff : List UInt8) (flags : TcpFlags) : Keeps R (tcpOut ipInput c buff flags) := by
  refine h.seq (h.reads (derefTcpConn_reads c)) fun conn => h.seq (h.allocSkb _) fun s => ?_
  refine h.seq (h.reads (derefTcpSock_reads _)) fun parent => ?_
  refine h.seq (h.reads (skbReserve_reads _ _)) fun s => ?_
  refine h.seq (h.reads (skbPut_reads _ _)) fun s => keeps_ite (h.ret _) ?_
  refine h.seq (h.reads (skbPut_reads _ _)) fun s => h.seq (h.setTcpConn c _) fun _ => ?_
  exact h.seq (h.reads (derefIntfPtr_reads _)) fun intf => h.ipOutput hin _ _ _ _

theorem Upheld.udpSendto (h : Upheld R) (hin : ∀ skb, Keeps R (ipInput skb)) (sockfd : Int)
    (buff : List UInt8) (ip : UInt32) (port : UInt16) :
    Keeps R (udpSendto ipInput sockfd buff ip port) := by
  refine h.seq (h.reads get_reads) fun w => ?_
  cases goodUdpSock w sockfd with
  | none => exact h.ret _
  | some k =>
      refine h.seq (h.reads (derefUdpSock_reads k)) fun sock => keeps_ite (h.ret _) ?_
      exact h.seq (h.udpOut hin _ _ _ _) fun _ => h.ret _

theorem Upheld.tcpSend (h : Upheld R) (hin : ∀ skb, Keeps R (ipInput skb)) (connfd : Int)
    (buff : List UInt8) : Keeps R (tcpSend ipInput connfd buff) := by
  refine h.seq (h.reads get_reads) fun w => ?_
  cases goodTcpConnectionSock w connfd with
  | none => exact h.ret _
  | some c =>
      refine h.seq (h.reads (derefTcpConn_reads c)) fun conn => keeps_ite (h.ret _) ?_
      exact h.seq (h.tcpOut hin _ _ _) fun _ => h.ret _

/-! ### Local delivery -/

theorem Upheld.icmpInput (h : Upheld R) (hin : ∀ skb, Keeps R (ipInput skb)) (skb : SkBuff) :
    Keeps R (icmpInput ipInput skb) := by
  refine keeps_ite (h.ret _) ?_
  refine h.seq (h.reads (readU8_reads _ _)) fun type => ?_
  refine h.seq (h.reads (readU8_reads _ _)) fun code => keeps_ite ?_ ?_
  · refine h.seq (h.reads (derefIntfPtr_reads _)) fun intf => ?_
    refine h.seq (h.followIpHdr skb) fun iph => h.seq (h.reads (readU32_reads _ _)) fun src => ?_
    refine h.seq (h.icmpOut hin _ _ _ _ _) fun _ => ?_
    exact h.seq (h.freeSkb skb) fun _ => h.ret _
  · exact h.seq (h.freeSkb skb) fun _ => h.ret _

theorem Upheld.udpInput (h : Upheld R) (skb : SkBuff) : Keeps R (udpInput skb) := by
  unfold SimpleTcpip.udpInput
  cases skb.intf with
  | none => exact h.reads (throw_reads _)
  | some i =>
      refine h.seq (h.reads (readU16_reads _ _)) fun dstPort => ?_
      refine h.seq (h.reads get_reads) fun w => ?_
      cases udpSocksManagerFind w i (UInt16.ofNat (ntohs dstPort.toNat)) with
      | none => exact h.ret _
      | some k =>
          refine h.seq (h.reads (skbPull_reads _ _)) fun s => ?_
          refine h.seq (h.reads (derefUdpSock_reads k)) fun sock => ?_
          exact h.seq (h.setUdpSock k _) fun _ => h.ret _

theorem Upheld.closeConnection (h : Upheld R) (hin : ∀ skb, Keeps R (ipInput skb)) (c : ConnId) :
    Keeps R (closeConnection ipInput c) := by
  refine h.seq (h.tcpOut hin c [] .ackRst) fun _ => ?_
  refine h.seq (h.reads (derefTcpConn_reads c)) fun conn => ?_
  refine h.seq (h.reads (derefTcpSock_reads _)) fun parent => ?_
  exact h.seq (h.setTcpSock _ _) fun _ => h.ret _

theorem Upheld.handleSynSent (h : Upheld R) (c : ConnId) (skb : SkBuff) :
    Keeps R (handleSynSent c skb) := by
  refine h.seq (h.reads (readTcpFlags_reads _ _)) fun flags => keeps_ite ?_ (h.ret _)
  refine h.seq (h.reads (readTcpSeq_reads _ _)) fun seq => ?_
  refine h.seq (h.reads (derefTcpConn_reads c)) fun conn => keeps_ite ?_ (h.ret _)
  exact h.seq (h.setTcpConn c _) fun _ => h.ret _

theorem Upheld.handleEstab (h : Upheld R) (hin : ∀ skb, Keeps R (ipInput skb)) (c : ConnId)
    (skb : SkBuff) : Keeps R (handleEstab ipInput c skb) := by
  refine h.seq (h.reads (readTcpSeq_reads _ _)) fun seq => ?_
  refine h.seq (h.reads (derefTcpConn_reads c)) fun conn => keeps_ite ?_ (h.ret _)
  refine h.seq (h.reads (readTcpFlags_reads _ _)) fun flags => ?_
  refine keeps_ite (h.closeConnection hin c) (keeps_ite ?_ ?_)
  · exact h.seq (h.setTcpConn c _) fun _ => h.closeConnection hin c
  · refine h.seq (h.reads (skbPull_reads _ _)) fun s => ?_
    exact h.seq (h.setTcpConn c _) fun _ => h.ret _

theorem Upheld.handleNewConnection (h : Upheld R) (hin : ∀ skb, Keeps R (ipInput skb)) (k : SockId)
    (skb : SkBuff) : Keeps R (handleNewConnection ipInput k skb) := by
  refine h.seq h.allocId fun c => h.seq (h.followIpHdr skb) fun iph => ?_
  refine h.seq (h.reads (readU32_reads _ _)) fun remoteIp => ?_
  refine h.seq (h.reads (readU16_reads _ _)) fun srcPort => ?_
  refine h.seq (h.reads (readU16_reads _ _)) fun wndSz => ?_
  refine h.seq (h.reads (readU32_reads _ _)) fun seq => h.seq (h.setTcpConn c _) fun _ => ?_
  refine h.seq (h.reads (derefTcpSock_reads k)) fun sock => h.seq (h.setTcpSock k _) fun _ => ?_
  exact h.seq (h.tcpOut hin c [] .synAck) fun _ => h.ret _

theorem Upheld.tcpSockInput (h : Upheld R) (hin : ∀ skb, Keeps R (ipInput skb)) (k : SockId)
    (skb : SkBuff) : Keeps R (tcpSockInput ipInput k skb) := by
  refine h.seq (h.reads (derefTcpSock_reads k)) fun sock => h.seq (h.followIpHdr skb) fun iph => ?_
  refine h.seq (h.reads (readU32_reads _ _)) fun srcIp => ?_
  refine h.seq (h.reads (readU16_reads _ _)) fun srcPort => h.seq (h.reads get_reads) fun w => ?_
  cases findMatchingConnection w sock srcIp (UInt16.ofNat (ntohs srcPort.toNat)) with
  | some c =>
      refine h.seq (h.reads (derefTcpConn_reads c)) fun conn => ?_
      cases conn.state with
      | handleSynSent => exact h.handleSynSent c skb
      | handleEstab => exact h.handleEstab hin c skb
  | none =>
      refine keeps_ite (h.seq (h.reads (readTcpFlags_reads _ _)) fun flags => ?_) (h.ret _)
      exact keeps_ite (h.handleNewConnection hin k skb) (h.ret _)

theorem Upheld.tcpInput (h : Upheld R) (hin : ∀ skb, Keeps R (ipInput skb)) (skb : SkBuff) :
    Keeps R (tcpInput ipInput skb) := by
  unfold SimpleTcpip.tcpInput
  cases skb.intf with
  | none => exact h.reads (throw_reads _)
  | some i =>
      refine h.seq (h.reads (readU16_reads _ _)) fun dstPort => h.seq (h.reads get_reads) fun w => ?_
      cases tcpSocksManagerFind w i (UInt16.ofNat (ntohs dstPort.toNat)) with
      | none => exact h.ret _
      | some k => exact h.tcpSockInput hin k skb

end Functions

/-- **Local delivery**, however deep the node answers itself. -/
theorem Upheld.ipInput (h : Upheld R) (depth : Nat) (skb : SkBuff) :
    Keeps R (ipInputDepth depth skb) := by
  induction depth generalizing skb with
  | zero => exact h.reads (throw_reads _)
  | succ depth ih =>
      refine h.seq (h.reads (readU8_reads _ _)) fun proto => ?_
      have hpull : ∀ handler : SkBuff → M Bool, (∀ s, Keeps R (handler s)) →
          Keeps R (do
            let skb ← skbPull skb ipHdrSize
            SimpleTcpip.log (.transport proto skb)
            handler skb) := fun handler hhandler =>
        h.seq (h.reads (skbPull_reads _ _)) fun s => h.seq (h.log _) fun _ => hhandler s
      refine keeps_ite (hpull _ fun s => h.icmpInput ih s) ?_
      refine keeps_ite (hpull _ fun s => h.tcpInput ih s) ?_
      exact keeps_ite (hpull _ fun s => h.udpInput s) (h.ret _)

/-- **Forwarding.** -/
theorem Upheld.ipForward (h : Upheld R) (skb : SkBuff) : Keeps R (ipForward skb) := by
  refine h.seq (h.reads get_reads) fun w => keeps_ite (h.ret _) ?_
  refine h.seq (h.reads (readU8_reads _ _)) fun ttl => keeps_ite (h.ret _) (keeps_ite (h.ret _) ?_)
  refine h.seq (h.reads (derefIntfPtr_reads _)) fun intf => ?_
  exact h.ipPostroute (h.ipInput callDepth) _ _

/-- **A received packet.** -/
theorem Upheld.ipPreroute (h : Upheld R) (skb : SkBuff) : Keeps R (ipPreroute skb) := by
  refine h.seq (h.reads (derefIntfPtr_reads _)) fun intf => ?_
  refine h.seq (h.reads (readU32_reads _ _)) fun dstIp => h.seq (h.reads get_reads) fun w => ?_
  exact keeps_ite (h.ipInput callDepth skb) (h.ipForward skb)

end Upheld

end SimpleTcpip
