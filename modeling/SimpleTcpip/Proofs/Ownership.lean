/-
Who frees a received buffer.

The functions below `pkt_receive` keep the contract of `Takes`, from the link up: a
function that hands a buffer on returns what it was told, and one that keeps it returns
true.  `close_connection` is the exception.  Its result is true, and neither it nor
`handle_estab` has done anything with the segment.
-/
import SimpleTcpip.Proofs.Calls
import SimpleTcpip.Proofs.Frame
import SimpleTcpip.Proofs.Ways
import SimpleTcpip.Proofs.Tokens

namespace SimpleTcpip

open Fallible Relation

/-! ### The output path -/

section OutputPath

variable {w w' : World} {skb : SkBuff} {b : SkbId} {r : Bool}

theorem ethernetOutput_takes {i : IntfId} {mac : MacAddr} {proto : UInt16} (hid : skb.id = b)
    (hb : Given w b) (hrun : ethernetOutput i mac proto skb w = .ok r w') : Takes b r w w' := by
  subst hid
  have hemits := (ethernetOutput_emits (P := fun _ => True) (fun _ _ => trivial) trivial).ok hrun
  obtain ⟨es, hes, hcount⟩ := ethernetOutput_frees hrun
  have hconns : ∀ c, w'.nextId ≤ c → w'.tcpConn c = none := fun c hc => by
    rw [hemits.tcpConn]
    exact hb.fresh.conns c (Nat.le_trans hemits.nextId hc)
  cases r with
  | true =>
      refine .of_tokens hb .freed hemits.nextId (fun id => ?_) hconns
      rw [tokens_of_queues hemits.arpTable hemits.udpSock hemits.tcpConn hes, hcount]
      simp only [true_and]
  | false =>
      refine .refused hb (.of_queues hb.fresh hemits.nextId hemits.arpTable hemits.udpSock
        hemits.tcpConn hes fun id => ?_)
      rw [hcount]
      simp

theorem freeSkbIf_settled {c : Bool} {u : Unit} (hid : skb.id = b) (hb : Given w b)
    (hrun : freeSkbIf c skb w = .ok u w') : Spares (· = b) w w' ∧ Settled w' b := by
  subst hid
  cases c with
  | true =>
      obtain rfl := freeSkb_ok.mp hrun
      exact ⟨(Takes.freed skb hb).spares, (Takes.freed skb hb).settled⟩
  | false =>
      cases hrun
      exact ⟨.refl hb.fresh fun _ hid => hid ▸ hb.allocated, Or.inl hb.live⟩

theorem fillArpHdr_id (s : SkBuff) (hdr opcode : Nat) (hw tw : MacAddr) (ip target : UInt32) :
    (fillArpHdr s hdr opcode hw ip tw target).id = s.id := by
  simp only [fillArpHdr, SkBuff.store8, SkBuff.store16, SkBuff.store32, SkBuff.copyIn]

/-- The buffer of an ARP message. -/
theorem allocArpSkb_given (hw : Fresh w) (hrun : allocArpSkb w = .ok skb w') :
    skb.id = w.nextId ∧ w'.nextId = w.nextId + 1 ∧ (∀ id, tokens w' id = tokens w id) ∧
      Given w' skb.id := by
  obtain ⟨s, w1, h1, hrest⟩ := bind_ok_iff.mp hrun
  obtain ⟨hid, -, hnext, htokens, hgiven⟩ := allocSkb_given hw h1
  obtain ⟨s', h2, hpush⟩ := bind_ok_of_eq (skbReserve_reads _ _) hrest
  obtain ⟨-, rfl, -⟩ := skbReserve_ok.mp h2
  obtain ⟨-, rfl, rfl⟩ := skbPush_ok.mp hpush
  exact ⟨hid, hnext, htokens, hid ▸ hgiven⟩

theorem sendArpBroadcastRequest_spares {i : IntfId} {ip : UInt32} {u : Unit} (hw : Fresh w)
    (hrun : sendArpBroadcastRequest i ip w = .ok u w') : SparesAll w w' := by
  obtain ⟨s, w1, h1, hrest⟩ := bind_ok_iff.mp hrun
  obtain ⟨hid, hnext, htokens, hgiven⟩ := allocArpSkb_given hw h1
  obtain ⟨intf, -, hrest⟩ := bind_ok_of_eq (derefIntf_reads i) hrest
  obtain ⟨ok, w2, h2, hfree⟩ := bind_ok_iff.mp hrest
  have htakes : Takes s.id ok w1 w2 := ethernetOutput_takes (fillArpHdr_id ..) hgiven h2
  cases ok with
  | true =>
      cases hfree
      exact .of_alloc hnext htokens (hid ▸ htakes.spares) (hid ▸ htakes.settled)
  | false =>
      have hgiven2 : Given w2 s.id :=
        ⟨htakes.spares.fresh, Nat.lt_of_lt_of_le hgiven.allocated htakes.spares.nextId, htakes.outcome⟩
      obtain ⟨hspares, hsettled⟩ :=
        freeSkbIf_settled (fillArpHdr_id ..) hgiven2 hfree
      exact .of_alloc hnext htokens
        (hid ▸ .trans (fun _ h => h ▸ hgiven.allocated) htakes.spares hspares) (hid ▸ hsettled)

theorem sendArpReplyMsg_spares {i : IntfId} {req : SkBuff} {shdr : Nat} {u : Unit} (hw : Fresh w)
    (hrun : sendArpReplyMsg i req shdr w = .ok u w') : SparesAll w w' := by
  obtain ⟨s, w1, h1, hrest⟩ := bind_ok_iff.mp hrun
  obtain ⟨hid, hnext, htokens, hgiven⟩ := allocArpSkb_given hw h1
  obtain ⟨intf, -, hrest⟩ := bind_ok_of_eq (derefIntf_reads i) hrest
  obtain ⟨mac, -, hrest⟩ := bind_ok_of_eq (readMac_reads _ _) hrest
  obtain ⟨ip, -, hrest⟩ := bind_ok_of_eq (readU32_reads _ _) hrest
  obtain ⟨ok, w2, h2, hdone⟩ := bind_ok_iff.mp hrest
  cases hdone
  have htakes : Takes s.id ok w1 w' := ethernetOutput_takes (fillArpHdr_id ..) hgiven h2
  exact .of_alloc hnext htokens (hid ▸ htakes.spares) (hid ▸ htakes.settled)

theorem ipNeighbourOutput_takes {n : NodeId} {i : IntfId} {ip : UInt32} (hid : skb.id = b)
    (hb : Given w b) (hrun : ipNeighbourOutput n i ip skb w = .ok r w') : Takes b r w w' := by
  subst hid
  by_cases hwait : Unresolved (w.arpTable n) ip
  · rw [ipNeighbourOutput_unresolved hwait] at hrun
    obtain ⟨_, w1, h1, hdone⟩ := bind_ok_iff.mp hrun
    cases hdone
    have hpark : Takes skb.id true w (w.parked n ip i skb) :=
      .of_tokens hb (.arp n) (Nat.le_refl _) (fun _ => tokens_parked n ip i skb) hb.fresh.conns
    exact hpark.before hb (sendArpBroadcastRequest_spares hpark.spares.fresh h1)
  · unfold Unresolved at hwait
    push Not at hwait
    obtain ⟨entry, hlook, hres⟩ := hwait
    rw [ipNeighbourOutput_resolved hlook (Bool.not_eq_false _ ▸ hres)] at hrun
    exact ethernetOutput_takes rfl hb hrun

variable {ipInput : SkBuff → M Bool}

/-- A packet for the node itself is as good as its local delivery. -/
theorem ipPostroute_takes {n : NodeId} (hid : skb.id = b) (hb : Given w b)
    (hin : ∀ s : SkBuff, s.id = b → s.ipHdr = skb.ipHdr → isIpLocal w n skb.dstIp = true →
      ipInput s w = .ok r w' → Takes b r w w')
    (hrun : ipPostroute ipInput n skb w = .ok r w') : Takes b r w w' := by
  cases ipPostroute_ok hrun with
  | unrouted hrt => exact .refused hb (.refl hb.fresh fun _ hf => hf.elim)
  | otherIntf hrt hintf => exact .refused hb (.refl hb.fresh fun _ hf => hf.elim)
  | @looped rt out _ _ hrt hintf hout hlocal hloop =>
      exact hin (skb.routed rt.intf out.ipAddr) hid (routed_ipHdr ..) hlocal hloop
  | sent hrt hintf hout hlocal hsend => exact ipNeighbourOutput_takes (by exact hid) hb hsend

end OutputPath

/-! ### Local delivery of the node's own packets -/

section Looped

variable {w w' : World} {skb : SkBuff} {b : SkbId} {r : Bool}

theorem tokens_queued {k : SockId} {sock : UdpSock} (hsock : w.udpSock k = some sock) (id : SkbId) :
    tokens (w.queued k sock skb) id
      = tokens w id + Pi.single (.udp k) (if skb.id = id then 1 else 0) := by
  have hudp : (w.queued k sock skb).udpSock = Function.update w.udpSock k (some { sock with
      rxSkb := { skb with udpHdr := some skb.data }.pulled udpHdrSize :: sock.rxSkb }) := rfl
  refine tokens_udp hsock ?_ ?_ hudp ?_ (idCount_cons _ _ id) <;> rfl

theorem UdpInput.takes (h : UdpInput w skb r w') (hid : skb.id = b) (hb : Given w b) :
    Takes b r w w' := by
  cases h with
  | refused hi hk => exact .refused hb (.refl hb.fresh fun _ hf => hf.elim)
  | @queued i k sock hi hk hsock =>
      refine .of_tokens hb (.udp k) (Nat.le_refl _) (fun id => ?_) hb.fresh.conns
      subst hid
      exact tokens_queued hsock id

/-- **`udp_input` of any packet.** -/
theorem udpInput_takes (hid : skb.id = b) (hb : Given w b) (hrun : udpInput skb w = .ok r w') :
    Takes b r w w' := (udpInput_ok hrun).takes hid hb

/-- **Local delivery of a packet the node sent itself.** -/
theorem ipInput_looped_takes {depth : Nat} (h : skb.ipHdr = none) (hid : skb.id = b)
    (hb : Given w b) (hrun : ipInputDepth depth skb w = .ok r w') : Takes b r w w' := by
  have hloops : SparesAll w (w.loops skb) := log_spares hb.fresh fun _ => rfl
  cases ipInput_looped_ok h hrun with
  | unknown hicmp hudp => exact .refused hb (.refl hb.fresh fun _ hf => hf.elim)
  | tcp hproto => exact .refused hb hloops
  | short hproto hlen => exact .refused hb hloops
  | freed hproto hlen =>
      subst hid
      exact .after hloops hb (.freed (skb.pulled ipHdrSize) (hloops.given hb))
  | udp hproto hudp => exact .after hloops hb (hudp.takes hid (hloops.given hb))

/-- **`ip_output` of a buffer the node made itself.** -/
theorem ipOutput_takes {depth : Nat} {n : NodeId} {ip : UInt32} {proto : UInt8}
    (h : skb.ipHdr = none) (hid : skb.id = b) (hb : Given w b)
    (hrun : ipOutput (ipInputDepth depth) n ip proto skb w = .ok r w') : Takes b r w w' := by
  obtain ⟨_, w1, h1, hrest⟩ := bind_ok_iff.mp hrun
  rw [log_ok] at h1
  have hlog : SparesAll w w1 := h1 ▸ log_spares hb.fresh fun _ => rfl
  obtain ⟨s, hpush, hpost⟩ := bind_ok_of_eq (skbPush_reads _ _) hrest
  obtain ⟨-, rfl, -⟩ := skbPush_ok.mp hpush
  have hgiven := hlog.given hb
  refine .after hlog hb (ipPostroute_takes (by exact hid) hgiven
    (fun s hs hhdr _ hin => ?_) hpost)
  exact ipInput_looped_takes (hhdr.trans h) hs hgiven hin

end Looped

/-! ### The senders -/

section Senders

variable {w w' : World} {depth : Nat} {r : Bool}

/-- A buffer a call allocates and hands to `ip_output` is no other buffer's concern. -/
theorem ipOutput_spares {size : Nat} {skb s : SkBuff} {w₁ : World} {n : NodeId} {ip : UInt32}
    {proto : UInt8} (hw : Fresh w) (halloc : allocSkb size w = .ok skb w₁) (hid : s.id = skb.id)
    (hhdr : s.ipHdr = none) {w₂ : World} (hspares : SparesAll w₁ w₂)
    (hrun : ipOutput (ipInputDepth depth) n ip proto s w₂ = .ok r w') :
    SparesAll w w' ∧ Takes skb.id r w₁ w' := by
  obtain ⟨hskb, -, hnext, htokens, hgiven⟩ := allocSkb_given hw halloc
  rw [← hskb] at hgiven
  have htakes : Takes skb.id r w₁ w' :=
    .after hspares hgiven (ipOutput_takes hhdr hid (hspares.given hgiven) hrun)
  exact ⟨.of_alloc hnext htokens (hskb ▸ htakes.spares) (hskb ▸ htakes.settled), htakes⟩

theorem icmpOut_spares {n : NodeId} {ip : UInt32} {type code : UInt8} {payload : List UInt8}
    (hw : Fresh w) (hrun : icmpOut (ipInputDepth depth) n ip type code payload w = .ok r w') :
    SparesAll w w' := by
  obtain ⟨skb, w1, h1, hrest⟩ := bind_ok_iff.mp hrun
  obtain ⟨s, hs, hrest⟩ := bind_ok_of_eq (skbReserve_reads _ _) hrest
  obtain ⟨-, rfl, -⟩ := skbReserve_ok.mp hs
  obtain ⟨s, hs, hrest⟩ := bind_ok_of_eq (skbPut_reads _ _) hrest
  obtain ⟨-, rfl, -⟩ := skbPut_ok.mp hs
  obtain ⟨sent, w2, h2, hrest⟩ := bind_ok_iff.mp hrest
  obtain ⟨hskb, hhdr, hnext, htokens, hgiven⟩ := allocSkb_given hw h1
  have hsend := fun hid hhdr => ipOutput_spares hw h1 hid hhdr
    (Spares.refl hgiven.fresh fun _ hf => hf.elim) h2
  obtain ⟨hspares, htakes⟩ := hsend rfl hhdr
  split at hrest
  · cases hrest
    exact hspares
  · rename_i hsent
    obtain rfl : sent = false := by simpa using hsent
    obtain ⟨_, w3, h3, hdone⟩ := bind_ok_iff.mp hrest
    cases hdone
    rw [← hskb] at hgiven
    have hgiven2 : Given w2 skb.id :=
      ⟨htakes.spares.fresh, Nat.lt_of_lt_of_le hgiven.allocated htakes.spares.nextId, htakes.outcome⟩
    have hfree := fun hid => freeSkbIf_settled (c := true) hid hgiven2 h3
    obtain ⟨hfree, hsettled⟩ := hfree rfl
    exact .of_alloc hnext htokens
      (hskb ▸ .trans (fun _ h => h ▸ hgiven.allocated) htakes.spares hfree) (hskb ▸ hsettled)

theorem udpOut_spares {sock : UdpSock} {buff : List UInt8} {ip : UInt32} {port : UInt16}
    (hw : Fresh w) (hrun : udpOut (ipInputDepth depth) sock buff ip port w = .ok r w') :
    SparesAll w w' := by
  obtain ⟨skb, w1, h1, hrest⟩ := bind_ok_iff.mp hrun
  obtain ⟨s, hs, hrest⟩ := bind_ok_of_eq (skbReserve_reads _ _) hrest
  obtain ⟨-, rfl, -⟩ := skbReserve_ok.mp hs
  obtain ⟨s, hs, hrest⟩ := bind_ok_of_eq (skbPut_reads _ _) hrest
  obtain ⟨-, rfl, -⟩ := skbPut_ok.mp hs
  obtain ⟨s, hs, hrest⟩ := bind_ok_of_eq (skbPut_reads _ _) hrest
  obtain ⟨-, rfl, -⟩ := skbPut_ok.mp hs
  obtain ⟨intf, -, hout⟩ := bind_ok_of_eq (derefIntfPtr_reads _) hrest
  obtain ⟨-, hhdr, -, -, hgiven⟩ := allocSkb_given hw h1
  have hsend := fun hid hhdr => ipOutput_spares hw h1 hid hhdr
    (Spares.refl hgiven.fresh fun _ hf => hf.elim) hout
  exact (hsend rfl hhdr).1

/-- `tcp_out` forgets the buffer of a segment that does not fit, and spares all others. -/
theorem tcpOut_spares {c : ConnId} {buff : List UInt8} {flags : TcpFlags} (hw : Fresh w)
    (hrun : tcpOut (ipInputDepth depth) c buff flags w = .ok r w') : SparesAll w w' := by
  cases hconn : w.tcpConn c with
  | none =>
      obtain ⟨conn, h1, -⟩ := bind_ok_of_eq (derefTcpConn_reads c) hrun
      rw [derefTcpConn_ok, hconn] at h1
      cases h1.1
  | some conn =>
      obtain ⟨parent, hparent⟩ := tcpOut_parent hconn hrun
      rw [tcpOut_run hconn hparent] at hrun
      have halloc : allocSkb (buffHeadroom + buffTailroom + tcpHdrSize + buff.length) w
          = .ok (freshSkb w.nextId (buffHeadroom + buffTailroom + tcpHdrSize + buff.length))
            w.allocated := allocSkb_ok.mpr ⟨rfl, rfl⟩
      obtain ⟨-, -, hnext, htokens, hgiven⟩ := allocSkb_given hw halloc
      split at hrun
      · cases hrun
        exact .of_alloc hnext htokens (.refl hgiven.fresh fun _ h => h ▸ hgiven.allocated)
          (Or.inl hgiven.live)
      · obtain ⟨intf, -, hout⟩ := bind_ok_of_eq (derefIntfPtr_reads _) hrun
        have hset : SparesAll w.allocated (w.segmented c conn buff.length flags) :=
          .of_conn hgiven.fresh hconn rfl
        exact (ipOutput_spares hw halloc (tcpSegment_id ..) (tcpSegment_ipHdr ..) hset hout).1

end Senders

/-! ### The transport protocols -/

/-- What the receive path did with its buffer, when `closes` says that the frame ends a
connection: then nothing, although it returns true. -/
structure Result (closes : Prop) (b : SkbId) (r : Bool) (w w' : World) : Prop where
  dropped : closes → r = true ∧ SparesAll w w'
  kept : ¬ closes → Takes b r w w'

namespace Result

variable {closes : Prop} {b : SkbId} {r : Bool} {w w' w'' : World}

theorem of_takes (hno : ¬ closes) (h : Takes b r w w') : Result closes b r w w' :=
  ⟨fun h => absurd h hno, fun _ => h⟩

/-- Something else happens first. -/
theorem after (h : SparesAll w w') (hb : Given w b) (h' : Result closes b r w' w'') :
    Result closes b r w w'' :=
  ⟨fun hc => ⟨(h'.dropped hc).1, h.trans (h'.dropped hc).2⟩, fun hno => .after h hb (h'.kept hno)⟩

theorem congr {closes' : Prop} (hiff : closes ↔ closes') (h : Result closes b r w w') :
    Result closes' b r w w' :=
  ⟨fun hc => h.dropped (hiff.mpr hc), fun hno => h.kept fun hc => hno (hiff.mp hc)⟩

end Result

/-- The segment is the next one in order and ends the connection. -/
def InOrderClose (conn : TcpConnectionSock) (s : SkBuff) : Prop :=
  s.tcpSeq = conn.rcv.nxt ∧ (s.tcpFlags.rst = true ∨ s.tcpFlags.fin = true)

/-- A received packet ends an established connection, if `tcp_input` gets it. -/
def ClosesConn (w : World) (skb : SkBuff) : Prop :=
  ∃ c conn, rxConn w skb = some c ∧ w.tcpConn c = some conn ∧ conn.state = .handleEstab ∧
    InOrderClose conn skb.segment

section Transport

variable {w w' : World} {skb : SkBuff} {b : SkbId} {depth : Nat} {r : Bool}

theorem refused_takes (hb : Given w b) (hrun : (pure false : M Bool) w = .ok r w') :
    Takes b r w w' := by
  cases hrun
  exact .refused hb (.refl hb.fresh fun _ hf => hf.elim)

theorem icmpInput_takes (hid : skb.id = b) (hb : Given w b)
    (hrun : icmpInput (ipInputDepth depth) skb w = .ok r w') : Takes b r w w' := by
  unfold icmpInput at hrun
  split at hrun
  · exact refused_takes hb hrun
  obtain ⟨type, -, hrun⟩ := bind_ok_of_eq (readU8_reads _ _) hrun
  obtain ⟨code, -, hrun⟩ := bind_ok_of_eq (readU8_reads _ _) hrun
  split at hrun
  · obtain ⟨intf, -, hrun⟩ := bind_ok_of_eq (derefIntfPtr_reads _) hrun
    obtain ⟨iph, w1, h1, hrun⟩ := bind_ok_iff.mp hrun
    obtain ⟨-, h1⟩ := followIpHdr_ok.mp h1
    have hlog : SparesAll w w1 := h1 ▸ log_spares hb.fresh fun _ => rfl
    obtain ⟨src, -, hrun⟩ := bind_ok_of_eq (readU32_reads _ _) hrun
    obtain ⟨_, w2, h2, hrun⟩ := bind_ok_iff.mp hrun
    obtain ⟨_, w3, h3, hdone⟩ := bind_ok_iff.mp hrun
    cases hdone
    obtain rfl := freeSkb_ok.mp h3
    subst hid
    have hout := hlog.trans (icmpOut_spares hlog.fresh h2)
    exact .after hout hb (.freed skb (hout.given hb))
  · obtain ⟨_, w1, h1, hdone⟩ := bind_ok_iff.mp hrun
    cases hdone
    obtain rfl := freeSkb_ok.mp h1
    subst hid
    exact .freed skb hb

theorem setTcpSock_spares {k : SockId} {sock : TcpSock} {u : Unit} (hw : Fresh w)
    (hrun : setTcpSock k sock w = .ok u w') : SparesAll w w' := by
  rw [setTcpSock_ok] at hrun
  subst hrun
  exact .of_queues hw (Nat.le_refl _) rfl rfl rfl (List.append_nil _).symm fun _ => rfl

/-- `close_connection` has no buffer to take care of. -/
theorem closeConnection_spares {c : ConnId} (hw : Fresh w)
    (hrun : closeConnection (ipInputDepth depth) c w = .ok r w') : r = true ∧ SparesAll w w' := by
  obtain ⟨_, w1, h1, hrun⟩ := bind_ok_iff.mp hrun
  have hout := tcpOut_spares hw h1
  obtain ⟨conn, -, hrun⟩ := bind_ok_of_eq (derefTcpConn_reads c) hrun
  obtain ⟨parent, -, hrun⟩ := bind_ok_of_eq (derefTcpSock_reads _) hrun
  obtain ⟨_, w2, h2, hdone⟩ := bind_ok_iff.mp hrun
  cases hdone
  exact ⟨rfl, hout.trans (setTcpSock_spares hout.fresh h2)⟩

theorem handleEstab_result {c : ConnId} {conn : TcpConnectionSock} (hid : skb.id = b)
    (hb : Given w b) (hconn : w.tcpConn c = some conn)
    (hrun : handleEstab (ipInputDepth depth) c skb w = .ok r w') :
    Result (InOrderClose conn skb) b r w w' := by
  obtain ⟨seq, hseq, hrun⟩ := bind_ok_of_eq (readTcpSeq_reads _ _) hrun
  obtain ⟨-, rfl, -⟩ := readTcpSeq_ok.mp hseq
  obtain ⟨conn', hconn', hrun⟩ := bind_ok_of_eq (derefTcpConn_reads c) hrun
  rw [derefTcpConn_ok, hconn] at hconn'
  obtain rfl := Option.some.inj hconn'.1
  split at hrun
  · rename_i hseq
    obtain ⟨flags, hflags, hrun⟩ := bind_ok_of_eq (readTcpFlags_reads _ _) hrun
    obtain ⟨-, rfl, -⟩ := readTcpFlags_ok.mp hflags
    split at hrun
    · rename_i hrst
      exact ⟨fun _ => closeConnection_spares hb.fresh hrun, fun hno => absurd ⟨hseq, Or.inl hrst⟩ hno⟩
    rename_i hrst
    split at hrun
    · rename_i hfin
      obtain ⟨_, w1, h1, hrun⟩ := bind_ok_iff.mp hrun
      rw [setTcpConn_ok] at h1
      have hset : SparesAll w w1 := h1 ▸ .of_conn hb.fresh hconn rfl
      obtain ⟨hr, hclose⟩ := closeConnection_spares hset.fresh hrun
      exact ⟨fun _ => ⟨hr, hset.trans hclose⟩, fun hno => absurd ⟨hseq, Or.inr hfin⟩ hno⟩
    · rename_i hfin
      refine .of_takes (fun hclose => hclose.2.elim hrst hfin) ?_
      obtain ⟨s, hs, hrun⟩ := bind_ok_of_eq (skbPull_reads _ _) hrun
      obtain ⟨-, -, rfl, -⟩ := skbPull_ok.mp hs
      obtain ⟨_, w1, h1, hdone⟩ := bind_ok_iff.mp hrun
      cases hdone
      rw [setTcpConn_ok] at h1
      refine .of_tokens hb (.tcp c) (by rw [h1]) (fun id => ?_) fun c' hc' => ?_
      · refine tokens_tcp (by rw [h1]) (by rw [h1]) (by rw [h1]) (by rw [h1]) ?_
        rw [idCount_cons, hid]
        simp only [tokens, hconn, Option.elim_some]
      · rw [h1] at hc' ⊢
        have hne : c' ≠ c := by
          rintro rfl
          rw [hb.fresh.conns c' hc'] at hconn
          cases hconn
        change Function.update w.tcpConn c _ c' = none
        rw [Function.update_of_ne hne]
        exact hb.fresh.conns c' hc'
  · rename_i hseq
    exact .of_takes (fun hclose => hseq hclose.1) (refused_takes hb hrun)

theorem handleSynSent_takes {c : ConnId} (hb : Given w b)
    (hrun : handleSynSent c skb w = .ok r w') : Takes b r w w' := by
  obtain ⟨flags, -, hrun⟩ := bind_ok_of_eq (readTcpFlags_reads _ _) hrun
  split at hrun
  · obtain ⟨seq, -, hrun⟩ := bind_ok_of_eq (readTcpSeq_reads _ _) hrun
    obtain ⟨conn, hconn, hrun⟩ := bind_ok_of_eq (derefTcpConn_reads c) hrun
    split at hrun
    · obtain ⟨_, w1, h1, hdone⟩ := bind_ok_iff.mp hrun
      cases hdone
      rw [setTcpConn_ok] at h1
      rw [derefTcpConn_ok] at hconn
      exact h1 ▸ .refused hb (.of_conn hb.fresh hconn.1 rfl)
    · exact refused_takes hb hrun
  · exact refused_takes hb hrun

theorem connecting_spares {k : SockId} {sock : TcpSock} (hw : Fresh w) :
    SparesAll w (w.connecting skb k sock) := by
  have hlog : SparesAll w (w.followed skb) := log_spares hw fun _ => rfl
  have hnew : SparesAll w { w.followed skb with
      nextId := w.nextId + 1
      tcpConn := Function.update w.tcpConn w.nextId (some (skb.opens k)) } :=
    hlog.trans (.of_new_conn hlog.fresh rfl)
  exact hnew.trans (.of_queues hnew.fresh (Nat.le_refl _) rfl rfl rfl (List.append_nil _).symm
    fun _ => rfl)

theorem handleNewConnection_takes {k : SockId} {sock : TcpSock} (hk : w.tcpSock k = some sock)
    (hb : Given w b)
    (hrun : handleNewConnection (ipInputDepth depth) k skb.segment w = .ok r w') :
    Takes b r w w' := by
  obtain ⟨rfl, sent, hout⟩ := handleNewConnection_run hk hrun
  have hlink : SparesAll w (w.connecting skb k sock) := connecting_spares hb.fresh
  exact .refused hb (hlink.trans (tcpOut_spares hlink.fresh hout))

theorem closesConn_iff {c : ConnId} {conn : TcpConnectionSock} (hc : rxConn w skb = some c)
    (hconn : w.tcpConn c = some conn) :
    ClosesConn w skb ↔ conn.state = .handleEstab ∧ InOrderClose conn skb.segment := by
  constructor
  · rintro ⟨c', conn', hc', hconn', hstate, hclose⟩
    obtain rfl : c = c' := Option.some.inj (hc.symm.trans hc')
    obtain rfl : conn = conn' := Option.some.inj (hconn.symm.trans hconn')
    exact ⟨hstate, hclose⟩
  · rintro ⟨hstate, hclose⟩
    exact ⟨c, conn, hc, hconn, hstate, hclose⟩

/-- **`tcp_input` of a received segment.** -/
theorem tcpInput_result (hb : Given w skb.id)
    (hrun : tcpInput (ipInputDepth depth) skb.segment w = .ok r w') :
    Result (ClosesConn w skb) skb.id r w w' := by
  have hlog : SparesAll w (w.followed skb) := log_spares hb.fresh fun _ => rfl
  have hb' : Given (w.followed skb) skb.id := hlog.given hb
  -- a segment of no connection closes none
  have hnone : rxConn w skb = none → ¬ ClosesConn w skb := by
    rintro hconn ⟨c, conn, hc, -⟩
    rw [hconn] at hc
    cases hc
  cases tcpInput_ok hrun with
  | unheard hsock hr hw =>
      refine .of_takes (hnone ?_) (refused_takes hb ?_)
      · rw [rxConn, hsock]
        rfl
      · rw [hr, hw]
        rfl
  | synSent hsock hk hfound hconn hstate hrun =>
      refine .after hlog hb (.of_takes ?_ (handleSynSent_takes hb' hrun))
      rw [closesConn_iff ((rxConn_of_sock hsock hk).trans hfound) hconn, hstate]
      rintro ⟨h, -⟩
      cases h
  | estab hsock hk hfound hconn hstate hrun =>
      refine .after hlog hb ((handleEstab_result (by rfl) hb' hconn hrun).congr ?_)
      rw [closesConn_iff ((rxConn_of_sock hsock hk).trans hfound) hconn]
      exact (and_iff_right hstate).symm
  | opened hsock hk hfound hopens hrun =>
      refine .after hlog hb (.of_takes (hnone ?_) (handleNewConnection_takes hk hb' hrun))
      exact (rxConn_of_sock hsock hk).trans hfound
  | refused hsock hk hfound hopens hr hw =>
      refine .after hlog hb (.of_takes (hnone ?_) (refused_takes hb' ?_))
      · exact (rxConn_of_sock hsock hk).trans hfound
      · rw [hr, hw]
        rfl

end Transport

end SimpleTcpip
