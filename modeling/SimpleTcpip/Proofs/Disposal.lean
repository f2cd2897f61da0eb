/-
What becomes of the buffers the senders allocate.

Each of the five functions that build a packet allocates one buffer and hands it to `ip_output`
or `ethernet_output`, which take it when they return true and leave it to the caller when they
return false.  `icmp_out` and `send_arp_broadcast_request` then give it back.  The other three
do not: `tcp_out` and `udp_out` return what they were told, `send_arp_reply_msg` does not look,
and a segment that does not fit the window is not even handed on.
-/
import SimpleTcpip.Proofs.Atomic
import SimpleTcpip.Proofs.Custody

namespace SimpleTcpip

open Fallible OnesComplement

/-- Every buffer allocated on the way was given back once, or is in one queue. -/
def Disposed (w w' : World) : Prop :=
  ∀ id, w.nextId ≤ id → id < w'.nextId → ∃ h, tokens w' id = Pi.single h 1

/-! ### Runs that allocate nothing -/

/-- Nothing is allocated. -/
def SameId (w w' : World) : Prop := w'.nextId = w.nextId

section Ids

theorem SameId.refl (w : World) : SameId w w := rfl

theorem SameId.disposed {w w' : World} (h : SameId w w') : Disposed w w' := by
  intro id hle hlt
  rw [h] at hlt
  exact absurd hle (Nat.not_le.mpr hlt)

theorem reads_sameId {α : Type} {m : M α} (h : Keeps Eq m) : Keeps SameId m :=
  keeps_of_eq SameId.refl h

theorem pure_sameId {α : Type} (a : α) : Keeps SameId (pure a : M α) := keeps_pure SameId.refl a

theorem bind_sameId {α β : Type} {x : M α} {f : α → M β} (hx : Keeps SameId x)
    (hf : ∀ a, Keeps SameId (f a)) : Keeps SameId (x >>= f) :=
  keeps_bind (fun _ _ _ h h' => h'.trans h) hx hf

theorem log_sameId (e : Event) : Keeps SameId (log e) := keeps_modify fun _ => rfl

theorem getNbrIf_sameId (i : IntfId) : Keeps SameId (getNbrIf i) := by
  refine bind_sameId (reads_sameId (derefIntf_reads i)) fun intf => ?_
  cases intf.link with
  | none => exact pure_sameId _
  | some l =>
      refine bind_sameId (reads_sameId get_reads) fun w => ?_
      cases w.link l with
      | none => exact reads_sameId (throw_reads _)
      | some link => exact pure_sameId _

theorem sysSendCall_sameId (i : IntfId) (frame : List UInt8) : Keeps SameId (sysSendCall i frame) := by
  intro w
  rw [final_of_ok (sysSendCall_run frame)]
  rfl

theorem sendBytesOut_sameId (frame : List UInt8) (i : IntfId) :
    Keeps SameId (sendBytesOut frame i) := by
  refine bind_sameId (reads_sameId (derefIntf_reads i)) fun intf => ?_
  cases intf.comm.commType with
  | none => exact reads_sameId (throw_reads _)
  | tuntap => exact sysSendCall_sameId i frame
  | udp =>
      refine bind_sameId (reads_sameId (derefIntf_reads i)) fun intf =>
        bind_sameId (getNbrIf_sameId i) fun nbr => ?_
      cases nbr with
      | none => exact pure_sameId _
      | some j =>
          refine bind_sameId (reads_sameId (derefIntf_reads j)) fun nbr =>
            keeps_ite (pure_sameId _) ?_
          exact bind_sameId (sysSendCall_sameId i frame) fun _ => pure_sameId _

theorem sendPktOut_sameId (i : IntfId) (skb : SkBuff) : Keeps SameId (sendPktOut i skb) := by
  refine bind_sameId (sendBytesOut_sameId _ i) fun result => keeps_ite ?_ (pure_sameId _)
  exact bind_sameId (log_sameId _) fun _ => pure_sameId _

theorem ethernetOutput_sameId (i : IntfId) (mac : MacAddr) (proto : UInt16) (skb : SkBuff) :
    Keeps SameId (ethernetOutput i mac proto skb) := by
  refine bind_sameId (log_sameId _) fun _ => bind_sameId (reads_sameId (skbPush_reads _ _)) fun s =>
    bind_sameId (reads_sameId (derefIntf_reads i)) fun intf => keeps_ite ?_ (sendPktOut_sameId i _)
  exact bind_sameId (reads_sameId (skbPut_reads _ _)) fun s => sendPktOut_sameId i s

theorem ethernetOutput_nextId {i : IntfId} {mac : MacAddr} {proto : UInt16} {skb : SkBuff} {r : Bool}
    {w w' : World} (hrun : ethernetOutput i mac proto skb w = .ok r w') : SameId w w' :=
  Keeps.ok (ethernetOutput_sameId i mac proto skb) hrun

end Ids

/-! ### One buffer -/

section Alloc

variable {w w₁ w' : World}

/-- After one buffer was allocated, and whatever is allocated later is looked after, it is that
buffer that decides. -/
theorem disposed_alloc_iff (hid : w₁.nextId = w.nextId + 1) (hle : w₁.nextId ≤ w'.nextId)
    (hlater : Disposed w₁ w') : Disposed w w' ↔ ∃ h, tokens w' w.nextId = Pi.single h 1 := by
  constructor
  · intro h
    exact h w.nextId (Nat.le_refl _) (by omega)
  · intro hfirst id hge hlt
    rcases Nat.eq_or_lt_of_le hge with rfl | hgt
    · exact hfirst
    · exact hlater id (by omega) hlt

/-- What a function that was given a buffer says of it. -/
theorem Takes.disposes_iff {b : SkbId} {r : Bool} (h : Takes b r w w') :
    (∃ holder, tokens w' b = Pi.single holder 1) ↔ r = true := by
  have houtcome := h.outcome
  cases r with
  | true => exact iff_of_true houtcome rfl
  | false =>
      refine iff_of_false ?_ Bool.false_ne_true
      rintro ⟨holder, hone⟩
      have hat := congrFun ((show tokens w' b = 0 from houtcome).symm.trans hone) holder
      rw [Pi.single_eq_same] at hat
      cases hat

/-- A buffer that was refused and is then given back. -/
theorem freed_disposed {skb : SkBuff} (hb : Given w skb.id) :
    ∃ holder, tokens (w.freed skb) skb.id = Pi.single holder 1 :=
  (Takes.freed skb hb).outcome

/-- Giving a buffer back that was there before makes no difference. -/
theorem disposed_freed_iff {skb : SkBuff} (hid : skb.id < w.nextId) :
    Disposed w (w'.freed skb) ↔ Disposed w w' := by
  refine forall_congr' fun id => forall_congr' fun hge => forall_congr' fun _ => ?_
  rw [tokens_freed, if_neg (Nat.ne_of_lt (Nat.lt_of_lt_of_le hid hge)), Pi.single_zero, add_zero]

end Alloc

section Senders

variable {w w' : World} {skb : SkBuff} {r : Bool}

/-- **A broadcast request leaves no buffer behind.** -/
theorem sendArpBroadcastRequest_disposed {i : IntfId} {ip : UInt32} {u : Unit} (hw : Fresh w)
    (hrun : sendArpBroadcastRequest i ip w = .ok u w') : Disposed w w' := by
  obtain ⟨s, w1, h1, hrest⟩ := bind_ok_iff.mp hrun
  obtain ⟨hid, hnext, -, hgiven⟩ := allocArpSkb_given hw h1
  obtain ⟨intf, -, hrest⟩ := bind_ok_of_eq (derefIntf_reads i) hrest
  obtain ⟨ok, w2, h2, hfree⟩ := bind_ok_iff.mp hrest
  have htakes : Takes s.id ok w1 w2 := ethernetOutput_takes (fillArpHdr_id ..) hgiven h2
  have hsame : SameId w1 w2 := ethernetOutput_nextId h2
  cases ok with
  | true =>
      cases hfree
      refine (disposed_alloc_iff hnext htakes.spares.nextId hsame.disposed).mpr ?_
      rw [← hid]
      exact htakes.disposes_iff.mpr rfl
  | false =>
      have hgiven2 : Given w2 s.id :=
        ⟨htakes.spares.fresh, Nat.lt_of_lt_of_le hgiven.allocated htakes.spares.nextId,
          htakes.outcome⟩
      have hfreed := freeSkb_ok.mp hfree
      rw [fillArpHdr_id] at hfreed
      obtain rfl : w' = w2.freed s := hfreed
      have hlater : Disposed w1 (w2.freed s) := SameId.disposed hsame
      have hle : w1.nextId ≤ (w2.freed s).nextId := htakes.spares.nextId
      refine (disposed_alloc_iff hnext hle hlater).mpr ?_
      rw [← hid]
      exact freed_disposed hgiven2

/-- **A reply is left behind unless the link takes it.** -/
theorem sendArpReplyMsg_disposed_iff {i : IntfId} {req : SkBuff} {shdr : Nat} {u : Unit}
    (hw : Fresh w) (hrun : sendArpReplyMsg i req shdr w = .ok u w') :
    Disposed w w' ↔ w.accepts i = true := by
  obtain ⟨s, w1, h1, hrest⟩ := bind_ok_iff.mp hrun
  obtain ⟨hid, hnext, -, hgiven⟩ := allocArpSkb_given hw h1
  have haccepts : w1.accepts i = w.accepts i := by
    rw [allocArpSkb_run] at h1
    cases h1
    rfl
  obtain ⟨intf, -, hrest⟩ := bind_ok_of_eq (derefIntf_reads i) hrest
  obtain ⟨mac, -, hrest⟩ := bind_ok_of_eq (readMac_reads _ _) hrest
  obtain ⟨ip, -, hrest⟩ := bind_ok_of_eq (readU32_reads _ _) hrest
  obtain ⟨ok, w2, h2, hdone⟩ := bind_ok_iff.mp hrest
  cases hdone
  have htakes : Takes s.id ok w1 w' := ethernetOutput_takes (fillArpHdr_id ..) hgiven h2
  have hsame : SameId w1 w' := ethernetOutput_nextId h2
  rw [disposed_alloc_iff hnext htakes.spares.nextId hsame.disposed, ← hid, htakes.disposes_iff,
    (ethernetOutput_reports h2).result, haccepts]

/-! ### The output path -/

theorem ipNeighbourOutput_disposed {n : NodeId} {i : IntfId} {ip : UInt32} {b : SkbId} (hid : skb.id = b)
    (hb : Given w b) (hrun : ipNeighbourOutput n i ip skb w = .ok r w') : Disposed w w' := by
  subst hid
  by_cases hwait : Unresolved (w.arpTable n) ip
  · rw [ipNeighbourOutput_unresolved hwait] at hrun
    obtain ⟨_, w1, h1, hdone⟩ := bind_ok_iff.mp hrun
    cases hdone
    have hpark : Takes skb.id true w (w.parked n ip i skb) :=
      .of_tokens hb (.arp n) (Nat.le_refl _) (fun _ => tokens_parked n ip i skb) hb.fresh.conns
    have hrequest : Disposed (w.parked n ip i skb) w' :=
      sendArpBroadcastRequest_disposed hpark.spares.fresh h1
    exact hrequest
  · unfold Unresolved at hwait
    push Not at hwait
    obtain ⟨entry, hlook, hres⟩ := hwait
    rw [ipNeighbourOutput_resolved hlook (Bool.not_eq_false _ ▸ hres)] at hrun
    have hsame : SameId w w' := ethernetOutput_nextId hrun
    exact hsame.disposed

/-- Delivering a packet to the node itself allocates nothing. -/
theorem ipInput_looped_sameId {depth : Nat} (h : skb.ipHdr = none)
    (hrun : ipInputDepth depth skb w = .ok r w') : SameId w w' := by
  cases ipInput_looped_ok h hrun with
  | udp hproto hudp => cases hudp <;> rfl
  | _ => rfl

/-- What `ip_postroute` allocates is looked after, unless `ip_input` gets a received packet. -/
theorem ipPostroute_disposed {depth : Nat} {n : NodeId}
    (h : skb.ipHdr = none ∨ isIpLocal w n skb.dstIp = false) (hb : Given w skb.id)
    (hrun : ipPostroute (ipInputDepth depth) n skb w = .ok r w') : Disposed w w' := by
  cases ipPostroute_ok hrun with
  | unrouted hrt => exact (SameId.refl _).disposed
  | otherIntf hrt hintf => exact (SameId.refl _).disposed
  | looped hrt hintf hout hlocal hin =>
      have hnull : skb.ipHdr = none :=
        h.resolve_right fun hforeign => Bool.false_ne_true (hforeign.symm.trans hlocal)
      exact (ipInput_looped_sameId ((routed_ipHdr ..).trans hnull) hin).disposed
  | sent hrt hintf hout hlocal hsend => exact ipNeighbourOutput_disposed (routed_id ..) hb hsend

/-- **What `ip_output` allocates besides the packet is looked after.** -/
theorem ipOutput_disposed {depth : Nat} {n : NodeId} {ip : UInt32} {proto : UInt8}
    (h : skb.ipHdr = none) (hb : Given w skb.id)
    (hrun : ipOutput (ipInputDepth depth) n ip proto skb w = .ok r w') : Disposed w w' := by
  obtain ⟨_, w1, h1, hrest⟩ := bind_ok_iff.mp hrun
  rw [log_ok] at h1
  have hlog : SparesAll w w1 := h1 ▸ log_spares hb.fresh fun _ => rfl
  have hsame : w1.nextId = w.nextId := by rw [h1]
  obtain ⟨s, hpush, hpost⟩ := bind_ok_of_eq (skbPush_reads _ _) hrest
  obtain ⟨-, rfl, -⟩ := skbPush_ok.mp hpush
  change ipPostroute (ipInputDepth depth) n (skb.withIpHdr ip proto) w1 = .ok r w' at hpost
  have hrest : Disposed w1 w' := by
    have hnull : (skb.withIpHdr ip proto).ipHdr = none := h
    have hgiven : Given w1 (skb.withIpHdr ip proto).id := by
      rw [withIpHdr_id]
      exact hlog.given hb
    exact ipPostroute_disposed (Or.inl hnull) hgiven hpost
  unfold Disposed
  rw [← hsame]
  exact hrest

/-- **A buffer a function allocated and handed to `ip_output` is left behind when that returns
false**, if nothing else is done about it. -/
theorem send_disposed_iff {w₁ w₂ : World} {depth : Nat} {n : NodeId} {ip : UInt32} {proto : UInt8}
    (hnext : w₁.nextId = w.nextId + 1) (hgiven : Given w₁ w.nextId) (hsame : w₂.nextId = w₁.nextId)
    (hspares : SparesAll w₁ w₂) (hid : skb.id = w.nextId) (hhdr : skb.ipHdr = none)
    (hrun : ipOutput (ipInputDepth depth) n ip proto skb w₂ = .ok r w') :
    (Disposed w w' ↔ r = true) ∧ Takes skb.id r w₂ w' ∧ Disposed w₂ w' := by
  have hb : Given w₂ skb.id := hid ▸ hspares.given hgiven
  have htakes : Takes skb.id r w₂ w' := ipOutput_takes hhdr rfl hb hrun
  have hlater := ipOutput_disposed hhdr hb hrun
  refine ⟨?_, htakes, hlater⟩
  rw [disposed_alloc_iff (hsame.trans hnext) htakes.spares.nextId hlater, ← hid, htakes.disposes_iff]

/-! ### The senders -/

/-- **`icmp_out` leaves no buffer behind.** -/
theorem icmpOut_disposed {depth : Nat} {n : NodeId} {ip : UInt32} {type code : UInt8}
    {payload : List UInt8} (hw : Fresh w)
    (hrun : icmpOut (ipInputDepth depth) n ip type code payload w = .ok r w') : Disposed w w' := by
  have halloc : allocSkb (buffHeadroom + buffTailroom + icmpHdrSize + payload.length) w
      = .ok (freshSkb w.nextId (buffHeadroom + buffTailroom + icmpHdrSize + payload.length))
          w.allocated := allocSkb_ok.mpr ⟨rfl, rfl⟩
  obtain ⟨-, -, hnext, -, hgiven⟩ := allocSkb_given hw halloc
  rw [icmpOut_run] at hrun
  obtain ⟨sent, w1, h1, hrest⟩ := bind_ok_iff.mp hrun
  have hsend := fun hid hhdr => send_disposed_iff hnext hgiven rfl
    (.refl hgiven.fresh fun _ hf => hf.elim) hid hhdr h1
  obtain ⟨hiff, htakes, hlater⟩ := hsend rfl rfl
  cases sent with
  | true =>
      cases hrest
      exact hiff.mpr rfl
  | false =>
      obtain ⟨_, w2, h2, hdone⟩ := bind_ok_iff.mp hrest
      cases hdone
      obtain rfl : w' = w1.freed (icmpMessage w.nextId type code payload) := freeSkb_ok.mp h2
      have hgiven1 : Given w1 (icmpMessage w.nextId type code payload).id :=
        ⟨htakes.spares.fresh, Nat.lt_of_lt_of_le hgiven.allocated htakes.spares.nextId,
          htakes.outcome⟩
      have hle : w.allocated.nextId
          ≤ (w1.freed (icmpMessage w.nextId type code payload)).nextId := htakes.spares.nextId
      exact (disposed_alloc_iff hnext hle ((disposed_freed_iff (Nat.lt_succ_self _)).mpr hlater)).mpr
        (freed_disposed hgiven1)

/-- A datagram of a socket bound to an interface is taken where it goes: the route is by that
interface, and the socket it is for, the next hop's queue or the link takes it. -/
def DatagramOk (w : World) (n : NodeId) (i : IntfId) (ip : UInt32) (port : UInt16) : Prop :=
  ∃ rt, rtLookupLpm (w.rtTable n) ip = some rt ∧ rt.intf = i ∧
    if isIpLocal w n ip then (udpSocksManagerFind w i port).isSome = true
    else NeighbourOk w n rt ip

theorem udpDst_udpDatagram (id : SkbId) (sock : UdpSock) (buff : List UInt8) (port : UInt16) :
    (udpDatagram id sock buff port).udpDst = port := by
  -- the length is written behind the port
  have hword : word (udpDatagram id sock buff port).mem 62 = port.toNat := by
    have hport : word ((((Memory.write (fun _ => 0) 68 buff).store16 60
        (UInt16.ofNat (htons sock.localPort.toNat))).store16 62
        (UInt16.ofNat (htons port.toNat)))) 62 = port.toNat :=
      word_store16_htons _ _ (UInt16.toNat_lt port)
    rw [← hport]
    show word (Memory.store16 _ 64 _) 62 = _
    unfold word
    rw [Memory.store16_outside _ _ (by omega), Memory.store16_outside _ _ (by omega)]
    rfl
  show UInt16.ofNat (ntohs ((udpDatagram id sock buff port).mem.load16 62).toNat) = port
  rw [ntohs_load16, hword, UInt16.ofNat_toNat]

theorem outputOk_udpDatagram {n : NodeId} {id : SkbId} {sock : UdpSock} {buff : List UInt8}
    {ip : UInt32} {port : UInt16} {i : IntfId} (hi : sock.intf = some i) :
    OutputOk w n ip ipProtoUdp (udpDatagram id sock buff port) ↔ DatagramOk w n i ip port := by
  have hintf : (udpDatagram id sock buff port).intf = some i := hi
  unfold OutputOk DatagramOk
  refine exists_congr fun rt => and_congr_right fun _ => ?_
  have hby : ((udpDatagram id sock buff port).intf = none ∨
      (udpDatagram id sock buff port).intf = some rt.intf) ↔ rt.intf = i := by
    rw [hintf]
    simp [eq_comm]
  rw [hby]
  refine and_congr_right fun hrt => ?_
  split
  · unfold LocalOk
    rw [udpDst_udpDatagram, hrt]
    refine ⟨fun h => h.elim (fun h => absurd h.1 (by decide)) And.right, fun h => Or.inr ⟨rfl, h⟩⟩
  · exact Iff.rfl

/-- **A datagram is left behind unless it is taken where it goes.** -/
theorem udpOut_disposed_iff {depth : Nat} {sock : UdpSock} {buff : List UInt8} {ip : UInt32}
    {port : UInt16} (hw : Fresh w)
    (hrun : udpOut (ipInputDepth depth) sock buff ip port w = .ok r w') :
    Disposed w w' ↔ ∃ i intf, sock.intf = some i ∧ w.intf i = some intf ∧
      DatagramOk w intf.node i ip port := by
  have halloc : allocSkb (buffHeadroom + buffTailroom + udpHdrSize + buff.length) w
      = .ok (freshSkb w.nextId (buffHeadroom + buffTailroom + udpHdrSize + buff.length))
          w.allocated := allocSkb_ok.mpr ⟨rfl, rfl⟩
  obtain ⟨-, -, hnext, -, hgiven⟩ := allocSkb_given hw halloc
  rw [udpOut_run] at hrun
  obtain ⟨intf, hderef, hout⟩ := bind_ok_of_eq (derefIntfPtr_reads _) hrun
  obtain ⟨⟨i, hi, hintf⟩, -⟩ := derefIntfPtr_ok.mp hderef
  have hsend := fun hid hhdr => send_disposed_iff hnext hgiven rfl
    (.refl hgiven.fresh fun _ hf => hf.elim) hid hhdr hout
  obtain ⟨hiff, -⟩ := hsend rfl rfl
  rw [hiff, (ipOutput_reports rfl hout).result]
  have hok : OutputOk w.allocated intf.node ip ipProtoUdp (udpDatagram w.nextId sock buff port)
      ↔ DatagramOk w intf.node i ip port := outputOk_udpDatagram hi
  rw [hok]
  constructor
  · intro h
    exact ⟨i, intf, hi, hintf, h⟩
  · rintro ⟨i', intf', hi', hintf', h⟩
    obtain ⟨rfl, rfl⟩ := intfPtr_unique hi hintf hi' hintf'
    exact h

/-- **A segment is left behind unless it fits the window and is taken where it goes.** -/
theorem tcpOut_disposed_iff {depth : Nat} {c : ConnId} {buff : List UInt8} {flags : TcpFlags}
    (hw : Fresh w) (hrun : tcpOut (ipInputDepth depth) c buff flags w = .ok r w') :
    Disposed w w' ↔ ∃ conn parent i intf, w.tcpConn c = some conn ∧
      w.tcpSock conn.parent = some parent ∧ parent.intf = some i ∧ w.intf i = some intf ∧
      exceedsWindow conn buff.length = false ∧ SegmentOk w intf.node parent conn := by
  obtain ⟨conn, hderef, -⟩ := bind_ok_of_eq (derefTcpConn_reads c) hrun
  obtain ⟨hconn, -⟩ := derefTcpConn_ok.mp hderef
  obtain ⟨parent, hparent⟩ := tcpOut_parent hconn hrun
  have halloc : allocSkb (buffHeadroom + buffTailroom + tcpHdrSize + buff.length) w
      = .ok (freshSkb w.nextId (buffHeadroom + buffTailroom + tcpHdrSize + buff.length))
          w.allocated := allocSkb_ok.mpr ⟨rfl, rfl⟩
  obtain ⟨-, -, hnext, -, hgiven⟩ := allocSkb_given hw halloc
  cases hwin : exceedsWindow conn buff.length with
  | true =>
      -- the buffer is forgotten
      rw [tcpOut_run hconn hparent, hwin] at hrun
      obtain ⟨-, rfl⟩ := EStateM.Result.ok.inj hrun
      refine iff_of_false (fun h => ?_) ?_
      · obtain ⟨holder, hone⟩ := h w.nextId (Nat.le_refl _) (Nat.lt_succ_self _)
        have hat := congrFun (hgiven.live.symm.trans hone) holder
        rw [Pi.single_eq_same] at hat
        cases hat
      · rintro ⟨conn', parent', i, intf, hconn', -, -, -, hfits, -⟩
        obtain rfl : conn = conn' := Option.some.inj (hconn.symm.trans hconn')
        rw [hwin] at hfits
        cases hfits
  | false =>
      obtain ⟨i, intf, hi, hintf, hreports⟩ := tcpOut_reports hconn hparent hwin hrun
      rw [tcpOut_run hconn hparent, hwin] at hrun
      obtain ⟨intf', -, hout⟩ := bind_ok_of_eq (derefIntfPtr_reads _) hrun
      have hset : SparesAll w.allocated (w.segmented c conn buff.length flags) :=
        .of_conn hgiven.fresh hconn rfl
      have hsame : (w.segmented c conn buff.length flags).nextId = w.allocated.nextId := rfl
      obtain ⟨hiff, -⟩ := send_disposed_iff hnext hgiven hsame hset (tcpSegment_id ..)
        (tcpSegment_ipHdr ..) hout
      rw [hiff, hreports.result]
      constructor
      · intro h
        exact ⟨conn, parent, i, intf, hconn, hparent, hi, hintf, hwin, h⟩
      · rintro ⟨conn', parent', i', intf', hconn', hparent', hi', hintf', -, h⟩
        obtain rfl : conn = conn' := Option.some.inj (hconn.symm.trans hconn')
        obtain rfl : parent = parent' := Option.some.inj (hparent.symm.trans hparent')
        obtain ⟨rfl, rfl⟩ := intfPtr_unique hi hintf hi' hintf'
        exact h

end Senders

/-! ### All of them -/

/-- A call of a function that builds a packet. -/
inductive Producer
  | tcpOut (c : ConnId) (buff : List UInt8) (flags : TcpFlags)
  | udpOut (sock : UdpSock) (buff : List UInt8) (ip : UInt32) (port : UInt16)
  | icmpOut (n : NodeId) (ip : UInt32) (type code : UInt8) (payload : List UInt8)
  | sendArpBroadcastRequest (i : IntfId) (ip : UInt32)
  | sendArpReplyMsg (i : IntfId) (req : SkBuff) (shdr : Nat)

namespace Producer

/-- The call itself, at any depth of local delivery. -/
def run (depth : Nat) : Producer → M Ret
  | .tcpOut c buff flags => do
      let r ← SimpleTcpip.tcpOut (ipInputDepth depth) c buff flags
      pure (.bool r)
  | .udpOut sock buff ip port => do
      let r ← SimpleTcpip.udpOut (ipInputDepth depth) sock buff ip port
      pure (.bool r)
  | .icmpOut n ip type code payload => do
      let r ← SimpleTcpip.icmpOut (ipInputDepth depth) n ip type code payload
      pure (.bool r)
  | .sendArpBroadcastRequest i ip => do
      SimpleTcpip.sendArpBroadcastRequest i ip
      pure .unit
  | .sendArpReplyMsg i req shdr => do
      SimpleTcpip.sendArpReplyMsg i req shdr
      pure .unit

/-- The packet is taken where it goes, or the function gives back what is not taken. -/
def Delivers (w : World) : Producer → Prop
  | .tcpOut c buff _ => ∃ conn parent i intf, w.tcpConn c = some conn ∧
      w.tcpSock conn.parent = some parent ∧ parent.intf = some i ∧ w.intf i = some intf ∧
      exceedsWindow conn buff.length = false ∧ SegmentOk w intf.node parent conn
  | .udpOut sock _ ip port => ∃ i intf, sock.intf = some i ∧ w.intf i = some intf ∧
      DatagramOk w intf.node i ip port
  | .icmpOut _ _ _ _ _ | .sendArpBroadcastRequest _ _ => True
  | .sendArpReplyMsg i _ _ => w.accepts i = true

/-- **When a call returns, every buffer allocated on the way was freed once or is in one queue,
exactly if the packet is taken where it goes or the function looks at the result.** -/
theorem disposed_iff {depth : Nat} {p : Producer} {w w' : World} {r : Ret} (hw : Fresh w)
    (hrun : p.run depth w = .ok r w') : Disposed w w' ↔ p.Delivers w := by
  cases p with
  | tcpOut c buff flags =>
      obtain ⟨_, w1, h1, hdone⟩ := bind_ok_iff.mp hrun
      cases hdone
      exact tcpOut_disposed_iff hw h1
  | udpOut sock buff ip port =>
      obtain ⟨_, w1, h1, hdone⟩ := bind_ok_iff.mp hrun
      cases hdone
      exact udpOut_disposed_iff hw h1
  | icmpOut n ip type code payload =>
      obtain ⟨_, w1, h1, hdone⟩ := bind_ok_iff.mp hrun
      cases hdone
      exact iff_of_true (icmpOut_disposed hw h1) trivial
  | sendArpBroadcastRequest i ip =>
      obtain ⟨_, w1, h1, hdone⟩ := bind_ok_iff.mp hrun
      cases hdone
      exact iff_of_true (sendArpBroadcastRequest_disposed hw h1) trivial
  | sendArpReplyMsg i req shdr =>
      obtain ⟨_, w1, h1, hdone⟩ := bind_ok_iff.mp hrun
      cases hdone
      exact sendArpReplyMsg_disposed_iff hw h1

end Producer

theorem producer_disposed_fixture :
    Disposed (Fixture.after []) (final
      ((Producer.sendArpReplyMsg 0 (recvBuffer 9 0 (List.replicate 60 1)) 18).run 1)
      (Fixture.after [])) := by
  have hreach : Reachable (Fixture.after []) := Fixture.reachable_after []
  have hdone : result ((Producer.sendArpReplyMsg 0 (recvBuffer 9 0 (List.replicate 60 1)) 18).run 1)
      (Fixture.after []) = some .unit := by
    decide +kernel
  have haccepts : (Fixture.after []).accepts 0 = true := by decide +kernel
  generalize Fixture.after [] = w at *
  exact (Producer.disposed_iff hreach.accounted.fresh (run_of_result hdone)).mpr haccepts

/-- **A datagram that nothing routes is not freed, and nothing holds it.** -/
theorem udpOut_leaks : Reachable Fixture.bound ∧ ∃ sock, Fixture.bound.udpSock 0 = some sock ∧
    result ((Producer.udpOut sock [1, 2, 3] (Fixture.addr 8 8 8 8) 53).run 1) Fixture.bound
      = some (.bool false) ∧
    ¬ Disposed Fixture.bound (final
      ((Producer.udpOut sock [1, 2, 3] (Fixture.addr 8 8 8 8) 53).run 1) Fixture.bound) := by
  have hreach : Reachable Fixture.bound := Fixture.reachable_after _
  have hsock : (Fixture.bound.udpSock 0).any (fun sock => decide
      (result ((Producer.udpOut sock [1, 2, 3] (Fixture.addr 8 8 8 8) 53).run 1) Fixture.bound
        = some (.bool false)) && (sock.intf.bind Fixture.bound.intf).all fun intf =>
          (rtLookupLpm (Fixture.bound.rtTable intf.node) (Fixture.addr 8 8 8 8)).isNone) = true := by
    decide +kernel
  generalize Fixture.bound = w at *
  obtain ⟨sock, hsock, hboth⟩ := (Option.any_eq_true _ _).mp hsock
  obtain ⟨hdone, hunrouted⟩ := Bool.and_eq_true_iff.mp hboth
  have hdone := of_decide_eq_true hdone
  refine ⟨hreach, sock, hsock, hdone, fun hdisposed => ?_⟩
  obtain ⟨r, t, hout, hret⟩ := bind_ok_iff.mp (run_of_result hdone)
  obtain ⟨-, ht⟩ := EStateM.Result.ok.inj hret
  have hreturned : Disposed w t := by
    rw [ht]
    exact hdisposed
  obtain ⟨i, intf, hi, hintf, rt, hrt, -⟩ :=
    (udpOut_disposed_iff hreach.accounted.fresh hout).mp hreturned
  rw [hi, Option.bind_some, hintf, Option.all_some, hrt] at hunrouted
  cases hunrouted

end SimpleTcpip
