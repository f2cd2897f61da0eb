/-
One ARP exchange.

A node that needs a hardware address asks everyone on the link; the interface that has the
address answers the asker, and the answer goes into the asker's table.  The two packets are
written by one function and pass through one link: what the receiver reads at an offset of
the header is what the sender wrote there, behind the Ethernet header and in front of the
padding.
-/
import SimpleTcpip.Model.Fixture
import SimpleTcpip.Proofs.Reception
import SimpleTcpip.Proofs.Transmission
import SimpleTcpip.Proofs.Wire

namespace SimpleTcpip

open Fallible

/-! ### The header -/

/-- What the two senders write into `struct arp_hdr`. -/
structure ArpHdr where
  opcode : Nat
  senderHw : MacAddr
  senderIp : UInt32
  targetHw : MacAddr
  targetIp : UInt32

/-- The packet with a header. -/
def ArpHdr.packet (hdr : ArpHdr) (id : SkbId) : SkBuff :=
  arpPacket id hdr.opcode hdr.senderHw hdr.senderIp hdr.targetHw hdr.targetIp

/-- What `arp_input` reads at the start of a buffer. -/
structure ArpHdr.At (hdr : ArpHdr) (skb : SkBuff) : Prop where
  len : arpHdrSize ≤ skb.len
  opcode : skb.mem.load16 (skb.data + 6) = UInt16.ofNat (htons hdr.opcode)
  senderHw : skb.arpSenderHw = hdr.senderHw
  senderIp : skb.arpSender = hdr.senderIp
  targetIp : skb.mem.load32 (skb.data + 24) = hdr.targetIp

/-- The fields are written in order, and none is written over. -/
theorem ArpHdr.at_packet (hdr : ArpHdr) (id : SkbId) : hdr.At (hdr.packet id) := by
  obtain ⟨opcode, senderHw, senderIp, targetHw, targetIp⟩ := hdr
  have hhw := MacAddr.length_addr senderHw
  have hhw' := MacAddr.length_addr targetHw
  refine ⟨Nat.le_refl _, ?_, ?_, ?_, ?_⟩
  · show (((((Memory.store16 _ 38 _).write 40 senderHw.addr).store32 46 _).write 50
      targetHw.addr).store32 56 _).load16 38 = _
    rw [Memory.store32, Memory.load16_write _ _ (by omega), Memory.load16_write _ _ (by omega),
      Memory.store32, Memory.load16_write _ _ (by omega), Memory.load16_write _ _ (by omega),
      Memory.load16_store16]
  · show MacAddr.load ((((Memory.write _ 40 senderHw.addr).store32 46 _).write 50
      targetHw.addr).store32 56 _) 40 = _
    refine MacAddr.ext ?_
    show Memory.read _ 40 6 = _
    rw [Memory.store32, Memory.read_write_disjoint _ _ (by omega),
      Memory.read_write_disjoint _ _ (by omega), Memory.store32,
      Memory.read_write_disjoint _ _ (by omega), ← hhw, Memory.read_write_same]
  · show (((Memory.store32 _ 46 senderIp).write 50 targetHw.addr).write 56
      (Memory.bytes32 targetIp)).load32 46 = _
    rw [Memory.load32_write _ _ (by omega), Memory.load32_write _ _ (by omega),
      Memory.load32_store32]
  · exact Memory.load32_store32 _ 56 targetIp

/-- The header does not depend on where the buffer holds it. -/
theorem ArpHdr.At.congr {hdr : ArpHdr} {s t : SkBuff} (h : hdr.At s) (hlen : arpHdrSize ≤ t.len)
    (hmem : ∀ k, k < arpHdrSize → t.mem (t.data + k) = s.mem (s.data + k)) : hdr.At t := by
  have hload : ∀ off, off + 4 ≤ 28 → t.mem.load32 (t.data + off) = s.mem.load32 (s.data + off) := by
    intro off hoff
    refine Memory.load32_congr fun i hi => ?_
    rw [Nat.add_assoc, Nat.add_assoc]
    exact hmem _ (by rw [arpHdrSize]; omega)
  refine ⟨hlen, ?_, ?_, ?_, ?_⟩
  · rw [← h.opcode]
    exact Memory.load16_congr (hmem 6 (by decide)) (hmem 7 (by decide))
  · rw [← h.senderHw]
    refine MacAddr.ext (Memory.read_congr fun i hi => ?_)
    rw [macAddrSize] at hi
    rw [Nat.add_assoc, Nat.add_assoc]
    exact hmem _ (by rw [arpHdrSize]; omega)
  · rw [← h.senderIp]
    exact hload 14 (by omega)
  · rw [← h.targetIp]
    exact hload 24 (by omega)

/-! ### A frame at the other end -/

/-- The bytes of a received frame. -/
theorem recvBuffer_mem (id : SkbId) (i : IntfId) {frame : List UInt8} {k : Nat}
    (hk : k < frame.length) (hfits : frame.length ≤ recvBufferSize - recvReservedHeadRoom) :
    (recvBuffer id i frame).mem (recvReservedHeadRoom + k) = frame.getD k 0 := by
  show Memory.write (fun _ => 0) recvReservedHeadRoom
    (frame.take (recvBufferSize - recvReservedHeadRoom)) (recvReservedHeadRoom + k) = _
  rw [List.take_of_length_le hfits]
  exact Memory.write_inside _ _ _ hk

/-- The longest packet whose frame a receiver takes whole. -/
def maxPacket : Nat := recvBufferSize - recvReservedHeadRoom - ethHdrSize

section Frame

variable (id : SkbId) (j : IntfId) (dst src : MacAddr) (proto : UInt16) {s : SkBuff}

/-- The frame fits the buffer of the receiver. -/
theorem ethFrame_fits (hs : s.len ≤ maxPacket) :
    (ethFrame dst src proto s).length ≤ recvBufferSize - recvReservedHeadRoom := by
  rw [maxPacket, ethHdrSize] at hs
  rw [length_ethFrame]
  rw [recvBufferSize, recvReservedHeadRoom] at hs ⊢
  omega

/-- The receiver reads the addressee of the frame. -/
theorem recvBuffer_dst (hs : s.len ≤ maxPacket) :
    MacAddr.load (recvBuffer id j (ethFrame dst src proto s)).mem recvReservedHeadRoom = dst := by
  have hlen := length_ethFrame dst src proto s
  refine MacAddr.ext (List.ext_getElem (by rw [MacAddr.length_addr, MacAddr.length_addr]) ?_)
  intro k h1 h2
  have hk : k < 6 := MacAddr.length_addr dst ▸ h2
  refine (Memory.getElem_read _ _ macAddrSize k h1).trans ?_
  rw [recvBuffer_mem _ _ (by omega) (ethFrame_fits dst src proto hs), dst_ethFrame _ _ _ _ hk,
    List.getD_eq_getElem _ _ h2]

/-- The receiver reads the type of the frame. -/
theorem recvBuffer_type (hs : s.len ≤ maxPacket) :
    (recvBuffer id j (ethFrame dst src proto s)).mem.load16 (recvReservedHeadRoom + 12)
      = UInt16.ofNat (htons proto.toNat) := by
  have hlen := length_ethFrame dst src proto s
  have hbyte : ∀ k, k < 2 → (recvBuffer id j (ethFrame dst src proto s)).mem
      (recvReservedHeadRoom + (12 + k))
        = (Memory.bytes16 (UInt16.ofNat (htons proto.toNat))).getD k 0 := by
    intro k hk
    rw [recvBuffer_mem _ _ (by omega) (ethFrame_fits dst src proto hs),
      type_ethFrame _ _ _ _ k hk]
  refine Eq.trans ?_ (Memory.load16_store16 (fun _ => 0) 0 (UInt16.ofNat (htons proto.toNat)))
  exact Memory.load16_congr (hbyte 0 (by omega)) (hbyte 1 (by omega))

/-- The receiver reads the bytes of the packet. -/
theorem recvBuffer_packet (hs : s.len ≤ maxPacket) {k : Nat} (hk : k < max s.len 46) :
    ((recvBuffer id j (ethFrame dst src proto s)).pulled ethHdrSize).mem
      (((recvBuffer id j (ethFrame dst src proto s)).pulled ethHdrSize).data + k)
        = s.mem (s.data + k) := by
  have hlen := length_ethFrame dst src proto s
  show (recvBuffer id j (ethFrame dst src proto s)).mem (recvReservedHeadRoom + 14 + k) = _
  rw [Nat.add_assoc, recvBuffer_mem _ _ (by omega) (ethFrame_fits dst src proto hs),
    body_ethFrame _ _ _ _ k (by omega)]

end Frame

/-- **What is read behind the Ethernet header is what was written**, whatever the padding. -/
theorem ArpHdr.at_received (hdr : ArpHdr) (id id' : SkbId) (j : IntfId) (dst src : MacAddr)
    (proto : UInt16) :
    hdr.At ((recvBuffer id j (ethFrame dst src proto (hdr.packet id'))).pulled ethHdrSize) := by
  have hlen : (recvBuffer id j (ethFrame dst src proto (hdr.packet id'))).len = 60 := by
    show ((ethFrame dst src proto (hdr.packet id')).take _).length = 60
    rw [List.length_take, length_ethFrame]
    rfl
  refine (hdr.at_packet id').congr ?_ fun k hk => recvBuffer_packet _ _ _ _ _ ?_ ?_
  · show arpHdrSize ≤ sizeSub (recvBuffer id j _).len ethHdrSize
    rw [hlen]
    decide
  · show 0 + arpHdrSize ≤ maxPacket
    decide
  · rw [arpHdrSize] at hk
    omega

/-! ### What a run puts on the links -/

/-- The frame an event puts on a link. -/
def Event.sentFrame : Event → Option (IntfId × List UInt8)
  | .sent i frame => some (i, frame)
  | _ => none

/-- The frames a run puts on the links, in order. -/
def sentFrames (w w' : World) : List (IntfId × List UInt8) :=
  (newEvents w w').filterMap Event.sentFrame

/-- A run that changes no table and puts these frames on the links. -/
structure Puts (frames : List (IntfId × List UInt8)) (w w' : World) : Prop where
  emits : Emits (fun _ => True) w w'
  sent : sentFrames w w' = frames

theorem Puts.of_trace {P : Event → Prop} {w w' : World} {es : List Event} (h : Emits P w w')
    (htrace : w'.trace = w.trace ++ es) : Puts (es.filterMap Event.sentFrame) w w' :=
  ⟨h.mono fun _ _ => trivial, by rw [sentFrames, newEvents_append htrace]⟩

theorem Puts.trans {frames frames' : List (IntfId × List UInt8)} {w w' w'' : World}
    (h : Puts frames w w') (h' : Puts frames' w' w'') : Puts (frames ++ frames') w w'' := by
  obtain ⟨es, hes, -⟩ := h.emits.trace
  obtain ⟨es', hes', -⟩ := h'.emits.trace
  have htrace : w''.trace = w.trace ++ (es ++ es') := by
    rw [hes', hes, List.append_assoc]
  have hsent := h.sent
  have hsent' := h'.sent
  rw [sentFrames, newEvents_append hes] at hsent
  rw [sentFrames, newEvents_append hes'] at hsent'
  rw [← hsent, ← hsent', ← List.filterMap_append]
  exact .of_trace (h.emits.trans h'.emits) htrace

/-- A run that only allocates and logs. -/
theorem Puts.logged (w : World) (n : Nat) (es : List Event) : Puts (es.filterMap Event.sentFrame) w
    { w with nextId := w.nextId + n, trace := w.trace ++ es } := by
  have hemits : Emits (fun _ => True) w
      { w with nextId := w.nextId + n, trace := w.trace ++ es } :=
    ⟨rfl, Nat.le_add_right _ _, es, rfl, fun _ _ => trivial⟩
  exact .of_trace hemits rfl

theorem Puts.refl (w : World) : Puts [] w w :=
  .of_trace (.refl (fun _ => True) w) (List.append_nil _).symm

theorem Puts.allocated (w : World) : Puts [] w w.allocated := .logged w 1 [.alloc w.nextId]

theorem Puts.received (w : World) (i : IntfId) (frame : List UInt8) :
    Puts [] w (w.received i frame) :=
  .logged w 1 [.alloc w.nextId, .received i (recvBuffer w.nextId i frame)]

theorem Puts.freed (w : World) (skb : SkBuff) : Puts [] w (w.freed skb) :=
  .logged w 0 [.free skb.id]

/-- The process once `ethernet_output` was called. -/
def World.framing (w : World) (i : IntfId) (mac : MacAddr) (proto : UInt16) (skb : SkBuff) : World :=
  { w with trace := w.trace ++ [.ethOutput i mac proto skb] }

/-- `ethernet_output` of a packet with room for the frame comes down to `send_pkt_out`. -/
theorem ethernetOutput_run {w : World} {i : IntfId} {intf : Intf} (hintf : w.intf i = some intf)
    {skb : SkBuff} (hroom : LinkRoom skb) (mac : MacAddr) (proto : UInt16) :
    ∃ s : SkBuff, s.bytes = ethFrame mac intf.macAddr proto skb ∧
      ethernetOutput i mac proto skb w = sendPktOut i s (w.framing i mac proto skb) := by
  have hderef : derefIntf i (w.framing i mac proto skb) = .ok intf (w.framing i mac proto skb) :=
    derefIntf_ok.mpr ⟨hintf, rfl⟩
  unfold ethernetOutput
  rw [run_bind_ok (a := ⟨⟩) (t := w.framing i mac proto skb) (log_ok.mpr rfl),
    run_bind_ok (skbPush_ok.mpr ⟨hroom.headroom, rfl, rfl⟩), run_bind_ok hderef]
  by_cases hshort : skb.len + ethHdrSize < 60
  · refine ⟨_, ?_, (congrFun (if_pos hshort) _).trans
      (run_bind_ok (skbPut_ok.mpr ⟨hroom.tailroom, rfl, rfl⟩))⟩
    have hmax : skb.len + ethHdrSize + (60 - (skb.len + ethHdrSize)) = 14 + max skb.len 46 := by
      rw [ethHdrSize] at hshort ⊢
      omega
    rw [ethFrame, ← read_framed hroom.headroom, ← hmax]
    rfl
  · refine ⟨_, ?_, congrFun (if_neg hshort) _⟩
    have hmax : skb.len + ethHdrSize = 14 + max skb.len 46 := by
      rw [ethHdrSize] at hshort ⊢
      omega
    rw [ethFrame, ← read_framed hroom.headroom, ← hmax]
    rfl

/-- **`ethernet_output` puts the frame of its packet on a link that transmits**, and nothing
else. -/
theorem ethernetOutput_puts {w : World} (hg : GraphOk w) {i : IntfId} {intf : Intf}
    (hintf : w.intf i = some intf) {skb : SkBuff} (hroom : LinkRoom skb) (mac : MacAddr)
    (proto : UInt16) :
    ∃ r w', ethernetOutput i mac proto skb w = .ok r w' ∧
      Puts (if w.transmits i then [(i, ethFrame mac intf.macAddr proto skb)] else []) w w' := by
  obtain ⟨s, hs, hrun⟩ := ethernetOutput_run hintf hroom mac proto
  have hgt : GraphOk (w.framing i mac proto skb) := hg.of_frame rfl rfl rfl
  have hlog : Puts [] w (w.framing i mac proto skb) := .logged w 0 [.ethOutput i mac proto skb]
  obtain ⟨w', hsend, htrace, -⟩ := sendPktOut_sent hgt hintf s
  have hemits := (sendPktOut_emits (P := fun _ => True) (fun _ _ => trivial) i s).ok hsend
  refine ⟨_, w', hrun.trans hsend, ?_⟩
  convert hlog.trans (Puts.of_trace hemits htrace) using 1
  have htransmits : (w.framing i mac proto skb).transmits i = w.transmits i := rfl
  rw [hs, htransmits]
  cases w.transmits i <;> cases (w.framing i mac proto skb).accepts i <;> rfl

theorem freeSkbIf_puts (c : Bool) (skb : SkBuff) (w : World) :
    ∃ w', freeSkbIf c skb w = .ok ⟨⟩ w' ∧ Puts [] w w' := by
  cases c with
  | true => exact ⟨_, rfl, .freed w skb⟩
  | false => exact ⟨w, rfl, .refl w⟩

/-! ### The two packets -/

/-- The header `send_arp_broadcast_request` writes. -/
def Intf.arpRequest (intf : Intf) (ip : UInt32) : ArpHdr :=
  { opcode := arpOpRequest, senderHw := intf.macAddr, senderIp := intf.ipAddr,
    targetHw := MacAddr.zero, targetIp := ip }

/-- The header `send_arp_reply_msg` writes. -/
def Intf.arpReply (intf : Intf) (hw : MacAddr) (ip : UInt32) : ArpHdr :=
  { opcode := arpOpReply, senderHw := intf.macAddr, senderIp := intf.ipAddr, targetHw := hw,
    targetIp := ip }

/-- The frame a packet travels in. -/
def ArpHdr.frame (hdr : ArpHdr) (dst : MacAddr) : List UInt8 :=
  ethFrame dst hdr.senderHw ethProtoArp (hdr.packet 0)

theorem ArpHdr.linkRoom_packet (hdr : ArpHdr) (id : SkbId) : LinkRoom (hdr.packet id) :=
  (sendable_arpPacket id hdr.opcode hdr.senderHw hdr.senderIp hdr.targetHw hdr.targetIp).toLinkRoom

section Senders

variable {w : World} {i : IntfId} {intf : Intf}

theorem sendArpBroadcastRequest_puts (hg : GraphOk w) (hintf : w.intf i = some intf) (ip : UInt32) :
    ∃ w', sendArpBroadcastRequest i ip w = .ok ⟨⟩ w' ∧
      Puts (if w.transmits i then [(i, (intf.arpRequest ip).frame MacAddr.broadcast)] else [])
        w w' := by
  have hga : GraphOk w.allocated := hg.of_frame rfl rfl rfl
  have hderef : derefIntf i w.allocated = .ok intf w.allocated := derefIntf_ok.mpr ⟨hintf, rfl⟩
  obtain ⟨ok, t, hout, hputs⟩ := ethernetOutput_puts hga hintf
    ((intf.arpRequest ip).linkRoom_packet w.nextId) MacAddr.broadcast ethProtoArp
  obtain ⟨w', hfree, hfreed⟩ := freeSkbIf_puts (!ok) ((intf.arpRequest ip).packet w.nextId) t
  refine ⟨w', ?_, ?_⟩
  · unfold sendArpBroadcastRequest
    rw [run_bind_ok allocArpSkb_run, run_bind_ok hderef]
    exact (run_bind_ok hout).trans hfree
  · have hall := ((Puts.allocated w).trans hputs).trans hfreed
    rw [List.nil_append, List.append_nil] at hall
    exact hall

theorem sendArpReplyMsg_puts (hg : GraphOk w) (hintf : w.intf i = some intf) {req : SkBuff}
    {hdr : ArpHdr} (hat : hdr.At req) (hreq : Filled req) :
    ∃ w', sendArpReplyMsg i req req.data w = .ok ⟨⟩ w' ∧
      Puts (if w.transmits i
        then [(i, (intf.arpReply hdr.senderHw hdr.senderIp).frame hdr.senderHw)] else []) w w' := by
  have hlen := hat.len
  rw [arpHdrSize] at hlen
  have hga : GraphOk w.allocated := hg.of_frame rfl rfl rfl
  have hderef : derefIntf i w.allocated = .ok intf w.allocated := derefIntf_ok.mpr ⟨hintf, rfl⟩
  have hhw : readMac req (req.data + 8) w.allocated = .ok hdr.senderHw w.allocated :=
    readMac_ok.mpr ⟨hreq.readable fun _ => by omega, hat.senderHw.symm, rfl⟩
  have hip : readU32 req (req.data + 14) w.allocated = .ok hdr.senderIp w.allocated :=
    readU32_ok.mpr ⟨hreq.readable fun _ => by omega, hat.senderIp.symm, rfl⟩
  obtain ⟨ok, w', hout, hputs⟩ := ethernetOutput_puts hga hintf
    ((intf.arpReply hdr.senderHw hdr.senderIp).linkRoom_packet w.nextId) hdr.senderHw ethProtoArp
  refine ⟨w', ?_, ?_⟩
  · unfold sendArpReplyMsg
    rw [run_bind_ok allocArpSkb_run, run_bind_ok hderef, run_bind_ok hhw, run_bind_ok hip]
    exact run_bind_ok hout
  · have hall := (Puts.allocated w).trans hputs
    rw [List.nil_append] at hall
    exact hall

end Senders

/-! ### Receiving them -/

/-- What a node learned: the entry a lookup of the address finds is resolved, whatever waited
in it is gone, and nothing else is changed. -/
structure ArpLearned (n : NodeId) (ip : UInt32) (mac : MacAddr) (w w' : World) : Prop where
  found : ∀ entry, arpTableLookup (w'.arpTable n) ip = some entry →
    entry.resolved = true ∧ entry.mac = mac
  others : arpTableLookup (w.arpTable n) ip = none ∧ w'.arpTable n = w.arpTable n ∨
    ∃ before entry after, w.arpTable n = before ++ entry :: after ∧
      arpTableLookup (w.arpTable n) ip = some entry ∧ (∀ e ∈ before, e.ip ≠ ip) ∧
      w'.arpTable n
        = before ++ { entry with resolved := true, mac := mac, pendingPkts := [] } :: after
  elsewhere : ∀ n', n' ≠ n → w'.arpTable n' = w.arpTable n'

theorem ArpLearned.unknown {n : NodeId} {ip : UInt32} {mac : MacAddr} {w w' : World}
    (hlook : arpTableLookup (w.arpTable n) ip = none) (htable : w'.arpTable = w.arpTable) :
    ArpLearned n ip mac w w' := by
  refine ⟨fun entry hentry => ?_, Or.inl ⟨hlook, by rw [htable]⟩, fun n' _ => by rw [htable]⟩
  rw [htable, hlook] at hentry
  cases hentry

theorem ArpLearned.of_learnMac {n : NodeId} {ip : UInt32} {mac : MacAddr} {w w' : World}
    {entry : ArpEntry} (hlook : arpTableLookup (w.arpTable n) ip = some entry)
    (htable : w'.arpTable = Function.update w.arpTable n (learnMac (w.arpTable n) ip mac)) :
    ArpLearned n ip mac w w' := by
  have hn : w'.arpTable n = learnMac (w.arpTable n) ip mac := by
    rw [htable, Function.update_self]
  refine ⟨fun entry' hentry => ?_, Or.inr ?_, fun n' hne => ?_⟩
  · have hfound : arpTableLookup (learnMac (w.arpTable n) ip mac) ip
        = (arpTableLookup (w.arpTable n) ip).map _ := List.find?_modifyFirst fun _ h => h
    rw [hn, hfound, hlook] at hentry
    obtain rfl := Option.some.inj hentry
    exact ⟨rfl, rfl⟩
  · obtain ⟨before, after, hsplit, hbefore, hmodify⟩ := List.modifyFirst_split hlook
    refine ⟨before, entry, after, hsplit, hlook, fun e he => ?_, hn.trans hmodify⟩
    have hother := hbefore e he
    simpa using hother
  · rw [htable, Function.update_of_ne hne]

section Receivers

variable {w : World} {i : IntfId} {intf : Intf} {hdr : ArpHdr} {skb : SkBuff}

/-- `arp_input` goes by the opcode. -/
theorem arpInput_dispatch (hi : skb.intf = some i) (hskb : Filled skb) (hat : hdr.At skb) :
    arpInput skb w = (do
      let ok ← arpDispatch i skb (UInt16.ofNat (htons hdr.opcode))
      freeSkbIf ok skb
      pure ok : M Bool) w := by
  have hlen := hat.len
  rw [arpHdrSize] at hlen
  have hread : readU16 skb (skb.data + 6) w = .ok (UInt16.ofNat (htons hdr.opcode)) w :=
    readU16_ok.mpr ⟨hskb.readable fun _ => by omega, hat.opcode.symm, rfl⟩
  unfold arpInput
  rw [if_neg (Nat.not_lt.mpr hat.len), run_bind_ok hread, hi]

/-- **A request for another address is ignored.** -/
theorem arpInput_unasked (hi : skb.intf = some i) (hintf : w.intf i = some intf)
    (hskb : Filled skb) (hat : hdr.At skb) (hop : hdr.opcode = arpOpRequest)
    (hip : intf.ipAddr ≠ hdr.targetIp) : arpInput skb w = .ok false w := by
  have hlen := hat.len
  rw [arpHdrSize] at hlen
  have htarget : readU32 skb (skb.data + 24) w = .ok hdr.targetIp w :=
    readU32_ok.mpr ⟨hskb.readable fun _ => by omega, hat.targetIp.symm, rfl⟩
  have hdispatch : arpDispatch i skb (UInt16.ofNat (htons hdr.opcode)) w = .ok false w := by
    unfold arpDispatch processArpBroadcastRequest
    rw [hop, if_pos (by decide), run_bind_ok (derefIntf_ok.mpr ⟨hintf, rfl⟩), run_bind_ok htarget,
      if_pos hip]
    rfl
  rw [arpInput_dispatch hi hskb hat]
  exact run_bind_ok hdispatch

/-- **A request for the interface's own address is answered to the sender.** -/
theorem arpInput_asked (hg : GraphOk w) (hi : skb.intf = some i) (hintf : w.intf i = some intf)
    (hskb : Filled skb) (hat : hdr.At skb) (hop : hdr.opcode = arpOpRequest)
    (hip : intf.ipAddr = hdr.targetIp) : ∃ w', arpInput skb w = .ok true w' ∧
      Puts (if w.transmits i
        then [(i, (intf.arpReply hdr.senderHw hdr.senderIp).frame hdr.senderHw)] else []) w w' := by
  have hlen := hat.len
  rw [arpHdrSize] at hlen
  have htarget : readU32 skb (skb.data + 24) w = .ok hdr.targetIp w :=
    readU32_ok.mpr ⟨hskb.readable fun _ => by omega, hat.targetIp.symm, rfl⟩
  obtain ⟨t, hsend, hputs⟩ := sendArpReplyMsg_puts hg hintf hat hskb
  have hdispatch : arpDispatch i skb (UInt16.ofNat (htons hdr.opcode)) w = .ok true t := by
    unfold arpDispatch processArpBroadcastRequest
    rw [hop, if_pos (by decide), run_bind_ok (derefIntf_ok.mpr ⟨hintf, rfl⟩), run_bind_ok htarget,
      if_neg (not_not.mpr hip)]
    exact run_bind_ok hsend
  refine ⟨t.freed skb, ?_, ?_⟩
  · rw [arpInput_dispatch hi hskb hat]
    exact run_bind_ok hdispatch
  · have hall := hputs.trans (.freed t skb)
    rwa [List.append_nil] at hall

/-- The fields of a reply are taken over. -/
theorem arpInput_replied (hi : skb.intf = some i) (hintf : w.intf i = some intf)
    (hskb : Filled skb) (hat : hdr.At skb) (hop : hdr.opcode = arpOpReply) {r : Bool} {w' : World}
    (hrun : arpInput skb w = .ok r w') :
    ArpLearned intf.node hdr.senderIp hdr.senderHw w w' := by
  rw [arpInput_dispatch hi hskb hat, hop] at hrun
  obtain ⟨ok, t, hdispatch, hfree⟩ := bind_ok_iff.mp hrun
  obtain ⟨_, t', hfree, hdone⟩ := bind_ok_iff.mp hfree
  cases hdone
  have htable : w'.arpTable = t.arpTable :=
    ((freeSkbIf_emits (P := fun _ => True) (fun _ _ => trivial) _ _).ok hfree).arpTable
  unfold arpDispatch processArpReplyMsg at hdispatch
  rw [if_neg (by decide), if_pos (by decide), run_bind_ok (derefIntf_ok.mpr ⟨hintf, rfl⟩)]
    at hdispatch
  obtain ⟨_, t', hupdate, hdone⟩ := bind_ok_iff.mp hdispatch
  cases hdone
  have hsender : skb.arpSender = hdr.senderIp := hat.senderIp
  cases hlook : arpTableLookup (w.arpTable intf.node) skb.arpSender with
  | none =>
      obtain rfl := arpTableUpdateFromArpReply_unknown hlook hupdate
      rw [hsender] at hlook
      exact .unknown hlook htable
  | some entry =>
      have hflush := arpTableUpdateFromArpReply_ok hlook hupdate
      rw [hsender] at hlook hflush
      rw [hat.senderHw] at hflush
      exact .of_learnMac hlook (htable.trans hflush.arpTable)

/-- Taking over a reply completes when what waits for it can leave. -/
theorem arpInput_reply_completes (hg : GraphOk w) (hi : skb.intf = some i)
    (hintf : w.intf i = some intf) (hskb : Filled skb) (hat : hdr.At skb)
    (hop : hdr.opcode = arpOpReply) (hready : ∀ s, Pending w intf.node s → Ready w s) :
    Completes (arpInput skb) w := by
  have hlen := hat.len
  rw [arpHdrSize] at hlen
  have hip : readU32 skb (skb.data + 14) w = .ok hdr.senderIp w :=
    readU32_ok.mpr ⟨hskb.readable fun _ => by omega, hat.senderIp.symm, rfl⟩
  have hhw : readMac skb (skb.data + 8) w = .ok hdr.senderHw w :=
    readMac_ok.mpr ⟨hskb.readable fun _ => by omega, hat.senderHw.symm, rfl⟩
  have hupdate : FaultsIn (fun _ => False) (arpTableUpdateFromArpReply intf.node skb skb.data) w := by
    refine faultsIn_bind_of_ok hip (faultsIn_bind_of_ok (run_get w) ?_)
    cases hlook : arpTableLookup (w.arpTable intf.node) hdr.senderIp with
    | none => exact faultsIn_pure _ _
    | some entry =>
        have hpending : ∀ s ∈ entry.pendingPkts, Ready w s := fun s hs =>
          hready s ⟨entry, List.mem_of_find?_eq_some hlook, hs⟩
        refine faultsIn_bind_of_ok hhw (faultsIn_bind_of_ok (a := ⟨⟩) (modifyArpEntry_ok.mpr rfl) ?_)
        refine flushPending_faultsIn (Or.inr (hg.of_frame rfl rfl rfl))
          (fun s hs => ⟨(hpending s hs).headroom, (hpending s hs).tailroom⟩)
          (fun s hs j hj => ?_) fun s hs hnone => ?_
        · obtain ⟨k, hk, hlive⟩ := (hpending s hs).intf
          obtain rfl : k = j := Option.some.inj (hk.symm.trans hj)
          exact Or.inr hlive
        · obtain ⟨k, hk, -⟩ := (hpending s hs).intf
          rw [hnone] at hk
          cases hk
  refine completes_of_faultsIn ?_
  unfold FaultsIn
  rw [arpInput_dispatch hi hskb hat, hop]
  refine faultsIn_bind ?_ fun ok t _ => ?_
  · unfold arpDispatch processArpReplyMsg
    rw [if_neg (by decide), if_pos (by decide)]
    refine faultsIn_bind_of_ok (derefIntf_ok.mpr ⟨hintf, rfl⟩) ?_
    exact faultsIn_bind hupdate fun _ _ _ => faultsIn_pure _ _
  · obtain ⟨t', hfree, -⟩ := freeSkbIf_puts ok skb t
    exact faultsIn_bind_of_ok hfree (faultsIn_pure _ _)

end Receivers

/-! ### One frame -/

theorem recvBuffer_frame_len (hdr : ArpHdr) (id : SkbId) (j : IntfId) (dst : MacAddr) :
    (recvBuffer id j (hdr.frame dst)).len = 60 := by
  show ((ethFrame dst hdr.senderHw ethProtoArp (hdr.packet 0)).take _).length = 60
  rw [List.length_take, length_ethFrame]
  rfl

/-- `pkt_receive` of an ARP frame for the interface. -/
theorem pktReceive_arp {w : World} {j : IntfId} {intf : Intf} (hintf : w.intf j = some intf)
    (hconfig : intf.isIpAddrConfig = true) (hdr : ArpHdr) {dst : MacAddr}
    (hqual : ethernetInputQualify intf dst = true) (id : SkbId) :
    pktReceive (recvBuffer id j (hdr.frame dst)) w
      = arpInput ((recvBuffer id j (hdr.frame dst)).pulled ethHdrSize) w := by
  have hsmall : (hdr.packet 0).len ≤ maxPacket := by
    show 0 + arpHdrSize ≤ maxPacket
    decide
  have hdst : MacAddr.load (recvBuffer id j (hdr.frame dst)).mem recvReservedHeadRoom = dst :=
    recvBuffer_dst id j dst hdr.senderHw ethProtoArp hsmall
  have htype : (recvBuffer id j (hdr.frame dst)).mem.load16 (recvReservedHeadRoom + 12)
      = UInt16.ofNat (htons ethProtoArp.toNat) :=
    recvBuffer_type id j dst hdr.senderHw ethProtoArp hsmall
  have harp : frameIntf w (recvBuffer id j (hdr.frame dst)) ethProtoArp = some intf := by
    refine frameIntf_eq_some.mpr
      ⟨j, rfl, hintf, hconfig, by rw [recvBuffer_frame_len]; decide, ?_, ?_⟩
    · show ethernetInputQualify intf (MacAddr.load _ recvReservedHeadRoom) = true
      rw [hdst]
      exact hqual
    · show ((recvBuffer id j (hdr.frame dst)).mem.load16 (recvReservedHeadRoom + 12)).toNat = _
      rw [htype]
      decide
  exact pktReceive_arpInput harp (filled_recvBuffer _ _ _)

section Frames

variable {w : World} {j : IntfId} {intf : Intf} (hdr : ArpHdr) {dst : MacAddr}

/-- The ARP packet of a received frame. -/
def ArpHdr.received (hdr : ArpHdr) (dst : MacAddr) (id : SkbId) (j : IntfId) : SkBuff :=
  (recvBuffer id j (hdr.frame dst)).pulled ethHdrSize

theorem ArpHdr.filled_received (hdr : ArpHdr) (dst : MacAddr) (id : SkbId) (j : IntfId) :
    Filled (hdr.received dst id j) :=
  (filled_recvBuffer _ _ _).pulled (by rw [recvBuffer_frame_len]; decide)

/-- What `recv_task` does with an ARP frame for the interface. -/
theorem recvFrame_arp (hintf : w.intf j = some intf) (hconfig : intf.isIpAddrConfig = true)
    (hqual : ethernetInputQualify intf dst = true) :
    recvFrame j (hdr.frame dst) w = (do
      let ok ← arpInput (hdr.received dst w.nextId j)
      freeSkbIf (!ok) (recvBuffer w.nextId j (hdr.frame dst)) : M Unit)
        (w.received j (hdr.frame dst)) := by
  have hpkt := pktReceive_arp (w := w.received j (hdr.frame dst)) hintf hconfig hdr hqual w.nextId
  unfold recvFrame
  rw [run_bind_ok (recvSkb_eq _ _ _)]
  cases hrun : arpInput (hdr.received dst w.nextId j) (w.received j (hdr.frame dst)) with
  | ok ok t => rw [run_bind_ok (hpkt.trans hrun), run_bind_ok hrun]
  | error e t => rw [run_bind_error (hpkt.trans hrun), run_bind_error hrun]

/-- **A broadcast request for another address is dropped.** -/
theorem recvFrame_unasked (hintf : w.intf j = some intf) (hop : hdr.opcode = arpOpRequest)
    (hip : intf.ipAddr ≠ hdr.targetIp) :
    ∃ w', recvFrame j (hdr.frame MacAddr.broadcast) w = .ok ⟨⟩ w' ∧ Puts [] w w' := by
  have hintf' : (w.received j (hdr.frame MacAddr.broadcast)).intf j = some intf := hintf
  refine ⟨(w.received j (hdr.frame MacAddr.broadcast)).freed
    (recvBuffer w.nextId j (hdr.frame MacAddr.broadcast)), ?_,
    (Puts.received w j _).trans (.freed _ _)⟩
  cases hconfig : intf.isIpAddrConfig with
  | true =>
      have hqual : ethernetInputQualify intf MacAddr.broadcast = true := by
        unfold ethernetInputQualify
        rw [show isMacBroadcastAddr MacAddr.broadcast = true by decide, Bool.or_true]
      rw [recvFrame_arp hdr hintf hconfig hqual]
      exact run_bind_ok (arpInput_unasked rfl hintf' (hdr.filled_received _ _ _)
        (hdr.at_received _ _ _ _ _ _) hop hip)
  | false =>
      have hderef := derefIntfPtr_ok.mpr
        (⟨⟨j, rfl, hintf'⟩, rfl⟩ : (∃ i, some j = some i ∧ _ = some intf) ∧ _ = _)
      unfold recvFrame
      rw [run_bind_ok (recvSkb_eq _ _ _)]
      refine run_bind_ok (a := false) ((run_bind_ok hderef).trans ?_)
      rw [hconfig]
      rfl

/-- **A frame with a request for the interface's own address is answered.** -/
theorem recvFrame_asked (hg : GraphOk w) (hintf : w.intf j = some intf)
    (hconfig : intf.isIpAddrConfig = true) (hqual : ethernetInputQualify intf dst = true)
    (hop : hdr.opcode = arpOpRequest) (hip : intf.ipAddr = hdr.targetIp) :
    ∃ w', recvFrame j (hdr.frame dst) w = .ok ⟨⟩ w' ∧
      Puts (if w.transmits j
        then [(j, (intf.arpReply hdr.senderHw hdr.senderIp).frame hdr.senderHw)] else []) w w' := by
  have hintf' : (w.received j (hdr.frame dst)).intf j = some intf := hintf
  have hg' : GraphOk (w.received j (hdr.frame dst)) := hg.of_frame rfl rfl rfl
  obtain ⟨w', hrun, hputs⟩ := arpInput_asked hg' rfl hintf' (hdr.filled_received dst w.nextId j)
    (hdr.at_received _ _ _ _ _ _) hop hip
  refine ⟨w', ?_, (Puts.received w j _).trans hputs⟩
  rw [recvFrame_arp hdr hintf hconfig hqual]
  exact run_bind_ok hrun

/-- A reply to the interface is taken over. -/
theorem recvFrame_replied (hintf : w.intf j = some intf) (hconfig : intf.isIpAddrConfig = true)
    (hqual : ethernetInputQualify intf dst = true) (hop : hdr.opcode = arpOpReply)
    {w' : World} (hrun : recvFrame j (hdr.frame dst) w = .ok ⟨⟩ w') :
    ArpLearned intf.node hdr.senderIp hdr.senderHw w w' := by
  have hintf' : (w.received j (hdr.frame dst)).intf j = some intf := hintf
  rw [recvFrame_arp hdr hintf hconfig hqual] at hrun
  obtain ⟨ok, t, harp, hfree⟩ := bind_ok_iff.mp hrun
  have hlearned := arpInput_replied rfl hintf' (hdr.filled_received dst w.nextId j)
    (hdr.at_received _ _ _ _ _ _) hop harp
  have htable : w'.arpTable = t.arpTable :=
    ((freeSkbIf_emits (P := fun _ => True) (fun _ _ => trivial) _ _).ok hfree).arpTable
  exact ⟨by rw [htable]; exact hlearned.found, by rw [htable]; exact hlearned.others,
    by rw [htable]; exact hlearned.elsewhere⟩

/-- Taking over a reply completes when what waits can leave. -/
theorem recvFrame_reply_completes (hg : GraphOk w) (hintf : w.intf j = some intf)
    (hconfig : intf.isIpAddrConfig = true) (hqual : ethernetInputQualify intf dst = true)
    (hop : hdr.opcode = arpOpReply) (hready : ∀ s, Pending w intf.node s → Ready w s) :
    Completes (recvFrame j (hdr.frame dst)) w := by
  have hintf' : (w.received j (hdr.frame dst)).intf j = some intf := hintf
  have hg' : GraphOk (w.received j (hdr.frame dst)) := hg.of_frame rfl rfl rfl
  obtain ⟨ok, t, hrun⟩ := arpInput_reply_completes hg' rfl hintf'
    (hdr.filled_received dst w.nextId j) (hdr.at_received _ _ _ _ _ _) hop fun s hs =>
      ⟨(hready s hs).headroom, (hready s hs).tailroom, (hready s hs).intf⟩
  obtain ⟨w', hfree, -⟩ := freeSkbIf_puts (!ok) (recvBuffer w.nextId j (hdr.frame dst)) t
  refine ⟨⟨⟩, w', ?_⟩
  rw [recvFrame_arp hdr hintf hconfig hqual]
  exact (run_bind_ok hrun).trans hfree

end Frames

/-! ### The exchange -/

/-- The frame of a request for an address. -/
def Intf.requestFrame (intf : Intf) (ip : UInt32) : List UInt8 :=
  (intf.arpRequest ip).frame MacAddr.broadcast

/-- The frame of the answer to the request of an interface. -/
def Intf.replyFrame (intf asker : Intf) : List UInt8 :=
  (intf.arpReply asker.macAddr asker.ipAddr).frame asker.macAddr

/-- **An ARP exchange.**  The request of `a` is one broadcast frame, which every interface with
another address drops; `b` answers it with one frame, and that frame tells the node of `a` the
hardware address of `b` and changes nothing else in any table. -/
theorem arp_exchange {w : World} (hg : GraphOk w) {a b : IntfId} {ia ib : Intf}
    (ha : w.intf a = some ia) (hb : w.intf b = some ib) (hmode : ia.isIpAddrConfig = true)
    (hmode' : ib.isIpAddrConfig = true) :
    ∃ w₁, sendArpBroadcastRequest a ib.ipAddr w = .ok ⟨⟩ w₁ ∧
      Puts (if w.transmits a then [(a, ia.requestFrame ib.ipAddr)] else []) w w₁ ∧
      (∀ c ic t, t.intf c = some ic → ic.ipAddr ≠ ib.ipAddr →
        ∃ t', recvFrame c (ia.requestFrame ib.ipAddr) t = .ok ⟨⟩ t' ∧ Puts [] t t') ∧
      ∃ w₂, recvFrame b (ia.requestFrame ib.ipAddr) w₁ = .ok ⟨⟩ w₂ ∧
        Puts (if w₁.transmits b then [(b, ib.replyFrame ia)] else []) w₁ w₂ ∧
        (PendingReady w → Completes (recvFrame a (ib.replyFrame ia)) w₂) ∧
        ∀ w₃, recvFrame a (ib.replyFrame ia) w₂ = .ok ⟨⟩ w₃ →
          ArpLearned ia.node ib.ipAddr ib.macAddr w w₃ := by
  obtain ⟨w₁, hrequest, hputs₁⟩ := sendArpBroadcastRequest_puts hg ha ib.ipAddr
  have hg₁ : GraphOk w₁ :=
    hg.of_frame hputs₁.emits.intf hputs₁.emits.link hputs₁.emits.rtTable
  have hb₁ : w₁.intf b = some ib := by rw [hputs₁.emits.intf, hb]
  have hqual : ethernetInputQualify ib MacAddr.broadcast = true := by
    unfold ethernetInputQualify
    rw [show isMacBroadcastAddr MacAddr.broadcast = true by decide, Bool.or_true]
  have hqual' : ethernetInputQualify ia ia.macAddr = true := by
    unfold ethernetInputQualify
    rw [beq_self_eq_true, Bool.true_or]
  obtain ⟨w₂, hasked, hputs₂⟩ := recvFrame_asked (ia.arpRequest ib.ipAddr) hg₁ hb₁ hmode'
    hqual rfl rfl
  have hall := hputs₁.emits.trans hputs₂.emits
  have ha₂ : w₂.intf a = some ia := by rw [hall.intf, ha]
  refine ⟨w₁, hrequest, hputs₁, fun c ic t hc hother => recvFrame_unasked _ hc rfl hother, w₂, hasked,
    hputs₂, fun hready => ?_, fun w₃ hreply => ?_⟩
  · refine recvFrame_reply_completes (ib.arpReply ia.macAddr ia.ipAddr)
      (hg.of_frame hall.intf hall.link hall.rtTable) ha₂ hmode hqual'
      rfl fun s hs => ?_
    unfold Pending at hs
    rw [hall.arpTable] at hs
    exact (hready ia.node s hs).of_live fun i => by rw [hall.intf]; exact id
  · have hlearned := recvFrame_replied (ib.arpReply ia.macAddr ia.ipAddr) ha₂ hmode hqual'
      rfl hreply
    have hothers := hlearned.others
    have helsewhere := hlearned.elsewhere
    rw [hall.arpTable] at hothers helsewhere
    exact ⟨hlearned.found, hothers, helsewhere⟩

/-- The state once a packet of `node0` waits for the hardware address of its neighbour. -/
def Fixture.asking : World := after [.icmpOut 0 (addr 192 168 89 2) 8 0 []]

theorem arp_exchange_fixture : ∃ ia ib w₁ w₂ w₃,
    Fixture.asking.intf 0 = some ia ∧ Fixture.asking.intf 1 = some ib ∧
      sendArpBroadcastRequest 0 ib.ipAddr Fixture.asking = .ok ⟨⟩ w₁ ∧
      (0, ia.requestFrame ib.ipAddr) ∈ sentFrames Fixture.asking w₁ ∧
      recvFrame 1 (ia.requestFrame ib.ipAddr) w₁ = .ok ⟨⟩ w₂ ∧
      recvFrame 0 (ib.replyFrame ia) w₂ = .ok ⟨⟩ w₃ ∧
      (arpTableLookup (Fixture.asking.arpTable 0) ib.ipAddr).isSome ∧
      ArpLearned 0 ib.ipAddr ib.macAddr Fixture.asking w₃ := by
  have hreach : Reachable Fixture.asking := Fixture.reachable_after _
  obtain ⟨hmode, hmode', hsends⟩ :
      (Fixture.asking.intf 0).any (fun ia => ia.isIpAddrConfig && ia.node == 0) = true ∧
      (Fixture.asking.intf 1).any (fun ib => ib.isIpAddrConfig &&
        (arpTableLookup (Fixture.asking.arpTable 0) ib.ipAddr).isSome) = true ∧
      Fixture.asking.transmits 0 = true := by decide +kernel
  generalize Fixture.asking = w at *
  obtain ⟨ia, ha, hia⟩ := (Option.any_eq_true _ _).mp hmode
  obtain ⟨ib, hb, hib⟩ := (Option.any_eq_true _ _).mp hmode'
  obtain ⟨hia, hnode⟩ := Bool.and_eq_true_iff.mp hia
  obtain ⟨hib, hentry⟩ := Bool.and_eq_true_iff.mp hib
  obtain ⟨w₁, hrequest, hputs, -, w₂, hasked, -, hcompletes, hlearned⟩ :=
    arp_exchange hreach.graphOk ha hb hia hib
  obtain ⟨u, w₃, hreply⟩ := hcompletes hreach.pendingReady
  have hlearned' := hlearned w₃ hreply
  rw [beq_iff_eq.mp hnode] at hlearned'
  refine ⟨ia, ib, w₁, w₂, w₃, ha, hb, hrequest, ?_, hasked, hreply, hentry, hlearned'⟩
  rw [hputs.sent, if_pos hsends]
  exact List.mem_singleton_self _

end SimpleTcpip
