/-
What the node puts on the wire, and where it comes from.

A packet handed to `ethernet_output` is one a sender built, one `ip_forward` rewrote, or an
ARP packet; a parked one is handed over later as it was parked.  `Carries K w` says that `K`
holds of everything the node may hand over from a state, and `Wires K` that it holds of
everything a run did hand over.  Every function keeps the first and does the second, so a
property of packets is shown for the three producers only.
-/
import SimpleTcpip.Proofs.Calls
import SimpleTcpip.Proofs.Room

namespace SimpleTcpip

open Fallible

/-! ### The frame of a packet -/

/-- The frame `ethernet_output` sends: a short packet is followed by what its buffer holds
behind the tail. -/
def ethFrame (dst src : MacAddr) (proto : UInt16) (s : SkBuff) : List UInt8 :=
  dst.addr ++ src.addr ++ Memory.bytes16 (UInt16.ofNat (htons proto.toNat))
    ++ s.mem.read s.data (max s.len 46)

theorem length_ethFrame (dst src : MacAddr) (proto : UInt16) (s : SkBuff) :
    (ethFrame dst src proto s).length = max 60 (14 + s.len) := by
  simp only [ethFrame, List.length_append, MacAddr.length_addr, Memory.length_bytes16,
    Memory.length_read]
  omega

section Bytes

variable (dst src : MacAddr) (proto : UInt16) (s : SkBuff)

/-- A frame starts with the addressee. -/
theorem dst_ethFrame {k : Nat} (hk : k < 6) :
    (ethFrame dst src proto s).getD k 0 = dst.addr.getD k 0 := by
  unfold ethFrame
  rw [List.append_assoc, List.append_assoc,
    List.getD_append _ _ _ _ (by rw [MacAddr.length_addr]; exact hk)]

/-- The type field is behind the addresses. -/
theorem type_ethFrame (k : Nat) (hk : k < 2) : (ethFrame dst src proto s).getD (12 + k) 0
    = (Memory.bytes16 (UInt16.ofNat (htons proto.toNat))).getD k 0 := by
  have haddr : (dst.addr ++ src.addr).length = 12 := by
    simp only [List.length_append, MacAddr.length_addr]
  unfold ethFrame
  rw [List.getD_append _ _ _ _ (by
      rw [List.length_append, haddr, Memory.length_bytes16]
      omega),
    List.getD_append_right _ _ _ _ (by omega), haddr, Nat.add_sub_cancel_left]

/-- The packet is behind the type field. -/
theorem body_ethFrame (k : Nat) (hk : k < max s.len 46) :
    (ethFrame dst src proto s).getD (14 + k) 0 = s.mem (s.data + k) := by
  have hdr : (dst.addr ++ src.addr ++ Memory.bytes16 (UInt16.ofNat (htons proto.toNat))).length
      = 14 := by
    simp only [List.length_append, MacAddr.length_addr, Memory.length_bytes16]
  unfold ethFrame
  rw [List.getD_append_right _ _ _ _ (by omega), hdr, Nat.add_sub_cancel_left,
    Memory.getD_read _ hk]

end Bytes

/-- The padding of a tidy packet is zero. -/
theorem ethFrame_padding {dst src : MacAddr} {proto : UInt16} {s : SkBuff} (hs : Tidy s) :
    ethFrame dst src proto s = dst.addr ++ src.addr
      ++ Memory.bytes16 (UInt16.ofNat (htons proto.toNat)) ++ s.bytes
      ++ List.replicate (46 - s.len) 0 := by
  have hsplit : max s.len 46 = s.len + (46 - s.len) := by omega
  have hpad : s.mem.read (s.data + s.len) (46 - s.len) = List.replicate (46 - s.len) 0 := by
    refine List.ext_getElem (by simp) fun k hk _ => ?_
    rw [Memory.getElem_read, List.getElem_replicate]
    exact hs.blank _ (by rw [← hs.len]; omega)
  rw [ethFrame, hsplit, Memory.read_add, hpad, SkBuff.bytes, List.append_assoc _ (s.mem.read _ _)]

/-- The header in front of what was there. -/
theorem read_ethHdr (m : Memory) (p n : Nat) (dst src : MacAddr) (type : UInt16) :
    (((m.write p dst.addr).write (p + 6) src.addr).store16 (p + 12) type).read p (14 + n)
      = dst.addr ++ src.addr ++ Memory.bytes16 type ++ m.read (p + 14) n := by
  have hdst : (((m.write p dst.addr).write (p + 6) src.addr).store16 (p + 12) type).read p 6
      = dst.addr := by
    rw [Memory.store16, Memory.read_write_disjoint _ _ (Or.inl (by omega)),
      Memory.read_write_disjoint _ _ (Or.inl (by omega)), ← MacAddr.length_addr dst,
      Memory.read_write_same]
  have hsrc : (((m.write p dst.addr).write (p + 6) src.addr).store16 (p + 12) type).read (p + 6) 6
      = src.addr := by
    rw [Memory.store16, Memory.read_write_disjoint _ _ (Or.inl (by omega)),
      ← MacAddr.length_addr src, Memory.read_write_same]
  have htype : (((m.write p dst.addr).write (p + 6) src.addr).store16 (p + 12) type).read (p + 12) 2
      = Memory.bytes16 type := Memory.read_write_same _ (p + 12) (Memory.bytes16 type)
  have hrest : (((m.write p dst.addr).write (p + 6) src.addr).store16 (p + 12) type).read (p + 14) n
      = m.read (p + 14) n := by
    have hlen := MacAddr.length_addr dst
    have hlen' := MacAddr.length_addr src
    rw [Memory.store16, Memory.read_write_disjoint _ _ (Or.inr (by simp)),
      Memory.read_write_disjoint _ _ (Or.inr (by omega)),
      Memory.read_write_disjoint _ _ (Or.inr (by omega))]
  rw [show 14 + n = 6 + (6 + (2 + n)) from by omega, Memory.read_add, Memory.read_add,
    Memory.read_add, hdst, hsrc, show p + 6 + 6 = p + 12 from rfl, htype,
    show p + 12 + 2 = p + 14 from rfl, hrest]
  simp only [List.append_assoc]

/-- The bytes from the header on that `ethernet_output` writes, for whatever length is sent. -/
theorem read_framed {skb : SkBuff} (hroom : ethHdrSize ≤ skb.data) (dst src : MacAddr)
    (proto : UInt16) (n : Nat) :
    (((skb.mem.write (skb.data - ethHdrSize) dst.addr).write (skb.data - ethHdrSize + 6)
      src.addr).store16 (skb.data - ethHdrSize + 12) (UInt16.ofNat (htons proto.toNat))).read
        (skb.data - ethHdrSize) (14 + n)
      = dst.addr ++ src.addr ++ Memory.bytes16 (UInt16.ofNat (htons proto.toNat))
        ++ skb.mem.read skb.data n := by
  rw [read_ethHdr, show skb.data - ethHdrSize + 14 = skb.data from Nat.sub_add_cancel hroom]

/-- What `ethernet_output` records. -/
def Event.Framed (i : IntfId) (mac : MacAddr) (proto : UInt16) (s : SkBuff) : Event → Prop
  | .sent j frame => j = i ∧ ∃ src, frame = ethFrame mac src proto s
  | .free id => id = s.id
  | _ => False

theorem sendPktOut_framed {P : Event → Prop} {i : IntfId} {skb : SkBuff}
    (hsent : P (.sent i skb.bytes)) (hfree : P (.free skb.id)) :
    Keeps (Emits P) (sendPktOut i skb) := by
  refine bind_emits (sendBytesOut_emits hsent) fun result => keeps_ite ?_ (pure_emits _)
  exact bind_emits (log_emits hfree) fun _ => pure_emits _

/-- **`ethernet_output` sends the frame of its packet or nothing.** -/
theorem ethernetOutput_framed (i : IntfId) (mac : MacAddr) (proto : UInt16) (skb : SkBuff)
    (w : World) :
    Emits (Event.Framed i mac proto skb) { w with trace := w.trace ++ [.ethOutput i mac proto skb] }
      (final (ethernetOutput i mac proto skb) w) := by
  unfold ethernetOutput
  rw [final_bind_of_ok (a := ⟨⟩) (log_ok.mpr rfl)]
  refine final_bind_rel (fun _ _ _ h h' => h.trans h') (reads_emits (skbPush_reads _ _) _) fun s t h => ?_
  obtain ⟨hroom, rfl, rfl⟩ := skbPush_ok.mp h
  refine final_bind_rel (fun _ _ _ h h' => h.trans h') (reads_emits (derefIntf_reads i) _) fun intf t h => ?_
  obtain ⟨-, rfl⟩ := derefIntf_ok.mp h
  have hsend : ∀ s : SkBuff, s.id = skb.id → s.bytes = ethFrame mac intf.macAddr proto skb →
      ∀ w', Emits (Event.Framed i mac proto skb) w' (final (sendPktOut i s) w') := by
    intro s hid hs
    refine sendPktOut_framed ⟨rfl, intf.macAddr, hs⟩ hid
  refine final_ite_rel (fun hshort => ?_) fun hlong => ?_
  · refine final_bind_rel (fun _ _ _ h h' => h.trans h') (reads_emits (skbPut_reads _ _) _) fun s t h => ?_
    obtain ⟨-, rfl, rfl⟩ := skbPut_ok.mp h
    refine hsend _ (by rfl) ?_ _
    have hlen : skb.len + ethHdrSize < 60 := hshort
    have hmax : skb.len + ethHdrSize + (60 - (skb.len + ethHdrSize)) = 14 + max skb.len 46 := by
      rw [ethHdrSize] at hlen ⊢
      omega
    rw [ethFrame, ← read_framed hroom, ← hmax]
    rfl
  · refine hsend _ (by rfl) ?_ _
    have hlen : ¬ skb.len + ethHdrSize < 60 := hlong
    have hmax : skb.len + ethHdrSize = 14 + max skb.len 46 := by
      rw [ethHdrSize] at hlen ⊢
      omega
    rw [ethFrame, ← read_framed hroom, ← hmax]
    rfl

/-! ### What is handed over -/

/-- An ARP packet of the node's own. -/
def IsArpPacket (s : SkBuff) : Prop :=
  ∃ id opcode senderHw senderIp targetHw targetIp,
    s = arpPacket id opcode senderHw senderIp targetHw targetIp

/-- What an event hands over, with `K` bounding the IP packets; a frame that is sent is the
frame of a packet handed over by the same run. -/
def Event.Wired (K : SkBuff → Prop) (es : List Event) : Event → Prop
  | .parked _ _ s => K s
  | .ethOutput _ _ proto s => proto = ethProtoArp ∧ IsArpPacket s ∨ proto = ethProtoIp ∧ K s
  | .sent i frame => ∃ mac src proto s,
      Event.ethOutput i mac proto s ∈ es ∧ frame = ethFrame mac src proto s
  | _ => True

theorem Event.Wired.mono {K K' : SkBuff → Prop} {es es' : List Event} {e : Event}
    (h : e.Wired K es) (hK : ∀ s, K s → K' s) (hes : ∀ e ∈ es, e ∈ es') : e.Wired K' es' := by
  cases e with
  | parked n ip s => exact hK s h
  | ethOutput i mac proto s => exact h.imp_right fun hs => ⟨hs.1, hK s hs.2⟩
  | sent i frame =>
      obtain ⟨mac, src, proto, s, hmem, hframe⟩ := h
      exact ⟨mac, src, proto, s, hes _ hmem, hframe⟩
  | _ => trivial

/-- What a TCP socket puts into the segments of its connections. -/
def TcpSock.source (sock : TcpSock) : UInt32 × UInt16 × Option IntfId :=
  (sock.localIp, sock.localPort, sock.intf)

/-- What a run handed over, with `K` bounding the IP packets. -/
structure Wires (K : SkBuff → Prop) (w w' : World) : Prop where
  intf : w'.intf = w.intf
  sources : ∀ k, (w'.tcpSock k).map TcpSock.source = (w.tcpSock k).map TcpSock.source
  trace : ∃ es, w'.trace = w.trace ++ es ∧ ∀ e ∈ es, e.Wired K es
  pending : ∀ n s, Pending w' n s → Pending w n s ∨ K s

/-- `K` holds of every IP packet the node may hand over from a state, by who built it. -/
structure Carries (K : SkBuff → Prop) (w : World) : Prop where
  icmp : ∀ id type code payload ip i src,
    K (((icmpMessage id type code payload).withIpHdr ip ipProtoIcmp).routed i src)
  udp : ∀ id sock buff port ip i src, buff.length ≤ maxUdpPayload →
    K (((udpDatagram id sock buff port).withIpHdr ip ipProtoUdp).routed i src)
  tcp : ∀ id k sock parent conn buff flags i out, buff.length ≤ maxTcpPayload →
    w.tcpSock k = some sock → parent.source = sock.source → parent.intf = some i →
    w.intf i = some out →
    K (((tcpSegment id parent conn buff flags).withIpHdr conn.remoteIp ipProtoTcp).routed i
      out.ipAddr)
  waiting : ∀ n s, Pending w n s → K s

/-- Nothing is asked of the packets. -/
theorem carries_true (w : World) : Carries (fun _ => True) w :=
  ⟨fun _ _ _ _ _ _ _ => trivial, fun _ _ _ _ _ _ _ _ => trivial,
    fun _ _ _ _ _ _ _ _ _ _ _ _ _ _ => trivial, fun _ _ _ => trivial⟩

namespace Wires

variable {K : SkBuff → Prop} {w w' w'' : World}

theorem refl (K : SkBuff → Prop) (w : World) : Wires K w w :=
  ⟨rfl, fun _ => rfl, ⟨[], (List.append_nil _).symm, by simp⟩, fun _ _ => Or.inl⟩

theorem trans (h : Wires K w w') (h' : Wires K w' w'') : Wires K w w'' := by
  obtain ⟨es, he, hes⟩ := h.trace
  obtain ⟨es', he', hes'⟩ := h'.trace
  refine ⟨h'.intf.trans h.intf, fun k => (h'.sources k).trans (h.sources k),
    ⟨es ++ es', by rw [he', he, List.append_assoc], fun e hmem => ?_⟩, fun n s hs => ?_⟩
  · rcases List.mem_append.mp hmem with hl | hr
    · exact (hes e hl).mono (fun _ => id) fun _ => List.mem_append_left _
    · exact (hes' e hr).mono (fun _ => id) fun _ => List.mem_append_right _
  · rcases h'.pending n s hs with hs' | hK
    · exact h.pending n s hs'
    · exact Or.inr hK

/-- Only the tables and the trace matter. -/
theorem of_frame (hintf : w'.intf = w.intf)
    (hsock : ∀ k, (w'.tcpSock k).map TcpSock.source = (w.tcpSock k).map TcpSock.source)
    (harp : w'.arpTable = w.arpTable) {es : List Event} (htrace : w'.trace = w.trace ++ es)
    (hes : ∀ e ∈ es, e.Wired K es) : Wires K w w' := by
  refine ⟨hintf, hsock, ⟨es, htrace, hes⟩, fun n s hs => Or.inl ?_⟩
  unfold Pending at hs
  rwa [harp] at hs

end Wires

theorem Carries.of_wires {K : SkBuff → Prop} {w w' : World} (h : Carries K w)
    (hw : Wires K w w') : Carries K w' := by
  refine ⟨h.icmp, h.udp, ?_, fun n s hs => (hw.pending n s hs).elim (h.waiting n s) id⟩
  intro id k sock parent conn buff flags i out hlen hk hsource hi hout
  have hmap := hw.sources k
  rw [hk, Option.map_some] at hmap
  obtain ⟨sock₀, hk₀, hsock₀⟩ := Option.map_eq_some_iff.mp hmap.symm
  rw [hw.intf] at hout
  exact h.tcp id k sock₀ parent conn buff flags i out hlen hk₀ (hsource.trans hsock₀.symm) hi hout

/-- A run that hands over only what its first state carries. -/
def Carried (K : SkBuff → Prop) (w w' : World) : Prop := Carries K w → Wires K w w'

/-! ### The steps -/

section Steps

variable {K : SkBuff → Prop} {α β : Type}

theorem Carried.refl (K : SkBuff → Prop) (w : World) : Carried K w w := fun _ => .refl K w

theorem Carried.trans {w w' w'' : World} (h : Carried K w w') (h' : Carried K w' w'') :
    Carried K w w'' := by
  intro hc
  have hw := h hc
  exact hw.trans (h' (hc.of_wires hw))

theorem reads_carried {m : M α} (h : Keeps Eq m) : Keeps (Carried K) m :=
  keeps_of_eq (Carried.refl K) h

theorem pure_carried (a : α) : Keeps (Carried K) (pure a : M α) := keeps_pure (Carried.refl K) a

theorem bind_carried {x : M α} {f : α → M β} (hx : Keeps (Carried K) x)
    (hf : ∀ a, Keeps (Carried K) (f a)) : Keeps (Carried K) (x >>= f) :=
  keeps_bind (fun _ _ _ h h' => h.trans h') hx hf

/-- From one state, what the first part returned and left may be used. -/
theorem final_bind_carried {x : M α} {f : α → M β} {w₀ w : World} (hx : Carried K w₀ (final x w))
    (hf : ∀ a w', x w = .ok a w' → Carried K w' (final (f a) w')) :
    Carried K w₀ (final (x >>= f) w) :=
  final_bind_rel (fun _ _ _ h h' => h.trans h') hx hf

theorem carried_of_frame {w w' : World} (hintf : w'.intf = w.intf)
    (hsock : ∀ k, (w'.tcpSock k).map TcpSock.source = (w.tcpSock k).map TcpSock.source)
    (harp : w'.arpTable = w.arpTable) {es : List Event} (htrace : w'.trace = w.trace ++ es)
    (hes : ∀ e ∈ es, e.Wired K es) : Carried K w w' :=
  fun _ => .of_frame hintf hsock harp htrace hes

/-- A change that adds no event. -/
theorem carried_of_quiet {w w' : World} (hintf : w'.intf = w.intf)
    (hsock : ∀ k, (w'.tcpSock k).map TcpSock.source = (w.tcpSock k).map TcpSock.source)
    (harp : w'.arpTable = w.arpTable) (htrace : w'.trace = w.trace) : Carried K w w' :=
  carried_of_frame hintf hsock harp (htrace.trans (List.append_nil _).symm) fun e he => by cases he

theorem log_carried {e : Event} (he : e.Wired K [e]) : Keeps (Carried K) (log e) :=
  fun _ => carried_of_frame rfl (fun _ => rfl) rfl rfl fun e' hmem => by
    rw [List.mem_singleton.mp hmem]
    exact he

theorem freeSkb_carried (skb : SkBuff) : Keeps (Carried K) (freeSkb skb) := log_carried trivial

theorem freeSkbIf_carried (c : Bool) (skb : SkBuff) : Keeps (Carried K) (freeSkbIf c skb) :=
  keeps_ite (freeSkb_carried skb) (pure_carried _)

theorem allocated_carried (w : World) : Carried K w w.allocated :=
  carried_of_frame rfl (fun _ => rfl) rfl rfl fun e hmem => by
    rw [List.mem_singleton.mp hmem]
    trivial

theorem followIpHdr_carried (skb : SkBuff) : Keeps (Carried K) (followIpHdr skb) := by
  refine bind_carried (log_carried trivial) fun _ => ?_
  cases skb.ipHdr with
  | none => exact reads_carried (throw_reads _)
  | some p => exact pure_carried _

/-- A write outside the tables that matter. -/
theorem modify_carried {f : World → World} (hintf : ∀ w, (f w).intf = w.intf)
    (hsock : ∀ w, (f w).tcpSock = w.tcpSock) (harp : ∀ w, (f w).arpTable = w.arpTable)
    (htrace : ∀ w, (f w).trace = w.trace) : Keeps (Carried K) (modify f : M Unit) :=
  keeps_modify fun w => carried_of_quiet (hintf w) (fun k => by rw [hsock w]) (harp w) (htrace w)

/-- A socket whose source stays. -/
theorem setTcpSock_carried {k : SockId} {sock sock' : TcpSock} {w : World}
    (hk : w.tcpSock k = some sock) (hsource : sock'.source = sock.source) :
    Carried K w (final (setTcpSock k sock') w) :=
  carried_of_quiet rfl (map_update_of_eq hk hsource) rfl rfl

/-- A packet handed to the link. -/
theorem ethernetOutput_carried {i : IntfId} {mac : MacAddr} {proto : UInt16} {skb : SkBuff}
    (h : proto = ethProtoArp ∧ IsArpPacket skb ∨ proto = ethProtoIp ∧ K skb) :
    Keeps (Carried K) (ethernetOutput i mac proto skb) := by
  intro w
  have hframed := ethernetOutput_framed i mac proto skb w
  obtain ⟨es, hes, hframe⟩ := hframed.trace
  have htrace : (final (ethernetOutput i mac proto skb) w).trace
      = w.trace ++ .ethOutput i mac proto skb :: es := by
    rw [hes, List.append_assoc, List.singleton_append]
  refine carried_of_frame ?_ (fun k => ?_) ?_ htrace ?_
  · exact hframed.intf
  · rw [hframed.tcpSock]
  · exact hframed.arpTable
  · intro e hmem
    rcases List.mem_cons.mp hmem with rfl | hmem
    · exact h
    · have he := hframe e hmem
      cases e with
      | sent j frame =>
          obtain ⟨rfl, src, rfl⟩ := he
          exact ⟨mac, src, proto, skb, List.mem_cons_self, rfl⟩
      | free id => trivial
      | _ => exact absurd he id

theorem sendArpBroadcastRequest_carried (i : IntfId) (ip : UInt32) :
    Keeps (Carried K) (sendArpBroadcastRequest i ip) := by
  intro w
  unfold sendArpBroadcastRequest
  rw [final_bind_of_ok allocArpSkb_run]
  refine (allocated_carried w).trans ?_
  refine final_bind_carried (reads_carried (derefIntf_reads i) _) fun intf t _ => ?_
  refine bind_carried (ethernetOutput_carried (Or.inl ⟨rfl, ?_⟩)) (fun ok => freeSkbIf_carried _ _) t
  exact ⟨w.nextId, arpOpRequest, intf.macAddr, intf.ipAddr, MacAddr.zero, ip, rfl⟩

theorem sendArpReplyMsg_carried (i : IntfId) (req : SkBuff) (shdr : Nat) :
    Keeps (Carried K) (sendArpReplyMsg i req shdr) := by
  intro w
  unfold sendArpReplyMsg
  rw [final_bind_of_ok allocArpSkb_run]
  refine (allocated_carried w).trans ?_
  refine final_bind_carried (reads_carried (derefIntf_reads i) _) fun intf t _ => ?_
  refine bind_carried (reads_carried (readMac_reads _ _)) (fun hw => ?_) t
  refine bind_carried (reads_carried (readU32_reads _ _)) fun ip => ?_
  refine bind_carried (ethernetOutput_carried (Or.inl ⟨rfl, ?_⟩)) fun _ => pure_carried _
  exact ⟨w.nextId, arpOpReply, intf.macAddr, intf.ipAddr, hw, ip, rfl⟩

/-- A change of the ARP tables that lets only packets wait that may. -/
theorem carried_of_sends {w w' : World} (h : Sends K (fun _ => False) w w')
    (htrace : w'.trace = w.trace) : Carried K w w' :=
  fun _ => ⟨h.intf, fun k => by rw [h.tcpSock], ⟨[], htrace.trans (List.append_nil _).symm, by simp⟩,
    h.pending⟩

theorem arpEntryFor_carried (n : NodeId) (i : IntfId) (ip : UInt32) :
    Keeps (Carried K) (arpEntryFor n i ip) := by
  refine bind_carried (reads_carried get_reads) fun w => ?_
  cases arpTableLookup (w.arpTable n) ip with
  | some entry => exact pure_carried _
  | none =>
      refine bind_carried (fun t => ?_) fun _ => pure_carried _
      exact carried_of_sends (arpTableEntryAdd_sends (K := K) (L := fun _ => False) n rfl t) rfl

theorem ipNeighbourOutput_carried (n : NodeId) (i : IntfId) (ip : UInt32) {skb : SkBuff}
    (hK : K skb) : Keeps (Carried K) (ipNeighbourOutput n i ip skb) := by
  refine bind_carried (arpEntryFor_carried n i ip) fun entry => ?_
  refine keeps_ite ?_ (ethernetOutput_carried (Or.inr ⟨rfl, hK⟩))
  refine bind_carried (log_carried (e := .parked n ip skb) hK) fun _ => ?_
  refine bind_carried (fun t => ?_) fun _ =>
    bind_carried (sendArpBroadcastRequest_carried i ip) fun _ => pure_carried _
  refine carried_of_sends (modifyArpEntry_sends (L := fun _ => False) n ip ?_ t) rfl
  intro entry s hs
  rcases List.mem_cons.mp hs with rfl | hs
  · exact Or.inr hK
  · exact Or.inl hs

end Steps

/-! ### The output path and the senders -/

section Senders

variable {K : SkBuff → Prop} {ipInput : SkBuff → M Bool}
  (hin : ∀ s, Keeps (Carried K) (ipInput s))
include hin

/-- **`ip_postroute`** hands over the packet with its source written, on the interface the
packet is bound to. -/
theorem ipPostroute_carried {node : NodeId} {skb : SkBuff} {w : World}
    (hK : Carries K w → ∀ i out, w.intf i = some out → skb.intf = none ∨ skb.intf = some i →
      K (skb.routed i out.ipAddr)) :
    Carried K w (final (ipPostroute ipInput node skb) w) := by
  intro hc
  refine final_bind_carried (reads_carried (readU32_reads _ _) _) (fun dstIp t h => ?_) hc
  obtain ⟨-, rfl, rfl⟩ := readU32_ok.mp h
  refine final_bind_carried (reads_carried get_reads _) fun _ _ h => ?_
  cases h
  cases rtLookupLpm (t.rtTable node) (skb.mem.load32 (skb.data + 16)) with
  | none => exact pure_carried _ _
  | some rt =>
      refine final_ite_rel (fun _ => pure_carried _ _) fun hbound => ?_
      have hintf : skb.intf = none ∨ skb.intf = some rt.intf := by
        cases hi : skb.intf with
        | none => exact Or.inl rfl
        | some i =>
            refine Or.inr (Decidable.not_not.mp fun hne => hbound ⟨?_, ?_⟩)
            · rw [hi]
              rfl
            · rwa [hi]
      refine final_bind_carried (reads_carried (derefIntf_reads _) _) fun out t' h => ?_
      obtain ⟨hout, rfl⟩ := derefIntf_ok.mp h
      refine final_bind_carried (reads_carried (fillIpHcksum_reads _ _) _) fun s t' h => ?_
      obtain ⟨-, -, rfl, rfl⟩ := fillIpHcksum_ok.mp h
      refine final_bind_carried (reads_carried get_reads _) fun _ _ h => ?_
      cases h
      refine final_ite_rel (fun _ => hin _ _) fun _ => ?_
      exact ipNeighbourOutput_carried node rt.intf _ (hK hc rt.intf out hout hintf) _

theorem ipOutput_carried {node : NodeId} {ip : UInt32} {proto : UInt8} {skb : SkBuff} {w : World}
    (hK : Carries K w → ∀ i out, w.intf i = some out → skb.intf = none ∨ skb.intf = some i →
      K ((skb.withIpHdr ip proto).routed i out.ipAddr)) :
    Carried K w (final (ipOutput ipInput node ip proto skb) w) := by
  intro hc
  refine final_bind_carried (log_carried (e := .ipOutput node ip proto skb) trivial w)
    (fun _ t h => ?_) hc
  rw [log_ok] at h
  subst h
  refine final_bind_carried (reads_carried (skbPush_reads _ _) _) fun s t h => ?_
  obtain ⟨-, rfl, rfl⟩ := skbPush_ok.mp h
  exact ipPostroute_carried hin fun _ => hK hc

theorem icmpOut_carried (node : NodeId) (ip : UInt32) (type code : UInt8) (payload : List UInt8) :
    Keeps (Carried K) (icmpOut ipInput node ip type code payload) := by
  intro w
  rw [final_congr (icmpOut_run node ip type code payload)]
  refine (allocated_carried w).trans (final_bind_carried ?_ fun result t _ => ?_)
  · exact ipOutput_carried hin fun hc i out _ _ => hc.icmp _ _ _ _ _ _ _
  · exact keeps_ite (pure_carried _) (bind_carried (freeSkb_carried _) fun _ => pure_carried _) t

theorem udpSendto_carried (sockfd : Int) (buff : List UInt8) (ip : UInt32) (port : UInt16) :
    Keeps (Carried K) (udpSendto ipInput sockfd buff ip port) := by
  refine bind_carried (reads_carried get_reads) fun w => ?_
  cases goodUdpSock w sockfd with
  | none => exact pure_carried _
  | some k =>
      refine bind_carried (reads_carried (derefUdpSock_reads k)) fun sock =>
        keeps_ite (pure_carried _) (bind_carried (fun t => ?_) fun _ => pure_carried _)
      rw [final_congr (udpOut_run sock _ ip port)]
      refine (allocated_carried t).trans (final_bind_carried (reads_carried (derefIntfPtr_reads _) _)
        fun intf t' _ => ?_)
      refine ipOutput_carried hin fun hc i out _ _ => hc.udp _ _ _ _ _ _ _ ?_
      rw [List.length_take]
      omega

/-- **`tcp_out`**: the segment leaves on the interface of its socket. -/
theorem tcpOut_carried {c : ConnId} {buff : List UInt8} {flags : TcpFlags}
    (hlen : buff.length ≤ maxTcpPayload) : Keeps (Carried K) (tcpOut ipInput c buff flags) := by
  intro w
  cases hconn : w.tcpConn c with
  | none =>
      refine final_bind_carried (reads_carried (derefTcpConn_reads c) w) fun conn t h => ?_
      rw [derefTcpConn_ok, hconn] at h
      cases h.1
  | some conn =>
      cases hparent : w.tcpSock conn.parent with
      | none =>
          unfold tcpOut
          rw [final_bind_of_ok (derefTcpConn_ok.mpr ⟨hconn, rfl⟩),
            final_bind_of_ok (allocSkb_ok.mpr ⟨rfl, rfl⟩)]
          refine (allocated_carried w).trans
            (final_bind_carried (reads_carried (derefTcpSock_reads _) _) fun parent t h => ?_)
          rw [derefTcpSock_ok] at h
          cases hparent.symm.trans h.1
      | some parent =>
          by_cases hwin : exceedsWindow conn buff.length = true
          · have hrun : tcpOut ipInput c buff flags w = _ := tcpOut_run hconn hparent
            rw [if_pos hwin] at hrun
            rw [final_of_ok hrun]
            exact allocated_carried w
          · have hrun : tcpOut ipInput c buff flags w = _ := tcpOut_run hconn hparent
            rw [if_neg hwin] at hrun
            rw [final_congr hrun]
            have hseg : Carried K w (w.segmented c conn buff.length flags) :=
              carried_of_frame rfl (fun _ => rfl) rfl rfl fun e hmem => by
                rw [List.mem_singleton.mp hmem]
                trivial
            refine hseg.trans (final_bind_carried (reads_carried (derefIntfPtr_reads _) _)
              fun intf t h => ?_)
            obtain ⟨⟨j, hj, -⟩, rfl⟩ := derefIntfPtr_ok.mp h
            refine ipOutput_carried hin fun hc i out hout hi => ?_
            refine hc.tcp _ conn.parent parent parent conn buff flags i out hlen hparent rfl ?_ hout
            refine hi.resolve_left fun hnone => ?_
            cases hj.symm.trans hnone

theorem tcpSend_carried (connfd : Int) (buff : List UInt8) :
    Keeps (Carried K) (tcpSend ipInput connfd buff) := by
  refine bind_carried (reads_carried get_reads) fun w => ?_
  cases goodTcpConnectionSock w connfd with
  | none => exact pure_carried _
  | some c =>
      refine bind_carried (reads_carried (derefTcpConn_reads c)) fun conn =>
        keeps_ite (pure_carried _) (bind_carried (tcpOut_carried hin ?_) fun _ => pure_carried _)
      rw [List.length_take]
      omega

end Senders

/-! ### Received frames -/

section Input

variable {K : SkBuff → Prop} {ipInput : SkBuff → M Bool}

theorem setTcpConn_carried (c : ConnId) (conn : TcpConnectionSock) :
    Keeps (Carried K) (setTcpConn c conn) :=
  modify_carried (fun _ => rfl) (fun _ => rfl) (fun _ => rfl) fun _ => rfl

theorem allocId_carried : Keeps (Carried K) allocId :=
  fun _ => carried_of_quiet rfl (fun _ => rfl) rfl rfl

theorem udpInput_carried (skb : SkBuff) : Keeps (Carried K) (udpInput skb) := by
  unfold udpInput
  cases skb.intf with
  | none => exact reads_carried (throw_reads _)
  | some i =>
      refine bind_carried (reads_carried (readU16_reads _ _)) fun dstPort => ?_
      refine bind_carried (reads_carried get_reads) fun w => ?_
      cases udpSocksManagerFind w i (UInt16.ofNat (ntohs dstPort.toNat)) with
      | none => exact pure_carried _
      | some k =>
          refine bind_carried (reads_carried (skbPull_reads _ _)) fun s => ?_
          refine bind_carried (reads_carried (derefUdpSock_reads k)) fun sock => ?_
          refine bind_carried ?_ fun _ => pure_carried _
          exact modify_carried (fun _ => rfl) (fun _ => rfl) (fun _ => rfl) fun _ => rfl

/-- Linking a connection elsewhere leaves the source of its socket. -/
theorem linkTcpSock_carried {α : Type} {k : SockId} {f : TcpSock → TcpSock} {rest : M α}
    (hf : ∀ sock, (f sock).source = sock.source) (hrest : Keeps (Carried K) rest) :
    Keeps (Carried K) (do
      let sock ← derefTcpSock k
      setTcpSock k (f sock)
      rest) := by
  intro w
  refine final_bind_carried (reads_carried (derefTcpSock_reads k) w) fun sock t h => ?_
  obtain ⟨hk, rfl⟩ := derefTcpSock_ok.mp h
  exact final_bind_carried (setTcpSock_carried hk (hf sock)) fun _ t' _ => hrest t'

section Local

variable (hin : ∀ s, Keeps (Carried K) (ipInput s))
include hin

theorem icmpInput_carried (skb : SkBuff) : Keeps (Carried K) (icmpInput ipInput skb) := by
  refine keeps_ite (pure_carried _) ?_
  refine bind_carried (reads_carried (readU8_reads _ _)) fun type => ?_
  refine bind_carried (reads_carried (readU8_reads _ _)) fun code => keeps_ite ?_ ?_
  · refine bind_carried (reads_carried (derefIntfPtr_reads _)) fun intf => ?_
    refine bind_carried (followIpHdr_carried skb) fun iph => ?_
    refine bind_carried (reads_carried (readU32_reads _ _)) fun src => ?_
    refine bind_carried (icmpOut_carried hin _ _ _ _ _) fun _ => ?_
    exact bind_carried (freeSkb_carried skb) fun _ => pure_carried _
  · exact bind_carried (freeSkb_carried skb) fun _ => pure_carried _

theorem closeConnection_carried (c : ConnId) : Keeps (Carried K) (closeConnection ipInput c) := by
  refine bind_carried (tcpOut_carried hin (Nat.zero_le _)) fun _ => ?_
  refine bind_carried (reads_carried (derefTcpConn_reads c)) fun conn => ?_
  exact linkTcpSock_carried (f := fun parent => { parent with
    conns := parent.conns.erase c, closedConns := c :: parent.closedConns }) (fun _ => rfl)
    (pure_carried _)

theorem runState_carried (c : ConnId) (skb : SkBuff) :
    Keeps (Carried K) (runState ipInput c skb) := by
  refine bind_carried (reads_carried (derefTcpConn_reads c)) fun conn => ?_
  cases conn.state with
  | handleSynSent =>
      refine bind_carried (reads_carried (readTcpFlags_reads _ _)) fun flags =>
        keeps_ite ?_ (pure_carried _)
      refine bind_carried (reads_carried (readTcpSeq_reads _ _)) fun seq => ?_
      refine bind_carried (reads_carried (derefTcpConn_reads c)) fun conn =>
        keeps_ite ?_ (pure_carried _)
      exact bind_carried (setTcpConn_carried c _) fun _ => pure_carried _
  | handleEstab =>
      refine bind_carried (reads_carried (readTcpSeq_reads _ _)) fun seq => ?_
      refine bind_carried (reads_carried (derefTcpConn_reads c)) fun conn =>
        keeps_ite ?_ (pure_carried _)
      refine bind_carried (reads_carried (readTcpFlags_reads _ _)) fun flags => ?_
      refine keeps_ite (closeConnection_carried hin c) (keeps_ite ?_ ?_)
      · exact bind_carried (setTcpConn_carried c _) fun _ => closeConnection_carried hin c
      · refine bind_carried (reads_carried (skbPull_reads _ _)) fun s => ?_
        exact bind_carried (setTcpConn_carried c _) fun _ => pure_carried _

theorem handleNewConnection_carried (k : SockId) (skb : SkBuff) :
    Keeps (Carried K) (handleNewConnection ipInput k skb) := by
  refine bind_carried allocId_carried fun c => bind_carried (followIpHdr_carried skb) fun iph => ?_
  refine bind_carried (reads_carried (readU32_reads _ _)) fun remoteIp => ?_
  refine bind_carried (reads_carried (readU16_reads _ _)) fun srcPort => ?_
  refine bind_carried (reads_carried (readU16_reads _ _)) fun wndSz => ?_
  refine bind_carried (reads_carried (readU32_reads _ _)) fun seq => ?_
  refine bind_carried (setTcpConn_carried c _) fun _ => ?_
  refine linkTcpSock_carried (f := fun sock => { sock with conns := c :: sock.conns })
    (fun _ => rfl) ?_
  exact bind_carried (tcpOut_carried hin (Nat.zero_le _)) fun _ => pure_carried _

theorem tcpInput_carried (skb : SkBuff) : Keeps (Carried K) (tcpInput ipInput skb) := by
  unfold tcpInput
  cases skb.intf with
  | none => exact reads_carried (throw_reads _)
  | some i =>
      refine bind_carried (reads_carried (readU16_reads _ _)) fun dstPort => ?_
      refine bind_carried (reads_carried get_reads) fun w => ?_
      cases tcpSocksManagerFind w i (UInt16.ofNat (ntohs dstPort.toNat)) with
      | none => exact pure_carried _
      | some k =>
          refine bind_carried (reads_carried (derefTcpSock_reads k)) fun sock => ?_
          refine bind_carried (followIpHdr_carried skb) fun iph => ?_
          refine bind_carried (reads_carried (readU32_reads _ _)) fun srcIp => ?_
          refine bind_carried (reads_carried (readU16_reads _ _)) fun srcPort => ?_
          refine bind_carried (reads_carried get_reads) fun t => ?_
          cases findMatchingConnection t sock srcIp (UInt16.ofNat (ntohs srcPort.toNat)) with
          | some c => exact runState_carried hin c skb
          | none =>
              refine keeps_ite (bind_carried (reads_carried (readTcpFlags_reads _ _)) fun flags => ?_)
                (pure_carried _)
              exact keeps_ite (handleNewConnection_carried hin k skb) (pure_carried _)

end Local

/-- **`ip_input`**, at any depth. -/
theorem ipInput_carried (depth : Nat) (skb : SkBuff) :
    Keeps (Carried K) (ipInputDepth depth skb) := by
  induction depth generalizing skb with
  | zero => exact reads_carried (throw_reads _)
  | succ depth ih =>
      refine bind_carried (reads_carried (readU8_reads _ _)) fun proto => ?_
      have hpull : ∀ handler : SkBuff → M Bool, (∀ s, Keeps (Carried K) (handler s)) →
          Keeps (Carried K) (do
            let s ← skbPull skb ipHdrSize
            log (.transport proto s)
            handler s) :=
        fun handler h => bind_carried (reads_carried (skbPull_reads _ _)) fun s =>
          bind_carried (log_carried trivial) fun _ => h s
      refine keeps_ite (hpull _ (icmpInput_carried ih)) (keeps_ite (hpull _ (tcpInput_carried ih)) ?_)
      exact keeps_ite (hpull _ udpInput_carried) (pure_carried _)

/-- Waiting packets leave as they were parked. -/
theorem flushPending_carried (n : NodeId) (ip : UInt32) (mac : MacAddr) {pending : List SkBuff}
    (hK : ∀ s ∈ pending, K s) : Keeps (Carried K) (flushPending n ip mac pending) := by
  induction pending with
  | nil => exact pure_carried _
  | cons skb rest ih =>
      have hrest : ∀ s ∈ rest, K s := fun s hs => hK s (List.mem_cons_of_mem skb hs)
      refine bind_carried (fun t => ?_) fun _ => ?_
      · exact carried_of_sends (modifyArpEntry_sends (L := fun _ => False) n ip
          (fun _ s hs => Or.inr (hrest s hs)) t) rfl
      · cases skb.intf with
        | none => exact reads_carried (throw_reads _)
        | some i =>
            refine bind_carried (ethernetOutput_carried (Or.inr ⟨rfl, hK skb List.mem_cons_self⟩))
              fun result => ?_
            exact bind_carried (freeSkbIf_carried _ _) fun _ => ih hrest

theorem arpTableUpdateFromArpReply_carried (n : NodeId) (skb : SkBuff) (hdr : Nat) :
    Keeps (Carried K) (arpTableUpdateFromArpReply n skb hdr) := by
  refine bind_carried (reads_carried (readU32_reads _ _)) fun ip => ?_
  intro w hc
  refine final_bind_carried (reads_carried get_reads w) (fun _ _ h => ?_) hc
  cases h
  cases hfind : arpTableLookup (w.arpTable n) ip with
  | none => exact pure_carried _ w
  | some entry =>
      have hpending : ∀ s ∈ entry.pendingPkts, K s := fun s hs =>
        hc.waiting n s ⟨entry, List.mem_of_find?_eq_some hfind, hs⟩
      refine bind_carried (reads_carried (readMac_reads _ _)) (fun mac => ?_) w
      refine bind_carried (fun t => ?_) fun _ => flushPending_carried n ip mac hpending
      exact carried_of_sends (modifyArpEntry_sends (L := fun _ => False)
        (f := fun entry => { entry with resolved := true, mac := mac }) n ip
        (fun _ _ => Or.inl) t) rfl

theorem arpInput_carried (skb : SkBuff) : Keeps (Carried K) (arpInput skb) := by
  refine keeps_ite (pure_carried _) ?_
  refine bind_carried (reads_carried (readU16_reads _ _)) fun opcode => ?_
  cases skb.intf with
  | none => exact reads_carried (throw_reads _)
  | some i =>
      refine bind_carried ?_ fun ok => bind_carried (freeSkbIf_carried ok skb) fun _ => pure_carried _
      refine keeps_ite ?_ (keeps_ite ?_ (pure_carried _))
      · refine bind_carried (reads_carried (derefIntf_reads i)) fun intf => ?_
        refine bind_carried (reads_carried (readU32_reads _ _)) fun target => ?_
        exact keeps_ite (pure_carried _)
          (bind_carried (sendArpReplyMsg_carried i skb _) fun _ => pure_carried _)
      · refine bind_carried (reads_carried (derefIntf_reads i)) fun intf => ?_
        exact bind_carried (arpTableUpdateFromArpReply_carried _ _ _) fun _ => pure_carried _

/-- **`ip_forward`** hands over the packet with its hop count lowered. -/
theorem ipForward_carried {skb : SkBuff}
    (hK : 1 < (skb.mem (skb.data + 8)).toNat → ∀ j src, K (skb.forwarded.routed j src)) :
    Keeps (Carried K) (ipForward skb) := by
  intro w
  refine final_bind_carried (reads_carried get_reads w) fun _ _ h => ?_
  cases h
  refine final_ite_rel (fun _ => pure_carried _ _) fun _ => ?_
  refine final_bind_carried (reads_carried (readU8_reads _ _) w) fun ttl t h => ?_
  obtain ⟨-, rfl, rfl⟩ := readU8_ok.mp h
  refine final_ite_rel (fun _ => pure_carried _ _) fun h0 => ?_
  refine final_ite_rel (fun _ => pure_carried _ _) fun h1 => ?_
  have httl : 1 < (skb.mem (skb.data + 8)).toNat := by
    have hne0 : (skb.mem (skb.data + 8)).toNat ≠ 0 := fun h => h0 (UInt8.toNat.inj h)
    have hne1 : (skb.mem (skb.data + 8)).toNat ≠ 1 := fun h =>
      h1 (by rw [show skb.mem (skb.data + 8) = 1 from UInt8.toNat.inj h]; rfl)
    omega
  refine bind_carried (reads_carried (derefIntfPtr_reads _)) (fun intf t' => ?_) t
  change Carried K t' (final (ipPostroute _ intf.node skb.forwarded) t')
  exact ipPostroute_carried (fun s => ipInput_carried callDepth s)
    fun _ j out _ _ => hK httl j out.ipAddr

/-- **A received frame.** -/
theorem recvFrame_carried {i : IntfId} {frame : List UInt8} {w : World}
    (hK : ethHdrSize ≤ (recvBuffer w.nextId i frame).len →
      1 < ((recvBuffer w.nextId i frame).ipPacket.mem
        ((recvBuffer w.nextId i frame).ipPacket.data + 8)).toNat →
      ∀ j src, K ((recvBuffer w.nextId i frame).ipPacket.forwarded.routed j src)) :
    Carried K (w.received i frame) (final (recvFrame i frame) w) := by
  unfold recvFrame
  rw [final_bind_of_ok (recvSkb_eq i frame w)]
  refine final_bind_carried ?_ fun ok t _ => freeSkbIf_carried _ _ t
  refine final_bind_carried (reads_carried (derefIntfPtr_reads _) _) fun intf t h => ?_
  obtain ⟨-, rfl⟩ := derefIntfPtr_ok.mp h
  refine final_ite_rel (fun _ => ?_) fun _ => pure_carried _ _
  refine final_ite_rel (fun _ => pure_carried _ _) fun hlen => ?_
  refine final_bind_carried (reads_carried (derefIntfPtr_reads _) _) fun intf t h => ?_
  obtain ⟨-, rfl⟩ := derefIntfPtr_ok.mp h
  refine final_bind_carried (reads_carried (readMac_reads _ _) _) fun mac t h => ?_
  obtain ⟨-, rfl, rfl⟩ := readMac_ok.mp h
  refine final_ite_rel (fun _ => pure_carried _ _) fun _ => ?_
  refine final_bind_carried (reads_carried (readU16_reads _ _) _) fun type t h => ?_
  obtain ⟨-, rfl, rfl⟩ := readU16_ok.mp h
  refine final_ite_rel (fun _ => ?_) fun _ => final_ite_rel (fun _ => ?_) fun _ => pure_carried _ _
  · exact bind_carried (reads_carried (skbPull_reads _ _)) (fun s => arpInput_carried s) _
  · refine final_bind_carried (reads_carried (skbPull_reads _ _) _) fun s t h => ?_
    obtain ⟨-, -, rfl, rfl⟩ := skbPull_ok.mp h
    refine final_bind_carried (reads_carried (derefIntfPtr_reads _) _) fun intf t h => ?_
    obtain ⟨-, rfl⟩ := derefIntfPtr_ok.mp h
    refine final_bind_carried (reads_carried (readU32_reads _ _) _) fun dst t h => ?_
    obtain ⟨-, rfl, rfl⟩ := readU32_ok.mp h
    refine final_bind_carried (reads_carried get_reads _) fun _ _ h => ?_
    cases h
    refine final_ite_rel (fun _ => ipInput_carried callDepth _ _) fun _ => ?_
    exact ipForward_carried (hK (Nat.le_of_not_lt hlen)) _

end Input

/-! ### Whole calls -/

/-- The buffer `ip_forward` may pass on during a call. -/
def Op.Passes (w : World) (s : SkBuff) : Op → Prop
  | .recvFrame i frame => s = recvBuffer w.nextId i frame ∧ ethHdrSize ≤ s.len ∧
      1 < (s.ipPacket.mem (s.ipPacket.data + 8)).toNat
  | _ => False

/-- Filling the buffer of a frame hands over nothing. -/
theorem Op.trace_begun (op : Op) (w : World) : ∃ es, (op.begun w).trace = w.trace ++ es ∧
    ∀ (K : SkBuff → Prop) (tr : List Event), ∀ e ∈ es, e.Wired K tr := by
  cases op with
  | recvFrame i frame =>
      refine ⟨_, rfl, fun K tr e hmem => ?_⟩
      rcases List.mem_cons.mp hmem with rfl | hmem
      · trivial
      · rw [List.mem_singleton.mp hmem]
        trivial
  | _ => exact ⟨[], (List.append_nil _).symm, by simp⟩

/-- **A call on the network hands over only what its first state carries**, and what it
forwards. -/
theorem Op.wires_networks {K : SkBuff → Prop} {op : Op} {w : World} (hnet : op.Networks)
    (hc : Carries K (op.begun w))
    (hpass : ∀ r, op.Passes w r → ∀ j src, K (r.ipPacket.forwarded.routed j src)) :
    Wires K (op.begun w) (op.after w) := by
  have hin : ∀ s, Keeps (Carried K) (ipInput s) := fun s => ipInput_carried callDepth s
  cases op with
  | recvFrame i frame =>
      refine (final_bind_carried (recvFrame_carried fun hlen httl => ?_) fun _ _ _ =>
        pure_carried _ _) hc
      exact hpass _ ⟨rfl, hlen, httl⟩
  | udpSendto fd buff ip port =>
      exact bind_carried (udpSendto_carried hin fd buff ip port) (fun _ => pure_carried _) w hc
  | tcpSend fd buff => exact bind_carried (tcpSend_carried hin fd buff) (fun _ => pure_carried _) w hc
  | icmpOut n ip type code payload =>
      exact bind_carried (icmpOut_carried hin n ip type code payload) (fun _ => pure_carried _) w hc
  | ping n ipAddr =>
      exact bind_carried (icmpOut_carried hin n _ _ _ _) (fun _ => pure_carried _) w hc
  | sendArpBroadcastRequest i ip =>
      exact bind_carried (sendArpBroadcastRequest_carried i ip) (fun _ => pure_carried _) w hc
  | _ => exact absurd hnet id

/-- The same of any call: the others hand over nothing. -/
theorem Op.wires_after {K : SkBuff → Prop} {op : Op} {w : World} (hc : Carries K (op.begun w))
    (hpass : ∀ r, op.Passes w r → ∀ j src, K (r.ipPacket.forwarded.routed j src)) :
    (∃ es, (op.after w).trace = (op.begun w).trace ++ es ∧ ∀ e ∈ es, e.Wired K es) ∧
      ∀ n s, Pending (op.after w) n s → K s := by
  by_cases hnet : op.Networks
  · have h := Op.wires_networks hnet hc hpass
    exact ⟨h.trace, fun n s hs => (h.pending n s hs).elim (hc.waiting n s) id⟩
  · obtain ⟨hbegun, hquiet⟩ := Op.quiet_after hnet w
    obtain ⟨es, hes, hall⟩ := hquiet.trace
    rw [hbegun] at hc ⊢
    refine ⟨⟨es, hes, fun e hmem => ?_⟩, fun n s hs => hc.waiting n s ?_⟩
    · have he := hall e hmem
      cases e with
      | free id => trivial
      | readIpHdr s => trivial
      | _ => exact absurd he id
    · unfold Pending at hs ⊢
      rwa [hquiet.arpTable] at hs

theorem Op.trace_after (op : Op) (w : World) : ∃ es, (op.after w).trace = (op.begun w).trace ++ es := by
  obtain ⟨⟨es, hes, -⟩, -⟩ := Op.wires_after (carries_true (op.begun w)) fun _ _ _ _ => trivial
  exact ⟨es, hes⟩

/-! ### Whole runs -/

/-- `K` holds of whatever one of the producers builds, in view of what the trace holds by
then. -/
structure Recorded (K : List Event → SkBuff → Prop) : Prop where
  mono : ∀ tr tr' s, (∀ e ∈ tr, e ∈ tr') → K tr s → K tr' s
  icmp : ∀ tr id type code payload ip i src,
    K tr (((icmpMessage id type code payload).withIpHdr ip ipProtoIcmp).routed i src)
  udp : ∀ tr id sock buff port ip i src, buff.length ≤ maxUdpPayload →
    K tr (((udpDatagram id sock buff port).withIpHdr ip ipProtoUdp).routed i src)
  tcp : ∀ tr id parent conn buff flags i src, buff.length ≤ maxTcpPayload →
    K tr (((tcpSegment id parent conn buff flags).withIpHdr conn.remoteIp ipProtoTcp).routed i src)
  forwarded : ∀ tr id i frame j src, Event.received i (recvBuffer id i frame) ∈ tr →
    ethHdrSize ≤ (recvBuffer id i frame).len →
    1 < ((recvBuffer id i frame).ipPacket.mem ((recvBuffer id i frame).ipPacket.data + 8)).toNat →
    K tr ((recvBuffer id i frame).ipPacket.forwarded.routed j src)

/-- Everything handed over so far satisfies `K`, and so does everything that waits. -/
structure WiredBy (K : List Event → SkBuff → Prop) (w : World) : Prop where
  events : ∀ e ∈ w.trace, e.Wired (K w.trace) w.trace
  waiting : ∀ n s, Pending w n s → K w.trace s

theorem wiredBy_init (K : List Event → SkBuff → Prop) {w : World} (h : Initial w) :
    WiredBy K w := by
  refine ⟨?_, ?_⟩
  · rw [h.trace]
    intro e he
    cases he
  · rintro n s ⟨entry, hmem, -⟩
    rw [h.arpTable] at hmem
    cases hmem

/-- **A call keeps the record**, also when it stops the process. -/
theorem WiredBy.after {K : List Event → SkBuff → Prop} (hK : Recorded K) {w : World}
    (h : WiredBy K w) (op : Op) : WiredBy K (op.after w) := by
  obtain ⟨es₀, hes₀, hquiet⟩ := op.trace_begun w
  obtain ⟨es₁, hes₁⟩ := op.trace_after w
  have hbegun : ∀ e ∈ (op.begun w).trace, e ∈ (op.after w).trace := by
    intro e he
    rw [hes₁]
    exact List.mem_append_left _ he
  have hold : ∀ e ∈ w.trace, e ∈ (op.after w).trace := by
    intro e he
    refine hbegun e ?_
    rw [hes₀]
    exact List.mem_append_left _ he
  have hcarries : Carries (K (op.after w).trace) (op.begun w) := by
    refine ⟨hK.icmp _, hK.udp _,
      fun id _ _ parent conn buff flags i out hlen _ _ _ _ =>
        hK.tcp _ id parent conn buff flags i out.ipAddr hlen, fun n s hs => ?_⟩
    unfold Pending at hs
    rw [arpTable_begun] at hs
    exact hK.mono _ _ s hold (h.waiting n s hs)
  have hpass : ∀ r, op.Passes w r → ∀ j src,
      K (op.after w).trace (r.ipPacket.forwarded.routed j src) := by
    intro r hr j src
    cases op with
    | recvFrame i frame =>
        obtain ⟨rfl, hlen, httl⟩ := hr
        refine hK.forwarded _ _ i frame j src (hbegun _ ?_) hlen httl
        exact List.mem_append_right _ (List.mem_cons_of_mem _ List.mem_cons_self)
    | _ => exact absurd hr id
  obtain ⟨⟨es, hes, hwired⟩, hwaiting⟩ := Op.wires_after hcarries hpass
  refine ⟨fun e he => ?_, hwaiting⟩
  rw [hes, hes₀] at he
  rcases List.mem_append.mp he with he | he
  · rcases List.mem_append.mp he with he | he
    · exact (h.events e he).mono (fun s hs => hK.mono _ _ s hold hs) hold
    · exact hquiet _ _ e he
  · refine (hwired e he).mono (fun _ => id) fun e he => ?_
    rw [hes]
    exact List.mem_append_right _ he

theorem Recorded.reachable {K : List Event → SkBuff → Prop} (hK : Recorded K) {w : World}
    (h : Reachable w) : WiredBy K w :=
  h.invariant (fun _ => wiredBy_init K) fun op _ ht => ht.after hK op

end SimpleTcpip
