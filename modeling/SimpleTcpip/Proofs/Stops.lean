/-
Where an output run can stop.

No check of skbuff.h fails between the allocation of a packet and the link.  What is left
are pointers, which a graph in order does not break, and the IP header of a looped-back
packet.  The lemmas are stated for any set of faults `E` that contains what cannot be
excluded: with all faults but those of skbuff.h they say that the buffers fit, and with
none at all that the run completes.
-/
import SimpleTcpip.Proofs.Room
import SimpleTcpip.Proofs.Routes

namespace SimpleTcpip

open Fallible

/-! ### Pointers -/

/-- Every pointer the output path follows is valid. -/
structure GraphOk (w : World) : Prop where
  comms : ∀ i intf, w.intf i = some intf → intf.comm.commType ≠ .none
  links : ∀ i intf l, w.intf i = some intf → intf.link = some l →
    ∃ link, w.link l = some link ∧ (w.intf link.intf1).isSome ∧ (w.intf link.intf2).isSome
  routes : ∀ n, ∀ rt ∈ w.rtTable n, (w.intf rt.intf).isSome

/-- A dangling or missing pointer is a fault of `E`, or there is none. -/
def Sound (E : Fault → Prop) (w : World) : Prop :=
  (E .useAfterFree ∧ E .nullDeref) ∨ GraphOk w

/-- An interface is live, or following a dangling pointer is a fault of `E`. -/
def LiveIntf (E : Fault → Prop) (w : World) (i : IntfId) : Prop :=
  E .useAfterFree ∨ (w.intf i).isSome

theorem GraphOk.of_frame {w w' : World} (h : GraphOk w) (hintf : w'.intf = w.intf)
    (hlink : w'.link = w.link) (hrt : w'.rtTable = w.rtTable) : GraphOk w' := by
  refine ⟨?_, ?_, ?_⟩
  · rw [hintf]
    exact h.comms
  · rw [hintf, hlink]
    exact h.links
  · rw [hintf, hrt]
    exact h.routes

theorem Sound.of_frame {E : Fault → Prop} {w w' : World} (h : Sound E w) (hintf : w'.intf = w.intf)
    (hlink : w'.link = w.link) (hrt : w'.rtTable = w.rtTable) : Sound E w' :=
  h.imp_right fun hg => hg.of_frame hintf hlink hrt

theorem LiveIntf.of_frame {E : Fault → Prop} {w w' : World} {i : IntfId} (h : LiveIntf E w i)
    (hintf : w'.intf = w.intf) : LiveIntf E w' i := by
  unfold LiveIntf
  rwa [hintf]

theorem Sound.route {E : Fault → Prop} {w : World} {n : NodeId} {rt : RtEntry} (h : Sound E w)
    (hrt : rt ∈ w.rtTable n) : LiveIntf E w rt.intf :=
  h.imp (fun he => he.1) fun hg => hg.routes n rt hrt

/-! ### The link -/

section Link

variable {E : Fault → Prop} {w : World} {i : IntfId}

theorem derefIntf_faultsIn (hi : LiveIntf E w i) : FaultsIn E (derefIntf i) w := by
  unfold derefIntf
  refine faultsIn_bind_of_ok (run_get w) ?_
  cases hintf : w.intf i with
  | some intf => exact faultsIn_pure _ _
  | none =>
      refine faultsIn_throw (hi.resolve_right ?_) _
      rw [hintf]
      exact Bool.false_ne_true

/-- After a pointer to an interface was followed. -/
theorem derefIntf_bind {α : Type} {f : Intf → M α} (hi : LiveIntf E w i)
    (hf : ∀ intf, w.intf i = some intf → FaultsIn E (f intf) w) :
    FaultsIn E (derefIntf i >>= f) w := by
  refine faultsIn_bind (derefIntf_faultsIn hi) fun intf t h => ?_
  obtain ⟨hintf, rfl⟩ := derefIntf_ok.mp h
  exact hf intf hintf

theorem freeSkbIf_faultsIn (c : Bool) (skb : SkBuff) : FaultsIn E (freeSkbIf c skb) w := by
  refine faultsIn_ite (fun _ => ?_) fun _ => faultsIn_pure _ _
  exact faultsIn_of_ok (a := ⟨⟩) (freeSkb_ok.mpr rfl)

theorem getNbrIf_faultsIn (hs : Sound E w) (hi : LiveIntf E w i) :
    FaultsIn E (getNbrIf i) w := by
  refine derefIntf_bind hi fun intf hintf => ?_
  cases hl : intf.link with
  | none => exact faultsIn_pure _ _
  | some l =>
      refine faultsIn_bind_of_ok (run_get w) ?_
      cases hlink : w.link l with
      | some link => exact faultsIn_pure _ _
      | none =>
          rcases hs with he | hg
          · exact faultsIn_throw he.1 _
          · obtain ⟨link, hlive, -⟩ := hg.links i intf l hintf hl
            rw [hlink] at hlive
            cases hlive

/-- The neighbour of an interface of a graph in order is live. -/
theorem getNbrIf_live (hs : Sound E w) {j : IntfId} {t : World}
    (h : getNbrIf i w = .ok (some j) t) : t = w ∧ LiveIntf E w j := by
  obtain ⟨intf, hderef, hrest⟩ := bind_ok_of_eq (derefIntf_reads i) h
  obtain ⟨hintf, -⟩ := derefIntf_ok.mp hderef
  cases hl : intf.link with
  | none =>
      rw [hl] at hrest
      cases hrest
  | some l =>
      rw [hl] at hrest
      obtain ⟨t', hget, hrest⟩ := bind_ok_of_eq get_reads hrest
      cases hget
      cases hlink : w.link l with
      | none =>
          rw [hlink] at hrest
          cases hrest
      | some link =>
          rw [hlink] at hrest
          cases hrest
          refine ⟨rfl, hs.imp (fun he => he.1) fun hg => ?_⟩
          obtain ⟨link', hlive, h1, h2⟩ := hg.links i intf l hintf hl
          obtain rfl := Option.some.inj (hlink.symm.trans hlive)
          split
          · exact h2
          · exact h1

theorem sysSendCall_faultsIn (frame : List UInt8) (w : World) :
    FaultsIn E (sysSendCall i frame) w := by
  unfold sysSendCall logIf
  refine faultsIn_bind_of_ok (run_get w) (faultsIn_bind_of_ok (run_set _ w) ?_)
  refine faultsIn_bind (faultsIn_ite (fun _ => ?_) fun _ => faultsIn_pure _ _) fun _ _ _ =>
    faultsIn_pure _ _
  exact faultsIn_of_ok (a := ⟨⟩) (log_ok.mpr rfl)

theorem sendBytesOut_faultsIn (hs : Sound E w) (hi : LiveIntf E w i) (frame : List UInt8) :
    FaultsIn E (sendBytesOut frame i) w := by
  refine derefIntf_bind hi fun intf hintf => ?_
  cases hcomm : intf.comm.commType with
  | tuntap => exact sysSendCall_faultsIn frame w
  | none =>
      refine faultsIn_throw (hs.elim (fun he => he.2) fun hg => ?_) w
      exact absurd hcomm (hg.comms i intf hintf)
  | udp =>
      refine derefIntf_bind hi fun intf _ => faultsIn_bind (getNbrIf_faultsIn hs hi) fun nbr t h => ?_
      cases nbr with
      | none => exact faultsIn_pure _ _
      | some j =>
          obtain ⟨rfl, hj⟩ := getNbrIf_live hs h
          refine derefIntf_bind hj fun nbr _ => faultsIn_ite (fun _ => faultsIn_pure _ _) fun _ => ?_
          exact faultsIn_bind (sysSendCall_faultsIn frame t) fun _ _ _ => faultsIn_pure _ _

theorem sendPktOut_faultsIn (hs : Sound E w) (hi : LiveIntf E w i) (skb : SkBuff) :
    FaultsIn E (sendPktOut i skb) w := by
  refine faultsIn_bind (sendBytesOut_faultsIn hs hi skb.bytes) fun r t _ => ?_
  refine faultsIn_ite (fun _ => ?_) fun _ => faultsIn_pure _ _
  exact faultsIn_bind_of_ok (a := ⟨⟩) (freeSkb_ok.mpr rfl) (faultsIn_pure _ _)

/-- **`ethernet_output` has room for its header and the padding.** -/
theorem ethernetOutput_faultsIn {mac : MacAddr} {proto : UInt16} {skb : SkBuff}
    (hskb : LinkRoom skb) (hs : Sound E w) (hi : LiveIntf E w i) :
    FaultsIn E (ethernetOutput i mac proto skb) w := by
  have htail := hskb.tailroom
  have hs' : Sound E { w with trace := w.trace ++ [.ethOutput i mac proto skb] } :=
    hs.of_frame rfl rfl rfl
  have hi' : LiveIntf E { w with trace := w.trace ++ [.ethOutput i mac proto skb] } i :=
    hi.of_frame rfl
  refine faultsIn_bind_of_ok (a := ⟨⟩) (log_ok.mpr rfl) ?_
  refine faultsIn_bind_of_ok (skbPush_ok.mpr ⟨hskb.headroom, rfl, rfl⟩) ?_
  refine derefIntf_bind hi' fun intf _ => faultsIn_ite (fun hshort => ?_) fun _ => ?_
  · refine faultsIn_bind_of_ok (skbPut_ok.mpr ⟨?_, rfl, rfl⟩) (sendPktOut_faultsIn hs' hi' _)
    exact htail
  · exact sendPktOut_faultsIn hs' hi' _

theorem sendArpBroadcastRequest_faultsIn (hs : Sound E w) (hi : LiveIntf E w i) (ip : UInt32) :
    FaultsIn E (sendArpBroadcastRequest i ip) w := by
  have hs' : Sound E w.allocated := hs.of_frame rfl rfl rfl
  have hi' : LiveIntf E w.allocated i := hi.of_frame rfl
  refine faultsIn_bind_of_ok (allocArpSkb_run) (derefIntf_bind hi' fun intf _ => ?_)
  refine faultsIn_bind (ethernetOutput_faultsIn ?_ hs' hi') fun ok t _ => ?_
  · exact (sendable_arpPacket w.nextId arpOpRequest intf.macAddr intf.ipAddr MacAddr.zero ip).toLinkRoom
  · exact faultsIn_ite (fun _ => faultsIn_of_ok (a := ⟨⟩) (freeSkb_ok.mpr rfl)) fun _ => faultsIn_pure _ _

end Link

/-! ### Local delivery

A looped-back packet has no IP header pointer, so the run may stop there; the buffer
itself is long enough for every header that is pulled.
-/

/-- A failed check of skbuff.h. -/
def Fault.IsBuffer : Fault → Prop
  | .assertion | .lenUnderflow => True
  | _ => False

/-- A looped-back packet as `ip_input` gets it. -/
structure Whole (s : SkBuff) : Prop extends Fits s where
  ipHdr : s.ipHdr = none
  hdr : ipHdrSize ≤ s.len
  udp : s.proto = ipProtoUdp → ipHdrSize + udpHdrSize ≤ s.len

section Delivery

variable {E : Fault → Prop} {w : World} {skb : SkBuff} {p n : Nat}

theorem touch_faultsIn (h : E .overread ∨ Readable w skb p n) : FaultsIn E (touch skb p n) w := by
  by_cases hread : Readable w skb p n
  · exact faultsIn_of_ok (a := ⟨⟩) (touch_ok.mpr ⟨hread, rfl⟩)
  · refine faultsIn_bind_of_ok (run_get w) (faultsIn_ite (fun _ => ?_) fun _ => faultsIn_pure _ _)
    exact faultsIn_throw (h.resolve_right hread) w

theorem readU8_faultsIn (h : E .overread ∨ Readable w skb p 1) : FaultsIn E (readU8 skb p) w :=
  faultsIn_bind (touch_faultsIn h) fun _ _ _ => faultsIn_pure _ _

theorem readU16_faultsIn (h : E .overread ∨ Readable w skb p 2) : FaultsIn E (readU16 skb p) w :=
  faultsIn_bind (touch_faultsIn h) fun _ _ _ => faultsIn_pure _ _

theorem readU32_faultsIn (h : E .overread ∨ Readable w skb p 4) : FaultsIn E (readU32 skb p) w :=
  faultsIn_bind (touch_faultsIn h) fun _ _ _ => faultsIn_pure _ _

theorem readMac_faultsIn (h : E .overread ∨ Readable w skb p 6) : FaultsIn E (readMac skb p) w :=
  faultsIn_bind (touch_faultsIn h) fun _ _ _ => faultsIn_pure _ _

theorem derefIntfPtr_faultsIn {i : Option IntfId} (hnull : i = none → E .nullDeref)
    (hlive : ∀ j, i = some j → LiveIntf E w j) : FaultsIn E (derefIntfPtr i) w := by
  cases i with
  | none => exact faultsIn_throw (hnull rfl) w
  | some j => exact derefIntf_faultsIn (hlive j rfl)

variable (hE : ∀ e : Fault, ¬ e.IsBuffer → E e)
include hE

theorem derefTcpSock_faultsIn (k : SockId) : FaultsIn E (derefTcpSock k) w := by
  refine faultsIn_bind_of_ok (run_get w) ?_
  cases w.tcpSock k with
  | some sock => exact faultsIn_pure _ _
  | none => exact faultsIn_throw (hE _ id) w

theorem derefUdpSock_faultsIn (k : SockId) : FaultsIn E (derefUdpSock k) w := by
  refine faultsIn_bind_of_ok (run_get w) ?_
  cases w.udpSock k with
  | some sock => exact faultsIn_pure _ _
  | none => exact faultsIn_throw (hE _ id) w

/-- The run stops at the IP header of a looped-back packet. -/
theorem followIpHdr_faultsIn_bind {α : Type} {f : Nat → M α} (hskb : skb.ipHdr = none) :
    FaultsIn E (followIpHdr skb >>= f) w := by
  refine faultsIn_bind (faultsIn_bind_of_ok (a := ⟨⟩) (log_ok.mpr rfl) ?_) fun iph t hok => ?_
  · rw [hskb]
    exact faultsIn_throw (hE _ id) _
  · rw [followIpHdr_ok, hskb] at hok
    cases hok.1

theorem icmpInput_faultsIn_looped {ipInput : SkBuff → M Bool} (hskb : skb.ipHdr = none) :
    FaultsIn E (icmpInput ipInput skb) w := by
  have hread : E .overread := hE _ id
  refine faultsIn_ite (fun _ => faultsIn_pure _ _) fun _ => ?_
  refine faultsIn_bind (readU8_faultsIn (Or.inl hread)) fun type t _ => ?_
  refine faultsIn_bind (readU8_faultsIn (Or.inl hread)) fun code t' _ => faultsIn_ite (fun _ => ?_) ?_
  · refine faultsIn_bind (derefIntfPtr_faultsIn (fun _ => hE _ id) fun _ _ => Or.inl (hE _ id)) ?_
    exact fun intf t'' _ => followIpHdr_faultsIn_bind hE hskb
  · exact fun _ => faultsIn_bind_of_ok (a := ⟨⟩) (freeSkb_ok.mpr rfl) (faultsIn_pure _ _)

theorem tcpInput_faultsIn_looped {ipInput : SkBuff → M Bool} (hskb : skb.ipHdr = none) :
    FaultsIn E (tcpInput ipInput skb) w := by
  unfold tcpInput
  cases skb.intf with
  | none => exact faultsIn_throw (hE _ id) w
  | some i =>
      refine faultsIn_bind (readU16_faultsIn (Or.inl (hE _ id))) fun dstPort t _ => ?_
      refine faultsIn_bind_of_ok (run_get t) ?_
      cases tcpSocksManagerFind t i (UInt16.ofNat (ntohs dstPort.toNat)) with
      | none => exact faultsIn_pure _ _
      | some k =>
          refine faultsIn_bind (derefTcpSock_faultsIn hE k) fun sock t' _ => ?_
          exact followIpHdr_faultsIn_bind hE hskb

theorem udpInput_faultsIn (hfits : Fits skb) (hlen : udpHdrSize ≤ skb.len) :
    FaultsIn E (udpInput skb) w := by
  unfold udpInput
  cases skb.intf with
  | none => exact faultsIn_throw (hE _ id) w
  | some i =>
      refine faultsIn_bind (readU16_faultsIn (Or.inl (hE _ id))) fun dstPort t _ => ?_
      refine faultsIn_bind_of_ok (run_get t) ?_
      cases udpSocksManagerFind t i (UInt16.ofNat (ntohs dstPort.toNat)) with
      | none => exact faultsIn_pure _ _
      | some k =>
          have hroom : skb.data + udpHdrSize ≤ skb.tail := by
            have := hfits.len
            omega
          refine faultsIn_bind_of_ok (skbPull_ok.mpr ⟨fun _ => hlen, hroom, rfl, rfl⟩) ?_
          refine faultsIn_bind (derefUdpSock_faultsIn hE k) fun sock t' _ => ?_
          exact faultsIn_bind_of_ok (a := ⟨⟩) (setUdpSock_ok.mpr rfl) (faultsIn_pure _ _)

/-- **Delivering a looped-back packet fails no check of skbuff.h.** -/
theorem ipInput_faultsIn_looped (depth : Nat) (hskb : Whole skb) :
    FaultsIn E (ipInputDepth depth skb) w := by
  cases depth with
  | zero => exact faultsIn_throw (hE _ id) w
  | succ depth =>
      refine faultsIn_bind (readU8_faultsIn (Or.inl (hE _ id))) fun proto t hproto => ?_
      obtain ⟨-, rfl, rfl⟩ := readU8_ok.mp hproto
      have hroom : skb.data + ipHdrSize ≤ skb.tail := by
        have := hskb.len
        have := hskb.hdr
        omega
      have hpull : ∀ handler : SkBuff → M Bool,
          (∀ t, FaultsIn E (handler (skb.pulled ipHdrSize)) t) →
          FaultsIn E (do
            let s ← skbPull skb ipHdrSize
            log (.transport skb.proto s)
            handler s) t := by
        intro handler hhandler
        refine faultsIn_bind_of_ok (skbPull_ok.mpr ⟨fun _ => hskb.hdr, hroom, rfl, rfl⟩) ?_
        exact faultsIn_bind_of_ok (a := ⟨⟩) (log_ok.mpr rfl) (hhandler _)
      refine faultsIn_ite (fun _ => hpull _ fun _ => icmpInput_faultsIn_looped hE hskb.ipHdr) fun _ => ?_
      refine faultsIn_ite (fun _ => hpull _ fun _ => tcpInput_faultsIn_looped hE hskb.ipHdr) fun _ => ?_
      refine faultsIn_ite (fun hudp => hpull _ fun _ => ?_) fun _ => faultsIn_pure _ _
      have hlen := hskb.udp hudp
      refine udpInput_faultsIn hE (hskb.toFits.pull (skbPull_ok.mpr ⟨fun _ => hskb.hdr, hroom, rfl, rfl⟩ :
        skbPull skb ipHdrSize t = .ok (skb.pulled ipHdrSize) t)) ?_
      show udpHdrSize ≤ sizeSub skb.len ipHdrSize
      rw [sizeSub_of_le hskb.hdr]
      omega

end Delivery

/-! ### The network layer -/

/-- Local delivery may stop the run, unless the packet is not for the node itself. -/
def Undelivered (E : Fault → Prop) (w : World) (node : NodeId) (dst : UInt32) : Prop :=
  (∀ e : Fault, ¬ e.IsBuffer → E e) ∨ isIpLocal w node dst = false

/-- The header of a packet on its way out can be read. -/
def HeaderRead (E : Fault → Prop) (w : World) (s : SkBuff) : Prop :=
  E .overread ∨ Readable w s s.data (max ipHdrSize (ipHlen s.mem s.data * 4))

theorem HeaderRead.sub {E : Fault → Prop} {w : World} {s : SkBuff} {k n : Nat}
    (h : HeaderRead E w s) (hn : k + n ≤ max ipHdrSize (ipHlen s.mem s.data * 4)) :
    E .overread ∨ Readable w s (s.data + k) n := by
  refine h.imp_right fun hr hchecked => ?_
  have := hr hchecked
  omega

section Network

variable {E : Fault → Prop} {w : World} {i : IntfId} {node : NodeId} {skb : SkBuff}

theorem arpEntryFor_faultsIn (ip : UInt32) : FaultsIn E (arpEntryFor node i ip) w := by
  refine faultsIn_bind_of_ok (run_get w) ?_
  cases arpTableLookup (w.arpTable node) ip with
  | some entry => exact faultsIn_pure _ _
  | none => exact faultsIn_bind_of_ok (run_modify _ w) (faultsIn_pure _ _)

theorem ipNeighbourOutput_faultsIn (hskb : LinkRoom skb) (hs : Sound E w) (hi : LiveIntf E w i)
    (ip : UInt32) : FaultsIn E (ipNeighbourOutput node i ip skb) w := by
  refine faultsIn_bind (arpEntryFor_faultsIn ip) fun entry t ht => ?_
  have hsends := (arpEntryFor_sends (K := fun _ => True) (L := fun _ => True) node i ip).ok ht
  have hs' := hs.of_frame hsends.intf hsends.link hsends.rtTable
  have hi' := hi.of_frame hsends.intf
  refine faultsIn_ite (fun _ => ?_) fun _ => ethernetOutput_faultsIn hskb hs' hi'
  refine faultsIn_bind_of_ok (a := ⟨⟩) (log_ok.mpr rfl) ?_
  refine faultsIn_bind_of_ok (a := ⟨⟩) (modifyArpEntry_ok.mpr rfl) ?_
  refine faultsIn_bind (sendArpBroadcastRequest_faultsIn ?_ ?_ ip) fun _ _ _ => faultsIn_pure _ _
  · exact hs'.of_frame rfl rfl rfl
  · exact hi'.of_frame rfl

/-- **`ip_postroute`**, of a packet that stays sendable when its source is written. -/
theorem ipPostroute_faultsIn {ipInput : SkBuff → M Bool} (hsend : ∀ j src, LinkRoom (skb.routed j src))
    (hs : Sound E w) (hread : HeaderRead E w skb)
    (hin : isIpLocal w node skb.dstIp = true → ∀ j src, FaultsIn E (ipInput (skb.routed j src)) w) :
    FaultsIn E (ipPostroute ipInput node skb) w := by
  refine faultsIn_bind (readU32_faultsIn (hread.sub (by rw [ipHdrSize]; omega))) fun dst t ht => ?_
  obtain ⟨-, rfl, rfl⟩ := readU32_ok.mp ht
  refine faultsIn_bind_of_ok (run_get t) ?_
  cases hrt : rtLookupLpm (t.rtTable node) (skb.mem.load32 (skb.data + 16)) with
  | none => exact faultsIn_pure _ _
  | some rt =>
      have hi : LiveIntf E t rt.intf := hs.route (rtLookupLpm_mem hrt)
      refine faultsIn_ite (fun _ => faultsIn_pure _ _) fun _ => derefIntf_bind hi fun out _ => ?_
      -- writing the source address leaves the header length as it was
      have hhlen : ipHlen (skb.mem.store32 (skb.data + 12) out.ipAddr) skb.data
          = ipHlen skb.mem skb.data := by
        unfold ipHlen
        rw [Memory.store32_outside _ _ (by omega)]
      have hread' : HeaderRead E t
          ({ skb with intf := some rt.intf }.store32 (skb.data + 12) out.ipAddr) := by
        refine hread.imp_right fun hr => ?_
        show Readable t _ skb.data (max ipHdrSize (ipHlen (skb.mem.store32 (skb.data + 12) out.ipAddr)
          skb.data * 4))
        rw [hhlen]
        exact hr
      refine faultsIn_bind ?_ fun s t' ht' => ?_
      · refine faultsIn_bind (readU8_faultsIn (hread'.sub (k := 0) (by rw [ipHdrSize]; omega))) fun b t'' hb => ?_
        obtain ⟨-, rfl, rfl⟩ := readU8_ok.mp hb
        refine faultsIn_bind (touch_faultsIn (hread'.sub (k := 0) ?_)) fun _ _ _ => faultsIn_pure _ _
        rw [Nat.zero_add]
        exact Nat.le_max_right _ _
      · obtain ⟨-, -, rfl, rfl⟩ := fillIpHcksum_ok.mp ht'
        refine faultsIn_bind_of_ok (run_get t') (faultsIn_ite (fun hlocal => ?_) fun _ => ?_)
        · exact hin hlocal rt.intf out.ipAddr
        · exact ipNeighbourOutput_faultsIn (hsend rt.intf out.ipAddr) hs hi _

theorem dstIp_withIpHdr (ip : UInt32) (proto : UInt8) : (skb.withIpHdr ip proto).dstIp = ip := by
  rw [SkBuff.dstIp, withIpHdr_data, withIpHdr_mem, Memory.store16, Memory.store8,
    Memory.load32_write _ _ (Or.inr (by simp)), Memory.load32_write _ _ (Or.inr (by simp)),
    Memory.load32_store32]

theorem proto_withIpHdr (ip : UInt32) (proto : UInt8) :
    (skb.withIpHdr ip proto).proto = proto := by
  rw [SkBuff.proto, withIpHdr_data, withIpHdr_mem]
  rw [Memory.store16_outside _ _ (by omega), Memory.store8_self]

theorem proto_routed (j : IntfId) (src : UInt32) : (skb.routed j src).proto = skb.proto :=
  routed_mem_outside skb j src (by rw [routed_data]; omega)

theorem Packed.whole (hskb : Packed skb) {ip : UInt32} {proto : UInt8}
    (hudp : proto = ipProtoUdp → udpHdrSize ≤ skb.len) (j : IntfId) (src : UInt32) :
    Whole ((skb.withIpHdr ip proto).routed j src) := by
  refine ⟨(hskb.sendable ip proto j src).toFits, hskb.ipHdr, ?_, fun h => ?_⟩
  · rw [routed_len, withIpHdr_len]
    omega
  · have hproto : ((skb.withIpHdr ip proto).routed j src).proto = proto := by
      rw [proto_routed, proto_withIpHdr]
    rw [routed_len, withIpHdr_len]
    have := hudp (hproto.symm.trans h)
    omega

/-- **`ip_output`**, of a buffer as the senders build it. -/
theorem ipOutput_faultsIn (depth : Nat) {ip : UInt32} {proto : UInt8} (hskb : Packed skb)
    (hudp : proto = ipProtoUdp → udpHdrSize ≤ skb.len) (hs : Sound E w)
    (hlocal : Undelivered E w node ip) :
    FaultsIn E (ipOutput (ipInputDepth depth) node ip proto skb) w := by
  have hdata := hskb.data
  refine faultsIn_bind_of_ok (a := ⟨⟩) (log_ok.mpr rfl) ?_
  refine faultsIn_bind_of_ok (skbPush_ok.mpr ⟨?_, rfl, rfl⟩) ?_
  · rw [hdata]
    decide
  show FaultsIn E (ipPostroute (ipInputDepth depth) node (skb.withIpHdr ip proto)) _
  refine ipPostroute_faultsIn (fun j src => (hskb.sendable ip proto j src).toLinkRoom) (hs.of_frame rfl rfl rfl)
    (Or.inr fun _ => ?_) fun h j src => ?_
  · rw [withIpHdr_data, ipHlen_withIpHdr, withIpHdr_tail, hdata]
    have := hskb.len
    rw [hdata] at this
    simp only [buffHeadroom, ipHdrSize, recvReservedHeadRoom] at this ⊢
    omega
  · rw [dstIp_withIpHdr] at h
    refine hlocal.elim (fun hE => ?_) fun hnot => ?_
    · exact ipInput_faultsIn_looped hE depth (hskb.whole hudp j src)
    · exact absurd (hnot.symm.trans h) Bool.false_ne_true

end Network

/-! ### The senders -/

section Senders

variable {E : Fault → Prop} {w : World} {depth : Nat}

theorem icmpOut_faultsIn {node : NodeId} {ip : UInt32} {type code : UInt8} {payload : List UInt8}
    (hs : Sound E w) (hlocal : Undelivered E w node ip) :
    FaultsIn E (icmpOut (ipInputDepth depth) node ip type code payload) w := by
  unfold FaultsIn
  rw [icmpOut_run]
  refine faultsIn_bind (ipOutput_faultsIn depth (packed_icmpMessage _ _ _ _) ?_ ?_ hlocal)
    fun result t _ => ?_
  · exact fun h => absurd h (by decide)
  · exact hs.of_frame rfl rfl rfl
  · refine faultsIn_ite (fun _ => faultsIn_pure _ _) fun _ => ?_
    exact faultsIn_bind_of_ok (a := ⟨⟩) (freeSkb_ok.mpr rfl) (faultsIn_pure _ _)

/-- **`tcp_out`** on a connection whose socket has an interface. -/
theorem tcpOut_faultsIn {c : ConnId} {buff : List UInt8} {flags : TcpFlags}
    {conn : TcpConnectionSock} {parent : TcpSock} (hconn : w.tcpConn c = some conn)
    (hparent : w.tcpSock conn.parent = some parent) (hs : Sound E w)
    (hnull : parent.intf = none → E .nullDeref)
    (hlive : ∀ j, parent.intf = some j → LiveIntf E w j)
    (hlocal : ∀ j intf, parent.intf = some j → w.intf j = some intf →
      Undelivered E w intf.node conn.remoteIp) :
    FaultsIn E (tcpOut (ipInputDepth depth) c buff flags) w := by
  unfold FaultsIn
  rw [tcpOut_run hconn hparent]
  by_cases hwin : exceedsWindow conn buff.length = true
  · rw [if_pos hwin]
    exact fun e t h => by cases h
  rw [if_neg hwin]
  refine faultsIn_bind (derefIntfPtr_faultsIn hnull fun j hj => (hlive j hj).of_frame rfl)
    fun intf t ht => ?_
  obtain ⟨⟨j, hj, hintf⟩, rfl⟩ := derefIntfPtr_ok.mp ht
  refine ipOutput_faultsIn depth (packed_tcpSegment _ _ _ _ _) ?_ ?_ (hlocal j intf hj hintf)
  · exact fun h => absurd h (by decide)
  · exact hs.of_frame rfl rfl rfl

/-- **An ARP reply**, to a request whose header can be read. -/
theorem sendArpReplyMsg_faultsIn {i : IntfId} {req : SkBuff} {shdr : Nat} (hs : Sound E w)
    (hi : LiveIntf E w i) (hread : E .overread ∨ Readable w req shdr arpHdrSize) :
    FaultsIn E (sendArpReplyMsg i req shdr) w := by
  have hsub : ∀ {k n : Nat}, k + n ≤ 28 → E .overread ∨ Readable w.allocated req (shdr + k) n := by
    intro k n hkn
    refine hread.imp_right fun hr hchecked => ?_
    have := hr hchecked
    rw [arpHdrSize] at this
    omega
  refine faultsIn_bind_of_ok allocArpSkb_run (derefIntf_bind (hi.of_frame rfl) fun intf _ => ?_)
  refine faultsIn_bind (readMac_faultsIn (hsub (by omega))) fun hw t hhw => ?_
  obtain ⟨-, rfl, rfl⟩ := readMac_ok.mp hhw
  refine faultsIn_bind (readU32_faultsIn (hsub (by omega))) fun ip t hip => ?_
  obtain ⟨-, rfl, rfl⟩ := readU32_ok.mp hip
  refine faultsIn_bind (ethernetOutput_faultsIn ?_ (hs.of_frame rfl rfl rfl) (hi.of_frame rfl))
    fun _ _ _ => faultsIn_pure _ _
  exact (sendable_arpPacket w.nextId arpOpReply intf.macAddr intf.ipAddr _ _).toLinkRoom

/-- Waiting packets are flushed. -/
theorem flushPending_faultsIn {n : NodeId} {ip : UInt32} {mac : MacAddr} {pending : List SkBuff}
    (hs : Sound E w) (hroom : ∀ s ∈ pending, LinkRoom s)
    (hlive : ∀ s ∈ pending, ∀ i, s.intf = some i → LiveIntf E w i)
    (hnull : ∀ s ∈ pending, s.intf = none → E .nullDeref) :
    FaultsIn E (flushPending n ip mac pending) w := by
  induction pending generalizing w with
  | nil => exact faultsIn_pure _ _
  | cons skb rest ih =>
      refine faultsIn_bind_of_ok (a := ⟨⟩) (modifyArpEntry_ok.mpr rfl) ?_
      cases hi : skb.intf with
      | none => exact faultsIn_throw (hnull skb List.mem_cons_self hi) _
      | some i =>
          have hlive0 := hlive skb List.mem_cons_self i hi
          refine faultsIn_bind (ethernetOutput_faultsIn (hroom skb List.mem_cons_self)
            (hs.of_frame rfl rfl rfl) (hlive0.of_frame rfl)) fun result t ht => ?_
          have hemits := (ethernetOutput_emits (P := fun _ => True) (fun _ _ => trivial) trivial).ok ht
          refine faultsIn_bind (freeSkbIf_faultsIn _ _) fun _ t' ht' => ?_
          have hemits' := (freeSkbIf_emits (P := fun _ => True) (fun _ _ => trivial) _ _).ok ht'
          have hintf : t'.intf = w.intf := hemits'.intf.trans hemits.intf
          refine ih (hs.of_frame hintf ?_ ?_) (fun s hmem => hroom s (List.mem_cons_of_mem _ hmem))
            (fun s hmem j hj => (hlive s (List.mem_cons_of_mem _ hmem) j hj).of_frame hintf)
            fun s hmem => hnull s (List.mem_cons_of_mem _ hmem)
          · exact hemits'.link.trans hemits.link
          · exact hemits'.rtTable.trans hemits.rtTable

section Any

variable (hE : ∀ e : Fault, ¬ e.IsBuffer → E e)
include hE

theorem sound_of_buffer : Sound E w := Or.inl ⟨hE _ id, hE _ id⟩

theorem derefTcpConn_faultsIn (c : ConnId) : FaultsIn E (derefTcpConn c) w := by
  refine faultsIn_bind_of_ok (run_get w) ?_
  cases w.tcpConn c with
  | some conn => exact faultsIn_pure _ _
  | none => exact faultsIn_throw (hE _ id) w

/-- **`tcp_out` fails no check of skbuff.h**, on whatever connection. -/
theorem tcpOut_faultsIn_any (c : ConnId) (buff : List UInt8) (flags : TcpFlags) :
    FaultsIn E (tcpOut (ipInputDepth depth) c buff flags) w := by
  cases hconn : w.tcpConn c with
  | none =>
      refine faultsIn_bind (derefTcpConn_faultsIn hE c) fun conn t h => ?_
      rw [derefTcpConn_ok, hconn] at h
      cases h.1
  | some conn =>
      cases hparent : w.tcpSock conn.parent with
      | none =>
          refine faultsIn_bind_of_ok (derefTcpConn_ok.mpr ⟨hconn, rfl⟩) ?_
          refine faultsIn_bind_of_ok (allocSkb_ok.mpr ⟨rfl, rfl⟩) ?_
          refine faultsIn_bind (derefTcpSock_faultsIn hE _) fun parent t h => ?_
          rw [derefTcpSock_ok] at h
          cases hparent.symm.trans h.1
      | some parent =>
          exact tcpOut_faultsIn hconn hparent (sound_of_buffer hE) (fun _ => hE _ id)
            (fun _ _ => Or.inl (hE _ id)) fun _ _ _ _ => Or.inl hE

theorem udpOut_faultsIn (sock : UdpSock) (buff : List UInt8) (ip : UInt32) (port : UInt16) :
    FaultsIn E (udpOut (ipInputDepth depth) sock buff ip port) w := by
  unfold FaultsIn
  rw [udpOut_run]
  refine faultsIn_bind (derefIntfPtr_faultsIn (fun _ => hE _ id) fun _ _ => Or.inl (hE _ id))
    fun intf t _ => ?_
  refine ipOutput_faultsIn depth (packed_udpDatagram _ _ _ _) (fun _ => ?_) (sound_of_buffer hE)
    (Or.inl hE)
  show udpHdrSize ≤ 0 + udpHdrSize + buff.length
  omega

theorem udpSendto_faultsIn (sockfd : Int) (buff : List UInt8) (ip : UInt32) (port : UInt16) :
    FaultsIn E (udpSendto (ipInputDepth depth) sockfd buff ip port) w := by
  refine faultsIn_bind_of_ok (run_get w) ?_
  cases goodUdpSock w sockfd with
  | none => exact faultsIn_pure _ _
  | some k =>
      refine faultsIn_bind (derefUdpSock_faultsIn hE k) fun sock t _ =>
        faultsIn_ite (fun _ => faultsIn_pure _ _) fun _ => ?_
      exact faultsIn_bind (udpOut_faultsIn hE _ _ _ _) fun _ _ _ => faultsIn_pure _ _

theorem tcpSend_faultsIn (connfd : Int) (buff : List UInt8) :
    FaultsIn E (tcpSend (ipInputDepth depth) connfd buff) w := by
  refine faultsIn_bind_of_ok (run_get w) ?_
  cases goodTcpConnectionSock w connfd with
  | none => exact faultsIn_pure _ _
  | some c =>
      refine faultsIn_bind (derefTcpConn_faultsIn hE c) fun conn t _ =>
        faultsIn_ite (fun _ => faultsIn_pure _ _) fun _ => ?_
      exact faultsIn_bind (tcpOut_faultsIn_any hE _ _ _) fun _ _ _ => faultsIn_pure _ _

/-! ### A received frame that is not for the node itself -/

theorem arpInput_faultsIn (skb : SkBuff) (hroom : ∀ n s, Pending w n s → LinkRoom s) :
    FaultsIn E (arpInput skb) w := by
  have hread : E .overread := hE _ id
  have hs : Sound E w := sound_of_buffer hE
  refine faultsIn_ite (fun _ => faultsIn_pure _ _) fun _ => ?_
  refine faultsIn_bind (readU16_faultsIn (Or.inl hread)) fun opcode t ht => ?_
  obtain ⟨-, rfl, rfl⟩ := readU16_ok.mp ht
  cases skb.intf with
  | none => exact faultsIn_throw (hE _ id) _
  | some i =>
      have hi : LiveIntf E t i := Or.inl (hE _ id)
      refine faultsIn_bind ?_ fun ok t' _ =>
        faultsIn_bind (freeSkbIf_faultsIn _ _) fun _ _ _ => faultsIn_pure _ _
      refine faultsIn_ite (fun _ => ?_) fun _ => faultsIn_ite (fun _ => ?_) fun _ => faultsIn_pure _ _
      · refine derefIntf_bind hi fun intf _ => ?_
        refine faultsIn_bind (readU32_faultsIn (Or.inl hread)) fun target t' ht' => ?_
        obtain ⟨-, rfl, rfl⟩ := readU32_ok.mp ht'
        refine faultsIn_ite (fun _ => faultsIn_pure _ _) fun _ => ?_
        exact faultsIn_bind (sendArpReplyMsg_faultsIn hs hi (Or.inl hread)) fun _ _ _ =>
          faultsIn_pure _ _
      · refine derefIntf_bind hi fun intf _ => faultsIn_bind ?_ fun _ _ _ => faultsIn_pure _ _
        refine faultsIn_bind (readU32_faultsIn (Or.inl hread)) fun ip t' ht' => ?_
        obtain ⟨-, rfl, rfl⟩ := readU32_ok.mp ht'
        refine faultsIn_bind_of_ok (run_get _) ?_
        cases hfind : arpTableLookup (t'.arpTable intf.node) (skb.mem.load32 (skb.data + 14)) with
        | none => exact faultsIn_pure _ _
        | some entry =>
            refine faultsIn_bind (readMac_faultsIn (Or.inl hread)) fun mac t' ht' => ?_
            obtain ⟨-, rfl, rfl⟩ := readMac_ok.mp ht'
            refine faultsIn_bind_of_ok (a := ⟨⟩) (modifyArpEntry_ok.mpr rfl) ?_
            refine flushPending_faultsIn (sound_of_buffer hE) (fun s hmem => ?_)
              (fun _ _ _ _ => Or.inl (hE _ id)) fun _ _ _ => hE _ id
            exact hroom intf.node s ⟨entry, List.mem_of_find?_eq_some hfind, hmem⟩

theorem ipForward_faultsIn {skb : SkBuff} (hroom : LinkRoom skb)
    (hlocal : ∀ i intf, skb.intf = some i → w.intf i = some intf →
      isIpLocal w intf.node skb.dstIp = false) :
    FaultsIn E (ipForward skb) w := by
  refine faultsIn_bind_of_ok (run_get w) (faultsIn_ite (fun _ => faultsIn_pure _ _) fun _ => ?_)
  refine faultsIn_bind (readU8_faultsIn (Or.inl (hE _ id))) fun ttl t ht => ?_
  obtain ⟨-, rfl, rfl⟩ := readU8_ok.mp ht
  refine faultsIn_ite (fun _ => faultsIn_pure _ _) fun _ =>
    faultsIn_ite (fun _ => faultsIn_pure _ _) fun _ => ?_
  refine faultsIn_bind (derefIntfPtr_faultsIn (fun _ => hE _ id) fun _ _ => Or.inl (hE _ id))
    fun intf t' ht' => ?_
  obtain ⟨⟨i, hi, hintf⟩, rfl⟩ := derefIntfPtr_ok.mp ht'
  show FaultsIn E (ipPostroute _ intf.node skb.forwarded) t'
  refine ipPostroute_faultsIn (fun j src => ⟨hroom.headroom, hroom.tailroom⟩)
    (sound_of_buffer hE) (Or.inl (hE _ id)) fun h => ?_
  rw [dstIp_forwarded, hlocal i intf hi hintf] at h
  cases h

/-- **A received frame that `ip_input` does not take fails no check of skbuff.h.** -/
theorem recvFrame_faultsIn {i : IntfId} {frame : List UInt8}
    (hnot : ¬ IpAccepted w (recvBuffer w.nextId i frame))
    (hroom : ∀ n s, Pending w n s → LinkRoom s) : FaultsIn E (recvFrame i frame) w := by
  have hread : E .overread := hE _ id
  refine faultsIn_bind_of_ok (recvSkb_eq i frame w) (faultsIn_bind ?_ fun ok t _ =>
    freeSkbIf_faultsIn _ _)
  have hlen : (recvBuffer w.nextId i frame).len ≤ recvBufferSize - recvReservedHeadRoom :=
    List.length_take_le _ _
  refine faultsIn_bind (derefIntfPtr_faultsIn (fun _ => hE _ id) fun _ _ => Or.inl (hE _ id))
    fun intf t ht => ?_
  obtain ⟨⟨j, hj, hintf⟩, rfl⟩ := derefIntfPtr_ok.mp ht
  refine faultsIn_ite (fun hconfig => ?_) fun _ => faultsIn_pure _ _
  refine faultsIn_ite (fun _ => faultsIn_pure _ _) fun hhdr => ?_
  refine faultsIn_bind (derefIntfPtr_faultsIn (fun _ => hE _ id) fun _ _ => Or.inl (hE _ id))
    fun intf' t ht' => ?_
  obtain ⟨⟨j', hj', hintf'⟩, rfl⟩ := derefIntfPtr_ok.mp ht'
  obtain ⟨rfl, rfl⟩ := intfPtr_unique hj hintf hj' hintf'
  refine faultsIn_bind (readMac_faultsIn (Or.inl hread)) fun dstMac t hmac => ?_
  obtain ⟨-, rfl, rfl⟩ := readMac_ok.mp hmac
  refine faultsIn_ite (fun _ => faultsIn_pure _ _) fun hqual => ?_
  refine faultsIn_bind (readU16_faultsIn (Or.inl hread)) fun type t htype => ?_
  obtain ⟨-, rfl, rfl⟩ := readU16_ok.mp htype
  have hpull : skbPull (recvBuffer w.nextId i frame) ethHdrSize (w.received i frame)
      = .ok ((recvBuffer w.nextId i frame).pulled ethHdrSize) (w.received i frame) := by
    refine skbPull_ok.mpr ⟨fun _ => Nat.le_of_not_lt hhdr, ?_, rfl, rfl⟩
    exact Nat.add_le_add_left (Nat.le_of_not_lt hhdr) _
  refine faultsIn_ite (fun _ => ?_) fun _ => faultsIn_ite (fun hip => ?_) fun _ => faultsIn_pure _ _
  · exact faultsIn_bind_of_ok hpull (arpInput_faultsIn hE _ hroom)
  refine faultsIn_bind_of_ok hpull ?_
  show FaultsIn E (ipPreroute (recvBuffer w.nextId i frame).ipPacket) (w.received i frame)
  refine faultsIn_bind (derefIntfPtr_faultsIn (fun _ => hE _ id) fun _ _ => Or.inl (hE _ id))
    fun intf' t ht => ?_
  obtain ⟨⟨j', hj', hintf'⟩, rfl⟩ := derefIntfPtr_ok.mp ht
  obtain ⟨rfl, rfl⟩ := intfPtr_unique hj hintf hj' hintf'
  refine faultsIn_bind (readU32_faultsIn (Or.inl hread)) fun dst t hdst => ?_
  obtain ⟨-, rfl, rfl⟩ := readU32_ok.mp hdst
  refine faultsIn_bind_of_ok (run_get _) (faultsIn_ite (fun hlocal => ?_) fun hlocal => ?_)
  · exact absurd ⟨j, intf, hj, hintf, hconfig, Nat.le_of_not_lt hhdr, Decidable.not_not.mp hqual,
      hip, hlocal⟩ hnot
  · refine ipForward_faultsIn hE ⟨?_, ?_⟩ fun j' intf' hj' hintf' => ?_
    · show 14 ≤ 4 + 14
      decide
    · have hsize : sizeSub (recvBuffer w.nextId i frame).len ethHdrSize
          = (recvBuffer w.nextId i frame).len - 14 := sizeSub_of_le (Nat.le_of_not_lt hhdr)
      show recvReservedHeadRoom + (recvBuffer w.nextId i frame).len
        + (60 - (sizeSub (recvBuffer w.nextId i frame).len ethHdrSize + ethHdrSize)) ≤ recvBufferSize
      rw [hsize, ethHdrSize, recvReservedHeadRoom, recvBufferSize] at *
      omega
    · obtain ⟨rfl, rfl⟩ := intfPtr_unique hj hintf hj' hintf'
      exact Bool.eq_false_iff.mpr hlocal

end Any

end Senders

end SimpleTcpip
