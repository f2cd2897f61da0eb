/-
How often a packet is forwarded.

A packet travels in frames: a call receives one, `ip_forward` passes the packet on, and the
frame that leaves, at once or when an ARP reply flushes the packet, is received by another
call.  Each hop takes one off the TTL and none is made with less than two, so the TTL bounds
the hops of any journey, whatever the routes are and in whatever order frames arrive.
-/
import SimpleTcpip.Proofs.Forwarding
import SimpleTcpip.Proofs.HeaderChecksum
import SimpleTcpip.Proofs.Reception
import SimpleTcpip.Proofs.Wire

namespace SimpleTcpip

open Fallible

/-! ### What `ip_forward` passes on -/

/-- The TTL of the packet a buffer carries. -/
def SkBuff.ttl (skb : SkBuff) : Nat := (skb.mem (skb.data + 8)).toNat

/-- `ip_forward` passes the packet of a received frame on to `ip_postroute`. -/
def PassedOn (w : World) (skb : SkBuff) : Prop :=
  ∃ i intf, skb.intf = some i ∧ w.intf i = some intf ∧ intf.isIpAddrConfig = true ∧
    ethHdrSize ≤ skb.len ∧ ethernetInputQualify intf (MacAddr.load skb.mem skb.data) = true ∧
    (skb.mem.load16 (skb.data + 12)).toNat = htons ethProtoIp.toNat ∧
    isIpLocal w intf.node skb.ipPacket.dstIp = false ∧ w.ipForwardEnable = true ∧
    1 < skb.ipPacket.ttl

instance (w : World) (skb : SkBuff) : Decidable (PassedOn w skb) :=
  decidable_of_iff ((skb.intf.bind w.intf).any (fun intf => decide (intf.isIpAddrConfig = true ∧
      ethHdrSize ≤ skb.len ∧ ethernetInputQualify intf (MacAddr.load skb.mem skb.data) = true ∧
      (skb.mem.load16 (skb.data + 12)).toNat = htons ethProtoIp.toNat ∧
      isIpLocal w intf.node skb.ipPacket.dstIp = false ∧ w.ipForwardEnable = true ∧
      1 < skb.ipPacket.ttl)) = true) <| by
    constructor
    · intro h
      obtain ⟨intf, hintf, htests⟩ := (Option.any_eq_true _ _).mp h
      obtain ⟨i, hi, hintf⟩ := Option.bind_eq_some_iff.mp hintf
      exact ⟨i, intf, hi, hintf, of_decide_eq_true htests⟩
    · rintro ⟨i, intf, hi, hintf, htests⟩
      rw [hi, Option.bind_some, hintf, Option.any_some]
      exact decide_eq_true htests

/-- **`ip_forward` passes a packet on exactly when forwarding is enabled and the TTL is above
one.** -/
theorem ipForward_run {w : World} {skb : SkBuff} {i : IntfId} {intf : Intf}
    (hi : skb.intf = some i) (hintf : w.intf i = some intf)
    (hread : Readable w skb (skb.data + 8) 1) :
    ipForward skb w = if w.ipForwardEnable = true ∧ 1 < skb.ttl then
      ipPostroute ipInput intf.node skb.forwarded w else .ok false w := by
  have hderef : derefIntfPtr skb.intf w = .ok intf w := derefIntfPtr_ok.mpr ⟨⟨i, hi, hintf⟩, rfl⟩
  unfold ipForward SkBuff.ttl
  rw [run_bind_ok (run_get w)]
  by_cases henabled : w.ipForwardEnable = true
  · rw [if_neg (not_not.mpr henabled), run_bind_ok (readU8_ok.mpr ⟨hread, rfl, rfl⟩)]
    by_cases h0 : skb.mem (skb.data + 8) = 0
    · rw [if_pos h0, if_neg fun h => by rw [h0] at h; exact absurd h.2 (by decide)]
      rfl
    · rw [if_neg h0]
      have hne0 : (skb.mem (skb.data + 8)).toNat ≠ 0 := fun h => h0 (UInt8.toNat.inj h)
      by_cases h1 : skb.mem (skb.data + 8) - 1 = 0
      · have hone : skb.mem (skb.data + 8) = 1 := by
          have hadd := congrArg (· + 1) h1
          simpa using hadd
        rw [if_pos h1, if_neg fun h => by rw [hone] at h; exact absurd h.2 (by decide)]
        rfl
      · have hne1 : (skb.mem (skb.data + 8)).toNat ≠ 1 := fun h => h1 (by
          rw [show skb.mem (skb.data + 8) = 1 from UInt8.toNat.inj h]
          rfl)
        rw [if_neg h1, if_pos ⟨henabled, by omega⟩]
        exact run_bind_ok hderef
  · rw [if_pos henabled, if_neg fun h => henabled h.1]
    rfl

/-- **A frame passed on makes `pkt_receive` call `ip_postroute` with the TTL lowered.** -/
theorem pktReceive_passedOn {w : World} {skb : SkBuff} (h : PassedOn w skb) (hskb : Filled skb)
    (hlen : ethHdrSize + ipHdrSize ≤ skb.len) :
    ∃ i intf, skb.intf = some i ∧ w.intf i = some intf ∧
      pktReceive skb w = ipPostroute ipInput intf.node skb.ipPacket.forwarded w := by
  obtain ⟨i, intf, hi, hintf, hconfig, heth, hqual, htype, hlocal, henabled, httl⟩ := h
  have hpacket : packetIntf w skb = some intf :=
    frameIntf_eq_some.mpr ⟨i, hi, hintf, hconfig, heth, hqual, htype⟩
  refine ⟨i, intf, hi, hintf, ?_⟩
  rw [pktReceive_ip hpacket hskb hlen, hlocal]
  have hi' : skb.ipPacket.intf = some i := hi
  refine (ipForward_run hi' hintf ?_).trans (if_pos ⟨henabled, httl⟩)
  refine (hskb.ipPacket heth).readable fun _ => ?_
  rw [ipPacket_len heth]
  rw [ipHdrSize] at hlen
  omega

/-! ### The TTL on the way -/

/-- Passing a packet on takes one off the TTL. -/
theorem ttl_forwarded (skb : SkBuff) (i : IntfId) (src : UInt32) (h : 1 < skb.ttl) :
    (skb.forwarded.routed i src).ttl + 1 = skb.ttl := by
  have hbyte := forwarded_routed_apply skb i src (k := 8) (by omega) (by omega)
  rw [if_pos rfl] at hbyte
  have hone : (1 : UInt8) ≤ skb.mem (skb.data + 8) := by
    rw [UInt8.le_iff_toNat_le]
    exact Nat.le_of_lt h
  show ((skb.forwarded.routed i src).mem (skb.data + 8)).toNat + 1 = (skb.mem (skb.data + 8)).toNat
  rw [hbyte, UInt8.toNat_sub_of_le _ _ hone]
  exact Nat.sub_add_cancel (Nat.le_of_lt h)

/-- `ip_output` starts a packet with the TTL of `init_ip_hdr`. -/
theorem ttl_withIpHdr (skb : SkBuff) (ip : UInt32) (proto : UInt8) (i : IntfId) (src : UInt32) :
    ((skb.withIpHdr ip proto).routed i src).ttl = 64 := by
  unfold SkBuff.ttl
  rw [routed_data, routed_mem_outside _ _ _ (Or.inl (by omega)), withIpHdr_data, withIpHdr_mem,
    Memory.store16_outside _ _ (by omega), Memory.store8_outside _ _ (by omega),
    Memory.store32_outside _ _ (by omega), Memory.store8_self]
  rfl

/-- The TTL a received frame carries. -/
theorem ttl_recvBuffer (id : SkbId) (i : IntfId) {frame : List UInt8} (h : 22 < frame.length) :
    (recvBuffer id i frame).ipPacket.ttl = (frame.getD 22 0).toNat := by
  have hlen : 22 < (frame.take (recvBufferSize - recvReservedHeadRoom)).length := by
    rw [List.length_take, recvBufferSize, recvReservedHeadRoom]
    omega
  show (Memory.write (fun _ => 0) recvReservedHeadRoom (frame.take (recvBufferSize
    - recvReservedHeadRoom)) (recvReservedHeadRoom + 22)).toNat = _
  rw [Memory.write_inside _ _ _ hlen, List.getD_eq_getElem _ _ hlen, List.getElem_take,
    List.getD_eq_getElem _ _ h]

/-- The TTL in the frame of a packet. -/
theorem ttl_ethFrame (dst src : MacAddr) (proto : UInt16) (s : SkBuff) :
    ((ethFrame dst src proto s).getD 22 0).toNat = s.ttl :=
  congrArg UInt8.toNat (body_ethFrame dst src proto s 8 (by omega))

/-! ### Journeys -/

/-- `ip_forward` passes on the packet of the frame a call handles. -/
def Call.forwards (call : Call) : Bool := call.rx.any fun r => decide (PassedOn call.before r)

/-- A call's frame is the one that left with the packet of another call's frame. -/
def Hop (call call' : Call) : Prop :=
  ∃ r i mac src s j, call.rx = some r ∧ s.id = r.id ∧
    Event.ethOutput i mac ethProtoIp s ∈ newEvents call.before call'.before ∧
    Event.sent i (ethFrame mac src ethProtoIp s) ∈ newEvents call.before call'.before ∧
    call'.op = .recvFrame j (ethFrame mac src ethProtoIp s)

/-- The calls of a run that one packet comes by, in order. -/
structure Journey (calls js : List Call) : Prop where
  inOrder : js.Sublist calls
  hops : js.IsChain Hop

theorem Run.steps_of_mem {w₀ w : World} {calls : List Call} (h : Run w₀ calls w) {call : Call}
    (hmem : call ∈ calls) : Steps call.after w := by
  induction h with
  | nil => cases hmem
  | @snoc calls t t' op r _ hv hrun ih =>
      rcases List.mem_append.mp hmem with hmem | hmem
      · exact (ih hmem).tail ⟨op, hv, (final_of_ok hrun).symm⟩
      · rw [List.mem_singleton.mp hmem]
        exact .refl

/-- Of two calls of a run, one was made in a state that follows the other. -/
theorem Run.steps_between {w₀ w : World} {calls : List Call} (h : Run w₀ calls w)
    {call call' : Call} (hsub : [call, call'].Sublist calls) :
    Steps call.after call'.before := by
  induction h with
  | nil => cases hsub
  | @snoc calls t t' op r hrun' hv hrun ih =>
      obtain ⟨l, l', hl, hcalls, hlast⟩ := List.sublist_append_iff.mp hsub
      match l' with
      | [] =>
          rw [List.append_nil] at hl
          exact ih (hl ▸ hcalls)
      | [c] =>
          obtain rfl : l = [call] := by
            have hlen := congrArg List.length hl
            match l, hl with
            | [a], hl => rw [(List.cons.inj hl).1]
            | [], hl => simp at hlen
            | _ :: _ :: _, hl => simp at hlen
          obtain rfl : call' = c := by simpa using hl
          obtain rfl := List.mem_singleton.mp (hlast.subset List.mem_cons_self)
          exact hrun'.steps_of_mem (hcalls.subset List.mem_cons_self)
      | _ :: _ :: _ =>
          have hlen := hlast.length_le
          simp at hlen

/-- **A hop takes one off the TTL**, which was above one. -/
theorem Hop.ttl {call call' : Call} (h : Hop call call') (hw : Reachable call.before)
    (hafter : call.after = call.op.after call.before)
    (hlater : Steps call.after call'.before) {r r' : SkBuff} (hr : call.rx = some r)
    (hr' : call'.rx = some r') : 1 < r.ipPacket.ttl ∧ r'.ipPacket.ttl + 1 = r.ipPacket.ttl := by
  obtain ⟨r₀, i, mac, src, s, j, hr₀, hid, hout, -, hop'⟩ := h
  obtain rfl : r = r₀ := Option.some.inj (hr.symm.trans hr₀)
  unfold Call.rx at hr hr'
  rw [hop'] at hr'
  obtain rfl := Option.some.inj hr'
  cases hop : call.op with
  | recvFrame i₀ frame =>
      rw [hop] at hr hafter
      obtain rfl := Option.some.inj hr
      rw [hafter] at hlater
      have hs : s ∈ handedOver call.before call'.before :=
        List.mem_filterMap.mpr ⟨_, hout, by rw [Event.handedOver, if_pos rfl]⟩
      obtain ⟨_, _, rt, out, -, -, httl, -, -, rfl⟩ :=
        onlyForwarded_handedOver hw.pendingOld hlater s hs hid
      refine ⟨httl, ?_⟩
      rw [ttl_recvBuffer, ttl_ethFrame]
      · exact ttl_forwarded _ _ _ httl
      · rw [length_ethFrame]
        omega
  | _ =>
      rw [hop] at hr
      cases hr

/-- A call that forwards has a packet with a TTL above one. -/
theorem Call.forwards_ttl {call : Call} (h : call.forwards = true) {r : SkBuff}
    (hr : call.rx = some r) : 1 < r.ipPacket.ttl := by
  unfold Call.forwards at h
  rw [hr, Option.any_some] at h
  obtain ⟨_, _, _, _, _, _, _, _, _, _, httl⟩ := of_decide_eq_true h
  exact httl

/-- **The TTL bounds the journey.** -/
theorem Journey.forwards_le {w₀ w : World} {calls js : List Call} {call : Call}
    (hrun : Run w₀ calls w) (h0 : Initial w₀) (h : Journey calls (call :: js)) {r : SkBuff}
    (hr : call.rx = some r) : (call :: js).countP Call.forwards ≤ r.ipPacket.ttl - 1 := by
  induction js generalizing call r with
  | nil =>
      rw [List.countP_singleton]
      split
      · rename_i hforwards
        exact Nat.le_sub_of_add_le (Call.forwards_ttl hforwards hr)
      · exact Nat.zero_le _
  | cons call' js ih =>
      obtain ⟨hop, hhops⟩ := List.isChain_cons_cons.mp h.hops
      have hnext : Journey calls (call' :: js) :=
        ⟨(List.sublist_cons_self call _).trans h.inOrder, hhops⟩
      obtain ⟨r', hr'⟩ : ∃ r', call'.rx = some r' := by
        obtain ⟨_, _, mac, src, s, j, _, _, _, _, hop'⟩ := hop
        refine ⟨recvBuffer call'.before.nextId j (ethFrame mac src ethProtoIp s), ?_⟩
        unfold Call.rx
        rw [hop']
      obtain ⟨hreach, -, hcall⟩ := hrun.call (.init h0) (h.inOrder.subset List.mem_cons_self)
      have hbetween : Steps call.after call'.before := by
        refine hrun.steps_between (List.Sublist.trans ?_ h.inOrder)
        exact (List.singleton_sublist.mpr List.mem_cons_self).cons_cons call
      obtain ⟨httl, hstep⟩ := hop.ttl hreach (final_of_ok hcall).symm hbetween hr hr'
      have hrest := ih hnext hr'
      rw [List.countP_cons]
      split <;> omega

/-! ### What leaves -/

/-- A packet has the TTL of the node's own packets, or one less than the frame it came in
had, and not zero. -/
def Lowered (tr : List Event) (s : SkBuff) : Prop :=
  s.ttl = 64 ∨ 0 < s.ttl ∧ ∃ i r, Event.received i r ∈ tr ∧ s.id = r.id ∧
    s.ttl + 1 = r.ipPacket.ttl

theorem Lowered.pos {tr : List Event} {s : SkBuff} (h : Lowered tr s) : 0 < s.ttl := by
  rcases h with h | h
  · omega
  · exact h.1

theorem recorded_lowered : Recorded Lowered where
  mono := fun _ _ _ htr h => h.imp_right fun ⟨hpos, i, r, hrx, hr⟩ => ⟨hpos, i, r, htr _ hrx, hr⟩
  icmp := fun _ _ _ _ _ _ _ _ => Or.inl (ttl_withIpHdr _ _ _ _ _)
  udp := fun _ _ _ _ _ _ _ _ _ => Or.inl (ttl_withIpHdr _ _ _ _ _)
  tcp := fun _ _ _ _ _ _ _ _ _ => Or.inl (ttl_withIpHdr _ _ _ _ _)
  forwarded := by
    intro tr id i frame j src hrx _ httl
    have hlower := ttl_forwarded _ j src httl
    have habove : 1 < (recvBuffer id i frame).ipPacket.ttl := httl
    exact Or.inr ⟨by omega, i, _, hrx, rfl, hlower⟩

/-- A frame with an IP packet. -/
def IsIpFrame (frame : List UInt8) : Prop := frame.getD 12 0 = 0x08 ∧ frame.getD 13 0 = 0x00

/-- **Forwarding is bounded**: what a run does to packets and their TTLs. -/
structure ForwardingBounded (calls : List Call) (w : World) : Prop where
  /-- A packet received with TTL `t` is passed on at most `t - 1` times. -/
  journeys : ∀ call js r, Journey calls (call :: js) → call.rx = some r →
    (call :: js).countP Call.forwards ≤ r.ipPacket.ttl - 1
  /-- A packet handed to the link has TTL 64 or one less than it was received with. -/
  handed : ∀ i mac s, Event.ethOutput i mac ethProtoIp s ∈ w.trace → Lowered w.trace s
  /-- A packet that waits for an address has TTL 64 or one less than it was received with. -/
  waiting : ∀ n s, Pending w n s → Lowered w.trace s
  /-- No frame with an IP packet carries TTL zero. -/
  sent : ∀ i frame, Event.sent i frame ∈ w.trace → IsIpFrame frame → frame.getD 22 0 ≠ 0

/-- **In every run forwarding is bounded**, whatever the routes and the order of frames. -/
theorem forwarding_bounded {w₀ w : World} {calls : List Call} (h0 : Initial w₀)
    (hrun : Run w₀ calls w) : ForwardingBounded calls w := by
  have hwired := recorded_lowered.reachable (hrun.reachable (.init h0))
  refine ⟨fun call js r h hr => h.forwards_le hrun h0 hr, fun i mac s hmem => ?_, hwired.waiting,
    fun i frame hmem hip hzero => ?_⟩
  · exact ((hwired.events _ hmem).resolve_left fun harp => absurd harp.1 (by decide)).2
  · obtain ⟨mac, src, proto, s, hout, rfl⟩ := hwired.events _ hmem
    rcases hwired.events _ hout with ⟨rfl, -⟩ | ⟨rfl, hs⟩
    · -- the type of an ARP frame is another
      have htype := type_ethFrame mac src ethProtoArp s 1 (by omega)
      rw [hip.2] at htype
      exact absurd htype (by decide)
    · have hpos := hs.pos
      rw [← ttl_ethFrame mac src ethProtoIp s, hzero] at hpos
      exact absurd hpos (by decide)

/-- The IP packet with a buffer's identity that an event hands to the link. -/
def Event.ipOutOf (id : SkbId) : Event → Option (IntfId × MacAddr × SkBuff)
  | .ethOutput i mac proto s => if proto = ethProtoIp ∧ s.id = id then some (i, mac, s) else none
  | _ => none

theorem Event.ipOutOf_some {id : SkbId} {e : Event} {x : IntfId × MacAddr × SkBuff}
    (h : e.ipOutOf id = some x) : e = .ethOutput x.1 x.2.1 ethProtoIp x.2.2 ∧ x.2.2.id = id := by
  cases e with
  | ethOutput i mac proto s =>
      rw [Event.ipOutOf] at h
      split at h
      · rename_i htests
        obtain rfl := Option.some.inj h
        exact ⟨by rw [htests.1], htests.2⟩
      · cases h
  | _ => cases h

/-- A system call sent this frame from this interface. -/
def Event.isSent (i : IntfId) (frame : List UInt8) : Event → Bool
  | .sent j bytes => decide (j = i ∧ bytes = frame)
  | _ => false

theorem Event.isSent_eq {i : IntfId} {frame : List UInt8} {e : Event}
    (h : e.isSent i frame = true) : e = .sent i frame := by
  cases e with
  | sent j bytes =>
      obtain ⟨rfl, rfl⟩ := of_decide_eq_true h
      rfl
  | _ => cases h

namespace Fixture

/-- The answer of `172.16.10.2` to an ARP request of `172.16.10.1`. -/
def farArpReply : List UInt8 :=
  List.replicate 12 0xff ++ [0x08, 0x06] ++
    [0, 1, 8, 0, 6, 4, 0, 2, 1, 2, 3, 4, 5, 6, 172, 16, 10, 2, 6, 5, 4, 3, 2, 1, 172, 16, 10, 1]

end Fixture

/-- A packet waits for an address, leaves when it is known, and arrives at the next node. -/
theorem forwarding_bounded_fixture :
    ∃ calls w, ForwardingBounded calls w ∧
      ∃ call call', Journey calls [call, call'] ∧ call.forwards = true := by
  let first : Op := .recvFrame 0 Fixture.forwardedFrame
  let second : Op := .recvFrame 2 Fixture.farArpReply
  let third (mac : MacAddr) (s : SkBuff) : Op := .recvFrame 3
    (ethFrame mac (interfaceAssignMacAddress Fixture.node0 Fixture.eth02) ethProtoIp s)
  obtain ⟨calls, hcalls, -⟩ : ∃ calls, Run Fixture.graph calls (Fixture.after []) ∧ _ :=
    Run.of_runOps (Fixture.runOps_after (by decide +kernel))
  have hfirst : first.Valid (Fixture.after []) ∧
      first.returns (Fixture.after []) = some .unit := by decide +kernel
  have hsecond : second.Valid (first.after (Fixture.after [])) ∧
      second.returns (first.after (Fixture.after [])) = some .unit := by decide +kernel
  have hthird : ((newEvents (Fixture.after []) (second.after (first.after (Fixture.after [])))).findSome?
      (Event.ipOutOf (Fixture.after []).nextId)).any (fun x =>
        (newEvents (Fixture.after []) (second.after (first.after (Fixture.after [])))).any
          (Event.isSent x.1 (ethFrame x.2.1 (interfaceAssignMacAddress Fixture.node0 Fixture.eth02)
            ethProtoIp x.2.2)) &&
        decide ((third x.2.1 x.2.2).Valid (second.after (first.after (Fixture.after []))) ∧
          (third x.2.1 x.2.2).returns (second.after (first.after (Fixture.after [])))
            = some .unit)) = true := by decide +kernel
  have hpassed : PassedOn (Fixture.after [])
      (recvBuffer (Fixture.after []).nextId 0 Fixture.forwardedFrame) := by decide +kernel
  generalize Fixture.after [] = w at *
  obtain ⟨⟨i, mac, s⟩, hfound, hsent⟩ := (Option.any_eq_true _ _).mp hthird
  obtain ⟨hsent, hlast⟩ := Bool.and_eq_true_iff.mp hsent
  obtain ⟨hvalid, hlast⟩ := of_decide_eq_true hlast
  obtain ⟨e, hmem, he⟩ := List.exists_of_findSome?_eq_some hfound
  obtain ⟨rfl, hid⟩ := Event.ipOutOf_some he
  obtain ⟨e', hmem', he'⟩ := List.any_eq_true.mp hsent
  obtain rfl := Event.isSent_eq he'
  have hrun := ((hcalls.snoc hfirst.1 (Op.returns_run hfirst.2)).snoc hsecond.1
    (Op.returns_run hsecond.2)).snoc hvalid (Op.returns_run hlast)
  refine ⟨_, _, forwarding_bounded Fixture.graph_initial hrun, ⟨w, first, .unit, first.after w⟩,
    ⟨second.after (first.after w), third mac s, .unit,
      (third mac s).after (second.after (first.after w))⟩, ⟨?_, ?_⟩, decide_eq_true hpassed⟩
  · rw [List.append_assoc, List.append_assoc]
    refine List.Sublist.trans ?_ (List.sublist_append_right calls _)
    exact ((List.Sublist.refl _).cons _).cons_cons _
  · refine List.isChain_pair.mpr ⟨_, i, mac, _, s, 3, rfl, hid, hmem, hmem', rfl⟩

end SimpleTcpip
