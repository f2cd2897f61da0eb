/-
What a forwarded packet looks like when it leaves.

A received buffer has one identity from `recv_task` to the link, and only `ip_forward`
and `ip_postroute` write to it.  The packet that leaves, at once or after waiting in
the ARP table, is the received one with the TTL decremented, the checksum rewritten,
and the source address replaced by that of the outgoing interface.  The last write is
meant for the node's own packets; it makes forwarding transparent only for packets
that already carried that address.
-/
import SimpleTcpip.Proofs.Calls
import SimpleTcpip.Proofs.Delivery

namespace SimpleTcpip

open Fallible Relation

/-! ### Any run hands over only what is covered -/

theorem mem_handedOver {w w' : World} {es : List Event} (he : w'.trace = w.trace ++ es)
    {s : SkBuff} (hs : s ∈ handedOver w w') : ∃ e ∈ es, e.handedOver = some s := by
  rw [handedOver, newEvents_append he] at hs
  exact List.mem_filterMap.mp hs

theorem Event.handedOver_of {sc : Scope} {K : SkBuff → Prop} {e : Event} {s : SkBuff}
    (he : e.Of sc K) (hover : e.handedOver = some s) : K s := by
  cases e with
  | parked n ip s' => cases hover; exact he
  | ethOutput i mac proto s' =>
      rw [Event.handedOver] at hover
      split at hover
      · rename_i hproto
        cases hover
        exact he.resolve_left (by rw [hproto]; decide)
      · cases hover
  | _ => cases hover

theorem Event.handedOver_quiet {e : Event} (he : e.IsQuiet) : e.handedOver = none := by
  cases e with
  | free id => rfl
  | readIpHdr s => rfl
  | _ => exact absurd he id

/-- What a call adds to the trace, and what it lets wait. -/
theorem after_records (op : Op) {w : World} {K : SkBuff → Prop}
    (hK : Covers (op.scope w) (op.begun w) (op.after w).nextId K) :
    (∃ es, (op.after w).trace = w.trace ++ es ∧ ∀ e ∈ es, ∀ s, e.handedOver = some s → K s) ∧
      ∀ n s, Pending (op.after w) n s → K s := by
  have hbegun : ∃ es, (op.begun w).trace = w.trace ++ es ∧ ∀ e ∈ es, e.handedOver = none := by
    cases op with
    | recvFrame i frame => exact ⟨_, rfl, by simp [Event.handedOver]⟩
    | _ => exact ⟨[], (List.append_nil _).symm, by simp⟩
  rcases runOp_cases op w with hchanges | ⟨-, hquiet⟩
  · obtain ⟨⟨es, he, hes⟩, hwait⟩ :=
      hchanges.records (Nat.le_of_eq (Op.base_scope w op)) hK
    obtain ⟨es₀, he₀, hes₀⟩ := hbegun
    refine ⟨⟨es₀ ++ es, by rw [he, he₀, List.append_assoc], ?_⟩, hwait⟩
    intro e hmem s hover
    rcases List.mem_append.mp hmem with hl | hr
    · rw [hes₀ e hl] at hover
      cases hover
    · exact Event.handedOver_of (hes e hr) hover
  · obtain ⟨es, he, hes⟩ := hquiet.trace
    refine ⟨⟨es, he, ?_⟩, ?_⟩
    · intro e hmem s hover
      rw [Event.handedOver_quiet (hes e hmem)] at hover
      cases hover
    · intro n s hs
      unfold Pending at hs
      rw [hquiet.arpTable, ← arpTable_begun op] at hs
      exact hK.waiting n s hs

/-! ### The identity of a buffer -/

/-- Every packet that waits has a buffer allocated before. -/
def PendingOld (w : World) : Prop := ∀ n s, Pending w n s → s.id < w.nextId

theorem pendingOld_after {w : World} (op : Op) (h : PendingOld w) : PendingOld (op.after w) := by
  have hle := nextId_le_after op w
  refine (after_records op (K := fun s => s.id < (op.after w).nextId) ⟨?_, ?_, ?_⟩).2
  · exact fun s _ hs => hs
  · intro r i intf rt out hrx _ _ _ _ _ _
    cases op with
    | recvFrame i' frame =>
        cases hrx
        exact Nat.lt_of_lt_of_le (Nat.lt_succ_self _) hle
    | _ => exact absurd hrx id
  · intro n s hs
    unfold Pending at hs
    rw [arpTable_begun] at hs
    exact Nat.lt_of_lt_of_le (h n s hs) (Nat.le_trans (nextId_le_begun op w) hle)

theorem Reachable.pendingOld {w : World} (h : Reachable w) : PendingOld w := by
  induction h with
  | init h =>
      rintro n s ⟨entry, hmem, -⟩
      rw [h.arpTable] at hmem
      cases hmem
  | step _ _ hrun ih =>
      rw [← final_of_ok hrun]
      exact pendingOld_after _ ih

/-! ### The packet that leaves -/

/-- The packet a buffer carries: at least the header, as the code reads it. -/
def SkBuff.ipBytes (skb : SkBuff) : List UInt8 := skb.mem.read skb.data (max skb.len ipHdrSize)

/-- A packet that was passed on differs from the one received only in the TTL, one less,
and in the header checksum. -/
structure Transparent (received emitted : List UInt8) : Prop where
  length : emitted.length = received.length
  ttl : (emitted.getD 8 0).toNat + 1 = (received.getD 8 0).toNat
  rest : ∀ k, k < received.length → k ≠ 8 → k ≠ 10 → k ≠ 11 →
    emitted.getD k 0 = received.getD k 0

section Rewritten

variable (skb : SkBuff) (i : IntfId) (src : UInt32)

/-- The writes of `ip_forward` and `ip_postroute` to a byte of the packet. -/
theorem forwarded_routed_apply {k : Nat} (h10 : k ≠ 10) (h11 : k ≠ 11) :
    (skb.forwarded.routed i src).mem (skb.data + k)
      = if k = 8 then skb.mem (skb.data + 8) - 1
        else skb.mem.store32 (skb.data + 12) src (skb.data + k) := by
  have hstep : (skb.forwarded.routed i src).mem (skb.data + k)
      = (skb.mem.store8 (skb.data + 8) (skb.mem (skb.data + 8) - 1)).store32 (skb.data + 12) src
          (skb.data + k) :=
    Memory.store16_outside (p := skb.data + 10) _ _ (by omega)
  rw [hstep]
  split
  · rename_i h8
    rw [h8, Memory.store32_outside _ _ (by omega), Memory.store8_self]
  · simp only [Memory.store32, Memory.write_apply]
    split
    · rfl
    · exact Memory.store8_outside _ _ (by omega)

/-- **The rewritten packet is transparent when the source address was already that of the
outgoing interface.** -/
theorem transparent_iff (httl : 1 < (skb.mem (skb.data + 8)).toNat) :
    Transparent skb.ipBytes (skb.forwarded.routed i src).ipBytes ↔ skb.srcIp = src := by
  have hlen : ∀ s : SkBuff, 20 ≤ s.ipBytes.length := by
    intro s
    rw [SkBuff.ipBytes, Memory.length_read]
    exact Nat.le_max_right _ _
  have hbyte : ∀ (s : SkBuff) k, k < s.ipBytes.length →
      s.ipBytes.getD k 0 = s.mem (s.data + k) := by
    intro s k hk
    rw [SkBuff.ipBytes, Memory.length_read] at hk
    exact Memory.getD_read _ hk 0
  have heq : (skb.forwarded.routed i src).ipBytes.length = skb.ipBytes.length := by
    simp only [SkBuff.ipBytes, Memory.length_read]
    rfl
  have h20 := hlen skb
  constructor
  · intro h
    have hsame : ∀ k, k < 4 → skb.mem (skb.data + 12 + k)
        = skb.mem.store32 (skb.data + 12) src (skb.data + 12 + k) := by
      intro k hk
      have hrest := h.rest (12 + k) (by omega) (by omega) (by omega) (by omega)
      rw [hbyte _ _ (by omega), hbyte _ _ (by omega)] at hrest
      have hwrite := forwarded_routed_apply skb i src (k := 12 + k) (by omega) (by omega)
      rw [if_neg (by omega)] at hwrite
      rw [Nat.add_assoc, ← hwrite]
      exact hrest.symm
    rw [SkBuff.srcIp, Memory.load32_congr hsame, Memory.load32_store32]
  · intro h
    have hsrc : skb.mem.store32 (skb.data + 12) src = skb.mem := by
      rw [← h, SkBuff.srcIp, Memory.store32_load32]
    refine ⟨heq, ?_, ?_⟩
    · rw [hbyte _ _ (by omega), hbyte _ _ (by omega)]
      show ((skb.forwarded.routed i src).mem (skb.data + 8)).toNat + 1 = _
      rw [forwarded_routed_apply skb i src (by omega) (by omega), if_pos rfl, UInt8.toNat_sub_of_le]
      · simp only [UInt8.reduceToNat]
        omega
      · exact UInt8.le_iff_toNat_le.mpr (by simp only [UInt8.reduceToNat]; omega)
    · intro k hk h8 h10 h11
      rw [hbyte _ _ (by omega), hbyte _ _ hk]
      show (skb.forwarded.routed i src).mem (skb.data + k) = _
      rw [forwarded_routed_apply skb i src h10 h11, if_neg h8, hsrc]

end Rewritten

/-! ### From the frame to the link -/

/-- What `ip_forward` and `ip_postroute` made of a received buffer. -/
def ForwardedFrom (w : World) (r s : SkBuff) : Prop :=
  ∃ i intf rt out, r.intf = some i ∧ w.intf i = some intf ∧
    1 < (r.ipPacket.mem (r.ipPacket.data + 8)).toNat ∧
    rtLookupLpm (w.rtTable intf.node) r.ipPacket.dstIp = some rt ∧ w.intf rt.intf = some out ∧
    s = r.ipPacket.forwarded.routed rt.intf out.ipAddr

/-- The packets of the received buffer are as `ip_forward` made them when it was received. -/
def OnlyForwarded (w : World) (i : IntfId) (frame : List UInt8) (s : SkBuff) : Prop :=
  s.id = w.nextId → ForwardedFrom w (recvBuffer w.nextId i frame) s

/-- The call that receives the frame. -/
theorem covers_recvFrame {w : World} {i : IntfId} {frame : List UInt8} {top : Nat}
    (h : PendingOld w) :
    Covers (frameScope w i frame) (w.received i frame) top (OnlyForwarded w i frame) := by
  refine ⟨?_, ?_, ?_⟩
  · intro s hbase _ hid
    exact absurd hid (Nat.ne_of_gt hbase)
  · rintro r j intf rt out rfl hj hintf httl - hrt hout -
    exact ⟨j, intf, rt, out, hj, hintf, httl, hrt, hout, rfl⟩
  · intro n s hs hid
    exact absurd hid (Nat.ne_of_lt (h n s hs))

/-- A later call does not touch the buffer, nor make another with its identity. -/
theorem covers_later {w t : World} {i : IntfId} {frame : List UInt8} {top : Nat} (op : Op)
    (hid : w.nextId < t.nextId) (hwait : ∀ n s, Pending t n s → OnlyForwarded w i frame s) :
    Covers (op.scope t) (op.begun t) top (OnlyForwarded w i frame) := by
  have hle := nextId_le_begun op t
  refine ⟨?_, ?_, ?_⟩
  · intro s hbase _ hs
    rw [Op.base_scope] at hbase
    exact absurd hs (Nat.ne_of_gt (Nat.lt_of_lt_of_le hid (Nat.le_trans hle hbase)))
  · intro r j intf rt out hrx _ _ _ _ _ _ hs
    cases op with
    | recvFrame i' frame' =>
        cases hrx
        exact absurd hs (Nat.ne_of_gt hid)
    | _ => exact absurd hrx id
  · intro n s hs
    unfold Pending at hs
    rw [arpTable_begun] at hs
    exact hwait n s hs

/-- Whatever the process does later, the received buffer is handed over as it was
forwarded. -/
theorem onlyForwarded_handedOver {w w' : World} {i : IntfId} {frame : List UInt8}
    (hw : PendingOld w) (hlater : Steps ((Op.recvFrame i frame).after w) w') :
    ∀ s ∈ handedOver w w', OnlyForwarded w i frame s := by
  have hinv : w.nextId < w'.nextId ∧
      (∃ es, w'.trace = w.trace ++ es ∧
        ∀ e ∈ es, ∀ s, e.handedOver = some s → OnlyForwarded w i frame s) ∧
      ∀ n s, Pending w' n s → OnlyForwarded w i frame s := by
    induction hlater with
    | refl =>
        have hrecords := after_records (.recvFrame i frame) (covers_recvFrame hw)
        exact ⟨nextId_le_after (.recvFrame i frame) w, hrecords.1, hrecords.2⟩
    | @tail t u _ hstep ih =>
        obtain ⟨op, -, rfl⟩ := hstep
        obtain ⟨hid, ⟨es, he, hes⟩, hwait⟩ := ih
        obtain ⟨⟨es', he', hes'⟩, hwait'⟩ := after_records op (covers_later op hid hwait)
        have hle := Nat.le_trans (nextId_le_begun op t) (nextId_le_after op t)
        refine ⟨Nat.lt_of_lt_of_le hid hle,
          ⟨es ++ es', by rw [he', he, List.append_assoc], ?_⟩, hwait'⟩
        intro e hmem
        rcases List.mem_append.mp hmem with hl | hr
        · exact hes e hl
        · exact hes' e hr
  obtain ⟨-, ⟨es, he, hes⟩, -⟩ := hinv
  intro s hs
  obtain ⟨e, hmem, hover⟩ := mem_handedOver he hs
  exact hes e hmem s hover

/--
**Forwarding is transparent exactly for packets that carry the address of the interface
they leave through.**  The packet is that of a frame received in a reachable state; it
is handed over at once or by any later call, the buffer's identity telling it from all
others.
-/
theorem forwarded_transparent_iff {w w' : World} {i : IntfId} {frame : List UInt8}
    (hw : Reachable w) (hlater : Steps ((Op.recvFrame i frame).after w) w') {s : SkBuff}
    (hs : s ∈ handedOver w w') (hid : s.id = w.nextId) :
    Transparent (recvBuffer w.nextId i frame).ipPacket.ipBytes s.ipBytes ↔
      ∃ intf rt out, w.intf i = some intf ∧
        rtLookupLpm (w.rtTable intf.node) (recvBuffer w.nextId i frame).ipPacket.dstIp = some rt ∧
        w.intf rt.intf = some out ∧
        (recvBuffer w.nextId i frame).ipPacket.srcIp = out.ipAddr := by
  obtain ⟨j, intf, rt, out, hj, hintf, httl, hrt, hout, rfl⟩ :=
    onlyForwarded_handedOver hw.pendingOld hlater s hs hid
  obtain rfl : i = j := Option.some.inj hj
  rw [transparent_iff _ _ _ httl]
  constructor
  · intro hsrc
    exact ⟨intf, rt, out, hintf, hrt, hout, hsrc⟩
  · rintro ⟨intf', rt', out', hintf', hrt', hout', hsrc⟩
    obtain rfl : intf = intf' := Option.some.inj (hintf.symm.trans hintf')
    obtain rfl : rt = rt' := Option.some.inj (hrt.symm.trans hrt')
    obtain rfl : out = out' := Option.some.inj (hout.symm.trans hout')
    exact hsrc

theorem forwarded_transparent_fixture :
    ∃ s ∈ handedOver (Fixture.after []) ((Op.recvFrame 0 Fixture.forwardedFrame).after
        (Fixture.after [])),
      (Transparent (recvBuffer (Fixture.after []).nextId 0 Fixture.forwardedFrame).ipPacket.ipBytes
          s.ipBytes ↔
        ∃ intf rt out, (Fixture.after []).intf 0 = some intf ∧
          rtLookupLpm ((Fixture.after []).rtTable intf.node)
            (recvBuffer (Fixture.after []).nextId 0 Fixture.forwardedFrame).ipPacket.dstIp
              = some rt ∧
          (Fixture.after []).intf rt.intf = some out ∧
          (recvBuffer (Fixture.after []).nextId 0 Fixture.forwardedFrame).ipPacket.srcIp
            = out.ipAddr) := by
  have hany : (handedOver (Fixture.after []) ((Op.recvFrame 0 Fixture.forwardedFrame).after
      (Fixture.after []))).any (fun s => s.id == (Fixture.after []).nextId) = true := by
    decide +kernel
  obtain ⟨s, hs, hid⟩ := List.any_eq_true.mp hany
  exact ⟨s, hs, forwarded_transparent_iff (Fixture.reachable_after []) .refl hs (beq_iff_eq.mp hid)⟩

/-- **The source address of a forwarded packet is overwritten.** -/
theorem forwardedFrame_not_transparent :
    Reachable (Fixture.after []) ∧
      ∃ s ∈ handedOver (Fixture.after []) ((Op.recvFrame 0 Fixture.forwardedFrame).after
          (Fixture.after [])),
        s.id = (Fixture.after []).nextId ∧
          ¬ Transparent (packetOf Fixture.forwardedFrame) s.ipBytes := by
  have hany : (handedOver (Fixture.after []) ((Op.recvFrame 0 Fixture.forwardedFrame).after
      (Fixture.after []))).any (fun s => s.id == (Fixture.after []).nextId &&
        s.ipBytes.getD 12 0 != (packetOf Fixture.forwardedFrame).getD 12 0) = true := by
    decide +kernel
  obtain ⟨s, hs, hcond⟩ := List.any_eq_true.mp hany
  obtain ⟨hid, hbyte⟩ := Bool.and_eq_true_iff.mp hcond
  refine ⟨Fixture.reachable_after [], s, hs, beq_iff_eq.mp hid, fun h => ?_⟩
  have hsame := h.rest 12 (by decide) (by decide) (by decide) (by decide)
  rw [hsame, bne_self_eq_false] at hbyte
  cases hbyte

end SimpleTcpip
