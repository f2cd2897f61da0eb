/-
Which IP headers verify when they leave the node.

`fill_ip_hcksum` sums the header with whatever the checksum field holds.  On a header
`ip_output` just built that is zero, and the header written verifies.  A forwarded
header comes with the checksum it was received with: the sum of the new header is then
the complement of the old field, so it verifies only when the old field stood for
zero, or when the header is declared so short that the field is not part of it.
-/
import SimpleTcpip.Model.Fixture
import SimpleTcpip.Proofs.Checksum
import SimpleTcpip.Proofs.Postroute

namespace SimpleTcpip

open Fallible OnesComplement

/-! ### The check as a sum -/

theorem ipHlen_le (m : Memory) (hdr : Nat) : ipHlen m hdr ≤ 15 := by
  unfold ipHlen
  omega

theorem toNat_calcIpHcksum (m : Memory) (hdr : Nat) :
    (calcIpHcksum m hdr).toNat = complement (wordSum (m.shift hdr) (2 * (2 * ipHlen m hdr))) := by
  have hle := ipHlen_le m hdr
  have hsize : ipHlen m hdr * 4 = 2 * (2 * ipHlen m hdr) := by omega
  rw [calcIpHcksum, hsize]
  exact toNat_calcChecksum16 (m.shift hdr) (by omega)

/-- A header verifies when its words add up to a non-zero multiple of 65535. -/
theorem checkIpHcksum_iff (m : Memory) (hdr : Nat) :
    checkIpHcksum m hdr = true ↔ wordSum (m.shift hdr) (2 * (2 * ipHlen m hdr)) ≠ 0 ∧
      wordSum (m.shift hdr) (2 * (2 * ipHlen m hdr)) % 65535 = 0 := by
  have hle := ipHlen_le m hdr
  have hlt : wordSum (m.shift hdr) (2 * (2 * ipHlen m hdr)) < 2 ^ 32 :=
    wordSum_lt (m.shift hdr) (by omega)
  rw [← complement_eq_zero hlt, ← toNat_calcIpHcksum, checkIpHcksum, beq_iff_eq,
    ← UInt16.toNat_inj]
  rfl

/-! ### What the writer leaves -/

section Fill

variable (skb : SkBuff) (i : IntfId) (src : UInt32)

theorem routed_mem_outside {p : Nat} (h : p < skb.data + 10 ∨ skb.data + 16 ≤ p) :
    (skb.routed i src).mem p = skb.mem p := by
  simp only [SkBuff.routed, SkBuff.store16, SkBuff.store32]
  rw [Memory.store16_outside _ _ (by omega), Memory.store32_outside _ _ (by omega)]

theorem ipHlen_routed : ipHlen (skb.routed i src).mem skb.data = ipHlen skb.mem skb.data := by
  unfold ipHlen
  rw [routed_mem_outside skb i src (by omega)]

/-- With a header long enough to hold the field, the new sum cancels everything but the
old field. -/
theorem checkIpHcksum_routed (hlen : 3 ≤ ipHlen skb.mem skb.data) :
    checkIpHcksum (skb.routed i src).mem skb.data = true ↔
      word skb.mem (skb.data + 10) = 0 ∨ word skb.mem (skb.data + 10) = 65535 := by
  have hle := ipHlen_le skb.mem skb.data
  -- the header as it is summed: the new source is in place, the old field still is
  let m := skb.mem.store32 (skb.data + 12) src
  have hout : ∀ p, p < skb.data + 12 → m p = skb.mem p :=
    fun p hp => Memory.store32_outside _ _ (Or.inl hp)
  have hm : ipHlen m skb.data = ipHlen skb.mem skb.data := by
    unfold ipHlen
    rw [hout _ (by omega)]
  have hfield : word (m.shift skb.data) (2 * 5) = word skb.mem (skb.data + 10) :=
    word_congr (hout _ (by omega)) (hout _ (by omega))
  have hnew : word ((skb.routed i src).mem.shift skb.data) (2 * 5)
      = complement (wordSum (m.shift skb.data) (2 * (2 * ipHlen skb.mem skb.data))) := by
    have hck := toNat_calcIpHcksum m skb.data
    rw [hm] at hck
    rw [← hck]
    exact word_store16_htons m (skb.data + 10) (UInt16.toNat_lt _)
  have hrest : ∀ k, k ≠ 2 * 5 → k ≠ 2 * 5 + 1 →
      (skb.routed i src).mem.shift skb.data k = m.shift skb.data k :=
    fun k h0 h1 => Memory.store16_outside _ _ (by omega)
  have hsum : wordSum ((skb.routed i src).mem.shift skb.data) (2 * (2 * ipHlen skb.mem skb.data))
      + word (m.shift skb.data) (2 * 5)
        = wordSum (m.shift skb.data) (2 * (2 * ipHlen skb.mem skb.data))
          + word ((skb.routed i src).mem.shift skb.data) (2 * 5) := by
    have hlt : 2 * 5 < 2 * (2 * ipHlen skb.mem skb.data) := by omega
    have hreplace := wordSum_replace hlt fun k _ h0 h1 => hrest k h0 h1
    rwa [paddedWord_of_lt _ (by omega), paddedWord_of_lt _ (by omega)] at hreplace
  have hlt : wordSum (m.shift skb.data) (2 * (2 * ipHlen skb.mem skb.data)) < 2 ^ 32 :=
    wordSum_lt (m.shift skb.data) (by omega)
  have hmod := add_complement_mod hlt
  -- the first word holds the header length, so the sum cannot vanish
  have hfirst : word ((skb.routed i src).mem.shift skb.data) (2 * 0) ≠ 0 := by
    have h0 : (skb.routed i src).mem.shift skb.data 0 = skb.mem skb.data :=
      routed_mem_outside skb i src (by omega)
    unfold ipHlen at hlen
    unfold word
    rw [Nat.mul_zero, h0]
    omega
  have hpos : wordSum ((skb.routed i src).mem.shift skb.data) (2 * (2 * ipHlen skb.mem skb.data))
      ≠ 0 := wordSum_pos (by omega) hfirst
  have hword := word_lt skb.mem (skb.data + 10)
  rw [checkIpHcksum_iff, ipHlen_routed skb i src]
  rw [hfield, hnew] at hsum
  generalize wordSum ((skb.routed i src).mem.shift skb.data) _ = s' at hsum hpos ⊢
  generalize wordSum (m.shift skb.data) _ = s at hsum hmod
  omega

/-- A header too short to hold the field verifies as it did. -/
theorem checkIpHcksum_routed_short (hlen : ipHlen skb.mem skb.data < 3) :
    checkIpHcksum (skb.routed i src).mem skb.data = checkIpHcksum skb.mem skb.data := by
  have hsum : wordSum ((skb.routed i src).mem.shift skb.data) (2 * (2 * ipHlen skb.mem skb.data))
      = wordSum (skb.mem.shift skb.data) (2 * (2 * ipHlen skb.mem skb.data)) :=
    wordSum_congr fun k hk => routed_mem_outside skb i src (Or.inl (by omega))
  rw [Bool.eq_iff_iff, checkIpHcksum_iff, checkIpHcksum_iff, ipHlen_routed skb i src, hsum]

end Fill

/-- A decremented TTL is outside a header too short to hold the checksum field. -/
theorem checkIpHcksum_forwarded_short {skb : SkBuff} (hlen : ipHlen skb.mem skb.data < 3) :
    checkIpHcksum skb.forwarded.mem skb.data = checkIpHcksum skb.mem skb.data := by
  have hmem : ∀ p, p < skb.data + 8 → skb.forwarded.mem p = skb.mem p :=
    fun p hp => Memory.store8_outside _ _ (by omega)
  have hhlen : ipHlen skb.forwarded.mem skb.data = ipHlen skb.mem skb.data := by
    unfold ipHlen
    rw [hmem _ (by omega)]
  have hsum : wordSum (skb.forwarded.mem.shift skb.data) (2 * (2 * ipHlen skb.mem skb.data))
      = wordSum (skb.mem.shift skb.data) (2 * (2 * ipHlen skb.mem skb.data)) :=
    wordSum_congr fun k hk => hmem (skb.data + k) (by omega)
  rw [Bool.eq_iff_iff, checkIpHcksum_iff, checkIpHcksum_iff, hhlen, hsum]

/-! ### The header of `ip_output` -/

section WithIpHdr

variable {skb : SkBuff} {ip : UInt32} {proto : UInt8}

/-- The writes of `ip_output`, in order. -/
theorem withIpHdr_mem : (skb.withIpHdr ip proto).mem =
    (((((skb.mem.write (skb.data - ipHdrSize) (List.replicate ipHdrSize 0)).store8
      (skb.data - ipHdrSize) 0x45).store8 (skb.data - ipHdrSize + 8) 64).store32
      (skb.data - ipHdrSize + 16) ip).store8 (skb.data - ipHdrSize + 9) proto).store16
      (skb.data - ipHdrSize + 2) (UInt16.ofNat (htons (skb.len + ipHdrSize))) := by
  simp only [SkBuff.withIpHdr, initIpHdr, SkBuff.store8, SkBuff.store16, SkBuff.store32,
    SkBuff.copyIn]

/-- The first byte holds version 4 and a header length of 5. -/
theorem ipHlen_withIpHdr :
    ipHlen (skb.withIpHdr ip proto).mem (skb.data - ipHdrSize) = 5 := by
  have hbyte : (skb.withIpHdr ip proto).mem (skb.data - ipHdrSize) = 0x45 := by
    rw [withIpHdr_mem]
    rw [Memory.store16_outside _ _ (by omega), Memory.store8_outside _ _ (by omega),
      Memory.store32_outside _ _ (by omega), Memory.store8_outside _ _ (by omega),
      Memory.store8_self]
  rw [ipHlen, hbyte]
  rfl

/-- The fields `ip_output` does not set are zero. -/
theorem withIpHdr_zero {k : Nat} (hlo : 10 ≤ k) (hhi : k < 16) :
    (skb.withIpHdr ip proto).mem (skb.data - ipHdrSize + k) = 0 := by
  rw [withIpHdr_mem, Memory.store16_outside _ _ (by omega), Memory.store8_outside _ _ (by omega),
    Memory.store32_outside _ _ (by omega), Memory.store8_outside _ _ (by omega),
    Memory.store8_outside _ _ (by omega),
    Memory.write_inside _ _ _ (by rw [List.length_replicate, ipHdrSize]; omega)]
  exact List.getD_replicate _ (by rw [ipHdrSize]; omega)

theorem word_withIpHdr : word (skb.withIpHdr ip proto).mem (skb.data - ipHdrSize + 10) = 0 := by
  rw [word, withIpHdr_zero (k := 10) (by omega) (by omega),
    withIpHdr_zero (k := 11) (by omega) (by omega)]
  rfl

end WithIpHdr

/-! ### The two producers -/

/--
**Which packets leave with a header that verifies.**  Every packet `ip_output` sends or
parks does.  A packet `ip_forward` passes on, received with a valid checksum, does
exactly when the checksum it was received with stands for zero, or when its header is
declared shorter than the field's offset.
-/
theorem handedOver_hcksum (w : World) :
    (∀ (node : NodeId) (ip : UInt32) (proto : UInt8) (skb : SkBuff), skb.ipHdr = none →
      ∀ s ∈ handedOver w (final (ipOutput ipInput node ip proto skb) w),
        checkIpHcksum s.mem s.data = true) ∧
    (∀ (skb : SkBuff),
      (∀ i intf, skb.intf = some i → w.intf i = some intf →
        isIpLocal w intf.node skb.dstIp = false) →
      checkIpHcksum skb.mem skb.data = true →
      ∀ s ∈ handedOver w (final (ipForward skb) w),
        (checkIpHcksum s.mem s.data = true ↔ ipHlen skb.mem skb.data < 3 ∨
          word skb.mem (skb.data + 10) = 0 ∨ word skb.mem (skb.data + 10) = 65535)) := by
  constructor
  · intro node ip proto skb hskb s hs
    have hK : ∀ i src, checkIpHcksum ((skb.withIpHdr ip proto).routed i src).mem
        ((skb.withIpHdr ip proto).routed i src).data = true := by
      intro i src
      refine (checkIpHcksum_routed _ i src ?_).mpr (Or.inl word_withIpHdr)
      rw [withIpHdr_data, ipHlen_withIpHdr]
      omega
    have hsends : Sends (fun s => checkIpHcksum s.mem s.data = true) (fun _ => True)
        (w.output node ip proto skb) (final (ipOutput ipInput node ip proto skb) w) :=
      ipOutput_sends ⟨hskb, trivial⟩ fun i out _ _ => hK i out.ipAddr
    obtain ⟨es, he, -⟩ := hsends.trace
    have he' : (final (ipOutput ipInput node ip proto skb) w).trace
        = w.trace ++ (.ipOutput node ip proto skb :: es) := by
      rw [he, World.output, List.append_assoc, List.singleton_append]
    refine hsends.handedOver ?_
    rw [handedOver, newEvents_append he'] at hs
    rw [handedOver, newEvents_append he]
    exact hs
  · intro skb hlocal hvalid s hs
    refine (ipForward_sends (K := fun s => checkIpHcksum s.mem s.data = true ↔ _) (L := fun _ => False)
      hlocal ?_).handedOver hs
    intro i intf rt out _ _ _ _ _
    have hhlen : ipHlen skb.forwarded.mem skb.data = ipHlen skb.mem skb.data := by
      unfold ipHlen
      exact congrArg (fun b : UInt8 => b.toNat % 16) (Memory.store8_outside _ _ (by omega))
    have hfield : word skb.forwarded.mem (skb.data + 10) = word skb.mem (skb.data + 10) :=
      word_congr (Memory.store8_outside _ _ (by omega)) (Memory.store8_outside _ _ (by omega))
    by_cases hlen : ipHlen skb.mem skb.data < 3
    · -- the field is not part of the header, and neither is what was rewritten
      have hcheck := checkIpHcksum_routed_short skb.forwarded rt.intf out.ipAddr
        (by rw [← hhlen] at hlen; exact hlen)
      simp only [hlen, true_or, iff_true]
      exact hcheck.trans ((checkIpHcksum_forwarded_short hlen).trans hvalid)
    · have hcheck := checkIpHcksum_routed skb.forwarded rt.intf out.ipAddr
        (by rw [show skb.forwarded.data = skb.data from rfl, hhlen]; omega)
      rw [show skb.forwarded.data = skb.data from rfl, hfield] at hcheck
      simp only [hlen, false_or]
      exact hcheck

/-- The buffer `ip_forward` gets for a frame received on an interface. -/
def framePacket (i : IntfId) (frame : List UInt8) : SkBuff :=
  { id := 0, intf := some i, ipHdr := some 18, udpHdr := none, len := frame.length - 14,
    data := 18, tail := 4 + frame.length, limit := recvBufferSize,
    mem := Memory.write (fun _ => 0) 4 frame }

/-- Both producers at work in the fixture. -/
theorem handedOver_hcksum_fixture :
    (∀ s ∈ handedOver (Fixture.after []) (final (ipOutput ipInput 0 (Fixture.addr 192 168 89 2)
        ipProtoUdp { freshSkb 0 200 with data := 60, tail := 60 }) (Fixture.after [])),
      checkIpHcksum s.mem s.data = true) ∧
    (∀ s ∈ handedOver (Fixture.after [])
        (final (ipForward (framePacket 0 Fixture.forwardedFrame)) (Fixture.after [])),
      (checkIpHcksum s.mem s.data = true ↔ ipHlen (framePacket 0 Fixture.forwardedFrame).mem 18 < 3 ∨
        word (framePacket 0 Fixture.forwardedFrame).mem 28 = 0 ∨
        word (framePacket 0 Fixture.forwardedFrame).mem 28 = 65535)) := by
  refine ⟨(handedOver_hcksum _).1 _ _ _ _ rfl, (handedOver_hcksum _).2 _ ?_ (by decide +kernel)⟩
  intro i intf hi hintf
  cases hi
  have hnode : ((Fixture.after []).intf 0).map Intf.node = some 0 := by decide +kernel
  rw [hintf] at hnode
  rw [Option.some.inj hnode]
  decide +kernel

/-- **A packet is forwarded with a header that does not verify.** -/
theorem forwardedFrame_hcksum_wrong :
    Reachable (Fixture.after []) ∧
      checkIpHcksum (framePacket 0 Fixture.forwardedFrame).mem 18 = true ∧
      (handedOver (Fixture.after []) (final (recvFrame 0 Fixture.forwardedFrame) (Fixture.after []))).map
        (fun s => checkIpHcksum s.mem s.data) = [false] :=
  ⟨Fixture.reachable_after [], by decide +kernel, by decide +kernel⟩

end SimpleTcpip
