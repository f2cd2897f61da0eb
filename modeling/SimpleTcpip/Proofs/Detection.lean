/-
What the checksums detect.

Each of the three writers sums a message whose checksum field is zero and stores the
complement, and each check sums the message again.  A sum that checks is a multiple of 65535,
so one word that is replaced by another modulo 65535 is always noticed, as long as the check
still covers the same bytes.  The IP check takes their number from the header it checks.
-/
import SimpleTcpip.Proofs.TcpChecksum

namespace SimpleTcpip

open OnesComplement

/-! ### One replaced word -/

/-- Of `size` bytes from `hdr` on, one aligned word was replaced by another modulo 65535. -/
structure Replaced (m m' : Memory) (hdr size j : Nat) : Prop where
  covered : 2 * j < size
  same : ∀ q, q < size → q ≠ 2 * j → q ≠ 2 * j + 1 → m' (hdr + q) = m (hdr + q)
  differs : paddedWord (m'.shift hdr) size (2 * j) % 65535
    ≠ paddedWord (m.shift hdr) size (2 * j) % 65535

theorem Replaced.detected {m m' : Memory} {hdr size j : Nat} (h : Replaced m m' hdr size j)
    (hsize : size ≤ 131074) (hok : complement (wordSum (m.shift hdr) size) = 0) :
    complement (wordSum (m'.shift hdr) size) ≠ 0 :=
  complement_wordSum_changed hsize hok h.covered h.same h.differs

/-- A checksum verifies exactly if the complement of its sum is zero. -/
theorem cksum_beq_zero {c : UInt16} {x : Nat} (h : c.toNat = x) : (c == 0) = true ↔ x = 0 := by
  rw [beq_iff_eq, ← UInt16.toNat_inj, h]
  rfl

theorem cksum_beq_zero_false {c : UInt16} {x : Nat} (h : c.toNat = x) (hx : x ≠ 0) :
    (c == 0) = false :=
  Bool.eq_false_iff.mpr fun hc => hx ((cksum_beq_zero h).mp hc)

/-! ### The IP header -/

section Ip

variable {skb s : SkBuff} {w w' : World} {hdr : Nat}

theorem fillIpHcksum_mem (hrun : fillIpHcksum skb hdr w = .ok s w') :
    s.mem = skb.mem.store16 (hdr + 10) (UInt16.ofNat (htons (calcIpHcksum skb.mem hdr).toNat)) := by
  unfold fillIpHcksum at hrun
  obtain ⟨b, -, hrun⟩ := Fallible.bind_ok_of_eq (readU8_reads skb hdr) hrun
  obtain ⟨u, -, hrun⟩ := Fallible.bind_ok_of_eq (touch_reads skb hdr _) hrun
  cases hrun
  rfl

theorem checkIpHcksum_filled (hrun : fillIpHcksum skb hdr w = .ok s w')
    (hlen : 5 ≤ ipHlen skb.mem hdr) (hzero : word skb.mem (hdr + 10) = 0) :
    checkIpHcksum s.mem hdr = true := by
  have hmem := fillIpHcksum_mem hrun
  have hle := ipHlen_le skb.mem hdr
  have hhlen : ipHlen s.mem hdr = ipHlen skb.mem hdr := by
    unfold ipHlen
    rw [hmem, Memory.store16_outside _ _ (by omega)]
  refine (cksum_beq_zero (toNat_calcIpHcksum s.mem hdr)).mpr ?_
  rw [hhlen]
  refine complement_wordSum_filled (m := skb.mem.shift hdr) (j := 5) (by omega) (by omega) hzero ?_
    fun q _ h0 h1 => ?_
  · rw [← toNat_calcIpHcksum, hmem]
    exact word_store16_htons skb.mem (hdr + 10) (UInt16.toNat_lt _)
  · rw [Memory.shift, Memory.shift, hmem, Memory.store16_outside _ _ (by omega)]

/-- A replaced word is detected, unless it is the first and changes the header length. -/
theorem checkIpHcksum_replaced {m m' : Memory} {j : Nat} (hok : checkIpHcksum m hdr = true)
    (h : Replaced m m' hdr (ipHlen m hdr * 4) j) (hhlen : ipHlen m' hdr = ipHlen m hdr) :
    checkIpHcksum m' hdr = false := by
  have hle := ipHlen_le m hdr
  have hsize : ipHlen m hdr * 4 = 2 * (2 * ipHlen m hdr) := by omega
  rw [hsize] at h
  refine cksum_beq_zero_false (toNat_calcIpHcksum m' hdr) ?_
  rw [hhlen]
  exact h.detected (by omega) ((cksum_beq_zero (toNat_calcIpHcksum m hdr)).mp hok)

end Ip

/-! ### The ICMP message -/

section Icmp

variable {skb : SkBuff} {hdr size : Nat}

theorem toNat_calcIcmpCksum (m : Memory) (hdr : Nat) (hsize : size ≤ 131074) :
    (calcIcmpCksum m hdr size).toNat = complement (wordSum (m.shift hdr) size) :=
  toNat_calcChecksum16 (m.shift hdr) hsize

theorem checkIcmpCksum_filled (hlen : icmpHdrSize ≤ size) (hsize : size ≤ 131074)
    (hzero : word skb.mem (hdr + 2) = 0) :
    checkIcmpCksum (fillIcmpCksum skb hdr size).mem hdr size = true := by
  rw [icmpHdrSize] at hlen
  refine (cksum_beq_zero (toNat_calcIcmpCksum _ hdr hsize)).mpr ?_
  refine complement_wordSum_filled (m := skb.mem.shift hdr) (j := 1) hsize (by omega) hzero ?_
    fun q _ h0 h1 => ?_
  · rw [← toNat_calcIcmpCksum skb.mem hdr hsize]
    exact word_store16_htons skb.mem (hdr + 2) (UInt16.toNat_lt _)
  · exact Memory.store16_outside _ _ (by omega)

theorem checkIcmpCksum_replaced {m m' : Memory} {j : Nat} (hsize : size ≤ 131074)
    (hok : checkIcmpCksum m hdr size = true) (h : Replaced m m' hdr size j) :
    checkIcmpCksum m' hdr size = false :=
  cksum_beq_zero_false (toNat_calcIcmpCksum m' hdr hsize)
    (h.detected hsize ((cksum_beq_zero (toNat_calcIcmpCksum m hdr hsize)).mp hok))

end Icmp

/-! ### The TCP segment -/

section Tcp

variable {hdr size : Nat} {src dst : UInt32}

theorem checkTcpCksum_filled {skb : SkBuff} (hhdr : pseudoIpHdrSize ≤ hdr)
    (hlen : tcpHdrSize ≤ size) (hsize : size ≤ 131062) (hzero : word skb.mem (hdr + 16) = 0) :
    checkTcpCksum (fillTcpCksum skb hdr size src dst).mem hdr size src dst = true := by
  refine beq_iff_eq.mpr (calcTcpCksum_filled skb.mem hdr size src dst hhdr hlen hsize hzero ?_)
  intro q _ _
  show ((calcTcpCksum skb.mem hdr size src dst).2.store16 (hdr + 16) _) q = _
  have hback : (calcTcpCksum skb.mem hdr size src dst).2 = skb.mem := calcTcpCksum_mem _ _ _ _
  rw [hback]
  rfl

/-- A word of the segment is a word of what is summed. -/
theorem paddedWord_pseudoSegment (m : Memory) (hhdr : pseudoIpHdrSize ≤ hdr) (j : Nat) :
    paddedWord (pseudoSegment m hdr size src dst) (size + pseudoIpHdrSize) (2 * (j + 6))
      = paddedWord (m.shift hdr) size (2 * j) := by
  have hbyte : ∀ k, pseudoSegment m hdr size src dst (k + pseudoIpHdrSize) = m.shift hdr k := by
    intro k
    rw [pseudoSegment_segment m hdr size src dst hhdr (by omega), Nat.add_sub_cancel]
    rfl
  have hpos : 2 * (j + 6) = 2 * j + pseudoIpHdrSize := by rw [pseudoIpHdrSize]; omega
  have hnext : 2 * j + pseudoIpHdrSize + 1 = 2 * j + 1 + pseudoIpHdrSize := by omega
  rw [paddedWord, paddedWord, hpos, hnext, hbyte, hbyte]
  simp only [Nat.add_lt_add_iff_right]

theorem checkTcpCksum_replaced {m m' : Memory} {j : Nat} (hhdr : pseudoIpHdrSize ≤ hdr)
    (hsize : size ≤ 131062) (hok : checkTcpCksum m hdr size src dst = true)
    (h : Replaced m m' hdr size j) : checkTcpCksum m' hdr size src dst = false := by
  refine cksum_beq_zero_false (toNat_calcTcpCksum m' hdr size src dst hsize) ?_
  have hcovered := h.covered
  refine complement_wordSum_changed (m := pseudoSegment m hdr size src dst) (j := j + 6)
    (by rw [pseudoIpHdrSize]; omega)
    ((cksum_beq_zero (toNat_calcTcpCksum m hdr size src dst hsize)).mp hok)
    (by rw [pseudoIpHdrSize]; omega) (fun k hk h0 h1 => ?_) ?_
  · by_cases hpseudo : k < pseudoIpHdrSize
    · exact pseudoSegment_hdr m' hdr size src dst m hpseudo
    · have hk' : pseudoIpHdrSize ≤ k := Nat.le_of_not_lt hpseudo
      rw [pseudoSegment_segment m' hdr size src dst hhdr hk',
        pseudoSegment_segment m hdr size src dst hhdr hk']
      rw [pseudoIpHdrSize] at hk hk' ⊢
      exact h.same _ (by omega) (by omega) (by omega)
  · rw [paddedWord_pseudoSegment m' hhdr, paddedWord_pseudoSegment m hhdr]
    exact h.differs

/-- The eight bytes of the two addresses of the pseudo header. -/
def addrPair (src dst : UInt32) : Memory := Memory.store32 (Memory.store32 (fun _ => 0) 0 src) 4 dst

theorem pseudoSegment_addr (m : Memory) {k : Nat} (hk : k < 8) :
    pseudoSegment m hdr size src dst k = addrPair src dst k := by
  show writePseudoHdr m (hdr - pseudoIpHdrSize) size src dst (hdr - pseudoIpHdrSize + k) = _
  generalize hdr - pseudoIpHdrSize = p
  unfold writePseudoHdr addrPair
  rw [Memory.store16_outside _ _ (by omega), Memory.store8_outside _ _ (by omega),
    Memory.store8_outside _ _ (by omega)]
  have hin : ∀ (a : Memory) (q i : Nat) (v : UInt32), i < 4 →
      a.store32 q v (q + i) = (Memory.bytes32 v).getD i 0 :=
    fun a q i v hi => Memory.write_inside a q _ (Nat.lt_of_lt_of_eq hi (Memory.length_bytes32 v).symm)
  by_cases hdst : 4 ≤ k
  · obtain ⟨i, rfl⟩ := Nat.exists_eq_add_of_le hdst
    rw [hin _ 4 i dst (by omega), ← Nat.add_assoc, hin _ (p + 4) i dst (by omega)]
  · have hsrc := hin (fun _ => 0) 0 k src (by omega)
    rw [Nat.zero_add] at hsrc
    rw [Memory.store32_outside _ dst (p := p + 4) (by omega),
      Memory.store32_outside _ dst (p := 4) (by omega), hin _ p k src (by omega), hsrc]

/-- Behind the addresses, the pseudo header does not depend on them. -/
theorem pseudoSegment_rest (m : Memory) (src' dst' : UInt32) {k : Nat} (hk : 8 ≤ k) :
    pseudoSegment m hdr size src dst k = pseudoSegment m hdr size src' dst' k := by
  have hwrite : ∀ (a b : Memory) (p q : Nat) (bs : List UInt8), a q = b q →
      a.write p bs q = b.write p bs q := by
    intro a b p q bs h
    rw [Memory.write_apply, Memory.write_apply, h]
  show writePseudoHdr m (hdr - pseudoIpHdrSize) size src dst (hdr - pseudoIpHdrSize + k)
    = writePseudoHdr m (hdr - pseudoIpHdrSize) size src' dst' (hdr - pseudoIpHdrSize + k)
  generalize hdr - pseudoIpHdrSize = p
  unfold writePseudoHdr
  refine hwrite _ _ _ _ _ (hwrite _ _ _ _ _ (hwrite _ _ _ _ _ ?_))
  rw [Memory.store32_outside _ _ (by omega), Memory.store32_outside _ _ (by omega),
    Memory.store32_outside _ _ (by omega), Memory.store32_outside _ _ (by omega)]

/-- An address word is covered as well. -/
theorem checkTcpCksum_replaced_addr {m : Memory} {src' dst' : UInt32} {j : Nat}
    (hsize : size ≤ 131062) (hok : checkTcpCksum m hdr size src dst = true)
    (h : Replaced (addrPair src dst) (addrPair src' dst') 0 8 j) :
    checkTcpCksum m hdr size src' dst' = false := by
  refine cksum_beq_zero_false (toNat_calcTcpCksum m hdr size src' dst' hsize) ?_
  have hcovered := h.covered
  have hword : ∀ a b : UInt32, paddedWord (pseudoSegment m hdr size a b) (size + pseudoIpHdrSize)
      (2 * j) = paddedWord ((addrPair a b).shift 0) 8 (2 * j) := by
    intro a b
    rw [paddedWord, paddedWord, if_pos (by rw [pseudoIpHdrSize]; omega), if_pos (by omega),
      pseudoSegment_addr m (by omega), pseudoSegment_addr m (by omega), Memory.shift, Memory.shift,
      Nat.zero_add, Nat.zero_add]
  refine complement_wordSum_changed (m := pseudoSegment m hdr size src dst) (j := j)
    (by rw [pseudoIpHdrSize]; omega)
    ((cksum_beq_zero (toNat_calcTcpCksum m hdr size src dst hsize)).mp hok)
    (by rw [pseudoIpHdrSize]; omega) (fun k _ h0 h1 => ?_) ?_
  · by_cases haddr : k < 8
    · have hsame := h.same k haddr h0 h1
      rw [Nat.zero_add] at hsame
      rw [pseudoSegment_addr m haddr, pseudoSegment_addr m haddr, hsame]
    · exact pseudoSegment_rest m src dst (Nat.le_of_not_lt haddr)
  · rw [hword, hword]
    exact h.differs

end Tcp

/-! ### All three checksums -/

/-- A filled-in IP header verifies, and no longer after a word was replaced that leaves the
header length as it is. -/
def IpHcksumDetects : Prop :=
  ∀ (skb s : SkBuff) (w w' : World) (hdr : Nat), fillIpHcksum skb hdr w = .ok s w' →
    5 ≤ ipHlen skb.mem hdr → word skb.mem (hdr + 10) = 0 →
    checkIpHcksum s.mem hdr = true ∧
    ∀ m' j, Replaced s.mem m' hdr (ipHlen s.mem hdr * 4) j → ipHlen m' hdr = ipHlen s.mem hdr →
      checkIpHcksum m' hdr = false

/-- The same of an ICMP message. -/
def IcmpCksumDetects : Prop :=
  ∀ (skb : SkBuff) (hdr size : Nat), icmpHdrSize ≤ size → size ≤ 65535 →
    word skb.mem (hdr + 2) = 0 →
    checkIcmpCksum (fillIcmpCksum skb hdr size).mem hdr size = true ∧
    ∀ m' j, Replaced (fillIcmpCksum skb hdr size).mem m' hdr size j →
      checkIcmpCksum m' hdr size = false

/-- The same of a TCP segment with the addresses of its pseudo header. -/
def TcpCksumDetects : Prop :=
  ∀ (skb : SkBuff) (hdr size : Nat) (src dst : UInt32), pseudoIpHdrSize ≤ hdr →
    tcpHdrSize ≤ size → size ≤ 65535 → word skb.mem (hdr + 16) = 0 →
    checkTcpCksum (fillTcpCksum skb hdr size src dst).mem hdr size src dst = true ∧
    (∀ m' j, Replaced (fillTcpCksum skb hdr size src dst).mem m' hdr size j →
      checkTcpCksum m' hdr size src dst = false) ∧
    ∀ src' dst' j, Replaced (addrPair src dst) (addrPair src' dst') 0 8 j →
      checkTcpCksum (fillTcpCksum skb hdr size src dst).mem hdr size src' dst' = false

/-- **A checksum that was filled in verifies, and detects every replaced word.** -/
theorem cksum_detects : IpHcksumDetects ∧ IcmpCksumDetects ∧ TcpCksumDetects := by
  refine ⟨?_, ?_, ?_⟩
  · intro skb s w w' hdr hrun hlen hzero
    have hok := checkIpHcksum_filled hrun hlen hzero
    exact ⟨hok, fun m' j h hhlen => checkIpHcksum_replaced hok h hhlen⟩
  · intro skb hdr size hlen hsize hzero
    have hsize' : size ≤ 131074 := by omega
    have hok := checkIcmpCksum_filled hlen hsize' hzero
    exact ⟨hok, fun m' j h => checkIcmpCksum_replaced hsize' hok h⟩
  · intro skb hdr size src dst hhdr hlen hsize hzero
    have hsize' : size ≤ 131062 := by omega
    have hok : checkTcpCksum (fillTcpCksum skb hdr size src dst).mem hdr size src dst = true :=
      checkTcpCksum_filled hhdr hlen hsize' hzero
    exact ⟨hok, fun m' j h => checkTcpCksum_replaced hhdr hsize' hok h,
      fun src' dst' j h => checkTcpCksum_replaced_addr hsize' hok h⟩

/-- A header of five words without options, with two bytes of payload behind it. -/
def headerSkb : SkBuff :=
  { freshSkb 0 64 with
    data := 20
    tail := 44
    len := 24
    mem := Memory.write (Memory.write (fun _ => 0) 20 [0x45]) 40 [0xfe, 0xff] }

/-- The same header with its checksum. -/
def headerFilled : SkBuff :=
  headerSkb.store16 30 (UInt16.ofNat (htons (calcIpHcksum headerSkb.mem 20).toNat))

theorem headerSkb_filled : fillIpHcksum headerSkb 20 Fixture.graph = .ok headerFilled Fixture.graph :=
  rfl

theorem cksum_detects_header : checkIpHcksum headerFilled.mem 20 = true ∧
    checkIpHcksum (headerFilled.mem.store8 22 1) 20 = false := by
  have h := cksum_detects.1 headerSkb headerFilled Fixture.graph Fixture.graph 20 headerSkb_filled
    (by decide) (by decide)
  refine ⟨h.1, h.2 (headerFilled.mem.store8 22 1) 1 ⟨by decide, fun q _ h2 _ => ?_, by decide⟩
    (by decide)⟩
  exact Memory.store8_outside _ _ (by omega)

/-- **The first word of a header is not protected against every change**: a longer header is
summed with what follows it. -/
theorem ipHcksum_misses_hlen : ¬ ∀ (skb s : SkBuff) (w w' : World) (hdr : Nat) (m' : Memory) (j : Nat),
    fillIpHcksum skb hdr w = .ok s w' → 5 ≤ ipHlen skb.mem hdr → word skb.mem (hdr + 10) = 0 →
    Replaced s.mem m' hdr (ipHlen s.mem hdr * 4) j → checkIpHcksum m' hdr = false := by
  intro h
  have hreplaced : Replaced headerFilled.mem (headerFilled.mem.store8 20 0x46) 20
      (ipHlen headerFilled.mem 20 * 4) 0 :=
    ⟨by decide, fun q _ h0 _ => Memory.store8_outside _ _ (by omega), by decide⟩
  have hfalse := h headerSkb headerFilled Fixture.graph Fixture.graph 20 _ 0 headerSkb_filled
    (by decide) (by decide) hreplaced
  have htrue : checkIpHcksum (headerFilled.mem.store8 20 0x46) 20 = true := by decide
  rw [htrue] at hfalse
  cases hfalse

end SimpleTcpip
