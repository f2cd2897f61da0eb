/-
How much room a packet has.

A buffer is allocated with head room for the headers below it and tail room for the
padding of a short frame.  A received buffer has other constants, and `send_arp_*` pushes
its header where the other senders put theirs; what the link layer needs is in every one
of them.
-/
import SimpleTcpip.Proofs.Changes
import SimpleTcpip.Proofs.HeaderChecksum

namespace SimpleTcpip

open Fallible

/-! ### Buffers -/

/-- The length of a buffer is the distance of its ends, and it ends in its allocation. -/
structure Fits (s : SkBuff) : Prop where
  len : s.data + s.len = s.tail
  tail : s.tail ≤ s.limit

/-- Nothing was written behind the tail of a buffer. -/
structure Tidy (s : SkBuff) : Prop extends Fits s where
  blank : ∀ q, s.tail ≤ q → s.mem q = 0

/-- The link layer has room for its header and the padding. -/
structure LinkRoom (s : SkBuff) : Prop where
  headroom : ethHdrSize ≤ s.data
  tailroom : s.tail + (60 - (s.len + ethHdrSize)) ≤ s.limit

/-- A packet the link layer pads with zeros. -/
structure Sendable (s : SkBuff) : Prop extends Tidy s, LinkRoom s

/-- A buffer as the senders hand it to `ip_output`. -/
structure Packed (s : SkBuff) : Prop extends Tidy s where
  ipHdr : s.ipHdr = none
  data : s.data = buffHeadroom
  tailroom : s.tail + buffTailroom ≤ s.limit

section Primitives

variable {s t : SkBuff} {n : Nat} {w w' : World}

/-- Each operation of skbuff.h that does not stop the run keeps the length right. -/
theorem Fits.reserve (h : Fits s) (hrun : skbReserve s n w = .ok t w') : Fits t := by
  obtain ⟨hroom, rfl, -⟩ := skbReserve_ok.mp hrun
  exact ⟨by have := h.len; simp only; omega, hroom⟩

theorem Fits.push (h : Fits s) (hrun : skbPush s n w = .ok t w') : Fits t := by
  obtain ⟨hroom, rfl, -⟩ := skbPush_ok.mp hrun
  exact ⟨by have := h.len; simp only; omega, h.tail⟩

theorem Fits.put (h : Fits s) (hrun : skbPut s n w = .ok t w') : Fits t := by
  obtain ⟨hroom, rfl, -⟩ := skbPut_ok.mp hrun
  exact ⟨by have := h.len; simp only; omega, hroom⟩

theorem Fits.pull (h : Fits s) (hrun : skbPull s n w = .ok t w') : Fits t := by
  obtain ⟨-, hroom, rfl, -⟩ := skbPull_ok.mp hrun
  have hlen := h.len
  refine ⟨?_, h.tail⟩
  simp only [sizeSub_of_le (show n ≤ s.len by omega)]
  omega

end Primitives

/-- Writes before the tail leave a buffer tidy. -/
theorem Tidy.of_mem {s t : SkBuff} (h : Tidy s) (hdata : t.data + t.len = s.data + s.len)
    (htail : t.tail = s.tail) (hlimit : t.limit = s.limit)
    (hmem : ∀ q, s.tail ≤ q → t.mem q = s.mem q) : Tidy t := by
  refine ⟨⟨?_, ?_⟩, fun q hq => ?_⟩
  · rw [hdata, htail, h.len]
  · rw [htail, hlimit]
    exact h.tail
  · rw [htail] at hq
    rw [hmem q hq, h.blank q hq]

/-- The header is in front of the packet. -/
theorem withIpHdr_mem_behind {s : SkBuff} (h : ipHdrSize ≤ s.data) {ip : UInt32} {proto : UInt8}
    {q : Nat} (hq : s.data ≤ q) : (s.withIpHdr ip proto).mem q = s.mem q := by
  rw [ipHdrSize] at h
  rw [withIpHdr_mem, ipHdrSize, Memory.store16_outside _ _ (by omega),
    Memory.store8_outside _ _ (by omega), Memory.store32_outside _ _ (by omega),
    Memory.store8_outside _ _ (by omega), Memory.store8_outside _ _ (by omega),
    Memory.write_outside _ _ (by rw [List.length_replicate]; omega)]

/-- `ip_output` writes its header into the head room. -/
theorem Packed.tidy_withIpHdr {s : SkBuff} (h : Packed s) (ip : UInt32) (proto : UInt8) :
    Tidy (s.withIpHdr ip proto) := by
  have hdata := h.data
  have hlen := h.len
  refine h.toTidy.of_mem ?_ rfl rfl fun q hq => ?_
  · simp only [withIpHdr_data, withIpHdr_len, hdata, buffHeadroom, ipHdrSize]
    omega
  · refine withIpHdr_mem_behind ?_ ?_
    · rw [hdata]
      decide
    · rw [← hlen] at hq
      exact Nat.le_trans (Nat.le_add_right _ _) hq

/-- `ip_postroute` writes into the header. -/
theorem Tidy.routed {s : SkBuff} (h : Tidy s) (hhdr : s.data + 16 ≤ s.tail) (i : IntfId)
    (src : UInt32) : Tidy (s.routed i src) :=
  h.of_mem rfl rfl rfl fun q hq => routed_mem_outside s i src (by omega)

/-- **A packet of the node's own fits the link.** -/
theorem Packed.sendable {s : SkBuff} (h : Packed s) (ip : UInt32) (proto : UInt8) (i : IntfId)
    (src : UInt32) : Sendable ((s.withIpHdr ip proto).routed i src) := by
  have hdata := h.data
  have hlen := h.len
  have htail := h.tailroom
  simp only [buffHeadroom] at hdata
  simp only [buffTailroom] at htail
  refine ⟨(h.tidy_withIpHdr ip proto).routed ?_ i src, ⟨?_, ?_⟩⟩
  · simp only [withIpHdr_data, withIpHdr_tail, ipHdrSize]
    omega
  · simp only [routed_data, withIpHdr_data, ipHdrSize, ethHdrSize]
    omega
  · simp only [routed_tail, routed_len, routed_limit, withIpHdr_tail, withIpHdr_len,
      withIpHdr_limit, ipHdrSize, ethHdrSize]
    omega

/-! ### The packets the node builds -/

/-- The message `icmp_out` hands to `ip_output`. -/
def icmpMessage (id : SkbId) (type code : UInt8) (payload : List UInt8) : SkBuff :=
  let skb : SkBuff :=
    { freshSkb id (buffHeadroom + buffTailroom + icmpHdrSize + payload.length) with
      data := 0 + buffHeadroom, tail := 0 + buffHeadroom + (icmpHdrSize + payload.length),
      len := 0 + (icmpHdrSize + payload.length) }
  let skb := skb.store8 (0 + buffHeadroom) type
  let skb := skb.store8 (0 + buffHeadroom + 1) code
  let skb := skb.copyIn (0 + buffHeadroom + 4) payload
  fillIcmpCksum skb (0 + buffHeadroom) skb.len

/-- The datagram `udp_out` hands to `ip_output`. -/
def udpDatagram (id : SkbId) (sock : UdpSock) (buff : List UInt8) (port : UInt16) : SkBuff :=
  let skb : SkBuff :=
    { freshSkb id (buffHeadroom + buffTailroom + udpHdrSize + buff.length) with
      data := 0 + buffHeadroom, tail := 0 + buffHeadroom + udpHdrSize + buff.length,
      len := 0 + udpHdrSize + buff.length }
  let skb := skb.copyIn (0 + buffHeadroom + udpHdrSize) buff
  let skb := skb.store16 (0 + buffHeadroom) (UInt16.ofNat (htons sock.localPort.toNat))
  let skb := skb.store16 (0 + buffHeadroom + 2) (UInt16.ofNat (htons port.toNat))
  let skb := skb.store16 (0 + buffHeadroom + 4) (UInt16.ofNat (htons skb.len))
  { skb with intf := sock.intf }

/-- The buffer of an ARP packet: its header is pushed into the head room. -/
def arpSkb (id : SkbId) : SkBuff :=
  { freshSkb id (buffHeadroom + buffTailroom + arpHdrSize) with
    data := 0 + buffHeadroom - arpHdrSize, tail := 0 + buffHeadroom, len := 0 + arpHdrSize }

/-- The ARP packet both senders build. -/
def arpPacket (id : SkbId) (opcode : Nat) (senderHw : MacAddr) (senderIp : UInt32)
    (targetHw : MacAddr) (targetIp : UInt32) : SkBuff :=
  fillArpHdr (arpSkb id) (arpSkb id).data opcode senderHw senderIp targetHw targetIp

theorem packed_icmpMessage (id : SkbId) (type code : UInt8) (payload : List UInt8) :
    Packed (icmpMessage id type code payload) := by
  refine ⟨⟨⟨?_, ?_⟩, fun q hq => ?_⟩, rfl, rfl, ?_⟩
  · show 0 + buffHeadroom + (0 + (icmpHdrSize + payload.length))
      = 0 + buffHeadroom + (icmpHdrSize + payload.length)
    omega
  · show 0 + buffHeadroom + (icmpHdrSize + payload.length)
      ≤ buffHeadroom + buffTailroom + icmpHdrSize + payload.length
    omega
  · have htail : 64 + payload.length ≤ q := by
      refine Nat.le_trans (Nat.le_of_eq ?_) hq
      show 64 + payload.length = 0 + 60 + (4 + payload.length)
      omega
    show ((((Memory.store8 (fun _ => 0) 60 type).store8 61 code).write 64 payload).store16 62 _) q
      = 0
    rw [Memory.store16_outside _ _ (by omega), Memory.write_outside _ _ (by omega),
      Memory.store8_outside _ _ (by omega), Memory.store8_outside _ _ (by omega)]
  · show 0 + buffHeadroom + (icmpHdrSize + payload.length) + buffTailroom
      ≤ buffHeadroom + buffTailroom + icmpHdrSize + payload.length
    omega

theorem packed_udpDatagram (id : SkbId) (sock : UdpSock) (buff : List UInt8) (port : UInt16) :
    Packed (udpDatagram id sock buff port) := by
  refine ⟨⟨⟨?_, ?_⟩, fun q hq => ?_⟩, rfl, rfl, ?_⟩
  · show 0 + buffHeadroom + (0 + udpHdrSize + buff.length)
      = 0 + buffHeadroom + udpHdrSize + buff.length
    omega
  · show 0 + buffHeadroom + udpHdrSize + buff.length
      ≤ buffHeadroom + buffTailroom + udpHdrSize + buff.length
    omega
  · have htail : 68 + buff.length ≤ q := by
      refine Nat.le_trans (Nat.le_of_eq ?_) hq
      show 68 + buff.length = 0 + 60 + 8 + buff.length
      omega
    show ((((Memory.write (fun _ => 0) 68 buff).store16 60 _).store16 62 _).store16 64 _) q = 0
    rw [Memory.store16_outside _ _ (by omega), Memory.store16_outside _ _ (by omega),
      Memory.store16_outside _ _ (by omega), Memory.write_outside _ _ (by omega)]
  · show 0 + buffHeadroom + udpHdrSize + buff.length + buffTailroom
      ≤ buffHeadroom + buffTailroom + udpHdrSize + buff.length
    omega

theorem packed_tcpSegment (id : SkbId) (parent : TcpSock) (conn : TcpConnectionSock)
    (buff : List UInt8) (flags : TcpFlags) : Packed (tcpSegment id parent conn buff flags) := by
  refine ⟨⟨⟨?_, ?_⟩, fun q hq => ?_⟩, rfl, rfl, ?_⟩
  · rw [tcpSegment_data, tcpSegment_len, tcpSegment_tail, Nat.add_assoc]
  · rw [tcpSegment_tail, tcpSegment_limit]
    omega
  · rw [tcpSegment_tail, buffHeadroom, tcpHdrSize] at hq
    rw [tcpSegment_mem id parent conn buff flags (by omega), Memory.write_outside _ _ (by omega)]
    show ((((((Memory.store16 (fun _ => 0) 60 _).store16 62 _).store32 64 _).store32 68 _).store8
      73 _).store16 74 _).store8 72 _ q = 0
    rw [Memory.store8_outside _ _ (by omega), Memory.store16_outside _ _ (by omega),
      Memory.store8_outside _ _ (by omega), Memory.store32_outside _ _ (by omega),
      Memory.store32_outside _ _ (by omega), Memory.store16_outside _ _ (by omega),
      Memory.store16_outside _ _ (by omega)]
  · rw [tcpSegment_tail, tcpSegment_limit]
    omega

theorem sendable_arpPacket (id : SkbId) (opcode : Nat) (senderHw : MacAddr) (senderIp : UInt32)
    (targetHw : MacAddr) (targetIp : UInt32) :
    Sendable (arpPacket id opcode senderHw senderIp targetHw targetIp) := by
  have hlen : (arpSkb id).data + (arpSkb id).len = (arpSkb id).tail := rfl
  have hlimit : (arpSkb id).tail + 46 ≤ (arpSkb id).limit := by
    show 60 + 46 ≤ 60 + 46 + 28
    omega
  refine ⟨⟨⟨hlen, Nat.le_trans (Nat.le_add_right _ _) hlimit⟩, fun q hq => ?_⟩, ⟨?_, ?_⟩⟩
  rotate_left
  · show 14 ≤ 60 - 28
    omega
  · show 60 + (60 - (0 + 28 + 14)) ≤ 60 + 46 + 28
    omega
  have htail : 60 ≤ q := hq
  show ((((((((Memory.store16 (fun _ => 0) 32 _).store16 34 _).store8 36 _).store8 37 _).store16
    38 _).write 40 _).store32 46 _).write 50 _).store32 56 _ q = 0
  rw [Memory.store32_outside _ _ (by omega),
    Memory.write_outside _ _ (by rw [MacAddr.length_addr]; omega),
    Memory.store32_outside _ _ (by omega),
    Memory.write_outside _ _ (by rw [MacAddr.length_addr]; omega),
    Memory.store16_outside _ _ (by omega), Memory.store8_outside _ _ (by omega),
    Memory.store8_outside _ _ (by omega), Memory.store16_outside _ _ (by omega),
    Memory.store16_outside _ _ (by omega)]

/-! ### The runs that build them -/

section Run

variable {ipInput : SkBuff → M Bool} {w : World}

theorem icmpOut_run (node : NodeId) (ip : UInt32) (type code : UInt8) (payload : List UInt8) :
    icmpOut ipInput node ip type code payload w =
      (ipOutput ipInput node ip ipProtoIcmp (icmpMessage w.nextId type code payload) >>= fun result =>
        if result then pure true
        else do
          freeSkb (icmpMessage w.nextId type code payload)
          pure false) w.allocated := by
  have halloc : allocSkb (buffHeadroom + buffTailroom + icmpHdrSize + payload.length) w
      = .ok (freshSkb w.nextId (buffHeadroom + buffTailroom + icmpHdrSize + payload.length))
          w.allocated := allocSkb_ok.mpr ⟨rfl, rfl⟩
  unfold icmpOut
  rw [run_bind_ok halloc, run_bind_ok (skbReserve_ok.mpr ⟨by simp only [freshSkb]; omega, rfl, rfl⟩),
    run_bind_ok (skbPut_ok.mpr ⟨by simp only [freshSkb]; omega, rfl, rfl⟩)]
  rfl

theorem udpOut_run (sock : UdpSock) (buff : List UInt8) (ip : UInt32) (port : UInt16) :
    udpOut ipInput sock buff ip port w =
      (derefIntfPtr sock.intf >>= fun intf =>
        ipOutput ipInput intf.node ip ipProtoUdp (udpDatagram w.nextId sock buff port))
        w.allocated := by
  have halloc : allocSkb (buffHeadroom + buffTailroom + udpHdrSize + buff.length) w
      = .ok (freshSkb w.nextId (buffHeadroom + buffTailroom + udpHdrSize + buff.length))
          w.allocated := allocSkb_ok.mpr ⟨rfl, rfl⟩
  unfold udpOut
  rw [run_bind_ok halloc, run_bind_ok (skbReserve_ok.mpr ⟨by simp only [freshSkb]; omega, rfl, rfl⟩),
    run_bind_ok (skbPut_ok.mpr ⟨by simp only [freshSkb]; omega, rfl, rfl⟩),
    run_bind_ok (skbPut_ok.mpr ⟨by simp only [freshSkb]; omega, rfl, rfl⟩)]
  rfl

theorem allocArpSkb_run : allocArpSkb w = .ok (arpSkb w.nextId) w.allocated := by
  refine bind_ok_iff.mpr ⟨_, _, allocSkb_ok.mpr ⟨rfl, rfl⟩, ?_⟩
  refine bind_ok_iff.mpr ⟨_, _, skbReserve_ok.mpr ⟨?_, rfl, rfl⟩, ?_⟩
  · show 0 + buffHeadroom ≤ buffHeadroom + buffTailroom + arpHdrSize
    omega
  · refine skbPush_ok.mpr ⟨?_, rfl, rfl⟩
    show arpHdrSize ≤ 0 + buffHeadroom
    decide

end Run

end SimpleTcpip
