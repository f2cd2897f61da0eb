/-
The segments of `tcp_out`.

`tcp_out` allocates a buffer and writes the ports before it looks at the window.  When
the segment fits, it fills in the rest, counts the sequence numbers and calls
`ip_output` once; when it does not, the buffer is forgotten and the result is
`return -1` in a function of type `bool`, which is true.
-/
import SimpleTcpip.Proofs.ByteOrder
import SimpleTcpip.Proofs.Postroute

namespace SimpleTcpip

open Fallible

/-! ### The buffer -/

/-- The payload of the segment in a buffer. -/
def SkBuff.tcpPayload (skb : SkBuff) : List UInt8 :=
  skb.mem.read (skb.data + tcpHdrSize) (skb.len - tcpHdrSize)

/-- The sequence number of the segment in a buffer. -/
def SkBuff.tcpSeq (skb : SkBuff) : UInt32 := ntohl (skb.mem.load32 (skb.data + 4))

/-- The source port of the segment in a buffer. -/
def SkBuff.tcpSrc (skb : SkBuff) : UInt16 := UInt16.ofNat (ntohs (skb.mem.load16 skb.data).toNat)

/-- The destination port of the segment in a buffer. -/
def SkBuff.tcpDst (skb : SkBuff) : UInt16 :=
  UInt16.ofNat (ntohs (skb.mem.load16 (skb.data + 2)).toNat)

/-- The acknowledgement number of the segment in a buffer. -/
def SkBuff.tcpAck (skb : SkBuff) : UInt32 := ntohl (skb.mem.load32 (skb.data + 8))

/-- The flags of the segment in a buffer. -/
def SkBuff.tcpFlags (skb : SkBuff) : TcpFlags := ⟨skb.mem (skb.data + 13)⟩

/-- The window the segment in a buffer advertises. -/
def SkBuff.tcpWnd (skb : SkBuff) : UInt16 :=
  UInt16.ofNat (ntohs (skb.mem.load16 (skb.data + 14)).toNat)

/-- The buffer of a segment with room for its header, and the ports written. -/
def tcpHdrSkb (id : SkbId) (parent : TcpSock) (conn : TcpConnectionSock) (size : Nat) : SkBuff :=
  let skb : SkBuff :=
    { freshSkb id (buffHeadroom + buffTailroom + tcpHdrSize + size) with
      intf := parent.intf, data := 0 + buffHeadroom, tail := 0 + buffHeadroom + tcpHdrSize,
      len := 0 + tcpHdrSize }
  let skb := skb.store16 (0 + buffHeadroom) (UInt16.ofNat (htons parent.localPort.toNat))
  skb.store16 (0 + buffHeadroom + 2) (UInt16.ofNat (htons conn.remotePort.toNat))

/-- The segment `tcp_out` hands to `ip_output`. -/
def tcpSegment (id : SkbId) (parent : TcpSock) (conn : TcpConnectionSock) (buff : List UInt8)
    (flags : TcpFlags) : SkBuff :=
  let skb := fillTcpHdr (tcpHdrSkb id parent conn buff.length) (0 + buffHeadroom) conn flags
  let payload := skb.tail
  let skb := { skb with tail := skb.tail + buff.length, len := skb.len + buff.length }
  let skb := skb.copyIn payload buff
  fillTcpCksum skb (0 + buffHeadroom) skb.len parent.localIp conn.remoteIp

/-- The connection after a segment took its sequence numbers. -/
def TcpConnectionSock.numbered (conn : TcpConnectionSock) (size : Nat) (flags : TcpFlags) :
    TcpConnectionSock :=
  { conn with snt := { conn.snt with nxt := conn.snt.nxt + seqSpan size flags } }

/-- The checksum is taken over a pseudo header that is put in front of the segment, and
what was there is put back. -/
theorem calcTcpCksum_mem (m : Memory) {hdr : Nat} (size : Nat) (src dst : UInt32) :
    (calcTcpCksum m hdr size src dst).2 = m := by
  funext q
  show (Memory.write (writePseudoHdr m (hdr - pseudoIpHdrSize) size src dst)
    (hdr - pseudoIpHdrSize) (m.read (hdr - pseudoIpHdrSize) pseudoIpHdrSize)) q = m q
  generalize hdr - pseudoIpHdrSize = p
  by_cases hq : p ≤ q ∧ q < p + pseudoIpHdrSize
  · obtain ⟨i, rfl⟩ := Nat.exists_eq_add_of_le hq.1
    have hi : i < pseudoIpHdrSize := by omega
    rw [Memory.write_read_apply _ _ _ _ _ hi]
  · rw [Memory.write_outside _ _ (by rw [Memory.length_read]; omega)]
    unfold pseudoIpHdrSize at hq
    unfold writePseudoHdr
    rw [Memory.store16_outside _ _ (by omega), Memory.store8_outside _ _ (by omega),
      Memory.store8_outside _ _ (by omega), Memory.store32_outside _ _ (by omega),
      Memory.store32_outside _ _ (by omega)]

section Fields

variable (id : SkbId) (parent : TcpSock) (conn : TcpConnectionSock) (buff : List UInt8)
  (flags : TcpFlags)

@[simp] theorem tcpSegment_id : (tcpSegment id parent conn buff flags).id = id := rfl
@[simp] theorem tcpSegment_ipHdr : (tcpSegment id parent conn buff flags).ipHdr = none := rfl
@[simp] theorem tcpSegment_intf : (tcpSegment id parent conn buff flags).intf = parent.intf := rfl
@[simp] theorem tcpSegment_data : (tcpSegment id parent conn buff flags).data = buffHeadroom := rfl
@[simp] theorem tcpSegment_tail :
    (tcpSegment id parent conn buff flags).tail = buffHeadroom + tcpHdrSize + buff.length := rfl
@[simp] theorem tcpSegment_len :
    (tcpSegment id parent conn buff flags).len = tcpHdrSize + buff.length := rfl
@[simp] theorem tcpSegment_limit : (tcpSegment id parent conn buff flags).limit
    = buffHeadroom + buffTailroom + tcpHdrSize + buff.length := rfl

/-- The writes of `tcp_out`, in order, up to the checksum field. -/
theorem tcpSegment_mem {q : Nat} (hq : q < 76 ∨ 78 ≤ q) :
    (tcpSegment id parent conn buff flags).mem q =
      ((fillTcpHdr (tcpHdrSkb id parent conn buff.length) buffHeadroom conn flags).mem.write 80
        buff) q := by
  show ((calcTcpCksum _ _ _ _ _).2.store16 76 _) q = _
  rw [Memory.store16_outside _ _ (by omega), calcTcpCksum_mem]
  rfl

/-- **A segment carries the bytes it was given.** -/
theorem tcpPayload_tcpSegment : (tcpSegment id parent conn buff flags).tcpPayload = buff := by
  have hlen : (tcpSegment id parent conn buff flags).len - tcpHdrSize = buff.length :=
    Nat.add_sub_cancel_left ..
  rw [SkBuff.tcpPayload, hlen]
  show (tcpSegment id parent conn buff flags).mem.read 80 buff.length = buff
  rw [Memory.read_congr fun i hi => tcpSegment_mem id parent conn buff flags (q := 80 + i)
    (by omega), Memory.read_write_same]

/-- **A segment carries the next sequence number of its connection.** -/
theorem tcpSeq_tcpSegment : (tcpSegment id parent conn buff flags).tcpSeq = conn.snt.nxt := by
  have hload : (tcpSegment id parent conn buff flags).mem.load32 64
      = ((tcpHdrSkb id parent conn buff.length).mem.store32 64 (htonl conn.snt.nxt)).load32 64 := by
    refine Memory.load32_congr fun i hi => ?_
    rw [tcpSegment_mem id parent conn buff flags (by omega),
      Memory.write_outside _ _ (by omega)]
    show ((((Memory.store32 _ 68 _).store8 73 _).store16 74 _).store8 72 _) (64 + i) = _
    rw [Memory.store8_outside _ _ (by omega), Memory.store16_outside _ _ (by omega),
      Memory.store8_outside _ _ (by omega), Memory.store32_outside _ _ (by omega)]
    rfl
  show ntohl ((tcpSegment id parent conn buff flags).mem.load32 64) = _
  rw [hload, Memory.load32_store32, ntohl_htonl]

end Fields

/-! ### The run -/

/-- The process once `tcp_out` has its buffer. -/
def World.allocated (w : World) : World :=
  { w with nextId := w.nextId + 1, trace := w.trace ++ [.alloc w.nextId] }

/-- The process once a segment took its sequence numbers. -/
def World.segmented (w : World) (c : ConnId) (conn : TcpConnectionSock) (size : Nat)
    (flags : TcpFlags) : World :=
  { w.allocated with tcpConn := Function.update w.tcpConn c (some (conn.numbered size flags)) }

section Run

variable {ipInput : SkBuff → M Bool} {c : ConnId} {buff : List UInt8} {flags : TcpFlags}
  {w : World} {conn : TcpConnectionSock} {parent : TcpSock}

/-- `tcp_out` up to the window test. -/
theorem tcpOut_run (hconn : w.tcpConn c = some conn) (hparent : w.tcpSock conn.parent = some parent) :
    tcpOut ipInput c buff flags w =
      if exceedsWindow conn buff.length then .ok true w.allocated
      else (derefIntfPtr parent.intf >>= fun intf =>
        ipOutput ipInput intf.node conn.remoteIp ipProtoTcp
          (tcpSegment w.nextId parent conn buff flags)) (w.segmented c conn buff.length flags) := by
  unfold tcpOut
  rw [run_bind_ok (derefTcpConn_ok.mpr ⟨hconn, rfl⟩)]
  have halloc : allocSkb (buffHeadroom + buffTailroom + tcpHdrSize + buff.length) w
      = .ok (freshSkb w.nextId (buffHeadroom + buffTailroom + tcpHdrSize + buff.length))
          w.allocated := allocSkb_ok.mpr ⟨rfl, rfl⟩
  have hderef : derefTcpSock conn.parent w.allocated = .ok parent w.allocated :=
    derefTcpSock_ok.mpr ⟨hparent, rfl⟩
  rw [run_bind_ok halloc, run_bind_ok hderef,
    run_bind_ok (skbReserve_ok.mpr ⟨by simp only [freshSkb]; omega, rfl, rfl⟩),
    run_bind_ok (skbPut_ok.mpr ⟨by simp only [freshSkb]; omega, rfl, rfl⟩)]
  cases hwin : exceedsWindow conn buff.length with
  | true => rfl
  | false =>
      simp only [Bool.false_eq_true, if_false]
      rw [run_bind_ok (skbPut_ok.mpr ⟨?_, rfl, rfl⟩)]
      · rfl
      · show 0 + buffHeadroom + tcpHdrSize + buff.length
          ≤ buffHeadroom + buffTailroom + tcpHdrSize + buff.length
        omega

/-- A completed `tcp_out` followed the connection's pointer to its socket. -/
theorem tcpOut_parent {r : Bool} {w' : World} (hconn : w.tcpConn c = some conn)
    (hrun : tcpOut ipInput c buff flags w = .ok r w') :
    ∃ parent, w.tcpSock conn.parent = some parent := by
  obtain ⟨conn', t1, h1, hrest⟩ := bind_ok_iff.mp hrun
  obtain ⟨hconn', rfl⟩ := derefTcpConn_ok.mp h1
  obtain rfl : conn = conn' := Option.some.inj (hconn.symm.trans hconn')
  obtain ⟨skb, t2, h2, hrest'⟩ := bind_ok_iff.mp hrest
  obtain ⟨-, rfl⟩ := allocSkb_ok.mp h2
  obtain ⟨parent, t3, h3, -⟩ := bind_ok_iff.mp hrest'
  exact ⟨parent, (derefTcpSock_ok.mp h3).1⟩

/-- **A completed `tcp_out` touches no socket list and no other connection**, and of its own
at most the next sequence number. -/
theorem tcpOut_frame {depth : Nat} {r : Bool} {w' : World} (hconn : w.tcpConn c = some conn)
    (hrun : tcpOut (ipInputDepth depth) c buff flags w = .ok r w') :
    w'.tcpSocks = w.tcpSocks ∧ w'.tcpSock = w.tcpSock ∧ (w'.tcpConn = w.tcpConn ∨
      w'.tcpConn = Function.update w.tcpConn c (some (conn.numbered buff.length flags))) := by
  obtain ⟨parent, hparent⟩ := tcpOut_parent hconn hrun
  rw [tcpOut_run hconn hparent] at hrun
  by_cases hwin : exceedsWindow conn buff.length = true
  · rw [if_pos hwin] at hrun
    cases hrun
    exact ⟨rfl, rfl, Or.inl rfl⟩
  · rw [if_neg hwin] at hrun
    obtain ⟨intf, t, hintf, hout⟩ := bind_ok_iff.mp hrun
    obtain ⟨-, rfl⟩ := derefIntfPtr_ok.mp hintf
    have hsends : Sends (fun _ => True) (fun _ => True)
        ((w.segmented c conn buff.length flags).output intf.node conn.remoteIp ipProtoTcp
          (tcpSegment w.nextId parent conn buff flags))
        (final (ipOutput (ipInputDepth depth) intf.node conn.remoteIp ipProtoTcp
          (tcpSegment w.nextId parent conn buff flags)) (w.segmented c conn buff.length flags)) :=
      ipOutput_sends ⟨rfl, trivial⟩ fun _ _ _ _ => trivial
    rw [final_of_ok hout] at hsends
    exact ⟨hsends.tcpSocks, hsends.tcpSock, Or.inr hsends.tcpConn⟩

/-- Data takes as many sequence numbers as it has bytes. -/
theorem seqSpan_onlyAck (size : Nat) : seqSpan size .onlyAck = UInt32.ofNat size := by
  have hsyn : TcpFlags.onlyAck.syn = false := by decide
  have hfin : TcpFlags.onlyAck.fin = false := by decide
  rw [seqSpan, hsyn, hfin]
  simp

end Run

end SimpleTcpip
