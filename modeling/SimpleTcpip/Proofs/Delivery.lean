/-
What a transport protocol is handed.

`ip_input` pulls the 20 bytes of a header without options and nothing else: it does
not look at the header length, and it does not trim the buffer to the total length.
What `icmp_input`, `tcp_input` and `udp_input` get is the received packet from its
twentieth byte on, whatever the packet says about itself.
-/
import SimpleTcpip.Model.Fixture
import SimpleTcpip.Proofs.Changes

namespace SimpleTcpip

open Fallible

/-! ### Packets -/

/-- The IP packet of a frame, as much of it as the receive buffer holds. -/
def packetOf (frame : List UInt8) : List UInt8 :=
  (frame.take (recvBufferSize - recvReservedHeadRoom)).drop ethHdrSize

/-- The header length of a packet, in bytes. -/
def hdrBytes (packet : List UInt8) : Nat := 4 * ((packet.getD 0 0).toNat % 16)

/-- The total length a packet declares. -/
def totalLen (packet : List UInt8) : Nat :=
  256 * (packet.getD 2 0).toNat + (packet.getD 3 0).toNat

/-- The bytes between the header and the total length. -/
def transportMessage (packet : List UInt8) : List UInt8 :=
  (packet.take (totalLen packet)).drop (hdrBytes packet)

/-- A packet with a header of 5 to 15 words that fits its total length, which fits what
was received. -/
structure WellFormed (packet : List UInt8) : Prop where
  hdrMin : 4 * 5 ≤ hdrBytes packet
  hdrFits : hdrBytes packet ≤ totalLen packet
  fits : totalLen packet ≤ packet.length

/-! ### The buffer handed over -/

/-- The buffer an event hands to a transport protocol. -/
def Event.transported : Event → Option SkBuff
  | .transport _ s => some s
  | _ => none

/-- The buffers a run hands to `icmp_input`, `tcp_input` or `udp_input`, in order. -/
def transported (w w' : World) : List SkBuff := (newEvents w w').filterMap Event.transported

section Segment

variable (id : SkbId) (i : IntfId) (frame : List UInt8)

theorem length_packetOf : (packetOf frame).length = (recvBuffer id i frame).len - ethHdrSize := by
  rw [packetOf, List.length_drop]
  rfl

/-- The segment of a frame is its packet from byte 20 on. -/
theorem bytes_segment (h : ethHdrSize + ipHdrSize ≤ (recvBuffer id i frame).len) :
    (recvBuffer id i frame).segment.bytes = (packetOf frame).drop ipHdrSize := by
  let received := frame.take (recvBufferSize - recvReservedHeadRoom)
  have hlen : (recvBuffer id i frame).len = received.length := rfl
  rw [hlen] at h
  have hsegment : (recvBuffer id i frame).segment.len
      = received.length - (ethHdrSize + ipHdrSize) := by
    show sizeSub (sizeSub received.length ethHdrSize) ipHdrSize = _
    rw [sizeSub_of_le (a := received.length) (by omega), sizeSub_of_le (by omega), Nat.sub_sub]
  calc (recvBuffer id i frame).segment.bytes
      = (Memory.write (fun _ => 0) recvReservedHeadRoom received).read
          (recvReservedHeadRoom + (ethHdrSize + ipHdrSize))
          (received.length - (ethHdrSize + ipHdrSize)) := by
        rw [SkBuff.bytes, hsegment]
        rfl
    _ = received.drop (ethHdrSize + ipHdrSize) := by
        rw [← Memory.drop_read _ _ h, Memory.read_write_same]
    _ = (packetOf frame).drop ipHdrSize := by
        rw [packetOf, List.drop_drop]

end Segment

/-- Cutting off 20 bytes leaves the transport message when there are no options and no
padding, and only then. -/
theorem drop_eq_transportMessage {packet : List UInt8} (h : WellFormed packet) :
    packet.drop ipHdrSize = transportMessage packet ↔
      hdrBytes packet = ipHdrSize ∧ totalLen packet = packet.length := by
  obtain ⟨hmin, hhdr, hfits⟩ := h
  unfold ipHdrSize transportMessage
  constructor
  · intro heq
    have hlen := congrArg List.length heq
    rw [List.length_drop, List.length_drop, List.length_take] at hlen
    omega
  · rintro ⟨hlen, htotal⟩
    rw [hlen, htotal, List.take_length]

/--
**What a transport protocol gets is the transport message exactly when the packet has
no header options and no bytes beyond its total length.**  The buffers of the frame
itself are those whose header pointer is set; a reply looped back to the node has
none.
-/
theorem transported_bytes_iff (w : World) (i : IntfId) (frame : List UInt8)
    (hwf : WellFormed (packetOf frame)) (s : SkBuff)
    (hs : s ∈ transported w (final (recvFrame i frame) w)) (hwire : s.ipHdr.isSome) :
    s.bytes = transportMessage (packetOf frame) ↔
      hdrBytes (packetOf frame) = ipHdrSize ∧
        totalLen (packetOf frame) = (packetOf frame).length := by
  have hcov : Covers (frameScope w i frame) (w.received i frame) (final (recvFrame i frame) w).nextId
      fun _ => True := ⟨fun _ _ _ => trivial, fun _ _ _ _ _ _ _ _ _ _ _ _ => trivial, fun _ _ _ => trivial⟩
  obtain ⟨⟨es, he, hes⟩, -⟩ :=
    (recvFrame_changes i frame w).records (Nat.le_refl _) hcov
  have he' : (final (recvFrame i frame) w).trace = w.trace ++
      ([.alloc w.nextId, .received i (recvBuffer w.nextId i frame)] ++ es) := by
    rw [he, ← List.append_assoc]
    rfl
  rw [transported, newEvents_append he', List.filterMap_append] at hs
  obtain ⟨e, hmem, hover⟩ := List.mem_filterMap.mp hs
  have hof := hes e hmem
  -- the only buffer with a header pointer is the segment of the frame
  obtain ⟨r, rfl, rfl⟩ : ∃ r, r = recvBuffer w.nextId i frame ∧ s = r.segment := by
    cases e with
    | transport proto s' =>
        cases hover
        rcases hof with hlooped | hr
        · rw [hlooped.1] at hwire
          cases hwire
        · exact hr
    | _ => cases hover
  rw [bytes_segment, drop_eq_transportMessage hwf]
  have hlen := length_packetOf w.nextId i frame
  have hmin := hwf.hdrMin
  have hhdr := hwf.hdrFits
  have hfits := hwf.fits
  unfold ethHdrSize ipHdrSize at *
  omega

/-- A datagram of four bytes from `192.168.89.2` to `192.168.89.1`, without options and
without padding. -/
def plainFrame : List UInt8 :=
  List.replicate 12 0xff ++ [0x08, 0x00] ++
    [0x45, 0, 0, 32, 0, 0, 0, 0, 64, 17, 0x47, 0x79, 192, 168, 89, 2, 192, 168, 89, 1] ++
    [0x03, 0xe8, 0x07, 0xd0, 0, 12, 0, 0] ++ [9, 8, 7, 6]

theorem transported_bytes_plainFrame :
    ∃ s ∈ transported (Fixture.after []) (final (recvFrame 0 plainFrame) (Fixture.after [])),
      (s.bytes = transportMessage (packetOf plainFrame) ↔
        hdrBytes (packetOf plainFrame) = ipHdrSize ∧
          totalLen (packetOf plainFrame) = (packetOf plainFrame).length) := by
  have hany : (transported (Fixture.after [])
      (final (recvFrame 0 plainFrame) (Fixture.after []))).any (fun s => s.ipHdr.isSome) = true := by
    decide +kernel
  obtain ⟨s, hs, hwire⟩ := List.any_eq_true.mp hany
  exact ⟨s, hs, transported_bytes_iff _ _ _ ⟨by decide, by decide, by decide⟩ s hs hwire⟩

/-- The same datagram with a header option, padded to the minimum frame size. -/
def paddedFrame : List UInt8 :=
  List.replicate 12 0xff ++ [0x08, 0x00] ++
    [0x46, 0, 0, 36, 0, 0, 0, 0, 64, 17, 0x44, 0x74, 192, 168, 89, 2, 192, 168, 89, 1] ++
    [1, 1, 1, 0] ++ [0x03, 0xe8, 0x07, 0xd0, 0, 12, 0, 0] ++ [9, 8, 7, 6] ++
    List.replicate 10 0

/-- **Options and padding reach the transport protocol.** -/
theorem paddedFrame_transported :
    Reachable (Fixture.after []) ∧ WellFormed (packetOf paddedFrame) ∧
      transportMessage (packetOf paddedFrame) = [0x03, 0xe8, 0x07, 0xd0, 0, 12, 0, 0, 9, 8, 7, 6] ∧
      (transported (Fixture.after [])
        (final (recvFrame 0 paddedFrame) (Fixture.after []))).map SkBuff.bytes =
          [[1, 1, 1, 0, 0x03, 0xe8, 0x07, 0xd0, 0, 12, 0, 0, 9, 8, 7, 6, 0, 0, 0, 0, 0, 0, 0, 0,
            0, 0]] :=
  ⟨Fixture.reachable_after [], ⟨by decide, by decide, by decide⟩, by decide, by decide +kernel⟩

end SimpleTcpip
