/-
Output buffers fit.

Three producers share one budget: the senders reserve room before they put their headers,
ARP pushes its header into that room, and a forwarded packet lies where the receive thread
read it.  Wherever a packet comes from, the link layer finds room for its header and for
the padding, and the padding is zero unless a received packet was too short to hold the
header that `ip_postroute` completes.
-/
import SimpleTcpip.Model.Fixture
import SimpleTcpip.Proofs.Stops
import SimpleTcpip.Proofs.Wire

namespace SimpleTcpip

open Fallible

/-! ### Where a packet comes from -/

/-- An IP packet on its way to the link, by who built it, and its length as it was built or
received. -/
inductive Origin (tr : List Event) : Nat → SkBuff → Prop
  | icmp (id : SkbId) (type code : UInt8) (payload : List UInt8) (ip : UInt32) (i : IntfId)
      (src : UInt32) : Origin tr (ipHdrSize + icmpHdrSize + payload.length)
        (((icmpMessage id type code payload).withIpHdr ip ipProtoIcmp).routed i src)
  | udp (id : SkbId) (sock : UdpSock) (buff : List UInt8) (port : UInt16) (ip : UInt32)
      (i : IntfId) (src : UInt32) (hlen : buff.length ≤ maxUdpPayload) :
      Origin tr (ipHdrSize + udpHdrSize + buff.length)
        (((udpDatagram id sock buff port).withIpHdr ip ipProtoUdp).routed i src)
  | tcp (id : SkbId) (parent : TcpSock) (conn : TcpConnectionSock) (buff : List UInt8)
      (flags : TcpFlags) (i : IntfId) (src : UInt32) (hlen : buff.length ≤ maxTcpPayload) :
      Origin tr (ipHdrSize + tcpHdrSize + buff.length)
        (((tcpSegment id parent conn buff flags).withIpHdr conn.remoteIp ipProtoTcp).routed i src)
  | forwarded {id : SkbId} {i : IntfId} {frame : List UInt8} (j : IntfId) (src : UInt32)
      (hrx : Event.received i (recvBuffer id i frame) ∈ tr)
      (hlen : ethHdrSize ≤ (recvBuffer id i frame).len) :
      Origin tr ((recvBuffer id i frame).len - ethHdrSize)
        ((recvBuffer id i frame).ipPacket.forwarded.routed j src)

/-- A packet handed to `ethernet_output`, and its length as it was built or received. -/
def HandedOver (tr : List Event) (proto : UInt16) (size : Nat) (s : SkBuff) : Prop :=
  proto = ethProtoArp ∧ IsArpPacket s ∧ size = arpHdrSize ∨ proto = ethProtoIp ∧ Origin tr size s

theorem Origin.mono {tr tr' : List Event} {size : Nat} {s : SkBuff} (h : Origin tr size s)
    (htr : ∀ e ∈ tr, e ∈ tr') : Origin tr' size s := by
  cases h with
  | icmp id type code payload ip i src => exact .icmp id type code payload ip i src
  | udp id sock buff port ip i src hlen => exact .udp id sock buff port ip i src hlen
  | tcp id parent conn buff flags i src hlen => exact .tcp id parent conn buff flags i src hlen
  | forwarded j src hrx hlen => exact .forwarded j src (htr _ hrx) hlen

/-! ### The room it has -/

/-- What is known of every packet handed over. -/
structure Budget (size : Nat) (s : SkBuff) : Prop extends Fits s, LinkRoom s where
  length : s.len = size
  blank : ipHdrSize ≤ size → ∀ q, s.tail ≤ q → s.mem q = 0

theorem Sendable.budget {s : SkBuff} {size : Nat} (h : Sendable s) (hsize : s.len = size) :
    Budget size s :=
  ⟨h.toFits, h.toLinkRoom, hsize, fun _ => h.blank⟩

theorem Budget.tidy {size : Nat} {s : SkBuff} (h : Budget size s) (hsize : ipHdrSize ≤ size) :
    Tidy s :=
  ⟨h.toFits, h.blank hsize⟩

/-- A received buffer holds its frame and zeros. -/
theorem tidy_recvBuffer (id : SkbId) (i : IntfId) (frame : List UInt8) :
    Tidy (recvBuffer id i frame) := by
  refine ⟨⟨rfl, ?_⟩, fun q hq => ?_⟩
  · have hlen : (frame.take (recvBufferSize - recvReservedHeadRoom)).length
        ≤ recvBufferSize - recvReservedHeadRoom := List.length_take_le _ _
    show recvReservedHeadRoom + (frame.take (recvBufferSize - recvReservedHeadRoom)).length
      ≤ recvBufferSize
    rw [recvBufferSize, recvReservedHeadRoom] at *
    omega
  · exact Memory.write_outside (fun _ => 0) _ (Or.inr hq)

/-- **A forwarded packet has the room it was received with.** -/
theorem budget_forwarded {id : SkbId} {i : IntfId} {frame : List UInt8} (j : IntfId) (src : UInt32)
    (hlen : ethHdrSize ≤ (recvBuffer id i frame).len) :
    Budget ((recvBuffer id i frame).len - ethHdrSize)
      ((recvBuffer id i frame).ipPacket.forwarded.routed j src) := by
  have hrx := tidy_recvBuffer id i frame
  have hdata : (recvBuffer id i frame).data = recvReservedHeadRoom := rfl
  have hlimit : (recvBuffer id i frame).limit = recvBufferSize := rfl
  have hends := hrx.len
  have htail := hrx.tail
  have hsub : ((recvBuffer id i frame).ipPacket.forwarded.routed j src).len
      = (recvBuffer id i frame).len - ethHdrSize := sizeSub_of_le hlen
  have hstart : ((recvBuffer id i frame).ipPacket.forwarded.routed j src).data
      = recvReservedHeadRoom + ethHdrSize := rfl
  have hend : ((recvBuffer id i frame).ipPacket.forwarded.routed j src).tail
      = (recvBuffer id i frame).tail := rfl
  rw [hdata] at hends
  rw [hlimit] at htail
  refine ⟨⟨?_, htail⟩, ⟨?_, ?_⟩, hsub, fun hhdr q hq => ?_⟩
  · rw [hstart, hsub, hend, ← hends, Nat.add_assoc, Nat.add_sub_cancel' hlen]
  · rw [hstart]
    exact Nat.le_add_left _ _
  · rw [hend, hsub]
    show _ ≤ recvBufferSize
    rw [ethHdrSize] at hlen ⊢
    rw [recvReservedHeadRoom] at hends
    rw [recvBufferSize] at htail ⊢
    omega
  · rw [hend] at hq
    -- the bytes rewritten on the way lie in the header
    have hout : recvReservedHeadRoom + ethHdrSize + 16 ≤ q := by
      rw [ipHdrSize] at hhdr
      omega
    have hfwd : (recvBuffer id i frame).ipPacket.forwarded.mem q = (recvBuffer id i frame).mem q :=
      Memory.store8_outside _ _ (by
        show q ≠ recvReservedHeadRoom + ethHdrSize + 8
        omega)
    rw [routed_mem_outside _ _ _ (Or.inr hout), hfwd]
    exact hrx.blank q hq

theorem Origin.budget {tr : List Event} {size : Nat} {s : SkBuff} (h : Origin tr size s) :
    Budget size s := by
  cases h with
  | icmp id type code payload ip i src =>
      refine ((packed_icmpMessage id type code payload).sendable ip ipProtoIcmp i src).budget ?_
      show 0 + (icmpHdrSize + payload.length) + ipHdrSize = ipHdrSize + icmpHdrSize + payload.length
      omega
  | udp id sock buff port ip i src hlen =>
      refine ((packed_udpDatagram id sock buff port).sendable ip ipProtoUdp i src).budget ?_
      show 0 + udpHdrSize + buff.length + ipHdrSize = ipHdrSize + udpHdrSize + buff.length
      omega
  | tcp id parent conn buff flags i src hlen =>
      refine ((packed_tcpSegment id parent conn buff flags).sendable conn.remoteIp ipProtoTcp i
        src).budget ?_
      rw [routed_len, withIpHdr_len, tcpSegment_len]
      omega
  | forwarded j src hrx hlen => exact budget_forwarded j src hlen

theorem HandedOver.budget {tr : List Event} {proto : UInt16} {size : Nat} {s : SkBuff}
    (h : HandedOver tr proto size s) : Budget size s := by
  rcases h with ⟨-, ⟨id, opcode, senderHw, senderIp, targetHw, targetIp, rfl⟩, rfl⟩ | ⟨-, h⟩
  · exact (sendable_arpPacket id opcode senderHw senderIp targetHw targetIp).budget rfl
  · exact h.budget

/-! ### Every run -/

/-- Everything handed over so far, and everything that waits, has one of the origins. -/
structure OriginsKnown (w : World) : Prop where
  events : ∀ e ∈ w.trace, e.Wired (fun s => ∃ size, Origin w.trace size s) w.trace
  waiting : ∀ n s, Pending w n s → ∃ size, Origin w.trace size s

theorem recorded_origin : Recorded fun tr s => ∃ size, Origin tr size s where
  mono := fun _ _ _ htr ⟨size, hs⟩ => ⟨size, hs.mono htr⟩
  icmp := fun _ id type code payload ip i src => ⟨_, .icmp id type code payload ip i src⟩
  udp := fun _ id sock buff port ip i src hlen => ⟨_, .udp id sock buff port ip i src hlen⟩
  tcp := fun _ id parent conn buff flags i src hlen =>
    ⟨_, .tcp id parent conn buff flags i src hlen⟩
  forwarded := fun _ _ _ _ j src hrx hlen _ => ⟨_, .forwarded j src hrx hlen⟩

/-- **A call keeps the account**, also when it stops the process. -/
theorem OriginsKnown.after {w : World} (h : OriginsKnown w) (op : Op) : OriginsKnown (op.after w) := by
  have hafter := (WiredBy.mk h.events h.waiting).after recorded_origin op
  exact ⟨hafter.events, hafter.waiting⟩

theorem Reachable.originsKnown {w : World} (h : Reachable w) : OriginsKnown w := by
  have hwired := recorded_origin.reachable h
  exact ⟨hwired.events, hwired.waiting⟩

/-! ### The budget -/

/-- No check of skbuff.h stops the run. -/
def BuffersFit {α : Type} (m : M α) (w : World) : Prop := FaultsIn (fun e => ¬ e.IsBuffer) m w

/-- The calls that send, and the frames that `ip_input` does not take. -/
def Op.Outputs (w : World) : Op → Prop
  | .udpSendto _ _ _ _ | .tcpSend _ _ | .icmpOut _ _ _ _ _ | .ping _ _
  | .sendArpBroadcastRequest _ _ => True
  | .recvFrame i frame => ¬ IpAccepted w (recvBuffer w.nextId i frame)
  | _ => False

theorem Op.Outputs.fits {w : World} (hw : OriginsKnown w) {op : Op} (h : op.Outputs w) :
    BuffersFit (runOp op) w := by
  have hE : ∀ e : Fault, ¬ e.IsBuffer → ¬ e.IsBuffer := fun _ => id
  have hs : Sound (fun e => ¬ e.IsBuffer) w := sound_of_buffer hE
  cases op with
  | udpSendto fd buff ip port =>
      exact faultsIn_bind (udpSendto_faultsIn hE fd buff ip port) fun _ _ _ => faultsIn_pure _ _
  | tcpSend fd buff =>
      exact faultsIn_bind (tcpSend_faultsIn hE fd buff) fun _ _ _ => faultsIn_pure _ _
  | icmpOut n ip type code payload =>
      exact faultsIn_bind (icmpOut_faultsIn hs (Or.inl hE)) fun _ _ _ => faultsIn_pure _ _
  | ping n ipAddr =>
      exact faultsIn_bind (icmpOut_faultsIn hs (Or.inl hE)) fun _ _ _ => faultsIn_pure _ _
  | sendArpBroadcastRequest i ip =>
      exact faultsIn_bind (sendArpBroadcastRequest_faultsIn hs (Or.inl id) ip) fun _ _ _ =>
        faultsIn_pure _ _
  | recvFrame i frame =>
      refine faultsIn_bind (recvFrame_faultsIn hE h fun n s hs => ?_) fun _ _ _ => faultsIn_pure _ _
      obtain ⟨size, hsize⟩ := hw.waiting n s hs
      exact hsize.budget.toLinkRoom
  | _ => exact absurd h id

/-- The bytes of a frame: a header, the packet, and zeros up to 60. -/
def IsPadded (frame : List UInt8) (s : SkBuff) : Prop :=
  ∃ hdr : List UInt8, hdr.length = ethHdrSize ∧
    frame = hdr ++ s.bytes ++ List.replicate (60 - (ethHdrSize + s.len)) 0

theorem OriginsKnown.sent {w : World} (h : OriginsKnown w) {i : IntfId} {frame : List UInt8}
    (hsent : Event.sent i frame ∈ w.trace) :
    ∃ mac proto size s, Event.ethOutput i mac proto s ∈ w.trace ∧ HandedOver w.trace proto size s ∧
      frame.length = max 60 (ethHdrSize + size) ∧ (ipHdrSize ≤ size → IsPadded frame s) := by
  obtain ⟨mac, src, proto, s, hmem, rfl⟩ := h.events _ hsent
  have hover : ∃ size, HandedOver w.trace proto size s := by
    rcases h.events _ hmem with ⟨hproto, harp⟩ | ⟨hproto, size, hsize⟩
    · exact ⟨arpHdrSize, Or.inl ⟨hproto, harp, rfl⟩⟩
    · exact ⟨size, Or.inr ⟨hproto, hsize⟩⟩
  obtain ⟨size, hsize⟩ := hover
  have hbudget := hsize.budget
  refine ⟨mac, proto, size, s, hmem, hsize, ?_, fun hhdr => ?_⟩
  · rw [length_ethFrame, hbudget.length]
    rfl
  · rw [ethFrame_padding (hbudget.tidy hhdr)]
    refine ⟨mac.addr ++ src.addr ++ Memory.bytes16 (UInt16.ofNat (htons proto.toNat)), ?_, ?_⟩
    · simp only [List.length_append, MacAddr.length_addr, Memory.length_bytes16, ethHdrSize]
    · rw [show 60 - (ethHdrSize + s.len) = 46 - s.len from by rw [ethHdrSize]; omega]

/--
**Output buffers always fit.**  No check of skbuff.h stops a sender, an ARP message or a
frame that is forwarded, from any state of a run; nor the replies, from any state at all.
Each operation of skbuff.h keeps the length of a buffer the distance of its ends.
Whatever was handed to the link had the length it was built or received with and that
distance; and every frame sent is a header and that packet, padded with zeros to 60 bytes,
unless the packet was received too short to hold an IP header.
-/
theorem output_buffers_fit {w : World} (h : Reachable w) :
    (∀ op : Op, op.Outputs w → BuffersFit (runOp op) w) ∧
    (∀ (t : World) depth node ip type code payload,
      BuffersFit (icmpOut (ipInputDepth depth) node ip type code payload) t) ∧
    (∀ (t : World) depth c buff flags, BuffersFit (tcpOut (ipInputDepth depth) c buff flags) t) ∧
    (∀ (t : World) i req hdr, BuffersFit (sendArpReplyMsg i req hdr) t) ∧
    (∀ (s s' : SkBuff) (n : Nat) (t t' : World), Fits s →
      skbReserve s n t = .ok s' t' ∨ skbPush s n t = .ok s' t' ∨ skbPut s n t = .ok s' t' ∨
        skbPull s n t = .ok s' t' → Fits s') ∧
    ∀ op : Op,
      (∀ i mac proto s, Event.ethOutput i mac proto s ∈ (op.after w).trace →
        ∃ size, HandedOver (op.after w).trace proto size s ∧ s.len = size ∧ Fits s) ∧
      (∀ n ip s, Event.parked n ip s ∈ (op.after w).trace →
        ∃ size, Origin (op.after w).trace size s ∧ s.len = size ∧ Fits s) ∧
      ∀ i frame, Event.sent i frame ∈ (op.after w).trace →
        ∃ mac proto size s, Event.ethOutput i mac proto s ∈ (op.after w).trace ∧
          HandedOver (op.after w).trace proto size s ∧
          frame.length = max 60 (ethHdrSize + size) ∧ (ipHdrSize ≤ size → IsPadded frame s) := by
  have hE : ∀ e : Fault, ¬ e.IsBuffer → ¬ e.IsBuffer := fun _ => id
  refine ⟨fun op hop => hop.fits h.originsKnown,
    fun t depth node ip type code payload => icmpOut_faultsIn (sound_of_buffer hE) (Or.inl hE),
    fun t depth c buff flags => tcpOut_faultsIn_any hE c buff flags,
    fun t i req hdr => sendArpReplyMsg_faultsIn (sound_of_buffer hE) (Or.inl id) (Or.inl id),
    fun s s' n t t' hs hrun => ?_, fun op => ?_⟩
  · rcases hrun with hrun | hrun | hrun | hrun
    · exact hs.reserve hrun
    · exact hs.push hrun
    · exact hs.put hrun
    · exact hs.pull hrun
  have hafter := h.originsKnown.after op
  refine ⟨fun i mac proto s hmem => ?_, fun n ip s hmem => ?_, fun i frame => hafter.sent⟩
  · rcases hafter.events _ hmem with ⟨hproto, harp⟩ | ⟨hproto, size, hsize⟩
    · have hover : HandedOver (op.after w).trace proto arpHdrSize s := Or.inl ⟨hproto, harp, rfl⟩
      exact ⟨arpHdrSize, hover, hover.budget.length, hover.budget.toFits⟩
    · exact ⟨size, Or.inr ⟨hproto, hsize⟩, hsize.budget.length, hsize.budget.toFits⟩
  · obtain ⟨size, hsize⟩ := hafter.events _ hmem
    exact ⟨size, hsize, hsize.budget.length, hsize.budget.toFits⟩

/-- A system call sent a frame from an interface. -/
def Event.sentOn (i : IntfId) : Event → Option (List UInt8)
  | .sent j frame => if j = i then some frame else none
  | _ => none

theorem output_buffers_fit_fixture :
    BuffersFit (runOp (.ping 0 [49, 57, 50, 46, 49, 54, 56, 46, 56, 57, 46, 50])) (Fixture.after []) ∧
    ∃ frame, Event.sent 0 frame ∈ ((Op.ping 0 [49, 57, 50, 46, 49, 54, 56, 46, 56, 57, 46, 50]).after
        (Fixture.after [])).trace ∧ ∃ size, frame.length = max 60 (ethHdrSize + size) := by
  have hreach := Fixture.reachable_after []
  have hsent : (((Op.ping 0 [49, 57, 50, 46, 49, 54, 56, 46, 56, 57, 46, 50]).after
      (Fixture.after [])).trace.findSome? (Event.sentOn 0)).isSome = true := by decide +kernel
  generalize Fixture.after [] = w at *
  have hfit := output_buffers_fit hreach
  refine ⟨hfit.1 _ trivial, ?_⟩
  obtain ⟨frame, hframe⟩ := Option.isSome_iff_exists.mp hsent
  obtain ⟨e, hmem, he⟩ := List.exists_of_findSome?_eq_some hframe
  cases e with
  | sent j bytes =>
      rw [Event.sentOn] at he
      split at he
      · rename_i hj
        cases he
        subst hj
        obtain ⟨-, -, size, -, -, -, hlen, -⟩ := (hfit.2.2.2.2.2 _).2.2 _ _ hmem
        exact ⟨_, hmem, size, hlen⟩
      · cases he
  | _ => cases he

end SimpleTcpip
