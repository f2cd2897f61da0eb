/-
Which frames a node survives.

A frame that is not for the interface, or that carries no IP packet, is received whatever its
length.  Of a packet every layer reads its own fields at fixed places and pulls its own header, and
only some of them compare with the length first.  `frameNeeds` is how long the frame has to be for
that, and it is never more than 74 bytes.

It says when a run under `checked` completes, where each byte a handler reads must lie in the
packet.  The one other thing that can stop the run is an answer the node sends to itself: it has no
IP header, and `tcp_input` follows it for a socket.  That takes a segment with a forged source.
-/
import SimpleTcpip.Proofs.Budget
import SimpleTcpip.Proofs.Echo
import SimpleTcpip.Proofs.Exchange
import SimpleTcpip.Proofs.Hops
import SimpleTcpip.Proofs.Isolation
import SimpleTcpip.Proofs.Outcome

namespace SimpleTcpip

open Fallible

/-! ### What a frame needs -/

/-- How long a packet has to be for `ip_forward`: the checksum is made over the header length the
packet itself gives. -/
def forwardNeeds (w : World) (n : NodeId) (skb : SkBuff) : Nat :=
  if w.ipForwardEnable = true ∧ 1 < skb.ttl ∧ (rtLookupLpm (w.rtTable n) skb.dstIp).isSome then
    max ipHdrSize (ipHlen skb.mem skb.data * 4)
  else ipHdrSize

/-- How long the message of a packet for the node has to be.  `icmp_input` asks first. -/
def inputNeeds (w : World) (skb : SkBuff) : Nat :=
  if skb.ipPacket.proto = ipProtoTcp then tcpReads w skb
  else if skb.ipPacket.proto = ipProtoUdp then
    if (udpReceiver w skb.segment).isSome then udpHdrSize else 4
  else 0

/-- **How long a frame has to be.** -/
def frameNeeds (w : World) (skb : SkBuff) : Nat :=
  (packetIntf w skb).elim 0 fun intf =>
    if isIpLocal w intf.node skb.ipPacket.dstIp then ethHdrSize + ipHdrSize + inputNeeds w skb
    else ethHdrSize + forwardNeeds w intf.node skb.ipPacket

/-- A segment does not claim to come from a port the node itself has a socket at. -/
def NotItself (w : World) (n : NodeId) (skb : SkBuff) : Prop :=
  skb.ipPacket.proto = ipProtoTcp → isIpLocal w n skb.ipPacket.srcIp = true →
    ∀ j, tcpSocksManagerFind w j skb.segment.tcpSrc = none

theorem forwardNeeds_bounds (w : World) (n : NodeId) (skb : SkBuff) :
    ipHdrSize ≤ forwardNeeds w n skb ∧ forwardNeeds w n skb ≤ 60 := by
  have hhlen : ipHlen skb.mem skb.data < 16 := Nat.mod_lt _ (by decide)
  unfold forwardNeeds
  rw [ipHdrSize]
  split <;> omega

theorem inputNeeds_le (w : World) (skb : SkBuff) : inputNeeds w skb ≤ tcpHdrSize := by
  have hreads := (tcpReads_le w skb).2
  unfold inputNeeds
  rw [tcpHdrSize] at *
  rw [udpHdrSize]
  split
  · exact hreads
  · split
    · split <;> omega
    · omega

theorem frameNeeds_le (w : World) (skb : SkBuff) : frameNeeds w skb ≤ 74 := by
  unfold frameNeeds
  cases packetIntf w skb with
  | none => exact Nat.zero_le _
  | some intf =>
      have hin := inputNeeds_le w skb
      have hfwd := (forwardNeeds_bounds w intf.node skb.ipPacket).2
      rw [Option.elim_some, ethHdrSize, ipHdrSize]
      rw [tcpHdrSize] at hin
      split <;> omega

/-! ### Answers the node sends to itself -/

section Looped

variable {E : Fault → Prop} {w : World} {skb : SkBuff} {node : NodeId}

/-- **`ip_output`**, where the delivery of a packet for the node itself is known. -/
theorem ipOutput_faultsIn_of {ipInput : SkBuff → M Bool} {ip : UInt32} {proto : UInt8}
    (hskb : Packed skb) (hs : Sound E w)
    (hin : isIpLocal w node ip = true → ∀ j src,
      FaultsIn E (ipInput ((skb.withIpHdr ip proto).routed j src)) (w.output node ip proto skb)) :
    FaultsIn E (ipOutput ipInput node ip proto skb) w := by
  have hdata := hskb.data
  refine faultsIn_bind_of_ok (a := ⟨⟩) (log_ok.mpr rfl) ?_
  refine faultsIn_bind_of_ok (skbPush_ok.mpr ⟨?_, rfl, rfl⟩) ?_
  · rw [hdata]
    decide
  show FaultsIn E (ipPostroute ipInput node (skb.withIpHdr ip proto)) _
  refine ipPostroute_faultsIn (fun j src => (hskb.sendable ip proto j src).toLinkRoom)
    (hs.of_frame rfl rfl rfl) (Or.inr fun _ => ?_) fun h => ?_
  · rw [withIpHdr_data, ipHlen_withIpHdr, withIpHdr_tail, hdata]
    have := hskb.len
    rw [hdata] at this
    simp only [buffHeadroom, ipHdrSize, recvReservedHeadRoom] at this ⊢
    omega
  · rw [dstIp_withIpHdr] at h
    exact hin h

/-- What `ip_input` does with a packet the node made. -/
theorem ipInput_looped_run {depth : Nat} (hskb : Packed skb) (ip : UInt32) (proto : UInt8)
    (j : IntfId) (src : UInt32) (w : World) :
    let s := (skb.withIpHdr ip proto).routed j src
    ipInputDepth (depth + 1) s w =
      if proto = ipProtoIcmp then
        icmpInput (ipInputDepth depth) (s.pulled ipHdrSize) (w.loops s)
      else if proto = ipProtoTcp then
        tcpInput (ipInputDepth depth) (s.pulled ipHdrSize) (w.loops s)
      else if proto = ipProtoUdp then udpInput (s.pulled ipHdrSize) (w.loops s)
      else .ok false w := by
  intro s
  have hdata := hskb.data
  have hlen := hskb.len
  have hproto : s.proto = proto := (proto_routed ..).trans (proto_withIpHdr ..)
  have hsdata : s.data = 40 := by
    show (skb.withIpHdr ip proto).data = 40
    rw [withIpHdr_data, hdata]
    rfl
  have hslen : s.len = skb.len + ipHdrSize := rfl
  have hstail : s.tail = skb.tail := rfl
  rw [hdata, buffHeadroom] at hlen
  rw [ipHdrSize] at hslen
  have hread : Readable w s (s.data + 9) 1 := fun _ => by
    rw [hsdata, hstail, recvReservedHeadRoom]
    omega
  have hpull : skbPull s ipHdrSize w = .ok (s.pulled ipHdrSize) w := by
    refine skbPull_ok.mpr ⟨fun _ => ?_, ?_, rfl, rfl⟩
    · rw [hslen, ipHdrSize]
      omega
    · rw [hsdata, hstail, ipHdrSize]
      omega
  have hlog : log (.transport s.proto (s.pulled ipHdrSize)) w = .ok ⟨⟩ (w.loops s) := rfl
  rw [← hproto]
  unfold ipInputDepth
  rw [run_bind_ok (readU8_ok.mpr ⟨hread, rfl, rfl⟩)]
  change (if s.proto = ipProtoIcmp then _ else _ : M Bool) w = _
  by_cases hicmp : s.proto = ipProtoIcmp
  · rw [if_pos hicmp, if_pos hicmp, run_bind_ok hpull]
    exact run_bind_ok hlog
  rw [if_neg hicmp, if_neg hicmp]
  change (if s.proto = ipProtoTcp then _ else _ : M Bool) w = _
  by_cases htcp : s.proto = ipProtoTcp
  · rw [if_pos htcp, if_pos htcp, run_bind_ok hpull]
    exact run_bind_ok hlog
  rw [if_neg htcp, if_neg htcp]
  change (if s.proto = ipProtoUdp then _ else _ : M Bool) w = _
  by_cases hudp : s.proto = ipProtoUdp
  · rw [if_pos hudp, if_pos hudp, run_bind_ok hpull]
    exact run_bind_ok hlog
  · rw [if_neg hudp, if_neg hudp]
    rfl

/-- An echo reply of the node to itself is freed: a reply is not answered. -/
theorem ipInput_ownReply_faultsIn {depth : Nat} (id : SkbId) (code : UInt8) (payload : List UInt8)
    (ip : UInt32) (j : IntfId) (src : UInt32) (w : World) :
    FaultsIn E (ipInputDepth (depth + 1)
      (((icmpMessage id icmpEchoReplyType code payload).withIpHdr ip ipProtoIcmp).routed j src)) w := by
  let message := icmpMessage id icmpEchoReplyType code payload
  have hskb : Packed message := packed_icmpMessage _ _ _ _
  have hback : ipHdrSize ≤ message.data := by
    rw [hskb.data]
    decide
  obtain ⟨hlen, hdata, hmem⟩ := pulled_routed_withIpHdr hback ip ipProtoIcmp j src
  let s := ((message.withIpHdr ip ipProtoIcmp).routed j src).pulled ipHdrSize
  have hread : ∀ k, k < 2 → Readable (w.loops ((message.withIpHdr ip ipProtoIcmp).routed j src)) s
      (s.data + k) 1 := by
    intro k hk _
    have hfits := hskb.len
    have hsize : message.len = icmpHdrSize + payload.length := icmpMessage_len ..
    have htail : s.tail = message.tail := rfl
    rw [show s.data = message.data from hdata, htail, ← hfits, hskb.data, hsize, buffHeadroom,
      icmpHdrSize, recvReservedHeadRoom]
    omega
  have htype : s.mem s.data = icmpEchoReplyType := by
    rw [show s.data = message.data from hdata, hmem _ (Nat.le_refl _)]
    exact icmpType_icmpMessage ..
  unfold FaultsIn
  rw [ipInput_looped_run hskb, if_pos rfl]
  refine faultsIn_ite (fun _ => faultsIn_pure _ _) fun _ => ?_
  refine faultsIn_bind_of_ok (readU8_ok.mpr ⟨hread 0 (by omega), rfl, rfl⟩) ?_
  refine faultsIn_bind_of_ok (readU8_ok.mpr ⟨hread 1 (by omega), rfl, rfl⟩) ?_
  refine faultsIn_ite (fun hreq => ?_) fun _ => ?_
  · exact absurd (htype.symm.trans hreq.1) (by decide)
  · exact faultsIn_bind_of_ok (a := ⟨⟩) (freeSkb_ok.mpr rfl) (faultsIn_pure _ _)

theorem tcpDst_tcpSegment (id : SkbId) (parent : TcpSock) (conn : TcpConnectionSock)
    (buff : List UInt8) (flags : TcpFlags) :
    (tcpSegment id parent conn buff flags).tcpDst = conn.remotePort := by
  have hload : (tcpSegment id parent conn buff flags).mem.load16 62
      = (tcpHdrSkb id parent conn buff.length).mem.load16 62 := by
    have hbyte : ∀ q, 62 ≤ q → q < 64 → (tcpSegment id parent conn buff flags).mem q
        = (tcpHdrSkb id parent conn buff.length).mem q := by
      intro q hq hq'
      rw [tcpSegment_mem id parent conn buff flags (by omega), Memory.write_outside _ _ (by omega)]
      show (((((Memory.store32 _ 64 _).store32 68 _).store8 73 _).store16 74 _).store8 72 _) q = _
      rw [Memory.store8_outside _ _ (by omega), Memory.store16_outside _ _ (by omega),
        Memory.store8_outside _ _ (by omega), Memory.store32_outside _ _ (by omega),
        Memory.store32_outside _ _ (by omega)]
    exact Memory.load16_congr (hbyte 62 (by omega) (by omega)) (hbyte 63 (by omega) (by omega))
  show UInt16.ofNat (ntohs ((tcpSegment id parent conn buff flags).mem.load16 62).toNat) = _
  rw [hload, ntohs_load16]
  show UInt16.ofNat (OnesComplement.word
    (Memory.store16 _ 62 (UInt16.ofNat (htons conn.remotePort.toNat))) 62) = _
  rw [word_store16_htons _ _ (UInt16.toNat_lt _), UInt16.ofNat_toNat]

/-- A segment of the node to itself is refused where no socket waits for it. -/
theorem ipInput_ownSegment_faultsIn {depth : Nat} (id : SkbId) (parent : TcpSock)
    (conn : TcpConnectionSock) (buff : List UInt8) (flags : TcpFlags) (ip : UInt32) (j : IntfId)
    (src : UInt32) (hnone : tcpSocksManagerFind w j conn.remotePort = none) :
    FaultsIn E (ipInputDepth (depth + 1)
      (((tcpSegment id parent conn buff flags).withIpHdr ip ipProtoTcp).routed j src)) w := by
  let segment := tcpSegment id parent conn buff flags
  have hskb : Packed segment := packed_tcpSegment _ _ _ _ _
  have hback : ipHdrSize ≤ segment.data := by
    rw [hskb.data]
    decide
  obtain ⟨hlen, hdata, hmem⟩ := pulled_routed_withIpHdr hback ip ipProtoTcp j src
  let s := ((segment.withIpHdr ip ipProtoTcp).routed j src).pulled ipHdrSize
  have hport : s.mem.load16 (s.data + 2) = segment.mem.load16 (segment.data + 2) := by
    rw [show s.data = segment.data from hdata]
    exact Memory.load16_congr (hmem _ (by omega)) (hmem _ (by omega))
  have hread : Readable (w.loops ((segment.withIpHdr ip ipProtoTcp).routed j src)) s (s.data + 2) 2 := by
    intro _
    have hfits := hskb.len
    have hsize : segment.len = tcpHdrSize + buff.length := tcpSegment_len ..
    have htail : s.tail = segment.tail := rfl
    rw [show s.data = segment.data from hdata, htail, ← hfits, hskb.data, hsize, buffHeadroom,
      tcpHdrSize, recvReservedHeadRoom]
    omega
  have hfind : tcpSocksManagerFind (w.loops ((segment.withIpHdr ip ipProtoTcp).routed j src)) j
      (UInt16.ofNat (ntohs (s.mem.load16 (s.data + 2)).toNat)) = none := by
    rw [hport]
    exact (congrArg (tcpSocksManagerFind w j) (tcpDst_tcpSegment ..)).trans hnone
  unfold FaultsIn
  rw [ipInput_looped_run hskb, if_neg (by decide), if_pos rfl]
  refine faultsIn_bind_of_ok (readU16_ok.mpr ⟨hread, rfl, rfl⟩) ?_
  refine faultsIn_bind_of_ok (run_get _) ?_
  rw [hfind]
  exact faultsIn_pure _ _

end Looped

/-! ### Answers to another end -/

theorem SameNetwork.tcpSocksManagerFind {w t : World} (h : SameNetwork w t) (j : IntfId)
    (port : UInt16) :
    SimpleTcpip.tcpSocksManagerFind t j port = SimpleTcpip.tcpSocksManagerFind w j port := by
  have hport : ∀ k, (t.tcpSock k).any (fun sock => sock.localPort == port)
      = (w.tcpSock k).any (fun sock => sock.localPort == port) := by
    intro k
    have hcore := congrArg (Option.any fun sock : TcpSock => sock.localPort == port) (h.core k)
    rwa [Option.any_map, Option.any_map] at hcore
  unfold SimpleTcpip.tcpSocksManagerFind
  simp only [h.tcpSocks, hport]

/-- **The answer to an end that is no socket of the node's own runs to its end.** -/
theorem replies_elsewhere {w : World} (hg : GraphOk w) {k : SockId} {sock : TcpSock} {i : IntfId}
    {intf : Intf} (hk : w.tcpSock k = some sock) (hbound : sock.intf = some i)
    (hintf : w.intf i = some intf) {ip : UInt32} {port : UInt16}
    (hself : isIpLocal w intf.node ip = true → ∀ j, tcpSocksManagerFind w j port = none)
    (depth : Nat) : Replies (fun _ => False) (depth + 1) w k ip port := by
  intro t c conn flags hsame hc hparent hip hport
  have hcore := hsame.core k
  rw [hk, Option.map_some] at hcore
  obtain ⟨parent, hparent', hsock⟩ := Option.map_eq_some_iff.mp hcore
  have hi : parent.intf = some i := (congrArg TcpSock.intf hsock).trans hbound
  have hlive : t.intf i = some intf := by rw [hsame.intf, hintf]
  have hgt : GraphOk t := hg.of_frame hsame.intf hsame.link hsame.rtTable
  unfold FaultsIn
  rw [tcpOut_run hc (by rw [hparent, hparent'])]
  by_cases hwin : exceedsWindow conn ([] : List UInt8).length = true
  · rw [if_pos hwin]
    exact fun e t h => by cases h
  rw [if_neg hwin]
  have hderef : derefIntfPtr parent.intf (t.segmented c conn ([] : List UInt8).length flags)
      = .ok intf (t.segmented c conn ([] : List UInt8).length flags) :=
    derefIntfPtr_ok.mpr ⟨⟨i, hi, hlive⟩, rfl⟩
  refine faultsIn_bind_of_ok hderef ?_
  refine ipOutput_faultsIn_of (packed_tcpSegment _ _ _ _ _) (Or.inr (hgt.of_frame rfl rfl rfl))
    fun hlocal j src => ipInput_ownSegment_faultsIn _ _ _ _ _ _ _ _ ?_
  have hlocal : isIpLocal t intf.node conn.remoteIp = true := hlocal
  rw [hsame.isIpLocal, hip] at hlocal
  rw [hport]
  exact (hsame.tcpSocksManagerFind j port).trans (hself hlocal j)

/-! ### The protocols -/

section Protocols

variable {w : World} {skb : SkBuff} {depth : Nat} {i : IntfId} {intf : Intf}

/-- **`icmp_input` completes on every message.** -/
theorem icmpInput_completes (hg : GraphOk w) (hskb : Filled skb)
    (hlen : ethHdrSize + ipHdrSize ≤ skb.len) (hi : skb.intf = some i)
    (hintf : w.intf i = some intf) :
    Completes (icmpInput (ipInputDepth (depth + 1)) skb.segment) w := by
  have hseg := hskb.segment hlen
  have hdata := hskb.data
  have htail := hskb.tail
  refine completes_of_faultsIn (faultsIn_ite (fun _ => faultsIn_pure _ _) fun hshort => ?_)
  have hwhole : icmpHdrSize ≤ skb.segment.len := Nat.le_of_not_lt hshort
  rw [icmpHdrSize] at hwhole
  refine faultsIn_bind_of_ok (readU8_ok.mpr ⟨hseg.readable_start fun _ => by omega, rfl, rfl⟩) ?_
  refine faultsIn_bind_of_ok (readU8_ok.mpr ⟨hseg.readable fun _ => by omega, rfl, rfl⟩) ?_
  refine faultsIn_ite (fun _ => ?_) fun _ =>
    faultsIn_bind_of_ok (a := ⟨⟩) (freeSkb_ok.mpr rfl) (faultsIn_pure _ _)
  refine faultsIn_bind_of_ok (derefIntfPtr_ok.mpr ⟨⟨i, hi, hintf⟩, rfl⟩) ?_
  refine faultsIn_bind_of_ok (followIpHdr_ok.mpr ⟨rfl, rfl⟩) ?_
  refine faultsIn_bind_of_ok (readU32_ok.mpr ⟨fun _ => ?_, rfl, rfl⟩) ?_
  · show recvReservedHeadRoom ≤ skb.data + 14 + 12 ∧ skb.data + 14 + 12 + 4 ≤ skb.tail
    rw [ethHdrSize, ipHdrSize] at hlen
    omega
  refine faultsIn_bind ?_ fun _ t _ =>
    faultsIn_bind_of_ok (a := ⟨⟩) (freeSkb_ok.mpr rfl) (faultsIn_pure _ _)
  unfold FaultsIn
  rw [icmpOut_run]
  refine faultsIn_bind (ipOutput_faultsIn_of (packed_icmpMessage _ _ _ _)
    (Or.inr (hg.of_frame rfl rfl rfl)) fun _ j src => ?_) fun _ t _ => ?_
  · exact ipInput_ownReply_faultsIn _ _ _ _ _ _ _
  · refine faultsIn_ite (fun _ => faultsIn_pure _ _) fun _ => ?_
    exact faultsIn_bind_of_ok (a := ⟨⟩) (freeSkb_ok.mpr rfl) (faultsIn_pure _ _)

/-- A segment that is queued is looked at as far as its header goes. -/
theorem tcpReads_deliver {c : ConnId} {conn : TcpConnectionSock}
    (h : segmentAct w skb = .deliver c conn) : tcpReads w skb = tcpHdrSize := by
  unfold segmentAct at h
  unfold tcpReads
  cases hsock : rxSock w skb with
  | none =>
      rw [hsock] at h
      cases h
  | some k =>
      rw [hsock, Option.elim_some] at h
      rw [Option.bind_some]
      cases hk : w.tcpSock k with
      | none =>
          rw [hk] at h
          cases h
      | some sock =>
          rw [hk, Option.elim_some] at h
          rw [Option.elim_some]
          unfold sockAct at h
          unfold sockReads
          cases hfound : findMatchingConnection w sock skb.ipPacket.srcIp skb.segment.tcpSrc with
          | none =>
              rw [hfound] at h
              dsimp only at h
              split at h <;> cases h
          | some c' =>
              rw [hfound] at h
              dsimp only at h ⊢
              cases hc : w.tcpConn c' with
              | none =>
                  rw [hc] at h
                  cases h
              | some conn' =>
                  rw [hc, Option.elim_some] at h
                  rw [Option.elim_some]
                  unfold stateAct at h
                  unfold stateReads
                  cases hstate : conn'.state with
                  | handleSynSent =>
                      rw [hstate] at h
                      dsimp only at h
                      split at h <;> cases h
                  | handleEstab =>
                      rw [hstate] at h
                      dsimp only at h ⊢
                      split at h
                      · rename_i hseq
                        rw [if_pos hseq]
                        split at h
                        · cases h
                        split at h
                        · cases h
                        rename_i hrst hfin
                        rw [if_neg (not_or.mpr ⟨hrst, hfin⟩)]
                      · cases h

/-- **`tcp_input` completes exactly on the segments that hold what it looks at.** -/
theorem tcpInput_completes_iff (hconns : ConnTables w) (hg : GraphOk w)
    (hchecked : w.checked = true) (hskb : Filled skb) (hlen : ethHdrSize + ipHdrSize ≤ skb.len)
    (hi : skb.intf = some i) (hintf : w.intf i = some intf)
    (hbound : ∀ k sock, rxSock w skb = some k → w.tcpSock k = some sock → sock.intf = some i)
    (hself : isIpLocal w intf.node skb.ipPacket.srcIp = true →
      ∀ j, tcpSocksManagerFind w j skb.segment.tcpSrc = none) :
    Completes (tcpInput (ipInputDepth (depth + 1)) skb.segment) w ↔
      tcpReads w skb ≤ skb.segment.len := by
  constructor
  · rintro ⟨r, w', hrun⟩
    exact (tcpInput_held hskb hlen hrun).reads hchecked
  · intro hreads
    have hheld : TcpHeld w skb :=
      ⟨fun _ => hreads, fun c conn hact => (tcpReads_deliver hact).symm.trans_le hreads⟩
    refine completes_of_faultsIn (tcpInput_faultsIn hconns hskb hlen (by rw [hi]; rfl) hheld
      fun _ k hk => ?_)
    obtain ⟨sock, hsock⟩ := rxSock_live hk
    exact replies_elsewhere hg hsock (hbound k sock hk hsock) hintf hself depth

/-- **`udp_input` completes exactly on the datagrams with a whole header**, and for a port nobody
is at, with half of one. -/
theorem udpInput_completes_iff (hchecked : w.checked = true) (hseg : Filled skb.segment)
    (hi : skb.intf = some i) : Completes (udpInput skb.segment) w ↔
      (if (udpReceiver w skb.segment).isSome then udpHdrSize else 4) ≤ skb.segment.len := by
  have hsome : skb.segment.intf.isSome := by
    rw [show skb.segment.intf = some i from hi]
    rfl
  have hhalf : Completes (udpInput skb.segment) w → 4 ≤ skb.segment.len := fun ⟨r, w', hrun⟩ =>
    udpInput_reads hseg hrun hchecked
  unfold Completes at hhalf ⊢
  cases hk : udpReceiver w skb.segment with
  | none =>
      refine ⟨hhalf, fun hlen => ⟨false, w, ?_⟩⟩
      rw [udpInput_run hseg hsome (fun _ => hlen), hk]
  | some k =>
      have hfind : udpSocksManagerFind w i skb.segment.udpDst = some k := by
        rw [udpReceiver, show skb.segment.intf = some i from hi, Option.bind_some] at hk
        exact hk
      have hlive := List.find?_some hfind
      obtain ⟨sock, hsock, -⟩ := (Option.any_eq_true _ _).mp hlive
      constructor
      · rintro ⟨r, w', hrun⟩
        have hlen := hhalf ⟨r, w', hrun⟩
        rw [udpInput_run hseg hsome (fun _ => hlen), hk] at hrun
        obtain ⟨_, _, hpull, -⟩ := bind_ok_iff.mp hrun
        exact (skbPull_ok.mp hpull).1 hchecked
      · intro hlen
        have hlen : udpHdrSize ≤ skb.segment.len := hlen
        have htail := hseg.tail
        refine ⟨true, w.queued k sock skb.segment, ?_⟩
        have hpull : skbPull { skb.segment with udpHdr := some skb.segment.data } udpHdrSize w
            = .ok ({ skb.segment with udpHdr := some skb.segment.data }.pulled udpHdrSize) w :=
          skbPull_ok.mpr ⟨fun _ => hlen, by rw [htail]; exact Nat.add_le_add_left hlen _, rfl, rfl⟩
        rw [udpInput_run hseg hsome (fun _ => Nat.le_trans (by decide) hlen), hk]
        refine (run_bind_ok hpull).trans ((run_bind_ok (derefUdpSock_ok.mpr ⟨hsock, rfl⟩)).trans ?_)
        exact run_bind_ok (a := ⟨⟩) (setUdpSock_ok.mpr rfl)

/-- **`ip_input` of a packet for the node.** -/
theorem ipInput_completes_iff (hconns : ConnTables w) (hg : GraphOk w)
    (hchecked : w.checked = true) (hskb : Filled skb) (hlen : ethHdrSize + ipHdrSize ≤ skb.len)
    (hi : skb.intf = some i) (hintf : w.intf i = some intf)
    (hbound : ∀ k sock, rxSock w skb = some k → w.tcpSock k = some sock → sock.intf = some i)
    (hself : NotItself w intf.node skb) :
    Completes (ipInputDepth (depth + 2) skb.ipPacket) w ↔ inputNeeds w skb ≤ skb.segment.len := by
  have hconns' : ConnTables (w.transports skb) :=
    ⟨hconns.connLt, hconns.parent, hconns.nodup, hconns.closed, hconns.accepted⟩
  have hg' : GraphOk (w.transports skb) := hg.of_frame rfl rfl rfl
  unfold Completes inputNeeds
  rw [ipInput_run hskb hlen]
  by_cases hicmp : skb.ipPacket.proto = ipProtoIcmp
  · rw [if_pos hicmp, if_neg (by rw [hicmp]; decide), if_neg (by rw [hicmp]; decide)]
    exact iff_of_true (icmpInput_completes hg' hskb hlen hi hintf) (Nat.zero_le _)
  rw [if_neg hicmp]
  by_cases htcp : skb.ipPacket.proto = ipProtoTcp
  · rw [if_pos htcp, if_pos htcp]
    exact tcpInput_completes_iff hconns' hg' hchecked hskb hlen hi hintf hbound (hself htcp)
  rw [if_neg htcp, if_neg htcp]
  by_cases hudp : skb.ipPacket.proto = ipProtoUdp
  · rw [if_pos hudp, if_pos hudp]
    exact udpInput_completes_iff (w := w.transports skb) hchecked (hskb.segment hlen) hi
  · rw [if_neg hudp, if_neg hudp]
    exact iff_of_true ⟨_, _, rfl⟩ (Nat.zero_le _)

end Protocols

/-! ### Passing on -/

/-- A completed `ip_postroute` with a route has read the header as far as its length says. -/
theorem ipPostroute_held {w w' : World} {ipInput : SkBuff → M Bool} {n : NodeId} {skb : SkBuff}
    {rt : RtEntry} {r : Bool} (hintf : skb.intf = none)
    (hrt : rtLookupLpm (w.rtTable n) skb.dstIp = some rt)
    (hrun : ipPostroute ipInput n skb w = .ok r w') :
    Readable w skb skb.data (ipHlen skb.mem skb.data * 4) := by
  obtain ⟨dst, hdst, hrest⟩ := bind_ok_of_eq (readU32_reads _ _) hrun
  obtain ⟨-, rfl, -⟩ := readU32_ok.mp hdst
  obtain ⟨t, ht, hroute⟩ := bind_ok_of_eq get_reads hrest
  cases ht
  rw [show skb.mem.load32 (skb.data + 16) = skb.dstIp from rfl, hrt] at hroute
  dsimp only at hroute
  rw [if_neg (by rw [hintf]; exact fun h => by cases h.1)] at hroute
  obtain ⟨out, -, hfill⟩ := bind_ok_of_eq (derefIntf_reads _) hroute
  obtain ⟨s, hs, -⟩ := bind_ok_of_eq (fillIpHcksum_reads _ _) hfill
  obtain ⟨-, hread, -⟩ := fillIpHcksum_ok.mp hs
  -- the source address is behind the byte with the length
  have hhlen : ipHlen (skb.mem.store32 (skb.data + 12) out.ipAddr) skb.data
      = ipHlen skb.mem skb.data := by
    unfold ipHlen
    rw [Memory.store32_outside _ _ (by omega)]
  intro hchecked
  have hbounds := hread hchecked
  rw [← hhlen]
  exact hbounds

/-- **`ip_forward` completes exactly where the header it makes the checksum over was received.** -/
theorem ipForward_completes_iff {w : World} {skb : SkBuff} {i : IntfId} {intf : Intf}
    (hg : GraphOk w) (hskb : Filled skb) (hlen : ipHdrSize ≤ skb.len)
    (hi : skb.intf = some i) (hintf : w.intf i = some intf)
    (hroom : ∀ j src, LinkRoom (skb.forwarded.routed j src))
    (hforeign : isIpLocal w intf.node skb.dstIp = false) :
    Completes (ipForward skb) w ↔ (w.checked = true → forwardNeeds w intf.node skb ≤ skb.len) := by
  have htail := hskb.tail
  have hdata := hskb.data
  have hhops : Readable w skb (skb.data + 8) 1 := hskb.readable fun _ => by
    rw [ipHdrSize] at hlen
    omega
  have hhlen : ipHlen skb.forwarded.mem skb.forwarded.data = ipHlen skb.mem skb.data := by
    unfold ipHlen
    show (Memory.store8 _ (skb.data + 8) _ skb.data).toNat % 16 = _
    rw [Memory.store8_outside _ _ (by omega)]
  unfold Completes forwardNeeds
  rw [ipForward_run hi hintf hhops]
  by_cases hpass : w.ipForwardEnable = true ∧ 1 < skb.ttl
  swap
  · rw [if_neg hpass, if_neg (fun h => hpass ⟨h.1, h.2.1⟩)]
    exact iff_of_true ⟨_, _, rfl⟩ fun _ => hlen
  rw [if_pos hpass]
  have hroute : rtLookupLpm (w.rtTable intf.node) skb.forwarded.dstIp
      = rtLookupLpm (w.rtTable intf.node) skb.dstIp := by rw [dstIp_forwarded]
  have hpost : (w.checked = true → ipHlen skb.mem skb.data * 4 ≤ skb.len) →
      Completes (ipPostroute ipInput intf.node skb.forwarded) w := by
    intro hheld
    refine completes_of_faultsIn (ipPostroute_faultsIn hroom (Or.inr hg)
      (Or.inr fun hchecked => ?_) fun hlocal => ?_)
    · have hheld := hheld hchecked
      rw [hhlen]
      show recvReservedHeadRoom ≤ skb.data ∧ skb.data + max ipHdrSize _ ≤ skb.tail
      omega
    · rw [dstIp_forwarded, hforeign] at hlocal
      cases hlocal
  cases hrt : rtLookupLpm (w.rtTable intf.node) skb.dstIp with
  | none =>
      rw [if_neg (fun h => by cases h.2.2)]
      refine iff_of_true ?_ fun _ => hlen
      have hdst : Readable w skb.forwarded (skb.forwarded.data + 16) 4 := by
        intro _
        show recvReservedHeadRoom ≤ skb.data + 16 ∧ skb.data + 16 + 4 ≤ skb.tail
        rw [ipHdrSize] at hlen
        omega
      refine ⟨false, w, ?_⟩
      unfold ipPostroute
      rw [run_bind_ok (readU32_ok.mpr ⟨hdst, rfl, rfl⟩), run_bind_ok (run_get w),
        show skb.forwarded.mem.load32 (skb.forwarded.data + 16) = skb.forwarded.dstIp from rfl,
        hroute, hrt]
      rfl
  | some rt =>
      rw [if_pos ⟨hpass.1, hpass.2, rfl⟩]
      constructor
      · rintro ⟨r, w', hrun⟩ hchecked
        have hheld := ipPostroute_held rfl (hroute.trans hrt) hrun hchecked
        rw [hhlen] at hheld
        have hend : skb.data + ipHlen skb.mem skb.data * 4 ≤ skb.tail := hheld.2
        omega
      · intro hheld
        exact hpost fun hchecked => (Nat.le_max_right _ _).trans (hheld hchecked)

/-! ### A frame -/

/-- Every ARP packet is handled: `arp_input` asks for a whole header first. -/
theorem arpInput_completes {w : World} {skb : SkBuff} {i : IntfId} {intf : Intf} (hg : GraphOk w)
    (hready : PendingReady w) (hskb : Filled skb) (hi : skb.intf = some i)
    (hintf : w.intf i = some intf) : Completes (arpInput skb) w := by
  by_cases hshort : skb.len < arpHdrSize
  · refine ⟨false, w, ?_⟩
    unfold arpInput
    rw [if_pos hshort]
    rfl
  have hlen : arpHdrSize ≤ skb.len := Nat.le_of_not_lt hshort
  have hat : ∀ opcode, skb.mem.load16 (skb.data + 6) = UInt16.ofNat (htons opcode) →
      (⟨opcode, skb.arpSenderHw, skb.arpSender, .zero, skb.mem.load32 (skb.data + 24)⟩ : ArpHdr).At
        skb := fun opcode hop => ⟨hlen, hop, rfl, rfl, rfl⟩
  by_cases hrequest : skb.mem.load16 (skb.data + 6) = UInt16.ofNat (htons arpOpRequest)
  · by_cases hip : intf.ipAddr = skb.mem.load32 (skb.data + 24)
    · obtain ⟨w', hrun, -⟩ := arpInput_asked hg hi hintf hskb (hat _ hrequest) rfl hip
      exact ⟨true, w', hrun⟩
    · exact ⟨false, w, arpInput_unasked hi hintf hskb (hat _ hrequest) rfl hip⟩
  by_cases hreply : skb.mem.load16 (skb.data + 6) = UInt16.ofNat (htons arpOpReply)
  · exact arpInput_reply_completes hg hi hintf hskb (hat _ hreply) rfl fun s hs => hready _ s hs
  refine ⟨false, w, ?_⟩
  have hread : readU16 skb (skb.data + 6) w = .ok (skb.mem.load16 (skb.data + 6)) w :=
    readU16_ok.mpr ⟨hskb.readable fun _ => by rw [arpHdrSize] at hlen; omega, rfl, rfl⟩
  have hdispatch : arpDispatch i skb (skb.mem.load16 (skb.data + 6)) w = .ok false w := by
    unfold arpDispatch
    rw [if_neg (fun h => hrequest ?_), if_neg (fun h => hreply ?_)]
    · rfl
    · rw [← h, UInt16.ofNat_toNat]
    · rw [← h, UInt16.ofNat_toNat]
  unfold arpInput
  rw [if_neg hshort, run_bind_ok hread, hi]
  exact run_bind_ok hdispatch

/-- A packet whose destination was not received stops the run. -/
theorem ipPreroute_held {w w' : World} {skb : SkBuff} {r : Bool} (hchecked : w.checked = true)
    (hskb : Filled skb) (hrun : ipPreroute skb w = .ok r w') : ipHdrSize ≤ skb.len := by
  obtain ⟨intf, -, hrest⟩ := bind_ok_of_eq (derefIntfPtr_reads _) hrun
  obtain ⟨dst, hdst, -⟩ := bind_ok_of_eq (readU32_reads _ _) hrest
  exact hskb.of_readable (readU32_ok.mp hdst).1 hchecked

/-- **`pkt_receive` of a frame.** -/
theorem pktReceive_completes_iff {w : World} {id : SkbId} {i : IntfId} {intf : Intf}
    {frame : List UInt8} (hconns : ConnTables w) (hg : GraphOk w) (hready : PendingReady w)
    (hchecked : w.checked = true) (hintf : w.intf i = some intf)
    (hbound : ∀ k sock, rxSock w (recvBuffer id i frame) = some k → w.tcpSock k = some sock →
      sock.intf = some i)
    (hself : NotItself w intf.node (recvBuffer id i frame)) :
    Completes (pktReceive (recvBuffer id i frame)) w ↔
      frameNeeds w (recvBuffer id i frame) ≤ (recvBuffer id i frame).len := by
  have hskb := filled_recvBuffer id i frame
  have hi : (recvBuffer id i frame).intf = some i := rfl
  have hroom : ethHdrSize ≤ (recvBuffer id i frame).len → ∀ j src,
      LinkRoom ((recvBuffer id i frame).ipPacket.forwarded.routed j src) := fun heth j src =>
    (budget_forwarded j src heth).toLinkRoom
  generalize recvBuffer id i frame = skb at *
  obtain hpacket | ⟨taker, hpacket⟩ := Option.eq_none_or_eq_some (packetIntf w skb)
  · -- no packet, and nothing the frame needs
    have hneeds : frameNeeds w skb = 0 := by
      rw [frameNeeds, hpacket]
      rfl
    rw [hneeds]
    refine iff_of_true ?_ (Nat.zero_le _)
    obtain harp | ⟨taker, harp⟩ := Option.eq_none_or_eq_some (frameIntf w skb ethProtoArp)
    · exact ⟨false, w, pktReceive_dropped hi hintf harp hpacket hskb⟩
    · obtain ⟨-, -, -, -, heth, -⟩ := frameIntf_eq_some.mp harp
      unfold Completes
      rw [pktReceive_arpInput harp hskb]
      exact arpInput_completes hg hready (hskb.pulled heth) hi hintf
  obtain ⟨j, hj, hintf', -, heth, -⟩ := frameIntf_eq_some.mp hpacket
  obtain ⟨rfl, rfl⟩ := intfPtr_unique hi hintf hj hintf'
  have hiplen := ipPacket_len heth
  have hneeds : frameNeeds w skb = if isIpLocal w intf.node skb.ipPacket.dstIp then
      ethHdrSize + ipHdrSize + inputNeeds w skb
      else ethHdrSize + forwardNeeds w intf.node skb.ipPacket := by
    rw [frameNeeds, hpacket, Option.elim_some]
  have hmin : ethHdrSize + ipHdrSize ≤ frameNeeds w skb := by
    have := (forwardNeeds_bounds w intf.node skb.ipPacket).1
    rw [hneeds]
    split <;> omega
  by_cases hlen : ethHdrSize + ipHdrSize ≤ skb.len
  swap
  · refine iff_of_false ?_ fun h => hlen (hmin.trans h)
    unfold Completes
    rw [pktReceive_preroute hpacket hskb]
    rintro ⟨r, w', hrun⟩
    have := ipPreroute_held hchecked (hskb.ipPacket heth) hrun
    omega
  unfold Completes
  rw [pktReceive_ip hpacket hskb hlen, hneeds]
  cases hlocal : isIpLocal w intf.node skb.ipPacket.dstIp with
  | true =>
      rw [if_pos rfl, if_pos rfl]
      refine (ipInput_completes_iff hconns hg hchecked hskb hlen hi hintf hbound hself).trans ?_
      rw [segment_len hlen]
      omega
  | false =>
      rw [if_neg Bool.false_ne_true, if_neg Bool.false_ne_true]
      refine (ipForward_completes_iff hg (hskb.ipPacket heth) (by omega) hi hintf
        (hroom heth) hlocal).trans ?_
      rw [imp_iff_right hchecked]
      omega

/--
**A frame is received without a fault exactly if it is long enough**, unless it brings a segment
that claims to come from a socket of the node itself: `frameNeeds` bytes, and never more than 74.
`pkt_receive` then fails no check of skbuff.h, follows no null or dangling pointer, and reads
nothing outside the frame, whatever the frame holds and whatever the node is doing.
-/
theorem frame_harmless_iff {w : World} (hw : Reachable w) (hchecked : w.checked = true)
    {i : IntfId} {intf : Intf} (hintf : w.intf i = some intf) (frame : List UInt8)
    (hself : NotItself w intf.node (recvBuffer w.nextId i frame)) :
    (Completes (recvFrame i frame) w ↔
      frameNeeds w (recvBuffer w.nextId i frame) ≤ (recvBuffer w.nextId i frame).len) ∧
      frameNeeds w (recvBuffer w.nextId i frame) ≤ 74 := by
  refine ⟨?_, frameNeeds_le _ _⟩
  have hconns : ConnTables (w.received i frame) := by
    have hconns := hw.connTables
    exact ⟨fun c hc => Nat.lt_succ_of_lt (hconns.connLt c hc), hconns.parent, hconns.nodup,
      hconns.closed, hconns.accepted⟩
  have hready : PendingReady (w.received i frame) := fun n s hs =>
    (hw.pendingReady n s hs).of_live fun _ h => h
  have hbound : ∀ k sock, rxSock (w.received i frame) (recvBuffer w.nextId i frame) = some k →
      (w.received i frame).tcpSock k = some sock → sock.intf = some i := by
    intro k sock hk hsock
    have hfind : tcpSocksManagerFind w i (recvBuffer w.nextId i frame).segment.tcpDst = some k := hk
    have hlisted := hw.sockTables.listed i k (List.mem_of_find?_eq_some hfind)
    have hsock : w.tcpSock k = some sock := hsock
    rw [hsock, Option.map_some] at hlisted
    exact (Prod.mk.inj (Option.some.inj hlisted)).2
  have hreceive := pktReceive_completes_iff (w := w.received i frame) hconns
    (hw.graphOk.of_frame rfl rfl rfl) hready hchecked hintf hbound hself
  refine Iff.trans ?_ hreceive
  constructor
  · rintro ⟨u, w', hrun⟩
    obtain ⟨ok, t, hreceived, -⟩ := bind_ok_iff.mp ((run_bind_ok (recvSkb_eq i frame w)).symm.trans hrun)
    exact ⟨ok, t, hreceived⟩
  · rintro ⟨ok, t, hreceived⟩
    have hfree : ∃ t', freeSkbIf (!ok) (recvBuffer w.nextId i frame) t = .ok ⟨⟩ t' := by
      cases ok
      · exact ⟨_, rfl⟩
      · exact ⟨_, rfl⟩
    obtain ⟨t', hfree⟩ := hfree
    exact ⟨⟨⟩, t', (run_bind_ok (recvSkb_eq i frame w)).trans ((run_bind_ok hreceived).trans hfree)⟩

/-- The first 33 bytes of a frame with a packet stop the process, the whole frame does not. -/
theorem frame_harmless_fixture :
    ¬ Completes (recvFrame 0 (Fixture.forwardedFrame.take 33)) (Fixture.after []) ∧
      Completes (recvFrame 0 Fixture.forwardedFrame) (Fixture.after []) := by
  have hw := Fixture.reachable_after []
  have hchecked : (Fixture.after []).checked = true := by decide +kernel
  have hlive : ((Fixture.after []).intf 0).isSome = true := by decide +kernel
  obtain ⟨intf, hintf⟩ := Option.isSome_iff_exists.mp hlive
  have hself : ∀ frame, (recvBuffer (Fixture.after []).nextId 0 frame).ipPacket.proto ≠ ipProtoTcp →
      NotItself (Fixture.after []) intf.node (recvBuffer (Fixture.after []).nextId 0 frame) :=
    fun frame hproto htcp => absurd htcp hproto
  refine ⟨fun h => ?_, ?_⟩
  · have hheld := (frame_harmless_iff hw hchecked hintf _ (hself _ (by decide +kernel))).1.mp h
    exact absurd hheld (by decide +kernel)
  · exact (frame_harmless_iff hw hchecked hintf _ (hself _ (by decide +kernel))).1.mpr
      (by decide +kernel)

end SimpleTcpip
