/-
Which TCP segments verify when they leave the node.

`tcp_out` sums a segment with the address its socket was bound to; `ip_postroute` later
writes the address of the interface the route names.  A segment is bound to the interface
of its socket and only leaves through that one, so the two addresses agree as long as no
interface is given another address while a socket is bound to it.
-/
import SimpleTcpip.Model.Fixture
import SimpleTcpip.Proofs.Addresses
import SimpleTcpip.Proofs.Checksum
import SimpleTcpip.Proofs.Connections
import SimpleTcpip.Proofs.Neighbour
import SimpleTcpip.Proofs.Stops
import SimpleTcpip.Proofs.Wire

namespace SimpleTcpip

open Fallible OnesComplement

/-! ### Filling in the checksum -/

section Fill

variable (m : Memory) (hdr size : Nat) (src dst : UInt32)

/-- What `calc_tcp_cksum` sums: the pseudo header and the segment behind it. -/
def pseudoSegment : Memory :=
  (writePseudoHdr m (hdr - pseudoIpHdrSize) size src dst).shift (hdr - pseudoIpHdrSize)

theorem toNat_calcTcpCksum (hsize : size ≤ 131062) :
    (calcTcpCksum m hdr size src dst).1.toNat
      = complement (wordSum (pseudoSegment m hdr size src dst) (size + pseudoIpHdrSize)) :=
  toNat_calcChecksum16 _ (by rw [pseudoIpHdrSize]; omega)

/-- Behind the pseudo header is the segment. -/
theorem pseudoSegment_segment (hhdr : pseudoIpHdrSize ≤ hdr) {k : Nat} (hk : pseudoIpHdrSize ≤ k) :
    pseudoSegment m hdr size src dst k = m (hdr + (k - pseudoIpHdrSize)) := by
  have hpos : hdr - pseudoIpHdrSize + k = hdr + (k - pseudoIpHdrSize) := by omega
  rw [pseudoIpHdrSize] at hk
  show writePseudoHdr m (hdr - pseudoIpHdrSize) size src dst (hdr - pseudoIpHdrSize + k) = _
  unfold writePseudoHdr
  rw [Memory.store16_outside _ _ (by omega), Memory.store8_outside _ _ (by omega),
    Memory.store8_outside _ _ (by omega), Memory.store32_outside _ _ (by omega),
    Memory.store32_outside _ _ (by omega), hpos]

/-- The pseudo header does not depend on what it covers. -/
theorem pseudoSegment_hdr (m' : Memory) {k : Nat} (hk : k < pseudoIpHdrSize) :
    pseudoSegment m hdr size src dst k = pseudoSegment m' hdr size src dst k := by
  have hwrite : ∀ (a b : Memory) (p q : Nat) (bs : List UInt8), (a q = b q ∨ p ≤ q ∧ q < p + bs.length) →
      a.write p bs q = b.write p bs q := by
    intro a b p q bs h
    rw [Memory.write_apply, Memory.write_apply]
    split
    · rfl
    · rename_i hout
      exact h.resolve_right hout
  rw [pseudoIpHdrSize] at hk
  unfold pseudoSegment writePseudoHdr Memory.shift
  generalize hdr - pseudoIpHdrSize = p
  by_cases h10 : 10 ≤ k
  · exact hwrite _ _ _ _ _ (Or.inr ⟨by omega, by rw [Memory.length_bytes16]; omega⟩)
  refine hwrite _ _ _ _ _ (Or.inl ?_)
  by_cases h9 : k = 9
  · exact hwrite _ _ _ _ _ (Or.inr ⟨by omega, by rw [List.length_singleton]; omega⟩)
  refine hwrite _ _ _ _ _ (Or.inl ?_)
  by_cases h8 : k = 8
  · exact hwrite _ _ _ _ _ (Or.inr ⟨by omega, by rw [List.length_singleton]; omega⟩)
  refine hwrite _ _ _ _ _ (Or.inl ?_)
  by_cases h4 : 4 ≤ k
  · exact hwrite _ _ _ _ _ (Or.inr ⟨by omega, by rw [Memory.length_bytes32]; omega⟩)
  exact hwrite _ _ _ _ _ (Or.inl (hwrite _ _ _ _ _
    (Or.inr ⟨by omega, by rw [Memory.length_bytes32]; omega⟩)))

/-- **A segment whose checksum was filled in verifies**, also when its length is odd. -/
theorem calcTcpCksum_filled {m' : Memory} (hhdr : pseudoIpHdrSize ≤ hdr) (hlen : tcpHdrSize ≤ size)
    (hsize : size ≤ 131062) (hzero : word m (hdr + 16) = 0)
    (hfilled : ∀ q, hdr ≤ q → q < hdr + size → m' q = (m.store16 (hdr + 16)
      (UInt16.ofNat (htons (calcTcpCksum m hdr size src dst).1.toNat))) q) :
    (calcTcpCksum m' hdr size src dst).1 = 0 := by
  rw [tcpHdrSize] at hlen
  have hfield : ∀ (a : Memory), word (pseudoSegment a hdr size src dst) (2 * 14) = word a (hdr + 16) :=
    fun a => word_congr (pseudoSegment_segment a hdr size src dst hhdr (by rw [pseudoIpHdrSize]; omega))
      (pseudoSegment_segment a hdr size src dst hhdr (by rw [pseudoIpHdrSize]; omega))
  apply UInt16.toNat.inj
  rw [toNat_calcTcpCksum _ _ _ _ _ hsize]
  refine complement_wordSum_filled (m := pseudoSegment m hdr size src dst) (j := 14)
    (by rw [pseudoIpHdrSize]; omega) (by rw [pseudoIpHdrSize]; omega) ?_ ?_ fun k hk h0 h1 => ?_
  · rw [hfield, hzero]
  · rw [hfield, ← toNat_calcTcpCksum _ _ _ _ _ hsize]
    rw [word_congr (hfilled _ (by omega) (by omega)) (hfilled _ (by omega) (by omega))]
    exact word_store16_htons m (hdr + 16) (UInt16.toNat_lt _)
  · by_cases hpseudo : k < pseudoIpHdrSize
    · exact pseudoSegment_hdr m' hdr size src dst m hpseudo
    · have hk' : pseudoIpHdrSize ≤ k := Nat.le_of_not_lt hpseudo
      rw [pseudoSegment_segment m' hdr size src dst hhdr hk',
        pseudoSegment_segment m hdr size src dst hhdr hk']
      rw [pseudoIpHdrSize] at hk hk' ⊢
      rw [hfilled _ (by omega) (by omega), Memory.store16_outside _ _ (by omega)]

/-- **Computing the checksum changes its field only.** -/
theorem fillTcpCksum_mem (skb : SkBuff) {q : Nat} (hq : q < hdr + 16 ∨ hdr + 18 ≤ q) :
    (fillTcpCksum skb hdr size src dst).mem q = skb.mem q := by
  show ((calcTcpCksum skb.mem hdr size src dst).2.store16 (hdr + 16) _) q = _
  rw [Memory.store16_outside _ _ (by omega), calcTcpCksum_mem]

end Fill

/-! ### The segment of a packet -/

/-- The TCP segment in a packet verifies against the addresses in its IP header. -/
def SkBuff.TcpVerifies (s : SkBuff) : Prop :=
  (calcTcpCksum s.mem (s.data + ipHdrSize) (s.len - ipHdrSize) s.srcIp s.dstIp).1 = 0

theorem srcIp_routed (skb : SkBuff) (i : IntfId) (src : UInt32) : (skb.routed i src).srcIp = src := by
  show Memory.load32 (((skb.mem.store32 (skb.data + 12) src).store16 (skb.data + 10) _))
    (skb.data + 12) = src
  rw [Memory.store16, Memory.load32_write _ _ (Or.inr (by simp)), Memory.load32_store32]

/-- The buffer of a segment before its checksum is filled in. -/
def unsummedSegment (parent : TcpSock) (conn : TcpConnectionSock) (buff : List UInt8)
    (flags : TcpFlags) : Memory :=
  (fillTcpHdr (tcpHdrSkb 0 parent conn buff.length) buffHeadroom conn flags).mem.write
    (buffHeadroom + tcpHdrSize) buff

theorem tcpSegment_mem_eq (id : SkbId) (parent : TcpSock) (conn : TcpConnectionSock)
    (buff : List UInt8) (flags : TcpFlags) :
    (tcpSegment id parent conn buff flags).mem = (unsummedSegment parent conn buff flags).store16
      (buffHeadroom + 16) (UInt16.ofNat (htons (calcTcpCksum (unsummedSegment parent conn buff flags)
        buffHeadroom (tcpHdrSize + buff.length) parent.localIp conn.remoteIp).1.toNat)) := by
  have hsize : 0 + tcpHdrSize + buff.length = tcpHdrSize + buff.length := by
    rw [Nat.zero_add]
  show ((calcTcpCksum (unsummedSegment parent conn buff flags) buffHeadroom
    (0 + tcpHdrSize + buff.length) parent.localIp conn.remoteIp).2.store16 (buffHeadroom + 16) _) = _
  rw [calcTcpCksum_mem, ← hsize]
  rfl

/-- The checksum field of a new buffer is zero. -/
theorem word_unsummedSegment (parent : TcpSock) (conn : TcpConnectionSock) (buff : List UInt8)
    (flags : TcpFlags) : word (unsummedSegment parent conn buff flags) (buffHeadroom + 16) = 0 := by
  have hzero : ∀ q, q = 76 ∨ q = 77 → unsummedSegment parent conn buff flags q = 0 := by
    intro q hq
    show (Memory.write (((((((Memory.store16 (fun _ => 0) 60 _).store16 62 _).store32 64 _).store32
      68 _).store8 73 _).store16 74 _).store8 72 _) 80 buff) q = 0
    rw [Memory.write_outside _ _ (by omega), Memory.store8_outside _ _ (by omega),
      Memory.store16_outside _ _ (by omega), Memory.store8_outside _ _ (by omega),
      Memory.store32_outside _ _ (by omega), Memory.store32_outside _ _ (by omega),
      Memory.store16_outside _ _ (by omega), Memory.store16_outside _ _ (by omega)]
  show 256 * (unsummedSegment parent conn buff flags 76).toNat
    + (unsummedSegment parent conn buff flags 77).toNat = 0
  rw [hzero 76 (Or.inl rfl), hzero 77 (Or.inr rfl)]
  rfl

/-- **A segment that leaves with the address it was summed with verifies.** -/
theorem tcpVerifies_tcpSegment (id : SkbId) (parent : TcpSock) (conn : TcpConnectionSock)
    {buff : List UInt8} (flags : TcpFlags) (i : IntfId) (hlen : buff.length ≤ maxTcpPayload) :
    (((tcpSegment id parent conn buff flags).withIpHdr conn.remoteIp ipProtoTcp).routed i
      parent.localIp).TcpVerifies := by
  have hsize : tcpHdrSize + buff.length + ipHdrSize - ipHdrSize = tcpHdrSize + buff.length :=
    Nat.add_sub_cancel ..
  rw [SkBuff.TcpVerifies, srcIp_routed, dstIp_routed, dstIp_withIpHdr, routed_data, withIpHdr_data,
    routed_len, withIpHdr_len, tcpSegment_data, tcpSegment_len, hsize,
    Nat.sub_add_cancel (show ipHdrSize ≤ buffHeadroom by decide)]
  rw [maxTcpPayload] at hlen
  refine calcTcpCksum_filled (unsummedSegment parent conn buff flags) _ _ _ _ (by decide)
    (Nat.le_add_right _ _) (by rw [tcpHdrSize]; omega)
    (word_unsummedSegment parent conn buff flags) fun q hlo _ => ?_
  rw [← tcpSegment_mem_eq id, routed_mem_outside _ _ _ (Or.inr ?_),
    withIpHdr_mem_behind (s := tcpSegment id parent conn buff flags)
      (show ipHdrSize ≤ buffHeadroom by decide) hlo]
  rw [withIpHdr_data, tcpSegment_data, buffHeadroom, ipHdrSize]
  rw [buffHeadroom] at hlo
  omega

/-! ### The addresses of bound interfaces -/

/-- The call gives no interface another address while a TCP socket is bound to it. -/
def Op.KeepsAddresses (w : World) : Op → Prop
  | .nodeSetIntfIpAddr n ifName ipAddr _ => ∀ i, getNodeIfByName w n ifName = some i →
      ∀ k sock intf, w.tcpSock k = some sock → sock.intf = some i → w.intf i = some intf →
        intf.ipAddr = convertIpFromStrToInt ipAddr
  | _ => True

/-- A socket holds the address of the interface it is bound to. -/
def BoundAddresses (w : World) : Prop :=
  ∀ k sock i intf, w.tcpSock k = some sock → sock.intf = some i → w.intf i = some intf →
    intf.ipAddr = sock.localIp

theorem BoundAddresses.of_sources {w w' : World} (h : BoundAddresses w) (hintf : w'.intf = w.intf)
    (hsources : ∀ k, (w'.tcpSock k).map TcpSock.source = (w.tcpSock k).map TcpSock.source) :
    BoundAddresses w' := by
  intro k sock i intf hk hi hintf'
  have hmap := hsources k
  rw [hk, Option.map_some] at hmap
  obtain ⟨sock₀, hk₀, hsource⟩ := Option.map_eq_some_iff.mp hmap.symm
  rw [hintf] at hintf'
  have hsame := Prod.mk.inj hsource
  rw [← hsame.1]
  exact h k sock₀ i intf hk₀ ((Prod.mk.inj hsame.2).2.trans hi) hintf'

theorem SocketStep.boundAddresses {closes : Int → Prop} {w w' : World}
    (hs : SocketStep closes w w') (h : BoundAddresses w) : BoundAddresses w' := by
  have hupdate : ∀ {t : World} {k : SockId} {sock' : Option TcpSock}, t.intf = w.intf →
      t.tcpSock = Function.update w.tcpSock k sock' →
      (∀ sock i intf, sock' = some sock → sock.intf = some i → w.intf i = some intf →
        intf.ipAddr = sock.localIp) → BoundAddresses t := by
    intro t k sock' hintf hsock hnew k' sock i intf hk' hi hintf'
    rw [hsock] at hk'
    rw [hintf] at hintf'
    by_cases hkk : k' = k
    · subst hkk
      rw [Function.update_self] at hk'
      exact hnew sock i intf hk' hi hintf'
    · rw [Function.update_of_ne hkk] at hk'
      exact h k' sock i intf hk' hi hintf'
  cases hs with
  | unchanged => exact h
  | opened =>
      refine hupdate rfl rfl fun sock i intf hsock hi _ => ?_
      cases hsock
      cases hi
  | bound hk hnew hmatch =>
      refine hupdate rfl rfl fun sock i intf hsock hi hintf => ?_
      cases hsock
      cases hi
      obtain ⟨intf', hintf', haddr⟩ := getMatchingInterface_live hmatch
      rwa [← Option.some.inj (hintf.symm.trans hintf')] at haddr
  | listening hk =>
      refine hupdate rfl rfl fun sock i intf hsock hi hintf => ?_
      cases hsock
      have hkept := h _ _ i intf hk hi hintf
      exact hkept
  | closed =>
      refine hupdate rfl rfl fun sock i intf hsock => ?_
      cases hsock

theorem nodeSetIntfIpAddr_boundAddresses {w : World} (h : BoundAddresses w) {n : NodeId}
    {ifName ipAddr : List UInt8} {mask : Int8}
    (hop : (Op.nodeSetIntfIpAddr n ifName ipAddr mask).KeepsAddresses w) :
    BoundAddresses (final (nodeSetIntfIpAddr n ifName ipAddr mask) w) := by
  rcases nodeSetIntfIpAddr_final w n ifName ipAddr mask with ⟨-, heq⟩ | ⟨i, intf, haddr, hintf, heq⟩
  · rwa [heq]
  rw [heq]
  intro k sock j intf' hk hj hintf'
  rcases configured_intf hintf' with hold | ⟨rfl, rfl⟩
  · exact h k sock j intf' hk hj hold
  · show convertIpFromStrToInt ipAddr = sock.localIp
    rw [← hop j (addressed_some haddr).2 k sock intf hk hj hintf]
    exact h k sock j intf hk hj hintf

/-- **Every call that keeps the addresses keeps the sockets right**, also when it stops. -/
theorem BoundAddresses.after {w : World} (h : BoundAddresses w) {op : Op}
    (hop : op.KeepsAddresses w) : BoundAddresses (op.after w) := by
  have hbegun : BoundAddresses (op.begun w) := by
    cases op <;> exact h
  by_cases hnet : op.Networks
  · have hwires := Op.wires_networks hnet (carries_true (op.begun w)) fun _ _ _ _ => trivial
    exact hbegun.of_sources hwires.intf hwires.sources
  by_cases htcp : op.owns .tcp
  · exact (socketStep_after htcp w).boundAddresses h
  have hquiet := (Op.quiet_after hnet w).2
  have hsock := (hquiet.parts .tcp).resolve_left htcp
  by_cases hconfig : op.owns .config
  · cases op with
    | nodeSetIntfIpAddr n ifName ipAddr mask =>
        rw [Op.after, runOp, final_bind_pure]
        exact nodeSetIntfIpAddr_boundAddresses h hop
    | rtTableAddRoute n dst mask next i => exact h
    | setIpForward val => exact h
    | _ => cases hconfig
  · have hintf := (hquiet.parts .config).resolve_left hconfig
    refine h.of_sources hintf.1 fun k => ?_
    rw [hsock.1]

/-! ### Every run -/

/-- A packet that carries TCP and was not received. -/
def SkBuff.IsOwnTcp (s : SkBuff) : Prop := s.ipHdr = none ∧ s.proto = ipProtoTcp

instance (s : SkBuff) : Decidable s.IsOwnTcp := inferInstanceAs (Decidable (_ ∧ _))

/-- The TCP packet of the node's own that an event hands to `ethernet_output`. -/
def Event.ownTcp : Event → Option SkBuff
  | .ethOutput _ _ proto s => if proto = ethProtoIp ∧ s.IsOwnTcp then some s else none
  | _ => none

/-- What was handed over so far verifies, and so does what waits. -/
structure SegmentsVerify (w : World) : Prop where
  bound : BoundAddresses w
  events : ∀ e ∈ w.trace, ∀ s, e.ownTcp = some s → s.TcpVerifies
  waiting : ∀ n s, Pending w n s → s.IsOwnTcp → s.TcpVerifies

theorem segmentsVerify_init {w : World} (h : Initial w) : SegmentsVerify w := by
  refine ⟨fun k sock i intf hk => ?_, fun e he => ?_, ?_⟩
  · rw [h.tcpSock] at hk
    cases hk
  · rw [h.trace] at he
    cases he
  · rintro n s ⟨entry, hmem, -⟩
    rw [h.arpTable] at hmem
    cases hmem

theorem Event.Wired.ownTcp {K : SkBuff → Prop} {es : List Event} {e : Event} {s : SkBuff}
    (h : e.Wired K es) (he : e.ownTcp = some s) : s.IsOwnTcp ∧ K s := by
  cases e with
  | ethOutput i mac proto s' =>
      rw [Event.ownTcp] at he
      split at he
      · rename_i hown
        cases he
        refine ⟨hown.2, (h.resolve_left fun harp => ?_).2⟩
        exact absurd (harp.1.symm.trans hown.1) (by decide)
      · cases he
  | _ => cases he

/-- What a state carries once its sockets are right. -/
theorem BoundAddresses.carries {w : World} (h : BoundAddresses w)
    (hwaiting : ∀ n s, Pending w n s → s.IsOwnTcp → s.TcpVerifies) :
    Carries (fun s => s.IsOwnTcp → s.TcpVerifies) w := by
  refine ⟨fun id type code payload ip i src hown => ?_,
    fun id sock buff port ip i src _ hown => ?_, ?_, hwaiting⟩
  · have hproto := hown.2
    rw [proto_routed, proto_withIpHdr] at hproto
    exact absurd hproto (by decide)
  · have hproto := hown.2
    rw [proto_routed, proto_withIpHdr] at hproto
    exact absurd hproto (by decide)
  · intro id k sock parent conn buff flags i out hlen hk hsource hi hout _
    have hsame := Prod.mk.inj hsource
    have hbound : sock.intf = some i := by
      rw [← hi]
      exact (Prod.mk.inj hsame.2).2.symm
    rw [h k sock i out hk hbound hout, ← hsame.1]
    exact tcpVerifies_tcpSegment id parent conn flags i hlen

/-- **A call that keeps the addresses hands over segments that verify**, also when it stops. -/
theorem SegmentsVerify.after {w : World} (h : SegmentsVerify w) {op : Op}
    (hop : op.KeepsAddresses w) : SegmentsVerify (op.after w) := by
  obtain ⟨es₀, hes₀, hquiet⟩ := op.trace_begun w
  have hbound : BoundAddresses (op.begun w) := by
    cases op <;> exact h.bound
  have hwaiting : ∀ n s, Pending (op.begun w) n s → s.IsOwnTcp → s.TcpVerifies := by
    intro n s hs
    unfold Pending at hs
    rw [arpTable_begun] at hs
    exact h.waiting n s hs
  -- a forwarded packet was received
  have hpass : ∀ r, op.Passes w r → ∀ j src,
      (r.ipPacket.forwarded.routed j src).IsOwnTcp → (r.ipPacket.forwarded.routed j src).TcpVerifies :=
    fun r _ j src hown => absurd hown.1 (Option.some_ne_none _)
  obtain ⟨⟨es, hes, hwired⟩, hpending⟩ := Op.wires_after (hbound.carries hwaiting) hpass
  refine ⟨h.bound.after hop, fun e he s hs => ?_, hpending⟩
  rw [hes, hes₀] at he
  rcases List.mem_append.mp he with he | he
  · rcases List.mem_append.mp he with he | he
    · exact h.events e he s hs
    · exact (hquiet (fun _ => False) [] e he).ownTcp hs |>.2.elim
  · obtain ⟨hown, hverifies⟩ := (hwired e he).ownTcp hs
    exact hverifies hown

theorem ReachableBy.segmentsVerify {w : World} (h : ReachableBy Op.KeepsAddresses w) :
    SegmentsVerify w := by
  induction h with
  | init h => exact segmentsVerify_init h
  | @step t t' op r _ _ hop hrun ih =>
      have hstep := ih.after hop
      rwa [show op.after t = t' from final_of_ok hrun] at hstep

/--
**Every TCP segment on the wire has a correct checksum**, in a run that gives no interface
another address while a socket is bound to it: each packet of the node's own that carries TCP
and reaches `ethernet_output`, during a call or after it had to wait, verifies against the
addresses in its IP header.  Those packets are the segments of `tcp_out`, of any payload
length; and computing a checksum changes no byte but the field it fills in.
-/
theorem tcp_segments_verify {w : World} (h : ReachableBy Op.KeepsAddresses w) :
    (∀ op : Op, op.KeepsAddresses w → ∀ e ∈ (op.after w).trace, ∀ s, e.ownTcp = some s →
      s.TcpVerifies) ∧
    (∀ (ipInput : SkBuff → M Bool) (t : World) c conn parent buff flags,
      t.tcpConn c = some conn → t.tcpSock conn.parent = some parent →
      exceedsWindow conn buff.length = false →
      tcpOut ipInput c buff flags t = (derefIntfPtr parent.intf >>= fun intf =>
        ipOutput ipInput intf.node conn.remoteIp ipProtoTcp
          (tcpSegment t.nextId parent conn buff flags)) (t.segmented c conn buff.length flags)) ∧
    (∀ id parent conn buff flags ip i src,
      (((tcpSegment id parent conn buff flags).withIpHdr ip ipProtoTcp).routed i src).IsOwnTcp) ∧
    (∀ m hdr size src dst, (calcTcpCksum m hdr size src dst).2 = m) ∧
    ∀ (skb : SkBuff) hdr size src dst q, q < hdr + 16 ∨ hdr + 18 ≤ q →
      (fillTcpCksum skb hdr size src dst).mem q = skb.mem q := by
  refine ⟨fun op hop => (h.segmentsVerify.after hop).events,
    fun ipInput t c conn parent buff flags hconn hparent hwin => ?_,
    fun id parent conn buff flags ip i src => ⟨rfl, ?_⟩,
    fun m hdr size src dst => calcTcpCksum_mem m size src dst,
    fun skb hdr size src dst q hq => fillTcpCksum_mem hdr size src dst skb hq⟩
  · rw [tcpOut_run hconn hparent, hwin]
    rfl
  · rw [proto_routed, proto_withIpHdr]

/-- Calls that give no interface an address keep the addresses. -/
theorem keepsAddresses_fixture :
    ReachableBy Op.KeepsAddresses Fixture.answered := by
  have hops : (runOps Fixture.graph (Fixture.configure ++ (Fixture.listen ++
      [.recvFrame 0 (Fixture.tcpFrame 5 7 0x02 [])]))).isSome := by decide +kernel
  obtain ⟨t, hconfigure, hrest⟩ := runOps_append (Fixture.runOps_after hops)
  have hfresh : ReachableBy Op.KeepsAddresses t := by
    refine ReachableBy.runOps (.init Fixture.graph_initial) (I := fun t => ∀ k, t.tcpSock k = none)
      (fun k => rfl) ?_ ?_ hconfigure
    · intro op hop t hnone
      cases op with
      | nodeSetIntfIpAddr n ifName ipAddr mask =>
          intro i _ k sock intf hk
          rw [hnone k] at hk
          cases hk
      | _ => trivial
    · intro op hop t hnone k
      have hnet : ¬ op.Networks ∧ ¬ op.owns .tcp := by
        simp only [Fixture.configure, List.mem_cons, List.not_mem_nil, or_false] at hop
        obtain rfl | rfl | rfl | rfl := hop <;> exact ⟨id, by rintro ⟨⟩⟩
      have hsock := (((Op.quiet_after hnet.1 t).2).parts .tcp).resolve_left hnet.2
      rw [hsock.1]
      exact hnone k
  refine hfresh.runOps (I := fun _ => True) trivial ?_ (fun _ _ _ _ => trivial) hrest
  intro op hop t _
  simp only [Fixture.listen, List.cons_append, List.nil_append, List.mem_cons, List.not_mem_nil,
    or_false] at hop
  obtain rfl | rfl | rfl | rfl := hop <;> trivial

/-- The answer of `192.168.89.2` to an ARP request of `192.168.89.1`. -/
def Fixture.arpReply : List UInt8 :=
  List.replicate 12 0xff ++ [0x08, 0x06] ++
    [0, 1, 8, 0, 6, 4, 0, 2, 1, 2, 3, 4, 5, 6, 192, 168, 89, 2, 6, 5, 4, 3, 2, 1, 192, 168, 89, 1]

/-- The answer to a SYN waits for the address of the peer, and verifies when it is sent. -/
theorem tcp_segments_verify_fixture :
    ∃ i mac s, Event.ethOutput i mac ethProtoIp s ∈
      ((Op.recvFrame 0 Fixture.arpReply).after Fixture.answered).trace ∧
      s.IsOwnTcp ∧ s.TcpVerifies := by
  have hreach := keepsAddresses_fixture
  have hsent : (((Op.recvFrame 0 Fixture.arpReply).after Fixture.answered).trace.findSome?
      Event.ownTcp).isSome = true := by decide +kernel
  generalize Fixture.answered = w at *
  obtain ⟨s, hs⟩ := Option.isSome_iff_exists.mp hsent
  obtain ⟨e, hmem, he⟩ := List.exists_of_findSome?_eq_some hs
  have hverifies := (tcp_segments_verify hreach).1 (.recvFrame 0 Fixture.arpReply) trivial e hmem s he
  cases e with
  | ethOutput i mac proto s' =>
      rw [Event.ownTcp] at he
      split at he
      · rename_i hown
        cases he
        obtain ⟨rfl, hown⟩ := hown
        exact ⟨i, mac, s, hmem, hown, hverifies⟩
      · cases he
  | _ => cases he

end SimpleTcpip
