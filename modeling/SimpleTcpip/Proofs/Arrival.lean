/-
A datagram arrives.

Where every node on the way has a route and knows the hardware address of its next hop, and no
link loses anything, a datagram that is sent comes out of the queue of the socket it is for, after
as many frames as there are links on the way.  It is told apart from a lost one by what the last
node does with it, so the proof has to follow the packet through every function of every node.

The packet that arrives is the one that was sent, but for three things.  A datagram shorter than
a frame comes with padding, which nothing takes off again; each router counts a hop; and each
router writes its own address over that of the sender.
-/
import SimpleTcpip.Proofs.Budget
import SimpleTcpip.Proofs.Conservation
import SimpleTcpip.Proofs.Datagrams
import SimpleTcpip.Proofs.Disposal
import SimpleTcpip.Proofs.Hops
import SimpleTcpip.Proofs.TcpChecksum

namespace SimpleTcpip

open Fallible

/-! ### The way -/

/-- The next link on the way of a packet from a node that knows the address of the next hop: the
interface it leaves by, and the one that takes it. -/
def World.leg (w : World) (n : NodeId) (dst : UInt32) : Option (IntfId × IntfId) := do
  let rt ← rtLookupLpm (w.rtTable n) dst
  let entry ← arpTableLookup (w.arpTable n) (rt.target dst)
  let j ← w.nbrIf rt.intf
  let nbr ← w.intf j
  if entry.resolved && entry.mac == nbr.macAddr && nbr.isIpAddrConfig && w.tries rt.intf then
    some (rt.intf, j)
  else none

/-- The last link on the way of a packet from a node over some routers to the node it is for. -/
def World.way (w : World) (dst : UInt32) : Nat → NodeId → Option (IntfId × IntfId)
  | 0, n => (w.leg n dst).filter fun l => (w.intf l.2).any fun nbr => isIpLocal w nbr.node dst
  | routers + 1, n => do
      let l ← w.leg n dst
      let nbr ← w.intf l.2
      if isIpLocal w nbr.node dst then none else w.way dst routers nbr.node

/-- What there is at a link. -/
structure Leg (w : World) (n : NodeId) (dst : UInt32) (o j : IntfId) (rt : RtEntry) (entry : ArpEntry)
    (nbr : Intf) : Prop where
  route : rtLookupLpm (w.rtTable n) dst = some rt
  out : rt.intf = o
  found : arpTableLookup (w.arpTable n) (rt.target dst) = some entry
  resolved : entry.resolved = true
  link : w.nbrIf o = some j
  live : w.intf j = some nbr
  mac : entry.mac = nbr.macAddr
  mode : nbr.isIpAddrConfig = true
  backend : w.tries o = true

theorem leg_eq_some {w : World} {n : NodeId} {dst : UInt32} {o j : IntfId}
    (h : w.leg n dst = some (o, j)) : ∃ rt entry nbr, Leg w n dst o j rt entry nbr := by
  unfold World.leg at h
  simp only [Option.bind_eq_bind, Option.bind_eq_some_iff] at h
  obtain ⟨rt, hrt, entry, hentry, j', hj, nbr, hnbr, hif⟩ := h
  split at hif
  · rename_i htests
    cases hif
    simp only [Bool.and_eq_true, beq_iff_eq] at htests
    obtain ⟨⟨⟨hresolved, hmac⟩, hmode⟩, htries⟩ := htests
    exact ⟨rt, entry, nbr, hrt, rfl, hentry, hresolved, hj, hnbr, hmac, hmode, htries⟩
  · cases hif

/-- The way depends on the tables only. -/
theorem way_emits {P : Event → Prop} {w w' : World} (h : Emits P w w') (dst : UInt32) (routers : Nat)
    (n : NodeId) : w'.way dst routers n = w.way dst routers n := by
  rw [h.frame]
  induction routers generalizing n with
  | zero => rfl
  | succ routers ih =>
      simp only [World.way, ih]
      rfl

/-! ### One link -/

section Link

variable {w : World} {n : NodeId} {dst : UInt32} {o j : IntfId} {rt : RtEntry} {entry : ArpEntry}
  {nbr : Intf} {skb : SkBuff}

/-- A link that transmits a frame accepts it. -/
theorem accepts_of_transmits {i : IntfId} (h : w.transmits i = true) : w.accepts i = true := by
  obtain ⟨htries, hsys⟩ := Bool.and_eq_true_iff.mp h
  unfold World.tries at htries
  unfold World.accepts
  obtain ⟨intf, hintf, htype⟩ := (Option.any_eq_true _ _).mp htries
  rw [hintf, Option.any_some]
  cases hcomm : intf.comm.commType with
  | none =>
      rw [hcomm] at htype
      cases htype
  | tuntap => exact hsys
  | udp => rfl

theorem ethernetOutput_transmits (hg : GraphOk w) {out : Intf} (hout : w.intf o = some out)
    (hroom : LinkRoom skb) (hsends : w.transmits o = true) (mac : MacAddr) (proto : UInt16) :
    ∃ w', ethernetOutput o mac proto skb w = .ok true w' ∧
      Puts [(o, ethFrame mac out.macAddr proto skb)] w w' ∧ w'.numSends = w.numSends + 1 := by
  obtain ⟨r, w', hrun, hputs⟩ := ethernetOutput_puts hg hout hroom mac proto
  obtain ⟨s, -, hsend⟩ := ethernetOutput_run hout hroom mac proto
  have hg' : GraphOk (w.framing o mac proto skb) := hg.of_frame rfl rfl rfl
  have haccepts := sendPktOut_run hg' hout s
  have htrue : (w.framing o mac proto skb).accepts o = true := accepts_of_transmits hsends
  have htries : (w.framing o mac proto skb).tries o = true := (Bool.and_eq_true_iff.mp hsends).1
  rw [htrue, htries] at haccepts
  cases hrun.symm.trans (hsend.trans haccepts)
  rw [hsends] at hputs
  exact ⟨_, hrun, hputs, rfl⟩

/-- `ip_postroute` hands a packet with a route to its next hop. -/
theorem ipPostroute_foreign {ipInput : SkBuff → M Bool} {r : Bool} {w' : World}
    (hroute : rtLookupLpm (w.rtTable n) skb.dstIp = some rt)
    (hintf : skb.intf = none ∨ skb.intf = some rt.intf) (hforeign : isIpLocal w n skb.dstIp = false)
    (hrun : ipPostroute ipInput n skb w = .ok r w') :
    ∃ out, w.intf rt.intf = some out ∧ ipNeighbourOutput n rt.intf (rt.target skb.dstIp)
      (skb.routed rt.intf out.ipAddr) w = .ok r w' := by
  cases ipPostroute_ok hrun with
  | unrouted hrt =>
      rw [hroute] at hrt
      cases hrt
  | otherIntf hrt hother =>
      obtain rfl := Option.some.inj (hroute.symm.trans hrt)
      rcases hintf with hnone | hsome
      · rw [hnone] at hother
        cases hother.1
      · exact absurd hsome hother.2
  | looped _ _ _ hlocal _ =>
      rw [hforeign] at hlocal
      cases hlocal
  | @sent _ out _ _ hrt _ hout _ hnbr =>
      obtain rfl := Option.some.inj (hroute.symm.trans hrt)
      exact ⟨out, hout, hnbr⟩

/-- **`ip_postroute` puts a packet on its next link.** -/
theorem ipPostroute_leg (ipInput : SkBuff → M Bool) (hg : GraphOk w)
    (hsys : 0 ≤ w.sysSend w.numSends) (hleg : Leg w n dst o j rt entry nbr) (hdst : skb.dstIp = dst)
    (hintf : skb.intf = none ∨ skb.intf = some o) (hforeign : isIpLocal w n dst = false)
    (hroom : ∀ i src, LinkRoom (skb.routed i src)) (hread : HeaderRead (fun _ => False) w skb) :
    ∃ out w', w.intf o = some out ∧ ipPostroute ipInput n skb w = .ok true w' ∧
      Puts [(o, ethFrame nbr.macAddr out.macAddr ethProtoIp (skb.routed o out.ipAddr))] w w' ∧
      w'.numSends = w.numSends + 1 := by
  have hsends : w.transmits o = true :=
    Bool.and_eq_true_iff.mpr ⟨hleg.backend, decide_eq_true hsys⟩
  have hcompletes : Completes (ipPostroute ipInput n skb) w := by
    refine completes_of_faultsIn (ipPostroute_faultsIn hroom (Or.inr hg) hread fun hlocal => ?_)
    rw [hdst, hforeign] at hlocal
    cases hlocal
  obtain ⟨r, w', hrun⟩ := hcompletes
  obtain ⟨out, hout, hnbr⟩ := ipPostroute_foreign (hdst ▸ hleg.route) (hleg.out ▸ hintf)
    (hdst ▸ hforeign) hrun
  rw [hleg.out] at hout
  rw [hdst, ipNeighbourOutput_resolved hleg.found hleg.resolved, hleg.out, hleg.mac] at hnbr
  obtain ⟨w'', hrun', hputs, hsent⟩ :=
    ethernetOutput_transmits hg hout (hroom o out.ipAddr) hsends nbr.macAddr ethProtoIp
  cases hnbr.symm.trans hrun'
  exact ⟨out, w', hout, hrun, hputs, hsent⟩

end Link

/-! ### The packet on the way -/

/-- A packet that holds the datagram of `p`, with some hops left. -/
structure OnTheWay (p : List UInt8) (ttl : Nat) (s : SkBuff) : Prop where
  len : s.len ≤ maxPacket
  header : (s.onWire.getD 0 0).toNat % 16 = 5
  ttl : (s.onWire.getD 8 0).toNat = ttl
  proto : s.onWire.getD 9 0 = ipProtoUdp
  cargo : cargo s.onWire = cargo p

/-- The length of a frame's buffer. -/
theorem framed_len (id : SkbId) (j : IntfId) (dst src : MacAddr) (proto : UInt16) (s : SkBuff) :
    (recvBuffer id j (ethFrame dst src proto s)).len = ethHdrSize + min (max s.len 46) maxPacket := by
  show (List.take _ (ethFrame dst src proto s)).length = _
  rw [List.length_take, length_ethFrame, maxPacket, recvBufferSize, recvReservedHeadRoom, ethHdrSize]
  omega

theorem getD_cargo (p : List UInt8) (k : Nat) : (cargo p).getD k 0 = p.getD (16 + k) 0 := by
  rw [cargo, List.getD_eq_getElem?_getD, List.getElem?_drop, ← List.getD_eq_getElem?_getD]

section Packet

variable {p : List UInt8} {ttl : Nat} {s : SkBuff}

/-- A byte of the datagram is where it was. -/
theorem OnTheWay.byte (h : OnTheWay p ttl s) {k : Nat} (hk : k < 30) :
    s.mem (s.data + 16 + k) = p.getD (16 + k) 0 := by
  have hat : (SimpleTcpip.cargo s.onWire).getD k 0 = (SimpleTcpip.cargo p).getD k 0 := by
    rw [h.cargo]
  rw [getD_cargo, getD_cargo, getD_onWire s (by omega)] at hat
  rwa [Nat.add_assoc]

/-- The destination is that of the packet sent. -/
theorem OnTheWay.dstIp (h : OnTheWay p ttl s) {t : SkBuff} (ht : t.onWire = p) :
    s.dstIp = t.dstIp := by
  refine Memory.load32_congr fun k hk => ?_
  rw [h.byte (by omega), ← ht, getD_onWire t (by omega), Nat.add_assoc]

/-- The next node gets the packet as it was framed. -/
theorem OnTheWay.received (h : OnTheWay p ttl s) (id : SkbId) (j : IntfId) (dst src : MacAddr) :
    OnTheWay p ttl (recvBuffer id j (ethFrame dst src ethProtoIp s)).ipPacket := by
  have hwire := onWire_received id j dst src ethProtoIp s
  refine ⟨?_, by rw [hwire, h.header], by rw [hwire, h.ttl], by rw [hwire, h.proto],
    by rw [hwire, h.cargo]⟩
  have hlen := framed_len id j dst src ethProtoIp s
  rw [ipPacket_len (by omega), hlen]
  omega

/-- **A router takes one off the TTL and leaves the datagram alone.** -/
theorem OnTheWay.forwarded (h : OnTheWay p ttl s) (httl : 1 < ttl) (i : IntfId) (src : UInt32) :
    OnTheWay p (ttl - 1) (s.forwarded.routed i src) := by
  have hhops : 1 < (s.mem (s.data + 8)).toNat := by
    rw [← getD_onWire s (by omega), h.ttl]
    exact httl
  obtain ⟨hlen, hsame, -, hless⟩ := hopCounted_forwarded s hhops
  obtain ⟨hlen', hsame'⟩ := sameRoute_routed s.forwarded i src
  refine ⟨h.len, ?_, ?_, ?_, ?_⟩
  · rw [hsame' 0 (by omega), ← hsame 0 (by omega), h.header]
  · rw [hsame' 8 (by omega), hless, UInt8.toNat_sub_of_le, h.ttl]
    · rfl
    · rw [UInt8.le_iff_toNat_le, h.ttl]
      exact Nat.le_of_lt httl
  · rw [hsame' 9 (by omega), ← hsame 9 (by omega), h.proto]
  · rw [cargo_congr hlen' fun k hk => hsame' k (by omega), ← h.cargo]
    exact (cargo_congr hlen fun k hk => hsame k (by omega)).symm

/-- The header of such a packet is 20 bytes long. -/
theorem OnTheWay.ipHlen (h : OnTheWay p ttl s) : ipHlen s.mem s.data = 5 := by
  have hfirst := h.header
  rwa [getD_onWire s (by omega)] at hfirst

/-- A router can read it. -/
theorem OnTheWay.headerRead (h : OnTheWay p ttl s) (hs : Filled s) (hlen : ipHdrSize ≤ s.len)
    (w : World) : HeaderRead (fun _ => False) w s.forwarded := by
  have hfirst : s.forwarded.mem s.data = s.mem s.data := Memory.store8_outside _ _ (by omega)
  have hhlen : SimpleTcpip.ipHlen s.forwarded.mem s.forwarded.data = 5 := by
    rw [← h.ipHlen]
    exact congrArg (fun b : UInt8 => b.toNat % 16) hfirst
  refine Or.inr fun _ => ?_
  rw [hhlen]
  have hdata := hs.data
  have htail := hs.tail
  rw [ipHdrSize] at hlen ⊢
  show recvReservedHeadRoom ≤ s.data ∧ s.data + max 20 (5 * 4) ≤ s.tail
  omega

end Packet

/-! ### One node -/

/-- What runs the same goes on the same. -/
theorem run_bind_congr {α β : Type} {x y : M α} {f : α → M β} {w w' : World} (h : x w = y w') :
    (x >>= f) w = (y >>= f) w' := by
  show EStateM.bind x f w = EStateM.bind y f w'
  unfold EStateM.bind
  rw [h]

section Node

variable {w : World} {dst : UInt32} {o i j : IntfId} {rt : RtEntry} {entry : ArpEntry}
  {here nbr : Intf} {p : List UInt8} {ttl : Nat} {s t : SkBuff}

/-- A frame for an interface is qualified. -/
theorem qualified_framed (here : Intf) (hs : s.len ≤ maxPacket) (id : SkbId) (j : IntfId)
    (src : MacAddr) :
    ethernetInputQualify here (MacAddr.load
      (recvBuffer id j (ethFrame here.macAddr src ethProtoIp s)).mem recvReservedHeadRoom) = true := by
  rw [recvBuffer_dst id j here.macAddr src ethProtoIp hs, ethernetInputQualify, beq_self_eq_true,
    Bool.true_or]

/-- What a router hands to `ip_postroute`: a packet with one hop less. -/
structure Passing (p : List UInt8) (ttl : Nat) (dst : UInt32) (q : SkBuff) : Prop where
  dstIp : q.dstIp = dst
  intf : q.intf = none
  onTheWay : ∀ i src, OnTheWay p ttl (q.routed i src)
  room : ∀ i src, LinkRoom (q.routed i src)
  header : ∀ w, HeaderRead (fun _ => False) w q

/-- **A router passes the packet on.** -/
theorem recvFrame_passes (hforward : w.ipForwardEnable = true) (hi : w.intf i = some here)
    (hmode : here.isIpAddrConfig = true) (hforeign : isIpLocal w here.node dst = false)
    (hs : OnTheWay p ttl s) (httl : 1 < ttl) (ht : t.onWire = p) (hdst : t.dstIp = dst)
    (src : MacAddr) :
    ∃ q, Passing p (ttl - 1) dst q ∧ recvFrame i (ethFrame here.macAddr src ethProtoIp s) w = (do
      let ok ← ipPostroute ipInput here.node q
      freeSkbIf (!ok) (recvBuffer w.nextId i (ethFrame here.macAddr src ethProtoIp s)) : M Unit)
        (w.received i (ethFrame here.macAddr src ethProtoIp s)) := by
  have hrx := hs.received w.nextId i here.macAddr src
  have hlen := framed_len w.nextId i here.macAddr src ethProtoIp s
  have hqual := qualified_framed here hs.len w.nextId i src
  have htype := type_received w.nextId i here.macAddr src ethProtoIp s
  generalize ethFrame here.macAddr src ethProtoIp s = frame at *
  let w₁ := w.received i frame
  let skb := recvBuffer w.nextId i frame
  have hheaders : ethHdrSize + ipHdrSize ≤ skb.len := by
    rw [hlen, ipHdrSize, maxPacket, recvBufferSize, recvReservedHeadRoom, ethHdrSize]
    omega
  have hto : skb.ipPacket.dstIp = dst := (hrx.dstIp ht).trans hdst
  have hhops : skb.ipPacket.ttl = ttl := by
    rw [← hrx.ttl, getD_onWire _ (by omega)]
    rfl
  have hpassed : PassedOn w₁ skb := by
    refine ⟨i, here, rfl, hi, hmode, by omega, hqual, ?_, ?_, hforward, by rwa [hhops]⟩
    · exact (congrArg UInt16.toNat htype).trans (by decide)
    · rw [hto]
      exact hforeign
  obtain ⟨i', here', hi', hhere', hreceive⟩ :=
    pktReceive_passedOn hpassed (filled_recvBuffer _ _ _) hheaders
  obtain rfl := Option.some.inj hi'
  obtain rfl := Option.some.inj (hi.symm.trans hhere')
  have hpacket : ipHdrSize ≤ skb.ipPacket.len := by
    rw [ipPacket_len (by omega)]
    omega
  refine ⟨skb.ipPacket.forwarded, ⟨(dstIp_forwarded _).trans hto, rfl, hrx.forwarded httl, fun k src =>
    (budget_forwarded k src (by omega)).toLinkRoom,
    hrx.headerRead ((filled_recvBuffer _ _ _).ipPacket (by omega)) hpacket⟩, ?_⟩
  unfold recvFrame
  rw [run_bind_ok (recvSkb_eq _ _ _)]
  exact run_bind_congr hreceive

/-- **A router puts the packet on its next link.** -/
theorem recvFrame_router (hg : GraphOk w) (hsys : 0 ≤ w.sysSend w.numSends)
    (hforward : w.ipForwardEnable = true) (hi : w.intf i = some here)
    (hmode : here.isIpAddrConfig = true) (hforeign : isIpLocal w here.node dst = false)
    (hleg : Leg w here.node dst o j rt entry nbr) (hs : OnTheWay p ttl s) (httl : 1 < ttl)
    (ht : t.onWire = p) (hdst : t.dstIp = dst) (src : MacAddr) :
    ∃ out s' w', w.intf o = some out ∧ OnTheWay p (ttl - 1) s' ∧ s'.srcIp = out.ipAddr ∧
      recvFrame i (ethFrame here.macAddr src ethProtoIp s) w = .ok ⟨⟩ w' ∧
      Puts [(o, ethFrame nbr.macAddr out.macAddr ethProtoIp s')] w w' ∧
      w'.numSends = w.numSends + 1 := by
  obtain ⟨q, hq, hpasses⟩ := recvFrame_passes hforward hi hmode hforeign hs httl ht hdst src
  generalize ethFrame here.macAddr src ethProtoIp s = frame at *
  let w₁ := w.received i frame
  have hleg₁ : Leg w₁ here.node dst o j rt entry nbr :=
    ⟨hleg.route, hleg.out, hleg.found, hleg.resolved, hleg.link, hleg.live, hleg.mac, hleg.mode,
      hleg.backend⟩
  have hg₁ : GraphOk w₁ := hg.of_frame rfl rfl rfl
  obtain ⟨out, w', hout, hrun, hputs, hsent⟩ := ipPostroute_leg ipInput hg₁ hsys hleg₁ hq.dstIp
    (Or.inl hq.intf) hforeign hq.room (hq.header w₁)
  refine ⟨out, q.routed o out.ipAddr, w', hout, hq.onTheWay _ _, srcIp_routed _ _ _, ?_,
    (Puts.received w i frame).trans hputs, hsent⟩
  rw [hpasses, run_bind_ok hrun]
  rfl

/-- What a socket gets of a datagram that came in a packet, with the source the packet came from. -/
def SkBuff.message (t : SkBuff) (src : UInt32) : Message UdpSource UInt8 where
  source := ⟨src, UInt16.ofNat (ntohs (t.mem.load16 (t.data + 20)).toNat)⟩
  payload := t.onWire.drop 28

/-- The port a packet is for. -/
def SkBuff.port (t : SkBuff) : UInt16 := UInt16.ofNat (ntohs (t.mem.load16 (t.data + 22)).toNat)

/-- The source is read as it was written. -/
theorem srcIp_received (id : SkbId) (j : IntfId) (dst src : MacAddr) (proto : UInt16) (s : SkBuff) :
    (recvBuffer id j (ethFrame dst src proto s)).ipPacket.srcIp = s.srcIp := by
  refine Memory.load32_congr fun k hk => ?_
  rw [Nat.add_assoc, Nat.add_assoc, ← getD_onWire _ (by omega), ← getD_onWire s (by omega),
    onWire_received]

/-- **What `udp_input` gets is the datagram sent**, from the last router. -/
theorem OnTheWay.arrival (hs : OnTheWay p ttl s) (ht : t.onWire = p) (id : SkbId) (j : IntfId)
    (dst src : MacAddr) :
    (recvBuffer id j (ethFrame dst src ethProtoIp s)).segment.arrival = t.message s.srcIp ∧
      (recvBuffer id j (ethFrame dst src ethProtoIp s)).segment.udpDst = t.port := by
  have hrx := hs.received id j dst src
  have hsrc := srcIp_received id j dst src ethProtoIp s
  have hlen := framed_len id j dst src ethProtoIp s
  generalize recvBuffer id j (ethFrame dst src ethProtoIp s) = skb at *
  have hbyte : ∀ k, k < 30 → skb.ipPacket.mem (skb.ipPacket.data + 16 + k) = t.mem (t.data + 16 + k) := by
    intro k hk
    rw [hrx.byte hk, ← ht, getD_onWire t (by omega), Nat.add_assoc]
  have hport : skb.segment.mem.load16 skb.segment.data = t.mem.load16 (t.data + 20) :=
    Memory.load16_congr (hbyte 4 (by omega)) (hbyte 5 (by omega))
  have hport' : skb.segment.mem.load16 (skb.segment.data + 2) = t.mem.load16 (t.data + 22) :=
    Memory.load16_congr (hbyte 6 (by omega)) (hbyte 7 (by omega))
  have hmax : maxPacket = 2030 := rfl
  have hlen' : skb.ipPacket.len = min (max s.len 46) maxPacket := by
    rw [ipPacket_len (by omega), hlen]
    omega
  have hpayload : skb.segment.bytes.drop udpHdrSize = t.onWire.drop 28 := by
    have hwire : skb.ipPacket.onWire = skb.ipPacket.mem.read skb.ipPacket.data skb.ipPacket.len := by
      rw [SkBuff.onWire, hlen']
      congr 1
      omega
    have hcargo : skb.ipPacket.onWire.drop 28 = t.onWire.drop 28 := by
      have hdrop := congrArg (List.drop 12) hrx.cargo
      rwa [SimpleTcpip.cargo, SimpleTcpip.cargo, List.drop_drop, List.drop_drop, ← ht] at hdrop
    rw [← hcargo, hwire, Memory.drop_read _ _ (by omega)]
    show (skb.ipPacket.mem.read (skb.ipPacket.data + 20) (sizeSub skb.ipPacket.len 20)).drop 8 = _
    rw [sizeSub_of_le (by omega), Memory.drop_read _ _ (by omega)]
    rfl
  refine ⟨?_, congrArg (fun v : UInt16 => UInt16.ofNat (ntohs v.toNat)) hport'⟩
  unfold SkBuff.arrival SkBuff.message SkBuff.udpSource
  rw [hpayload, hport, ← hsrc]
  rfl

/-- **The last node queues the datagram.** -/
theorem recvFrame_socket (hi : w.intf i = some here) (hmode : here.isIpAddrConfig = true)
    (hlocal : isIpLocal w here.node dst = true) (hs : OnTheWay p ttl s) (ht : t.onWire = p)
    (hdst : t.dstIp = dst) {k : SockId} (hk : udpSocksManagerFind w i t.port = some k)
    (src : MacAddr) :
    ∃ sock skb w₁, w.udpSock k = some sock ∧ FromWire skb ∧ skb.arrival = t.message s.srcIp ∧
      skb.linked.rewound.onWire = s.onWire ∧ Puts [] w w₁ ∧
      recvFrame i (ethFrame here.macAddr src ethProtoIp s) w = .ok ⟨⟩ (w₁.queued k sock skb) := by
  have hrx := hs.received w.nextId i here.macAddr src
  have hlen := framed_len w.nextId i here.macAddr src ethProtoIp s
  have hqual := qualified_framed here hs.len w.nextId i src
  have htype := type_received w.nextId i here.macAddr src ethProtoIp s
  have hbytes := onWire_received w.nextId i here.macAddr src ethProtoIp s
  obtain ⟨harrival, hport⟩ := hs.arrival ht w.nextId i here.macAddr src
  generalize ethFrame here.macAddr src ethProtoIp s = frame at *
  let w₁ := w.received i frame
  let skb := recvBuffer w.nextId i frame
  have hheaders : ethHdrSize + ipHdrSize + udpHdrSize ≤ skb.len := by
    rw [hlen, ipHdrSize, udpHdrSize, maxPacket, recvBufferSize, recvReservedHeadRoom, ethHdrSize]
    omega
  have hfilled : Filled skb := filled_recvBuffer _ _ _
  have haccepted : IpAccepted w₁ skb := by
    refine ⟨i, here, rfl, hi, hmode, by omega, hqual, ?_, ?_⟩
    · exact (congrArg UInt16.toNat htype).trans (by decide)
    · rw [(hrx.dstIp ht).trans hdst]
      exact hlocal
  have hproto : skb.ipPacket.proto = ipProtoUdp := (getD_proto _).symm.trans hrx.proto
  have hwire := fromWire_segment w.nextId i hheaders
  have hto : udpReceiver (w₁.transports skb) skb.segment = some k := by
    show udpSocksManagerFind w i skb.segment.udpDst = some k
    rw [hport, hk]
  obtain ⟨sock, hsock, hinput⟩ := hwire.udpInput_some hto
  have hpacket : Filled skb.ipPacket := hfilled.ipPacket (by omega)
  refine ⟨sock, skb.segment, w₁.transports skb, hsock, hwire, harrival,
    (onWire_rewound hpacket.tail.symm rfl).trans hbytes, ?_, ?_⟩
  · have hlogged : Puts [] w₁ (w₁.transports skb) :=
      .logged w₁ 0 [.transport skb.ipPacket.proto skb.segment]
    exact (Puts.received w i frame).trans hlogged
  · have hrun := pktReceive_accepted haccepted hfilled (by omega)
    rw [ipInput, callDepth, ipInput_run hfilled (by omega),
      if_neg (by rw [hproto]; decide), if_neg (by rw [hproto]; decide), if_pos hproto] at hrun
    unfold recvFrame
    rw [run_bind_ok (recvSkb_eq _ _ _), run_bind_ok (hrun.trans hinput)]
    rfl

end Node

/-! ### The whole way -/

/-- A datagram has come to the end of the queue of a socket. -/
inductive Arrived (w : World) (k : SockId) (m : Message UdpSource UInt8) : World → Prop
  | queued {w₁ : World} {sock : UdpSock} {skb : SkBuff} (hquiet : Emits (fun _ => True) w w₁)
      (hsock : w.udpSock k = some sock) (hskb : FromWire skb) (hm : skb.arrival = m) :
      Arrived w k m (w₁.queued k sock skb)

namespace Arrived

variable {w w' : World} {k : SockId} {m : Message UdpSource UInt8}

/-- The socket has one message more to return. -/
theorem unread (h : Arrived w k m w') : ∃ sock sock', w.udpSock k = some sock ∧
    w'.udpSock k = some sock' ∧ sock'.unread = sock.unread ++ [m] := by
  cases h with
  | @queued w₁ sock skb _ hsock hskb hm =>
      refine ⟨sock, _, hsock, Function.update_self .., ?_⟩
      rw [← hm, ← hskb.unread_linked]
      simp [UdpSock.unread, SkBuff.linked]

/-- The other sockets have what they had. -/
theorem elsewhere (h : Arrived w k m w') {k' : SockId} (hk : k' ≠ k) :
    w'.udpSock k' = w.udpSock k' := by
  cases h with
  | queued hquiet _ _ _ =>
      rw [← hquiet.udpSock]
      exact Function.update_of_ne hk _ _

/-- The arrival lets nothing wait for an address. -/
theorem arpTable (h : Arrived w k m w') : w'.arpTable = w.arpTable := by
  cases h with
  | queued hquiet _ _ _ => exact hquiet.arpTable

/-- **If nothing else is there to be read, `udp_recvfrom` returns the message.** -/
theorem recvfrom (h : Arrived w k m w') {fd : Int} (hfd : goodUdpSock w fd = some k) {sock : UdpSock}
    (hsock : w.udpSock k = some sock) (hbound : sock.bound = true) (hempty : sock.rxSkb = [])
    {size : Nat} (hsize : m.payload.length ≤ size) :
    ∃ w'', udpRecvfrom fd size true true w'
      = .ok (some ⟨m.payload, some m.source.ip, some m.source.port⟩) w'' := by
  cases h with
  | @queued w₁ sock₁ skb hquiet hsock₁ hskb hm =>
      obtain rfl := Option.some.inj (hsock.symm.trans hsock₁)
      have hfd₁ : goodUdpSock w₁ fd = some k := by
        rw [hquiet.frame]
        exact hfd
      have hsock₂ : w₁.udpSock k = some sock := by rw [hquiet.udpSock, hsock]
      have hread : UdpReadable fd k sock w₁ :=
        ⟨hfd₁, hsock₂, hbound, fun s hs => by rw [hempty] at hs; cases hs⟩
      obtain ⟨sock', hnext, hunread⟩ := hread.arrive hskb
      have hnone : sock.unread = [] := by
        rw [UdpSock.unread, hempty]
        rfl
      rw [hnone, hm, List.nil_append] at hunread
      rcases hnext.recvfrom size true true with ⟨hnil, -⟩ | ⟨m', q, d, _, w'', hqueue, hrun, -, -, hd⟩
      · rw [hunread] at hnil
        cases hnil
      · rw [hunread] at hqueue
        cases hqueue
        refine ⟨w'', hrun.trans ?_⟩
        obtain ⟨bytes, ip, port⟩ := d
        obtain ⟨hbytes, -, hip, hport⟩ := hd
        dsimp only at hbytes hip hport
        rw [if_pos rfl] at hip hport
        rw [hbytes, hip, hport, Message.front, List.take_of_length_le hsize]

end Arrived

theorem Arrived.of_emits {w w₁ w' : World} {k : SockId} {m : Message UdpSource UInt8}
    (h : Arrived w₁ k m w') (hquiet : Emits (fun _ => True) w w₁) : Arrived w k m w' := by
  cases h with
  | queued hquiet' hsock hskb hm =>
      rw [hquiet.udpSock] at hsock
      exact .queued (hquiet.trans hquiet') hsock hskb hm

/-- The frame is the only one in flight. -/
theorem deliver_only {w w' : World} {i : IntfId} {here : Intf} {frame : List UInt8}
    (hi : w.intf i = some here) (hrun : recvFrame i frame w = .ok ⟨⟩ w') :
    NetMove.deliver.step? w [(i, frame)] = some (w', launched w w') := by
  have hstep : (Op.recvFrame i frame).step? w = some w' := by
    refine Op.step?_eq_some.mpr ⟨Option.isSome_iff_exists.mpr ⟨here, hi⟩, .unit, ?_⟩
    exact run_bind_ok hrun
  show ((Op.recvFrame i frame).step? w).map _ = _
  rw [hstep]
  rfl

theorem Puts.launched {w w' : World} {o j : IntfId} {frame : List UInt8} (h : Puts [(o, frame)] w w')
    (hlink : w.nbrIf o = some j) : launched w w' = [(j, frame)] := by
  rw [SimpleTcpip.launched, h.sent, List.filterMap_cons, hlink]
  rfl

theorem way_leg {w : World} {dst : UInt32} {routers : Nat} {n : NodeId} {l : IntfId × IntfId}
    (h : w.way dst routers n = some l) : ∃ o j, w.leg n dst = some (o, j) := by
  cases routers with
  | zero =>
      obtain ⟨hleg, -⟩ := Option.filter_eq_some_iff.mp h
      exact ⟨l.1, l.2, hleg⟩
  | succ routers =>
      obtain ⟨l', hleg, -⟩ := Option.bind_eq_some_iff.mp h
      exact ⟨l'.1, l'.2, hleg⟩

/-- **From its first link the datagram reaches the socket**, one frame after the other. -/
theorem delivers_along {dst : UInt32} {o j : IntfId} {k : SockId} {t : SkBuff} (hdst : t.dstIp = dst)
    (routers : Nat) {w : World} (hg : GraphOk w)
    (hsys : ∀ m, m < routers → 0 ≤ w.sysSend (w.numSends + m))
    (hforward : w.ipForwardEnable = true) (hk : udpSocksManagerFind w j t.port = some k) {n : NodeId}
    (hway : w.way dst routers n = some (o, j)) {o₁ j₁ : IntfId} {out here : Intf}
    (hleg : w.leg n dst = some (o₁, j₁)) (hout : w.intf o₁ = some out) (hhere : w.intf j₁ = some here)
    {ttl : Nat} {s : SkBuff} (hs : OnTheWay t.onWire ttl s) (hsrc : s.srcIp = out.ipAddr)
    (httl : routers < ttl) (src : MacAddr) :
    ∃ last w', w.intf o = some last ∧
      (List.replicate (routers + 1) NetMove.deliver).foldlM (fun N move => move.step? N.1 N.2)
        (w, [(j₁, ethFrame here.macAddr src ethProtoIp s)]) = some (w', []) ∧
      Arrived w k (t.message last.ipAddr) w' := by
  induction routers generalizing w n o₁ j₁ out here ttl s src with
  | zero =>
      obtain ⟨_, _, _, hthere⟩ := leg_eq_some hleg
      obtain rfl := Option.some.inj (hhere.symm.trans hthere.live)
      obtain ⟨hlast, hown⟩ := Option.filter_eq_some_iff.mp hway
      cases hleg.symm.trans hlast
      rw [hhere, Option.any_some] at hown
      obtain ⟨sock, skb, w₁, hsock, hskb, harrival, -, hputs, hrun⟩ :=
        recvFrame_socket hhere hthere.mode hown hs rfl hdst hk src
      refine ⟨out, w₁.queued k sock skb, hout, ?_, .queued hputs.emits hsock hskb ?_⟩
      · have hnone : launched w (w₁.queued k sock skb) = [] := by
          have hsent : sentFrames w (w₁.queued k sock skb) = [] := hputs.sent
          rw [launched, hsent]
          rfl
        rw [List.replicate_one, List.foldlM_cons, deliver_only hhere hrun, hnone]
        rfl
      · rw [harrival, hsrc]
  | succ routers ih =>
      obtain ⟨_, _, _, hthere⟩ := leg_eq_some hleg
      obtain rfl := Option.some.inj (hhere.symm.trans hthere.live)
      obtain ⟨l, hfirst, hway⟩ := Option.bind_eq_some_iff.mp hway
      cases hleg.symm.trans hfirst
      obtain ⟨nbr, hnbr, hway⟩ := Option.bind_eq_some_iff.mp hway
      obtain rfl := Option.some.inj (hhere.symm.trans hnbr)
      split at hway
      · cases hway
      · rename_i hforeign
        obtain ⟨o₂, j₂, hleg₂⟩ := way_leg hway
        obtain ⟨rt, entry, nbr, hnext⟩ := leg_eq_some hleg₂
        obtain ⟨out₂, s', w₁, hout₂, hs', hsrc', hrun, hputs, hsent⟩ := recvFrame_router hg
          (hsys 0 (by omega)) hforward hhere hthere.mode (Bool.eq_false_iff.mpr hforeign) hnext hs
          (by omega) rfl hdst src
        have hframe := hputs.emits
        have hleg₁ : w₁.leg here.node dst = some (o₂, j₂) := by
          rw [hframe.frame]
          exact hleg₂
        have hsys₁ : ∀ m, m < routers → 0 ≤ w₁.sysSend (w₁.numSends + m) := by
          intro m hm
          rw [hframe.sysSend, hsent, Nat.add_assoc]
          exact hsys (1 + m) (by omega)
        obtain ⟨last, w', hlast, hmoves, harrived⟩ := ih
          (hg.of_frame hframe.intf hframe.link hframe.rtTable)
          hsys₁ (by rw [hframe.frame]; exact hforward) (by rw [hframe.frame]; exact hk) ((way_emits hframe dst routers here.node).trans hway) hleg₁
          (by rw [hframe.intf]; exact hout₂) (by rw [hframe.intf]; exact hnext.live) hs' hsrc' (by omega)
          out₂.macAddr
        refine ⟨last, w', by rwa [hframe.intf] at hlast, ?_, harrived.of_emits hframe⟩
        rw [List.replicate_succ, List.foldlM_cons, deliver_only hhere hrun, hputs.launched hnext.link]
        exact hmoves

/-! ### The sender -/

/-- The packet a socket sends a datagram in. -/
def udpPacket (id : SkbId) (sock : UdpSock) (buff : List UInt8) (ip : UInt32) (port : UInt16) :
    SkBuff := (udpDatagram id sock (buff.take maxUdpPayload) port).withIpHdr ip ipProtoUdp

/-- What arrives of a payload: not more than a packet holds, and not less than a frame. -/
def onceFramed (buff : List UInt8) : List UInt8 :=
  buff.take maxUdpPayload ++ List.replicate (18 - buff.length) 0

section Sender

variable (id : SkbId) (sock : UdpSock) (buff : List UInt8) (ip : UInt32) (port : UInt16)

theorem udpPacket_len : (udpPacket id sock buff ip port).len = 28 + min maxUdpPayload buff.length := by
  show 0 + 8 + (buff.take maxUdpPayload).length + 20 = _
  rw [List.length_take]
  omega

/-- The bytes behind the IP header are those of the datagram. -/
theorem udpPacket_mem {q : Nat} (hq : 60 ≤ q) : (udpPacket id sock buff ip port).mem q
    = (udpDatagram id sock (buff.take maxUdpPayload) port).mem q :=
  withIpHdr_mem_behind (by show 20 ≤ 60; omega) hq

theorem udpPacket_srcPort : UInt16.ofNat (ntohs ((udpPacket id sock buff ip port).mem.load16
    ((udpPacket id sock buff ip port).data + 20)).toNat) = sock.localPort := by
  have hload : (udpPacket id sock buff ip port).mem.load16 60
      = (udpDatagram id sock (buff.take maxUdpPayload) port).mem.load16 60 :=
    Memory.load16_congr (udpPacket_mem _ _ _ _ _ (by omega)) (udpPacket_mem _ _ _ _ _ (by omega))
  have hword : OnesComplement.word (udpDatagram id sock (buff.take maxUdpPayload) port).mem 60
      = sock.localPort.toNat := by
    -- the other fields are written behind the port
    have hport : OnesComplement.word ((Memory.write (fun _ => 0) 68 (buff.take maxUdpPayload)).store16 60
        (UInt16.ofNat (htons sock.localPort.toNat))) 60 = sock.localPort.toNat :=
      word_store16_htons _ _ (UInt16.toNat_lt sock.localPort)
    rw [← hport]
    show OnesComplement.word ((Memory.store16 _ 62 _).store16 64 _) 60 = _
    unfold OnesComplement.word
    rw [Memory.store16_outside _ _ (by omega), Memory.store16_outside _ _ (by omega),
      Memory.store16_outside _ _ (by omega), Memory.store16_outside _ _ (by omega)]
    rfl
  show UInt16.ofNat (ntohs ((udpPacket id sock buff ip port).mem.load16 60).toNat) = _
  rw [hload, ntohs_load16, hword, UInt16.ofNat_toNat]

theorem udpPacket_port : (udpPacket id sock buff ip port).port = port := by
  have hload : (udpPacket id sock buff ip port).mem.load16 62
      = (udpDatagram id sock (buff.take maxUdpPayload) port).mem.load16 62 :=
    Memory.load16_congr (udpPacket_mem _ _ _ _ _ (by omega)) (udpPacket_mem _ _ _ _ _ (by omega))
  refine Eq.trans ?_ (udpDst_udpDatagram id sock (buff.take maxUdpPayload) port)
  exact congrArg (fun v : UInt16 => UInt16.ofNat (ntohs v.toNat)) hload

theorem udpPacket_payload : (udpPacket id sock buff ip port).onWire.drop 28 = onceFramed buff := by
  have hlen := udpPacket_len id sock buff ip port
  have hmax : maxPacket = 2030 := rfl
  have hpay : maxUdpPayload = 1446 := rfl
  have htake : (buff.take maxUdpPayload).length = min maxUdpPayload buff.length := List.length_take
  have hbytes : (onceFramed buff).length = max (28 + min maxUdpPayload buff.length) 46 - 28 := by
    rw [onceFramed, List.length_append, htake, List.length_replicate]
    omega
  have hwire : (udpPacket id sock buff ip port).onWire.drop 28
      = (udpPacket id sock buff ip port).mem.read 68 (onceFramed buff).length := by
    rw [SkBuff.onWire, Memory.drop_read _ _ (by omega), hlen, hbytes]
    exact congrArg _ (by omega)
  rw [hwire]
  refine List.ext_getElem (Memory.length_read _ _ _) fun k hk hk' => ?_
  rw [Memory.getElem_read, udpPacket_mem _ _ _ _ _ (by omega)]
  show (((Memory.write (fun _ => 0) 68 (buff.take maxUdpPayload)).store16 60 _).store16 62 _).store16 64 _
    (68 + k) = _
  rw [Memory.store16_outside _ _ (by omega), Memory.store16_outside _ _ (by omega),
    Memory.store16_outside _ _ (by omega)]
  rw [← List.getD_eq_getElem (onceFramed buff) 0 hk', onceFramed]
  by_cases hin : k < (buff.take maxUdpPayload).length
  · rw [Memory.write_inside _ _ _ hin, List.getD_append _ _ _ _ hin]
  · rw [Memory.write_outside _ _ (by omega), List.getD_append_right _ _ _ _ (by omega),
      List.getD_replicate 0 (by omega)]

/-- **The message of the packet is the payload**, from the port of the socket. -/
theorem udpPacket_message (src : UInt32) : (udpPacket id sock buff ip port).message src
    = ⟨⟨src, sock.localPort⟩, onceFramed buff⟩ := by
  unfold SkBuff.message
  rw [udpPacket_srcPort, udpPacket_payload]

theorem onTheWay_udpPacket (i : IntfId) (src : UInt32) :
    OnTheWay (udpPacket id sock buff ip port).onWire 64 ((udpPacket id sock buff ip port).routed i src) := by
  obtain ⟨hlen, hsame⟩ := sameRoute_routed (udpPacket id sock buff ip port) i src
  refine ⟨?_, ?_, ?_, ?_, ?_⟩
  · rw [routed_len, udpPacket_len, maxPacket, recvBufferSize, recvReservedHeadRoom, ethHdrSize,
      maxUdpPayload]
    omega
  · rw [hsame 0 (by omega), getD_onWire _ (by omega)]
    exact ipHlen_withIpHdr
  · rw [hsame 8 (by omega), udpPacket, ttl_onWire]
    rfl
  · rw [hsame 9 (by omega), getD_proto, udpPacket, proto_withIpHdr]
  · exact cargo_congr hlen fun k hk => hsame k (by omega)

end Sender

/-- The process when `udp_sendto` hands its packet to `ip_postroute`. -/
def World.sending (w : World) (n : NodeId) (sock : UdpSock) (buff : List UInt8) (ip : UInt32)
    (port : UInt16) : World :=
  w.allocated.output n ip ipProtoUdp (udpDatagram w.nextId sock (buff.take maxUdpPayload) port)

theorem Puts.sending (w : World) (n : NodeId) (sock : UdpSock) (buff : List UInt8) (ip : UInt32)
    (port : UInt16) : Puts [] w (w.sending n sock buff ip port) :=
  (Puts.allocated w).trans (.logged w.allocated 0 [.ipOutput n ip ipProtoUdp
    (udpDatagram w.nextId sock (buff.take maxUdpPayload) port)])

theorem linkRoom_udpPacket (id : SkbId) (sock : UdpSock) (buff : List UInt8) (ip : UInt32)
    (port : UInt16) (i : IntfId) (src : UInt32) :
    LinkRoom ((udpPacket id sock buff ip port).routed i src) :=
  ((packed_udpDatagram id sock (buff.take maxUdpPayload) port).sendable ip ipProtoUdp i src).toLinkRoom

/-- **`udp_sendto` of a bound socket** comes down to `ip_postroute`. -/
theorem udpSendto_passes {w : World} {fd : Int} {k : SockId} {sock : UdpSock}
    (hfd : goodUdpSock w fd = some k) (hsock : w.udpSock k = some sock) (hbound : sock.bound = true)
    {o : IntfId} {out : Intf} (hintf : sock.intf = some o) (hout : w.intf o = some out)
    (buff : List UInt8) (ip : UInt32) (port : UInt16) :
    udpSendto ipInput fd buff ip port w = (do
      let sent ← ipPostroute ipInput out.node (udpPacket w.nextId sock buff ip port)
      pure (if sent then (min buff.length maxUdpPayload : Nat) else -1) : M Int)
        (w.sending out.node sock buff ip port) := by
  have hbuff : buff.take (min buff.length maxUdpPayload) = buff.take maxUdpPayload := by
    rw [Nat.min_comm, ← List.take_take, List.take_length]
  have hderef : derefIntfPtr sock.intf w.allocated = .ok out w.allocated :=
    derefIntfPtr_ok.mpr ⟨⟨o, hintf, hout⟩, rfl⟩
  have hpush : ipHdrSize ≤ (udpDatagram w.nextId sock (buff.take maxUdpPayload) port).data := by
    rw [(packed_udpDatagram w.nextId sock (buff.take maxUdpPayload) port).data]
    decide
  have hudp : udpOut ipInput sock (buff.take maxUdpPayload) ip port w
      = ipPostroute ipInput out.node (udpPacket w.nextId sock buff ip port)
        (w.sending out.node sock buff ip port) := by
    rw [udpOut_run]
    refine (run_bind_ok hderef).trans ((run_bind_ok (a := ⟨⟩)
      (t := w.sending out.node sock buff ip port) (log_ok.mpr rfl)).trans ?_)
    exact run_bind_ok (skbPush_ok.mpr ⟨hpush, rfl, rfl⟩)
  unfold udpSendto
  rw [run_bind_ok (run_get w), hfd]
  dsimp only
  rw [run_bind_ok (derefUdpSock_ok.mpr ⟨hsock, rfl⟩), if_neg (not_not.mpr hbound), hbuff]
  exact run_bind_congr hudp

/-- **`udp_sendto` puts its packet on the first link.** -/
theorem udpSendto_leg {w : World} (hg : GraphOk w) (hsys : 0 ≤ w.sysSend w.numSends) {fd : Int}
    {k : SockId} {sock : UdpSock} (hfd : goodUdpSock w fd = some k) (hsock : w.udpSock k = some sock)
    (hbound : sock.bound = true) {o j : IntfId} {out nbr : Intf} {rt : RtEntry} {entry : ArpEntry}
    {ip : UInt32} (hintf : sock.intf = some o) (hout : w.intf o = some out)
    (hforeign : isIpLocal w out.node ip = false) (hleg : Leg w out.node ip o j rt entry nbr)
    (buff : List UInt8) (port : UInt16) :
    ∃ w', udpSendto ipInput fd buff ip port w = .ok (min buff.length maxUdpPayload : Nat) w' ∧
      Puts [(o, ethFrame nbr.macAddr out.macAddr ethProtoIp
        ((udpPacket w.nextId sock buff ip port).routed o out.ipAddr))] w w' ∧
      w'.numSends = w.numSends + 1 := by
  let w₁ := w.sending out.node sock buff ip port
  have hleg₁ : Leg w₁ out.node ip o j rt entry nbr :=
    ⟨hleg.route, hleg.out, hleg.found, hleg.resolved, hleg.link, hleg.live, hleg.mac, hleg.mode,
      hleg.backend⟩
  have hread : HeaderRead (fun _ => False) w₁ (udpPacket w.nextId sock buff ip port) := by
    have hpacked := packed_udpDatagram w.nextId sock (buff.take maxUdpPayload) port
    have hlen := hpacked.len
    refine Or.inr fun _ => ?_
    rw [udpPacket, withIpHdr_data, ipHlen_withIpHdr, withIpHdr_tail, hpacked.data]
    rw [hpacked.data] at hlen
    simp only [buffHeadroom, ipHdrSize, recvReservedHeadRoom] at hlen ⊢
    omega
  have hg₁ : GraphOk w₁ := hg.of_frame rfl rfl rfl
  have hby : (udpPacket w.nextId sock buff ip port).intf = some o := hintf
  obtain ⟨out', w', hout', hrun, hputs, hsent⟩ := ipPostroute_leg ipInput hg₁ hsys hleg₁
    (dstIp_withIpHdr _ _) (Or.inr hby) hforeign (linkRoom_udpPacket _ _ _ _ _) hread
  obtain rfl := Option.some.inj (hout.symm.trans hout')
  refine ⟨w', ?_, (Puts.sending w out.node sock buff ip port).trans hputs, hsent⟩
  rw [udpSendto_passes hfd hsock hbound hintf hout]
  exact run_bind_ok hrun

/--
**A datagram arrives.**  Along a way of at most 63 routers, each of which has a route and knows the
address of the next hop, a datagram that a socket sends is delivered by as many frames as the way
has links, and by no others: its payload is at the end of the queue of the socket it is for, padded
if it was shorter than a frame, with the port it was sent from and the address of the interface it
last left by, which is the sender's own when there is no router.  No other queue and no table has
changed, and when nothing else is queued `udp_recvfrom` returns it.
-/
theorem datagram_arrives {w : World} (hw : Reachable w) (hforward : w.ipForwardEnable = true)
    {routers : Nat} (hrouters : routers < 64)
    (hsys : ∀ m, m ≤ routers → 0 ≤ w.sysSend (w.numSends + m)) {fd : Int} {k₀ : SockId}
    {sock : UdpSock} (hfd : goodUdpSock w fd = some k₀) (hsock : w.udpSock k₀ = some sock)
    (hbound : sock.bound = true) {o₁ j₁ : IntfId} {out : Intf} (hintf : sock.intf = some o₁)
    (hout : w.intf o₁ = some out) {ip : UInt32} (hleg : w.leg out.node ip = some (o₁, j₁))
    (hforeign : isIpLocal w out.node ip = false) {o j : IntfId}
    (hway : w.way ip routers out.node = some (o, j)) {port : UInt16} {k : SockId}
    (hk : udpSocksManagerFind w j port = some k) (buff : List UInt8) :
    ∃ last there there' w₁ w', w.intf o = some last ∧ w.udpSock k = some there ∧
      udpSendto ipInput fd buff ip port w = .ok (min buff.length maxUdpPayload : Nat) w₁ ∧
      runMoves w (.call (.udpSendto fd buff ip port) :: List.replicate (routers + 1) .deliver)
        = some (w', []) ∧
      w'.udpSock k = some there' ∧
      there'.unread = there.unread ++ [⟨⟨last.ipAddr, sock.localPort⟩, onceFramed buff⟩] ∧
      (∀ k', k' ≠ k → w'.udpSock k' = w.udpSock k') ∧ w'.arpTable = w.arpTable ∧
      ∀ fd' size, goodUdpSock w fd' = some k → there.bound = true → there.rxSkb = [] →
        (onceFramed buff).length ≤ size → ∃ w'', udpRecvfrom fd' size true true w'
          = .ok (some ⟨onceFramed buff, some last.ipAddr, some sock.localPort⟩) w'' := by
  have hg := hw.graphOk
  obtain ⟨rt, entry, nbr, hthere⟩ := leg_eq_some hleg
  obtain ⟨w₁, hsend, hputs, hsent⟩ := udpSendto_leg hg (hsys 0 (Nat.zero_le _)) hfd hsock hbound hintf
    hout hforeign hthere buff port
  have hframe := hputs.emits
  have hleg₁ : w₁.leg out.node ip = some (o₁, j₁) := by
    rw [hframe.frame]
    exact hleg
  have hsys₁ : ∀ m, m < routers → 0 ≤ w₁.sysSend (w₁.numSends + m) := by
    intro m hm
    rw [hframe.sysSend, hsent, Nat.add_assoc]
    exact hsys (1 + m) (by omega)
  have hk₁ : udpSocksManagerFind w₁ j (udpPacket w.nextId sock buff ip port).port = some k := by
    rw [udpPacket_port, hframe.frame]
    exact hk
  obtain ⟨last, w', hlast, hmoves, harrived⟩ := delivers_along (t := udpPacket w.nextId sock buff ip port)
    (dstIp_withIpHdr _ _) routers (hg.of_frame hframe.intf hframe.link hframe.rtTable)
    hsys₁ (by rw [hframe.frame]; exact hforward) hk₁
    ((way_emits hframe ip routers out.node).trans hway) hleg₁ (by rw [hframe.intf]; exact hout)
    (by rw [hframe.intf]; exact hthere.live) (onTheWay_udpPacket w.nextId sock buff ip port o₁ out.ipAddr)
    (srcIp_routed _ _ _) hrouters out.macAddr
  rw [hframe.intf] at hlast
  rw [udpPacket_message] at harrived
  have harrived := harrived.of_emits hframe
  obtain ⟨there, there', hthere', hend, hunread⟩ := harrived.unread
  refine ⟨last, there, there', w₁, w', hlast, hthere', hsend, ?_, hend, hunread,
    fun k' hk' => harrived.elsewhere hk', harrived.arpTable, fun fd' size hfd' hbound' hempty hsize =>
      harrived.recvfrom hfd' hthere' hbound' hempty hsize⟩
  have hcall : NetMove.step? w (.call (.udpSendto fd buff ip port)) []
      = some (w₁, launched w w₁) := by
    have hstep : (Op.udpSendto fd buff ip port).step? w = some w₁ :=
      Op.step?_eq_some.mpr ⟨trivial, _, run_bind_ok hsend⟩
    show ((Op.udpSendto fd buff ip port).step? w).map _ = _
    rw [hstep]
    rfl
  rw [runMoves, List.foldlM_cons, hcall, hputs.launched hthere.link]
  exact hmoves

/-- `node1` reaches `172.16.10.2` by way of `node0`, and both ends have a socket.  A first message
makes every node on the way ask for the address of its next hop. -/
def Fixture.routedMoves : List NetMove :=
  configure.map .call ++
    [.call (.rtTableAddRoute 1 (addr 172 16 0 0) 16 (addr 192 168 89 1) 1),
      .call (.udpSocket 1), .call (.udpBind 0 (addr 192 168 89 2) 9),
      .call (.udpSocket 2), .call (.udpBind 1 (addr 172 16 10 2) 7),
      .call (.icmpOut 1 (addr 172 16 10 2) 8 0 [])] ++ List.replicate 9 .deliver

/-- What `datagram_arrives` asks of the way from the socket `0` to the socket `1`. -/
def Fixture.routed (w : World) : Bool :=
  w.ipForwardEnable && decide (0 ≤ w.sysSend w.numSends ∧ 0 ≤ w.sysSend (w.numSends + 1)) &&
    ((goodUdpSock w 0).bind w.udpSock).any (fun sock => sock.bound && sock.intf == some 1) &&
    (w.intf 1).any (fun out => out.node == 1) &&
    decide (w.leg 1 (addr 172 16 10 2) = some (1, 0) ∧ isIpLocal w 1 (addr 172 16 10 2) = false ∧
      w.way (addr 172 16 10 2) 1 1 = some (2, 3) ∧ udpSocksManagerFind w 3 7 = some 1)

theorem datagram_arrives_fixture : ∃ w w' there there' sock last, Reachable w ∧
    w.udpSock 1 = some there ∧ w'.udpSock 1 = some there' ∧
    runMoves w [.call (.udpSendto 0 [1, 2, 3] (Fixture.addr 172 16 10 2) 7), .deliver, .deliver]
      = some (w', []) ∧
    there'.unread = there.unread
      ++ [⟨⟨Intf.ipAddr last, UdpSock.localPort sock⟩, onceFramed [1, 2, 3]⟩] := by
  have hsome : (runMoves Fixture.graph Fixture.routedMoves).any (fun N => Fixture.routed N.1) = true := by
    decide +kernel
  obtain ⟨⟨w, air⟩, hmoves, hrouted⟩ := (Option.any_eq_true _ _).mp hsome
  obtain ⟨calls, delivered, hrun, -⟩ := NetRun.of_moves hmoves
  have hw := hrun.reachable (.init Fixture.graph_initial)
  simp only [Fixture.routed, Bool.and_eq_true, decide_eq_true_eq] at hrouted
  obtain ⟨⟨⟨⟨hforward, hsys⟩, hsock⟩, hout⟩, hleg, hforeign, hway, hk⟩ := hrouted
  obtain ⟨sock, hsock, hfields⟩ := (Option.any_eq_true _ _).mp hsock
  obtain ⟨k₀, hfd, hsock⟩ := Option.bind_eq_some_iff.mp hsock
  obtain ⟨hbound, hintf⟩ := Bool.and_eq_true_iff.mp hfields
  obtain ⟨out, hout, hnode⟩ := (Option.any_eq_true _ _).mp hout
  have hnode : out.node = 1 := beq_iff_eq.mp hnode
  have hsys' : ∀ m, m ≤ 1 → 0 ≤ w.sysSend (w.numSends + m) := by
    intro m hm
    rcases Nat.le_one_iff_eq_zero_or_eq_one.mp hm with rfl | rfl
    · exact hsys.1
    · exact hsys.2
  obtain ⟨last, there, there', _, w', -, hthere, -, hall, hthere', hunread, -⟩ :=
    datagram_arrives hw hforward (by decide) hsys' hfd hsock hbound (beq_iff_eq.mp hintf) hout
      (by rw [hnode]; exact hleg) (by rw [hnode]; exact hforeign) (by rw [hnode]; exact hway) hk
      [1, 2, 3]
  exact ⟨w, w', there, there', sock, last, hw, hthere, hthere', hall, hunread⟩

end SimpleTcpip
