/-
Datagrams on their way.

A datagram passes through routers, waits for addresses and travels on links that may delay,
reorder or lose it.  On every hop the header in front of it is written anew; the destination
address and what follows is not.  So a datagram that was sent once is read once at most, by
whoever it reaches, with the bytes it was sent with.

The books are kept in bags of datagrams: a packet is worth the datagram in it, and nothing else
is worth anything.
-/
import SimpleTcpip.Proofs.Network

namespace SimpleTcpip

open Fallible Ledger

/-- What routers leave alone in a packet: the destination address, the UDP header and the
payload. -/
def cargo (p : List UInt8) : List UInt8 := p.drop 16

/-- A packet is worth the datagram in it. -/
def datagramTariff : Tariff (Multiset (List UInt8)) where
  packet p := if p.getD 9 0 = ipProtoUdp then {cargo p} else 0
  queued p := {cargo p}
  ask := 0
  answer := 0
  conn := 0
  own := 0
  tick := 0

theorem cargo_congr {p q : List UInt8} (hlen : p.length = q.length)
    (h : ∀ k, 16 ≤ k → p.getD k 0 = q.getD k 0) : cargo p = cargo q := by
  refine List.ext_getElem (by rw [cargo, cargo, List.length_drop, List.length_drop, hlen])
    fun k hk hk' => ?_
  have hk1 : 16 + k < p.length := by
    rw [cargo, List.length_drop] at hk
    omega
  have hk2 : 16 + k < q.length := hlen ▸ hk1
  have hat := h (16 + k) (Nat.le_add_right _ _)
  rw [List.getD_eq_getElem _ _ hk1, List.getD_eq_getElem _ _ hk2] at hat
  simpa only [cargo, List.getElem_drop] using hat

/-- **No function makes a datagram, or changes one.** -/
theorem datagramTariff_fair : datagramTariff.Fair where
  route p q h := by
    simp only [datagramTariff, h.2 9 (by omega), cargo_congr h.1 fun k hk => h.2 k (by omega)]
  answer := le_rfl
  reply := le_rfl
  handled _ := Multiset.zero_le _
  passed p q h := by
    have hsame : datagramTariff.packet q = datagramTariff.packet p := by
      simp only [datagramTariff, h.2.1 9 (by omega), cargo_congr h.1 fun k hk => h.2.1 k (by omega)]
    show datagramTariff.packet q + 0 + 0 ≤ datagramTariff.packet p
    rw [hsame, add_zero, add_zero]
  datagram p hproto := by
    show {cargo p} + 0 ≤ if p.getD 9 0 = ipProtoUdp then {cargo p} else 0
    rw [if_pos hproto, add_zero]
  echo _ _ _ := Multiset.zero_le _
  opens _ _ _ := Multiset.zero_le _
  closes := le_rfl
  own p h := by
    have hother : p.getD 9 0 ≠ ipProtoUdp := by
      obtain ⟨-, ⟨hproto, -⟩ | ⟨hproto, -⟩⟩ := h
      · exact fun hudp => absurd (hproto.symm.trans hudp) (by decide)
      · exact fun hudp => absurd (hproto.symm.trans hudp) (by decide)
    show (if p.getD 9 0 = ipProtoUdp then {cargo p} else 0) + 0 ≤ 0
    rw [if_neg hother, add_zero]

/-! ### Where datagrams are -/

/-- The datagram in a frame, if it holds one. -/
def frameDatagram (frame : List UInt8) : Multiset (List UInt8) :=
  if ((recvBuffer 0 0 frame).mem.load16 (recvReservedHeadRoom + 12)).toNat = htons ethProtoIp.toNat ∧
      (recvBuffer 0 0 frame).ipPacket.proto = ipProtoUdp then
    {cargo (recvBuffer 0 0 frame).ipPacket.onWire}
  else 0

/-- The datagrams in flight. -/
def flyingDatagrams (air : Air) : Multiset (List UInt8) := (air.map fun f => frameDatagram f.2).sum

/-- The datagrams that wait for an address at a node. -/
def waitingDatagrams (w : World) (n : NodeId) : Multiset (List UInt8) :=
  ((w.arpTable n).map fun entry =>
    (entry.pendingPkts.map fun skb =>
      if skb.proto = ipProtoUdp then ({cargo skb.onWire} : Multiset (List UInt8)) else 0).sum).sum

/-- The datagrams a socket has queued. -/
def queuedDatagrams (w : World) (k : SockId) : Multiset (List UInt8) :=
  (w.udpSock k).elim 0 fun sock =>
    (sock.rxSkb.map fun skb => ({cargo skb.rewound.onWire} : Multiset (List UInt8))).sum

/-- The datagram a call sends, or brings in from outside. -/
def Call.sentDatagram (call : Call) : Multiset (List UInt8) :=
  match call.op, call.ret with
  | .recvFrame _ frame, _ => frameDatagram frame
  | .udpSendto sockfd buff ip port, .int r =>
      if 0 ≤ r then
        (SimpleTcpip.sentDatagram call.before sockfd buff ip port).elim 0 fun skb => {cargo skb.onWire}
      else 0
  | _, _ => 0

/-- The datagram a call reads to its end. -/
def Call.readDatagram (call : Call) : Multiset (List UInt8) :=
  match call.op, call.ret with
  | .udpRecvfrom sockfd size _ _, .datagram (some _) =>
      (drained call.before sockfd size).elim 0 fun skb => {cargo skb.rewound.onWire}
  | _, _ => 0

/-! ### The books -/

theorem frame_datagramTariff (frame : List UInt8) :
    datagramTariff.frame frame = frameDatagram frame := by
  unfold Tariff.frame frameDatagram
  dsimp only
  rw [show (recvBuffer 0 0 frame).data = recvReservedHeadRoom from rfl]
  by_cases htype : ((recvBuffer 0 0 frame).mem.load16 (recvReservedHeadRoom + 12)).toNat
      = htons ethProtoIp.toNat
  · rw [if_pos htype]
    refine (if_congr ?_ rfl rfl).symm
    rw [getD_proto]
    exact and_iff_right htype
  · rw [if_neg htype]
    refine Eq.trans ?_ (if_neg fun h => htype h.1).symm
    exact ite_self 0

theorem held_link (w : World) (air : Air) :
    datagramTariff.held (w, air) .link = flyingDatagrams air := by
  refine congrArg Multiset.sum (Multiset.map_congr rfl fun f _ => ?_)
  exact frame_datagramTariff f.2

theorem held_arp (w : World) (air : Air) (n : NodeId) :
    datagramTariff.held (w, air) (.arp n) = waitingDatagrams w n := by
  refine congrArg List.sum (List.map_congr_left fun entry _ => ?_)
  refine congrArg List.sum (List.map_congr_left fun skb _ => ?_)
  exact if_congr (by rw [getD_proto]) rfl rfl

theorem posted_datagramTariff (skb : SkBuff) (ip : UInt32) (proto : UInt8) :
    datagramTariff.posted (skb.withIpHdr ip proto)
      = if proto = ipProtoUdp then {cargo (skb.withIpHdr ip proto).onWire} else 0 := by
  show (if (skb.withIpHdr ip proto).onWire.getD 9 0 = ipProtoUdp then _ else _) + 0 = _
  rw [add_zero, getD_proto, proto_withIpHdr]

theorem income_datagramTariff (call : Call) :
    datagramTariff.income call.before call.op call.ret = call.sentDatagram := by
  obtain ⟨w, op, r, w'⟩ := call
  cases op with
  | recvFrame i frame => exact frame_datagramTariff frame
  | udpSendto fd buff ip port =>
      cases r with
      | int r =>
          simp only [Tariff.income, Call.sentDatagram, sentDatagram]
          refine if_congr Iff.rfl ?_ rfl
          cases (goodUdpSock w fd).bind w.udpSock with
          | none => rfl
          | some sock =>
              rw [Option.map_some, Option.elim_some, Option.elim_some, posted_datagramTariff,
                if_pos rfl]
      | _ => rfl
  | icmpOut n ip type code payload => exact posted_datagramTariff _ ip ipProtoIcmp
  | ping n ipAddr => exact posted_datagramTariff _ _ ipProtoIcmp
  | _ => rfl

theorem outgo_datagramTariff (call : Call) :
    datagramTariff.outgo call.before call.op call.ret = call.readDatagram := by
  obtain ⟨w, op, r, w'⟩ := call
  cases op with
  | udpRecvfrom fd size wantIp wantPort =>
      cases r with
      | datagram d => cases d <;> rfl
      | _ => rfl
  | _ => rfl

theorem incomes_datagramTariff (calls : List Call) :
    datagramTariff.incomes calls = (calls.map Call.sentDatagram).sum :=
  congrArg List.sum (List.map_congr_left fun call _ => income_datagramTariff call)

theorem outgos_datagramTariff (calls : List Call) :
    datagramTariff.outgos calls = (calls.map Call.readDatagram).sum :=
  congrArg List.sum (List.map_congr_left fun call _ => outgo_datagramTariff call)

/-- The links, some nodes and some sockets. -/
def placesOf (nodes : Finset NodeId) (socks : Finset SockId) : Finset Place :=
  insert .link (nodes.map ⟨.arp, fun _ _ heq => Place.arp.inj heq⟩
    ∪ socks.map ⟨.udp, fun _ _ heq => Place.udp.inj heq⟩)

/-- What is held there. -/
theorem total_placesOf (w : World) (air : Air) (nodes : Finset NodeId) (socks : Finset SockId) :
    total datagramTariff.held (placesOf nodes socks) (w, air) = flyingDatagrams air
      + (∑ n ∈ nodes, waitingDatagrams w n + ∑ k ∈ socks, queuedDatagrams w k) := by
  have hdisjoint : Disjoint (nodes.map ⟨Place.arp, fun _ _ heq => Place.arp.inj heq⟩)
      (socks.map ⟨Place.udp, fun _ _ heq => Place.udp.inj heq⟩) := by
    rw [Finset.disjoint_left]
    intro place hn hk
    obtain ⟨n, -, rfl⟩ := Finset.mem_map.mp hn
    obtain ⟨k, -, hk⟩ := Finset.mem_map.mp hk
    cases hk
  have hlink : Place.link ∉ nodes.map ⟨Place.arp, fun _ _ heq => Place.arp.inj heq⟩
      ∪ socks.map ⟨Place.udp, fun _ _ heq => Place.udp.inj heq⟩ := by
    rw [Finset.mem_union]
    rintro (hn | hk)
    · obtain ⟨n, -, hn⟩ := Finset.mem_map.mp hn
      cases hn
    · obtain ⟨k, -, hk⟩ := Finset.mem_map.mp hk
      cases hk
  rw [total, placesOf, Finset.sum_insert hlink, Finset.sum_union hdisjoint, Finset.sum_map,
    Finset.sum_map, held_link]
  refine congrArg₂ _ rfl (congrArg₂ _ (Finset.sum_congr rfl fun n _ => ?_) ?_)
  · exact held_arp w air n
  · rfl

/--
**No datagram is made, changed, redirected or duplicated.**  Whatever the topology, the routes
and the order in which frames arrive or get lost: the datagrams read to their end, those in
flight, those that wait for addresses and those in the queues of sockets were all sent, each as
often as it is there.
-/
theorem datagrams_conserved {w₀ w : World} (hw : Initial w₀) {calls delivered : List Call} {air : Air}
    (h : NetRun w₀ calls delivered air w) (nodes : Finset NodeId) (socks : Finset SockId) :
    (calls.map Call.readDatagram).sum + flyingDatagrams air + ∑ n ∈ nodes, waitingDatagrams w n
        + ∑ k ∈ socks, queuedDatagrams w k ≤ (calls.map Call.sentDatagram).sum := by
  have hsettled := h.settled datagramTariff_fair hw (placesOf nodes socks)
  rw [total_placesOf, incomes_datagramTariff, outgos_datagramTariff] at hsettled
  refine le_trans (le_of_eq ?_) hsettled
  rw [show datagramTariff.tick = 0 from rfl, smul_zero]
  abel

/-- Port 9 of `192.168.89.2` sends a datagram to port 7 of `192.168.89.1`, where it is read. -/
def Fixture.datagramMoves : List NetMove :=
  configure.map .call ++
    [.call (.udpSocket 0), .call (.udpBind 0 (addr 192 168 89 1) 7),
      .call (.udpSocket 1), .call (.udpBind 1 (addr 192 168 89 2) 9),
      .call (.udpSendto 1 [1, 2, 3] (addr 192 168 89 1) 7), .deliver, .deliver, .deliver,
      .call (.udpRecvfrom 0 100 true true)]

theorem datagrams_conserved_fixture : ∃ calls delivered air w,
    NetRun Fixture.graph calls delivered air w ∧
      calls.map Call.op = Fixture.datagramMoves.filterMap NetMove.op? ∧ delivered.length = 3 ∧
      (calls.map Call.readDatagram).sum + flyingDatagrams air
        + ∑ n ∈ Finset.range 3, waitingDatagrams w n
        + ∑ k ∈ {0, 1}, queuedDatagrams w k ≤ (calls.map Call.sentDatagram).sum := by
  have hsome : (runMoves Fixture.graph Fixture.datagramMoves).isSome = true := by decide +kernel
  obtain ⟨⟨w, air⟩, hmoves⟩ := Option.isSome_iff_exists.mp hsome
  obtain ⟨calls, delivered, hrun, hcalls, hlen, -⟩ := NetRun.of_moves hmoves
  exact ⟨calls, delivered, air, w, hrun, hcalls, hlen.trans (by decide),
    datagrams_conserved Fixture.graph_initial hrun _ _⟩

end SimpleTcpip
