/-
Where nothing is lost.

A datagram is lost when a frame is, when a router has no route, when a hop count runs out, when an
address belongs to two neighbours, or when nobody has the port it is for.  Where none of this
happens, no function of any node lets it go: it is put on a link, or waits until the next hop has
answered, and ends in the queue of the socket it is for.

This is said with the books of Traffic, for amounts of any kind.  What holds in every order of
amounts holds in the reverse order too, where the books bound from below what they bound from
above.
-/
import SimpleTcpip.Proofs.Arrival
import SimpleTcpip.Proofs.Asking

namespace SimpleTcpip

open Fallible Ledger

/-! ### The way of a datagram -/

/-- The next hop of a packet: the interface it leaves by, and the one that takes it. -/
structure Onward (w : World) (n : NodeId) (dst : UInt32) (i j : IntfId) (x y : Intf) : Prop
    extends Adjacent w i j x y where
  node : x.node = n
  foreign : isIpLocal w n dst = false
  route : ∃ rt, rtLookupLpm (w.rtTable n) dst = some rt ∧ rt.intf = i ∧ rt.target dst = y.ipAddr

/-- A datagram that leaves a node reaches one of the sockets, by way of some routers. -/
inductive Reaches (w : World) (socks : Finset SockId) (dst : UInt32) (port : UInt16) :
    Nat → NodeId → Prop
  | last {n : NodeId} {i j : IntfId} {x y : Intf} {k : SockId} (hop : Onward w n dst i j x y)
      (hown : isIpLocal w y.node dst = true) (hk : udpSocksManagerFind w j port = some k)
      (hmem : k ∈ socks) : Reaches w socks dst port 0 n
  | router {m : Nat} {n : NodeId} {i j : IntfId} {x y : Intf} (hop : Onward w n dst i j x y)
      (hforward : w.ipForwardEnable = true) (hrest : Reaches w socks dst port m y.node) :
      Reaches w socks dst port (m + 1) n

/-- There is one next hop. -/
theorem Onward.unique {w : World} {n : NodeId} {dst : UInt32} {i j i' j' : IntfId} {x y x' y' : Intf}
    (h : Onward w n dst i j x y) (h' : Onward w n dst i' j' x' y') :
    i = i' ∧ j = j' ∧ x = x' ∧ y = y' := by
  obtain ⟨rt, hrt, hi, -⟩ := h.route
  obtain ⟨rt', hrt', hi', -⟩ := h'.route
  obtain rfl := Option.some.inj (hrt.symm.trans hrt')
  obtain rfl := hi.symm.trans hi'
  obtain rfl := Option.some.inj (h.there.symm.trans h'.there)
  exact ⟨rfl, rfl, Option.some.inj (h.near.symm.trans h'.near),
    Option.some.inj (h.far.symm.trans h'.far)⟩

/-- A node that a datagram passes is not the one it is for. -/
theorem Reaches.foreign {w : World} {socks : Finset SockId} {dst : UInt32} {port : UInt16} {m : Nat}
    {n : NodeId} (h : Reaches w socks dst port m n) : isIpLocal w n dst = false := by
  cases h with
  | last hop _ _ _ => exact hop.foreign
  | router hop _ _ => exact hop.foreign

/-- A packet with a datagram for one of the sockets, at a node, and the link it takes next. -/
def Heading (w : World) (socks : Finset SockId) (n : NodeId) (s : SkBuff) (i j : IntfId)
    (x y : Intf) : Prop :=
  ∃ (t : SkBuff) (ttl m : Nat), Onward w n t.dstIp i j x y ∧ Reaches w socks t.dstIp t.port m n ∧
    m < ttl ∧ OnTheWay t.onWire ttl s

/-- The frames in flight. -/
inductive Explained (w : World) (socks : Finset SockId) : IntfId × List UInt8 → Prop
  | request {i j : IntfId} {x y : Intf} (h : Adjacent w i j x y) :
      Explained w socks (j, x.requestFrame y.ipAddr)
  | reply {i j : IntfId} {x y : Intf} (h : Adjacent w i j x y) : Explained w socks (i, y.replyFrame x)
  | datagram {n : NodeId} {s : SkBuff} {i j : IntfId} {x y : Intf} (h : Heading w socks n s i j x y) :
      Explained w socks (j, ethFrame y.macAddr x.macAddr ethProtoIp s)

/-! ### What stays -/

/-- A socket without what it has queued. -/
def UdpSock.core (sock : UdpSock) : UdpSock := { sock with rxSkb := [] }

/-- What stays while datagrams are sent and read: everything but the ARP tables and the queues. -/
structure Still (w w' : World) : Prop where
  frame : w' = { w with
    arpTable := w'.arpTable, udpSock := w'.udpSock, nextId := w'.nextId, numSends := w'.numSends,
    trace := w'.trace }
  core : ∀ k, (w'.udpSock k).map UdpSock.core = (w.udpSock k).map UdpSock.core

namespace Still

variable {w w' w'' : World}

theorem refl (w : World) : Still w w := ⟨rfl, fun _ => rfl⟩

theorem trans (h : Still w w') (h' : Still w' w'') : Still w w'' :=
  ⟨by rw [h'.frame, h.frame], fun k => (h'.core k).trans (h.core k)⟩

theorem of_emits {P : Event → Prop} (h : Emits P w w') : Still w w' :=
  ⟨by rw [h.frame], fun k => by rw [h.udpSock]⟩

theorem intf (h : Still w w') : w'.intf = w.intf := by rw [h.frame]
theorem link (h : Still w w') : w'.link = w.link := by rw [h.frame]
theorem rtTable (h : Still w w') : w'.rtTable = w.rtTable := by rw [h.frame]
theorem sysSend (h : Still w w') : w'.sysSend = w.sysSend := by rw [h.frame]

theorem graphOk (h : Still w w') (hg : GraphOk w) : GraphOk w' :=
  hg.of_frame h.intf h.link h.rtTable

theorem isIpLocal (h : Still w w') (n : NodeId) (ip : UInt32) :
    isIpLocal w' n ip = isIpLocal w n ip := by
  rw [h.frame]
  rfl

theorem goodUdpSock (h : Still w w') (fd : Int) : goodUdpSock w' fd = goodUdpSock w fd := by
  rw [h.frame]
  rfl

/-- The ports are looked up as before. -/
theorem find (h : Still w w') (j : IntfId) (port : UInt16) :
    udpSocksManagerFind w' j port = udpSocksManagerFind w j port := by
  have hport : ∀ k, (w'.udpSock k).any (fun sock => sock.localPort == port)
      = (w.udpSock k).any fun sock => sock.localPort == port := by
    intro k
    have hcore : ∀ o : Option UdpSock, o.any (fun sock => sock.localPort == port)
        = (o.map UdpSock.core).any fun sock => sock.localPort == port := fun o => by cases o <;> rfl
    rw [hcore, h.core, ← hcore]
  have hsocks : w'.udpSocks = w.udpSocks := by rw [h.frame]
  unfold udpSocksManagerFind
  rw [hsocks]
  exact List.find?_congr fun k _ => hport k

/-- A socket has more or less queued. -/
theorem sock (h : Still w w') {k : SockId} {sock : UdpSock} (hsock : w.udpSock k = some sock) :
    ∃ sock', w'.udpSock k = some sock' ∧ sock'.core = sock.core := by
  have hcore := h.core k
  rw [hsock, Option.map_some] at hcore
  exact Option.map_eq_some_iff.mp hcore

theorem adjacent (h : Still w w') {i j : IntfId} {x y : Intf} (hadj : Adjacent w i j x y) :
    Adjacent w' i j x y := by
  obtain ⟨hnear, hfar, hx, hy, hthere, hback, hup, hup'⟩ := hadj
  rw [← nbrIf_congr h.intf h.link] at hthere hback
  rw [← up_congr h.intf h.link h.sysSend] at hup hup'
  rw [← h.intf] at hnear hfar
  exact ⟨hnear, hfar, hx, hy, hthere, hback, hup, hup'⟩

end Still

/-- **What holds of the tables of a network that loses nothing.** -/
structure Lossless (w₀ : World) (socks : Finset SockId) (w : World) : Prop where
  still : Still w₀ w
  /-- Who waits for an address will take the link it is for. -/
  waiting : ∀ n, ∀ entry ∈ w.arpTable n, ∀ s ∈ entry.pendingPkts,
    ∃ i j x y, Heading w₀ socks n s i j x y ∧ y.ipAddr = entry.ip ∧ s.intf = some i
  /-- A known address is that of the neighbour. -/
  known : ∀ {i j x y}, Adjacent w₀ i j x y → ∀ entry ∈ w.arpTable x.node, entry.ip = y.ipAddr →
    entry.resolved = true → entry.mac = y.macAddr
  /-- Nothing is queued elsewhere. -/
  queues : ∀ k, k ∉ socks → ∀ sock, w.udpSock k = some sock → sock.rxSkb = []

namespace Lossless

variable {w₀ w w' : World} {socks : Finset SockId}

theorem of_emits {P : Event → Prop} (hok : Lossless w₀ socks w) (h : Emits P w w') : Lossless w₀ socks w' := by
  refine ⟨hok.still.trans (.of_emits h), ?_, ?_, ?_⟩
  · rw [h.arpTable]
    exact hok.waiting
  · rw [h.arpTable]
    exact hok.known
  · rw [h.udpSock]
    exact hok.queues

/-- A packet comes to wait for the neighbour on its way. -/
theorem parked (hok : Lossless w₀ socks w) {n : NodeId} {s : SkBuff} {i j : IntfId} {x y : Intf}
    (hs : Heading w₀ socks n s i j x y) (hi : s.intf = some i)
    (hwait : Unresolved (w.arpTable n) y.ipAddr) : Lossless w₀ socks (w.parked n y.ipAddr i s) := by
  have htable : (w.parked n y.ipAddr i s).arpTable
      = Function.update w.arpTable n (parkPacket (w.arpTable n) y.ipAddr i s) := rfl
  refine ⟨hok.still.trans ⟨rfl, fun _ => rfl⟩, fun m entry hmem q hq => ?_, ?_, hok.queues⟩
  · rcases mem_arpTable_update htable hmem with hold | ⟨rfl, hnew⟩
    · exact hok.waiting m entry hold q hq
    rcases mem_parkPacket hwait hnew with hold | ⟨hip, -, hpending⟩
    · exact hok.waiting _ entry hold q hq
    rcases hpending q hq with rfl | ⟨old, hold, holdip, hq⟩
    · exact ⟨i, j, x, y, hs, hip.symm, hi⟩
    · rw [hip, ← holdip]
      exact hok.waiting _ old hold q hq
  · intro i' j' x' y' hadj entry hmem hip hres
    rcases mem_arpTable_update htable hmem with hold | ⟨rfl, hnew⟩
    · exact hok.known hadj entry hold hip hres
    rcases mem_parkPacket hwait hnew with hold | ⟨-, hno, -⟩
    · exact hok.known hadj entry hold hip hres
    · rw [hno] at hres
      cases hres

/-- An entry changes, and no packet comes to wait in it. -/
theorem modifyArp (hok : Lossless w₀ socks w) {n : NodeId} {ip : UInt32} {entry : ArpEntry}
    {f : ArpEntry → ArpEntry} (hlook : arpTableLookup (w.arpTable n) ip = some entry)
    (hip : (f entry).ip = entry.ip) (hpending : ∀ s ∈ (f entry).pendingPkts, s ∈ entry.pendingPkts)
    (hmac : ∀ {i j x y}, Adjacent w₀ i j x y → x.node = n → ip = y.ipAddr →
      (f entry).resolved = true → (f entry).mac = y.macAddr) : Lossless w₀ socks (w.modifyArp n ip f) := by
  have htable : (w.modifyArp n ip f).arpTable
      = Function.update w.arpTable n (arpTableModify (w.arpTable n) ip f) := rfl
  have hmem : ∀ {m e}, e ∈ (w.modifyArp n ip f).arpTable m →
      e ∈ w.arpTable m ∨ n = m ∧ e = f entry := by
    intro m e he
    rcases mem_arpTable_update htable he with hold | ⟨rfl, hnew⟩
    · exact Or.inl hold
    rcases List.mem_modifyFirst hnew with hold | ⟨e', hfind, rfl⟩
    · exact Or.inl hold
    · obtain rfl := Option.some.inj (hfind.symm.trans hlook)
      exact Or.inr ⟨rfl, rfl⟩
  refine ⟨hok.still.trans ⟨rfl, fun _ => rfl⟩, fun m e he q hq => ?_, ?_, hok.queues⟩
  · rcases hmem he with hold | ⟨rfl, rfl⟩
    · exact hok.waiting m e hold q hq
    · have hwaiting := hok.waiting n entry (List.mem_of_find?_eq_some hlook) q (hpending q hq)
      rwa [← hip] at hwaiting
  · intro i j x y hadj e he heip hres
    rcases hmem he with hold | ⟨hn, rfl⟩
    · exact hok.known hadj e hold heip hres
    · exact hmac hadj hn.symm ((ip_of_lookup hlook).symm.trans (hip.symm.trans heip)) hres

end Lossless

/-! ### Amounts -/

section Amounts

variable {A : Type} [AddCommMonoid A] {t : Tariff A}

/-- A tariff that counts datagrams, and nothing else. -/
structure Tariff.OfDatagrams (t : Tariff A) : Prop where
  packet : ∀ p q, p.getD 9 0 = ipProtoUdp → q.getD 9 0 = ipProtoUdp → cargo p = cargo q →
    t.packet p = t.packet q
  queued : ∀ p, p.getD 9 0 = ipProtoUdp → t.queued p = t.packet p
  ask : t.ask = 0
  answer : t.answer = 0

namespace Tariff.OfDatagrams

/-- A packet is worth the same on all of its way. -/
theorem onTheWay (ht : t.OfDatagrams) {p : List UInt8} {ttl ttl' : Nat} {s s' : SkBuff}
    (hs : OnTheWay p ttl s) (hs' : OnTheWay p ttl' s') : t.packet s.onWire = t.packet s'.onWire :=
  ht.packet _ _ hs.proto hs'.proto (hs.cargo.trans hs'.cargo.symm)

theorem frame_request (ht : t.OfDatagrams) (x : Intf) (ip : UInt32) :
    t.frame (x.requestFrame ip) = 0 := by
  have hrequest : (UInt16.ofNat (htons arpOpRequest)).toNat ≠ htons arpOpReply := by decide
  exact ((frame_arp t _ _ (x.arpRequest ip) 0).trans (if_neg hrequest)).trans ht.ask

theorem frame_reply (ht : t.OfDatagrams) (x y : Intf) : t.frame (y.replyFrame x) = 0 := by
  have hreply : (UInt16.ofNat (htons arpOpReply)).toNat = htons arpOpReply := by decide
  exact ((frame_arp t _ _ (y.arpReply x.macAddr x.ipAddr) 0).trans (if_pos hreply)).trans ht.answer

end Tariff.OfDatagrams

variable [PartialOrder A] [IsOrderedCancelAddMonoid A] {w w' : World} {a b : A}

/-- Frames come into the air. -/
theorem books_air (t : Tariff A) (w : World) (air more : Air) :
    Books t.held (t.flying more) 0 (w, air) (w, air + more) := by
  refine .of_place .link (fun place hplace => ?_) ?_
  · cases place with
    | link => exact absurd rfl hplace
    | _ => exact le_rfl
  · simp only [Tariff.held, Tariff.flying_add, add_zero, le_refl]

/-- A part of a call that puts nothing on the links leaves the air alone. -/
theorem books_tables (air : Air)
    (hsent : w'.trace.filterMap Event.sentFrame = w.trace.filterMap Event.sentFrame)
    (h : Books t.stock a b w w') : Books t.held a b (w, air) (w', air) := by
  have hother : ∀ (w : World) (place : Place), place ≠ .link → t.held (w, air) place = t.stock w place := by
    intro w place hplace
    cases place with
    | link => exact absurd rfl hplace
    | _ => rfl
  refine h.rebook .link (hother w) (hother w') (le_of_eq ?_)
  simp only [Tariff.held, Tariff.stock, hsent]

/-- A part of a call that leaves the tables alone. -/
theorem books_puts (air : Air) {frames : List (IntfId × List UInt8)} (h : Puts frames w w') :
    Books t.held 0 0 (w, air) (w', air) := by
  refine .of_place .link (fun place hplace => ?_) le_rfl
  cases place with
  | link => exact absurd rfl hplace
  | arp n => simp only [Tariff.held, Tariff.stock, h.emits.arpTable, le_refl]
  | udp k => simp only [Tariff.held, Tariff.stock, h.emits.udpSock, le_refl]
  | tcp k => simp only [Tariff.held, Tariff.stock, h.emits.tcpSock, le_refl]

end Amounts

/-! ### Parts of calls -/

theorem launched_trans {w w' w'' : World} (h : w.trace <+: w'.trace) (h' : w'.trace <+: w''.trace)
    (hstill : Still w w') : launched w w'' = launched w w' ++ launched w' w'' := by
  have hlink : w'.nbrIf = w.nbrIf := funext (nbrIf_congr hstill.intf hstill.link)
  unfold launched
  rw [sentFrames_trans h h', List.filterMap_append, hlink]

/-- **What a part of a call does** in a network that loses nothing. -/
structure Moves {A : Type} [AddCommMonoid A] [PartialOrder A] (t : Tariff A) (w₀ : World)
    (socks : Finset SockId) (a b : A) (w w' : World) : Prop where
  trace : w.trace <+: w'.trace
  still : Still w w'
  lossless : Lossless w₀ socks w'
  explained : ∀ f ∈ launched w w', Explained w₀ socks f
  books : ∀ air, Books t.held a b (w, air) (w', air + launched w w')

section Moves

variable {A : Type} [AddCommMonoid A] [PartialOrder A] [IsOrderedCancelAddMonoid A] {t : Tariff A}
  {w₀ w w' w'' : World} {socks : Finset SockId} {a b a' b' : A}

theorem Moves.trans (h : Moves t w₀ socks a b w w') (h' : Moves t w₀ socks a' b' w' w'') :
    Moves t w₀ socks (a + a') (b + b') w w'' := by
  have hlaunched := launched_trans h.trace h'.trace h.still
  refine ⟨h.trace.trans h'.trace, h.still.trans h'.still, h'.lossless, fun f hf => ?_, fun air => ?_⟩
  · rw [hlaunched] at hf
    rcases List.mem_append.mp hf with hf | hf
    · exact h.explained f hf
    · exact h'.explained f hf
  · rw [hlaunched, ← Multiset.coe_add, ← add_assoc]
    exact (h.books air).trans (h'.books _)

/-- A step that costs nothing happens first. -/
theorem Moves.after (h : Moves t w₀ socks 0 0 w w') (h' : Moves t w₀ socks a b w' w'') :
    Moves t w₀ socks a b w w'' := by
  have hboth := h.trans h'
  rwa [zero_add, zero_add] at hboth

/-- A step that costs nothing happens last. -/
theorem Moves.before (h : Moves t w₀ socks a b w w') (h' : Moves t w₀ socks 0 0 w' w'') :
    Moves t w₀ socks a b w w'' := by
  have hboth := h.trans h'
  rwa [add_zero, add_zero] at hboth

/-- Nothing is put on a link. -/
theorem Moves.of_stock {es : List Event} (htrace : w'.trace = w.trace ++ es)
    (hes : es.filterMap Event.sentFrame = []) (hstill : Still w w') (hok : Lossless w₀ socks w')
    (h : Books t.stock a b w w') : Moves t w₀ socks a b w w' := by
  have hnone : launched w w' = [] := by
    unfold launched sentFrames
    rw [newEvents_append htrace, hes]
    rfl
  refine ⟨⟨es, htrace.symm⟩, hstill, hok, fun f hf => ?_, fun air => ?_⟩
  · rw [hnone] at hf
    cases hf
  · rw [hnone, Multiset.coe_nil, add_zero]
    refine books_tables air ?_ h
    rw [htrace, List.filterMap_append, hes, List.append_nil]

theorem Moves.of_quiet (hok : Lossless w₀ socks w) (h : Puts [] w w') : Moves t w₀ socks 0 0 w w' := by
  obtain ⟨es, hes, -⟩ := h.emits.trace
  have hsent := h.sent
  rw [sentFrames, newEvents_append hes] at hsent
  exact .of_stock hes hsent (.of_emits h.emits) (hok.of_emits h.emits) h.books

theorem Moves.refl (hok : Lossless w₀ socks w) : Moves t w₀ socks 0 0 w w := .of_quiet hok (.refl w)

/-- One frame is put on a link. -/
theorem Moves.of_puts (hok : Lossless w₀ socks w) {i j : IntfId} {frame : List UInt8}
    (h : Puts [(i, frame)] w w') (hlink : w₀.nbrIf i = some j) (hex : Explained w₀ socks (j, frame)) :
    Moves t w₀ socks (t.frame frame) 0 w w' := by
  obtain ⟨es, hes, -⟩ := h.emits.trace
  rw [← nbrIf_congr hok.still.intf hok.still.link] at hlink
  have hlaunched := h.launched hlink
  refine ⟨⟨es, hes.symm⟩, .of_emits h.emits, hok.of_emits h.emits, fun f hf => ?_, fun air => ?_⟩
  · rw [hlaunched] at hf
    rw [List.mem_singleton.mp hf]
    exact hex
  · have hworth : t.flying [(j, frame)] = t.frame frame := by
      show ([(j, frame)].map fun f => t.frame f.2).sum = _
      rw [List.map_singleton, List.sum_singleton]
    have hboth := (books_puts (t := t) air h).trans (books_air t w' air [(j, frame)])
    rwa [zero_add, zero_add, hworth, ← hlaunched] at hboth

/-! ### A packet for a neighbour -/

/-- **A packet on its way is sent.** -/
theorem Lossless.sent (hok : Lossless w₀ socks w) (hg : GraphOk w) {n : NodeId} {s : SkBuff}
    {i j : IntfId} {x y : Intf} (hs : Heading w₀ socks n s i j x y) (hroom : LinkRoom s) {r : Bool}
    (hrun : ethernetOutput i y.macAddr ethProtoIp s w = .ok r w') :
    r = true ∧ w'.arpTable = w.arpTable ∧ Moves t w₀ socks (t.packet s.onWire) 0 w w' := by
  obtain ⟨_, _, _, hop, -⟩ := id hs
  have hadj := hok.still.adjacent hop.toAdjacent
  obtain ⟨w₁, hsend, hputs, -⟩ := ethernetOutput_transmits hg hadj.near hroom hadj.up.transmits
    y.macAddr ethProtoIp
  cases hrun.symm.trans hsend
  have hframe : Moves t w₀ socks (t.frame (ethFrame y.macAddr x.macAddr ethProtoIp s)) 0 w w' :=
    .of_puts hok hputs hop.there (.datagram hs)
  rw [frame_ip] at hframe
  exact ⟨rfl, hputs.emits.arpTable, hframe⟩

/-- **A packet on its way is sent, or waits for the neighbour.** -/
theorem Lossless.hand (hok : Lossless w₀ socks w) (ht : t.OfDatagrams) (hg : GraphOk w) {n : NodeId}
    {s : SkBuff} {i j : IntfId} {x y : Intf} (hs : Heading w₀ socks n s i j x y)
    (hi : s.intf = some i) (hroom : LinkRoom s) {r : Bool}
    (hrun : ipNeighbourOutput n i y.ipAddr s w = .ok r w') :
    r = true ∧ Moves t w₀ socks (t.packet s.onWire) 0 w w' := by
  obtain ⟨_, _, _, hop, -⟩ := id hs
  have hadj := hok.still.adjacent hop.toAdjacent
  by_cases hwait : Unresolved (w.arpTable n) y.ipAddr
  · rw [ipNeighbourOutput_unresolved hwait] at hrun
    obtain ⟨_, w₁, hsend, hdone⟩ := bind_ok_iff.mp hrun
    cases hdone
    have hg' : GraphOk (w.parked n y.ipAddr i s) := hg.of_frame rfl rfl rfl
    obtain ⟨w₂, hsend', hputs⟩ := sendArpBroadcastRequest_puts (w := w.parked n y.ipAddr i s) hg'
      hadj.near y.ipAddr
    cases hsend.symm.trans hsend'
    rw [if_pos (show (w.parked n y.ipAddr i s).transmits i = true from hadj.up.transmits)] at hputs
    have hok' := hok.parked hs hi hwait
    have hpark : Moves t w₀ socks (t.packet s.onWire) 0 w (w.parked n y.ipAddr i s) :=
      .of_stock rfl rfl ⟨rfl, fun _ => rfl⟩ hok' (parked_books n y.ipAddr i s w)
    have hask : Moves t w₀ socks (t.frame (x.requestFrame y.ipAddr)) 0 (w.parked n y.ipAddr i s) w' :=
      .of_puts hok' hputs hop.there (.request hop.toAdjacent)
    rw [ht.frame_request] at hask
    exact ⟨rfl, hpark.before hask⟩
  · unfold Unresolved at hwait
    push Not at hwait
    obtain ⟨entry, hlook, hres⟩ := hwait
    have hres : entry.resolved = true := Bool.not_eq_false _ ▸ hres
    have hmem : entry ∈ w.arpTable x.node := hop.node ▸ List.mem_of_find?_eq_some hlook
    have hmac := hok.known hop.toAdjacent entry hmem (ip_of_lookup hlook) hres
    rw [ipNeighbourOutput_resolved hlook hres, hmac] at hrun
    obtain ⟨hr, -, hsent⟩ := hok.sent (t := t) hg hs hroom hrun
    exact ⟨hr, hsent⟩

/-- What comes in and goes out again need not be mentioned. -/
theorem Moves.cancel (c : A) (h : Moves t w₀ socks (a + c) (b + c) w w') :
    Moves t w₀ socks a b w w' :=
  ⟨h.trace, h.still, h.lossless, h.explained, fun air => (h.books air).cancel c⟩

/-! ### An answer -/

/-- **What waited for an address is sent to it.** -/
theorem Lossless.flush (hok : Lossless w₀ socks w) (hg : GraphOk w) {n : NodeId} {ip : UInt32}
    {mac : MacAddr} {pkts : List SkBuff} {entry : ArpEntry}
    (hlook : arpTableLookup (w.arpTable n) ip = some entry) (hpkts : entry.pendingPkts = pkts)
    (hroom : ∀ s ∈ pkts, LinkRoom s)
    (hmac : ∀ {i j x y s}, Heading w₀ socks n s i j x y → ip = y.ipAddr → mac = y.macAddr) {u : Unit}
    (hrun : flushPending n ip mac pkts w = .ok u w') : Moves t w₀ socks 0 0 w w' := by
  induction pkts generalizing w entry with
  | nil =>
      cases hrun
      exact .refl hok
  | cons s rest ih =>
      obtain ⟨_, w₁, h₁, hrest⟩ := bind_ok_iff.mp hrun
      obtain rfl := modifyArpEntry_ok.mp h₁
      have hentry := List.mem_of_find?_eq_some hlook
      have hs : s ∈ entry.pendingPkts := hpkts ▸ List.mem_cons_self
      obtain ⟨i, j, x, y, hheads, hip, hi⟩ := hok.waiting n entry hentry s hs
      rw [ip_of_lookup hlook] at hip
      have hkeep : ∀ e : ArpEntry, ({ e with pendingPkts := rest } : ArpEntry).ip = e.ip := fun _ => rfl
      have hok₁ : Lossless w₀ socks (w.modifyArp n ip fun e => { e with pendingPkts := rest }) := by
        refine hok.modifyArp hlook rfl (fun q hq => ?_) fun hadj hn heq hres => ?_
        · rw [hpkts]
          exact List.mem_cons_of_mem _ hq
        · subst hn
          exact hok.known hadj entry hentry ((ip_of_lookup hlook).trans heq) hres
      have htaken : Moves t w₀ socks 0 (t.packet s.onWire) w
          (w.modifyArp n ip fun e => { e with pendingPkts := rest }) := by
        refine .of_stock (List.append_nil _).symm rfl ⟨rfl, fun _ => rfl⟩ hok₁
          (books_modifyArp hlook (le_of_eq ?_))
        rw [hpkts, Tariff.packets_cons, add_zero, add_comm]
      -- the packet leaves by the link it waited for
      rw [hi] at hrest
      obtain ⟨result, w₂, h₂, hrest⟩ := bind_ok_iff.mp hrest
      have hg₁ : GraphOk (w.modifyArp n ip fun e => { e with pendingPkts := rest }) :=
        hg.of_frame rfl rfl rfl
      rw [hmac hheads hip.symm] at h₂
      obtain ⟨rfl, htable, hsent⟩ := hok₁.sent (t := t) hg₁ hheads (hroom s List.mem_cons_self) h₂
      have hmoved : Moves t w₀ socks 0 0 w w₂ := by
        have hboth := htaken.trans hsent
        rw [add_comm (t.packet s.onWire)] at hboth
        exact hboth.cancel _
      obtain ⟨_, w₄, h₄, hloop⟩ := bind_ok_iff.mp hrest
      cases h₄
      have hnext : arpTableLookup (w₂.arpTable n) ip = some { entry with pendingPkts := rest } := by
        rw [htable, arpTableLookup_modifyArp hkeep, hlook]
        rfl
      exact hmoved.after (ih hmoved.lossless (hmoved.still.graphOk hg) hnext rfl
        (fun q hq => hroom q (List.mem_cons_of_mem _ hq)) hloop)

/-- A reply is taken over and freed. -/
theorem arpInput_updates {skb : SkBuff} {i : IntfId} {intf : Intf} {hdr : ArpHdr}
    (hi : skb.intf = some i) (hintf : w.intf i = some intf) (hskb : Filled skb) (hat : hdr.At skb)
    (hop : hdr.opcode = arpOpReply) {r : Bool} (hrun : arpInput skb w = .ok r w') :
    ∃ u v, arpTableUpdateFromArpReply intf.node skb skb.data w = .ok u v ∧ w' = v.freed skb ∧
      r = true := by
  rw [arpInput_dispatch hi hskb hat, hop] at hrun
  obtain ⟨ok, w₁, hdispatch, hfree⟩ := bind_ok_iff.mp hrun
  unfold arpDispatch processArpReplyMsg at hdispatch
  rw [if_neg (by decide), if_pos (by decide), run_bind_ok (derefIntf_ok.mpr ⟨hintf, rfl⟩)]
    at hdispatch
  obtain ⟨u, v, hupdate, hdone⟩ := bind_ok_iff.mp hdispatch
  cases hdone
  obtain ⟨_, w₂, hfree, hdone⟩ := bind_ok_iff.mp hfree
  cases hdone
  exact ⟨u, w₁, hupdate, freeSkb_ok.mp hfree, rfl⟩

/-- The neighbours of a node have different addresses. -/
def DistinctNeighbours (w : World) : Prop :=
  ∀ {i j x y i' j' x' y'}, Adjacent w i j x y → Adjacent w i' j' x' y' → x.node = x'.node →
    y.ipAddr = y'.ipAddr → i = i'

/-- Two neighbours of a node with one address have one hardware address. -/
theorem DistinctNeighbours.mac {w : World} (hd : DistinctNeighbours w) {i j i' j' : IntfId}
    {x y x' y' : Intf} (h : Adjacent w i j x y) (h' : Adjacent w i' j' x' y') (hn : x.node = x'.node)
    (hip : y.ipAddr = y'.ipAddr) : y.macAddr = y'.macAddr := by
  obtain rfl := hd h h' hn hip
  obtain rfl := Option.some.inj (h.there.symm.trans h'.there)
  rw [Option.some.inj (h.far.symm.trans h'.far)]

/-- **The table learns the address of the neighbour**, and what waited for it leaves. -/
theorem Lossless.learn (hok : Lossless w₀ socks w) (hd : DistinctNeighbours w₀) (hg : GraphOk w)
    {i j : IntfId} {x y : Intf} (h : Adjacent w₀ i j x y)
    (hroom : ∀ entry ∈ w.arpTable x.node, ∀ s ∈ entry.pendingPkts, LinkRoom s) {skb : SkBuff}
    (hip : skb.arpSender = y.ipAddr) (hmac : skb.arpSenderHw = y.macAddr) {u : Unit}
    (hrun : arpTableUpdateFromArpReply x.node skb skb.data w = .ok u w') :
    Moves t w₀ socks 0 0 w w' := by
  cases hlook : arpTableLookup (w.arpTable x.node) skb.arpSender with
  | none =>
      obtain rfl := arpTableUpdateFromArpReply_unknown hlook hrun
      exact .refl hok
  | some entry =>
      obtain ⟨ip, hread, hrun⟩ := bind_ok_of_eq (readU32_reads _ _) hrun
      obtain ⟨-, hread, -⟩ := readU32_ok.mp hread
      obtain rfl : ip = y.ipAddr := hread.trans hip
      obtain ⟨v, hv, hrun⟩ := bind_ok_of_eq get_reads hrun
      cases hv
      rw [hip] at hlook
      rw [hlook] at hrun
      obtain ⟨mac, hread, hset⟩ := bind_ok_of_eq (readMac_reads _ _) hrun
      obtain ⟨-, hread, -⟩ := readMac_ok.mp hread
      obtain rfl : mac = y.macAddr := hread.trans hmac
      obtain ⟨_, w₁, h₁, hloop⟩ := bind_ok_iff.mp hset
      obtain rfl := modifyArpEntry_ok.mp h₁
      have hknown : Lossless w₀ socks (w.modifyArp x.node y.ipAddr
          fun e => { e with resolved := true, mac := y.macAddr }) :=
        hok.modifyArp hlook rfl (fun _ hs => hs) fun hadj hn heq _ =>
          hd.mac h hadj hn.symm heq
      have hlearned : Moves t w₀ socks 0 0 w (w.modifyArp x.node y.ipAddr
          fun e => { e with resolved := true, mac := y.macAddr }) :=
        .of_stock (List.append_nil _).symm rfl ⟨rfl, fun _ => rfl⟩ hknown
          (books_modifyArp hlook le_rfl)
      have hkeep : ∀ e : ArpEntry,
          ({ e with resolved := true, mac := y.macAddr } : ArpEntry).ip = e.ip := fun _ => rfl
      have hafter : arpTableLookup ((w.modifyArp x.node y.ipAddr
          fun e => { e with resolved := true, mac := y.macAddr }).arpTable x.node) y.ipAddr
            = (arpTableLookup (w.arpTable x.node) y.ipAddr).map
                fun e => { e with resolved := true, mac := y.macAddr } :=
        arpTableLookup_modifyArp hkeep
      have hnext := hafter.trans (congrArg (Option.map _) hlook)
      refine hlearned.after (hknown.flush (hg.of_frame rfl rfl rfl) hnext rfl
        (hroom entry (List.mem_of_find?_eq_some hlook)) (fun hheads heq => ?_) hloop)
      obtain ⟨_, _, _, hop, -⟩ := hheads
      exact hd.mac h hop.toAdjacent hop.node.symm heq

/-- **The answer of a neighbour.** -/
theorem Lossless.reply (hok : Lossless w₀ socks w) (hd : DistinctNeighbours w₀) (hg : GraphOk w)
    (hready : PendingReady w) {i j : IntfId} {x y : Intf} (h : Adjacent w₀ i j x y) {u : Unit}
    (hrun : recvFrame i (y.replyFrame x) w = .ok u w') : Moves t w₀ socks 0 0 w w' := by
  have hadj := hok.still.adjacent h
  rw [Intf.replyFrame, recvFrame_arp (y.arpReply x.macAddr x.ipAddr) hadj.near hadj.configured
    (qualify_own x)] at hrun
  have hquiet := Puts.received w i ((y.arpReply x.macAddr x.ipAddr).frame x.macAddr)
  have hfilled := (y.arpReply x.macAddr x.ipAddr).filled_received x.macAddr w.nextId i
  have hat : (y.arpReply x.macAddr x.ipAddr).At
      ((y.arpReply x.macAddr x.ipAddr).received x.macAddr w.nextId i) :=
    (y.arpReply x.macAddr x.ipAddr).at_received _ _ _ _ _ _
  have hi : ((y.arpReply x.macAddr x.ipAddr).received x.macAddr w.nextId i).intf = some i := rfl
  generalize (y.arpReply x.macAddr x.ipAddr).received x.macAddr w.nextId i = skb at *
  generalize w.received i ((y.arpReply x.macAddr x.ipAddr).frame x.macAddr) = w₁ at *
  obtain ⟨ok, w₂, harp, hfree⟩ := bind_ok_iff.mp hrun
  have hin : w₁.intf i = some x := by rw [hquiet.emits.intf, hadj.near]
  have hok₁ := hok.of_emits hquiet.emits
  have hg₁ := (Still.of_emits hquiet.emits).graphOk hg
  obtain ⟨_, v, hupdate, hfreed, rfl⟩ := arpInput_updates hi hin hfilled hat rfl harp
  cases hfree
  have hroom : ∀ entry ∈ w₁.arpTable x.node, ∀ s ∈ entry.pendingPkts, LinkRoom s := by
    intro entry hentry s hs
    rw [hquiet.emits.arpTable] at hentry
    have hs := hready x.node s ⟨entry, hentry, hs⟩
    exact ⟨hs.headroom, hs.tailroom⟩
  have hflush := hok₁.learn (t := t) hd hg₁ h hroom hat.senderIp hat.senderHw hupdate
  exact (Moves.of_quiet hok hquiet).after
    (hflush.before (.of_quiet hflush.lossless (hfreed ▸ .freed v skb)))

/-- **A request is answered.** -/
theorem Lossless.request (hok : Lossless w₀ socks w) (ht : t.OfDatagrams) (hg : GraphOk w)
    {i j : IntfId} {x y : Intf} (h : Adjacent w₀ i j x y) {u : Unit}
    (hrun : recvFrame j (x.requestFrame y.ipAddr) w = .ok u w') : Moves t w₀ socks 0 0 w w' := by
  have hadj := hok.still.adjacent h
  obtain ⟨w₁, hrun', hputs⟩ := recvFrame_asked (x.arpRequest y.ipAddr) hg hadj.far hadj.configured'
    (qualify_broadcast y) rfl rfl
  cases hrun.symm.trans hrun'
  rw [if_pos hadj.up'.transmits] at hputs
  have hanswer : Moves t w₀ socks (t.frame (y.replyFrame x)) 0 w w' :=
    .of_puts hok hputs h.back (.reply h)
  rwa [ht.frame_reply] at hanswer

/-! ### A datagram -/

theorem Reaches.onward {dst : UInt32} {port : UInt16} {m : Nat} {n : NodeId}
    (h : Reaches w₀ socks dst port m n) : ∃ i j x y, Onward w₀ n dst i j x y := by
  cases h with
  | last hop _ _ _ => exact ⟨_, _, _, _, hop⟩
  | router hop _ _ => exact ⟨_, _, _, _, hop⟩

/-- **`ip_postroute` lets no datagram go.** -/
theorem Lossless.post (hok : Lossless w₀ socks w) (ht : t.OfDatagrams) (hg : GraphOk w) {n : NodeId}
    {p q s : SkBuff} {ttl ttl' m : Nat} (hreach : Reaches w₀ socks p.dstIp p.port m n) (httl : m < ttl)
    (hdst : q.dstIp = p.dstIp)
    (hintf : ∀ {i j x y}, Onward w₀ n p.dstIp i j x y → q.intf = none ∨ q.intf = some i)
    (hway : ∀ i src, OnTheWay p.onWire ttl (q.routed i src)) (hroom : ∀ i src, LinkRoom (q.routed i src))
    {r : Bool} (hrun : ipPostroute ipInput n q w = .ok r w') (hs : OnTheWay p.onWire ttl' s) :
    r = true ∧ Moves t w₀ socks (t.packet s.onWire) 0 w w' := by
  obtain ⟨i, j, x, y, hop⟩ := hreach.onward
  obtain ⟨rt, hrt, rfl, htarget⟩ := hop.route
  have hroute : rtLookupLpm (w.rtTable n) q.dstIp = some rt := by rw [hok.still.rtTable, hdst, hrt]
  have hforeign : isIpLocal w n q.dstIp = false := by rw [hok.still.isIpLocal, hdst, hop.foreign]
  obtain ⟨out, hout, hnbr⟩ := ipPostroute_foreign hroute (hintf hop) hforeign hrun
  rw [hok.still.intf, hop.near] at hout
  obtain rfl := Option.some.inj hout
  rw [hdst, htarget] at hnbr
  obtain ⟨hr, hmoves⟩ := hok.hand ht hg ⟨p, ttl, m, hop, hreach, httl, hway _ _⟩ rfl (hroom _ _) hnbr
  rw [ht.onTheWay hs (hway _ _)]
  exact ⟨hr, hmoves⟩

/-- A socket queues a datagram. -/
theorem Lossless.queued (hok : Lossless w₀ socks w) {k : SockId} (hmem : k ∈ socks) {sock : UdpSock}
    (hk : w.udpSock k = some sock) (skb : SkBuff) :
    Moves t w₀ socks (t.queued skb.linked.rewound.onWire) 0 w (w.queued k sock skb) := by
  have hstill : Still w (w.queued k sock skb) :=
    ⟨rfl, map_update_of_eq (f := UdpSock.core) hk rfl⟩
  refine .of_stock (List.append_nil _).symm rfl hstill
    ⟨hok.still.trans hstill, hok.waiting, hok.known, fun k' hk' sock' hsock' => ?_⟩ (books_queued hk)
  have hne : k' ≠ k := fun heq => hk' (heq ▸ hmem)
  refine hok.queues k' hk' sock' ?_
  rw [← hsock']
  exact (Function.update_of_ne hne _ _).symm

/-- **A datagram that arrives is passed on, or queued.** -/
theorem Lossless.datagram (hok : Lossless w₀ socks w) (ht : t.OfDatagrams) (hg : GraphOk w)
    {n : NodeId} {s : SkBuff} {i j : IntfId} {x y : Intf} (hs : Heading w₀ socks n s i j x y) {u : Unit}
    (hrun : recvFrame j (ethFrame y.macAddr x.macAddr ethProtoIp s) w = .ok u w') :
    Moves t w₀ socks (t.packet s.onWire) 0 w w' := by
  obtain ⟨p, ttl, m, hop, hreach, httl, hway⟩ := hs
  have hadj := hok.still.adjacent hop.toAdjacent
  cases hreach with
  | @last _ _ _ _ _ k hop' hown hk hmem =>
      obtain ⟨rfl, rfl, rfl, rfl⟩ := hop.unique hop'
      rw [← hok.still.isIpLocal] at hown
      rw [← hok.still.find] at hk
      obtain ⟨sock, skb, w₁, hsock, -, -, hbytes, hputs, hrun'⟩ :=
        recvFrame_socket hadj.far hadj.configured' hown hway rfl rfl hk x.macAddr
      cases hrun.symm.trans hrun'
      have hquiet : Moves t w₀ socks 0 0 w w₁ := .of_quiet hok hputs
      have hsock₁ : w₁.udpSock k = some sock := by rw [hputs.emits.udpSock, hsock]
      have hlast : Moves t w₀ socks _ 0 w₁ _ := hquiet.lossless.queued hmem hsock₁ skb
      rw [hbytes, ht.queued _ hway.proto] at hlast
      exact hquiet.after hlast
  | router hop' hforward hrest =>
      obtain ⟨rfl, rfl, rfl, rfl⟩ := hop.unique hop'
      have hon : w.ipForwardEnable = true := by
        rw [hok.still.frame]
        exact hforward
      have hforeign : isIpLocal w y.node p.dstIp = false := by
        rw [hok.still.isIpLocal, hrest.foreign]
      obtain ⟨q, hq, hpasses⟩ := recvFrame_passes hon hadj.far hadj.configured' hforeign hway
        (by omega) rfl rfl x.macAddr
      rw [hpasses] at hrun
      have hputs := Puts.received w j (ethFrame y.macAddr x.macAddr ethProtoIp s)
      generalize w.received j (ethFrame y.macAddr x.macAddr ethProtoIp s) = w₁ at *
      have hquiet : Moves t w₀ socks 0 0 w w₁ := .of_quiet hok hputs
      have hg₁ := hquiet.still.graphOk hg
      obtain ⟨ok, w₂, hpost, hfree⟩ := bind_ok_iff.mp hrun
      obtain ⟨rfl, hmoves⟩ := hquiet.lossless.post (t := t) ht hg₁ hrest (by omega) hq.dstIp
        (fun _ => Or.inl hq.intf) hq.onTheWay hq.room hpost hway
      cases hfree
      exact hquiet.after hmoves

end Moves

end SimpleTcpip
