/-
Every datagram arrives.

The calls of this file send datagrams that have a way, and read them.  In a network that loses
nothing the books of such a run balance exactly: what was sent and not read yet is in flight,
waits for an address or is in the queue of a socket it is for.  Frames in flight are delivered at
some time, since the network comes to rest, and nobody waits for a neighbour then.  So what is
left are the queues.
-/
import SimpleTcpip.Proofs.Lossless

namespace SimpleTcpip

open Fallible Ledger

/-! ### Calls -/

/-- Reading touches one queue, which is not empty. -/
theorem udpRecvfrom_queue {sockfd : Int} {size : Nat} {wantIp wantPort : Bool} {r : Option Datagram}
    {w w' : World} (hrun : udpRecvfrom sockfd size wantIp wantPort w = .ok r w') :
    w'.udpSock = w.udpSock ∨ ∃ k sock q, w.udpSock k = some sock ∧ sock.rxSkb ≠ [] ∧
      w'.udpSock = Function.update w.udpSock k (some { sock with rxSkb := q }) := by
  obtain ⟨s, hs, hrun⟩ := bind_ok_of_eq get_reads hrun
  cases hs
  cases hgood : goodUdpSock w sockfd with
  | none =>
      rw [hgood] at hrun
      cases hrun
      exact Or.inl rfl
  | some k =>
      rw [hgood] at hrun
      obtain ⟨sock, hsock, hrun⟩ := bind_ok_of_eq (derefUdpSock_reads k) hrun
      obtain ⟨hsock, -⟩ := derefUdpSock_ok.mp hsock
      split at hrun
      · cases hrun
        exact Or.inl rfl
      cases hlast : sock.rxSkb.getLast? with
      | none =>
          rw [hlast] at hrun
          cases hrun
          exact Or.inl rfl
      | some skb =>
          rw [hlast] at hrun
          obtain ⟨s, -, hrun⟩ := bind_ok_of_eq (skbPull_reads _ _) hrun
          obtain ⟨ip, w₁, h₁, hrun⟩ := bind_ok_iff.mp hrun
          obtain ⟨port, -, hrun⟩ := bind_ok_of_eq (recvSrcPort_reads _ wantPort) hrun
          obtain ⟨_, w₂, h₂, hdone⟩ := bind_ok_iff.mp hrun
          cases hdone
          have hsame : w₁.udpSock = w.udpSock := by
            rw [show w₁ = _ from (recvSrcIp_logged s wantIp).ok h₁]
          have hsome : sock.rxSkb ≠ [] := fun hnil => by
            rw [hnil] at hlast
            cases hlast
          unfold finishUdpRecv at h₂
          split at h₂
          · obtain ⟨_, w₃, h₃, hfree⟩ := bind_ok_iff.mp h₂
            obtain rfl := setUdpSock_ok.mp h₃
            obtain rfl := freeSkb_ok.mp hfree
            exact Or.inr ⟨k, sock, _, hsock, hsome, by rw [← hsame]⟩
          · obtain rfl := setUdpSock_ok.mp h₂
            exact Or.inr ⟨k, sock, _, hsock, hsome, by rw [← hsame]⟩

/-- Nothing else changes, and nothing is sent. -/
theorem udpRecvfrom_frame {sockfd : Int} {size : Nat} {wantIp wantPort : Bool} {r : Option Datagram}
    {w w' : World} (hrun : udpRecvfrom sockfd size wantIp wantPort w = .ok r w') :
    w' = { w with udpSock := w'.udpSock, trace := w'.trace } ∧
      ∃ es, w'.trace = w.trace ++ es ∧ es.filterMap Event.sentFrame = [] := by
  let R : World → World → Prop := fun w w' => w' = { w with
    udpSock := w'.udpSock, trace := w'.trace } ∧
      ∃ es, w'.trace = w.trace ++ es ∧ es.filterMap Event.sentFrame = []
  have hkeeps : Keeps R (udpRecvfrom sockfd size wantIp wantPort) := by
    refine udpRecvfrom_keeps (fun w => ⟨rfl, [], (List.append_nil _).symm, rfl⟩) ?_
      (fun w e he => ⟨rfl, [e], rfl, ?_⟩)
      (fun w k sock q _ => ⟨rfl, [], (List.append_nil _).symm, rfl⟩) _ _ _ _
    · rintro s t u ⟨hframe, es, hes, hsent⟩ ⟨hframe', es', hes', hsent'⟩
      refine ⟨by rw [hframe', hframe], es ++ es', by rw [hes', hes, List.append_assoc], ?_⟩
      rw [List.filterMap_append, hsent, hsent']
      rfl
    · cases e with
      | free _ => rfl
      | readIpHdr _ => rfl
      | _ => exact he.elim
  exact hkeeps.ok hrun

section Calls

variable {A : Type} [AddCommMonoid A] [PartialOrder A] [IsOrderedCancelAddMonoid A] {t : Tariff A}
  {w₀ w w' : World} {socks : Finset SockId}

/-- **A read takes a datagram out**, once it is read to its end. -/
theorem Lossless.read (hok : Lossless w₀ socks w) {fd : Int} {size : Nat} {wantIp wantPort : Bool}
    {r : Option Datagram} (hrun : udpRecvfrom fd size wantIp wantPort w = .ok r w') :
    Moves t w₀ socks 0 (t.outgo w (.udpRecvfrom fd size wantIp wantPort) (.datagram r)) w w' := by
  obtain ⟨hframe, es, hes, hsent⟩ := udpRecvfrom_frame hrun
  have hqueue := udpRecvfrom_queue hrun
  have hstill : Still w w' := by
    refine ⟨by rw [hframe], fun k => ?_⟩
    rcases hqueue with hsame | ⟨k', sock, q, hsock, -, hsame⟩
    · rw [hsame]
    · rw [hsame]
      exact map_update_of_eq (f := UdpSock.core) (y := { sock with rxSkb := q }) hsock rfl k
  have htable : w'.arpTable = w.arpTable := by rw [hframe]
  refine .of_stock hes hsent hstill ⟨hok.still.trans hstill, ?_, ?_, fun k hk sock hsock => ?_⟩
    (udpRecvfrom_books hrun)
  · rw [htable]
    exact hok.waiting
  · rw [htable]
    exact hok.known
  · rcases hqueue with hsame | ⟨k', old, q, hold, hsome, hsame⟩
    · rw [hsame] at hsock
      exact hok.queues k hk sock hsock
    · rw [hsame] at hsock
      by_cases hkk : k = k'
      · subst hkk
        exact absurd (hok.queues k hk old hold) hsome
      · rw [Function.update_of_ne hkk] at hsock
        exact hok.queues k hk sock hsock

/-- **A datagram that is sent is on its way.** -/
theorem Lossless.send (hok : Lossless w₀ socks w) (ht : t.OfDatagrams) (hg : GraphOk w) {fd : Int}
    {k : SockId} {sock : UdpSock} (hfd : goodUdpSock w₀ fd = some k) (hsock : w₀.udpSock k = some sock)
    (hbound : sock.bound = true) {i j : IntfId} {x y : Intf} (hintf : sock.intf = some i)
    {dst : UInt32} {port : UInt16} {m : Nat} (hop : Onward w₀ x.node dst i j x y)
    (hreach : Reaches w₀ socks dst port m x.node) (hm : m < 64) {buff : List UInt8} {r : Int}
    (hrun : udpSendto ipInput fd buff dst port w = .ok r w') :
    Moves t w₀ socks (t.income w (.udpSendto fd buff dst port) (.int r)) 0 w w' := by
  obtain ⟨here, hhere, hcore⟩ := hok.still.sock hsock
  have hbound' : here.bound = true := (congrArg UdpSock.bound hcore).trans hbound
  have hintf' : here.intf = some i := (congrArg UdpSock.intf hcore).trans hintf
  have hfd' : goodUdpSock w fd = some k := by rw [hok.still.goodUdpSock, hfd]
  have hx : w.intf i = some x := by rw [hok.still.intf, hop.near]
  rw [udpSendto_passes hfd' hhere hbound' hintf' hx] at hrun
  have hputs := Puts.sending w x.node here buff dst port
  let p := udpPacket w.nextId here buff dst port
  have hdst : p.dstIp = dst := dstIp_withIpHdr _ _
  have hport : p.port = port := udpPacket_port _ _ _ _ _
  obtain ⟨sent, w₁, hpost, hdone⟩ := bind_ok_iff.mp hrun
  cases hdone
  have hquiet : Moves t w₀ socks 0 0 w (w.sending x.node here buff dst port) := .of_quiet hok hputs
  have hg₁ := hquiet.still.graphOk hg
  have hway := onTheWay_udpPacket w.nextId here buff dst port
  have hintf'' : ∀ {i' j' x' y'}, Onward w₀ x.node p.dstIp i' j' x' y' →
      p.intf = none ∨ p.intf = some i' := by
    intro i' j' x' y' hop'
    rw [hdst] at hop'
    obtain ⟨rfl, -⟩ := hop.unique hop'
    exact Or.inr hintf'
  obtain ⟨rfl, hmoves⟩ := hquiet.lossless.post (t := t) (p := p) (q := p) ht hg₁
    (by rw [hdst, hport]; exact hreach) hm rfl hintf'' hway
    (linkRoom_udpPacket w.nextId here buff dst port) hpost (hway i x.ipAddr)
  -- the packet is worth what the call pays for it
  have hudp : p.onWire.getD 9 0 = ipProtoUdp := (getD_proto _).trans (proto_withIpHdr ..)
  have hworth := ht.packet _ _ (hway i x.ipAddr).proto hudp (hway i x.ipAddr).cargo
  have hsent : sentDatagram w fd buff dst port = some (udpPacket 0 here buff dst port) := by
    rw [sentDatagram, hfd', Option.bind_some, hhere]
    rfl
  have hincome : t.income w (.udpSendto fd buff dst port)
      (.int (if true = true then (min buff.length maxUdpPayload : Nat) else -1)) = t.packet p.onWire := by
    simp only [Tariff.income, if_true, hsent, Option.elim_some, Tariff.posted, ht.ask, add_zero]
    exact if_pos (Int.natCast_nonneg _)
  rw [hincome, ← hworth]
  exact hquiet.after hmoves

/-- A call that sends a datagram which has a way, or reads one. -/
inductive Op.Plain (w : World) (socks : Finset SockId) : Op → Prop
  | send {fd : Int} {k : SockId} {sock : UdpSock} {i j : IntfId} {x y : Intf} {dst : UInt32}
      {port : UInt16} {m : Nat} (hfd : goodUdpSock w fd = some k) (hsock : w.udpSock k = some sock)
      (hbound : sock.bound = true) (hintf : sock.intf = some i) (hop : Onward w x.node dst i j x y)
      (hreach : Reaches w socks dst port m x.node) (hm : m < 64) (buff : List UInt8) :
      Op.Plain w socks (.udpSendto fd buff dst port)
  | read (fd : Int) (size : Nat) (wantIp wantPort : Bool) :
      Op.Plain w socks (.udpRecvfrom fd size wantIp wantPort)

theorem Op.Plain.not_configures {op : Op} (h : op.Plain w₀ socks) : ¬ op.Configures := by
  cases h <;> exact id

/-- **The balance of a call.** -/
theorem Lossless.call (hok : Lossless w₀ socks w) (ht : t.OfDatagrams) (hg : GraphOk w) {op : Op}
    (hop : op.Plain w₀ socks) {r : Ret} (hrun : runOp op w = .ok r w') :
    Moves t w₀ socks (t.income w op r) (t.outgo w op r) w w' := by
  cases hop with
  | send hfd hsock hbound hintf hfirst hreach hm buff =>
      obtain ⟨_, w₁, h₁, hdone⟩ := bind_ok_iff.mp hrun
      cases hdone
      exact hok.send ht hg hfd hsock hbound hintf hfirst hreach hm h₁
  | read fd size wantIp wantPort =>
      obtain ⟨_, w₁, h₁, hdone⟩ := bind_ok_iff.mp hrun
      cases hdone
      exact hok.read h₁

/-- **The balance of a delivery.** -/
theorem Lossless.deliver (hok : Lossless w₀ socks w) (ht : t.OfDatagrams) (hd : DistinctNeighbours w₀)
    (hw : Reachable w) {f : IntfId × List UInt8} (hex : Explained w₀ socks f) {u : Unit}
    (hrun : recvFrame f.1 f.2 w = .ok u w') : Moves t w₀ socks (t.frame f.2) 0 w w' := by
  cases hex with
  | request h =>
      rw [ht.frame_request]
      exact hok.request ht hw.graphOk h hrun
  | reply h =>
      rw [ht.frame_reply]
      exact hok.reply hd hw.graphOk hw.pendingReady h hrun
  | datagram h =>
      rw [frame_ip]
      exact hok.datagram ht hw.graphOk h hrun

end Calls

/-! ### Runs -/

/-- A network in which nothing has been sent yet. -/
structure Pristine (w : World) : Prop where
  distinct : DistinctNeighbours w
  nobody : ∀ n, ∀ entry ∈ w.arpTable n, entry.pendingPkts = []
  /-- A known address is that of the neighbour. -/
  known : ∀ {i j x y}, Adjacent w i j x y → ∀ entry ∈ w.arpTable x.node, entry.ip = y.ipAddr →
    entry.resolved = true → entry.mac = y.macAddr
  queues : ∀ k sock, w.udpSock k = some sock → sock.rxSkb = []

theorem Pristine.lossless {w : World} (h : Pristine w) (socks : Finset SockId) : Lossless w socks w := by
  refine ⟨.refl w, fun n entry hentry s hs => ?_, h.known, fun k _ => h.queues k⟩
  rw [h.nobody n entry hentry] at hs
  cases hs

section Runs

variable {A : Type} [AddCommMonoid A] [PartialOrder A] [IsOrderedCancelAddMonoid A] {t : Tariff A}
  {w₀ w : World} {socks : Finset SockId}

/-- **The balance of a run**, in any order of amounts. -/
theorem NetRun.lossless (ht : t.OfDatagrams) (hw : Reachable w₀) (hnew : Pristine w₀)
    {calls delivered : List Call} {air : Air} (h : NetRun w₀ calls delivered air w)
    (hops : ∀ call ∈ calls, call.op.Plain w₀ socks)
    (hall : flown calls + flown delivered = delivered.length + air.card) :
    Lossless w₀ socks w ∧ (∀ f ∈ air, Explained w₀ socks f) ∧
      Books t.held (t.incomes calls) (t.outgos calls) (w₀, 0) (w, air) := by
  induction h with
  | start => exact ⟨hnew.lossless socks, fun f hf => absurd hf (Multiset.notMem_zero f), .refl _ _⟩
  | @call calls delivered air w w' op r hbefore hv hrun ih =>
      rw [flown_snoc, card_add_launched] at hall
      obtain ⟨hok, hair, hbooks⟩ :=
        ih (fun call hcall => hops call (List.mem_append_left _ hcall)) (by omega)
      have hop := hops _ (List.mem_append_right _ (List.mem_singleton_self _))
      have hmoves := hok.call ht (hbefore.reachable hw).graphOk hop hrun
      refine ⟨hmoves.lossless, fun f hf => ?_, ?_⟩
      · rcases Multiset.mem_add.mp hf with hf | hf
        · exact hair f hf
        · exact hmoves.explained f hf
      · rw [Tariff.incomes_snoc, Tariff.outgos_snoc]
        exact hbooks.trans (hmoves.books air)
  | @deliver calls delivered air w w' i frame r hbefore hv hrun ih =>
      rw [flown_snoc, card_add_launched, List.length_append, List.length_singleton] at hall
      obtain ⟨hok, hair, hbooks⟩ := ih hops (by rw [Multiset.card_cons]; omega)
      obtain ⟨_, w₁, h₁, hdone⟩ := bind_ok_iff.mp hrun
      cases hdone
      have hmoves := hok.deliver ht hnew.distinct (hbefore.reachable hw)
        (hair _ (Multiset.mem_cons_self _ _)) h₁
      refine ⟨hmoves.lossless, fun f hf => ?_, ?_⟩
      · rcases Multiset.mem_add.mp hf with hf | hf
        · exact hair f (Multiset.mem_cons_of_mem hf)
        · exact hmoves.explained f hf
      · have hboth := hbooks.trans ((books_landed t w (i, frame) air).trans (hmoves.books air))
        rw [zero_add, add_zero] at hboth
        exact hboth.cancel (t.frame frame)
  | lose hbefore ih =>
      -- what is lost is missing in the count
      have hle := hbefore.flown_le
      rw [Multiset.card_cons] at hle
      omega

end Runs

theorem datagramTariff_ofDatagrams : datagramTariff.OfDatagrams where
  packet p q hp hq h := by simp only [datagramTariff, hp, hq, h]
  queued p hp := (if_pos hp).symm
  ask := rfl
  answer := rfl

/-- Nothing is held anywhere before the first call. -/
theorem Pristine.held {w : World} (h : Pristine w) (place : Place) :
    datagramTariff.held (w, 0) place = 0 := by
  cases place with
  | link => rfl
  | arp n =>
      refine List.sum_eq_zero fun a ha => ?_
      obtain ⟨entry, hentry, rfl⟩ := List.mem_map.mp ha
      rw [h.nobody n entry hentry]
      rfl
  | udp k =>
      show (w.udpSock k).elim 0 _ = 0
      cases hk : w.udpSock k with
      | none => rfl
      | some sock =>
          rw [Option.elim_some, h.queues k sock hk]
          rfl
  | tcp k =>
      show (w.tcpSock k).elim 0 _ = 0
      cases w.tcpSock k with
      | none => rfl
      | some sock => exact smul_zero _

section Arrive

variable {w₀ w : World} {socks : Finset SockId} {calls delivered : List Call} {air : Air}

/-- The books of such a run balance exactly, and some places hold all there is. -/
theorem NetRun.exact (hw : Reachable w₀) (hnew : Pristine w₀) (h : NetRun w₀ calls delivered air w)
    (hops : ∀ call ∈ calls, call.op.Plain w₀ socks)
    (hall : flown calls + flown delivered = delivered.length + air.card) :
    ∃ S, (∀ place, place ∉ S → datagramTariff.held (w, air) place = 0) ∧
      ∀ T, S ⊆ T → total datagramTariff.held T (w, air) + datagramTariff.outgos calls
        = datagramTariff.incomes calls := by
  obtain ⟨-, -, hle⟩ := h.lossless datagramTariff_ofDatagrams hw hnew hops hall
  -- the same books, with amounts in the reverse order
  obtain ⟨-, -, hge⟩ := h.lossless (A := (Multiset (List UInt8))ᵒᵈ) (t := datagramTariff)
    ⟨datagramTariff_ofDatagrams.packet, datagramTariff_ofDatagrams.queued, rfl, rfl⟩ hw hnew hops hall
  exact hle.exact (Filter.Eventually.mono hge fun S hS => hS) hnew.held

/-- **What was sent and not read is somewhere.** -/
theorem NetRun.balanced (hw : Reachable w₀) (hnew : Pristine w₀) (h : NetRun w₀ calls delivered air w)
    (hops : ∀ call ∈ calls, call.op.Plain w₀ socks)
    (hall : flown calls + flown delivered = delivered.length + air.card) :
    ∃ nodes, (∀ n, n ∉ nodes → waitingDatagrams w n = 0) ∧
      (calls.map Call.readDatagram).sum + flyingDatagrams air
        + ∑ n ∈ nodes, waitingDatagrams w n + ∑ k ∈ socks, queuedDatagrams w k
          = (calls.map Call.sentDatagram).sum := by
  obtain ⟨hok, -, -⟩ := h.lossless datagramTariff_ofDatagrams hw hnew hops hall
  obtain ⟨S, hout, hbalance⟩ := h.exact hw hnew hops hall
  have harp : Set.InjOn Place.arp (Set.preimage Place.arp S) := fun _ _ _ _ heq => Place.arp.inj heq
  obtain ⟨nodes, hnodes⟩ : ∃ nodes : Finset NodeId, ∀ n, n ∈ nodes ↔ Place.arp n ∈ S :=
    ⟨S.preimage Place.arp harp, fun n => Finset.mem_preimage⟩
  refine ⟨nodes, fun n hn => ?_, ?_⟩
  · rw [← held_arp w air n]
    exact hout (.arp n) fun hmem => hn ((hnodes n).mpr hmem)
  -- only sockets of the list have a queue
  have hrest : ∀ place, place ∉ placesOf nodes socks → datagramTariff.held (w, air) place = 0 := by
    intro place hplace
    cases place with
    | link => exact absurd (Finset.mem_insert_self _ _) hplace
    | arp n =>
        refine hout (.arp n) fun hmem => hplace (Finset.mem_insert_of_mem (Finset.mem_union_left _ ?_))
        exact Finset.mem_map_of_mem _ ((hnodes n).mpr hmem)
    | udp k =>
        have hk : k ∉ socks := fun hk => hplace
          (Finset.mem_insert_of_mem (Finset.mem_union_right _ (Finset.mem_map_of_mem _ hk)))
        show (w.udpSock k).elim 0 _ = 0
        cases hsock : w.udpSock k with
        | none => rfl
        | some sock =>
            rw [Option.elim_some, hok.queues k hk sock hsock]
            rfl
    | tcp k =>
        show (w.tcpSock k).elim 0 _ = 0
        cases w.tcpSock k with
        | none => rfl
        | some sock => exact smul_zero _
  have hsum : total datagramTariff.held (S ∪ placesOf nodes socks) (w, air)
      = total datagramTariff.held (placesOf nodes socks) (w, air) :=
    (Finset.sum_subset Finset.subset_union_right fun place _ => hrest place).symm
  have hexact := hbalance (S ∪ placesOf nodes socks) Finset.subset_union_left
  rw [hsum, total_placesOf, outgos_datagramTariff, incomes_datagramTariff] at hexact
  rw [← hexact]
  abel

/-- Nobody waits when nothing is in flight. -/
theorem NetRun.nobody (hw : Reachable w₀) (hnew : Pristine w₀) (h : NetRun w₀ calls delivered 0 w)
    (hops : ∀ call ∈ calls, call.op.Plain w₀ socks)
    (hall : flown calls + flown delivered = delivered.length) (n : NodeId) :
    waitingDatagrams w n = 0 := by
  obtain ⟨hok, -, -⟩ := h.lossless datagramTariff_ofDatagrams hw hnew hops hall
  have hanswerable := h.answerable hw hnew.nobody (fun call hcall => (hops call hcall).not_configures) hall
  refine List.sum_eq_zero fun a ha => ?_
  obtain ⟨entry, hentry, rfl⟩ := List.mem_map.mp ha
  refine List.sum_eq_zero fun b hb => ?_
  obtain ⟨s, hs, -⟩ := List.mem_map.mp hb
  obtain ⟨i, j, x, y, ⟨_, _, _, hop, -⟩, hip, hi⟩ := hok.waiting n entry hentry s hs
  have hwait : WaitsFor w x.node y.ipAddr s := by
    rw [hop.node]
    exact ⟨entry, hentry, hip.symm, hs⟩
  rcases hanswerable.inFlight (hok.still.adjacent hop.toAdjacent) hi hwait with hmem | hmem
  · exact absurd hmem (Multiset.notMem_zero _)
  · exact absurd hmem (Multiset.notMem_zero _)

end Arrive

/-! ### Networks that can be checked -/

/-- The next hop of a packet, when the link to it works in both directions. -/
def World.hop (w : World) (n : NodeId) (dst : UInt32) : Option (IntfId × IntfId) := do
  let rt ← rtLookupLpm (w.rtTable n) dst
  let j ← w.nbrIf rt.intf
  let x ← w.intf rt.intf
  let y ← w.intf j
  if x.isIpAddrConfig && y.isIpAddrConfig && w.tries rt.intf && w.tries j &&
      decide (x.node = n ∧ isIpLocal w n dst = false ∧ rt.target dst = y.ipAddr ∧
        w.nbrIf j = some rt.intf) then
    some (rt.intf, j)
  else none

/-- A datagram reaches one of the sockets by way of some routers. -/
def World.reaches (w : World) (socks : Finset SockId) (dst : UInt32) (port : UInt16) :
    Nat → NodeId → Bool
  | 0, n => (w.hop n dst).any fun l =>
      ((w.intf l.2).any fun y => isIpLocal w y.node dst) &&
        (udpSocksManagerFind w l.2 port).any fun k => decide (k ∈ socks)
  | m + 1, n => w.ipForwardEnable && (w.hop n dst).any fun l =>
      (w.intf l.2).any fun y => w.reaches socks dst port m y.node

section Checked

variable {w : World} {socks : Finset SockId} {n : NodeId} {dst : UInt32} {port : UInt16}

theorem Onward.of_hop (hsys : ∀ k, 0 ≤ w.sysSend k) {l : IntfId × IntfId} (h : w.hop n dst = some l) :
    ∃ x y, Onward w n dst l.1 l.2 x y := by
  unfold World.hop at h
  simp only [Option.bind_eq_bind, Option.bind_eq_some_iff] at h
  obtain ⟨rt, hrt, j, hj, x, hx, y, hy, hif⟩ := h
  split at hif
  · rename_i htests
    cases hif
    simp only [Bool.and_eq_true, decide_eq_true_eq] at htests
    obtain ⟨⟨⟨⟨hxc, hyc⟩, htries⟩, htries'⟩, hnode, hforeign, htarget, hback⟩ := htests
    exact ⟨x, y, ⟨hx, hy, hxc, hyc, hj, hback, ⟨htries, hsys⟩, ⟨htries', hsys⟩⟩, hnode, hforeign,
      rt, hrt, rfl, htarget⟩
  · cases hif

theorem Reaches.of_reaches (hsys : ∀ k, 0 ≤ w.sysSend k) {m : Nat}
    (h : w.reaches socks dst port m n = true) : Reaches w socks dst port m n := by
  induction m generalizing n with
  | zero =>
      obtain ⟨l, hhop, hlast⟩ := (Option.any_eq_true _ _).mp h
      obtain ⟨x, y, hop⟩ := Onward.of_hop hsys hhop
      rw [hop.far, Option.any_some] at hlast
      obtain ⟨hown, hfind⟩ := Bool.and_eq_true_iff.mp hlast
      obtain ⟨k, hk, hmem⟩ := (Option.any_eq_true _ _).mp hfind
      exact .last hop hown hk (of_decide_eq_true hmem)
  | succ m ih =>
      obtain ⟨hforward, hrest⟩ := Bool.and_eq_true_iff.mp h
      obtain ⟨l, hhop, hrest⟩ := (Option.any_eq_true _ _).mp hrest
      obtain ⟨x, y, hop⟩ := Onward.of_hop hsys hhop
      rw [hop.far, Option.any_some] at hrest
      exact .router hop hforward (ih hrest)

end Checked

/-- The calls of a run are calls of the network. -/
theorem Run.netRun {w₀ w : World} {calls : List Call} (h : Run w₀ calls w) :
    ∃ air, NetRun w₀ calls [] air w := by
  induction h with
  | nil => exact ⟨0, .start⟩
  | snoc _ hv hrun ih =>
      obtain ⟨air, hbefore⟩ := ih
      exact ⟨_, .call hbefore hv hrun⟩

theorem income_of_setup {A : Type} [AddCommMonoid A] (t : Tariff A) {op : Op} (hop : ¬ op.Networks)
    (w : World) (r : Ret) : t.income w op r = 0 := by
  cases op with
  | recvFrame _ _ | udpSendto _ _ _ _ | tcpSend _ _ | icmpOut _ _ _ _ _ | ping _ _
  | sendArpBroadcastRequest _ _ => exact absurd trivial hop
  | _ => rfl

theorem eq_nil_of_queuedDatagrams {w : World} {k : SockId} (h : queuedDatagrams w k = 0)
    {sock : UdpSock} (hsock : w.udpSock k = some sock) : sock.rxSkb = [] := by
  rw [queuedDatagrams, hsock, Option.elim_some] at h
  cases hqueue : sock.rxSkb with
  | nil => rfl
  | cons skb rest =>
      rw [hqueue, List.map_cons, List.sum_cons] at h
      exact absurd (add_eq_zero.mp h).1 (Multiset.singleton_ne_zero _)

/-- **A network that was only set up has sent nothing.** -/
theorem Pristine.of_setup {w₀ w : World} (hw : Initial w₀) {calls : List Call} (h : Run w₀ calls w)
    (hops : ∀ op ∈ calls.map Call.op, ¬ op.Networks) (hdistinct : DistinctNeighbours w) :
    Pristine w := by
  obtain ⟨htable, -⟩ := h.quiet hops
  have hempty : ∀ n, w.arpTable n = [] := fun n => by rw [htable, hw.arpTable]
  refine ⟨hdistinct, fun n entry hentry => ?_, fun {i j x y} _ entry hentry => ?_, fun k sock hsock => ?_⟩
  · rw [hempty] at hentry
    cases hentry
  · rw [hempty] at hentry
    cases hentry
  -- what is queued was sent
  obtain ⟨air, hnet⟩ := h.netRun
  have hincomes : datagramTariff.incomes calls = 0 := by
    refine List.sum_eq_zero fun a ha => ?_
    obtain ⟨call, hcall, rfl⟩ := List.mem_map.mp ha
    exact income_of_setup _ (hops _ (List.mem_map_of_mem hcall)) _ _
  have hsettled := hnet.settled datagramTariff_fair hw {.udp k}
  rw [hincomes, total, Finset.sum_singleton] at hsettled
  exact eq_nil_of_queuedDatagrams (add_eq_zero.mp (nonpos_iff_eq_zero.mp hsettled)).1 hsock

/-- The neighbours of these interfaces have different addresses where they are those of one node. -/
def World.distinctNeighbours (w : World) (is : List IntfId) : Bool :=
  is.all fun i => is.all fun i' => (w.intf i).all fun x => (w.intf i').all fun x' =>
    ((w.nbrIf i).bind w.intf).all fun y => ((w.nbrIf i').bind w.intf).all fun y' =>
      decide (x.node = x'.node → y.ipAddr = y'.ipAddr → i = i')

theorem DistinctNeighbours.of_check {w : World} {is : List IntfId}
    (his : ∀ i, (w.intf i).isSome → i ∈ is) (h : w.distinctNeighbours is = true) :
    DistinctNeighbours w := by
  intro i j x y i' j' x' y' hop hop' hnode hip
  have hi := List.all_eq_true.mp h i (his i (by rw [hop.near]; rfl))
  have hi' := List.all_eq_true.mp hi i' (his i' (by rw [hop'.near]; rfl))
  rw [hop.near, hop'.near, hop.there, hop'.there] at hi'
  simp only [Option.all_some, Option.bind_some, hop.far, hop'.far, decide_eq_true_eq] at hi'
  exact hi' hnode hip

/-- A run makes no interface. -/
theorem Run.dead {w₀ w : World} {calls : List Call} (h : Run w₀ calls w) {i : IntfId}
    (hi : w₀.intf i = none) : w.intf i = none := by
  induction h with
  | nil => exact hi
  | @snoc calls w w' op r _ _ hrun ih =>
      rw [← show op.after w = w' from final_of_ok hrun]
      exact dead_after op w ih

/-! ### The result -/

/--
**Every datagram arrives.**  In a network that loses no frame, where neighbours have different
addresses, the datagrams sent along ways of at most 63 routers are at every moment the ones that
were read, those in flight, those that wait for an address and those in the queues of the sockets.
They wait at finitely many nodes, and at the others none does.  Once nothing is in flight, they are the ones that were read and those in the queues.
-/
theorem datagrams_arrive {w₀ w : World} (hw : Reachable w₀) (hnew : Pristine w₀)
    {socks : Finset SockId} {calls delivered : List Call} {air : Air}
    (h : NetRun w₀ calls delivered air w) (hops : ∀ call ∈ calls, call.op.Plain w₀ socks)
    (hall : flown calls + flown delivered = delivered.length + air.card) :
    (∃ nodes, (∀ n, n ∉ nodes → waitingDatagrams w n = 0) ∧
      (calls.map Call.readDatagram).sum + flyingDatagrams air
        + ∑ n ∈ nodes, waitingDatagrams w n + ∑ k ∈ socks, queuedDatagrams w k
          = (calls.map Call.sentDatagram).sum) ∧
    (air = 0 → (calls.map Call.readDatagram).sum + ∑ k ∈ socks, queuedDatagrams w k
      = (calls.map Call.sentDatagram).sum) := by
  obtain ⟨nodes, hnobody, hbalance⟩ := h.balanced hw hnew hops hall
  refine ⟨⟨nodes, hnobody, hbalance⟩, ?_⟩
  rintro rfl
  rw [← hbalance, Finset.sum_eq_zero fun n _ => h.nobody hw hnew hops hall n, add_zero]
  exact congrArg (· + _) (add_zero _).symm

/-- `node1` and `node2` reach each other by way of `node0`, and both have a socket. -/
def Fixture.setup : List Op :=
  configure ++
    [.rtTableAddRoute 1 (addr 172 16 0 0) 16 (addr 192 168 89 1) 1,
      .udpSocket 1, .udpBind 0 (addr 192 168 89 2) 9,
      .udpSocket 2, .udpBind 1 (addr 172 16 10 2) 7]

/-- A datagram is sent, both nodes on the way ask for the next hop, and it is read. -/
def Fixture.arriveMoves : List NetMove :=
  .call (.udpSendto 0 [1, 2, 3] (addr 172 16 10 2) 7) :: List.replicate 6 .deliver ++
    [.call (.udpRecvfrom 1 100 true true)]

/-- What `datagrams_arrive` asks of the socket `0`. -/
def Fixture.ready (w : World) : Bool :=
  w.distinctNeighbours [0, 1, 2, 3] &&
    ((goodUdpSock w 0).bind w.udpSock).any (fun sock => sock.bound && sock.intf == some 1) &&
    w.hop 1 (addr 172 16 10 2) == some (1, 0) &&
    w.reaches {1} (addr 172 16 10 2) 7 1 1 &&
    (runMoves w arriveMoves).any fun N => N.2.isEmpty

theorem datagrams_arrive_fixture : ∃ w₀ calls delivered w, Reachable w₀ ∧
    NetRun w₀ calls delivered 0 w ∧ calls.map Call.op = Fixture.arriveMoves.filterMap NetMove.op? ∧
    (calls.map Call.readDatagram).sum + ∑ k ∈ {1}, queuedDatagrams w k
      = (calls.map Call.sentDatagram).sum := by
  have hsome : (runOps Fixture.graph Fixture.setup).any Fixture.ready = true := by decide +kernel
  obtain ⟨w₀, hbuilt, hready⟩ := (Option.any_eq_true _ _).mp hsome
  obtain ⟨built, hbuild, hmap⟩ := Run.of_runOps hbuilt
  have hops : ∀ op ∈ built.map Call.op, ¬ op.Networks := by
    rw [hmap]
    simp [Fixture.setup, Fixture.configure, Op.Networks]
  have hw : Reachable w₀ := hbuild.reachable (.init Fixture.graph_initial)
  have hsys : ∀ k, 0 ≤ w₀.sysSend k := by
    intro k
    rw [(hbuild.quiet hops).2]
    exact Int.zero_le_ofNat 1
  simp only [Fixture.ready, Bool.and_eq_true, beq_iff_eq] at hready
  obtain ⟨⟨⟨⟨hdistinct, hsock⟩, hhop⟩, hreach⟩, hmoves⟩ := hready
  have hnew : Pristine w₀ := by
    refine .of_setup Fixture.graph_initial hbuild hops
      (DistinctNeighbours.of_check (fun i hi => ?_) hdistinct)
    by_cases hlt : i < 4
    · exact List.mem_range.mpr hlt
    · obtain ⟨m, rfl⟩ := Nat.exists_eq_add_of_le' (Nat.le_of_not_lt hlt)
      have hdead : Fixture.graph.intf (m + 4) = none := rfl
      rw [hbuild.dead hdead] at hi
      cases hi
  obtain ⟨sock, hsock, hfields⟩ := (Option.any_eq_true _ _).mp hsock
  obtain ⟨k, hfd, hsock⟩ := Option.bind_eq_some_iff.mp hsock
  obtain ⟨hbound, hintf⟩ := Bool.and_eq_true_iff.mp hfields
  obtain ⟨x, y, hop⟩ := Onward.of_hop hsys hhop
  have hreach := Reaches.of_reaches hsys hreach
  obtain ⟨⟨w, air⟩, hmoves, hempty⟩ := (Option.any_eq_true _ _).mp hmoves
  obtain rfl := List.isEmpty_iff.mp hempty
  obtain ⟨calls, delivered, hrun, hcalls, hlen, hflown⟩ := NetRun.of_moves hmoves
  have hall : flown calls + flown delivered = delivered.length + (0 : Air).card := hflown
  have hplain : ∀ call ∈ calls, call.op.Plain w₀ {1} := by
    intro call hcall
    have hmem := List.mem_map_of_mem (f := Call.op) hcall
    rw [hcalls] at hmem
    rcases List.mem_cons.mp hmem with heq | hmem
    · rw [heq]
      exact .send hfd hsock hbound (beq_iff_eq.mp hintf) (by rw [hop.node]; exact hop)
        (by rw [hop.node]; exact hreach) (by decide) [1, 2, 3]
    · rw [List.mem_singleton.mp hmem]
      exact .read 1 100 true true
  exact ⟨w₀, calls, delivered, w, hw, hrun, hcalls, (datagrams_arrive hw hnew hrun hplain hall).2 rfl⟩

end SimpleTcpip
