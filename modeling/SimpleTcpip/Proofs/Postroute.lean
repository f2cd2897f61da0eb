/-
What sending a packet can change.

A buffer handed to `ip_output` or `ip_forward` ends in one of three ways: it is sent
or parked, it is delivered to the node itself, or it is dropped.  `Sends K L` says what
the process may look like afterwards: the tables that are not mentioned are as they
were, every packet handed over satisfies `K`, and sockets only gain looped-back
datagrams, of buffers whose identity satisfies `L`.  The parameters are what a later
proof wants to know about the packets; the functions of this file only have to show
them for the buffer they rewrite.

A looped-back buffer has no IP header pointer, so local delivery answers nothing.
That is why one level of `ip_input` below `ip_postroute` is enough.
-/
import SimpleTcpip.Proofs.Output

namespace SimpleTcpip

open Fallible

/-- A packet waits in the ARP table of a node. -/
def Pending (w : World) (n : NodeId) (s : SkBuff) : Prop :=
  ∃ entry ∈ w.arpTable n, s ∈ entry.pendingPkts

/-- A buffer looped back, with an identity that satisfies `L`. -/
def Looped (L : SkbId → Prop) (s : SkBuff) : Prop := s.ipHdr = none ∧ L s.id

/-- What `ip_postroute` and the delivery of its own packets record. -/
def Event.Sent (K : SkBuff → Prop) (L : SkbId → Prop) : Event → Prop
  | .parked _ _ s => K s
  | .ethOutput _ _ proto s => proto = ethProtoArp ∨ K s
  | .transport _ s | .readIpHdr s => Looped L s
  | .received _ _ | .ipOutput _ _ _ _ => False
  | .alloc _ | .free _ | .sent _ _ => True

/-- What sending a packet can change. -/
structure Sends (K : SkBuff → Prop) (L : SkbId → Prop) (w w' : World) : Prop where
  frame : w' = { w with arpTable := w'.arpTable, udpSock := w'.udpSock, nextId := w'.nextId,
                        numSends := w'.numSends, trace := w'.trace }
  nextId : w.nextId ≤ w'.nextId
  /-- Every packet handed over satisfies `K`. -/
  trace : ∃ es, w'.trace = w.trace ++ es ∧ ∀ e ∈ es, e.Sent K L
  /-- Every packet waiting afterwards did before, or satisfies `K`. -/
  pending : ∀ n s, Pending w' n s → Pending w n s ∨ K s
  /-- A UDP socket at most gained looped-back datagrams. -/
  udpSock : ∀ k, ∃ l : List SkBuff, (∀ s ∈ l, Looped L s) ∧
    w'.udpSock k = (w.udpSock k).map fun sock => { sock with rxSkb := l ++ sock.rxSkb }

namespace Sends

variable {K K' : SkBuff → Prop} {L L' : SkbId → Prop} {w w' w'' : World}

theorem refl (K : SkBuff → Prop) (L : SkbId → Prop) (w : World) : Sends K L w w := by
  refine ⟨rfl, Nat.le_refl _, ⟨[], by simp, by simp⟩, fun n s h => Or.inl h, fun k => ⟨[], ?_, ?_⟩⟩
  · simp
  · cases w.udpSock k <;> rfl

theorem trans (h : Sends K L w w') (h' : Sends K L w' w'') : Sends K L w w'' := by
  obtain ⟨es, he, hes⟩ := h.trace
  obtain ⟨es', he', hes'⟩ := h'.trace
  refine ⟨?_, Nat.le_trans h.nextId h'.nextId, ⟨es ++ es', ?_, ?_⟩, ?_, ?_⟩
  · rw [h'.frame, h.frame]
  · rw [he', he, List.append_assoc]
  · intro e hmem
    rcases List.mem_append.mp hmem with hl | hr
    · exact hes e hl
    · exact hes' e hr
  · intro n s hs
    rcases h'.pending n s hs with hs' | hK
    · exact h.pending n s hs'
    · exact Or.inr hK
  · intro k
    obtain ⟨l, hl, heq⟩ := h.udpSock k
    obtain ⟨l', hl', heq'⟩ := h'.udpSock k
    refine ⟨l' ++ l, ?_, ?_⟩
    · intro s hs
      rcases List.mem_append.mp hs with hs | hs
      · exact hl' s hs
      · exact hl s hs
    · rw [heq', heq]
      cases w.udpSock k <;> simp

theorem mono (hK : ∀ s, K s → K' s) (hL : ∀ id, L id → L' id) (h : Sends K L w w') :
    Sends K' L' w w' := by
  obtain ⟨es, he, hes⟩ := h.trace
  refine ⟨h.frame, h.nextId, ⟨es, he, fun e hmem => ?_⟩, fun n s hs => ?_, fun k => ?_⟩
  · have hsent := hes e hmem
    cases e with
    | parked n ip s => exact hK s hsent
    | ethOutput i mac proto s => exact hsent.imp_right (hK s)
    | transport proto s => exact ⟨hsent.1, hL s.id hsent.2⟩
    | readIpHdr s => exact ⟨hsent.1, hL s.id hsent.2⟩
    | _ => exact hsent
  · exact (h.pending n s hs).imp_right (hK s)
  · obtain ⟨l, hl, heq⟩ := h.udpSock k
    exact ⟨l, fun s hs => ⟨(hl s hs).1, hL s.id (hl s hs).2⟩, heq⟩

theorem node (h : Sends K L w w') : w'.node = w.node := by rw [h.frame]
theorem intf (h : Sends K L w w') : w'.intf = w.intf := by rw [h.frame]
theorem link (h : Sends K L w w') : w'.link = w.link := by rw [h.frame]
theorem rtTable (h : Sends K L w w') : w'.rtTable = w.rtTable := by rw [h.frame]
theorem udpSocks (h : Sends K L w w') : w'.udpSocks = w.udpSocks := by rw [h.frame]
theorem tcpSocks (h : Sends K L w w') : w'.tcpSocks = w.tcpSocks := by rw [h.frame]
theorem tcpSock (h : Sends K L w w') : w'.tcpSock = w.tcpSock := by rw [h.frame]
theorem tcpConn (h : Sends K L w w') : w'.tcpConn = w.tcpConn := by rw [h.frame]
theorem udpFdToSock (h : Sends K L w w') : w'.udpFdToSock = w.udpFdToSock := by rw [h.frame]
theorem tcpFdToSock (h : Sends K L w w') : w'.tcpFdToSock = w.tcpFdToSock := by rw [h.frame]
theorem fdConnToSock (h : Sends K L w w') : w'.fdConnToSock = w.fdConnToSock := by rw [h.frame]
theorem ipForwardEnable (h : Sends K L w w') : w'.ipForwardEnable = w.ipForwardEnable := by
  rw [h.frame]
theorem checked (h : Sends K L w w') : w'.checked = w.checked := by rw [h.frame]

end Sends

/-- What a run recorded. -/
def newEvents (w w' : World) : List Event := w'.trace.drop w.trace.length

/-- The packet an event hands to `ethernet_output` as IP, or parks. -/
def Event.handedOver : Event → Option SkBuff
  | .parked _ _ s => some s
  | .ethOutput _ _ proto s => if proto = ethProtoIp then some s else none
  | _ => none

/-- The IP packets a run handed to `ethernet_output` or parked, in order. -/
def handedOver (w w' : World) : List SkBuff := (newEvents w w').filterMap Event.handedOver

theorem newEvents_append {w w' : World} {es : List Event} (h : w'.trace = w.trace ++ es) :
    newEvents w w' = es := by
  rw [newEvents, h, List.drop_left]

theorem Sends.handedOver {K : SkBuff → Prop} {L : SkbId → Prop} {w w' : World} (h : Sends K L w w') {s : SkBuff}
    (hs : s ∈ SimpleTcpip.handedOver w w') : K s := by
  obtain ⟨es, he, hes⟩ := h.trace
  rw [SimpleTcpip.handedOver, newEvents_append he] at hs
  obtain ⟨e, hmem, hover⟩ := List.mem_filterMap.mp hs
  have hsent := hes e hmem
  cases e with
  | parked n ip s' => cases hover; exact hsent
  | ethOutput i mac proto s' =>
      rw [Event.handedOver] at hover
      split at hover
      · rename_i hproto
        cases hover
        exact hsent.resolve_left (by rw [hproto]; decide)
      · cases hover
  | _ => cases hover

/-! ### The steps of a sending run -/

section Steps

variable {K : SkBuff → Prop} {L : SkbId → Prop}

theorem sends_of_emits {P : Event → Prop} (hP : ∀ e, P e → e.Sent K L) {w w' : World}
    (h : Emits P w w') : Sends K L w w' := by
  obtain ⟨es, he, hes⟩ := h.trace
  refine ⟨?_, h.nextId, ⟨es, he, fun e hmem => hP e (hes e hmem)⟩, ?_, ?_⟩
  · rw [h.frame]
  · intro n s hs
    left
    unfold Pending at hs
    rwa [h.arpTable] at hs
  · intro k
    refine ⟨[], by simp, ?_⟩
    rw [h.udpSock]
    cases w.udpSock k <;> rfl

theorem emits_sends {α : Type} {P : Event → Prop} {m : M α} (hP : ∀ e, P e → e.Sent K L)
    (h : Keeps (Emits P) m) : Keeps (Sends K L) m :=
  keeps_mono (fun _ _ he => sends_of_emits hP he) h

theorem reads_sends {α : Type} {m : M α} (h : Keeps Eq m) : Keeps (Sends K L) m :=
  keeps_of_eq (Sends.refl K L) h

theorem pure_sends {α : Type} (a : α) : Keeps (Sends K L) (pure a : M α) :=
  keeps_pure (Sends.refl K L) a

theorem bind_sends {α β : Type} {x : M α} {f : α → M β} (hx : Keeps (Sends K L) x)
    (hf : ∀ a, Keeps (Sends K L) (f a)) : Keeps (Sends K L) (x >>= f) :=
  keeps_bind (fun _ _ _ h h' => h.trans h') hx hf

theorem final_bind_sends {α β : Type} {x : M α} {f : α → M β} {w : World}
    (hx : Keeps (Sends K L) x) (hf : ∀ a w', x w = .ok a w' → Sends K L w' (final (f a) w')) :
    Sends K L w (final (x >>= f) w) :=
  final_bind_rel (fun _ _ _ h h' => h.trans h') (hx w) hf

theorem final_ite_sends {α : Type} {c : Prop} [Decidable c] {x y : M α} {w : World}
    (hx : Sends K L w (final x w)) (hy : Sends K L w (final y w)) :
    Sends K L w (final (if c then x else y) w) := by
  split
  · exact hx
  · exact hy

theorem isBuffer_sent (e : Event) (h : e.IsBuffer) : e.Sent K L := by
  cases e <;> trivial

theorem isArp_sent (e : Event) (h : e.IsArp) : e.Sent K L := by
  cases e with
  | ethOutput i mac proto s => exact Or.inl h
  | _ => trivial

theorem log_sends {e : Event} (he : e.Sent K L) : Keeps (Sends K L) (log e) :=
  emits_sends (fun e' (h : e' = e) => h ▸ he) (log_emits rfl)

theorem freeSkb_sends (skb : SkBuff) : Keeps (Sends K L) (freeSkb skb) := log_sends trivial

/-- A change of a node's ARP table sends when it only lets packets wait that did before or
that satisfy `K`. -/
theorem arpTable_sends {w : World} {n : NodeId} {table : List ArpEntry}
    (h : ∀ entry ∈ table, ∀ s ∈ entry.pendingPkts, Pending w n s ∨ K s) :
    Sends K L w { w with arpTable := Function.update w.arpTable n table } := by
  refine ⟨rfl, Nat.le_refl _, ⟨[], by simp, by simp⟩, ?_, (Sends.refl K L w).udpSock⟩
  rintro m s ⟨entry, hmem, hs⟩
  by_cases hm : m = n
  · subst hm
    change entry ∈ Function.update w.arpTable m table m at hmem
    rw [Function.update_self] at hmem
    exact h entry hmem s hs
  · change entry ∈ Function.update w.arpTable n table m at hmem
    rw [Function.update_of_ne hm] at hmem
    exact Or.inl ⟨entry, hmem, hs⟩

theorem arpTableEntryAdd_sends (n : NodeId) {entry : ArpEntry} (h : entry.pendingPkts = []) :
    Keeps (Sends K L) (arpTableEntryAdd n entry) := by
  refine keeps_modify fun w => arpTable_sends fun e hmem s hs => ?_
  rcases List.mem_cons.mp hmem with rfl | hmem
  · rw [h] at hs
    cases hs
  · exact Or.inl ⟨e, hmem, hs⟩

/-- The process after a write to an entry of a node's ARP table. -/
def World.modifyArp (w : World) (n : NodeId) (ip : UInt32) (f : ArpEntry → ArpEntry) : World :=
  { w with arpTable := Function.update w.arpTable n (arpTableModify (w.arpTable n) ip f) }

@[simp] theorem modifyArpEntry_ok {n : NodeId} {ip : UInt32} {f : ArpEntry → ArpEntry}
    {w w' : World} {u : Unit} :
    modifyArpEntry n ip f w = .ok u w' ↔ w' = w.modifyArp n ip f := by
  simp only [modifyArpEntry, run_modify, EStateM.Result.ok.injEq, true_and]
  exact eq_comm

/-- The entry found afterwards is the changed one. -/
theorem arpTableLookup_modifyArp {w : World} {n : NodeId} {ip : UInt32} {f : ArpEntry → ArpEntry}
    (hf : ∀ entry, (f entry).ip = entry.ip) :
    arpTableLookup ((w.modifyArp n ip f).arpTable n) ip
      = (arpTableLookup (w.arpTable n) ip).map f := by
  show arpTableLookup (Function.update w.arpTable n _ n) ip = _
  rw [Function.update_self]
  exact List.find?_modifyFirst fun entry h => by simpa only [hf] using h

/-- Writing to an entry sends when the entry then holds what waited before and what
satisfies `K`. -/
theorem modifyArp_sends {w : World} {n : NodeId} {ip : UInt32} {f : ArpEntry → ArpEntry}
    (h : ∀ entry, arpTableLookup (w.arpTable n) ip = some entry →
      ∀ s ∈ (f entry).pendingPkts, s ∈ entry.pendingPkts ∨ K s) :
    Sends K L w (w.modifyArp n ip f) := by
  refine arpTable_sends fun e hmem s hs => ?_
  rcases List.mem_modifyFirst hmem with hmem | ⟨entry, hfind, rfl⟩
  · exact Or.inl ⟨e, hmem, hs⟩
  · rcases h entry hfind s hs with hs | hK
    · exact Or.inl ⟨entry, List.mem_of_find?_eq_some hfind, hs⟩
    · exact Or.inr hK

theorem modifyArpEntry_sends (n : NodeId) (ip : UInt32) {f : ArpEntry → ArpEntry}
    (h : ∀ entry, ∀ s ∈ (f entry).pendingPkts, s ∈ entry.pendingPkts ∨ K s) :
    Keeps (Sends K L) (modifyArpEntry n ip f) :=
  fun _ => modifyArp_sends fun entry _ => h entry

theorem arpEntryFor_sends (n : NodeId) (i : IntfId) (ip : UInt32) :
    Keeps (Sends K L) (arpEntryFor n i ip) := by
  refine bind_sends (reads_sends get_reads) fun w => ?_
  cases arpTableLookup (w.arpTable n) ip with
  | some entry => exact pure_sends entry
  | none => exact bind_sends (arpTableEntryAdd_sends n rfl) fun _ => pure_sends _

theorem sendArpBroadcastRequest_sends (i : IntfId) (ip : UInt32) :
    Keeps (Sends K L) (sendArpBroadcastRequest i ip) :=
  emits_sends isArp_sent (sendArpBroadcastRequest_emits i ip)

theorem ethernetOutput_sends {i : IntfId} {mac : MacAddr} {proto : UInt16} {skb : SkBuff}
    (hK : K skb) : Keeps (Sends K L) (ethernetOutput i mac proto skb) :=
  emits_sends (P := Event.Sent K L) (fun _ h => h)
    (ethernetOutput_emits isBuffer_sent (Or.inr hK))

theorem ipNeighbourOutput_sends (n : NodeId) (i : IntfId) (ip : UInt32) {skb : SkBuff}
    (hK : K skb) : Keeps (Sends K L) (ipNeighbourOutput n i ip skb) := by
  refine bind_sends (arpEntryFor_sends n i ip) fun entry => ?_
  refine keeps_ite ?_ (ethernetOutput_sends hK)
  refine bind_sends (log_sends (e := .parked n ip skb) hK) fun _ => ?_
  refine bind_sends (modifyArpEntry_sends n ip ?_) fun _ =>
    bind_sends (sendArpBroadcastRequest_sends i ip) fun _ => pure_sends _
  intro entry s hs
  rcases List.mem_cons.mp hs with rfl | hs
  · exact Or.inr hK
  · exact Or.inl hs

end Steps

/-! ### Local delivery

`icmp_input` and `tcp_input` follow `ip_hdr` before they answer anything; on a
looped-back buffer that stops the run.  `udp_input` queues the buffer.
-/

section Looped

variable {K : SkBuff → Prop} {L : SkbId → Prop} {skb : SkBuff}

theorem followIpHdr_looped (h : Looped L skb) : Keeps (Sends K L) (followIpHdr skb) := by
  refine bind_sends (log_sends h) fun _ => ?_
  rw [h.1]
  exact reads_sends (throw_reads _)

/-- Whatever comes after a null `ip_hdr` was followed does not happen. -/
theorem followIpHdr_bind_looped {α : Type} {f : Nat → M α} (h : Looped L skb) :
    Keeps (Sends K L) (followIpHdr skb >>= f) := by
  intro w
  refine final_bind_sends (followIpHdr_looped h) fun a w' hrun => ?_
  rw [followIpHdr_ok, h.1] at hrun
  cases hrun.1

theorem skbPull_looped {s : SkBuff} {n : Nat} {w w' : World} (h : Looped L skb)
    (hrun : skbPull skb n w = .ok s w') : Looped L s := by
  rw [skbPull_ok] at hrun
  rw [hrun.2.2.1]
  exact h

theorem icmpInput_looped (ipInput : SkBuff → M Bool) (h : Looped L skb) :
    Keeps (Sends K L) (icmpInput ipInput skb) := by
  refine keeps_ite (pure_sends _) ?_
  refine bind_sends (reads_sends (readU8_reads _ _)) fun type =>
    bind_sends (reads_sends (readU8_reads _ _)) fun code => keeps_ite ?_ ?_
  · exact bind_sends (reads_sends (derefIntfPtr_reads _)) fun intf => followIpHdr_bind_looped h
  · exact bind_sends (freeSkb_sends skb) fun _ => pure_sends _

theorem tcpInput_looped (ipInput : SkBuff → M Bool) (h : Looped L skb) :
    Keeps (Sends K L) (tcpInput ipInput skb) := by
  unfold tcpInput
  cases skb.intf with
  | none => exact reads_sends (throw_reads _)
  | some i =>
      refine bind_sends (reads_sends (readU16_reads _ _)) fun dstPort =>
        bind_sends (reads_sends get_reads) fun w => ?_
      cases tcpSocksManagerFind w i (UInt16.ofNat (ntohs dstPort.toNat)) with
      | none => exact pure_sends _
      | some k =>
          exact bind_sends (reads_sends (derefTcpSock_reads k)) fun sock =>
            followIpHdr_bind_looped h

/-- Queueing a looped-back datagram. -/
theorem setUdpSock_looped {w : World} {k : SockId} {sock : UdpSock} (hk : w.udpSock k = some sock)
    (h : Looped L skb) :
    Sends K L w { w with
      udpSock := Function.update w.udpSock k (some { sock with rxSkb := skb :: sock.rxSkb }) } := by
  refine ⟨rfl, Nat.le_refl _, ⟨[], by simp, by simp⟩, fun n s hs => Or.inl hs, fun k' => ?_⟩
  by_cases hkk : k' = k
  · subst hkk
    refine ⟨[skb], by simpa using h, ?_⟩
    change Function.update w.udpSock k' _ k' = _
    rw [hk, Function.update_self]
    rfl
  · refine ⟨[], by simp, ?_⟩
    change Function.update w.udpSock k _ k' = _
    rw [Function.update_of_ne hkk]
    cases w.udpSock k' <;> rfl

theorem udpInput_looped (h : Looped L skb) : Keeps (Sends K L) (udpInput skb) := by
  unfold udpInput
  cases skb.intf with
  | none => exact reads_sends (throw_reads _)
  | some i =>
      refine bind_sends (reads_sends (readU16_reads _ _)) fun dstPort =>
        bind_sends (reads_sends get_reads) fun w0 => ?_
      cases udpSocksManagerFind w0 i (UInt16.ofNat (ntohs dstPort.toNat)) with
      | none => exact pure_sends _
      | some k =>
          intro w
          refine final_bind_sends (reads_sends (skbPull_reads _ _)) fun s w1 hpull => ?_
          have hs : Looped L s := by
            refine skbPull_looped ?_ hpull
            exact h
          refine final_bind_sends (reads_sends (derefUdpSock_reads k)) fun sock w2 hsock => ?_
          rw [derefUdpSock_ok] at hsock
          obtain ⟨hk, rfl⟩ := hsock
          exact setUdpSock_looped hk hs

/-- **Delivering a looped-back packet sends nothing.** -/
theorem ipInput_looped (depth : Nat) (h : Looped L skb) :
    Keeps (Sends K L) (ipInputDepth depth skb) := by
  cases depth with
  | zero => exact reads_sends (throw_reads _)
  | succ depth =>
      refine bind_sends (reads_sends (readU8_reads _ _)) fun proto => ?_
      have hpull : ∀ handler : SkBuff → M Bool,
          (∀ s : SkBuff, Looped L s → Keeps (Sends K L) (handler s)) →
          Keeps (Sends K L) (do
            let skb ← skbPull skb ipHdrSize
            log (.transport proto skb)
            handler skb) := by
        intro handler hhandler w
        refine final_bind_sends (reads_sends (skbPull_reads _ _)) fun s w1 hrun => ?_
        have hs : Looped L s := skbPull_looped h hrun
        exact bind_sends (log_sends (e := .transport proto s) hs) (fun _ => hhandler s hs) w1
      refine keeps_ite (hpull _ fun s hs => icmpInput_looped _ hs) ?_
      refine keeps_ite (hpull _ fun s hs => tcpInput_looped _ hs) ?_
      exact keeps_ite (hpull _ fun s hs => udpInput_looped hs) (pure_sends _)

end Looped

/-! ### The output path

`routed` and `withIpHdr` are the buffer as `ip_postroute` and `ip_output` rewrite it.
-/

/-- The buffer after `ip_postroute` chose the interface `i` with the address `src`. -/
def SkBuff.routed (skb : SkBuff) (i : IntfId) (src : UInt32) : SkBuff :=
  let s := { skb with intf := some i }.store32 (skb.data + 12) src
  s.store16 (skb.data + 10) (UInt16.ofNat (htons (calcIpHcksum s.mem skb.data).toNat))

/-- The buffer after `ip_output` wrote its header. -/
def SkBuff.withIpHdr (skb : SkBuff) (ip : UInt32) (proto : UInt8) : SkBuff :=
  let s := { skb with data := skb.data - ipHdrSize, len := skb.len + ipHdrSize }
  let s := initIpHdr s s.data
  let s := s.store32 (s.data + 16) ip
  let s := s.store8 (s.data + 9) proto
  s.store16 (s.data + 2) (UInt16.ofNat (htons s.len))

section Fields

variable (skb : SkBuff) (i : IntfId) (src ip : UInt32) (proto : UInt8)

@[simp] theorem routed_id : (skb.routed i src).id = skb.id := rfl
@[simp] theorem routed_intf : (skb.routed i src).intf = some i := rfl
@[simp] theorem routed_ipHdr : (skb.routed i src).ipHdr = skb.ipHdr := rfl
@[simp] theorem routed_udpHdr : (skb.routed i src).udpHdr = skb.udpHdr := rfl
@[simp] theorem routed_len : (skb.routed i src).len = skb.len := rfl
@[simp] theorem routed_data : (skb.routed i src).data = skb.data := rfl
@[simp] theorem routed_tail : (skb.routed i src).tail = skb.tail := rfl
@[simp] theorem routed_limit : (skb.routed i src).limit = skb.limit := rfl
@[simp] theorem withIpHdr_id : (skb.withIpHdr ip proto).id = skb.id := rfl
@[simp] theorem withIpHdr_intf : (skb.withIpHdr ip proto).intf = skb.intf := rfl
@[simp] theorem withIpHdr_ipHdr : (skb.withIpHdr ip proto).ipHdr = skb.ipHdr := rfl
@[simp] theorem withIpHdr_len : (skb.withIpHdr ip proto).len = skb.len + ipHdrSize := rfl
@[simp] theorem withIpHdr_data : (skb.withIpHdr ip proto).data = skb.data - ipHdrSize := rfl
@[simp] theorem withIpHdr_tail : (skb.withIpHdr ip proto).tail = skb.tail := rfl
@[simp] theorem withIpHdr_limit : (skb.withIpHdr ip proto).limit = skb.limit := rfl

end Fields

theorem fillIpHcksum_ok {skb s : SkBuff} {hdr : Nat} {w w' : World} :
    fillIpHcksum skb hdr w = .ok s w' ↔ Readable w skb hdr 1 ∧
      Readable w skb hdr (ipHlen skb.mem hdr * 4) ∧
      s = skb.store16 (hdr + 10) (UInt16.ofNat (htons (calcIpHcksum skb.mem hdr).toNat)) ∧
      w' = w := by
  simp only [fillIpHcksum, bind_ok_iff, readU8_ok, touch_ok, run_pure, EStateM.Result.ok.injEq]
  constructor
  · rintro ⟨_, _, ⟨h, rfl, rfl⟩, _, _, ⟨h', rfl⟩, rfl, rfl⟩
    exact ⟨h, h', rfl, rfl⟩
  · rintro ⟨h, h', rfl, rfl⟩
    exact ⟨_, _, ⟨h, rfl, rfl⟩, ⟨⟩, _, ⟨h', rfl⟩, rfl, rfl⟩

section OutputPath

variable {K : SkBuff → Prop} {L : SkbId → Prop} {ipInput : SkBuff → M Bool} {node : NodeId} {skb : SkBuff}
  {w : World}

theorem ipRouteOutput_sends {dstIp : UInt32} {rt : RtEntry}
    (hK : ∀ intf, w.intf rt.intf = some intf → K (skb.routed rt.intf intf.ipAddr))
    (hin : ∀ s : SkBuff, s.ipHdr = skb.ipHdr → s.id = skb.id → isIpLocal w node dstIp = true →
      Keeps (Sends K L) (ipInput s)) :
    Sends K L w (final (ipRouteOutput ipInput node skb dstIp rt) w) := by
  refine final_bind_sends (reads_sends (derefIntf_reads _)) fun intf w1 h1 => ?_
  obtain ⟨hintf, rfl⟩ := derefIntf_ok.mp h1
  refine final_bind_sends (reads_sends (fillIpHcksum_reads _ _)) fun s w2 h2 => ?_
  obtain ⟨-, -, rfl, rfl⟩ := fillIpHcksum_ok.mp h2
  refine final_bind_sends (reads_sends get_reads) fun w3 w4 h3 => ?_
  cases h3
  split
  · rename_i hlocal
    exact hin (skb.routed rt.intf intf.ipAddr) rfl rfl hlocal w2
  · exact ipNeighbourOutput_sends node rt.intf _ (hK intf hintf) w2

/-- **`ip_postroute` hands over the rewritten buffer and nothing else**, by the interface of the
buffer if it has one. -/
theorem ipPostroute_sends
    (hK : ∀ rt intf, rtLookupLpm (w.rtTable node) (skb.mem.load32 (skb.data + 16)) = some rt →
      skb.intf = none ∨ skb.intf = some rt.intf → w.intf rt.intf = some intf →
      K (skb.routed rt.intf intf.ipAddr))
    (hin : ∀ s : SkBuff, s.ipHdr = skb.ipHdr → s.id = skb.id →
      isIpLocal w node (skb.mem.load32 (skb.data + 16)) = true → Keeps (Sends K L) (ipInput s)) :
    Sends K L w (final (ipPostroute ipInput node skb) w) := by
  refine final_bind_sends (reads_sends (readU32_reads _ _)) fun dstIp w1 h1 => ?_
  obtain ⟨-, rfl, rfl⟩ := readU32_ok.mp h1
  refine final_bind_sends (reads_sends get_reads) fun w2 w3 h2 => ?_
  cases h2
  cases hrt : rtLookupLpm (w1.rtTable node) (skb.mem.load32 (skb.data + 16)) with
  | none => exact pure_sends _ _
  | some rt =>
      refine final_ite_rel (fun _ => pure_sends _ _) fun hby => ?_
      have hsame : skb.intf = none ∨ skb.intf = some rt.intf := by
        rw [not_and_not_right] at hby
        exact (Option.eq_none_or_eq_some skb.intf).imp_right fun ⟨i, hi⟩ => hby (by rw [hi]; rfl)
      exact ipRouteOutput_sends (fun intf hintf => hK rt intf hrt hsame hintf) hin

/-- The process once `ip_output` was called. -/
def World.output (w : World) (node : NodeId) (ip : UInt32) (proto : UInt8) (skb : SkBuff) :
    World :=
  { w with trace := w.trace ++ [.ipOutput node ip proto skb] }

/-- **`ip_output` of a buffer the node made itself.** -/
theorem ipOutput_sends {depth : Nat} {ip : UInt32} {proto : UInt8} (hskb : Looped L skb)
    (hK : ∀ i out, skb.intf = none ∨ skb.intf = some i → w.intf i = some out →
      K ((skb.withIpHdr ip proto).routed i out.ipAddr)) :
    Sends K L (w.output node ip proto skb)
      (final (ipOutput (ipInputDepth depth) node ip proto skb) w) := by
  have hlog : log (.ipOutput node ip proto skb) w = .ok ⟨⟩ (w.output node ip proto skb) := rfl
  unfold ipOutput
  rw [final_bind_of_ok hlog]
  refine final_bind_sends (reads_sends (skbPush_reads _ _)) fun s w2 h2 => ?_
  obtain ⟨-, rfl, rfl⟩ := skbPush_ok.mp h2
  refine ipPostroute_sends (fun rt out _ hby hout => hK rt.intf out hby hout) fun s hs hid _ => ?_
  exact ipInput_looped depth ⟨hs.trans hskb.1, by rw [hid]; exact hskb.2⟩

/-- The buffer as `ip_forward` hands it on. -/
def SkBuff.forwarded (skb : SkBuff) : SkBuff :=
  { skb.store8 (skb.data + 8) (skb.mem (skb.data + 8) - 1) with intf := none }

/-- The source address of the packet a buffer carries. -/
def SkBuff.srcIp (skb : SkBuff) : UInt32 := skb.mem.load32 (skb.data + 12)

/-- The destination address of the packet a buffer carries. -/
def SkBuff.dstIp (skb : SkBuff) : UInt32 := skb.mem.load32 (skb.data + 16)

theorem dstIp_forwarded (skb : SkBuff) : skb.forwarded.dstIp = skb.dstIp :=
  Memory.load32_write _ _ (Or.inr (by simp [SkBuff.forwarded, SkBuff.store8]))

/-- **`ip_forward` hands over the rewritten buffer and nothing else**, when the packet is
not for the node itself. -/
theorem ipForward_sends
    (hlocal : ∀ i intf, skb.intf = some i → w.intf i = some intf →
      isIpLocal w intf.node skb.dstIp = false)
    (hK : ∀ i intf rt out, 1 < (skb.mem (skb.data + 8)).toNat → skb.intf = some i →
      w.intf i = some intf → rtLookupLpm (w.rtTable intf.node) skb.dstIp = some rt →
      w.intf rt.intf = some out → K (skb.forwarded.routed rt.intf out.ipAddr)) :
    Sends K L w (final (ipForward skb) w) := by
  refine final_bind_sends (reads_sends get_reads) fun w1 w2 h1 => ?_
  cases h1
  refine final_ite_sends (pure_sends _ _) ?_
  refine final_bind_sends (reads_sends (readU8_reads _ _)) fun ttl w2 h2 => ?_
  obtain ⟨-, rfl, rfl⟩ := readU8_ok.mp h2
  by_cases h0 : skb.mem (skb.data + 8) = 0
  · rw [if_pos h0]
    exact pure_sends _ _
  rw [if_neg h0]
  by_cases h1 : skb.mem (skb.data + 8) - 1 = 0
  · simp only [h1, if_true]
    exact pure_sends _ _
  simp only [h1, if_false]
  have httl : 1 < (skb.mem (skb.data + 8)).toNat := by
    have hne0 : (skb.mem (skb.data + 8)).toNat ≠ 0 := fun h => h0 (UInt8.toNat.inj h)
    have hne1 : (skb.mem (skb.data + 8)).toNat ≠ 1 := fun h =>
      h1 (by rw [show skb.mem (skb.data + 8) = 1 from UInt8.toNat.inj h]; rfl)
    omega
  refine final_bind_sends (reads_sends (derefIntfPtr_reads _)) fun intf w3 h3 => ?_
  obtain ⟨⟨i, hi, hintf⟩, rfl⟩ := derefIntfPtr_ok.mp h3
  have hdst : skb.forwarded.mem.load32 (skb.forwarded.data + 16) = skb.dstIp :=
    dstIp_forwarded skb
  show Sends K L w3 (final (ipPostroute SimpleTcpip.ipInput intf.node skb.forwarded) w3)
  refine ipPostroute_sends ?_ ?_
  · intro rt out hrt _ hout
    rw [hdst] at hrt
    exact hK i intf rt out httl hi hintf hrt hout
  · intro s _ _ h
    rw [hdst, hlocal i intf hi hintf] at h
    cases h

end OutputPath

end SimpleTcpip
