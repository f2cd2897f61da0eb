/-
The ARP tables.

An entry comes into being when `ip_postroute` needs an address nobody has asked for,
and only there: `arp_table_entry_add` itself would add a second entry for an address
that has one.  Packets wait in the entry of their next hop until a reply names it; a
reply about any other address changes nothing.  `ArpStep` is one such effect, and every
function below `pkt_receive` and above the link has effects of these three kinds only.
What holds of the tables follows from the effects alone.
-/
import SimpleTcpip.Proofs.Postroute

namespace SimpleTcpip

open Fallible Relation

/-! ### The effects -/

/-- The address `ip_postroute` resolves for a packet: the gateway of its route, or the
destination itself. -/
def nextHop (w : World) (n : NodeId) (s : SkBuff) : Option UInt32 :=
  (rtLookupLpm (w.rtTable n) s.dstIp).map fun rt => if rt.next = 0 then s.dstIp else rt.next

/-- The entry of an address is missing or waits for a reply. -/
def Unresolved (table : List ArpEntry) (ip : UInt32) : Prop :=
  ∀ entry, arpTableLookup table ip = some entry → entry.resolved = false

/-- A node's table once a packet waits for an address. -/
def parkPacket (table : List ArpEntry) (ip : UInt32) (i : IntfId) (s : SkBuff) : List ArpEntry :=
  match arpTableLookup table ip with
  | some _ => arpTableModify table ip fun entry => { entry with pendingPkts := s :: entry.pendingPkts }
  | none => { initArpEntry ip i with pendingPkts := [s] } :: table

/-- A node's table once an address is known and nothing waits for it. -/
def learnMac (table : List ArpEntry) (ip : UInt32) (mac : MacAddr) : List ArpEntry :=
  arpTableModify table ip fun entry => { entry with resolved := true, mac := mac, pendingPkts := [] }

/-- The process after a packet was parked. -/
def World.parked (w : World) (n : NodeId) (ip : UInt32) (i : IntfId) (s : SkBuff) : World :=
  { w with trace := w.trace ++ [.parked n ip s],
           arpTable := Function.update w.arpTable n (parkPacket (w.arpTable n) ip i s) }

/-- One effect on the ARP tables. -/
inductive ArpStep (w : World) : World → Prop
  /-- Something else happens. -/
  | quiet {w' : World} (htable : w'.arpTable = w.arpTable) (hroutes : w'.rtTable = w.rtTable)
      (htrace : w.trace <+: w'.trace) : ArpStep w w'
  /-- `ip_postroute` lets a packet wait for its next hop. -/
  | parked {n : NodeId} {ip : UInt32} {i : IntfId} {s : SkBuff} (hhop : nextHop w n s = some ip)
      (hwait : Unresolved (w.arpTable n) ip) : ArpStep w (w.parked n ip i s)
  /-- A reply resolves an entry, and what waited is on its way. -/
  | resolved {w' : World} {n : NodeId} {ip : UInt32} {mac : MacAddr}
      (htable : w'.arpTable = Function.update w.arpTable n (learnMac (w.arpTable n) ip mac))
      (hroutes : w'.rtTable = w.rtTable) (htrace : w.trace <+: w'.trace) : ArpStep w w'

/-- Any number of effects. -/
abbrev ArpSteps : World → World → Prop := ReflTransGen ArpStep

namespace ArpStep

variable {w w' : World}

theorem trace (h : ArpStep w w') : w.trace <+: w'.trace := by
  cases h with
  | quiet _ _ htrace => exact htrace
  | parked _ _ => exact List.prefix_append _ _
  | resolved _ _ htrace => exact htrace

end ArpStep

/-! ### The functions -/

section Functions

variable {α β : Type}

theorem emits_arp {P : Event → Prop} {m : M α} (h : Keeps (Emits P) m) : Keeps ArpSteps m := by
  intro w
  obtain ⟨es, hes, -⟩ := (h w).trace
  exact .single (.quiet (h w).arpTable (h w).rtTable ⟨es, hes.symm⟩)

theorem reads_arp {m : M α} (h : Keeps Eq m) : Keeps ArpSteps m := keeps_of_eq (fun _ => .refl) h

theorem pure_arp (a : α) : Keeps ArpSteps (pure a : M α) := keeps_pure (fun _ => .refl) a

theorem bind_arp {x : M α} {f : α → M β} (hx : Keeps ArpSteps x)
    (hf : ∀ a, Keeps ArpSteps (f a)) : Keeps ArpSteps (x >>= f) :=
  keeps_bind (fun _ _ _ h h' => h.trans h') hx hf

theorem final_bind_arp {x : M α} {f : α → M β} {w : World} (hx : Keeps ArpSteps x)
    (hf : ∀ a w', x w = .ok a w' → ArpSteps w' (final (f a) w')) :
    ArpSteps w (final (x >>= f) w) :=
  final_bind_rel (fun _ _ _ h h' => h.trans h') (hx w) hf

/-- A write to something else. -/
theorem modify_arp {f : World → World}
    (h : ∀ w, (f w).arpTable = w.arpTable ∧ (f w).rtTable = w.rtTable ∧ (f w).trace = w.trace) :
    Keeps ArpSteps (modify f : M PUnit) :=
  keeps_modify fun w => .single (.quiet (h w).1 (h w).2.1 ⟨[], by rw [(h w).2.2, List.append_nil]⟩)

theorem log_arp (e : Event) : Keeps ArpSteps (log e) :=
  emits_arp (P := fun _ => True) (log_emits trivial)

theorem freeSkb_arp (skb : SkBuff) : Keeps ArpSteps (freeSkb skb) := log_arp _

theorem followIpHdr_arp (skb : SkBuff) : Keeps ArpSteps (followIpHdr skb) := by
  refine bind_arp (log_arp _) fun _ => ?_
  cases skb.ipHdr with
  | some p => exact pure_arp p
  | none => exact reads_arp (throw_reads _)

theorem allocSkb_arp (size : Nat) : Keeps ArpSteps (allocSkb size) :=
  emits_arp (P := fun _ => True) (allocSkb_emits (fun _ _ => trivial) size)

theorem ethernetOutput_arp (i : IntfId) (mac : MacAddr) (proto : UInt16) (skb : SkBuff) :
    Keeps ArpSteps (ethernetOutput i mac proto skb) :=
  emits_arp (P := fun _ => True) (ethernetOutput_emits (fun _ _ => trivial) trivial)

/-! #### The output path -/

/-- A packet whose next hop is not resolved is parked, and the next hop is asked for. -/
theorem ipNeighbourOutput_unresolved {n : NodeId} {i : IntfId} {ip : UInt32} {skb : SkBuff}
    {w : World} (hwait : Unresolved (w.arpTable n) ip) :
    ipNeighbourOutput n i ip skb w
      = (do sendArpBroadcastRequest i ip; pure true : M Bool) (w.parked n ip i skb) := by
  cases hlook : arpTableLookup (w.arpTable n) ip with
  | some entry =>
      have hentry : arpEntryFor n i ip w = .ok entry w := by
        rw [arpEntryFor, run_bind_ok (run_get w), hlook]
        rfl
      rw [ipNeighbourOutput, run_bind_ok hentry, if_pos (by simp [hwait entry hlook]), World.parked,
        parkPacket, hlook]
      rfl
  | none =>
      have hentry : arpEntryFor n i ip w = .ok (initArpEntry ip i)
          { w with arpTable := Function.update w.arpTable n (initArpEntry ip i :: w.arpTable n) } := by
        rw [arpEntryFor, run_bind_ok (run_get w), hlook]
        rfl
      -- the entry that was added is the one found again
      have hfound : arpTableModify (initArpEntry ip i :: w.arpTable n) ip
          (fun entry => { entry with pendingPkts := skb :: entry.pendingPkts })
          = { initArpEntry ip i with pendingPkts := [skb] } :: w.arpTable n :=
        List.modifyFirst_cons_pos (by simp [initArpEntry])
      rw [ipNeighbourOutput, run_bind_ok hentry, if_pos (by simp [initArpEntry]), World.parked,
        parkPacket, hlook]
      have hwrite : Function.update
          (Function.update w.arpTable n (initArpEntry ip i :: w.arpTable n)) n
          (arpTableModify (Function.update w.arpTable n (initArpEntry ip i :: w.arpTable n) n) ip
            fun entry => { entry with pendingPkts := skb :: entry.pendingPkts })
          = Function.update w.arpTable n
            ({ initArpEntry ip i with pendingPkts := [skb] } :: w.arpTable n) := by
        rw [Function.update_self, hfound, Function.update_idem]
      dsimp only
      rw [← hwrite]
      rfl

/-- A packet whose next hop is resolved goes to the link. -/
theorem ipNeighbourOutput_resolved {n : NodeId} {i : IntfId} {ip : UInt32} {skb : SkBuff}
    {w : World} {entry : ArpEntry} (hlook : arpTableLookup (w.arpTable n) ip = some entry)
    (hres : entry.resolved = true) :
    ipNeighbourOutput n i ip skb w = ethernetOutput i entry.mac ethProtoIp skb w := by
  have hentry : arpEntryFor n i ip w = .ok entry w := by
    rw [arpEntryFor, run_bind_ok (run_get w), hlook]
    rfl
  rw [ipNeighbourOutput, run_bind_ok hentry, if_neg (by simp [hres])]

theorem dstIp_routed (skb : SkBuff) (i : IntfId) (src : UInt32) :
    (skb.routed i src).dstIp = skb.dstIp := by
  refine Memory.load32_congr fun k hk => ?_
  simp only [SkBuff.routed, SkBuff.store16, SkBuff.store32]
  rw [Memory.store16_outside _ _ (by omega), Memory.store32_outside _ _ (by omega)]

/-- The next hop of a packet is that of the buffer `ip_postroute` makes of it. -/
theorem nextHop_routed {w : World} {n : NodeId} {skb : SkBuff} {rt : RtEntry}
    (hrt : rtLookupLpm (w.rtTable n) skb.dstIp = some rt) (i : IntfId) (src : UInt32) :
    nextHop w n (skb.routed i src) = some (if rt.next = 0 then skb.dstIp else rt.next) := by
  rw [nextHop, dstIp_routed, hrt]
  rfl

theorem ipNeighbourOutput_arp {n : NodeId} {i : IntfId} {ip : UInt32} {skb : SkBuff} {w : World}
    (hhop : nextHop w n skb = some ip) :
    ArpSteps w (final (ipNeighbourOutput n i ip skb) w) := by
  by_cases hwait : Unresolved (w.arpTable n) ip
  · have hpark : ArpStep w (w.parked n ip i skb) := .parked hhop hwait
    rw [final, ipNeighbourOutput_unresolved hwait]
    refine (ReflTransGen.single hpark).trans ?_
    refine bind_arp (emits_arp (sendArpBroadcastRequest_emits i ip)) (fun _ => pure_arp true) _
  · unfold Unresolved at hwait
    push Not at hwait
    obtain ⟨entry, hlook, hres⟩ := hwait
    rw [final, ipNeighbourOutput_resolved hlook (Bool.not_eq_false _ ▸ hres)]
    exact ethernetOutput_arp i entry.mac ethProtoIp skb w

variable {ipInput : SkBuff → M Bool}

theorem ipPostroute_arp (hin : ∀ skb, Keeps ArpSteps (ipInput skb)) (n : NodeId) (skb : SkBuff) :
    Keeps ArpSteps (ipPostroute ipInput n skb) := by
  intro w
  refine final_bind_arp (reads_arp (readU32_reads _ _)) fun dstIp w1 h1 => ?_
  obtain ⟨-, rfl, rfl⟩ := readU32_ok.mp h1
  refine final_bind_arp (reads_arp get_reads) fun w2 w3 h2 => ?_
  cases h2
  cases hrt : rtLookupLpm (w1.rtTable n) (skb.mem.load32 (skb.data + 16)) with
  | none => exact pure_arp _ _
  | some rt =>
      simp only
      split
      · exact pure_arp _ _
      · refine final_bind_arp (reads_arp (derefIntf_reads _)) fun intf w2 h2 => ?_
        obtain ⟨-, rfl⟩ := derefIntf_ok.mp h2
        refine final_bind_arp (reads_arp (fillIpHcksum_reads _ _)) fun s w3 h3 => ?_
        obtain ⟨-, -, rfl, rfl⟩ := fillIpHcksum_ok.mp h3
        refine final_bind_arp (reads_arp get_reads) fun w4 w5 h4 => ?_
        cases h4
        split
        · exact hin _ _
        · exact ipNeighbourOutput_arp (nextHop_routed hrt rt.intf intf.ipAddr)

theorem ipOutput_arp (hin : ∀ skb, Keeps ArpSteps (ipInput skb)) (n : NodeId) (ip : UInt32)
    (proto : UInt8) (skb : SkBuff) : Keeps ArpSteps (ipOutput ipInput n ip proto skb) := by
  refine bind_arp (log_arp _) fun _ => bind_arp (reads_arp (skbPush_reads _ _)) fun s => ?_
  exact ipPostroute_arp hin n _

theorem icmpOut_arp (hin : ∀ skb, Keeps ArpSteps (ipInput skb)) (n : NodeId) (ip : UInt32)
    (type code : UInt8) (payload : List UInt8) :
    Keeps ArpSteps (icmpOut ipInput n ip type code payload) := by
  refine bind_arp (allocSkb_arp _) fun s => bind_arp (reads_arp (skbReserve_reads _ _)) fun s => ?_
  refine bind_arp (reads_arp (skbPut_reads _ _)) fun s => ?_
  refine bind_arp (ipOutput_arp hin n ip ipProtoIcmp _) fun sent => ?_
  exact keeps_ite (pure_arp _) (bind_arp (freeSkb_arp _) fun _ => pure_arp _)

theorem setTcpConn_arp (c : ConnId) (conn : TcpConnectionSock) :
    Keeps ArpSteps (setTcpConn c conn) :=
  modify_arp fun _ => ⟨rfl, rfl, rfl⟩

theorem setTcpSock_arp (k : SockId) (sock : TcpSock) : Keeps ArpSteps (setTcpSock k sock) :=
  modify_arp fun _ => ⟨rfl, rfl, rfl⟩

theorem tcpOut_arp (hin : ∀ skb, Keeps ArpSteps (ipInput skb)) (c : ConnId) (buff : List UInt8)
    (flags : TcpFlags) : Keeps ArpSteps (tcpOut ipInput c buff flags) := by
  refine bind_arp (reads_arp (derefTcpConn_reads c)) fun conn => bind_arp (allocSkb_arp _) fun s => ?_
  refine bind_arp (reads_arp (derefTcpSock_reads _)) fun parent => ?_
  refine bind_arp (reads_arp (skbReserve_reads _ _)) fun s => ?_
  refine bind_arp (reads_arp (skbPut_reads _ _)) fun s => keeps_ite (pure_arp _) ?_
  refine bind_arp (reads_arp (skbPut_reads _ _)) fun s => bind_arp (setTcpConn_arp c _) fun _ => ?_
  exact bind_arp (reads_arp (derefIntfPtr_reads _)) fun intf => ipOutput_arp hin _ _ _ _

/-! #### Local delivery -/

theorem icmpInput_arp (hin : ∀ skb, Keeps ArpSteps (ipInput skb)) (skb : SkBuff) :
    Keeps ArpSteps (icmpInput ipInput skb) := by
  refine keeps_ite (pure_arp _) ?_
  refine bind_arp (reads_arp (readU8_reads _ _)) fun type => ?_
  refine bind_arp (reads_arp (readU8_reads _ _)) fun code => keeps_ite ?_ ?_
  · refine bind_arp (reads_arp (derefIntfPtr_reads _)) fun intf => ?_
    refine bind_arp (followIpHdr_arp skb) fun iph => bind_arp (reads_arp (readU32_reads _ _)) fun src => ?_
    refine bind_arp (icmpOut_arp hin _ _ _ _ _) fun _ => ?_
    exact bind_arp (freeSkb_arp skb) fun _ => pure_arp _
  · exact bind_arp (freeSkb_arp skb) fun _ => pure_arp _

theorem udpInput_arp (skb : SkBuff) : Keeps ArpSteps (udpInput skb) := by
  unfold udpInput
  cases skb.intf with
  | none => exact reads_arp (throw_reads _)
  | some i =>
      refine bind_arp (reads_arp (readU16_reads _ _)) fun dstPort => ?_
      refine bind_arp (reads_arp get_reads) fun w => ?_
      cases udpSocksManagerFind w i (UInt16.ofNat (ntohs dstPort.toNat)) with
      | none => exact pure_arp _
      | some k =>
          refine bind_arp (reads_arp (skbPull_reads _ _)) fun s => ?_
          refine bind_arp (reads_arp (derefUdpSock_reads k)) fun sock => ?_
          exact bind_arp (modify_arp fun _ => ⟨rfl, rfl, rfl⟩) fun _ => pure_arp _

theorem closeConnection_arp (hin : ∀ skb, Keeps ArpSteps (ipInput skb)) (c : ConnId) :
    Keeps ArpSteps (closeConnection ipInput c) := by
  refine bind_arp (tcpOut_arp hin c [] .ackRst) fun _ => ?_
  refine bind_arp (reads_arp (derefTcpConn_reads c)) fun conn => ?_
  refine bind_arp (reads_arp (derefTcpSock_reads _)) fun parent => ?_
  exact bind_arp (setTcpSock_arp _ _) fun _ => pure_arp _

theorem runState_arp (hin : ∀ skb, Keeps ArpSteps (ipInput skb)) (c : ConnId) (skb : SkBuff) :
    Keeps ArpSteps (runState ipInput c skb) := by
  refine bind_arp (reads_arp (derefTcpConn_reads c)) fun conn => ?_
  cases conn.state with
  | handleSynSent =>
      refine bind_arp (reads_arp (readTcpFlags_reads _ _)) fun flags => keeps_ite ?_ (pure_arp _)
      refine bind_arp (reads_arp (readTcpSeq_reads _ _)) fun seq => ?_
      refine bind_arp (reads_arp (derefTcpConn_reads c)) fun conn => keeps_ite ?_ (pure_arp _)
      exact bind_arp (setTcpConn_arp c _) fun _ => pure_arp _
  | handleEstab =>
      refine bind_arp (reads_arp (readTcpSeq_reads _ _)) fun seq => ?_
      refine bind_arp (reads_arp (derefTcpConn_reads c)) fun conn => keeps_ite ?_ (pure_arp _)
      refine bind_arp (reads_arp (readTcpFlags_reads _ _)) fun flags => ?_
      refine keeps_ite (closeConnection_arp hin c) (keeps_ite ?_ ?_)
      · exact bind_arp (setTcpConn_arp c _) fun _ => closeConnection_arp hin c
      · refine bind_arp (reads_arp (skbPull_reads _ _)) fun s => ?_
        exact bind_arp (setTcpConn_arp c _) fun _ => pure_arp _

theorem allocId_arp : Keeps ArpSteps allocId :=
  fun w => .single (.quiet rfl rfl (List.prefix_refl w.trace))

theorem handleNewConnection_arp (hin : ∀ skb, Keeps ArpSteps (ipInput skb)) (k : SockId)
    (skb : SkBuff) : Keeps ArpSteps (handleNewConnection ipInput k skb) := by
  refine bind_arp allocId_arp fun c => bind_arp (followIpHdr_arp skb) fun iph => ?_
  refine bind_arp (reads_arp (readU32_reads _ _)) fun remoteIp => ?_
  refine bind_arp (reads_arp (readU16_reads _ _)) fun srcPort => ?_
  refine bind_arp (reads_arp (readU16_reads _ _)) fun wndSz => ?_
  refine bind_arp (reads_arp (readU32_reads _ _)) fun seq => bind_arp (setTcpConn_arp c _) fun _ => ?_
  refine bind_arp (reads_arp (derefTcpSock_reads k)) fun sock => bind_arp (setTcpSock_arp k _) fun _ => ?_
  exact bind_arp (tcpOut_arp hin c [] .synAck) fun _ => pure_arp _

theorem tcpInput_arp (hin : ∀ skb, Keeps ArpSteps (ipInput skb)) (skb : SkBuff) :
    Keeps ArpSteps (tcpInput ipInput skb) := by
  unfold tcpInput
  cases skb.intf with
  | none => exact reads_arp (throw_reads _)
  | some i =>
      refine bind_arp (reads_arp (readU16_reads _ _)) fun dstPort => ?_
      refine bind_arp (reads_arp get_reads) fun w => ?_
      cases tcpSocksManagerFind w i (UInt16.ofNat (ntohs dstPort.toNat)) with
      | none => exact pure_arp _
      | some k =>
          refine bind_arp (reads_arp (derefTcpSock_reads k)) fun sock => ?_
          refine bind_arp (followIpHdr_arp skb) fun iph => ?_
          refine bind_arp (reads_arp (readU32_reads _ _)) fun srcIp => ?_
          refine bind_arp (reads_arp (readU16_reads _ _)) fun srcPort => ?_
          refine bind_arp (reads_arp get_reads) fun t => ?_
          cases findMatchingConnection t sock srcIp (UInt16.ofNat (ntohs srcPort.toNat)) with
          | some c => exact runState_arp hin c skb
          | none =>
              refine keeps_ite (bind_arp (reads_arp (readTcpFlags_reads _ _)) fun flags => ?_) (pure_arp _)
              exact keeps_ite (handleNewConnection_arp hin k skb) (pure_arp _)

/-- **Local delivery**, of any packet and however deep it answers to the node itself. -/
theorem ipInput_arp (depth : Nat) (skb : SkBuff) : Keeps ArpSteps (ipInputDepth depth skb) := by
  induction depth generalizing skb with
  | zero => exact reads_arp (throw_reads _)
  | succ depth ih =>
      refine bind_arp (reads_arp (readU8_reads _ _)) fun proto => ?_
      have hpull : ∀ handler : SkBuff → M Bool, (∀ s, Keeps ArpSteps (handler s)) →
          Keeps ArpSteps (do
            let skb ← skbPull skb ipHdrSize
            log (.transport proto skb)
            handler skb) := fun handler hhandler =>
        bind_arp (reads_arp (skbPull_reads _ _)) fun s => bind_arp (log_arp _) fun _ => hhandler s
      refine keeps_ite (hpull _ fun s => icmpInput_arp ih s) ?_
      exact keeps_ite (hpull _ fun s => tcpInput_arp ih s) (keeps_ite (hpull _ udpInput_arp) (pure_arp _))

end Functions

/-! ### A reply

The run of a reply that completes: every packet that waited is handed to the link, from the
head of the list on, and the entry is left without any.
-/

/-- The packet an event hands to `ethernet_output`. -/
def Event.toLink : Event → Option SkBuff
  | .ethOutput _ _ proto s => if proto = ethProtoIp then some s else none
  | _ => none

/-- The IP packets a run handed to `ethernet_output`, in order. -/
def toLink (w w' : World) : List SkBuff := (newEvents w w').filterMap Event.toLink

/-- One node's ARP table changed, and packets were handed to the link and given back. -/
structure Flushed (n : NodeId) (table : List ArpEntry) (pkts : List SkBuff) (w w' : World) :
    Prop where
  frame : w' = { w with arpTable := Function.update w.arpTable n table, nextId := w'.nextId,
                        numSends := w'.numSends, trace := w'.trace }
  nextId : w.nextId ≤ w'.nextId
  trace : ∃ es, w'.trace = w.trace ++ es ∧ es.filterMap Event.toLink = pkts ∧
    ∀ id, freeCount es id = idCount pkts id

theorem isArp_toLink {es : List Event} (h : ∀ e ∈ es, e.IsArp) : es.filterMap Event.toLink = [] := by
  rw [List.filterMap_eq_nil_iff]
  intro e he
  have harp := h e he
  cases e with
  | ethOutput i mac proto s =>
      have hproto : proto = ethProtoArp := harp
      rw [Event.toLink, if_neg (by rw [hproto]; decide)]
  | _ => rfl

/-- What a run of `ethernet_output` on an IP packet adds to the trace. -/
theorem ethernetOutput_trace (i : IntfId) (mac : MacAddr) (skb : SkBuff) (w : World) :
    ∃ es, (final (ethernetOutput i mac ethProtoIp skb) w).trace
      = w.trace ++ .ethOutput i mac ethProtoIp skb :: es ∧ ∀ e ∈ es, e.IsBuffer := by
  have hlog : log (.ethOutput i mac ethProtoIp skb) w
      = .ok ⟨⟩ { w with trace := w.trace ++ [.ethOutput i mac ethProtoIp skb] } := rfl
  have hrest : ∀ f : PUnit → M Bool, Keeps (Emits Event.IsBuffer) (f ⟨⟩) →
      ∃ es, (final (log (.ethOutput i mac ethProtoIp skb) >>= f) w).trace
        = w.trace ++ .ethOutput i mac ethProtoIp skb :: es ∧ ∀ e ∈ es, e.IsBuffer := by
    intro f hf
    rw [final_bind_of_ok hlog]
    obtain ⟨es, hes, hbuf⟩ := (hf { w with trace := w.trace ++ [.ethOutput i mac ethProtoIp skb] }).trace
    exact ⟨es, by rw [hes, List.append_assoc, List.singleton_append], hbuf⟩
  refine hrest _ (bind_emits (reads_emits (skbPush_reads _ _)) fun s => ?_)
  refine bind_emits (reads_emits (derefIntf_reads i)) fun intf =>
    keeps_ite ?_ (sendPktOut_emits (fun _ h => h) i _)
  exact bind_emits (reads_emits (skbPut_reads _ _)) fun s => sendPktOut_emits (fun _ h => h) i _

theorem isBuffer_toLink {es : List Event} (h : ∀ e ∈ es, e.IsBuffer) :
    es.filterMap Event.toLink = [] :=
  isArp_toLink fun e he => isArp_of_isBuffer e (h e he)

/-- **The loop of `arp_table_update_from_arp_reply`.** -/
theorem flushPending_ok {n : NodeId} {ip : UInt32} {mac : MacAddr} {pkts : List SkBuff}
    {w w' : World} {u : Unit} {entry : ArpEntry}
    (hlook : arpTableLookup (w.arpTable n) ip = some entry) (hpkts : entry.pendingPkts = pkts)
    (hrun : flushPending n ip mac pkts w = .ok u w') :
    Flushed n (arpTableModify (w.arpTable n) ip fun entry => { entry with pendingPkts := [] })
      pkts w w' := by
  induction pkts generalizing w entry with
  | nil =>
      cases hrun
      have hsame : (arpTableModify (w'.arpTable n) ip fun entry => { entry with pendingPkts := [] })
          = w'.arpTable n := by
        refine (List.modifyFirst_congr fun e he => ?_).trans List.modifyFirst_id
        obtain rfl := Option.some.inj (hlook.symm.trans he)
        rw [← hpkts]
      refine ⟨?_, Nat.le_refl _, [], (List.append_nil _).symm, rfl, fun _ => rfl⟩
      rw [hsame, Function.update_eq_self]
  | cons skb rest ih =>
      obtain ⟨_, w1, h1, hrest⟩ := bind_ok_iff.mp hrun
      rw [modifyArpEntry_ok] at h1
      cases hintf : skb.intf with
      | none =>
          rw [hintf] at hrest
          cases hrest
      | some i =>
          rw [hintf] at hrest
          obtain ⟨result, w2, h2, hrest⟩ := bind_ok_iff.mp hrest
          obtain ⟨_, w3, h3, hrest⟩ := bind_ok_iff.mp hrest
          have hsend := (ethernetOutput_emits (P := fun _ => True) (fun _ _ => trivial) trivial).ok h2
          have hfree := (freeSkbIf_emits (P := Event.IsBuffer) (fun _ h => h) _ _).ok h3
          obtain ⟨es, hes, hbuf⟩ := ethernetOutput_trace i mac skb w1
          rw [final_of_ok h2] at hes
          obtain ⟨sent, hsent, hcount⟩ := ethernetOutput_frees h2
          obtain rfl : .ethOutput i mac ethProtoIp skb :: es = sent :=
            List.append_cancel_left (hes.symm.trans hsent)
          have hes' : w3.trace = w2.trace ++ if !result then [.free skb.id] else [] := by
            rw [freeSkbIf_trace h3]
          have hlast : (if !result then [Event.free skb.id] else []).filterMap Event.toLink = [] := by
            cases result <;> rfl
          have htable : w3.arpTable = Function.update w.arpTable n
              (arpTableModify (w.arpTable n) ip fun entry => { entry with pendingPkts := rest }) := by
            rw [hfree.arpTable, hsend.arpTable, h1]
            rfl
          have hnext : arpTableLookup (w3.arpTable n) ip = some { entry with pendingPkts := rest } := by
            rw [hfree.arpTable, hsend.arpTable, h1, arpTableLookup_modifyArp, hlook]
            · rfl
            · intro entry
              rfl
          have hflush := ih hnext rfl hrest
          obtain ⟨es'', hes'', hlink, hcount''⟩ := hflush.trace
          have hid : w.nextId ≤ w3.nextId := by
            have h1' : w1.nextId = w.nextId := by
              rw [h1]
              rfl
            exact h1' ▸ Nat.le_trans hsend.nextId hfree.nextId
          refine ⟨?_, Nat.le_trans hid hflush.nextId, .ethOutput i mac ethProtoIp skb :: es
            ++ (if !result then [.free skb.id] else []) ++ es'', ?_, ?_, fun id => ?_⟩
          · -- the entry is changed twice, and the second change is the one that counts
            have htwice : (arpTableModify
                (arpTableModify (w.arpTable n) ip fun entry => { entry with pendingPkts := rest }) ip
                fun entry => { entry with pendingPkts := [] })
                = arpTableModify (w.arpTable n) ip fun entry => { entry with pendingPkts := [] } :=
              List.modifyFirst_modifyFirst fun _ h => h
            rw [hflush.frame, htable, Function.update_self, Function.update_idem, htwice, hfree.frame,
              hsend.frame, h1]
            rfl
          · rw [hes'', hes', hes, h1]
            simp only [World.modifyArp, List.append_assoc]
          · rw [List.filterMap_append, List.filterMap_append, List.filterMap_cons, isBuffer_toLink hbuf,
              hlast, hlink]
            rfl
          · -- the link gives the packet back, or the loop does
            rw [freeCount_append, freeCount_append, hcount, hcount'', idCount_cons]
            cases result <;> simp [Event.frees, Nat.add_comm]

namespace Flushed

variable {n : NodeId} {table : List ArpEntry} {pkts : List SkBuff} {w w' : World}

theorem arpTable (h : Flushed n table pkts w w') :
    w'.arpTable = Function.update w.arpTable n table := by
  rw [h.frame]

end Flushed

/-- The packet is an ARP reply. -/
def SkBuff.IsArpReply (skb : SkBuff) : Prop :=
  arpHdrSize ≤ skb.len ∧ (skb.mem.load16 (skb.data + 6)).toNat = htons arpOpReply

/-- The packet is an ARP request for an address. -/
def SkBuff.IsArpRequest (skb : SkBuff) (ip : UInt32) : Prop :=
  arpHdrSize ≤ skb.len ∧ (skb.mem.load16 (skb.data + 6)).toNat = htons arpOpRequest ∧
    ip = skb.mem.load32 (skb.data + 24)

/-- A packet with a request is no reply. -/
theorem SkBuff.IsArpRequest.not_reply {skb : SkBuff} {ip : UInt32} (h : skb.IsArpRequest ip) :
    ¬ skb.IsArpReply := fun hreply => absurd (h.2.1.symm.trans hreply.2) (by decide)

/-- The address an ARP packet gives the hardware address of. -/
def SkBuff.arpSender (skb : SkBuff) : UInt32 := skb.mem.load32 (skb.data + 14)

/-- The hardware address an ARP packet gives. -/
def SkBuff.arpSenderHw (skb : SkBuff) : MacAddr := MacAddr.load skb.mem (skb.data + 8)

/-- A reply for an address the node asked for. -/
theorem arpTableUpdateFromArpReply_ok {n : NodeId} {skb : SkBuff} {w w' : World} {u : Unit}
    {entry : ArpEntry} (hlook : arpTableLookup (w.arpTable n) skb.arpSender = some entry)
    (hrun : arpTableUpdateFromArpReply n skb skb.data w = .ok u w') :
    Flushed n (learnMac (w.arpTable n) skb.arpSender skb.arpSenderHw) entry.pendingPkts w w' := by
  obtain ⟨ip, w1, h1, hrest⟩ := bind_ok_iff.mp hrun
  obtain ⟨-, rfl, rfl⟩ := readU32_ok.mp h1
  obtain ⟨w2, w3, h2, hrest⟩ := bind_ok_iff.mp hrest
  cases h2
  have hlook' : arpTableLookup (w1.arpTable n) (skb.mem.load32 (skb.data + 14)) = some entry := hlook
  rw [hlook'] at hrest
  obtain ⟨mac, w4, h4, hset⟩ := bind_ok_iff.mp hrest
  obtain ⟨-, rfl, rfl⟩ := readMac_ok.mp h4
  obtain ⟨_, w5, h5, hloop⟩ := bind_ok_iff.mp hset
  rw [modifyArpEntry_ok] at h5
  have hnext : arpTableLookup (w5.arpTable n) skb.arpSender
      = some { entry with resolved := true, mac := skb.arpSenderHw } := by
    rw [h5]
    refine (arpTableLookup_modifyArp ?_).trans ?_
    · intro entry
      rfl
    · rw [hlook']
      rfl
  have hflush := flushPending_ok hnext rfl hloop
  obtain ⟨es, hes, hlink⟩ := hflush.trace
  have hid : w5.nextId = w4.nextId := by
    rw [h5]
    rfl
  refine ⟨?_, hid ▸ hflush.nextId, es, ?_, hlink⟩
  · have htwice : (arpTableModify
        (arpTableModify (w4.arpTable n) skb.arpSender fun entry =>
          { entry with resolved := true, mac := skb.arpSenderHw }) skb.arpSender
        fun entry => { entry with pendingPkts := [] })
        = learnMac (w4.arpTable n) skb.arpSender skb.arpSenderHw :=
      List.modifyFirst_modifyFirst fun _ h => h
    have htable : w5.arpTable = Function.update w4.arpTable n
        (arpTableModify (w4.arpTable n) skb.arpSender fun entry =>
          { entry with resolved := true, mac := skb.arpSenderHw }) := by
      rw [h5]
      rfl
    rw [hflush.frame, htable, Function.update_self, Function.update_idem, htwice, h5]
    rfl
  · rw [hes, h5]
    rfl

/-- A reply for an address nobody asked for. -/
theorem arpTableUpdateFromArpReply_unknown {n : NodeId} {skb : SkBuff} {w w' : World} {u : Unit}
    (hlook : arpTableLookup (w.arpTable n) skb.arpSender = none)
    (hrun : arpTableUpdateFromArpReply n skb skb.data w = .ok u w') : w' = w := by
  obtain ⟨ip, w1, h1, hrest⟩ := bind_ok_iff.mp hrun
  obtain ⟨-, rfl, rfl⟩ := readU32_ok.mp h1
  obtain ⟨w2, w3, h2, hrest⟩ := bind_ok_iff.mp hrest
  cases h2
  have hlook' : arpTableLookup (w1.arpTable n) (skb.mem.load32 (skb.data + 14)) = none := hlook
  rw [hlook'] at hrest
  cases hrest
  rfl

/-- The process once a buffer was given back. -/
def World.freed (w : World) (skb : SkBuff) : World :=
  { w with trace := w.trace ++ [.free skb.id] }

/-- **What a completed `arp_input` did**, and what it returned. -/
inductive ArpInput (w : World) (skb : SkBuff) : Bool → World → Prop
  /-- It ignored the packet. -/
  | ignored (hreply : ¬ skb.IsArpReply)
      (hother : ∀ i intf, skb.intf = some i → w.intf i = some intf → ¬ skb.IsArpRequest intf.ipAddr) :
      ArpInput w skb false w
  /-- It answered a request. -/
  | answered {w₁ : World} {i : IntfId} {intf : Intf} (hi : skb.intf = some i)
      (hintf : w.intf i = some intf) (hasked : skb.IsArpRequest intf.ipAddr)
      (h : sendArpReplyMsg i skb skb.data w = .ok () w₁) : ArpInput w skb true (w₁.freed skb)
  /-- It ignored a reply for an address nobody asked for. -/
  | unknown {i : IntfId} {intf : Intf} (hreply : skb.IsArpReply) (hi : skb.intf = some i)
      (hintf : w.intf i = some intf)
      (hlook : arpTableLookup (w.arpTable intf.node) skb.arpSender = none) :
      ArpInput w skb true (w.freed skb)
  /-- It took over a reply. -/
  | reply {w₁ : World} {i : IntfId} {intf : Intf} {entry : ArpEntry} {mac : MacAddr}
      (hreply : skb.IsArpReply) (hi : skb.intf = some i) (hintf : w.intf i = some intf)
      (hlook : arpTableLookup (w.arpTable intf.node) skb.arpSender = some entry)
      (hrun : arpTableUpdateFromArpReply intf.node skb skb.data w = .ok () w₁)
      (h : Flushed intf.node (learnMac (w.arpTable intf.node) skb.arpSender mac)
        entry.pendingPkts w w₁) : ArpInput w skb true (w₁.freed skb)

theorem arpInput_ok {skb : SkBuff} {w w' : World} {r : Bool} (hrun : arpInput skb w = .ok r w') :
    ArpInput w skb r w' := by
  unfold arpInput at hrun
  split at hrun
  · rename_i hlen
    cases hrun
    exact .ignored (fun h => absurd h.1 (by omega)) fun _ _ _ _ h => absurd h.1 (by omega)
  rename_i hlen
  obtain ⟨opcode, hop, hrest⟩ := bind_ok_of_eq (readU16_reads _ _) hrun
  obtain ⟨-, rfl, -⟩ := readU16_ok.mp hop
  cases hi : skb.intf with
  | none =>
      rw [hi] at hrest
      cases hrest
  | some i =>
      rw [hi] at hrest
      obtain ⟨ok, w1, h1, hfree⟩ := bind_ok_iff.mp hrest
      obtain ⟨_, w2, h2, hdone⟩ := bind_ok_iff.mp hfree
      cases hdone
      unfold arpDispatch at h1
      split at h1
      · rename_i hreq
        have hno : ¬ skb.IsArpReply := fun h => absurd (hreq.symm.trans h.2) (by decide)
        obtain ⟨intf, hintf, h1⟩ := bind_ok_of_eq (derefIntf_reads i) h1
        obtain ⟨hintf, -⟩ := derefIntf_ok.mp hintf
        obtain ⟨target, htarget, h1⟩ := bind_ok_of_eq (readU32_reads _ _) h1
        obtain ⟨-, rfl, -⟩ := readU32_ok.mp htarget
        split at h1
        · rename_i hip
          cases h1
          cases h2
          refine .ignored hno fun j intf' hj hintf' hasked => hip ?_
          obtain ⟨rfl, rfl⟩ := intfPtr_unique hi hintf hj hintf'
          exact hasked.2.2
        · rename_i hip
          obtain ⟨_, w3, h3, hdone⟩ := bind_ok_iff.mp h1
          cases hdone
          obtain rfl := freeSkb_ok.mp h2
          exact .answered hi hintf ⟨Nat.le_of_not_lt hlen, hreq, not_not.mp hip⟩ h3
      · split at h1
        · rename_i hrep
          have hreply : skb.IsArpReply := ⟨Nat.le_of_not_lt hlen, hrep⟩
          obtain ⟨intf, hintf, h1⟩ := bind_ok_of_eq (derefIntf_reads i) h1
          rw [derefIntf_ok] at hintf
          obtain ⟨_, w3, h3, hdone⟩ := bind_ok_iff.mp h1
          cases hdone
          obtain rfl := freeSkb_ok.mp h2
          cases hlook : arpTableLookup (w.arpTable intf.node) skb.arpSender with
          | none =>
              obtain rfl := arpTableUpdateFromArpReply_unknown hlook h3
              exact .unknown hreply hi hintf.1 hlook
          | some entry =>
              exact .reply hreply hi hintf.1 hlook h3 (arpTableUpdateFromArpReply_ok hlook h3)
        · rename_i hreq hrep
          cases h1
          cases h2
          exact .ignored (fun h => hrep h.2) fun _ _ _ _ h => hreq h.2.1

theorem freed_arp (w : World) (skb : SkBuff) : ArpSteps w (w.freed skb) :=
  .single (.quiet rfl rfl (List.prefix_append _ _))

/-- **A completed `arp_input` has one effect on the tables.** -/
theorem arpInput_arp {skb : SkBuff} {w w' : World} {r : Bool} (hrun : arpInput skb w = .ok r w') :
    ArpSteps w w' := by
  cases arpInput_ok hrun with
  | ignored _ _ => exact .refl
  | answered _ _ _ h =>
      exact ((emits_arp (sendArpReplyMsg_emits _ skb skb.data)).ok h).trans (freed_arp _ skb)
  | unknown _ _ _ _ => exact freed_arp w skb
  | reply _ _ _ _ _ h =>
      obtain ⟨es, hes, -⟩ := h.trace
      have hstep : ArpStep w _ := .resolved h.arpTable (by rw [h.frame]) ⟨es, hes.symm⟩
      exact (ReflTransGen.single hstep).trans (freed_arp _ skb)

end SimpleTcpip
