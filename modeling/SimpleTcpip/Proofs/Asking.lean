/-
Whoever waits has asked.

`ip_postroute` lets a packet wait for the hardware address of its next hop only right before it
asks for that address, and it asks again for every packet that comes to wait.  The neighbour
answers every request it gets, and the answer empties the list.  So in a network that loses no
frame, a packet that waits for an address its neighbour has is never forgotten: the request for
it is in flight, or the answer is.
-/
import SimpleTcpip.Proofs.ArpTable
import SimpleTcpip.Proofs.Network
import SimpleTcpip.Proofs.Passage

namespace SimpleTcpip

open Fallible

/-! ### Waiting -/

/-- A packet waits at a node for the hardware address of an IP address. -/
def WaitsFor (w : World) (n : NodeId) (ip : UInt32) (s : SkBuff) : Prop :=
  ∃ entry ∈ w.arpTable n, entry.ip = ip ∧ s ∈ entry.pendingPkts

/-- An address has one entry, and nothing waits in a resolved one. -/
structure ArpOk (w : World) : Prop where
  unique : ∀ n, ((w.arpTable n).map ArpEntry.ip).Nodup
  resolved : ∀ n, ∀ entry ∈ w.arpTable n, entry.resolved = true → entry.pendingPkts = []

section Tables

variable {w w' : World} {n m : NodeId} {table : List ArpEntry}

/-- An entry is an old one, or of the node whose table changed. -/
theorem mem_arpTable_update (htable : w'.arpTable = Function.update w.arpTable n table)
    {entry : ArpEntry} (hmem : entry ∈ w'.arpTable m) :
    entry ∈ w.arpTable m ∨ n = m ∧ entry ∈ table := by
  rw [htable] at hmem
  by_cases hm : m = n
  · subst hm
    rw [Function.update_self] at hmem
    exact Or.inr ⟨rfl, hmem⟩
  · rw [Function.update_of_ne hm] at hmem
    exact Or.inl hmem

theorem ArpOk.update (h : ArpOk w) (htable : w'.arpTable = Function.update w.arpTable n table)
    (hunique : (table.map ArpEntry.ip).Nodup)
    (hresolved : ∀ entry ∈ table, entry.resolved = true → entry.pendingPkts = []) : ArpOk w' := by
  refine ⟨fun m => ?_, fun m entry hmem => ?_⟩
  · rw [htable]
    by_cases hm : m = n
    · subst hm
      rw [Function.update_self]
      exact hunique
    · rw [Function.update_of_ne hm]
      exact h.unique m
  · rcases mem_arpTable_update htable hmem with hold | ⟨-, hnew⟩
    · exact h.resolved m entry hold
    · exact hresolved entry hnew

end Tables

/-- A lookup finds the entry of an address. -/
theorem ArpOk.lookup {w : World} (h : ArpOk w) {n : NodeId} {entry : ArpEntry}
    (hmem : entry ∈ w.arpTable n) : arpTableLookup (w.arpTable n) entry.ip = some entry := by
  cases hlook : arpTableLookup (w.arpTable n) entry.ip with
  | none =>
      have hmiss := List.find?_eq_none.mp hlook entry hmem
      exact absurd (beq_self_eq_true entry.ip) hmiss
  | some found =>
      rw [List.inj_on_of_nodup_map (h.unique n) (List.mem_of_find?_eq_some hlook) hmem
        (ip_of_lookup hlook)]

/-- The backend of an interface transmits whenever it is asked to. -/
def World.Up (w : World) (i : IntfId) : Prop := w.tries i = true ∧ ∀ k, 0 ≤ w.sysSend k

theorem World.Up.transmits {w : World} {i : IntfId} (h : w.Up i) : w.transmits i = true := by
  rw [World.transmits, h.1, Bool.true_and]
  exact decide_eq_true (h.2 _)

/-- The neighbour of an interface depends on the graph only. -/
theorem nbrIf_congr {w w' : World} (hintf : w'.intf = w.intf) (hlink : w'.link = w.link)
    (i : IntfId) : w'.nbrIf i = w.nbrIf i := by
  rw [World.nbrIf, World.nbrIf, hintf, hlink]

/-- Whether an interface is up depends on the graph only. -/
theorem up_congr {w w' : World} (hintf : w'.intf = w.intf) (hlink : w'.link = w.link)
    (hsys : w'.sysSend = w.sysSend) (i : IntfId) : w'.Up i ↔ w.Up i := by
  unfold World.Up World.tries World.udpReady
  rw [nbrIf_congr hintf hlink, hintf, hsys]

/-- What a longer run puts on the links. -/
theorem sentFrames_trans {w w' w'' : World} (h : w.trace <+: w'.trace)
    (h' : w'.trace <+: w''.trace) :
    sentFrames w w'' = sentFrames w w' ++ sentFrames w' w'' := by
  obtain ⟨es, hes⟩ := h'
  rw [sentFrames, newEvents_longer h hes.symm, List.filterMap_append, sentFrames, sentFrames,
    newEvents_append hes.symm]

/-- **What a part of a call may do to the packets that wait.** -/
structure Asks (w w' : World) : Prop where
  intf : w'.intf = w.intf
  link : w'.link = w.link
  sysSend : w'.sysSend = w.sysSend
  trace : w.trace <+: w'.trace
  ok : ArpOk w → ArpOk w'
  /-- A packet that comes to wait has been asked for. -/
  asked : ∀ n ip s, WaitsFor w' n ip s → WaitsFor w n ip s ∨ ∃ i x, s.intf = some i ∧
    w.intf i = some x ∧ (w.Up i → (i, x.requestFrame ip) ∈ sentFrames w w')

namespace Asks

variable {w w' w'' : World}

/-- Nothing happened to the tables. -/
theorem of_table (hintf : w'.intf = w.intf) (hlink : w'.link = w.link)
    (hsys : w'.sysSend = w.sysSend) (htrace : w.trace <+: w'.trace)
    (htable : w'.arpTable = w.arpTable) : Asks w w' := by
  refine ⟨hintf, hlink, hsys, htrace, fun hok => ⟨?_, ?_⟩, fun n ip s hs => Or.inl ?_⟩
  · rw [htable]
    exact hok.unique
  · rw [htable]
    exact hok.resolved
  · unfold WaitsFor at hs ⊢
    rwa [htable] at hs

theorem refl (w : World) : Asks w w := of_table rfl rfl rfl (List.prefix_refl _) rfl

theorem trans (h : Asks w w') (h' : Asks w' w'') : Asks w w'' := by
  refine ⟨h'.intf.trans h.intf, h'.link.trans h.link, h'.sysSend.trans h.sysSend,
    h.trace.trans h'.trace, fun hok => h'.ok (h.ok hok), fun n ip s hs => ?_⟩
  rw [sentFrames_trans h.trace h'.trace]
  rcases h'.asked n ip s hs with hold | ⟨i, x, hi, hx, hsent⟩
  · refine (h.asked n ip s hold).imp_right fun ⟨i, x, hi, hx, hsent⟩ => ⟨i, x, hi, hx, fun hup => ?_⟩
    exact List.mem_append_left _ (hsent hup)
  · rw [h.intf] at hx
    rw [up_congr h.intf h.link h.sysSend] at hsent
    exact Or.inr ⟨i, x, hi, hx, fun hup => List.mem_append_right _ (hsent hup)⟩

theorem of_emits {P : Event → Prop} (h : Emits P w w') : Asks w w' := by
  obtain ⟨es, hes, -⟩ := h.trace
  exact of_table h.intf h.link h.sysSend ⟨es, hes.symm⟩ h.arpTable

theorem of_puts {frames : List (IntfId × List UInt8)} (h : Puts frames w w') : Asks w w' :=
  of_emits h.emits

end Asks

/-! ### A packet for a neighbour -/

/-- Only the packet that was parked comes to wait. -/
theorem waitsFor_parked {w : World} {n m : NodeId} {ip a : UInt32} {i : IntfId} {s q : SkBuff}
    (hwait : Unresolved (w.arpTable n) ip) (h : WaitsFor (w.parked n ip i s) m a q) :
    WaitsFor w m a q ∨ a = ip ∧ q = s := by
  obtain ⟨entry, hmem, hip, hq⟩ := h
  have htable : (w.parked n ip i s).arpTable
      = Function.update w.arpTable n (parkPacket (w.arpTable n) ip i s) := rfl
  rcases mem_arpTable_update htable hmem with hold | ⟨rfl, hnew⟩
  · exact Or.inl ⟨entry, hold, hip, hq⟩
  rcases mem_parkPacket hwait hnew with hold | ⟨hentry, -, hpending⟩
  · exact Or.inl ⟨entry, hold, hip, hq⟩
  rcases hpending q hq with rfl | ⟨old, hold, holdip, hq⟩
  · exact Or.inr ⟨hip.symm.trans hentry, rfl⟩
  · exact Or.inl ⟨old, hold, holdip.trans (hentry.symm.trans hip), hq⟩

theorem ArpOk.parked {w : World} (h : ArpOk w) {n : NodeId} {ip : UInt32} (i : IntfId) (s : SkBuff)
    (hwait : Unresolved (w.arpTable n) ip) : ArpOk (w.parked n ip i s) := by
  refine h.update rfl (nodup_parkPacket (h.unique n)) fun entry hmem hres => ?_
  rcases mem_parkPacket hwait hmem with hold | ⟨-, hno, -⟩
  · exact h.resolved n entry hold hres
  · rw [hno] at hres
    cases hres

/-- **A packet is parked with a request for its next hop**, or it is sent. -/
theorem ipNeighbourOutput_asks {w : World} (hg : GraphOk w) {n : NodeId} {i : IntfId} {x : Intf}
    {ip : UInt32} {skb : SkBuff} (hi : skb.intf = some i) (hx : w.intf i = some x) :
    (final (ipNeighbourOutput n i ip skb) w).rtTable = w.rtTable ∧
      Asks w (final (ipNeighbourOutput n i ip skb) w) := by
  by_cases hwait : Unresolved (w.arpTable n) ip
  · have hg' : GraphOk (w.parked n ip i skb) := hg.of_frame rfl rfl rfl
    obtain ⟨w', hsend, hputs⟩ := sendArpBroadcastRequest_puts (w := w.parked n ip i skb) hg' hx ip
    have hrun : ipNeighbourOutput n i ip skb w = .ok true w' :=
      (ipNeighbourOutput_unresolved hwait).trans (run_bind_ok hsend)
    rw [final_of_ok hrun]
    have hrest : Asks (w.parked n ip i skb) w' := .of_puts hputs
    have hlogged : w.trace <+: (w.parked n ip i skb).trace := List.prefix_append _ _
    refine ⟨hputs.emits.rtTable, hrest.intf, hrest.link, hrest.sysSend, hlogged.trans hrest.trace,
      fun hok => hrest.ok (hok.parked i skb hwait), fun m a q hq => ?_⟩
    have hparked : WaitsFor (w.parked n ip i skb) m a q := by
      unfold WaitsFor at hq ⊢
      rwa [hputs.emits.arpTable] at hq
    refine (waitsFor_parked hwait hparked).imp_right fun ⟨ha, hskb⟩ => ?_
    rw [ha, hskb]
    refine ⟨i, x, hi, hx, fun hup => ?_⟩
    have hup' : (w.parked n ip i skb).Up i := hup
    rw [sentFrames_trans hlogged hrest.trace, hputs.sent, if_pos hup'.transmits]
    exact List.mem_append_right _ (List.mem_singleton_self _)
  · unfold Unresolved at hwait
    push Not at hwait
    obtain ⟨entry, hlook, hres⟩ := hwait
    rw [final, ipNeighbourOutput_resolved hlook (Bool.not_eq_false _ ▸ hres)]
    have hemits : Emits (fun _ => True) w (final (ethernetOutput i entry.mac ethProtoIp skb) w) :=
      ethernetOutput_emits (fun _ _ => trivial) trivial w
    exact ⟨hemits.rtTable, .of_emits hemits⟩

/-- What a part of a call may do on a graph that is in order. -/
def Asking (w w' : World) : Prop := GraphOk w → w'.rtTable = w.rtTable ∧ Asks w w'

theorem Asking.graphOk {w w' : World} (h : Asking w w') (hg : GraphOk w) : GraphOk w' :=
  hg.of_frame (h hg).2.intf (h hg).2.link (h hg).1

theorem Asking.of_emits {P : Event → Prop} {w w' : World} (h : Emits P w w') : Asking w w' :=
  fun _ => ⟨h.rtTable, .of_emits h⟩

theorem Asking.trans {w w' w'' : World} (h : Asking w w') (h' : Asking w' w'') : Asking w w'' :=
  fun hg => ⟨(h' (h.graphOk hg)).1.trans (h hg).1, (h hg).2.trans (h' (h.graphOk hg)).2⟩

/-- **Whatever waits after a step between a call and the link was asked for.** -/
theorem asking_upheld : Upheld Asking where
  refl w _ := ⟨rfl, .refl w⟩
  trans _ _ _ h h' := h.trans h'
  emits h := .of_emits h
  tables h _ := by
    rw [h]
    exact ⟨rfl, .of_table rfl rfl rfl (List.prefix_refl _) rfl⟩
  neighbour hi hlive hg := by
    obtain ⟨x, hx⟩ := Option.isSome_iff_exists.mp hlive
    exact ipNeighbourOutput_asks hg hi hx

/-! ### A received frame -/

/-- Nobody comes to wait when a node learns an address. -/
theorem waitsFor_learnMac {w w' : World} {n m : NodeId} {ip a : UInt32} {mac : MacAddr} {q : SkBuff}
    (htable : w'.arpTable = Function.update w.arpTable n (learnMac (w.arpTable n) ip mac))
    (h : WaitsFor w' m a q) : WaitsFor w m a q := by
  obtain ⟨entry, hmem, hip, hq⟩ := h
  rcases mem_arpTable_update htable hmem with hold | ⟨rfl, hnew⟩
  · exact ⟨entry, hold, hip, hq⟩
  rcases mem_learnMac hnew with hold | ⟨hnil, -⟩
  · exact ⟨entry, hold, hip, hq⟩
  · rw [hnil] at hq
    cases hq

theorem ArpOk.learnMac {w w' : World} (h : ArpOk w) {n : NodeId} {ip : UInt32} {mac : MacAddr}
    (htable : w'.arpTable = Function.update w.arpTable n (learnMac (w.arpTable n) ip mac)) :
    ArpOk w' := by
  refine h.update htable ?_ fun entry hmem hres => ?_
  · rw [map_ip_learnMac]
    exact h.unique n
  · rcases mem_learnMac hmem with hold | ⟨hnil, -⟩
    · exact h.resolved n entry hold hres
    · exact hnil

theorem freed_asks (w : World) (skb : SkBuff) : Asks w (w.freed skb) :=
  .of_table rfl rfl rfl (List.prefix_append _ _) rfl

/-- An ARP packet makes nobody wait. -/
theorem arpInput_asks {w w' : World} {skb : SkBuff} {r : Bool} (hrun : arpInput skb w = .ok r w') :
    Asks w w' := by
  cases arpInput_ok hrun with
  | ignored _ _ => exact .refl w
  | answered _ _ _ h =>
      exact (Asks.of_emits ((sendArpReplyMsg_emits _ skb skb.data).ok h)).trans (freed_asks _ skb)
  | unknown _ _ _ _ => exact freed_asks w skb
  | @reply w₁ i intf entry mac _ _ _ _ _ h =>
      obtain ⟨es, hes, -⟩ := h.trace
      have hstep : Asks w w₁ := by
        refine ⟨?_, ?_, ?_, ⟨es, hes.symm⟩, fun hok => hok.learnMac h.arpTable,
          fun n ip s hs => Or.inl (waitsFor_learnMac h.arpTable hs)⟩
        · rw [h.frame]
        · rw [h.frame]
        · rw [h.frame]
      exact hstep.trans (freed_asks _ skb)

theorem recvFrame_asks {w w' : World} {i : IntfId} {frame : List UInt8} {u : Unit} (hg : GraphOk w)
    (hrun : recvFrame i frame w = .ok u w') : Asks w w' := by
  obtain ⟨skb, w₁, h₁, hrun⟩ := bind_ok_iff.mp hrun
  rw [recvSkb_eq] at h₁
  cases h₁
  obtain ⟨ok, w₂, hpkt, hfree⟩ := bind_ok_iff.mp hrun
  have hreceived : Asks w (w.received i frame) :=
    .of_table rfl rfl rfl (List.prefix_append _ _) rfl
  have hg₁ : GraphOk (w.received i frame) := hg.of_frame rfl rfl rfl
  have hlast : Asks w₂ w' :=
    .of_emits ((freeSkbIf_emits (P := fun _ => True) (fun _ _ => trivial) _ _).ok hfree)
  have hmiddle : Asks (w.received i frame) w₂ := by
    rcases pktReceive_typed hpkt with ⟨-, rfl⟩ | ⟨-, ⟨-, harp⟩ | ⟨-, hip⟩⟩
    · exact .refl _
    · exact arpInput_asks harp
    · exact ((asking_upheld.ipPreroute _).ok hip hg₁).2
  exact (hreceived.trans hmiddle).trans hlast

/-! ### A call -/

/-- A call that gives an interface an address. -/
def Op.Configures : Op → Prop
  | .nodeSetIntfIpAddr _ _ _ _ => True
  | _ => False

/-- **A call that gives no interface an address lets nobody wait who has not asked.** -/
theorem runOp_asks {w w' : World} {op : Op} {r : Ret} (hg : GraphOk w) (hop : ¬ op.Configures)
    (hrun : runOp op w = .ok r w') : Asks w w' := by
  have hafter : op.after w = w' := final_of_ok hrun
  -- a call that sends nothing
  have hquiet : ¬ op.Networks → (Part.config.Same w w') → Asks w w' := by
    intro hnet hsame
    obtain ⟨-, hq⟩ := Op.quiet_after hnet w
    rw [hafter] at hq
    obtain ⟨es, hes, -⟩ := hq.trace
    refine .of_table hsame.1 ?_ ?_ ⟨es, hes.symm⟩ hq.arpTable
    · rw [hq.frame]
    · rw [hq.frame]
  have hother : ¬ op.Networks → ¬ op.owns .config → Asks w w' := by
    intro hnet hown
    obtain ⟨-, hq⟩ := Op.quiet_after hnet w
    rw [hafter] at hq
    exact hquiet hnet ((hq.parts .config).resolve_left hown)
  -- a call that runs one function of the stack
  have hcall : ∀ {α : Type} {m : M α} {f : α → Ret}, Keeps Asking m →
      (m >>= fun a => pure (f a)) w = .ok r w' → Asks w w' := by
    intro α m f hm hrun
    obtain ⟨a, w₁, h₁, hdone⟩ := bind_ok_iff.mp hrun
    cases hdone
    exact (hm.ok h₁ hg).2
  have hin : ∀ skb, Keeps Asking (ipInput skb) := asking_upheld.ipInput callDepth
  cases op with
  | recvFrame i frame =>
      obtain ⟨_, w₁, h₁, hdone⟩ := bind_ok_iff.mp hrun
      cases hdone
      exact recvFrame_asks hg h₁
  | udpSendto fd buff ip port => exact hcall (asking_upheld.udpSendto hin fd buff ip port) hrun
  | tcpSend fd buff => exact hcall (asking_upheld.tcpSend hin fd buff) hrun
  | icmpOut n ip type code payload =>
      exact hcall (asking_upheld.icmpOut hin n ip type code payload) hrun
  | ping n ipAddr => exact hcall (asking_upheld.icmpOut hin n _ _ _ _) hrun
  | sendArpBroadcastRequest i ip =>
      obtain ⟨_, w₁, h₁, hdone⟩ := bind_ok_iff.mp hrun
      cases hdone
      exact .of_emits ((sendArpBroadcastRequest_emits i ip).ok h₁)
  | nodeSetIntfIpAddr n ifName ipAddr mask => exact absurd trivial hop
  | rtTableAddRoute n dst mask next i =>
      cases hrun
      exact .of_table rfl rfl rfl (List.prefix_refl _) rfl
  | setIpForward val =>
      cases hrun
      exact .of_table rfl rfl rfl (List.prefix_refl _) rfl
  | _ => exact hother id (fun hown => nomatch hown)

/-- One that gives one an address sends nothing. -/
theorem Op.Configures.quiet {w w' : World} {op : Op} {r : Ret} (h : op.Configures)
    (hrun : runOp op w = .ok r w') : Quiet op.owns w w' := by
  have hnet : ¬ op.Networks := by
    cases op with
    | nodeSetIntfIpAddr n ifName ipAddr mask => exact id
    | _ => exact h.elim
  obtain ⟨-, hquiet⟩ := Op.quiet_after hnet w
  rwa [Op.after, final_of_ok hrun] at hquiet

/-- **The tables are in order in every reachable state.** -/
theorem Reachable.arpOk {w : World} (h : Reachable w) : ArpOk w := by
  induction h with
  | @init w h =>
      have hnone : ∀ n, w.arpTable n = [] := fun n => congrFun h.arpTable n
      refine ⟨fun n => ?_, fun n entry hmem => ?_⟩
      · rw [hnone]
        exact List.nodup_nil
      · rw [hnone] at hmem
        cases hmem
  | @step w w' op r hw _ hrun ih =>
      by_cases hop : op.Configures
      · refine ⟨?_, ?_⟩
        · rw [(hop.quiet hrun).arpTable]
          exact ih.unique
        · rw [(hop.quiet hrun).arpTable]
          exact ih.resolved
      · exact (runOp_asks hw.graphOk hop hrun).ok ih

/-! ### Requests and answers in flight -/

/-- Two interfaces with addresses whose frames reach each other. -/
structure Adjacent (w : World) (i j : IntfId) (x y : Intf) : Prop where
  near : w.intf i = some x
  far : w.intf j = some y
  configured : x.isIpAddrConfig = true
  configured' : y.isIpAddrConfig = true
  there : w.nbrIf i = some j
  back : w.nbrIf j = some i
  up : w.Up i
  up' : w.Up j

/-- Whoever waits for a neighbour has a request or an answer in flight. -/
structure Answerable (w : World) (air : Air) : Prop where
  ok : ArpOk w
  inFlight : ∀ {i j x y s}, Adjacent w i j x y → s.intf = some i → WaitsFor w x.node y.ipAddr s →
    (j, x.requestFrame y.ipAddr) ∈ air ∨ (i, y.replyFrame x) ∈ air

section Flight

variable {w w' : World} {air : Air} {i j : IntfId} {x y : Intf}

theorem Adjacent.of_asks (h : Adjacent w' i j x y) (hasks : Asks w w') : Adjacent w i j x y := by
  obtain ⟨hnear, hfar, hx, hy, hthere, hback, hup, hup'⟩ := h
  rw [nbrIf_congr hasks.intf hasks.link] at hthere hback
  rw [up_congr hasks.intf hasks.link hasks.sysSend] at hup hup'
  rw [hasks.intf] at hnear hfar
  exact ⟨hnear, hfar, hx, hy, hthere, hback, hup, hup'⟩

theorem mem_launched {frame : List UInt8} (h : (i, frame) ∈ sentFrames w w')
    (hlink : w.nbrIf i = some j) : (j, frame) ∈ launched w w' := by
  refine List.mem_filterMap.mpr ⟨(i, frame), h, ?_⟩
  rw [hlink]
  rfl

/-- **A call keeps it**: the requests of those who come to wait are on their way. -/
theorem Answerable.step (h : Answerable w air) (hasks : Asks w w') :
    Answerable w' (air + launched w w') := by
  refine ⟨hasks.ok h.ok, fun {i j x y s} hadj' hi hs => ?_⟩
  have hadj := hadj'.of_asks hasks
  rcases hasks.asked _ _ s hs with hold | ⟨i', x', hi', hx', hsent⟩
  · exact (h.inFlight hadj hi hold).imp (fun hmem => Multiset.mem_add.mpr (Or.inl hmem))
      fun hmem => Multiset.mem_add.mpr (Or.inl hmem)
  · obtain rfl := Option.some.inj (hi.symm.trans hi')
    obtain rfl := Option.some.inj (hadj.near.symm.trans hx')
    exact Or.inl (Multiset.mem_add.mpr (Or.inr (mem_launched (hsent hadj.up) hadj.there)))

/-- An interface takes the frames for everybody. -/
theorem qualify_broadcast (intf : Intf) : ethernetInputQualify intf MacAddr.broadcast = true := by
  unfold ethernetInputQualify
  rw [show isMacBroadcastAddr MacAddr.broadcast = true by decide, Bool.or_true]

/-- An interface takes the frames for itself. -/
theorem qualify_own (intf : Intf) : ethernetInputQualify intf intf.macAddr = true := by
  unfold ethernetInputQualify
  rw [beq_self_eq_true, Bool.true_or]

/-- The neighbour answers the request. -/
theorem Adjacent.answered (h : Adjacent w i j x y) (hg : GraphOk w) {u : Unit}
    (hrun : recvFrame j (x.requestFrame y.ipAddr) w = .ok u w') :
    (i, y.replyFrame x) ∈ launched w w' := by
  obtain ⟨t, ht, hputs⟩ := recvFrame_asked (x.arpRequest y.ipAddr) hg h.far h.configured'
    (qualify_broadcast y) rfl rfl
  cases ht.symm.trans hrun
  refine mem_launched (i := j) ?_ h.back
  rw [hputs.sent, if_pos h.up'.transmits]
  exact List.mem_singleton_self _

/-- Nobody waits once the answer is there. -/
theorem Adjacent.found (h : Adjacent w i j x y) (hok : ArpOk w') {u : Unit}
    (hrun : recvFrame i (y.replyFrame x) w = .ok u w') (s : SkBuff) :
    ¬ WaitsFor w' x.node y.ipAddr s := by
  have hlearned := recvFrame_replied (y.arpReply x.macAddr x.ipAddr) h.near h.configured
    (qualify_own x) rfl hrun
  rintro ⟨entry, hmem, hip, hs⟩
  have hlook : arpTableLookup (w'.arpTable x.node) y.ipAddr = some entry :=
    hip ▸ hok.lookup hmem
  rw [hok.resolved x.node entry hmem (hlearned.found entry hlook).1] at hs
  cases hs

/-- **A delivery keeps it**: a request that arrives becomes an answer, and an answer ends the
waiting. -/
theorem Answerable.deliver (hg : GraphOk w) {frame : List UInt8} {u : Unit}
    (h : Answerable w ((i, frame) ::ₘ air)) (hrun : recvFrame i frame w = .ok u w') :
    Answerable w' (air + launched w w') := by
  have hasks := recvFrame_asks hg hrun
  have hall := h.step hasks
  refine ⟨hall.ok, fun {i' j x y s} hadj' hi hs => ?_⟩
  have hadj := hadj'.of_asks hasks
  have hflight := hall.inFlight hadj' hi hs
  rw [Multiset.cons_add, Multiset.mem_cons, Multiset.mem_cons] at hflight
  rcases hflight with (hrequest | hmem) | (hreply | hmem)
  · cases hrequest
    exact Or.inr (Multiset.mem_add.mpr (Or.inr (hadj.answered hg hrun)))
  · exact Or.inl hmem
  · cases hreply
    exact (hadj.found hall.ok hrun s hs).elim
  · exact Or.inr hmem

end Flight

/-! ### Runs that lose nothing -/

/-- A frame that was delivered or is in flight was put on a link. -/
theorem NetRun.flown_le {w₀ w : World} {calls delivered : List Call} {air : Air}
    (h : NetRun w₀ calls delivered air w) :
    delivered.length + air.card ≤ flown calls + flown delivered := by
  induction h with
  | start => exact Nat.le_refl 0
  | call _ _ _ ih =>
      rw [flown_snoc, card_add_launched]
      omega
  | deliver _ _ _ ih =>
      rw [Multiset.card_cons] at ih
      rw [flown_snoc, card_add_launched, List.length_append, List.length_singleton]
      omega
  | lose _ ih =>
      rw [Multiset.card_cons] at ih
      omega

theorem NetRun.answerable {w₀ w : World} (hw : Reachable w₀)
    (hnobody : ∀ n, ∀ entry ∈ w₀.arpTable n, entry.pendingPkts = []) {calls delivered : List Call}
    {air : Air} (h : NetRun w₀ calls delivered air w) (hops : ∀ call ∈ calls, ¬ call.op.Configures)
    (hall : flown calls + flown delivered = delivered.length + air.card) : Answerable w air := by
  induction h with
  | start =>
      refine ⟨hw.arpOk, fun _ _ hs => ?_⟩
      obtain ⟨entry, hmem, -, hs⟩ := hs
      rw [hnobody _ entry hmem] at hs
      cases hs
  | call hbefore hv hrun ih =>
      rw [flown_snoc, card_add_launched] at hall
      have hop := hops _ (List.mem_append_right _ (List.mem_singleton_self _))
      have hanswerable := ih (fun call hcall => hops call (List.mem_append_left _ hcall)) (by omega)
      exact hanswerable.step (runOp_asks (hbefore.reachable hw).graphOk hop hrun)
  | deliver hbefore hv hrun ih =>
      rw [flown_snoc, card_add_launched, List.length_append, List.length_singleton] at hall
      obtain ⟨_, w₁, h₁, hdone⟩ := bind_ok_iff.mp hrun
      cases hdone
      refine Answerable.deliver (hbefore.reachable hw).graphOk (ih hops ?_) h₁
      rw [Multiset.card_cons]
      omega
  | lose hbefore ih =>
      -- what is lost is missing in the count
      have hle := hbefore.flown_le
      rw [Multiset.card_cons] at hle
      omega

/--
**Neighbours find each other.**  In a network that loses no frame, whatever the applications call
and in whatever order frames arrive, a packet that waits for the hardware address of the interface
at the other end of its link has the request in flight, or the answer.  So nobody waits for a
neighbour when the network is at rest.
-/
theorem neighbours_found {w₀ w : World} (hw : Reachable w₀)
    (hnobody : ∀ n, ∀ entry ∈ w₀.arpTable n, entry.pendingPkts = []) {calls delivered : List Call}
    {air : Air} (h : NetRun w₀ calls delivered air w) (hops : ∀ call ∈ calls, ¬ call.op.Configures)
    (hall : flown calls + flown delivered = delivered.length + air.card) {i j : IntfId} {x y : Intf}
    (hadj : Adjacent w i j x y) {s : SkBuff} (hi : s.intf = some i)
    (hs : WaitsFor w x.node y.ipAddr s) :
    (j, x.requestFrame y.ipAddr) ∈ air ∨ (i, y.replyFrame x) ∈ air :=
  (h.answerable hw hnobody hops hall).inFlight hadj hi hs

/-- Calls that neither receive nor send leave the ARP tables and the backends alone. -/
theorem Run.quiet {w₀ w : World} {calls : List Call} (h : Run w₀ calls w)
    (hops : ∀ op ∈ calls.map Call.op, ¬ op.Networks) :
    w.arpTable = w₀.arpTable ∧ w.sysSend = w₀.sysSend := by
  induction h with
  | nil => exact ⟨rfl, rfl⟩
  | @snoc calls w w' op r _ _ hrun ih =>
      rw [List.map_append] at hops
      obtain ⟨htable, hsys⟩ := ih fun op hop => hops op (List.mem_append_left _ hop)
      have hop : ¬ op.Networks := hops _ (List.mem_append_right _ (List.mem_singleton_self _))
      obtain ⟨-, hquiet⟩ := Op.quiet_after hop w
      rw [show op.after w = w' from final_of_ok hrun] at hquiet
      exact ⟨hquiet.arpTable.trans htable, by rw [hquiet.frame, hsys]⟩

/-- `node0` waits to reach `node1`, and the link between them works. -/
def Fixture.waits (w : World) : Bool :=
  (w.intf 0).any fun x => (w.intf 1).any fun y => x.isIpAddrConfig && y.isIpAddrConfig &&
    decide (w.nbrIf 0 = some 1 ∧ w.nbrIf 1 = some 0) && w.tries 0 && w.tries 1 &&
    (w.arpTable x.node).any fun entry =>
      entry.ip == y.ipAddr && entry.pendingPkts.any fun s => decide (s.intf = some 0)

theorem neighbours_found_fixture : ∃ calls delivered air w x y s,
    NetRun (Fixture.after []) calls delivered air w ∧ w.intf 0 = some x ∧ w.intf 1 = some y ∧
      WaitsFor w x.node y.ipAddr s ∧
      ((1, x.requestFrame y.ipAddr) ∈ air ∨ (0, y.replyFrame x) ∈ air) := by
  have hbuilt : (runOps Fixture.graph (Fixture.configure ++ [])).isSome = true := by decide +kernel
  have hsome : ((Op.icmpOut 0 (Fixture.addr 192 168 89 2) 8 0 []).step? (Fixture.after [])).any
      Fixture.waits = true := by decide +kernel
  have hw : Reachable (Fixture.after []) := Fixture.reachable_after _
  obtain ⟨built, hbuild, hmap⟩ := Run.of_runOps (Fixture.runOps_after hbuilt)
  obtain ⟨htable, hsys⟩ := hbuild.quiet (by rw [hmap]; simp [Fixture.configure, Op.Networks])
  generalize Fixture.after [] = w₀ at *
  obtain ⟨w, hstep, hwaits⟩ := (Option.any_eq_true _ _).mp hsome
  obtain ⟨hv, r, hr⟩ := Op.step?_eq_some.mp hstep
  obtain ⟨x, hx, hwaits⟩ := (Option.any_eq_true _ _).mp hwaits
  obtain ⟨y, hy, hwaits⟩ := (Option.any_eq_true _ _).mp hwaits
  simp only [Bool.and_eq_true, decide_eq_true_eq, List.any_eq_true, beq_iff_eq] at hwaits
  obtain ⟨⟨⟨⟨⟨hxc, hyc⟩, hthere, hback⟩, htries⟩, htries'⟩, entry, hentry, hip, s, hs, hi⟩ := hwaits
  have hops : ¬ (Op.icmpOut 0 (Fixture.addr 192 168 89 2) 8 0 []).Configures := id
  have hup : ∀ k, 0 ≤ w.sysSend k := by
    intro k
    rw [(runOp_asks hw.graphOk hops hr).sysSend, hsys]
    exact Int.zero_le_ofNat 1
  have hrun : NetRun w₀ ([] ++ [⟨w₀, _, r, w⟩]) [] (0 + launched w₀ w) w := .call .start hv hr
  have hwait : WaitsFor w x.node y.ipAddr s := ⟨entry, hentry, hip, hs⟩
  refine ⟨_, _, _, w, x, y, s, hrun, hx, hy, hwait, ?_⟩
  refine neighbours_found hw (fun n entry hmem => ?_) hrun (fun call hcall => ?_) ?_
    ⟨hx, hy, hxc, hyc, hthere, hback, ⟨htries, hup⟩, ⟨htries', hup⟩⟩ hi hwait
  · rw [htable] at hmem
    cases hmem
  · cases List.mem_singleton.mp hcall
    exact hops
  · rw [flown_snoc, card_add_launched]
    exact Nat.add_comm _ _

end SimpleTcpip
