/-
What holds of the ARP tables in every run.

An address has at most one entry although `arp_table_entry_add` does not look: its only
caller looks first.  A resolved entry holds no packets, since the reply that resolves it
sends them all and nothing is parked in it afterwards.  The last section is about the
order in which the packets of one next hop leave: they are added at the head of the
pending list, and the reply's loop starts from the head.
-/
import SimpleTcpip.Model.Fixture
import SimpleTcpip.Proofs.Neighbour

namespace SimpleTcpip

open Fallible Relation

/-! ### The tables -/

section Tables

variable {table : List ArpEntry} {ip : UInt32} {i : IntfId} {s : SkBuff} {mac : MacAddr}

theorem ip_of_lookup {entry : ArpEntry} (h : arpTableLookup table ip = some entry) :
    entry.ip = ip := by
  have hfound := List.find?_some h
  simpa using hfound

/-- Only an address without an entry gets one. -/
theorem map_ip_parkPacket :
    (parkPacket table ip i s).map ArpEntry.ip
      = if (arpTableLookup table ip).isNone then ip :: table.map ArpEntry.ip
        else table.map ArpEntry.ip := by
  unfold parkPacket
  cases arpTableLookup table ip with
  | some entry => exact List.map_modifyFirst fun _ => rfl
  | none => rfl

/-- An address keeps its one entry. -/
theorem nodup_parkPacket (h : (table.map ArpEntry.ip).Nodup) :
    ((parkPacket table ip i s).map ArpEntry.ip).Nodup := by
  rw [map_ip_parkPacket]
  split
  · rename_i hnone
    refine List.nodup_cons.mpr ⟨fun hmem => ?_, h⟩
    obtain ⟨entry, hentry, hip⟩ := List.mem_map.mp hmem
    have hmiss := List.find?_eq_none.mp (Option.isNone_iff_eq_none.mp hnone) entry hentry
    exact hmiss (by simp [hip])
  · exact h

theorem map_ip_learnMac : (learnMac table ip mac).map ArpEntry.ip = table.map ArpEntry.ip :=
  List.map_modifyFirst fun _ => rfl

/-- An entry after a packet was parked is an old one, or the unresolved one of the address. -/
theorem mem_parkPacket (hwait : Unresolved table ip) {e : ArpEntry}
    (he : e ∈ parkPacket table ip i s) :
    e ∈ table ∨ e.ip = ip ∧ e.resolved = false ∧
      ∀ q ∈ e.pendingPkts, q = s ∨ ∃ old ∈ table, old.ip = ip ∧ q ∈ old.pendingPkts := by
  unfold parkPacket at he
  cases hlook : arpTableLookup table ip with
  | some found =>
      rw [hlook] at he
      rcases List.mem_modifyFirst he with hold | ⟨entry, hfind, rfl⟩
      · exact Or.inl hold
      · have hip : entry.ip = ip := ip_of_lookup hfind
        refine Or.inr ⟨hip, hwait entry hfind, fun q hq => ?_⟩
        rcases List.mem_cons.mp hq with rfl | hq
        · exact Or.inl rfl
        · exact Or.inr ⟨entry, List.mem_of_find?_eq_some hfind, hip, hq⟩
  | none =>
      rw [hlook] at he
      rcases List.mem_cons.mp he with rfl | hold
      · exact Or.inr ⟨rfl, rfl, fun q hq => Or.inl (List.mem_singleton.mp hq)⟩
      · exact Or.inl hold

/-- An entry after a reply is an old one, or the one of the address with nothing waiting. -/
theorem mem_learnMac {e : ArpEntry} (he : e ∈ learnMac table ip mac) :
    e ∈ table ∨ e.pendingPkts = [] ∧ ∃ old ∈ table, old.ip = e.ip := by
  rcases List.mem_modifyFirst he with hold | ⟨entry, hfind, rfl⟩
  · exact Or.inl hold
  · exact Or.inr ⟨rfl, entry, List.mem_of_find?_eq_some hfind, rfl⟩

/-- A resolved entry is one of a table. -/
def HasResolved (table : List ArpEntry) (ip : UInt32) : Prop :=
  ∃ entry ∈ table, entry.ip = ip ∧ entry.resolved = true

theorem HasResolved.parkPacket {a : UInt32} (h : HasResolved table a) :
    HasResolved (parkPacket table ip i s) a := by
  obtain ⟨entry, hmem, hip, hres⟩ := h
  unfold SimpleTcpip.parkPacket
  cases arpTableLookup table ip with
  | some _ =>
      rcases List.mem_modifyFirst_of_mem hmem with hmem | hmem
      · exact ⟨entry, hmem, hip, hres⟩
      · exact ⟨_, hmem, hip, hres⟩
  | none => exact ⟨entry, List.mem_cons_of_mem _ hmem, hip, hres⟩

theorem HasResolved.learnMac {a : UInt32} (h : HasResolved table a) :
    HasResolved (learnMac table ip mac) a := by
  obtain ⟨entry, hmem, hip, hres⟩ := h
  rcases List.mem_modifyFirst_of_mem hmem with hmem | hmem
  · exact ⟨entry, hmem, hip, hres⟩
  · exact ⟨_, hmem, hip, rfl⟩

end Tables

/-! ### The invariant -/

/-- What a run from `w₀` keeps of the ARP tables. -/
structure ArpTables (w₀ w : World) : Prop where
  start : w₀.trace <+: w.trace
  /-- An address has at most one entry. -/
  unique : ∀ n, ((w.arpTable n).map ArpEntry.ip).Nodup
  /-- Nothing waits in a resolved entry. -/
  resolved : ∀ n, ∀ entry ∈ w.arpTable n, entry.resolved = true → entry.pendingPkts = []
  /-- A packet waits in the entry of its next hop. -/
  pending : ∀ n, ∀ entry ∈ w.arpTable n, ∀ s ∈ entry.pendingPkts, nextHop w n s = some entry.ip
  /-- An entry was made for a packet on its way to that address. -/
  routed : ∀ n, ∀ entry ∈ w.arpTable n,
    ∃ s, .parked n entry.ip s ∈ newEvents w₀ w ∧ nextHop w n s = some entry.ip

/-- How the ARP tables of a run may differ from earlier ones. -/
structure ArpTablesKept (w w' : World) : Prop where
  /-- Entries are only added, in front, and keep their addresses. -/
  entries : ∀ n, (w.arpTable n).map ArpEntry.ip <:+ (w'.arpTable n).map ArpEntry.ip
  /-- A resolved entry stays resolved. -/
  resolved : ∀ n ip, HasResolved (w.arpTable n) ip → HasResolved (w'.arpTable n) ip

theorem ArpTablesKept.refl (w : World) : ArpTablesKept w w :=
  ⟨fun _ => List.suffix_refl _, fun _ _ h => h⟩

theorem ArpTablesKept.trans {w w' w'' : World} (h : ArpTablesKept w w')
    (h' : ArpTablesKept w' w'') : ArpTablesKept w w'' :=
  ⟨fun n => (h.entries n).trans (h'.entries n), fun n ip hres => h'.resolved n ip (h.resolved n ip hres)⟩

/-- One node's table changed. -/
theorem ArpTablesKept.update {w w' : World} {m : NodeId} {table : List ArpEntry}
    (htable : w'.arpTable = Function.update w.arpTable m table)
    (hips : (w.arpTable m).map ArpEntry.ip <:+ table.map ArpEntry.ip)
    (hres : ∀ ip, HasResolved (w.arpTable m) ip → HasResolved table ip) : ArpTablesKept w w' := by
  refine ⟨fun n => ?_, fun n ip h => ?_⟩
  · rw [htable]
    by_cases hn : n = m
    · subst hn
      rw [Function.update_self]
      exact hips
    · rw [Function.update_of_ne hn]
  · rw [htable]
    by_cases hn : n = m
    · subst hn
      rw [Function.update_self]
      exact hres ip h
    · rw [Function.update_of_ne hn]
      exact h

/-- **One effect keeps what is in the tables.** -/
theorem ArpStep.kept {w w' : World} (h : ArpStep w w') : ArpTablesKept w w' := by
  cases h with
  | quiet htable _ _ =>
      refine ⟨fun n => ?_, fun n ip hres => ?_⟩
      · rw [htable]
      · rw [htable]
        exact hres
  | @parked n ip i s hhop hwait =>
      refine .update rfl ?_ fun a hres => hres.parkPacket
      rw [map_ip_parkPacket]
      split
      · exact List.suffix_cons _ _
      · exact List.suffix_refl _
  | resolved htable _ _ =>
      refine .update htable ?_ fun a hres => hres.learnMac
      rw [map_ip_learnMac]

theorem nextHop_congr {w w' : World} (h : w'.rtTable = w.rtTable) (n : NodeId) (s : SkBuff) :
    nextHop w' n s = nextHop w n s := by
  rw [nextHop, nextHop, h]

/-- What a longer run recorded. -/
theorem newEvents_longer {w₀ w w' : World} {es : List Event} (hstart : w₀.trace <+: w.trace)
    (h : w'.trace = w.trace ++ es) : newEvents w₀ w' = newEvents w₀ w ++ es := by
  rw [newEvents, newEvents, h, List.drop_append_of_le_length hstart.length_le]

theorem mem_newEvents_longer {w₀ w w' : World} {e : Event} (hstart : w₀.trace <+: w.trace)
    (htrace : w.trace <+: w'.trace) (he : e ∈ newEvents w₀ w) : e ∈ newEvents w₀ w' := by
  obtain ⟨es, hes⟩ := htrace
  rw [newEvents_longer hstart hes.symm]
  exact List.mem_append_left es he

/-- One node's table changed: an entry is an old one, or does itself what the invariant asks. -/
theorem ArpTables.update {w₀ w w' : World} {m : NodeId} {table : List ArpEntry}
    (hw : ArpTables w₀ w) (htrace : w.trace <+: w'.trace) (hroutes : w'.rtTable = w.rtTable)
    (htable : w'.arpTable = Function.update w.arpTable m table)
    (hunique : (table.map ArpEntry.ip).Nodup)
    (hentries : ∀ entry ∈ table, entry ∈ w.arpTable m ∨
      (entry.resolved = true → entry.pendingPkts = []) ∧
      (∀ s ∈ entry.pendingPkts, nextHop w m s = some entry.ip) ∧
      ∃ s, .parked m entry.ip s ∈ newEvents w₀ w' ∧ nextHop w m s = some entry.ip) :
    ArpTables w₀ w' := by
  have hcases : ∀ n, ∀ entry ∈ w'.arpTable n, entry ∈ w.arpTable n ∨
      (entry.resolved = true → entry.pendingPkts = []) ∧
      (∀ s ∈ entry.pendingPkts, nextHop w n s = some entry.ip) ∧
      ∃ s, .parked n entry.ip s ∈ newEvents w₀ w' ∧ nextHop w n s = some entry.ip := by
    intro n entry hmem
    rw [htable] at hmem
    by_cases hn : n = m
    · subst hn
      rw [Function.update_self] at hmem
      exact hentries entry hmem
    · rw [Function.update_of_ne hn] at hmem
      exact Or.inl hmem
  refine ⟨hw.start.trans htrace, fun n => ?_, fun n entry hmem => ?_, fun n entry hmem s hs => ?_,
    fun n entry hmem => ?_⟩
  · rw [htable]
    by_cases hn : n = m
    · subst hn
      rw [Function.update_self]
      exact hunique
    · rw [Function.update_of_ne hn]
      exact hw.unique n
  · rcases hcases n entry hmem with hmem | ⟨hres, -, -⟩
    · exact hw.resolved n entry hmem
    · exact hres
  · rw [nextHop_congr hroutes]
    rcases hcases n entry hmem with hmem | ⟨-, hpending, -⟩
    · exact hw.pending n entry hmem s hs
    · exact hpending s hs
  · simp only [nextHop_congr hroutes]
    rcases hcases n entry hmem with hmem | ⟨-, -, hrouted⟩
    · obtain ⟨s, hs, hhop⟩ := hw.routed n entry hmem
      exact ⟨s, mem_newEvents_longer hw.start htrace hs, hhop⟩
    · exact hrouted

/-- **One effect keeps the invariant.** -/
theorem ArpStep.tables {w₀ w w' : World} (h : ArpStep w w') (hw : ArpTables w₀ w) :
    ArpTables w₀ w' := by
  have htrace := h.trace
  cases h with
  | quiet htable hroutes _ =>
      refine hw.update (m := 0) htrace hroutes ?_ (hw.unique 0) fun entry hmem => Or.inl hmem
      rw [htable, Function.update_eq_self]
  | @parked m ip i s hhop hwait =>
      refine hw.update htrace rfl rfl (nodup_parkPacket (hw.unique m)) fun entry hmem => ?_
      refine (mem_parkPacket hwait hmem).imp_right fun ⟨hip, hno, hpending⟩ => ?_
      rw [hip]
      refine ⟨fun hres => ?_, fun q hq => ?_, s, ?_, hhop⟩
      · rw [hno] at hres
        cases hres
      · rcases hpending q hq with rfl | ⟨old, hmem, hold, hq⟩
        · exact hhop
        · rw [← hold]
          exact hw.pending m old hmem q hq
      · rw [newEvents_longer hw.start rfl]
        exact List.mem_append_right _ List.mem_cons_self
  | @resolved _ m ip mac htable hroutes _ =>
      refine hw.update htrace hroutes htable ?_ fun entry hmem => ?_
      · rw [map_ip_learnMac]
        exact hw.unique m
      · refine (mem_learnMac hmem).imp_right fun ⟨hnil, old, hmem, hip⟩ => ?_
        obtain ⟨s, hs, hhop⟩ := hw.routed m old hmem
        rw [hnil, ← hip]
        exact ⟨fun _ => rfl, List.forall_mem_nil _, s, mem_newEvents_longer hw.start htrace hs, hhop⟩

/-! ### Runs -/

/-- A call of the output path or of the ARP handler, with any packet. -/
inductive NeighbourCall
  | ipPostroute (n : NodeId) (skb : SkBuff)
  | arpInput (skb : SkBuff)

/-- The call itself. -/
def NeighbourCall.run : NeighbourCall → M Bool
  | .ipPostroute n skb => SimpleTcpip.ipPostroute ipInput n skb
  | .arpInput skb => SimpleTcpip.arpInput skb

/-- Any number of such calls; one that does not return ends the run. -/
abbrev NeighbourRun : World → World → Prop :=
  ReflTransGen fun w w' => ∃ (call : NeighbourCall) (r : Bool), call.run w = .ok r w'

theorem NeighbourCall.arp {call : NeighbourCall} {w w' : World} {r : Bool}
    (h : call.run w = .ok r w') : ArpSteps w w' := by
  cases call with
  | ipPostroute n skb => exact (ipPostroute_arp (ipInput_arp callDepth) n skb).ok h
  | arpInput skb => exact arpInput_arp h

theorem NeighbourRun.arp {w w' : World} (h : NeighbourRun w w') : ArpSteps w w' := by
  induction h with
  | refl => exact .refl
  | tail _ hcall ih =>
      obtain ⟨call, r, hrun⟩ := hcall
      exact ih.trans (NeighbourCall.arp hrun)

theorem ArpSteps.tables {w₀ w w' : World} (h : ArpSteps w w') (hw : ArpTables w₀ w) :
    ArpTables w₀ w' := by
  induction h with
  | refl => exact hw
  | tail _ hstep ih => exact hstep.tables ih

theorem ArpSteps.kept {w w' : World} (h : ArpSteps w w') : ArpTablesKept w w' := by
  induction h with
  | refl => exact .refl w
  | tail _ hstep ih => exact ih.trans hstep.kept

/-- Empty tables meet the invariant. -/
theorem arpTables_empty {w : World} (h : w.arpTable = fun _ => []) : ArpTables w w := by
  have hnone : ∀ n entry, entry ∈ w.arpTable n → False := by
    intro n entry hmem
    rw [h] at hmem
    cases hmem
  refine ⟨List.prefix_refl _, fun n => ?_, fun n entry hmem => (hnone n entry hmem).elim,
    fun n entry hmem => (hnone n entry hmem).elim, fun n entry hmem => (hnone n entry hmem).elim⟩
  rw [h]
  exact List.nodup_nil

/--
**The ARP tables in every run.**  From empty tables, an address has at most one entry, made
for a packet that was on its way there; packets wait in the entry of their next hop, and
nothing waits in a resolved one.  From there on no entry is removed, loses its address or
becomes unresolved.
-/
theorem arpTables_run {w₀ w w' : World} (hempty : w₀.arpTable = fun _ => [])
    (hrun : NeighbourRun w₀ w) (hlater : NeighbourRun w w') :
    ArpTables w₀ w ∧ ArpTablesKept w w' :=
  ⟨hrun.arp.tables (arpTables_empty hempty), hlater.arp.kept⟩

namespace Fixture

/-- The state after `create_test_topology`: no address has been resolved. -/
def unresolved : World := { after [] with arpTable := fun _ => [] }

/-- An empty datagram from `node0` to `192.168.89.2`, as `ip_output` passes it on. -/
def packet (id : SkbId) : SkBuff :=
  { freshSkb id 200 with data := 60, tail := 60 }.withIpHdr (addr 192 168 89 2) ipProtoUdp

/-- The ARP reply of `192.168.89.2`. -/
def reply : SkBuff :=
  { id := 9, intf := some 0, ipHdr := none, udpHdr := none, len := 28, data := 18, tail := 46,
    limit := recvBufferSize, mem := Memory.write (fun _ => 0) 18
      ([0, 1, 8, 0, 6, 4, 0, 2] ++ [2, 0, 0, 0, 0, 1] ++ [192, 168, 89, 2] ++
        [2, 0, 0, 0, 0, 2] ++ [192, 168, 89, 1]) }

end Fixture

/-- A packet that waits and the reply it waits for. -/
theorem arpTables_run_fixture :
    ∃ w w', NeighbourRun Fixture.unresolved w ∧ NeighbourRun w w' ∧ (w.arpTable 0).length = 1 ∧
      ArpTables Fixture.unresolved w ∧ ArpTablesKept w w' := by
  have hsend : result (NeighbourCall.ipPostroute 0 (Fixture.packet 1)).run Fixture.unresolved
      = some true := by decide +kernel
  have hreply : result (NeighbourCall.arpInput Fixture.reply).run
      (final (NeighbourCall.ipPostroute 0 (Fixture.packet 1)).run Fixture.unresolved)
      = some true := by decide +kernel
  have hlen : ((final (NeighbourCall.ipPostroute 0 (Fixture.packet 1)).run
      Fixture.unresolved).arpTable 0).length = 1 := by decide +kernel
  have hempty : Fixture.unresolved.arpTable = fun _ => [] := rfl
  generalize Fixture.unresolved = w at *
  have hrun : NeighbourRun w _ := .single ⟨_, _, run_of_result hsend⟩
  have hlater : NeighbourRun _ _ := .single ⟨_, _, run_of_result hreply⟩
  exact ⟨_, _, hrun, hlater, hlen, arpTables_run hempty hrun hlater⟩

/-! ### The order of the packets for one next hop -/

/-- The packets that wait for an address, from the head of the list on. -/
def waiting (table : List ArpEntry) (ip : UInt32) : List SkBuff :=
  (arpTableLookup table ip).elim [] ArpEntry.pendingPkts

/-- What is found for an address a packet was parked for. -/
theorem lookup_parkPacket {table : List ArpEntry} {ip : UInt32} {i : IntfId} {s : SkBuff} :
    arpTableLookup (parkPacket table ip i s) ip
      = some { (arpTableLookup table ip).getD (initArpEntry ip i) with
          pendingPkts := s :: waiting table ip } := by
  unfold parkPacket
  cases hlook : arpTableLookup table ip with
  | some entry =>
      have hfound : arpTableLookup
          (arpTableModify table ip fun entry => { entry with pendingPkts := s :: entry.pendingPkts }) ip
          = (arpTableLookup table ip).map fun entry =>
            { entry with pendingPkts := s :: entry.pendingPkts } :=
        List.find?_modifyFirst fun _ h => h
      rw [hfound, waiting, hlook]
      rfl
  | none =>
      rw [arpTableLookup, List.find?_cons_of_pos (by simp [initArpEntry]), waiting, hlook]
      rfl

theorem waiting_parkPacket {table : List ArpEntry} {ip : UInt32} {i : IntfId} {s : SkBuff} :
    waiting (parkPacket table ip i s) ip = s :: waiting table ip := by
  rw [waiting, lookup_parkPacket]
  rfl

theorem Unresolved.parkPacket {table : List ArpEntry} {ip : UInt32} {i : IntfId} {s : SkBuff}
    (h : Unresolved table ip) : Unresolved (parkPacket table ip i s) ip := by
  intro entry hlook
  rw [lookup_parkPacket] at hlook
  cases hlook
  cases hold : arpTableLookup table ip with
  | some entry => exact h entry hold
  | none => rfl

/-- The packet's next hop is `ip`, and `ip_postroute` neither refuses nor delivers it. -/
def Toward (w : World) (n : NodeId) (ip : UInt32) (skb : SkBuff) : Prop :=
  nextHop w n skb = some ip ∧ isIpLocal w n skb.dstIp = false ∧
    ∀ rt, rtLookupLpm (w.rtTable n) skb.dstIp = some rt → skb.intf = none ∨ skb.intf = some rt.intf

/-- `ip_postroute` sends such a packet to its neighbour. -/
theorem ipPostroute_toward {n : NodeId} {ip : UInt32} {skb : SkBuff} {w w' : World} {r : Bool}
    (h : Toward w n ip skb) (hrun : ipPostroute ipInput n skb w = .ok r w') :
    ∃ i s, s.id = skb.id ∧ ipNeighbourOutput n i ip s w = .ok r w' := by
  obtain ⟨hhop, hlocal, hintf⟩ := h
  obtain ⟨rt, hrt, hnext⟩ := Option.map_eq_some_iff.mp hhop
  obtain ⟨dst, w1, h1, hrest⟩ := bind_ok_iff.mp hrun
  obtain ⟨-, rfl, rfl⟩ := readU32_ok.mp h1
  obtain ⟨w2, w3, h2, hroute⟩ := bind_ok_iff.mp hrest
  cases h2
  have hrt' : rtLookupLpm (w1.rtTable n) (skb.mem.load32 (skb.data + 16)) = some rt := hrt
  have hgo : ¬ (skb.intf.isSome = true ∧ skb.intf ≠ some rt.intf) := by
    rcases hintf rt hrt with h | h <;> simp [h]
  rw [hrt'] at hroute
  simp only [if_neg hgo] at hroute
  obtain ⟨out, w4, h4, hfill⟩ := bind_ok_iff.mp hroute
  obtain ⟨-, rfl⟩ := derefIntf_ok.mp h4
  obtain ⟨s, w5, h5, hlook⟩ := bind_ok_iff.mp hfill
  obtain ⟨-, -, rfl, rfl⟩ := fillIpHcksum_ok.mp h5
  obtain ⟨w6, w7, h6, hout⟩ := bind_ok_iff.mp hlook
  cases h6
  have hlocal' : isIpLocal w5 n (skb.mem.load32 (skb.data + 16)) = false := hlocal
  have hnext' : (if rt.next = 0 then skb.mem.load32 (skb.data + 16) else rt.next) = ip := hnext
  rw [hlocal', if_neg Bool.false_ne_true, hnext'] at hout
  exact ⟨rt.intf, skb.routed rt.intf out.ipAddr, routed_id _ _ _, hout⟩

/-- A packet for an unresolved next hop waits. -/
theorem ipPostroute_waits {n : NodeId} {ip : UInt32} {skb : SkBuff} {w w' : World} {r : Bool}
    (h : Toward w n ip skb) (hwait : Unresolved (w.arpTable n) ip)
    (hrun : ipPostroute ipInput n skb w = .ok r w') :
    ∃ i s, s.id = skb.id ∧ Emits Event.IsArp (w.parked n ip i s) w' := by
  obtain ⟨i, s, hid, hout⟩ := ipPostroute_toward h hrun
  rw [ipNeighbourOutput_unresolved hwait] at hout
  refine ⟨i, s, hid, ?_⟩
  exact (bind_emits (sendArpBroadcastRequest_emits i ip) fun _ => pure_emits true).ok hout

/-- A packet for a resolved next hop goes to the link. -/
theorem ipPostroute_leaves {n : NodeId} {ip : UInt32} {skb : SkBuff} {w w' : World} {r : Bool}
    {entry : ArpEntry} (h : Toward w n ip skb)
    (hlook : arpTableLookup (w.arpTable n) ip = some entry) (hres : entry.resolved = true)
    (hrun : ipPostroute ipInput n skb w = .ok r w') :
    w'.arpTable = w.arpTable ∧ ∃ s es, s.id = skb.id ∧ w'.trace = w.trace ++ es ∧
      es.filterMap Event.toLink = [s] := by
  obtain ⟨i, s, hid, hout⟩ := ipPostroute_toward h hrun
  rw [ipNeighbourOutput_resolved hlook hres] at hout
  have hemits := (ethernetOutput_emits (P := fun _ => True) (fun _ _ => trivial) trivial).ok hout
  obtain ⟨es, hes, hbuf⟩ := ethernetOutput_trace i entry.mac s w
  rw [final_of_ok hout] at hes
  refine ⟨hemits.arpTable, s, _, hid, hes, ?_⟩
  rw [List.filterMap_cons, isBuffer_toLink hbuf]
  rfl

/-- A run of `ip_postroute` calls toward one next hop, with the packets they get. -/
inductive Posts (n : NodeId) (ip : UInt32) : List SkBuff → World → World → Prop
  | nil {w : World} : Posts n ip [] w w
  | cons {skb : SkBuff} {skbs : List SkBuff} {w w' w'' : World} {r : Bool}
      (htoward : Toward w n ip skb) (hrun : ipPostroute ipInput n skb w = .ok r w')
      (hrest : Posts n ip skbs w' w'') : Posts n ip (skb :: skbs) w w''

/-- **Packets that wait pile up in front of the ones before them.** -/
theorem Posts.waits {n : NodeId} {ip : UInt32} {skbs : List SkBuff} {w w' : World}
    (h : Posts n ip skbs w w') (hwait : Unresolved (w.arpTable n) ip) :
    Unresolved (w'.arpTable n) ip ∧
      (waiting (w'.arpTable n) ip).map SkBuff.id
        = (skbs.map SkBuff.id).reverse ++ (waiting (w.arpTable n) ip).map SkBuff.id ∧
      ∃ es, w'.trace = w.trace ++ es ∧ es.filterMap Event.toLink = [] := by
  induction h with
  | nil => exact ⟨hwait, rfl, [], (List.append_nil _).symm, rfl⟩
  | @cons skb skbs w w1 w' r htoward hrun _ ih =>
      obtain ⟨i, s, hid, hemits⟩ := ipPostroute_waits htoward hwait hrun
      have htable : w1.arpTable n = parkPacket (w.arpTable n) ip i s := by
        rw [hemits.arpTable]
        exact Function.update_self _ _ _
      obtain ⟨hwait', hwaiting, es', hes', hlink'⟩ := ih (htable ▸ hwait.parkPacket)
      obtain ⟨es, hes, harp⟩ := hemits.trace
      refine ⟨hwait', ?_, .parked n ip s :: es ++ es', ?_, ?_⟩
      · rw [hwaiting, htable, waiting_parkPacket, List.map_cons, List.map_cons, hid,
          List.reverse_cons, List.append_assoc, List.singleton_append]
      · rw [hes', hes, World.parked, List.append_assoc, List.append_assoc]
        rfl
      · rw [List.filterMap_append, List.filterMap_cons, isArp_toLink harp, hlink']
        rfl

/-- **Packets for a resolved next hop leave as they come.** -/
theorem Posts.leaves {n : NodeId} {ip : UInt32} {skbs : List SkBuff} {w w' : World}
    {entry : ArpEntry} (h : Posts n ip skbs w w')
    (hlook : arpTableLookup (w.arpTable n) ip = some entry) (hres : entry.resolved = true) :
    ∃ es, w'.trace = w.trace ++ es ∧
      (es.filterMap Event.toLink).map SkBuff.id = skbs.map SkBuff.id := by
  induction h with
  | nil => exact ⟨[], (List.append_nil _).symm, rfl⟩
  | @cons skb skbs w w1 w' r htoward hrun _ ih =>
      obtain ⟨htable, s, es, hid, hes, hlink⟩ := ipPostroute_leaves htoward hlook hres hrun
      obtain ⟨es', hes', hlink'⟩ := ih (by rw [htable]; exact hlook)
      refine ⟨es ++ es', by rw [hes', hes, List.append_assoc], ?_⟩
      rw [List.filterMap_append, hlink, List.map_append, hlink', List.map_cons, hid]
      rfl

/-- The ARP packet is the reply a node waits for: it came in on an interface of the node,
and the node has asked for the address it is about. -/
def Answers (w : World) (n : NodeId) (ip : UInt32) (reply : SkBuff) : Prop :=
  reply.IsArpReply ∧ reply.arpSender = ip ∧
    (∃ i intf, reply.intf = some i ∧ w.intf i = some intf ∧ intf.node = n) ∧
    (arpTableLookup (w.arpTable n) ip).isSome

/-- **The reply sends what waits, from the head of the list on.** -/
theorem arpInput_answers {n : NodeId} {ip : UInt32} {reply : SkBuff} {w w' : World} {r : Bool}
    (hreply : Answers w n ip reply) (hrun : arpInput reply w = .ok r w') :
    (∃ entry, arpTableLookup (w'.arpTable n) ip = some entry ∧ entry.resolved = true) ∧
      ∃ es, w'.trace = w.trace ++ es ∧ es.filterMap Event.toLink = waiting (w.arpTable n) ip := by
  obtain ⟨hop, rfl, ⟨i, intf, hi, hintf, rfl⟩, hasked⟩ := hreply
  cases arpInput_ok hrun with
  | ignored hno _ => exact absurd hop hno
  | answered _ _ hasks _ => exact absurd hop hasks.not_reply
  | @unknown j intf' _ hj hintf' hlook =>
      obtain ⟨rfl, rfl⟩ := intfPtr_unique hi hintf hj hintf'
      rw [hlook] at hasked
      cases hasked
  | @reply w₁ j intf' entry mac _ hj hintf' hlook _ hflush =>
      obtain ⟨rfl, rfl⟩ := intfPtr_unique hi hintf hj hintf'
      refine ⟨⟨{ entry with resolved := true, mac := mac, pendingPkts := [] }, ?_, rfl⟩, ?_⟩
      · change arpTableLookup (w₁.arpTable intf.node) reply.arpSender = _
        rw [hflush.arpTable, Function.update_self]
        have hfound : arpTableLookup (learnMac (w.arpTable intf.node) reply.arpSender mac)
            reply.arpSender = (arpTableLookup (w.arpTable intf.node) reply.arpSender).map _ :=
          List.find?_modifyFirst fun _ h => h
        rw [hfound, hlook]
        rfl
      · obtain ⟨es, hes, hlink, -⟩ := hflush.trace
        refine ⟨es ++ [.free reply.id], ?_, ?_⟩
        · rw [World.freed, hes, List.append_assoc]
        · rw [List.filterMap_append, hlink, waiting, hlook]
          exact List.append_nil _

/-- **The order in which the packets of one next hop leave.**  What was sent before the reply
leaves in reverse, what is sent after it in order. -/
theorem handed_order {n : NodeId} {ip : UInt32} {before later : List SkBuff}
    {w w₁ w₂ w₃ : World} {reply : SkBuff} {r : Bool} (hwait : Unresolved (w.arpTable n) ip)
    (hnone : waiting (w.arpTable n) ip = []) (hbefore : Posts n ip before w w₁)
    (hreply : Answers w₁ n ip reply) (hrun : arpInput reply w₁ = .ok r w₂)
    (hlater : Posts n ip later w₂ w₃) :
    (toLink w w₃).map SkBuff.id = (before.map SkBuff.id).reverse ++ later.map SkBuff.id := by
  obtain ⟨-, hwaiting, es₁, hes₁, hlink₁⟩ := hbefore.waits hwait
  obtain ⟨⟨entry, hlook, hres⟩, es₂, hes₂, hlink₂⟩ := arpInput_answers hreply hrun
  obtain ⟨es₃, hes₃, hlink₃⟩ := hlater.leaves hlook hres
  have htrace : w₃.trace = w.trace ++ (es₁ ++ es₂ ++ es₃) := by
    rw [hes₃, hes₂, hes₁, List.append_assoc, List.append_assoc, List.append_assoc]
  rw [toLink, newEvents_append htrace, List.filterMap_append, List.filterMap_append, hlink₁, hlink₂,
    List.nil_append, List.map_append, hlink₃, hwaiting, hnone, List.map_nil, List.append_nil]

/-- A list of distinct elements that is its own reverse is short. -/
theorem reverse_eq_self_iff {l : List SkbId} (h : l.Nodup) : l.reverse = l ↔ l.length ≤ 1 := by
  constructor
  · intro hrev
    by_contra hlen
    -- the first element is also the last one
    have hends : l[0] = l[l.length - 1] := by
      have hget := List.getElem_reverse (l := l) (i := 0) (by simp; omega)
      simp only [hrev] at hget
      exact hget
    have hsame := (List.Nodup.getElem_inj_iff h).mp hends
    omega
  · intro hlen
    match l with
    | [] => rfl
    | [a] => rfl
    | _ :: _ :: _ => simp at hlen

/--
**The packets of a next hop leave in the order they were sent if and only if at most one of
them had to wait.**
-/
theorem handed_in_order_iff {n : NodeId} {ip : UInt32} {before later : List SkBuff}
    {w w₁ w₂ w₃ : World} {reply : SkBuff} {r : Bool} (hwait : Unresolved (w.arpTable n) ip)
    (hnone : waiting (w.arpTable n) ip = []) (hbefore : Posts n ip before w w₁)
    (hreply : Answers w₁ n ip reply) (hrun : arpInput reply w₁ = .ok r w₂)
    (hlater : Posts n ip later w₂ w₃) (hdistinct : (before.map SkBuff.id).Nodup) :
    (toLink w w₃).map SkBuff.id = before.map SkBuff.id ++ later.map SkBuff.id ↔
      before.length ≤ 1 := by
  rw [handed_order hwait hnone hbefore hreply hrun hlater, List.append_left_inj,
    reverse_eq_self_iff hdistinct, List.length_map]

namespace Fixture

/-- One packet waits, then two. -/
def parkedOne : World := final (ipPostroute ipInput 0 (packet 1)) unresolved
def parkedTwo : World := final (ipPostroute ipInput 0 (packet 2)) parkedOne

/-- The reply came while one packet waited. -/
def resolved : World := final (arpInput reply) parkedOne

theorem toward_packet {w : World} {id : SkbId}
    (hhop : nextHop w 0 (packet id) = some (addr 192 168 89 2))
    (hlocal : isIpLocal w 0 (packet id).dstIp = false) :
    Toward w 0 (addr 192 168 89 2) (packet id) :=
  ⟨hhop, hlocal, fun _ _ => Or.inl rfl⟩

theorem answers_reply {w : World} (hnode : (w.intf 0).map Intf.node = some 0)
    (hasked : (arpTableLookup (w.arpTable 0) (addr 192 168 89 2)).isSome) :
    Answers w 0 (addr 192 168 89 2) reply := by
  obtain ⟨intf, hintf, hn⟩ := Option.map_eq_some_iff.mp hnode
  exact ⟨⟨by decide, by decide +kernel⟩, by decide +kernel, ⟨0, intf, rfl, hintf, hn⟩, hasked⟩

end Fixture

/-- One packet waits for the reply, and another one follows it. -/
theorem handed_in_order_fixture :
    ∃ w₁ w₂ w₃, Posts 0 (Fixture.addr 192 168 89 2) [Fixture.packet 1] Fixture.unresolved w₁ ∧
      arpInput Fixture.reply w₁ = .ok true w₂ ∧
      Posts 0 (Fixture.addr 192 168 89 2) [Fixture.packet 2] w₂ w₃ ∧
      (toLink Fixture.unresolved w₃).map SkBuff.id = [1] ++ [2] := by
  have hsend : result (ipPostroute ipInput 0 (Fixture.packet 1)) Fixture.unresolved = some true := by
    decide +kernel
  have hhop : nextHop Fixture.unresolved 0 (Fixture.packet 1) = some (Fixture.addr 192 168 89 2) := by
    decide +kernel
  have hlocal : isIpLocal Fixture.unresolved 0 (Fixture.packet 1).dstIp = false := by decide +kernel
  have hempty : Fixture.unresolved.arpTable = fun _ => [] := rfl
  obtain ⟨hreply, hnode, hasked⟩ : result (arpInput Fixture.reply) Fixture.parkedOne = some true ∧
      (Fixture.parkedOne.intf 0).map Intf.node = some 0 ∧
      (arpTableLookup (Fixture.parkedOne.arpTable 0) (Fixture.addr 192 168 89 2)).isSome := by
    decide +kernel
  obtain ⟨hsend', hhop', hlocal'⟩ :
      result (ipPostroute ipInput 0 (Fixture.packet 2)) Fixture.resolved = some true ∧
      nextHop Fixture.resolved 0 (Fixture.packet 2) = some (Fixture.addr 192 168 89 2) ∧
      isIpLocal Fixture.resolved 0 (Fixture.packet 2).dstIp = false := by decide +kernel
  have hw₁ : final (ipPostroute ipInput 0 (Fixture.packet 1)) Fixture.unresolved
      = Fixture.parkedOne := rfl
  have hw₂ : final (arpInput Fixture.reply) Fixture.parkedOne = Fixture.resolved := rfl
  generalize Fixture.unresolved = w at *
  generalize Fixture.parkedOne = w₁ at *
  generalize Fixture.resolved = w₂ at *
  have hposts : Posts 0 (Fixture.addr 192 168 89 2) [Fixture.packet 1] w w₁ :=
    .cons (Fixture.toward_packet hhop hlocal) (hw₁ ▸ run_of_result hsend) .nil
  have hposts' : Posts 0 (Fixture.addr 192 168 89 2) [Fixture.packet 2] w₂ _ :=
    .cons (Fixture.toward_packet hhop' hlocal') (run_of_result hsend') .nil
  have hrun : arpInput Fixture.reply w₁ = .ok true w₂ := hw₂ ▸ run_of_result hreply
  refine ⟨w₁, w₂, _, hposts, hrun, hposts', ?_⟩
  refine (handed_in_order_iff ?_ ?_ hposts (Fixture.answers_reply hnode hasked) hrun hposts' ?_).mpr ?_
  · intro entry hlook
    rw [hempty] at hlook
    cases hlook
  · rw [hempty]
    rfl
  · exact List.nodup_singleton _
  · exact Nat.le_refl 1

/-- **Two packets that had to wait leave in the wrong order.** -/
theorem handed_out_of_order :
    ∃ w₁ w₂, Posts 0 (Fixture.addr 192 168 89 2) [Fixture.packet 1, Fixture.packet 2]
        Fixture.unresolved w₁ ∧
      Answers w₁ 0 (Fixture.addr 192 168 89 2) Fixture.reply ∧
      arpInput Fixture.reply w₁ = .ok true w₂ ∧
      (toLink Fixture.unresolved w₂).map SkBuff.id = [2, 1] := by
  have hsend : result (ipPostroute ipInput 0 (Fixture.packet 1)) Fixture.unresolved = some true := by
    decide +kernel
  have hhop : nextHop Fixture.unresolved 0 (Fixture.packet 1) = some (Fixture.addr 192 168 89 2) := by
    decide +kernel
  have hlocal : isIpLocal Fixture.unresolved 0 (Fixture.packet 1).dstIp = false := by decide +kernel
  have hempty : Fixture.unresolved.arpTable = fun _ => [] := rfl
  obtain ⟨hsend', hhop', hlocal'⟩ :
      result (ipPostroute ipInput 0 (Fixture.packet 2)) Fixture.parkedOne = some true ∧
      nextHop Fixture.parkedOne 0 (Fixture.packet 2) = some (Fixture.addr 192 168 89 2) ∧
      isIpLocal Fixture.parkedOne 0 (Fixture.packet 2).dstIp = false := by decide +kernel
  obtain ⟨hreply, hnode, hasked⟩ : result (arpInput Fixture.reply) Fixture.parkedTwo = some true ∧
      (Fixture.parkedTwo.intf 0).map Intf.node = some 0 ∧
      (arpTableLookup (Fixture.parkedTwo.arpTable 0) (Fixture.addr 192 168 89 2)).isSome := by
    decide +kernel
  have hw₁ : final (ipPostroute ipInput 0 (Fixture.packet 1)) Fixture.unresolved
      = Fixture.parkedOne := rfl
  have hw₂ : final (ipPostroute ipInput 0 (Fixture.packet 2)) Fixture.parkedOne
      = Fixture.parkedTwo := rfl
  generalize Fixture.unresolved = w at *
  generalize Fixture.parkedOne = w₁ at *
  generalize Fixture.parkedTwo = w₂ at *
  have hposts : Posts 0 (Fixture.addr 192 168 89 2) [Fixture.packet 1, Fixture.packet 2] w w₂ :=
    .cons (Fixture.toward_packet hhop hlocal) (hw₁ ▸ run_of_result hsend)
      (.cons (Fixture.toward_packet hhop' hlocal') (hw₂ ▸ run_of_result hsend') .nil)
  have hanswers := Fixture.answers_reply hnode hasked
  refine ⟨w₂, _, hposts, hanswers, run_of_result hreply, ?_⟩
  refine (handed_order ?_ ?_ hposts hanswers (run_of_result hreply) .nil).trans rfl
  · intro entry hlook
    rw [hempty] at hlook
    cases hlook
  · rw [hempty]
    rfl

end SimpleTcpip
