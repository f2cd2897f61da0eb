/-
The graph in every state a run passes through.

No call frees a node, an interface or a link, so the pointers the tables hold stay valid: a
route names a live interface, and a packet that waits for an address has room for its frame
and an interface to leave on.
-/
import SimpleTcpip.Proofs.Addresses
import SimpleTcpip.Proofs.Calls
import SimpleTcpip.Proofs.Stops

namespace SimpleTcpip

open Fallible

/-! ### The pointers of the graph -/

/-- An interface that is given an address stays where it is, and the route to its network names
it. -/
theorem nodeSetIntfIpAddr_graphOk {w : World} (h : GraphOk w) {n : NodeId}
    {ifName ipAddr : List UInt8} {mask : Int8} :
    GraphOk (final (nodeSetIntfIpAddr n ifName ipAddr mask) w) := by
  rcases nodeSetIntfIpAddr_final w n ifName ipAddr mask with ⟨-, heq⟩ | ⟨i, intf, -, hintf, heq⟩
  · rwa [heq]
  rw [heq]
  refine ⟨fun j intf' hj => ?_, fun j intf' l hj hl => ?_, fun n' rt hrt => ?_⟩
  · rcases configured_intf hj with hold | ⟨-, rfl⟩
    · exact h.comms j intf' hold
    · exact h.comms i intf hintf
  · have hold : ∃ link, w.link l = some link ∧ (w.intf link.intf1).isSome ∧
        (w.intf link.intf2).isSome := by
      rcases configured_intf hj with hold | ⟨-, rfl⟩
      · exact h.links j intf' l hold hl
      · exact h.links i intf l hintf hl
    obtain ⟨link, hlink, h1, h2⟩ := hold
    exact ⟨link, hlink, configured_live w n i _ h1, configured_live w n i _ h2⟩
  · change rt ∈ Function.update w.rtTable n _ n' at hrt
    by_cases hn : n' = n
    · subst hn
      rw [Function.update_self] at hrt
      rcases List.mem_cons.mp hrt with rfl | hrt
      · exact configured_live w n' i _ (Option.isSome_iff_exists.mpr ⟨intf, hintf⟩)
      · exact configured_live w n' i _ (h.routes n' rt hrt)
    · rw [Function.update_of_ne hn] at hrt
      exact configured_live w n i _ (h.routes n' rt hrt)

/-- **Every call of a valid caller keeps the graph in order**, also when it stops. -/
theorem GraphOk.after {w : World} (h : GraphOk w) {op : Op} (hv : op.Valid w) :
    GraphOk (op.after w) := by
  rcases runOp_cases op w with hchanges | ⟨-, hquiet⟩
  · have hframe := hchanges.frame (Nat.le_of_eq (Op.base_scope w op))
    have hbegun : GraphOk (op.begun w) := by
      cases op <;> exact h.of_frame rfl rfl rfl
    refine hbegun.of_frame ?_ ?_ ?_ <;> rw [hframe]
  · by_cases hconfig : op.owns .config
    · cases op with
      | nodeSetIntfIpAddr n ifName ipAddr mask =>
          rw [Op.after, runOp, final_bind_pure]
          exact nodeSetIntfIpAddr_graphOk h
      | rtTableAddRoute n dst mask next i =>
          refine ⟨h.comms, h.links, fun n' rt hrt => ?_⟩
          change rt ∈ Function.update w.rtTable n _ n' at hrt
          by_cases hn : n' = n
          · subst hn
            rw [Function.update_self] at hrt
            rcases List.mem_cons.mp hrt with rfl | hrt
            · exact hv
            · exact h.routes n' rt hrt
          · rw [Function.update_of_ne hn] at hrt
            exact h.routes n' rt hrt
      | setIpForward val => exact h.of_frame rfl rfl rfl
      | _ => cases hconfig
    · have hsame := (hquiet.parts .config).resolve_left hconfig
      exact h.of_frame hsame.1 (by rw [hquiet.frame]) hsame.2.1

theorem Reachable.graphOk {w : World} (h : Reachable w) : GraphOk w := by
  induction h with
  | init h =>
      refine ⟨h.comms, h.links, fun n rt hrt => ?_⟩
      rw [h.rtTable] at hrt
      cases hrt
  | @step t t' op r _ hv hrun ih =>
      have hstep := ih.after hv
      rwa [show op.after t = t' from final_of_ok hrun] at hstep

/-! ### What waits can leave -/

/-- Every packet that waits for an address has room for its frame, and its interface is live. -/
def PendingReady (w : World) : Prop := ∀ n s, Pending w n s → Ready w s

theorem Ready.of_live {w w' : World} {s : SkBuff} (h : Ready w s)
    (hlive : ∀ i, (w.intf i).isSome → (w'.intf i).isSome) : Ready w' s := by
  obtain ⟨i, hi, hi'⟩ := h.intf
  exact ⟨h.headroom, h.tailroom, i, hi, hlive i hi'⟩

/-- What `ip_forward` passes on has room: the receive buffer is larger than any frame. -/
theorem ready_forwarded {w : World} (id : SkbId) (i : IntfId) (frame : List UInt8) {j : IntfId}
    {out : Intf} (hout : w.intf j = some out) :
    Ready w ((recvBuffer id i frame).ipPacket.forwarded.routed j out.ipAddr) := by
  refine ⟨?_, ?_, j, rfl, Option.isSome_iff_exists.mpr ⟨out, hout⟩⟩
  · show 14 ≤ recvReservedHeadRoom + ethHdrSize
    decide
  · have hroom : ∀ n, n ≤ 2044 → 4 + n + (60 - (sizeSub n 14 + 14)) ≤ 2048 := by
      intro n hn
      unfold sizeSub
      split <;> omega
    exact hroom _ (List.length_take_le _ _)

/-- What waits after an entry lost packets waited before. -/
theorem pending_modifyArp {w : World} {n m : NodeId} {ip : UInt32} {f : ArpEntry → ArpEntry}
    (hf : ∀ entry, arpTableLookup (w.arpTable n) ip = some entry →
      ∀ s ∈ (f entry).pendingPkts, s ∈ entry.pendingPkts) {s : SkBuff}
    (hs : Pending (w.modifyArp n ip f) m s) : Pending w m s := by
  have hsends : Sends (fun _ => False) (fun _ => False) w (w.modifyArp n ip f) :=
    modifyArp_sends fun entry hlook s hs => Or.inl (hf entry hlook s hs)
  exact (hsends.pending m s hs).resolve_right id

theorem Change.pendingReady {sc : Scope} {w w' : World} (h : Change sc w w')
    (hrx : ∀ r, sc.rx r → ∃ id i frame, r = recvBuffer id i frame) (hw : PendingReady w) :
    PendingReady w' := by
  have hintf : w'.intf = w.intf := by
    rw [h.frame]
  have hlive : ∀ i, (w.intf i).isSome → (w'.intf i).isSome := by
    rw [hintf]
    exact fun _ => id
  have hsame : w'.arpTable = w.arpTable → PendingReady w' := by
    intro htable n s hs
    unfold Pending at hs
    rw [htable] at hs
    exact (hw n s hs).of_live hlive
  cases h with
  | sends hsends =>
      intro n s hs
      rcases hsends.pending n s hs with hs | hs
      · exact (hw n s hs).of_live hlive
      · exact hs.toReady.of_live hlive
  | forwards hr _ _ _ _ _ hout hsends =>
      obtain ⟨id, i, frame, rfl⟩ := hrx _ hr
      intro n s hs
      rcases hsends.pending n s hs with hs | rfl
      · exact (hw n s hs).of_live hlive
      · exact (ready_forwarded id i frame hout).of_live hlive
  | resolved =>
      intro n s hs
      refine (hw n s (pending_modifyArp ?_ hs)).of_live hlive
      exact fun _ _ _ hmem => hmem
  | flushed hfind hpending hsends =>
      intro n s hs
      rcases hsends.pending n s hs with hs | rfl
      · refine (hw n s (pending_modifyArp (fun entry hlook s hs => ?_) hs)).of_live hlive
        obtain rfl := Option.some.inj (hlook.symm.trans hfind)
        rw [hpending]
        exact List.mem_cons_of_mem _ hs
      · refine (hw _ s ⟨_, List.mem_of_find?_eq_some hfind, ?_⟩).of_live hlive
        rw [hpending]
        exact List.mem_cons_self
  | _ => exact hsame rfl

/-! ### What a call configures -/

/-- What a call does to the interfaces and the routes. -/
inductive ConfigStep (w : World) (op : Op) (w' : World) : Prop
  | same (hnone : ∀ n ifName ipAddr mask, op = .nodeSetIntfIpAddr n ifName ipAddr mask →
        addressed w n ifName ipAddr = none)
      (hintf : w'.intf = w.intf) (hrtTable : w'.rtTable = w.rtTable)
  | routed {n : NodeId} {entry : RtEntry}
      (hop : op = .rtTableAddRoute n entry.dst entry.mask entry.next entry.intf)
      (hintf : w'.intf = w.intf)
      (hrtTable : w'.rtTable = Function.update w.rtTable n (entry :: w.rtTable n))
  | configured {n : NodeId} {ifName ipAddr : List UInt8} {mask : Int8} {i : IntfId} {intf : Intf}
      (hop : op = .nodeSetIntfIpAddr n ifName ipAddr mask)
      (haddr : addressed w n ifName ipAddr = some i) (hintf : w.intf i = some intf)
      (hw : w' = w.configured n i (intf.configured (convertIpFromStrToInt ipAddr) mask))

theorem configStep (op : Op) (w : World) : ConfigStep w op (op.after w) := by
  by_cases hconfig : op.owns .config
  · cases op with
    | nodeSetIntfIpAddr n ifName ipAddr mask =>
        rw [Op.after, runOp, final_bind_pure]
        rcases nodeSetIntfIpAddr_final w n ifName ipAddr mask with
          ⟨hnone, heq⟩ | ⟨i, intf, haddr, hi, heq⟩
        · rw [heq]
          refine .same ?_ rfl rfl
          intro n ifName ipAddr mask hop
          cases hop
          exact hnone
        · exact .configured rfl haddr hi heq
    | rtTableAddRoute n dst mask next j =>
        exact .routed (n := n) rfl rfl rfl
    | setIpForward val => exact .same (fun _ _ _ _ hop => by cases hop) rfl rfl
    | _ => cases hconfig
  · have hnone : ∀ n ifName ipAddr mask, op = .nodeSetIntfIpAddr n ifName ipAddr mask →
        addressed w n ifName ipAddr = none := by
      rintro n ifName ipAddr mask rfl
      exact absurd rfl hconfig
    rcases runOp_cases op w with hchanges | ⟨-, hquiet⟩
    · have hframe := hchanges.frame (Nat.le_of_eq (Op.base_scope w op))
      have hintf : (op.begun w).intf = w.intf := by cases op <;> rfl
      have hrtTable : (op.begun w).rtTable = w.rtTable := by cases op <;> rfl
      refine .same hnone ?_ ?_
      · rw [hframe]
        exact hintf
      · rw [hframe]
        exact hrtTable
    · have hsame := (hquiet.parts .config).resolve_left hconfig
      exact .same hnone hsame.1 hsame.2.1

/-- No call writes the slots of a node. -/
theorem node_after (op : Op) (w : World) : (op.after w).node = w.node := by
  rcases runOp_cases op w with hchanges | ⟨-, hquiet⟩
  · have hframe := hchanges.frame (Nat.le_of_eq (Op.base_scope w op))
    have hnode : (op.begun w).node = w.node := by cases op <;> rfl
    rw [hframe]
    exact hnode
  · rw [hquiet.frame]

/-- Of the interfaces, a call writes at most one: it gives it an address. -/
theorem intf_after (op : Op) (w : World) : (op.after w).intf = w.intf ∨
    ∃ n i intf ip mask, ip ≠ 0 ∧ w.intf i = some intf ∧
      op.after w = w.configured n i (intf.configured ip mask) := by
  cases configStep op w with
  | same _ hintf => exact Or.inl hintf
  | routed _ hintf => exact Or.inl hintf
  | configured _ haddr hintf hw =>
      exact Or.inr ⟨_, _, _, _, _, (addressed_some haddr).1, hintf, hw⟩

/-- No call frees an interface. -/
theorem live_after (op : Op) (w : World) {i : IntfId} (hi : (w.intf i).isSome) :
    ((op.after w).intf i).isSome := by
  rcases intf_after op w with heq | ⟨n, j, intf, ip, mask, -, -, heq⟩
  · rwa [heq]
  · rw [heq]
    exact configured_live w n j _ hi

/-- No call makes an interface. -/
theorem dead_after (op : Op) (w : World) {i : IntfId} (hi : w.intf i = none) :
    (op.after w).intf i = none := by
  rcases intf_after op w with heq | ⟨n, j, intf, ip, mask, -, hj, heq⟩
  · rwa [heq]
  · have hij : i ≠ j := by
      rintro rfl
      rw [hi] at hj
      cases hj
    rw [heq]
    exact (Function.update_of_ne hij _ _).trans hi

/-- **In every run, whatever waits can leave.** -/
theorem Reachable.pendingReady {w : World} (h : Reachable w) : PendingReady w := by
  refine h.invariant (fun w hw n s hs => ?_) fun op w hw => ?_
  · obtain ⟨entry, hmem, -⟩ := hs
    rw [hw.arpTable] at hmem
    cases hmem
  · refine invariant_after ?_ (fun t t' ht hc => hc.pendingReady ?_ ht) fun hquiet => ?_
    · cases op <;> exact fun n s hs => (hw n s hs).of_live fun _ => id
    · intro r hr
      cases op with
      | recvFrame i frame => exact ⟨_, _, _, hr⟩
      | _ => exact absurd hr id
    · intro n s hs
      unfold Pending at hs
      rw [hquiet.arpTable] at hs
      exact (hw n s hs).of_live fun i hi => live_after op w hi

end SimpleTcpip
