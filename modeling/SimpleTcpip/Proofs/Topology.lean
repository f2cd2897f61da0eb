/-
The graph that graph.c builds.

An interface is referred to from its node's slots, from its link and from the descriptor map,
and refers back to its node and its link.  What `init_interface` does to them is said once, as
a relation: an interface is attached.
-/
import SimpleTcpip.Model.Graph
import SimpleTcpip.Proofs.Primitives

namespace SimpleTcpip

open Fallible

variable {h h' h₁ h₂ : Host} {n n₁ n₂ : NodeId} {i j : IntfId} {l : LinkId} {x : Intf}
  {s : Fin maxIntfsPerNode}

/-! ### Primitive steps -/

theorem onWorld_run {α : Type} {m : M α} {a : α} {w : World} (hm : m h.toWorld = .ok a w) :
    onWorld m h = .ok a { h with toWorld := w } := by
  rw [onWorld, hm]

theorem derefIntf_run (hi : h.intf i = some x) : onWorld (derefIntf i) h = .ok x h :=
  onWorld_run (derefIntf_ok.mpr ⟨hi, rfl⟩)

theorem derefIntf_dead (hi : h.intf i = none) :
    onWorld (derefIntf i) h = .error .useAfterFree h := by
  have hrun : derefIntf i h.toWorld = .error .useAfterFree h.toWorld := by
    rw [derefIntf, run_bind_ok (run_get _), hi]
    rfl
  rw [onWorld, hrun]

theorem derefNode_run {node : Node} (hn : h.node n = some node) :
    derefNode n h = .ok node h := by
  rw [derefNode, run_bind_ok (run_get h), hn]
  rfl

theorem derefNode_dead (hn : h.node n = none) : derefNode n h = .error .useAfterFree h := by
  rw [derefNode, run_bind_ok (run_get h), hn]
  rfl

theorem derefLink_run {link : Link} (hl : h.link l = some link) :
    derefLink l h = .ok link h := by
  rw [derefLink, run_bind_ok (run_get h), hl]
  rfl

theorem derefLink_dead (hl : h.link l = none) : derefLink l h = .error .useAfterFree h := by
  rw [derefLink, run_bind_ok (run_get h), hl]
  rfl

theorem setNode_run (n : NodeId) (node : Node) (h : Host) :
    setNode n node h = .ok ⟨⟩ { h with node := Function.update h.node n (some node) } := rfl

theorem setIntf_run (i : IntfId) (x : Intf) (h : Host) :
    setIntf i x h = .ok ⟨⟩ { h with intf := Function.update h.intf i (some x) } := rfl

theorem setComm_run (c : Comm) (hi : h.intf i = some x) : setComm i c h
    = .ok ⟨⟩ { h with intf := Function.update h.intf i (some { x with comm := c }) } := by
  rw [setComm, run_bind_ok (derefIntf_run hi)]
  rfl

/-- The process after `set_fd_comm`. -/
def Host.mapped (h : Host) (fd : Int) (comm : Option IntfId) : Host :=
  { h with fdToCommMap :=
      if fd < 0 ∨ fd ≥ maxComms then h.fdToCommMap
      else Function.update h.fdToCommMap fd.toNat comm }

theorem setFdComm_run (fd : Int) (comm : Option IntfId) (h : Host) :
    ∃ b, setFdComm fd comm h = .ok b (h.mapped fd comm) := by
  unfold setFdComm Host.mapped
  by_cases hfd : fd < 0 ∨ fd ≥ maxComms
  · rw [if_pos hfd, if_pos hfd]
    exact ⟨false, rfl⟩
  · rw [if_neg hfd, if_neg hfd]
    exact ⟨true, rfl⟩

theorem mapped_fdToCommMap (h : Host) {fd : Int} {comm : Option IntfId} {f : Nat}
    (hf : f < maxComms) :
    (h.mapped fd comm).fdToCommMap f = if (f : Int) = fd then comm else h.fdToCommMap f := by
  unfold Host.mapped
  dsimp only
  split
  · rw [if_neg (by omega)]
  · by_cases heq : (f : Int) = fd
    · have hnat : fd.toNat = f := by omega
      rw [if_pos heq, hnat, Function.update_self]
    · rw [if_neg heq, Function.update_of_ne (by omega)]

theorem mapped_fdToCommMap_outside (h : Host) {fd : Int} {comm : Option IntfId} {f : Nat}
    (hf : maxComms ≤ f) : (h.mapped fd comm).fdToCommMap f = h.fdToCommMap f := by
  unfold Host.mapped
  dsimp only
  split
  · rfl
  · rw [Function.update_of_ne (by omega)]

theorem mapped_some {fd : Int} {f : Nat}
    (hf : (h.mapped fd (some i)).fdToCommMap f = some j) :
    h.fdToCommMap f = some j ∨ j = i ∧ fd = f ∧ f < maxComms := by
  by_cases hlt : f < maxComms
  · rw [mapped_fdToCommMap h hlt] at hf
    split at hf
    · rename_i heq
      exact Or.inr ⟨(Option.some.inj hf).symm, heq.symm, hlt⟩
    · exact Or.inl hf
  · rw [mapped_fdToCommMap_outside h (Nat.le_of_not_lt hlt)] at hf
    exact Or.inl hf

/-! ### Attaching an interface -/

/-- An interface with its backend. -/
def Intf.withComm (x : Intf) (c : Comm) : Intf := { x with comm := c }

/-- `init_comm` opened a backend for interface `i`. -/
structure Opened (i : IntfId) (x : Intf) (c : Comm) (h h' : Host) : Prop where
  frame : h' = { h with
    intf := Function.update h.intf i (some (x.withComm c))
    fdToCommMap := h'.fdToCommMap, nextUdpPort := h'.nextUdpPort, numOpens := h'.numOpens }
  map : ∀ f j, h'.fdToCommMap f = some j →
    h.fdToCommMap f = some j ∨ j = i ∧ c.fd = f ∧ f < maxComms
  /-- Descriptor 0 only comes from the operating system. -/
  fd : (∀ k, h.sysOpen k ≠ 0) → c.fd ≠ 0

theorem udpInitComm_run (hi : h.intf i = some x) :
    ∃ b c h', udpInitComm i h = .ok b h' ∧ c.commType = .udp ∧ Opened i x c h h' := by
  let h1 : Host := { h with numOpens := h.numOpens + 1 }
  let port := h1.nextUdpPort + UInt16.ofNat (h1.sysBind h1.numOpens)
  let h2 : Host := { h1 with nextUdpPort := port + 1 }
  let c : Comm := { commType := .udp, fd := h.sysOpen h.numOpens, port }
  let h3 : Host := { h2 with intf := Function.update h2.intf i (some (x.withComm c)) }
  obtain ⟨b, hmap⟩ := setFdComm_run c.fd (some i) h3
  refine ⟨b, c, h3.mapped c.fd (some i), ?_, rfl, ?_⟩
  · have hopen : sysOpenCall h = .ok c.fd h1 := rfl
    have hbind : bindUdpPort h1 = .ok port h2 := rfl
    have hcomm : setComm i c h2 = .ok ⟨⟩ h3 := setComm_run c hi
    rw [udpInitComm, run_bind_ok hopen, run_bind_ok hbind, run_bind_ok hcomm, hmap]
  · exact ⟨rfl, fun f j hf => mapped_some (h := h3) hf, fun hos => hos _⟩

theorem tunAlloc_run (h : Host) : ∃ fd, tunAlloc h = .ok fd { h with numOpens := h.numOpens + 1 } ∧
    ((∀ k, h.sysOpen k ≠ 0) → fd ≠ 0) := by
  have hopen : sysOpenCall h = .ok (h.sysOpen h.numOpens) { h with numOpens := h.numOpens + 1 } := rfl
  unfold tunAlloc
  rw [run_bind_ok hopen]
  split
  · exact ⟨-1, rfl, fun _ => by decide⟩
  · rw [run_bind_ok (run_get _)]
    dsimp only
    split
    · rename_i herr
      exact ⟨_, rfl, fun _ => by omega⟩
    · exact ⟨_, rfl, fun hos => hos _⟩

theorem tuntapInitComm_run (hi : h.intf i = some x) :
    ∃ b c h', tuntapInitComm i h = .ok b h' ∧ c.commType = .tuntap ∧ Opened i x c h h' := by
  obtain ⟨fd, halloc, hfd⟩ := tunAlloc_run h
  let h1 : Host := { h with numOpens := h.numOpens + 1 }
  let c : Comm := { commType := .tuntap, fd, port := 0 }
  let h2 : Host := { h1 with intf := Function.update h1.intf i (some (x.withComm c)) }
  have hcomm : setComm i c h1 = .ok ⟨⟩ h2 := setComm_run c hi
  rw [tuntapInitComm, run_bind_ok halloc, run_bind_ok hcomm]
  by_cases hneg : fd < 0
  · rw [if_pos hneg]
    exact ⟨false, c, h2, rfl, rfl, rfl, fun f j hf => Or.inl hf, hfd⟩
  · rw [if_neg hneg]
    obtain ⟨b, hmap⟩ := setFdComm_run fd (some i) h2
    exact ⟨b, c, h2.mapped fd (some i), hmap, rfl, rfl,
      fun f j hf => mapped_some (h := h2) hf, hfd⟩

theorem initComm_run {ct : CommType} (hct : ct ≠ .none) (hi : h.intf i = some x) :
    ∃ b c h', initComm i ct h = .ok b h' ∧ c.commType = ct ∧ Opened i x c h h' := by
  cases ct with
  | none => exact absurd rfl hct
  | udp => exact udpInitComm_run hi
  | tuntap => exact tuntapInitComm_run hi

/-- `init_interface` gave interface `i` a slot of its node. -/
structure Attached (i : IntfId) (x : Intf) (h h' : Host) : Prop where
  slot : ∃ node s, h.node x.node = some node ∧ node.intfs s = none ∧
    h'.node = Function.update h.node x.node
      (some { node with intfs := Function.update node.intfs s (some i) })
  frame : h' = { h with
    node := h'.node
    intf := Function.update h.intf i (some x)
    udpSocks := Function.update h.udpSocks i []
    tcpSocks := Function.update h.tcpSocks i []
    fdToCommMap := h'.fdToCommMap, nextUdpPort := h'.nextUdpPort, numOpens := h'.numOpens }
  map : ∀ f j, h'.fdToCommMap f = some j →
    h.fdToCommMap f = some j ∨ j = i ∧ x.comm.fd = f ∧ f < maxComms
  fd : (∀ k, h.sysOpen k ≠ 0) → x.comm.fd ≠ 0

theorem initInterface_run {node : Node} {ct : CommType} (name : List UInt8) (link : Option LinkId)
    (hct : ct ≠ .none) (hn : h.node n = some node) (hs : node.intfAvailableSlot = some s) :
    ∃ c h', initInterface i name n link ct h = .ok ⟨⟩ h' ∧ c.commType = ct ∧
      Attached i ((Intf.blank node.name (strncpy name maxIfNameSize) n link).withComm c) h h' := by
  let h1 : Host := { h with
    node := Function.update h.node n
      (some { node with intfs := Function.update node.intfs s (some i) }) }
  let h2 : Host := { h1 with
    udpSocks := Function.update h1.udpSocks i []
    tcpSocks := Function.update h1.tcpSocks i [] }
  let x : Intf := .blank node.name (strncpy name maxIfNameSize) n link
  let h3 : Host := { h2 with intf := Function.update h2.intf i (some x) }
  obtain ⟨b, c, h4, hrun, hc, hopened⟩ :=
    initComm_run (h := h3) hct (Function.update_self i (some x) h2.intf)
  refine ⟨c, h4, ?_, hc, ⟨node, s, hn, ?_, ?_⟩, ?_, ?_, ?_⟩
  · rw [initInterface, run_bind_ok (derefNode_run hn), hs]
    dsimp only
    rw [run_bind_ok (setNode_run _ _ h), run_bind_ok (run_modify _ h1),
      run_bind_ok (setIntf_run _ _ h2), run_bind_ok hrun]
    rfl
  · have hfree : (node.intfs s).isNone = true :=
      List.find?_some (p := fun s => (node.intfs s).isNone) hs
    exact Option.isNone_iff_eq_none.mp hfree
  · rw [hopened.frame]
    rfl
  · rw [hopened.frame]
    simp only [h3, Function.update_idem]
    rfl
  · exact hopened.map
  · exact hopened.fd

/-- `init_interface` stops when the node is gone or has no free slot. -/
theorem initInterface_ok {name : List UInt8} {link : Option LinkId} {ct : CommType} {u : Unit}
    (hct : ct ≠ .none) (hrun : initInterface i name n link ct h = .ok u h') :
    ∃ node c, h.node n = some node ∧ c.commType = ct ∧
      Attached i ((Intf.blank node.name (strncpy name maxIfNameSize) n link).withComm c) h h' := by
  cases hn : h.node n with
  | none =>
      rw [initInterface, run_bind_error (derefNode_dead hn)] at hrun
      cases hrun
  | some node =>
      cases hs : node.intfAvailableSlot with
      | none =>
          rw [initInterface, run_bind_ok (derefNode_run hn), hs] at hrun
          cases hrun
      | some s =>
          obtain ⟨c, h1, hrun1, hc, hx⟩ := initInterface_run (i := i) name link hct hn hs
          rw [hrun1] at hrun
          cases hrun
          exact ⟨node, c, rfl, hc, hx⟩

/-- The process once `insert_link_between_two_nodes` has its link. -/
def Host.linkBegun (h : Host) : Host := { h with
  nextId := h.nextId + 3
  link := Function.update h.link h.nextId
    (some { intf1 := h.nextId + 1, intf2 := h.nextId + 2 }) }

theorem insertLinkBetweenTwoNodes_eq (node1 node2 : NodeId) (fromIfname toIfname : List UInt8)
    (h : Host) : insertLinkBetweenTwoNodes node1 node2 fromIfname toIfname h = (do
      initInterface (h.nextId + 1) fromIfname node1 (some h.nextId) .udp
      initInterface (h.nextId + 2) toIfname node2 (some h.nextId) .udp) h.linkBegun := rfl

end SimpleTcpip
