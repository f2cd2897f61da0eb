/-
The two scans for a node's own addresses.

`is_ip_local` compares an address with every interface, `_get_matching_interface` only with
the interfaces that have one.  What an interface without an address holds in its place
decides whether the two agree: it is 0 from the interface's first moment, and no call ever
puts a 0 where an address is.
-/
import SimpleTcpip.Model.Program
import SimpleTcpip.Proofs.Graph
import SimpleTcpip.Proofs.Topology

namespace SimpleTcpip

open Fallible

/-! ### Where the addresses come from -/

/-- Every interface has the address it had, or is new and has none. -/
def AddressesKept (h h' : Host) : Prop :=
  ∀ i x', h'.intf i = some x' →
    (∃ x, h.intf i = some x ∧ x'.isIpAddrConfig = x.isIpAddrConfig ∧ x'.ipAddr = x.ipAddr) ∨
      x'.isIpAddrConfig = false ∧ x'.ipAddr = 0

namespace AddressesKept

theorem of_intf {h h' : Host} (hintf : h'.intf = h.intf) : AddressesKept h h' := by
  intro i x' hx'
  rw [hintf] at hx'
  exact Or.inl ⟨x', hx', rfl, rfl⟩

theorem refl (h : Host) : AddressesKept h h := of_intf rfl

theorem trans (h h' h'' : Host) (hfirst : AddressesKept h h') (hsecond : AddressesKept h' h'') :
    AddressesKept h h'' := by
  intro i x'' hx''
  rcases hsecond i x'' hx'' with ⟨x', hx', hconf, hip⟩ | hnew
  · rcases hfirst i x' hx' with ⟨x, hx, hconf', hip'⟩ | ⟨hconf', hip'⟩
    · exact Or.inl ⟨x, hx, hconf.trans hconf', hip.trans hip'⟩
    · exact Or.inr ⟨hconf.trans hconf', hip.trans hip'⟩
  · exact Or.inr hnew

/-- Interfaces were freed. -/
theorem of_freed {h h' : Host} (hfreed : ∀ i x, h'.intf i = some x → h.intf i = some x) :
    AddressesKept h h' :=
  fun i x' hx' => Or.inl ⟨x', hfreed i x' hx', rfl, rfl⟩

/-- One interface was written. -/
theorem of_update {h h' : Host} {i : IntfId} {x' : Intf}
    (hintf : h'.intf = Function.update h.intf i (some x'))
    (hx' : (∃ x, h.intf i = some x ∧ x'.isIpAddrConfig = x.isIpAddrConfig ∧
      x'.ipAddr = x.ipAddr) ∨ x'.isIpAddrConfig = false ∧ x'.ipAddr = 0) : AddressesKept h h' := by
  intro j y hy
  rw [hintf] at hy
  by_cases hj : j = i
  · subst hj
    rw [Function.update_self] at hy
    cases hy
    exact hx'
  · rw [Function.update_of_ne hj] at hy
    exact Or.inl ⟨y, hy, rfl, rfl⟩

end AddressesKept

/-! ### The functions of the graph -/

section Keeps

theorem keepsAddresses_bind {α β : Type} {m : G α} {f : α → G β} (hm : Keeps AddressesKept m)
    (hf : ∀ a, Keeps AddressesKept (f a)) : Keeps AddressesKept (m >>= f) :=
  keeps_bind AddressesKept.trans hm hf

theorem keepsAddresses_pure {α : Type} (a : α) : Keeps AddressesKept (pure a : G α) :=
  keeps_pure AddressesKept.refl a

theorem keepsAddresses_throw {α : Type} (e : Fault) : Keeps AddressesKept (throw e : G α) :=
  keeps_throw AddressesKept.refl e

theorem keepsAddresses_derefNode (n : NodeId) : Keeps AddressesKept (derefNode n) := by
  intro h
  cases hn : h.node n with
  | none => rw [final_of_error (derefNode_dead hn)]; exact .refl h
  | some node => rw [final_of_ok (derefNode_run hn)]; exact .refl h

theorem keepsAddresses_derefLink (l : LinkId) : Keeps AddressesKept (derefLink l) := by
  intro h
  cases hl : h.link l with
  | none => rw [final_of_error (derefLink_dead hl)]; exact .refl h
  | some link => rw [final_of_ok (derefLink_run hl)]; exact .refl h

theorem keepsAddresses_derefIntf (i : IntfId) : Keeps AddressesKept (onWorld (derefIntf i)) := by
  intro h
  cases hi : h.intf i with
  | none => rw [final_of_error (derefIntf_dead hi)]; exact .refl h
  | some x => rw [final_of_ok (derefIntf_run hi)]; exact .refl h

theorem keepsAddresses_allocId : Keeps AddressesKept (onWorld allocId) :=
  fun _ => AddressesKept.of_intf rfl

theorem keepsAddresses_modify {f : Host → Host} (hf : ∀ h, (f h).intf = h.intf) :
    Keeps AddressesKept (modify f : G PUnit) :=
  keeps_modify fun h => .of_intf (hf h)

theorem keepsAddresses_setNode (n : NodeId) (node : Node) : Keeps AddressesKept (setNode n node) :=
  keepsAddresses_modify fun _ => rfl

theorem keepsAddresses_setComm (i : IntfId) (c : Comm) : Keeps AddressesKept (setComm i c) := by
  intro h
  cases hi : h.intf i with
  | none =>
      rw [setComm, final_bind_of_error (derefIntf_dead hi)]
      exact .refl h
  | some x =>
      rw [final_of_ok (setComm_run c hi)]
      exact .of_update rfl (Or.inl ⟨x, hi, rfl, rfl⟩)

theorem keepsAddresses_setFdComm (fd : Int) (comm : Option IntfId) :
    Keeps AddressesKept (setFdComm fd comm) := by
  intro h
  obtain ⟨b, hrun⟩ := setFdComm_run fd comm h
  rw [final_of_ok hrun]
  exact .of_intf rfl

theorem keepsAddresses_initComm (i : IntfId) (ct : CommType) :
    Keeps AddressesKept (initComm i ct) := by
  cases ct with
  | none => exact keepsAddresses_throw _
  | udp =>
      refine keepsAddresses_bind (fun _ => .of_intf rfl) fun fd => ?_
      refine keepsAddresses_bind (fun _ => .of_intf rfl) fun port => ?_
      exact keepsAddresses_bind (keepsAddresses_setComm i _) fun _ => keepsAddresses_setFdComm fd _
  | tuntap =>
      refine keepsAddresses_bind (fun h => ?_) fun fd => ?_
      · obtain ⟨fd, hrun, -⟩ := tunAlloc_run h
        rw [final_of_ok hrun]
        exact .of_intf rfl
      · refine keepsAddresses_bind (keepsAddresses_setComm i _) fun _ => ?_
        exact keeps_ite (keepsAddresses_pure _) (keepsAddresses_setFdComm fd _)

theorem keepsAddresses_initInterface (i : IntfId) (name : List UInt8) (n : NodeId)
    (link : Option LinkId) (ct : CommType) :
    Keeps AddressesKept (initInterface i name n link ct) := by
  refine keepsAddresses_bind (keepsAddresses_derefNode n) fun node => ?_
  cases node.intfAvailableSlot with
  | none => exact keepsAddresses_throw _
  | some slot =>
      refine keepsAddresses_bind (keepsAddresses_setNode n _) fun _ => ?_
      refine keepsAddresses_bind (keepsAddresses_modify fun _ => rfl) fun _ => ?_
      refine keepsAddresses_bind ?_ fun _ => ?_
      · exact fun h => .of_update rfl (Or.inr ⟨rfl, rfl⟩)
      · exact keepsAddresses_bind (keepsAddresses_initComm i ct) fun _ => keepsAddresses_pure _

theorem keepsAddresses_closeComm (i : IntfId) (cleared : Comm → Comm) :
    Keeps AddressesKept (closeComm i cleared) := by
  refine keepsAddresses_bind (keepsAddresses_derefIntf i) fun intf => ?_
  refine keeps_ite ?_ (keepsAddresses_pure _)
  refine keepsAddresses_bind (keepsAddresses_setFdComm _ _) fun _ => ?_
  exact keepsAddresses_bind (keepsAddresses_setComm i _) fun _ => keepsAddresses_pure _

theorem keepsAddresses_destroyComm (i : IntfId) : Keeps AddressesKept (destroyComm i) := by
  refine keepsAddresses_bind (keepsAddresses_derefIntf i) fun intf => ?_
  cases intf.comm.commType with
  | none => exact keepsAddresses_throw _
  | udp => exact keepsAddresses_closeComm i _
  | tuntap => exact keepsAddresses_closeComm i _

theorem keepsAddresses_freeIntf (i : IntfId) : Keeps AddressesKept (freeIntf i) := by
  refine keepsAddresses_bind (keepsAddresses_derefIntf i) fun _ => fun h => .of_freed ?_
  intro j x hx
  change Function.update h.intf i none j = some x at hx
  by_cases hj : j = i
  · rw [hj, Function.update_self] at hx
    cases hx
  · rwa [Function.update_of_ne hj] at hx

theorem keepsAddresses_freeLink (l : LinkId) : Keeps AddressesKept (freeLink l) := by
  refine keepsAddresses_bind (keepsAddresses_derefLink l) fun link => fun h => .of_freed ?_
  intro j x hx
  change Function.update (Function.update h.intf link.intf1 none) link.intf2 none j = some x at hx
  by_cases h2 : j = link.intf2
  · rw [h2, Function.update_self] at hx
    cases hx
  · rw [Function.update_of_ne h2] at hx
    by_cases h1 : j = link.intf1
    · rw [h1, Function.update_self] at hx
      cases hx
    · rwa [Function.update_of_ne h1] at hx

theorem keepsAddresses_destroyInterface (i : IntfId) :
    Keeps AddressesKept (destroyInterface i) := by
  refine keepsAddresses_bind (keepsAddresses_derefIntf i) fun intf => ?_
  refine keepsAddresses_bind (keepsAddresses_destroyComm i) fun _ => ?_
  exact keeps_ite (keepsAddresses_freeIntf i) (keepsAddresses_pure _)

theorem keepsAddresses_clearSlot (l : LinkId) (n : NodeId) (s : Fin maxIntfsPerNode) :
    Keeps AddressesKept (clearSlot l n s) := by
  refine keepsAddresses_bind (keepsAddresses_derefNode n) fun node => ?_
  cases node.intfs s with
  | none => exact keepsAddresses_pure _
  | some i =>
      refine keepsAddresses_bind (keepsAddresses_derefIntf i) fun intf => ?_
      exact keeps_ite (keepsAddresses_setNode n _) (keepsAddresses_pure _)

theorem keepsAddresses_forM {α : Type} {f : α → G PUnit} (hf : ∀ a, Keeps AddressesKept (f a))
    (as : List α) : Keeps AddressesKept (as.forM f) := by
  induction as with
  | nil => exact keepsAddresses_pure _
  | cons a as ih => exact keepsAddresses_bind (hf a) fun _ => ih

theorem keepsAddresses_destroyLink (l : LinkId) : Keeps AddressesKept (destroyLink l) := by
  refine keepsAddresses_bind (keepsAddresses_derefLink l) fun link => ?_
  refine keepsAddresses_bind (keepsAddresses_derefIntf _) fun intf1 => ?_
  refine keepsAddresses_bind (keepsAddresses_derefIntf _) fun intf2 => ?_
  refine keepsAddresses_bind (keepsAddresses_forM (fun s => ?_) _) fun _ => ?_
  · exact keepsAddresses_bind (keepsAddresses_clearSlot l _ s) fun _ =>
      keepsAddresses_clearSlot l _ s
  · refine keepsAddresses_bind (keepsAddresses_destroyInterface _) fun _ => ?_
    exact keepsAddresses_bind (keepsAddresses_destroyInterface _) fun _ =>
      keepsAddresses_freeLink l

theorem keepsAddresses_destroySlot (n : NodeId) (s : Fin maxIntfsPerNode) :
    Keeps AddressesKept (destroySlot n s) := by
  refine keepsAddresses_bind (keepsAddresses_derefNode n) fun node => ?_
  cases node.intfs s with
  | none => exact keepsAddresses_pure _
  | some i =>
      refine keepsAddresses_bind (keepsAddresses_derefIntf i) fun intf => ?_
      cases intf.link with
      | none => exact keepsAddresses_destroyInterface i
      | some l => exact keepsAddresses_destroyLink l

theorem keepsAddresses_destroyNode (n : NodeId) : Keeps AddressesKept (destroyNode n) := by
  refine keepsAddresses_bind (keepsAddresses_derefNode n) fun _ => ?_
  refine keepsAddresses_bind (keepsAddresses_modify fun _ => rfl) fun _ => ?_
  refine keepsAddresses_bind (keepsAddresses_forM (keepsAddresses_destroySlot n) _) fun _ => ?_
  refine keepsAddresses_bind (keepsAddresses_modify fun _ => rfl) fun _ => ?_
  exact keepsAddresses_bind (keepsAddresses_derefNode n) fun _ => keepsAddresses_modify fun _ => rfl

theorem keepsAddresses_destroyGraph : Keeps AddressesKept destroyGraph :=
  keepsAddresses_bind (keeps_get .refl) fun _ => keepsAddresses_forM keepsAddresses_destroyNode _

end Keeps

/-! ### In every run -/

theorem onWorld_ok {α : Type} {m : M α} {h h' : Host} {a : α} (hrun : onWorld m h = .ok a h') :
    ∃ w, m h.toWorld = .ok a w ∧ h' = { h with toWorld := w } := by
  unfold onWorld at hrun
  cases hm : m h.toWorld with
  | ok b w =>
      rw [hm] at hrun
      cases hrun
      exact ⟨w, rfl, rfl⟩
  | error e w =>
      rw [hm] at hrun
      cases hrun

/-- An interface is in L3 mode exactly if its address is not 0. -/
def AddressedIntfs (intf : IntfId → Option Intf) : Prop :=
  ∀ i x, intf i = some x → (x.isIpAddrConfig = true ↔ x.ipAddr ≠ 0)

theorem AddressedIntfs.of_kept {h h' : Host} (hw : AddressedIntfs h.intf) (hkept : AddressesKept h h') :
    AddressedIntfs h'.intf := by
  intro i x' hx'
  rcases hkept i x' hx' with ⟨x, hx, hconf, hip⟩ | ⟨hconf, hip⟩
  · rw [hconf, hip]
    exact hw i x hx
  · rw [hconf, hip]
    exact iff_of_false Bool.false_ne_true fun hne => hne rfl

/-- Configuring an interface gives it an address that is not 0. -/
theorem AddressedIntfs.after {w : World} (hw : AddressedIntfs w.intf) (op : Op) :
    AddressedIntfs (op.after w).intf := by
  rcases intf_after op w with heq | ⟨n, j, intf, ip, mask, hip, -, heq⟩
  · rwa [heq]
  · rw [heq]
    intro i x hx
    rcases configured_intf hx with hold | ⟨-, rfl⟩
    · exact hw i x hold
    · exact iff_of_true rfl hip

theorem HostReachable.addressed {h : Host} (hreach : HostReachable h) : AddressedIntfs h.intf := by
  induction hreach with
  | init hstart =>
      intro i x hx
      rw [hstart.intf] at hx
      cases hx
  | @step h h' op u _ hrun ih =>
      cases op with
      | createGraphNode nodeName =>
          have hkeeps : Keeps AddressesKept (createGraphNode nodeName) :=
            fun _ => AddressesKept.of_intf rfl
          exact ih.of_kept ((keepsAddresses_bind hkeeps fun _ => keepsAddresses_pure _).ok hrun)
      | insertLinkBetweenTwoNodes node1 node2 fromIfname toIfname =>
          refine ih.of_kept (Keeps.ok ?_ hrun)
          refine keepsAddresses_bind keepsAddresses_allocId fun l => ?_
          refine keepsAddresses_bind keepsAddresses_allocId fun i => ?_
          refine keepsAddresses_bind keepsAddresses_allocId fun j => ?_
          refine keepsAddresses_bind (keepsAddresses_modify fun _ => rfl) fun _ => ?_
          exact keepsAddresses_bind (keepsAddresses_initInterface i _ _ _ _) fun _ =>
            keepsAddresses_initInterface j _ _ _ _
      | insertTuntapInterface n name =>
          refine ih.of_kept (Keeps.ok ?_ hrun)
          exact keepsAddresses_bind keepsAddresses_allocId fun i =>
            keepsAddresses_initInterface i _ _ _ _
      | destroyInterface i => exact ih.of_kept ((keepsAddresses_destroyInterface i).ok hrun)
      | destroyLink l => exact ih.of_kept ((keepsAddresses_destroyLink l).ok hrun)
      | destroyNode n => exact ih.of_kept ((keepsAddresses_destroyNode n).ok hrun)
      | destroyGraph => exact ih.of_kept (keepsAddresses_destroyGraph.ok hrun)
      | call op =>
          obtain ⟨r, t, hop, hpure⟩ := bind_ok_iff.mp hrun
          cases hpure
          obtain ⟨w, hw, rfl⟩ := onWorld_ok hop
          have hafter := ih.after op
          rwa [show op.after h.toWorld = w from final_of_ok hw] at hafter

/-! ### The two scans -/

section Scans

variable {w : World} {n : NodeId} {ip : UInt32}

theorem isIpLocal_iff : isIpLocal w n ip = true ↔
    ∃ i ∈ nodeIntfs w n, ∃ x, w.intf i = some x ∧ x.ipAddr = ip := by
  simp only [isIpLocal, List.any_eq_true, Option.any_eq_true, beq_iff_eq]

theorem getMatchingInterface_isSome_iff : (getMatchingInterface w n ip).isSome ↔
    ∃ i ∈ nodeIntfs w n, ∃ x, w.intf i = some x ∧ x.isIpAddrConfig = true ∧ x.ipAddr = ip := by
  simp only [getMatchingInterface, List.find?_isSome, Option.any_eq_true, Bool.and_eq_true,
    beq_iff_eq]

/-- For an address other than 0 both scans see the same interfaces. -/
theorem AddressedIntfs.isIpLocal_iff (hw : AddressedIntfs w.intf) (hip : ip ≠ 0) :
    isIpLocal w n ip = true ↔ (getMatchingInterface w n ip).isSome := by
  rw [SimpleTcpip.isIpLocal_iff, getMatchingInterface_isSome_iff]
  constructor
  · rintro ⟨i, hi, x, hx, rfl⟩
    exact ⟨i, hi, x, hx, (hw i x hx).mpr hip, rfl⟩
  · rintro ⟨i, hi, x, hx, -, rfl⟩
    exact ⟨i, hi, x, hx, rfl⟩

/-- The address 0 is never bound to, and local while an interface has no address. -/
theorem AddressedIntfs.zero (hw : AddressedIntfs w.intf) : (getMatchingInterface w n 0).isSome = false ∧
    (isIpLocal w n 0 = true ↔
      ∃ i ∈ nodeIntfs w n, ∃ x, w.intf i = some x ∧ x.isIpAddrConfig = false) := by
  constructor
  · rw [← Bool.not_eq_true, getMatchingInterface_isSome_iff]
    rintro ⟨i, -, x, hx, hconf, hip⟩
    exact (hw i x hx).mp hconf hip
  · rw [SimpleTcpip.isIpLocal_iff]
    have hzero : ∀ i x, w.intf i = some x → (x.ipAddr = 0 ↔ x.isIpAddrConfig = false) := by
      intro i x hx
      rw [← Bool.not_eq_true, hw i x hx, not_not]
    constructor
    · rintro ⟨i, hi, x, hx, hip⟩
      exact ⟨i, hi, x, hx, (hzero i x hx).mp hip⟩
    · rintro ⟨i, hi, x, hx, hconf⟩
      exact ⟨i, hi, x, hx, (hzero i x hx).mpr hconf⟩

end Scans

/-- **In every run the two scans agree, except on the address 0 of a node that has an interface
without an address.** -/
theorem ownAddress_agree_iff {h : Host} (hreach : HostReachable h) (n : NodeId) (ip : UInt32) :
    (isIpLocal h.toWorld n ip = true ↔ (getMatchingInterface h.toWorld n ip).isSome) ↔
      (ip ≠ 0 ∨ ∀ i ∈ nodeIntfs h.toWorld n, ∀ x, h.intf i = some x → x.isIpAddrConfig = true) := by
  have hw := hreach.addressed
  by_cases hip : ip = 0
  · subst hip
    obtain ⟨hnone, hlocal⟩ := hw.zero (n := n)
    rw [hnone, hlocal]
    constructor
    · refine fun hagree => Or.inr fun i hi x hx => ?_
      by_contra hconf
      exact Bool.false_ne_true (hagree.mp ⟨i, hi, x, hx, Bool.eq_false_of_not_eq_true hconf⟩)
    · rintro (hne | hall)
      · exact absurd rfl hne
      · refine iff_of_false ?_ Bool.false_ne_true
        rintro ⟨i, hi, x, hx, hconf⟩
        rw [hall i hi x hx] at hconf
        cases hconf
  · exact iff_of_true (hw.isIpLocal_iff hip) (Or.inl hip)

/-- Two nodes and a link between them, no interface configured yet. -/
theorem Fixture.linked_reachable : ∃ h, HostReachable h ∧ 3 ∈ nodeIntfs h.toWorld 0 ∧
    ∃ x, h.intf 3 = some x ∧ x.isIpAddrConfig = false := by
  let h1 := final (runGraphOp (.createGraphNode Fixture.node0)) Fixture.started
  let h2 := final (runGraphOp (.createGraphNode Fixture.node1)) h1
  let join := GraphOp.insertLinkBetweenTwoNodes 0 1 Fixture.eth01 Fixture.eth10
  let h3 := final (runGraphOp join) h2
  have hrun1 : runGraphOp (.createGraphNode Fixture.node0) Fixture.started = .ok ⟨⟩ h1 := rfl
  have hrun2 : runGraphOp (.createGraphNode Fixture.node1) h1 = .ok ⟨⟩ h2 := rfl
  have hrun3 : runGraphOp join h2 = .ok ⟨⟩ h3 := rfl
  have hreach : HostReachable h3 :=
    (((HostReachable.init Fixture.started_started).step hrun1).step hrun2).step hrun3
  exact ⟨h3, hreach, List.mem_singleton_self _, _, rfl, rfl⟩

/-- A packet to 0.0.0.0 is for a node none of whose sockets can be bound to it. -/
theorem ownAddress_zero : ∃ h, HostReachable h ∧ isIpLocal h.toWorld 0 0 = true ∧
    getMatchingInterface h.toWorld 0 0 = none := by
  obtain ⟨h, hreach, hmem, x, hx, hconf⟩ := Fixture.linked_reachable
  obtain ⟨hnone, hlocal⟩ := hreach.addressed.zero (n := 0)
  refine ⟨h, hreach, hlocal.mpr ⟨3, hmem, x, hx, hconf⟩, ?_⟩
  rw [← Option.not_isSome_iff_eq_none, hnone]
  exact Bool.false_ne_true

/-- The same link, and the first node's interface has the address `192.168.89.1`. -/
def Fixture.configuredLink : List GraphOp :=
  [.createGraphNode node0, .createGraphNode node1, .insertLinkBetweenTwoNodes 0 1 eth01 eth10,
    .call (.nodeSetIntfIpAddr 0 eth01 [49, 57, 50, 46, 49, 54, 56, 46, 56, 57, 46, 49] 24)]

/-- The two scans find the address, and neither takes 0.0.0.0 for an address of the node. -/
theorem ownAddress_agree_configured : ∃ h, HostReachable h ∧
    isIpLocal h.toWorld 0 (Fixture.addr 192 168 89 1) = true ∧
    (getMatchingInterface h.toWorld 0 (Fixture.addr 192 168 89 1)).isSome ∧
    (isIpLocal h.toWorld 0 0 = true ↔ (getMatchingInterface h.toWorld 0 0).isSome) := by
  have hcheck : (runGraphOps Fixture.started Fixture.configuredLink).any (fun h =>
      isIpLocal h.toWorld 0 (Fixture.addr 192 168 89 1) &&
        (nodeIntfs h.toWorld 0).all fun i => (h.intf i).all Intf.isIpAddrConfig) = true := by
    decide +kernel
  obtain ⟨h, hrun, hcheck⟩ := (Option.any_eq_true _ _).mp hcheck
  obtain ⟨hlocal, hconfig⟩ := Bool.and_eq_true_iff.mp hcheck
  have hreach : HostReachable h :=
    (HostReachableBy.runGraphOps (P := fun _ => True) (.init Fixture.started_started)
      (fun _ _ => trivial) hrun).reachable
  refine ⟨h, hreach, hlocal,
    ((ownAddress_agree_iff hreach 0 _).mpr (Or.inl (by decide))).mp hlocal,
    (ownAddress_agree_iff hreach 0 0).mpr (Or.inr fun i hi x hx => ?_)⟩
  have hx' := List.all_eq_true.mp hconfig i hi
  rwa [hx, Option.all_some] at hx'

end SimpleTcpip
