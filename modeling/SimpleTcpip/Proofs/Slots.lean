/-
Slots, links and the records behind them.

An interface is in one slot of the node it refers to, and a link in the two interfaces that
refer to it.  A slot may also hold the pointer to an interface that was freed: `Filled` says of
a node that it has no such slot.  The calls that build a graph keep all this.
-/
import SimpleTcpip.Model.Program
import SimpleTcpip.Proofs.Topology

namespace SimpleTcpip

open Fallible

/-! ### What the slots hold -/

/-- What a slot of a node holds. -/
def World.slot (w : World) (n : NodeId) (s : Fin maxIntfsPerNode) : Option IntfId :=
  (w.node n).bind fun node => node.intfs s

theorem World.slot_eq {w : World} {n : NodeId} {node : Node} (hn : w.node n = some node)
    (s : Fin maxIntfsPerNode) : w.slot n s = node.intfs s := by
  rw [World.slot, hn, Option.bind_some]

theorem World.node_of_slot {w : World} {n : NodeId} {s : Fin maxIntfsPerNode} {i : IntfId}
    (hs : w.slot n s = some i) : ∃ node, w.node n = some node ∧ node.intfs s = some i :=
  Option.bind_eq_some_iff.mp hs

theorem World.slot_congr {w w' : World} (h : w'.node = w.node) (n : NodeId)
    (s : Fin maxIntfsPerNode) : w'.slot n s = w.slot n s := by
  rw [World.slot, World.slot, h]

/-- Every slot of a node is empty or holds a live interface. -/
def World.Filled (w : World) (n : NodeId) : Prop := ∀ s i, w.slot n s = some i → (w.intf i).isSome

/-- An interface is in exactly one slot, and that is a slot of its node. -/
structure Slotted (w : World) : Prop where
  back : ∀ n s i x, w.slot n s = some i → w.intf i = some x → x.node = n
  once : ∀ n n' s s' i, w.slot n s = some i → w.slot n' s' = some i → n = n' ∧ s = s'
  placed : ∀ i x, w.intf i = some x → ∃ s, w.slot x.node s = some i
  /-- What is in a slot was allocated, and so was every node. -/
  slotId : ∀ n s i, w.slot n s = some i → i < w.nextId
  nodeId : ∀ n, (w.node n).isSome → n < w.nextId

/-- An interface of a link is one of its two ends; the others are TUN/TAP interfaces. -/
structure Linked (w : World) : Prop where
  link : ∀ i x l, w.intf i = some x → x.link = some l →
    ∃ link, w.link l = some link ∧ (link.intf1 = i ∨ link.intf2 = i)
  distinct : ∀ l link, w.link l = some link → link.intf1 ≠ link.intf2
  ends : ∀ l link i, w.link l = some link → link.intf1 = i ∨ link.intf2 = i →
    ∃ x, w.intf i = some x ∧ x.link = some l
  linkId : ∀ l, (w.link l).isSome → l < w.nextId
  comm : ∀ i x, w.intf i = some x → x.comm.commType = if x.link.isSome then .udp else .tuntap

/-- A descriptor of the map is the one its interface has opened. -/
structure Mapped (h : Host) : Prop where
  entry : ∀ fd j, h.fdToCommMap fd = some j → fd < maxComms ∧
    ∃ x, h.intf j = some x ∧ x.comm.fd = fd
  /-- Descriptor 0 stands for none. -/
  opened : ∀ i x, h.intf i = some x → x.comm.fd ≠ 0

variable {h h' : Host} {w : World} {n m : NodeId} {i j : IntfId} {l : LinkId} {x y : Intf}
  {s t : Fin maxIntfsPerNode}

theorem Slotted.intfId (hw : Slotted w) (hi : w.intf i = some x) : i < w.nextId := by
  obtain ⟨s, hs⟩ := hw.placed i x hi
  exact hw.slotId _ _ _ hs

theorem Slotted.of_slots {w' : World} (hw : Slotted w) (hslot : ∀ m t, w'.slot m t = w.slot m t)
    (hintf : w'.intf = w.intf) (hnext : w.nextId ≤ w'.nextId)
    (hnode : ∀ m, (w'.node m).isSome → m < w'.nextId) : Slotted w' := by
  refine ⟨?_, ?_, ?_, ?_, hnode⟩
  · simp only [hslot, hintf]
    exact hw.back
  · simp only [hslot]
    exact hw.once
  · simp only [hslot, hintf]
    exact hw.placed
  · simp only [hslot]
    exact fun n s i hs => Nat.lt_of_lt_of_le (hw.slotId n s i hs) hnext

theorem Slotted.of_frame {w' : World} (hw : Slotted w) (hnode : w'.node = w.node)
    (hintf : w'.intf = w.intf) (hnext : w.nextId ≤ w'.nextId) : Slotted w' := by
  refine hw.of_slots (World.slot_congr hnode) hintf hnext ?_
  rw [hnode]
  exact fun n hn => Nat.lt_of_lt_of_le (hw.nodeId n hn) hnext

theorem Linked.of_frame {w' : World} (hw : Linked w) (hintf : w'.intf = w.intf)
    (hlink : w'.link = w.link) (hnext : w.nextId ≤ w'.nextId) : Linked w' := by
  refine ⟨?_, ?_, ?_, ?_, ?_⟩
  · rw [hintf, hlink]
    exact hw.link
  · rw [hlink]
    exact hw.distinct
  · rw [hintf, hlink]
    exact hw.ends
  · rw [hlink]
    exact fun l hl => Nat.lt_of_lt_of_le (hw.linkId l hl) hnext
  · rw [hintf]
    exact hw.comm

/-! ### Attaching -/

/-- What `init_interface` puts into the slots. -/
theorem Attached.slots (hx : Attached i x h h') : ∃ s, h.slot x.node s = none ∧
    (h.node x.node).isSome ∧
    ∀ m t, h'.slot m t = if m = x.node ∧ t = s then some i else h.slot m t := by
  obtain ⟨node, s, hn, hs, hnode⟩ := hx.slot
  refine ⟨s, (World.slot_eq hn s).trans hs, by rw [hn]; rfl, fun m t => ?_⟩
  unfold World.slot
  rw [hnode]
  by_cases hm : m = x.node
  · subst hm
    rw [Function.update_self, hn, Option.bind_some, Option.bind_some]
    by_cases ht : t = s
    · rw [if_pos ⟨rfl, ht⟩, ht]
      exact Function.update_self ..
    · rw [if_neg fun hand => ht hand.2]
      exact Function.update_of_ne ht ..
  · rw [Function.update_of_ne hm, if_neg fun hand => hm hand.1]

theorem Attached.node_isSome (hx : Attached i x h h') (m : NodeId) :
    (h'.node m).isSome = (h.node m).isSome := by
  obtain ⟨node, s, hn, -, hnode⟩ := hx.slot
  rw [hnode]
  by_cases hm : m = x.node
  · subst hm
    rw [Function.update_self, hn]
    rfl
  · rw [Function.update_of_ne hm]

theorem Attached.nextId_eq (hx : Attached i x h h') : h'.nextId = h.nextId := by
  rw [hx.frame]

theorem Attached.intf_eq (hx : Attached i x h h') : h'.intf = Function.update h.intf i (some x) := by
  rw [hx.frame]

theorem Attached.link_eq (hx : Attached i x h h') : h'.link = h.link := by
  rw [hx.frame]

/-- An interface that was in no slot gets one. -/
theorem Attached.slotted (hx : Attached i x h h') (hw : Slotted h.toWorld) (hid : i < h.nextId)
    (hnew : ∀ m t, h.slot m t ≠ some i) : Slotted h'.toWorld := by
  obtain ⟨s, hfree, hlive, hslot⟩ := hx.slots
  have hcase : ∀ {m t j}, h'.slot m t = some j →
      m = x.node ∧ t = s ∧ j = i ∨ h.slot m t = some j ∧ j ≠ i := by
    intro m t j hj
    rw [hslot] at hj
    split at hj
    · rename_i hmt
      exact Or.inl ⟨hmt.1, hmt.2, (Option.some.inj hj).symm⟩
    · exact Or.inr ⟨hj, fun heq => hnew m t (heq ▸ hj)⟩
  have hintf := hx.intf_eq
  have hnext := hx.nextId_eq
  refine ⟨fun m t j y hj hy => ?_, fun m m' t t' j hj hj' => ?_, fun j y hy => ?_, fun m t j hj => ?_,
    fun m hm => ?_⟩
  · rcases hcase hj with ⟨rfl, rfl, rfl⟩ | ⟨hold, hne⟩
    · rw [hintf, Function.update_self] at hy
      rw [Option.some.inj hy]
    · rw [hintf, Function.update_of_ne hne] at hy
      exact hw.back _ _ _ _ hold hy
  · rcases hcase hj with ⟨rfl, rfl, rfl⟩ | ⟨hold, hne⟩ <;>
      rcases hcase hj' with ⟨rfl, rfl, heq⟩ | ⟨hold', hne'⟩
    · exact ⟨rfl, rfl⟩
    · exact absurd rfl hne'
    · exact absurd heq hne
    · exact hw.once _ _ _ _ _ hold hold'
  · by_cases hji : j = i
    · subst hji
      rw [hintf, Function.update_self] at hy
      obtain rfl := Option.some.inj hy
      exact ⟨s, by rw [hslot, if_pos ⟨rfl, rfl⟩]⟩
    · rw [hintf, Function.update_of_ne hji] at hy
      obtain ⟨t, ht⟩ := hw.placed j y hy
      refine ⟨t, ?_⟩
      rw [hslot, if_neg, ht]
      rintro ⟨hnode, rfl⟩
      rw [hnode, hfree] at ht
      cases ht
  · rw [hnext]
    rcases hcase hj with ⟨-, -, rfl⟩ | ⟨hold, -⟩
    · exact hid
    · exact hw.slotId _ _ _ hold
  · rw [hnext]
    rw [hx.node_isSome] at hm
    exact hw.nodeId m hm

theorem Attached.filled (hx : Attached i x h h') (hm : h.Filled m) :
    h'.Filled m := by
  obtain ⟨s, -, -, hslot⟩ := hx.slots
  intro t j hj
  rw [hx.intf_eq]
  by_cases hji : j = i
  · rw [hji, Function.update_self]
    rfl
  · rw [Function.update_of_ne hji]
    rw [hslot] at hj
    split at hj
    · exact absurd (Option.some.inj hj).symm hji
    · exact hm t j hj

theorem Attached.mapped (hx : Attached i x h h') (hdead : h.intf i = none)
    (hos : ∀ k, h.sysOpen k ≠ 0) (hmap : Mapped h) : Mapped h' := by
  refine ⟨fun fd j hj => ?_, fun j y hy => ?_⟩
  · rw [hx.intf_eq]
    rcases hx.map fd j hj with hold | ⟨rfl, hfd, hlt⟩
    · obtain ⟨hlt, y, hy, hyfd⟩ := hmap.entry fd j hold
      have hne : j ≠ i := fun heq => by
        rw [heq, hdead] at hy
        cases hy
      exact ⟨hlt, y, by rwa [Function.update_of_ne hne], hyfd⟩
    · exact ⟨hlt, x, Function.update_self .., hfd⟩
  · rw [hx.intf_eq] at hy
    by_cases hji : j = i
    · rw [hji, Function.update_self] at hy
      rw [← Option.some.inj hy]
      exact hx.fd hos
    · rw [Function.update_of_ne hji] at hy
      exact hmap.opened j y hy

/-- A TUN/TAP interface belongs to no link. -/
theorem Attached.linked (hx : Attached i x h h') (hw : Linked h.toWorld) (hdead : h.intf i = none)
    (hlink : x.link = none) (hcomm : x.comm.commType = .tuntap) : Linked h'.toWorld := by
  have hcase : ∀ {j y}, h'.intf j = some y → j = i ∧ y = x ∨ h.intf j = some y ∧ j ≠ i := by
    intro j y hy
    rw [hx.intf_eq] at hy
    by_cases hji : j = i
    · rw [hji, Function.update_self] at hy
      exact Or.inl ⟨hji, (Option.some.inj hy).symm⟩
    · rw [Function.update_of_ne hji] at hy
      exact Or.inr ⟨hy, hji⟩
  have hlinks := hx.link_eq
  refine ⟨fun j y l hy hl => ?_, fun l link hl => ?_, fun l link j hl hj => ?_, fun l hl => ?_,
    fun j y hy => ?_⟩
  · rcases hcase hy with ⟨-, rfl⟩ | ⟨hold, -⟩
    · rw [hlink] at hl
      cases hl
    · rw [hlinks]
      exact hw.link j y l hold hl
  · rw [hlinks] at hl
    exact hw.distinct l link hl
  · rw [hlinks] at hl
    obtain ⟨y, hy, hyl⟩ := hw.ends l link j hl hj
    have hne : j ≠ i := fun heq => by
      rw [heq, hdead] at hy
      cases hy
    exact ⟨y, by rwa [hx.intf_eq, Function.update_of_ne hne], hyl⟩
  · rw [hlinks] at hl
    rw [hx.nextId_eq]
    exact hw.linkId l hl
  · rcases hcase hy with ⟨-, rfl⟩ | ⟨hold, -⟩
    · rw [hcomm, hlink]
      rfl
    · exact hw.comm j y hold

/-! ### The graph in order -/

/-- The graph, with every interface in its slot and every node in its list. -/
structure InOrder (h : Host) : Prop where
  slotted : Slotted h.toWorld
  linked : Linked h.toWorld
  filled : ∀ n, h.Filled n
  nodes : ∀ n, n ∈ h.nodes ↔ (h.node n).isSome
  nodup : h.nodes.Nodup

/-- A number that was not given out yet. -/
theorem InOrder.unused (hw : InOrder h) (hi : h.nextId ≤ i) :
    h.intf i = none ∧ ∀ m t, h.slot m t ≠ some i := by
  have hslot : ∀ m t, h.slot m t ≠ some i := fun m t ht =>
    absurd (hw.slotted.slotId m t i ht) (Nat.not_lt_of_le hi)
  refine ⟨?_, hslot⟩
  cases hx : h.intf i with
  | none => rfl
  | some x =>
      obtain ⟨s, hs⟩ := hw.slotted.placed i x hx
      exact absurd hs (hslot x.node s)

theorem Host.Started.inOrder (hstart : h.Started) : InOrder h := by
  have hslot : ∀ m t, h.slot m t = none := fun m t => by rw [World.slot, hstart.node]; rfl
  refine ⟨⟨?_, ?_, ?_, ?_, ?_⟩, ⟨?_, ?_, ?_, ?_, ?_⟩, ?_, ?_, ?_⟩
  · intro n s i x hs
    rw [hslot] at hs
    cases hs
  · intro n n' s s' i hs
    rw [hslot] at hs
    cases hs
  · intro i x hi
    rw [hstart.intf] at hi
    cases hi
  · intro n s i hs
    rw [hslot] at hs
    cases hs
  · intro n hn
    rw [hstart.node] at hn
    cases hn
  · intro i x l hi
    rw [hstart.intf] at hi
    cases hi
  · intro l link hl
    rw [hstart.link] at hl
    cases hl
  · intro l link i hl
    rw [hstart.link] at hl
    cases hl
  · intro l hl
    rw [hstart.link] at hl
    cases hl
  · intro i x hi
    rw [hstart.intf] at hi
    cases hi
  · intro n s i hs
    rw [hslot] at hs
    cases hs
  · intro n
    rw [hstart.nodes, hstart.node]
    simp
  · rw [hstart.nodes]
    exact List.nodup_nil

/-! ### Building -/

theorem createGraphNode_inOrder {nodeName : List UInt8} (hw : InOrder h)
    (hrun : createGraphNode nodeName h = .ok n h') : InOrder h' := by
  cases hrun
  let created : Node := { name := strncpy nodeName maxNodeNameSize, intfs := fun _ => none }
  have hnew : h.node h.nextId = none := by
    rw [← Option.not_isSome_iff_eq_none]
    exact fun hlive => Nat.lt_irrefl _ (hw.slotted.nodeId _ hlive)
  have hslot : ∀ m t, ((Function.update h.node h.nextId (some created)) m).bind
      (fun node => node.intfs t) = h.slot m t := by
    intro m t
    unfold World.slot
    by_cases hm : m = h.nextId
    · rw [hm, Function.update_self, hnew]
      rfl
    · rw [Function.update_of_ne hm]
  have hlive : ∀ m, (Function.update h.node h.nextId (some created) m).isSome ↔
      m = h.nextId ∨ (h.node m).isSome := by
    intro m
    by_cases hm : m = h.nextId
    · rw [hm, Function.update_self]
      exact ⟨fun _ => Or.inl rfl, fun _ => rfl⟩
    · rw [Function.update_of_ne hm]
      exact ⟨Or.inr, fun hor => hor.resolve_left hm⟩
  refine ⟨hw.slotted.of_slots hslot rfl (Nat.le_succ _) fun m hm => ?_,
    hw.linked.of_frame rfl rfl (Nat.le_succ _), fun m t j hj => ?_, fun m => ?_, ?_⟩
  · rcases (hlive m).mp hm with rfl | hold
    · exact Nat.lt_succ_self _
    · exact Nat.lt_succ_of_lt (hw.slotted.nodeId m hold)
  · exact hw.filled m t j ((hslot m t).symm.trans hj)
  · exact (List.mem_cons.trans (or_congr_right (hw.nodes m))).trans (hlive m).symm
  · refine List.nodup_cons.mpr ⟨fun hmem => ?_, hw.nodup⟩
    have hold := (hw.nodes _).mp hmem
    rw [hnew] at hold
    cases hold

theorem Attached.nodes_eq (hx : Attached i x h h') : h'.nodes = h.nodes := by
  rw [hx.frame]

theorem insertTuntapInterface_ok {name : List UInt8} {u : Unit}
    (hrun : insertTuntapInterface n name h = .ok u h') :
    ∃ x, Attached h.nextId x { h with nextId := h.nextId + 1 } h' ∧ x.link = none ∧
      x.comm.commType = .tuntap := by
  obtain ⟨node, c, -, hc, hx⟩ := initInterface_ok (by decide) hrun
  exact ⟨_, hx, rfl, hc⟩

theorem insertTuntapInterface_inOrder {name : List UInt8} {u : Unit} (hw : InOrder h)
    (hrun : insertTuntapInterface n name h = .ok u h') : InOrder h' := by
  obtain ⟨x, hx, hlink, hcomm⟩ := insertTuntapInterface_ok hrun
  obtain ⟨hdead, hnew⟩ := hw.unused (Nat.le_refl h.nextId)
  refine ⟨hx.slotted (hw.slotted.of_frame rfl rfl (Nat.le_succ _)) (Nat.lt_succ_self _) hnew,
    hx.linked (hw.linked.of_frame rfl rfl (Nat.le_succ _)) hdead hlink hcomm,
    fun m => hx.filled (hw.filled m), fun m => ?_, ?_⟩
  · rw [hx.nodes_eq, hx.node_isSome]
    exact hw.nodes m
  · rw [hx.nodes_eq]
    exact hw.nodup

theorem insertLinkBetweenTwoNodes_attached {n₁ n₂ : NodeId} {fromIfname toIfname : List UInt8}
    {u : Unit} (hrun : insertLinkBetweenTwoNodes n₁ n₂ fromIfname toIfname h = .ok u h') :
    ∃ x y h₁, Attached (h.nextId + 1) x h.linkBegun h₁ ∧ Attached (h.nextId + 2) y h₁ h' ∧
      (x.link = some h.nextId ∧ x.comm.commType = .udp) ∧
      y.link = some h.nextId ∧ y.comm.commType = .udp := by
  rw [insertLinkBetweenTwoNodes_eq] at hrun
  obtain ⟨u, h₁, hfirst, hsecond⟩ := bind_ok_iff.mp hrun
  obtain ⟨a, c, -, hc, hx⟩ := initInterface_ok (by decide) hfirst
  obtain ⟨b, d, -, hd, hy⟩ := initInterface_ok (by decide) hsecond
  exact ⟨_, _, h₁, hx, hy, ⟨rfl, hc⟩, rfl, hd⟩

theorem insertLinkBetweenTwoNodes_linked (hw : InOrder h) {h₁ : Host}
    (hx : Attached (h.nextId + 1) x h.linkBegun h₁) (hy : Attached (h.nextId + 2) y h₁ h')
    (hlx : x.link = some h.nextId ∧ x.comm.commType = .udp)
    (hly : y.link = some h.nextId ∧ y.comm.commType = .udp) : Linked h'.toWorld := by
  have hlink : h'.link = Function.update h.link h.nextId
      (some { intf1 := h.nextId + 1, intf2 := h.nextId + 2 }) := by
    rw [hy.link_eq, hx.link_eq]
    rfl
  have hnext : h'.nextId = h.nextId + 3 := by
    rw [hy.nextId_eq, hx.nextId_eq]
    rfl
  have hintf : h'.intf = Function.update (Function.update h.intf (h.nextId + 1) (some x))
      (h.nextId + 2) (some y) := by
    rw [hy.intf_eq, hx.intf_eq]
    rfl
  have hne : h.nextId + 1 ≠ h.nextId + 2 := by omega
  have hx' : h'.intf (h.nextId + 1) = some x := by
    rw [hintf, Function.update_of_ne hne, Function.update_self]
  have hy' : h'.intf (h.nextId + 2) = some y := by
    rw [hintf, Function.update_self]
  have hold : ∀ {j z}, h.intf j = some z → h'.intf j = some z := by
    intro j z hj
    have hlt := hw.slotted.intfId hj
    rw [hintf, Function.update_of_ne (Nat.ne_of_lt (Nat.lt_add_right 2 hlt)),
      Function.update_of_ne (Nat.ne_of_lt (Nat.lt_add_right 1 hlt)), hj]
  have hcase : ∀ {j z}, h'.intf j = some z → h.intf j = some z ∨
      z.link = some h.nextId ∧ z.comm.commType = .udp ∧ (h.nextId + 1 = j ∨ h.nextId + 2 = j) := by
    intro j z hj
    rw [hintf] at hj
    by_cases hj2 : j = h.nextId + 2
    · rw [hj2, Function.update_self] at hj
      obtain rfl := Option.some.inj hj
      exact Or.inr ⟨hly.1, hly.2, Or.inr hj2.symm⟩
    rw [Function.update_of_ne hj2] at hj
    by_cases hj1 : j = h.nextId + 1
    · rw [hj1, Function.update_self] at hj
      obtain rfl := Option.some.inj hj
      exact Or.inr ⟨hlx.1, hlx.2, Or.inl hj1.symm⟩
    · rw [Function.update_of_ne hj1] at hj
      exact Or.inl hj
  have hlcase : ∀ {l link}, h'.link l = some link → h.link l = some link ∨
      l = h.nextId ∧ link = { intf1 := h.nextId + 1, intf2 := h.nextId + 2 } := by
    intro l link hl
    rw [hlink] at hl
    by_cases hln : l = h.nextId
    · rw [hln, Function.update_self] at hl
      exact Or.inr ⟨hln, (Option.some.inj hl).symm⟩
    · rw [Function.update_of_ne hln] at hl
      exact Or.inl hl
  refine ⟨fun j z l hj hl => ?_, fun l link hl => ?_, fun l link j hl hj => ?_, fun l hl => ?_,
    fun j z hj => ?_⟩
  · rcases hcase hj with hj | ⟨hz, -, hends⟩
    · obtain ⟨link, hlink', hends⟩ := hw.linked.link j z l hj hl
      have hlt := hw.linked.linkId l (by rw [hlink']; rfl)
      exact ⟨link, by rw [hlink, Function.update_of_ne (Nat.ne_of_lt hlt), hlink'], hends⟩
    · obtain rfl := Option.some.inj (hl.symm.trans hz)
      exact ⟨_, by rw [hlink, Function.update_self], hends⟩
  · rcases hlcase hl with hl | ⟨-, rfl⟩
    · exact hw.linked.distinct l link hl
    · exact hne
  · rcases hlcase hl with hl | ⟨rfl, rfl⟩
    · obtain ⟨z, hz, hzl⟩ := hw.linked.ends l link j hl hj
      exact ⟨z, hold hz, hzl⟩
    · rcases hj with rfl | rfl
      · exact ⟨x, hx', hlx.1⟩
      · exact ⟨y, hy', hly.1⟩
  · obtain ⟨link, hl⟩ := Option.isSome_iff_exists.mp hl
    rw [hnext]
    rcases hlcase hl with hl | ⟨rfl, -⟩
    · exact Nat.lt_add_right 3 (hw.linked.linkId l (by rw [hl]; rfl))
    · exact Nat.lt_add_of_pos_right (by decide)
  · rcases hcase hj with hj | ⟨hz, hc, -⟩
    · exact hw.linked.comm j z hj
    · rw [hc, hz]
      rfl

theorem insertLinkBetweenTwoNodes_inOrder {n₁ n₂ : NodeId} {fromIfname toIfname : List UInt8}
    {u : Unit} (hw : InOrder h)
    (hrun : insertLinkBetweenTwoNodes n₁ n₂ fromIfname toIfname h = .ok u h') : InOrder h' := by
  obtain ⟨x, y, h₁, hx, hy, hlx, hly⟩ := insertLinkBetweenTwoNodes_attached hrun
  obtain ⟨-, hnew1⟩ := hw.unused (Nat.le_add_right h.nextId 1)
  obtain ⟨-, hnew2⟩ := hw.unused (Nat.le_add_right h.nextId 2)
  have hfirst : Slotted h₁.toWorld :=
    hx.slotted (hw.slotted.of_frame rfl rfl (Nat.le_add_right _ 3))
      (Nat.add_lt_add_left (by decide) h.nextId) hnew1
  have hnext : h₁.nextId = h.nextId + 3 := hx.nextId_eq
  have hsecond : Slotted h'.toWorld := by
    refine hy.slotted hfirst ?_ fun m t ht => ?_
    · rw [hnext]
      exact Nat.add_lt_add_left (by decide) h.nextId
    obtain ⟨s, -, -, hslot⟩ := hx.slots
    rw [hslot] at ht
    split at ht
    · exact absurd (Option.some.inj ht) (Nat.ne_of_lt (Nat.lt_succ_self _))
    · exact hnew2 m t ht
  refine ⟨hsecond, insertLinkBetweenTwoNodes_linked hw hx hy hlx hly,
    fun m => hy.filled (hx.filled (hw.filled m)), fun m => ?_, ?_⟩
  · rw [hy.nodes_eq, hx.nodes_eq, hy.node_isSome, hx.node_isSome]
    exact hw.nodes m
  · rw [hy.nodes_eq, hx.nodes_eq]
    exact hw.nodup

end SimpleTcpip
