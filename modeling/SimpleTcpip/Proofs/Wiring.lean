/-
The topology in every state, while the graph is built and links are taken out again.

Each call keeps the slots, the links and the descriptor map in step, and completes when the
nodes it names have the slots it needs.
-/
import SimpleTcpip.Proofs.Unlink

namespace SimpleTcpip

open Fallible

variable {h h' : Host} {i j : IntfId} {x y : Intf}

/-- The calls that build the graph. -/
def GraphOp.Builds : GraphOp → Prop
  | .createGraphNode _ => True
  | .insertLinkBetweenTwoNodes _ _ _ _ => True
  | .insertTuntapInterface _ _ => True
  | _ => False

/-- The calls that build the graph or take a link out of it. -/
def GraphOp.Rewires (op : GraphOp) : Prop := op.Builds ∨ ∃ l, op = .destroyLink l

/-! ### Every step -/

theorem destroyLink_ok {l : LinkId} {u : Unit} (hw : InOrder h)
    (hrun : destroyLink l h = .ok u h') :
    ∃ link, h.link l = some link ∧ Unlinked l link h h' := by
  cases hl : h.link l with
  | none =>
      rw [destroyLink, run_bind_error (derefLink_dead hl)] at hrun
      cases hrun
  | some link =>
      obtain ⟨x, hx, -⟩ := hw.linked.ends l link _ hl (Or.inl rfl)
      obtain ⟨y, hy, -⟩ := hw.linked.ends l link _ hl (Or.inr rfl)
      obtain ⟨h₁, hrun₁, hu⟩ := destroyLink_run hw.slotted hw.linked hl hx hy (hw.filled _) (hw.filled _)
      rw [hrun₁] at hrun
      cases hrun
      exact ⟨link, rfl, hu⟩

theorem Unlinked.inOrder {l : LinkId} {link : Link} (hu : Unlinked l link h h') (hw : InOrder h)
    (hl : h.link l = some link) : InOrder h' := by
  have hnodes : h'.nodes = h.nodes := by
    rw [hu.frame]
    rfl
  refine ⟨(hu.pruned hw.linked hl).slotted hw.slotted, hu.linked hw.linked hl,
    fun m => hu.filled hw.linked hl (hw.filled m), fun m => ?_, ?_⟩
  · rw [hnodes, hu.node_isSome]
    exact hw.nodes m
  · rw [hnodes]
    exact hw.nodup

/-- A graph in order, and its descriptor map, if the system never opens descriptor 0. -/
structure Rewired (h h' : Host) : Prop where
  inOrder : InOrder h'
  sysOpen : h'.sysOpen = h.sysOpen
  mapped : (∀ k, h.sysOpen k ≠ 0) → Mapped h → Mapped h'

theorem createGraphNode_rewired {nodeName : List UInt8} {n : NodeId} (hw : InOrder h)
    (hrun : createGraphNode nodeName h = .ok n h') : Rewired h h' := by
  have hw' := createGraphNode_inOrder hw hrun
  cases hrun
  exact ⟨hw', rfl, fun _ hmap => ⟨hmap.entry, hmap.opened⟩⟩

theorem insertLinkBetweenTwoNodes_rewired {n₁ n₂ : NodeId} {fromIfname toIfname : List UInt8}
    {u : Unit} (hw : InOrder h)
    (hrun : insertLinkBetweenTwoNodes n₁ n₂ fromIfname toIfname h = .ok u h') : Rewired h h' := by
  have hw' := insertLinkBetweenTwoNodes_inOrder hw hrun
  obtain ⟨x, y, h₁, hx, hy, -, -⟩ := insertLinkBetweenTwoNodes_attached hrun
  have hos : h₁.sysOpen = h.sysOpen := by
    rw [hx.frame]
    rfl
  refine ⟨hw', by rw [hy.frame]; exact hos, fun hpos hmap => ?_⟩
  obtain ⟨hdead1, -⟩ := hw.unused (Nat.le_add_right h.nextId 1)
  obtain ⟨hdead2, -⟩ := hw.unused (Nat.le_add_right h.nextId 2)
  have hfirst : Mapped h₁ := hx.mapped hdead1 hpos ⟨hmap.entry, hmap.opened⟩
  refine hy.mapped ?_ (by rwa [hos]) hfirst
  rw [hx.intf_eq, Function.update_of_ne (Nat.ne_of_gt (Nat.lt_succ_self _))]
  exact hdead2

theorem insertTuntapInterface_rewired {n : NodeId} {name : List UInt8} {u : Unit} (hw : InOrder h)
    (hrun : insertTuntapInterface n name h = .ok u h') : Rewired h h' := by
  have hw' := insertTuntapInterface_inOrder hw hrun
  obtain ⟨x, hx, -, -⟩ := insertTuntapInterface_ok hrun
  obtain ⟨hdead, -⟩ := hw.unused (Nat.le_refl h.nextId)
  refine ⟨hw', by rw [hx.frame], fun hpos hmap => ?_⟩
  exact hx.mapped hdead hpos ⟨hmap.entry, hmap.opened⟩

theorem destroyLink_rewired {l : LinkId} {u : Unit} (hw : InOrder h)
    (hrun : destroyLink l h = .ok u h') : Rewired h h' := by
  obtain ⟨link, hl, hu⟩ := destroyLink_ok hw hrun
  refine ⟨hu.inOrder hw hl, ?_, fun _ hmap => hu.mapped hw.linked hl hmap⟩
  rw [hu.frame]
  rfl

theorem GraphOp.Builds.rewired {op : GraphOp} {u : Unit} (hop : op.Builds) (hw : InOrder h)
    (hrun : runGraphOp op h = .ok u h') : Rewired h h' := by
  cases op with
  | createGraphNode nodeName =>
      obtain ⟨n, h₁, hcreate, heq⟩ := bind_ok_iff.mp hrun
      cases heq
      exact createGraphNode_rewired hw hcreate
  | insertLinkBetweenTwoNodes n₁ n₂ fromIfname toIfname =>
      exact insertLinkBetweenTwoNodes_rewired hw hrun
  | insertTuntapInterface n name => exact insertTuntapInterface_rewired hw hrun
  | _ => cases hop

theorem GraphOp.Rewires.rewired {op : GraphOp} {u : Unit} (hop : op.Rewires) (hw : InOrder h)
    (hrun : runGraphOp op h = .ok u h') : Rewired h h' := by
  rcases hop with hop | ⟨l, rfl⟩
  · exact hop.rewired hw hrun
  · exact destroyLink_rewired hw hrun

/-! ### Every run -/

theorem Host.Started.mapped (hstart : h.Started) : Mapped h := by
  constructor
  · intro fd j hj
    rw [hstart.fdToCommMap] at hj
    cases hj
  · intro i x hi
    rw [hstart.intf] at hi
    cases hi

theorem rewired_run (hreach : HostReachableBy (fun _ op => op.Rewires) h) :
    InOrder h ∧ ((∀ k, h.sysOpen k ≠ 0) → Mapped h) := by
  induction hreach with
  | init hstart => exact ⟨hstart.inOrder, fun _ => hstart.mapped⟩
  | step _ hop hrun ih =>
      have hstep := GraphOp.Rewires.rewired hop ih.1 hrun
      refine ⟨hstep.inOrder, fun hpos => ?_⟩
      rw [hstep.sysOpen] at hpos
      exact hstep.mapped hpos (ih.2 hpos)

/-! ### Neighbours -/

/-- The other end of a link. -/
theorem InOrder.nbrIf (hw : InOrder h) {l : LinkId} (hi : h.intf i = some x)
    (hl : x.link = some l) : ∃ j y, getNbrIf i h.toWorld = .ok (some j) h.toWorld ∧
      h.intf j = some y ∧ y.link = some l ∧ j ≠ i ∧
      getNbrIf j h.toWorld = .ok (some i) h.toWorld := by
  obtain ⟨link, hlink, hends⟩ := hw.linked.link i x l hi hl
  have hne := hw.linked.distinct l link hlink
  -- what `get_nbr_if` returns at either end
  have hnbr : ∀ {k z}, h.intf k = some z → z.link = some l → getNbrIf k h.toWorld
      = .ok (some (if k = link.intf1 then link.intf2 else link.intf1)) h.toWorld := by
    intro k z hk hz
    rw [getNbrIf, run_bind_ok (derefIntf_ok.mpr ⟨hk, rfl⟩), hz]
    dsimp only
    rw [run_bind_ok (run_get _), hlink]
    rfl
  rcases hends with rfl | rfl
  · obtain ⟨y, hy, hyl⟩ := hw.linked.ends l link link.intf2 hlink (Or.inr rfl)
    refine ⟨link.intf2, y, ?_, hy, hyl, hne.symm, ?_⟩
    · rw [hnbr hi hl, if_pos rfl]
    · rw [hnbr hy hyl, if_neg hne.symm]
  · obtain ⟨y, hy, hyl⟩ := hw.linked.ends l link link.intf1 hlink (Or.inl rfl)
    refine ⟨link.intf1, y, ?_, hy, hyl, hne, ?_⟩
    · rw [hnbr hi hl, if_neg hne.symm]
    · rw [hnbr hy hyl, if_pos rfl]

theorem getNbrNode_run {w : World} (hnbr : getNbrIf i w = .ok (some j) w) (hj : w.intf j = some y) :
    getNbrNode i w = .ok (some y.node) w := by
  rw [getNbrNode, run_bind_ok hnbr]
  dsimp only
  rw [run_bind_ok (derefIntf_ok.mpr ⟨hj, rfl⟩)]
  rfl

/-! ### Completing -/

/-- The nodes and the link a call names are there, with the slots the call needs. -/
def GraphOp.Fits (h : Host) : GraphOp → Prop
  | .createGraphNode _ => True
  | .insertLinkBetweenTwoNodes n₁ n₂ _ _ => ∃ s₁ s₂, (n₁ = n₂ → s₁ ≠ s₂) ∧
      ((h.node n₁).isSome ∧ h.slot n₁ s₁ = none) ∧ (h.node n₂).isSome ∧ h.slot n₂ s₂ = none
  | .insertTuntapInterface n _ => (h.node n).isSome ∧ ∃ s, h.slot n s = none
  | .destroyLink l => (h.link l).isSome
  | _ => False

theorem initInterface_fits {n : NodeId} {s : Fin maxIntfsPerNode} {ct : CommType}
    (name : List UInt8) (link : Option LinkId) (hct : ct ≠ .none) (hn : (h.node n).isSome)
    (hs : h.slot n s = none) : ∃ x h', initInterface i name n link ct h = .ok ⟨⟩ h' ∧
      Attached i x h h' ∧ x.node = n := by
  obtain ⟨node, hn⟩ := Option.isSome_iff_exists.mp hn
  rw [World.slot_eq hn] at hs
  have hfree : (node.intfAvailableSlot).isSome := by
    rw [Node.intfAvailableSlot, List.find?_isSome]
    exact ⟨s, List.mem_finRange s, by rw [hs]; rfl⟩
  obtain ⟨t, ht⟩ := Option.isSome_iff_exists.mp hfree
  obtain ⟨c, h', hrun, -, hx⟩ := initInterface_run (i := i) name link hct hn ht
  exact ⟨_, h', hrun, hx, rfl⟩

theorem insertLinkBetweenTwoNodes_fits {n₁ n₂ : NodeId} {s₁ s₂ : Fin maxIntfsPerNode}
    (fromIfname toIfname : List UInt8) (hne : n₁ = n₂ → s₁ ≠ s₂) (hn₁ : (h.node n₁).isSome)
    (hs₁ : h.slot n₁ s₁ = none) (hn₂ : (h.node n₂).isSome) (hs₂ : h.slot n₂ s₂ = none) :
    Completes (insertLinkBetweenTwoNodes n₁ n₂ fromIfname toIfname) h := by
  have hstart := insertLinkBetweenTwoNodes_eq n₁ n₂ fromIfname toIfname h
  obtain ⟨x, h₁, hrun, hx, hxn⟩ := initInterface_fits (h := h.linkBegun) (i := h.nextId + 1)
    fromIfname (some h.nextId) (by decide : CommType.udp ≠ .none) hn₁ hs₁
  obtain ⟨s, -, -, hslot⟩ := hx.slots
  -- one of the two slots is still free
  obtain ⟨t, ht⟩ : ∃ t, h₁.slot n₂ t = none := by
    by_cases hsame : n₂ = x.node ∧ s₂ = s
    · refine ⟨s₁, ?_⟩
      have hnn : n₁ = n₂ := hxn.symm.trans hsame.1.symm
      rw [hslot, if_neg fun hand => hne hnn (hand.2.trans hsame.2.symm), ← hnn]
      exact hs₁
    · refine ⟨s₂, ?_⟩
      rw [hslot, if_neg hsame]
      exact hs₂
  obtain ⟨y, h₂, hrun₂, -, -⟩ := initInterface_fits (h := h₁) (i := h.nextId + 2) toIfname
    (some h.nextId) (by decide : CommType.udp ≠ .none) ((hx.node_isSome n₂).trans hn₂) ht
  refine ⟨⟨⟩, h₂, hstart.trans ?_⟩
  rw [run_bind_ok hrun]
  exact hrun₂

theorem GraphOp.Fits.completes {op : GraphOp} (hop : op.Fits h) (hw : InOrder h) :
    Completes (runGraphOp op) h := by
  cases op with
  | createGraphNode nodeName => exact ⟨⟨⟩, _, rfl⟩
  | insertLinkBetweenTwoNodes n₁ n₂ fromIfname toIfname =>
      obtain ⟨s₁, s₂, hne, ⟨hn₁, hs₁⟩, hn₂, hs₂⟩ := hop
      exact insertLinkBetweenTwoNodes_fits fromIfname toIfname hne hn₁ hs₁ hn₂ hs₂
  | insertTuntapInterface n name =>
      obtain ⟨hn, s, hs⟩ := hop
      obtain ⟨x, h', hrun, -, -⟩ := initInterface_fits (h := { h with nextId := h.nextId + 1 })
        (i := h.nextId) name none (by decide : CommType.tuntap ≠ .none) hn hs
      exact ⟨⟨⟩, h', hrun⟩
  | destroyLink l =>
      obtain ⟨link, hl⟩ := Option.isSome_iff_exists.mp hop
      obtain ⟨x, hx, -⟩ := hw.linked.ends l link _ hl (Or.inl rfl)
      obtain ⟨y, hy, -⟩ := hw.linked.ends l link _ hl (Or.inr rfl)
      obtain ⟨h', hrun, -⟩ := destroyLink_run hw.slotted hw.linked hl hx hy (hw.filled _) (hw.filled _)
      exact ⟨⟨⟩, h', hrun⟩
  | _ => cases hop

/-! ### The topology -/

/-- Slots, links, neighbours and descriptors agree with each other. -/
structure TopologyOk (h : Host) : Prop where
  /-- A slot holds an interface of its node that is in no other slot. -/
  slots : ∀ n s i, h.slot n s = some i → (∃ x, h.intf i = some x ∧ x.node = n) ∧
    ∀ n' s', h.slot n' s' = some i → n' = n ∧ s' = s
  /-- Both ends of a link are in slots of their nodes. -/
  ends : ∀ l link i, h.link l = some link → link.intf1 = i ∨ link.intf2 = i →
    ∃ x s, h.intf i = some x ∧ x.link = some l ∧ h.slot x.node s = some i
  /-- The neighbour's neighbour is the interface itself, and the neighbour is another one. -/
  neighbours : ∀ i x l, h.intf i = some x → x.link = some l →
    ∃ j y, getNbrIf i h.toWorld = .ok (some j) h.toWorld ∧ h.intf j = some y ∧ y.link = some l ∧
      j ≠ i ∧ getNbrIf j h.toWorld = .ok (some i) h.toWorld ∧
      getNbrNode i h.toWorld = .ok (some y.node) h.toWorld
  /-- A descriptor leads to a live interface that has it. -/
  descriptors : (∀ k, 0 < h.sysOpen k) → ∀ fd i, fdToComm h fd = some i →
    ∃ x, h.intf i = some x ∧ x.comm.fd = fd

theorem InOrder.topologyOk (hw : InOrder h) (hmap : (∀ k, h.sysOpen k ≠ 0) → Mapped h) :
    TopologyOk h := by
  refine ⟨fun n s i hs => ⟨?_, fun n' s' hs' => ?_⟩, fun l link i hl hi => ?_,
    fun i x l hi hl => ?_, fun hpos fd i hfd => ?_⟩
  · obtain ⟨x, hi⟩ := Option.isSome_iff_exists.mp (hw.filled n s i hs)
    exact ⟨x, hi, hw.slotted.back n s i x hs hi⟩
  · exact hw.slotted.once n' n s' s i hs' hs
  · obtain ⟨x, hx, hxl⟩ := hw.linked.ends l link i hl hi
    obtain ⟨s, hs⟩ := hw.slotted.placed i x hx
    exact ⟨x, s, hx, hxl, hs⟩
  · obtain ⟨j, y, hnbr, hj, hjl, hne, hback⟩ := hw.nbrIf hi hl
    exact ⟨j, y, hnbr, hj, hjl, hne, hback, getNbrNode_run hnbr hj⟩
  · unfold fdToComm at hfd
    split at hfd
    · cases hfd
    · rename_i hrange
      obtain ⟨-, x, hx, hxfd⟩ := (hmap fun k => ne_of_gt (hpos k)).entry fd.toNat i hfd
      refine ⟨x, hx, hxfd.trans (Int.toNat_of_nonneg ?_)⟩
      omega

/-- **In every run that builds a graph and takes links out, the topology is in order**, and
every call on nodes with enough free slots completes. -/
theorem topology_run (hreach : HostReachableBy (fun _ op => op.Rewires) h) :
    TopologyOk h ∧ ∀ op : GraphOp, op.Fits h → Completes (runGraphOp op) h := by
  obtain ⟨hw, hmap⟩ := rewired_run hreach
  exact ⟨hw.topologyOk hmap, fun op hop => hop.completes hw⟩

/-- A node `a` with a link from itself to itself. -/
def Fixture.loop : List GraphOp :=
  [.createGraphNode [97], .insertLinkBetweenTwoNodes 0 0 [98] [99]]

theorem topology_run_loop : ∃ h, HostReachableBy (fun _ op => op.Rewires) h ∧ TopologyOk h ∧
    (h.link 1).isSome ∧ Completes (runGraphOp (.destroyLink 1)) h := by
  have hloop : (runGraphOps Fixture.started Fixture.loop).any (fun h => (h.link 1).isSome) = true := by
    decide +kernel
  obtain ⟨h, hrun, hlink⟩ := (Option.any_eq_true _ _).mp hloop
  have hreach : HostReachableBy (fun _ op => op.Rewires) h := by
    refine .runGraphOps (.init Fixture.started_started) (fun op hop => Or.inl ?_) hrun
    rcases List.mem_cons.mp hop with rfl | hop
    · trivial
    · cases List.mem_singleton.mp hop
      trivial
  obtain ⟨hok, hcompletes⟩ := topology_run hreach
  exact ⟨h, hreach, hok, hlink, hcompletes _ hlink⟩

end SimpleTcpip
