/-
Taking interfaces out of the graph.

`destroy_link` follows every slot of the two nodes: it completes when each can be followed, and
stops at one that holds a freed interface.  What it leaves is said once, as a relation, and so
is what `destroy_interface` leaves of a TUN/TAP interface, whose slot keeps the pointer.
-/
import SimpleTcpip.Proofs.Slots

namespace SimpleTcpip

open Fallible

variable {h h' : Host} {w : World} {n m : NodeId} {i j : IntfId} {l : LinkId} {x y : Intf}
  {s t : Fin maxIntfsPerNode}

/-! ### Emptying slots -/

/-- Is what a slot holds an interface of a link? -/
def World.onLink (w : World) (l : LinkId) (o : Option IntfId) : Bool :=
  o.any fun i => (w.intf i).any fun x => x.link == some l

theorem World.onLink_some (hi : w.intf i = some x) :
    w.onLink l (some i) = (x.link == some l) := by
  rw [World.onLink, Option.any_some, hi, Option.any_some]

theorem World.onLink_dead (hi : w.intf i = none) : w.onLink l (some i) = false := by
  rw [World.onLink, Option.any_some, hi, Option.any_none]

/-- The process with the slots emptied that hold an interface of a link, as far as `g` goes. -/
def Host.emptied (h : Host) (l : LinkId) (g : NodeId → Fin maxIntfsPerNode → Prop)
    [∀ m t, Decidable (g m t)] : Host := { h with
  node := fun m => (h.node m).map fun node =>
    { node with
      intfs := fun t => if g m t ∧ h.onLink l (node.intfs t) then none else node.intfs t } }

section Emptied

variable {g g' : NodeId → Fin maxIntfsPerNode → Prop} [∀ m t, Decidable (g m t)]
  [∀ m t, Decidable (g' m t)]

theorem emptied_slot (m : NodeId) (t : Fin maxIntfsPerNode) : (h.emptied l g).slot m t
    = if g m t ∧ h.onLink l (h.slot m t) then none else h.slot m t := by
  unfold World.slot Host.emptied
  dsimp only
  cases h.node m with
  | none => exact (ite_self none).symm
  | some node => rfl

/-- What a slot still holds it held before. -/
theorem emptied_slot_some (ht : (h.emptied l g).slot m t = some i) : h.slot m t = some i := by
  rw [emptied_slot] at ht
  split at ht
  · cases ht
  · exact ht

/-- A freed interface is on no link. -/
theorem emptied_slot_dead (ht : h.slot m t = some i) (hi : h.intf i = none) :
    (h.emptied l g).slot m t = some i := by
  rw [emptied_slot, ht, World.onLink_dead hi, if_neg fun hand => Bool.false_ne_true hand.2]

theorem emptied_isSome (m : NodeId) : ((h.emptied l g).node m).isSome = (h.node m).isSome :=
  Option.isSome_map

theorem emptied_congr (hg : ∀ m t i, h.slot m t = some i → h.onLink l (some i) →
    (g m t ↔ g' m t)) : h.emptied l g = h.emptied l g' := by
  have hnode : (h.emptied l g).node = (h.emptied l g').node := by
    funext m
    show Option.map _ (h.node m) = Option.map _ (h.node m)
    cases hn : h.node m with
    | none => rfl
    | some node =>
        refine congrArg some (congrArg (Node.mk node.name) (funext fun t => ?_))
        cases ht : node.intfs t with
        | none => rw [ite_self, ite_self]
        | some i =>
            refine if_congr (and_congr_left fun hon => ?_) rfl rfl
            exact hg m t i ((World.slot_eq hn t).trans ht) hon
  show { h with node := (h.emptied l g).node } = { h with node := (h.emptied l g').node }
  rw [hnode]

theorem emptied_nothing (hg : ∀ m t i, h.slot m t = some i → h.onLink l (some i) → ¬ g m t) :
    h.emptied l g = h := by
  have hnode : (h.emptied l g).node = h.node := by
    funext m
    show Option.map _ (h.node m) = h.node m
    cases hn : h.node m with
    | none => rfl
    | some node =>
        refine congrArg some (congrArg (Node.mk node.name) (funext fun t => ?_))
        refine if_neg fun hand => ?_
        cases ht : node.intfs t with
        | none =>
            rw [ht] at hand
            cases hand.2
        | some i =>
            rw [ht] at hand
            exact hg m t i ((World.slot_eq hn t).trans ht) hand.2 hand.1
  show { h with node := (h.emptied l g).node } = h
  rw [hnode]

theorem emptied_emptied (h : Host) (l : LinkId) :
    (h.emptied l g).emptied l g' = h.emptied l fun m t => g m t ∨ g' m t := by
  have hnode : ((h.emptied l g).emptied l g').node
      = (h.emptied l fun m t => g m t ∨ g' m t).node := by
    funext m
    show Option.map _ (Option.map _ (h.node m)) = Option.map _ (h.node m)
    cases h.node m with
    | none => rfl
    | some node =>
        refine congrArg some (congrArg (Node.mk node.name) (funext fun t => ?_))
        show (if g' m t ∧ h.onLink l (if g m t ∧ h.onLink l (node.intfs t) then none
            else node.intfs t) then none
          else if g m t ∧ h.onLink l (node.intfs t) then none else node.intfs t)
          = if (g m t ∨ g' m t) ∧ h.onLink l (node.intfs t) then none else node.intfs t
        by_cases hg : g m t ∧ h.onLink l (node.intfs t)
        · rw [if_pos hg, ite_self, if_pos ⟨Or.inl hg.1, hg.2⟩]
        · rw [if_neg hg]
          refine if_congr ⟨fun hand => ⟨Or.inr hand.1, hand.2⟩, fun hand => ?_⟩ rfl rfl
          exact ⟨hand.1.resolve_left fun hgm => hg ⟨hgm, hand.2⟩, hand.2⟩
  show { h with node := ((h.emptied l g).emptied l g').node } = { h with node := _ }
  rw [hnode]
  rfl

end Emptied

theorem clearSlot_run (l : LinkId) (hn : (h.node n).isSome)
    (hlive : ∀ i, h.slot n s = some i → (h.intf i).isSome) :
    clearSlot l n s h = .ok ⟨⟩ (h.emptied l fun m t => m = n ∧ t = s) := by
  obtain ⟨node, hn⟩ := Option.isSome_iff_exists.mp hn
  have hslot := World.slot_eq hn s
  -- nothing but the slot itself may be emptied
  have hkept : h.onLink l (node.intfs s) = false →
      h.emptied l (fun m t => m = n ∧ t = s) = h := by
    refine fun hnot => emptied_nothing fun m t i ht hon hmt => ?_
    rw [hmt.1, hmt.2, hslot] at ht
    rw [← ht, hnot] at hon
    cases hon
  rw [clearSlot, run_bind_ok (derefNode_run hn)]
  cases hs : node.intfs s with
  | none =>
      rw [hkept (by rw [hs]; rfl)]
      rfl
  | some i =>
      obtain ⟨x, hi⟩ := Option.isSome_iff_exists.mp (hlive i (hslot.trans hs))
      dsimp only
      rw [run_bind_ok (derefIntf_run hi)]
      have hon := World.onLink_some (l := l) hi
      by_cases hl : x.link = some l
      · have hnode : Function.update h.node n
            (some { node with intfs := Function.update node.intfs s none })
            = (h.emptied l fun m t => m = n ∧ t = s).node := by
          funext m
          show _ = Option.map _ (h.node m)
          by_cases hm : m = n
          · subst hm
            rw [Function.update_self, hn]
            refine congrArg some (congrArg (Node.mk node.name) (funext fun t => ?_))
            by_cases ht : t = s
            · subst ht
              rw [Function.update_self, if_pos]
              rw [hs, hon, hl, beq_self_eq_true]
              exact ⟨⟨rfl, rfl⟩, rfl⟩
            · rw [Function.update_of_ne ht, if_neg fun hand => ht hand.1.2]
          · rw [Function.update_of_ne hm]
            cases h.node m with
            | none => rfl
            | some other =>
                refine congrArg some (congrArg (Node.mk other.name) (funext fun t => ?_))
                rw [if_neg fun hand => hm hand.1.1]
        rw [if_pos hl, setNode_run, hnode]
        rfl
      · rw [if_neg hl, hkept (by rw [hs, hon, beq_eq_false_iff_ne]; exact hl)]
        rfl

theorem clearSlot_dead (l : LinkId) (hs : h.slot n s = some i) (hi : h.intf i = none) :
    clearSlot l n s h = .error .useAfterFree h := by
  obtain ⟨node, hn, hs⟩ := World.node_of_slot hs
  rw [clearSlot, run_bind_ok (derefNode_run hn), hs]
  exact run_bind_error (derefIntf_dead hi)

/-- The loop of `destroy_link`. -/
def clearSlots (l : LinkId) (n₁ n₂ : NodeId) (ss : List (Fin maxIntfsPerNode)) : G Unit :=
  ss.forM fun s => do
    clearSlot l n₁ s
    clearSlot l n₂ s

variable {n₁ n₂ : NodeId} {ss : List (Fin maxIntfsPerNode)}

theorem clearSlots_cons (l : LinkId) (n₁ n₂ : NodeId) (s : Fin maxIntfsPerNode)
    (ss : List (Fin maxIntfsPerNode)) : clearSlots l n₁ n₂ (s :: ss) = (do
      clearSlot l n₁ s
      clearSlot l n₂ s
      clearSlots l n₁ n₂ ss) := by
  show ((clearSlot l n₁ s >>= fun _ => clearSlot l n₂ s) >>= fun _ => clearSlots l n₁ n₂ ss) = _
  rw [bind_assoc]

theorem clearSlots_run (l : LinkId) (h₁ : (h.node n₁).isSome) (h₂ : (h.node n₂).isSome)
    (hf₁ : h.Filled n₁) (hf₂ : h.Filled n₂) : clearSlots l n₁ n₂ ss h
      = .ok ⟨⟩ (h.emptied l fun m t => (m = n₁ ∨ m = n₂) ∧ t ∈ ss) := by
  induction ss generalizing h with
  | nil =>
      rw [emptied_nothing fun m t i _ _ hand => List.not_mem_nil hand.2]
      rfl
  | cons s ss ih =>
      rw [clearSlots_cons, run_bind_ok (clearSlot_run l h₁ (hf₁ s)),
        run_bind_ok (clearSlot_run l ((emptied_isSome n₂).trans h₂) fun i hi =>
          hf₂ s i (emptied_slot_some hi)), emptied_emptied]
      refine (ih ((emptied_isSome n₁).trans h₁) ((emptied_isSome n₂).trans h₂)
        (fun t i ht => hf₁ t i (emptied_slot_some ht))
        fun t i ht => hf₂ t i (emptied_slot_some ht)).trans ?_
      rw [emptied_emptied]
      congr 1
      refine emptied_congr fun m t i _ _ => ?_
      rw [List.mem_cons]
      tauto

/-- The loop stops at a slot that holds a freed interface. -/
theorem clearSlots_dead (l : LinkId) (h₁ : (h.node n₁).isSome) (h₂ : (h.node n₂).isSome)
    (hm : m = n₁ ∨ m = n₂) (hs : s ∈ ss) (hi : h.slot m s = some i) (hdead : h.intf i = none) :
    ∃ h', clearSlots l n₁ n₂ ss h = .error .useAfterFree h' := by
  induction ss generalizing h with
  | nil => cases hs
  | cons r ss ih =>
      rw [clearSlots_cons]
      by_cases hr1 : ∃ j, h.slot n₁ r = some j ∧ h.intf j = none
      · obtain ⟨j, hj, hdead1⟩ := hr1
        exact ⟨h, run_bind_error (clearSlot_dead l hj hdead1)⟩
      have hlive1 : ∀ j, h.slot n₁ r = some j → (h.intf j).isSome := fun j hj =>
        Option.ne_none_iff_isSome.mp fun hnone => hr1 ⟨j, hj, hnone⟩
      rw [run_bind_ok (clearSlot_run l h₁ hlive1)]
      by_cases hr2 : ∃ j, h.slot n₂ r = some j ∧ h.intf j = none
      · obtain ⟨j, hj, hdead2⟩ := hr2
        refine ⟨_, run_bind_error (clearSlot_dead l ?_ hdead2)⟩
        exact (emptied_slot_dead hj hdead2)
      have hlive2 : ∀ j, h.slot n₂ r = some j → (h.intf j).isSome := fun j hj =>
        Option.ne_none_iff_isSome.mp fun hnone => hr2 ⟨j, hj, hnone⟩
      rw [run_bind_ok (clearSlot_run l ((emptied_isSome n₂).trans h₂) fun j hj =>
        hlive2 j (emptied_slot_some hj)), emptied_emptied]
      refine ih ((emptied_isSome n₁).trans h₁) ((emptied_isSome n₂).trans h₂) ?_
        (emptied_slot_dead hi hdead) hdead
      rcases List.mem_cons.mp hs with rfl | hs
      · rcases hm with rfl | rfl
        · exact absurd ⟨i, hi, hdead⟩ hr1
        · exact absurd ⟨i, hi, hdead⟩ hr2
      · exact hs

/-! ### Closing -/

/-- The backend of interface `i` was closed. -/
structure ClosedComm (i : IntfId) (x : Intf) (h h' : Host) : Prop where
  frame : ∃ y, h' = { h with
    intf := Function.update h.intf i (some y), fdToCommMap := h'.fdToCommMap }
  map : ∀ f j, h'.fdToCommMap f = some j →
    h.fdToCommMap f = some j ∧ (x.comm.fd ≠ 0 → f < maxComms → x.comm.fd ≠ f)

theorem mapped_none {fd : Int} {f : Nat} (hf : (h.mapped fd none).fdToCommMap f = some j) :
    h.fdToCommMap f = some j ∧ (f < maxComms → fd ≠ f) := by
  by_cases hlt : f < maxComms
  · rw [mapped_fdToCommMap h hlt] at hf
    split at hf
    · cases hf
    · rename_i hne
      exact ⟨hf, fun _ heq => hne heq.symm⟩
  · rw [mapped_fdToCommMap_outside h (Nat.le_of_not_lt hlt)] at hf
    exact ⟨hf, fun hlt' => absurd hlt' hlt⟩

theorem closeComm_run (hi : h.intf i = some x) (cleared : Comm → Comm) :
    ∃ h', closeComm i cleared h = .ok true h' ∧ ClosedComm i x h h' := by
  rw [closeComm, run_bind_ok (derefIntf_run hi)]
  by_cases hfd : x.comm.fd ≠ 0
  · obtain ⟨b, hmap⟩ := setFdComm_run x.comm.fd none h
    have hi' : (h.mapped x.comm.fd none).intf i = some x := hi
    rw [if_pos hfd, run_bind_ok hmap, run_bind_ok (setComm_run _ hi')]
    refine ⟨_, rfl, ⟨_, rfl⟩, fun f j hf => ?_⟩
    obtain ⟨hold, hne⟩ := mapped_none hf
    exact ⟨hold, fun _ => hne⟩
  · rw [if_neg hfd]
    refine ⟨h, rfl, ⟨x, ?_⟩, fun f j hf => ⟨hf, fun hne => absurd hne hfd⟩⟩
    rw [← hi, Function.update_eq_self]

theorem destroyInterface_udp (hi : h.intf i = some x) (hc : x.comm.commType = .udp) :
    ∃ h', destroyInterface i h = .ok ⟨⟩ h' ∧ ClosedComm i x h h' := by
  obtain ⟨h', hrun, hclosed⟩ := closeComm_run hi fun c => { c with fd := 0, port := 0 }
  have hdestroy : destroyComm i h = .ok true h' := by
    rw [destroyComm, run_bind_ok (derefIntf_run hi), hc]
    exact hrun
  refine ⟨h', ?_, hclosed⟩
  rw [destroyInterface, run_bind_ok (derefIntf_run hi), run_bind_ok hdestroy, hc]
  rfl

/-- A TUN/TAP interface was closed and freed. -/
structure Freed (i : IntfId) (x : Intf) (h h' : Host) : Prop where
  frame : h' = { h with
    intf := Function.update h.intf i none, fdToCommMap := h'.fdToCommMap
    frees := h.frees ++ [.intf i] }
  map : ∀ f j, h'.fdToCommMap f = some j →
    h.fdToCommMap f = some j ∧ (x.comm.fd ≠ 0 → f < maxComms → x.comm.fd ≠ f)

theorem destroyInterface_tuntap (hi : h.intf i = some x) (hc : x.comm.commType = .tuntap) :
    ∃ h', destroyInterface i h = .ok ⟨⟩ h' ∧ Freed i x h h' := by
  obtain ⟨h₁, hrun, ⟨y, hframe⟩, hmap⟩ := closeComm_run hi fun c => { c with fd := 0 }
  have hdestroy : destroyComm i h = .ok true h₁ := by
    rw [destroyComm, run_bind_ok (derefIntf_run hi), hc]
    exact hrun
  have hi' : h₁.intf i = some y := by
    rw [hframe]
    exact Function.update_self ..
  rw [destroyInterface, run_bind_ok (derefIntf_run hi), run_bind_ok hdestroy, hc, if_pos rfl,
    freeIntf, run_bind_ok (derefIntf_run hi')]
  refine ⟨_, rfl, ?_, hmap⟩
  rw [hframe]
  simp only [Function.update_idem]

/-- `destroy_link` took a link out of the slots and freed it. -/
structure Unlinked (l : LinkId) (link : Link) (h h' : Host) : Prop where
  frame : h' = { h.emptied l (fun _ _ => True) with
    intf := Function.update (Function.update h.intf link.intf1 none) link.intf2 none
    link := Function.update h.link l none
    fdToCommMap := h'.fdToCommMap
    frees := h.frees ++ [.link l, .intf link.intf1, .intf link.intf2] }
  map : ∀ f j, h'.fdToCommMap f = some j → h.fdToCommMap f = some j ∧
    ∀ i x, link.intf1 = i ∨ link.intf2 = i → h.intf i = some x → x.comm.fd ≠ 0 → f < maxComms →
      x.comm.fd ≠ f

theorem destroyLink_eq {link : Link} (hl : h.link l = some link) (hx : h.intf link.intf1 = some x)
    (hy : h.intf link.intf2 = some y) : destroyLink l h = (do
      clearSlots l x.node y.node (List.finRange maxIntfsPerNode)
      destroyInterface link.intf1
      destroyInterface link.intf2
      freeLink l) h := by
  rw [destroyLink, run_bind_ok (derefLink_run hl), run_bind_ok (derefIntf_run hx),
    run_bind_ok (derefIntf_run hy)]
  rfl

/-- **`destroy_link` completes when the slots of both nodes can be followed.** -/
theorem destroyLink_run {link : Link} (hs : Slotted h.toWorld) (hk : Linked h.toWorld)
    (hl : h.link l = some link) (hx : h.intf link.intf1 = some x) (hy : h.intf link.intf2 = some y)
    (hfx : h.Filled x.node) (hfy : h.Filled y.node) :
    ∃ h', destroyLink l h = .ok ⟨⟩ h' ∧ Unlinked l link h h' := by
  have hne := hk.distinct l link hl
  have hlive : ∀ {i z}, h.intf i = some z → (h.node z.node).isSome := by
    intro i z hz
    obtain ⟨s, hs⟩ := hs.placed i z hz
    obtain ⟨node, hnode, -⟩ := World.node_of_slot hs
    rw [hnode]
    rfl
  have hudp : ∀ {i z}, (link.intf1 = i ∨ link.intf2 = i) → h.intf i = some z →
      z.comm.commType = .udp := by
    intro i z hi hz
    obtain ⟨z', hz', hzl⟩ := hk.ends l link i hl hi
    obtain rfl := Option.some.inj (hz.symm.trans hz')
    rw [hk.comm i z hz, hzl]
    rfl
  -- every slot with an end of the link is a slot of one of the two nodes
  have hall : h.emptied l (fun m t => (m = x.node ∨ m = y.node) ∧ t ∈ List.finRange maxIntfsPerNode)
      = h.emptied l fun _ _ => True := by
    refine emptied_congr fun m t i ht hon => ⟨fun _ => trivial, fun _ => ⟨?_, List.mem_finRange t⟩⟩
    cases hi : h.intf i with
    | none =>
        rw [World.onLink_dead hi] at hon
        cases hon
    | some z =>
        rw [World.onLink_some hi, beq_iff_eq] at hon
        obtain ⟨link', hl', hends⟩ := hk.link i z l hi hon
        obtain rfl := Option.some.inj (hl.symm.trans hl')
        have hback := hs.back m t i z ht hi
        rcases hends with rfl | rfl
        · exact Or.inl (hback.symm.trans (congrArg Intf.node (Option.some.inj (hi.symm.trans hx))))
        · exact Or.inr (hback.symm.trans (congrArg Intf.node (Option.some.inj (hi.symm.trans hy))))
  let h₀ : Host := h.emptied l fun _ _ => True
  have hclear : clearSlots l x.node y.node (List.finRange maxIntfsPerNode) h = .ok ⟨⟩ h₀ := by
    rw [clearSlots_run l (hlive hx) (hlive hy) hfx hfy, hall]
  obtain ⟨h₁, hrun1, ⟨x', hframe1⟩, hmap1⟩ :=
    destroyInterface_udp (h := h₀) hx (hudp (Or.inl rfl) hx)
  have hy1 : h₁.intf link.intf2 = some y := by
    rw [hframe1]
    exact (Function.update_of_ne hne.symm ..).trans hy
  obtain ⟨h₂, hrun2, ⟨y', hframe2⟩, hmap2⟩ := destroyInterface_udp hy1 (hudp (Or.inr rfl) hy)
  have hl2 : h₂.link l = some link := by
    rw [hframe2, hframe1]
    exact hl
  rw [destroyLink_eq hl hx hy, run_bind_ok hclear, run_bind_ok hrun1, run_bind_ok hrun2, freeLink,
    run_bind_ok (derefLink_run hl2)]
  refine ⟨_, rfl, ?_, fun f j hf => ?_⟩
  · rw [hframe2, hframe1]
    simp only [Function.update_idem, Function.update_comm hne]
    rfl
  · obtain ⟨hold, hfy⟩ := hmap2 f j hf
    obtain ⟨hold, hfx⟩ := hmap1 f j hold
    refine ⟨hold, fun i z hi hz => ?_⟩
    rcases hi with rfl | rfl
    · obtain rfl := Option.some.inj (hz.symm.trans hx)
      exact hfx
    · obtain rfl := Option.some.inj (hz.symm.trans hy)
      exact hfy

/-! ### What is left -/

theorem update_none_iff {α β : Type} [DecidableEq α] {f : α → Option β} {a b : α} {z : β} :
    Function.update f a none b = some z ↔ f b = some z ∧ b ≠ a := by
  by_cases hba : b = a
  · rw [hba, Function.update_self]
    constructor
    · rintro ⟨⟩
    · exact fun hand => absurd rfl hand.2
  · rw [Function.update_of_ne hba]
    exact ⟨fun hz => ⟨hz, hba⟩, fun hand => hand.1⟩

/-- Is a record allocated? -/
def Host.alive (h : Host) : Record → Bool
  | .node n => (h.node n).isSome
  | .link l => (h.link l).isSome
  | .intf i => (h.intf i).isSome

/-- Between two states, what was freed was allocated before and is not any more. -/
def FreedOnce (h h' : Host) : Prop :=
  ∀ r, h'.frees.count r + (h'.alive r).toNat = h.frees.count r + (h.alive r).toNat

theorem FreedOnce.refl (h : Host) : FreedOnce h h := fun _ => rfl

theorem FreedOnce.trans {h₁ h₂ : Host} (h₀₁ : FreedOnce h h₁) (h₁₂ : FreedOnce h₁ h₂) :
    FreedOnce h h₂ := fun r => (h₁₂ r).trans (h₀₁ r)

/-- Interfaces and links went, and with an interface at most its slot. -/
structure Pruned (h h' : Host) : Prop where
  slot : ∀ m t j, h'.slot m t = some j → h.slot m t = some j
  kept : ∀ m t j, h.slot m t = some j → (h'.intf j).isSome → h'.slot m t = some j
  intf : ∀ j z, h'.intf j = some z → h.intf j = some z
  link : ∀ l k, h'.link l = some k → h.link l = some k
  node : ∀ m, (h'.node m).isSome = (h.node m).isSome
  frees : FreedOnce h h'
  frame : h' = { h with
    node := h'.node, intf := h'.intf, link := h'.link, fdToCommMap := h'.fdToCommMap
    frees := h'.frees }

theorem Pruned.refl (h : Host) : Pruned h h :=
  ⟨fun _ _ _ => id, fun _ _ _ hj _ => hj, fun _ _ => id, fun _ _ => id, fun _ => rfl, .refl h, rfl⟩

theorem Pruned.trans {h₁ h₂ : Host} (h₀₁ : Pruned h h₁) (h₁₂ : Pruned h₁ h₂) : Pruned h h₂ := by
  refine ⟨fun m t j hj => h₀₁.slot m t j (h₁₂.slot m t j hj), fun m t j hj hlive => ?_,
    fun j z hz => h₀₁.intf j z (h₁₂.intf j z hz), fun l k hk => h₀₁.link l k (h₁₂.link l k hk),
    fun m => (h₁₂.node m).trans (h₀₁.node m), h₀₁.frees.trans h₁₂.frees, ?_⟩
  · refine h₁₂.kept m t j (h₀₁.kept m t j hj ?_) hlive
    obtain ⟨z, hz⟩ := Option.isSome_iff_exists.mp hlive
    rw [h₁₂.intf j z hz]
    rfl
  · rw [h₁₂.frame, h₀₁.frame]

theorem Pruned.slotted (hp : Pruned h h') (hs : Slotted h.toWorld) : Slotted h'.toWorld := by
  have hnext : h'.nextId = h.nextId := by rw [hp.frame]
  refine ⟨fun m t j z hj hz => ?_, fun m m' t t' j hj hj' => ?_, fun j z hz => ?_, fun m t j hj => ?_,
    fun m hm => ?_⟩
  · exact hs.back m t j z (hp.slot m t j hj) (hp.intf j z hz)
  · exact hs.once m m' t t' j (hp.slot m t j hj) (hp.slot m' t' j hj')
  · obtain ⟨t, ht⟩ := hs.placed j z (hp.intf j z hz)
    exact ⟨t, hp.kept _ t j ht (by rw [hz]; rfl)⟩
  · rw [hnext]
    exact hs.slotId m t j (hp.slot m t j hj)
  · rw [hnext]
    rw [hp.node] at hm
    exact hs.nodeId m hm

section Unlinked

variable {link : Link}

theorem Unlinked.slot_eq (hu : Unlinked l link h h') (m : NodeId) (t : Fin maxIntfsPerNode) :
    h'.slot m t = if h.onLink l (h.slot m t) then none else h.slot m t := by
  have hnode : h'.slot m t = (h.emptied l fun _ _ => True).slot m t := by
    rw [hu.frame]
    rfl
  rw [hnode, emptied_slot]
  exact if_congr ⟨fun hand => hand.2, fun hon => ⟨trivial, hon⟩⟩ rfl rfl

theorem Unlinked.node_isSome (hu : Unlinked l link h h') (m : NodeId) :
    (h'.node m).isSome = (h.node m).isSome := by
  rw [hu.frame]
  exact emptied_isSome (g := fun _ _ => True) m

theorem Unlinked.intf_eq (hu : Unlinked l link h h') : h'.intf
    = Function.update (Function.update h.intf link.intf1 none) link.intf2 none := by
  rw [hu.frame]

theorem Unlinked.link_eq (hu : Unlinked l link h h') : h'.link = Function.update h.link l none := by
  rw [hu.frame]

/-- What is not on the link stays. -/
theorem Unlinked.intf_iff (hu : Unlinked l link h h') (hk : Linked h.toWorld)
    (hl : h.link l = some link) {z : Intf} :
    h'.intf j = some z ↔ h.intf j = some z ∧ z.link ≠ some l := by
  rw [hu.intf_eq, update_none_iff, update_none_iff, and_assoc]
  refine and_congr_right fun hz => ?_
  constructor
  · rintro ⟨h1, h2⟩ hzl
    obtain ⟨link', hl', hends⟩ := hk.link j z l hz hzl
    obtain rfl := Option.some.inj (hl.symm.trans hl')
    exact hends.elim (fun heq => h1 heq.symm) fun heq => h2 heq.symm
  · intro hzl
    have hend : ¬ (link.intf1 = j ∨ link.intf2 = j) := by
      intro hj
      obtain ⟨x, hx, hxl⟩ := hk.ends l link j hl hj
      obtain rfl := Option.some.inj (hx.symm.trans hz)
      exact hzl hxl
    exact ⟨fun heq => hend (Or.inl heq.symm), fun heq => hend (Or.inr heq.symm)⟩

theorem Unlinked.freedOnce (hu : Unlinked l link h h') (hk : Linked h.toWorld)
    (hl : h.link l = some link) : FreedOnce h h' := by
  have hfrees : h'.frees = h.frees ++ [.link l, .intf link.intf1, .intf link.intf2] := by
    rw [hu.frame]
  have hne := hk.distinct l link hl
  obtain ⟨x, hx, -⟩ := hk.ends l link _ hl (Or.inl rfl)
  obtain ⟨y, hy, -⟩ := hk.ends l link _ hl (Or.inr rfl)
  intro r
  rw [hfrees, List.count_append, Nat.add_assoc]
  congr 1
  cases r with
  | node m =>
      rw [Host.alive, Host.alive, hu.node_isSome]
      simp
  | link k =>
      rw [Host.alive, Host.alive, hu.link_eq]
      by_cases hkl : k = l
      · rw [hkl, Function.update_self, hl]
        simp
      · rw [Function.update_of_ne hkl]
        simp [Ne.symm hkl]
  | intf j =>
      rw [Host.alive, Host.alive, hu.intf_eq]
      by_cases h2 : j = link.intf2
      · rw [h2, Function.update_self, hy]
        simp [hne]
      rw [Function.update_of_ne h2]
      by_cases h1 : j = link.intf1
      · rw [h1, Function.update_self, hx]
        simp [Ne.symm hne]
      · rw [Function.update_of_ne h1]
        simp [Ne.symm h1, Ne.symm h2]

theorem Unlinked.pruned (hu : Unlinked l link h h') (hk : Linked h.toWorld)
    (hl : h.link l = some link) : Pruned h h' := by
  refine ⟨fun m t j hj => ?_, fun m t j hj hlive => ?_,
    fun j z hz => ((hu.intf_iff hk hl).mp hz).1, fun k link' hk' => ?_, hu.node_isSome,
    hu.freedOnce hk hl, ?_⟩
  · rw [hu.slot_eq] at hj
    split at hj
    · cases hj
    · exact hj
  · obtain ⟨z, hz⟩ := Option.isSome_iff_exists.mp hlive
    obtain ⟨hold, hne⟩ := (hu.intf_iff hk hl).mp hz
    rw [hu.slot_eq, hj, World.onLink_some hold, beq_eq_false_iff_ne.mpr hne, if_neg Bool.false_ne_true]
  · rw [hu.link_eq] at hk'
    exact (update_none_iff.mp hk').1
  · rw [hu.frame]
    rfl

theorem Unlinked.linked (hu : Unlinked l link h h') (hk : Linked h.toWorld)
    (hl : h.link l = some link) : Linked h'.toWorld := by
  have hlink : ∀ k link', h'.link k = some link' ↔ h.link k = some link' ∧ k ≠ l := by
    intro k link'
    rw [hu.link_eq]
    exact update_none_iff
  have hnext : h'.nextId = h.nextId := by
    rw [hu.frame]
    rfl
  refine ⟨fun j z k hz hzl => ?_, fun k link' hk' => ?_, fun k link' j hk' hj => ?_, fun k hk' => ?_,
    fun j z hz => ?_⟩
  · obtain ⟨hz, hne⟩ := (hu.intf_iff hk hl).mp hz
    obtain ⟨link', hk', hends⟩ := hk.link j z k hz hzl
    refine ⟨link', (hlink k link').mpr ⟨hk', ?_⟩, hends⟩
    rintro rfl
    exact hne hzl
  · exact hk.distinct k link' ((hlink k link').mp hk').1
  · obtain ⟨hk', hne⟩ := (hlink k link').mp hk'
    obtain ⟨z, hz, hzl⟩ := hk.ends k link' j hk' hj
    refine ⟨z, (hu.intf_iff hk hl).mpr ⟨hz, ?_⟩, hzl⟩
    rw [hzl]
    exact fun heq => hne (Option.some.inj heq)
  · obtain ⟨link', hk'⟩ := Option.isSome_iff_exists.mp hk'
    rw [hnext]
    exact hk.linkId k (by rw [((hlink k link').mp hk').1]; rfl)
  · exact hk.comm j z ((hu.intf_iff hk hl).mp hz).1

/-- No slot is left that cannot be followed. -/
theorem Unlinked.filled (hu : Unlinked l link h h') (hk : Linked h.toWorld)
    (hl : h.link l = some link) (hm : h.Filled m) : h'.Filled m := by
  intro t j hj
  rw [hu.slot_eq] at hj
  split at hj
  · cases hj
  · rename_i hon
    obtain ⟨z, hz⟩ := Option.isSome_iff_exists.mp (hm t j hj)
    rw [hj, World.onLink_some hz, beq_iff_eq] at hon
    rw [(hu.intf_iff hk hl).mpr ⟨hz, hon⟩]
    rfl

theorem Unlinked.mapped (hu : Unlinked l link h h') (hk : Linked h.toWorld)
    (hl : h.link l = some link) (hmap : Mapped h) : Mapped h' := by
  refine ⟨fun f j hf => ?_, fun j z hz => hmap.opened j z ((hu.intf_iff hk hl).mp hz).1⟩
  obtain ⟨hold, hclosed⟩ := hu.map f j hf
  obtain ⟨hlt, z, hz, hzf⟩ := hmap.entry f j hold
  refine ⟨hlt, z, (hu.intf_iff hk hl).mpr ⟨hz, fun hzl => ?_⟩, hzf⟩
  obtain ⟨link', hl', hends⟩ := hk.link j z l hz hzl
  obtain rfl := Option.some.inj (hl.symm.trans hl')
  exact hclosed j z hends hz (hmap.opened j z hz) hlt hzf

end Unlinked

section Freed

theorem Freed.intf_iff (hf : Freed i x h h') {z : Intf} :
    h'.intf j = some z ↔ h.intf j = some z ∧ j ≠ i := by
  rw [hf.frame]
  exact update_none_iff

theorem Freed.node_eq (hf : Freed i x h h') : h'.node = h.node := by
  rw [hf.frame]

theorem Freed.freedOnce (hf : Freed i x h h') (hi : h.intf i = some x) : FreedOnce h h' := by
  have hfrees : h'.frees = h.frees ++ [.intf i] := by
    rw [hf.frame]
  have hlink : h'.link = h.link := by
    rw [hf.frame]
  have hintf : h'.intf = Function.update h.intf i none := by
    rw [hf.frame]
  intro r
  rw [hfrees, List.count_append, Nat.add_assoc]
  congr 1
  cases r with
  | node m =>
      rw [Host.alive, Host.alive, hf.node_eq]
      simp
  | link k =>
      rw [Host.alive, Host.alive, hlink]
      simp
  | intf j =>
      rw [Host.alive, Host.alive, hintf]
      by_cases hji : j = i
      · rw [hji, Function.update_self, hi]
        simp
      · rw [Function.update_of_ne hji]
        simp [Ne.symm hji]

theorem Freed.pruned (hf : Freed i x h h') (hi : h.intf i = some x) : Pruned h h' := by
  have hslot := World.slot_congr hf.node_eq
  refine ⟨fun m t j hj => (hslot m t).symm.trans hj, fun m t j hj _ => (hslot m t).trans hj,
    fun j z hz => (hf.intf_iff.mp hz).1, fun l k hk => ?_, fun m => by rw [hf.node_eq],
    hf.freedOnce hi, ?_⟩
  · rw [hf.frame] at hk
    exact hk
  · rw [hf.frame]

theorem Freed.linked (hf : Freed i x h h') (hk : Linked h.toWorld) (hi : h.intf i = some x)
    (hx : x.link = none) : Linked h'.toWorld := by
  have hlink : h'.link = h.link := by
    rw [hf.frame]
  have hnext : h'.nextId = h.nextId := by
    rw [hf.frame]
  refine ⟨fun j z k hz hzl => ?_, fun k link hk' => ?_, fun k link j hk' hj => ?_, fun k hk' => ?_,
    fun j z hz => hk.comm j z (hf.intf_iff.mp hz).1⟩
  · rw [hlink]
    exact hk.link j z k (hf.intf_iff.mp hz).1 hzl
  · rw [hlink] at hk'
    exact hk.distinct k link hk'
  · rw [hlink] at hk'
    obtain ⟨z, hz, hzl⟩ := hk.ends k link j hk' hj
    refine ⟨z, hf.intf_iff.mpr ⟨hz, ?_⟩, hzl⟩
    rintro rfl
    rw [← Option.some.inj (hi.symm.trans hz), hx] at hzl
    cases hzl
  · rw [hlink] at hk'
    rw [hnext]
    exact hk.linkId k hk'

end Freed

end SimpleTcpip
