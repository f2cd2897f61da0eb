/-
Tearing the graph down: `destroy_node` on some nodes, and then `destroy_graph`.

`destroy_node` goes through the slots in order.  It frees a TUN/TAP interface and leaves the
pointer in its slot, so a link in a later slot cannot be destroyed any more: `destroy_link`
follows every slot of its two nodes.  Where no node has its slots in that order, every record
is freed exactly once.
-/
import SimpleTcpip.Proofs.Wiring

namespace SimpleTcpip

open Fallible

variable {h h' : Host} {n m : NodeId} {i j : IntfId} {l : LinkId} {x y z : Intf}
  {s t : Fin maxIntfsPerNode} {ss : List (Fin maxIntfsPerNode)}

/-! ### The slots of one node -/

/-- The live interface in a slot. -/
def World.intfAt (w : World) (n : NodeId) (s : Fin maxIntfsPerNode) : Option Intf :=
  (w.slot n s).bind w.intf

theorem World.intfAt_some {w : World} : w.intfAt n s = some x ↔
    ∃ i, w.slot n s = some i ∧ w.intf i = some x := Option.bind_eq_some_iff

/-- A node while `destroy_node` is at the first of the slots `ss`: what is still in an earlier
slot was freed, and all the rest of the graph can be followed. -/
structure Clearing (n : NodeId) (ss : List (Fin maxIntfsPerNode)) (h : Host) : Prop where
  slotted : Slotted h.toWorld
  linked : Linked h.toWorld
  others : ∀ m, m ≠ n → h.Filled m
  live : (h.node n).isSome
  ahead : ∀ s ∈ ss, ∀ i, h.slot n s = some i → (h.intf i).isSome
  behind : ∀ s, s ∉ ss → h.intfAt n s = none

/-- A slot before `ss` holds an interface that was freed. -/
def Stale (n : NodeId) (ss : List (Fin maxIntfsPerNode)) (h : Host) : Prop :=
  ∃ s, s ∉ ss ∧ h.slot n s ≠ none

/-- Of the slots `ss`, one holds a TUN/TAP interface and a later one a link that no slot before
both holds. -/
def Barred (n : NodeId) (ss : List (Fin maxIntfsPerNode)) (h : Host) : Prop :=
  ∃ s ∈ ss, ∃ t ∈ ss, s < t ∧ ∃ x y l, h.intfAt n s = some x ∧ x.link = none ∧
    h.intfAt n t = some y ∧ y.link = some l ∧
    ∀ r ∈ ss, r < s → ∀ z, h.intfAt n r = some z → z.link ≠ some l

/-- The loop of `destroy_node` will meet a freed interface. -/
def Stops (n : NodeId) (ss : List (Fin maxIntfsPerNode)) (h : Host) : Prop :=
  (Stale n ss h ∧ ∃ t ∈ ss, ∃ y l, h.intfAt n t = some y ∧ y.link = some l) ∨ Barred n ss h

/-- An interface that has nothing to do with a node, nor has the other end of its link. -/
def AwayFrom (w : World) (n : NodeId) (z : Intf) : Prop := z.node ≠ n ∧
  ∀ l, z.link = some l → ∀ i y, w.intf i = some y → y.link = some l → y.node ≠ n

/-- What is left of the graph, while everything on node `n` goes. -/
structure Cleared (n : NodeId) (h h' : Host) : Prop extends Pruned h h' where
  spared : ∀ j z, h.intf j = some z → AwayFrom h.toWorld n z → h'.intf j = some z

theorem Cleared.refl (n : NodeId) (h : Host) : Cleared n h h :=
  ⟨.refl h, fun _ _ hz _ => hz⟩

theorem Cleared.trans {h₁ h₂ : Host} (h₀₁ : Cleared n h h₁) (h₁₂ : Cleared n h₁ h₂) :
    Cleared n h h₂ := by
  refine ⟨h₀₁.toPruned.trans h₁₂.toPruned, fun j z hz haway => ?_⟩
  refine h₁₂.spared j z (h₀₁.spared j z hz haway) ⟨haway.1, fun l hl i y hy hyl => ?_⟩
  exact haway.2 l hl i y (h₀₁.intf i y hy) hyl

/-! ### One slot -/

/-- What a step did to the slots ahead. -/
theorem Pruned.intfAt_of (hp : Pruned h h') (hz : h'.intfAt m t = some z) :
    h.intfAt m t = some z := by
  obtain ⟨j, hj, hz⟩ := World.intfAt_some.mp hz
  exact World.intfAt_some.mpr ⟨j, hp.slot m t j hj, hp.intf j z hz⟩

theorem Clearing.tail_of_pruned (hc : Clearing n (s :: ss) h) (hp : Pruned h h')
    (hlinked : Linked h'.toWorld) (hfilled : ∀ m, m ≠ n → h'.Filled m)
    (hahead : ∀ t ∈ ss, ∀ i, h'.slot n t = some i → (h'.intf i).isSome)
    (hs : h'.intfAt n s = none) : Clearing n ss h' := by
  refine ⟨hp.slotted hc.slotted, hlinked, hfilled, (hp.node n).trans hc.live, hahead, fun t ht => ?_⟩
  by_cases hts : t = s
  · rw [hts, hs]
  · have hnone := hc.behind t fun hmem => ht ((List.mem_cons.mp hmem).resolve_left hts)
    rw [← Option.not_isSome_iff_eq_none]
    intro hsome
    obtain ⟨z, hz⟩ := Option.isSome_iff_exists.mp hsome
    rw [hp.intfAt_of hz] at hnone
    cases hnone

theorem destroySlot_none (hc : Clearing n (s :: ss) h) (hs : h.slot n s = none) :
    destroySlot n s h = .ok ⟨⟩ h ∧ Clearing n ss h ∧ (Stops n (s :: ss) h ↔ Stops n ss h) := by
  have hat : h.intfAt n s = none := by rw [World.intfAt, hs]; rfl
  obtain ⟨node, hn⟩ := Option.isSome_iff_exists.mp hc.live
  have hnotin : ∀ {t}, (∃ y, h.intfAt n t = some y) → t ∈ s :: ss → t ∈ ss := by
    rintro t ⟨y, hy⟩ ht
    rcases List.mem_cons.mp ht with rfl | ht
    · rw [hat] at hy
      cases hy
    · exact ht
  refine ⟨?_, hc.tail_of_pruned (.refl h) hc.linked hc.others
    (fun t ht => hc.ahead t (List.mem_cons_of_mem s ht)) hat, ⟨?_, ?_⟩⟩
  · rw [destroySlot, run_bind_ok (derefNode_run hn), ← World.slot_eq hn, hs]
    rfl
  · rintro (⟨⟨r, hr, hslot⟩, t, ht, y, l, hy, hl⟩ | ⟨r, hr, t, ht, hlt, x, y, l, hx, hxl, hy, hyl, hno⟩)
    · exact Or.inl ⟨⟨r, fun hmem => hr (List.mem_cons_of_mem s hmem), hslot⟩, t,
        hnotin ⟨y, hy⟩ ht, y, l, hy, hl⟩
    · exact Or.inr ⟨r, hnotin ⟨x, hx⟩ hr, t, hnotin ⟨y, hy⟩ ht, hlt, x, y, l, hx, hxl, hy, hyl,
        fun q hq => hno q (List.mem_cons_of_mem s hq)⟩
  · rintro (⟨⟨r, hr, hslot⟩, t, ht, y, l, hy, hl⟩ | ⟨r, hr, t, ht, hlt, x, y, l, hx, hxl, hy, hyl, hno⟩)
    · refine Or.inl ⟨⟨r, fun hmem => ?_, hslot⟩, t, List.mem_cons_of_mem s ht, y, l, hy, hl⟩
      rcases List.mem_cons.mp hmem with rfl | hmem
      · exact hslot hs
      · exact hr hmem
    · exact Or.inr ⟨r, List.mem_cons_of_mem s hr, t, List.mem_cons_of_mem s ht, hlt, x, y, l, hx, hxl,
        hy, hyl, fun q hq hqr z hz => hno q (hnotin ⟨z, hz⟩ hq) hqr z hz⟩

/-- A TUN/TAP interface is freed, and its slot keeps the pointer. -/
theorem destroySlot_tuntap (hc : Clearing n (s :: ss) h) (hnot : s ∉ ss) (hs : h.slot n s = some i)
    (hi : h.intf i = some x) (hx : x.link = none) (hord : ∀ t ∈ ss, s < t) :
    ∃ h', destroySlot n s h = .ok ⟨⟩ h' ∧ Clearing n ss h' ∧ Cleared n h h' ∧
      (Stops n (s :: ss) h ↔ Stops n ss h') := by
  obtain ⟨node, hn⟩ := Option.isSome_iff_exists.mp hc.live
  have hcomm : x.comm.commType = .tuntap := by
    rw [hc.linked.comm i x hi, hx]
    rfl
  obtain ⟨h', hrun, hf⟩ := destroyInterface_tuntap hi hcomm
  have hp := hf.pruned hi
  have hslot := World.slot_congr hf.node_eq
  have hxn : x.node = n := hc.slotted.back n s i x hs hi
  -- another slot holds another interface
  have hother : ∀ {t}, t ≠ s → h'.intfAt n t = h.intfAt n t := by
    intro t hts
    unfold World.intfAt
    rw [hslot]
    cases ht : h.slot n t with
    | none => rfl
    | some j =>
        have hji : j ≠ i := by
          rintro rfl
          exact hts (hc.slotted.once n n t s j ht hs).2
        rw [Option.bind_some, Option.bind_some, hf.frame]
        exact Function.update_of_ne hji ..
  have hat : h.intfAt n s = some x := World.intfAt_some.mpr ⟨i, hs, hi⟩
  have hgone : h'.intfAt n s = none := by
    unfold World.intfAt
    rw [hslot, hs, Option.bind_some, hf.frame]
    exact Function.update_self ..
  have hlive : ∀ m t j, (m ≠ n ∨ t ≠ s) → h.slot m t = some j → (h.intf j).isSome →
      (h'.intf j).isSome := by
    intro m t j hne hj hlive
    obtain ⟨z, hz⟩ := Option.isSome_iff_exists.mp hlive
    rw [hf.intf_iff.mpr ⟨hz, ?_⟩]
    · rfl
    · rintro rfl
      have hsame := hc.slotted.once m n t s j hj hs
      exact hne.elim (fun h => h hsame.1) fun h => h hsame.2
  refine ⟨h', ?_, hc.tail_of_pruned hp (hf.linked hc.linked hi hx) ?_ ?_ hgone, ⟨hp, ?_⟩, ?_⟩
  · rw [destroySlot, run_bind_ok (derefNode_run hn), ← World.slot_eq hn, hs]
    dsimp only
    rw [run_bind_ok (derefIntf_run hi), hx]
    exact hrun
  · intro m hm t j hj
    rw [hslot] at hj
    exact hlive m t j (Or.inl hm) hj (hc.others m hm t j hj)
  · intro t ht j hj
    rw [hslot] at hj
    have hts : t ≠ s := fun heq => hnot (heq ▸ ht)
    exact hlive n t j (Or.inr hts) hj (hc.ahead t (List.mem_cons_of_mem s ht) j hj)
  · intro j z hz haway
    refine hf.intf_iff.mpr ⟨hz, ?_⟩
    rintro rfl
    rw [← Option.some.inj (hi.symm.trans hz)] at haway
    exact haway.1 hxn
  -- from here on a link in a later slot stops the loop, and only that does
  · have hahead : (∃ t ∈ ss, ∃ y l, h.intfAt n t = some y ∧ y.link = some l) ↔ Stops n ss h' := by
      constructor
      · rintro ⟨t, ht, y, l, hy, hl⟩
        refine Or.inl ⟨⟨s, hnot, by rw [hslot, hs]; exact Option.some_ne_none i⟩, t, ht, y, l, ?_, hl⟩
        rw [hother fun heq => hnot (heq ▸ ht)]
        exact hy
      · rintro (⟨-, t, ht, y, l, hy, hl⟩ | ⟨-, -, t, ht, -, -, y, l, -, -, hy, hl, -⟩)
        · exact ⟨t, ht, y, l, hp.intfAt_of hy, hl⟩
        · exact ⟨t, ht, y, l, hp.intfAt_of hy, hl⟩
    have hlater : ∀ {t y l}, t ∈ s :: ss → h.intfAt n t = some y → y.link = some l → t ∈ ss := by
      intro t y l ht hy hl
      rcases List.mem_cons.mp ht with rfl | ht
      · rw [← Option.some.inj (hat.symm.trans hy), hx] at hl
        cases hl
      · exact ht
    rw [← hahead]
    constructor
    · rintro (⟨-, t, ht, y, l, hy, hl⟩ | ⟨-, -, t, ht, -, -, y, l, -, -, hy, hl, -⟩)
      · exact ⟨t, hlater ht hy hl, y, l, hy, hl⟩
      · exact ⟨t, hlater ht hy hl, y, l, hy, hl⟩
    · rintro ⟨t, ht, y, l, hy, hl⟩
      refine Or.inr ⟨s, List.mem_cons_self, t, List.mem_cons_of_mem s ht, hord t ht, x, y, l, hat, hx,
        hy, hl, fun r hr hrs => ?_⟩
      rcases List.mem_cons.mp hr with rfl | hr
      · exact absurd hrs (lt_irrefl _)
      · exact absurd hrs (lt_asymm (hord r hr))

/-- The nodes of a link whose ends are live. -/
theorem Linked.both {w : World} (hk : Linked w) (hi : w.intf i = some x) (hl : x.link = some l) :
    ∃ link y z, w.link l = some link ∧ (link.intf1 = i ∨ link.intf2 = i) ∧
      w.intf link.intf1 = some y ∧ w.intf link.intf2 = some z := by
  obtain ⟨link, hlink, hends⟩ := hk.link i x l hi hl
  obtain ⟨y, hy, -⟩ := hk.ends l link _ hlink (Or.inl rfl)
  obtain ⟨z, hz, -⟩ := hk.ends l link _ hlink (Or.inr rfl)
  exact ⟨link, y, z, hlink, hends, hy, hz⟩

/-- A link cannot be destroyed while its node has a freed interface in a slot. -/
theorem destroySlot_stale (hc : Clearing n (s :: ss) h) (hstale : Stale n (s :: ss) h)
    (hs : h.slot n s = some i) (hi : h.intf i = some x) (hl : x.link = some l) :
    ∃ h', destroySlot n s h = .error .useAfterFree h' := by
  obtain ⟨node, hn⟩ := Option.isSome_iff_exists.mp hc.live
  obtain ⟨link, y, z, hlink, hends, hy, hz⟩ := hc.linked.both hi hl
  have hnode : ∀ {j z}, h.intf j = some z → (h.node z.node).isSome := by
    intro j z hz
    obtain ⟨t, ht⟩ := hc.slotted.placed j z hz
    obtain ⟨node, hnode, -⟩ := World.node_of_slot ht
    rw [hnode]
    rfl
  have hxn : n = y.node ∨ n = z.node := by
    have hback := hc.slotted.back n s i x hs hi
    rcases hends with rfl | rfl
    · exact Or.inl (hback.symm.trans (congrArg Intf.node (Option.some.inj (hi.symm.trans hy))))
    · exact Or.inr (hback.symm.trans (congrArg Intf.node (Option.some.inj (hi.symm.trans hz))))
  obtain ⟨r, hr, hslot⟩ := hstale
  obtain ⟨j, hj⟩ := Option.ne_none_iff_exists'.mp hslot
  have hdead : h.intf j = none := by
    have hnone := hc.behind r hr
    rwa [World.intfAt, hj] at hnone
  obtain ⟨h', hrun⟩ := clearSlots_dead l (hnode hy) (hnode hz) hxn (List.mem_finRange r) hj hdead
  refine ⟨h', ?_⟩
  rw [destroySlot, run_bind_ok (derefNode_run hn), ← World.slot_eq hn, hs]
  dsimp only
  rw [run_bind_ok (derefIntf_run hi), hl]
  dsimp only
  rw [destroyLink_eq hlink hy hz]
  exact run_bind_error hrun

/-- A link is destroyed, and with it go its ends from all slots. -/
theorem destroySlot_link (hc : Clearing n (s :: ss) h) (hnot : s ∉ ss)
    (hstale : ¬ Stale n (s :: ss) h) (hs : h.slot n s = some i) (hi : h.intf i = some x)
    (hl : x.link = some l) (hord : ∀ t ∈ ss, s < t) :
    ∃ h', destroySlot n s h = .ok ⟨⟩ h' ∧ Clearing n ss h' ∧ Cleared n h h' ∧
      (Stops n (s :: ss) h ↔ Stops n ss h') := by
  obtain ⟨node, hn⟩ := Option.isSome_iff_exists.mp hc.live
  obtain ⟨link, y, z, hlink, hends, hy, hz⟩ := hc.linked.both hi hl
  have hempty : ∀ t, t ∉ s :: ss → h.slot n t = none := fun t ht =>
    Classical.byContradiction fun hslot => hstale ⟨t, ht, hslot⟩
  have hfilled : ∀ m, h.Filled m := by
    intro m
    by_cases hm : m = n
    · subst hm
      intro t j hj
      by_cases ht : t ∈ s :: ss
      · exact hc.ahead t ht j hj
      · rw [hempty t ht] at hj
        cases hj
    · exact hc.others m hm
  obtain ⟨h', hrun, hu⟩ := destroyLink_run hc.slotted hc.linked hlink hy hz (hfilled _) (hfilled _)
  have hp := hu.pruned hc.linked hlink
  have hxn : x.node = n := hc.slotted.back n s i x hs hi
  have hat : h.intfAt n s = some x := World.intfAt_some.mpr ⟨i, hs, hi⟩
  -- the slots after it hold what they held, the link apart
  have hiff : ∀ t v, h'.intfAt n t = some v ↔ h.intfAt n t = some v ∧ v.link ≠ some l := by
    intro t v
    constructor
    · intro hv
      obtain ⟨j, -, hjv⟩ := World.intfAt_some.mp hv
      exact ⟨hp.intfAt_of hv, ((hu.intf_iff hc.linked hlink).mp hjv).2⟩
    · rintro ⟨hv, hne⟩
      obtain ⟨j, hj, hjv⟩ := World.intfAt_some.mp hv
      have hlive := (hu.intf_iff hc.linked hlink).mpr ⟨hjv, hne⟩
      exact World.intfAt_some.mpr ⟨j, hp.kept n t j hj (by rw [hlive]; rfl), hlive⟩
  have hgone : h'.slot n s = none := by
    rw [hu.slot_eq, hs, World.onLink_some hi, hl, beq_self_eq_true, if_pos rfl]
  have hfresh : ¬ Stale n ss h' := by
    rintro ⟨t, ht, hslot⟩
    by_cases hts : t = s
    · exact hslot (hts ▸ hgone)
    · obtain ⟨j, hj⟩ := Option.ne_none_iff_exists'.mp hslot
      have hold := hp.slot n t j hj
      rw [hempty t fun hmem => ht ((List.mem_cons.mp hmem).resolve_left hts)] at hold
      cases hold
  have hlater : ∀ {t}, t ∈ s :: ss → (∃ v, h.intfAt n t = some v ∧ v.link ≠ some l) → t ∈ ss := by
    rintro t ht ⟨v, hv, hne⟩
    rcases List.mem_cons.mp ht with rfl | ht
    · rw [← Option.some.inj (hat.symm.trans hv)] at hne
      exact absurd hl hne
    · exact ht
  refine ⟨h', ?_, hc.tail_of_pruned hp (hu.linked hc.linked hlink) ?_ ?_ ?_, ⟨hp, ?_⟩, ?_, ?_⟩
  · rw [destroySlot, run_bind_ok (derefNode_run hn), ← World.slot_eq hn, hs]
    dsimp only
    rw [run_bind_ok (derefIntf_run hi), hl]
    exact hrun
  · exact fun m _ => hu.filled hc.linked hlink (hfilled m)
  · exact fun t _ => hu.filled hc.linked hlink (hfilled n) t
  · rw [World.intfAt, hgone]
    rfl
  · refine fun j v hv haway => (hu.intf_iff hc.linked hlink).mpr ⟨hv, fun hvl => ?_⟩
    exact haway.2 l hvl i x hi hl hxn
  · rintro (⟨hst, -⟩ | ⟨r, hr, t, ht, hlt, v, u, k, hv, hvl, hu', hul, hno⟩)
    · exact absurd hst hstale
    · have hvne : v.link ≠ some l := by
        rw [hvl]
        exact (Option.some_ne_none l).symm
      have hrs : r ∈ ss := hlater hr ⟨v, hv, hvne⟩
      have hkl : u.link ≠ some l := by
        rw [hul]
        intro heq
        exact hno s List.mem_cons_self (hord r hrs) x hat (hl.trans heq.symm)
      refine Or.inr ⟨r, hrs, t, hlater ht ⟨u, hu', hkl⟩, hlt, v, u, k, (hiff r v).mpr ⟨hv, hvne⟩, hvl,
        (hiff t u).mpr ⟨hu', hkl⟩, hul, fun q hq hqr w hw => ?_⟩
      exact hno q (List.mem_cons_of_mem s hq) hqr w ((hiff q w).mp hw).1
  · rintro (⟨hst, -⟩ | ⟨r, hr, t, ht, hlt, v, u, k, hv, hvl, hu', hul, hno⟩)
    · exact absurd hst hfresh
    · obtain ⟨hu', hkl⟩ := (hiff t u).mp hu'
      refine Or.inr ⟨r, List.mem_cons_of_mem s hr, t, List.mem_cons_of_mem s ht, hlt, v, u, k,
        ((hiff r v).mp hv).1, hvl, hu', hul, fun q hq hqr w hw hwk => ?_⟩
      have hwl : w.link ≠ some l := fun heq => hkl (hul.trans (hwk.symm.trans heq))
      exact hno q (hlater hq ⟨w, hw, hwl⟩) hqr w ((hiff q w).mpr ⟨hw, hwl⟩) hwk

/-- **One slot**: it is cleared, or the loop has met a freed interface. -/
theorem destroySlot_step (hc : Clearing n (s :: ss) h) (hord : (s :: ss).Pairwise (· < ·)) :
    (∃ h', destroySlot n s h = .ok ⟨⟩ h' ∧ Clearing n ss h' ∧ Cleared n h h' ∧
      (Stops n (s :: ss) h ↔ Stops n ss h')) ∨
    Stops n (s :: ss) h ∧ ∃ h', destroySlot n s h = .error .useAfterFree h' := by
  obtain ⟨hlt, -⟩ := List.pairwise_cons.mp hord
  have hnot : s ∉ ss := fun hmem => lt_irrefl s (hlt s hmem)
  cases hs : h.slot n s with
  | none =>
      obtain ⟨hrun, hc', hiff⟩ := destroySlot_none hc hs
      exact Or.inl ⟨h, hrun, hc', .refl n h, hiff⟩
  | some i =>
      obtain ⟨x, hi⟩ := Option.isSome_iff_exists.mp (hc.ahead s List.mem_cons_self i hs)
      cases hl : x.link with
      | none => exact Or.inl (destroySlot_tuntap hc hnot hs hi hl hlt)
      | some l =>
          by_cases hstale : Stale n (s :: ss) h
          · refine Or.inr ⟨Or.inl ⟨hstale, s, List.mem_cons_self, x, l, ?_, hl⟩,
              destroySlot_stale hc hstale hs hi hl⟩
            exact World.intfAt_some.mpr ⟨i, hs, hi⟩
          · exact Or.inl (destroySlot_link hc hnot hstale hs hi hl hlt)

/-- The loop of `destroy_node`, from any slot on. -/
theorem destroySlots_run (hc : Clearing n ss h) (hord : ss.Pairwise (· < ·)) :
    (¬ Stops n ss h ∧ ∃ h', ss.forM (destroySlot n) h = .ok ⟨⟩ h' ∧ Clearing n [] h' ∧
      Cleared n h h') ∨
    Stops n ss h ∧ ∃ h', ss.forM (destroySlot n) h = .error .useAfterFree h' := by
  induction ss generalizing h with
  | nil =>
      refine Or.inl ⟨?_, h, rfl, hc, .refl n h⟩
      rintro (⟨-, t, ht, -⟩ | ⟨r, hr, -⟩)
      · cases ht
      · cases hr
  | cons s ss ih =>
      have hforM : (s :: ss).forM (destroySlot n) = (do
          destroySlot n s
          ss.forM (destroySlot n)) := rfl
      rw [hforM]
      rcases destroySlot_step hc hord with ⟨h₁, hrun, hc₁, hcl₁, hiff⟩ | ⟨hstops, h', hrun⟩
      · rw [run_bind_ok hrun, hiff]
        rcases ih hc₁ (List.pairwise_cons.mp hord).2 with ⟨hgo, h₂, hrun₂, hc₂, hcl₂⟩ | hstop
        · exact Or.inl ⟨hgo, h₂, hrun₂, hc₂, hcl₁.trans hcl₂⟩
        · exact Or.inr hstop
      · exact Or.inr ⟨hstops, h', run_bind_error hrun⟩

/-! ### One node -/

/-- In the slots of a node, a TUN/TAP interface comes before every end of a link, one whose
nodes are not among those that are gone. -/
def TapFirst (h : Host) (gone : List NodeId) (n : NodeId) : Prop :=
  ∃ s t, s < t ∧ ∃ x y l, h.intfAt n s = some x ∧ x.link = none ∧
    h.intfAt n t = some y ∧ y.link = some l ∧
    (∀ r, r < s → ∀ z, h.intfAt n r = some z → z.link ≠ some l) ∧
    ∀ i z, h.intf i = some z → z.link = some l → z.node ∉ gone

/-- `destroy_node` took a node out of the graph, with everything on it. -/
structure Removed (n : NodeId) (h h' : Host) : Prop where
  inOrder : InOrder h'
  nodes : h'.nodes = h.nodes.erase n
  frees : FreedOnce h h'
  intf : ∀ j z, h'.intf j = some z ↔ h.intf j = some z ∧ AwayFrom h.toWorld n z
  slot : ∀ m t j, h'.slot m t = some j → h.slot m t = some j
  kept : ∀ m t j, m ≠ n → h.slot m t = some j → (h'.intf j).isSome → h'.slot m t = some j

theorem InOrder.clearing (hw : InOrder h) (hn : n ∈ h.nodes) :
    Clearing n (List.finRange maxIntfsPerNode) { h with nodes := h.nodes.erase n } where
  slotted := hw.slotted
  linked := hw.linked
  others m _ := hw.filled m
  live := (hw.nodes n).mp hn
  ahead s _ := hw.filled n s
  behind s hs := absurd (List.mem_finRange s) hs

theorem stops_iff_tapFirst :
    Stops n (List.finRange maxIntfsPerNode) { h with nodes := h.nodes.erase n } ↔
      TapFirst h [] n := by
  constructor
  · rintro (⟨⟨s, hs, -⟩, -⟩ | ⟨s, -, t, -, hlt, x, y, l, hx, hxl, hy, hyl, hno⟩)
    · exact absurd (List.mem_finRange s) hs
    · exact ⟨s, t, hlt, x, y, l, hx, hxl, hy, hyl, fun r => hno r (List.mem_finRange r),
        fun _ _ _ _ => List.not_mem_nil⟩
  · rintro ⟨s, t, hlt, x, y, l, hx, hxl, hy, hyl, hno, -⟩
    exact Or.inr ⟨s, List.mem_finRange s, t, List.mem_finRange t, hlt, x, y, l, hx, hxl, hy, hyl,
      fun r _ => hno r⟩

/-- A node on which no interface is left was freed, and its tables before it. -/
structure Emptied (n : NodeId) (h h' : Host) : Prop where
  frame : h' = { h with
    arpTable := h'.arpTable, rtTable := h'.rtTable
    node := Function.update h.node n none, frees := h.frees ++ [.node n] }
  off : ∀ j z, h.intf j = some z → z.node ≠ n

namespace Emptied

theorem node_eq (he : Emptied n h h') : h'.node = Function.update h.node n none := by
  rw [he.frame]

theorem intf_eq (he : Emptied n h h') : h'.intf = h.intf := by
  rw [he.frame]

theorem link_eq (he : Emptied n h h') : h'.link = h.link := by
  rw [he.frame]

theorem nextId_eq (he : Emptied n h h') : h'.nextId = h.nextId := by
  rw [he.frame]

theorem slot_iff (he : Emptied n h h') :
    h'.slot m t = some j ↔ h.slot m t = some j ∧ m ≠ n := by
  unfold World.slot
  rw [he.node_eq]
  by_cases hm : m = n
  · rw [hm, Function.update_self]
    exact ⟨fun hj => (Option.some_ne_none j hj.symm).elim, fun hand => absurd rfl hand.2⟩
  · rw [Function.update_of_ne hm]
    exact ⟨fun hj => ⟨hj, hm⟩, fun hand => hand.1⟩

theorem isSome_iff (he : Emptied n h h') :
    (h'.node m).isSome ↔ (h.node m).isSome ∧ m ≠ n := by
  rw [he.node_eq]
  by_cases hm : m = n
  · rw [hm, Function.update_self]
    exact ⟨fun hfalse => (Bool.false_ne_true hfalse).elim, fun hand => absurd rfl hand.2⟩
  · rw [Function.update_of_ne hm]
    exact ⟨fun hsome => ⟨hsome, hm⟩, fun hand => hand.1⟩

theorem slotted (he : Emptied n h h') (hs : Slotted h.toWorld) : Slotted h'.toWorld := by
  refine ⟨fun m t j z hj hz => ?_, fun m m' t t' j hj hj' => ?_, fun j z hz => ?_, fun m t j hj => ?_,
    fun m hm => ?_⟩
  · rw [he.intf_eq] at hz
    exact hs.back m t j z (he.slot_iff.mp hj).1 hz
  · exact hs.once m m' t t' j (he.slot_iff.mp hj).1 (he.slot_iff.mp hj').1
  · rw [he.intf_eq] at hz
    obtain ⟨t, ht⟩ := hs.placed j z hz
    exact ⟨t, he.slot_iff.mpr ⟨ht, he.off j z hz⟩⟩
  · rw [he.nextId_eq]
    exact hs.slotId m t j (he.slot_iff.mp hj).1
  · rw [he.nextId_eq]
    exact hs.nodeId m (he.isSome_iff.mp hm).1

theorem freedOnce (he : Emptied n h h') (hlive : (h.node n).isSome) : FreedOnce h h' := by
  have hfrees : h'.frees = h.frees ++ [.node n] := by
    rw [he.frame]
  intro r
  rw [hfrees, List.count_append, Nat.add_assoc]
  congr 1
  cases r with
  | node m =>
      rw [Host.alive, Host.alive, he.node_eq]
      by_cases hm : m = n
      · rw [hm, Function.update_self, hlive]
        simp
      · rw [Function.update_of_ne hm]
        simp [Ne.symm hm]
  | link k =>
      rw [Host.alive, Host.alive, he.link_eq]
      simp
  | intf j =>
      rw [Host.alive, Host.alive, he.intf_eq]
      simp

end Emptied

/-- The loop leaves no interface on the node. -/
theorem Clearing.off (hc : Clearing n [] h) (hz : h.intf j = some z) : z.node ≠ n := by
  rintro rfl
  obtain ⟨t, ht⟩ := hc.slotted.placed j z hz
  have hnone := hc.behind t List.not_mem_nil
  rw [World.intfAt, ht] at hnone
  exact Option.some_ne_none z (hz.symm.trans hnone)

theorem Cleared.removed {h₁ h₂ : Host} (hw : InOrder h)
    (hc : Clearing n [] h₁) (hcl : Cleared n { h with nodes := h.nodes.erase n } h₁)
    (he : Emptied n h₁ h₂) : Removed n h h₂ := by
  have hnodes : h₂.nodes = h.nodes.erase n := by
    rw [he.frame, hcl.frame]
  have hfirst : FreedOnce h h₁ := hcl.frees
  refine ⟨⟨he.slotted hc.slotted,
      hc.linked.of_frame he.intf_eq he.link_eq (Nat.le_of_eq he.nextId_eq.symm), fun m t j hj => ?_,
      fun m => ?_, ?_⟩, hnodes, hfirst.trans (he.freedOnce hc.live), fun j z => ?_,
    fun m t j hj => hcl.slot m t j (he.slot_iff.mp hj).1, fun m t j hm hj hsome => ?_⟩
  · obtain ⟨hj, hm⟩ := he.slot_iff.mp hj
    rw [he.intf_eq]
    exact hc.others m hm t j hj
  · rw [hnodes, hw.nodup.mem_erase_iff, he.isSome_iff, hw.nodes, hcl.node m]
    exact And.comm
  · rw [hnodes]
    exact hw.nodup.erase n
  · rw [he.intf_eq]
    refine ⟨fun hz => ⟨hcl.intf j z hz, hc.off hz, fun l hl i y hy hyl => ?_⟩,
      fun hand => hcl.spared j z hand.1 hand.2⟩
    -- the link is still there, and so are both its ends
    obtain ⟨link, hlink₁, -⟩ := hc.linked.link j z l hz hl
    obtain ⟨link', hlink', hends⟩ := hw.linked.link i y l hy hyl
    obtain rfl := Option.some.inj ((hcl.link l link hlink₁).symm.trans hlink')
    obtain ⟨y', hy', -⟩ := hc.linked.ends l link i hlink₁ hends
    obtain rfl := Option.some.inj ((hcl.intf i y' hy').symm.trans hy)
    exact hc.off hy'
  · rw [he.intf_eq] at hsome
    exact he.slot_iff.mpr ⟨hcl.kept m t j hj hsome, hm⟩

theorem freeNode_run (hn : (h.node n).isSome) : freeNode n h = .ok ⟨⟩ { h with
    node := Function.update h.node n none, frees := h.frees ++ [.node n] } := by
  obtain ⟨node, hn⟩ := Option.isSome_iff_exists.mp hn
  rw [freeNode, run_bind_ok (derefNode_run hn)]
  rfl

/-- **`destroy_node` completes exactly if no TUN/TAP interface comes before a link.** -/
theorem destroyNode_run (hw : InOrder h) (hn : n ∈ h.nodes) :
    (¬ TapFirst h [] n ∧ ∃ h', destroyNode n h = .ok ⟨⟩ h' ∧ Removed n h h') ∨
    TapFirst h [] n ∧ ∃ h', destroyNode n h = .error .useAfterFree h' := by
  obtain ⟨node, hnode⟩ := Option.isSome_iff_exists.mp ((hw.nodes n).mp hn)
  have hloop := destroySlots_run (hw.clearing hn) (List.pairwise_lt_finRange maxIntfsPerNode)
  rw [stops_iff_tapFirst] at hloop
  rw [destroyNode, run_bind_ok (derefNode_run hnode), run_bind_ok (run_modify _ h)]
  rcases hloop with ⟨hgo, h₁, hrun, hc, hcl⟩ | ⟨hstop, h₁, hrun⟩
  · refine Or.inl ⟨hgo, ?_⟩
    rw [run_bind_ok hrun, run_bind_ok (run_modify _ h₁)]
    exact ⟨_, freeNode_run hc.live, hcl.removed hw hc ⟨rfl, fun j z => hc.off⟩⟩
  · exact Or.inr ⟨hstop, h₁, run_bind_error hrun⟩

/-! ### Several nodes -/

theorem Removed.intfAt_iff (hr : Removed n h h') (hm : m ≠ n) :
    h'.intfAt m t = some z ↔ h.intfAt m t = some z ∧ AwayFrom h.toWorld n z := by
  constructor
  · intro hz
    obtain ⟨j, hj, hz⟩ := World.intfAt_some.mp hz
    obtain ⟨hz, haway⟩ := (hr.intf j z).mp hz
    exact ⟨World.intfAt_some.mpr ⟨j, hr.slot m t j hj, hz⟩, haway⟩
  · rintro ⟨hz, haway⟩
    obtain ⟨j, hj, hz⟩ := World.intfAt_some.mp hz
    have hz' := (hr.intf j z).mpr ⟨hz, haway⟩
    exact World.intfAt_some.mpr ⟨j, hr.kept m t j hm hj (by rw [hz']; rfl), hz'⟩

/-- A node that is gone only takes links away. -/
theorem Removed.tapFirst_iff (hr : Removed n h h') (hs : Slotted h.toWorld) (hm : m ≠ n)
    (gone : List NodeId) : TapFirst h' gone m ↔ TapFirst h (n :: gone) m := by
  have hback : ∀ {t z}, h.intfAt m t = some z → z.node = m := by
    intro t z hz
    obtain ⟨j, hj, hz⟩ := World.intfAt_some.mp hz
    exact hs.back m t j z hj hz
  constructor
  · rintro ⟨s, t, hlt, x, y, l, hx, hxl, hy, hyl, hno, hgone⟩
    obtain ⟨hx, -⟩ := (hr.intfAt_iff hm).mp hx
    obtain ⟨hy, -, haway⟩ := (hr.intfAt_iff hm).mp hy
    have hends : ∀ {z}, z.link = some l → z.node ≠ n → AwayFrom h.toWorld n z := by
      intro z hzl hzn
      refine ⟨hzn, fun k hk i v hv hvk => ?_⟩
      obtain rfl := Option.some.inj (hzl.symm.trans hk)
      exact haway _ hyl i v hv hvk
    refine ⟨s, t, hlt, x, y, l, hx, hxl, hy, hyl, fun r hrs z hz hzl => ?_, fun i z hz hzl => ?_⟩
    · refine hno r hrs z ((hr.intfAt_iff hm).mpr ⟨hz, hends hzl ?_⟩) hzl
      rw [hback hz]
      exact hm
    · have hzn := haway l hyl i z hz hzl
      rw [List.mem_cons, not_or]
      exact ⟨hzn, hgone i z ((hr.intf i z).mpr ⟨hz, hends hzl hzn⟩) hzl⟩
  · rintro ⟨s, t, hlt, x, y, l, hx, hxl, hy, hyl, hno, hgone⟩
    refine ⟨s, t, hlt, x, y, l, (hr.intfAt_iff hm).mpr ⟨hx, ?_⟩, hxl, (hr.intfAt_iff hm).mpr ⟨hy, ?_⟩,
      hyl, fun r hrs z hz => hno r hrs z ((hr.intfAt_iff hm).mp hz).1,
      fun i z hz hzl hmem => hgone i z ((hr.intf i z).mp hz).1 hzl (List.mem_cons_of_mem n hmem)⟩
    · refine ⟨by rw [hback hx]; exact hm, fun k hk => ?_⟩
      rw [hxl] at hk
      cases hk
    · refine ⟨by rw [hback hy]; exact hm, fun k hk i v hv hvk hvn => ?_⟩
      obtain rfl := Option.some.inj (hyl.symm.trans hk)
      exact hgone i v hv hvk (hvn ▸ List.mem_cons_self)

/-- In the order in which the nodes are destroyed, none has a TUN/TAP interface before a link
that is still there. -/
def TapsLast (h : Host) (order : List NodeId) : Prop :=
  ∀ gone n rest, order = gone ++ n :: rest → ¬ TapFirst h gone n

theorem tapsLast_cons (hr : Removed n h h') (hs : Slotted h.toWorld) {order : List NodeId}
    (hn : n ∉ order) (hfirst : ¬ TapFirst h [] n) :
    TapsLast h (n :: order) ↔ TapsLast h' order := by
  have hne : ∀ {gone m rest}, order = gone ++ m :: rest → m ≠ n := by
    rintro gone m rest rfl rfl
    exact hn (List.mem_append_right gone List.mem_cons_self)
  constructor
  · intro hall gone m rest heq
    rw [hr.tapFirst_iff hs (hne heq)]
    exact hall (n :: gone) m rest (by rw [heq]; rfl)
  · intro hall gone m rest heq
    cases gone with
    | nil =>
        obtain ⟨rfl, -⟩ := List.cons.inj heq
        exact hfirst
    | cons k gone =>
        obtain ⟨rfl, htail⟩ := List.cons.inj heq
        rw [← hr.tapFirst_iff hs (hne htail)]
        exact hall gone m rest htail

theorem destroyNodes_run {order : List NodeId} (hw : InOrder h) (hnodup : order.Nodup)
    (hin : ∀ n ∈ order, n ∈ h.nodes) :
    (TapsLast h order ∧ ∃ h', order.forM destroyNode h = .ok ⟨⟩ h' ∧ InOrder h' ∧ FreedOnce h h' ∧
      h'.nodes = h.nodes.diff order) ∨
    ¬ TapsLast h order ∧ ∃ h', order.forM destroyNode h = .error .useAfterFree h' := by
  induction order generalizing h with
  | nil =>
      refine Or.inl ⟨fun gone n rest heq => ?_, h, rfl, hw, .refl h, rfl⟩
      exact absurd heq.symm (List.append_ne_nil_of_right_ne_nil gone (List.cons_ne_nil n rest))
  | cons n order ih =>
      obtain ⟨hn, hnodup⟩ := List.nodup_cons.mp hnodup
      have hforM : (n :: order).forM destroyNode = (do
          destroyNode n
          order.forM destroyNode) := rfl
      rw [hforM]
      rcases destroyNode_run hw (hin n List.mem_cons_self) with ⟨hgo, h₁, hrun, hr⟩ | ⟨hstop, h₁, hrun⟩
      · rw [run_bind_ok hrun, tapsLast_cons hr hw.slotted hn hgo, List.diff_cons, ← hr.nodes]
        have hin₁ : ∀ m ∈ order, m ∈ h₁.nodes := by
          intro m hm
          rw [hr.nodes, hw.nodup.mem_erase_iff]
          exact ⟨fun heq => hn (heq ▸ hm), hin m (List.mem_cons_of_mem n hm)⟩
        rcases ih hr.inOrder hnodup hin₁ with ⟨hlast, h₂, hrun₂, hw₂, hacc, hnodes⟩ | hstop
        · exact Or.inl ⟨hlast, h₂, hrun₂, hw₂, hr.frees.trans hacc, hnodes⟩
        · exact Or.inr hstop
      · exact Or.inr ⟨fun hall => hall [] n order rfl hstop, h₁, run_bind_error hrun⟩

/-! ### The whole graph -/

/-- `destroy_node` on some nodes, one after another, and then `destroy_graph`. -/
def tearDown (ns : List NodeId) : G Unit := do
  ns.forM destroyNode
  destroyGraph

/-- The tear-down completes, and has freed every record exactly once. -/
def TornDown (ns : List NodeId) (h : Host) : Prop :=
  ∃ h', tearDown ns h = .ok ⟨⟩ h' ∧ ∀ r, h'.frees.count r = (h.alive r).toNat

/-- Without nodes there is nothing. -/
theorem InOrder.nothing (hw : InOrder h) (hnodes : h.nodes = []) (r : Record) :
    h.alive r = false := by
  have hnode : ∀ n, (h.node n).isSome = false := by
    intro n
    rw [Bool.eq_false_iff]
    intro hsome
    have hmem := (hw.nodes n).mpr hsome
    rw [hnodes] at hmem
    cases hmem
  have hintf : ∀ i, (h.intf i).isSome = false := by
    intro i
    rw [Bool.eq_false_iff]
    intro hsome
    obtain ⟨x, hi⟩ := Option.isSome_iff_exists.mp hsome
    obtain ⟨s, hs⟩ := hw.slotted.placed i x hi
    obtain ⟨node, hn, -⟩ := World.node_of_slot hs
    have hdead := hnode x.node
    rw [hn] at hdead
    cases hdead
  cases r with
  | node n => exact hnode n
  | intf i => exact hintf i
  | link l =>
      show (h.link l).isSome = false
      rw [Bool.eq_false_iff]
      intro hsome
      obtain ⟨link, hl⟩ := Option.isSome_iff_exists.mp hsome
      obtain ⟨x, hx, -⟩ := hw.linked.ends l link _ hl (Or.inl rfl)
      have hdead := hintf link.intf1
      rw [hx] at hdead
      cases hdead

/-- The order in which the nodes go: `destroy_graph` takes those that are left, from the head of
the list. -/
theorem tearDown_eq (hw : InOrder h) {ns : List NodeId} (hnodup : ns.Nodup)
    (hin : ∀ n ∈ ns, n ∈ h.nodes) :
    tearDown ns h = (ns ++ h.nodes.diff ns).forM destroyNode h := by
  have happend : (ns ++ h.nodes.diff ns).forM destroyNode = (do
      ns.forM destroyNode
      (h.nodes.diff ns).forM destroyNode) := List.forM_append
  rw [happend, tearDown]
  rcases destroyNodes_run hw hnodup hin with ⟨-, h₁, hrun, -, -, hnodes⟩ | ⟨-, h₁, hrun⟩
  · rw [run_bind_ok hrun, run_bind_ok hrun, destroyGraph, run_bind_ok (run_get h₁), hnodes]
  · rw [run_bind_error hrun, run_bind_error hrun]

/-- The calls that build a graph free nothing. -/
theorem built_run (hbuilt : HostReachableBy (fun _ op => op.Builds) h) :
    InOrder h ∧ h.frees = [] := by
  induction hbuilt with
  | init hstart => exact ⟨hstart.inOrder, hstart.frees⟩
  | @step h h' op u _ hop hrun ih =>
      refine ⟨(hop.rewired ih.1 hrun).inOrder, ?_⟩
      cases op with
      | createGraphNode nodeName =>
          obtain ⟨n, h₁, hcreate, heq⟩ := bind_ok_iff.mp hrun
          cases heq
          cases hcreate
          exact ih.2
      | insertLinkBetweenTwoNodes n₁ n₂ fromIfname toIfname =>
          obtain ⟨x, y, h₁, hx, hy, -, -⟩ := insertLinkBetweenTwoNodes_attached hrun
          rw [hy.frame, hx.frame]
          exact ih.2
      | insertTuntapInterface n name =>
          obtain ⟨x, hx, -, -⟩ := insertTuntapInterface_ok hrun
          rw [hx.frame]
          exact ih.2
      | _ => cases hop

/-- **A graph is torn down safely exactly if the nodes go in an order in which none has a
TUN/TAP interface before a link that is still there.** -/
theorem tornDown_iff (hbuilt : HostReachableBy (fun _ op => op.Builds) h) {ns : List NodeId}
    (hnodup : ns.Nodup) (hin : ∀ n ∈ ns, n ∈ h.nodes) :
    TornDown ns h ↔ TapsLast h (ns ++ h.nodes.diff ns) := by
  obtain ⟨hw, hfrees⟩ := built_run hbuilt
  have hmem : ∀ n, n ∈ ns ++ h.nodes.diff ns ↔ n ∈ h.nodes := by
    intro n
    rw [List.mem_append, hw.nodup.mem_sdiff_iff]
    by_cases hn : n ∈ ns
    · exact ⟨fun _ => hin n hn, fun _ => Or.inl hn⟩
    · exact ⟨fun hor => (hor.resolve_left hn).1, fun hold => Or.inr ⟨hold, hn⟩⟩
  have hall : (ns ++ h.nodes.diff ns).Nodup := by
    refine hnodup.append hw.nodup.diff fun n hn hdiff => ?_
    exact (hw.nodup.mem_sdiff_iff.mp hdiff).2 hn
  rw [TornDown, tearDown_eq hw hnodup hin]
  rcases destroyNodes_run hw hall fun n hn => (hmem n).mp hn with
    ⟨hlast, h', hrun, hw', hacc, hnodes⟩ | ⟨hnot, h', hrun⟩
  · refine iff_of_true ⟨h', hrun, fun r => ?_⟩ hlast
    have hnone : h'.nodes = [] := by
      rw [hnodes, List.eq_nil_iff_forall_not_mem]
      intro n hn
      obtain ⟨hold, hnot⟩ := hw.nodup.mem_sdiff_iff.mp hn
      exact hnot ((hmem n).mpr hold)
    have hcount := hacc r
    rwa [hw'.nothing hnone, hfrees, List.count_nil, Nat.zero_add] at hcount
  · refine iff_of_false ?_ hnot
    rintro ⟨t, ht, -⟩
    rw [hrun] at ht
    cases ht

/-- Nodes `a` and `b`; `a` has a TUN/TAP interface, and after it a link to `b`. -/
def Fixture.tapLink : List GraphOp :=
  [.createGraphNode [97], .createGraphNode [98], .insertTuntapInterface 0 [116],
    .insertLinkBetweenTwoNodes 0 1 [99] [100]]

theorem Fixture.tapLink_built : ∃ h, runGraphOps Fixture.started Fixture.tapLink = some h ∧
    HostReachableBy (fun _ op => op.Builds) h ∧ (∀ n ∈ [0], n ∈ h.nodes) ∧
    ∃ h', tearDown [0] h = .error .useAfterFree h' := by
  have hrun : (runGraphOps Fixture.started Fixture.tapLink).any (fun h =>
      decide (0 ∈ h.nodes) && match tearDown [0] h with
        | .ok _ _ => false
        | .error e _ => decide (e = .useAfterFree)) = true := by
    decide +kernel
  obtain ⟨h, hrun, hand⟩ := (Option.any_eq_true _ _).mp hrun
  obtain ⟨hmem, hstop⟩ := Bool.and_eq_true_iff.mp hand
  refine ⟨h, hrun, ?_, ?_, ?_⟩
  · refine .runGraphOps (.init Fixture.started_started) (fun op hop => ?_) hrun
    simp only [Fixture.tapLink, List.mem_cons, List.not_mem_nil, or_false] at hop
    rcases hop with rfl | rfl | rfl | rfl <;> trivial
  · exact fun n hn => List.mem_singleton.mp hn ▸ of_decide_eq_true hmem
  · cases ht : tearDown [0] h with
    | ok u t =>
        rw [ht] at hstop
        cases hstop
    | error e t =>
        rw [ht] at hstop
        obtain rfl := of_decide_eq_true hstop
        exact ⟨t, rfl⟩

/-- `destroy_node` of `a` follows the pointer to the freed TUN/TAP interface. -/
theorem tearDown_stops : ∃ h, runGraphOps Fixture.started Fixture.tapLink = some h ∧
    HostReachableBy (fun _ op => op.Builds) h ∧ (∀ n ∈ [0], n ∈ h.nodes) ∧
    (∃ h', tearDown [0] h = .error .useAfterFree h') ∧ ¬ TornDown [0] h := by
  obtain ⟨h, hrun, hbuilt, hin, h', hstop⟩ := Fixture.tapLink_built
  refine ⟨h, hrun, hbuilt, hin, ⟨h', hstop⟩, ?_⟩
  rintro ⟨t, ht, -⟩
  rw [hstop] at ht
  cases ht

/-- With `b` destroyed first the link is gone when the turn of `a` comes. -/
theorem Fixture.tapLink_last {h : Host} (hrun : runGraphOps Fixture.started Fixture.tapLink = some h)
    (hbuilt : HostReachableBy (fun _ op => op.Builds) h) :
    (∀ n ∈ [1], n ∈ h.nodes) ∧ TapsLast h ([1] ++ h.nodes.diff [1]) := by
  have hcheck : (runGraphOps Fixture.started Fixture.tapLink).all (fun h =>
      decide (1 ∈ h.nodes ∧ [1] ++ h.nodes.diff [1] = [1, 0] ∧ 0 ∈ h.nodes) &&
        (result ([1, 0].forM destroyNode) h).isSome) = true := by
    decide +kernel
  rw [hrun, Option.all_some] at hcheck
  obtain ⟨hnodes, hdone⟩ := Bool.and_eq_true_iff.mp hcheck
  obtain ⟨hb, horder, ha⟩ := of_decide_eq_true hnodes
  have hin : ∀ n ∈ [1, 0], n ∈ h.nodes := by
    intro n hn
    simp only [List.mem_cons, List.not_mem_nil, or_false] at hn
    rcases hn with rfl | rfl
    · exact hb
    · exact ha
  refine ⟨fun n hn => List.mem_singleton.mp hn ▸ hb, ?_⟩
  rw [horder]
  rcases destroyNodes_run (built_run hbuilt).1 (by decide) hin with ⟨hlast, -⟩ | ⟨-, h', hstop⟩
  · exact hlast
  · unfold result at hdone
    rw [hstop] at hdone
    cases hdone

/-- `a` first is one order that fails, `b` first one that does not. -/
theorem tornDown_iff_tapLink : ∃ h, HostReachableBy (fun _ op => op.Builds) h ∧
    ¬ TapsLast h ([0] ++ h.nodes.diff [0]) ∧ TapsLast h ([1] ++ h.nodes.diff [1]) ∧
      TornDown [1] h := by
  obtain ⟨h, hrun, hbuilt, hin, h', hstop⟩ := Fixture.tapLink_built
  obtain ⟨hin', hlast⟩ := Fixture.tapLink_last hrun hbuilt
  refine ⟨h, hbuilt, fun hfirst => ?_, hlast,
    (tornDown_iff hbuilt (List.nodup_singleton 1) hin').mpr hlast⟩
  obtain ⟨t, ht, -⟩ := (tornDown_iff hbuilt (List.nodup_singleton 0) hin).mpr hfirst
  rw [hstop] at ht
  cases ht

end SimpleTcpip
