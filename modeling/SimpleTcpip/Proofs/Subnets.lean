/-
The subnet lookup and the route lookup.

`_get_matching_subnet_interface` and `rt_lookup_lpm` both tell by which interface an address
is reached.  The first looks through the slots of the node and stops at the first subnet, the
second through the routes `node_set_intf_ip_addr` left, for the longest prefix, and a network
of 0 makes its route a default route.  So each is a search of the interfaces that have an
address, in an order of its own, and what it takes for the two to agree is read off that.
-/
import SimpleTcpip.Proofs.Graph
import SimpleTcpip.Proofs.Routes

namespace SimpleTcpip

open Fallible

/-! ### A node that only got addresses -/

/-- The interface of a node a call gives an address. -/
def Op.configures (w : World) (n : NodeId) : Op → Option IntfId
  | .nodeSetIntfIpAddr n' ifName ipAddr _ => if n' = n then addressed w n ifName ipAddr else none
  | _ => none

/-- The interfaces of a node that calls give an address, in the order of the calls. -/
def configuredIntfs (w : World) (n : NodeId) (ops : List Op) : List IntfId :=
  ops.filterMap (Op.configures w n)

/-- Calls that add nothing to the routes of a node but its subnets, each of them once. -/
structure OnlyAddresses (w : World) (n : NodeId) (ops : List Op) : Prop where
  routes : ∀ dst mask next i, .rtTableAddRoute n dst mask next i ∉ ops
  masks : ∀ ifName ipAddr mask, .nodeSetIntfIpAddr n ifName ipAddr mask ∈ ops →
    1 ≤ mask ∧ mask ≤ 30
  once : (configuredIntfs w n ops).Nodup

/-- The state after calls that gave the interfaces `done` of a node an address. -/
structure Connected (w : World) (n : NodeId) (done : List IntfId) (t : World) : Prop
    extends Appended w n done t where
  node : t.node = w.node
  live : ∀ i ∈ done, ∃ intf, t.intf i = some intf ∧ intf.isIpAddrConfig = true ∧ 0 < intf.mask

theorem nodeIntfs_congr {w t : World} (hnode : t.node = w.node) (n : NodeId) :
    nodeIntfs t n = nodeIntfs w n := by
  rw [nodeIntfs, nodeIntfs, hnode]

theorem Initial.nodeIntfs {w : World} (h : Initial w) {n : NodeId} {i : IntfId}
    (hi : i ∈ nodeIntfs w n) : ∃ intf, w.intf i = some intf ∧ intf.node = n := by
  unfold SimpleTcpip.nodeIntfs at hi
  cases hn : w.node n with
  | none =>
      rw [hn] at hi
      cases hi
  | some node =>
      rw [hn] at hi
      obtain ⟨s, -, hs⟩ := List.mem_filterMap.mp hi
      exact h.slots n node s i hn hs

section Step

variable {w t t' : World} {n : NodeId} {done : List IntfId} {op : Op}

/-- What counts is the node, its interfaces and its routes. -/
theorem Connected.congr (h : Connected w n done t) (hnode : t'.node = t.node)
    (hintf : ∀ i ∈ nodeIntfs t n, t'.intf i = t.intf i) (hrtTable : t'.rtTable n = t.rtTable n) :
    Connected w n done t' := by
  have hnodes := nodeIntfs_congr hnode n
  have hroutes : ∀ i, connectedRoutes t' n i = connectedRoutes t n i := by
    intro i
    rw [connectedRoutes, connectedRoutes, hrtTable]
  refine ⟨⟨hnodes.trans h.same, fun ifName ipAddr => ?_, ?_, h.own, ?_, ?_⟩,
    hnode.trans h.node, ?_⟩
  · rw [← h.names, addressed, addressed, getNodeIfByName, getNodeIfByName, hnodes]
    congr 1
    exact List.find?_congr fun i hi => by rw [hintf i hi]
  · rw [hrtTable]
    exact h.targets
  · rw [hrtTable]
    exact h.next
  · intro i hi intf hi'
    rw [hroutes]
    exact h.newest i hi intf (hintf i (h.same ▸ hi) ▸ hi')
  · intro i hi
    rw [hintf i (h.same ▸ h.own i hi)]
    exact h.live i hi

theorem Connected.configured (h : Connected w n done t) {i : IntfId} {intf : Intf}
    (hi : i ∈ nodeIntfs w n) (hintf : t.intf i = some intf) (ip : UInt32) {mask : Int8}
    (hmask : 0 < mask) :
    Connected w n (done ++ [i]) (t.configured n i (intf.configured ip mask)) := by
  refine ⟨h.toAppended.configured hi hintf ip mask, h.node, fun j hj => ?_⟩
  change ∃ x, Function.update t.intf i _ j = some x ∧ _
  by_cases hij : j = i
  · rw [hij, Function.update_self]
    exact ⟨_, rfl, rfl, hmask⟩
  · rw [Function.update_of_ne hij]
    rcases List.mem_append.mp hj with hj | hj
    · exact h.live j hj
    · exact absurd (List.mem_singleton.mp hj) hij

/-- One call.  An interface is in the slots of one node. -/
theorem Connected.step (h : Connected w n done t)
    (hown : ∀ n' i, i ∈ nodeIntfs w n → i ∈ nodeIntfs w n' → n' = n)
    (hroute : ∀ dst mask next i, op ≠ .rtTableAddRoute n dst mask next i)
    (hmask : ∀ ifName ipAddr mask, op = .nodeSetIntfIpAddr n ifName ipAddr mask → 1 ≤ mask) :
    Connected w n (done ++ (op.configures w n).toList) (op.after t) := by
  have hnode := node_after op t
  cases configStep op t with
  | same hnone hintf hrtTable =>
      have hconf : op.configures w n = none := by
        cases op with
        | nodeSetIntfIpAddr n' ifName ipAddr mask =>
            by_cases hn : n' = n
            · rw [Op.configures, if_pos hn, ← h.names]
              exact hnone _ _ _ _ (by rw [hn])
            · rw [Op.configures, if_neg hn]
        | _ => rfl
      rw [hconf, Option.toList_none, List.append_nil]
      exact h.congr hnode (fun i _ => congrFun hintf i) (congrFun hrtTable n)
  | @routed n' entry hop hintf hrtTable =>
      have hconf : op.configures w n = none := by rw [hop]; rfl
      have hn : n ≠ n' := by
        rintro rfl
        exact hroute _ _ _ _ hop
      rw [hconf, Option.toList_none, List.append_nil]
      refine h.congr hnode (fun i _ => congrFun hintf i) ?_
      rw [hrtTable, Function.update_of_ne hn]
  | @configured n' ifName ipAddr mask i intf hop haddr hintf hw =>
      rw [hop, Op.configures]
      by_cases hn : n' = n
      · subst hn
        rw [if_pos rfl, ← h.names, haddr, ← hop, hw]
        exact h.configured (h.same ▸ (addressed_live haddr).1) hintf _
          (Int8.lt_of_lt_of_le (by decide) (hmask _ _ _ hop))
      · -- the interface is another node's
        have hi := (addressed_live haddr).1
        rw [nodeIntfs_congr h.node] at hi
        rw [if_neg hn, Option.toList_none, List.append_nil, ← hop]
        refine h.congr hnode (fun j hj => ?_) ?_
        · have hij : j ≠ i := by
            rintro rfl
            exact hn (hown n' j (h.same ▸ hj) hi)
          rw [hw]
          exact Function.update_of_ne hij _ _
        · rw [hw]
          exact Function.update_of_ne (Ne.symm hn) _ _

end Step

/-- A run of calls, from a node whose interfaces have no address. -/
theorem Connected.run {w t t' : World} {n : NodeId} {done : List IntfId} {ops : List Op}
    (h : Connected w n done t) (hown : ∀ n' i, i ∈ nodeIntfs w n → i ∈ nodeIntfs w n' → n' = n)
    (hroutes : ∀ dst mask next i, .rtTableAddRoute n dst mask next i ∉ ops)
    (hmasks : ∀ ifName ipAddr mask, .nodeSetIntfIpAddr n ifName ipAddr mask ∈ ops → 1 ≤ mask)
    (hrun : runOps t ops = some t') : Connected w n (done ++ configuredIntfs w n ops) t' := by
  induction ops generalizing t done with
  | nil =>
      cases hrun
      rwa [configuredIntfs, List.filterMap_nil, List.append_nil]
  | cons op ops ih =>
      rw [runOps, List.foldlM_cons] at hrun
      obtain ⟨u, hstep, hrest⟩ := Option.bind_eq_some_iff.mp hrun
      have hnext : Connected w n (done ++ (op.configures w n).toList) (op.after t) :=
        h.step hown
          (fun dst mask next i hop => hroutes dst mask next i (hop ▸ List.mem_cons_self))
          (fun ifName ipAddr mask hop => hmasks ifName ipAddr mask (hop ▸ List.mem_cons_self))
      obtain ⟨-, r, hr⟩ := Op.step?_eq_some.mp hstep
      rw [show op.after t = u from final_of_ok hr] at hnext
      have hlast := ih hnext
        (fun dst mask next i hmem => hroutes dst mask next i (List.mem_cons_of_mem _ hmem))
        (fun ifName ipAddr mask hmem => hmasks ifName ipAddr mask (List.mem_cons_of_mem _ hmem))
        hrest
      rw [List.append_assoc] at hlast
      have hconf : configuredIntfs w n (op :: ops)
          = (op.configures w n).toList ++ configuredIntfs w n ops := by
        rw [configuredIntfs, List.filterMap_cons]
        cases op.configures w n <;> rfl
      rwa [hconf]

theorem OnlyAddresses.connected {w t : World} {n : NodeId} {ops : List Op}
    (h : OnlyAddresses w n ops) (h0 : Initial w) (hfresh : Unconfigured w n)
    (hrun : runOps w ops = some t) : Connected w n (configuredIntfs w n ops) t := by
  have hstart : Connected w n [] w := ⟨hfresh.appended, rfl, fun i hi => by cases hi⟩
  refine hstart.run (fun n' i hi hi' => ?_) h.routes (fun _ _ _ hmem => (h.masks _ _ _ hmem).1) hrun
  obtain ⟨intf, hintf, rfl⟩ := h0.nodeIntfs hi
  obtain ⟨intf', hintf', rfl⟩ := h0.nodeIntfs hi'
  rw [Option.some.inj (hintf.symm.trans hintf')]

/-! ### The routes are the interfaces -/

/-- The route to the network behind an interface. -/
def World.connectedRoute (w : World) (i : IntfId) : RtEntry :=
  (w.intf i).elim { dst := 0, mask := 0, next := 0, intf := i } fun intf => intf.connectedRoute i

theorem connectedRoute_intf (w : World) (i : IntfId) : (w.connectedRoute i).intf = i := by
  unfold World.connectedRoute
  cases w.intf i <;> rfl

section Lookups

variable {w t : World} {n : NodeId} {order : List IntfId} {i : IntfId} {ip : UInt32}

theorem connectedRoute_of_intf {intf : Intf} (hintf : t.intf i = some intf) :
    t.connectedRoute i = intf.connectedRoute i := by
  rw [World.connectedRoute, hintf]
  rfl

theorem Connected.mem_iff (h : Connected w n order t) {intf : Intf} (hi : i ∈ nodeIntfs t n)
    (hintf : t.intf i = some intf) : intf.isIpAddrConfig = true ↔ i ∈ order := by
  constructor
  · intro hconf
    have hhead := h.newest i (h.same ▸ hi) intf hintf
    rw [if_pos hconf] at hhead
    have hmem := List.mem_of_mem_head? hhead
    have htarget := List.mem_map_of_mem (f := RtEntry.intf) (List.mem_filter.mp hmem).1
    rw [h.targets] at htarget
    exact List.mem_reverse.mp htarget
  · intro hmem
    obtain ⟨intf', hintf', hconf, -⟩ := h.live i hmem
    rwa [Option.some.inj (hintf.symm.trans hintf')]

/-- The table is the list of the interfaces, the one configured last in front. -/
theorem Connected.rtTable (h : Connected w n order t) (honce : order.Nodup) :
    t.rtTable n = order.reverse.map t.connectedRoute := by
  have hmirrors := (h.mirrors_iff fun i hi => by
    obtain ⟨intf, hintf, -⟩ := h.live i hi
    exact Option.isSome_of_eq_some hintf).mpr honce
  have hroute : ∀ entry ∈ t.rtTable n, t.connectedRoute entry.intf = entry := by
    intro entry hentry
    have htarget := List.mem_map_of_mem (f := RtEntry.intf) hentry
    rw [h.targets] at htarget
    have hmem : entry.intf ∈ order := List.mem_reverse.mp htarget
    obtain ⟨intf, hintf, hconf, -⟩ := h.live _ hmem
    have hroutes := hmirrors.route _ (h.same ▸ h.own _ hmem) intf hintf
    rw [if_pos hconf] at hroutes
    have hconn : entry ∈ connectedRoutes t n entry.intf := by
      refine List.mem_filter.mpr ⟨hentry, ?_⟩
      rw [h.next entry hentry]
      simp
    rw [hroutes] at hconn
    rw [connectedRoute_of_intf hintf]
    exact (List.mem_singleton.mp hconn).symm
  rw [← h.targets, List.map_map]
  refine (List.map_id _).symm.trans (List.map_congr_left fun entry hentry => ?_)
  exact (hroute entry hentry).symm

/-! ### The two searches -/

/-- An interface that has an address, and its route. -/
theorem Connected.live_route (h : Connected w n order t) (hi : i ∈ order) :
    ∃ intf, t.intf i = some intf ∧ intf.isIpAddrConfig = true ∧ 0 < intf.mask ∧
      t.connectedRoute i = intf.connectedRoute i := by
  obtain ⟨intf, hintf, hconf, hmask⟩ := h.live i hi
  exact ⟨intf, hintf, hconf, hmask, connectedRoute_of_intf hintf⟩

/-- A route covers the subnet of its interface, unless the network is 0. -/
theorem covers_connectedRoute (intf : Intf) (i : IntfId) (ip : UInt32) :
    (intf.connectedRoute i).covers ip
      = (!(intf.connectedRoute i).isDefault && isInSubnet intf ip) := by
  have hmasked : intIpMasked (intIpMasked intf.ipAddr intf.mask) intf.mask
      = intIpMasked intf.ipAddr intf.mask := by
    rw [intIpMasked, intIpMasked, UInt32.and_assoc, UInt32.and_self]
  change (intIpMasked intf.ipAddr intf.mask != 0 && (intIpMasked ip intf.mask
    == intIpMasked (intIpMasked intf.ipAddr intf.mask) intf.mask)) = _
  rw [hmasked]
  rfl

/-- The search of the slots finds nothing when no interface with an address contains it. -/
theorem Connected.subnet_none_iff (h : Connected w n order t) :
    getMatchingSubnetInterface t n ip = none ↔
      ∀ i ∈ order, ∀ intf, t.intf i = some intf → isInSubnet intf ip = false := by
  rw [getMatchingSubnetInterface, List.find?_eq_none]
  constructor
  · intro hnone i hi intf hintf
    have hmem : i ∈ nodeIntfs t n := h.same ▸ h.own i hi
    have hconf := (h.mem_iff hmem hintf).mpr hi
    have hno := hnone i hmem
    rw [hintf, Option.any_some, hconf, Bool.true_and] at hno
    exact Bool.eq_false_iff.mpr hno
  · intro hnone i hi hany
    obtain ⟨intf, hintf, htest⟩ := (Option.any_eq_true _ _).mp hany
    obtain ⟨hconf, hsubnet⟩ := Bool.and_eq_true_iff.mp htest
    rw [hnone i ((h.mem_iff hi hintf).mp hconf) intf hintf] at hsubnet
    cases hsubnet

/-- What it finds has an address whose subnet contains the one looked up. -/
theorem Connected.subnet_some (h : Connected w n order t)
    (hi : getMatchingSubnetInterface t n ip = some i) :
    i ∈ order ∧ ∃ intf, t.intf i = some intf ∧ isInSubnet intf ip = true := by
  unfold getMatchingSubnetInterface at hi
  have hany := List.find?_some hi
  obtain ⟨intf, hintf, htest⟩ := (Option.any_eq_true _ _).mp hany
  obtain ⟨hconf, hsubnet⟩ := Bool.and_eq_true_iff.mp htest
  exact ⟨(h.mem_iff (List.mem_of_find?_eq_some hi) hintf).mp hconf, intf, hintf, hsubnet⟩

/-- The search of the routes, as one of the interfaces. -/
theorem Connected.lookup_eq (h : Connected w n order t) (honce : order.Nodup) :
    (rtLookupLpm (t.rtTable n) ip).map RtEntry.intf
      = ((order.reverse.filter fun i => (t.connectedRoute i).covers ip).argmax
          (fun i => (t.connectedRoute i).mask.toInt)
        <|> order.find? fun i => (t.connectedRoute i).isDefault) := by
  have hprefixes : prefixes ip (order.reverse.map t.connectedRoute)
      = (order.reverse.filter fun i => (t.connectedRoute i).covers ip).map t.connectedRoute := by
    rw [prefixes, List.filter_map]
    congr 1
    refine List.filter_congr fun i hi => ?_
    obtain ⟨intf, -, -, hmask, hroute⟩ := h.live_route (List.mem_reverse.mp hi)
    change (_ && decide ((0 : Int8) < (t.connectedRoute i).mask)) = _
    rw [hroute, decide_eq_true (p := (0 : Int8) < (intf.connectedRoute i).mask) hmask, Bool.and_true]
  have hdefault : ((order.reverse.map t.connectedRoute).filter RtEntry.isDefault).getLast?
      = (order.find? fun i => (t.connectedRoute i).isDefault).map t.connectedRoute := by
    rw [List.filter_map, List.getLast?_map, List.filter_reverse, List.getLast?_reverse,
      List.head?_filter]
    rfl
  have hintf : ∀ found : Option IntfId, (found.map t.connectedRoute).map RtEntry.intf = found := by
    intro found
    cases found with
    | none => rfl
    | some i => exact congrArg some (connectedRoute_intf t i)
  rw [h.rtTable honce, rtLookupLpm_eq, hprefixes, List.argmax_map, hdefault]
  cases hmax : (order.reverse.filter fun i => (t.connectedRoute i).covers ip).argmax
      (fun i => (t.connectedRoute i).mask.toInt) with
  | none =>
      rw [show List.argmax ((fun entry : RtEntry => entry.mask.toInt) ∘ t.connectedRoute) _ = none
        from hmax]
      exact hintf _
  | some i =>
      rw [show List.argmax ((fun entry : RtEntry => entry.mask.toInt) ∘ t.connectedRoute) _ = some i
        from hmax]
      exact hintf (some i)

/-- The route of an interface is the one with the longest prefix, and of several the one
configured last. -/
structure Longest (w : World) (order : List IntfId) (ip : UInt32) (i : IntfId) : Prop where
  mem : i ∈ order
  covers : (w.connectedRoute i).covers ip = true
  best : ∀ j ∈ order, (w.connectedRoute j).covers ip = true → j ≠ i →
    (w.connectedRoute j).mask < (w.connectedRoute i).mask ∨
    (w.connectedRoute j).mask = (w.connectedRoute i).mask ∧ [j, i].Sublist order

/-- No prefix matches, and the route of an interface is the first whose network is 0. -/
structure FirstDefault (w : World) (order : List IntfId) (ip : UInt32) (i : IntfId) : Prop where
  uncovered : ∀ j ∈ order, (w.connectedRoute j).covers ip = false
  first : (order.find? fun j => (w.connectedRoute j).isDefault) = some i

theorem Connected.lookup_some_iff (h : Connected w n order t) (honce : order.Nodup) :
    (rtLookupLpm (t.rtTable n) ip).map RtEntry.intf = some i ↔
      Longest t order ip i ∨ FirstDefault t order ip i := by
  have hmem : ∀ j, j ∈ (order.reverse.filter fun i => (t.connectedRoute i).covers ip) ↔
      j ∈ order ∧ (t.connectedRoute j).covers ip = true := by
    intro j
    rw [List.mem_filter, List.mem_reverse]
  have hlongest : (order.reverse.filter fun i => (t.connectedRoute i).covers ip).argmax
      (fun i => (t.connectedRoute i).mask.toInt) = some i ↔ Longest t order ip i := by
    rw [List.argmax_eq_some_iff_sublist ((List.nodup_reverse.mpr honce).filter _), hmem]
    constructor
    · rintro ⟨⟨hi, hcov⟩, hbest⟩
      refine ⟨hi, hcov, fun j hj hcov' hne => ?_⟩
      rcases hbest j ((hmem j).mpr ⟨hj, hcov'⟩) hne with hlt | ⟨heq, hsub⟩
      · exact Or.inl (Int8.lt_iff_toInt_lt.mpr hlt)
      · exact Or.inr ⟨Int8.toInt_inj.mp heq,
          (List.pair_sublist_filter_reverse (p := fun i => (t.connectedRoute i).covers ip)
            hcov hcov').mp hsub⟩
    · rintro ⟨hi, hcov, hbest⟩
      refine ⟨⟨hi, hcov⟩, fun j hj hne => ?_⟩
      obtain ⟨hj, hcov'⟩ := (hmem j).mp hj
      rcases hbest j hj hcov' hne with hlt | ⟨heq, hsub⟩
      · exact Or.inl (Int8.lt_iff_toInt_lt.mp hlt)
      · exact Or.inr ⟨congrArg Int8.toInt heq,
          (List.pair_sublist_filter_reverse (p := fun i => (t.connectedRoute i).covers ip)
            hcov hcov').mpr hsub⟩
  have hnone : (order.reverse.filter fun i => (t.connectedRoute i).covers ip).argmax
      (fun i => (t.connectedRoute i).mask.toInt) = none ↔
      ∀ j ∈ order, (t.connectedRoute j).covers ip = false := by
    rw [List.argmax_eq_none, List.filter_eq_nil_iff]
    exact forall_congr' fun j => by rw [List.mem_reverse, Bool.not_eq_true]
  rw [h.lookup_eq honce]
  refine (Option.orElse_eq_some _ _ _).trans (or_congr hlongest ?_)
  rw [hnone]
  exact ⟨fun ⟨huncovered, hfirst⟩ => ⟨huncovered, hfirst⟩, fun hd => ⟨hd.uncovered, hd.first⟩⟩

/-- The search of the routes finds nothing when that of the slots does not, and there is no
default route. -/
theorem Connected.lookup_none_iff (h : Connected w n order t) (honce : order.Nodup) :
    rtLookupLpm (t.rtTable n) ip = none ↔ getMatchingSubnetInterface t n ip = none ∧
      ∀ i ∈ order, (t.connectedRoute i).isDefault = false := by
  rw [rtLookupLpm_eq_none_iff, h.subnet_none_iff, h.rtTable honce]
  constructor
  · intro hno
    have hroute : ∀ i ∈ order, (t.connectedRoute i).isDefault = false ∧
        ¬ ((t.connectedRoute i).covers ip = true ∧ 0 < (t.connectedRoute i).mask) := by
      intro i hi
      exact hno _ (List.mem_map_of_mem (List.mem_reverse.mpr hi))
    refine ⟨fun i hi intf hintf => ?_, fun i hi => (hroute i hi).1⟩
    obtain ⟨hdefault, huncovered⟩ := hroute i hi
    obtain ⟨intf', hintf', -, hmask, heq⟩ := h.live_route hi
    obtain rfl := Option.some.inj (hintf.symm.trans hintf')
    rw [heq] at hdefault huncovered
    rw [covers_connectedRoute, hdefault] at huncovered
    exact Bool.eq_false_iff.mpr fun hsubnet => huncovered ⟨hsubnet, hmask⟩
  · rintro ⟨hsubnet, hdefault⟩ entry hentry
    obtain ⟨i, hi, rfl⟩ := List.mem_map.mp hentry
    have hi := List.mem_reverse.mp hi
    refine ⟨hdefault i hi, fun hcov => ?_⟩
    obtain ⟨intf, hintf, -, -, heq⟩ := h.live_route hi
    rw [heq, covers_connectedRoute, hsubnet i hi intf hintf, Bool.and_false] at hcov
    cases hcov.1

end Lookups

/-! ### When they agree -/

/-- The subnet lookup gives the interface of the route that is looked up, or both nothing. -/
def LookupsAgree (w : World) (n : NodeId) (ip : UInt32) : Prop :=
  getMatchingSubnetInterface w n ip = (rtLookupLpm (w.rtTable n) ip).map RtEntry.intf

/-- **When the two lookups agree**, on a node whose interfaces got addresses in an order. -/
structure SubnetLookup (w : World) (n : NodeId) (order : List IntfId) : Prop where
  /-- The first subnet in the order of the slots must be the longest, and of several of that
  length the one configured last; or it is the first whose network is 0, and only such contain
  the address.  If no subnet contains the address, no network may be 0. -/
  agree_iff : ∀ ip, LookupsAgree w n ip ↔
    match getMatchingSubnetInterface w n ip with
    | some i => Longest w order ip i ∨ FirstDefault w order ip i
    | none => ∀ i ∈ order, (w.connectedRoute i).isDefault = false
  /-- No route is found exactly when no subnet is, and no network is 0. -/
  none_iff : ∀ ip, rtLookupLpm (w.rtTable n) ip = none ↔
    getMatchingSubnetInterface w n ip = none ∧
      ∀ i ∈ order, (w.connectedRoute i).isDefault = false
  /-- Subnets that do not overlap, none of them of network 0, are enough. -/
  disjoint : (∀ i ∈ order, (w.connectedRoute i).isDefault = false) →
    (∀ i ∈ order, ∀ j ∈ order, i ≠ j → ∀ ip,
      ¬ ((w.connectedRoute i).covers ip = true ∧ (w.connectedRoute j).covers ip = true)) →
    ∀ ip, LookupsAgree w n ip

theorem Connected.subnetLookup {w t : World} {n : NodeId} {order : List IntfId}
    (h : Connected w n order t) (honce : order.Nodup) : SubnetLookup t n order := by
  have hagree : ∀ ip, LookupsAgree t n ip ↔
      match getMatchingSubnetInterface t n ip with
      | some i => Longest t order ip i ∨ FirstDefault t order ip i
      | none => ∀ i ∈ order, (t.connectedRoute i).isDefault = false := by
    intro ip
    unfold LookupsAgree
    cases hsubnet : getMatchingSubnetInterface t n ip with
    | some i => exact eq_comm.trans (h.lookup_some_iff honce)
    | none =>
        rw [eq_comm, Option.map_eq_none_iff, h.lookup_none_iff honce]
        exact and_iff_right hsubnet
  refine ⟨hagree, fun ip => h.lookup_none_iff honce, fun hnet hdisjoint ip => ?_⟩
  refine (hagree ip).mpr ?_
  cases hsubnet : getMatchingSubnetInterface t n ip with
  | none => exact hnet
  | some i =>
      obtain ⟨hi, intf, hintf, hin⟩ := h.subnet_some hsubnet
      have hcov : (t.connectedRoute i).covers ip = true := by
        have hdefault := hnet i hi
        rw [connectedRoute_of_intf hintf] at hdefault ⊢
        rw [covers_connectedRoute, hdefault, hin]
        rfl
      -- no other subnet contains the address
      refine Or.inl ⟨hi, hcov, fun j hj hcov' hne => ?_⟩
      exact absurd ⟨hcov', hcov⟩ (hdisjoint j hj i hi hne ip)

/-- **The subnet lookup and the route lookup**, after any calls that gave each interface of a
node at most one address and added no other route. -/
theorem subnet_lookup {w t : World} {n : NodeId} {ops : List Op} (h0 : Initial w)
    (hfresh : Unconfigured w n) (hrun : runOps w ops = some t) (hops : OnlyAddresses w n ops) :
    SubnetLookup t n (configuredIntfs w n ops) :=
  (hops.connected h0 hfresh hrun).subnetLookup hops.once

/-- `10.1.1.1/8` in the first slot and `10.1.2.1/16` in the second. -/
def Fixture.nestedSubnets : List Op :=
  [.nodeSetIntfIpAddr 0 eth01 addr1 8, .nodeSetIntfIpAddr 0 eth02 addr2 16]

theorem Fixture.nestedSubnets_only : OnlyAddresses Fixture.graph 0 Fixture.nestedSubnets where
  routes := by simp [Fixture.nestedSubnets]
  masks := by
    intro ifName ipAddr mask hmem
    rcases List.mem_cons.mp hmem with heq | hmem
    · cases heq
      decide
    · cases List.mem_singleton.mp hmem
      decide
  once := by decide +kernel

theorem subnet_lookup_nested : ∃ t, runOps Fixture.graph Fixture.nestedSubnets = some t ∧
    SubnetLookup t 0 (configuredIntfs Fixture.graph 0 Fixture.nestedSubnets) := by
  have hruns : (runOps Fixture.graph Fixture.nestedSubnets).isSome := by decide +kernel
  obtain ⟨t, hrun⟩ := Option.isSome_iff_exists.mp hruns
  exact ⟨t, hrun, subnet_lookup Fixture.graph_initial Fixture.graph_unconfigured hrun
    Fixture.nestedSubnets_only⟩

/-- `10.1.3.3` is in both subnets.  The lookup of the subnet gives the first slot, the one of
the route the longer prefix. -/
theorem lookups_disagree : OnlyAddresses Fixture.graph 0 Fixture.nestedSubnets ∧
    ∃ t, runOps Fixture.graph Fixture.nestedSubnets = some t ∧
      getMatchingSubnetInterface t 0 0x0303010a = some 0 ∧
      (rtLookupLpm (t.rtTable 0) 0x0303010a).map RtEntry.intf = some 2 := by
  refine ⟨Fixture.nestedSubnets_only, ?_⟩
  have hruns : (runOps Fixture.graph Fixture.nestedSubnets).any fun t =>
      getMatchingSubnetInterface t 0 0x0303010a == some 0 &&
        (rtLookupLpm (t.rtTable 0) 0x0303010a).map RtEntry.intf == some 2 := by
    decide +kernel
  obtain ⟨t, hrun, htests⟩ := (Option.any_eq_true _ _).mp hruns
  obtain ⟨hsubnet, hroute⟩ := Bool.and_eq_true_iff.mp htests
  exact ⟨t, hrun, beq_iff_eq.mp hsubnet, beq_iff_eq.mp hroute⟩

end SimpleTcpip
