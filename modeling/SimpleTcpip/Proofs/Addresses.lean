/-
What `node_set_intf_ip_addr` writes: the address of an interface, and the route to the
network behind it.

The address is overwritten and the route is added.  The two agree as long as no interface
is configured twice, and never again afterwards, because no route is taken away.
-/
import SimpleTcpip.Model.Fixture
import SimpleTcpip.Proofs.Primitives

namespace SimpleTcpip

open Fallible

/-! ### One call -/

/-- The route to the network behind an interface. -/
def Intf.connectedRoute (intf : Intf) (i : IntfId) : RtEntry where
  dst := intIpMasked intf.ipAddr intf.mask
  mask := intf.mask
  next := 0
  intf := i

/-- An interface with an address. -/
def Intf.configured (intf : Intf) (ip : UInt32) (mask : Int8) : Intf :=
  { intf with ipAddr := ip, mask := mask, isIpAddrConfig := true }

/-- The state once interface `i` of node `n` has become `intf`. -/
def World.configured (w : World) (n : NodeId) (i : IntfId) (intf : Intf) : World :=
  { w with
    intf := Function.update w.intf i (some intf)
    rtTable := Function.update w.rtTable n (intf.connectedRoute i :: w.rtTable n) }

/-- The interface a call configures: it has the name, and the address is one. -/
def addressed (w : World) (n : NodeId) (ifName ipAddr : List UInt8) : Option IntfId :=
  if convertIpFromStrToInt ipAddr = 0 then none else getNodeIfByName w n ifName

theorem getNodeIfByName_live {w : World} {n : NodeId} {ifName : List UInt8} {i : IntfId}
    (h : getNodeIfByName w n ifName = some i) :
    i ∈ nodeIntfs w n ∧ ∃ intf, w.intf i = some intf := by
  unfold getNodeIfByName at h
  have hany := List.find?_some h
  obtain ⟨intf, hintf, -⟩ := (Option.any_eq_true _ _).mp hany
  exact ⟨List.mem_of_find?_eq_some h, intf, hintf⟩

theorem addressed_some {w : World} {n : NodeId} {ifName ipAddr : List UInt8} {i : IntfId}
    (h : addressed w n ifName ipAddr = some i) :
    convertIpFromStrToInt ipAddr ≠ 0 ∧ getNodeIfByName w n ifName = some i := by
  unfold addressed at h
  split at h
  · cases h
  · exact ⟨‹_›, h⟩

theorem addressed_live {w : World} {n : NodeId} {ifName ipAddr : List UInt8} {i : IntfId}
    (h : addressed w n ifName ipAddr = some i) :
    i ∈ nodeIntfs w n ∧ ∃ intf, w.intf i = some intf :=
  getNodeIfByName_live (addressed_some h).2

/-- A call that configures no interface returns `false` and leaves everything as it was. -/
theorem nodeSetIntfIpAddr_refused {w : World} {n : NodeId} {ifName ipAddr : List UInt8}
    (mask : Int8) (h : addressed w n ifName ipAddr = none) :
    nodeSetIntfIpAddr n ifName ipAddr mask w = .ok false w := by
  unfold nodeSetIntfIpAddr
  rw [run_bind_ok (run_get w)]
  unfold addressed at h
  cases hname : getNodeIfByName w n ifName with
  | none => rfl
  | some i =>
      split at h
      · rename_i h0
        simp only
        rw [if_pos h0]
        rfl
      · rw [hname] at h
        cases h

theorem nodeSetIntfIpAddr_run {w : World} {n : NodeId} {ifName ipAddr : List UInt8} {i : IntfId}
    {intf : Intf} (mask : Int8) (h : addressed w n ifName ipAddr = some i)
    (hintf : w.intf i = some intf) : nodeSetIntfIpAddr n ifName ipAddr mask w
      = .ok true (w.configured n i (intf.configured (convertIpFromStrToInt ipAddr) mask)) := by
  obtain ⟨h0, hname⟩ := addressed_some h
  unfold nodeSetIntfIpAddr
  rw [run_bind_ok (run_get w), hname]
  simp only
  rw [if_neg h0, run_bind_ok (derefIntf_ok.mpr ⟨hintf, rfl⟩)]
  rfl

/-- What a call leaves, also when it stops. -/
theorem nodeSetIntfIpAddr_final (w : World) (n : NodeId) (ifName ipAddr : List UInt8)
    (mask : Int8) : addressed w n ifName ipAddr = none ∧
        final (nodeSetIntfIpAddr n ifName ipAddr mask) w = w ∨
      ∃ i intf, addressed w n ifName ipAddr = some i ∧ w.intf i = some intf ∧
        final (nodeSetIntfIpAddr n ifName ipAddr mask) w
          = w.configured n i (intf.configured (convertIpFromStrToInt ipAddr) mask) := by
  cases haddr : addressed w n ifName ipAddr with
  | none => exact Or.inl ⟨rfl, final_of_ok (nodeSetIntfIpAddr_refused mask haddr)⟩
  | some i =>
      obtain ⟨-, intf, hintf⟩ := addressed_live haddr
      exact Or.inr ⟨i, intf, rfl, hintf, final_of_ok (nodeSetIntfIpAddr_run mask haddr hintf)⟩

/-- An interface once another one, or itself, was configured. -/
theorem configured_intf {w : World} {n : NodeId} {i j : IntfId} {intf : Intf} {ip : UInt32}
    {mask : Int8} {intf' : Intf}
    (hj : (w.configured n i (intf.configured ip mask)).intf j = some intf') :
    w.intf j = some intf' ∨ j = i ∧ intf' = intf.configured ip mask := by
  change Function.update w.intf i _ j = some intf' at hj
  by_cases hij : j = i
  · rw [hij, Function.update_self] at hj
    exact Or.inr ⟨hij, (Option.some.inj hj).symm⟩
  · rw [Function.update_of_ne hij] at hj
    exact Or.inl hj

/-- What is live stays live. -/
theorem configured_live (w : World) (n : NodeId) (i : IntfId) (intf : Intf) {j : IntfId}
    (hj : (w.intf j).isSome) : ((w.configured n i intf).intf j).isSome := by
  change (Function.update w.intf i (some intf) j).isSome
  by_cases hij : j = i
  · rw [hij, Function.update_self]
    rfl
  · rwa [Function.update_of_ne hij]

/-! ### A sequence of calls -/

/-- The arguments of a call on a node. -/
structure AddrCall where
  ifName : List UInt8
  ipAddr : List UInt8
  mask : Int8

/-- A sequence of `node_set_intf_ip_addr` calls on a node, and what each returned. -/
def setAddrs (n : NodeId) (calls : List AddrCall) : M (List Bool) :=
  calls.mapM fun call => nodeSetIntfIpAddr n call.ifName call.ipAddr call.mask

/-- The interfaces a sequence of calls configures, call by call. -/
def targets (w : World) (n : NodeId) (calls : List AddrCall) : List IntfId :=
  calls.filterMap fun call => addressed w n call.ifName call.ipAddr

/-- The routes of a node to the network behind an interface. -/
def connectedRoutes (w : World) (n : NodeId) (i : IntfId) : List RtEntry :=
  (w.rtTable n).filter fun entry => entry.next == 0 && entry.intf == i

/-- The routes with next hop 0 are one for each configured interface, to its network. -/
structure Mirrors (w : World) (n : NodeId) : Prop where
  route : ∀ i ∈ nodeIntfs w n, ∀ intf, w.intf i = some intf →
    connectedRoutes w n i = if intf.isIpAddrConfig then [intf.connectedRoute i] else []
  own : ∀ entry ∈ w.rtTable n, entry.next = 0 → entry.intf ∈ nodeIntfs w n

/-- A node as `init_node_nw_prop` and `init_intf_nw_prop` leave it. -/
structure Unconfigured (w : World) (n : NodeId) : Prop where
  table : w.rtTable n = []
  intfs : ∀ i ∈ nodeIntfs w n, ∀ intf, w.intf i = some intf → intf.isIpAddrConfig = false

/-- The state after calls that configured the interfaces `done`: every call has left a route,
and the newest one of an interface is to its current network. -/
structure Appended (w : World) (n : NodeId) (done : List IntfId) (t : World) : Prop where
  same : nodeIntfs t n = nodeIntfs w n
  names : ∀ ifName ipAddr, addressed t n ifName ipAddr = addressed w n ifName ipAddr
  targets : (t.rtTable n).map RtEntry.intf = done.reverse
  own : ∀ i ∈ done, i ∈ nodeIntfs w n
  next : ∀ entry ∈ t.rtTable n, entry.next = 0
  newest : ∀ i ∈ nodeIntfs w n, ∀ intf, t.intf i = some intf →
    (connectedRoutes t n i).head? =
      if intf.isIpAddrConfig then some (intf.connectedRoute i) else none

theorem Unconfigured.appended {w : World} {n : NodeId} (h : Unconfigured w n) :
    Appended w n [] w where
  same := rfl
  names := fun _ _ => rfl
  targets := by rw [h.table]; rfl
  own := fun i hi => by cases hi
  next := fun entry hentry => by rw [h.table] at hentry; cases hentry
  newest := fun i hi intf hintf => by
    rw [connectedRoutes, h.table, h.intfs i hi intf hintf]
    rfl

section Step

variable {w t : World} {n : NodeId} {done : List IntfId} {i : IntfId} {intf : Intf}

/-- Configuring an interface renames none. -/
theorem addressed_configured (hintf : t.intf i = some intf) (ip : UInt32) (mask : Int8)
    (ifName ipAddr : List UInt8) :
    addressed (t.configured n i (intf.configured ip mask)) n ifName ipAddr
      = addressed t n ifName ipAddr := by
  have hname : ∀ j, ((t.configured n i (intf.configured ip mask)).intf j).any
      (fun x => x.name.take maxIfNameSize == ifName.take maxIfNameSize)
      = (t.intf j).any fun x => x.name.take maxIfNameSize == ifName.take maxIfNameSize := by
    intro j
    change (Function.update t.intf i _ j).any _ = _
    by_cases hj : j = i
    · subst hj
      rw [Function.update_self, hintf]
      rfl
    · rw [Function.update_of_ne hj]
  unfold addressed getNodeIfByName
  simp only [hname]
  rfl

theorem connectedRoutes_configured (j : IntfId) :
    connectedRoutes (t.configured n i intf) n j
      = if i = j then intf.connectedRoute i :: connectedRoutes t n j else connectedRoutes t n j := by
  have htable : (t.configured n i intf).rtTable n = intf.connectedRoute i :: t.rtTable n :=
    Function.update_self ..
  rw [connectedRoutes, htable, List.filter_cons]
  by_cases hij : i = j <;> simp [Intf.connectedRoute, connectedRoutes, hij]

theorem Appended.configured (h : Appended w n done t) (hi : i ∈ nodeIntfs w n)
    (hintf : t.intf i = some intf) (ip : UInt32) (mask : Int8) :
    Appended w n (done ++ [i]) (t.configured n i (intf.configured ip mask)) := by
  have htable : (t.configured n i (intf.configured ip mask)).rtTable n
      = (intf.configured ip mask).connectedRoute i :: t.rtTable n := Function.update_self ..
  refine ⟨h.same, fun ifName ipAddr => ?_, ?_, fun j hj => ?_, fun entry hentry => ?_,
    fun j hj intf' hintf' => ?_⟩
  · rw [addressed_configured hintf, h.names]
  · rw [htable, List.map_cons, h.targets, List.reverse_append]
    rfl
  · rcases List.mem_append.mp hj with hj | hj
    · exact h.own j hj
    · rwa [List.mem_singleton.mp hj]
  · rw [htable] at hentry
    rcases List.mem_cons.mp hentry with rfl | hentry
    · rfl
    · exact h.next entry hentry
  · change Function.update t.intf i _ j = some intf' at hintf'
    rw [connectedRoutes_configured]
    by_cases hij : i = j
    · subst hij
      rw [Function.update_self] at hintf'
      obtain rfl := Option.some.inj hintf'
      rw [if_pos rfl]
      rfl
    · rw [Function.update_of_ne (Ne.symm hij)] at hintf'
      rw [if_neg hij]
      exact h.newest j hj intf' hintf'

/-- The routes of an interface are as many as the calls that configured it. -/
theorem Appended.length (h : Appended w n done t) (i : IntfId) :
    (connectedRoutes t n i).length = done.count i := by
  have hfilter : connectedRoutes t n i = (t.rtTable n).filter fun entry => entry.intf == i := by
    refine List.filter_congr fun entry hentry => ?_
    rw [h.next entry hentry]
    rfl
  rw [hfilter, ← List.count_reverse, ← h.targets, List.count, List.countP_map,
    List.countP_eq_length_filter]
  rfl

/-- The routes mirror the interfaces exactly if no interface was configured twice. -/
theorem Appended.mirrors_iff (h : Appended w n done t)
    (hlive : ∀ i ∈ done, (t.intf i).isSome) : Mirrors t n ↔ done.Nodup := by
  constructor
  · intro hmir
    refine List.nodup_iff_count_le_one.mpr fun i => ?_
    by_cases hi : i ∈ done
    · obtain ⟨intf, hintf⟩ := Option.isSome_iff_exists.mp (hlive i hi)
      rw [← h.length, hmir.route i (h.same ▸ h.own i hi) intf hintf]
      split <;> simp
    · rw [List.count_eq_zero_of_not_mem hi]
      exact Nat.zero_le 1
  · intro hnodup
    refine ⟨fun i hi intf hintf => ?_, fun entry hentry _ => ?_⟩
    · have hlen : (connectedRoutes t n i).length ≤ 1 := by
        rw [h.length]
        exact List.nodup_iff_count_le_one.mp hnodup i
      have hhead := h.newest i (h.same ▸ hi) intf hintf
      -- a list of at most one element is its head
      cases hroutes : connectedRoutes t n i with
      | nil =>
          rw [hroutes] at hhead
          split at hhead
          · cases hhead
          · rename_i hconf
            exact (if_neg hconf).symm
      | cons entry rest =>
          rw [hroutes] at hhead hlen
          obtain rfl : rest = [] := List.length_eq_zero_iff.mp (by simpa using hlen)
          split at hhead
          · rename_i hconf
            rw [if_pos hconf, ← Option.some.inj hhead]
          · cases hhead
    · have hmem : entry.intf ∈ done.reverse := by
        rw [← h.targets]
        exact List.mem_map_of_mem hentry
      rw [h.same]
      exact h.own _ (List.mem_reverse.mp hmem)

end Step

/-- A whole sequence: each call returns whether it configured an interface. -/
theorem setAddrs_appended {w t : World} {n : NodeId} {done : List IntfId}
    (h : Appended w n done t) (hlive : ∀ i ∈ done, (t.intf i).isSome) (calls : List AddrCall) :
    ∃ t', setAddrs n calls t
        = .ok (calls.map fun call => (addressed w n call.ifName call.ipAddr).isSome) t' ∧
      Appended w n (done ++ targets w n calls) t' ∧
      ∀ i ∈ done ++ targets w n calls, (t'.intf i).isSome := by
  induction calls generalizing t done with
  | nil =>
      refine ⟨t, rfl, ?_, ?_⟩
      · rwa [targets, List.filterMap_nil, List.append_nil]
      · rwa [targets, List.filterMap_nil, List.append_nil]
  | cons call calls ih =>
      have hstep : ∀ {b : Bool} {u t' : World} {rs : List Bool},
          nodeSetIntfIpAddr n call.ifName call.ipAddr call.mask t = .ok b u →
          setAddrs n calls u = .ok rs t' → setAddrs n (call :: calls) t = .ok (b :: rs) t' := by
        intro b u t' rs hcall hrest
        unfold setAddrs at hrest ⊢
        rw [List.mapM_cons, run_bind_ok hcall, run_bind_ok hrest, run_pure]
      cases haddr : addressed w n call.ifName call.ipAddr with
      | none =>
          obtain ⟨t', hrun, happ, hlive'⟩ := ih h hlive
          refine ⟨t', ?_, ?_, ?_⟩
          · rw [List.map_cons, haddr]
            exact hstep (nodeSetIntfIpAddr_refused call.mask (h.names _ _ ▸ haddr)) hrun
          · rwa [targets, List.filterMap_cons, haddr]
          · rwa [targets, List.filterMap_cons, haddr]
      | some i =>
          have haddr' := haddr
          rw [← h.names] at haddr'
          obtain ⟨hi, intf, hintf⟩ := addressed_live haddr'
          have hnext := h.configured (h.same ▸ hi) hintf (convertIpFromStrToInt call.ipAddr) call.mask
          obtain ⟨t', hrun, happ, hlive'⟩ := ih hnext fun j hj => by
            rcases List.mem_append.mp hj with hj | hj
            · exact configured_live t n i _ (hlive j hj)
            · rw [List.mem_singleton.mp hj]
              exact configured_live t n i _ (Option.isSome_of_eq_some hintf)
          rw [List.append_assoc, List.singleton_append] at happ hlive'
          refine ⟨t', ?_, ?_, ?_⟩
          · rw [List.map_cons, haddr]
            exact hstep (nodeSetIntfIpAddr_run call.mask haddr' hintf) hrun
          · rwa [targets, List.filterMap_cons, haddr]
          · rwa [targets, List.filterMap_cons, haddr]

/-- A call that returns `false` changes nothing. -/
theorem nodeSetIntfIpAddr_false {w w' : World} {n : NodeId} {ifName ipAddr : List UInt8}
    {mask : Int8} (hrun : nodeSetIntfIpAddr n ifName ipAddr mask w = .ok false w') : w' = w := by
  cases haddr : addressed w n ifName ipAddr with
  | none =>
      rw [nodeSetIntfIpAddr_refused mask haddr] at hrun
      cases hrun
      rfl
  | some i =>
      obtain ⟨-, intf, hintf⟩ := addressed_live haddr
      rw [nodeSetIntfIpAddr_run mask haddr hintf] at hrun
      cases hrun

/-- **The connected routes mirror the interfaces as long as none is configured twice**, and
no longer: the old route stays. -/
theorem connectedRoutes_mirror_iff {w : World} {n : NodeId} (h : Unconfigured w n)
    (calls : List AddrCall) :
    (∃ results t, setAddrs n calls w = .ok results t ∧
      (Mirrors t n ↔ (targets w n calls).Nodup)) ∧
    ∀ (call : AddrCall) (u u' : World),
      nodeSetIntfIpAddr n call.ifName call.ipAddr call.mask u = .ok false u' → u' = u := by
  obtain ⟨t, hrun, happ, hlive⟩ := setAddrs_appended h.appended (fun i hi => by cases hi) calls
  exact ⟨⟨_, t, hrun, happ.mirrors_iff hlive⟩, fun _ _ _ hfalse => nodeSetIntfIpAddr_false hfalse⟩

/-- `10.1.1.1` -/
def Fixture.addr1 : List UInt8 := [49, 48, 46, 49, 46, 49, 46, 49]

/-- `10.1.2.1` -/
def Fixture.addr2 : List UInt8 := [49, 48, 46, 49, 46, 50, 46, 49]

theorem Fixture.graph_unconfigured : Unconfigured Fixture.graph 0 where
  table := rfl
  intfs := by
    intro i hi
    have hi' : i = 0 ∨ i = 2 := by
      have : nodeIntfs Fixture.graph 0 = [0, 2] := by decide
      rw [this] at hi
      simpa using hi
    rcases hi' with rfl | rfl
    · intro intf hintf; cases hintf; rfl
    · intro intf hintf; cases hintf; rfl

theorem connectedRoutes_mirror_fixture : ∃ results t,
    setAddrs 0 [⟨Fixture.eth01, Fixture.addr1, 24⟩, ⟨Fixture.eth02, Fixture.addr2, 24⟩]
      Fixture.graph = .ok results t ∧ Mirrors t 0 := by
  have h := Fixture.graph_unconfigured
  have hnodup : (targets Fixture.graph 0 [⟨Fixture.eth01, Fixture.addr1, 24⟩,
      ⟨Fixture.eth02, Fixture.addr2, 24⟩]).Nodup := by decide +kernel
  generalize Fixture.graph = w at *
  obtain ⟨results, t, hrun, hiff⟩ := (connectedRoutes_mirror_iff h _).1
  exact ⟨results, t, hrun, hiff.mpr hnodup⟩

/-- Configured a second time, an interface has two routes, the first to a network it left. -/
theorem connectedRoutes_stale : ∃ results t,
    setAddrs 0 [⟨Fixture.eth01, Fixture.addr1, 24⟩, ⟨Fixture.eth01, Fixture.addr2, 24⟩]
      Fixture.graph = .ok results t ∧ ¬ Mirrors t 0 := by
  have h := Fixture.graph_unconfigured
  have htwice : ¬ (targets Fixture.graph 0 [⟨Fixture.eth01, Fixture.addr1, 24⟩,
      ⟨Fixture.eth01, Fixture.addr2, 24⟩]).Nodup := by decide +kernel
  generalize Fixture.graph = w at *
  obtain ⟨t, hrun, happ, hlive⟩ := setAddrs_appended h.appended (fun i hi => by cases hi)
    [⟨Fixture.eth01, Fixture.addr1, 24⟩, ⟨Fixture.eth01, Fixture.addr2, 24⟩]
  exact ⟨_, t, hrun, fun hmir => htwice ((happ.mirrors_iff hlive).mp hmir)⟩

end SimpleTcpip
