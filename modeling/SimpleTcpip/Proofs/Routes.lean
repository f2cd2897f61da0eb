/-
Which route `rt_lookup_lpm` picks.

The loop carries two candidates with different rules: a prefix replaces the last one only if
it is strictly longer, a default route replaces the last one always.  So the first candidate
is the `argmax` of the mask over the prefixes that match, and the second is the last default
route.  That is an invariant of the scan, and everything else is read off it.
-/
import SimpleTcpip.Model.Fixture

namespace SimpleTcpip

open Fallible

/-! ### The candidates -/

/-- A route with a prefix that matches an address. -/
def RtEntry.covers (ip : UInt32) (entry : RtEntry) : Bool :=
  entry.dst != 0 && ipNetEq ip entry.dst entry.mask

/-- A default route. -/
def RtEntry.isDefault (entry : RtEntry) : Bool := entry.dst == 0

/-- The matching prefixes of a table that are longer than `max_mask` starts with. -/
def prefixes (ip : UInt32) (table : List RtEntry) : List RtEntry :=
  table.filter fun entry => entry.covers ip && decide ((0 : Int8) < entry.mask)

theorem mem_prefixes {ip : UInt32} {table : List RtEntry} {entry : RtEntry} :
    entry ∈ prefixes ip table ↔ entry ∈ table ∧ entry.covers ip = true ∧ 0 < entry.mask := by
  simp [prefixes]

/-- What the loop of `rt_lookup_lpm` holds after the entries of `table`. -/
structure Scanned (ip : UInt32) (table : List RtEntry) (s : LpmState) : Prop where
  maxEntry : s.maxEntry = (prefixes ip table).argmax fun entry => entry.mask.toInt
  maxMask : s.maxMask = s.maxEntry.elim 0 fun entry => entry.mask
  defaultEntry : s.defaultEntry = (table.filter RtEntry.isDefault).getLast?

/-- A candidate the loop holds is a prefix it has passed. -/
theorem Scanned.pos {ip : UInt32} {table : List RtEntry} {s : LpmState} (h : Scanned ip table s) :
    0 ≤ s.maxMask := by
  rw [h.maxMask]
  cases hmax : s.maxEntry with
  | none => exact Int8.le_refl 0
  | some entry =>
      have hmem : entry ∈ prefixes ip table := List.argmax_mem (h.maxEntry ▸ hmax)
      exact Int8.le_of_lt (mem_prefixes.mp hmem).2.2

theorem Scanned.step {ip : UInt32} {table : List RtEntry} {s : LpmState} (h : Scanned ip table s)
    (entry : RtEntry) : Scanned ip (table ++ [entry]) (lpmStep ip s entry) := by
  unfold lpmStep
  split
  · rename_i hdst
    have hskip : prefixes ip (table ++ [entry]) = prefixes ip table := by
      simp [prefixes, RtEntry.covers, hdst]
    refine ⟨?_, h.maxMask, ?_⟩
    · rw [hskip]
      exact h.maxEntry
    · simp [RtEntry.isDefault, hdst]
  · rename_i hdst
    have hdefault : (table ++ [entry]).filter RtEntry.isDefault
        = table.filter RtEntry.isDefault := by
      simp [RtEntry.isDefault, hdst]
    split
    · rename_i hlonger
      have hpos : 0 < entry.mask := Int8.lt_of_le_of_lt h.pos hlonger.2
      have hlast : prefixes ip (table ++ [entry]) = prefixes ip table ++ [entry] := by
        simp [prefixes, RtEntry.covers, hdst, hlonger.1, hpos]
      refine ⟨?_, rfl, ?_⟩
      · rw [hlast, List.argmax_concat, ← h.maxEntry]
        cases hmax : s.maxEntry with
        | none => rfl
        | some old =>
            -- the entry is longer than `max_mask`, the mask of the old candidate
            have hlt : old.mask.toInt < entry.mask.toInt := by
              have := hlonger.2
              rw [h.maxMask, hmax] at this
              exact Int8.lt_iff_toInt_lt.mp this
            exact (if_pos hlt).symm
      · rw [hdefault]
        exact h.defaultEntry
    · rename_i hshort
      refine ⟨?_, h.maxMask, hdefault.symm ▸ h.defaultEntry⟩
      by_cases hcand : ipNetEq ip entry.dst entry.mask = true ∧ 0 < entry.mask
      · have hlast : prefixes ip (table ++ [entry]) = prefixes ip table ++ [entry] := by
          simp [prefixes, RtEntry.covers, hdst, hcand.1, hcand.2]
        have hle : ¬ s.maxMask < entry.mask := fun hlt => hshort ⟨hcand.1, hlt⟩
        rw [h.maxMask] at hle
        rw [hlast, List.argmax_concat, ← h.maxEntry]
        cases hmax : s.maxEntry with
        | none =>
            rw [hmax] at hle
            exact absurd hcand.2 hle
        | some old =>
            rw [hmax] at hle
            exact (if_neg fun hlt => hle (Int8.lt_iff_toInt_lt.mpr hlt)).symm
      · have hskip : prefixes ip (table ++ [entry]) = prefixes ip table := by
          rw [not_and_or] at hcand
          rcases hcand with hc | hc <;> simp [prefixes, RtEntry.covers, hc]
        rw [hskip]
        exact h.maxEntry

/-- The invariant of the scan, for every table. -/
theorem scanned (ip : UInt32) (table : List RtEntry) :
    Scanned ip table (table.foldl (lpmStep ip) ⟨0, none, none⟩) := by
  induction table using List.reverseRecOn with
  | nil => exact ⟨rfl, rfl, rfl⟩
  | append_singleton table entry ih =>
      rw [List.foldl_append]
      exact ih.step entry

theorem rtLookupLpm_eq (table : List RtEntry) (ip : UInt32) :
    rtLookupLpm table ip = ((prefixes ip table).argmax (fun entry => entry.mask.toInt)
      <|> (table.filter RtEntry.isDefault).getLast?) := by
  rw [rtLookupLpm, (scanned ip table).maxEntry, (scanned ip table).defaultEntry]

/-- The entry `rt_lookup_lpm` returns is in the table. -/
theorem rtLookupLpm_mem {table : List RtEntry} {ip : UInt32} {rt : RtEntry}
    (h : rtLookupLpm table ip = some rt) : rt ∈ table := by
  rw [rtLookupLpm_eq] at h
  rcases (Option.orElse_eq_some _ _ _).mp h with hmax | ⟨-, hlast⟩
  · exact (mem_prefixes.mp (List.argmax_mem hmax)).1
  · exact (List.mem_filter.mp (List.mem_of_getLast? hlast)).1

/-- Nothing is found when no prefix matches and there is no default route. -/
theorem rtLookupLpm_eq_none_iff {table : List RtEntry} {ip : UInt32} :
    rtLookupLpm table ip = none ↔
      ∀ entry ∈ table, entry.isDefault = false ∧ ¬ (entry.covers ip = true ∧ 0 < entry.mask) := by
  rw [rtLookupLpm_eq, Option.orElse_eq_none, List.argmax_eq_none, List.getLast?_eq_none_iff, prefixes,
    List.filter_eq_nil_iff, List.filter_eq_nil_iff, ← forall₂_and]
  refine forall₂_congr fun entry _ => ?_
  rw [Bool.and_eq_true, decide_eq_true_iff, Bool.not_eq_true, and_comm]

/-! ### The specification -/

/-- A longest prefix that matches, a default route if none does, and otherwise nothing. -/
def LongestPrefix (ip : UInt32) (routes : List RtEntry) (found : Option RtEntry) : Prop :=
  (∃ entry ∈ routes, entry.covers ip = true ∧ found = some entry ∧
    ∀ other ∈ routes, other.covers ip = true → other.mask ≤ entry.mask) ∨
  ((∀ entry ∈ routes, entry.covers ip = false) ∧
    ((∃ entry ∈ routes, entry.isDefault = true ∧ found = some entry) ∨
      (∀ entry ∈ routes, entry.isDefault = false) ∧ found = none))

/-- Two routes for the same destinations. -/
def RtEntry.Clash (a b : RtEntry) : Prop :=
  a.dst ≠ 0 ∧ b.dst ≠ 0 ∧ a.mask = b.mask ∧ intIpMasked a.dst a.mask = intIpMasked b.dst b.mask ∨
  a.dst = 0 ∧ b.dst = 0

theorem RtEntry.Clash.symm {a b : RtEntry} (h : a.Clash b) : b.Clash a := by
  rcases h with ⟨ha, hb, hmask, hdst⟩ | ⟨ha, hb⟩
  · exact Or.inl ⟨hb, ha, hmask.symm, hdst.symm⟩
  · exact Or.inr ⟨hb, ha⟩

/-- No two routes of a list are for the same destinations. -/
def Unambiguous (routes : List RtEntry) : Prop := routes.Pairwise fun a b => ¬ a.Clash b

theorem Unambiguous.eq {routes : List RtEntry} (h : Unambiguous routes) {a b : RtEntry}
    (ha : a ∈ routes) (hb : b ∈ routes) (hclash : a.Clash b) : a = b := by
  have : Std.Symm fun a b : RtEntry => ¬ a.Clash b := ⟨fun _ _ hno hyes => hno hyes.symm⟩
  by_contra hne
  exact List.Pairwise.forall h ha hb hne hclash

/-- Two prefixes of one length that match one address are for the same destinations. -/
theorem RtEntry.covers_clash {ip : UInt32} {a b : RtEntry} (ha : a.covers ip = true)
    (hb : b.covers ip = true) (hmask : a.mask = b.mask) : a.Clash b := by
  simp only [RtEntry.covers, ipNetEq, Bool.and_eq_true, bne_iff_ne, beq_iff_eq] at ha hb
  refine Or.inl ⟨ha.1, hb.1, hmask, ?_⟩
  rw [← ha.2, ← hb.2, hmask]

/-- What the specification allows does not depend on the order of the routes. -/
theorem LongestPrefix.perm {ip : UInt32} {routes routes' : List RtEntry} {found : Option RtEntry}
    (h : LongestPrefix ip routes found) (hperm : routes.Perm routes') :
    LongestPrefix ip routes' found := by
  unfold LongestPrefix
  simp only [← hperm.mem_iff]
  exact h

/-- Without clashes it allows one answer. -/
theorem LongestPrefix.unique {ip : UInt32} {routes : List RtEntry} {found found' : Option RtEntry}
    (h : LongestPrefix ip routes found) (h' : LongestPrefix ip routes found')
    (hclear : Unambiguous routes) : found = found' := by
  rcases h with ⟨a, ha, hcov, rfl, hmax⟩ | ⟨hnone, h⟩
  · rcases h' with ⟨b, hb, hcov', rfl, hmax'⟩ | ⟨hnone', -⟩
    · have hmask : a.mask = b.mask := Int8.le_antisymm (hmax' a ha hcov) (hmax b hb hcov')
      rw [hclear.eq ha hb (RtEntry.covers_clash hcov hcov' hmask)]
    · rw [hnone' a ha] at hcov
      cases hcov
  · rcases h' with ⟨b, hb, hcov', -, -⟩ | ⟨-, h'⟩
    · rw [hnone b hb] at hcov'
      cases hcov'
    · rcases h with ⟨a, ha, hdef, rfl⟩ | ⟨hno, rfl⟩
      · rcases h' with ⟨b, hb, hdef', rfl⟩ | ⟨hno', -⟩
        · have hboth : a.Clash b := Or.inr ⟨beq_iff_eq.mp hdef, beq_iff_eq.mp hdef'⟩
          rw [hclear.eq ha hb hboth]
        · rw [hno' a ha] at hdef
          cases hdef
      · rcases h' with ⟨b, hb, hdef', -⟩ | ⟨-, rfl⟩
        · rw [hno b hb] at hdef'
          cases hdef'
        · rfl

/-- The lookup meets the specification on every table whose prefixes are not empty. -/
theorem rtLookupLpm_longestPrefix {table : List RtEntry}
    (hmask : ∀ entry ∈ table, entry.dst ≠ 0 → 0 < entry.mask) (ip : UInt32) :
    LongestPrefix ip table (rtLookupLpm table ip) := by
  have hcand : ∀ entry ∈ table, entry.covers ip = true → entry ∈ prefixes ip table := by
    intro entry hmem hcov
    have hdst : entry.dst ≠ 0 := by
      intro h0
      simp [RtEntry.covers, h0] at hcov
    exact mem_prefixes.mpr ⟨hmem, hcov, hmask entry hmem hdst⟩
  rw [rtLookupLpm_eq]
  cases hmax : (prefixes ip table).argmax fun entry => entry.mask.toInt with
  | some entry =>
      obtain ⟨hmem, hcov, -⟩ := mem_prefixes.mp (List.argmax_mem hmax)
      refine Or.inl ⟨entry, hmem, hcov, rfl, fun other hother hcov' => ?_⟩
      have hle : other.mask.toInt ≤ entry.mask.toInt :=
        List.le_of_mem_argmax (f := fun entry : RtEntry => entry.mask.toInt)
          (hcand other hother hcov') hmax
      exact Int8.le_iff_toInt_le.mpr hle
  | none =>
      have hnil := List.argmax_eq_none.mp hmax
      refine Or.inr ⟨fun entry hmem => ?_, ?_⟩
      · refine Bool.eq_false_iff.mpr fun hcov => ?_
        have := hcand entry hmem hcov
        rw [hnil] at this
        cases this
      · change _ ∨ _ ∧ (table.filter RtEntry.isDefault).getLast? = none
        cases hlast : (table.filter RtEntry.isDefault).getLast? with
        | some entry =>
            obtain ⟨hmem, hdef⟩ := List.mem_filter.mp (List.mem_of_getLast? hlast)
            exact Or.inl ⟨entry, hmem, hdef, rfl⟩
        | none =>
            refine Or.inr ⟨fun entry hmem => ?_, rfl⟩
            refine Bool.eq_false_iff.mpr fun hdef => ?_
            have hmem' := List.mem_filter.mpr ⟨hmem, hdef⟩
            rw [List.getLast?_eq_none_iff.mp hlast] at hmem'
            cases hmem'

/-! ### A table built route by route -/

/-- A sequence of `rt_table_add_route` calls on the table of a node. -/
def addRoutes (n : NodeId) (routes : List RtEntry) : M Unit :=
  routes.forM fun entry => rtTableAddRoute n entry.dst entry.mask entry.next entry.intf

theorem addRoutes_run (n : NodeId) (routes : List RtEntry) (w : World) :
    addRoutes n routes w = .ok () { w with
      rtTable := Function.update w.rtTable n (routes.reverse ++ w.rtTable n) } := by
  induction routes generalizing w with
  | nil => rw [List.reverse_nil, List.nil_append, Function.update_eq_self]; rfl
  | cons entry routes ih =>
      refine (run_bind_ok rfl).trans ((ih _).trans ?_)
      change EStateM.Result.ok () { w with rtTable := (Function.update (Function.update w.rtTable n
        (entry :: w.rtTable n)) n (routes.reverse ++ Function.update w.rtTable n
        (entry :: w.rtTable n) n)) } = _
      rw [Function.update_idem, Function.update_self, List.reverse_cons, List.append_assoc]
      rfl

/-- The masks for which the shift of `IP_NET_EQ` is defined. -/
def MasksOk (routes : List RtEntry) : Prop :=
  ∀ entry ∈ routes, entry.dst ≠ 0 → 1 ≤ entry.mask ∧ entry.mask ≤ 30

/-- The lookup in a table built route by route. -/
theorem addRoutes_longestPrefix {w t : World} {n : NodeId} {routes : List RtEntry}
    (hempty : w.rtTable n = []) (hmask : MasksOk routes) (hrun : addRoutes n routes w = .ok () t)
    (ip : UInt32) : LongestPrefix ip routes (rtLookupLpm (t.rtTable n) ip) := by
  rw [addRoutes_run] at hrun
  cases hrun
  change LongestPrefix ip routes
    (rtLookupLpm (Function.update w.rtTable n (routes.reverse ++ w.rtTable n) n) ip)
  rw [Function.update_self, hempty, List.append_nil]
  refine (rtLookupLpm_longestPrefix (fun entry hmem hdst => ?_) ip).perm (List.reverse_perm routes)
  exact Int8.lt_of_lt_of_le (by decide) (hmask entry (List.mem_reverse.mp hmem) hdst).1

/-- The lookup in a table built by any sequence of calls picks a longest prefix, and without
clashing routes the calls can be made in any order. -/
theorem rtLookupLpm_added {w t : World} {n : NodeId} {routes : List RtEntry}
    (hempty : w.rtTable n = []) (hmask : MasksOk routes) (hrun : addRoutes n routes w = .ok () t)
    (ip : UInt32) :
    LongestPrefix ip routes (rtLookupLpm (t.rtTable n) ip) ∧
      (Unambiguous routes → ∀ (w' t' : World) (n' : NodeId) (routes' : List RtEntry),
        w'.rtTable n' = [] → routes'.Perm routes → addRoutes n' routes' w' = .ok () t' →
        rtLookupLpm (t'.rtTable n') ip = rtLookupLpm (t.rtTable n) ip) := by
  refine ⟨addRoutes_longestPrefix hempty hmask hrun ip, ?_⟩
  intro hclear w' t' n' routes' hempty' hperm hrun'
  have hmask' : MasksOk routes' := fun entry hmem => hmask entry (hperm.mem_iff.mp hmem)
  have h' := addRoutes_longestPrefix hempty' hmask' hrun' ip
  exact (h'.perm hperm).unique (addRoutes_longestPrefix hempty hmask hrun ip) hclear

/-- A default route and two prefixes, one inside the other: 10.0.0.0/8 and 10.1.0.0/16. -/
def nestedRoutes : List RtEntry :=
  [⟨0, 0, 0x0100000a, 0⟩, ⟨0x0000010a, 16, 0, 2⟩, ⟨0x0000000a, 8, 0, 0⟩]

theorem rtLookupLpm_added_fixture : ∃ t, addRoutes 0 nestedRoutes Fixture.graph = .ok () t ∧
    LongestPrefix 0x0303010a nestedRoutes (rtLookupLpm (t.rtTable 0) 0x0303010a) ∧
    ∀ t', addRoutes 0 nestedRoutes.reverse Fixture.graph = .ok () t' →
      rtLookupLpm (t'.rtTable 0) 0x0303010a = rtLookupLpm (t.rtTable 0) 0x0303010a := by
  have hmask : MasksOk nestedRoutes := by
    unfold MasksOk
    decide
  have hclear : Unambiguous nestedRoutes := by
    unfold Unambiguous RtEntry.Clash
    decide
  have hempty : Fixture.graph.rtTable 0 = [] := rfl
  generalize Fixture.graph = w at *
  have h := rtLookupLpm_added hempty hmask (addRoutes_run 0 nestedRoutes w) 0x0303010a
  refine ⟨_, addRoutes_run 0 nestedRoutes w, h.1, fun t' ht' => ?_⟩
  exact h.2 hclear w t' 0 nestedRoutes.reverse hempty (List.reverse_perm _) ht'

/-- The longer prefix wins, and the default route is the last resort. -/
example : (rtLookupLpm nestedRoutes 0x0303010a).map RtEntry.mask = some 16 ∧
    (rtLookupLpm nestedRoutes 0x0303020a).map RtEntry.mask = some 8 ∧
    (rtLookupLpm nestedRoutes 0x0303020b).map RtEntry.mask = some 0 := by
  decide

end SimpleTcpip
