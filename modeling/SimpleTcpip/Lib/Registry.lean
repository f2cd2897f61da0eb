/-
A table of entries with descriptors, and lists of what is bound where.

An entry is opened under a free descriptor, may be bound once to a place and a port, and is
closed through its descriptor; its number is never used again.  The lists hold the entries
bound to each place.  With the entries listed in the order they were bound, most recent
first, every list is what that order leaves of them, so a search of a list is a search of
the order.
-/
import Mathlib.Data.List.Nodup
import Mathlib.Logic.Function.Basic

/-- A table, as far as descriptors and bindings go. -/
structure Registry (I P : Type) where
  /-- How many descriptors there are. -/
  size : Nat
  /-- The number the next entry gets. -/
  next : Nat
  descriptor : Nat → Option Nat
  /-- What an entry that is open is bound to. -/
  binding : Nat → Option (Option (I × P))
  listed : I → List Nat

namespace Registry

variable {I P : Type} [DecidableEq I] {r r' : Registry I P} {h : List Nat}

/-- Is an entry bound to a place? -/
def isAt (r : Registry I P) (i : I) (k : Nat) : Bool :=
  (r.binding k).any fun b => b.any fun p => p.1 = i

/-- Is an entry bound to a place and a port? -/
def isBound [DecidableEq P] (r : Registry I P) (i : I) (p : P) (k : Nat) : Bool :=
  (r.binding k).any fun b => b.any fun q => q = (i, p)

/-- The lists once an entry with this binding is taken off. -/
def unlisted (r : Registry I P) (k : Nat) : Option (I × P) → I → List Nat
  | none => r.listed
  | some (i, _) => Function.update r.listed i ((r.listed i).erase k)

/-- One call on the table, with the entry it bound. -/
inductive Step (r : Registry I P) : Option Nat → Registry I P → Prop
  | skip {n : Nat} (hn : r.next ≤ n) : Step r none { r with next := n }
  | opened {d : Nat} (hd : d < r.size) (hfree : r.descriptor d = none) : Step r none { r with
      next := r.next + 1
      descriptor := Function.update r.descriptor d (some r.next)
      binding := Function.update r.binding r.next (some none) }
  | bound {k : Nat} {i : I} {p : P} (hk : r.binding k = some none) : Step r (some k) { r with
      binding := Function.update r.binding k (some (some (i, p)))
      listed := Function.update r.listed i (k :: r.listed i) }
  | closed {d k : Nat} {b : Option (I × P)} (hd : r.descriptor d = some k)
      (hk : r.binding k = some b) : Step r none { r with
      descriptor := Function.update r.descriptor d none
      binding := Function.update r.binding k none
      listed := r.unlisted k b }

/-- **The table is in order**, and `h` are the entries bound so far, the last one first. -/
structure Ok (r : Registry I P) (h : List Nat) : Prop where
  lt : ∀ k, (r.binding k).isSome → k < r.next
  /-- A descriptor denotes an open entry. -/
  denotes : ∀ d k, r.descriptor d = some k → d < r.size ∧ (r.binding k).isSome
  /-- No two descriptors denote one entry. -/
  distinct : ∀ d d' k, r.descriptor d = some k → r.descriptor d' = some k → d = d'
  /-- Every open entry has a descriptor. -/
  hasDescriptor : ∀ k, (r.binding k).isSome → ∃ d, r.descriptor d = some k
  historyLt : ∀ k ∈ h, k < r.next
  nodup : h.Nodup
  bound : ∀ k i p, r.binding k = some (some (i, p)) → k ∈ h
  unbound : ∀ k, r.binding k = some none → k ∉ h
  listed : ∀ i, r.listed i = h.filter (r.isAt i)

/-- The empty table. -/
theorem ok_empty (size n : Nat) :
    (⟨size, n, fun _ => none, fun _ => none, fun _ => []⟩ : Registry I P).Ok [] := by
  constructor <;> simp

theorem isAt_iff {i : I} {k : Nat} : r.isAt i k = true ↔ ∃ p, r.binding k = some (some (i, p)) := by
  unfold isAt
  rw [Option.any_eq_true]
  constructor
  · rintro ⟨b, hk, hb⟩
    obtain ⟨⟨j, p⟩, rfl, hj⟩ := (Option.any_eq_true _ _).mp hb
    obtain rfl : j = i := of_decide_eq_true hj
    exact ⟨p, hk⟩
  · rintro ⟨p, hk⟩
    exact ⟨some (i, p), hk, by simp⟩

theorem isBound_iff [DecidableEq P] {i : I} {p : P} {k : Nat} :
    r.isBound i p k = true ↔ r.binding k = some (some (i, p)) := by
  unfold isBound
  rw [Option.any_eq_true]
  constructor
  · rintro ⟨b, hk, hb⟩
    obtain ⟨q, rfl, hq⟩ := (Option.any_eq_true _ _).mp hb
    obtain rfl : q = (i, p) := of_decide_eq_true hq
    exact hk
  · intro hk
    exact ⟨some (i, p), hk, by simp⟩

/-- A write to one entry leaves the lists of the others. -/
theorem filter_isAt_update {k : Nat} {b : Option (Option (I × P))} {l : List Nat} {i : I}
    (hk : k ∉ l) (hb : r'.binding = Function.update r.binding k b) :
    l.filter (r'.isAt i) = l.filter (r.isAt i) := by
  refine List.filter_congr fun j hj => ?_
  have hne : j ≠ k := fun heq => hk (heq ▸ hj)
  rw [isAt, isAt, hb, Function.update_of_ne hne]

/-! ### What a step keeps -/

theorem Ok.skip (hr : r.Ok h) {n : Nat} (hn : r.next ≤ n) : Ok { r with next := n } h :=
  ⟨fun k hk => Nat.lt_of_lt_of_le (hr.lt k hk) hn, hr.denotes, hr.distinct,
    hr.hasDescriptor, fun k hk => Nat.lt_of_lt_of_le (hr.historyLt k hk) hn, hr.nodup, hr.bound,
    hr.unbound, hr.listed⟩

theorem Ok.opened (hr : r.Ok h) {d : Nat} (hd : d < r.size) (hfree : r.descriptor d = none) :
    Ok { r with
      next := r.next + 1
      descriptor := Function.update r.descriptor d (some r.next)
      binding := Function.update r.binding r.next (some none) } h := by
  have hnew : ∀ k, (r.binding k).isSome → k ≠ r.next := fun k hk => Nat.ne_of_lt (hr.lt k hk)
  have hold : ∀ d', r.descriptor d' ≠ some r.next := fun d' hd' =>
    hnew _ (hr.denotes d' _ hd').2 rfl
  have hhist : r.next ∉ h := fun hmem => Nat.lt_irrefl _ (hr.historyLt _ hmem)
  refine ⟨fun k hk => ?_, fun d' k hk => ?_, fun d₁ d₂ k h₁ h₂ => ?_, fun k hk => ?_,
    fun k hk => Nat.lt_succ_of_lt (hr.historyLt k hk), hr.nodup, fun k i p hk => ?_,
    fun k hk => ?_, fun i => ?_⟩
  · by_cases hkn : k = r.next
    · rw [hkn]
      exact Nat.lt_succ_self _
    · change (Function.update r.binding r.next _ k).isSome at hk
      rw [Function.update_of_ne hkn] at hk
      exact Nat.lt_succ_of_lt (hr.lt k hk)
  · change Function.update r.descriptor d _ d' = some k at hk
    show d' < r.size ∧ (Function.update r.binding r.next _ k).isSome
    by_cases hdd : d' = d
    · rw [hdd, Function.update_self] at hk
      obtain rfl := Option.some.inj hk
      exact ⟨hdd ▸ hd, by rw [Function.update_self]; rfl⟩
    · rw [Function.update_of_ne hdd] at hk
      obtain ⟨hlt, hsome⟩ := hr.denotes d' k hk
      exact ⟨hlt, by rw [Function.update_of_ne (hnew k hsome)]; exact hsome⟩
  · change Function.update r.descriptor d _ d₁ = some k at h₁
    change Function.update r.descriptor d _ d₂ = some k at h₂
    by_cases hd₁ : d₁ = d
    · by_cases hd₂ : d₂ = d
      · rw [hd₁, hd₂]
      · rw [hd₁, Function.update_self] at h₁
        rw [Function.update_of_ne hd₂, ← h₁] at h₂
        exact absurd h₂ (hold d₂)
    · rw [Function.update_of_ne hd₁] at h₁
      by_cases hd₂ : d₂ = d
      · rw [hd₂, Function.update_self] at h₂
        rw [← h₂] at h₁
        exact absurd h₁ (hold d₁)
      · rw [Function.update_of_ne hd₂] at h₂
        exact hr.distinct d₁ d₂ k h₁ h₂
  · change (Function.update r.binding r.next _ k).isSome at hk
    by_cases hkn : k = r.next
    · exact ⟨d, by rw [hkn]; exact Function.update_self ..⟩
    · rw [Function.update_of_ne hkn] at hk
      obtain ⟨d', hd'⟩ := hr.hasDescriptor k hk
      refine ⟨d', (Function.update_of_ne ?_ _ _).trans hd'⟩
      intro heq
      rw [heq, hfree] at hd'
      cases hd'
  · change Function.update r.binding r.next _ k = _ at hk
    by_cases hkn : k = r.next
    · rw [hkn, Function.update_self] at hk
      cases hk
    · rw [Function.update_of_ne hkn] at hk
      exact hr.bound k i p hk
  · change Function.update r.binding r.next _ k = _ at hk
    by_cases hkn : k = r.next
    · rw [hkn]
      exact hhist
    · rw [Function.update_of_ne hkn] at hk
      exact hr.unbound k hk
  · exact (hr.listed i).trans (filter_isAt_update hhist rfl).symm

theorem Ok.bind (hr : r.Ok h) {k : Nat} {i : I} {p : P} (hk : r.binding k = some none) :
    Ok { r with
      binding := Function.update r.binding k (some (some (i, p)))
      listed := Function.update r.listed i (k :: r.listed i) } (k :: h) := by
  have hhist : k ∉ h := hr.unbound k hk
  have hsame : ∀ j, (Function.update r.binding k (some (some (i, p))) j).isSome
      = (r.binding j).isSome := by
    intro j
    by_cases hjk : j = k
    · rw [hjk, Function.update_self, hk]
      rfl
    · rw [Function.update_of_ne hjk]
  refine ⟨fun j hj => hr.lt j ((hsame j).symm.trans hj), fun d j hj => ?_, hr.distinct,
    fun j hj => hr.hasDescriptor j ((hsame j).symm.trans hj), fun j hj => ?_,
    List.nodup_cons.mpr ⟨hhist, hr.nodup⟩, fun j i' p' hj => ?_, fun j hj => ?_, fun i' => ?_⟩
  · exact ⟨(hr.denotes d j hj).1, (hsame j).trans (hr.denotes d j hj).2⟩
  · rcases List.mem_cons.mp hj with rfl | hj
    · exact hr.lt j (by rw [hk]; rfl)
    · exact hr.historyLt j hj
  · change Function.update r.binding k _ j = _ at hj
    by_cases hjk : j = k
    · rw [hjk]
      exact List.mem_cons_self
    · rw [Function.update_of_ne hjk] at hj
      exact List.mem_cons_of_mem _ (hr.bound j i' p' hj)
  · change Function.update r.binding k _ j = _ at hj
    by_cases hjk : j = k
    · rw [hjk, Function.update_self] at hj
      cases hj
    · rw [Function.update_of_ne hjk] at hj
      intro hmem
      rcases List.mem_cons.mp hmem with heq | hmem
      · exact hjk heq
      · exact hr.unbound j hj hmem
  · -- the new entry is in front of the list of its place, and of no other
    have hrest : h.filter (isAt { r with
        binding := Function.update r.binding k (some (some (i, p)))
        listed := Function.update r.listed i (k :: r.listed i) } i') = h.filter (r.isAt i') :=
      filter_isAt_update hhist rfl
    by_cases hi : i' = i
    · subst hi
      rw [List.filter_cons_of_pos, hrest, ← hr.listed]
      · exact Function.update_self ..
      · exact isAt_iff.mpr ⟨p, Function.update_self ..⟩
    · rw [List.filter_cons_of_neg, hrest, ← hr.listed]
      · exact Function.update_of_ne hi _ _
      · intro hat
        obtain ⟨p', hp'⟩ := isAt_iff.mp hat
        change Function.update r.binding k _ k = _ at hp'
        rw [Function.update_self] at hp'
        cases hp'
        exact hi rfl

theorem Ok.closed (hr : r.Ok h) {d k : Nat} {b : Option (I × P)} (hd : r.descriptor d = some k)
    (hk : r.binding k = some b) :
    Ok { r with
      descriptor := Function.update r.descriptor d none
      binding := Function.update r.binding k none
      listed := r.unlisted k b } h := by
  -- a descriptor left open denotes another entry
  have hother : ∀ d' j, Function.update r.descriptor d none d' = some j →
      r.descriptor d' = some j ∧ j ≠ k := by
    intro d' j hj
    by_cases hdd : d' = d
    · rw [hdd, Function.update_self] at hj
      cases hj
    · rw [Function.update_of_ne hdd] at hj
      refine ⟨hj, fun hjk => hdd ?_⟩
      rw [hjk] at hj
      exact hr.distinct d' d k hj hd
  have hlive : ∀ j b', Function.update r.binding k none j = some b' → r.binding j = some b' ∧ j ≠ k := by
    intro j b' hj
    by_cases hjk : j = k
    · rw [hjk, Function.update_self] at hj
      cases hj
    · rw [Function.update_of_ne hjk] at hj
      exact ⟨hj, hjk⟩
  have hsome : ∀ j, (Function.update r.binding k none j).isSome → (r.binding j).isSome ∧ j ≠ k := by
    intro j hj
    obtain ⟨b', hb'⟩ := Option.isSome_iff_exists.mp hj
    obtain ⟨hb', hjk⟩ := hlive j b' hb'
    exact ⟨Option.isSome_iff_exists.mpr ⟨b', hb'⟩, hjk⟩
  refine ⟨fun j hj => hr.lt j (hsome j hj).1, fun d' j hj => ?_, fun d₁ d₂ j h₁ h₂ => ?_,
    fun j hj => ?_, hr.historyLt, hr.nodup, fun j i p hj => hr.bound j i p (hlive j _ hj).1,
    fun j hj => hr.unbound j (hlive j _ hj).1, fun i => ?_⟩
  · obtain ⟨hj, hjk⟩ := hother d' j hj
    exact ⟨(hr.denotes d' j hj).1,
      (congrArg Option.isSome (Function.update_of_ne hjk _ _)).trans (hr.denotes d' j hj).2⟩
  · exact hr.distinct d₁ d₂ j (hother d₁ j h₁).1 (hother d₂ j h₂).1
  · obtain ⟨hj, hjk⟩ := hsome j hj
    obtain ⟨d', hd'⟩ := hr.hasDescriptor j hj
    refine ⟨d', (Function.update_of_ne (fun heq => hjk ?_) _ _).trans hd'⟩
    rw [heq, hd] at hd'
    exact (Option.some.inj hd').symm
  · -- what is left at a place is what was there, without the entry
    have hleft : h.filter (isAt { r with
        descriptor := Function.update r.descriptor d none
        binding := Function.update r.binding k none
        listed := r.unlisted k b } i) = (r.listed i).filter (· != k) := by
      rw [hr.listed, List.filter_filter]
      refine List.filter_congr fun j _ => ?_
      by_cases hjk : j = k
      · subst hjk
        simp [isAt]
      · simp [isAt, hjk]
    have hnotin : ∀ i', (∀ p, b ≠ some (i', p)) → k ∉ r.listed i' := by
      intro i' hb hmem
      rw [hr.listed] at hmem
      obtain ⟨p, hp⟩ := isAt_iff.mp (List.mem_filter.mp hmem).2
      rw [hk] at hp
      exact hb p (Option.some.inj hp)
    have hkeep : k ∉ r.listed i → (r.listed i).filter (· != k) = r.listed i := by
      intro hnot
      refine List.filter_eq_self.mpr fun j hj => bne_iff_ne.mpr fun heq => hnot (heq ▸ hj)
    rw [hleft]
    show r.unlisted k b i = _
    unfold unlisted
    cases b with
    | none => exact (hkeep (hnotin i fun p => nofun)).symm
    | some q =>
        obtain ⟨i', p⟩ := q
        dsimp only
        by_cases hi : i = i'
        · subst hi
          have hnodup : (r.listed i).Nodup := by
            rw [hr.listed]
            exact hr.nodup.filter _
          rw [Function.update_self, hnodup.erase_eq_filter]
        · rw [Function.update_of_ne hi]
          refine (hkeep (hnotin i fun p' heq => hi ?_)).symm
          exact (Prod.mk.inj (Option.some.inj heq)).1.symm

/-- **Every step keeps the table in order.** -/
theorem Ok.step (hr : r.Ok h) {l : Option Nat} (hs : Step r l r') : r'.Ok (l.toList ++ h) := by
  cases hs with
  | skip hn => exact hr.skip hn
  | opened hd hfree => exact hr.opened hd hfree
  | bound hk => exact hr.bind hk
  | closed hd hk => exact hr.closed hd hk

/-- **An entry that was bound stays as it was bound until it is closed.** -/
theorem Ok.kept (hr : r.Ok h) {l : Option Nat} (hs : Step r l r') {k : Nat} (hk : k ∈ h)
    {b : Option (I × P)} (hb : r'.binding k = some b) : r.binding k = some b := by
  cases hs with
  | skip hn => exact hb
  | opened hd hfree =>
      change Function.update r.binding r.next (some none) k = some b at hb
      rwa [Function.update_of_ne (Nat.ne_of_lt (hr.historyLt k hk))] at hb
  | @bound k' i p hk' =>
      change Function.update r.binding k' (some (some (i, p))) k = some b at hb
      have hne : k ≠ k' := by
        rintro rfl
        exact hr.unbound k hk' hk
      rwa [Function.update_of_ne hne] at hb
  | @closed d k' b' hd hk' =>
      change Function.update r.binding k' none k = some b at hb
      by_cases hkk : k = k'
      · rw [hkk, Function.update_self] at hb
        cases hb
      · rwa [Function.update_of_ne hkk] at hb

/-! ### Entries that share a place and a port -/

section Shared

variable {i i' : I} {p p' : P} {k k' : Nat} {l : Option Nat}

/-- **Two entries come to share a place and a port when one is bound where the other is.** -/
theorem Step.shared (hs : Step r l r') (hne : k ≠ k') (hk : r'.binding k = some (some (i, p)))
    (hk' : r'.binding k' = some (some (i, p))) :
    (r.binding k = some (some (i, p)) ∧ r.binding k' = some (some (i, p))) ∨
    (l = some k ∧ r.binding k' = some (some (i, p))) ∨
    (l = some k' ∧ r.binding k = some (some (i, p))) := by
  cases hs with
  | skip => exact Or.inl ⟨hk, hk'⟩
  | opened =>
      -- the new entry is bound to nothing
      have hold : ∀ j, Function.update r.binding r.next (some none) j = some (some (i, p)) →
          r.binding j = some (some (i, p)) := by
        intro j hj
        by_cases hjn : j = r.next
        · rw [hjn, Function.update_self] at hj
          cases hj
        · rwa [Function.update_of_ne hjn] at hj
      exact Or.inl ⟨hold k hk, hold k' hk'⟩
  | @bound j i₀ p₀ hj =>
      change Function.update r.binding j _ k = _ at hk
      change Function.update r.binding j _ k' = _ at hk'
      by_cases hkj : k = j
      · rw [Function.update_of_ne fun heq => hne (hkj.trans heq.symm)] at hk'
        exact Or.inr (Or.inl ⟨by rw [hkj], hk'⟩)
      · rw [Function.update_of_ne hkj] at hk
        by_cases hkj' : k' = j
        · exact Or.inr (Or.inr ⟨by rw [hkj'], hk⟩)
        · rw [Function.update_of_ne hkj'] at hk'
          exact Or.inl ⟨hk, hk'⟩
  | @closed d j b =>
      have hold : ∀ j', Function.update r.binding j none j' = some (some (i, p)) →
          r.binding j' = some (some (i, p)) := by
        intro j' hj'
        by_cases hjj : j' = j
        · rw [hjj, Function.update_self] at hj'
          cases hj'
        · rwa [Function.update_of_ne hjj] at hj'
      exact Or.inl ⟨hold k hk, hold k' hk'⟩

variable [DecidableEq P]

/-- An entry that is bound is found at once. -/
theorem find_bound (hb : r'.binding = Function.update r.binding k (some (some (i, p))))
    (hl : r'.listed = Function.update r.listed i (k :: r.listed i)) :
    (r'.listed i).find? (r'.isBound i p) = some k := by
  have hat : r'.isBound i p k = true := isBound_iff.mpr (by rw [hb, Function.update_self])
  rw [hl, Function.update_self, List.find?_cons_of_pos hat]

/-- A search for another name finds what it found before an entry was bound. -/
theorem find_bound_other (hk : r.binding k = some none)
    (hb : r'.binding = Function.update r.binding k (some (some (i, p))))
    (hl : r'.listed = Function.update r.listed i (k :: r.listed i)) (hne : (i', p') ≠ (i, p)) :
    (r'.listed i').find? (r'.isBound i' p') = (r.listed i').find? (r.isBound i' p') := by
  have hsame : r'.isBound i' p' = r.isBound i' p' := by
    funext j
    rw [Bool.eq_iff_iff, isBound_iff, isBound_iff, hb]
    by_cases hj : j = k
    · rw [hj, Function.update_self, hk]
      refine iff_of_false (fun heq => hne ?_) (by simp)
      exact (Option.some.inj (Option.some.inj heq)).symm
    · rw [Function.update_of_ne hj]
  have hnot : ¬ r.isBound i' p' k = true := by
    rw [isBound_iff, hk]
    simp
  rw [hsame, hl]
  by_cases hi : i' = i
  · rw [hi, Function.update_self, List.find?_cons_of_neg (by rwa [hi] at hnot)]
  · rw [Function.update_of_ne hi]

end Shared

/-! ### What the order says -/

/-- A list holds the open entries bound to its place. -/
theorem Ok.mem_listed (hr : r.Ok h) {i : I} {k : Nat} :
    k ∈ r.listed i ↔ ∃ d p, r.descriptor d = some k ∧ r.binding k = some (some (i, p)) := by
  rw [hr.listed, List.mem_filter, isAt_iff]
  constructor
  · rintro ⟨-, p, hp⟩
    obtain ⟨d, hd⟩ := hr.hasDescriptor k (by rw [hp]; rfl)
    exact ⟨d, p, hd, hp⟩
  · rintro ⟨d, p, -, hp⟩
    exact ⟨hr.bound k i p hp, p, hp⟩

/-- No list holds an entry twice. -/
theorem Ok.nodup_listed (hr : r.Ok h) (i : I) : (r.listed i).Nodup := by
  rw [hr.listed]
  exact hr.nodup.filter _

/-- **A search of a list finds the entry that was bound last.** -/
theorem Ok.find_listed [DecidableEq P] (hr : r.Ok h) (i : I) (p : P) :
    (r.listed i).find? (r.isBound i p) = h.find? (r.isBound i p) := by
  rw [hr.listed, List.find?_filter]
  congr 1
  funext k
  by_cases hbound : r.isBound i p k = true
  · have hat : r.isAt i k = true := isAt_iff.mpr ⟨p, isBound_iff.mp hbound⟩
    simp [hat, hbound]
  · simp [hbound]

/-- A search finds nothing exactly when no open entry is bound to the place and the port. -/
theorem Ok.find_none [DecidableEq P] (hr : r.Ok h) (i : I) (p : P) :
    (r.listed i).find? (r.isBound i p) = none ↔
      ∀ d k, r.descriptor d = some k → r.binding k ≠ some (some (i, p)) := by
  rw [List.find?_eq_none]
  constructor
  · intro hnone d k hd hk
    exact hnone k (hr.mem_listed.mpr ⟨d, p, hd, hk⟩) (isBound_iff.mpr hk)
  · intro hnone k hmem hk
    obtain ⟨d, -, hd, -⟩ := hr.mem_listed.mp hmem
    exact hnone d k hd (isBound_iff.mp hk)

end Registry
