/-
Lists searched from the front.

A table kept as a linked list is searched for its first entry with some property,
and the entry found is then changed in place.  `modifyFirst` is that change.  A search
for the best entry is an `argmax`; among equals the order of the list decides.
-/
import Mathlib

namespace List

variable {α : Type} {p : α → Bool} {f : α → α}

/-- Change the first element with the property `p`. -/
def modifyFirst (p : α → Bool) (f : α → α) : List α → List α
  | [] => []
  | x :: xs => if p x then f x :: xs else x :: modifyFirst p f xs

theorem modifyFirst_cons_pos {x : α} {xs : List α} (h : p x = true) :
    modifyFirst p f (x :: xs) = f x :: xs := by
  rw [modifyFirst, if_pos h]

theorem modifyFirst_cons_neg {x : α} {xs : List α} (h : p x = false) :
    modifyFirst p f (x :: xs) = x :: modifyFirst p f xs := by
  rw [modifyFirst, if_neg (by simp [h])]

/-- Every element afterwards was there before or is the changed one. -/
theorem mem_modifyFirst {l : List α} {y : α} (h : y ∈ modifyFirst p f l) :
    y ∈ l ∨ ∃ x, l.find? p = some x ∧ y = f x := by
  induction l with
  | nil => simp [modifyFirst] at h
  | cons x xs ih =>
      cases hp : p x with
      | true =>
          rw [modifyFirst_cons_pos hp] at h
          rcases List.mem_cons.mp h with rfl | hmem
          · exact Or.inr ⟨x, by rw [List.find?_cons, hp], rfl⟩
          · exact Or.inl (List.mem_cons_of_mem x hmem)
      | false =>
          rw [modifyFirst_cons_neg hp] at h
          rcases List.mem_cons.mp h with rfl | hmem
          · exact Or.inl List.mem_cons_self
          · rcases ih hmem with hl | ⟨z, hz, heq⟩
            · exact Or.inl (List.mem_cons_of_mem x hl)
            · exact Or.inr ⟨z, by rw [List.find?_cons, hp]; exact hz, heq⟩

/-- Every element is still there, changed or not. -/
theorem mem_modifyFirst_of_mem {l : List α} {x : α} (h : x ∈ l) :
    x ∈ modifyFirst p f l ∨ f x ∈ modifyFirst p f l := by
  induction l with
  | nil => cases h
  | cons y ys ih =>
      cases hp : p y with
      | true =>
          rw [modifyFirst_cons_pos hp]
          rcases List.mem_cons.mp h with rfl | hmem
          · exact Or.inr List.mem_cons_self
          · exact Or.inl (List.mem_cons_of_mem _ hmem)
      | false =>
          rw [modifyFirst_cons_neg hp]
          rcases List.mem_cons.mp h with rfl | hmem
          · exact Or.inl List.mem_cons_self
          · exact (ih hmem).imp (List.mem_cons_of_mem y) (List.mem_cons_of_mem y)

/-- Searching again finds the changed element, if the change keeps the property. -/
theorem find?_modifyFirst {l : List α} (hf : ∀ x, p x = true → p (f x) = true) :
    (modifyFirst p f l).find? p = (l.find? p).map f := by
  induction l with
  | nil => rfl
  | cons x xs ih =>
      cases hp : p x with
      | true =>
          rw [modifyFirst_cons_pos hp, List.find?_cons, List.find?_cons, hp, hf x hp]
          rfl
      | false =>
          rw [modifyFirst_cons_neg hp, List.find?_cons, List.find?_cons, hp]
          exact ih

/-- A change that keeps a projection keeps the list of projections. -/
theorem map_modifyFirst {β : Type} {g : α → β} {l : List α} (hg : ∀ x, g (f x) = g x) :
    (modifyFirst p f l).map g = l.map g := by
  induction l with
  | nil => rfl
  | cons x xs ih =>
      cases hp : p x with
      | true => rw [modifyFirst_cons_pos hp, List.map_cons, List.map_cons, hg]
      | false => rw [modifyFirst_cons_neg hp, List.map_cons, List.map_cons, ih]

/-- A sum over the elements changes by what the element found changes by. -/
theorem sum_map_modifyFirst {β : Type} [AddCommMonoid β] {g : α → β} {l : List α} {x : α}
    (h : l.find? p = some x) :
    ((modifyFirst p f l).map g).sum + g x = (l.map g).sum + g (f x) := by
  induction l with
  | nil => cases h
  | cons y ys ih =>
      cases hp : p y with
      | true =>
          rw [List.find?_cons, hp] at h
          obtain rfl := Option.some.inj h
          rw [modifyFirst_cons_pos hp, List.map_cons, List.map_cons, List.sum_cons, List.sum_cons]
          exact (add_right_comm _ _ _).trans (by rw [add_comm (g (f _)), add_right_comm])
      | false =>
          rw [List.find?_cons, hp] at h
          rw [modifyFirst_cons_neg hp, List.map_cons, List.map_cons, List.sum_cons, List.sum_cons,
            add_assoc, ih h, add_assoc]

/-- The change is at the first element with the property; what is before and after it stays. -/
theorem modifyFirst_split {l : List α} {x : α} (h : l.find? p = some x) :
    ∃ before after, l = before ++ x :: after ∧ (∀ y ∈ before, p y = false) ∧
      modifyFirst p f l = before ++ f x :: after := by
  induction l with
  | nil => cases h
  | cons y ys ih =>
      cases hp : p y with
      | true =>
          rw [List.find?_cons, hp] at h
          obtain rfl := Option.some.inj h
          exact ⟨[], ys, rfl, by simp, modifyFirst_cons_pos hp⟩
      | false =>
          rw [List.find?_cons, hp] at h
          obtain ⟨before, after, rfl, hbefore, hmodify⟩ := ih h
          refine ⟨y :: before, after, rfl, ?_, ?_⟩
          · intro z hz
            rcases List.mem_cons.mp hz with rfl | hz
            · exact hp
            · exact hbefore z hz
          · rw [modifyFirst_cons_neg hp, hmodify, List.cons_append]

/-- Two changes of the element found, one after the other. -/
theorem modifyFirst_modifyFirst {g : α → α} {l : List α} (hf : ∀ x, p x = true → p (f x) = true) :
    modifyFirst p g (modifyFirst p f l) = modifyFirst p (fun x => g (f x)) l := by
  induction l with
  | nil => rfl
  | cons x xs ih =>
      cases hp : p x with
      | true => rw [modifyFirst_cons_pos hp, modifyFirst_cons_pos hp, modifyFirst_cons_pos (hf x hp)]
      | false =>
          rw [modifyFirst_cons_neg hp, modifyFirst_cons_neg hp, modifyFirst_cons_neg hp, ih]

/-- Only what a change does to the element found matters. -/
theorem modifyFirst_congr {g : α → α} {l : List α} (h : ∀ x, l.find? p = some x → f x = g x) :
    modifyFirst p f l = modifyFirst p g l := by
  induction l with
  | nil => rfl
  | cons x xs ih =>
      cases hp : p x with
      | true =>
          rw [modifyFirst_cons_pos hp, modifyFirst_cons_pos hp, h x (by rw [List.find?_cons, hp])]
      | false =>
          rw [modifyFirst_cons_neg hp, modifyFirst_cons_neg hp, ih]
          intro y hy
          exact h y (by rw [List.find?_cons, hp]; exact hy)

/-- Changing nothing changes nothing. -/
theorem modifyFirst_id {l : List α} : modifyFirst p (fun x => x) l = l := by
  induction l with
  | nil => rfl
  | cons x xs ih =>
      cases hp : p x with
      | true => rw [modifyFirst_cons_pos hp]
      | false => rw [modifyFirst_cons_neg hp, ih]

/-- Two elements a filter keeps, in the reversed list. -/
theorem pair_sublist_filter_reverse {l : List α} {a b : α} (ha : p a = true) (hb : p b = true) :
    [a, b].Sublist (l.reverse.filter p) ↔ [b, a].Sublist l := by
  constructor
  · intro h
    have hback := (h.trans List.filter_sublist).reverse
    rwa [List.reverse_reverse] at hback
  · intro h
    have hkept := h.reverse.filter p
    rwa [show [b, a].reverse = [a, b] from rfl, List.filter_cons_of_pos ha,
      List.filter_cons_of_pos hb] at hkept

/-! ### The best element -/

section Argmax

variable {β γ : Type} [LinearOrder γ]

theorem argmax_map {f : β → γ} {g : α → β} (l : List α) :
    (l.map g).argmax f = (l.argmax (f ∘ g)).map g := by
  induction l using List.reverseRecOn with
  | nil => rfl
  | append_singleton l a ih =>
      rw [List.map_append, List.map_singleton, List.argmax_concat, List.argmax_concat, ih]
      cases l.argmax (f ∘ g) with
      | none => rfl
      | some c =>
          change (if f (g c) < f (g a) then some (g a) else some (g c))
            = Option.map g (if f (g c) < f (g a) then some a else some c)
          exact (apply_ite (Option.map g) (f (g c) < f (g a)) (some a) (some c)).symm

/-- In a list of distinct elements one is before another exactly if the two make a sublist. -/
theorem pair_sublist_iff [DecidableEq α] {l : List α} (hl : l.Nodup) {a b : α} (ha : a ∈ l)
    (hb : b ∈ l) (hne : a ≠ b) : [a, b].Sublist l ↔ l.idxOf a ≤ l.idxOf b := by
  induction l with
  | nil => cases ha
  | cons x l ih =>
      obtain ⟨hx, hl⟩ := List.nodup_cons.mp hl
      by_cases hax : a = x
      · subst hax
        have hb' : b ∈ l := (List.mem_cons.mp hb).resolve_left (Ne.symm hne)
        rw [List.idxOf_cons_self]
        exact iff_of_true ((List.singleton_sublist.mpr hb').cons_cons a) (Nat.zero_le _)
      have ha' : a ∈ l := (List.mem_cons.mp ha).resolve_left hax
      -- the first element is not `a`, so it does not help the two
      have hskip : [a, b].Sublist (x :: l) ↔ [a, b].Sublist l := by
        rw [List.sublist_cons_iff]
        refine ⟨fun h => h.resolve_right ?_, Or.inl⟩
        rintro ⟨r, heq, -⟩
        exact hax (List.cons.inj heq).1
      rw [hskip]
      by_cases hbx : b = x
      · subst hbx
        rw [List.idxOf_cons_self, List.idxOf_cons_ne _ (Ne.symm hax)]
        refine iff_of_false (fun h => hx (h.subset ?_)) (Nat.not_succ_le_zero _)
        exact List.mem_cons_of_mem _ (List.mem_singleton_self b)
      · have hb' : b ∈ l := (List.mem_cons.mp hb).resolve_left hbx
        rw [ih hl ha' hb', List.idxOf_cons_ne _ (Ne.symm hax), List.idxOf_cons_ne _ (Ne.symm hbx)]
        exact Nat.succ_le_succ_iff.symm

/-- **The best element beats the others**, or is as good and before them. -/
theorem argmax_eq_some_iff_sublist [DecidableEq α] {f : α → γ} {l : List α} (hl : l.Nodup)
    {a : α} : l.argmax f = some a ↔
      a ∈ l ∧ ∀ b ∈ l, b ≠ a → f b < f a ∨ f b = f a ∧ [a, b].Sublist l := by
  rw [List.argmax_eq_some_iff]
  refine and_congr_right fun ha => ?_
  constructor
  · rintro ⟨hmax, hfirst⟩ b hb hne
    rcases (hmax b hb).lt_or_eq with hlt | heq
    · exact Or.inl hlt
    · exact Or.inr ⟨heq, (pair_sublist_iff hl ha hb hne.symm).mpr (hfirst b hb heq.ge)⟩
  · intro hbeats
    refine ⟨fun b hb => ?_, fun b hb hle => ?_⟩
    · by_cases hne : b = a
      · rw [hne]
      · exact (hbeats b hb hne).elim le_of_lt fun h => h.1.le
    · by_cases hne : b = a
      · rw [hne]
      · rcases hbeats b hb hne with hlt | ⟨-, hsub⟩
        · exact absurd hle (not_le.mpr hlt)
        · exact (pair_sublist_iff hl ha hb (Ne.symm hne)).mp hsub

end Argmax

end List
