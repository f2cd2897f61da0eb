/-
A ledger.

Something of which there can be more or less (a number, a bag of messages) is held in
places, of which there may be infinitely many.  What a program does to it is said by two
amounts: what came in at most, and what went out at least.  A program may also lose some,
so a balance is an inequality.

The sums run over finite sets of places, and a balance holds of all that are large enough.
So no place has to be known to be empty, and balances still compose: the places that two
steps touch are in every large enough set.
-/
import Mathlib

namespace Ledger

open Filter

variable {σ ι A : Type} [AddCommMonoid A] [PartialOrder A]

/-- What the places of a set hold. -/
def total (stock : σ → ι → A) (S : Finset ι) (s : σ) : A := ∑ i ∈ S, stock s i

/-- **A balance**: between two states at most `income` came in, and at least `outgo` went
out. -/
def Books (stock : σ → ι → A) (income outgo : A) (s t : σ) : Prop :=
  ∀ᶠ S : Finset ι in atTop, total stock S t + outgo ≤ total stock S s + income

namespace Books

variable {stock : σ → ι → A} {a a' b b' c : A} {s t u : σ}

theorem refl (stock : σ → ι → A) (s : σ) : Books stock 0 0 s s :=
  Eventually.of_forall fun _ => le_refl _

variable [IsOrderedAddMonoid A]

/-- **Balances add up.** -/
theorem trans (h : Books stock a b s t) (h' : Books stock a' b' t u) :
    Books stock (a + a') (b + b') s u := by
  filter_upwards [h, h'] with S hS hS'
  calc total stock S u + (b + b')
      = total stock S u + b' + b := by rw [add_comm b b', add_assoc]
    _ ≤ total stock S t + a' + b := add_le_add_left hS' b
    _ = total stock S t + b + a' := add_right_comm _ _ _
    _ ≤ total stock S s + a + a' := add_le_add_left hS a'
    _ = total stock S s + (a + a') := add_assoc _ _ _

/-- More may have come in, and less gone out. -/
theorem mono (h : Books stock a b s t) (ha : a ≤ a') (hb : b' ≤ b) : Books stock a' b' s t := by
  filter_upwards [h] with S hS
  exact (add_le_add_right hb _).trans (hS.trans (add_le_add_right ha _))

/-- What is paid for comes in and goes out. -/
theorem charge (c : A) (h : Books stock a b s t) : Books stock (a + c) (b + c) s t := by
  filter_upwards [h] with S hS
  rw [← add_assoc, ← add_assoc]
  exact add_le_add_left hS c

/-- One place changes. -/
theorem of_place (i : ι) (hother : ∀ j, j ≠ i → stock t j ≤ stock s j)
    (hplace : stock t i + b ≤ stock s i + a) : Books stock a b s t := by
  filter_upwards [eventually_ge_atTop {i}] with S hS
  have hi : i ∈ S := hS (Finset.mem_singleton_self i)
  classical
  rw [total, total, ← Finset.add_sum_erase S _ hi, ← Finset.add_sum_erase S _ hi]
  have hrest : ∑ j ∈ S.erase i, stock t j ≤ ∑ j ∈ S.erase i, stock s j :=
    Finset.sum_le_sum fun j hj => hother j (Finset.ne_of_mem_erase hj)
  calc stock t i + ∑ j ∈ S.erase i, stock t j + b
      = stock t i + b + ∑ j ∈ S.erase i, stock t j := add_right_comm _ _ _
    _ ≤ stock s i + a + ∑ j ∈ S.erase i, stock s j := add_le_add hplace hrest
    _ = stock s i + ∑ j ∈ S.erase i, stock s j + a := add_right_comm _ _ _

end Books

/-- What came in and went out again need not be mentioned. -/
theorem Books.cancel [IsOrderedCancelAddMonoid A] {stock : σ → ι → A} {a b : A} {s t : σ} (c : A)
    (h : Books stock (a + c) (b + c) s t) : Books stock a b s t := by
  filter_upwards [h] with S hS
  rw [← add_assoc, ← add_assoc] at hS
  exact le_of_add_le_add_right hS

/-- The same balance of another stock, which gains no more in one place and agrees on the others. -/
theorem Books.rebook [IsOrderedCancelAddMonoid A] {τ : Type} {stock : σ → ι → A} {stock' : τ → ι → A}
    {a b : A} {s t : σ} {s' t' : τ} (i : ι) (h : Books stock a b s t)
    (hs : ∀ j, j ≠ i → stock' s' j = stock s j) (ht : ∀ j, j ≠ i → stock' t' j = stock t j)
    (hi : stock' t' i + stock s i ≤ stock' s' i + stock t i) : Books stock' a b s' t' := by
  filter_upwards [h, eventually_ge_atTop {i}] with S hS hge
  have hmem : i ∈ S := hge (Finset.mem_singleton_self i)
  classical
  have hrest : ∀ {ρ : Type} (f : ρ → ι → A) (r : ρ), total f S r = f r i + ∑ j ∈ S.erase i, f r j :=
    fun f r => (Finset.add_sum_erase S (f r) hmem).symm
  rw [hrest, hrest] at hS
  rw [hrest, hrest, Finset.sum_congr rfl fun j hj => ht j (Finset.ne_of_mem_erase hj),
    Finset.sum_congr rfl fun j hj => hs j (Finset.ne_of_mem_erase hj)]
  generalize ∑ j ∈ S.erase i, stock t j = x at hS ⊢
  generalize ∑ j ∈ S.erase i, stock s j = y at hS ⊢
  refine le_of_add_le_add_right (a := stock s i + stock t i) ?_
  calc stock' t' i + x + b + (stock s i + stock t i)
      = stock' t' i + stock s i + (stock t i + x + b) := by abel
    _ ≤ stock' s' i + stock t i + (stock s i + y + a) := add_le_add hi hS
    _ = stock' s' i + y + a + (stock s i + stock t i) := by abel

/-- **A balance, place by place forgotten**: where nothing was held at first, what any places
hold at the end, and what went out, had come in. -/
theorem Books.settle [IsOrderedAddMonoid A] [CanonicallyOrderedAdd A] {stock : σ → ι → A} {a b : A}
    {s t : σ} (h : Books stock a b s t) (hs : ∀ i, stock s i = 0) (S : Finset ι) :
    total stock S t + b ≤ a := by
  obtain ⟨T, hT, hle⟩ := (h.and (eventually_ge_atTop S)).exists
  have hzero : total stock T s = 0 := Finset.sum_eq_zero fun i _ => hs i
  rw [hzero, zero_add] at hT
  have hmore : total stock S t ≤ total stock T t :=
    Finset.sum_le_sum_of_subset hle
  exact (add_le_add_left hmore b).trans hT

/-- **An exact balance**: where a balance holds in both directions and nothing was held at first,
some places hold all there is. -/
theorem Books.exact [IsOrderedCancelAddMonoid A] {stock : σ → ι → A} {a b : A} {s t : σ}
    (hle : Books stock a b s t)
    (hge : ∀ᶠ S : Finset ι in atTop, total stock S s + a ≤ total stock S t + b)
    (hs : ∀ i, stock s i = 0) :
    ∃ S : Finset ι, (∀ i, i ∉ S → stock t i = 0) ∧ ∀ T, S ⊆ T → total stock T t + b = a := by
  obtain ⟨S, hS⟩ := eventually_atTop.mp (hle.and hge)
  have hall : ∀ T, S ⊆ T → total stock T t + b = a := by
    intro T hT
    obtain ⟨hle, hge⟩ := hS T hT
    have hzero : total stock T s = 0 := Finset.sum_eq_zero fun i _ => hs i
    rw [hzero, zero_add] at hle hge
    exact le_antisymm hle hge
  refine ⟨S, fun i hi => ?_, hall⟩
  -- with one place more the sum is the same
  classical
  have hmore := hall (insert i S) (Finset.subset_insert i S)
  rw [← hall S (Finset.Subset.refl S), total, Finset.sum_insert hi, ← total] at hmore
  have hsame : stock t i + (total stock S t + b) = 0 + (total stock S t + b) := by
    rw [← add_assoc, hmore, zero_add]
  exact add_right_cancel hsame

end Ledger
