/-
Programs that carry a state and may stop with a fault.

A C function is a sequence of reads, writes and calls, any of which may end the
process.  `EStateM ε σ` is that: a run either completes with a value and a state,
or stops with a fault `ε` and the state it stopped in.  What follows is the little
that proofs about such programs use: how a run goes through `>>=`, when it is
known to complete, and the rule that carries a relation between the first and the
last state through a whole program.
-/
import Mathlib

namespace Fallible

variable {ε σ α β : Type}

/-! ### Running one step at a time -/

@[simp] theorem run_pure (a : α) (s : σ) : (pure a : EStateM ε σ α) s = .ok a s := rfl

@[simp] theorem run_get (s : σ) : (get : EStateM ε σ σ) s = .ok s s := rfl

@[simp] theorem run_set (t s : σ) : (set t : EStateM ε σ PUnit) s = .ok ⟨⟩ t := rfl

@[simp] theorem run_modify (f : σ → σ) (s : σ) :
    (modify f : EStateM ε σ PUnit) s = .ok ⟨⟩ (f s) := rfl

@[simp] theorem run_throw (e : ε) (s : σ) :
    (throw e : EStateM ε σ α) s = .error e s := rfl

theorem run_bind_ok {x : EStateM ε σ α} {f : α → EStateM ε σ β} {s t : σ} {a : α}
    (h : x s = .ok a t) : (x >>= f) s = f a t := by
  show EStateM.bind x f s = f a t
  simp only [EStateM.bind, h]

theorem run_bind_error {x : EStateM ε σ α} {f : α → EStateM ε σ β} {s t : σ} {e : ε}
    (h : x s = .error e t) : (x >>= f) s = .error e t := by
  show EStateM.bind x f s = .error e t
  simp only [EStateM.bind, h]

/-- A completed run of `x >>= f` is a completed run of `x` and then of `f`. -/
theorem bind_ok_iff {x : EStateM ε σ α} {f : α → EStateM ε σ β} {s u : σ} {b : β} :
    (x >>= f) s = .ok b u ↔ ∃ a t, x s = .ok a t ∧ f a t = .ok b u := by
  cases hx : x s with
  | ok a t =>
      rw [run_bind_ok hx]
      constructor
      · intro h; exact ⟨a, t, rfl, h⟩
      · rintro ⟨a', t', heq, h⟩
        cases heq
        exact h
  | error e t =>
      rw [run_bind_error hx]
      constructor
      · intro h; cases h
      · rintro ⟨a', t', heq, -⟩; cases heq

/-- A faulting run of `x >>= f` faults in `x` or, after `x` completed, in `f`. -/
theorem bind_error_iff {x : EStateM ε σ α} {f : α → EStateM ε σ β} {s u : σ} {e : ε} :
    (x >>= f) s = .error e u ↔
      x s = .error e u ∨ ∃ a t, x s = .ok a t ∧ f a t = .error e u := by
  cases hx : x s with
  | ok a t =>
      rw [run_bind_ok hx]
      constructor
      · intro h; exact Or.inr ⟨a, t, rfl, h⟩
      · rintro (h | ⟨a', t', heq, h⟩)
        · cases h
        · cases heq; exact h
  | error e' t =>
      rw [run_bind_error hx]
      constructor
      · intro h; cases h; exact Or.inl rfl
      · rintro (h | ⟨a', t', heq, -⟩)
        · cases h; rfl
        · cases heq

/-! ### Completing runs -/

/-- The run from `s` completes: no fault stops it. -/
def Completes (m : EStateM ε σ α) (s : σ) : Prop := ∃ a t, m s = .ok a t

theorem completes_bind_of_ok {x : EStateM ε σ α} {f : α → EStateM ε σ β} {s t : σ} {a : α}
    (h : x s = .ok a t) : Completes (x >>= f) s ↔ Completes (f a) t := by
  unfold Completes
  rw [run_bind_ok h]

/-! ### Relations kept by every run

The states before and after a run are related by a preorder `R`: what a run may
change, what it only lets grow, an invariant it does not break.  A program keeps
`R` when its parts do, and a run that stops with a fault has kept it so far.
-/

/-- The state a run ends in, completed or not. -/
def final (m : EStateM ε σ α) (s : σ) : σ :=
  match m s with
  | .ok _ t => t
  | .error _ t => t

theorem final_of_ok {m : EStateM ε σ α} {s t : σ} {a : α} (h : m s = .ok a t) :
    final m s = t := by
  rw [final, h]

theorem final_of_error {m : EStateM ε σ α} {s t : σ} {e : ε} (h : m s = .error e t) :
    final m s = t := by
  rw [final, h]

theorem final_congr {m m' : EStateM ε σ α} {s s' : σ} (h : m s = m' s') : final m s = final m' s' := by
  rw [final, h, final]

theorem final_bind_of_ok {x : EStateM ε σ α} {f : α → EStateM ε σ β} {s t : σ} {a : α}
    (h : x s = .ok a t) : final (x >>= f) s = final (f a) t := by
  rw [final, run_bind_ok h, final]

theorem final_bind_of_error {x : EStateM ε σ α} {f : α → EStateM ε σ β} {s t : σ} {e : ε}
    (h : x s = .error e t) : final (x >>= f) s = t := by
  rw [final, run_bind_error h]

/-- Returning something else ends in the same state. -/
theorem final_bind_pure (x : EStateM ε σ α) (f : α → β) (s : σ) :
    final (x >>= fun a => pure (f a)) s = final x s := by
  cases h : x s with
  | ok a t => rw [final_bind_of_ok h, final_of_ok h, final_of_ok (run_pure (f a) t)]
  | error e t => rw [final_bind_of_error h, final_of_error h]

/-- The value of a run that completes. -/
def result (m : EStateM ε σ α) (s : σ) : Option α :=
  match m s with
  | .ok a _ => some a
  | .error _ _ => none

theorem run_of_result {m : EStateM ε σ α} {s : σ} {a : α} (h : result m s = some a) :
    m s = .ok a (final m s) := by
  unfold result at h
  cases hrun : m s with
  | ok b t =>
      rw [hrun] at h
      rw [final_of_ok hrun, Option.some.inj h]
  | error e t =>
      rw [hrun] at h
      cases h

/-- Every run of `m` relates its first state to its last. -/
def Keeps (R : σ → σ → Prop) (m : EStateM ε σ α) : Prop := ∀ s, R s (final m s)

variable {R : σ → σ → Prop}

theorem Keeps.ok {m : EStateM ε σ α} (hm : Keeps R m) {s t : σ} {a : α} (h : m s = .ok a t) :
    R s t := by
  rw [← final_of_ok h]
  exact hm s

theorem keeps_pure (hr : ∀ s, R s s) (a : α) : Keeps R (pure a : EStateM ε σ α) := hr

theorem keeps_throw (hr : ∀ s, R s s) (e : ε) : Keeps R (throw e : EStateM ε σ α) := hr

theorem keeps_get (hr : ∀ s, R s s) : Keeps R (get : EStateM ε σ σ) := hr

theorem keeps_modify {f : σ → σ} (hf : ∀ s, R s (f s)) :
    Keeps R (modify f : EStateM ε σ PUnit) := hf

theorem keeps_bind (ht : ∀ s t u, R s t → R t u → R s u) {x : EStateM ε σ α}
    {f : α → EStateM ε σ β} (hx : Keeps R x) (hf : ∀ a, Keeps R (f a)) : Keeps R (x >>= f) := by
  intro s
  have h1 := hx s
  cases h : x s with
  | ok a t =>
      rw [final_of_ok h] at h1
      rw [final_bind_of_ok h]
      exact ht s t _ h1 (hf a t)
  | error e t =>
      rw [final_of_error h] at h1
      rw [final_bind_of_error h]
      exact h1

/-- The same along one run, where what the first part returned may be used, and seen from
an earlier state. -/
theorem final_bind_rel (ht : ∀ s t u, R s t → R t u → R s u) {x : EStateM ε σ α}
    {f : α → EStateM ε σ β} {r s : σ} (hx : R r (final x s))
    (hf : ∀ a t, x s = .ok a t → R t (final (f a) t)) : R r (final (x >>= f) s) := by
  cases h : x s with
  | ok a t =>
      rw [final_of_ok h] at hx
      rw [final_bind_of_ok h]
      exact ht r t _ hx (hf a t h)
  | error e t =>
      rw [final_of_error h] at hx
      rw [final_bind_of_error h]
      exact hx

theorem keeps_ite {c : Prop} [Decidable c] {x y : EStateM ε σ α} (hx : Keeps R x)
    (hy : Keeps R y) : Keeps R (if c then x else y) := by
  split
  · exact hx
  · exact hy

theorem final_ite_rel {c : Prop} [Decidable c] {x y : EStateM ε σ α} {r s : σ}
    (hx : c → R r (final x s)) (hy : ¬ c → R r (final y s)) :
    R r (final (if c then x else y) s) := by
  split
  · exact hx ‹_›
  · exact hy ‹_›

theorem keeps_mono {R' : σ → σ → Prop} (h : ∀ s t, R s t → R' s t) {m : EStateM ε σ α}
    (hm : Keeps R m) : Keeps R' m :=
  fun s => h _ _ (hm s)

/-- A program that leaves the state as it is keeps every reflexive relation. -/
theorem keeps_of_eq (hr : ∀ s, R s s) {m : EStateM ε σ α} (hm : Keeps Eq m) : Keeps R m :=
  keeps_mono (fun s t h => by rw [← h]; exact hr s) hm

/-- A completed run whose first step only looks goes on from the same state. -/
theorem bind_ok_of_eq {x : EStateM ε σ α} {f : α → EStateM ε σ β} {s u : σ} {b : β}
    (hx : Keeps Eq x) (h : (x >>= f) s = .ok b u) : ∃ a, x s = .ok a s ∧ f a s = .ok b u := by
  obtain ⟨a, t, ha, hf⟩ := bind_ok_iff.mp h
  obtain rfl : s = t := hx.ok ha
  exact ⟨a, ha, hf⟩

/-! ### Faults a run may stop with -/

/-- If the run from `s` stops, it is with a fault of `E`. -/
def FaultsIn (E : ε → Prop) (m : EStateM ε σ α) (s : σ) : Prop := ∀ e t, m s = .error e t → E e

variable {E : ε → Prop}

theorem faultsIn_of_ok {m : EStateM ε σ α} {s t : σ} {a : α} (h : m s = .ok a t) :
    FaultsIn E m s := by
  intro e u herr
  rw [h] at herr
  cases herr

theorem faultsIn_pure (a : α) (s : σ) : FaultsIn E (pure a : EStateM ε σ α) s :=
  faultsIn_of_ok (run_pure a s)

theorem faultsIn_throw {e : ε} (he : E e) (s : σ) : FaultsIn E (throw e : EStateM ε σ α) s := by
  intro e' t h
  cases h
  exact he

/-- The rule for `>>=`: what the first part returned and left may be used. -/
theorem faultsIn_bind {x : EStateM ε σ α} {f : α → EStateM ε σ β} {s : σ} (hx : FaultsIn E x s)
    (hf : ∀ a t, x s = .ok a t → FaultsIn E (f a) t) : FaultsIn E (x >>= f) s := by
  intro e u h
  rcases bind_error_iff.mp h with h | ⟨a, t, hok, h⟩
  · exact hx e u h
  · exact hf a t hok e u h

theorem faultsIn_bind_of_ok {x : EStateM ε σ α} {f : α → EStateM ε σ β} {s t : σ} {a : α}
    (h : x s = .ok a t) (hf : FaultsIn E (f a) t) : FaultsIn E (x >>= f) s := by
  unfold FaultsIn
  rw [run_bind_ok h]
  exact hf

theorem faultsIn_ite {c : Prop} [Decidable c] {x y : EStateM ε σ α} {s : σ}
    (hx : c → FaultsIn E x s) (hy : ¬ c → FaultsIn E y s) : FaultsIn E (if c then x else y) s := by
  split
  · exact hx ‹_›
  · exact hy ‹_›

/-- A run that may stop with no fault completes. -/
theorem completes_of_faultsIn {m : EStateM ε σ α} {s : σ} (h : FaultsIn (fun _ => False) m s) :
    Completes m s := by
  cases hrun : m s with
  | ok a t => exact ⟨a, t, hrun⟩
  | error e t => exact (h e t hrun).elim

end Fallible
