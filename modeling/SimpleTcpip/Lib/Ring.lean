/-
Rings of doubly linked cells.

A ring runs from a head through a sequence of cells and back, forwards by `next` and backwards
by `prev`.  A link of a ring reads `next` of its first cell and `prev` of its second, so a
stretch of a ring survives every change of the other fields: that is what lets a cell be put
in or taken out by changing the fields around it, also where the cells around it are the same.
-/
import Mathlib.Data.List.Chain
import Mathlib.Data.List.Nodup
import Mathlib.Logic.Function.Basic

/-- The two fields of every cell; a field that cannot be read is `none`. -/
structure Links (α : Type*) where
  next : α → Option α
  prev : α → Option α

namespace Links

variable {α : Type*} {s s' : Links α} {head x p n : α} {xs l r : List α}

/-- A cell and the one after it. -/
def Linked (s : Links α) (a b : α) : Prop := s.next a = some b ∧ s.prev b = some a

instance [DecidableEq α] (s : Links α) (a b : α) : Decidable (s.Linked a b) :=
  inferInstanceAs (Decidable (_ ∧ _))

/-- The cells of a sequence lie around a head, each once. -/
structure Circular (s : Links α) (head : α) (xs : List α) : Prop where
  nodup : (head :: xs).Nodup
  linked : (head :: xs ++ [head]).IsChain s.Linked

/-- A stretch keeps its links while `next` of all but its last cell and `prev` of all but its
first are as they were. -/
theorem isChain_congr (h : l.IsChain s.Linked) (hnext : ∀ a ∈ l.dropLast, s'.next a = s.next a)
    (hprev : ∀ a ∈ l.tail, s'.prev a = s.prev a) : l.IsChain s'.Linked := by
  induction l with
  | nil => exact .nil
  | cons a t ih =>
      cases t with
      | nil => exact .singleton a
      | cons b t =>
          obtain ⟨hab, ht⟩ := List.isChain_cons_cons.mp h
          refine List.isChain_cons_cons.mpr ⟨⟨?_, ?_⟩, ih ht (fun c hc => ?_) fun c hc => ?_⟩
          · rw [hnext a (by simp), hab.1]
          · rw [hprev b (by simp), hab.2]
          · exact hnext c (by rw [List.dropLast_cons_cons]; exact List.mem_cons_of_mem a hc)
          · exact hprev c (List.mem_cons_of_mem b hc)

namespace Circular

theorem not_mem (h : s.Circular head xs) : head ∉ xs := (List.nodup_cons.mp h.nodup).1

/-- Only the cells of a ring matter to it. -/
theorem congr (h : s.Circular head xs) (hnext : ∀ a ∈ head :: xs, s'.next a = s.next a)
    (hprev : ∀ a ∈ head :: xs, s'.prev a = s.prev a) : s'.Circular head xs := by
  refine ⟨h.nodup, isChain_congr h.linked (fun a ha => hnext a ?_) fun a ha => hprev a ?_⟩
  · rwa [List.dropLast_concat] at ha
  · rcases List.mem_append.mp ha with hmem | hmem
    · exact List.mem_cons_of_mem head hmem
    · rw [List.mem_singleton.mp hmem]
      exact List.mem_cons_self

/-- The links on both sides of a place in a ring. -/
theorem linked_of_split (h : s.Circular head (l ++ r)) (hp : (head :: l).getLast? = some p)
    (hn : (r ++ [head]).head? = some n) : s.Linked p n := by
  have hchain := h.linked
  rw [← List.cons_append, List.append_assoc] at hchain
  exact (List.isChain_append.mp hchain).2.2 p hp n hn

/-- The first cell of a ring, or its head. -/
theorem linked_head (h : s.Circular head xs) : s.Linked head (xs.head?.getD head) := by
  refine linked_of_split (l := []) (r := xs) h rfl ?_
  cases xs <;> rfl

/-- The last cell of a ring, or its head. -/
theorem linked_last (h : s.Circular head xs) : s.Linked (xs.getLast?.getD head) head := by
  refine linked_of_split (l := xs) (r := []) ?_ List.getLast?_cons rfl
  rw [List.append_nil]
  exact h

/-- The cells before and after a cell of a ring. -/
theorem linked_around (h : s.Circular head (l ++ x :: r)) :
    s.Linked (l.getLast?.getD head) x ∧ s.Linked x (r.head?.getD head) := by
  refine ⟨h.linked_of_split List.getLast?_cons rfl, ?_⟩
  have hsplit : s.Circular head ((l ++ [x]) ++ r) := by
    rw [List.append_assoc]
    exact h
  refine hsplit.linked_of_split ?_ ?_
  · rw [List.getLast?_cons, List.getLast?_concat]
    rfl
  · cases r <;> rfl

/-- A ring is empty exactly when its head is linked to itself. -/
theorem next_head_eq (h : s.Circular head xs) : s.next head = some head ↔ xs = [] := by
  constructor
  · intro hself
    cases xs with
    | nil => rfl
    | cons a t =>
        obtain rfl := Option.some.inj (hself.symm.trans h.linked_head.1)
        exact absurd List.mem_cons_self h.not_mem
  · rintro rfl
    exact h.linked_head.1

end Circular

section Changes

variable [DecidableEq α]

def setNext (s : Links α) (a b : α) : Links α :=
  { s with next := Function.update s.next a (some b) }

def setPrev (s : Links α) (a b : α) : Links α :=
  { s with prev := Function.update s.prev a (some b) }

@[simp] theorem next_setNext (s : Links α) (a b : α) :
    (s.setNext a b).next = Function.update s.next a (some b) := rfl
@[simp] theorem prev_setNext (s : Links α) (a b : α) : (s.setNext a b).prev = s.prev := rfl
@[simp] theorem next_setPrev (s : Links α) (a b : α) : (s.setPrev a b).next = s.next := rfl
@[simp] theorem prev_setPrev (s : Links α) (a b : α) :
    (s.setPrev a b).prev = Function.update s.prev a (some b) := rfl

/-- Put a cell between two. -/
def insert (s : Links α) (x p n : α) : Links α :=
  (((s.setPrev x p).setNext x n).setNext p x).setPrev n x

/-- Link the cells on both sides of one. -/
def remove (s : Links α) (p n : α) : Links α := (s.setNext p n).setPrev n p

@[simp] theorem next_insert (s : Links α) (x p n : α) : (s.insert x p n).next
    = Function.update (Function.update s.next x (some n)) p (some x) := rfl
@[simp] theorem prev_insert (s : Links α) (x p n : α) : (s.insert x p n).prev
    = Function.update (Function.update s.prev x (some p)) n (some x) := rfl
@[simp] theorem next_remove (s : Links α) (p n : α) :
    (s.remove p n).next = Function.update s.next p (some n) := rfl
@[simp] theorem prev_remove (s : Links α) (p n : α) :
    (s.remove p n).prev = Function.update s.prev n (some p) := rfl

namespace Circular

/-- A ring without cells. -/
theorem nil (s : Links α) (head : α) :
    ((s.setPrev head head).setNext head head).Circular head [] := by
  refine ⟨List.nodup_singleton head, ?_⟩
  refine List.isChain_cons_cons.mpr ⟨⟨?_, ?_⟩, .singleton head⟩
  · rw [next_setNext, Function.update_self]
  · rw [prev_setNext, prev_setPrev, Function.update_self]

/-- **A new cell after the head** is the first of the ring. -/
theorem insert (h : s.Circular head xs) (hx : x ∉ head :: xs)
    (hn : (xs ++ [head]).head? = some n) : (s.insert x head n).Circular head (x :: xs) := by
  obtain ⟨hhead, hxs⟩ := List.nodup_cons.mp h.nodup
  have hxhead : x ≠ head := fun heq => hx (heq ▸ List.mem_cons_self)
  have hxmem : x ∉ xs := fun hmem => hx (List.mem_cons_of_mem head hmem)
  obtain ⟨t, ht⟩ := List.head?_eq_some_iff.mp hn
  have hrest : (n :: t).Nodup := by
    rw [← ht, List.nodup_append_comm]
    exact h.nodup
  have hout : x ∉ n :: t := by
    rw [← ht, List.mem_append, List.mem_singleton, not_or]
    exact ⟨hxmem, hxhead⟩
  have hxn : x ≠ n := fun heq => hout (heq ▸ List.mem_cons_self)
  -- what followed the head follows the new cell
  have hchain : (n :: t).IsChain (s.insert x head n).Linked := by
    have hold := (List.isChain_append.mp (show (([head] ++ (xs ++ [head]))).IsChain s.Linked from
      h.linked)).2.1
    rw [ht] at hold
    refine isChain_congr hold (fun a ha => ?_) fun a ha => ?_
    · rw [← ht, List.dropLast_concat] at ha
      have hahead : a ≠ head := fun heq => hhead (heq ▸ ha)
      have hax : a ≠ x := fun heq => hxmem (heq ▸ ha)
      rw [next_insert, Function.update_of_ne hahead, Function.update_of_ne hax]
    · have hax : a ≠ x := fun heq => hout (heq ▸ List.mem_cons_of_mem n ha)
      have han : a ≠ n := fun heq => (List.nodup_cons.mp hrest).1 (heq ▸ ha)
      rw [prev_insert, Function.update_of_ne han, Function.update_of_ne hax]
  refine ⟨?_, ?_⟩
  · refine List.nodup_cons.mpr ⟨fun hmem => ?_, List.nodup_cons.mpr ⟨hxmem, hxs⟩⟩
    rcases List.mem_cons.mp hmem with heq | hmem
    · exact hxhead heq.symm
    · exact hhead hmem
  · show (head :: x :: (xs ++ [head])).IsChain _
    rw [ht]
    refine List.isChain_cons_cons.mpr ⟨⟨?_, ?_⟩, List.isChain_cons_cons.mpr ⟨⟨?_, ?_⟩, hchain⟩⟩
    · rw [next_insert, Function.update_self]
    · rw [prev_insert, Function.update_of_ne hxn, Function.update_self]
    · rw [next_insert, Function.update_of_ne hxhead, Function.update_self]
    · rw [prev_insert, Function.update_self]

/-- **A cell whose neighbours are linked** is out of the ring. -/
theorem remove (h : s.Circular head (l ++ x :: r)) (hp : (head :: l).getLast? = some p)
    (hn : (r ++ [head]).head? = some n) : (s.remove p n).Circular head (l ++ r) := by
  have hnodup : (head :: l ++ r).Nodup :=
    h.nodup.sublist (((List.sublist_cons_self x r).append_left l).cons_cons head)
  obtain ⟨hfront, -, hdisjoint⟩ := List.nodup_append.mp hnodup
  obtain ⟨k, hk⟩ := List.getLast?_eq_some_iff.mp hp
  obtain ⟨t, ht⟩ := List.head?_eq_some_iff.mp hn
  have hback : (n :: t).Nodup := by
    rw [← ht, List.nodup_append_comm]
    exact hnodup.sublist ((List.sublist_append_right l r).cons_cons head)
  have hpmem : p ∈ head :: l := List.mem_of_getLast? hp
  have hchain := h.linked
  rw [← List.cons_append, List.append_assoc] at hchain
  obtain ⟨hold, hold', -⟩ := List.isChain_append.mp hchain
  refine ⟨hnodup, ?_⟩
  rw [← List.cons_append, List.append_assoc]
  refine List.IsChain.append ?_ ?_ ?_
  · refine isChain_congr hold (fun a ha => ?_) fun a ha => ?_
    · have hap : a ≠ p := by
        rintro rfl
        rw [hk, List.dropLast_concat] at ha
        rw [hk] at hfront
        exact (List.nodup_append.mp hfront).2.2 a ha a List.mem_cons_self rfl
      rw [next_remove, Function.update_of_ne hap]
    · have han : a ≠ n := by
        rintro rfl
        rcases List.mem_append.mp (List.mem_of_head? hn) with hmem | hmem
        · exact hdisjoint a (List.mem_cons_of_mem head ha) a hmem rfl
        · obtain rfl := List.mem_singleton.mp hmem
          exact (List.nodup_cons.mp hfront).1 ha
      rw [prev_remove, Function.update_of_ne han]
  · rw [ht]
    rw [List.cons_append, ht] at hold'
    refine isChain_congr (List.isChain_cons_cons.mp hold').2 (fun a ha => ?_) fun a ha => ?_
    · rw [← ht, List.dropLast_concat] at ha
      have hap : a ≠ p := fun heq => hdisjoint p hpmem a ha heq.symm
      rw [next_remove, Function.update_of_ne hap]
    · have han : a ≠ n := fun heq => (List.nodup_cons.mp hback).1 (heq ▸ ha)
      rw [prev_remove, Function.update_of_ne han]
  · intro a ha b hb
    obtain rfl := Option.some.inj (hp.symm.trans ha)
    obtain rfl := Option.some.inj (hn.symm.trans hb)
    exact ⟨by rw [next_remove, Function.update_self], by rw [prev_remove, Function.update_self]⟩

end Circular

end Changes

end Links
