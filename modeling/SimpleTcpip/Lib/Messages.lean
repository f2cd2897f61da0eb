/-
Queues of messages that are read in pieces.

A message goes in at one end of a queue and is read at the other, as many elements at a time
as the reader asks for.  What a read leaves of a message stays in front; a message read to its
end is gone, also one that was empty.  `Serves` is that queue, with a record of what went in
and of what came out, and `Delivered` says how the two belong together.
-/
import Mathlib

/-- A sequence that belongs together, and where it is from. -/
structure Message (σ β : Type) where
  source : σ
  payload : List β

namespace Message

variable {σ β : Type}

/-- What a read of at most `n` elements returns. -/
def front (m : Message σ β) (n : Nat) : Message σ β := { m with payload := m.payload.take n }

/-- What it leaves of the message. -/
def back (m : Message σ β) (n : Nat) : Message σ β := { m with payload := m.payload.drop n }

/-- What it leaves in the queue. -/
def left (m : Message σ β) (n : Nat) : List (Message σ β) :=
  if m.payload.length ≤ n then [] else [m.back n]

/-- The message was read in these chunks, of which there is at least one, and `rest` was not
read yet. -/
structure IsCut (m : Message σ β) (chunks : List (Message σ β)) (rest : List β) : Prop where
  some : chunks ≠ []
  source : ∀ c ∈ chunks, c.source = m.source
  payload : chunks.flatMap payload ++ rest = m.payload

/-- A first read. -/
theorem isCut_front (m : Message σ β) (n : Nat) : m.IsCut [m.front n] (m.payload.drop n) := by
  refine ⟨List.cons_ne_nil _ _, fun c hc => ?_, ?_⟩
  · rw [List.mem_singleton.mp hc]
    rfl
  · show m.payload.take n ++ [] ++ m.payload.drop n = m.payload
    rw [List.append_nil, List.take_append_drop]

/-- A further read. -/
theorem IsCut.read {m r : Message σ β} {chunks : List (Message σ β)}
    (h : m.IsCut chunks r.payload) (hr : r.source = m.source) (n : Nat) :
    m.IsCut (chunks ++ [r.front n]) (r.payload.drop n) := by
  refine ⟨by simp, fun c hc => ?_, ?_⟩
  · rcases List.mem_append.mp hc with hc | hc
    · exact h.source c hc
    · rw [List.mem_singleton.mp hc]
      exact hr
  · rw [List.flatMap_append, List.append_assoc, ← h.payload]
    show _ ++ (r.payload.take n ++ [] ++ r.payload.drop n) = _
    rw [List.append_nil, List.take_append_drop]

/-- What went into a queue, the chunks that were read, and what is in the queue. -/
inductive Serves : List (Message σ β) → List (Message σ β) → List (Message σ β) → Prop
  | start : Serves [] [] []
  | arrive {ms cs q : List (Message σ β)} (h : Serves ms cs q) (m : Message σ β) :
      Serves (ms ++ [m]) cs (q ++ [m])
  | read {ms cs q : List (Message σ β)} {m : Message σ β} (h : Serves ms cs (m :: q)) (n : Nat) :
      Serves ms (cs ++ [m.front n]) (m.left n ++ q)

/-- The chunks are the messages cut in order: first the messages that were read to their end,
then perhaps one that was read in part, then those that wait. -/
inductive Delivered : List (Message σ β) → List (Message σ β) → List (Message σ β) → Prop
  | waiting (q : List (Message σ β)) : Delivered q [] q
  | finished {m : Message σ β} {chunks ms cs q : List (Message σ β)} (hcut : m.IsCut chunks [])
      (hrest : Delivered ms cs q) : Delivered (m :: ms) (chunks ++ cs) q
  | begun {m r : Message σ β} {chunks q : List (Message σ β)} (hcut : m.IsCut chunks r.payload)
      (hsource : r.source = m.source) (hrest : r.payload ≠ []) :
      Delivered (m :: q) chunks (r :: q)

namespace Delivered

variable {ms cs q : List (Message σ β)}

theorem arrive (h : Delivered ms cs q) (m : Message σ β) :
    Delivered (ms ++ [m]) cs (q ++ [m]) := by
  induction h with
  | waiting q => exact .waiting _
  | finished hcut _ ih => exact .finished hcut ih
  | begun hcut hsource hrest => exact .begun hcut hsource hrest

/-- A message in front that was read further, or for the first time. -/
theorem of_cut {m r : Message σ β} {chunks : List (Message σ β)} {n : Nat}
    (hcut : m.IsCut chunks (r.payload.drop n)) (hsource : r.source = m.source) :
    Delivered (m :: q) chunks (r.left n ++ q) := by
  unfold Message.left
  split
  · rename_i hall
    rw [List.drop_of_length_le hall] at hcut
    have hdone := Delivered.finished hcut (.waiting q)
    rwa [List.append_nil] at hdone
  · rename_i hmore
    refine .begun hcut hsource fun hnil => hmore ?_
    exact List.drop_eq_nil_iff.mp hnil

/-- **A read goes on where the last one stopped.** -/
theorem read {m : Message σ β} (h : Delivered ms cs (m :: q)) (n : Nat) :
    Delivered ms (cs ++ [m.front n]) (m.left n ++ q) := by
  generalize hq : m :: q = q' at h
  induction h with
  | waiting q' =>
      subst hq
      exact of_cut (m.isCut_front n) rfl
  | finished hcut _ ih =>
      rw [List.append_assoc]
      exact .finished hcut (ih hq)
  | begun hcut hsource _ =>
      obtain ⟨rfl, rfl⟩ := List.cons.inj hq
      exact of_cut (hcut.read hsource n) hsource

end Delivered

/-- **A queue delivers its messages whole, in order and once.** -/
theorem Serves.delivered {ms cs q : List (Message σ β)} (h : Serves ms cs q) :
    Delivered ms cs q := by
  induction h with
  | start => exact .waiting []
  | arrive _ m ih => exact ih.arrive m
  | read _ n ih => exact ih.read n

end Message
