/-
The links of a network.

All nodes of a graph run in one process.  A frame that one of them puts on a link is later
received at the other end, in any order with other frames and calls, or it is lost.  `NetRun`
adds such links to the calls of a run, and what a fair tariff says of single calls adds up over
it: the packets that wait, are in flight or are queued are worth no more than what the
applications paid.
-/
import SimpleTcpip.Proofs.Balance

namespace SimpleTcpip

open Fallible Ledger

/-- Frames in flight, with the interfaces they are for. -/
abbrev Air := Multiset (IntfId × List UInt8)

/-- The frames a call puts on links between nodes.  What a tap sends leaves the network. -/
def launched (w w' : World) : List (IntfId × List UInt8) :=
  (sentFrames w w').filterMap fun f => (w.nbrIf f.1).map fun j => (j, f.2)

/-- A change only adds to the trace. -/
theorem Change.trace {sc : Scope} {w w' : World} (h : Change sc w w') : w.trace <+: w'.trace := by
  have hsends : ∀ {K : SkBuff → Prop} {L : SkbId → Prop} {t : World}, t.trace = w.trace →
      Sends K L t w' → w.trace <+: w'.trace := by
    intro K L t ht hs
    obtain ⟨es, hes, -⟩ := hs.trace
    rw [hes, ht]
    exact List.prefix_append _ _
  cases h with
  | sends h => exact hsends rfl h
  | forwards _ _ _ _ _ _ _ h => exact hsends rfl h
  | @flushed _ n ip _ _ rest _ _ h =>
      exact hsends (t := w.modifyArp n ip fun entry => { entry with pendingPkts := rest }) rfl h
  | output _ => exact List.prefix_append _ _
  | transport _ _ => exact List.prefix_append _ _
  | readIpHdr _ => exact List.prefix_append _ _
  | connected _ _ _ _ _ _ _ _ => exact List.prefix_append _ _
  | _ => exact List.prefix_refl _

/-- A call only adds to the trace. -/
theorem runOp_trace {op : Op} {w w' : World} {r : Ret} (hrun : runOp op w = .ok r w') :
    ∃ es, w'.trace = w.trace ++ es := by
  have hbegun : w.trace <+: (op.begun w).trace := by
    cases op with
    | recvFrame i frame => exact List.prefix_append _ _
    | _ => exact List.prefix_refl _
  have hafter : w.trace <+: (op.after w).trace := by
    refine invariant_after (I := fun t => w.trace <+: t.trace) hbegun
      (fun t t' ht hchange => ht.trans hchange.trace) fun hquiet => ?_
    obtain ⟨es, hes, -⟩ := hquiet.trace
    rw [hes]
    exact List.prefix_append _ _
  rw [Op.after, final_of_ok hrun] at hafter
  obtain ⟨es, hes⟩ := hafter
  exact ⟨es, hes.symm⟩

/-- A run of the process with the links between its nodes: the calls of the applications, the
frames delivered, and those still in flight.  What comes in from outside, through a tap, is a
call of `recv_task` too. -/
inductive NetRun (w₀ : World) : List Call → List Call → Air → World → Prop
  | start : NetRun w₀ [] [] 0 w₀
  | call {calls delivered : List Call} {air : Air} {w w' : World} {op : Op} {r : Ret}
      (h : NetRun w₀ calls delivered air w) (hv : op.Valid w) (hrun : runOp op w = .ok r w') :
      NetRun w₀ (calls ++ [⟨w, op, r, w'⟩]) delivered (air + launched w w') w'
  | deliver {calls delivered : List Call} {air : Air} {w w' : World} {i : IntfId}
      {frame : List UInt8} {r : Ret} (h : NetRun w₀ calls delivered ((i, frame) ::ₘ air) w)
      (hv : (Op.recvFrame i frame).Valid w) (hrun : runOp (.recvFrame i frame) w = .ok r w') :
      NetRun w₀ calls (delivered ++ [⟨w, .recvFrame i frame, r, w'⟩]) (air + launched w w') w'
  | lose {calls delivered : List Call} {air : Air} {w : World} {f : IntfId × List UInt8}
      (h : NetRun w₀ calls delivered (f ::ₘ air) w) : NetRun w₀ calls delivered air w

/-- The process does not know where a frame comes from. -/
theorem NetRun.reachable {w₀ w : World} {calls delivered : List Call} {air : Air}
    (h : NetRun w₀ calls delivered air w) (hw : Reachable w₀) : Reachable w := by
  induction h with
  | start => exact hw
  | call _ hv hrun ih => exact .step ih hv hrun
  | deliver _ hv hrun ih => exact .step ih hv hrun
  | lose _ ih => exact ih

namespace Tariff

variable {A : Type} [AddCommMonoid A]

/-- What the frames in flight are worth. -/
def flying (t : Tariff A) (air : Air) : A := (air.map fun f => t.frame f.2).sum

/-- What is held where, frames in flight included. -/
def held (t : Tariff A) (N : World × Air) : Place → A
  | .link => t.flying N.2
  | place => t.stock N.1 place

/-- What some calls brought in. -/
def incomes (t : Tariff A) (calls : List Call) : A :=
  (calls.map fun call => t.income call.before call.op call.ret).sum

/-- What some calls took out. -/
def outgos (t : Tariff A) (calls : List Call) : A :=
  (calls.map fun call => t.outgo call.before call.op call.ret).sum

theorem flying_add (t : Tariff A) (air air' : Air) :
    t.flying (air + air') = t.flying air + t.flying air' := by
  rw [flying, Multiset.map_add, Multiset.sum_add, flying, flying]

theorem flying_cons (t : Tariff A) (f : IntfId × List UInt8) (air : Air) :
    t.flying (f ::ₘ air) = t.frame f.2 + t.flying air := by
  rw [flying, Multiset.map_cons, Multiset.sum_cons, flying]

theorem incomes_snoc (t : Tariff A) (calls : List Call) (call : Call) :
    t.incomes (calls ++ [call]) = t.incomes calls + t.income call.before call.op call.ret := by
  rw [incomes, List.map_append, List.sum_append, List.map_singleton, List.sum_singleton, incomes]

theorem outgos_snoc (t : Tariff A) (calls : List Call) (call : Call) :
    t.outgos (calls ++ [call]) = t.outgos calls + t.outgo call.before call.op call.ret := by
  rw [outgos, List.map_append, List.sum_append, List.map_singleton, List.sum_singleton, outgos]

end Tariff

/-- Nothing is there at first. -/
theorem Initial.held {A : Type} [AddCommMonoid A] {w₀ : World} (h : Initial w₀) (t : Tariff A) (place : Place) :
    t.held (w₀, 0) place = 0 := by
  cases place with
  | link => rfl
  | arp n => simp only [Tariff.held, Tariff.stock, h.arpTable, List.map_nil, List.sum_nil]
  | udp k => simp only [Tariff.held, Tariff.stock, h.udpSock, Option.elim_none]
  | tcp k => simp only [Tariff.held, Tariff.stock, h.tcpSock, Option.elim_none]

section Balance

variable {A : Type} [AddCommMonoid A] [PartialOrder A] [IsOrderedCancelAddMonoid A] {t : Tariff A}
  {w w' : World}

/-- A frame leaves the air. -/
theorem books_landed (t : Tariff A) (w : World) (f : IntfId × List UInt8) (air : Air) :
    Books t.held 0 (t.frame f.2) (w, f ::ₘ air) (w, air) := by
  refine .of_place .link (fun place hplace => ?_) ?_
  · cases place with
    | link => exact absurd rfl hplace
    | _ => exact le_rfl
  · simp only [Tariff.held, Tariff.flying_cons, add_zero]
    exact le_of_eq (add_comm _ _)

variable [CanonicallyOrderedAdd A]

/-- Not more is in flight than was put on the links. -/
theorem flying_launched (t : Tariff A) (w w' : World) :
    t.flying (launched w w') ≤ t.frames (sentFrames w w') := by
  show ((launched w w').map fun f => t.frame f.2).sum ≤ _
  rw [launched, Tariff.frames]
  induction sentFrames w w' with
  | nil => exact le_rfl
  | cons f fs ih =>
      rw [List.map_cons, List.sum_cons, List.filterMap_cons]
      cases w.nbrIf f.1 with
      | none => exact ih.trans le_add_self
      | some j =>
          rw [Option.map_some, List.map_cons, List.sum_cons]
          exact add_le_add_right ih _

/-- A call puts frames in flight. -/
theorem books_launched {a b : A} {es : List Event} (air : Air)
    (htrace : w'.trace = w.trace ++ es) (h : Books t.stock a b w w') :
    Books t.held a b (w, air) (w', air + launched w w') := by
  have hother : ∀ (w : World) (air : Air) (place : Place), place ≠ .link →
      t.held (w, air) place = t.stock w place := by
    intro w air place hplace
    cases place with
    | link => exact absurd rfl hplace
    | _ => rfl
  refine h.rebook .link (hother w air) (hother w' _) ?_
  have hever : t.stock w' .link = t.stock w .link + t.frames (sentFrames w w') := by
    rw [Tariff.stock, Tariff.stock, sentFrames, newEvents_append htrace, htrace,
      List.filterMap_append, Tariff.frames_append]
  rw [hever]
  calc t.flying (air + launched w w') + t.stock w .link
      = t.flying air + (t.stock w .link + t.flying (launched w w')) := by
        rw [Tariff.flying_add]
        abel
    _ ≤ t.flying air + (t.stock w .link + t.frames (sentFrames w w')) :=
        add_le_add_right (add_le_add_right (flying_launched t w w') _) _

/-- **The balance of a run**: whatever happened on the links. -/
theorem NetRun.books (ht : t.Fair) {w₀ : World} (hw : Reachable w₀) {calls delivered : List Call}
    {air : Air} (h : NetRun w₀ calls delivered air w) :
    Books t.held (t.incomes calls) (t.outgos calls + delivered.length • t.tick) (w₀, 0) (w, air) := by
  induction h with
  | start =>
      have hnothing := Books.refl t.held (w₀, 0)
      simpa only [Tariff.incomes, Tariff.outgos, List.map_nil, List.sum_nil, List.length_nil,
        zero_nsmul, add_zero] using hnothing
  | @call calls delivered air w w' op r hbefore _ hrun ih =>
      obtain ⟨es, hes⟩ := runOp_trace hrun
      have hcall := books_launched air hes (runOp_books ht (hbefore.reachable hw).connTables hrun)
      rw [Tariff.incomes_snoc, Tariff.outgos_snoc, add_right_comm]
      exact ih.trans hcall
  | @deliver calls delivered air w w' i frame r hbefore _ hrun ih =>
      obtain ⟨es, hes⟩ := runOp_trace hrun
      have hcall := books_launched air hes (runOp_books ht (hbefore.reachable hw).connTables hrun)
      have hpaid : Books t.held 0 t.tick (w, (i, frame) ::ₘ air) (w', air + launched w w') :=
        (((books_landed t w (i, frame) air).trans hcall).mono le_rfl (le_of_eq (add_comm _ _))).cancel
          (t.frame frame)
      rw [List.length_append, List.length_singleton, succ_nsmul, ← add_assoc, ← add_zero (t.incomes _)]
      exact ih.trans hpaid
  | @lose calls delivered air w f _ ih =>
      exact (ih.trans (books_landed t w f air)).mono (le_of_eq (add_zero _))
        (le_of_le_of_eq le_self_add rfl)

/-- **What is held anywhere, and what went out, the applications have paid for.** -/
theorem NetRun.settled (ht : t.Fair) {w₀ : World} (hw : Initial w₀) {calls delivered : List Call}
    {air : Air} (h : NetRun w₀ calls delivered air w) (places : Finset Place) :
    total t.held places (w, air) + (t.outgos calls + delivered.length • t.tick) ≤ t.incomes calls :=
  (h.books ht (.init hw)).settle (hw.held t) places

end Balance

/-! ### Schedules -/

/-- The number of frames some calls put on links between nodes. -/
def flown (calls : List Call) : Nat :=
  (calls.map fun call => (launched call.before call.after).length).sum

theorem flown_snoc (calls : List Call) (w : World) (op : Op) (r : Ret) (w' : World) :
    flown (calls ++ [⟨w, op, r, w'⟩]) = flown calls + (launched w w').length := by
  rw [flown, List.map_append, List.sum_append, List.map_singleton, List.sum_singleton, flown]

theorem card_add_launched (air : Air) (w w' : World) :
    (air + launched w w').card = air.card + (launched w w').length := by
  rw [Multiset.card_add, Multiset.coe_card]

/-- What happens next on links that keep frames in order. -/
inductive NetMove
  | call (op : Op)
  | deliver
  | lose

/-- The call an application makes. -/
def NetMove.op? : NetMove → Option Op
  | .call op => some op
  | _ => none

/-- A frame arrives. -/
def NetMove.delivers : NetMove → Bool
  | .deliver => true
  | _ => false

/-- A frame gets lost. -/
def NetMove.loses : NetMove → Bool
  | .lose => true
  | _ => false

/-- The process and its links after a move that can be made and completes. -/
def NetMove.step? (w : World) : NetMove → List (IntfId × List UInt8) →
    Option (World × List (IntfId × List UInt8))
  | .call op, air => (op.step? w).map fun w' => (w', air ++ launched w w')
  | .deliver, f :: air =>
      ((Op.recvFrame f.1 f.2).step? w).map fun w' => (w', air ++ launched w w')
  | .lose, _ :: air => some (w, air)
  | _, [] => none

/-- The process and its links after some moves. -/
def runMoves (w : World) (moves : List NetMove) : Option (World × List (IntfId × List UInt8)) :=
  moves.foldlM (fun N move => move.step? N.1 N.2) (w, [])

/-- **A schedule that completes is a run**, and every frame it put on a link was delivered, got lost
or is in flight. -/
theorem NetRun.of_moves {w₀ w : World} {moves : List NetMove} {air : List (IntfId × List UInt8)}
    (h : runMoves w₀ moves = some (w, air)) :
    ∃ calls delivered, NetRun w₀ calls delivered air w ∧
      calls.map Call.op = moves.filterMap NetMove.op? ∧
      delivered.length = (moves.filter NetMove.delivers).length ∧
      flown calls + flown delivered
        = delivered.length + (moves.filter NetMove.loses).length + air.length := by
  induction moves using List.reverseRecOn generalizing w air with
  | nil =>
      cases h
      exact ⟨[], [], .start, rfl, rfl, rfl⟩
  | append_singleton moves move ih =>
      rw [runMoves, List.foldlM_append] at h
      obtain ⟨⟨t, air'⟩, ht, hmove⟩ := Option.bind_eq_some_iff.mp h
      obtain ⟨calls, delivered, hrun, hcalls, hlen, hflown⟩ := ih ht
      rw [List.foldlM_cons] at hmove
      obtain ⟨N, hstep, hlast⟩ := Option.bind_eq_some_iff.mp hmove
      cases hlast
      rw [List.filterMap_append, List.filter_append, List.filter_append, List.length_append,
        List.length_append, ← hcalls, ← hlen]
      cases move with
      | call op =>
          obtain ⟨w', hop, heq⟩ := Option.map_eq_some_iff.mp hstep
          cases heq
          obtain ⟨hv, r, hr⟩ := Op.step?_eq_some.mp hop
          refine ⟨calls ++ [⟨t, op, r, w⟩], delivered, .call hrun hv hr, ?_, rfl, ?_⟩
          · rw [List.map_append]
            rfl
          · rw [flown_snoc, List.length_append, Nat.add_right_comm, hflown, Nat.add_assoc]
            rfl
      | deliver =>
          cases air' with
          | nil => cases hstep
          | cons f rest =>
              obtain ⟨w', hop, heq⟩ := Option.map_eq_some_iff.mp hstep
              cases heq
              obtain ⟨hv, r, hr⟩ := Op.step?_eq_some.mp hop
              have hbefore : NetRun w₀ calls delivered ((f.1, f.2) ::ₘ (rest : Air)) t := hrun
              refine ⟨calls, delivered ++ [⟨t, .recvFrame f.1 f.2, r, w⟩], .deliver hbefore hv hr,
                (List.append_nil _).symm, ?_, ?_⟩
              · rw [List.length_append]
                rfl
              · rw [List.length_cons] at hflown
                rw [flown_snoc, List.length_append, List.length_append, List.length_singleton,
                  show ([NetMove.deliver].filter NetMove.loses).length = 0 from rfl]
                dsimp only
                omega
      | lose =>
          cases air' with
          | nil => cases hstep
          | cons f rest =>
              cases hstep
              have hbefore : NetRun w₀ calls delivered (f ::ₘ (air : Air)) t := hrun
              refine ⟨calls, delivered, .lose hbefore, (List.append_nil _).symm, rfl, ?_⟩
              rw [List.length_cons] at hflown
              rw [show ([NetMove.lose].filter NetMove.loses).length = 1 from rfl]
              omega

end SimpleTcpip
