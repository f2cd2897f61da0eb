/-
Flooding.

The loop sends on every interface but the exempted one, and what it keeps of the results is
whether one was negative.  `send_pkt_flood` takes that for success.
-/
import SimpleTcpip.Model.Flood
import SimpleTcpip.Proofs.Transmission

namespace SimpleTcpip

open Fallible

/-- The interfaces a flood is for. -/
def floodIntfs (w : World) (n : NodeId) (exempted : Option IntfId) : List IntfId :=
  (nodeIntfs w n).filter fun i => decide (some i ≠ exempted)

/-! ### The loop -/

section Loop

variable {w w' : World} {n : NodeId} {exempted : Option IntfId} {frame : List UInt8}

/-- The loop sends on each interface in turn, and accumulates whether a result was negative. -/
theorem foldlM_floodStep (is : List IntfId) (rc : Bool) :
    is.foldlM (floodStep exempted frame) rc = (do
      let results ← (is.filter fun i => decide (some i ≠ exempted)).mapM (sendBytesOut frame)
      pure (rc || results.any (· < 0))) := by
  induction is generalizing rc with
  | nil => simp
  | cons i is ih =>
      rw [List.foldlM_cons, floodStep, List.filter_cons]
      by_cases hi : some i ≠ exempted
      · rw [if_pos hi, if_pos (decide_eq_true hi), bind_assoc, List.mapM_cons, bind_assoc]
        refine bind_congr fun result => ?_
        rw [pure_bind, ih, bind_assoc]
        refine bind_congr fun results => ?_
        rw [pure_bind, List.any_cons, Bool.or_assoc]
      · rw [if_neg hi, if_neg (by simpa using hi), pure_bind, ih]

/-- **What a flood does**: one send on each interface but the exempted one, and it returns whether
one of them failed. -/
theorem sendBytesFlood_run : sendBytesFlood n exempted frame w = (do
    let results ← (floodIntfs w n exempted).mapM (sendBytesOut frame)
    pure (results.any (· < 0)) : M Bool) w := by
  rw [sendBytesFlood, run_bind_ok (run_get w), foldlM_floodStep]
  rfl

/-- A flood on live interfaces completes. -/
theorem mapM_sendBytesOut_completes (hg : GraphOk w) {is : List IntfId}
    (hlive : ∀ i ∈ is, (w.intf i).isSome) : Completes (is.mapM (sendBytesOut frame)) w := by
  induction is generalizing w with
  | nil => exact ⟨[], w, rfl⟩
  | cons i is ih =>
      obtain ⟨intf, hintf⟩ := Option.isSome_iff_exists.mp (hlive i List.mem_cons_self)
      obtain ⟨result, -, hrun⟩ := sendBytesOut_run hg hintf frame
      -- a send leaves the graph as it is
      have hsame : ∀ t : World, t = (if w.tries i then w.sysSent i frame else w) →
          GraphOk t ∧ t.intf = w.intf := by
        rintro t rfl
        split
        · exact ⟨hg.of_frame rfl rfl rfl, rfl⟩
        · exact ⟨hg, rfl⟩
      obtain ⟨hg', hintf'⟩ := hsame _ rfl
      obtain ⟨results, t, hrest⟩ := ih hg' fun j hj => by
        rw [hintf']
        exact hlive j (List.mem_cons_of_mem _ hj)
      refine ⟨result :: results, t, ?_⟩
      rw [List.mapM_cons, run_bind_ok hrun, run_bind_ok hrest]
      rfl

end Loop

/-! ### The buffer -/

/-- A flood by the convention of `send_pkt_out`: one send on each interface but the exempted one,
the status says whether none of the results is negative, and the buffer is freed if so and left to
the caller otherwise. -/
def Flooded (n : NodeId) (exempted : Option IntfId) (skb : SkBuff) (w : World) (r : Bool)
    (w' : World) : Prop :=
  ∃ results t, (floodIntfs w n exempted).mapM (sendBytesOut skb.bytes) w = .ok results t ∧
    (r = true ↔ ∀ result ∈ results, 0 ≤ result) ∧ w' = if r then t.freed skb else t

section Buffer

variable {w w' : World} {n : NodeId} {exempted : Option IntfId} {skb : SkBuff} {r : Bool}

/-- What the code does instead: the buffer is freed if a send failed, and left if none did. -/
theorem sendPktFlood_inverted (hrun : sendPktFlood n exempted skb w = .ok r w') :
    ∃ results t, (floodIntfs w n exempted).mapM (sendBytesOut skb.bytes) w = .ok results t ∧
      (r = true ↔ ∃ result ∈ results, result < 0) ∧ w' = if r then t.freed skb else t := by
  obtain ⟨ok, t, hflood, hrest⟩ := bind_ok_iff.mp hrun
  rw [sendBytesFlood_run] at hflood
  obtain ⟨results, u, hsends, hany⟩ := bind_ok_iff.mp hflood
  obtain ⟨rfl, rfl⟩ := EStateM.Result.ok.inj hany
  refine ⟨results, u, hsends, ?_⟩
  have hiff : results.any (fun result => decide (result < 0)) = true ↔
      ∃ result ∈ results, result < 0 := by
    simp only [List.any_eq_true, decide_eq_true_eq]
  by_cases hfailed : results.any (fun result => decide (result < 0)) = true
  · rw [if_pos hfailed, hfailed] at hrest
    cases hrest
    exact ⟨iff_of_true rfl (hiff.mp hfailed), rfl⟩
  · rw [if_neg hfailed, Bool.eq_false_of_not_eq_true hfailed] at hrest
    cases hrest
    exact ⟨iff_of_false Bool.false_ne_true fun h => hfailed (hiff.mpr h), rfl⟩

/-- A flood on live interfaces returns. -/
theorem sendPktFlood_completes (hg : GraphOk w)
    (hlive : ∀ i ∈ nodeIntfs w n, (w.intf i).isSome) (exempted : Option IntfId) (skb : SkBuff) :
    Completes (sendPktFlood n exempted skb) w := by
  have hsends : Completes ((floodIntfs w n exempted).mapM (sendBytesOut skb.bytes)) w :=
    mapM_sendBytesOut_completes hg fun i hi => hlive i (List.mem_of_mem_filter hi)
  obtain ⟨results, t, hsends⟩ := hsends
  have hflood : sendBytesFlood n exempted skb.bytes w = .ok (results.any (· < 0)) t := by
    rw [sendBytesFlood_run, run_bind_ok hsends]
    rfl
  unfold sendPktFlood
  refine (completes_bind_of_ok hflood).mpr ?_
  split
  · exact ⟨_, _, rfl⟩
  · exact ⟨_, _, rfl⟩

/-- Success and failure are exchanged. -/
theorem not_flooded (hrun : sendPktFlood n exempted skb w = .ok r w') :
    ¬ Flooded n exempted skb w r w' := by
  rintro ⟨results, t, hsends, hstatus, -⟩
  obtain ⟨results', t', hsends', hfailed, -⟩ := sendPktFlood_inverted hrun
  obtain ⟨rfl, -⟩ := EStateM.Result.ok.inj (hsends.symm.trans hsends')
  have hboth : (∀ result ∈ results, 0 ≤ result) ↔ ∃ result ∈ results, result < 0 :=
    hstatus.symm.trans hfailed
  by_cases hneg : ∃ result ∈ results, result < 0
  · obtain ⟨result, hmem, hlt⟩ := hneg
    exact absurd (hboth.mpr ⟨result, hmem, hlt⟩ result hmem) (Int.not_le.mpr hlt)
  · refine hneg (hboth.mp fun result hmem => ?_)
    by_contra hlt
    exact hneg ⟨result, hmem, Int.not_le.mp hlt⟩

end Buffer

/-- **No flood follows the convention of `send_pkt_out`**, and one on live interfaces returns. -/
theorem sendPktFlood_never (w : World) (n : NodeId) (exempted : Option IntfId) (skb : SkBuff) :
    (¬ ∃ r w', sendPktFlood n exempted skb w = .ok r w' ∧ Flooded n exempted skb w r w') ∧
      (GraphOk w → (∀ i ∈ nodeIntfs w n, (w.intf i).isSome) →
        Completes (sendPktFlood n exempted skb) w) := by
  refine ⟨?_, fun hg hlive => sendPktFlood_completes hg hlive exempted skb⟩
  rintro ⟨r, w', hrun, hflooded⟩
  exact not_flooded hrun hflooded

/-- Every send of this flood succeeds, and it reports failure. -/
theorem sendPktFlood_untold : ∃ results t w',
    (floodIntfs Fixture.graph 0 none).mapM (sendBytesOut (freshSkb 0 60).bytes) Fixture.graph
      = .ok results t ∧ results = [1, 1] ∧
    sendPktFlood 0 none (freshSkb 0 60) Fixture.graph = .ok false w' := by
  have hresults : result ((floodIntfs Fixture.graph 0 none).mapM
      (sendBytesOut (freshSkb 0 60).bytes)) Fixture.graph = some [1, 1] := by decide +kernel
  have hstatus : result (sendPktFlood 0 none (freshSkb 0 60)) Fixture.graph = some false := by
    decide +kernel
  exact ⟨_, _, _, run_of_result hresults, rfl, run_of_result hstatus⟩

end SimpleTcpip
