/-
The byte stream of a connection.

`handle_estab` queues a segment exactly when its sequence number is the next one, and
`tcp_recv` takes from the other end of the queue.  So whatever arrives, in whatever order and
however often, what an application reads is what the accepted segments carry, end to end; and
where the segments carry pieces of one stream, it is the front of that stream.
-/
import SimpleTcpip.Proofs.Accounting
import SimpleTcpip.Proofs.Bookkeeping
import SimpleTcpip.Proofs.Close

namespace SimpleTcpip

open Fallible

/-! ### What a call adds and takes -/

/-- A received segment is one `handle_estab` queues for a connection. -/
def takesData (w : World) (skb : SkBuff) (c : ConnId) : Bool :=
  decide (TakenTo w ipProtoTcp skb) && rxConn w skb == some c && (w.tcpConn c).any fun conn =>
    conn.state == .handleEstab && skb.segment.tcpSeq == conn.rcv.nxt &&
      !skb.segment.tcpFlags.rst && !skb.segment.tcpFlags.fin

theorem takesData_none {w : World} {skb : SkBuff} {c : ConnId} (h : w.tcpConn c = none) :
    takesData w skb c = false := by
  rw [takesData, h, Option.any_none, Bool.and_false]

/-- What `handle_estab` takes for the data of a received segment. -/
def SkBuff.carried (skb : SkBuff) : List UInt8 := (skb.segment.pulled tcpHdrSize).bytes

/-- The data a call queues for a connection. -/
def Call.data (call : Call) (c : ConnId) : List UInt8 :=
  call.rx.elim [] fun skb => if takesData call.before skb c then skb.carried else []

/-- The bytes a call returns from a connection. -/
def Call.taken (call : Call) (c : ConnId) : List UInt8 :=
  match call.op, call.ret with
  | .tcpRecv connfd _, .bytes (some bytes) =>
      if goodTcpConnectionSock call.before connfd = some c then bytes else []
  | _, _ => []

/-- The data a run queued for a connection, in the order it arrived. -/
def arrived (calls : List Call) (c : ConnId) : List UInt8 := calls.flatMap fun call => call.data c

/-- The bytes a run returned from a connection, in order. -/
def taken (calls : List Call) (c : ConnId) : List UInt8 := calls.flatMap fun call => call.taken c

theorem arrived_snoc (calls : List Call) (call : Call) (c : ConnId) :
    arrived (calls ++ [call]) c = arrived calls c ++ call.data c := by
  simp [arrived]

theorem taken_snoc (calls : List Call) (call : Call) (c : ConnId) :
    taken (calls ++ [call]) c = taken calls c ++ call.taken c := by
  simp [taken]

theorem taken_tcpRecv (w w' : World) (connfd : Int) (size : Nat) (bytes : List UInt8) (c : ConnId) :
    Call.taken ⟨w, .tcpRecv connfd size, .bytes (some bytes), w'⟩ c
      = if goodTcpConnectionSock w connfd = some c then bytes else [] := rfl

theorem Call.data_of_rx {call : Call} (h : call.rx = none) (c : ConnId) : call.data c = [] := by
  rw [Call.data, h, Option.elim_none]

/-! ### A received segment -/

/-- Does an act queue data for a connection? -/
def SegmentAct.delivers (c : ConnId) : SegmentAct → Bool
  | .deliver c' _ => c' == c
  | _ => false

/-- **A queued segment is one the act of its segment queues.** -/
theorem takesData_eq {w : World} {skb : SkBuff} {c : ConnId} (htaken : TakenTo w ipProtoTcp skb) :
    takesData w skb c = (segmentAct w skb).delivers c := by
  rw [Bool.eq_iff_iff]
  constructor
  · intro h
    simp only [takesData, Bool.and_eq_true, beq_iff_eq, Option.any_eq_true] at h
    obtain ⟨⟨-, hfound⟩, conn, hc, ⟨⟨hstate, hseq⟩, hrst⟩, hfin⟩ := h
    rw [Bool.not_eq_true'] at hrst hfin
    rw [segmentAct_of_conn hfound hc, stateAct, hstate]
    dsimp only
    rw [if_pos hseq, if_neg (by rw [hrst]; exact Bool.false_ne_true),
      if_neg (by rw [hfin]; exact Bool.false_ne_true)]
    exact beq_self_eq_true c
  · intro h
    have hchecked := segmentAct_checked w skb
    cases hact : segmentAct w skb with
    | deliver c' conn =>
        rw [hact] at h hchecked
        obtain rfl := beq_iff_eq.mp h
        obtain ⟨hfound, hc, hstate, hseq, hrst, hfin⟩ := hchecked
        simp [takesData, htaken, hfound, hc, hstate, hseq, hrst, hfin]
    | _ =>
        rw [hact] at h
        exact absurd h Bool.false_ne_true

/-- **What an act adds to the unread bytes** of a connection is the data it queues. -/
theorem Acted.unread {act : SegmentAct} {w w' : World} {skb : SkBuff} {c : ConnId}
    {conn : TcpConnectionSock} (h : Acted act skb w w') (hchecked : act.Checked w skb)
    (hlt : c < w.nextId) (hc : w.tcpConn c = some conn) :
    ∃ conn', w'.tcpConn c = some conn' ∧
      conn'.unread = conn.unread ++ if act.delivers c then skb.carried else [] := by
  have hsame : w'.tcpConn c = w.tcpConn c → act.delivers c = false →
      ∃ conn', w'.tcpConn c = some conn' ∧
        conn'.unread = conn.unread ++ if act.delivers c then skb.carried else [] := by
    intro heq hno
    refine ⟨conn, heq.trans hc, ?_⟩
    rw [hno, if_neg Bool.false_ne_true, List.append_nil]
  rw [h.tcpConn] at hsame ⊢
  cases act with
  | refuse => exact hsame rfl rfl
  | connect k sock => exact hsame (Function.update_of_ne (Nat.ne_of_lt hlt) _ _) rfl
  | establish c' conn' =>
      by_cases heq : c = c'
      · subst heq
        obtain rfl := Option.some.inj (hc.symm.trans hchecked.2.1)
        exact ⟨_, Function.update_self .., (List.append_nil _).symm⟩
      · exact hsame (Function.update_of_ne heq _ _) rfl
  | deliver c' conn' =>
      by_cases heq : c = c'
      · subst heq
        obtain rfl := Option.some.inj (hc.symm.trans hchecked.2.1)
        refine ⟨_, Function.update_self .., ?_⟩
        rw [SegmentAct.delivers, beq_self_eq_true, if_pos rfl]
        exact unread_cons conn _
      · exact hsame (Function.update_of_ne heq _ _) (beq_eq_false_iff_ne.mpr (Ne.symm heq))
  | close c' conn' fin =>
      by_cases heq : c = c'
      · subst heq
        obtain rfl := Option.some.inj (hc.symm.trans hchecked.2.1)
        exact ⟨_, Function.update_self .., (List.append_nil _).symm⟩
      · exact hsame (Function.update_of_ne heq _ _) rfl

/-! ### A call -/

/-- A received frame adds what its segment carries. -/
theorem unread_recvFrame {w w' : World} {i : IntfId} {frame : List UInt8} {r : Ret} {c : ConnId}
    {conn : TcpConnectionSock} (hw : Reachable w) (hrun : runOp (.recvFrame i frame) w = .ok r w')
    (hc : w.tcpConn c = some conn) :
    ∃ conn', w'.tcpConn c = some conn' ∧
      conn'.unread = conn.unread ++ Call.data ⟨w, .recvFrame i frame, r, w'⟩ c := by
  obtain ⟨u, t, hrecv, hdone⟩ := bind_ok_iff.mp hrun
  cases hdone
  have hlt := hw.conn_lt c (by rw [hc]; rfl)
  rw [Call.data, Call.rx, Option.elim_some]
  rcases recvFrame_acted hw.conn_lt hrecv with ⟨htaken, hacted⟩ | ⟨htaken, hacted⟩
  · obtain ⟨conn', hc', hunread⟩ :=
      hacted.unread (segmentAct_checked _ _) (Nat.lt_succ_of_lt hlt) hc
    refine ⟨conn', hc', ?_⟩
    rw [hunread, ← takesData_eq htaken]
    rfl
  · have hno : ¬ TakenTo w ipProtoTcp (recvBuffer w.nextId i frame) := htaken
    refine ⟨conn, by rw [hacted.tcpConn]; exact hc, ?_⟩
    rw [takesData, decide_eq_false hno, Bool.false_and, Bool.false_and,
      if_neg Bool.false_ne_true, List.append_nil]

theorem taken_eq_nil {call : Call} (h : ∀ fd size, call.op ≠ .tcpRecv fd size) (c : ConnId) :
    call.taken c = [] := by
  obtain ⟨w, op, r, w'⟩ := call
  cases op with
  | tcpRecv fd size => exact absurd rfl (h fd size)
  | _ => rfl

/-- A read takes from the front of the unread bytes. -/
theorem unread_tcpRecv {w w' : World} {fd : Int} {size : Nat} {r : Ret} {c : ConnId}
    {conn : TcpConnectionSock} (hrun : runOp (.tcpRecv fd size) w = .ok r w')
    (hc : w.tcpConn c = some conn) :
    ∃ conn', w'.tcpConn c = some conn' ∧
      Call.taken ⟨w, .tcpRecv fd size, r, w'⟩ c ++ conn'.unread = conn.unread := by
  obtain ⟨bytes, t, hread, hdone⟩ := bind_ok_iff.mp hrun
  cases hdone
  cases bytes with
  | none =>
      cases tcpRecv_ok hread with
      | nothing _ heq => exact ⟨conn, by rw [heq, hc], rfl⟩
      | read _ _ _ _ hr _ => cases hr
  | some bytes =>
      obtain ⟨c', conn₁, conn₂, hfd, hconn₁, hconn₂, hsplit⟩ := tcpRecv_unread hread
      by_cases heq : c' = c
      · subst heq
        obtain rfl := Option.some.inj (hc.symm.trans hconn₁)
        refine ⟨conn₂, hconn₂, ?_⟩
        rw [taken_tcpRecv, if_pos hfd, hsplit]
      · have hother : w'.tcpConn c = w.tcpConn c := by
          cases tcpRecv_ok hread with
          | nothing hr => cases hr
          | read hfd' _ _ _ _ hfinish =>
              obtain rfl := Option.some.inj (hfd.symm.trans hfd')
              rcases finishTcpRecv_ok hfinish with ⟨-, rfl⟩ | rfl
              · exact Function.update_of_ne (Ne.symm heq) _ _
              · exact Function.update_of_ne (Ne.symm heq) _ _
        refine ⟨conn, hother.trans hc, ?_⟩
        rw [taken_tcpRecv, if_neg (fun h => heq (Option.some.inj (hfd.symm.trans h))),
          List.nil_append]

/-- **What a call does to the unread bytes** of a connection that exists: data is added at one
end, and what the call returns is taken from the other. -/
theorem unread_after {w w' : World} {op : Op} {r : Ret} {c : ConnId} {conn : TcpConnectionSock}
    (hw : Reachable w) (hrun : runOp op w = .ok r w') (hc : w.tcpConn c = some conn) :
    ∃ conn', w'.tcpConn c = some conn' ∧
      Call.taken ⟨w, op, r, w'⟩ c ++ conn'.unread
        = conn.unread ++ Call.data ⟨w, op, r, w'⟩ c := by
  by_cases hframe : ∃ i frame, op = .recvFrame i frame
  · obtain ⟨i, frame, rfl⟩ := hframe
    exact unread_recvFrame hw hrun hc
  have hframe : ∀ i frame, op ≠ .recvFrame i frame := fun i frame heq => hframe ⟨i, frame, heq⟩
  have hdata : Call.data ⟨w, op, r, w'⟩ c = [] := by
    refine Call.data_of_rx ?_ c
    cases op with
    | recvFrame i frame => exact absurd rfl (hframe i frame)
    | _ => rfl
  rw [hdata, List.append_nil]
  by_cases hrecv : ∃ fd size, op = .tcpRecv fd size
  · obtain ⟨fd, size, rfl⟩ := hrecv
    exact unread_tcpRecv hrun hc
  have hrecv : ∀ fd size, op ≠ .tcpRecv fd size := fun fd size heq => hrecv ⟨fd, size, heq⟩
  have hsame := receiving_after hframe hrecv w c
  rw [show op.after w = w' from final_of_ok hrun, hc, Option.map_some] at hsame
  obtain ⟨conn', hc', hpair⟩ := Option.map_eq_some_iff.mp hsame
  have hqueue : conn'.rxSkb = conn.rxSkb := (Prod.mk.inj hpair).2
  refine ⟨conn', hc', ?_⟩
  rw [taken_eq_nil hrecv, List.nil_append, TcpConnectionSock.unread, hqueue]
  rfl

/-- A call adds nothing to a connection that did not exist before it, and takes nothing. -/
theorem unread_of_none {w w' : World} {op : Op} {r : Ret} {c : ConnId} (hw : Reachable w)
    (hrun : runOp op w = .ok r w') (hnone : w.tcpConn c = none) :
    Call.data ⟨w, op, r, w'⟩ c = [] ∧ Call.taken ⟨w, op, r, w'⟩ c = [] ∧
      ∀ conn, w'.tcpConn c = some conn → conn.unread = [] := by
  refine ⟨?_, ?_, fun conn hc => ?_⟩
  · unfold Call.data
    cases Call.rx ⟨w, op, r, w'⟩ with
    | none => rfl
    | some skb =>
        rw [Option.elim_some, takesData_none hnone, if_neg Bool.false_ne_true]
  · by_cases hrecv : ∃ fd size, op = .tcpRecv fd size
    · obtain ⟨fd, size, rfl⟩ := hrecv
      obtain ⟨bytes, t, hread, hdone⟩ := bind_ok_iff.mp hrun
      cases hdone
      cases bytes with
      | none => rfl
      | some bytes =>
          obtain ⟨c', conn₁, -, hfd, hconn₁, -⟩ := tcpRecv_unread hread
          rw [taken_tcpRecv, if_neg]
          intro h
          obtain rfl := Option.some.inj (hfd.symm.trans h)
          rw [hnone] at hconn₁
          cases hconn₁
    · exact taken_eq_nil (fun fd size heq => hrecv ⟨fd, size, heq⟩) c
  · rw [← show op.after w = w' from final_of_ok hrun] at hc
    obtain ⟨i, frame, k, rfl, -⟩ := opened_of_created hw.connTables hnone hc
    obtain ⟨u, t, hrecv, hdone⟩ := bind_ok_iff.mp hrun
    cases hdone
    rw [show (Op.recvFrame i frame).after w = w' from final_of_ok hrun] at hc
    obtain ⟨k', sock, -, -, rfl⟩ := recvFrame_created hw.conn_lt hrecv hnone hc
    rfl

/-! ### The numbers -/

/-- The bytes a buffer carries are as many as it says. -/
theorem length_unread (conn : TcpConnectionSock) :
    conn.unread.length = (conn.rxSkb.map SkBuff.len).sum := by
  rw [TcpConnectionSock.unread, List.length_flatMap, List.map_reverse, List.sum_reverse]
  exact congrArg List.sum (List.map_congr_left fun skb _ => Memory.length_read ..)

/-- A call that handles no frame adds no buffer to a queue. -/
theorem rxQueue_unframed {w w' : World} {op : Op} {r : Ret} {c : ConnId} {conn : TcpConnectionSock}
    (hframe : ∀ i frame, op ≠ .recvFrame i frame) (hrun : runOp op w = .ok r w')
    (hc : w.tcpConn c = some conn) : (w'.rxQueue c).length ≤ (w.rxQueue c).length := by
  by_cases hrecv : ∃ fd size, op = .tcpRecv fd size
  · obtain ⟨fd, size, rfl⟩ := hrecv
    obtain ⟨bytes, t, hread, hdone⟩ := bind_ok_iff.mp hrun
    cases hdone
    obtain ⟨conn', hc', -, hlen⟩ := tcpRecv_queue hc hread
    rwa [rxQueue_of_conn hc, rxQueue_of_conn hc']
  · have hsame := receiving_after hframe (fun fd size heq => hrecv ⟨fd, size, heq⟩) w c
    rw [show op.after w = w' from final_of_ok hrun, hc, Option.map_some] at hsame
    obtain ⟨conn', hc', hpair⟩ := Option.map_eq_some_iff.mp hsame
    rw [rxQueue_of_conn hc, rxQueue_of_conn hc', (Prod.mk.inj hpair).2]

/-- **A call counts the data it queues**, and a FIN. -/
theorem counted_eq {w w' : World} {op : Op} {r : Ret} {c : ConnId} (hw : Reachable w)
    (hrun : runOp op w = .ok r w') :
    Call.counted ⟨w, op, r, w'⟩ c = (Call.data ⟨w, op, r, w'⟩ c).length
      + if Call.finished ⟨w, op, r, w'⟩ c then 1 else 0 := by
  cases hold : w.tcpConn c with
  | none =>
      have hzero := (counted_of_none hw hrun hold).1
      rw [Call.counted] at hzero ⊢
      rw [(unread_of_none hw hrun hold).1, List.length_nil]
      omega
  | some conn =>
      refine congrArg (· + _) ?_
      by_cases hframe : ∃ i frame, op = .recvFrame i frame
      · obtain ⟨i, frame, rfl⟩ := hframe
        obtain ⟨u, t, hrecv, hdone⟩ := bind_ok_iff.mp hrun
        cases hdone
        obtain ⟨conn', hc', hunread⟩ := unread_recvFrame hw hrun hold
        have hlt := hw.conn_lt c (by rw [hold]; rfl)
        obtain ⟨new, hqueue⟩ : ∃ new, conn'.rxSkb = new ++ conn.rxSkb := by
          rcases recvFrame_acted hw.conn_lt hrecv with ⟨-, hacted⟩ | ⟨-, hacted⟩
          · obtain ⟨conn₁, new, hc₁, hqueue, -⟩ :=
              hacted.counts (segmentAct_checked _ _) (Nat.lt_succ_of_lt hlt) hold
            obtain rfl := Option.some.inj (hc'.symm.trans hc₁)
            exact ⟨new, hqueue⟩
          · rw [hacted.tcpConn] at hc'
            obtain rfl := Option.some.inj (hold.symm.trans hc')
            exact ⟨[], rfl⟩
        have happend : w'.rxQueue c = new ++ w.rxQueue c := by
          rw [rxQueue_of_conn hold, rxQueue_of_conn hc', hqueue]
        rw [Call.queued_of_append happend]
        have hlength := congrArg List.length hunread
        rw [List.length_append, length_unread, length_unread, hqueue, List.map_append,
          List.sum_append] at hlength
        omega
      · have hrx : Call.rx ⟨w, op, r, w'⟩ = none := by
          cases op with
          | recvFrame i frame => exact absurd ⟨i, frame, rfl⟩ hframe
          | _ => rfl
        rw [Call.data_of_rx hrx, List.length_nil]
        exact Call.queued_eq_zero
          (rxQueue_unframed (fun i frame heq => hframe ⟨i, frame, heq⟩) hrun hold)

/-- **A processed FIN retires its connection**: no segment finds it any more. -/
theorem retired_of_finished {w w' : World} {op : Op} {r : Ret} {c : ConnId} (hw : Reachable w)
    (hv : op.Valid w) (hrun : runOp op w = .ok r w')
    (hfin : Call.finished ⟨w, op, r, w'⟩ c = true) : Retired w' c := by
  obtain ⟨skb, hrx, htakes⟩ := (Option.any_eq_true _ _).mp hfin
  cases op with
  | recvFrame i frame =>
      obtain rfl : recvBuffer w.nextId i frame = skb := Option.some.inj hrx
      have htaken : TakenTo w ipProtoTcp (recvBuffer w.nextId i frame) := by
        simp only [takesFin, Bool.and_eq_true, decide_eq_true_eq] at htakes
        exact htakes.1.1
      have hcounts := (takesFin_eq htaken).symm.trans htakes
      obtain ⟨u, t, hrecv, hdone⟩ := bind_ok_iff.mp hrun
      cases hdone
      rcases recvFrame_acted hw.conn_lt hrecv with ⟨-, hacted⟩ | ⟨hno, -⟩
      · have hchecked := segmentAct_checked (w.received i frame) (recvBuffer w.nextId i frame)
        change (segmentAct (w.received i frame) _).countsFin c = true at hcounts
        cases hact : segmentAct (w.received i frame) (recvBuffer w.nextId i frame) with
        | close c' conn fin =>
            rw [hact] at hcounts hchecked hacted
            obtain rfl := beq_iff_eq.mp (Bool.and_eq_true_iff.mp hcounts).1
            obtain ⟨hfound, hc, -⟩ := hchecked
            obtain ⟨k, sock, -, hk, hmem, -⟩ := rxConn_some hfound
            have hparent := hw.connTables.parent k sock c' hk (List.mem_append_left _ hmem)
            rw [show w.tcpConn c' = some conn from hc] at hparent
            obtain rfl : conn.parent = k := Option.some.inj hparent
            have hlisted : w'.tcpSock conn.parent = some { sock with
                conns := sock.conns.erase c', closedConns := c' :: sock.closedConns } := by
              rw [hacted.tcpSock, SegmentAct.socks, hk, Option.elim_some]
              exact Function.update_self ..
            exact Closed.retired (Reachable.step hw hv hrun).connTables
              ⟨conn.parent, _, hlisted, List.mem_cons_self⟩
        | _ =>
            rw [hact] at hcounts
            exact absurd hcounts Bool.false_ne_true
      · exact absurd htaken hno
  | _ => cases hrx

/-! ### A run -/

/-- A call queues the data of a received segment for a connection. -/
def Call.Receives (call : Call) (c : ConnId) (skb : SkBuff) : Prop :=
  call.rx = some skb ∧ takesData call.before skb c = true

/-- How many FINs of a connection a run processed. -/
def finished (calls : List Call) (c : ConnId) : Nat := calls.countP fun call => call.finished c

/-- What a run has done for a connection, as far as it went. -/
structure Streamed (calls : List Call) (w : World) (c : ConnId) : Prop where
  /-- What was returned and what waits is what arrived. -/
  conserved : taken calls c ++ (w.tcpConn c).elim [] TcpConnectionSock.unread = arrived calls c
  counted : received calls c = (arrived calls c).length + finished calls c
  /-- Nothing arrives after a FIN. -/
  ended : finished calls c = 0 ∨ Retired w c

theorem Streamed.snoc {calls : List Call} {w w' : World} {op : Op} {r : Ret} {c : ConnId}
    (h : Streamed calls w c) (hw : Reachable w) (hv : op.Valid w) (hrun : runOp op w = .ok r w') :
    Streamed (calls ++ [⟨w, op, r, w'⟩]) w' c := by
  refine ⟨?_, ?_, ?_⟩
  · rw [taken_snoc, arrived_snoc, ← h.conserved]
    cases hold : w.tcpConn c with
    | none =>
        obtain ⟨hdata, htaken, hnew⟩ := unread_of_none hw hrun hold
        rw [hdata, htaken, Option.elim_none, List.append_nil, List.append_nil]
        cases hc' : w'.tcpConn c with
        | none => rw [Option.elim_none, List.append_nil]
        | some conn' => rw [Option.elim_some, hnew conn' hc', List.append_nil]
    | some conn =>
        obtain ⟨conn', hc', hsplit⟩ := unread_after hw hrun hold
        rw [hc', Option.elim_some, Option.elim_some, List.append_assoc, hsplit, List.append_assoc]
  · rw [received_snoc, arrived_snoc, finished, List.countP_append, List.countP_singleton,
      counted_eq hw hrun, List.length_append, h.counted, finished]
    omega
  · rw [finished, List.countP_append, List.countP_singleton]
    cases hfin : Call.finished ⟨w, op, r, w'⟩ c with
    | true => exact Or.inr (retired_of_finished hw hv hrun hfin)
    | false =>
        rcases h.ended with hzero | hretired
        · refine Or.inl ?_
          rw [finished] at hzero
          rw [hzero]
          rfl
        · refine Or.inr ?_
          rw [← show op.after w = w' from final_of_ok hrun]
          exact (hretired.after hw.connTables op).1

/-- **The stream of every connection, in every run.** -/
theorem Run.streamed {w₀ w : World} {calls : List Call} (hrun : Run w₀ calls w)
    (hinit : Initial w₀) (c : ConnId) : Streamed calls w c := by
  induction hrun with
  | nil =>
      refine ⟨?_, rfl, Or.inl rfl⟩
      rw [hinit.tcpConn]
      rfl
  | snoc hcalls hv hop ih => exact ih.snoc (hcalls.reachable (.init hinit)) hv hop

/-- The calls up to one of a run are a run. -/
theorem Run.before {w₀ w : World} {calls : List Call} (hrun : Run w₀ calls w) {pre post : List Call}
    {call : Call} (hsplit : calls = pre ++ call :: post) : Run w₀ pre call.before := by
  induction hrun generalizing post with
  | nil => exact absurd hsplit (by simp)
  | @snoc calls t t' op r hcalls _ _ ih =>
      rcases List.eq_nil_or_concat post with rfl | ⟨post, last, rfl⟩
      · obtain ⟨rfl, hlast⟩ := List.append_inj' hsplit rfl
        obtain rfl := List.singleton_inj.mp hlast
        exact hcalls
      · rw [List.concat_eq_append, ← List.cons_append, ← List.append_assoc] at hsplit
        exact ih (List.append_inj' hsplit rfl).1

/-- **A queued segment goes on where the stream stopped.** -/
theorem Run.sequence {w₀ w : World} {calls pre post : List Call} {call : Call} {c : ConnId}
    {skb : SkBuff} (hrun : Run w₀ calls w) (hinit : Initial w₀)
    (hsplit : calls = pre ++ call :: post) (hrx : call.Receives c skb) :
    ∃ conn, call.before.tcpConn c = some conn ∧
      skb.segment.tcpSeq = ntohl conn.rcv.irs + 1 + UInt32.ofNat (arrived pre c).length := by
  have hpre := hrun.before hsplit
  have htakes := hrx.2
  simp only [takesData, Bool.and_eq_true, beq_iff_eq, Option.any_eq_true] at htakes
  obtain ⟨⟨-, hfound⟩, conn, hc, ⟨⟨-, hseq⟩, -⟩, -⟩ := htakes
  have hstreamed := hpre.streamed hinit c
  have hopen : finished pre c = 0 :=
    hstreamed.ended.resolve_right fun hretired => hretired.not_found skb hfound
  refine ⟨conn, hc, ?_⟩
  rw [hseq, (hpre.counted hinit c).2 conn hc, hstreamed.counted, hopen, Nat.add_zero]

/-- The number of its SYN is what a connection counts from, at any time. -/
theorem Run.irs_before {w₀ w : World} {calls pre post : List Call} {call opening : Call} {c : ConnId}
    {conn : TcpConnectionSock} {syn : SkBuff} (hrun : Run w₀ calls w) (hinit : Initial w₀)
    (hsplit : calls = pre ++ call :: post) (hc : call.before.tcpConn c = some conn)
    (hmem : opening ∈ calls) (hopens : opening.Opens c syn) :
    ntohl conn.rcv.irs = syn.segment.tcpSeq := by
  obtain ⟨first, hfirst, syn', k, hopens', hopened⟩ := (hrun.before hsplit).opens hinit hc
  have hmem' : first ∈ calls := hsplit ▸ List.mem_append_left _ hfirst
  -- both SYNs left their number in the connection the run ends with
  obtain ⟨last, hlast, hirs⟩ := hrun.opens_irs hinit hmem hopens
  obtain ⟨last', hlast', hirs'⟩ := hrun.opens_irs hinit hmem' hopens'
  obtain rfl := Option.some.inj (hlast.symm.trans hlast')
  have hfield : conn.rcv.irs = (syn'.opens k).rcv.irs := congrArg (fun s => s.rcv.irs) hopened
  rw [hfield]
  exact congrArg ntohl (hirs'.symm.trans hirs)

/--
**What is read from a connection is what its segments carry**, end to end: what was returned,
followed by what waits, is the data of the queued segments in the order they came, and each of
them began at the number right after the data before it, counted from the SYN.
-/
theorem tcp_stream {w₀ w : World} {calls : List Call} (hinit : Initial w₀)
    (hrun : Run w₀ calls w) {c : ConnId} {conn : TcpConnectionSock}
    (hc : w.tcpConn c = some conn) :
    taken calls c ++ conn.unread = arrived calls c ∧
      (∃ opening ∈ calls, ∃ syn, opening.Opens c syn) ∧
      ∀ opening ∈ calls, ∀ syn, opening.Opens c syn → ∀ pre call post skb,
        calls = pre ++ call :: post → call.Receives c skb →
        call.data c = skb.carried ∧
          skb.segment.tcpSeq = syn.segment.tcpSeq + 1 + UInt32.ofNat (arrived pre c).length := by
  obtain ⟨opening, hopening, syn, -, hopens, -⟩ := hrun.opens hinit hc
  refine ⟨?_, ⟨opening, hopening, syn, hopens⟩,
    fun opening hmem syn hopens pre call post skb hsplit hrx => ⟨?_, ?_⟩⟩
  · have hconserved := (hrun.streamed hinit c).conserved
    rwa [hc, Option.elim_some] at hconserved
  · rw [Call.data, hrx.1, Option.elim_some, if_pos hrx.2]
  · obtain ⟨conn₁, hc₁, hseq⟩ := hrun.sequence hinit hsplit hrx
    have hirs := hrun.irs_before hinit hsplit hc₁ hmem hopens
    rw [hseq, hirs]

/-- A segment carries its piece of a stream whose first byte has a number. -/
def CarriesSlice (stream : List UInt8) (first : UInt32) (skb : SkBuff) : Prop :=
  ∃ pos, pos + skb.carried.length ≤ stream.length ∧
    skb.segment.tcpSeq = first + UInt32.ofNat pos ∧
    skb.carried = (stream.drop pos).take skb.carried.length

/-- **A piece that goes on where the front of a stream stops makes a longer front.** -/
theorem CarriesSlice.extends {stream : List UInt8} {first : UInt32} {skb : SkBuff} {k : Nat}
    (h : CarriesSlice stream first skb) (hk : k ≤ stream.length)
    (hlen : stream.length < 2 ^ 32) (hseq : skb.segment.tcpSeq = first + UInt32.ofNat k) :
    k + skb.carried.length ≤ stream.length ∧
      stream.take k ++ skb.carried = stream.take (k + skb.carried.length) := by
  obtain ⟨pos, hpos, hseq', hslice⟩ := h
  have hnum : UInt32.ofNat pos = UInt32.ofNat k := by
    have heq := hseq'.symm.trans hseq
    rwa [UInt32.add_right_inj] at heq
  have hsame : pos = k := by
    have htoNat := congrArg UInt32.toNat hnum
    rwa [UInt32.toNat_ofNat', UInt32.toNat_ofNat', Nat.mod_eq_of_lt (by omega),
      Nat.mod_eq_of_lt (by omega)] at htoNat
  subst hsame
  refine ⟨hpos, ?_⟩
  rw [List.take_add, ← hslice]

/-- What a call queues is the data of a segment, or nothing. -/
theorem Call.data_cases (call : Call) (c : ConnId) :
    (∃ skb, call.Receives c skb ∧ call.data c = skb.carried) ∨ call.data c = [] := by
  unfold Call.Receives Call.data
  cases call.rx with
  | none => exact Or.inr rfl
  | some skb =>
      rw [Option.elim_some]
      cases htakes : takesData call.before skb c with
      | true => exact Or.inl ⟨skb, ⟨rfl, htakes⟩, if_pos rfl⟩
      | false => exact Or.inr (if_neg Bool.false_ne_true)

/-- When the queued segments carry pieces of one stream, what arrived is the front of it. -/
theorem Run.arrived_front {w₀ w : World} {calls : List Call} {c : ConnId} {stream : List UInt8}
    {opening : Call} {syn : SkBuff} (hrun : Run w₀ calls w) (hinit : Initial w₀)
    (hlen : stream.length < 2 ^ 32) (hmem : opening ∈ calls) (hopens : opening.Opens c syn)
    (hslices : ∀ call ∈ calls, ∀ skb, call.Receives c skb →
      CarriesSlice stream (syn.segment.tcpSeq + 1) skb) {pre post : List Call}
    (hsplit : calls = pre ++ post) : ∃ k ≤ stream.length, arrived pre c = stream.take k := by
  induction pre using List.reverseRecOn generalizing post with
  | nil => exact ⟨0, Nat.zero_le _, rfl⟩
  | append_singleton pre call ih =>
      have hsplit' : calls = pre ++ call :: post := by rw [hsplit, List.append_assoc]; rfl
      obtain ⟨k, hk, hfront⟩ := ih hsplit'
      rw [arrived_snoc, hfront]
      rcases call.data_cases c with ⟨skb, hrx, hdata⟩ | hdata
      · rw [hdata]
        obtain ⟨conn, hc, hseq⟩ := hrun.sequence hinit hsplit' hrx
        rw [hrun.irs_before hinit hsplit' hc hmem hopens, hfront, List.length_take,
          Nat.min_eq_left hk] at hseq
        have hcall : call ∈ calls := hsplit' ▸ List.mem_append_right _ List.mem_cons_self
        obtain ⟨hmore, hextends⟩ := (hslices call hcall skb hrx).extends hk hlen hseq
        exact ⟨k + skb.carried.length, hmore, hextends⟩
      · exact ⟨k, hk, by rw [hdata, List.append_nil]⟩

/--
**Delivery is in order and exactly once.**  When every segment that is queued for a connection
carries its piece of one stream, then in whatever order, however often and however split the
segments of the peer arrive and the application reads, what it was returned and what waits
for it are together the front of the stream that `rcv.nxt` counts.
-/
theorem tcp_reliable {w₀ w : World} {calls : List Call} (hinit : Initial w₀)
    (hrun : Run w₀ calls w) {c : ConnId} {conn : TcpConnectionSock} (hc : w.tcpConn c = some conn)
    {stream : List UInt8} (hlen : stream.length < 2 ^ 32) {opening : Call} {syn : SkBuff}
    (hmem : opening ∈ calls) (hopens : opening.Opens c syn)
    (hslices : ∀ call ∈ calls, ∀ skb, call.Receives c skb →
      CarriesSlice stream (syn.segment.tcpSeq + 1) skb) :
    ∃ k ≤ stream.length, taken calls c ++ conn.unread = stream.take k ∧
      conn.rcv.nxt = syn.segment.tcpSeq + 1 + UInt32.ofNat (k + finished calls c) := by
  have hstreamed := hrun.streamed hinit c
  obtain ⟨k, hk, harrived⟩ : ∃ k ≤ stream.length, arrived calls c = stream.take k :=
    hrun.arrived_front hinit hlen hmem hopens hslices (List.append_nil calls).symm
  have hcount : (arrived calls c).length = k := by
    rw [harrived, List.length_take, Nat.min_eq_left hk]
  refine ⟨k, hk, ?_, ?_⟩
  · have hconserved := hstreamed.conserved
    rwa [hc, Option.elim_some, harrived] at hconserved
  · obtain ⟨conn', hc', hirs⟩ := hrun.opens_irs hinit hmem hopens
    obtain rfl := Option.some.inj (hc.symm.trans hc')
    have hseq : ntohl conn.rcv.irs = syn.segment.tcpSeq := congrArg ntohl hirs
    rw [(hrun.counted hinit c).2 conn hc, hstreamed.counted, hcount, hseq]

/-! ### A run of the test topology -/

/-- A run goes on with calls that complete. -/
theorem Run.runOps {w₀ w w' : World} {calls : List Call} {ops : List Op} (h : Run w₀ calls w)
    (hops : SimpleTcpip.runOps w ops = some w') :
    ∃ more, Run w₀ (calls ++ more) w' ∧ more.map Call.op = ops := by
  obtain ⟨more, hmore, hmap⟩ := Run.of_runOps hops
  refine ⟨more, ?_, hmap⟩
  clear hmap hops
  induction hmore with
  | nil => rwa [List.append_nil]
  | snoc _ hv hrun ih =>
      rw [← List.append_assoc]
      exact ih.snoc hv hrun

namespace Fixture

/-- The state before a peer connects. -/
def listening : World := after listen

/-- The SYN of the peer. -/
def synOp : Op := .recvFrame 0 (tcpFrame 5 7 0x02 [])

/-- It sends four bytes in two segments, the first of them twice, and two bytes are read. -/
def fourBytes : List Op :=
  [.recvFrame 0 (tcpFrame 5 8 0x10 []), .recvFrame 0 (tcpFrame 5 8 0x10 [1, 2, 3]),
    .recvFrame 0 (tcpFrame 5 8 0x10 [1, 2, 3]), .recvFrame 0 (tcpFrame 5 11 0x10 [4]),
    .tcpAccept 0, .tcpRecv 0 2]

/-- The segments of the peer carry their pieces of `1, 2, 3, 4`. -/
theorem fourBytes_slices {call : Call} (hmem : call.op ∈ fourBytes) {skb : SkBuff}
    (hrx : call.rx = some skb) : CarriesSlice [1, 2, 3, 4] 8 skb := by
  obtain ⟨w, op, r, w'⟩ := call
  have hslice : ∀ (seq : UInt8) (payload : List UInt8) (pos : Nat),
      pos + payload.length ≤ 4 →
      (recvBuffer 0 0 (tcpFrame 5 seq 0x10 payload)).segment.tcpSeq = 8 + UInt32.ofNat pos →
      (recvBuffer 0 0 (tcpFrame 5 seq 0x10 payload)).carried = payload →
      payload = ([1, 2, 3, 4].drop pos).take payload.length →
      Call.rx ⟨w, .recvFrame 0 (tcpFrame 5 seq 0x10 payload), r, w'⟩ = some skb →
      CarriesSlice [1, 2, 3, 4] 8 skb := by
    intro seq payload pos hle hseq hcarried hpayload hrx
    obtain rfl := Option.some.inj hrx
    have hcarried' : (recvBuffer w.nextId 0 (tcpFrame 5 seq 0x10 payload)).carried = payload :=
      hcarried
    exact ⟨pos, by rw [hcarried']; exact hle, hseq, by rw [hcarried']; exact hpayload⟩
  simp only [fourBytes, List.mem_cons, List.not_mem_nil, or_false] at hmem
  rcases hmem with rfl | rfl | rfl | rfl | rfl | rfl
  · exact hslice 8 [] 0 (by decide) (by decide) (by decide) rfl hrx
  · exact hslice 8 [1, 2, 3] 0 (by decide) (by decide) (by decide) rfl hrx
  · exact hslice 8 [1, 2, 3] 0 (by decide) (by decide) (by decide) rfl hrx
  · exact hslice 11 [4] 3 (by decide) (by decide) (by decide) rfl hrx
  · cases hrx
  · cases hrx

/-- The state the bytes and the read leave. -/
def streamed : World := (runOps (synOp.after listening) fourBytes).getD listening

/-- The buffer of the SYN. -/
def synBuffer : SkBuff := recvBuffer listening.nextId 0 (tcpFrame 5 7 0x02 [])

/-- Their run: the SYN opens connection 2, and every segment it queues carries its piece. -/
theorem streamed_run : ∃ calls opening, Run graph calls streamed ∧ opening ∈ calls ∧
    opening.Opens 2 synBuffer ∧ ∀ call ∈ calls, ∀ skb, call.Receives 2 skb →
      CarriesSlice [1, 2, 3, 4] 8 skb := by
  have hlisten : (runOps graph (configure ++ listen)).isSome := by decide +kernel
  have hreturns : synOp.returns listening = some .unit := by decide +kernel
  have hvalid : synOp.Valid listening := by decide +kernel
  have hmore : (runOps (synOp.after listening) fourBytes).isSome := by decide +kernel
  have hnew : (listening.tcpConn 2).isNone ∧ ((synOp.after listening).tcpConn 2).isSome := by
    decide +kernel
  have hsyn : synBuffer.segment.tcpFlags.syn = true := by decide +kernel
  obtain ⟨w', hw'⟩ := Option.isSome_iff_exists.mp hmore
  have hstreamed : streamed = w' := by rw [streamed, hw']; rfl
  obtain ⟨before, hbefore, hops⟩ := Run.of_runOps (runOps_after hlisten)
  have hopened := hbefore.snoc hvalid (Op.returns_run hreturns)
  obtain ⟨more, hrun, hmap⟩ := hopened.runOps hw'
  have hnone : listening.tcpConn 2 = none := Option.isNone_iff_eq_none.mp hnew.1
  refine ⟨_, _, hstreamed ▸ hrun, List.mem_append_left _ (List.mem_append_right _
    List.mem_cons_self), ⟨rfl, hsyn, hnone, hnew.2⟩, fun call hmem skb hrx => ?_⟩
  rcases List.mem_append.mp hmem with hmem | hmem
  · rcases List.mem_append.mp hmem with hmem | hmem
    · -- nothing was received before the SYN
      have hop : call.op ∈ configure ++ listen := hops ▸ List.mem_map_of_mem hmem
      obtain ⟨w, op, r, w'⟩ := call
      have hframe := hrx.1
      simp only [configure, listen, List.cons_append, List.nil_append, List.mem_cons,
        List.not_mem_nil, or_false] at hop
      rcases hop with rfl | rfl | rfl | rfl | rfl | rfl | rfl <;> cases hframe
    · obtain rfl := List.mem_singleton.mp hmem
      have htakes : takesData listening skb 2 = true := hrx.2
      rw [takesData_none hnone] at htakes
      cases htakes
  · exact fourBytes_slices (hmap ▸ List.mem_map_of_mem hmem) hrx.1

end Fixture

theorem tcp_stream_fixture : ∃ calls conn, Run Fixture.graph calls Fixture.streamed ∧
    Fixture.streamed.tcpConn 2 = some conn ∧ taken calls 2 ++ conn.unread = arrived calls 2 ∧
      ∃ opening ∈ calls, ∃ syn, opening.Opens 2 syn := by
  have hlive : (Fixture.streamed.tcpConn 2).isSome := by decide +kernel
  obtain ⟨calls, opening, hrun, -⟩ := Fixture.streamed_run
  generalize Fixture.streamed = w at *
  obtain ⟨conn, hconn⟩ := Option.isSome_iff_exists.mp hlive
  obtain ⟨hconserved, hopens, -⟩ := tcp_stream Fixture.graph_initial hrun hconn
  exact ⟨calls, conn, hrun, hconn, hconserved, hopens⟩

/-- Two of the four bytes are read. -/
theorem tcp_reliable_fixture : ∃ calls conn, Run Fixture.graph calls Fixture.streamed ∧
    Fixture.streamed.tcpConn 2 = some conn ∧ ∃ k ≤ 4,
      taken calls 2 ++ conn.unread = [1, 2, 3, 4].take k ∧
      conn.rcv.nxt = 8 + UInt32.ofNat (k + finished calls 2) := by
  have hlive : (Fixture.streamed.tcpConn 2).isSome := by decide +kernel
  have hseq : Fixture.synBuffer.segment.tcpSeq + 1 = 8 := by decide +kernel
  obtain ⟨calls, opening, hrun, hmem, hopens, hslices⟩ := Fixture.streamed_run
  generalize Fixture.streamed = w at *
  generalize Fixture.synBuffer = syn at *
  obtain ⟨conn, hconn⟩ := Option.isSome_iff_exists.mp hlive
  rw [← hseq] at hslices
  have hlen : ([1, 2, 3, 4] : List UInt8).length < 2 ^ 32 := by decide
  have hfront := tcp_reliable Fixture.graph_initial hrun hconn hlen hmem hopens hslices
  rw [hseq] at hfront
  exact ⟨calls, conn, hrun, hconn, hfront⟩

end SimpleTcpip
