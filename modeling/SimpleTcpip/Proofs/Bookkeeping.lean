/-
The receive sequence numbers of a connection.

`rcv.nxt` starts after the SYN and counts every byte put on the queue and a FIN, in every run
and however the numbers wrap.  `rcv.irs` should be where it started from, but the field of the
SYN was copied without `NTOHL`: the two fit together exactly for a sequence number whose bytes
read the same both ways.
-/
import SimpleTcpip.Proofs.ByteOrder
import SimpleTcpip.Proofs.Handshake
import SimpleTcpip.Proofs.Window

namespace SimpleTcpip

open Fallible

/-! ### What a call counts -/

/-- The queue of a connection; one that does not exist has queued nothing. -/
def World.rxQueue (w : World) (c : ConnId) : List SkBuff :=
  (w.tcpConn c).elim [] TcpConnectionSock.rxSkb

/-- The bytes a call put on the queue of a connection: `list_add` puts a buffer in front. -/
def Call.queued (call : Call) (c : ConnId) : Nat :=
  (((call.after.rxQueue c).take
    ((call.after.rxQueue c).length - (call.before.rxQueue c).length)).map SkBuff.len).sum

/-- A received segment is a FIN that `handle_estab` processes for a connection. -/
def takesFin (w : World) (skb : SkBuff) (c : ConnId) : Bool :=
  decide (TakenTo w ipProtoTcp skb) && rxConn w skb == some c && (w.tcpConn c).any fun conn =>
    conn.state == .handleEstab && skb.segment.tcpSeq == conn.rcv.nxt &&
      !skb.segment.tcpFlags.rst && skb.segment.tcpFlags.fin

/-- Did a call process a FIN for a connection? -/
def Call.finished (call : Call) (c : ConnId) : Bool :=
  call.rx.any fun skb => takesFin call.before skb c

/-- The sequence numbers a call counts for a connection. -/
def Call.counted (call : Call) (c : ConnId) : Nat :=
  call.queued c + if call.finished c then 1 else 0

/-- The bytes a run put on the queue of a connection, and one for each FIN it processed. -/
def received (calls : List Call) (c : ConnId) : Nat := (calls.map fun call => call.counted c).sum

theorem received_snoc (calls : List Call) (call : Call) (c : ConnId) :
    received (calls ++ [call]) c = received calls c + call.counted c := by
  rw [received, List.map_append, List.sum_append, List.map_singleton, List.sum_singleton]
  rfl

theorem rxQueue_of_conn {w : World} {c : ConnId} {conn : TcpConnectionSock}
    (h : w.tcpConn c = some conn) : w.rxQueue c = conn.rxSkb := by
  rw [World.rxQueue, h, Option.elim_some]

theorem rxQueue_of_none {w : World} {c : ConnId} (h : w.tcpConn c = none) : w.rxQueue c = [] := by
  rw [World.rxQueue, h, Option.elim_none]

/-- A call that leaves no more buffers than it found queued nothing. -/
theorem Call.queued_eq_zero {call : Call} {c : ConnId}
    (h : (call.after.rxQueue c).length ≤ (call.before.rxQueue c).length) : call.queued c = 0 := by
  rw [Call.queued, Nat.sub_eq_zero_of_le h, List.take_zero]
  rfl

/-- A call without a FIN that leaves no more buffers than it found counts nothing. -/
theorem Call.counted_eq_zero {call : Call} {c : ConnId} (hfin : call.finished c = false)
    (h : (call.after.rxQueue c).length ≤ (call.before.rxQueue c).length) :
    call.counted c = 0 := by
  rw [Call.counted, Call.queued_eq_zero h, hfin]
  rfl

theorem Call.finished_of_rx {call : Call} (h : call.rx = none) (c : ConnId) :
    call.finished c = false := by
  rw [Call.finished, h, Option.any_none]

/-- What a call put in front is what it queued. -/
theorem Call.queued_of_append {call : Call} {c : ConnId} {new : List SkBuff}
    (h : call.after.rxQueue c = new ++ call.before.rxQueue c) :
    call.queued c = (new.map SkBuff.len).sum := by
  rw [Call.queued, h, List.length_append, Nat.add_sub_cancel_right, List.take_left]

/-! ### A received segment -/

/-- Does an act count a FIN for a connection? -/
def SegmentAct.countsFin (c : ConnId) : SegmentAct → Bool
  | .close c' _ fin => c' == c && fin
  | _ => false

theorem segmentAct_of_conn {w : World} {skb : SkBuff} {c : ConnId} {conn : TcpConnectionSock}
    (hfound : rxConn w skb = some c) (hc : w.tcpConn c = some conn) :
    segmentAct w skb = stateAct skb c conn := by
  obtain ⟨k, sock, hsock, hk, -⟩ := rxConn_some hfound
  rw [rxConn_of_sock hsock hk] at hfound
  rw [segmentAct, hsock, Option.elim_some, hk, Option.elim_some, sockAct, hfound]
  dsimp only
  rw [hc, Option.elim_some]

/-- **A processed FIN is one the act of its segment counts.** -/
theorem takesFin_eq {w : World} {skb : SkBuff} {c : ConnId} (htaken : TakenTo w ipProtoTcp skb) :
    takesFin w skb c = (segmentAct w skb).countsFin c := by
  rw [Bool.eq_iff_iff]
  constructor
  · intro h
    simp only [takesFin, Bool.and_eq_true, beq_iff_eq, Option.any_eq_true] at h
    obtain ⟨⟨-, hfound⟩, conn, hc, ⟨⟨hstate, hseq⟩, hrst⟩, hfin⟩ := h
    rw [Bool.not_eq_true'] at hrst
    rw [segmentAct_of_conn hfound hc, stateAct, hstate]
    dsimp only
    rw [if_pos hseq, if_neg (by rw [hrst]; exact Bool.false_ne_true), if_pos hfin]
    simp [SegmentAct.countsFin]
  · intro h
    have hchecked := segmentAct_checked w skb
    cases hact : segmentAct w skb with
    | close c' conn fin =>
        rw [hact] at h hchecked
        simp only [SegmentAct.countsFin, Bool.and_eq_true, beq_iff_eq] at h
        obtain ⟨rfl, rfl⟩ := h
        obtain ⟨hfound, hc, hstate, hseq, hrst, hfin⟩ := hchecked
        simp [takesFin, htaken, hfound, hc, hstate, hseq, hrst, hfin rfl]
    | _ =>
        rw [hact] at h
        exact absurd h Bool.false_ne_true

/-- **What an act counts** is what it puts in front of the queue, and the FIN. -/
theorem Acted.counts {act : SegmentAct} {w w' : World} {skb : SkBuff} {c : ConnId}
    {conn : TcpConnectionSock} (h : Acted act skb w w') (hchecked : act.Checked w skb)
    (hlt : c < w.nextId) (hc : w.tcpConn c = some conn) :
    ∃ conn' new, w'.tcpConn c = some conn' ∧ conn'.rxSkb = new ++ conn.rxSkb ∧
      conn'.rcv.nxt = conn.rcv.nxt + UInt32.ofNat ((new.map SkBuff.len).sum +
        if act.countsFin c then 1 else 0) := by
  have hsame : w'.tcpConn c = w.tcpConn c → act.countsFin c = false →
      ∃ conn' new, w'.tcpConn c = some conn' ∧ conn'.rxSkb = new ++ conn.rxSkb ∧
        conn'.rcv.nxt = conn.rcv.nxt + UInt32.ofNat ((new.map SkBuff.len).sum +
          if act.countsFin c then 1 else 0) := by
    intro heq hfin
    refine ⟨conn, [], heq.trans hc, rfl, ?_⟩
    rw [hfin]
    exact (UInt32.add_zero _).symm
  rw [h.tcpConn] at hsame ⊢
  cases act with
  | refuse => exact hsame rfl rfl
  | connect k sock => exact hsame (Function.update_of_ne (Nat.ne_of_lt hlt) _ _) rfl
  | establish c' conn' =>
      by_cases heq : c = c'
      · subst heq
        obtain rfl := Option.some.inj (hc.symm.trans hchecked.2.1)
        exact ⟨_, [], Function.update_self .., rfl, (UInt32.add_zero _).symm⟩
      · exact hsame (Function.update_of_ne heq _ _) rfl
  | deliver c' conn' =>
      by_cases heq : c = c'
      · subst heq
        obtain rfl := Option.some.inj (hc.symm.trans hchecked.2.1)
        exact ⟨_, [skb.segment.pulled tcpHdrSize], Function.update_self .., rfl, rfl⟩
      · exact hsame (Function.update_of_ne heq _ _) rfl
  | close c' conn' fin =>
      by_cases heq : c = c'
      · subst heq
        obtain rfl := Option.some.inj (hc.symm.trans hchecked.2.1)
        refine ⟨_, [], Function.update_self .., rfl, ?_⟩
        cases fin <;> simp [SegmentAct.countsFin]
      · refine hsame (Function.update_of_ne heq _ _) ?_
        rw [SegmentAct.countsFin, beq_eq_false_iff_ne.mpr (Ne.symm heq), Bool.false_and]

/-! ### A call -/

/-- What `rcv` and the queue of a connection are. -/
def TcpConnectionSock.receiving (conn : TcpConnectionSock) : TcpRcv × List SkBuff :=
  (conn.rcv, conn.rxSkb)

/-- Only a received segment changes them while a call works on the network. -/
theorem Change.receiving {sc : Scope} {w w' : World} {c : ConnId} (h : Change sc w w')
    (hto : ∀ skb, ¬ sc.accepts ipProtoTcp skb) :
    (w'.tcpConn c).map TcpConnectionSock.receiving
      = (w.tcpConn c).map TcpConnectionSock.receiving := by
  cases h with
  | sends h => rw [h.tcpConn]
  | forwards _ _ _ _ _ _ _ h => rw [h.tcpConn]
  | flushed _ _ h => rw [h.tcpConn]; rfl
  | connected _ haccepts => exact absurd haccepts (hto _)
  | established _ haccepts => exact absurd haccepts (hto _)
  | delivered _ haccepts => exact absurd haccepts (hto _)
  | finished _ haccepts => exact absurd haccepts (hto _)
  | numbered hc' => exact map_update_of_eq hc' (by rfl) c
  | _ => rfl

/-- `udp_recvfrom` is not about connections. -/
theorem udpRecvfrom_tcpConn (sockfd : Int) (size : Nat) (wantIp wantPort : Bool) :
    Keeps (fun w w' : World => w'.tcpConn = w.tcpConn)
      (udpRecvfrom sockfd size wantIp wantPort) := by
  exact udpRecvfrom_keeps (R := fun w w' : World => w'.tcpConn = w.tcpConn) (fun _ => rfl)
    (fun _ _ _ h h' => h'.trans h) (fun _ _ _ => rfl) (fun _ _ _ _ _ => rfl)
    sockfd size wantIp wantPort

/-- A call that neither handles a frame nor reads from a connection leaves both. -/
theorem receiving_after {op : Op} (hframe : ∀ i frame, op ≠ .recvFrame i frame)
    (hrecv : ∀ fd size, op ≠ .tcpRecv fd size) (w : World) (c : ConnId) :
    ((op.after w).tcpConn c).map TcpConnectionSock.receiving
      = (w.tcpConn c).map TcpConnectionSock.receiving := by
  by_cases hnet : op.Networks
  · have hbegun : op.begun w = w := by
      cases op with
      | recvFrame i frame => exact absurd rfl (hframe i frame)
      | _ => rfl
    have hto : ∀ skb, ¬ (op.scope w).accepts ipProtoTcp skb := by
      cases op with
      | recvFrame i frame => exact absurd rfl (hframe i frame)
      | _ => exact fun _ => id
    refine (Op.changes_after hnet w).induct (I := fun t =>
      (t.tcpConn c).map TcpConnectionSock.receiving
        = (w.tcpConn c).map TcpConnectionSock.receiving) ?_
      (Nat.le_of_eq (Op.base_scope w op)) (by rw [hbegun])
    exact fun t t' ht hchange => (hchange.receiving hto).trans ht
  · by_cases hreads : op.Reads
    · cases op with
      | udpRecvfrom fd size wantIp wantPort =>
          have hsame := udpRecvfrom_tcpConn fd size wantIp wantPort w
          have hafter : (Op.udpRecvfrom fd size wantIp wantPort).after w
              = final (udpRecvfrom fd size wantIp wantPort) w := final_bind_pure ..
          rw [hafter, hsame]
      | tcpRecv fd size => exact absurd rfl (hrecv fd size)
      | _ => exact absurd hreads id
    · rw [(Op.confined_after hnet hreads w).2.frame]

/-- **`tcp_recv` takes from the queue**, and leaves `rcv`. -/
theorem tcpRecv_queue {fd : Int} {size : Nat} {r : Option (List UInt8)} {w w' : World} {c : ConnId}
    {conn : TcpConnectionSock} (hc : w.tcpConn c = some conn)
    (hrun : tcpRecv fd size w = .ok r w') :
    ∃ conn', w'.tcpConn c = some conn' ∧ conn'.rcv = conn.rcv ∧
      conn'.rxSkb.length ≤ conn.rxSkb.length := by
  cases tcpRecv_ok hrun with
  | nothing _ heq => exact ⟨conn, by rw [heq, hc], rfl, Nat.le_refl _⟩
  | @read c' conn₀ skb _ hconn _ hlast _ hfinish =>
      by_cases heq : c = c'
      · subst heq
        obtain rfl := Option.some.inj (hc.symm.trans hconn)
        have hne : conn.rxSkb ≠ [] := by
          intro hnil
          rw [hnil] at hlast
          cases hlast
        have hlen := List.length_pos_of_ne_nil hne
        rcases finishTcpRecv_ok hfinish with ⟨-, rfl⟩ | rfl
        · refine ⟨_, Function.update_self .., rfl, ?_⟩
          rw [List.length_dropLast]
          omega
        · refine ⟨_, Function.update_self .., rfl, ?_⟩
          rw [List.length_append, List.length_dropLast, List.length_singleton]
          omega
      · rcases finishTcpRecv_ok hfinish with ⟨-, rfl⟩ | rfl
        · exact ⟨conn, (Function.update_of_ne heq _ _).trans hc, rfl, Nat.le_refl _⟩
        · exact ⟨conn, (Function.update_of_ne heq _ _).trans hc, rfl, Nat.le_refl _⟩

/-- A received frame counts what its segment does. -/
theorem counted_recvFrame {w w' : World} {i : IntfId} {frame : List UInt8} {r : Ret} {c : ConnId}
    {conn : TcpConnectionSock} (hw : Reachable w) (hrun : runOp (.recvFrame i frame) w = .ok r w')
    (hc : w.tcpConn c = some conn) :
    ∃ conn', w'.tcpConn c = some conn' ∧ conn'.rcv.nxt
      = conn.rcv.nxt + UInt32.ofNat (Call.counted ⟨w, .recvFrame i frame, r, w'⟩ c) := by
  obtain ⟨u, t, hrecv, hdone⟩ := bind_ok_iff.mp hrun
  cases hdone
  have hlt := hw.conn_lt c (by rw [hc]; rfl)
  rcases recvFrame_acted hw.conn_lt hrecv with ⟨htaken, hacted⟩ | ⟨htaken, hacted⟩
  · obtain ⟨conn', new, hc', hqueue, hnxt⟩ :=
      hacted.counts (segmentAct_checked _ _) (Nat.lt_succ_of_lt hlt) hc
    have hqueued : Call.queued ⟨w, .recvFrame i frame, .unit, w'⟩ c = (new.map SkBuff.len).sum := by
      refine Call.queued_of_append ?_
      rw [rxQueue_of_conn hc, rxQueue_of_conn hc', hqueue]
    refine ⟨conn', hc', ?_⟩
    rw [hnxt, Call.counted, hqueued, ← takesFin_eq htaken]
    rfl
  · have hno : ¬ TakenTo w ipProtoTcp (recvBuffer w.nextId i frame) := htaken
    have hc' : w'.tcpConn c = some conn := by
      rw [hacted.tcpConn]
      exact hc
    refine ⟨conn, hc', ?_⟩
    rw [Call.counted_eq_zero]
    · exact (UInt32.add_zero _).symm
    · rw [Call.finished, Call.rx, Option.any_some, takesFin, decide_eq_false hno]
      rfl
    · rw [rxQueue_of_conn hc, rxQueue_of_conn hc']

/-- **What a call counts** for a connection that exists, it adds to `rcv.nxt`. -/
theorem counted_after {w w' : World} {op : Op} {r : Ret} {c : ConnId} {conn : TcpConnectionSock}
    (hw : Reachable w) (hrun : runOp op w = .ok r w') (hc : w.tcpConn c = some conn) :
    ∃ conn', w'.tcpConn c = some conn' ∧
      conn'.rcv.nxt = conn.rcv.nxt + UInt32.ofNat (Call.counted ⟨w, op, r, w'⟩ c) := by
  by_cases hframe : ∃ i frame, op = .recvFrame i frame
  · obtain ⟨i, frame, rfl⟩ := hframe
    exact counted_recvFrame hw hrun hc
  have hframe : ∀ i frame, op ≠ .recvFrame i frame := fun i frame heq => hframe ⟨i, frame, heq⟩
  have hrx : Call.rx ⟨w, op, r, w'⟩ = none := by
    cases op with
    | recvFrame i frame => exact absurd rfl (hframe i frame)
    | _ => rfl
  obtain ⟨conn', hc', hrcv, hlen⟩ : ∃ conn', w'.tcpConn c = some conn' ∧ conn'.rcv = conn.rcv ∧
      conn'.rxSkb.length ≤ conn.rxSkb.length := by
    by_cases hrecv : ∃ fd size, op = .tcpRecv fd size
    · obtain ⟨fd, size, rfl⟩ := hrecv
      obtain ⟨bytes, t, h1, hdone⟩ := bind_ok_iff.mp hrun
      cases hdone
      exact tcpRecv_queue hc h1
    · have hsame := receiving_after hframe (fun fd size heq => hrecv ⟨fd, size, heq⟩) w c
      rw [show op.after w = w' from final_of_ok hrun, hc, Option.map_some] at hsame
      obtain ⟨conn', hc', hpair⟩ := Option.map_eq_some_iff.mp hsame
      obtain ⟨hrcv, hqueue⟩ := Prod.mk.inj hpair
      exact ⟨conn', hc', hrcv, Nat.le_of_eq (congrArg List.length hqueue)⟩
  refine ⟨conn', hc', ?_⟩
  rw [Call.counted_eq_zero (Call.finished_of_rx hrx c), hrcv]
  · exact (UInt32.add_zero _).symm
  · rw [rxQueue_of_conn hc, rxQueue_of_conn hc']
    exact hlen

/-- A call counts nothing for a connection that did not exist before it. -/
theorem counted_of_none {w w' : World} {op : Op} {r : Ret} {c : ConnId} (hw : Reachable w)
    (hrun : runOp op w = .ok r w') (hnone : w.tcpConn c = none) :
    Call.counted ⟨w, op, r, w'⟩ c = 0 ∧
      ∀ conn, w'.tcpConn c = some conn → conn.rcv.nxt = ntohl conn.rcv.irs + 1 := by
  have hfin : Call.finished ⟨w, op, r, w'⟩ c = false := by
    rw [Call.finished, Option.any_eq_false]
    intro skb _
    rw [takesFin, hnone, Option.any_none, Bool.and_false]
  have hqueue : w'.rxQueue c = [] ∧
      ∀ conn, w'.tcpConn c = some conn → conn.rcv.nxt = ntohl conn.rcv.irs + 1 := by
    cases hc' : w'.tcpConn c with
    | none =>
        refine ⟨rxQueue_of_none hc', fun conn hc => ?_⟩
        cases hc
    | some conn =>
        rw [← show op.after w = w' from final_of_ok hrun] at hc'
        obtain ⟨i, frame, k, rfl, -⟩ := opened_of_created hw.connTables hnone hc'
        obtain ⟨u, t, hrecv, hdone⟩ := bind_ok_iff.mp hrun
        cases hdone
        rw [show (Op.recvFrame i frame).after w = w' from final_of_ok hrun] at hc'
        obtain ⟨k', sock, -, -, rfl⟩ := recvFrame_created hw.conn_lt hrecv hnone hc'
        refine ⟨rxQueue_of_conn hc', fun conn hc => ?_⟩
        obtain rfl := Option.some.inj hc
        rfl
  refine ⟨?_, hqueue.2⟩
  refine Call.counted_eq_zero hfin ?_
  rw [hqueue.1]
  exact Nat.zero_le _

/-! ### A run -/

/-- **In every run `rcv.nxt` counts** the SYN, the bytes queued and the FINs. -/
theorem Run.counted {w₀ w : World} {calls : List Call} (hrun : Run w₀ calls w)
    (hinit : Initial w₀) (c : ConnId) :
    (w.tcpConn c = none → received calls c = 0) ∧
      ∀ conn, w.tcpConn c = some conn →
        conn.rcv.nxt = ntohl conn.rcv.irs + 1 + UInt32.ofNat (received calls c) := by
  induction hrun with
  | nil =>
      refine ⟨fun _ => rfl, fun conn hc => ?_⟩
      rw [hinit.tcpConn] at hc
      cases hc
  | @snoc calls t t' op r hcalls _ hop ih =>
      have hreach := hcalls.reachable (.init hinit)
      rw [received_snoc]
      cases hold : t.tcpConn c with
      | none =>
          obtain ⟨hzero, hnew⟩ := counted_of_none hreach hop hold
          rw [ih.1 hold, hzero]
          exact ⟨fun _ => rfl, fun conn hc => (hnew conn hc).trans (UInt32.add_zero _).symm⟩
      | some conn =>
          obtain ⟨conn', hc', hnxt⟩ := counted_after hreach hop hold
          refine ⟨fun hnone => ?_, fun conn'' hc => ?_⟩
          · rw [hnone] at hc'
            cases hc'
          · obtain rfl := Option.some.inj (hc'.symm.trans hc)
            have hopened := opened_after op hreach.connTables (c := c) (by rw [hold]; rfl)
            rw [show op.after t = t' from final_of_ok hop, hc', hold] at hopened
            have hirs : conn'.rcv.irs = conn.rcv.irs :=
              congrArg (fun s => s.rcv.irs) (Option.some.inj hopened)
            rw [hnxt, ih.2 conn hold, hirs, UInt32.ofNat_add, UInt32.add_assoc]

/-- The sequence number field of a SYN is what a connection keeps as `rcv.irs`. -/
theorem Run.opens_irs {w₀ w : World} {calls : List Call} (hrun : Run w₀ calls w)
    (hinit : Initial w₀) {call : Call} (hmem : call ∈ calls) {c : ConnId} {syn : SkBuff}
    (hopens : call.Opens c syn) : ∃ conn, w.tcpConn c = some conn ∧
      conn.rcv.irs = syn.segment.mem.load32 (syn.segment.data + 4) := by
  induction hrun with
  | nil => cases hmem
  | @snoc calls t t' op r hcalls _ hop ih =>
      have htables := (hcalls.reachable (.init hinit)).connTables
      obtain rfl : op.after t = t' := final_of_ok hop
      rcases List.mem_append.mp hmem with hmem | hmem
      · obtain ⟨conn, hold, hirs⟩ := ih hmem
        have hopened := opened_after op htables (c := c) (by rw [hold]; rfl)
        rw [hold, Option.map_some] at hopened
        obtain ⟨conn', hc, heq⟩ := Option.map_eq_some_iff.mp hopened
        exact ⟨conn', hc, (congrArg (fun s => s.rcv.irs) heq).trans hirs⟩
      · obtain rfl := List.mem_singleton.mp hmem
        obtain ⟨hrx, -, hnone, hsome⟩ := hopens
        obtain ⟨conn, hc⟩ := Option.isSome_iff_exists.mp hsome
        obtain ⟨i, frame, k, rfl, -, heq⟩ := opened_of_created htables hnone hc
        obtain rfl := Option.some.inj hrx
        exact ⟨conn, hc, congrArg (fun s => s.rcv.irs) heq⟩

/-- The sequence number of a segment reads the same from both ends. -/
def SkBuff.SeqPalindrome (skb : SkBuff) : Prop :=
  skb.mem (skb.data + 4) = skb.mem (skb.data + 7) ∧ skb.mem (skb.data + 5) = skb.mem (skb.data + 6)

/-- `rcv` of a connection is the books of what was received since its SYN. -/
def Booked (calls : List Call) (c : ConnId) (conn : TcpConnectionSock) (syn : SkBuff) : Prop :=
  conn.rcv.irs = syn.segment.tcpSeq ∧
    conn.rcv.nxt = conn.rcv.irs + 1 + UInt32.ofNat (received calls c)

/-- **The books of a connection are right** exactly when the sequence number of its SYN reads
the same from both ends; `rcv.nxt` always is. -/
theorem receive_bookkeeping {w₀ w : World} {calls : List Call} (hinit : Initial w₀)
    (hrun : Run w₀ calls w) {c : ConnId} {conn : TcpConnectionSock}
    (hc : w.tcpConn c = some conn) :
    (∃ call ∈ calls, ∃ syn, call.Opens c syn) ∧
      ∀ call ∈ calls, ∀ syn, call.Opens c syn →
        conn.rcv.nxt = syn.segment.tcpSeq + 1 + UInt32.ofNat (received calls c) ∧
        (Booked calls c conn syn ↔ syn.segment.SeqPalindrome) := by
  refine ⟨?_, fun call hmem syn hopens => ?_⟩
  · obtain ⟨call, hmem, syn, k, hopens, -⟩ := hrun.opens hinit hc
    exact ⟨call, hmem, syn, hopens⟩
  obtain ⟨conn', hc', hirs⟩ := hrun.opens_irs hinit hmem hopens
  obtain rfl := Option.some.inj (hc.symm.trans hc')
  have hseq : ntohl conn.rcv.irs = syn.segment.tcpSeq := congrArg ntohl hirs
  have hnxt := (hrun.counted hinit c).2 conn hc
  rw [hseq] at hnxt
  refine ⟨hnxt, ?_⟩
  have hbytes := ntohl_load32_eq_self syn.segment.mem (syn.segment.data + 4)
  rw [← hirs, hseq] at hbytes
  constructor
  · intro hbooked
    exact hbytes.mp hbooked.1.symm
  · intro hpalindrome
    have hsame := hbytes.mpr hpalindrome
    exact ⟨hsame.symm, by rw [← hsame]; exact hnxt⟩

/-- The state once a peer sent a SYN with sequence number zero, three bytes and a FIN. -/
def served : World := Fixture.after (Fixture.listen ++
  [.recvFrame 0 (Fixture.tcpFrame 5 0 0x02 []), .recvFrame 0 (Fixture.tcpFrame 5 1 0x10 []),
    .recvFrame 0 (Fixture.tcpFrame 5 1 0x10 [1, 2, 3]), .recvFrame 0 (Fixture.tcpFrame 5 4 0x11 [])])

theorem receive_bookkeeping_fixture :
    ∃ calls conn, Run Fixture.graph calls served ∧ served.tcpConn 2 = some conn ∧
      conn.rcv.nxt = 5 ∧ ∃ call ∈ calls, ∃ syn, call.Opens 2 syn ∧ Booked calls 2 conn syn := by
  have hops : (runOps Fixture.graph (Fixture.configure ++ (Fixture.listen ++
      [.recvFrame 0 (Fixture.tcpFrame 5 0 0x02 []), .recvFrame 0 (Fixture.tcpFrame 5 1 0x10 []),
        .recvFrame 0 (Fixture.tcpFrame 5 1 0x10 [1, 2, 3]),
        .recvFrame 0 (Fixture.tcpFrame 5 4 0x11 [])]))).isSome := by decide +kernel
  have hrcv : (served.tcpConn 2).map (fun conn => (conn.rcv.nxt, conn.rcv.irs)) = some (5, 0) := by
    decide +kernel
  obtain ⟨calls, hrun, -⟩ := Run.of_runOps (Fixture.runOps_after hops)
  change Run Fixture.graph calls served at hrun
  generalize served = w at *
  obtain ⟨conn, hconn, hpair⟩ := Option.map_eq_some_iff.mp hrcv
  obtain ⟨hnxt, hirs⟩ := Prod.mk.inj hpair
  obtain ⟨⟨call, hmem, syn, hopens⟩, hall⟩ :=
    receive_bookkeeping Fixture.graph_initial hrun hconn
  refine ⟨calls, conn, hrun, hconn, hnxt, call, hmem, syn, hopens,
    (hall call hmem syn hopens).2.mpr ?_⟩
  obtain ⟨conn', hconn', hfield⟩ := hrun.opens_irs Fixture.graph_initial hmem hopens
  obtain rfl := Option.some.inj (hconn.symm.trans hconn')
  rw [hirs] at hfield
  refine (ntohl_load32_eq_self _ _).mp ?_
  rw [← hfield]
  decide

/-- **A SYN with sequence number 7 leaves `rcv.irs` at 117440512**, which is 7 in the byte order
of the wire. -/
theorem irs_in_wire_order :
    ∃ calls conn call syn, Run Fixture.graph calls Fixture.answered ∧
      Fixture.answered.tcpConn 2 = some conn ∧ call ∈ calls ∧ call.Opens 2 syn ∧
      syn.segment.tcpSeq = 7 ∧ conn.rcv.irs = 117440512 ∧ ¬ Booked calls 2 conn syn := by
  have hirs : (Fixture.answered.tcpConn 2).map (fun conn => conn.rcv.irs) = some 117440512 := by
    decide +kernel
  obtain ⟨calls, hrun, -⟩ := answered_run
  generalize Fixture.answered = w at *
  obtain ⟨conn, hconn, hirs⟩ := Option.map_eq_some_iff.mp hirs
  obtain ⟨call, hmem, syn, k, hopens, heq⟩ := hrun.opens Fixture.graph_initial hconn
  have hfield : conn.rcv.irs = (syn.opens k).rcv.irs := congrArg (fun s => s.rcv.irs) heq
  have hseq : syn.segment.tcpSeq = ntohl conn.rcv.irs := by
    rw [hfield]
    rfl
  rw [hirs] at hseq
  refine ⟨calls, conn, call, syn, hrun, hconn, hmem, hopens, hseq.trans (by decide), hirs, ?_⟩
  intro hbooked
  rw [Booked, hirs, hseq] at hbooked
  exact absurd hbooked.1 (by decide)

end SimpleTcpip
