/-
The send window.

`snt.una` stays at zero, so the right side of the test in `tcp_out` is the window of the
SYN, and what has been numbered never gets past it: a send that passes the test ends
inside the window, and the SYN's own number is the only one that is not counted in the
test.  `InWindow` is that invariant, with the two facts that keep the test's arithmetic
from wrapping.
-/
import SimpleTcpip.Proofs.Effect
import SimpleTcpip.Proofs.Handshake

namespace SimpleTcpip

open Fallible

/-! ### One segment -/

/-- **What a `tcp_out` did, also when it stopped**: nothing to the connections and no call of
`ip_output`, or it numbered a segment that passed the test and handed over at most that. -/
theorem tcpOut_final (depth : Nat) {c : ConnId} (buff : List UInt8) (flags : TcpFlags) {w : World}
    {conn : TcpConnectionSock} (hconn : w.tcpConn c = some conn) :
    ((final (tcpOut (ipInputDepth depth) c buff flags) w).tcpConn = w.tcpConn ∧
      outputs w (final (tcpOut (ipInputDepth depth) c buff flags) w) = []) ∨
    ∃ parent, exceedsWindow conn buff.length = false ∧
      (final (tcpOut (ipInputDepth depth) c buff flags) w).tcpConn
        = Function.update w.tcpConn c (some (conn.numbered buff.length flags)) ∧
      ∀ p ∈ outputs w (final (tcpOut (ipInputDepth depth) c buff flags) w),
        p = (ipProtoTcp, tcpSegment w.nextId parent conn buff flags) := by
  have halloc : ∀ t : World, t.trace = w.trace ++ [.alloc w.nextId] → outputs w t = [] :=
    fun t ht => outputs_of_trace ht
  cases hparent : w.tcpSock conn.parent with
  | none =>
      -- the buffer was allocated before the socket was looked at
      have hstop : tcpOut (ipInputDepth depth) c buff flags w = .error .useAfterFree w.allocated := by
        unfold tcpOut
        have hderef : derefTcpSock conn.parent w.allocated = .error .useAfterFree w.allocated := by
          unfold derefTcpSock
          rw [run_bind_ok (run_get _), show w.allocated.tcpSock conn.parent = none from hparent]
          rfl
        rw [run_bind_ok (derefTcpConn_ok.mpr ⟨hconn, rfl⟩),
          run_bind_ok (allocSkb_ok.mpr ⟨rfl, rfl⟩)]
        exact run_bind_error hderef
      rw [final_of_error hstop]
      exact Or.inl ⟨rfl, halloc _ rfl⟩
  | some parent =>
      have hrun : tcpOut (ipInputDepth depth) c buff flags w = _ := tcpOut_run hconn hparent
      cases hwin : exceedsWindow conn buff.length with
      | true =>
          rw [hwin, if_pos rfl] at hrun
          rw [final_of_ok hrun]
          exact Or.inl ⟨rfl, halloc _ rfl⟩
      | false =>
          rw [hwin, if_neg Bool.false_ne_true] at hrun
          refine Or.inr ⟨parent, rfl, ?_⟩
          have hfinal : final (tcpOut (ipInputDepth depth) c buff flags) w
              = final (derefIntfPtr parent.intf >>= fun intf =>
                  ipOutput (ipInputDepth depth) intf.node conn.remoteIp ipProtoTcp
                    (tcpSegment w.nextId parent conn buff flags))
                  (w.segmented c conn buff.length flags) := by
            unfold final
            rw [hrun]
          rw [hfinal]
          rcases final_bind_reads (derefIntfPtr_reads parent.intf) _
            (w.segmented c conn buff.length flags) with hstop | ⟨intf, -, heq⟩
          · rw [hstop]
            refine ⟨rfl, ?_⟩
            rw [halloc _ rfl]
            exact fun _ h => (nomatch h)
          rw [heq]
          have hsends : Sends (fun _ => True) (fun _ => True)
              ((w.segmented c conn buff.length flags).output intf.node conn.remoteIp ipProtoTcp
                (tcpSegment w.nextId parent conn buff flags))
              (final (ipOutput (ipInputDepth depth) intf.node conn.remoteIp ipProtoTcp
                (tcpSegment w.nextId parent conn buff flags))
                (w.segmented c conn buff.length flags)) :=
            ipOutput_sends ⟨rfl, trivial⟩ fun _ _ _ _ => trivial
          refine ⟨hsends.tcpConn, ?_⟩
          obtain ⟨es, he, hes⟩ := hsends.trace
          have hnone : es.filterMap Event.output = [] := by
            rw [List.filterMap_eq_nil_iff]
            intro e hmem
            exact output_of_sent (hes e hmem)
          have he' := he.trans (List.append_assoc ..)
          change _ = (w.trace ++ _) ++ _ at he'
          rw [List.append_assoc] at he'
          intro p hp
          rw [outputs_of_trace he', List.filterMap_append, List.filterMap_append, hnone] at hp
          exact List.mem_singleton.mp hp

/-- **What a `tcp_send` did, also when it stopped.** -/
theorem tcpSend_final (connfd : Int) (buff : List UInt8) (w : World) :
    (((Op.tcpSend connfd buff).after w).tcpConn = w.tcpConn ∧
      outputs w ((Op.tcpSend connfd buff).after w) = []) ∨
    ∃ c conn parent, goodTcpConnectionSock w connfd = some c ∧ w.tcpConn c = some conn ∧
      exceedsWindow conn (min buff.length maxTcpPayload) = false ∧
      ((Op.tcpSend connfd buff).after w).tcpConn = Function.update w.tcpConn c
        (some (conn.numbered (min buff.length maxTcpPayload) .onlyAck)) ∧
      ∀ p ∈ outputs w ((Op.tcpSend connfd buff).after w), p = (ipProtoTcp,
        tcpSegment w.nextId parent conn (buff.take (min buff.length maxTcpPayload)) .onlyAck) := by
  have hquiet : outputs w w = [] := outputs_of_trace (List.append_nil _).symm
  have hlen : (buff.take (min buff.length maxTcpPayload)).length
      = min buff.length maxTcpPayload := by
    rw [List.length_take]
    omega
  unfold Op.after
  rw [runOp, final_bind_pure, tcpSend, final_bind_of_ok (run_get w)]
  cases hfd : goodTcpConnectionSock w connfd with
  | none => exact Or.inl ⟨rfl, hquiet⟩
  | some c =>
      dsimp only
      rcases final_bind_reads (derefTcpConn_reads c) _ w with hstop | ⟨conn, hderef, heq⟩
      · rw [hstop]
        exact Or.inl ⟨rfl, hquiet⟩
      · obtain ⟨hconn, -⟩ := derefTcpConn_ok.mp hderef
        rw [heq]
        by_cases hstate : conn.state ≠ .handleEstab
        · rw [if_pos hstate]
          exact Or.inl ⟨rfl, hquiet⟩
        · rw [if_neg hstate, final_bind_pure]
          rcases tcpOut_final callDepth (buff.take (min buff.length maxTcpPayload)) .onlyAck hconn with hnone | hsent
          · exact Or.inl hnone
          · rw [hlen] at hsent
            obtain ⟨parent, hwin, hconns, houts⟩ := hsent
            exact Or.inr ⟨c, conn, parent, rfl, hconn, hwin, hconns, houts⟩

/-! ### The window -/

/-- A send record inside its window, on which `tcp_out` computes without wrapping. -/
structure InWindow (snt : TcpSnt) : Prop where
  una_le : snt.una.toNat ≤ snt.nxt.toNat
  nxt_le : snt.nxt.toNat ≤ max 1 (snt.una.toNat + snt.wnd.toNat)
  /-- The right side of the test is a sum of 32-bit numbers. -/
  edge : (snt.una + snt.wnd.toUInt32).toNat = snt.una.toNat + snt.wnd.toNat
  /-- The left side of the test is a sum of type `size_t`. -/
  size : ∀ size ≤ maxTcpPayload, snt.nxt.toNat + size < 2 ^ 64

/-- The bytes of a segment are numbered below the right edge of a window. -/
def BelowEdge (snt : TcpSnt) (s : SkBuff) : Prop :=
  ∀ j < s.tcpPayload.length,
    (s.tcpSeq + UInt32.ofNat j).toNat < snt.una.toNat + snt.wnd.toNat

theorem inWindow_of_una {snt : TcpSnt} (huna : snt.una = 0)
    (hnxt : snt.nxt.toNat ≤ max 1 snt.wnd.toNat) : InWindow snt := by
  have hwnd : snt.wnd.toNat < 2 ^ 16 := snt.wnd.toNat_lt
  have hzero : snt.una.toNat = 0 := by rw [huna]; rfl
  refine ⟨by omega, by omega, ?_, fun size hsize => ?_⟩
  · rw [huna, UInt32.zero_add]
    simp
  · have hlt := snt.nxt.toNat_lt
    unfold maxTcpPayload at hsize
    omega

/-- The record of a connection a SYN opens. -/
theorem inWindow_opens (skb : SkBuff) (k : SockId) : InWindow (skb.opens k).snt :=
  inWindow_of_una rfl (Nat.zero_le _)

/-- The answer to the SYN is the one segment whose number the test does not count. -/
theorem inWindow_synAck (skb : SkBuff) (k : SockId) :
    InWindow ((skb.opens k).numbered 0 .synAck).snt := by
  have hspan : (0 : UInt32) + seqSpan 0 .synAck = 1 := by decide
  refine inWindow_of_una rfl ?_
  change (0 + seqSpan 0 .synAck : UInt32).toNat ≤ _
  rw [hspan]
  exact Nat.le_max_left ..

/-- A test that is passed leaves room for the whole segment. -/
theorem InWindow.fits {conn : TcpConnectionSock} (h : InWindow conn.snt) {size : Nat}
    (hwin : exceedsWindow conn size = false) :
    conn.snt.nxt.toNat + size ≤ conn.snt.una.toNat + conn.snt.wnd.toNat := by
  rw [exceedsWindow, decide_eq_false_iff_not, Nat.not_lt, h.edge] at hwin
  exact hwin

/-- The sum of a sequence number and a size that fits does not wrap. -/
theorem toNat_add_ofNat {a : UInt32} {n : Nat} (h : a.toNat + n < 2 ^ 32) :
    (a + UInt32.ofNat n).toNat = a.toNat + n := by
  rw [UInt32.toNat_add, UInt32.toNat_ofNat', Nat.add_mod_mod, Nat.mod_eq_of_lt h]

/-- Data that passed the test is numbered inside the window. -/
theorem InWindow.numbered {conn : TcpConnectionSock} (h : InWindow conn.snt)
    (huna : conn.snt.una = 0) {size : Nat} (hwin : exceedsWindow conn size = false) :
    InWindow (conn.numbered size .onlyAck).snt := by
  have hfits := h.fits hwin
  have hwnd : conn.snt.wnd.toNat < 2 ^ 16 := conn.snt.wnd.toNat_lt
  have hzero : conn.snt.una.toNat = 0 := by rw [huna]; rfl
  refine inWindow_of_una huna ?_
  change (conn.snt.nxt + seqSpan size .onlyAck).toNat ≤ max 1 conn.snt.wnd.toNat
  rw [seqSpan_onlyAck, toNat_add_ofNat (by omega)]
  omega

/-- The bytes of data that passed the test have numbers below the edge. -/
theorem InWindow.belowEdge {conn : TcpConnectionSock} (h : InWindow conn.snt)
    (huna : conn.snt.una = 0) {size : Nat} (hwin : exceedsWindow conn size = false) {s : SkBuff}
    (hseq : s.tcpSeq = conn.snt.nxt) (hlen : s.tcpPayload.length ≤ size) :
    BelowEdge conn.snt s := by
  intro j hj
  have hfits := h.fits hwin
  have hwnd : conn.snt.wnd.toNat < 2 ^ 16 := conn.snt.wnd.toNat_lt
  have hzero : conn.snt.una.toNat = 0 := by rw [huna]; rfl
  rw [hseq, toNat_add_ofNat (by omega)]
  omega

/-! ### Runs -/

/-- A call that completes creates connections inside their windows. -/
theorem inWindow_created {w w' : World} {op : Op} {r : Ret} (hw : Reachable w)
    (hrun : runOp op w = .ok r w') {c : ConnId} {conn : TcpConnectionSock}
    (hnone : w.tcpConn c = none) (hc : w'.tcpConn c = some conn) : InWindow conn.snt := by
  have hafter : op.after w = w' := final_of_ok hrun
  obtain ⟨i, frame, -, rfl, -, -⟩ := opened_of_created hw.connTables hnone (hafter ▸ hc)
  obtain ⟨u, t, hframe, hpure⟩ := bind_ok_iff.mp hrun
  cases hpure
  obtain ⟨k, -, -, -, rfl⟩ := recvFrame_created hw.connTables.connLt hframe hnone hc
  exact inWindow_synAck _ k

/-- **In every state a run passes through, every connection is inside its window.** -/
theorem Reachable.inWindow {w : World} (h : Reachable w) :
    ∀ c conn, w.tcpConn c = some conn → InWindow conn.snt := by
  induction h with
  | init hinit =>
      intro c conn hc
      rw [hinit.tcpConn] at hc
      cases hc
  | @step w w' op r hw hv hrun ih =>
      intro c conn hc
      have hafter : op.after w = w' := final_of_ok hrun
      cases hold : w.tcpConn c with
      | none => exact inWindow_created hw hrun hold hc
      | some conn₀ =>
          by_cases hsender : (op.scope w).sender c
          · cases op with
            | tcpSend connfd buff =>
                rw [← hafter] at hc
                rcases tcpSend_final connfd buff w with
                  ⟨hsame, -⟩ | ⟨c', conn', parent, -, hlive, hwin, hconns, -⟩
                · rw [hsame] at hc
                  exact ih c conn hc
                · rw [hconns] at hc
                  exact forall_update (P := fun conn => InWindow conn.snt)
                    ((ih c' conn' hlive).numbered (hw.handshaking c' conn' hlive).1 hwin) ih c
                    conn hc
            | _ => exact absurd hsender id
          · have hsnt := snt_after op (hw.conn_lt c (by rw [hold]; rfl)) hsender
            rw [hafter, hc, hold] at hsnt
            rw [show conn.snt = conn₀.snt from Option.some.inj hsnt]
            exact ih c conn₀ hold

/-- A segment a call hands to `ip_output` carries no data, or it is a `tcp_send` and its data
is below the edge of the window of its connection. -/
def StaysBelow (w : World) (op : Op) (s : SkBuff) : Prop :=
  s.tcpPayload = [] ∨ ∃ connfd buff c conn, op = .tcpSend connfd buff ∧
    goodTcpConnectionSock w connfd = some c ∧ w.tcpConn c = some conn ∧
    s.tcpSeq = conn.snt.nxt ∧ BelowEdge conn.snt s

theorem Reachable.staysBelow {w : World} (h : Reachable w) (op : Op) :
    ∀ s, (ipProtoTcp, s) ∈ outputs w (op.after w) → StaysBelow w op s := by
  intro s hs
  by_cases hop : ∃ c, (op.scope w).sender c
  · obtain ⟨c₀, hc₀⟩ := hop
    cases op with
    | tcpSend connfd buff =>
        rcases tcpSend_final connfd buff w with
          ⟨-, hnone⟩ | ⟨c, conn, parent, hfd, hlive, hwin, -, houts⟩
        · rw [hnone] at hs
          cases hs
        · obtain ⟨-, rfl⟩ := Prod.mk.inj (houts _ hs)
          refine Or.inr ⟨connfd, buff, c, conn, rfl, hfd, hlive, tcpSeq_tcpSegment .., ?_⟩
          refine (h.inWindow c conn hlive).belowEdge (h.handshaking c conn hlive).1 hwin
            (tcpSeq_tcpSegment ..) ?_
          rw [tcpPayload_tcpSegment, List.length_take]
          exact Nat.min_le_left ..
    | _ => exact absurd hc₀ id
  · exact Or.inl (outputs_noData (fun c hc => hop ⟨c, hc⟩) _ hs rfl)

/--
**The send window is safe.**  In every state a run passes through every connection is
inside its window, the one a SYN is about to open included, so that the test in `tcp_out`
never wraps; and whatever a call hands to `ip_output` from there, also when it stops, has
no data at or beyond the edge.
-/
theorem send_window {w : World} (h : Reachable w) :
    (∀ c conn, w.tcpConn c = some conn → InWindow conn.snt) ∧
      (∀ (skb : SkBuff) (k : SockId), InWindow (skb.opens k).snt) ∧
      ∀ op s, (ipProtoTcp, s) ∈ outputs w (Op.after op w) → StaysBelow w op s :=
  ⟨h.inWindow, inWindow_opens, h.staysBelow⟩

theorem send_window_fixture :
    (∀ c conn, Fixture.connected.tcpConn c = some conn → InWindow conn.snt) ∧
      ∀ s, (ipProtoTcp, s) ∈ outputs Fixture.connected
        ((Op.tcpSend 0 [1, 2, 3]).after Fixture.connected) →
        StaysBelow Fixture.connected (.tcpSend 0 [1, 2, 3]) s := by
  have hreach := Fixture.connected_reachable
  generalize Fixture.connected = w at *
  have hwindow := send_window hreach
  exact ⟨hwindow.1, hwindow.2.2 (.tcpSend 0 [1, 2, 3])⟩

end SimpleTcpip
