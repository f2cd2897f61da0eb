/-
When `tcp_send` tells the truth.

A segment that fits the window is handed to `ip_output` once, with the bytes the caller
gave and the next sequence number, and the numbers are counted.  A segment that does
not fit is dropped, and the caller is told that all of it was sent: the `-1` of
`tcp_out` is converted to `true`.  So the window test is exactly what decides, and a
run whose sends all pass it emits one contiguous stream.
-/
import SimpleTcpip.Model.Fixture
import SimpleTcpip.Proofs.Calls
import SimpleTcpip.Proofs.Segment

namespace SimpleTcpip

open Fallible

/-! ### One call -/

/-- The packet an event hands to `ip_output`, with its protocol. -/
def Event.output : Event → Option (UInt8 × SkBuff)
  | .ipOutput _ _ proto s => some (proto, s)
  | _ => none

/-- The packets a run hands to `ip_output`, in order. -/
def outputs (w w' : World) : List (UInt8 × SkBuff) := (newEvents w w').filterMap Event.output

/-- The bytes of one call that `tcp_send` tries to send fit the window. -/
def FitsWindow (w : World) (connfd : Int) (buff : List UInt8) : Prop :=
  ∃ c conn, goodTcpConnectionSock w connfd = some c ∧ w.tcpConn c = some conn ∧
    exceedsWindow conn (min buff.length maxTcpPayload) = false

/-- One segment went out, with the first `n` bytes of a buffer and the next sequence
number of a connection, and `n` numbers were counted. -/
def SentSegment (w w' : World) (c : ConnId) (buff : List UInt8) (n : Nat) : Prop :=
  n ≤ buff.length ∧ ∃ conn s, w.tcpConn c = some conn ∧ outputs w w' = [(ipProtoTcp, s)] ∧
    s.tcpPayload = buff.take n ∧ s.tcpSeq = conn.snt.nxt ∧
    w'.tcpConn c = some { conn with snt := { conn.snt with nxt := conn.snt.nxt + UInt32.ofNat n } }

theorem outputs_of_trace {w w' : World} {es : List Event} (h : w'.trace = w.trace ++ es) :
    outputs w w' = es.filterMap Event.output := by
  rw [outputs, newEvents_append h]

theorem output_of_sent {K : SkBuff → Prop} {L : SkbId → Prop} {e : Event} (h : e.Sent K L) :
    e.output = none := by
  cases e with
  | ipOutput n ip proto s => exact absurd h id
  | _ => rfl

/-- `ip_output` is called once for a segment that fits. -/
theorem tcpOut_sent {depth : Nat} {c : ConnId} {buff : List UInt8} {flags : TcpFlags} {w w' : World}
    {conn : TcpConnectionSock} {parent : TcpSock} {r : Bool} (hconn : w.tcpConn c = some conn)
    (hparent : w.tcpSock conn.parent = some parent)
    (hwin : exceedsWindow conn buff.length = false)
    (hrun : tcpOut (ipInputDepth depth) c buff flags w = .ok r w') :
    outputs w w' = [(ipProtoTcp, tcpSegment w.nextId parent conn buff flags)] ∧
      w'.tcpConn = Function.update w.tcpConn c (some (conn.numbered buff.length flags)) := by
  rw [tcpOut_run hconn hparent, hwin] at hrun
  obtain ⟨intf, t, hderef, hout⟩ := bind_ok_iff.mp hrun
  obtain ⟨-, rfl⟩ := derefIntfPtr_ok.mp hderef
  have hsends : Sends (fun _ => True) (fun _ => True)
      ((w.segmented c conn buff.length flags).output intf.node conn.remoteIp ipProtoTcp
        (tcpSegment w.nextId parent conn buff flags)) w' := by
    rw [← final_of_ok hout]
    exact ipOutput_sends ⟨rfl, trivial⟩ fun _ _ _ _ => trivial
  obtain ⟨es, he, hes⟩ := hsends.trace
  have hnone : es.filterMap Event.output = [] := by
    rw [List.filterMap_eq_nil_iff]
    intro e hmem
    exact output_of_sent (hes e hmem)
  have he' : w'.trace = w.trace ++ ([.alloc w.nextId, .ipOutput intf.node conn.remoteIp ipProtoTcp
      (tcpSegment w.nextId parent conn buff flags)] ++ es) := by
    rw [he, ← List.append_assoc, List.append_cons]
    rfl
  refine ⟨?_, hsends.tcpConn⟩
  rw [outputs_of_trace he', List.filterMap_append, hnone, List.append_nil]
  rfl

/-- **What a `tcp_send` that returns a size did.** -/
theorem tcpSend_cases {depth : Nat} {connfd n : Int} {buff : List UInt8} {w w' : World}
    (hrun : tcpSend (ipInputDepth depth) connfd buff w = .ok n w') (hn : 0 ≤ n) :
    ∃ c conn, goodTcpConnectionSock w connfd = some c ∧ w.tcpConn c = some conn ∧
      n = min buff.length maxTcpPayload ∧
      if exceedsWindow conn (min buff.length maxTcpPayload) then w' = w.allocated
      else SentSegment w w' c buff (min buff.length maxTcpPayload) := by
  obtain ⟨t, t', hget, hrest⟩ := bind_ok_iff.mp hrun
  cases hget
  cases hfd : goodTcpConnectionSock w connfd with
  | none =>
      rw [hfd] at hrest
      cases hrest
      exact absurd hn (by decide)
  | some c =>
      rw [hfd] at hrest
      obtain ⟨conn, t1, hderef, hbody⟩ := bind_ok_iff.mp hrest
      obtain ⟨hconn, rfl⟩ := derefTcpConn_ok.mp hderef
      by_cases hstate : conn.state ≠ .handleEstab
      · rw [if_pos hstate] at hbody
        cases hbody
        exact absurd hn (by decide)
      · rw [if_neg hstate] at hbody
        obtain ⟨result, t', hout, hret⟩ := bind_ok_iff.mp hbody
        obtain ⟨parent, hparent⟩ := tcpOut_parent hconn hout
        have hlen : (buff.take (min buff.length maxTcpPayload)).length
            = min buff.length maxTcpPayload := by
          rw [List.length_take]
          omega
        have hres : result = true ∧ n = (min buff.length maxTcpPayload : Nat) ∧ w' = t' := by
          obtain ⟨hval, rfl⟩ := EStateM.Result.ok.inj hret
          cases result with
          | false =>
              rw [← hval, if_neg (by decide)] at hn
              exact absurd hn (by decide)
          | true => exact ⟨rfl, hval.symm, rfl⟩
        obtain ⟨rfl, rfl, rfl⟩ := hres
        refine ⟨c, conn, rfl, hconn, by omega, ?_⟩
        cases hwin : exceedsWindow conn (min buff.length maxTcpPayload) with
        | true =>
            rw [tcpOut_run hconn hparent, hlen, hwin] at hout
            exact (EStateM.Result.ok.inj hout).2.symm
        | false =>
            obtain ⟨houts, hconns⟩ := tcpOut_sent hconn hparent (by rw [hlen]; exact hwin) hout
            refine ⟨Nat.min_le_left _ _, conn, _, hconn, houts, tcpPayload_tcpSegment ..,
              tcpSeq_tcpSegment .., ?_⟩
            rw [hconns, Function.update_self, hlen, TcpConnectionSock.numbered, seqSpan_onlyAck]

/-- The window test decides whether a `tcp_send` that returns a size sent anything. -/
theorem sentSegment_iff {connfd n : Int} {buff : List UInt8} {w w' : World}
    (hrun : runOp (.tcpSend connfd buff) w = .ok (.int n) w') (hn : 0 ≤ n) :
    (∃ c, goodTcpConnectionSock w connfd = some c ∧ SentSegment w w' c buff n.toNat) ↔
      FitsWindow w connfd buff := by
  obtain ⟨r, t, hsend, hret⟩ := bind_ok_iff.mp hrun
  cases hret
  obtain ⟨c, conn, hfd, hconn, hsize, hdid⟩ := tcpSend_cases hsend hn
  have hsize' : n.toNat = min buff.length maxTcpPayload := by omega
  rw [hsize']
  cases hwin : exceedsWindow conn (min buff.length maxTcpPayload) with
  | true =>
      rw [if_pos hwin] at hdid
      refine iff_of_false ?_ ?_
      · intro h
        obtain ⟨c', -, -, conn', s, -, houts, -⟩ := h
        have htrace : w'.trace = w.trace ++ [.alloc w.nextId] := by rw [hdid]; rfl
        rw [outputs_of_trace htrace] at houts
        cases houts
      · intro h
        obtain ⟨c', conn', hfd', hconn', hfits⟩ := h
        obtain rfl : c = c' := Option.some.inj (hfd.symm.trans hfd')
        obtain rfl : conn = conn' := Option.some.inj (hconn.symm.trans hconn')
        rw [hwin] at hfits
        cases hfits
  | false =>
      rw [if_neg (by rw [hwin]; decide)] at hdid
      exact iff_of_true ⟨c, hfd, hdid⟩ ⟨c, conn, hfd, hconn, hwin⟩

/-! ### Runs -/

/-- The buffer a call sends on a connection. -/
def Call.sendsOn (c : ConnId) (call : Call) : Option (List UInt8) :=
  match call.op with
  | .tcpSend connfd buff =>
      if goodTcpConnectionSock call.before connfd = some c then some buff else none
  | _ => none

/-- The size a call returned. -/
def Call.result (call : Call) : Int :=
  match call.ret with
  | .int n => n
  | _ => -1

/-- The segments a call emitted for a connection. -/
def Call.emitted (c : ConnId) (call : Call) : List SkBuff :=
  if (call.sendsOn c).isSome then (outputs call.before call.after).map Prod.snd else []

/-- The bytes a call accepted for a connection. -/
def Call.accepted (c : ConnId) (call : Call) : List UInt8 :=
  ((call.sendsOn c).getD []).take call.result.toNat

/-- Each segment starts where the one before it ended. -/
def Contiguous : UInt32 → List SkBuff → Prop
  | _, [] => True
  | seq, s :: rest => s.tcpSeq = seq ∧ Contiguous (seq + UInt32.ofNat s.tcpPayload.length) rest

theorem contiguous_append {seq : UInt32} {l : List SkBuff} {s : SkBuff} (h : Contiguous seq l)
    (hs : s.tcpSeq = seq + UInt32.ofNat (l.flatMap SkBuff.tcpPayload).length) :
    Contiguous seq (l ++ [s]) := by
  induction l generalizing seq with
  | nil =>
      refine ⟨?_, trivial⟩
      rw [hs]
      exact UInt32.add_zero seq
  | cons t l ih =>
      refine ⟨h.1, ih h.2 ?_⟩
      rw [hs, List.flatMap_cons, List.length_append, UInt32.ofNat_add, UInt32.add_assoc]

/-- A call that sends on a connection is a `tcp_send` on one of its descriptors. -/
theorem sendsOn_eq_some {c : ConnId} {call : Call} {buff : List UInt8}
    (h : call.sendsOn c = some buff) :
    ∃ connfd, call.op = .tcpSend connfd buff ∧
      goodTcpConnectionSock call.before connfd = some c := by
  obtain ⟨w, op, r, w'⟩ := call
  cases op with
  | tcpSend connfd buff' =>
      simp only [Call.sendsOn] at h
      split at h
      · rename_i hfd
        cases h
        exact ⟨connfd, rfl, hfd⟩
      · cases h
  | _ => cases h

theorem sender_sendsOn {c : ConnId} {w w' : World} {op : Op} {r : Ret}
    (h : (op.scope w).sender c) : (Call.sendsOn c ⟨w, op, r, w'⟩).isSome := by
  cases op with
  | tcpSend connfd buff =>
      have hfd : goodTcpConnectionSock w connfd = some c := h
      simp only [Call.sendsOn, if_pos hfd]
      rfl
  | _ => exact absurd h id

/-- A call meets the window test if it is a `tcp_send`. -/
def Call.Fits (call : Call) : Prop :=
  match call.op with
  | .tcpSend connfd buff => FitsWindow call.before connfd buff
  | _ => True

/-- **In a run whose sends on a connection fit the window and do not fail, the segments
are the stream the callers gave.** -/
theorem Run.stream {w₀ w : World} {calls : List Call} {c : ConnId} {conn₀ : TcpConnectionSock}
    (hrun : Run w₀ calls w) (hw : Reachable w₀) (hconn : w₀.tcpConn c = some conn₀)
    (hsends : ∀ call ∈ calls, (call.sendsOn c).isSome → call.Fits ∧ 0 ≤ call.result) :
    Contiguous conn₀.snt.nxt (calls.flatMap (Call.emitted c)) ∧
      (calls.flatMap (Call.emitted c)).flatMap SkBuff.tcpPayload
        = calls.flatMap (Call.accepted c) ∧
      ∃ conn, w.tcpConn c = some conn ∧
        conn.snt.nxt = conn₀.snt.nxt + UInt32.ofNat (calls.flatMap (Call.accepted c)).length := by
  induction hrun with
  | nil => exact ⟨trivial, rfl, conn₀, hconn, (UInt32.add_zero _).symm⟩
  | @snoc calls t t' op r hcalls hv hop ih =>
      have hlast := hsends ⟨t, op, r, t'⟩ (List.mem_append_right _ List.mem_cons_self)
      obtain ⟨hseq, hbytes, conn, hc, hnxt⟩ :=
        ih fun call hmem => hsends call (List.mem_append_left _ hmem)
      simp only [List.flatMap_append, List.flatMap_singleton]
      cases hon : Call.sendsOn c ⟨t, op, r, t'⟩ with
      | none =>
          have hemitted : Call.emitted c ⟨t, op, r, t'⟩ = [] := by
            rw [Call.emitted, hon]
            rfl
          have haccepted : Call.accepted c ⟨t, op, r, t'⟩ = [] := by
            rw [Call.accepted, hon]
            exact List.take_nil
          rw [hemitted, haccepted, List.append_nil, List.append_nil, List.flatMap_nil,
            List.append_nil]
          have hlt : c < t.nextId := (hcalls.reachable hw).conn_lt c (by rw [hc]; rfl)
          have hother : ¬ (op.scope t).sender c := by
            intro hsender
            have hsome : (Call.sendsOn c ⟨t, op, r, t'⟩).isSome := sender_sendsOn hsender
            rw [hon] at hsome
            cases hsome
          have hsnt := snt_after op hlt hother
          rw [Op.after, final_of_ok hop, hc] at hsnt
          obtain ⟨conn', hc', hsame⟩ := Option.map_eq_some_iff.mp hsnt
          exact ⟨hseq, hbytes, conn', hc', by rw [hsame, hnxt]⟩
      | some buff =>
          obtain ⟨connfd, rfl, hfd⟩ := sendsOn_eq_some hon
          obtain ⟨hfits, hres⟩ := hlast (by rw [hon]; rfl)
          obtain ⟨n, rfl⟩ : ∃ n, r = .int n := by
            cases r with
            | int n => exact ⟨n, rfl⟩
            | _ => exact absurd (show (0 : Int) ≤ -1 from hres) (by decide)
          obtain ⟨c', hfd', hle, conn', s, hc', houts, hpayload, hnum, hafter⟩ :=
            (sentSegment_iff hop hres).mpr hfits
          obtain rfl : c = c' := Option.some.inj (hfd.symm.trans hfd')
          obtain rfl : conn = conn' := Option.some.inj (hc.symm.trans hc')
          have hemitted : Call.emitted c ⟨t, .tcpSend connfd buff, .int n, t'⟩ = [s] := by
            rw [Call.emitted, hon, if_pos (by rfl)]
            show (outputs t t').map Prod.snd = [s]
            rw [houts]
            rfl
          have haccepted : Call.accepted c ⟨t, .tcpSend connfd buff, .int n, t'⟩ = s.tcpPayload := by
            rw [Call.accepted, hon, hpayload]
            rfl
          have hsize : s.tcpPayload.length = n.toNat := by
            rw [hpayload, List.length_take, Nat.min_eq_left hle]
          rw [hemitted, haccepted, List.flatMap_singleton, hbytes]
          refine ⟨contiguous_append hseq ?_, rfl, _, hafter, ?_⟩
          · rw [hnum, hbytes]
            exact hnxt
          · rw [List.length_append, hsize, UInt32.ofNat_add, ← UInt32.add_assoc, ← hnxt]

/-- No other call hands data to `ip_output` as TCP, also when it stops with a fault. -/
theorem outputs_noData {w : World} {op : Op} (hop : ∀ c, ¬ (op.scope w).sender c) :
    ∀ p ∈ outputs w (op.after w), p.1 = ipProtoTcp → p.2.tcpPayload = [] := by
  have hnone : ∀ s : SkBuff, s.len = tcpHdrSize → s.tcpPayload = [] := by
    intro s hs
    rw [SkBuff.tcpPayload, hs, Nat.sub_self, Memory.read_zero]
  intro p hp htcp
  rcases runOp_cases op w with hchanges | ⟨-, hquiet⟩
  · have hcov : Covers (op.scope w) (op.begun w) (op.after w).nextId fun _ => True :=
      ⟨fun _ _ _ => trivial, fun _ _ _ _ _ _ _ _ _ _ _ _ => trivial, fun _ _ _ => trivial⟩
    obtain ⟨⟨es, he, hes⟩, -⟩ := hchanges.records (Nat.le_of_eq (Op.base_scope w op)) hcov
    obtain ⟨es₀, he₀, hes₀⟩ : ∃ es₀, (op.begun w).trace = w.trace ++ es₀ ∧
        es₀.filterMap Event.output = [] := by
      cases op with
      | recvFrame i frame => exact ⟨_, rfl, rfl⟩
      | _ => exact ⟨[], (List.append_nil _).symm, rfl⟩
    rw [he₀, List.append_assoc] at he
    rw [outputs_of_trace he, List.filterMap_append, hes₀, List.nil_append] at hp
    obtain ⟨e, hmem, hout⟩ := List.mem_filterMap.mp hp
    have hof := hes e hmem
    cases e with
    | ipOutput n ip proto s =>
        cases hout
        obtain ⟨c, hc⟩ | hlen := hof htcp
        · exact absurd hc (hop c)
        · exact hnone s hlen
    | _ => cases hout
  · obtain ⟨es, he, hes⟩ := hquiet.trace
    rw [outputs_of_trace he] at hp
    obtain ⟨e, hmem, hout⟩ := List.mem_filterMap.mp hp
    have hq := hes e hmem
    cases e with
    | ipOutput n ip proto s => exact absurd hq id
    | _ => cases hout

/--
**`tcp_send` tells the truth exactly when the segment fits the window.**  One call that
returns a size sent that many bytes, in one segment with the next sequence number, if
and only if it passed the test.  In a run whose sends on a connection pass it and do not
fail, the segments are contiguous and carry just what was accepted, and no call but a
`tcp_send` hands data to `ip_output`.
-/
theorem tcpSend_honest (w w' : World) :
    (∀ (connfd n : Int) (buff : List UInt8),
      runOp (.tcpSend connfd buff) w = .ok (.int n) w' → 0 ≤ n →
        ((∃ c, goodTcpConnectionSock w connfd = some c ∧ SentSegment w w' c buff n.toNat) ↔
          FitsWindow w connfd buff)) ∧
    (∀ (w₀ : World) (calls : List Call) (c : ConnId) (conn₀ : TcpConnectionSock),
      Reachable w₀ → Run w₀ calls w → w₀.tcpConn c = some conn₀ →
      (∀ call ∈ calls, (call.sendsOn c).isSome → call.Fits ∧ 0 ≤ call.result) →
        Contiguous conn₀.snt.nxt (calls.flatMap (Call.emitted c)) ∧
          (calls.flatMap (Call.emitted c)).flatMap SkBuff.tcpPayload
            = calls.flatMap (Call.accepted c) ∧
          ∃ conn, w.tcpConn c = some conn ∧ conn.snt.nxt
            = conn₀.snt.nxt + UInt32.ofNat (calls.flatMap (Call.accepted c)).length) ∧
    (∀ (op : Op) (r : Ret), runOp op w = .ok r w' →
      (∀ connfd buff, op ≠ .tcpSend connfd buff) →
        ∀ p ∈ outputs w w', p.1 = ipProtoTcp → p.2.tcpPayload = []) := by
  refine ⟨fun connfd n buff => sentSegment_iff, fun w₀ calls c conn₀ hw hrun hconn hsends =>
    hrun.stream hw hconn hsends, fun op r hrun hop => ?_⟩
  rw [← show op.after w = w' from final_of_ok hrun]
  refine outputs_noData fun c hsender => ?_
  cases op with
  | tcpSend connfd buff => exact hop connfd buff rfl
  | _ => exact hsender

theorem tcpSend_honest_fixture :
    (∃ c, goodTcpConnectionSock Fixture.connected 0 = some c ∧ SentSegment Fixture.connected
      ((Op.tcpSend 0 [1, 2, 3]).after Fixture.connected) c [1, 2, 3] 3) ∧
    ∃ conn, Fixture.connected.tcpConn 2 = some conn ∧ Contiguous conn.snt.nxt
      (Call.emitted 2 ⟨Fixture.connected, .tcpSend 0 [1, 2, 3], .int 3,
        (Op.tcpSend 0 [1, 2, 3]).after Fixture.connected⟩) := by
  have hreach := Fixture.connected_reachable
  have hreturns : (Op.tcpSend 0 [1, 2, 3]).returns Fixture.connected = some (.int 3) := by
    decide +kernel
  have hrun := Op.returns_run hreturns
  have hfd : goodTcpConnectionSock Fixture.connected 0 = some 2 := by decide +kernel
  have hwin : (Fixture.connected.tcpConn 2).any (fun conn => !exceedsWindow conn 3) = true := by
    decide +kernel
  -- from here on the state is only known by these facts
  generalize Fixture.connected = w at *
  generalize (Op.tcpSend 0 [1, 2, 3]).after w = w' at *
  obtain ⟨conn, hconn, hnot⟩ := (Option.any_eq_true _ _).mp hwin
  have hwin : exceedsWindow conn 3 = false := by simpa using hnot
  have hfits : FitsWindow w 0 [1, 2, 3] := ⟨2, conn, hfd, hconn, hwin⟩
  have hvalid : (Op.tcpSend 0 [1, 2, 3]).Valid w := trivial
  refine ⟨((tcpSend_honest w w').1 _ _ _ hrun (by decide)).mpr hfits, conn, hconn, ?_⟩
  have hstream := ((tcpSend_honest w' w').2.1 _ _ 2 conn hreach (Run.nil.snoc hvalid hrun) hconn ?_).1
  · rw [List.nil_append, List.flatMap_singleton] at hstream
    exact hstream
  · intro call hmem _
    obtain rfl := List.mem_singleton.mp hmem
    exact ⟨hfits, Int.natCast_nonneg 3⟩

/-- **250 bytes into a window of 200 are reported as sent**, and nothing is sent. -/
theorem tcpSend_beyond_window :
    Reachable Fixture.connected ∧
      (Op.tcpSend 0 (List.replicate 250 7)).returns Fixture.connected = some (.int 250) ∧
      (outputs Fixture.connected
        ((Op.tcpSend 0 (List.replicate 250 7)).after Fixture.connected)).length = 0 :=
  ⟨Fixture.connected_reachable, by decide +kernel, by decide +kernel⟩
end SimpleTcpip
