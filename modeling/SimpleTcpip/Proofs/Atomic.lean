/-
What a failed `tcp_send` leaves behind.

`tcp_out` counts the bytes of a segment before it hands the segment to `ip_output`, and
nothing takes them back when `ip_output` fails.  The failures before that, and a segment
without data, change nothing.
-/
import SimpleTcpip.Proofs.Outcome
import SimpleTcpip.Proofs.Send

namespace SimpleTcpip

open Fallible

/-- No segment was emitted or queued, and no connection's send record changed. -/
structure Atomic (w w' : World) : Prop where
  unsent : ∀ i frame, Event.sent i frame ∉ newEvents w w'
  queues : w'.arpTable = w.arpTable ∧ w'.udpSock = w.udpSock ∧
    ∀ c, (w'.tcpConn c).map TcpConnectionSock.rxSkb = (w.tcpConn c).map TcpConnectionSock.rxSkb
  snt : ∀ c, (w'.tcpConn c).map TcpConnectionSock.snt = (w.tcpConn c).map TcpConnectionSock.snt

theorem Atomic.refl (w : World) : Atomic w w := by
  refine ⟨fun i frame h => ?_, ⟨rfl, rfl, fun _ => rfl⟩, fun _ => rfl⟩
  rw [newEvents_append (List.append_nil _).symm] at h
  cases h

/-- A segment of a connection is taken where it goes: the route is by the interface the socket
is bound to, it does not lead back to the node, and the next hop's queue or the link accepts. -/
def SegmentOk (w : World) (n : NodeId) (parent : TcpSock) (conn : TcpConnectionSock) : Prop :=
  ∃ rt, rtLookupLpm (w.rtTable n) conn.remoteIp = some rt ∧ parent.intf = some rt.intf ∧
    isIpLocal w n conn.remoteIp = false ∧ NeighbourOk w n rt conn.remoteIp

/-- A call of `tcp_send` fails before anything was counted, has nothing to count, or succeeds. -/
def SendOk (w : World) (connfd : Int) (buff : List UInt8) : Prop :=
  ∀ c conn, goodTcpConnectionSock w connfd = some c → w.tcpConn c = some conn →
    conn.state = .handleEstab → buff ≠ [] →
    exceedsWindow conn (min buff.length maxTcpPayload) = false →
    ∃ parent i intf, w.tcpSock conn.parent = some parent ∧ parent.intf = some i ∧
      w.intf i = some intf ∧ SegmentOk w intf.node parent conn

section Out

variable {w w' : World} {depth : Nat} {c : ConnId} {buff : List UInt8} {flags : TcpFlags} {r : Bool}
  {conn : TcpConnectionSock} {parent : TcpSock}

/-- `tcp_out` of a segment that fits: the bytes are counted, and the result is that of
`ip_output`. -/
theorem tcpOut_reports (hconn : w.tcpConn c = some conn)
    (hparent : w.tcpSock conn.parent = some parent)
    (hwin : exceedsWindow conn buff.length = false)
    (hrun : tcpOut (ipInputDepth depth) c buff flags w = .ok r w') :
    ∃ i intf, parent.intf = some i ∧ w.intf i = some intf ∧
      Reports (SegmentOk w intf.node parent conn) r (w.segmented c conn buff.length flags) w' := by
  rw [tcpOut_run hconn hparent, hwin, if_neg Bool.false_ne_true] at hrun
  obtain ⟨intf, hderef, hout⟩ := bind_ok_of_eq (derefIntfPtr_reads _) hrun
  obtain ⟨⟨i, hi, hintf⟩, -⟩ := derefIntfPtr_ok.mp hderef
  refine ⟨i, intf, hi, hintf, (ipOutput_reports (tcpSegment_ipHdr ..) hout).congr ?_⟩
  unfold OutputOk SegmentOk
  rw [tcpSegment_intf, hi]
  refine exists_congr fun rt => and_congr_right fun _ => ?_
  have hlocal : ¬ LocalOk (w.segmented c conn buff.length flags) rt.intf ipProtoTcp
      (tcpSegment w.nextId parent conn buff flags) := by
    rintro (⟨h, -⟩ | ⟨h, -⟩)
    · exact absurd h (by decide)
    · exact absurd h (by decide)
  change (some i = none ∨ some i = some rt.intf) ∧ (if isIpLocal w intf.node conn.remoteIp = true
    then _ else NeighbourOk w intf.node rt conn.remoteIp) ↔ _
  cases hisLocal : isIpLocal w intf.node conn.remoteIp with
  | true => simp [hlocal]
  | false => simp

end Out

/-- What a `tcp_send` does on an established connection. -/
theorem tcpSend_run {connfd : Int} {buff : List UInt8} {w : World} {c : ConnId}
    {conn : TcpConnectionSock} (hfd : goodTcpConnectionSock w connfd = some c)
    (hconn : w.tcpConn c = some conn) (hstate : conn.state = .handleEstab) :
    tcpSend ipInput connfd buff w = (do
      let result ← tcpOut ipInput c (buff.take (min buff.length maxTcpPayload)) .onlyAck
      pure (if result then ((min buff.length maxTcpPayload : Nat) : Int) else -1) : M Int) w := by
  unfold tcpSend
  rw [run_bind_ok (run_get w), hfd]
  dsimp only
  rw [run_bind_ok (derefTcpConn_ok.mpr ⟨hconn, rfl⟩), if_neg (not_not.mpr hstate)]

/-- Without an established connection nothing happens. -/
theorem tcpSend_refused {connfd n : Int} {buff : List UInt8} {w w' : World}
    (h : ∀ c conn, goodTcpConnectionSock w connfd = some c → w.tcpConn c = some conn →
      conn.state ≠ .handleEstab)
    (hrun : tcpSend ipInput connfd buff w = .ok n w') : w' = w := by
  obtain ⟨t, hget, hrest⟩ := bind_ok_of_eq get_reads hrun
  cases hget
  cases hfd : goodTcpConnectionSock w connfd with
  | none =>
      rw [hfd] at hrest
      cases hrest
      rfl
  | some c =>
      rw [hfd] at hrest
      obtain ⟨conn, hderef, hbody⟩ := bind_ok_of_eq (derefTcpConn_reads c) hrest
      obtain ⟨hconn, -⟩ := derefTcpConn_ok.mp hderef
      rw [if_pos (h c conn hfd hconn)] at hbody
      cases hbody
      rfl

/-- Counting bytes changes the send record, unless there are none. -/
theorem numbered_snt_ne {conn : TcpConnectionSock} {size : Nat} (hpos : 0 < size)
    (hmax : size ≤ maxTcpPayload) : (conn.numbered size .onlyAck).snt ≠ conn.snt := by
  intro h
  have hnxt : conn.snt.nxt + seqSpan size .onlyAck = conn.snt.nxt := congrArg TcpSnt.nxt h
  rw [seqSpan_onlyAck] at hnxt
  have hzero : UInt32.ofNat size = 0 := by
    have hsub := congrArg (fun x => x - conn.snt.nxt) hnxt
    simpa [UInt32.add_sub_cancel] using hsub
  have hnat := congrArg UInt32.toNat hzero
  rw [UInt32.toNat_ofNat', UInt32.toNat_zero, maxTcpPayload] at *
  omega

/-- Counting no bytes changes nothing. -/
theorem numbered_zero (conn : TcpConnectionSock) : conn.numbered 0 .onlyAck = conn := by
  unfold TcpConnectionSock.numbered
  rw [seqSpan_onlyAck]
  simp

/-- A segment without data that was refused has left everything as it was. -/
theorem Atomic.of_segmented {c : ConnId} {conn : TcpConnectionSock} {w w' : World}
    (hconn : w.tcpConn c = some conn)
    (h : Emits (fun e => ¬ e.IsSent) (w.segmented c conn 0 .onlyAck) w') : Atomic w w' := by
  have hconns : w'.tcpConn = w.tcpConn := by
    rw [h.tcpConn]
    change Function.update w.tcpConn c (some (conn.numbered 0 .onlyAck)) = w.tcpConn
    rw [numbered_zero, ← hconn, Function.update_eq_self]
  obtain ⟨es, he, hes⟩ := h.trace
  have htrace : w'.trace = w.trace ++ (Event.alloc w.nextId :: es) := by
    rw [he, List.append_cons]
    rfl
  refine ⟨fun i frame hsent => ?_, ⟨h.arpTable, h.udpSock, fun c' => by rw [hconns]⟩,
    fun c' => by rw [hconns]⟩
  rw [newEvents_append htrace] at hsent
  cases hsent with
  | tail _ hmem => exact hes _ hmem trivial

/-- **A failed `tcp_send` leaves no trace exactly when it failed before it counted the bytes,
or had none to count.** -/
theorem tcpSend_atomic_iff {connfd n : Int} {buff : List UInt8} {w w' : World}
    (hrun : runOp (.tcpSend connfd buff) w = .ok (.int n) w') :
    (n = -1 → Atomic w w') ↔ SendOk w connfd buff := by
  obtain ⟨n', t, hsend, hret⟩ := bind_ok_iff.mp hrun
  cases hret
  by_cases hestab : ∃ c conn, goodTcpConnectionSock w connfd = some c ∧ w.tcpConn c = some conn ∧
      conn.state = .handleEstab
  · obtain ⟨c, conn, hfd, hconn, hstate⟩ := hestab
    rw [show tcpSend ipInput connfd buff w = _ from tcpSend_run hfd hconn hstate] at hsend
    obtain ⟨result, t, hout, hval⟩ := bind_ok_iff.mp hsend
    obtain ⟨hn, rfl⟩ := EStateM.Result.ok.inj hval
    have hfail : n = -1 ↔ result = false := by
      cases result with
      | true => simp only [if_true] at hn; exact ⟨fun h => by omega, fun h => by cases h⟩
      | false => exact ⟨fun _ => rfl, fun _ => hn.symm⟩
    have hlen : (buff.take (min buff.length maxTcpPayload)).length
        = min buff.length maxTcpPayload := by
      rw [List.length_take]
      omega
    obtain ⟨parent, hparent⟩ := tcpOut_parent hconn hout
    have hsendOk : SendOk w connfd buff ↔ (buff ≠ [] →
        exceedsWindow conn (min buff.length maxTcpPayload) = false →
        ∃ parent i intf, w.tcpSock conn.parent = some parent ∧ parent.intf = some i ∧
          w.intf i = some intf ∧ SegmentOk w intf.node parent conn) := by
      refine ⟨fun h => h c conn hfd hconn hstate, fun h c' conn' hfd' hconn' _ => ?_⟩
      obtain rfl : c = c' := Option.some.inj (hfd.symm.trans hfd')
      obtain rfl : conn = conn' := Option.some.inj (hconn.symm.trans hconn')
      exact h
    rw [hfail, hsendOk]
    cases hwin : exceedsWindow conn (min buff.length maxTcpPayload) with
    | true =>
        -- `return -1` is taken for success
        rw [tcpOut_run hconn hparent, hlen, hwin] at hout
        obtain ⟨rfl, -⟩ := EStateM.Result.ok.inj hout
        exact iff_of_true (fun h => by cases h) (fun _ h => by cases h)
    | false =>
        have hfits : exceedsWindow conn (buff.take (min buff.length maxTcpPayload)).length = false := by
          rw [hlen]
          exact hwin
        obtain ⟨i, intf, hi, hintf, hreports⟩ := tcpOut_reports hconn hparent hfits hout
        obtain ⟨-, hcounted⟩ := tcpOut_sent hconn hparent hfits hout
        rw [hlen] at hreports hcounted
        constructor
        · intro hatomic hne _
          refine ⟨parent, i, intf, hparent, hi, hintf, ?_⟩
          by_contra hbad
          have hsnt := (hatomic (Bool.eq_false_iff.mpr (mt hreports.result.mp hbad))).snt c
          rw [hcounted, Function.update_self, hconn] at hsnt
          have hpos := List.length_pos_iff.mpr hne
          exact numbered_snt_ne (by rw [maxTcpPayload]; omega) (Nat.min_le_right _ _)
            (Option.some.inj hsnt)
        · intro hok hfailed
          by_cases hempty : buff = []
          · subst hempty
            exact .of_segmented hconn (hreports.refused hfailed)
          · obtain ⟨parent', i', intf', hparent', hi', hintf', hseg⟩ := hok hempty rfl
            obtain rfl : parent = parent' := Option.some.inj (hparent.symm.trans hparent')
            obtain ⟨rfl, rfl⟩ := intfPtr_unique hi hintf hi' hintf'
            rw [hreports.result.mpr hseg] at hfailed
            cases hfailed
  · have hother : ∀ c conn, goodTcpConnectionSock w connfd = some c → w.tcpConn c = some conn →
        conn.state ≠ .handleEstab := by
      intro c conn hfd hconn hstate
      exact hestab ⟨c, conn, hfd, hconn, hstate⟩
    obtain rfl := tcpSend_refused hother hsend
    refine iff_of_true (fun _ => .refl _) ?_
    intro c conn hfd hconn hstate
    exact absurd hstate (hother c conn hfd hconn)

/-- The connected state once the application added a route to the peer by another interface. -/
def Fixture.detoured : World := after (listen ++ handshake 5 ++
  [.tcpAccept 0, .rtTableAddRoute 0 (addr 192 168 89 2) 30 0 2])

theorem tcpSend_atomic_fixture :
    (Op.tcpSend 0 []).returns Fixture.detoured = some (.int (-1)) ∧
      Atomic Fixture.detoured ((Op.tcpSend 0 []).after Fixture.detoured) := by
  have hreturns : (Op.tcpSend 0 []).returns Fixture.detoured = some (.int (-1)) := by
    decide +kernel
  have hrun := Op.returns_run hreturns
  generalize (Op.tcpSend 0 []).after Fixture.detoured = w' at *
  generalize Fixture.detoured = w at *
  have hok : SendOk w 0 [] := fun _ _ _ _ _ hne _ => absurd rfl hne
  exact ⟨hreturns, (tcpSend_atomic_iff hrun).mpr hok rfl⟩

/-- **Three bytes that were refused were counted**: a retry starts behind them. -/
theorem tcpSend_not_atomic :
    Reachable Fixture.detoured ∧
      (Op.tcpSend 0 [1, 2, 3]).returns Fixture.detoured = some (.int (-1)) ∧
      (Fixture.detoured.tcpConn 2).map (fun conn => conn.snt.nxt) = some 1 ∧
      (((Op.tcpSend 0 [1, 2, 3]).after Fixture.detoured).tcpConn 2).map
        (fun conn => conn.snt.nxt) = some 4 ∧
      ¬ Atomic Fixture.detoured ((Op.tcpSend 0 [1, 2, 3]).after Fixture.detoured) := by
  have hreach : Reachable Fixture.detoured := Fixture.reachable_after _
  have hreturns : (Op.tcpSend 0 [1, 2, 3]).returns Fixture.detoured = some (.int (-1)) := by
    decide +kernel
  have hbefore : (Fixture.detoured.tcpConn 2).map (fun conn => conn.snt.nxt) = some 1 := by
    decide +kernel
  have hafter : (((Op.tcpSend 0 [1, 2, 3]).after Fixture.detoured).tcpConn 2).map
      (fun conn => conn.snt.nxt) = some 4 := by
    decide +kernel
  generalize (Op.tcpSend 0 [1, 2, 3]).after Fixture.detoured = w' at *
  generalize Fixture.detoured = w at *
  refine ⟨hreach, hreturns, hbefore, hafter, fun hatomic => ?_⟩
  have hsnt := congrArg (Option.map TcpSnt.nxt) (hatomic.snt 2)
  rw [Option.map_map, Option.map_map] at hsnt
  change (w'.tcpConn 2).map (fun conn => conn.snt.nxt)
    = (w.tcpConn 2).map (fun conn => conn.snt.nxt) at hsnt
  rw [hbefore, hafter] at hsnt
  exact absurd hsnt (by decide)

end SimpleTcpip
