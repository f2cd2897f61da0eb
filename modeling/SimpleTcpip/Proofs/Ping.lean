/-
`ping` of a string that is no address.

The parser's error value is 0, and 0 goes on as an address: through the message, the route
lookup, the test for the node's own addresses and the queue of a next hop.  What stops it is
at best the routing table, or the link.
-/
import SimpleTcpip.Proofs.Echo
import SimpleTcpip.Proofs.Outcome

namespace SimpleTcpip

open Fallible

/-! ### One call -/

section Calls

variable {w w' : World} {n : NodeId} {ip : UInt32} {r : Bool}

/-- Without a route `ip_output` refuses a message before anything happens to it. -/
theorem ipOutput_unrouted (ipInput : SkBuff → M Bool) (proto : UInt8) {message : SkBuff}
    (hskb : Packed message) (hrt : rtLookupLpm (w.rtTable n) ip = none) :
    ipOutput ipInput n ip proto message w = .ok false (w.output n ip proto message) := by
  have hdata := hskb.data
  have hlog : log (.ipOutput n ip proto message) w = .ok ⟨⟩ (w.output n ip proto message) := rfl
  have hpush : skbPush message ipHdrSize (w.output n ip proto message)
      = .ok { message with data := message.data - ipHdrSize, len := message.len + ipHdrSize }
        (w.output n ip proto message) := by
    refine skbPush_ok.mpr ⟨?_, rfl, rfl⟩
    rw [hdata]
    decide
  unfold ipOutput
  rw [run_bind_ok hlog, run_bind_ok hpush]
  change ipPostroute ipInput n (message.withIpHdr ip proto) _ = _
  have hread : Readable (w.output n ip proto message) (message.withIpHdr ip proto)
      ((message.withIpHdr ip proto).data + 16) 4 := by
    intro _
    rw [withIpHdr_data, withIpHdr_tail, hdata]
    have := hskb.len
    rw [hdata] at this
    simp only [buffHeadroom, ipHdrSize, recvReservedHeadRoom] at this ⊢
    omega
  have hnone : rtLookupLpm ((w.output n ip proto message).rtTable n)
      ((message.withIpHdr ip proto).mem.load32 ((message.withIpHdr ip proto).data + 16))
      = none := by
    rw [← SkBuff.dstIp, dstIp_withIpHdr]
    exact hrt
  unfold ipPostroute
  rw [run_bind_ok (readU32_ok.mpr ⟨hread, rfl, rfl⟩), run_bind_ok (run_get _), hnone]
  rfl

theorem icmpOut_unrouted {ipInput : SkBuff → M Bool} {type code : UInt8} {payload : List UInt8}
    (hrt : rtLookupLpm (w.rtTable n) ip = none) :
    Completes (icmpOut ipInput n ip type code payload) w := by
  rw [Completes, icmpOut_run]
  have hout := ipOutput_unrouted (w := w.allocated) ipInput ipProtoIcmp
    (packed_icmpMessage w.nextId type code payload) hrt
  exact (completes_bind_of_ok hout).mpr ⟨_, _, rfl⟩

/-- **What `icmp_out` returns**, and that nothing was sent or queued if it is false. -/
theorem icmpOut_reports {depth : Nat} {type code : UInt8} {payload : List UInt8}
    (hrun : icmpOut (ipInputDepth depth) n ip type code payload w = .ok r w') :
    Reports (OutputOk w n ip ipProtoIcmp (icmpMessage w.nextId type code payload)) r w w' := by
  rw [icmpOut_run] at hrun
  obtain ⟨result, t, hout, hrest⟩ := bind_ok_iff.mp hrun
  have halloc : Emits (fun e => ¬ e.IsSent) w w.allocated :=
    ⟨rfl, Nat.le_succ _, [.alloc w.nextId], rfl, List.forall_mem_singleton.mpr id⟩
  have hreports := ipOutput_reports (w := w.allocated) rfl hout
  refine .after halloc ?_
  cases result with
  | true =>
      cases hrest
      exact .yes (hreports.result.mp rfl)
  | false =>
      cases hrest
      refine ⟨hreports.result, fun _ => (hreports.refused rfl).trans ?_⟩
      exact (log_emits (e := .free _) (fun h => h)).ok rfl

end Calls

/-! ### A string that is no address -/

/-- No frame was sent, and every queue is as it was. -/
structure Silent (w w' : World) : Prop where
  sent : ∀ i frame, Event.sent i frame ∉ newEvents w w'
  arpTable : w'.arpTable = w.arpTable
  udpSock : w'.udpSock = w.udpSock
  tcpConn : w'.tcpConn = w.tcpConn

theorem Silent.of_emits {w w' : World} (h : Emits (fun e => ¬ e.IsSent) w w') : Silent w w' := by
  obtain ⟨es, he, hes⟩ := h.trace
  refine ⟨fun i frame hmem => ?_, h.arpTable, h.udpSock, h.tcpConn⟩
  rw [newEvents_append he] at hmem
  exact hes _ hmem trivial

/-- No route of a node matches the address 0. -/
def ZeroUnrouted (w : World) (n : NodeId) : Prop :=
  ∀ entry ∈ w.rtTable n, entry.isDefault = false ∧ ¬ (entry.covers 0 = true ∧ 0 < entry.mask)

/-- A route matches the address 0, which no interface of the node has, but neither the queue of
the next hop nor the link takes a packet. -/
def ZeroRefused (w : World) (n : NodeId) : Prop :=
  ∃ rt, rtLookupLpm (w.rtTable n) 0 = some rt ∧ isIpLocal w n 0 = false ∧ ¬ NeighbourOk w n rt 0

/-- The call fails exactly if the address 0 leads nowhere. -/
theorem outputOk_zero_iff (w : World) (n : NodeId) (id : SkbId) (type code : UInt8)
    (payload : List UInt8) : ¬ OutputOk w n 0 ipProtoIcmp (icmpMessage id type code payload) ↔
      ZeroUnrouted w n ∨ ZeroRefused w n := by
  have hlocal : ∀ i, LocalOk w i ipProtoIcmp (icmpMessage id type code payload) := by
    intro i
    refine Or.inl ⟨rfl, ?_⟩
    rw [icmpMessage_len]
    exact Nat.le_add_right _ _
  constructor
  · intro hno
    cases hrt : rtLookupLpm (w.rtTable n) 0 with
    | none => exact Or.inl (rtLookupLpm_eq_none_iff.mp hrt)
    | some rt =>
        cases hzero : isIpLocal w n 0 with
        | true =>
            refine absurd ⟨rt, hrt, Or.inl rfl, ?_⟩ hno
            rw [if_pos hzero]
            exact hlocal rt.intf
        | false =>
            refine Or.inr ⟨rt, hrt, hzero, fun hok => hno ⟨rt, hrt, Or.inl rfl, ?_⟩⟩
            rw [hzero, if_neg Bool.false_ne_true]
            exact hok
  · rintro hzero ⟨rt, hrt, -, hok⟩
    rcases hzero with hnone | ⟨rt', hrt', hremote, hrefused⟩
    · rw [rtLookupLpm_eq_none_iff.mpr hnone] at hrt
      cases hrt
    · obtain rfl : rt' = rt := Option.some.inj (hrt'.symm.trans hrt)
      rw [hremote, if_neg Bool.false_ne_true] at hok
      exact hrefused hok

/-- **`ping` of a string that is no address fails and does nothing exactly if the address 0 leads
nowhere.** -/
theorem ping_rejected_iff {w : World} (hg : GraphOk w) (n : NodeId) {ipAddr : List UInt8}
    (hbad : convertIpFromStrToInt ipAddr = 0) :
    (∃ w', ping ipInput n ipAddr w = .ok false w' ∧ Silent w w') ↔
      ZeroUnrouted w n ∨ ZeroRefused w n := by
  have hping : ping ipInput n ipAddr
      = icmpOut ipInput n 0 icmpEchoRequestType icmpEchoRequestCode [] := by
    rw [ping, hbad]
  rw [hping, ← outputOk_zero_iff w n w.nextId icmpEchoRequestType icmpEchoRequestCode []]
  constructor
  · rintro ⟨w', hrun, -⟩ hok
    exact Bool.false_ne_true ((icmpOut_reports hrun).result.mpr hok)
  · intro hno
    have hcompletes : Completes
        (icmpOut ipInput n 0 icmpEchoRequestType icmpEchoRequestCode []) w := by
      rcases (outputOk_zero_iff w n w.nextId _ _ _).mp hno with hnone | ⟨rt, -, hremote, -⟩
      · exact icmpOut_unrouted (rtLookupLpm_eq_none_iff.mpr hnone)
      · exact completes_of_faultsIn (icmpOut_faultsIn (Or.inr hg) (Or.inr hremote))
    obtain ⟨r, w', hrun⟩ := hcompletes
    have hreports := icmpOut_reports hrun
    have hfalse : r = false := Bool.eq_false_iff.mpr fun hr => hno (hreports.result.mp hr)
    subst hfalse
    exact ⟨w', hrun, .of_emits (hreports.refused rfl)⟩

/-- The text `abc`. -/
def Fixture.abc : List UInt8 := [97, 98, 99]

/-- With a default route `ping abc` asks for the gateway's address, queues a message for
0.0.0.0 and reports success. -/
theorem ping_rejected_default : ∃ w w', Reachable w ∧ convertIpFromStrToInt Fixture.abc = 0 ∧
    ping ipInput 0 Fixture.abc w = .ok true w' ∧ w'.numSends = w.numSends + 1 ∧
    (w'.arpTable 0).map (fun entry => entry.pendingPkts.length) = [1] := by
  let w := Fixture.after [.rtTableAddRoute 0 0 0 (Fixture.addr 192 168 89 2) 0]
  have hresult : result (ping ipInput 0 Fixture.abc) w = some true := by decide +kernel
  have hsends : (final (ping ipInput 0 Fixture.abc) w).numSends = w.numSends + 1 := by
    decide +kernel
  have hqueue : ((final (ping ipInput 0 Fixture.abc) w).arpTable 0).map
      (fun entry => entry.pendingPkts.length) = [1] := by decide +kernel
  exact ⟨w, _, Fixture.reachable_after _, by decide, run_of_result hresult, hsends, hqueue⟩

theorem ping_rejected_after : ∃ w', ping ipInput 0 Fixture.abc (Fixture.after []) = .ok false w' ∧
    Silent (Fixture.after []) w' := by
  have hzero : ZeroUnrouted (Fixture.after []) 0 := by
    unfold ZeroUnrouted
    decide +kernel
  exact (ping_rejected_iff (Fixture.reachable_after []).graphOk 0 (by decide)).mpr (Or.inl hzero)

end SimpleTcpip
