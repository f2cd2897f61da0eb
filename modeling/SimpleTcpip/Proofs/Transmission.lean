/-
What `send_pkt_out` reports about the link.

The two backends report failure differently: `write` returns a negative number, and
`udp_send_bytes` returns `false`.  `send_pkt_out` tests the sign, so a frame a UDP-backed link
could not send counts as sent and its buffer is freed.
-/
import SimpleTcpip.Model.Fixture
import SimpleTcpip.Proofs.Neighbour
import SimpleTcpip.Proofs.Stops

namespace SimpleTcpip

open Fallible

/-! ### The backends -/

/-- `get_nbr_if`, read off the state. -/
def World.nbrIf (w : World) (i : IntfId) : Option IntfId := do
  let intf ← w.intf i
  let l ← intf.link
  let link ← w.link l
  some (if i = link.intf1 then link.intf2 else link.intf1)

/-- A UDP-backed link has a socket at both ends. -/
def World.udpReady (w : World) (i : IntfId) : Bool :=
  (w.intf i).any fun intf => ((w.nbrIf i).bind w.intf).any fun nbr =>
    nbr.comm.port != 0 && intf.comm.fd != 0

/-- The backend reaches its system call. -/
def World.tries (w : World) (i : IntfId) : Bool :=
  (w.intf i).any fun intf =>
    match intf.comm.commType with
    | .tuntap => true
    | .udp => w.udpReady i
    | .none => false

/-- The backend reaches its system call, and the call takes the frame. -/
def World.transmits (w : World) (i : IntfId) : Bool :=
  w.tries i && decide (0 ≤ w.sysSend w.numSends)

/-- What the backend returns is not negative. -/
def World.accepts (w : World) (i : IntfId) : Bool :=
  (w.intf i).any fun intf =>
    match intf.comm.commType with
    | .tuntap => decide (0 ≤ w.sysSend w.numSends)
    | .udp => true
    | .none => false

/-- The state after the system call. -/
def World.sysSent (w : World) (i : IntfId) (frame : List UInt8) : World :=
  { w with
    numSends := w.numSends + 1
    trace := w.trace ++ if 0 ≤ w.sysSend w.numSends then [.sent i frame] else [] }

section Backends

variable {w : World} {i : IntfId} {intf : Intf}

theorem sysSendCall_run (frame : List UInt8) :
    sysSendCall i frame w = .ok (w.sysSend w.numSends) (w.sysSent i frame) := by
  unfold sysSendCall logIf World.sysSent
  refine (run_bind_ok (run_get w)).trans ((run_bind_ok (run_set _ w)).trans ?_)
  by_cases hsent : 0 ≤ w.sysSend w.numSends
  · simp only [hsent, decide_true, if_true]
    rfl
  · simp only [hsent, decide_false, if_false, List.append_nil]
    rfl

theorem getNbrIf_run (hg : GraphOk w) (hintf : w.intf i = some intf) :
    getNbrIf i w = .ok (w.nbrIf i) w := by
  unfold getNbrIf World.nbrIf
  refine (run_bind_ok (derefIntf_ok.mpr ⟨hintf, rfl⟩)).trans ?_
  rw [hintf, Option.bind_eq_bind, Option.bind_some]
  cases hl : intf.link with
  | none => rfl
  | some l =>
      obtain ⟨link, hlink, -⟩ := hg.links i intf l hintf hl
      refine (run_bind_ok (run_get w)).trans ?_
      rw [Option.bind_eq_bind, Option.bind_some, hlink]
      rfl

theorem nbrIf_live (hg : GraphOk w) {j : IntfId} (h : w.nbrIf i = some j) :
    ∃ nbr, w.intf j = some nbr := by
  unfold World.nbrIf at h
  simp only [Option.bind_eq_bind, Option.bind_eq_some_iff] at h
  obtain ⟨intf, hintf, l, hl, link, hlink, heq⟩ := h
  obtain ⟨link', hlink', h1, h2⟩ := hg.links i intf l hintf hl
  obtain rfl := Option.some.inj (hlink.symm.trans hlink')
  refine Option.isSome_iff_exists.mp ?_
  obtain rfl := Option.some.inj heq
  split
  · exact h2
  · exact h1

theorem udpSendBytes_run (hg : GraphOk w) (hintf : w.intf i = some intf) (frame : List UInt8) :
    udpSendBytes i frame w = if w.udpReady i
      then .ok (if w.sysSend w.numSends < 0 then 0 else 1) (w.sysSent i frame) else .ok 0 w := by
  unfold udpSendBytes World.udpReady
  refine (run_bind_ok (derefIntf_ok.mpr ⟨hintf, rfl⟩)).trans ?_
  refine (run_bind_ok (getNbrIf_run hg hintf)).trans ?_
  rw [hintf, Option.any_some]
  cases hnbr : w.nbrIf i with
  | none => rfl
  | some j =>
      obtain ⟨nbr, hj⟩ := nbrIf_live hg hnbr
      refine (run_bind_ok (derefIntf_ok.mpr ⟨hj, rfl⟩)).trans ?_
      rw [Option.bind_some, hj, Option.any_some]
      by_cases hready : nbr.comm.port = 0 ∨ intf.comm.fd = 0
      · rw [if_pos hready, if_neg (by simpa [imp_iff_not_or] using hready)]
        rfl
      · rw [if_neg hready, if_pos (by simpa using hready)]
        exact run_bind_ok (sysSendCall_run frame)

theorem sendBytesOut_run (hg : GraphOk w) (hintf : w.intf i = some intf) (frame : List UInt8) :
    ∃ result : Int, (0 ≤ result ↔ w.accepts i = true) ∧
      sendBytesOut frame i w = .ok result (if w.tries i then w.sysSent i frame else w) := by
  unfold sendBytesOut World.accepts World.tries
  rw [hintf, Option.any_some, Option.any_some, run_bind_ok (derefIntf_ok.mpr ⟨hintf, rfl⟩)]
  cases hcomm : intf.comm.commType with
  | none => exact absurd hcomm (hg.comms i intf hintf)
  | tuntap => exact ⟨_, decide_eq_true_iff.symm, sysSendCall_run frame⟩
  | udp =>
      simp only
      rw [udpSendBytes_run hg hintf]
      cases w.udpReady i with
      | true =>
          refine ⟨_, ?_, rfl⟩
          split <;> simp
      | false => exact ⟨0, by simp, rfl⟩

/-- The whole of `send_pkt_out`. -/
theorem sendPktOut_run (hg : GraphOk w) (hintf : w.intf i = some intf) (skb : SkBuff) :
    sendPktOut i skb w = .ok (w.accepts i)
      (let t := if w.tries i then w.sysSent i skb.bytes else w
       if w.accepts i then t.freed skb else t) := by
  obtain ⟨result, hresult, hrun⟩ := sendBytesOut_run hg hintf skb.bytes
  unfold sendPktOut
  rw [run_bind_ok hrun]
  by_cases hok : 0 ≤ result
  · rw [if_pos hok, hresult.mp hok]
    rfl
  · rw [if_neg hok, Bool.eq_false_iff.mpr (fun h => hok (hresult.mpr h))]
    rfl

end Backends

/-! ### What the status says -/

/-- The status of a transmission is true of it: `true` if the backend transmitted the frame,
and then the buffer is freed; `false` if not, and then nothing has taken the buffer. -/
structure Truthful (w : World) (i : IntfId) (skb : SkBuff) (r : Bool) (w' : World) : Prop where
  status : r = true ↔ Event.sent i skb.bytes ∈ newEvents w w'
  freed : freeCount (newEvents w w') skb.id = if r then 1 else 0
  queues : w'.arpTable = w.arpTable ∧ w'.udpSock = w.udpSock ∧ w'.tcpConn = w.tcpConn

/-- What `send_pkt_out` records, and what it leaves alone. -/
theorem sendPktOut_sent {w : World} (hg : GraphOk w) {i : IntfId} {intf : Intf}
    (hintf : w.intf i = some intf) (skb : SkBuff) :
    ∃ w', sendPktOut i skb w = .ok (w.accepts i) w' ∧
      w'.trace = w.trace ++ ((if w.transmits i then [.sent i skb.bytes] else [])
        ++ if w.accepts i then [.free skb.id] else []) ∧
      w'.arpTable = w.arpTable ∧ w'.udpSock = w.udpSock ∧ w'.tcpConn = w.tcpConn := by
  refine ⟨_, sendPktOut_run hg hintf skb, ?_, ?_⟩
  · unfold World.transmits World.sysSent World.freed
    cases w.tries i <;> cases w.accepts i <;> by_cases hsys : 0 ≤ w.sysSend w.numSends <;>
      simp [hsys]
  · cases w.tries i <;> cases w.accepts i <;> exact ⟨rfl, rfl, rfl⟩

/-- Whatever the backend, the status says whether its result is negative. -/
theorem sendPktOut_truthful {w : World} (hg : GraphOk w) {i : IntfId} {intf : Intf}
    (hintf : w.intf i = some intf) (skb : SkBuff) :
    ∃ w', sendPktOut i skb w = .ok (w.accepts i) w' ∧
      (Truthful w i skb (w.accepts i) w' ↔ (w.accepts i = true ↔ w.transmits i = true)) := by
  obtain ⟨w', hrun, htrace, hqueues⟩ := sendPktOut_sent hg hintf skb
  refine ⟨w', hrun, ?_⟩
  have hsent : Event.sent i skb.bytes ∈ newEvents w w' ↔ w.transmits i = true := by
    rw [newEvents_append htrace]
    cases w.transmits i <;> cases w.accepts i <;> simp
  have hfreed : freeCount (newEvents w w') skb.id = if w.accepts i then 1 else 0 := by
    rw [newEvents_append htrace]
    cases w.transmits i <;> cases w.accepts i <;> simp [Event.frees]
  constructor
  · intro h
    rw [← hsent]
    exact h.status
  · intro h
    rw [← hsent] at h
    exact ⟨h, hfreed, hqueues⟩

/-- **The status of a transmission is truthful on a tap, and on a UDP-backed link exactly if
the frame was transmitted.** -/
theorem sendPktOut_truthful_iff {w : World} (hg : GraphOk w) {i : IntfId} {intf : Intf}
    (hintf : w.intf i = some intf) (skb : SkBuff) : ∃ r w', sendPktOut i skb w = .ok r w' ∧
      (Truthful w i skb r w' ↔ intf.comm.commType = .tuntap ∨ w.transmits i = true) := by
  obtain ⟨w', hrun, hiff⟩ := sendPktOut_truthful hg hintf skb
  refine ⟨_, w', hrun, hiff.trans ?_⟩
  unfold World.accepts
  rw [hintf, Option.any_some]
  cases hcomm : intf.comm.commType with
  | none => exact absurd hcomm (hg.comms i intf hintf)
  | udp => simp
  | tuntap =>
      have htries : w.transmits i = decide (0 ≤ w.sysSend w.numSends) := by
        rw [World.transmits, World.tries, hintf, Option.any_some, hcomm, Bool.true_and]
      rw [htries]
      simp

theorem sendPktOut_truthful_fixture : ∃ r w',
    sendPktOut 0 (freshSkb 0 60) Fixture.graph = .ok r w' ∧
      Truthful Fixture.graph 0 (freshSkb 0 60) r w' := by
  have hg : GraphOk Fixture.graph :=
    ⟨Fixture.graph_initial.comms, Fixture.graph_initial.links, fun n rt hrt => by cases hrt⟩
  have hsends : Fixture.graph.transmits 0 = true := by decide
  obtain ⟨intf, hintf⟩ : ∃ intf, Fixture.graph.intf 0 = some intf := ⟨_, rfl⟩
  generalize Fixture.graph = w at *
  obtain ⟨r, w', hrun, hiff⟩ := sendPktOut_truthful_iff hg hintf (freshSkb 0 60)
  exact ⟨r, w', hrun, hiff.mpr (Or.inr hsends)⟩

/-- The test network, where every system call fails. -/
def Fixture.deaf : World := { Fixture.graph with sysSend := fun _ => -1 }

/-- A UDP-backed link reports a frame as sent that `sendto` refused. -/
theorem sendPktOut_untruthful : ∃ w', sendPktOut 0 (freshSkb 0 60) Fixture.deaf = .ok true w' ∧
    ¬ Truthful Fixture.deaf 0 (freshSkb 0 60) true w' := by
  have hg : GraphOk Fixture.deaf :=
    ⟨Fixture.graph_initial.comms, Fixture.graph_initial.links, fun n rt hrt => by cases hrt⟩
  have haccepts : Fixture.deaf.accepts 0 = true := by decide
  have hfails : Fixture.deaf.transmits 0 = false := by decide
  obtain ⟨intf, hintf⟩ : ∃ intf, Fixture.deaf.intf 0 = some intf := ⟨_, rfl⟩
  generalize Fixture.deaf = w at *
  obtain ⟨w', hrun, hiff⟩ := sendPktOut_truthful hg hintf (freshSkb 0 60)
  rw [haccepts] at hrun hiff
  refine ⟨w', hrun, fun h => ?_⟩
  rw [(hiff.mp h).mp rfl] at hfails
  cases hfails

end SimpleTcpip
