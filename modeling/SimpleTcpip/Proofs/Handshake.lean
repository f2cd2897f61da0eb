/-
How a connection comes to be established, and what its send window is from then on.

A SYN creates a connection in the state `handle_syn_sent` and an acknowledgement moves it
to `handle_estab`.  Each is a single change, so what is true of the segment that caused it
can be read off the change; the rest is that nothing else in the run of a call does it.
-/
import SimpleTcpip.Proofs.Connections

namespace SimpleTcpip

open Fallible Relation

/-! ### The segment that establishes a connection -/

/-- A received segment passes the tests of `handle_syn_sent` for the connection it belongs
to. -/
structure CompletesHandshake (w : World) (skb : SkBuff) (c : ConnId)
    (conn : TcpConnectionSock) : Prop where
  taken : TakenTo w ipProtoTcp skb
  found : rxConn w skb = some c
  live : w.tcpConn c = some conn
  state : conn.state = .handleSynSent
  ack : skb.segment.tcpFlags.ack = true
  syn : skb.segment.tcpFlags.syn = false
  seq : skb.segment.tcpSeq = conn.rcv.nxt

/-- What a call received, by its scope. -/
theorem Op.rx_of_scope {op : Op} {w : World} {skb : SkBuff} (h : (op.scope w).rx skb) :
    ∃ i frame, op = .recvFrame i frame ∧ skb = recvBuffer w.nextId i frame := by
  cases op with
  | recvFrame i frame => exact ⟨i, frame, rfl, h⟩
  | _ => exact absurd h id

theorem Op.of_accepts {op : Op} {w : World} {proto : UInt8} {skb : SkBuff}
    (h : (op.scope w).accepts proto skb) : (op.scope w).rx skb ∧ TakenTo w proto skb := by
  cases op with
  | recvFrame i frame => exact h
  | _ => exact absurd h id

theorem Op.of_finds {op : Op} {w : World} {skb : SkBuff} {c : ConnId}
    (h : (op.scope w).finds c) (hrx : (op.scope w).rx skb) : rxConn w skb = some c := by
  cases op with
  | recvFrame i frame =>
      rw [show skb = recvBuffer w.nextId i frame from hrx]
      exact h
  | _ => exact absurd h id

/-- A connection as it was, as far as `handle_syn_sent` looks at it. -/
def TcpConnectionSock.progress (conn : TcpConnectionSock) : TcpHandle × UInt32 :=
  (conn.state, conn.rcv.nxt)

/-- Until it is established, a connection that exists does not move. -/
theorem Change.progress {sc : Scope} {w w' : World} {c : ConnId} (h : Change sc w w')
    (hlt : c < w.nextId) (hc : ¬ Established w c) :
    (∃ skb conn, sc.rx skb ∧ sc.accepts ipProtoTcp skb ∧ sc.finds c ∧ w.tcpConn c = some conn ∧
      conn.state = .handleSynSent ∧ skb.segment.tcpFlags.ack = true ∧
      skb.segment.tcpFlags.syn = false ∧ skb.segment.tcpSeq = conn.rcv.nxt) ∨
    (w'.tcpConn c).map TcpConnectionSock.progress
      = (w.tcpConn c).map TcpConnectionSock.progress := by
  -- a segment moves only a connection that is established
  have hestab : ∀ {c' : ConnId} {conn conn' : TcpConnectionSock}, w.tcpConn c' = some conn →
      conn.state = .handleEstab → (Function.update w.tcpConn c' (some conn') c).map
        TcpConnectionSock.progress = (w.tcpConn c).map TcpConnectionSock.progress := by
    intro c' conn conn' hc' hstate
    by_cases heq : c = c'
    · subst heq
      exact absurd (by rw [Established, hc', Option.map_some, hstate]) hc
    · rw [Function.update_of_ne heq]
  cases h with
  | sends h => exact Or.inr (by rw [h.tcpConn])
  | forwards _ _ _ _ _ _ _ h => exact Or.inr (by rw [h.tcpConn])
  | flushed _ _ h => exact Or.inr (by rw [h.tcpConn]; rfl)
  | connected =>
      exact Or.inr (congrArg _ (Function.update_of_ne (Nat.ne_of_lt hlt) _ _))
  | @established skb c' conn hrx hto hfinds _ hc' hstate hack hsyn hseq =>
      by_cases heq : c = c'
      · subst heq
        exact Or.inl ⟨skb, conn, hrx, hto, hfinds, hc', hstate, hack, hsyn, hseq⟩
      · exact Or.inr (congrArg _ (Function.update_of_ne heq _ _))
  | delivered _ _ _ _ hc' hstate => exact Or.inr (hestab hc' hstate)
  | finished _ _ _ _ hc' hstate => exact Or.inr (hestab hc' hstate)
  | numbered hc' => exact Or.inr (map_update_of_eq hc' (by rfl) c)
  | _ => exact Or.inr rfl

/-- A change that establishes a connection is made for the one the segment belongs to. -/
theorem Change.established_finds {sc : Scope} {w w' : World} {c : ConnId} (h : Change sc w w')
    (hc : ¬ Established w c) (hc' : Established w' c) : sc.finds c := by
  have hkept : ∀ {c' : ConnId} {conn conn' : TcpConnectionSock}, w.tcpConn c' = some conn →
      conn'.state = conn.state →
      ¬ (Function.update w.tcpConn c' (some conn') c).map TcpConnectionSock.state
        = some .handleEstab := by
    intro c' conn conn' hlive hstate
    rw [map_update_of_eq hlive hstate]
    exact hc
  unfold Established at hc'
  cases h with
  | sends h => exact absurd (by rwa [h.tcpConn] at hc') hc
  | forwards _ _ _ _ _ _ _ h => exact absurd (by rwa [h.tcpConn] at hc') hc
  | flushed _ _ h => exact absurd (by rwa [h.tcpConn] at hc') hc
  | connected =>
      change (Function.update w.tcpConn w.nextId _ c).map _ = _ at hc'
      by_cases heq : c = w.nextId
      · rw [heq, Function.update_self] at hc'
        cases hc'
      · rw [Function.update_of_ne heq] at hc'
        exact absurd hc' hc
  | @established _ c' _ _ _ hfinds =>
      by_cases heq : c = c'
      · exact heq ▸ hfinds
      · change (Function.update w.tcpConn c' _ c).map _ = _ at hc'
        rw [Function.update_of_ne heq] at hc'
        exact absurd hc' hc
  | delivered _ _ _ _ hlive => exact absurd hc' (hkept hlive rfl)
  | finished _ _ _ _ hlive => exact absurd hc' (hkept hlive rfl)
  | numbered hlive => exact absurd hc' (hkept hlive rfl)
  | _ => exact absurd hc' hc

/-- **A call that establishes a connection received the segment that completes its
handshake.** -/
theorem completesHandshake_of_established {w : World} {op : Op} {c : ConnId} (hw : ConnTables w)
    (hc : ¬ Established w c) (hafter : Established (op.after w) c) :
    ∃ i frame conn, op = .recvFrame i frame ∧
      CompletesHandshake w (recvBuffer w.nextId i frame) c conn := by
  have hbase : w.nextId ≤ (op.begun w).nextId := nextId_le_begun op w
  have hmoved : (¬ Established (op.after w) c ∧ w.nextId ≤ (op.after w).nextId ∧
      ((w.tcpConn c).isSome → ((op.after w).tcpConn c).map TcpConnectionSock.progress
        = (w.tcpConn c).map TcpConnectionSock.progress)) ∨
      ∃ skb conn, (op.scope w).rx skb ∧ CompletesHandshake w skb c conn := by
    refine invariant_after (I := fun t => (¬ Established t c ∧ w.nextId ≤ t.nextId ∧
      ((w.tcpConn c).isSome → (t.tcpConn c).map TcpConnectionSock.progress
        = (w.tcpConn c).map TcpConnectionSock.progress)) ∨
      ∃ skb conn, (op.scope w).rx skb ∧ CompletesHandshake w skb c conn) (Or.inl ⟨?_, hbase, ?_⟩) ?_ ?_
    · cases op <;> exact hc
    · intro _
      cases op <;> rfl
    · intro t t' ht hchange
      rcases ht with ⟨hnot, hid, hsame⟩ | hdone
      · by_cases hlive : (w.tcpConn c).isSome
        · have hlt : c < t.nextId := Nat.lt_of_lt_of_le (hw.connLt c hlive) hid
          rcases hchange.progress hlt hnot with
            ⟨skb, conn, hrx, hto, hfinds, hconn, hstate, hack, hsyn, hseq⟩ | hprogress
          · obtain ⟨conn₀, hconn₀⟩ := Option.isSome_iff_exists.mp hlive
            have hprogress := hsame hlive
            rw [hconn, hconn₀] at hprogress
            obtain ⟨hs, hn⟩ := Prod.mk.inj (Option.some.inj hprogress)
            exact Or.inr ⟨skb, conn₀, hrx, (Op.of_accepts hto).2, Op.of_finds hfinds hrx, hconn₀,
              hs ▸ hstate, hack, hsyn, by rw [← hn]; exact hseq⟩
          · refine Or.inl ⟨fun hestab => hnot ?_, Nat.le_trans hid hchange.nextId_le,
              fun _ => hprogress.trans (hsame hlive)⟩
            have hstate := congrArg (Option.map Prod.fst) hprogress
            rw [Option.map_map, Option.map_map] at hstate
            exact hstate.symm.trans hestab
        · -- a connection the call itself created is not established by it
          refine Or.inl ⟨fun hestab => hlive ?_, Nat.le_trans hid hchange.nextId_le,
            fun h => absurd h hlive⟩
          have hfinds := hchange.established_finds hnot hestab
          obtain ⟨skb, hrx⟩ : ∃ skb, (op.scope w).rx skb := by
            cases op with
            | recvFrame i frame => exact ⟨_, rfl⟩
            | _ => exact absurd hfinds id
          obtain ⟨_, _, _, _, _, conn, hconn, -⟩ := rxConn_some (Op.of_finds hfinds hrx)
          rw [hconn]
          rfl
      · exact Or.inr hdone
    · intro hquiet
      refine Or.inl ⟨fun hestab => hc ?_, hquiet.nextId, fun _ => ?_⟩
      · exact (hquiet.conn (f := TcpConnectionSock.state) (fun _ => rfl) c).symm.trans hestab
      · exact hquiet.conn (fun _ => rfl) c
  rcases hmoved with ⟨hnot, -⟩ | ⟨skb, conn, hrx, hdone⟩
  · exact absurd hafter hnot
  · obtain ⟨i, frame, rfl, rfl⟩ := Op.rx_of_scope hrx
    exact ⟨i, frame, conn, rfl, hdone⟩

/-! ### The segment that creates a connection -/

/-- **A call that creates a connection received its SYN.** -/
theorem opened_of_created {w : World} {op : Op} {c : ConnId} {conn : TcpConnectionSock}
    (hw : ConnTables w) (hnone : w.tcpConn c = none)
    (hafter : (op.after w).tcpConn c = some conn) :
    ∃ i frame k, op = .recvFrame i frame ∧
      (recvBuffer w.nextId i frame).segment.tcpFlags.syn = true ∧
      conn.opened = ((recvBuffer w.nextId i frame).opens k).opened := by
  have hall : (∀ c, ((op.after w).tcpConn c).isSome → c < (op.after w).nextId) ∧
      ∀ conn, (op.after w).tcpConn c = some conn → ∃ skb k, (op.scope w).rx skb ∧
        skb.segment.tcpFlags.syn = true ∧ conn.opened = (skb.opens k).opened := by
    refine invariant_after (I := fun t => (∀ c, (t.tcpConn c).isSome → c < t.nextId) ∧
      ∀ conn, t.tcpConn c = some conn → ∃ skb k, (op.scope w).rx skb ∧
        skb.segment.tcpFlags.syn = true ∧ conn.opened = (skb.opens k).opened)
      ⟨?_, fun conn hconn => ?_⟩ (fun t t' ht hchange => ?_) fun hquiet => ⟨?_, fun conn hconn => ?_⟩
    · cases op with
      | recvFrame i frame => exact fun c hc => Nat.lt_succ_of_lt (hw.connLt c hc)
      | _ => exact hw.connLt
    · rw [show (op.begun w).tcpConn = w.tcpConn by cases op <;> rfl, hnone] at hconn
      cases hconn
    · refine ⟨hchange.conn_lt ht.1, fun conn' hconn' => ?_⟩
      cases hold : t.tcpConn c with
      | none =>
          obtain ⟨-, -, skb, k, hrx, hsyn, rfl⟩ := hchange.created hold hconn'
          exact ⟨skb, k, hrx, hsyn, rfl⟩
      | some conn =>
          obtain ⟨skb, k, hrx, hsyn, heq⟩ := ht.2 conn hold
          have hopened := hchange.opened (ht.1 c (by rw [hold]; rfl))
          rw [hconn', hold] at hopened
          exact ⟨skb, k, hrx, hsyn, (Option.some.inj hopened).trans heq⟩
    · intro c hc
      refine Nat.lt_of_lt_of_le (hw.connLt c ?_) hquiet.nextId
      have hsome := congrArg Option.isSome (hquiet.conn (f := fun _ => ()) (fun _ => rfl) c)
      rw [Option.isSome_map, Option.isSome_map] at hsome
      rw [← hsome]
      exact hc
    · have hsome := hquiet.conn (f := fun _ => ()) (fun _ => rfl) c
      rw [hconn, hnone] at hsome
      cases hsome
  obtain ⟨skb, k, hrx, hsyn, heq⟩ := hall.2 conn hafter
  obtain ⟨i, frame, rfl, rfl⟩ := Op.rx_of_scope hrx
  exact ⟨i, frame, k, rfl, hsyn, heq⟩

/-- **What a connection keeps from its SYN on, it keeps.** -/
theorem opened_after {w : World} (op : Op) {c : ConnId} (hw : ConnTables w)
    (hc : (w.tcpConn c).isSome) : ((op.after w).tcpConn c).map TcpConnectionSock.opened
      = (w.tcpConn c).map TcpConnectionSock.opened := by
  have hboth : w.nextId ≤ (op.after w).nextId ∧
      ((op.after w).tcpConn c).map TcpConnectionSock.opened
        = (w.tcpConn c).map TcpConnectionSock.opened := by
    refine invariant_after (I := fun t => w.nextId ≤ t.nextId ∧
      (t.tcpConn c).map TcpConnectionSock.opened = (w.tcpConn c).map TcpConnectionSock.opened)
      ⟨nextId_le_begun op w, ?_⟩ (fun t t' ht hchange => ?_) fun hquiet => ⟨hquiet.nextId, ?_⟩
    · cases op <;> rfl
    · refine ⟨Nat.le_trans ht.1 hchange.nextId_le, ?_⟩
      rw [hchange.opened (Nat.lt_of_lt_of_le (hw.connLt c hc) ht.1), ht.2]
    · exact hquiet.conn (fun _ => rfl) c
  exact hboth.2

/-- A call of a run creates a connection from a SYN. -/
def Call.Opens (call : Call) (c : ConnId) (syn : SkBuff) : Prop :=
  call.rx = some syn ∧ syn.segment.tcpFlags.syn = true ∧ call.before.tcpConn c = none ∧
    (call.after.tcpConn c).isSome

/-- **Every connection of a run comes from a SYN the run received.** -/
theorem Run.opens {w₀ w : World} {calls : List Call} (hrun : Run w₀ calls w)
    (hinit : Initial w₀) {c : ConnId} {conn : TcpConnectionSock} (hc : w.tcpConn c = some conn) :
    ∃ call ∈ calls, ∃ syn k, call.Opens c syn ∧ conn.opened = (syn.opens k).opened := by
  induction hrun generalizing conn with
  | nil =>
      rw [hinit.tcpConn] at hc
      cases hc
  | @snoc calls t t' op r hcalls _ hop ih =>
      have htables := (hcalls.reachable (.init hinit)).connTables
      obtain rfl : op.after t = t' := final_of_ok hop
      cases hold : t.tcpConn c with
      | none =>
          obtain ⟨i, frame, k, rfl, hsyn, heq⟩ := opened_of_created htables hold hc
          exact ⟨_, List.mem_append_right _ List.mem_cons_self, recvBuffer t.nextId i frame, k,
            ⟨rfl, hsyn, hold, by rw [hc]; rfl⟩, heq⟩
      | some conn₀ =>
          obtain ⟨call, hmem, syn, k, hopens, heq⟩ := ih hold
          have hopened := opened_after op htables (c := c) (by rw [hold]; rfl)
          rw [hc, hold] at hopened
          exact ⟨call, List.mem_append_left _ hmem, syn, k, hopens,
            (Option.some.inj hopened).trans heq⟩

/-! ### The sequence numbers of a handshake -/

/-- The send window starts at zero, and a connection waits for the byte after its SYN. -/
def Handshaking (conn : TcpConnectionSock) : Prop :=
  conn.snt.una = 0 ∧ (conn.state = .handleSynSent → conn.rcv.nxt = ntohl conn.rcv.irs + 1)

theorem Change.handshaking {sc : Scope} {w w' : World} (h : Change sc w w')
    (hw : ∀ c conn, w.tcpConn c = some conn → Handshaking conn) :
    ∀ c conn, w'.tcpConn c = some conn → Handshaking conn := by
  have hestab : ∀ {conn conn' : TcpConnectionSock}, Handshaking conn →
      conn'.snt.una = conn.snt.una → conn'.state = .handleEstab → Handshaking conn' := by
    intro conn conn' hold huna hstate
    refine ⟨huna.trans hold.1, fun hsyn => ?_⟩
    rw [hstate] at hsyn
    cases hsyn
  cases h with
  | sends h => rwa [h.tcpConn]
  | forwards _ _ _ _ _ _ _ h => rwa [h.tcpConn]
  | flushed _ _ h => rw [h.tcpConn]; exact hw
  | connected => exact forall_update ⟨rfl, fun _ => rfl⟩ hw
  | established _ _ _ _ hc => exact forall_update (hestab (hw _ _ hc) rfl rfl) hw
  | delivered _ _ _ _ hc hstate => exact forall_update (hestab (hw _ _ hc) rfl hstate) hw
  | finished _ _ _ _ hc hstate => exact forall_update (hestab (hw _ _ hc) rfl hstate) hw
  | numbered hc => exact forall_update ⟨(hw _ _ hc).1, (hw _ _ hc).2⟩ hw
  | _ => exact hw

theorem Reachable.handshaking {w : World} (h : Reachable w) :
    ∀ c conn, w.tcpConn c = some conn → Handshaking conn := by
  refine h.invariant (I := fun t => ∀ c conn, t.tcpConn c = some conn → Handshaking conn)
    (fun t hinit c conn hc => ?_) fun op t ih => ?_
  · rw [hinit.tcpConn] at hc
    cases hc
  · refine invariant_after ?_ (fun _ _ hu hc => hc.handshaking hu) fun hquiet c conn hc => ?_
    · rwa [show (op.begun t).tcpConn = t.tcpConn by cases op <;> rfl]
    · have hcontrol := hquiet.tcpConn c
      rw [hc, Option.map_some] at hcontrol
      obtain ⟨conn₀, hconn₀, heq⟩ := Option.map_eq_some_iff.mp hcontrol.symm
      have hsame : Handshaking conn₀.control := ih c conn₀ hconn₀
      rw [heq] at hsame
      exact hsame

/-! ### Soundness of the handshake -/

/-- The segment a call received is the acknowledgement that should establish a connection:
from the peer whose SYN the run received, in sequence after it, no reset, and of the
answer to the SYN. -/
def SoundEntry (calls : List Call) (call : Call) (c : ConnId) : Prop :=
  ∃ opening ∈ calls, ∃ syn ack conn, opening.Opens c syn ∧ call.rx = some ack ∧
    call.before.tcpConn c = some conn ∧
    ack.ipPacket.srcIp = conn.remoteIp ∧ ack.segment.tcpSrc = conn.remotePort ∧
    syn.ipPacket.srcIp = conn.remoteIp ∧ syn.segment.tcpSrc = conn.remotePort ∧
    ack.segment.tcpFlags.ack = true ∧ ack.segment.tcpFlags.syn = false ∧
    ack.segment.tcpFlags.rst = false ∧ ack.segment.tcpSeq = syn.segment.tcpSeq + 1 ∧
    ack.segment.tcpAck = conn.snt.nxt

/-- A segment that completes a handshake is no reset and acknowledges the answer. -/
def AcksAnswer (call : Call) : Prop :=
  ∀ skb c conn, call.rx = some skb → CompletesHandshake call.before skb c conn →
    skb.segment.tcpFlags.rst = false ∧ skb.segment.tcpAck = conn.snt.nxt

/-- **In a run whose acknowledgements are no resets and acknowledge the answer, every
connection is established soundly.** -/
theorem established_soundly {w₀ w : World} {calls : List Call} (hinit : Initial w₀)
    (hrun : Run w₀ calls w) (hacks : ∀ call ∈ calls, AcksAnswer call) :
    ∀ call ∈ calls, ∀ c, ¬ Established call.before c → Established call.after c →
      SoundEntry calls call c := by
  induction hrun with
  | nil =>
      intro call hmem
      cases hmem
  | @snoc calls t t' op r hcalls _ hop ih =>
      intro call hmem c hnot hestab
      rcases List.mem_append.mp hmem with hmem | hmem
      · obtain ⟨opening, hin, hentry⟩ :=
          ih (fun call hin => hacks call (List.mem_append_left _ hin)) call hmem c hnot hestab
        exact ⟨opening, List.mem_append_left _ hin, hentry⟩
      · obtain rfl := List.mem_singleton.mp hmem
        obtain rfl : op.after t = t' := final_of_ok hop
        have hreach := hcalls.reachable (.init hinit)
        obtain ⟨i, frame, conn, rfl, hdone⟩ :=
          completesHandshake_of_established hreach.connTables hnot hestab
        obtain ⟨hrst, hack⟩ := hacks _ (List.mem_append_right _ List.mem_cons_self)
          (recvBuffer t.nextId i frame) c conn rfl hdone
        obtain ⟨opening, hin, syn, k, hopens, hopened⟩ := hcalls.opens hinit hdone.live
        obtain ⟨_, _, _, _, _, conn', hconn', hport, hip⟩ := rxConn_some hdone.found
        obtain rfl := Option.some.inj (hdone.live.symm.trans hconn')
        refine ⟨opening, List.mem_append_left _ hin, syn, recvBuffer t.nextId i frame, conn,
          hopens, rfl, hdone.live, hip.symm, hport.symm, ?_, ?_, hdone.ack, hdone.syn, hrst, ?_,
          hack⟩
        · exact (congrArg TcpConnectionSock.remoteIp hopened).symm
        · exact (congrArg TcpConnectionSock.remotePort hopened).symm
        · rw [hdone.seq, (hreach.handshaking c conn hdone.live).2 hdone.state]
          have hirs : conn.rcv.irs = (syn.opens k).rcv.irs :=
            congrArg (fun s => s.rcv.irs) hopened
          rw [hirs]
          rfl

/-- A run up to the state `answered`, none of whose segments completes a handshake. -/
theorem answered_run : ∃ calls, Run Fixture.graph calls Fixture.answered ∧
    ∀ call ∈ calls, AcksAnswer call := by
  have hops : (runOps Fixture.graph (Fixture.configure ++ (Fixture.listen ++
      [.recvFrame 0 (Fixture.tcpFrame 5 7 0x02 [])]))).isSome := by decide +kernel
  obtain ⟨calls, hrun, hmap⟩ := Run.of_runOps (Fixture.runOps_after hops)
  refine ⟨calls, hrun, fun call hmem skb c conn hrx hdone => ?_⟩
  have hop := List.mem_map_of_mem (f := Call.op) hmem
  rw [hmap] at hop
  obtain ⟨w, op, r, w'⟩ := call
  cases op with
  | recvFrame i frame =>
      have hframe : i = 0 ∧ frame = Fixture.tcpFrame 5 7 0x02 [] := by
        simpa [Fixture.configure, Fixture.listen] using hop
      obtain ⟨rfl, rfl⟩ := hframe
      obtain rfl := Option.some.inj hrx
      have hack : (recvBuffer 0 0 (Fixture.tcpFrame 5 7 0x02 [])).segment.tcpFlags.ack = true :=
        hdone.ack
      exact absurd hack (by decide)
  | _ => cases hrx

theorem established_soundly_fixture :
    ∃ calls call, call ∈ calls ∧ ¬ Established call.before 2 ∧ Established call.after 2 ∧
      SoundEntry calls call 2 := by
  have hreturns : (Op.recvFrame 0 (Fixture.ackFrame 5 8 1 0x10)).returns Fixture.answered
      = some .unit := by decide +kernel
  have hvalid : (Op.recvFrame 0 (Fixture.ackFrame 5 8 1 0x10)).Valid Fixture.answered := by
    decide +kernel
  have hbefore : (Fixture.answered.tcpConn 2).map TcpConnectionSock.state = some .handleSynSent := by
    decide +kernel
  have hafter : Established
      ((Op.recvFrame 0 (Fixture.ackFrame 5 8 1 0x10)).after Fixture.answered) 2 := by
    unfold Established
    decide +kernel
  have hfound : rxConn Fixture.answered
      (recvBuffer Fixture.answered.nextId 0 (Fixture.ackFrame 5 8 1 0x10)) = some 2 := by
    decide +kernel
  have hnxt : (Fixture.answered.tcpConn 2).map (fun conn => conn.snt.nxt) = some 1 := by
    decide +kernel
  obtain ⟨calls, hrun, hacks⟩ := answered_run
  generalize Fixture.answered = w at *
  generalize hop : Op.after (Op.recvFrame 0 (Fixture.ackFrame 5 8 1 0x10)) w = w' at *
  have hnot : ¬ Established w 2 := by
    rw [Established, hbefore]
    decide
  have hstep : runOp (.recvFrame 0 (Fixture.ackFrame 5 8 1 0x10)) w = .ok .unit w' :=
    hop ▸ Op.returns_run hreturns
  refine ⟨_, _, List.mem_append_right calls List.mem_cons_self, hnot, hafter,
    established_soundly Fixture.graph_initial (hrun.snoc hvalid hstep) ?_ _
      (List.mem_append_right calls List.mem_cons_self) 2 hnot hafter⟩
  intro call hmem
  rcases List.mem_append.mp hmem with hmem | hmem
  · exact hacks call hmem
  · obtain rfl := List.mem_singleton.mp hmem
    intro skb c conn hrx hdone
    obtain rfl := Option.some.inj hrx
    obtain rfl := Option.some.inj (hdone.found.symm.trans hfound)
    rw [hdone.live] at hnxt
    have hrst : (recvBuffer 0 0 (Fixture.ackFrame 5 8 1 0x10)).segment.tcpFlags.rst = false := by
      decide
    have hack : (recvBuffer 0 0 (Fixture.ackFrame 5 8 1 0x10)).segment.tcpAck = 1 := by decide
    exact ⟨hrst, hack.trans (Option.some.inj hnxt).symm⟩

/-- Neither the acknowledgement number nor the reset flag is looked at. -/
theorem answered_establishes {frame : List UInt8}
    (hframe : frame ∈ [Fixture.ackFrame 5 8 1 0x14, Fixture.ackFrame 5 8 0 0x10]) :
    ∃ calls w call, Run Fixture.graph calls w ∧ call ∈ calls ∧ ¬ Established call.before 2 ∧
      Established call.after 2 ∧ call.op = .recvFrame 0 frame ∧ ¬ SoundEntry calls call 2 := by
  have hfacts : (Op.recvFrame 0 frame).returns Fixture.answered = some .unit ∧
      (Op.recvFrame 0 frame).Valid Fixture.answered ∧
      (((Op.recvFrame 0 frame).after Fixture.answered).tcpConn 2).map TcpConnectionSock.state
        = some .handleEstab := by
    rcases List.mem_cons.mp hframe with rfl | hframe
    · exact ⟨by decide +kernel, by decide +kernel, by decide +kernel⟩
    · obtain rfl := List.mem_singleton.mp hframe
      exact ⟨by decide +kernel, by decide +kernel, by decide +kernel⟩
  have hbefore : (Fixture.answered.tcpConn 2).map TcpConnectionSock.state = some .handleSynSent := by
    decide +kernel
  have hnxt : (Fixture.answered.tcpConn 2).map (fun conn => conn.snt.nxt) = some 1 := by
    decide +kernel
  obtain ⟨hreturns, hvalid, hafter⟩ := hfacts
  obtain ⟨calls, hrun, -⟩ := answered_run
  generalize Fixture.answered = w at *
  generalize hop : Op.after (Op.recvFrame 0 frame) w = w' at *
  have hnot : ¬ Established w 2 := by
    rw [Established, hbefore]
    decide
  have hstep : runOp (.recvFrame 0 frame) w = .ok .unit w' := hop ▸ Op.returns_run hreturns
  refine ⟨_, _, _, hrun.snoc hvalid hstep, List.mem_append_right calls List.mem_cons_self, hnot,
    hafter, rfl, fun hsound => ?_⟩
  obtain ⟨_, _, _, ack, conn, -, hrx, hlive, -, -, -, -, -, -, hrst, -, hack⟩ := hsound
  obtain rfl := Option.some.inj hrx
  rw [show w.tcpConn 2 = some conn from hlive] at hnxt
  have hnxt : conn.snt.nxt = 1 := Option.some.inj hnxt
  rw [hnxt] at hack
  rcases List.mem_cons.mp hframe with rfl | hframe
  · have hrst : (recvBuffer 0 0 (Fixture.ackFrame 5 8 1 0x14)).segment.tcpFlags.rst = false := hrst
    exact absurd hrst (by decide)
  · obtain rfl := List.mem_singleton.mp hframe
    have hack : (recvBuffer 0 0 (Fixture.ackFrame 5 8 0 0x10)).segment.tcpAck = 1 := hack
    exact absurd hack (by decide)

/-- **A reset, or an acknowledgement of nothing, establishes a connection.** -/
theorem established_unsoundly :
    (∃ calls w call, Run Fixture.graph calls w ∧ call ∈ calls ∧ ¬ Established call.before 2 ∧
      Established call.after 2 ∧ call.op = .recvFrame 0 (Fixture.ackFrame 5 8 1 0x14) ∧
        ¬ SoundEntry calls call 2) ∧
    ∃ calls w call, Run Fixture.graph calls w ∧ call ∈ calls ∧ ¬ Established call.before 2 ∧
      Established call.after 2 ∧ call.op = .recvFrame 0 (Fixture.ackFrame 5 8 0 0x10) ∧
        ¬ SoundEntry calls call 2 :=
  ⟨answered_establishes List.mem_cons_self,
    answered_establishes (List.mem_cons_of_mem _ List.mem_cons_self)⟩

/-! ### The send window

No function processes an acknowledgement: `snt.una` and `snt.wnd` are written when the
connection is filled in, and only read afterwards.
-/

/-- **The send window of a connection never moves**: whatever arrives, it stays between zero
and the window of the SYN, and that is how much can be sent. -/
theorem window_fixed {w₀ w : World} {calls : List Call} (hinit : Initial w₀)
    (hrun : Run w₀ calls w) {c : ConnId} {conn : TcpConnectionSock}
    (hc : w.tcpConn c = some conn) :
    (∃ call ∈ calls, ∃ syn, call.Opens c syn ∧ conn.snt.wnd = syn.segment.tcpWnd) ∧
      conn.snt.una = 0 ∧
      (∀ op : Op, ∃ conn', (op.after w).tcpConn c = some conn' ∧
        conn'.snt.una = conn.snt.una ∧ conn'.snt.wnd = conn.snt.wnd) ∧
      ∀ size, exceedsWindow conn (min size maxTcpPayload) = false ↔
        conn.snt.nxt.toNat + min size maxTcpPayload ≤ conn.snt.wnd.toNat := by
  have hreach := hrun.reachable (.init hinit)
  have huna : conn.snt.una = 0 := (hreach.handshaking c conn hc).1
  refine ⟨?_, huna, fun op => ?_, fun size => ?_⟩
  · obtain ⟨call, hmem, syn, k, hopens, heq⟩ := hrun.opens hinit hc
    exact ⟨call, hmem, syn, hopens, congrArg (fun s => s.snt.wnd) heq⟩
  · have hopened := opened_after op hreach.connTables (c := c) (by rw [hc]; rfl)
    rw [hc, Option.map_some] at hopened
    obtain ⟨conn', hc', heq⟩ := Option.map_eq_some_iff.mp hopened
    exact ⟨conn', hc', congrArg (fun s => s.snt.una) heq, congrArg (fun s => s.snt.wnd) heq⟩
  · rw [exceedsWindow, huna, UInt32.zero_add, decide_eq_false_iff_not, Nat.not_lt]
    exact Iff.rfl

/-- The state once the peer of an accepted connection has acknowledged the answer to its SYN. -/
def Fixture.acknowledged : World := after (listen ++ handshake 5 ++
  [.tcpAccept 0, .recvFrame 0 (ackFrame 5 8 1 0x10)])

/-- The connection is established, and the acknowledgement has moved nothing. -/
theorem window_fixed_fixture :
    ∃ calls conn, Run Fixture.graph calls Fixture.acknowledged ∧
      Op.recvFrame 0 (Fixture.ackFrame 5 8 1 0x10) ∈ calls.map Call.op ∧
      Fixture.acknowledged.tcpConn 2 = some conn ∧ conn.state = .handleEstab ∧ conn.snt.nxt = 1 ∧
      conn.snt.una = 0 ∧
      ∃ call ∈ calls, ∃ syn, call.Opens 2 syn ∧ conn.snt.wnd = syn.segment.tcpWnd := by
  have hops : (runOps Fixture.graph (Fixture.configure ++ (Fixture.listen ++ Fixture.handshake 5 ++
      [.tcpAccept 0, .recvFrame 0 (Fixture.ackFrame 5 8 1 0x10)]))).isSome := by decide +kernel
  have hestab : (Fixture.acknowledged.tcpConn 2).map (fun conn => (conn.state, conn.snt.nxt))
      = some (.handleEstab, 1) := by decide +kernel
  have hafter := Fixture.runOps_after hops
  change _ = some Fixture.acknowledged at hafter
  generalize Fixture.acknowledged = w at *
  obtain ⟨calls, hrun, hmap⟩ := Run.of_runOps hafter
  obtain ⟨conn, hconn, hestab⟩ := Option.map_eq_some_iff.mp hestab
  obtain ⟨hstate, hnxt⟩ := Prod.mk.inj hestab
  have hfixed := window_fixed Fixture.graph_initial hrun hconn
  refine ⟨calls, conn, hrun, ?_, hconn, hstate, hnxt, hfixed.2.1, hfixed.1⟩
  rw [hmap]
  simp

/-- **An acknowledgement is ignored.**  The segment is in order, acknowledges the answer to
the SYN, and advertises a window; the unacknowledged number stays at zero. -/
theorem window_not_reopened :
    Reachable Fixture.connected ∧
      rxConn Fixture.connected (recvBuffer Fixture.connected.nextId 0
        (Fixture.ackFrame 5 8 1 0x10)) = some 2 ∧
      (recvBuffer 0 0 (Fixture.ackFrame 5 8 1 0x10)).segment.tcpFlags = .onlyAck ∧
      (recvBuffer 0 0 (Fixture.ackFrame 5 8 1 0x10)).segment.tcpAck = 1 ∧
      (Fixture.connected.tcpConn 2).map
        (fun conn => (conn.state, conn.rcv.nxt, conn.snt.una, conn.snt.nxt))
        = some (.handleEstab, (recvBuffer 0 0 (Fixture.ackFrame 5 8 1 0x10)).segment.tcpSeq, 0, 1) ∧
      (Op.recvFrame 0 (Fixture.ackFrame 5 8 1 0x10)).returns Fixture.connected = some .unit ∧
      (((Op.recvFrame 0 (Fixture.ackFrame 5 8 1 0x10)).after Fixture.connected).tcpConn 2).map
        (fun conn => conn.snt.una) = some 0 :=
  ⟨Fixture.connected_reachable, by decide +kernel, by decide, by decide, by decide +kernel,
    by decide +kernel, by decide +kernel⟩

end SimpleTcpip
