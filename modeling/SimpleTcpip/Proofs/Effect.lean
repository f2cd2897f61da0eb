/-
What a received segment does to the connections, exactly.

`tcp_input` looks at the socket, the connection, the state of the handshake and the
flags, and does one of five things.  `segmentAct` makes that choice as a function of the
segment and the tables, and `SegmentAct.conns` and `SegmentAct.socks` say what the tables
are afterwards.  What is sent in reply, and through which routes, does not come into it.
-/
import SimpleTcpip.Proofs.Connections
import SimpleTcpip.Proofs.Frame
import SimpleTcpip.Proofs.Send

namespace SimpleTcpip

open Fallible Relation

/-! ### The choice -/

/-- What `tcp_input` does with a segment. -/
inductive SegmentAct
  /-- Nothing. -/
  | refuse
  /-- It opens a connection on a listening socket. -/
  | connect (k : SockId) (sock : TcpSock)
  /-- It completes a handshake. -/
  | establish (c : ConnId) (conn : TcpConnectionSock)
  /-- It queues the segment. -/
  | deliver (c : ConnId) (conn : TcpConnectionSock)
  /-- It closes the connection, after it counted the FIN if there is one. -/
  | close (c : ConnId) (conn : TcpConnectionSock) (fin : Bool)

/-- `conn->state(conn, skb)`. -/
def stateAct (skb : SkBuff) (c : ConnId) (conn : TcpConnectionSock) : SegmentAct :=
  match conn.state with
  | .handleSynSent =>
      if skb.segment.tcpFlags.ack ∧ ¬ skb.segment.tcpFlags.syn ∧ skb.segment.tcpSeq = conn.rcv.nxt
      then .establish c conn else .refuse
  | .handleEstab =>
      if skb.segment.tcpSeq = conn.rcv.nxt then
        if skb.segment.tcpFlags.rst then .close c conn false
        else if skb.segment.tcpFlags.fin then .close c conn true
        else .deliver c conn
      else .refuse

/-- `tcp_input` once the socket is known. -/
def sockAct (w : World) (skb : SkBuff) (k : SockId) (sock : TcpSock) : SegmentAct :=
  match findMatchingConnection w sock skb.ipPacket.srcIp skb.segment.tcpSrc with
  | some c => (w.tcpConn c).elim .refuse (stateAct skb c)
  | none =>
      if sock.listening ∧ skb.segment.tcpFlags.syn ∧ ¬ skb.segment.tcpFlags.ack then .connect k sock
      else .refuse

/-- **What `tcp_input` does with a received segment.** -/
def segmentAct (w : World) (skb : SkBuff) : SegmentAct :=
  (rxSock w skb).elim .refuse fun k => (w.tcpSock k).elim .refuse (sockAct w skb k)

/-- The connections afterwards. -/
def SegmentAct.conns (w : World) (skb : SkBuff) : SegmentAct → ConnId → Option TcpConnectionSock
  | .refuse => w.tcpConn
  | .connect k _ =>
      Function.update w.tcpConn w.nextId (some ((skb.opens k).numbered 0 .synAck))
  | .establish c conn => Function.update w.tcpConn c (some { conn with state := .handleEstab })
  | .deliver c conn =>
      Function.update w.tcpConn c (some { conn with
        rcv := { conn.rcv with
          nxt := conn.rcv.nxt + UInt32.ofNat (skb.segment.pulled tcpHdrSize).len }
        rxSkb := skb.segment.pulled tcpHdrSize :: conn.rxSkb })
  | .close c conn fin =>
      Function.update w.tcpConn c (some { conn with
        rcv := { conn.rcv with nxt := conn.rcv.nxt + if fin then 1 else 0 } })

/-- The sockets afterwards. -/
def SegmentAct.socks (w : World) : SegmentAct → SockId → Option TcpSock
  | .connect k sock =>
      Function.update w.tcpSock k (some { sock with conns := w.nextId :: sock.conns })
  | .close c conn _ =>
      (w.tcpSock conn.parent).elim w.tcpSock fun parent =>
        Function.update w.tcpSock conn.parent (some { parent with
          conns := parent.conns.erase c, closedConns := c :: parent.closedConns })
  | _ => w.tcpSock

/-- The tables of `tcp.c` are those an act leaves. -/
structure Acted (act : SegmentAct) (skb : SkBuff) (w w' : World) : Prop where
  tcpSocks : w'.tcpSocks = w.tcpSocks
  tcpSock : w'.tcpSock = act.socks w
  tcpConn : w'.tcpConn = act.conns w skb

/-- The tests `tcp_input` has made when it chooses an act. -/
def SegmentAct.Checked (w : World) (skb : SkBuff) : SegmentAct → Prop
  | .refuse => True
  | .connect k sock =>
      rxSock w skb = some k ∧ w.tcpSock k = some sock ∧ rxConn w skb = none ∧
        sock.listening = true ∧ skb.segment.tcpFlags.syn = true ∧ skb.segment.tcpFlags.ack = false
  | .establish c conn =>
      rxConn w skb = some c ∧ w.tcpConn c = some conn ∧ conn.state = .handleSynSent ∧
        skb.segment.tcpFlags.ack = true ∧ skb.segment.tcpFlags.syn = false ∧
        skb.segment.tcpSeq = conn.rcv.nxt
  | .deliver c conn =>
      rxConn w skb = some c ∧ w.tcpConn c = some conn ∧ conn.state = .handleEstab ∧
        skb.segment.tcpSeq = conn.rcv.nxt ∧ skb.segment.tcpFlags.rst = false ∧
        skb.segment.tcpFlags.fin = false
  | .close c conn fin =>
      rxConn w skb = some c ∧ w.tcpConn c = some conn ∧ conn.state = .handleEstab ∧
        skb.segment.tcpSeq = conn.rcv.nxt ∧ skb.segment.tcpFlags.rst = !fin ∧
        (fin = true → skb.segment.tcpFlags.fin = true)

theorem stateAct_checked {w : World} {skb : SkBuff} {c : ConnId} {conn : TcpConnectionSock}
    (hfound : rxConn w skb = some c) (hc : w.tcpConn c = some conn) :
    (stateAct skb c conn).Checked w skb := by
  unfold stateAct
  split
  · rename_i hstate
    split
    · rename_i htests
      exact ⟨hfound, hc, hstate, htests.1, Bool.eq_false_iff.mpr htests.2.1, htests.2.2⟩
    · trivial
  · rename_i hstate
    split
    · rename_i hseq
      split
      · rename_i hrst
        exact ⟨hfound, hc, hstate, hseq, hrst, fun h => (nomatch h)⟩
      · rename_i hrst
        have hrst := Bool.eq_false_iff.mpr hrst
        split
        · rename_i hfin
          exact ⟨hfound, hc, hstate, hseq, hrst, fun _ => hfin⟩
        · rename_i hfin
          exact ⟨hfound, hc, hstate, hseq, hrst, Bool.eq_false_iff.mpr hfin⟩
    · trivial

/-- **An act is only chosen when its tests were passed.** -/
theorem segmentAct_checked (w : World) (skb : SkBuff) : (segmentAct w skb).Checked w skb := by
  unfold segmentAct
  cases hk : rxSock w skb with
  | none => trivial
  | some k =>
      rw [Option.elim_some]
      cases hsock : w.tcpSock k with
      | none => trivial
      | some sock =>
          rw [Option.elim_some]
          have hconn := rxConn_of_sock hk hsock
          unfold sockAct
          cases hfound : findMatchingConnection w sock skb.ipPacket.srcIp skb.segment.tcpSrc with
          | some c =>
              dsimp only
              cases hc : w.tcpConn c with
              | none => trivial
              | some conn => exact stateAct_checked (hconn.trans hfound) hc
          | none =>
              dsimp only
              split
              · rename_i htests
                exact ⟨hk, hsock, hconn.trans hfound, htests.1, htests.2.1,
                  Bool.eq_false_iff.mpr htests.2.2⟩
              · trivial

/-! ### The functions of tcp.c -/

section Handlers

variable {w w' : World} {skb : SkBuff} {depth : Nat} {r : Bool} {c : ConnId}
  {conn : TcpConnectionSock}

/-- A reset takes no sequence number. -/
theorem numbered_ackRst (conn : TcpConnectionSock) : conn.numbered 0 .ackRst = conn := by
  have hspan : seqSpan 0 .ackRst = 0 := by decide
  rw [TcpConnectionSock.numbered, hspan, UInt32.add_zero]

/-- An empty segment always fits a new connection's window. -/
theorem exceedsWindow_opens (skb : SkBuff) (k : SockId) : exceedsWindow (skb.opens k) 0 = false := by
  rw [exceedsWindow, decide_eq_false_iff_not, Nat.not_lt]
  exact Nat.zero_le _

/-- **`close_connection`** moves the connection, and the reset it sends changes no table. -/
theorem closeConnection_tables {parent : TcpSock} (hconn : w.tcpConn c = some conn)
    (hparent : w.tcpSock conn.parent = some parent)
    (hrun : closeConnection (ipInputDepth depth) c w = .ok r w') :
    w'.tcpSocks = w.tcpSocks ∧ w'.tcpConn = w.tcpConn ∧
      w'.tcpSock = Function.update w.tcpSock conn.parent (some { parent with
        conns := parent.conns.erase c, closedConns := c :: parent.closedConns }) := by
  obtain ⟨_, w1, h1, hrun⟩ := bind_ok_iff.mp hrun
  obtain ⟨hsocks, hsock, htcp⟩ := tcpOut_frame hconn h1
  have hsame : w1.tcpConn = w.tcpConn := by
    rcases htcp with heq | heq
    · exact heq
    · rw [heq, List.length_nil, numbered_ackRst, ← hconn, Function.update_eq_self]
  obtain ⟨conn', hconn', hrun⟩ := bind_ok_of_eq (derefTcpConn_reads c) hrun
  rw [derefTcpConn_ok, hsame, hconn] at hconn'
  obtain rfl := Option.some.inj hconn'.1
  obtain ⟨parent', hparent', hrun⟩ := bind_ok_of_eq (derefTcpSock_reads _) hrun
  rw [derefTcpSock_ok, hsock, hparent] at hparent'
  obtain rfl := Option.some.inj hparent'.1
  obtain ⟨_, w2, h2, hdone⟩ := bind_ok_iff.mp hrun
  cases hdone
  rw [setTcpSock_ok] at h2
  rw [h2]
  exact ⟨hsocks, hsame, by rw [hsock]⟩

/-- A completed `close_connection` followed the connection's pointer to its socket. -/
theorem closeConnection_parent (hconn : w.tcpConn c = some conn)
    (hrun : closeConnection (ipInputDepth depth) c w = .ok r w') :
    ∃ parent, w.tcpSock conn.parent = some parent := by
  obtain ⟨_, w1, h1, -⟩ := bind_ok_iff.mp hrun
  exact tcpOut_parent hconn h1

theorem handleEstab_acted (hconn : w.tcpConn c = some conn) (hstate : conn.state = .handleEstab)
    (hrun : handleEstab (ipInputDepth depth) c skb.segment w = .ok r w') :
    Acted (stateAct skb c conn) skb w w' := by
  obtain ⟨seq, hseq, hrun⟩ := bind_ok_of_eq (readTcpSeq_reads _ _) hrun
  obtain ⟨-, rfl, -⟩ := readTcpSeq_ok.mp hseq
  obtain ⟨conn', hconn', hrun⟩ := bind_ok_of_eq (derefTcpConn_reads c) hrun
  rw [derefTcpConn_ok, hconn] at hconn'
  obtain rfl := Option.some.inj hconn'.1
  unfold stateAct
  rw [hstate]
  split at hrun
  · rename_i hseq
    rw [if_pos (show skb.segment.tcpSeq = conn.rcv.nxt from hseq)]
    obtain ⟨flags, hflags, hrun⟩ := bind_ok_of_eq (readTcpFlags_reads _ _) hrun
    obtain ⟨-, rfl, -⟩ := readTcpFlags_ok.mp hflags
    split at hrun
    · rename_i hrst
      rw [if_pos (show skb.segment.tcpFlags.rst = true from hrst)]
      obtain ⟨parent, hparent⟩ := closeConnection_parent hconn hrun
      obtain ⟨hsocks, htcp, hsock⟩ := closeConnection_tables hconn hparent hrun
      refine ⟨hsocks, ?_, ?_⟩
      · rw [hsock, SegmentAct.socks, hparent]
        rfl
      · rw [htcp, SegmentAct.conns, if_neg Bool.false_ne_true, UInt32.add_zero, ← hconn,
          Function.update_eq_self]
    rename_i hrst
    rw [if_neg (show ¬ skb.segment.tcpFlags.rst = true from hrst)]
    split at hrun
    · rename_i hfin
      rw [if_pos (show skb.segment.tcpFlags.fin = true from hfin)]
      obtain ⟨_, w1, h1, hrun⟩ := bind_ok_iff.mp hrun
      rw [setTcpConn_ok] at h1
      have hconn1 : w1.tcpConn c
          = some { conn with rcv := { conn.rcv with nxt := conn.rcv.nxt + 1 } } := by
        rw [h1]
        exact Function.update_self ..
      have hsock1 : w1.tcpSock = w.tcpSock := by rw [h1]
      obtain ⟨parent, hparent⟩ := closeConnection_parent hconn1 hrun
      obtain ⟨hsocks, htcp, hsock⟩ := closeConnection_tables hconn1 hparent hrun
      rw [hsock1] at hparent
      refine ⟨?_, ?_, ?_⟩
      · rw [hsocks, h1]
      · rw [hsock, SegmentAct.socks, hparent, hsock1]
        rfl
      · rw [htcp, h1]
        rfl
    · rename_i hfin
      rw [if_neg (show ¬ skb.segment.tcpFlags.fin = true from hfin)]
      obtain ⟨s, hs, hrun⟩ := bind_ok_of_eq (skbPull_reads _ _) hrun
      obtain ⟨-, -, rfl, -⟩ := skbPull_ok.mp hs
      obtain ⟨_, w1, h1, hdone⟩ := bind_ok_iff.mp hrun
      cases hdone
      rw [setTcpConn_ok] at h1
      rw [h1]
      exact ⟨rfl, rfl, rfl⟩
  · rename_i hseq
    rw [if_neg (show ¬ skb.segment.tcpSeq = conn.rcv.nxt from hseq)]
    cases hrun
    exact ⟨rfl, rfl, rfl⟩

theorem handleSynSent_acted (hconn : w.tcpConn c = some conn)
    (hstate : conn.state = .handleSynSent)
    (hrun : handleSynSent c skb.segment w = .ok r w') : Acted (stateAct skb c conn) skb w w' := by
  obtain ⟨flags, hflags, hrun⟩ := bind_ok_of_eq (readTcpFlags_reads _ _) hrun
  obtain ⟨-, rfl, -⟩ := readTcpFlags_ok.mp hflags
  unfold stateAct
  rw [hstate]
  dsimp only
  split at hrun
  · rename_i hflags
    obtain ⟨seq, hseq, hrun⟩ := bind_ok_of_eq (readTcpSeq_reads _ _) hrun
    obtain ⟨-, rfl, -⟩ := readTcpSeq_ok.mp hseq
    obtain ⟨conn', hconn', hrun⟩ := bind_ok_of_eq (derefTcpConn_reads c) hrun
    rw [derefTcpConn_ok, hconn] at hconn'
    obtain rfl := Option.some.inj hconn'.1
    split at hrun
    · rename_i hseq
      rw [if_pos ⟨hflags.1, hflags.2, hseq⟩]
      obtain ⟨_, w1, h1, hdone⟩ := bind_ok_iff.mp hrun
      cases hdone
      rw [setTcpConn_ok] at h1
      rw [h1]
      exact ⟨rfl, rfl, rfl⟩
    · rename_i hseq
      rw [if_neg fun h => hseq h.2.2]
      cases hrun
      exact ⟨rfl, rfl, rfl⟩
  · rename_i hflags
    rw [if_neg fun h => hflags ⟨h.1, h.2.1⟩]
    cases hrun
    exact ⟨rfl, rfl, rfl⟩

theorem handleNewConnection_acted {k : SockId} {sock : TcpSock} (hk : w.tcpSock k = some sock)
    (hrun : handleNewConnection (ipInputDepth depth) k skb.segment w = .ok r w') :
    Acted (.connect k sock) skb w w' := by
  obtain ⟨-, sent, hout⟩ := handleNewConnection_run hk hrun
  have hconn := connecting_tcpConn (w := w) skb k sock
  obtain ⟨hsocks, hsock, htcp⟩ := tcpOut_frame hconn hout
  refine ⟨hsocks, hsock, ?_⟩
  -- the answer to the SYN fits the window, and takes its number
  obtain ⟨parent, hparent⟩ := tcpOut_parent hconn hout
  rw [(tcpOut_sent hconn hparent (by exact exceedsWindow_opens skb k) hout).2]
  exact Function.update_idem ..

/-- Recording that the IP header was read makes no difference. -/
theorem Acted.of_log {act : SegmentAct} {e : Event}
    (h : Acted act skb { w with trace := w.trace ++ [e] } w') : Acted act skb w w' := by
  refine ⟨h.tcpSocks, h.tcpSock.trans ?_, h.tcpConn.trans ?_⟩
  · cases act <;> rfl
  · cases act <;> rfl

/-- **A completed `tcp_input` did to the tables what `segmentAct` says.** -/
theorem tcpInput_acted (hrun : tcpInput (ipInputDepth depth) skb.segment w = .ok r w') :
    Acted (segmentAct w skb) skb w w' := by
  unfold segmentAct
  cases tcpInput_ok hrun with
  | unheard hsock _ hw =>
      rw [hsock, hw]
      exact ⟨rfl, rfl, rfl⟩
  | synSent hsock hk hfound hconn hstate hrun =>
      rw [hsock, Option.elim_some, hk, Option.elim_some, sockAct, hfound]
      dsimp only
      rw [hconn, Option.elim_some]
      exact (handleSynSent_acted (w := w.followed skb) hconn hstate hrun).of_log
  | estab hsock hk hfound hconn hstate hrun =>
      rw [hsock, Option.elim_some, hk, Option.elim_some, sockAct, hfound]
      dsimp only
      rw [hconn, Option.elim_some]
      exact (handleEstab_acted (w := w.followed skb) hconn hstate hrun).of_log
  | opened hsock hk hfound hopens hrun =>
      rw [hsock, Option.elim_some, hk, Option.elim_some, sockAct, hfound]
      dsimp only
      rw [if_pos hopens]
      exact (handleNewConnection_acted (w := w.followed skb) hk hrun).of_log
  | refused hsock hk hfound hopens _ hw =>
      rw [hsock, Option.elim_some, hk, Option.elim_some, sockAct, hfound]
      dsimp only
      rw [if_neg hopens, hw]
      exact ⟨rfl, rfl, rfl⟩

end Handlers

/-! ### Frames -/

section Frames

variable {sc : Scope} {w w' : World}

/-- A call that received no segment and sends on no connection leaves the tables of tcp.c. -/
theorem Change.tables (h : Change sc w w') (hto : ∀ skb, ¬ sc.accepts ipProtoTcp skb)
    (hsender : ∀ c, ¬ sc.sender c) (hlt : ∀ c, (w.tcpConn c).isSome → c < sc.base) :
    w'.tcpSock = w.tcpSock ∧ w'.tcpConn = w.tcpConn := by
  cases h with
  | sends h => exact ⟨h.tcpSock, h.tcpConn⟩
  | forwards _ _ _ _ _ _ _ h => exact ⟨h.tcpSock, h.tcpConn⟩
  | flushed _ _ h => exact ⟨h.tcpSock, h.tcpConn⟩
  | connected _ haccepts => exact absurd haccepts (hto _)
  | established _ haccepts => exact absurd haccepts (hto _)
  | delivered _ haccepts => exact absurd haccepts (hto _)
  | finished _ haccepts => exact absurd haccepts (hto _)
  | closed _ haccepts => exact absurd haccepts (hto _)
  | @numbered c conn span hc hspan =>
      have hzero : span = 0 := by
        rcases hspan with h | h | h
        · exact absurd h (hsender c)
        · exact absurd (hlt c (by rw [hc]; rfl)) (Nat.not_lt.mpr h)
        · exact h
      refine ⟨rfl, ?_⟩
      change Function.update w.tcpConn c _ = w.tcpConn
      rw [hzero, UInt32.add_zero, ← hc, Function.update_eq_self]
  | _ => exact ⟨rfl, rfl⟩

theorem Changes.tables (h : Changes sc w w') (hb : sc.base ≤ w.nextId)
    (hto : ∀ skb, ¬ sc.accepts ipProtoTcp skb) (hsender : ∀ c, ¬ sc.sender c)
    (hlt : ∀ c, (w.tcpConn c).isSome → c < sc.base) :
    w'.tcpSocks = w.tcpSocks ∧ w'.tcpSock = w.tcpSock ∧ w'.tcpConn = w.tcpConn := by
  refine ⟨by rw [h.frame hb], ?_⟩
  refine h.induct (I := fun t => t.tcpSock = w.tcpSock ∧ t.tcpConn = w.tcpConn) ?_ hb ⟨rfl, rfl⟩
  intro t t' ht hchange
  have hsame := hchange.tables hto hsender (by rw [ht.2]; exact hlt)
  exact ⟨hsame.1.trans ht.1, hsame.2.trans ht.2⟩

/-- **What a completed `pkt_receive` did to the connections.** -/
theorem pktReceive_acted {i : IntfId} {frame : List UInt8} {r : Bool} {t : World}
    (hlt : ∀ c, (w.tcpConn c).isSome → c < w.nextId)
    (hrun : pktReceive (recvBuffer w.nextId i frame) (w.received i frame) = .ok r t) :
    TakenTo (w.received i frame) ipProtoTcp (recvBuffer w.nextId i frame) ∧
        Acted (segmentAct (w.received i frame) (recvBuffer w.nextId i frame))
          (recvBuffer w.nextId i frame) (w.received i frame) t ∨
      ¬ TakenTo (w.received i frame) ipProtoTcp (recvBuffer w.nextId i frame) ∧
        Acted .refuse (recvBuffer w.nextId i frame) (w.received i frame) t := by
  by_cases htaken : TakenTo (w.received i frame) ipProtoTcp (recvBuffer w.nextId i frame)
  · refine Or.inl ⟨htaken, ?_⟩
    cases pktReceive_ok hrun with
    | ignored hno => exact absurd htaken.1 hno
    | arp hno => exact absurd htaken.1 hno
    | forwarded hno => exact absurd htaken.1 hno
    | delivered _ hin =>
        have hproto := htaken.2
        cases ipInput_ok hin with
        | icmp hicmp => exact absurd (hproto.symm.trans hicmp) (by decide)
        | udp hudp => exact absurd (hproto.symm.trans hudp) (by decide)
        | refused _ htcp => exact absurd hproto htcp
        | tcp _ htcp => exact (tcpInput_acted htcp).of_log
  · refine Or.inr ⟨htaken, ?_⟩
    have hchanges : Changes (frameScope w i frame) (w.received i frame)
        (final (pktReceive (recvBuffer w.nextId i frame)) (w.received i frame)) :=
      pktReceive_changes rfl (fun hip => ⟨rfl, hip, rfl⟩) fun _ hc => hc
    rw [final_of_ok hrun] at hchanges
    obtain ⟨hsocks, hsock, hconn⟩ := hchanges.tables (Nat.le_refl _)
      (by rintro skb ⟨rfl, h⟩; exact htaken h) (fun _ h => h) fun c hc => Nat.lt_succ_of_lt (hlt c hc)
    exact ⟨hsocks, hsock, hconn⟩

/-- What happens after `pkt_receive` is not its concern. -/
theorem recvFrame_acted {i : IntfId} {frame : List UInt8} {u : Unit}
    (hlt : ∀ c, (w.tcpConn c).isSome → c < w.nextId) (hrun : recvFrame i frame w = .ok u w') :
    TakenTo (w.received i frame) ipProtoTcp (recvBuffer w.nextId i frame) ∧
        Acted (segmentAct (w.received i frame) (recvBuffer w.nextId i frame))
          (recvBuffer w.nextId i frame) (w.received i frame) w' ∨
      ¬ TakenTo (w.received i frame) ipProtoTcp (recvBuffer w.nextId i frame) ∧
        Acted .refuse (recvBuffer w.nextId i frame) (w.received i frame) w' := by
  obtain ⟨skb, w1, h1, hrun⟩ := bind_ok_iff.mp hrun
  rw [recvSkb_eq] at h1
  cases h1
  obtain ⟨r, t, ht, hfree⟩ := bind_ok_iff.mp hrun
  have hsame := freeSkbIf_trace hfree
  have hacted : ∀ {act}, Acted act (recvBuffer w.nextId i frame) (w.received i frame) t →
      Acted act (recvBuffer w.nextId i frame) (w.received i frame) w' := by
    intro act h
    rw [hsame]
    exact ⟨h.tcpSocks, h.tcpSock, h.tcpConn⟩
  exact (pktReceive_acted hlt ht).imp (fun h => ⟨h.1, hacted h.2⟩) fun h => ⟨h.1, hacted h.2⟩

/-- **Only a SYN creates a connection.** -/
theorem recvFrame_created {i : IntfId} {frame : List UInt8} {u : Unit} {c : ConnId}
    {conn : TcpConnectionSock} (hlt : ∀ c, (w.tcpConn c).isSome → c < w.nextId)
    (hrun : recvFrame i frame w = .ok u w') (hnone : w.tcpConn c = none)
    (hc : w'.tcpConn c = some conn) :
    ∃ k sock, (SegmentAct.connect k sock).Checked (w.received i frame)
        (recvBuffer w.nextId i frame) ∧ c = (w.received i frame).nextId ∧
      conn = ((recvBuffer w.nextId i frame).opens k).numbered 0 .synAck := by
  have hother : (w.received i frame).tcpConn c = none := hnone
  rcases recvFrame_acted hlt hrun with ⟨-, hacted⟩ | ⟨-, hacted⟩
  · have hchecked := segmentAct_checked (w.received i frame) (recvBuffer w.nextId i frame)
    -- any other act writes where a connection was
    have hold : ∀ {c' : ConnId} {conn' x : TcpConnectionSock},
        (w.received i frame).tcpConn c' = some conn' →
        Function.update (w.received i frame).tcpConn c' (some x) c ≠ some conn := by
      intro c' conn' x hlive hupd
      by_cases heq : c = c'
      · rw [← heq, hother] at hlive
        cases hlive
      · rw [Function.update_of_ne heq, hother] at hupd
        cases hupd
    rw [hacted.tcpConn] at hc
    cases hact : segmentAct (w.received i frame) (recvBuffer w.nextId i frame) with
    | refuse =>
        rw [hact, SegmentAct.conns, hother] at hc
        cases hc
    | connect k sock =>
        rw [hact] at hc hchecked
        change Function.update (w.received i frame).tcpConn (w.received i frame).nextId
          (some ((SkBuff.opens _ k).numbered 0 .synAck)) c = some conn at hc
        by_cases heq : c = (w.received i frame).nextId
        · rw [heq, Function.update_self] at hc
          exact ⟨k, sock, hchecked, heq, (Option.some.inj hc).symm⟩
        · rw [Function.update_of_ne heq, hother] at hc
          cases hc
    | establish c' conn' =>
        rw [hact] at hc hchecked
        exact absurd hc (hold hchecked.2.1)
    | deliver c' conn' =>
        rw [hact] at hc hchecked
        exact absurd hc (hold hchecked.2.1)
    | close c' conn' fin =>
        rw [hact] at hc hchecked
        exact absurd hc (hold hchecked.2.1)
  · rw [hacted.tcpConn, SegmentAct.conns, hother] at hc
    cases hc

end Frames

end SimpleTcpip
