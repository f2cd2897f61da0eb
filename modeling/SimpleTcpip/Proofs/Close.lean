/-
Closing: a connection that was reset or finished, and a socket closed under its
connections.

A closed connection is on `closed_conns` of its socket, its state is still
`handle_estab`, and its descriptor still denotes it.  Segments no longer find it, so its
sequence numbers stand still unless somebody sends on it; `tcp_send` does not look at the
list and sends.  `tcp_close` frees a socket whatever refers to it.
-/
import SimpleTcpip.Proofs.Handshake
import SimpleTcpip.Proofs.Send

namespace SimpleTcpip

open Fallible Relation

/-! ### A closed connection -/

/-- A connection was moved to `closed_conns`. -/
def Closed (w : World) (c : ConnId) : Prop :=
  ∃ k sock, w.tcpSock k = some sock ∧ c ∈ sock.closedConns

/-- What is left of that after its socket is gone: no socket finds the connection. -/
structure Retired (w : World) (c : ConnId) : Prop where
  estab : Established w c
  unlisted : ∀ k sock, w.tcpSock k = some sock → c ∉ sock.conns

theorem Closed.retired {w : World} {c : ConnId} (hw : ConnTables w) (h : Closed w c) :
    Retired w c := by
  obtain ⟨k, sock, hk, hc⟩ := h
  refine ⟨hw.closed k sock c hk hc, fun k' sock' hk' hc' => ?_⟩
  have hparent := hw.parent k sock c hk (List.mem_append_right _ hc)
  rw [hw.parent k' sock' c hk' (List.mem_append_left _ hc')] at hparent
  obtain rfl : k' = k := Option.some.inj hparent
  obtain rfl : sock = sock' := Option.some.inj (hk.symm.trans hk')
  exact (List.nodup_append.mp (hw.nodup k' sock hk)).2.2 c hc' c hc rfl

/-- A retired connection receives no segment. -/
theorem Retired.not_found {w : World} {c : ConnId} (h : Retired w c) (skb : SkBuff) :
    rxConn w skb ≠ some c := by
  intro hfound
  obtain ⟨k, sock, -, hk, hmem, -⟩ := rxConn_some hfound
  exact h.unlisted k sock hk hmem

/-- The sequence state of a connection. -/
def TcpConnectionSock.sequence (conn : TcpConnectionSock) : TcpSnt × TcpRcv := (conn.snt, conn.rcv)

/-- **A change leaves the sequence state of a retired connection alone**, unless the call
sends on it. -/
theorem Change.sequence {sc : Scope} {w w' : World} {c : ConnId} (h : Change sc w w')
    (hc : Retired w c) (hlt : c < sc.base) (hid : sc.base ≤ w.nextId) (hsender : ¬ sc.sender c) :
    (w'.tcpConn c).map TcpConnectionSock.sequence
      = (w.tcpConn c).map TcpConnectionSock.sequence := by
  have hother : ∀ {c' : ConnId} {skb : SkBuff} {conn : TcpConnectionSock},
      rxConn w skb = some c' → Function.update w.tcpConn c' (some conn) c = w.tcpConn c := by
    intro c' skb conn hseg
    refine Function.update_of_ne (fun heq => ?_) _ _
    subst heq
    exact hc.not_found skb hseg
  cases h with
  | sends h => rw [h.tcpConn]
  | forwards _ _ _ _ _ _ _ h => rw [h.tcpConn]
  | flushed _ _ h => rw [h.tcpConn]; rfl
  | connected =>
      exact congrArg _ (Function.update_of_ne (Nat.ne_of_lt (Nat.lt_of_lt_of_le hlt hid)) _ _)
  | established _ _ _ hseg => exact congrArg _ (hother hseg)
  | delivered _ _ _ hseg => exact congrArg _ (hother hseg)
  | finished _ _ _ hseg => exact congrArg _ (hother hseg)
  | @numbered c' conn span hc' hspan =>
      by_cases heq : c = c'
      · subst heq
        have hzero : span = 0 := by
          rcases hspan with h | h | h
          · exact absurd h hsender
          · exact absurd h (Nat.not_le.mpr hlt)
          · exact h
        refine map_update_of_eq hc' ?_ c
        rw [hzero, UInt32.add_zero]
      · exact congrArg _ (Function.update_of_ne heq _ _)
  | _ => rfl

/-- No socket finds a retired connection again. -/
theorem Change.retired {sc : Scope} {w w' : World} {c : ConnId} (h : Change sc w w')
    (hc : Retired w c) (hlt : c < w.nextId) : Retired w' c := by
  refine ⟨h.estab hlt hc.estab, fun k sock hk hmem => ?_⟩
  have hupdate : ∀ {k' : SockId} {new : TcpSock}, c ∉ new.conns →
      Function.update w.tcpSock k' (some new) k = some sock → False := by
    intro k' new hnew hk
    by_cases heq : k = k'
    · rw [heq, Function.update_self] at hk
      obtain rfl := Option.some.inj hk
      exact hnew hmem
    · rw [Function.update_of_ne heq] at hk
      exact hc.unlisted k sock hk hmem
  cases h with
  | sends h =>
      rw [h.tcpSock] at hk
      exact hc.unlisted k sock hk hmem
  | forwards _ _ _ _ _ _ _ h =>
      rw [h.tcpSock] at hk
      exact hc.unlisted k sock hk hmem
  | flushed _ _ h =>
      rw [h.tcpSock] at hk
      exact hc.unlisted k sock hk hmem
  | connected _ _ _ _ hk' =>
      refine hupdate (fun hin => ?_) hk
      rcases List.mem_cons.mp hin with heq | hin
      · exact absurd hlt (by rw [heq]; exact Nat.lt_irrefl _)
      · exact hc.unlisted _ _ hk' hin
  | closed _ _ _ _ _ _ hk' =>
      exact hupdate (fun hin => hc.unlisted _ _ hk' (List.mem_of_mem_erase hin)) hk
  | _ => exact hc.unlisted k sock hk hmem

theorem SocketStep.retired {closes : Int → Prop} {w w' : World} {c : ConnId}
    (hs : SocketStep closes w w') (hc : Retired w c) : Retired w' c := by
  have hupdate : ∀ {k k' : SockId} {sock : TcpSock} {new : Option TcpSock},
      (∀ s, new = some s → c ∉ s.conns) →
      Function.update w.tcpSock k' new k = some sock → c ∉ sock.conns := by
    intro k k' sock new hnew hk
    by_cases heq : k = k'
    · rw [heq, Function.update_self] at hk
      exact hnew sock hk
    · rw [Function.update_of_ne heq] at hk
      exact hc.unlisted k sock hk
  cases hs with
  | unchanged => exact hc
  | opened =>
      exact ⟨hc.estab, fun k sock => hupdate fun s hs => Option.some.inj hs ▸ List.not_mem_nil⟩
  | bound hk =>
      have hold := hc.unlisted _ _ hk
      exact ⟨hc.estab, fun k sock => hupdate fun s hs => Option.some.inj hs ▸ hold⟩
  | listening hk =>
      have hold := hc.unlisted _ _ hk
      exact ⟨hc.estab, fun k sock => hupdate fun s hs => Option.some.inj hs ▸ hold⟩
  | closed =>
      exact ⟨hc.estab, fun k sock => hupdate fun s hs => (nomatch hs)⟩

/-- **A retired connection stays retired, and keeps its sequence state through every call that
does not send on it.** -/
theorem Retired.after {w : World} {c : ConnId} (hw : ConnTables w) (hc : Retired w c) (op : Op) :
    Retired (op.after w) c ∧ (¬ (op.scope w).sender c →
      ((op.after w).tcpConn c).map TcpConnectionSock.sequence
        = (w.tcpConn c).map TcpConnectionSock.sequence) := by
  have hlt : c < (op.scope w).base := by
    rw [Op.base_scope]
    exact Nat.lt_of_lt_of_le (hw.connLt c hc.estab.isSome) (nextId_le_begun op w)
  have hall : (op.scope w).base ≤ (op.after w).nextId ∧ Retired (op.after w) c ∧
      (¬ (op.scope w).sender c → ((op.after w).tcpConn c).map TcpConnectionSock.sequence
        = (w.tcpConn c).map TcpConnectionSock.sequence) := by
    refine invariant_after (I := fun t => (op.scope w).base ≤ t.nextId ∧ Retired t c ∧
      (¬ (op.scope w).sender c → (t.tcpConn c).map TcpConnectionSock.sequence
        = (w.tcpConn c).map TcpConnectionSock.sequence)) ?_ (fun t t' ht hchange => ?_)
      fun hquiet => ?_
    · rw [Op.base_scope]
      cases op <;> exact ⟨Nat.le_refl _, ⟨hc.estab, hc.unlisted⟩, fun _ => rfl⟩
    · obtain ⟨hid, hretired, hsame⟩ := ht
      refine ⟨Nat.le_trans hid hchange.nextId_le,
        hchange.retired hretired (Nat.lt_of_lt_of_le hlt hid), fun hsender => ?_⟩
      rw [hchange.sequence hretired hlt hid hsender, hsame hsender]
    · refine ⟨?_, ?_, fun _ => hquiet.conn (fun _ => rfl) c⟩
      · rw [Op.base_scope]
        exact nextId_le_after op w
      · rcases hquiet.parts .tcp with hown | ⟨hsock, -, -⟩
        · exact (socketStep_after hown w).retired hc
        · refine ⟨(hquiet.conn (fun _ => rfl) c).trans hc.estab, ?_⟩
          rw [hsock]
          exact hc.unlisted
  exact hall.2

/-! ### Sends on a closed connection -/

/-- What a closed connection asks of a call: a send on it fails and emits nothing, and its
sequence state stays. -/
def StaysClosed (c : ConnId) (call : Call) : Prop :=
  ((call.sendsOn c).isSome → call.ret = .int (-1) ∧ call.emitted c = []) ∧
    (call.after.tcpConn c).map TcpConnectionSock.sequence
      = (call.before.tcpConn c).map TcpConnectionSock.sequence

/-- **A completed `tcp_send` on an established connection returns a size or hands a segment to
`ip_output`.** -/
theorem tcpSend_estab {depth : Nat} {connfd n : Int} {buff : List UInt8} {w w' : World} {c : ConnId}
    (hfd : goodTcpConnectionSock w connfd = some c) (hc : Established w c)
    (hrun : tcpSend (ipInputDepth depth) connfd buff w = .ok n w') : 0 ≤ n ∨ outputs w w' ≠ [] := by
  obtain ⟨t, t', hget, hrest⟩ := bind_ok_iff.mp hrun
  cases hget
  rw [hfd] at hrest
  obtain ⟨conn, t1, hderef, hbody⟩ := bind_ok_iff.mp hrest
  obtain ⟨hconn, rfl⟩ := derefTcpConn_ok.mp hderef
  have hstate : conn.state = .handleEstab := by
    unfold Established at hc
    rw [hconn] at hc
    exact Option.some.inj hc
  rw [if_neg (not_not.mpr hstate)] at hbody
  obtain ⟨result, t', hout, hret⟩ := bind_ok_iff.mp hbody
  obtain ⟨hn, rfl⟩ := EStateM.Result.ok.inj hret
  obtain ⟨parent, hparent⟩ := tcpOut_parent hconn hout
  have hlen : (buff.take (min buff.length maxTcpPayload)).length
      = min buff.length maxTcpPayload := by
    rw [List.length_take]
    omega
  cases hwin : exceedsWindow conn (min buff.length maxTcpPayload) with
  | true =>
      rw [tcpOut_run hconn hparent, hlen, hwin, if_pos rfl] at hout
      obtain ⟨rfl, -⟩ := EStateM.Result.ok.inj hout
      left
      rw [← hn, if_pos rfl]
      exact Int.natCast_nonneg _
  | false =>
      obtain ⟨houts, -⟩ := tcpOut_sent hconn hparent (by rw [hlen]; exact hwin) hout
      right
      rw [houts]
      exact List.cons_ne_nil _ _

/-- What a call on a retired connection does. -/
theorem staysClosed_iff {call : Call} {c : ConnId} (hw : ConnTables call.before)
    (hc : Retired call.before c)
    (hrun : runOp call.op call.before = .ok call.ret call.after) :
    StaysClosed c call ↔ call.sendsOn c = none := by
  obtain ⟨w, op, r, w'⟩ := call
  obtain rfl : op.after w = w' := final_of_ok hrun
  constructor
  · intro hstays
    cases hon : Call.sendsOn c ⟨w, op, r, op.after w⟩ with
    | none => rfl
    | some buff =>
        obtain ⟨hret, hnone⟩ := hstays.1 (by rw [hon]; rfl)
        obtain ⟨connfd, hop, hfd⟩ := sendsOn_eq_some hon
        obtain rfl : op = .tcpSend connfd buff := hop
        obtain ⟨n, t, hsend, heq⟩ := bind_ok_iff.mp hrun
        obtain ⟨hr, ht⟩ := EStateM.Result.ok.inj heq
        obtain rfl : r = .int (-1) := hret
        obtain rfl : n = -1 := Ret.int.inj hr
        rw [Call.emitted, hon, if_pos (by rfl), List.map_eq_nil_iff] at hnone
        rcases tcpSend_estab hfd hc.estab hsend with hn | houts
        · exact absurd hn (by decide)
        · exact absurd (ht ▸ hnone) houts
  · intro hnone
    refine ⟨fun hsome => ?_, (hc.after hw op).2 fun hsender => ?_⟩
    · rw [hnone] at hsome
      cases hsome
    · have hsome : (Call.sendsOn c ⟨w, op, r, op.after w⟩).isSome := sender_sendsOn hsender
      rw [hnone] at hsome
      cases hsome

theorem Run.retired {w₀ w : World} {calls : List Call} {c : ConnId} (hrun : Run w₀ calls w)
    (hw : Reachable w₀) (hc : Retired w₀ c) :
    Retired w c ∧ ∀ call ∈ calls, Retired call.before c := by
  induction hrun with
  | nil => exact ⟨hc, fun call hmem => (nomatch hmem)⟩
  | @snoc calls t t' op r hcalls _ hop ih =>
      obtain rfl : op.after t = t' := final_of_ok hop
      refine ⟨(ih.1.after (hcalls.reachable hw).connTables op).1, fun call hmem => ?_⟩
      rcases List.mem_append.mp hmem with hmem | hmem
      · exact ih.2 call hmem
      · obtain rfl := List.mem_singleton.mp hmem
        exact ih.1

/-- **A connection that was closed stays closed exactly in the runs that do not send on
it.** -/
theorem closed_stays_closed {w₀ w : World} {calls : List Call} {c : ConnId} (hw : Reachable w₀)
    (hc : Closed w₀ c) (hrun : Run w₀ calls w) :
    (∀ call ∈ calls, StaysClosed c call) ↔ ∀ call ∈ calls, call.sendsOn c = none := by
  have hretired := (hrun.retired hw (hc.retired hw.connTables)).2
  have hiff : ∀ call ∈ calls, (StaysClosed c call ↔ call.sendsOn c = none) := by
    intro call hmem
    obtain ⟨hreach, -, hcall⟩ := hrun.call hw hmem
    exact staysClosed_iff hreach.connTables (hretired call hmem) hcall
  constructor
  · intro h call hmem
    exact (hiff call hmem).mp (h call hmem)
  · intro h call hmem
    exact (hiff call hmem).mpr (h call hmem)

theorem closed_of_contains {w : World} {k : SockId} {c : ConnId}
    (h : (w.tcpSock k).any (fun sock => sock.closedConns.contains c) = true) : Closed w c := by
  obtain ⟨sock, hk, hc⟩ := (Option.any_eq_true _ _).mp h
  exact ⟨k, sock, hk, List.contains_iff_mem.mp hc⟩

theorem closed_stays_closed_fixture :
    ∃ call : Call, call.before = Fixture.reset ∧
      call.op = .recvFrame 0 (Fixture.tcpFrame 5 8 0x10 [1, 2]) ∧ StaysClosed 2 call := by
  have hreturns : (Op.recvFrame 0 (Fixture.tcpFrame 5 8 0x10 [1, 2])).returns Fixture.reset
      = some .unit := by decide +kernel
  have hvalid : (Op.recvFrame 0 (Fixture.tcpFrame 5 8 0x10 [1, 2])).Valid Fixture.reset := by
    decide +kernel
  have hclosed : (Fixture.reset.tcpSock 0).any (fun sock => sock.closedConns.contains 2) = true := by
    decide +kernel
  have hreach := Fixture.reset_reachable
  generalize Fixture.reset = w at *
  have hrun := Op.returns_run hreturns
  refine ⟨⟨w, _, _, _⟩, rfl, rfl, (closed_stays_closed hreach (closed_of_contains hclosed)
    (Run.nil.snoc hvalid hrun)).mpr ?_ _ List.mem_cons_self⟩
  intro call hmem
  obtain rfl := List.mem_singleton.mp hmem
  rfl

/-- **Three bytes are sent on a connection that was reset.** -/
theorem closed_still_sends :
    Reachable Fixture.reset ∧
      (Fixture.reset.tcpSock 0).any (fun sock => sock.closedConns.contains 2) = true ∧
      goodTcpConnectionSock Fixture.reset 0 = some 2 ∧
      (Op.tcpSend 0 [1, 2, 3]).returns Fixture.reset = some (.int 3) ∧
      (outputs Fixture.reset ((Op.tcpSend 0 [1, 2, 3]).after Fixture.reset)).map
        (fun p => (p.1, p.2.tcpPayload)) = [(ipProtoTcp, [1, 2, 3])] :=
  ⟨Fixture.reset_reachable, by decide +kernel, by decide +kernel, by decide +kernel,
    by decide +kernel⟩

/-! ### Sockets and their connections -/

/-- Every connection behind a descriptor has a socket that is still open. -/
def ParentsOpen (w : World) : Prop :=
  ∀ fd c, w.fdConnToSock fd = some c → ∃ conn parent sfd, w.tcpConn c = some conn ∧
    w.tcpSock conn.parent = some parent ∧ w.tcpFdToSock sfd = some conn.parent

/-- A call closes no socket that the connection behind a descriptor belongs to. -/
def ClosesUnused (w : World) : Op → Prop
  | .tcpClose sockfd => ∀ k, goodTcpSock w sockfd = some k →
      ∀ fd c, w.fdConnToSock fd = some c →
        (w.tcpConn c).map TcpConnectionSock.parent ≠ some k
  | _ => True

/-- The same through the identity of the socket: it is live. -/
theorem parentsOpen_iff {w : World} (hs : SockTables w) : ParentsOpen w ↔
    ∀ fd c, w.fdConnToSock fd = some c →
      ∃ k, (w.tcpConn c).map TcpConnectionSock.parent = some k ∧ (w.tcpSock k).isSome := by
  constructor
  · intro h fd c hc
    obtain ⟨conn, parent, _, hconn, hparent, -⟩ := h fd c hc
    exact ⟨conn.parent, by rw [hconn, Option.map_some], by rw [hparent]; rfl⟩
  · intro h fd c hc
    obtain ⟨k, hk, hlive⟩ := h fd c hc
    obtain ⟨conn, hconn, rfl⟩ := Option.map_eq_some_iff.mp hk
    obtain ⟨parent, hparent⟩ := Option.isSome_iff_exists.mp hlive
    obtain ⟨sfd, hsfd⟩ := hs.sockFd conn.parent hlive
    exact ⟨conn, parent, sfd, hconn, hparent, hsfd⟩

/-- No change of the network side frees a socket. -/
theorem Change.sockLive {sc : Scope} {w w' : World} (h : Change sc w w') (k : SockId) :
    (w'.tcpSock k).isSome = (w.tcpSock k).isSome := by
  cases h with
  | sends h => rw [h.tcpSock]
  | forwards _ _ _ _ _ _ _ h => rw [h.tcpSock]
  | flushed _ _ h => rw [h.tcpSock]; rfl
  | connected _ _ _ _ hk => exact isSome_update_live hk k
  | closed _ _ _ _ _ _ hk => exact isSome_update_live hk k
  | _ => rfl

/-- A socket stays live unless a descriptor of it is closed. -/
theorem SocketStep.sockLive {closes : Int → Prop} {w w' : World} (hs : SocketStep closes w w')
    {k : SockId} (hk : (w.tcpSock k).isSome)
    (hopen : ∀ sockfd, closes sockfd → goodTcpSock w sockfd ≠ some k) : (w'.tcpSock k).isSome := by
  cases hs with
  | unchanged => exact hk
  | opened =>
      show (Function.update w.tcpSock w.nextId _ k).isSome
      by_cases heq : k = w.nextId
      · rw [heq, Function.update_self]
        rfl
      · rwa [Function.update_of_ne heq]
  | bound hk' => exact (isSome_update_live hk' k).trans hk
  | listening hk' => exact (isSome_update_live hk' k).trans hk
  | @closed sockfd k' _ hclose hfd =>
      have hne : k ≠ k' := fun heq => hopen sockfd hclose (heq ▸ hfd)
      show (Function.update w.tcpSock k' none k).isSome
      rwa [Function.update_of_ne hne]

/-- A socket stays live through a call that does not close it. -/
theorem sockLive_after {w : World} {op : Op} {k : SockId} (hk : (w.tcpSock k).isSome)
    (hopen : ∀ sockfd, op.closes sockfd → goodTcpSock w sockfd ≠ some k) :
    ((op.after w).tcpSock k).isSome := by
  refine invariant_after (I := fun t => (t.tcpSock k).isSome) ?_ (fun t t' ht hchange => ?_)
    fun hquiet => ?_
  · cases op <;> exact hk
  · rw [hchange.sockLive k]
    exact ht
  · rcases hquiet.parts .tcp with hown | ⟨hsock, -, -⟩
    · exact (socketStep_after hown w).sockLive hk hopen
    · rw [hsock]
      exact hk

/-- The connection behind a descriptor keeps its socket. -/
theorem parent_after {w : World} (op : Op) {c : ConnId} (hw : ConnTables w)
    (hc : (w.tcpConn c).isSome) : ((op.after w).tcpConn c).map TcpConnectionSock.parent
      = (w.tcpConn c).map TcpConnectionSock.parent := by
  have hopened := congrArg (Option.map TcpConnectionSock.parent) (opened_after op hw hc)
  rw [Option.map_map, Option.map_map] at hopened
  exact hopened

/-- **A call that closes no socket in use keeps the sockets behind descriptors open.** -/
theorem parentsOpen_after {w : World} {op : Op} (hw : Reachable w) (hafter : SockTables (op.after w))
    (h : ParentsOpen w) (hcloses : ClosesUnused w op) : ParentsOpen (op.after w) := by
  have hconns := hw.connTables
  have hold := (parentsOpen_iff hw.sockTables).mp h
  rw [parentsOpen_iff hafter]
  -- what a descriptor denoted before is still live
  have hkept : ∀ fd c, w.fdConnToSock fd = some c → ∃ k,
      ((op.after w).tcpConn c).map TcpConnectionSock.parent = some k ∧
        ((op.after w).tcpSock k).isSome := by
    intro fd c hc
    obtain ⟨k, hk, hlive⟩ := hold fd c hc
    refine ⟨k, (parent_after op hconns (hconns.accepted fd c hc).2.isSome).trans hk,
      sockLive_after hlive fun sockfd hclose hfd => ?_⟩
    cases op with
    | tcpClose sockfd' =>
        obtain rfl : sockfd = sockfd' := hclose
        exact hcloses k hfd fd c hc hk
    | _ => exact absurd hclose id
  intro fd c hc
  by_cases hacc : op.accepts
  · cases op with
    | tcpAccept sockfd =>
        rcases tcpAccept_after w sockfd with ⟨c', i, hfirst, hfree, heq⟩ | ⟨-, heq⟩
        · by_cases hfd : fd = i
          · -- the new descriptor: its connection is on the list of a live socket
            have hcc : c = c' := by
              rw [heq, hfd] at hc
              change Function.update w.fdConnToSock i (some c') i = some c at hc
              rw [Function.update_self] at hc
              exact (Option.some.inj hc).symm
            subst hcc
            obtain ⟨sock, hsock, hfind⟩ := Option.bind_eq_some_iff.mp hfirst
            obtain ⟨hsock, -⟩ := Option.filter_eq_some_iff.mp hsock
            obtain ⟨k, -, hk⟩ := Option.bind_eq_some_iff.mp hsock
            have hmem := List.mem_append_left sock.closedConns (List.mem_of_find?_eq_some hfind)
            rw [heq]
            exact ⟨k, hconns.parent k sock c hk hmem, by rw [World.accepted, hk]; rfl⟩
          · refine hkept fd c ?_
            rw [heq] at hc
            change Function.update w.fdConnToSock i (some c') fd = some c at hc
            rwa [Function.update_of_ne hfd] at hc
        · rw [heq] at hc
          exact hkept fd c hc
    | _ => exact absurd hacc id
  · exact hkept fd c (by rw [← fdConnToSock_after hacc w]; exact hc)

/-- **Closing a socket in use leaves a connection without one.** -/
theorem not_parentsOpen_after {w : World} {op : Op} (hw : Reachable w)
    (hcloses : ¬ ClosesUnused w op) : ¬ ParentsOpen (op.after w) := by
  cases op with
  | tcpClose sockfd =>
      intro hopen
      refine hcloses fun k hfd fd c hc hparent => ?_
      have hafter : (Op.tcpClose sockfd).after w = final (tcpClose sockfd) w :=
        final_bind_pure _ _ w
      obtain ⟨l, hl⟩ := hw.registryOk .tcp
      rcases tcpClose_cases sockfd w with ⟨k', sock, hfd', hk, hrun⟩ | ⟨hnone, -⟩ | ⟨⟨k', hfd', hnone⟩, -⟩
      · obtain rfl : k = k' := Option.some.inj (hfd.symm.trans hfd')
        rw [hafter, final_of_ok hrun] at hopen
        obtain ⟨conn, parent, -, hconn, hsock, -⟩ := hopen fd c hc
        rw [show w.tcpConn c = some conn from hconn] at hparent
        rw [Option.some.inj hparent] at hsock
        change Function.update w.tcpSock k none k = some parent at hsock
        rw [Function.update_self] at hsock
        cases hsock
      · rw [hfd] at hnone
        cases hnone
      · exact tcpSock_live hl hfd' hnone
  | _ => exact absurd trivial hcloses

/-- **No connection behind a descriptor outlives its socket exactly in the runs that close no
socket in use.**  A connection that receives a segment has a live socket in any run. -/
theorem no_orphans {w₀ w : World} {calls : List Call} (hinit : Initial w₀)
    (hrun : Run w₀ calls w) :
    ((∀ call ∈ calls, ParentsOpen call.after) ↔
      ∀ call ∈ calls, ClosesUnused call.before call.op) ∧
    ∀ skb c conn, rxConn w skb = some c → w.tcpConn c = some conn →
      ∃ parent, w.tcpSock conn.parent = some parent := by
  refine ⟨⟨fun h call hmem => ?_, fun h call hmem => ?_⟩, fun skb c conn hseg hc => ?_⟩
  · obtain ⟨hreach, -, hcall⟩ := hrun.call (.init hinit) hmem
    by_contra hnot
    refine not_parentsOpen_after hreach hnot ?_
    rw [Op.after, final_of_ok hcall]
    exact h call hmem
  · have hboth : ParentsOpen w ∧ ∀ call ∈ calls, ParentsOpen call.after := by
      clear hmem
      induction hrun with
      | nil =>
          refine ⟨fun fd c hc => ?_, fun call hmem => absurd hmem List.not_mem_nil⟩
          rw [hinit.fdConnToSock] at hc
          cases hc
      | @snoc calls t t' op r hcalls hv hop ih =>
          obtain ⟨hopen, hall⟩ := ih fun call hmem => h call (List.mem_append_left _ hmem)
          have hreach := hcalls.reachable (.init hinit)
          have hlast := h ⟨t, op, r, t'⟩ (List.mem_append_right _ List.mem_cons_self)
          obtain rfl : op.after t = t' := final_of_ok hop
          have hnext := parentsOpen_after hreach (Reachable.step hreach hv hop).sockTables hopen hlast
          refine ⟨hnext, fun call hmem => ?_⟩
          rcases List.mem_append.mp hmem with hmem | hmem
          · exact hall call hmem
          · obtain rfl := List.mem_singleton.mp hmem
            exact hnext
    exact hboth.2 call hmem
  · obtain ⟨sock, hsock, -⟩ := (hrun.reachable (.init hinit)).connTables.parent_rxConn hseg hc
    exact ⟨sock, hsock⟩

theorem no_orphans_fixture :
    ∃ calls, Run Fixture.graph calls Fixture.connected ∧
      ∀ call ∈ calls, ParentsOpen call.after := by
  have hops : (runOps Fixture.graph (Fixture.configure ++ (Fixture.listen ++ Fixture.handshake 5 ++
      [.tcpAccept 0]))).isSome := by decide +kernel
  obtain ⟨calls, hrun, hmap⟩ := Run.of_runOps (Fixture.runOps_after hops)
  refine ⟨calls, hrun, (no_orphans Fixture.graph_initial hrun).1.mpr fun call hmem => ?_⟩
  have hop := List.mem_map_of_mem (f := Call.op) hmem
  rw [hmap] at hop
  obtain ⟨w, op, r, w'⟩ := call
  cases op with
  | tcpClose fd => simp [Fixture.configure, Fixture.listen, Fixture.handshake] at hop
  | _ => trivial

/-- **A listening socket is closed under an accepted connection**, and the next send on the
connection follows the freed socket. -/
theorem tcpClose_orphans :
    Reachable (Fixture.after (Fixture.listen ++ Fixture.handshake 5 ++
        [.tcpAccept 0, .tcpClose 0])) ∧
      ¬ ParentsOpen (Fixture.after (Fixture.listen ++ Fixture.handshake 5 ++
        [.tcpAccept 0, .tcpClose 0])) ∧
      (Op.tcpSend 0 [1]).returns (Fixture.after (Fixture.listen ++ Fixture.handshake 5 ++
        [.tcpAccept 0, .tcpClose 0])) = none := by
  have hconn : (Fixture.after (Fixture.listen ++ Fixture.handshake 5 ++
      [.tcpAccept 0, .tcpClose 0])).fdConnToSock 0 = some 2 := by decide +kernel
  have hparent : ((Fixture.after (Fixture.listen ++ Fixture.handshake 5 ++
      [.tcpAccept 0, .tcpClose 0])).tcpConn 2).map TcpConnectionSock.parent = some 0 := by
    decide +kernel
  have hfree : ((Fixture.after (Fixture.listen ++ Fixture.handshake 5 ++
      [.tcpAccept 0, .tcpClose 0])).tcpSock 0).isSome = false := by decide +kernel
  have hsend : (Op.tcpSend 0 [1]).returns (Fixture.after (Fixture.listen ++ Fixture.handshake 5 ++
      [.tcpAccept 0, .tcpClose 0])) = none := by decide +kernel
  refine ⟨Fixture.reachable_after _, fun hopen => ?_, hsend⟩
  generalize Fixture.after (Fixture.listen ++ Fixture.handshake 5 ++
    [.tcpAccept 0, .tcpClose 0]) = w at *
  obtain ⟨conn, parent, -, hc, hsock, -⟩ := hopen 0 2 hconn
  rw [hc] at hparent
  rw [Option.some.inj hparent] at hsock
  rw [hsock] at hfree
  cases hfree

end SimpleTcpip
