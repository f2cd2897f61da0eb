/-
Which connections a socket lists.

A connection is created on the list of its socket only when no connection there has its
remote end, and leaves that list only for the list of closed ones.  `PeerTables` is what
that comes to between any two calls: remote ends are listed once, and a connection whose
socket is open is on the socket's lists.
-/
import SimpleTcpip.Proofs.Close
import SimpleTcpip.Proofs.Effect

namespace SimpleTcpip

open Fallible Relation

/-! ### The tables -/

/-- The remote end of a connection. -/
def TcpConnectionSock.remote (conn : TcpConnectionSock) : UInt32 × UInt16 :=
  (conn.remoteIp, conn.remotePort)

/-- The remote ends of connections. -/
def remotes (w : World) (cs : List ConnId) : List (Option (UInt32 × UInt16)) :=
  cs.map fun c => (w.tcpConn c).map TcpConnectionSock.remote

/-- What a connection never changes. -/
def TcpConnectionSock.ends (conn : TcpConnectionSock) : SockId × UInt32 × UInt16 :=
  (conn.parent, conn.remote)

/-- Connections are on the lists of their sockets. -/
structure PeerTables (w : World) : Prop where
  /-- No two connections a socket lists have the same remote end. -/
  distinct : ∀ k sock, w.tcpSock k = some sock → (remotes w sock.conns).Nodup
  /-- A connection whose socket is open is on one of its lists. -/
  listed : ∀ c conn parent, w.tcpConn c = some conn → w.tcpSock conn.parent = some parent →
    c ∈ parent.conns ++ parent.closedConns
  parentLt : ∀ c conn, w.tcpConn c = some conn → conn.parent < w.nextId

theorem remotes_congr {w w' : World} {cs : List ConnId}
    (h : ∀ c ∈ cs, (w'.tcpConn c).map TcpConnectionSock.remote
      = (w.tcpConn c).map TcpConnectionSock.remote) : remotes w' cs = remotes w cs :=
  List.map_congr_left h

/-- **The tables stay in order** when every connection keeps its ends, no list of connections
grows, none is lost from both lists, and new sockets have none. -/
theorem PeerTables.mono {w w' : World} (h : PeerTables w) (hid : w.nextId ≤ w'.nextId)
    (hends : ∀ c, (w'.tcpConn c).map TcpConnectionSock.ends
      = (w.tcpConn c).map TcpConnectionSock.ends)
    (hsocks : ∀ k sock', w'.tcpSock k = some sock' → (w.nextId ≤ k ∧ sock'.conns = []) ∨
      ∃ sock, w.tcpSock k = some sock ∧ sock'.conns.Sublist sock.conns ∧
        sock.conns ++ sock.closedConns ⊆ sock'.conns ++ sock'.closedConns) : PeerTables w' := by
  have hremote : ∀ c, (w'.tcpConn c).map TcpConnectionSock.remote
      = (w.tcpConn c).map TcpConnectionSock.remote := by
    intro c
    have hsnd := congrArg (Option.map Prod.snd) (hends c)
    rwa [Option.map_map, Option.map_map] at hsnd
  have hold : ∀ c conn', w'.tcpConn c = some conn' →
      ∃ conn, w.tcpConn c = some conn ∧ conn.parent = conn'.parent := by
    intro c conn' hc
    have hmap := hends c
    rw [hc] at hmap
    obtain ⟨conn, hconn, heq⟩ := Option.map_eq_some_iff.mp hmap.symm
    exact ⟨conn, hconn, (Prod.mk.inj heq).1⟩
  refine ⟨fun k sock' hk => ?_, fun c conn' parent' hc hparent => ?_, fun c conn' hc => ?_⟩
  · rw [remotes_congr fun c _ => hremote c]
    rcases hsocks k sock' hk with ⟨-, hnil⟩ | ⟨sock, hk', hsub, -⟩
    · rw [hnil]
      exact List.nodup_nil
    · exact (h.distinct k sock hk').sublist (hsub.map _)
  · obtain ⟨conn, hconn, heq⟩ := hold c conn' hc
    rw [← heq] at hparent
    rcases hsocks conn.parent parent' hparent with ⟨hle, -⟩ | ⟨parent, hk, -, hsub⟩
    · exact absurd (h.parentLt c conn hconn) (Nat.not_lt.mpr hle)
    · exact hsub (h.listed c conn parent hconn hk)
  · obtain ⟨conn, hconn, heq⟩ := hold c conn' hc
    rw [← heq]
    exact Nat.lt_of_lt_of_le (h.parentLt c conn hconn) hid

/-- The same when the sockets were not touched. -/
theorem PeerTables.of_sock {w w' : World} (h : PeerTables w) (hid : w.nextId ≤ w'.nextId)
    (hends : ∀ c, (w'.tcpConn c).map TcpConnectionSock.ends
      = (w.tcpConn c).map TcpConnectionSock.ends)
    (hsock : w'.tcpSock = w.tcpSock) : PeerTables w' :=
  h.mono hid hends fun k sock' hk =>
    Or.inr ⟨sock', by rw [← hsock]; exact hk, List.Sublist.refl _, fun _ hmem => hmem⟩

/-- A connection is opened for a remote end its socket does not list. -/
theorem PeerTables.connected {w : World} {k : SockId} {sock : TcpSock} {conn : TcpConnectionSock}
    {es : List Event} (h : PeerTables w) (hw : ConnTables w) (hs : SockTables w)
    (hk : w.tcpSock k = some sock) (hparent : conn.parent = k)
    (hnew : findMatchingConnection w sock conn.remoteIp conn.remotePort = none) :
    PeerTables { w with
      nextId := w.nextId + 1
      trace := es
      tcpConn := Function.update w.tcpConn w.nextId (some conn)
      tcpSock := Function.update w.tcpSock k
        (some { sock with conns := w.nextId :: sock.conns }) } := by
  have hother : ∀ c, c < w.nextId →
      Function.update w.tcpConn w.nextId (some conn) c = w.tcpConn c :=
    fun c hc => Function.update_of_ne (Nat.ne_of_lt hc) _ _
  have hlt : ∀ {j sock'}, w.tcpSock j = some sock' → ∀ c ∈ sock'.conns, c < w.nextId :=
    fun hj c hc => hw.parent_lt hj (List.mem_append_left _ hc)
  have hklt : k < w.nextId := hs.sockLt k (by rw [hk]; rfl)
  refine ⟨fun j sock' hj => ?_, fun c conn' parent' hc hj => ?_, fun c conn' hc => ?_⟩
  · change Function.update w.tcpSock k _ j = some sock' at hj
    by_cases hjk : j = k
    · subst hjk
      rw [Function.update_self] at hj
      obtain rfl := Option.some.inj hj
      refine List.nodup_cons.mpr ⟨fun hmem => ?_, ?_⟩
      · -- a listed connection with this remote end would have been found
        obtain ⟨c, hc, heq⟩ := List.mem_map.mp hmem
        change (Function.update w.tcpConn w.nextId _ c).map _
          = (Function.update w.tcpConn w.nextId _ w.nextId).map _ at heq
        rw [hother c (hlt hk c hc), Function.update_self] at heq
        obtain ⟨conn', hconn', hremote⟩ := Option.map_eq_some_iff.mp heq
        obtain ⟨hip, hport⟩ := Prod.mk.inj hremote
        refine absurd (List.find?_eq_none.mp hnew c hc) (not_not.mpr ?_)
        rw [hconn', Option.any_some, hip, hport]
        simp
      · refine (congrArg List.Nodup (remotes_congr fun c hc => ?_)).mpr (h.distinct j sock hk)
        exact congrArg _ (hother c (hlt hk c hc))
    · rw [Function.update_of_ne hjk] at hj
      refine (congrArg List.Nodup (remotes_congr fun c hc => ?_)).mpr (h.distinct j sock' hj)
      exact congrArg _ (hother c (hlt hj c hc))
  · change Function.update w.tcpConn w.nextId _ c = some conn' at hc
    change Function.update w.tcpSock k _ conn'.parent = some parent' at hj
    by_cases hcn : c = w.nextId
    · rw [hcn, Function.update_self] at hc
      obtain rfl := Option.some.inj hc
      rw [hparent, Function.update_self] at hj
      obtain rfl := Option.some.inj hj
      rw [hcn]
      exact List.mem_cons_self
    · rw [Function.update_of_ne hcn] at hc
      by_cases hpk : conn'.parent = k
      · rw [hpk, Function.update_self] at hj
        obtain rfl := Option.some.inj hj
        exact List.mem_cons_of_mem _ (h.listed c conn' sock hc (hpk ▸ hk))
      · rw [Function.update_of_ne hpk] at hj
        exact h.listed c conn' parent' hc hj
  · change Function.update w.tcpConn w.nextId _ c = some conn' at hc
    by_cases hcn : c = w.nextId
    · rw [hcn, Function.update_self] at hc
      obtain rfl := Option.some.inj hc
      rw [hparent]
      exact Nat.lt_succ_of_lt hklt
    · rw [Function.update_of_ne hcn] at hc
      exact Nat.lt_succ_of_lt (h.parentLt c conn' hc)

/-- A socket written back with the same lists of connections. -/
theorem PeerTables.of_update {w w' : World} (h : PeerTables w) {k : SockId} {sock sock' : TcpSock}
    (hk : w.tcpSock k = some sock) (hconns : sock'.conns.Sublist sock.conns)
    (hall : sock.conns ++ sock.closedConns ⊆ sock'.conns ++ sock'.closedConns)
    (hid : w'.nextId = w.nextId) (hconn : w'.tcpConn = w.tcpConn)
    (hsock : w'.tcpSock = Function.update w.tcpSock k (some sock')) : PeerTables w' := by
  refine h.mono (Nat.le_of_eq hid.symm) (fun c => by rw [hconn]) fun j sock'' hj => Or.inr ?_
  rw [hsock] at hj
  by_cases hjk : j = k
  · subst hjk
    rw [Function.update_self] at hj
    obtain rfl := Option.some.inj hj
    exact ⟨sock, hk, hconns, hall⟩
  · rw [Function.update_of_ne hjk] at hj
    exact ⟨sock'', hj, List.Sublist.refl _, fun _ hmem => hmem⟩

theorem Change.peerTables {sc : Scope} {w w' : World} (hchange : Change sc w w')
    (hs : SockTables w) (hw : ConnTables w) (h : PeerTables w) : PeerTables w' := by
  have hsame : w'.tcpSock = w.tcpSock → (∀ c, (w'.tcpConn c).map TcpConnectionSock.ends
      = (w.tcpConn c).map TcpConnectionSock.ends) → PeerTables w' :=
    fun hsock hends => h.of_sock hchange.nextId_le hends hsock
  cases hchange with
  | sends hsends => exact hsame hsends.tcpSock fun c => by rw [hsends.tcpConn]
  | forwards _ _ _ _ _ _ _ hsends => exact hsame hsends.tcpSock fun c => by rw [hsends.tcpConn]
  | flushed _ _ hsends => exact hsame hsends.tcpSock fun c => by rw [hsends.tcpConn]; rfl
  | connected _ _ _ hsock hk _ hnew =>
      rw [rxConn_of_sock hsock hk] at hnew
      exact h.connected hw hs hk rfl hnew
  | established _ _ _ _ hc => exact hsame rfl (map_update_of_eq hc (by rfl))
  | delivered _ _ _ _ hc => exact hsame rfl (map_update_of_eq hc (by rfl))
  | finished _ _ _ _ hc => exact hsame rfl (map_update_of_eq hc (by rfl))
  | numbered hc => exact hsame rfl (map_update_of_eq hc (by rfl))
  | @closed _ c' _ _ _ _ _ _ _ _ hk =>
      refine h.of_update hk List.erase_sublist (fun c hc => ?_) rfl rfl rfl
      rcases List.mem_append.mp hc with hc | hc
      · by_cases heq : c = c'
        · exact List.mem_append_right _ (List.mem_cons.mpr (Or.inl heq))
        · exact List.mem_append_left _ ((List.mem_erase_of_ne heq).mpr hc)
      · exact List.mem_append_right _ (List.mem_cons_of_mem _ hc)
  | _ => exact hsame rfl fun _ => rfl

theorem SocketStep.peerTables {closes : Int → Prop} {w w' : World} (hstep : SocketStep closes w w')
    (h : PeerTables w) : PeerTables w' := by
  cases hstep with
  | unchanged => exact h
  | opened =>
      refine h.mono (Nat.le_succ _) (fun _ => rfl) fun k sock' hk => ?_
      change Function.update w.tcpSock w.nextId _ k = some sock' at hk
      by_cases hkn : k = w.nextId
      · rw [hkn, Function.update_self] at hk
        obtain rfl := Option.some.inj hk
        exact Or.inl ⟨Nat.le_of_eq hkn.symm, rfl⟩
      · rw [Function.update_of_ne hkn] at hk
        exact Or.inr ⟨sock', hk, List.Sublist.refl _, fun _ hmem => hmem⟩
  | bound hk =>
      refine h.of_update hk ?_ ?_ rfl rfl rfl
      · exact List.Sublist.refl _
      · exact fun _ hmem => hmem
  | listening hk =>
      refine h.of_update hk ?_ ?_ rfl rfl rfl
      · exact List.Sublist.refl _
      · exact fun _ hmem => hmem
  | @closed _ k =>
      refine h.mono (Nat.le_refl _) (fun _ => rfl) fun j sock' hj => ?_
      change Function.update w.tcpSock k none j = some sock' at hj
      by_cases hjk : j = k
      · rw [hjk, Function.update_self] at hj
        cases hj
      · rw [Function.update_of_ne hjk] at hj
        exact Or.inr ⟨sock', hj, List.Sublist.refl _, fun _ hmem => hmem⟩

/-- What a quiet call leaves of the tables. -/
theorem Quiet.peerTables {w : World} {op : Op} (hquiet : Quiet op.owns w (op.after w))
    (h : PeerTables w) : PeerTables (op.after w) := by
  rcases hquiet.parts .tcp with hown | ⟨hsock, -, -⟩
  · exact (socketStep_after hown w).peerTables h
  · exact h.of_sock hquiet.nextId (fun c => hquiet.conn (fun _ => rfl) c) hsock

/-- **In every state a run passes through the connections are on the lists of their
sockets.** -/
theorem Reachable.peerTables {w : World} (h : Reachable w) : PeerTables w := by
  induction h with
  | @init t hinit =>
      have hnone : ∀ k, t.tcpSock k = none := fun k => by rw [hinit.tcpSock]
      have hconn : ∀ c, t.tcpConn c = none := fun c => by rw [hinit.tcpConn]
      exact ⟨fun k sock hk => by simp [hnone] at hk, fun c conn parent hc => by simp [hconn] at hc,
        fun c conn hc => by simp [hconn] at hc⟩
  | @step t t' op r ht _ hrun ih =>
      obtain rfl : op.after t = t' := final_of_ok hrun
      have hs := ht.sockTables
      have hw := ht.connTables
      rcases runOp_cases op t with hchanges | ⟨-, hquiet⟩
      · have hbegun : SockTables (op.begun t) ∧ ConnTables (op.begun t) ∧
            PeerTables (op.begun t) := by
          cases op with
          | recvFrame i frame =>
              exact ⟨hs.of_core (Nat.le_succ _) rfl rfl fun _ => rfl,
                hw.of_sock (fun c hc => Nat.lt_succ_of_lt (hw.connLt c hc)) (fun _ _ => rfl)
                  (fun _ _ hc => hc) rfl rfl,
                ih.of_sock (Nat.le_succ _) (fun _ => rfl) rfl⟩
          | _ => exact ⟨hs, hw, ih⟩
        refine (hchanges.induct (I := fun u => SockTables u ∧ ConnTables u ∧ PeerTables u) ?_
          (Nat.le_of_eq (Op.base_scope t op)) hbegun).2.2
        rintro u u' ⟨hs, hw, hp⟩ hchange
        exact ⟨hchange.sockTables hs, hchange.connTables hw, hchange.peerTables hs hw hp⟩
      · exact hquiet.peerTables ih

/-! ### Runs that close no socket -/

/-- A call leaves the TCP sockets open. -/
def KeepsSockets (_ : World) (op : Op) : Prop := ∀ sockfd, op ≠ .tcpClose sockfd

/-- **In a run that closes no socket, every connection's socket is open.** -/
theorem ReachableBy.parentOpen {w : World} (h : ReachableBy KeepsSockets w) :
    ∀ c conn, w.tcpConn c = some conn → (w.tcpSock conn.parent).isSome := by
  induction h with
  | init hinit =>
      intro c conn hc
      rw [hinit.tcpConn] at hc
      cases hc
  | @step t t' op r ht _ hkeeps hrun ih =>
      obtain rfl : op.after t = t' := final_of_ok hrun
      intro c conn hc
      have hclose : ∀ k sockfd, op.closes sockfd → goodTcpSock t sockfd ≠ some k := by
        intro k sockfd hcloses
        cases op with
        | tcpClose sockfd' => exact absurd rfl (hkeeps sockfd')
        | _ => exact absurd hcloses id
      cases hold : t.tcpConn c with
      | some conn₀ =>
          have hparent := parent_after op ht.reachable.connTables (c := c)
            (by rw [hold]; rfl)
          rw [hc, hold] at hparent
          rw [show conn.parent = conn₀.parent from Option.some.inj hparent]
          exact sockLive_after (ih c conn₀ hold) (hclose conn₀.parent)
      | none =>
          -- only a SYN to an open socket creates one
          obtain ⟨i, frame, -, rfl, -, -⟩ := opened_of_created ht.reachable.connTables hold hc
          obtain ⟨u, t', hframe, hpure⟩ := bind_ok_iff.mp hrun
          obtain rfl : t' = (Op.recvFrame i frame).after t := (EStateM.Result.ok.inj hpure).2
          obtain ⟨k, sock, hchecked, -, rfl⟩ :=
            recvFrame_created ht.reachable.connTables.connLt hframe hold hc
          have hk : t.tcpSock k = some sock := hchecked.2.1
          exact sockLive_after (by rw [show TcpConnectionSock.parent _ = k from rfl, hk]; rfl)
            (hclose k)

/-! ### The invariant -/

/-- A connection is on exactly one of the lists of its socket, and on no other socket's. -/
def OnOneList (w : World) (c : ConnId) (conn : TcpConnectionSock) : Prop :=
  ∃ parent, w.tcpSock conn.parent = some parent ∧
    parent.conns.count c + parent.closedConns.count c = 1 ∧
    ∀ k sock, w.tcpSock k = some sock → c ∈ sock.conns ++ sock.closedConns → k = conn.parent

theorem Reachable.onOneList {w : World} (h : Reachable w) {c : ConnId} {conn : TcpConnectionSock}
    (hc : w.tcpConn c = some conn) (hopen : (w.tcpSock conn.parent).isSome) :
    OnOneList w c conn := by
  obtain ⟨parent, hparent⟩ := Option.isSome_iff_exists.mp hopen
  refine ⟨parent, hparent, ?_, fun k sock hk hmem => ?_⟩
  · rw [← List.count_append]
    exact List.count_eq_one_of_mem (h.connTables.nodup _ parent hparent)
      (h.peerTables.listed c conn parent hc hparent)
  · have hmap := h.connTables.parent k sock c hk hmem
    rw [hc] at hmap
    exact (Option.some.inj hmap).symm

/-- A segment of a listed remote end finds a connection. -/
theorem rxConn_isSome {w : World} {skb : SkBuff} {k : SockId} {sock : TcpSock} {c : ConnId}
    {conn : TcpConnectionSock} (hsock : rxSock w skb = some k) (hk : w.tcpSock k = some sock)
    (hmem : c ∈ sock.conns) (hc : w.tcpConn c = some conn)
    (hremote : conn.remote = (skb.ipPacket.srcIp, skb.segment.tcpSrc)) :
    (rxConn w skb).isSome := by
  obtain ⟨hip, hport⟩ := Prod.mk.inj hremote
  rw [rxConn_of_sock hsock hk, findMatchingConnection, List.find?_isSome]
  refine ⟨c, hmem, ?_⟩
  rw [hc, Option.any_some, hip, hport]
  simp

/--
**The connection table is in order in every state a run passes through.**  No socket lists
two connections with the same remote end; a connection whose socket is open is on exactly
one of the lists of exactly that socket, which is every connection when the run closes no
socket; and a segment of a remote end that is listed creates no connection, whatever its
flags.
-/
theorem connections_listed_once {w : World} (h : Reachable w) :
    (∀ k sock, w.tcpSock k = some sock → (remotes w sock.conns).Nodup) ∧
    (∀ c conn, w.tcpConn c = some conn → (w.tcpSock conn.parent).isSome → OnOneList w c conn) ∧
    (ReachableBy KeepsSockets w → ∀ c conn, w.tcpConn c = some conn → OnOneList w c conn) ∧
    ∀ i frame r w', runOp (.recvFrame i frame) w = .ok r w' →
      ∀ k sock c conn, rxSock w (recvBuffer w.nextId i frame) = some k →
        w.tcpSock k = some sock → c ∈ sock.conns → w.tcpConn c = some conn →
        conn.remote = ((recvBuffer w.nextId i frame).ipPacket.srcIp,
          (recvBuffer w.nextId i frame).segment.tcpSrc) →
        ∀ c', w.tcpConn c' = none → w'.tcpConn c' = none := by
  refine ⟨h.peerTables.distinct, fun c conn hc hopen => h.onOneList hc hopen,
    fun hkeeps c conn hc => h.onOneList hc (hkeeps.parentOpen c conn hc), ?_⟩
  intro i frame r w' hrun k sock c conn hsock hk hmem hc hremote c' hnone
  obtain ⟨u, t, hframe, hpure⟩ := bind_ok_iff.mp hrun
  cases hpure
  cases hnew : w'.tcpConn c' with
  | none => rfl
  | some conn' =>
      obtain ⟨_, _, hchecked, -⟩ := recvFrame_created h.connTables.connLt hframe hnone hnew
      have hfound : rxConn w (recvBuffer w.nextId i frame) = none := hchecked.2.2.1
      have hsome := rxConn_isSome hsock hk hmem hc hremote
      rw [hfound] at hsome
      cases hsome

theorem connections_listed_once_fixture :
    ∃ conn, Fixture.connected.tcpConn 2 = some conn ∧ OnOneList Fixture.connected 2 conn := by
  have hreach := Fixture.connected_reachable
  have hconn : (Fixture.connected.tcpConn 2).map TcpConnectionSock.parent = some 0 := by
    decide +kernel
  have hopen : (Fixture.connected.tcpSock 0).isSome := by decide +kernel
  generalize Fixture.connected = w at *
  obtain ⟨conn, hc, hparent⟩ := Option.map_eq_some_iff.mp hconn
  exact ⟨conn, hc, (connections_listed_once hreach).2.1 2 conn hc (by rw [hparent]; exact hopen)⟩

end SimpleTcpip
