/-
The TCP tables across calls: descriptors, sockets and the connections on their lists.

`tcp_socket`, `tcp_bind`, `tcp_listen` and `tcp_close` are the calls that write the
socket table; `SocketStep` lists what one of them can do.  `TcpTables` is what holds of
the tables between any two calls, and it is shown once for a change of the network side
and once for a socket step.
-/
import SimpleTcpip.Proofs.Sockets

namespace SimpleTcpip

open Fallible Relation

/-! ### The socket calls -/

/-- What one call on sockets can do, when it may close these descriptors. -/
inductive SocketStep (closes : Int → Prop) (w : World) : World → Prop
  | unchanged : SocketStep closes w w
  | opened {node : NodeId} {fd : Nat} (hfree : firstFree maxTcpSocks w.tcpFdToSock = some fd) :
      SocketStep closes w { w with
        nextId := w.nextId + 1
        tcpSock := Function.update w.tcpSock w.nextId (some (newTcpSock node))
        tcpFdToSock := Function.update w.tcpFdToSock fd (some w.nextId) }
  | bound {k : SockId} {sock : TcpSock} {i : IntfId} {ip : UInt32} {port : UInt16}
      (hk : w.tcpSock k = some sock) (hnew : sock.bound = false)
      (hi : getMatchingInterface w sock.node ip = some i) :
      SocketStep closes w { w with
        tcpSock := Function.update w.tcpSock k
          (some { sock with bound := true, intf := some i, localIp := ip, localPort := port })
        tcpSocks := Function.update w.tcpSocks i (k :: w.tcpSocks i) }
  | listening {k : SockId} {sock : TcpSock} (hk : w.tcpSock k = some sock) :
      SocketStep closes w { w with
        tcpSock := Function.update w.tcpSock k (some { sock with listening := true }) }
  | closed {sockfd : Int} {k : SockId} {sock : TcpSock} (hclose : closes sockfd)
      (hfd : goodTcpSock w sockfd = some k) (hk : w.tcpSock k = some sock) :
      SocketStep closes w { w with
        tcpFdToSock := Function.update w.tcpFdToSock sockfd.toNat none
        tcpSocks := unlinkedTcpSocks w k sock
        tcpSock := Function.update w.tcpSock k none }

theorem tcpSocket_step {closes : Int → Prop} (n : NodeId) (w : World) :
    SocketStep closes w (final (tcpSocket n) w) := by
  rcases tcpSocket_cases n w with ⟨fd, hfree, hrun⟩ | hrun
  · rw [final_of_ok hrun]
    exact .opened hfree
  · rw [final_of_ok hrun]
    exact .unchanged

theorem tcpBind_step {closes : Int → Prop} (sockfd : Int) (ip : UInt32) (port : UInt16)
    (w : World) : SocketStep closes w (final (tcpBind sockfd ip port) w) := by
  rcases tcpBind_cases sockfd ip port w with ⟨k, sock, i, -, hk, hnew, hi, hrun⟩ | hrun | ⟨-, hrun⟩
  · rw [final_of_ok hrun]
    exact .bound hk hnew hi
  · rw [final_of_ok hrun]
    exact .unchanged
  · rw [final_of_error hrun]
    exact .unchanged

theorem tcpListen_step {closes : Int → Prop} (sockfd : Int) (w : World) :
    SocketStep closes w (final (tcpListen sockfd) w) := by
  rcases tcpListen_cases sockfd w with ⟨k, sock, hk, hrun⟩ | hrun | hrun
  · rw [final_of_ok hrun]
    exact .listening hk
  · rw [final_of_ok hrun]
    exact .unchanged
  · rw [final_of_error hrun]
    exact .unchanged

theorem tcpClose_step (sockfd : Int) (w : World) :
    SocketStep (fun fd => fd = sockfd) w (final (tcpClose sockfd) w) := by
  rcases tcpClose_cases sockfd w with ⟨k, sock, hfd, hk, hrun⟩ | ⟨-, hrun⟩ | ⟨-, hrun⟩
  · rw [final_of_ok hrun]
    exact .closed rfl hfd hk
  · rw [final_of_ok hrun]
    exact .unchanged
  · rw [final_of_error hrun]
    exact .unchanged

/-- The socket descriptor a call closes. -/
def Op.closes : Op → Int → Prop
  | .tcpClose sockfd, fd => fd = sockfd
  | _, _ => False

/-- **A call that owns the socket table makes a socket step.** -/
theorem socketStep_after {op : Op} (h : op.owns .tcp) (w : World) :
    SocketStep op.closes w (op.after w) := by
  unfold Op.after
  cases op with
  | tcpSocket n => rw [runOp, final_bind_pure]; exact tcpSocket_step n w
  | tcpBind fd ip port => rw [runOp, final_bind_pure]; exact tcpBind_step fd ip port w
  | tcpListen fd => rw [runOp, final_bind_pure]; exact tcpListen_step fd w
  | tcpClose fd => rw [runOp, final_bind_pure]; exact tcpClose_step fd w
  | _ => cases h

/-! ### The socket table -/

/-- What a socket is bound to, without the connections it has. -/
def TcpSock.core (sock : TcpSock) : TcpSock :=
  { sock with listening := false, conns := [], closedConns := [] }

/-- Descriptors, sockets and the lists of the interfaces agree. -/
structure SockTables (w : World) : Prop where
  sockLt : ∀ k, (w.tcpSock k).isSome → k < w.nextId
  /-- A descriptor denotes a live socket. -/
  fdSock : ∀ fd k, w.tcpFdToSock fd = some k → fd < maxTcpSocks ∧ (w.tcpSock k).isSome
  /-- No two descriptors denote one socket. -/
  fdDistinct : ∀ fd fd' k, w.tcpFdToSock fd = some k → w.tcpFdToSock fd' = some k → fd = fd'
  /-- Every live socket has a descriptor. -/
  sockFd : ∀ k, (w.tcpSock k).isSome → ∃ fd, w.tcpFdToSock fd = some k
  /-- An interface lists only sockets bound to it. -/
  listed : ∀ i k, k ∈ w.tcpSocks i →
    (w.tcpSock k).map (fun sock => (sock.bound, sock.intf)) = some (true, some i)
  /-- No list holds a socket twice. -/
  nodup : ∀ i, (w.tcpSocks i).Nodup

/-- Only what a socket is, not which connections it has, matters to these tables. -/
theorem SockTables.of_core {w w' : World} (h : SockTables w) (hid : w.nextId ≤ w'.nextId)
    (hsocks : w'.tcpSocks = w.tcpSocks) (hfd : w'.tcpFdToSock = w.tcpFdToSock)
    (hcore : ∀ k, (w'.tcpSock k).map TcpSock.core = (w.tcpSock k).map TcpSock.core) :
    SockTables w' := by
  have hlive : ∀ k, (w'.tcpSock k).isSome = (w.tcpSock k).isSome := by
    intro k
    have hsome := congrArg Option.isSome (hcore k)
    rwa [Option.isSome_map, Option.isSome_map] at hsome
  refine ⟨fun k hk => ?_, fun fd k hk => ?_, ?_, fun k hk => ?_, fun i k hk => ?_, ?_⟩
  · rw [hlive] at hk
    exact Nat.lt_of_lt_of_le (h.sockLt k hk) hid
  · rw [hfd] at hk
    rw [hlive]
    exact h.fdSock fd k hk
  · rw [hfd]
    exact h.fdDistinct
  · rw [hlive] at hk
    rw [hfd]
    exact h.sockFd k hk
  · rw [hsocks] at hk
    have hmap := congrArg (Option.map fun sock => (sock.bound, sock.intf)) (hcore k)
    rw [Option.map_map, Option.map_map] at hmap
    exact hmap.trans (h.listed i k hk)
  · rw [hsocks]
    exact h.nodup

/-- Writing a live socket back. -/
theorem isSome_update_live {α : Type} {m : Nat → Option α} {k : Nat} {x y : α}
    (hk : m k = some x) (j : Nat) : (Function.update m k (some y) j).isSome = (m j).isSome := by
  have hsome := congrArg Option.isSome (map_update_of_eq (y := y) (f := fun _ => ()) hk rfl j)
  rwa [Option.isSome_map, Option.isSome_map] at hsome

/-- What the registry of the sockets says of them. -/
theorem sockTables_of_registryOk {w : World} {l : List SockId}
    (h : (Transport.tcp.registry w).Ok l) : SockTables w := by
  have hlive : ∀ k, (Transport.tcp.binding w k).isSome = (w.tcpSock k).isSome :=
    fun k => Option.isSome_map
  refine ⟨fun k hk => h.lt k ((hlive k).trans hk), fun fd k hk => ?_, h.distinct,
    fun k hk => h.hasDescriptor k ((hlive k).trans hk), fun i k hk => ?_, h.nodup_listed⟩
  · exact ⟨(h.denotes fd k hk).1, (hlive k).symm.trans (h.denotes fd k hk).2⟩
  · obtain ⟨-, port, -, hport⟩ := h.mem_listed.mp hk
    obtain ⟨sock, hsock, hbinding⟩ := Option.map_eq_some_iff.mp hport
    obtain ⟨hbound, hintf, -⟩ := TcpSock.binding_eq hbinding
    rw [hsock, Option.map_some, hbound, hintf]

/-- The network side only moves connections between the lists of a socket. -/
theorem Change.core {sc : Scope} {w w' : World} (h : Change sc w w') (k : SockId) :
    (w'.tcpSock k).map TcpSock.core = (w.tcpSock k).map TcpSock.core := by
  cases h with
  | sends h => rw [h.tcpSock]
  | forwards _ _ _ _ _ _ _ h => rw [h.tcpSock]
  | flushed _ _ h => rw [h.tcpSock]; rfl
  | connected _ _ _ _ hk => exact map_update_of_eq hk (by rfl) k
  | closed _ _ _ _ _ _ hk => exact map_update_of_eq hk (by rfl) k
  | _ => rfl

theorem Changes.core {sc : Scope} {w w' : World} (hb : sc.base ≤ w.nextId) (h : Changes sc w w')
    (k : SockId) : (w'.tcpSock k).map TcpSock.core = (w.tcpSock k).map TcpSock.core :=
  h.induct (I := fun t => (t.tcpSock k).map TcpSock.core = (w.tcpSock k).map TcpSock.core)
    (fun _ _ ht hchange => (hchange.core k).trans ht) hb rfl

theorem Change.sockTables {sc : Scope} {w w' : World} (h : Change sc w w') (hw : SockTables w) :
    SockTables w' :=
  hw.of_core h.nextId_le (by rw [h.frame]) (by rw [h.frame]) h.core

/-- **In every state a run passes through the socket table is in order.** -/
theorem Reachable.sockTables {w : World} (h : Reachable w) : SockTables w := by
  obtain ⟨l, hl⟩ := h.registryOk .tcp
  exact sockTables_of_registryOk hl

/-! ### Connections -/

/-- What a connection keeps from its SYN on: all but its state and what it has sent and
received since. -/
def TcpConnectionSock.opened (conn : TcpConnectionSock) : TcpConnectionSock :=
  { conn with
    state := .handleSynSent
    snt := { conn.snt with nxt := 0 }
    rcv := { conn.rcv with nxt := 0 }
    rxSkb := [] }

theorem Change.opened {sc : Scope} {w w' : World} {c : ConnId} (h : Change sc w w')
    (hc : c < w.nextId) : (w'.tcpConn c).map TcpConnectionSock.opened
      = (w.tcpConn c).map TcpConnectionSock.opened := by
  cases h with
  | sends h => rw [h.tcpConn]
  | forwards _ _ _ _ _ _ _ h => rw [h.tcpConn]
  | flushed _ _ h => rw [h.tcpConn]; rfl
  | connected =>
      show (Function.update w.tcpConn w.nextId _ c).map _ = _
      rw [Function.update_of_ne (Nat.ne_of_lt hc)]
  | established _ _ _ _ hc' => exact map_update_of_eq hc' (by rfl) c
  | delivered _ _ _ _ hc' => exact map_update_of_eq hc' (by rfl) c
  | finished _ _ _ _ hc' => exact map_update_of_eq hc' (by rfl) c
  | numbered hc' => exact map_update_of_eq hc' (by rfl) c
  | _ => rfl

/-- A connection is established. -/
def Established (w : World) (c : ConnId) : Prop :=
  (w.tcpConn c).map TcpConnectionSock.state = some .handleEstab

/-- No change takes a connection out of the established state. -/
theorem Change.estab {sc : Scope} {w w' : World} {c : ConnId} (h : Change sc w w')
    (hlt : c < w.nextId) (hc : Established w c) : Established w' c := by
  unfold Established at hc ⊢
  cases h with
  | sends h => rwa [h.tcpConn]
  | forwards _ _ _ _ _ _ _ h => rwa [h.tcpConn]
  | flushed _ _ h => rw [h.tcpConn]; exact hc
  | connected => exact (congrArg _ (Function.update_of_ne (Nat.ne_of_lt hlt) _ _)).trans hc
  | @established _ c' _ _ _ _ _ hc' =>
      show (Function.update w.tcpConn c' _ c).map _ = _
      by_cases heq : c = c'
      · rw [heq, Function.update_self]
        rfl
      · rwa [Function.update_of_ne heq]
  | delivered _ _ _ _ hc' =>
      exact (map_update_of_eq (f := TcpConnectionSock.state) hc' (by rfl) c).trans hc
  | finished _ _ _ _ hc' =>
      exact (map_update_of_eq (f := TcpConnectionSock.state) hc' (by rfl) c).trans hc
  | numbered hc' =>
      exact (map_update_of_eq (f := TcpConnectionSock.state) hc' (by rfl) c).trans hc
  | _ => exact hc

/-- Sockets, connections and connection descriptors agree. -/
structure ConnTables (w : World) : Prop where
  connLt : ∀ c, (w.tcpConn c).isSome → c < w.nextId
  /-- A socket lists only its own connections. -/
  parent : ∀ k sock c, w.tcpSock k = some sock → c ∈ sock.conns ++ sock.closedConns →
    (w.tcpConn c).map TcpConnectionSock.parent = some k
  /-- No socket lists a connection twice. -/
  nodup : ∀ k sock, w.tcpSock k = some sock → (sock.conns ++ sock.closedConns).Nodup
  /-- Only established connections are closed. -/
  closed : ∀ k sock c, w.tcpSock k = some sock → c ∈ sock.closedConns → Established w c
  /-- Only established connections are accepted. -/
  accepted : ∀ fd c, w.fdConnToSock fd = some c → fd < maxTcpConnSocks ∧ Established w c

theorem Established.isSome {w : World} {c : ConnId} (h : Established w c) :
    (w.tcpConn c).isSome := by
  rw [← Option.isSome_map (f := TcpConnectionSock.state), h]
  rfl

theorem ConnTables.parent_lt {w : World} (h : ConnTables w) {k : SockId} {sock : TcpSock}
    {c : ConnId} (hk : w.tcpSock k = some sock) (hc : c ∈ sock.conns ++ sock.closedConns) :
    c < w.nextId := by
  refine h.connLt c ?_
  rw [← Option.isSome_map (f := TcpConnectionSock.parent), h.parent k sock c hk hc]
  rfl

/-- The tables stay in order when connections keep their socket and stay established, and no
list gains one. -/
theorem ConnTables.mono {w w' : World} (h : ConnTables w)
    (hlt : ∀ c, (w'.tcpConn c).isSome → c < w'.nextId)
    (hparent : ∀ c, c < w.nextId → (w'.tcpConn c).map TcpConnectionSock.parent
      = (w.tcpConn c).map TcpConnectionSock.parent)
    (hestab : ∀ c, c < w.nextId → Established w c → Established w' c)
    (hlists : ∀ k sock', w'.tcpSock k = some sock' → sock'.conns ++ sock'.closedConns = [] ∨
      ∃ sock, w.tcpSock k = some sock ∧ sock'.conns = sock.conns ∧
        sock'.closedConns = sock.closedConns)
    (hfd : w'.fdConnToSock = w.fdConnToSock) : ConnTables w' := by
  refine ⟨hlt, fun k sock' c hk hc => ?_, fun k sock' hk => ?_, fun k sock' c hk hc => ?_,
    fun fd c hc => ?_⟩
  · rcases hlists k sock' hk with hnil | ⟨sock, hk', hconns, hclosed⟩
    · rw [hnil] at hc
      cases hc
    · rw [hconns, hclosed] at hc
      rw [hparent c (h.parent_lt hk' hc)]
      exact h.parent k sock c hk' hc
  · rcases hlists k sock' hk with hnil | ⟨sock, hk', hconns, hclosed⟩
    · rw [hnil]
      exact List.nodup_nil
    · rw [hconns, hclosed]
      exact h.nodup k sock hk'
  · rcases hlists k sock' hk with hnil | ⟨sock, hk', hconns, hclosed⟩
    · rw [(List.append_eq_nil_iff.mp hnil).2] at hc
      cases hc
    · rw [hclosed] at hc
      exact hestab c (h.parent_lt hk' (List.mem_append_right _ hc)) (h.closed k sock c hk' hc)
  · rw [hfd] at hc
    obtain ⟨hlt, hc'⟩ := h.accepted fd c hc
    exact ⟨hlt, hestab c (h.connLt c hc'.isSome) hc'⟩

/-- The same when no socket gained or lost a connection. -/
theorem ConnTables.of_sock {w w' : World} (h : ConnTables w)
    (hlt : ∀ c, (w'.tcpConn c).isSome → c < w'.nextId)
    (hparent : ∀ c, c < w.nextId → (w'.tcpConn c).map TcpConnectionSock.parent
      = (w.tcpConn c).map TcpConnectionSock.parent)
    (hestab : ∀ c, c < w.nextId → Established w c → Established w' c)
    (hsock : w'.tcpSock = w.tcpSock) (hfd : w'.fdConnToSock = w.fdConnToSock) : ConnTables w' :=
  h.mono hlt hparent hestab
    (fun k sock' hk => Or.inr ⟨sock', by rw [← hsock]; exact hk, rfl, rfl⟩) hfd

/-- A SYN's connection is new on its socket's list. -/
theorem ConnTables.connected {w : World} (h : ConnTables w) {k : SockId} {sock : TcpSock}
    {conn : TcpConnectionSock} {es : List Event} (hk : w.tcpSock k = some sock)
    (hparent : conn.parent = k) :
    ConnTables { w with
      nextId := w.nextId + 1
      trace := es
      tcpConn := Function.update w.tcpConn w.nextId (some conn)
      tcpSock := Function.update w.tcpSock k
        (some { sock with conns := w.nextId :: sock.conns }) } := by
  have hother : ∀ c, c < w.nextId →
      Function.update w.tcpConn w.nextId (some conn) c = w.tcpConn c :=
    fun c hc => Function.update_of_ne (Nat.ne_of_lt hc) _ _
  refine ⟨fun c hc => ?_, fun j sock' c hj hc => ?_, fun j sock' hj => ?_,
    fun j sock' c hj hc => ?_, fun fd c hc => ?_⟩
  · by_cases hcn : c = w.nextId
    · rw [hcn]
      exact Nat.lt_succ_self _
    · refine Nat.lt_succ_of_lt (h.connLt c ?_)
      rwa [← Function.update_of_ne hcn (some conn) w.tcpConn]
  · show (Function.update w.tcpConn w.nextId _ c).map _ = _
    change Function.update w.tcpSock k _ j = some sock' at hj
    by_cases hjk : j = k
    · subst hjk
      rw [Function.update_self] at hj
      obtain rfl := Option.some.inj hj
      rcases List.mem_cons.mp hc with rfl | hc
      · rw [Function.update_self, Option.map_some, hparent]
      · rw [hother c (h.parent_lt hk hc)]
        exact h.parent j sock c hk hc
    · rw [Function.update_of_ne hjk] at hj
      rw [hother c (h.parent_lt hj hc)]
      exact h.parent j sock' c hj hc
  · change Function.update w.tcpSock k _ j = some sock' at hj
    by_cases hjk : j = k
    · subst hjk
      rw [Function.update_self] at hj
      obtain rfl := Option.some.inj hj
      exact List.nodup_cons.mpr
        ⟨fun hmem => Nat.lt_irrefl _ (h.parent_lt hk hmem), h.nodup j sock hk⟩
    · rw [Function.update_of_ne hjk] at hj
      exact h.nodup j sock' hj
  · show (Function.update w.tcpConn w.nextId _ c).map _ = _
    change Function.update w.tcpSock k _ j = some sock' at hj
    by_cases hjk : j = k
    · subst hjk
      rw [Function.update_self] at hj
      obtain rfl := Option.some.inj hj
      rw [hother c (h.parent_lt hk (List.mem_append_right _ hc))]
      exact h.closed j sock c hk hc
    · rw [Function.update_of_ne hjk] at hj
      rw [hother c (h.parent_lt hj (List.mem_append_right _ hc))]
      exact h.closed j sock' c hj hc
  · obtain ⟨hlt, hc'⟩ := h.accepted fd c hc
    refine ⟨hlt, ?_⟩
    show (Function.update w.tcpConn w.nextId _ c).map _ = _
    rw [hother c (h.connLt c hc'.isSome)]
    exact hc'

/-- What a received segment belongs to is on the list of a live socket. -/
theorem rxConn_some {w : World} {skb : SkBuff} {c : ConnId} (h : rxConn w skb = some c) :
    ∃ k sock, rxSock w skb = some k ∧ w.tcpSock k = some sock ∧ c ∈ sock.conns ∧
      ∃ conn, w.tcpConn c = some conn ∧ conn.remotePort = skb.segment.tcpSrc ∧
        conn.remoteIp = skb.ipPacket.srcIp := by
  obtain ⟨sock, hsock, hfind⟩ := Option.bind_eq_some_iff.mp h
  obtain ⟨k, hk, hlive⟩ := Option.bind_eq_some_iff.mp hsock
  unfold findMatchingConnection at hfind
  have hfound := List.find?_some hfind
  obtain ⟨conn, hconn, hends⟩ := (Option.any_eq_true _ _).mp hfound
  obtain ⟨hport, hip⟩ := Bool.and_eq_true_iff.mp hends
  exact ⟨k, sock, hk, hlive, List.mem_of_find?_eq_some hfind, conn, hconn, beq_iff_eq.mp hport,
    beq_iff_eq.mp hip⟩

/-- The socket of a connection that receives a segment is live and lists it. -/
theorem ConnTables.parent_rxConn {w : World} (h : ConnTables w) {skb : SkBuff} {c : ConnId}
    {conn : TcpConnectionSock} (hseg : rxConn w skb = some c) (hc : w.tcpConn c = some conn) :
    ∃ sock, w.tcpSock conn.parent = some sock ∧ c ∈ sock.conns := by
  obtain ⟨k, sock, -, hk, hmem, -⟩ := rxConn_some hseg
  have hparent := h.parent k sock c hk (List.mem_append_left _ hmem)
  rw [hc] at hparent
  exact ⟨sock, by rw [Option.some.inj hparent]; exact hk, hmem⟩

/-- A closed connection moves from one list of its socket to the other. -/
theorem ConnTables.closes {w : World} (h : ConnTables w) {k : SockId} {sock : TcpSock} {c : ConnId}
    (hk : w.tcpSock k = some sock) (hmem : c ∈ sock.conns) (hestab : Established w c) :
    ConnTables { w with
      tcpSock := Function.update w.tcpSock k (some { sock with
        conns := sock.conns.erase c, closedConns := c :: sock.closedConns }) } := by
  have hperm : (sock.conns.erase c ++ c :: sock.closedConns).Perm
      (sock.conns ++ sock.closedConns) :=
    List.perm_middle.trans ((List.perm_cons_erase hmem).symm.append_right sock.closedConns)
  refine ⟨h.connLt, fun j sock' c' hj hc' => ?_, fun j sock' hj => ?_,
    fun j sock' c' hj hc' => ?_, h.accepted⟩
  · change Function.update w.tcpSock k _ j = some sock' at hj
    by_cases hjk : j = k
    · subst hjk
      rw [Function.update_self] at hj
      obtain rfl := Option.some.inj hj
      exact h.parent j sock c' hk (hperm.mem_iff.mp hc')
    · rw [Function.update_of_ne hjk] at hj
      exact h.parent j sock' c' hj hc'
  · change Function.update w.tcpSock k _ j = some sock' at hj
    by_cases hjk : j = k
    · subst hjk
      rw [Function.update_self] at hj
      obtain rfl := Option.some.inj hj
      exact hperm.nodup_iff.mpr (h.nodup j sock hk)
    · rw [Function.update_of_ne hjk] at hj
      exact h.nodup j sock' hj
  · change Function.update w.tcpSock k _ j = some sock' at hj
    by_cases hjk : j = k
    · subst hjk
      rw [Function.update_self] at hj
      obtain rfl := Option.some.inj hj
      rcases List.mem_cons.mp hc' with rfl | hc'
      · exact hestab
      · exact h.closed j sock c' hk hc'
    · rw [Function.update_of_ne hjk] at hj
      exact h.closed j sock' c' hj hc'

theorem Change.connTables {sc : Scope} {w w' : World} (h : Change sc w w') (hw : ConnTables w) :
    ConnTables w' := by
  have hparent : ∀ c, c < w.nextId → (w'.tcpConn c).map TcpConnectionSock.parent
      = (w.tcpConn c).map TcpConnectionSock.parent := by
    intro c hc
    have hopened := congrArg (Option.map TcpConnectionSock.parent) (h.opened hc)
    rw [Option.map_map, Option.map_map] at hopened
    exact hopened
  have hfd : w'.fdConnToSock = w.fdConnToSock := by rw [h.frame]
  by_cases hsock : w'.tcpSock = w.tcpSock
  · exact hw.of_sock (h.conn_lt hw.connLt) hparent (fun c hlt hc => h.estab hlt hc) hsock hfd
  · cases h with
    | connected _ _ _ _ hk => exact hw.connected hk rfl
    | closed _ _ _ hseg hc hstate hk =>
        obtain ⟨sock, hk', hmem⟩ := hw.parent_rxConn hseg hc
        obtain rfl := Option.some.inj (hk.symm.trans hk')
        refine hw.closes hk hmem ?_
        rw [Established, hc, Option.map_some, hstate]
    | sends h => exact absurd h.tcpSock hsock
    | forwards _ _ _ _ _ _ _ h => exact absurd h.tcpSock hsock
    | flushed _ _ h => exact absurd h.tcpSock hsock
    | _ => exact absurd rfl hsock

theorem SocketStep.connTables {closes : Int → Prop} {w w' : World} (hs : SocketStep closes w w')
    (h : ConnTables w) :    ConnTables w' := by
  cases hs with
  | unchanged => exact h
  | @opened node fd hfree =>
      refine h.mono (fun c hc => Nat.lt_succ_of_lt (h.connLt c hc)) (fun _ _ => rfl)
        (fun _ _ hc => hc) (fun k sock' hk => ?_) rfl
      change Function.update w.tcpSock w.nextId _ k = some sock' at hk
      by_cases hkn : k = w.nextId
      · rw [hkn, Function.update_self] at hk
        obtain rfl := Option.some.inj hk
        exact Or.inl rfl
      · rw [Function.update_of_ne hkn] at hk
        exact Or.inr ⟨sock', hk, rfl, rfl⟩
  | @bound k sock i ip port hk _ _ =>
      refine h.mono h.connLt (fun _ _ => rfl) (fun _ _ hc => hc) (fun j sock' hj => Or.inr ?_) rfl
      change Function.update w.tcpSock k _ j = some sock' at hj
      by_cases hjk : j = k
      · rw [hjk, Function.update_self] at hj
        obtain rfl := Option.some.inj hj
        exact ⟨sock, hjk ▸ hk, rfl, rfl⟩
      · rw [Function.update_of_ne hjk] at hj
        exact ⟨sock', hj, rfl, rfl⟩
  | @listening k sock hk =>
      refine h.mono h.connLt (fun _ _ => rfl) (fun _ _ hc => hc) (fun j sock' hj => Or.inr ?_) rfl
      change Function.update w.tcpSock k _ j = some sock' at hj
      by_cases hjk : j = k
      · rw [hjk, Function.update_self] at hj
        obtain rfl := Option.some.inj hj
        exact ⟨sock, hjk ▸ hk, rfl, rfl⟩
      · rw [Function.update_of_ne hjk] at hj
        exact ⟨sock', hj, rfl, rfl⟩
  | @closed sockfd k sock _ _ _ =>
      refine h.mono h.connLt (fun _ _ => rfl) (fun _ _ hc => hc) (fun j sock' hj => Or.inr ?_) rfl
      change Function.update w.tcpSock k none j = some sock' at hj
      by_cases hjk : j = k
      · rw [hjk, Function.update_self] at hj
        cases hj
      · rw [Function.update_of_ne hjk] at hj
        exact ⟨sock', hj, rfl, rfl⟩

theorem ConnTables.accept {w : World} (h : ConnTables w) (sockfd : Int) :
    ConnTables ((Op.tcpAccept sockfd).after w) := by
  rcases tcpAccept_after w sockfd with ⟨c, i, hfirst, hfree, heq⟩ | ⟨-, heq⟩
  · rw [heq]
    refine ⟨h.connLt, h.parent, h.nodup, h.closed, fun fd c' hc' => ?_⟩
    change Function.update w.fdConnToSock i (some c) fd = some c' at hc'
    by_cases hfd : fd = i
    · subst hfd
      rw [Function.update_self] at hc'
      obtain rfl := Option.some.inj hc'
      refine ⟨(firstFree_some hfree).1, ?_⟩
      obtain ⟨sock, -, hfind⟩ := Option.bind_eq_some_iff.mp hfirst
      obtain ⟨conn, hconn, hstate⟩ := isEstab_conn (List.find?_some hfind)
      show (w.tcpConn c).map _ = _
      rw [hconn, Option.map_some, hstate]
    · rw [Function.update_of_ne hfd] at hc'
      exact h.accepted fd c' hc'
  · rw [heq]
    exact h

/-- What a quiet call leaves of a connection. -/
theorem Quiet.conn {own : Part → Prop} {w w' : World} (h : Quiet own w w') {α : Type}
    {f : TcpConnectionSock → α} (hf : ∀ conn, f conn.control = f conn) (c : ConnId) :
    (w'.tcpConn c).map f = (w.tcpConn c).map f := by
  have hcontrol := congrArg (Option.map f) (h.tcpConn c)
  rw [Option.map_map, Option.map_map] at hcontrol
  rwa [show f ∘ TcpConnectionSock.control = f from funext hf] at hcontrol

/-- **In every state a run passes through sockets and connections agree.** -/
theorem Reachable.connTables {w : World} (h : Reachable w) : ConnTables w := by
  refine h.invariant (fun t hinit => ?_) fun op t ih => ?_
  · have hnone : ∀ k, t.tcpSock k = none := fun k => by rw [hinit.tcpSock]
    have hconn : ∀ c, t.tcpConn c = none := fun c => by rw [hinit.tcpConn]
    have hfd : ∀ fd, t.fdConnToSock fd = none := fun fd => by rw [hinit.fdConnToSock]
    exact ⟨fun c hc => by simp [hconn] at hc, fun k sock c hk => by simp [hnone] at hk,
      fun k sock hk => by simp [hnone] at hk, fun k sock c hk => by simp [hnone] at hk,
      fun fd c hc => by simp [hfd] at hc⟩
  · refine invariant_after ?_ (fun _ _ hu hc => hc.connTables hu) fun hquiet => ?_
    · cases op with
      | recvFrame i frame =>
          exact ih.of_sock (fun c hc => Nat.lt_succ_of_lt (ih.connLt c hc)) (fun _ _ => rfl)
            (fun _ _ hc => hc) rfl rfl
      | _ => exact ih
    · rcases hquiet.parts .tcp with hown | ⟨hsock, -, -⟩
      · exact (socketStep_after hown t).connTables ih
      · rcases hquiet.parts .accept with hown | hfd
        · cases op with
          | tcpAccept sockfd => exact ih.accept sockfd
          | _ => cases hown
        · refine ih.of_sock (fun c hc => ?_) (fun c _ => hquiet.conn (fun _ => rfl) c)
            (fun c _ hc => (hquiet.conn (fun _ => rfl) c).trans hc) hsock hfd
          refine Nat.lt_of_lt_of_le (ih.connLt c ?_) hquiet.nextId
          have hsome := congrArg Option.isSome (hquiet.conn (f := fun _ => ()) (fun _ => rfl) c)
          rw [Option.isSome_map, Option.isSome_map] at hsome
          rw [← hsome]
          exact hc

end SimpleTcpip
