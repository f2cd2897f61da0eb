/-
Accepting connections.

`tcp_accept` returns the first established connection on the socket's list.  It looks
neither at the descriptors it has handed out nor at a mark on the connection, and it
leaves the connection where it is.  Two calls with no newer connection in between
therefore return the same one, and a connection behind it is never reached.

What is proved is when that does not show: a run whose calls all find a connection
that has no descriptor yet keeps the descriptors distinct, and a batch of calls
returns all connections that wait exactly when at most one waits and it comes first.
-/
import SimpleTcpip.Model.Fixture
import SimpleTcpip.Proofs.Calls

namespace SimpleTcpip

open Fallible

/-! ### What is waiting -/

/-- The socket behind a descriptor, if it listens. -/
def listeningSock (w : World) (sockfd : Int) : Option TcpSock :=
  ((goodTcpSock w sockfd).bind w.tcpSock).filter fun sock => sock.listening

/-- The first established connection of a listening socket. -/
def firstEstab (w : World) (sockfd : Int) : Option ConnId :=
  (listeningSock w sockfd).bind fun sock => sock.conns.find? (isEstab w)

/-- Does a descriptor denote a connection? -/
def hasDescriptor (w : World) (c : ConnId) : Bool :=
  (List.range maxTcpConnSocks).any fun i => w.fdConnToSock i == some c

/-- The connections of a socket that reached the established state, closed ones included,
and that no descriptor denotes. -/
def unaccepted (w : World) (sock : TcpSock) : Finset ConnId :=
  ((sock.conns ++ sock.closedConns).filter fun c =>
    isEstab w c && !hasDescriptor w c).toFinset

/-- How many connection descriptors are free. -/
def freeSlots (w : World) : Nat :=
  ((List.range maxTcpConnSocks).filter fun i => (w.fdConnToSock i).isNone).length

/-- No two descriptors denote one connection. -/
def DistinctConns (w : World) : Prop :=
  ∀ i j c, w.fdConnToSock i = some c → w.fdConnToSock j = some c → i = j

/-! ### What one call does -/

/-- The process once a descriptor denotes a connection. -/
def World.accepted (w : World) (i : Nat) (c : ConnId) : World :=
  { w with fdConnToSock := Function.update w.fdConnToSock i (some c) }

theorem firstFree_some {α : Type} {size : Nat} {table : Nat → Option α} {i : Nat}
    (h : firstFree size table = some i) : i < size ∧ table i = none :=
  ⟨List.mem_range.mp (List.mem_of_find?_eq_some h), by simpa using (List.find?_eq_some_iff_append.mp h).1⟩

theorem isEstab_conn {w : World} {c : ConnId} (h : isEstab w c = true) :
    ∃ conn, w.tcpConn c = some conn ∧ conn.state = .handleEstab := by
  obtain ⟨conn, hconn, hstate⟩ := (Option.any_eq_true _ _).mp h
  exact ⟨conn, hconn, beq_iff_eq.mp hstate⟩

/-- **`tcp_accept` opens the first free descriptor for the first established connection**,
or changes nothing. -/
theorem tcpAccept_cases (w : World) (sockfd : Int) :
    (∃ c i conn, firstEstab w sockfd = some c ∧
      firstFree maxTcpConnSocks w.fdConnToSock = some i ∧ w.tcpConn c = some conn ∧
      tcpAccept sockfd w =
        .ok (some { connfd := i, ip := conn.remoteIp, port := conn.remotePort })
          (w.accepted i c)) ∨
    (firstEstab w sockfd = none ∨ firstFree maxTcpConnSocks w.fdConnToSock = none) ∧
      (tcpAccept sockfd w = .ok none w ∨ tcpAccept sockfd w = .error .useAfterFree w) := by
  unfold tcpAccept firstEstab listeningSock
  rw [run_bind_ok (run_get w)]
  cases hfd : goodTcpSock w sockfd with
  | none => exact Or.inr ⟨Or.inl rfl, Or.inl rfl⟩
  | some k =>
      cases hk : w.tcpSock k with
      | none =>
          refine Or.inr ⟨Or.inl (by rw [Option.bind_some, hk]; rfl), Or.inr ?_⟩
          refine run_bind_error ?_
          simp only [derefTcpSock, run_bind_ok (run_get w), hk]
          rfl
      | some sock =>
          simp only
          rw [run_bind_ok (derefTcpSock_ok.mpr ⟨hk, rfl⟩), Option.bind_some, hk]
          by_cases hlisten : sock.listening = true
          · rw [if_neg (by simpa using hlisten), run_bind_ok (run_get w),
              Option.filter_some_pos hlisten, Option.bind_some]
            cases hfind : sock.conns.find? (isEstab w) with
            | none => exact Or.inr ⟨Or.inl rfl, Or.inl rfl⟩
            | some c =>
                simp only
                rw [run_bind_ok (run_get w)]
                cases hfree : firstFree maxTcpConnSocks w.fdConnToSock with
                | none => exact Or.inr ⟨Or.inr rfl, Or.inl rfl⟩
                | some i =>
                    obtain ⟨conn, hconn, -⟩ := isEstab_conn (List.find?_some hfind)
                    refine Or.inl ⟨c, i, conn, rfl, rfl, hconn, ?_⟩
                    exact (run_bind_ok (run_modify _ w)).trans
                      (run_bind_ok (derefTcpConn_ok.mpr ⟨hconn, rfl⟩))
          · rw [if_pos (by simpa using hlisten), Option.filter_some_neg (Bool.eq_false_iff.mpr hlisten)]
            exact Or.inr ⟨Or.inl rfl, Or.inl rfl⟩

/-- **What `tcp_accept` leaves.** -/
theorem tcpAccept_after (w : World) (sockfd : Int) :
    (∃ c i, firstEstab w sockfd = some c ∧
      firstFree maxTcpConnSocks w.fdConnToSock = some i ∧
      (Op.tcpAccept sockfd).after w = w.accepted i c) ∨
    (firstEstab w sockfd = none ∨ firstFree maxTcpConnSocks w.fdConnToSock = none) ∧
      (Op.tcpAccept sockfd).after w = w := by
  have hafter : (Op.tcpAccept sockfd).after w = final (tcpAccept sockfd) w :=
    final_bind_pure _ _ w
  rw [hafter]
  rcases tcpAccept_cases w sockfd with ⟨c, i, conn, hfirst, hfree, -, hrun⟩ | ⟨hnone, hrun | hrun⟩
  · exact Or.inl ⟨c, i, hfirst, hfree, final_of_ok hrun⟩
  · exact Or.inr ⟨hnone, final_of_ok hrun⟩
  · exact Or.inr ⟨hnone, final_of_error hrun⟩

/-! ### Runs -/

/-- A call of `tcp_accept` finds no connection that was accepted before. -/
def AcceptsNew (w : World) : Op → Prop
  | .tcpAccept sockfd => ∀ c, firstEstab w sockfd = some c → 0 < freeSlots w →
      ∀ i, w.fdConnToSock i ≠ some c
  | _ => True

theorem firstFree_none_iff (w : World) :
    firstFree maxTcpConnSocks w.fdConnToSock = none ↔ freeSlots w = 0 := by
  rw [firstFree, List.find?_eq_none, freeSlots, List.length_eq_zero_iff, List.filter_eq_nil_iff]

/-- One more descriptor leaves them distinct when it denotes a new connection. -/
theorem distinctConns_accepted {w : World} {i : Nat} {c : ConnId} (h : DistinctConns w)
    (hi : w.fdConnToSock i = none) :
    DistinctConns (w.accepted i c) ↔ ∀ j, w.fdConnToSock j ≠ some c := by
  have hother : ∀ j, j ≠ i → (w.accepted i c).fdConnToSock j = w.fdConnToSock j :=
    fun j hj => Function.update_of_ne hj _ _
  have hself : (w.accepted i c).fdConnToSock i = some c := Function.update_self ..
  constructor
  · intro hd j hj
    have hne : j ≠ i := by
      intro hji
      rw [hji, hi] at hj
      cases hj
    exact hne (hd j i c ((hother j hne).trans hj) hself)
  · intro hnew j j' c' hj hj'
    by_cases hji : j = i
    · by_cases hji' : j' = i
      · rw [hji, hji']
      · rw [hji, hself] at hj
        rw [hother j' hji', ← hj] at hj'
        exact absurd hj' (hnew j')
    · rw [hother j hji] at hj
      by_cases hji' : j' = i
      · rw [hji', hself] at hj'
        rw [← hj'] at hj
        exact absurd hj (hnew j)
      · rw [hother j' hji'] at hj'
        exact h j j' c' hj hj'

/-- From distinct descriptors, one call keeps them distinct exactly when it finds a new
connection. -/
theorem distinctConns_tcpAccept {w : World} (h : DistinctConns w) (sockfd : Int) :
    DistinctConns ((Op.tcpAccept sockfd).after w) ↔ AcceptsNew w (.tcpAccept sockfd) := by
  rcases tcpAccept_after w sockfd with ⟨c, i, hfirst, hfree, hafter⟩ | ⟨hnone, hafter⟩
  · have hslots : 0 < freeSlots w := by
      rw [Nat.pos_iff_ne_zero, Ne, ← firstFree_none_iff, hfree]
      exact Option.some_ne_none i
    rw [hafter, distinctConns_accepted h (firstFree_some hfree).2]
    constructor
    · intro hnew c' hc' _
      rw [hfirst] at hc'
      rw [← Option.some.inj hc']
      exact hnew
    · intro hnew
      exact hnew c hfirst hslots
  · rw [hafter]
    refine ⟨fun _ c hc hslots => ?_, fun _ => h⟩
    rcases hnone with hnone | hnone
    · rw [hnone] at hc
      cases hc
    · rw [firstFree_none_iff] at hnone
      exact absurd hnone (Nat.pos_iff_ne_zero.mp hslots)

/-- Only `tcp_accept` opens connection descriptors. -/
theorem fdConnToSock_after {op : Op} (h : ¬ op.accepts) (w : World) :
    (op.after w).fdConnToSock = w.fdConnToSock := by
  have hbegun : (op.begun w).fdConnToSock = w.fdConnToSock := by
    cases op <;> rfl
  rcases runOp_cases op w with hchanges | ⟨-, hquiet⟩
  · rw [hchanges.frame (Nat.le_of_eq (Op.base_scope w op)), hbegun]
  · exact (hquiet.parts .accept).resolve_left fun hown => h (Op.accepts_of_owns hown)

theorem fdConnToSock_runOps {ops : List Op} {w w' : World} (hno : ∀ op ∈ ops, ¬ op.accepts)
    (hs : runOps w ops = some w') : w'.fdConnToSock = w.fdConnToSock := by
  induction ops generalizing w with
  | nil =>
      cases hs
      rfl
  | cons op ops ih =>
      rw [runOps, List.foldlM_cons] at hs
      obtain ⟨t, ht, hrest⟩ := Option.bind_eq_some_iff.mp hs
      obtain ⟨-, r, hr⟩ := Op.step?_eq_some.mp ht
      have hafter : op.after w = t := final_of_ok hr
      rw [ih (fun op' hmem => hno op' (List.mem_cons_of_mem _ hmem)) hrest, ← hafter]
      exact fdConnToSock_after (hno op List.mem_cons_self) w

/-- **In a run whose accepts all find new connections the descriptors stay distinct.** -/
theorem ReachableBy.distinctConns {w : World} (h : ReachableBy AcceptsNew w) :
    DistinctConns w := by
  induction h with
  | init h =>
      intro i j c hi
      rw [h.fdConnToSock] at hi
      cases hi
  | @step t t' op r _ _ hnew hrun ih =>
      rw [← final_of_ok hrun]
      by_cases hacc : op.accepts
      · cases op with
        | tcpAccept sockfd => exact (distinctConns_tcpAccept ih sockfd).mpr hnew
        | _ => exact absurd hacc id
      · intro i j c hi hj
        have hsame := fdConnToSock_after hacc t
        unfold Op.after at hsame
        rw [hsame] at hi hj
        exact ih i j c hi hj

/-! ### A batch of calls -/

/-- Calls of `tcp_accept`, one after another. -/
def tcpAcceptTimes (sockfd : Int) : Nat → M (List (Option Accepted))
  | 0 => pure []
  | n + 1 => do
      let r ← tcpAccept sockfd
      let rest ← tcpAcceptTimes sockfd n
      pure (r :: rest)

/-- As many calls as there are connections in a set return a descriptor each, and the
descriptors denote just these connections. -/
def AcceptsAll (w : World) (sockfd : Int) (cs : Finset ConnId) : Prop :=
  ∃ (as : List Accepted) (l : List ConnId) (w' : World), tcpAcceptTimes sockfd cs.card w = .ok (as.map some) w' ∧
    as.map (fun a => w'.fdConnToSock a.connfd) = l.map some ∧ l.Nodup ∧ l.toFinset = cs

/-- What a batch returns denotes the one connection that every call finds, and what was
open stays open. -/
theorem tcpAcceptTimes_conn {sockfd : Int} {n : Nat} {w w' : World} {as : List Accepted}
    (hrun : tcpAcceptTimes sockfd n w = .ok (as.map some) w') :
    as.length = n ∧ (∀ a ∈ as, w'.fdConnToSock a.connfd = firstEstab w sockfd) ∧
      ∀ i c, w.fdConnToSock i = some c → w'.fdConnToSock i = some c := by
  induction n generalizing w as with
  | zero =>
      have hnil := (EStateM.Result.ok.inj hrun).1
      obtain rfl := List.map_eq_nil_iff.mp hnil.symm
      obtain rfl := (EStateM.Result.ok.inj hrun).2
      exact ⟨rfl, by simp, fun _ _ h => h⟩
  | succ n ih =>
      obtain ⟨r, t, hfirst, hrest⟩ := bind_ok_iff.mp hrun
      obtain ⟨rs, t', hrs, heq⟩ := bind_ok_iff.mp hrest
      obtain ⟨hlist, rfl⟩ := EStateM.Result.ok.inj heq
      obtain ⟨a, as', rfl, ha, has⟩ := List.map_eq_cons_iff.mp hlist.symm
      subst ha has
      obtain ⟨hlen, hconn, hold⟩ := ih hrs
      rcases tcpAccept_cases w sockfd with ⟨c, i, conn, hc, hfree, -, hrun'⟩ | ⟨-, hrun' | hrun'⟩
      · rw [hrun'] at hfirst
        cases hfirst
        have hi : (w.accepted i c).fdConnToSock i = some c := Function.update_self ..
        refine ⟨by rw [List.length_cons, hlen], ?_, ?_⟩
        · intro b hb
          rcases List.mem_cons.mp hb with rfl | hb
          · rw [hold i c hi, hc]
          · exact hconn b hb
        · intro j c' hj
          refine hold j c' ?_
          have hne : j ≠ i := by
            intro hji
            rw [hji, (firstFree_some hfree).2] at hj
            cases hj
          exact (Function.update_of_ne hne _ _).trans hj
      · rw [hrun'] at hfirst
        cases hfirst
      · rw [hrun'] at hfirst
        cases hfirst

/-- **A batch returns all connections that wait exactly when at most one does, and it is
the first.** -/
theorem acceptsAll_iff {w : World} {sockfd : Int} {cs : Finset ConnId}
    (hfree : cs.card ≤ freeSlots w) :
    AcceptsAll w sockfd cs ↔ ∀ c ∈ cs, cs = {c} ∧ firstEstab w sockfd = some c := by
  constructor
  · intro h c hc
    obtain ⟨as, l, w', hrun, hmap, -, rfl⟩ := h
    have hconn := (tcpAcceptTimes_conn hrun).2.1
    have hall : ∀ c' ∈ l.toFinset, firstEstab w sockfd = some c' := by
      intro c' hc'
      have hmem : some c' ∈ as.map fun a => w'.fdConnToSock a.connfd := by
        rw [hmap]
        exact List.mem_map_of_mem (List.mem_toFinset.mp hc')
      obtain ⟨a, ha, heq⟩ := List.mem_map.mp hmem
      rw [← hconn a ha, heq]
    refine ⟨Finset.eq_singleton_iff_unique_mem.mpr ⟨hc, fun c' hc' => ?_⟩, hall c hc⟩
    exact Option.some.inj ((hall c' hc').symm.trans (hall c hc))
  · intro h
    by_cases hempty : cs = ∅
    · subst hempty
      exact ⟨[], [], w, rfl, rfl, List.nodup_nil, rfl⟩
    · obtain ⟨c, hc⟩ := Finset.nonempty_iff_ne_empty.mpr hempty
      obtain ⟨rfl, hfirst⟩ := h c hc
      rcases tcpAccept_cases w sockfd with ⟨c', i, conn, hc', -, -, hrun⟩ | ⟨hnone, -⟩
      · obtain rfl : c = c' := Option.some.inj (hfirst.symm.trans hc')
        refine ⟨[{ connfd := i, ip := conn.remoteIp, port := conn.remotePort }], [c],
          w.accepted i c, ?_, ?_, List.nodup_singleton c, rfl⟩
        · exact bind_ok_iff.mpr ⟨_, _, hrun, bind_ok_iff.mpr ⟨_, _, rfl, rfl⟩⟩
        · exact congrArg (fun d => [d]) (Function.update_self ..)
      · rw [hfirst, firstFree_none_iff] at hnone
        rw [Finset.card_singleton, hnone.resolve_left (Option.some_ne_none c)] at hfree
        exact absurd hfree (by decide)

/--
**Each connection is accepted once exactly when every call finds a new one.**  A run
whose calls do so keeps the descriptors distinct, and one call that does not ends that.
A batch of calls for the connections of a socket that wait succeeds exactly when there
is at most one, first among the established ones on the list.
-/
theorem tcpAccept_once (w : World) :
    (ReachableBy AcceptsNew w → DistinctConns w) ∧
      ∀ sockfd, (DistinctConns w →
          (DistinctConns ((Op.tcpAccept sockfd).after w) ↔ AcceptsNew w (.tcpAccept sockfd))) ∧
        ∀ sock, listeningSock w sockfd = some sock → (unaccepted w sock).card ≤ freeSlots w →
          (AcceptsAll w sockfd (unaccepted w sock) ↔
            ∀ c ∈ unaccepted w sock, unaccepted w sock = {c} ∧ firstEstab w sockfd = some c) :=
  ⟨fun h => h.distinctConns, fun sockfd =>
    ⟨fun h => distinctConns_tcpAccept h sockfd, fun _ _ hfree => acceptsAll_iff hfree⟩⟩

/-- The accepted connection had no descriptor before. -/
theorem connected_acceptsNew : ReachableBy AcceptsNew Fixture.connected := by
  have hops : (runOps Fixture.graph (Fixture.configure ++ (Fixture.listen ++ Fixture.handshake 5 ++
      [.tcpAccept 0]))).isSome := by decide +kernel
  have hrun := Fixture.runOps_after hops
  unfold Fixture.connected
  generalize Fixture.after (Fixture.listen ++ Fixture.handshake 5 ++ [.tcpAccept 0]) = w at *
  rw [← List.append_assoc] at hrun
  obtain ⟨t, hbefore, haccept⟩ := runOps_append hrun
  have hno : ∀ op ∈ Fixture.configure ++ (Fixture.listen ++ Fixture.handshake 5), ¬ op.accepts := by
    intro op hop
    simp only [Fixture.configure, Fixture.listen, Fixture.handshake, List.cons_append,
      List.nil_append, List.mem_cons, List.not_mem_nil, or_false] at hop
    obtain rfl | rfl | rfl | rfl | rfl | rfl | rfl | rfl | rfl := hop <;> exact id
  have hnone : ∀ i, t.fdConnToSock i = none := by
    intro i
    rw [fdConnToSock_runOps hno hbefore]
    rfl
  have hreach : ReachableBy AcceptsNew t := by
    refine ReachableBy.runOps (.init Fixture.graph_initial) (I := fun _ => True) trivial
      (fun op hop w _ => ?_) (fun _ _ _ _ => trivial) hbefore
    cases op with
    | tcpAccept sockfd => exact absurd trivial (hno _ hop)
    | _ => trivial
  rw [runOps, List.foldlM_cons] at haccept
  obtain ⟨t', hstep, hlast⟩ := Option.bind_eq_some_iff.mp haccept
  obtain rfl : t' = w := Option.some.inj hlast
  obtain ⟨hv, r, hr⟩ := Op.step?_eq_some.mp hstep
  refine hreach.step hv (fun c _ _ i hi => ?_) hr
  rw [hnone i] at hi
  cases hi

theorem tcpAccept_once_fixture :
    ReachableBy AcceptsNew Fixture.connected ∧
      Fixture.connected.fdConnToSock 0 = some 2 ∧
      DistinctConns Fixture.connected ∧
      ∃ sock, listeningSock (Fixture.after (Fixture.listen ++ Fixture.handshake 5)) 0 = some sock ∧
        unaccepted (Fixture.after (Fixture.listen ++ Fixture.handshake 5)) sock = {2} ∧
        AcceptsAll (Fixture.after (Fixture.listen ++ Fixture.handshake 5)) 0
          (unaccepted (Fixture.after (Fixture.listen ++ Fixture.handshake 5)) sock) := by
  have hfd : Fixture.connected.fdConnToSock 0 = some 2 := by decide +kernel
  have hstate : (listeningSock (Fixture.after (Fixture.listen ++ Fixture.handshake 5)) 0).any
      (fun sock => decide
        (unaccepted (Fixture.after (Fixture.listen ++ Fixture.handshake 5)) sock = {2} ∧
          1 ≤ freeSlots (Fixture.after (Fixture.listen ++ Fixture.handshake 5)) ∧
          firstEstab (Fixture.after (Fixture.listen ++ Fixture.handshake 5)) 0 = some 2))
        = true := by decide +kernel
  obtain ⟨sock, hsock, hcheck⟩ := (Option.any_eq_true _ _).mp hstate
  obtain ⟨hwait, hfree, hfirst⟩ := of_decide_eq_true hcheck
  have hreach := connected_acceptsNew
  generalize Fixture.connected = w at *
  refine ⟨hreach, hfd, (tcpAccept_once w).1 hreach, sock, hsock, hwait, ?_⟩
  refine (((tcpAccept_once _).2 0).2 sock hsock ?_).mpr ?_
  · rw [hwait]
    exact hfree
  · intro c hc
    rw [hwait] at hc ⊢
    obtain rfl := Finset.mem_singleton.mp hc
    exact ⟨rfl, hfirst⟩

/-- **Two calls after one handshake return the same connection.** -/
theorem tcpAccept_twice :
    Reachable (Fixture.after (Fixture.listen ++ Fixture.handshake 5 ++
        [.tcpAccept 0, .tcpAccept 0])) ∧
      ¬ DistinctConns (Fixture.after (Fixture.listen ++ Fixture.handshake 5 ++
        [.tcpAccept 0, .tcpAccept 0])) := by
  refine ⟨Fixture.reachable_after _, fun h => ?_⟩
  have hfirst : (Fixture.after (Fixture.listen ++ Fixture.handshake 5 ++
      [.tcpAccept 0, .tcpAccept 0])).fdConnToSock 0 = some 2 := by decide +kernel
  have hsecond : (Fixture.after (Fixture.listen ++ Fixture.handshake 5 ++
      [.tcpAccept 0, .tcpAccept 0])).fdConnToSock 1 = some 2 := by decide +kernel
  exact absurd (h 0 1 2 hfirst hsecond) (by decide)

end SimpleTcpip
