/-
Sockets that share a port.

`udp_bind` and `tcp_bind` look at the descriptor, at the socket and at the address, and not
at who else is bound there.  Two sockets of a protocol come to share an interface and a port
in one way, by a call that binds one where the other is, and the one bound last gets what
arrives.
-/
import SimpleTcpip.Proofs.Sockets

namespace SimpleTcpip

open Fallible

namespace Transport

/-! ### The bind call -/

/-- The bind call of a protocol. -/
def bindCall : Transport → Int → UInt32 → UInt16 → Op
  | .udp => .udpBind
  | .tcp => .tcpBind

/-- The node of an open socket that is not bound. -/
def unboundNode : Transport → World → SockId → Option NodeId
  | .udp, w, k => (w.udpSock k).bind fun sock => if sock.bound then none else some sock.node
  | .tcp, w, k => (w.tcpSock k).bind fun sock => if sock.bound then none else some sock.node

/-- The process once a socket is bound. -/
def bound : Transport → World → SockId → UInt32 → UInt16 → IntfId → World
  | .udp, w, k, _, port, i => { w with
      udpSock := Function.update w.udpSock k ((w.udpSock k).map fun sock =>
        { sock with bound := true, intf := some i, localPort := port })
      udpSocks := Function.update w.udpSocks i (k :: w.udpSocks i) }
  | .tcp, w, k, ip, port, i => { w with
      tcpSock := Function.update w.tcpSock k ((w.tcpSock k).map fun sock =>
        { sock with bound := true, intf := some i, localIp := ip, localPort := port })
      tcpSocks := Function.update w.tcpSocks i (k :: w.tcpSocks i) }

section Bind

variable {t : Transport} {w : World} {sockfd : Int} {ip : UInt32} {port : UInt16} {k : SockId}
  {n : NodeId} {i : IntfId}

/-- A socket that is open and passes a test, and what is read of it. -/
theorem bind_unless_eq_some {α β : Type} {o : Option α} {p : α → Bool} {f : α → β} {b : β}
    (h : (o.bind fun a => if p a then none else some (f a)) = some b) :
    ∃ a, o = some a ∧ p a = false ∧ f a = b := by
  obtain ⟨a, ha, hb⟩ := Option.bind_eq_some_iff.mp h
  cases hp : p a with
  | true =>
      rw [hp, if_pos rfl] at hb
      cases hb
  | false =>
      rw [hp, if_neg Bool.false_ne_true] at hb
      exact ⟨a, ha, hp, Option.some.inj hb⟩

theorem unboundNode_udp (h : unboundNode .udp w k = some n) :
    ∃ sock, w.udpSock k = some sock ∧ sock.bound = false ∧ sock.node = n :=
  bind_unless_eq_some h

theorem unboundNode_tcp (h : unboundNode .tcp w k = some n) :
    ∃ sock, w.tcpSock k = some sock ∧ sock.bound = false ∧ sock.node = n :=
  bind_unless_eq_some h

/-- **A bind looks at nothing but the socket and the address.** -/
theorem bindCall_run (hfd : t.goodSock w sockfd = some k) (hk : t.unboundNode w k = some n)
    (hi : getMatchingInterface w n ip = some i) :
    runOp (t.bindCall sockfd ip port) w = .ok (.int 0) (t.bound w k ip port i) := by
  cases t with
  | udp =>
      obtain ⟨sock, hsock, hbound, rfl⟩ := unboundNode_udp hk
      change goodUdpSock w sockfd = some k at hfd
      have hcall : udpBind sockfd ip port w = .ok 0 (bound .udp w k ip port i) := by
        unfold udpBind
        rw [run_bind_ok (run_get w), hfd]
        dsimp only
        rw [run_bind_ok (derefUdpSock_ok.mpr ⟨hsock, rfl⟩), hbound, if_neg Bool.false_ne_true,
          run_bind_ok (run_get w), hi]
        rw [bound, hsock]
        rfl
      exact run_bind_ok hcall
  | tcp =>
      obtain ⟨sock, hsock, hbound, rfl⟩ := unboundNode_tcp hk
      change goodTcpSock w sockfd = some k at hfd
      have hcall : tcpBind sockfd ip port w = .ok 0 (bound .tcp w k ip port i) := by
        unfold tcpBind
        rw [run_bind_ok (run_get w), hfd]
        dsimp only
        rw [run_bind_ok (derefTcpSock_ok.mpr ⟨hsock, rfl⟩), hbound, if_neg Bool.false_ne_true,
          run_bind_ok (run_get w), hi]
        rw [bound, hsock]
        rfl
      exact run_bind_ok hcall

/-- In the tables a bind is the one entry. -/
theorem bound_tables (t : Transport) (ip : UInt32) (port : UInt16) (i : IntfId)
    (hk : t.unboundNode w k = some n) : t.binding w k = some none ∧
    t.binding (t.bound w k ip port i)
      = Function.update (t.binding w) k (some (some (i, port))) ∧
    t.socks (t.bound w k ip port i) = Function.update (t.socks w) i (k :: t.socks w i) := by
  cases t with
  | udp =>
      obtain ⟨sock, hsock, hbound, rfl⟩ := unboundNode_udp hk
      refine ⟨?_, (udpBinding_update w _ _).trans ?_, rfl⟩
      · change (w.udpSock k).map UdpSock.binding = some none
        rw [hsock, Option.map_some, UdpSock.binding, hbound, if_neg Bool.false_ne_true]
      · rw [hsock]
        rfl
  | tcp =>
      obtain ⟨sock, hsock, hbound, rfl⟩ := unboundNode_tcp hk
      refine ⟨?_, (tcpBinding_update w _ _).trans ?_, rfl⟩
      · change (w.tcpSock k).map TcpSock.binding = some none
        rw [hsock, Option.map_some, TcpSock.binding, hbound, if_neg Bool.false_ne_true]
      · rw [hsock]
        rfl

end Bind

/-! ### Runs -/

/-- A call bound socket `k` to an interface and a port where socket `k'` was bound. -/
def BindsOver (t : Transport) (call : Call) (k k' : SockId) (i : IntfId) (port : UInt16) : Prop :=
  t.binds call.before call.op = some k ∧ t.binding call.after k = some (some (i, port)) ∧
    t.binding call.before k' = some (some (i, port))

/-- **How sockets come to share a port, and what follows from it**, after these calls.  A socket
that is not freed is open. -/
structure PortSharing (t : Transport) (calls : List Call) (w : World) : Prop where
  /-- Two sockets bound to one interface and port: a call bound one where the other was. -/
  shared : ∀ k k' i port, k ≠ k' → t.binding w k = some (some (i, port)) →
    t.binding w k' = some (some (i, port)) →
    ∃ call ∈ calls, t.BindsOver call k k' i port ∨ t.BindsOver call k' k i port
  /-- A run without such calls keeps every interface and port to one socket. -/
  exclusive : (∀ call ∈ calls, ∀ k k' i port, ¬ t.BindsOver call k k' i port) →
    ∀ k k' i port, t.binding w k = some (some (i, port)) →
      t.binding w k' = some (some (i, port)) → k = k'
  /-- What arrives goes to the open socket that was bound last. -/
  find : ∀ i port, t.managerFind w i port = (t.bindings calls).find? (t.isBoundTo w i port)
  /-- A bind of an unbound socket to an address of its node succeeds, whoever is bound there.
  It takes over what arrives there, and nothing else. -/
  bind : ∀ sockfd ip port k n i, t.goodSock w sockfd = some k → t.unboundNode w k = some n →
    getMatchingInterface w n ip = some i →
    runOp (t.bindCall sockfd ip port) w = .ok (.int 0) (t.bound w k ip port i) ∧
    t.managerFind (t.bound w k ip port i) i port = some k ∧
    ∀ i' port', (i', port') ≠ (i, port) →
      t.managerFind (t.bound w k ip port i) i' port' = t.managerFind w i' port'

end Transport

theorem Run.shared {w₀ w : World} {calls : List Call} (hrun : Run w₀ calls w) (h0 : Initial w₀)
    (t : Transport) {k k' : SockId} {i : IntfId} {port : UInt16} (hne : k ≠ k')
    (hk : t.binding w k = some (some (i, port))) (hk' : t.binding w k' = some (some (i, port))) :
    ∃ call ∈ calls, t.BindsOver call k k' i port ∨ t.BindsOver call k' k i port := by
  induction hrun with
  | nil =>
      have hnone := (h0.registryOk t).bound k i port hk
      cases hnone
  | @snoc calls u u' op r h hv hrun ih =>
      have hstep := registry_step t op u
      rw [show op.after u = u' from final_of_ok hrun] at hstep
      have hlast : (⟨u, op, r, u'⟩ : Call) ∈ calls ++ [⟨u, op, r, u'⟩] :=
        List.mem_append_right _ (List.mem_singleton_self _)
      rcases hstep.shared hne hk hk' with ⟨hold, hold'⟩ | ⟨hbinds, hold'⟩ | ⟨hbinds, hold⟩
      · obtain ⟨call, hmem, hover⟩ := ih hold hold'
        exact ⟨call, List.mem_append_left _ hmem, hover⟩
      · exact ⟨_, hlast, Or.inl ⟨hbinds, hk, hold'⟩⟩
      · exact ⟨_, hlast, Or.inr ⟨hbinds, hk', hold⟩⟩

/-- **In every run, sockets share a port only by being bound over one another.** -/
theorem port_sharing {w₀ w : World} {calls : List Call} (h0 : Initial w₀) (hrun : Run w₀ calls w)
    (t : Transport) : t.PortSharing calls w := by
  refine ⟨fun k k' i port hne hk hk' => hrun.shared h0 t hne hk hk', ?_,
    (socket_tables_consistent h0 hrun t).find, ?_⟩
  · intro hnone k k' i port hk hk'
    by_contra hne
    obtain ⟨call, hmem, hover⟩ := hrun.shared h0 t hne hk hk'
    exact hover.elim (hnone call hmem k k' i port) (hnone call hmem k' k i port)
  · intro sockfd ip port k n i hfd hk hi
    have hcall : runOp (t.bindCall sockfd ip port) w = .ok (.int 0) (t.bound w k ip port i) :=
      Transport.bindCall_run hfd hk hi
    obtain ⟨hunbound, hbinding, hsocks⟩ := t.bound_tables ip port i hk
    have hok := hrun.registryOk h0 t
    have hok' := hok.step (registry_step t (t.bindCall sockfd ip port) w)
    rw [show (t.bindCall sockfd ip port).after w = t.bound w k ip port i from
      final_of_ok hcall] at hok'
    refine ⟨hcall, ?_, fun i' port' hne => ?_⟩
    · rw [Transport.managerFind_eq hok', Transport.isBoundTo_eq]
      exact Registry.find_bound (r := t.registry w) hbinding hsocks
    · rw [Transport.managerFind_eq hok', Transport.managerFind_eq hok, Transport.isBoundTo_eq,
        Transport.isBoundTo_eq]
      exact Registry.find_bound_other (r := t.registry w) hunbound hbinding hsocks hne

theorem port_sharing_fixture :
    ∃ calls, Transport.udp.PortSharing calls (Fixture.after Fixture.twoBinds) := by
  obtain ⟨calls, hrun⟩ := Fixture.twoBinds_run
  exact ⟨calls, port_sharing Fixture.graph_initial hrun .udp⟩

/-- Port 7 of `192.168.89.1` can be bound twice.  The second bind returns 0, and the first
socket gets nothing any more. -/
theorem port_shared : (∃ calls, Run Fixture.graph calls (Fixture.after Fixture.twoBinds)) ∧
    Transport.udp.goodSock (Fixture.after Fixture.twoBinds) 0 = some 0 ∧
    Transport.udp.goodSock (Fixture.after Fixture.twoBinds) 1 = some 1 ∧
    Transport.udp.binding (Fixture.after Fixture.twoBinds) 0 = some (some (0, 7)) ∧
    Transport.udp.binding (Fixture.after Fixture.twoBinds) 1 = some (some (0, 7)) ∧
    Transport.udp.managerFind (Fixture.after Fixture.twoBinds) 0 7 = some 1 := by
  refine ⟨Fixture.twoBinds_run, ?_⟩
  decide +kernel

end SimpleTcpip
