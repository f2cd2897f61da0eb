/-
The socket tables of the two transport protocols.

`udp.c` and `tcp.c` keep their sockets the same way: a table of descriptors, and under each
interface a list of the sockets bound to it.  What is stated here is stated of a `Transport`
for both at once.  Each keeps a registry, every call is one step of it, and so in any run
the tables agree, and the order in which sockets were bound decides every lookup.
-/
import Mathlib.Data.List.Find
import SimpleTcpip.Lib.Registry
import SimpleTcpip.Proofs.Accept

namespace SimpleTcpip

open Fallible

/-! ### What a socket is bound to -/

/-- The interface and the port of a bound socket. -/
def UdpSock.binding (sock : UdpSock) : Option (IntfId × UInt16) :=
  if sock.bound then sock.intf.map fun i => (i, sock.localPort) else none

/-- The interface and the port of a bound socket. -/
def TcpSock.binding (sock : TcpSock) : Option (IntfId × UInt16) :=
  if sock.bound then sock.intf.map fun i => (i, sock.localPort) else none

/-- The protocols that have sockets. -/
inductive Transport
  | udp
  | tcp

namespace Transport

def maxSocks : Transport → Nat
  | .udp => maxUdpSocks
  | .tcp => maxTcpSocks

/-- `fd_to_sock`. -/
def fdToSock : Transport → World → Nat → Option SockId
  | .udp, w => w.udpFdToSock
  | .tcp, w => w.tcpFdToSock

/-- The open socket a descriptor denotes. -/
def goodSock : Transport → World → Int → Option SockId
  | .udp => goodUdpSock
  | .tcp => goodTcpSock

/-- The sockets an interface lists. -/
def socks : Transport → World → IntfId → List SockId
  | .udp, w => w.udpSocks
  | .tcp, w => w.tcpSocks

/-- The manager's lookup of a port on an interface. -/
def managerFind : Transport → World → IntfId → UInt16 → Option SockId
  | .udp => udpSocksManagerFind
  | .tcp => tcpSocksManagerFind

/-- What a socket that is not freed is bound to. -/
def binding : Transport → World → SockId → Option (Option (IntfId × UInt16))
  | .udp, w => fun k => (w.udpSock k).map UdpSock.binding
  | .tcp, w => fun k => (w.tcpSock k).map TcpSock.binding

/-- Is a socket bound to an interface and a port? -/
def isBoundTo (t : Transport) (w : World) (i : IntfId) (port : UInt16) (k : SockId) : Bool :=
  t.binding w k == some (some (i, port))

/-- The part of the process the socket calls own. -/
def part : Transport → Part
  | .udp => .udp
  | .tcp => .tcp

/-- The tables of a protocol. -/
def registry (t : Transport) (w : World) : Registry IntfId UInt16 where
  size := t.maxSocks
  next := w.nextId
  descriptor := t.fdToSock w
  binding := t.binding w
  listed := t.socks w

/-- The descriptor a call binds. -/
def bindsFd : Transport → Op → Option Int
  | .udp, .udpBind sockfd _ _ => some sockfd
  | .tcp, .tcpBind sockfd _ _ => some sockfd
  | _, _ => none

/-- The socket a call binds, if it reports success. -/
def binds (t : Transport) (w : World) (op : Op) : Option SockId :=
  if op.returns w = some (.int 0) then (t.bindsFd op).bind (t.goodSock w) else none

/-- The sockets the calls of a run bound, the last one first. -/
def bindings (t : Transport) (calls : List Call) : List SockId :=
  (calls.filterMap fun call => t.binds call.before call.op).reverse

/-- Does a call open a socket? -/
def Opens : Transport → Op → Prop
  | .udp, .udpSocket _ => True
  | .tcp, .tcpSocket _ => True
  | _, _ => False

/-- Is a call one of the socket, bind and close functions of a protocol? -/
def Handles : Transport → Op → Prop
  | .udp, .udpSocket _ | .udp, .udpBind _ _ _ | .udp, .udpClose _ => True
  | .tcp, .tcpSocket _ | .tcp, .tcpBind _ _ _ | .tcp, .tcpClose _ => True
  | _, _ => False

end Transport

/-! ### The calls -/

/-- The lists of the interfaces once a socket is closed. -/
def unlinkedUdpSocks (w : World) (k : SockId) (sock : UdpSock) : IntfId → List SockId :=
  match sock.bound, sock.intf with
  | true, some i => Function.update w.udpSocks i ((w.udpSocks i).erase k)
  | _, _ => w.udpSocks

theorem udpSocket_cases (n : NodeId) (w : World) :
    (∃ fd : Nat, firstFree maxUdpSocks w.udpFdToSock = some fd ∧
      udpSocket n w = .ok (fd : Int) { w with
        nextId := w.nextId + 1
        udpSock := Function.update w.udpSock w.nextId (some
          { bound := false, node := n, intf := none, localPort := 0, rxSkb := [] })
        udpFdToSock := Function.update w.udpFdToSock fd (some w.nextId) }) ∨
    udpSocket n w = .ok (-1) w := by
  unfold udpSocket
  rw [run_bind_ok (run_get w)]
  cases firstFree maxUdpSocks w.udpFdToSock with
  | none => exact Or.inr rfl
  | some fd => exact Or.inl ⟨fd, rfl, rfl⟩

theorem udpBind_cases (sockfd : Int) (ip : UInt32) (port : UInt16) (w : World) :
    (∃ k sock i, goodUdpSock w sockfd = some k ∧ w.udpSock k = some sock ∧ sock.bound = false ∧
      getMatchingInterface w sock.node ip = some i ∧
      udpBind sockfd ip port w = .ok 0 { w with
        udpSock := Function.update w.udpSock k
          (some { sock with bound := true, intf := some i, localPort := port })
        udpSocks := Function.update w.udpSocks i (k :: w.udpSocks i) }) ∨
    udpBind sockfd ip port w = .ok (-1) w ∨
    (∃ k, goodUdpSock w sockfd = some k ∧ w.udpSock k = none) ∧
      udpBind sockfd ip port w = .error .useAfterFree w := by
  unfold udpBind
  rw [run_bind_ok (run_get w)]
  cases hfd : goodUdpSock w sockfd with
  | none => exact Or.inr (Or.inl rfl)
  | some k =>
      cases hk : w.udpSock k with
      | none =>
          refine Or.inr (Or.inr ⟨⟨k, rfl, hk⟩, run_bind_error ?_⟩)
          simp only [derefUdpSock, run_bind_ok (run_get w), hk]
          rfl
      | some sock =>
          simp only
          rw [run_bind_ok (derefUdpSock_ok.mpr ⟨hk, rfl⟩)]
          by_cases hbound : sock.bound = true
          · rw [if_pos hbound]
            exact Or.inr (Or.inl rfl)
          · rw [if_neg hbound, run_bind_ok (run_get w)]
            cases hi : getMatchingInterface w sock.node ip with
            | none => exact Or.inr (Or.inl rfl)
            | some i => exact Or.inl ⟨k, sock, i, rfl, hk, Bool.eq_false_iff.mpr hbound, hi, rfl⟩

theorem udpClose_cases (sockfd : Int) (w : World) :
    (∃ k sock, goodUdpSock w sockfd = some k ∧ w.udpSock k = some sock ∧
      udpClose sockfd w = .ok 0 { w with
        udpFdToSock := Function.update w.udpFdToSock sockfd.toNat none
        udpSocks := unlinkedUdpSocks w k sock
        udpSock := Function.update w.udpSock k none }) ∨
    udpClose sockfd w = .ok (-1) w ∨
    (∃ k, goodUdpSock w sockfd = some k ∧ w.udpSock k = none) ∧
      udpClose sockfd w = .error .useAfterFree w := by
  unfold udpClose
  rw [run_bind_ok (run_get w)]
  cases hfd : goodUdpSock w sockfd with
  | none => exact Or.inr (Or.inl rfl)
  | some k =>
      cases hk : w.udpSock k with
      | none =>
          refine Or.inr (Or.inr ⟨⟨k, rfl, hk⟩, run_bind_error ?_⟩)
          simp only [derefUdpSock, run_bind_ok (run_get w), hk]
          rfl
      | some sock =>
          refine Or.inl ⟨k, sock, rfl, hk, ?_⟩
          simp only
          rw [run_bind_ok (derefUdpSock_ok.mpr ⟨hk, rfl⟩)]
          unfold unlinkedUdpSocks unlinkUdpSock
          cases sock.bound with
          | false => rfl
          | true => cases sock.intf <;> rfl

/-- The socket `tcp_socket` fills in. -/
def newTcpSock (node : NodeId) : TcpSock where
  bound := false
  listening := false
  node := node
  localIp := 0
  intf := none
  localPort := 0
  conns := []
  closedConns := []

/-- The lists of the interfaces once a socket is closed. -/
def unlinkedTcpSocks (w : World) (k : SockId) (sock : TcpSock) : IntfId → List SockId :=
  match sock.bound, sock.intf with
  | true, some i => Function.update w.tcpSocks i ((w.tcpSocks i).erase k)
  | _, _ => w.tcpSocks

theorem tcpSocket_cases (n : NodeId) (w : World) :
    (∃ fd : Nat, firstFree maxTcpSocks w.tcpFdToSock = some fd ∧
      tcpSocket n w = .ok (fd : Int) { w with
        nextId := w.nextId + 1
        tcpSock := Function.update w.tcpSock w.nextId (some (newTcpSock n))
        tcpFdToSock := Function.update w.tcpFdToSock fd (some w.nextId) }) ∨
    tcpSocket n w = .ok (-1) w := by
  unfold tcpSocket
  rw [run_bind_ok (run_get w)]
  cases firstFree maxTcpSocks w.tcpFdToSock with
  | none => exact Or.inr rfl
  | some fd => exact Or.inl ⟨fd, rfl, rfl⟩

theorem tcpBind_cases (sockfd : Int) (ip : UInt32) (port : UInt16) (w : World) :
    (∃ k sock i, goodTcpSock w sockfd = some k ∧ w.tcpSock k = some sock ∧ sock.bound = false ∧
      getMatchingInterface w sock.node ip = some i ∧
      tcpBind sockfd ip port w = .ok 0 { w with
        tcpSock := Function.update w.tcpSock k
          (some { sock with bound := true, intf := some i, localIp := ip, localPort := port })
        tcpSocks := Function.update w.tcpSocks i (k :: w.tcpSocks i) }) ∨
    tcpBind sockfd ip port w = .ok (-1) w ∨
    (∃ k, goodTcpSock w sockfd = some k ∧ w.tcpSock k = none) ∧
      tcpBind sockfd ip port w = .error .useAfterFree w := by
  unfold tcpBind
  rw [run_bind_ok (run_get w)]
  cases hfd : goodTcpSock w sockfd with
  | none => exact Or.inr (Or.inl rfl)
  | some k =>
      cases hk : w.tcpSock k with
      | none =>
          refine Or.inr (Or.inr ⟨⟨k, rfl, hk⟩, run_bind_error ?_⟩)
          simp only [derefTcpSock, run_bind_ok (run_get w), hk]
          rfl
      | some sock =>
          simp only
          rw [run_bind_ok (derefTcpSock_ok.mpr ⟨hk, rfl⟩)]
          by_cases hbound : sock.bound = true
          · rw [if_pos hbound]
            exact Or.inr (Or.inl rfl)
          · rw [if_neg hbound, run_bind_ok (run_get w)]
            cases hi : getMatchingInterface w sock.node ip with
            | none => exact Or.inr (Or.inl rfl)
            | some i => exact Or.inl ⟨k, sock, i, rfl, hk, Bool.eq_false_iff.mpr hbound, hi, rfl⟩

theorem tcpListen_cases (sockfd : Int) (w : World) :
    (∃ k sock, w.tcpSock k = some sock ∧ tcpListen sockfd w = .ok 0 { w with
        tcpSock := Function.update w.tcpSock k (some { sock with listening := true }) }) ∨
    tcpListen sockfd w = .ok (-1) w ∨ tcpListen sockfd w = .error .useAfterFree w := by
  unfold tcpListen
  rw [run_bind_ok (run_get w)]
  cases goodTcpSock w sockfd with
  | none => exact Or.inr (Or.inl rfl)
  | some k =>
      cases hk : w.tcpSock k with
      | none =>
          refine Or.inr (Or.inr (run_bind_error ?_))
          simp only [derefTcpSock, run_bind_ok (run_get w), hk]
          rfl
      | some sock =>
          simp only
          rw [run_bind_ok (derefTcpSock_ok.mpr ⟨hk, rfl⟩)]
          split
          · exact Or.inr (Or.inl rfl)
          · exact Or.inl ⟨k, sock, hk, rfl⟩

/-- **`tcp_close` unlinks and frees the socket, or changes nothing.** -/
theorem tcpClose_cases (sockfd : Int) (w : World) :
    (∃ k sock, goodTcpSock w sockfd = some k ∧ w.tcpSock k = some sock ∧
      tcpClose sockfd w = .ok 0 { w with
        tcpFdToSock := Function.update w.tcpFdToSock sockfd.toNat none
        tcpSocks := unlinkedTcpSocks w k sock
        tcpSock := Function.update w.tcpSock k none }) ∨
    goodTcpSock w sockfd = none ∧ tcpClose sockfd w = .ok (-1) w ∨
    (∃ k, goodTcpSock w sockfd = some k ∧ w.tcpSock k = none) ∧
      tcpClose sockfd w = .error .useAfterFree w := by
  unfold tcpClose
  rw [run_bind_ok (run_get w)]
  cases hfd : goodTcpSock w sockfd with
  | none => exact Or.inr (Or.inl ⟨rfl, rfl⟩)
  | some k =>
      cases hk : w.tcpSock k with
      | none =>
          refine Or.inr (Or.inr ⟨⟨k, rfl, hk⟩, run_bind_error ?_⟩)
          simp only [derefTcpSock, run_bind_ok (run_get w), hk]
          rfl
      | some sock =>
          refine Or.inl ⟨k, sock, rfl, hk, ?_⟩
          simp only
          rw [run_bind_ok (derefTcpSock_ok.mpr ⟨hk, rfl⟩)]
          unfold unlinkedTcpSocks unlinkTcpSock
          cases sock.bound with
          | false => rfl
          | true => cases sock.intf <;> rfl

/-! ### The tables across a call -/

namespace Transport

/-- The sockets of a protocol, their descriptors and the lists are as they were. -/
structure Same (t : Transport) (w w' : World) : Prop where
  nextId : w.nextId ≤ w'.nextId
  fdToSock : t.fdToSock w' = t.fdToSock w
  socks : t.socks w' = t.socks w
  binding : t.binding w' = t.binding w

variable {t : Transport} {w w' w'' : World}

theorem Same.refl (t : Transport) (w : World) : t.Same w w := ⟨Nat.le_refl _, rfl, rfl, rfl⟩

theorem Same.trans (h : t.Same w w') (h' : t.Same w' w'') : t.Same w w'' :=
  ⟨Nat.le_trans h.nextId h'.nextId, h'.fdToSock.trans h.fdToSock, h'.socks.trans h.socks,
    h'.binding.trans h.binding⟩

theorem Same.step (h : t.Same w w') : Registry.Step (t.registry w) none (t.registry w') := by
  have heq : t.registry w' = { t.registry w with next := w'.nextId } := by
    unfold registry
    rw [h.fdToSock, h.socks, h.binding]
  rw [heq]
  exact .skip h.nextId

/-- What leaves the part of a protocol alone. -/
theorem Same.of_part (hid : w.nextId ≤ w'.nextId) (h : t.part.Same w w') : t.Same w w' := by
  cases t with
  | udp =>
      obtain ⟨hsock, hsocks, hfd⟩ := h
      exact ⟨hid, hfd, hsocks, congrArg (fun m k => (m k).map UdpSock.binding) hsock⟩
  | tcp =>
      obtain ⟨hsock, hsocks, hfd⟩ := h
      exact ⟨hid, hfd, hsocks, congrArg (fun m k => (m k).map TcpSock.binding) hsock⟩

end Transport

/-- The network side queues datagrams and moves connections, and binds nothing. -/
theorem Sends.binding {K : SkBuff → Prop} {L : SkbId → Prop} {w w' : World} (h : Sends K L w w')
    (k : SockId) :
    (w'.udpSock k).map UdpSock.binding = (w.udpSock k).map UdpSock.binding := by
  obtain ⟨l, -, hl⟩ := h.udpSock k
  rw [hl, Option.map_map]
  rfl

theorem Change.udpBinding {sc : Scope} {w w' : World} (h : Change sc w w') (k : SockId) :
    (w'.udpSock k).map UdpSock.binding = (w.udpSock k).map UdpSock.binding := by
  cases h with
  | sends h => exact h.binding k
  | forwards _ _ _ _ _ _ _ h => exact h.binding k
  | flushed _ _ h => exact h.binding k
  | queued _ _ _ hk => exact map_update_of_eq hk (by rfl) k
  | _ => rfl

theorem Change.tcpBinding {sc : Scope} {w w' : World} (h : Change sc w w') (k : SockId) :
    (w'.tcpSock k).map TcpSock.binding = (w.tcpSock k).map TcpSock.binding := by
  cases h with
  | sends h => rw [h.tcpSock]
  | forwards _ _ _ _ _ _ _ h => rw [h.tcpSock]
  | flushed _ _ h => rw [h.tcpSock]; rfl
  | connected _ _ _ _ hk => exact map_update_of_eq hk (by rfl) k
  | closed _ _ _ _ _ _ hk => exact map_update_of_eq hk (by rfl) k
  | _ => rfl

theorem Change.same {sc : Scope} {w w' : World} (h : Change sc w w') (t : Transport) :
    t.Same w w' := by
  have hfd : t.fdToSock w' = t.fdToSock w := by
    rw [h.frame]
    cases t <;> rfl
  have hsocks : t.socks w' = t.socks w := by
    rw [h.frame]
    cases t <;> rfl
  refine ⟨h.nextId_le, hfd, hsocks, funext fun k => ?_⟩
  cases t with
  | udp => exact h.udpBinding k
  | tcp => exact h.tcpBinding k

/-- A call that does not own the part of a protocol leaves its tables alone. -/
theorem same_after {op : Op} {t : Transport} (h : ¬ op.owns t.part) (w : World) :
    t.Same w (op.after w) := by
  refine invariant_after (I := t.Same w) ?_ (fun _ _ hu hchange => hu.trans (hchange.same t)) ?_
  · cases op with
    | recvFrame i frame =>
        refine .of_part (Nat.le_succ _) ?_
        cases t <;> exact ⟨rfl, rfl, rfl⟩
    | _ => exact .refl t w
  · intro hquiet
    exact .of_part hquiet.nextId ((hquiet.parts t.part).resolve_left h)

/-- `udp_recvfrom` takes bytes off a socket and leaves it bound as it was. -/
theorem udpRecvfrom_same (sockfd : Int) (size : Nat) (wantIp wantPort : Bool) (w : World) :
    Transport.udp.Same w (final (udpRecvfrom sockfd size wantIp wantPort) w) := by
  refine udpRecvfrom_keeps (R := Transport.udp.Same) (.refl _) (fun _ _ _ h h' => h.trans h')
    (fun _ _ _ => ⟨Nat.le_refl _, rfl, rfl, rfl⟩) (fun t k sock q hk => ?_)
    sockfd size wantIp wantPort w
  exact ⟨Nat.le_refl _, rfl, rfl, funext (map_update_of_eq (f := UdpSock.binding) hk rfl)⟩

/-! ### One call is one step -/

namespace Transport

theorem goodSock_some {t : Transport} {w : World} {sockfd : Int} {k : SockId}
    (h : t.goodSock w sockfd = some k) : 0 ≤ sockfd ∧ t.fdToSock w sockfd.toNat = some k := by
  cases t with
  | udp =>
      change goodUdpSock w sockfd = some k at h
      unfold goodUdpSock at h
      split at h
      · cases h
      · rename_i hrange
        exact ⟨by omega, h⟩
  | tcp =>
      change goodTcpSock w sockfd = some k at h
      unfold goodTcpSock at h
      split at h
      · cases h
      · rename_i hrange
        exact ⟨by omega, h⟩

variable {t : Transport} {w w' : World}

theorem step_opened {fd : Nat} (hfree : firstFree t.maxSocks (t.fdToSock w) = some fd)
    (hid : w'.nextId = w.nextId + 1)
    (hfd : t.fdToSock w' = Function.update (t.fdToSock w) fd (some w.nextId))
    (hsocks : t.socks w' = t.socks w)
    (hbinding : t.binding w' = Function.update (t.binding w) w.nextId (some none)) :
    Registry.Step (t.registry w) none (t.registry w') := by
  have heq : t.registry w' = { t.registry w with
      next := w.nextId + 1
      descriptor := Function.update (t.fdToSock w) fd (some w.nextId)
      binding := Function.update (t.binding w) w.nextId (some none) } := by
    unfold registry
    rw [hid, hfd, hsocks, hbinding]
  rw [heq]
  exact .opened (firstFree_some hfree).1 (firstFree_some hfree).2

theorem step_bound (i : IntfId) (port : UInt16) {k : SockId} (hk : t.binding w k = some none)
    (hid : w'.nextId = w.nextId) (hfd : t.fdToSock w' = t.fdToSock w)
    (hsocks : t.socks w' = Function.update (t.socks w) i (k :: t.socks w i))
    (hbinding : t.binding w' = Function.update (t.binding w) k (some (some (i, port)))) :
    Registry.Step (t.registry w) (some k) (t.registry w') := by
  have heq : t.registry w' = { t.registry w with
      binding := Function.update (t.binding w) k (some (some (i, port)))
      listed := Function.update (t.socks w) i (k :: t.socks w i) } := by
    unfold registry
    rw [hid, hfd, hsocks, hbinding]
  rw [heq]
  exact .bound hk

theorem step_closed {fd : Nat} {k : SockId} {b : Option (IntfId × UInt16)}
    (hopen : t.fdToSock w fd = some k) (hk : t.binding w k = some b)
    (hid : w'.nextId = w.nextId) (hfd : t.fdToSock w' = Function.update (t.fdToSock w) fd none)
    (hsocks : t.socks w' = (t.registry w).unlisted k b)
    (hbinding : t.binding w' = Function.update (t.binding w) k none) :
    Registry.Step (t.registry w) none (t.registry w') := by
  have heq : t.registry w' = { t.registry w with
      descriptor := Function.update (t.fdToSock w) fd none
      binding := Function.update (t.binding w) k none
      listed := (t.registry w).unlisted k b } := by
    unfold registry
    rw [hid, hfd, hsocks, hbinding]
    rfl
  rw [heq]
  exact .closed hopen hk

/-- A call that fails binds nothing, whatever it is. -/
theorem binds_none {op : Op} (h : op.returns w ≠ some (.int 0)) : t.binds w op = none :=
  if_neg h

theorem binds_some {op : Op} {k : SockId} {sockfd : Int} (h : op.returns w = some (.int 0))
    (hfd : t.bindsFd op = some sockfd) (hk : t.goodSock w sockfd = some k) :
    t.binds w op = some k := by
  rw [binds, if_pos h, hfd]
  exact hk

theorem binds_eq_none_of_bindsFd {op : Op} (h : t.bindsFd op = none) : t.binds w op = none := by
  rw [binds, h]
  exact ite_self _

end Transport

/-- Writing one socket writes one binding. -/
theorem udpBinding_update (w : World) (k : SockId) (sock : Option UdpSock) :
    (fun j => (Function.update w.udpSock k sock j).map UdpSock.binding)
      = Function.update (Transport.udp.binding w) k (sock.map UdpSock.binding) :=
  Function.comp_update (Option.map UdpSock.binding) w.udpSock k sock

theorem tcpBinding_update (w : World) (k : SockId) (sock : Option TcpSock) :
    (fun j => (Function.update w.tcpSock k sock j).map TcpSock.binding)
      = Function.update (Transport.tcp.binding w) k (sock.map TcpSock.binding) :=
  Function.comp_update (Option.map TcpSock.binding) w.tcpSock k sock

theorem unlinkedUdpSocks_eq (w : World) (k : SockId) (sock : UdpSock) :
    unlinkedUdpSocks w k sock = (Transport.udp.registry w).unlisted k sock.binding := by
  unfold unlinkedUdpSocks UdpSock.binding Registry.unlisted
  cases sock.bound with
  | false => rfl
  | true => cases sock.intf <;> rfl

theorem unlinkedTcpSocks_eq (w : World) (k : SockId) (sock : TcpSock) :
    unlinkedTcpSocks w k sock = (Transport.tcp.registry w).unlisted k sock.binding := by
  unfold unlinkedTcpSocks TcpSock.binding Registry.unlisted
  cases sock.bound with
  | false => rfl
  | true => cases sock.intf <;> rfl

theorem returns_of_run (op : Op) {w w' : World} {r : Ret} (h : runOp op w = .ok r w') :
    op.returns w = some r := by
  unfold Op.returns
  rw [h]

theorem returns_of_error (op : Op) {w w' : World} {e : Fault} (h : runOp op w = .error e w') :
    op.returns w = none := by
  unfold Op.returns
  rw [h]

theorem udp_step {op : Op} (hown : op.owns .udp) (w : World) :
    Registry.Step (Transport.udp.registry w) (Transport.udp.binds w op)
      (Transport.udp.registry (op.after w)) := by
  cases op with
  | udpSocket n =>
      rw [Transport.binds_eq_none_of_bindsFd rfl, show (Op.udpSocket n).after w
        = final (udpSocket n) w from final_bind_pure _ _ w]
      rcases udpSocket_cases n w with ⟨fd, hfree, hrun⟩ | hrun
      · rw [final_of_ok hrun]
        exact Transport.step_opened hfree rfl rfl rfl (udpBinding_update w _ _)
      · rw [final_of_ok hrun]
        exact (Transport.Same.refl .udp w).step
  | udpBind sockfd ip port =>
      rw [show (Op.udpBind sockfd ip port).after w = final (udpBind sockfd ip port) w from
        final_bind_pure _ _ w]
      rcases udpBind_cases sockfd ip port w with
        ⟨k, sock, i, hfd, hk, hnew, -, hrun⟩ | hrun | ⟨-, hrun⟩
      · have hret := returns_of_run (.udpBind sockfd ip port) (run_bind_ok hrun)
        rw [final_of_ok hrun, Transport.binds_some (t := .udp) hret rfl hfd]
        refine Transport.step_bound i port ?_ rfl rfl rfl (udpBinding_update w _ _)
        show (w.udpSock k).map UdpSock.binding = _
        rw [hk, Option.map_some, UdpSock.binding, hnew]
        rfl
      · have hret := returns_of_run (.udpBind sockfd ip port) (run_bind_ok hrun)
        rw [final_of_ok hrun, Transport.binds_none (by rw [hret]; decide)]
        exact (Transport.Same.refl .udp w).step
      · have hret := returns_of_error (.udpBind sockfd ip port) (run_bind_error hrun)
        rw [final_of_error hrun, Transport.binds_none (by rw [hret]; nofun)]
        exact (Transport.Same.refl .udp w).step
  | udpRecvfrom sockfd size wantIp wantPort =>
      rw [Transport.binds_eq_none_of_bindsFd rfl, show (Op.udpRecvfrom sockfd size wantIp
        wantPort).after w = final (udpRecvfrom sockfd size wantIp wantPort) w from
        final_bind_pure _ _ w]
      exact (udpRecvfrom_same sockfd size wantIp wantPort w).step
  | udpClose sockfd =>
      rw [Transport.binds_eq_none_of_bindsFd rfl, show (Op.udpClose sockfd).after w
        = final (udpClose sockfd) w from final_bind_pure _ _ w]
      rcases udpClose_cases sockfd w with ⟨k, sock, hfd, hk, hrun⟩ | hrun | ⟨-, hrun⟩
      · rw [final_of_ok hrun]
        refine Transport.step_closed (Transport.goodSock_some (t := .udp) hfd).2 ?_ rfl rfl
          (unlinkedUdpSocks_eq w k sock) (udpBinding_update w _ _)
        exact congrArg (Option.map UdpSock.binding) hk
      · rw [final_of_ok hrun]
        exact (Transport.Same.refl .udp w).step
      · rw [final_of_error hrun]
        exact (Transport.Same.refl .udp w).step
  | _ => cases hown

theorem tcp_step {op : Op} (hown : op.owns .tcp) (w : World) :
    Registry.Step (Transport.tcp.registry w) (Transport.tcp.binds w op)
      (Transport.tcp.registry (op.after w)) := by
  cases op with
  | tcpSocket n =>
      rw [Transport.binds_eq_none_of_bindsFd rfl, show (Op.tcpSocket n).after w
        = final (tcpSocket n) w from final_bind_pure _ _ w]
      rcases tcpSocket_cases n w with ⟨fd, hfree, hrun⟩ | hrun
      · rw [final_of_ok hrun]
        exact Transport.step_opened hfree rfl rfl rfl (tcpBinding_update w _ _)
      · rw [final_of_ok hrun]
        exact (Transport.Same.refl .tcp w).step
  | tcpBind sockfd ip port =>
      rw [show (Op.tcpBind sockfd ip port).after w = final (tcpBind sockfd ip port) w from
        final_bind_pure _ _ w]
      rcases tcpBind_cases sockfd ip port w with
        ⟨k, sock, i, hfd, hk, hnew, -, hrun⟩ | hrun | ⟨-, hrun⟩
      · have hret := returns_of_run (.tcpBind sockfd ip port) (run_bind_ok hrun)
        rw [final_of_ok hrun, Transport.binds_some (t := .tcp) hret rfl hfd]
        refine Transport.step_bound i port ?_ rfl rfl rfl (tcpBinding_update w _ _)
        show (w.tcpSock k).map TcpSock.binding = _
        rw [hk, Option.map_some, TcpSock.binding, hnew]
        rfl
      · have hret := returns_of_run (.tcpBind sockfd ip port) (run_bind_ok hrun)
        rw [final_of_ok hrun, Transport.binds_none (by rw [hret]; decide)]
        exact (Transport.Same.refl .tcp w).step
      · have hret := returns_of_error (.tcpBind sockfd ip port) (run_bind_error hrun)
        rw [final_of_error hrun, Transport.binds_none (by rw [hret]; nofun)]
        exact (Transport.Same.refl .tcp w).step
  | tcpListen sockfd =>
      rw [Transport.binds_eq_none_of_bindsFd rfl, show (Op.tcpListen sockfd).after w
        = final (tcpListen sockfd) w from final_bind_pure _ _ w]
      rcases tcpListen_cases sockfd w with ⟨k, sock, hk, hrun⟩ | hrun | hrun
      · rw [final_of_ok hrun]
        refine Transport.Same.step ⟨Nat.le_refl _, rfl, rfl, funext ?_⟩
        exact map_update_of_eq (f := TcpSock.binding) hk rfl
      · rw [final_of_ok hrun]
        exact (Transport.Same.refl .tcp w).step
      · rw [final_of_error hrun]
        exact (Transport.Same.refl .tcp w).step
  | tcpClose sockfd =>
      rw [Transport.binds_eq_none_of_bindsFd rfl, show (Op.tcpClose sockfd).after w
        = final (tcpClose sockfd) w from final_bind_pure _ _ w]
      rcases tcpClose_cases sockfd w with ⟨k, sock, hfd, hk, hrun⟩ | ⟨-, hrun⟩ | ⟨-, hrun⟩
      · rw [final_of_ok hrun]
        refine Transport.step_closed (Transport.goodSock_some (t := .tcp) hfd).2 ?_ rfl rfl
          (unlinkedTcpSocks_eq w k sock) (tcpBinding_update w _ _)
        exact congrArg (Option.map TcpSock.binding) hk
      · rw [final_of_ok hrun]
        exact (Transport.Same.refl .tcp w).step
      · rw [final_of_error hrun]
        exact (Transport.Same.refl .tcp w).step
  | _ => cases hown

/-- **Every call is one step of both registries**, also when it stops with a fault. -/
theorem registry_step (t : Transport) (op : Op) (w : World) :
    Registry.Step (t.registry w) (t.binds w op) (t.registry (op.after w)) := by
  by_cases hown : op.owns t.part
  · cases t with
    | udp => exact udp_step hown w
    | tcp => exact tcp_step hown w
  · have hfd : t.bindsFd op = none := by
      cases t <;> cases op <;> first | rfl | exact absurd rfl hown
    rw [Transport.binds_eq_none_of_bindsFd hfd]
    exact (same_after hown w).step

/-! ### Runs -/

theorem Initial.registryOk {w : World} (h : Initial w) (t : Transport) : (t.registry w).Ok [] := by
  have heq : t.registry w
      = ⟨t.maxSocks, w.nextId, fun _ => none, fun _ => none, fun _ => []⟩ := by
    cases t <;>
      simp [Transport.registry, Transport.fdToSock, Transport.binding, Transport.socks,
        h.udpFdToSock, h.tcpFdToSock, h.udpSock, h.tcpSock, h.udpSocks, h.tcpSocks]
  rw [heq]
  exact Registry.ok_empty _ _

theorem Reachable.registryOk {w : World} (h : Reachable w) (t : Transport) :
    ∃ l, (t.registry w).Ok l :=
  h.invariant (I := fun u => ∃ l, (t.registry u).Ok l) (fun _ hinit => ⟨[], hinit.registryOk t⟩)
    fun op u ⟨_, hl⟩ => ⟨_, hl.step (registry_step t op u)⟩

/-- The bindings of a run with one more call. -/
theorem Transport.bindings_snoc (t : Transport) (calls : List Call) (call : Call) :
    t.bindings (calls ++ [call])
      = (t.binds call.before call.op).toList ++ t.bindings calls := by
  unfold bindings
  rw [List.filterMap_append, List.reverse_append]
  congr 1
  cases h : t.binds call.before call.op <;> simp [h]

/-- **After a run the tables are in order, with the sockets listed as they were bound.** -/
theorem Run.registryOk {w₀ w : World} {calls : List Call} (h : Run w₀ calls w) (h0 : Initial w₀)
    (t : Transport) : (t.registry w).Ok (t.bindings calls) := by
  induction h with
  | nil => exact h0.registryOk t
  | @snoc calls u u' op r _ hv hrun ih =>
      have hstep := ih.step (registry_step t op u)
      rw [show op.after u = u' from final_of_ok hrun] at hstep
      rw [Transport.bindings_snoc]
      exact hstep

/-! ### Lookups -/

theorem UdpSock.binding_eq {sock : UdpSock} {i : IntfId} {port : UInt16}
    (h : sock.binding = some (i, port)) :
    sock.bound = true ∧ sock.intf = some i ∧ sock.localPort = port := by
  unfold UdpSock.binding at h
  split at h
  · rename_i hbound
    obtain ⟨i', hi', heq⟩ := Option.map_eq_some_iff.mp h
    cases heq
    exact ⟨hbound, hi', rfl⟩
  · cases h

theorem TcpSock.binding_eq {sock : TcpSock} {i : IntfId} {port : UInt16}
    (h : sock.binding = some (i, port)) :
    sock.bound = true ∧ sock.intf = some i ∧ sock.localPort = port := by
  unfold TcpSock.binding at h
  split at h
  · rename_i hbound
    obtain ⟨i', hi', heq⟩ := Option.map_eq_some_iff.mp h
    cases heq
    exact ⟨hbound, hi', rfl⟩
  · cases h

namespace Transport

variable {t : Transport} {w : World} {l : List SockId}

/-- On the list of an interface the manager's comparison of ports decides what a socket is
bound to. -/
theorem managerFind_eq (h : (t.registry w).Ok l) (i : IntfId) (port : UInt16) :
    t.managerFind w i port = (t.socks w i).find? (t.isBoundTo w i port) := by
  cases t with
  | udp =>
      refine List.find?_congr fun k hk => ?_
      obtain ⟨-, p, -, hp⟩ := h.mem_listed.mp hk
      obtain ⟨sock, hsock, hbinding⟩ := Option.map_eq_some_iff.mp hp
      have hport := (UdpSock.binding_eq hbinding).2.2
      rw [isBoundTo, show Transport.udp.binding w k = _ from hp, hsock, Option.any_some, hport]
      rw [Bool.eq_iff_iff]
      simp
  | tcp =>
      refine List.find?_congr fun k hk => ?_
      obtain ⟨-, p, -, hp⟩ := h.mem_listed.mp hk
      obtain ⟨sock, hsock, hbinding⟩ := Option.map_eq_some_iff.mp hp
      have hport := (TcpSock.binding_eq hbinding).2.2
      rw [isBoundTo, show Transport.tcp.binding w k = _ from hp, hsock, Option.any_some, hport]
      rw [Bool.eq_iff_iff]
      simp

theorem isBoundTo_eq (t : Transport) (w : World) (i : IntfId) (port : UInt16) :
    t.isBoundTo w i port = (t.registry w).isBound i port := by
  funext k
  rw [Bool.eq_iff_iff, Registry.isBound_iff]
  exact beq_iff_eq

/-- The open sockets are those the descriptors of the table denote. -/
theorem goodSock_iff (h : (t.registry w).Ok l) (k : SockId) :
    (∃ fd, t.goodSock w fd = some k) ↔ ∃ d, (t.registry w).descriptor d = some k := by
  constructor
  · rintro ⟨fd, hfd⟩
    exact ⟨fd.toNat, (goodSock_some hfd).2⟩
  · rintro ⟨d, hd⟩
    have hlt : d < t.maxSocks := (h.denotes d k hd).1
    refine ⟨d, ?_⟩
    cases t with
    | udp =>
        have hlt' : d < maxUdpSocks := hlt
        exact (if_neg (by omega)).trans hd
    | tcp =>
        have hlt' : d < maxTcpSocks := hlt
        exact (if_neg (by omega)).trans hd

/-- A descriptor that denotes a socket denotes one that is not freed. -/
theorem goodSock_live (h : (t.registry w).Ok l) {fd : Int} {k : SockId}
    (hfd : t.goodSock w fd = some k) : (t.binding w k).isSome :=
  (h.denotes fd.toNat k (goodSock_some hfd).2).2

end Transport

/-! ### The calls complete -/

theorem udpSock_live {w : World} {l : List SockId} (h : (Transport.udp.registry w).Ok l) {fd : Int}
    {k : SockId} (hfd : goodUdpSock w fd = some k) : w.udpSock k ≠ none := by
  intro hnone
  have hlive := Transport.goodSock_live (t := .udp) h hfd
  rw [show Transport.udp.binding w k = (w.udpSock k).map UdpSock.binding from rfl, hnone] at hlive
  cases hlive

theorem tcpSock_live {w : World} {l : List SockId} (h : (Transport.tcp.registry w).Ok l) {fd : Int}
    {k : SockId} (hfd : goodTcpSock w fd = some k) : w.tcpSock k ≠ none := by
  intro hnone
  have hlive := Transport.goodSock_live (t := .tcp) h hfd
  rw [show Transport.tcp.binding w k = (w.tcpSock k).map TcpSock.binding from rfl, hnone] at hlive
  cases hlive

/-- **The socket, bind and close functions always return.** -/
theorem Transport.handles_returns {t : Transport} {w : World} {l : List SockId}
    (h : (t.registry w).Ok l) {op : Op} (hop : t.Handles op) : (op.returns w).isSome := by
  have hreturns : ∀ {r : Ret} {w' : World}, runOp op w = .ok r w' → (op.returns w).isSome := by
    intro r w' hrun
    rw [returns_of_run op hrun]
    rfl
  cases t with
  | udp =>
      cases op with
      | udpSocket n =>
          rcases udpSocket_cases n w with ⟨_, _, hrun⟩ | hrun <;> exact hreturns (run_bind_ok hrun)
      | udpBind sockfd ip port =>
          rcases udpBind_cases sockfd ip port w with
            ⟨_, _, _, _, _, _, _, hrun⟩ | hrun | ⟨⟨k, hfd, hnone⟩, -⟩
          · exact hreturns (run_bind_ok hrun)
          · exact hreturns (run_bind_ok hrun)
          · exact absurd hnone (udpSock_live h hfd)
      | udpClose sockfd =>
          rcases udpClose_cases sockfd w with ⟨_, _, _, _, hrun⟩ | hrun | ⟨⟨k, hfd, hnone⟩, -⟩
          · exact hreturns (run_bind_ok hrun)
          · exact hreturns (run_bind_ok hrun)
          · exact absurd hnone (udpSock_live h hfd)
      | _ => cases hop
  | tcp =>
      cases op with
      | tcpSocket n =>
          rcases tcpSocket_cases n w with ⟨_, _, hrun⟩ | hrun <;> exact hreturns (run_bind_ok hrun)
      | tcpBind sockfd ip port =>
          rcases tcpBind_cases sockfd ip port w with
            ⟨_, _, _, _, _, _, _, hrun⟩ | hrun | ⟨⟨k, hfd, hnone⟩, -⟩
          · exact hreturns (run_bind_ok hrun)
          · exact hreturns (run_bind_ok hrun)
          · exact absurd hnone (tcpSock_live h hfd)
      | tcpClose sockfd =>
          rcases tcpClose_cases sockfd w with ⟨_, _, _, _, hrun⟩ | ⟨-, hrun⟩ | ⟨⟨k, hfd, hnone⟩, -⟩
          · exact hreturns (run_bind_ok hrun)
          · exact hreturns (run_bind_ok hrun)
          · exact absurd hnone (tcpSock_live h hfd)
      | _ => cases hop

/-- **A socket call opens a descriptor that was free.** -/
theorem Transport.opens_free {t : Transport} {w w' : World} {op : Op} {fd : Int}
    (hop : t.Opens op) (hrun : runOp op w = .ok (.int fd) w') (hfd : 0 ≤ fd) :
    t.goodSock w fd = none ∧ (t.goodSock w' fd).isSome := by
  cases t with
  | udp =>
      cases op with
      | udpSocket n =>
          rcases udpSocket_cases n w with ⟨d, hfree, hcall⟩ | hcall
          · have hthis : runOp (.udpSocket n) w = .ok (.int (d : Int)) _ := run_bind_ok hcall
            obtain ⟨hret, rfl⟩ := EStateM.Result.ok.inj (hrun.symm.trans hthis)
            obtain rfl := Ret.int.inj hret
            obtain ⟨hlt, hnone⟩ := firstFree_some hfree
            refine ⟨(if_neg (by omega)).trans hnone, ?_⟩
            refine (congrArg Option.isSome (if_neg (by omega))).trans ?_
            exact congrArg Option.isSome (Function.update_self d _ w.udpFdToSock)
          · have hthis : runOp (.udpSocket n) w = .ok (.int (-1)) w := run_bind_ok hcall
            obtain ⟨hret, -⟩ := EStateM.Result.ok.inj (hrun.symm.trans hthis)
            obtain rfl := Ret.int.inj hret
            exact absurd hfd (by decide)
      | _ => cases hop
  | tcp =>
      cases op with
      | tcpSocket n =>
          rcases tcpSocket_cases n w with ⟨d, hfree, hcall⟩ | hcall
          · have hthis : runOp (.tcpSocket n) w = .ok (.int (d : Int)) _ := run_bind_ok hcall
            obtain ⟨hret, rfl⟩ := EStateM.Result.ok.inj (hrun.symm.trans hthis)
            obtain rfl := Ret.int.inj hret
            obtain ⟨hlt, hnone⟩ := firstFree_some hfree
            refine ⟨(if_neg (by omega)).trans hnone, ?_⟩
            refine (congrArg Option.isSome (if_neg (by omega))).trans ?_
            exact congrArg Option.isSome (Function.update_self d _ w.tcpFdToSock)
          · have hthis : runOp (.tcpSocket n) w = .ok (.int (-1)) w := run_bind_ok hcall
            obtain ⟨hret, -⟩ := EStateM.Result.ok.inj (hrun.symm.trans hthis)
            obtain rfl := Ret.int.inj hret
            exact absurd hfd (by decide)
      | _ => cases hop

/-! ### The tables in every state of a run -/

/-- **The socket tables of a protocol are consistent** after these calls. -/
structure Transport.Consistent (t : Transport) (calls : List Call) (w : World) : Prop where
  /-- The socket, bind and close functions return. -/
  returns : ∀ op, t.Handles op → (op.returns w).isSome
  /-- A descriptor that a call opened was not open before. -/
  opened : ∀ call ∈ calls, t.Opens call.op → ∀ fd, call.ret = .int fd → 0 ≤ fd →
    t.goodSock call.before fd = none ∧ (t.goodSock call.after fd).isSome
  /-- An interface lists exactly the open sockets bound to it. -/
  listed : ∀ i k, k ∈ t.socks w i ↔
    (∃ fd, t.goodSock w fd = some k) ∧ ∃ port, t.binding w k = some (some (i, port))
  /-- No interface lists a socket twice. -/
  nodup : ∀ i, (t.socks w i).Nodup
  /-- The manager finds nothing exactly when no open socket is bound to the interface and the port.
  -/
  find_none : ∀ i port, t.managerFind w i port = none ↔
    ∀ fd k, t.goodSock w fd = some k → t.binding w k ≠ some (some (i, port))
  /-- The manager finds the socket that was bound last. -/
  find : ∀ i port, t.managerFind w i port = (t.bindings calls).find? (t.isBoundTo w i port)

/-- **In every run the socket tables of both protocols are consistent.** -/
theorem socket_tables_consistent {w₀ w : World} {calls : List Call} (h0 : Initial w₀)
    (hrun : Run w₀ calls w) (t : Transport) : t.Consistent calls w := by
  have hok := hrun.registryOk h0 t
  have hfind : ∀ i port, t.managerFind w i port
      = ((t.registry w).listed i).find? ((t.registry w).isBound i port) := by
    intro i port
    rw [Transport.managerFind_eq hok, Transport.isBoundTo_eq]
    rfl
  refine ⟨fun op hop => Transport.handles_returns hok hop, ?_, fun i k => ?_, hok.nodup_listed,
    fun i port => ?_, fun i port => ?_⟩
  · intro call hmem hop fd hret hfd
    obtain ⟨-, -, hcall⟩ := hrun.call (.init h0) hmem
    rw [hret] at hcall
    exact Transport.opens_free hop hcall hfd
  · rw [Transport.goodSock_iff hok]
    refine Iff.trans hok.mem_listed ?_
    constructor
    · rintro ⟨d, p, hd, hp⟩
      exact ⟨⟨d, hd⟩, p, hp⟩
    · rintro ⟨⟨d, hd⟩, p, hp⟩
      exact ⟨d, p, hd, hp⟩
  · rw [hfind, hok.find_none]
    constructor
    · intro hnone fd k hfd
      exact hnone fd.toNat k (Transport.goodSock_some hfd).2
    · intro hnone d k hd
      obtain ⟨fd, hfd⟩ := (Transport.goodSock_iff hok k).mpr ⟨d, hd⟩
      exact hnone fd k hfd
  · rw [hfind, hok.find_listed, Transport.isBoundTo_eq]

namespace Fixture

/-- Two sockets of `node0` bound to one port, and the first of them again after the other
is closed. -/
def twoBinds : List Op :=
  [.udpSocket 0, .udpSocket 0, .udpBind 0 (addr 192 168 89 1) 7, .udpBind 1 (addr 192 168 89 1) 7]

theorem twoBinds_run : ∃ calls, Run graph calls (after twoBinds) := by
  have hruns : (runOps graph (configure ++ twoBinds)).isSome := by decide +kernel
  obtain ⟨calls, hrun, -⟩ := Run.of_runOps (runOps_after hruns)
  exact ⟨calls, hrun⟩

end Fixture

theorem socket_tables_consistent_fixture :
    (∃ calls, Transport.udp.Consistent calls (Fixture.after Fixture.twoBinds)) ∧
      udpSocksManagerFind (Fixture.after Fixture.twoBinds) 0 7 = some 1 ∧
      udpSocksManagerFind (Fixture.after (Fixture.twoBinds ++ [.udpClose 1])) 0 7 = some 0 := by
  obtain ⟨calls, hrun⟩ := Fixture.twoBinds_run
  refine ⟨⟨calls, socket_tables_consistent Fixture.graph_initial hrun .udp⟩, ?_, ?_⟩
  · decide +kernel
  · decide +kernel

end SimpleTcpip
