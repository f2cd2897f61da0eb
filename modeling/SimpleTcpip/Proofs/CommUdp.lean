/-
Which port an interface gets, and whether it gets one.

The loop of `udp_init_comm` ends at the first port `bind` accepts, so its end is described by
the number of refusals before it.  From this follows that it ends, within one turn of the
counter, for every descriptor that can be bound at all, and that the port it leaves in the
`comm` is the port of the socket as long as the counter has not turned.
-/
import SimpleTcpip.Model.CommUdp
import SimpleTcpip.Proofs.Topology

namespace SimpleTcpip

open Fallible

/-! ### The counter -/

theorem add_ofNat_succ (port : UInt16) (j : Nat) :
    port + UInt16.ofNat (j + 1) = port + 1 + UInt16.ofNat j := by
  rw [UInt16.ofNat_add, UInt16.add_comm (UInt16.ofNat j), ← UInt16.add_assoc]
  rfl

theorem toNat_add_ofNat16 (port : UInt16) (j : Nat) :
    (port + UInt16.ofNat j).toNat = (port.toNat + j) % 65536 := by
  rw [UInt16.toNat_add, UInt16.toNat_ofNat']
  omega

/-- The counter reaches every port from it on. -/
theorem add_ofNat_sub {p q : UInt16} (h : p ≤ q) : p + UInt16.ofNat (q.toNat - p.toNat) = q := by
  have hle := UInt16.le_iff_toNat_le.mp h
  have hlt := q.toNat_lt
  refine UInt16.toNat_inj.mp ?_
  rw [toNat_add_ofNat16]
  omega

/-- A counter that has come to a port below it has passed 0. -/
theorem exists_add_ofNat_eq_zero {p : UInt16} {k : Nat} (h : p + UInt16.ofNat k < p) :
    ∃ j ≤ k, p + UInt16.ofNat j = 0 := by
  have hlt := p.toNat_lt
  have hback := UInt16.lt_iff_toNat_lt.mp h
  rw [toNat_add_ofNat16] at hback
  refine ⟨65536 - p.toNat, by omega, UInt16.toNat_inj.mp ?_⟩
  rw [toNat_add_ofNat16]
  change _ = 0
  omega

/-- A counter that is at 0 again has passed every port above it. -/
theorem lt_of_add_ofNat_eq_zero {p q : UInt16} {k : Nat} (hp : p ≠ 0)
    (h0 : p + UInt16.ofNat k = 0) : q.toNat - p.toNat < k := by
  have hpos : p.toNat ≠ 0 := fun h => hp (UInt16.toNat_inj.mp h)
  have hp16 := p.toNat_lt
  have hq16 := q.toNat_lt
  have hzero := congrArg UInt16.toNat h0
  rw [toNat_add_ofNat16] at hzero
  change _ = 0 at hzero
  omega

/-! ### The loop -/

/-- The ports from `nextUdpPort` on are refused until attempt `k`. -/
def RefusedUntil {σ : Type} (bind : Nat → UInt16 → Option σ) (nextUdpPort : UInt16) (k : Nat) :
    Prop :=
  ∀ j < k, bind j (nextUdpPort + UInt16.ofNat j) = none

section Loop

variable {σ : Type} {bind : Nat → UInt16 → Option σ} {fuel : Nat} {nextUdpPort : UInt16}

theorem refusedUntil_succ {k : Nat} : RefusedUntil bind nextUdpPort (k + 1) ↔
    bind 0 nextUdpPort = none ∧ RefusedUntil (fun j => bind (j + 1)) (nextUdpPort + 1) k := by
  constructor
  · intro h
    refine ⟨?_, fun j hj => ?_⟩
    · have hfirst := h 0 (Nat.succ_pos k)
      rwa [show UInt16.ofNat 0 = 0 from rfl, UInt16.add_zero] at hfirst
    · rw [← add_ofNat_succ]
      exact h (j + 1) (Nat.succ_lt_succ hj)
  · rintro ⟨hfirst, hrest⟩ j hj
    cases j with
    | zero => rwa [show UInt16.ofNat 0 = 0 from rfl, UInt16.add_zero]
    | succ j =>
        rw [add_ofNat_succ]
        exact hrest j (Nat.lt_of_succ_lt_succ hj)

/-- **The loop ends at the first port that is accepted.** -/
theorem bindLoop_eq_some_iff {e : LoopEnd σ} : bindLoop bind fuel nextUdpPort = some e ↔
    ∃ k < fuel, RefusedUntil bind nextUdpPort k ∧
      bind k (nextUdpPort + UInt16.ofNat k) = some e.system ∧
      e.port = nextUdpPort + UInt16.ofNat k ∧ e.nextUdpPort = e.port + 1 := by
  induction fuel generalizing bind nextUdpPort with
  | zero => exact iff_of_false (by simp [bindLoop]) (by rintro ⟨k, hk, -⟩; cases hk)
  | succ fuel ih =>
      have hzero : nextUdpPort + UInt16.ofNat 0 = nextUdpPort := UInt16.add_zero nextUdpPort
      rw [bindLoop]
      cases hfirst : bind 0 nextUdpPort with
      | some system =>
          constructor
          · intro h
            obtain rfl := Option.some.inj h
            refine ⟨0, Nat.succ_pos fuel, fun j hj => absurd hj (Nat.not_lt_zero j), ?_, hzero.symm, rfl⟩
            rwa [hzero]
          · rintro ⟨k, -, hrefused, haccepted, hport, hnext⟩
            cases k with
            | zero =>
                rw [hzero] at haccepted hport
                rw [hfirst] at haccepted
                obtain rfl := Option.some.inj haccepted
                obtain ⟨port, next, system⟩ := e
                obtain rfl : port = nextUdpPort := hport
                obtain rfl : next = port + 1 := hnext
                rfl
            | succ k =>
                rw [(refusedUntil_succ.mp hrefused).1] at hfirst
                cases hfirst
      | none =>
          refine ih.trans ⟨?_, ?_⟩
          · rintro ⟨k, hk, hrefused, haccepted, hport, hnext⟩
            refine ⟨k + 1, Nat.succ_lt_succ hk, refusedUntil_succ.mpr ⟨hfirst, hrefused⟩, ?_, ?_, hnext⟩
            · rwa [add_ofNat_succ]
            · rwa [add_ofNat_succ]
          · rintro ⟨k, hk, hrefused, haccepted, hport, hnext⟩
            cases k with
            | zero =>
                rw [hzero, hfirst] at haccepted
                cases haccepted
            | succ k =>
                rw [add_ofNat_succ] at haccepted hport
                exact ⟨k, Nat.lt_of_succ_lt_succ hk, (refusedUntil_succ.mp hrefused).2, haccepted,
                  hport, hnext⟩

/-- A port that is always accepted ends the loop before the counter is back. -/
theorem bindLoop_ends {port : UInt16} (h : ∀ k, (bind k port).isSome) (nextUdpPort : UInt16) :
    ∃ e, bindLoop bind UInt16.size nextUdpPort = some e := by
  have hlast : nextUdpPort + UInt16.ofNat (port - nextUdpPort).toNat = port := by
    rw [UInt16.ofNat_toNat, UInt16.add_comm, UInt16.sub_add_cancel]
  have hex : ∃ k, (bind k (nextUdpPort + UInt16.ofNat k)).isSome := by
    refine ⟨(port - nextUdpPort).toNat, ?_⟩
    rw [hlast]
    exact h _
  obtain ⟨system, hsystem⟩ := Option.isSome_iff_exists.mp (Nat.find_spec hex)
  have hle : Nat.find hex ≤ (port - nextUdpPort).toNat := by
    refine Nat.find_min' hex ?_
    rw [hlast]
    exact h _
  let e : LoopEnd σ := ⟨nextUdpPort + UInt16.ofNat (Nat.find hex),
    nextUdpPort + UInt16.ofNat (Nat.find hex) + 1, system⟩
  refine ⟨e, bindLoop_eq_some_iff.mpr ⟨Nat.find hex, ?_, ?_, hsystem, rfl, rfl⟩⟩
  · exact Nat.lt_of_le_of_lt hle (UInt16.toNat_lt_size _)
  · intro j hj
    exact Option.not_isSome_iff_eq_none.mp (Nat.find_min hex hj)

/-- Where nothing is accepted the loop never ends. -/
theorem bindLoop_endless (h : ∀ k port, bind k port = none) :
    bindLoop bind fuel nextUdpPort = none := by
  refine Option.eq_none_iff_forall_ne_some.mpr fun e he => ?_
  obtain ⟨k, -, -, haccepted, -, -⟩ := bindLoop_eq_some_iff.mp he
  rw [h] at haccepted
  cases haccepted

end Loop

/-- A completed `udp_init_comm` is a loop that ended. -/
theorem UdpComms.udpInitComm_eq_some_iff {σ : Type} {a : OsAnswers σ} {fuel : Nat} {i : IntfId}
    {s t : UdpComms} {ok : Bool} {system : σ} :
    s.udpInitComm a fuel i = some (ok, system, t) ↔
      ∃ e, bindLoop a.bind fuel s.nextUdpPort = some e ∧
        ok = ((s.opened i a.fd e).setFdComm a.fd (some i)).1 ∧ system = e.system ∧
        t = ((s.opened i a.fd e).setFdComm a.fd (some i)).2 := by
  refine Option.map_eq_some_iff.trans (exists_congr fun e => and_congr_right fun _ => ?_)
  constructor
  · intro heq
    obtain ⟨hok, heq⟩ := Prod.mk.inj heq
    obtain ⟨hsystem, ht⟩ := Prod.mk.inj heq
    exact ⟨hok.symm, hsystem.symm, ht.symm⟩
  · rintro ⟨rfl, rfl, rfl⟩
    rfl

/-! ### The graph's own `udp_init_comm` -/

/-- What comm_udp.c sees of the process. -/
def Host.udpComms (h : Host) : UdpComms where
  nextUdpPort := h.nextUdpPort
  comm i := (h.intf i).map Intf.comm
  fdToCommMap := h.fdToCommMap

theorem udpComms_setFdComm (fd : Int) (comm : Option IntfId) (h : Host) :
    ∃ h', setFdComm fd comm h = .ok (h.udpComms.setFdComm fd comm).1 h' ∧
      h'.udpComms = (h.udpComms.setFdComm fd comm).2 := by
  unfold setFdComm UdpComms.setFdComm
  by_cases hfd : fd < 0 ∨ fd ≥ maxComms
  · rw [if_pos hfd, if_pos hfd]
    exact ⟨h, rfl, rfl⟩
  · rw [if_neg hfd, if_neg hfd]
    exact ⟨_, rfl, rfl⟩

/-- **To count the refusals is enough**: with as many of them as the graph was told, the loop
returns and leaves what the graph's `udp_init_comm` does. -/
theorem udpInitComm_counted {σ : Type} {h : Host} {i : IntfId} {x : Intf} {k : Nat} {system : σ}
    (a : OsAnswers σ) (hi : h.intf i = some x) (hfd : h.sysOpen h.numOpens = a.fd)
    (hk : h.sysBind (h.numOpens + 1) = k) (hrefused : RefusedUntil a.bind h.nextUdpPort k)
    (haccepted : a.bind k (h.nextUdpPort + UInt16.ofNat k) = some system) :
    ∃ ok h', udpInitComm i h = .ok ok h' ∧
      h.udpComms.udpInitComm a (k + 1) i = some (ok, system, h'.udpComms) := by
  let port := h.nextUdpPort + UInt16.ofNat k
  let c : Comm := { commType := .udp, fd := a.fd, port }
  let h1 : Host := { h with numOpens := h.numOpens + 1 }
  let h2 : Host := { h1 with nextUdpPort := port + 1 }
  let h3 : Host := { h2 with intf := Function.update h2.intf i (some (x.withComm c)) }
  have hopen : sysOpenCall h = .ok a.fd h1 := by
    rw [← hfd]
    rfl
  have hbind : bindUdpPort h1 = .ok port h2 := by
    have hsame : h1.nextUdpPort + UInt16.ofNat (h1.sysBind h1.numOpens) = port := by
      rw [show h1.sysBind h1.numOpens = k from hk]
    rw [bindUdpPort, run_bind_ok (run_get h1), hsame]
    rfl
  have hcomm : setComm i c h2 = .ok ⟨⟩ h3 := setComm_run c hi
  have hopened : h.udpComms.opened i a.fd (⟨port, port + 1, system⟩ : LoopEnd σ) = h3.udpComms := by
    have hcomms : Function.update h.udpComms.comm i (some c) = h3.udpComms.comm := by
      funext j
      change _ = Option.map Intf.comm (Function.update h.intf i (some (x.withComm c)) j)
      by_cases hij : j = i
      · rw [hij, Function.update_self, Function.update_self]
        rfl
      · rw [Function.update_of_ne hij, Function.update_of_ne hij]
        rfl
    rw [UdpComms.opened, hcomms]
    rfl
  obtain ⟨h', hmap, hcomms⟩ := udpComms_setFdComm a.fd (some i) h3
  refine ⟨(h3.udpComms.setFdComm a.fd (some i)).1, h', ?_,
    UdpComms.udpInitComm_eq_some_iff.mpr ⟨⟨port, port + 1, system⟩, ?_, ?_, rfl, ?_⟩⟩
  · rw [udpInitComm, run_bind_ok hopen, run_bind_ok hbind, run_bind_ok hcomm, hmap]
  · exact bindLoop_eq_some_iff.mpr ⟨k, Nat.lt_succ_self k, hrefused, haccepted, rfl, rfl⟩
  · rw [hopened]
  · rw [hopened, hcomms]

theorem udpSendTo_eq {s : UdpComms} {nbrIf : IntfId → Option IntfId} {i j : IntfId}
    {comm nbr : Comm} (hi : s.comm i = some comm) (hnbr : nbrIf i = some j)
    (hj : s.comm j = some nbr) : s.udpSendTo nbrIf i
      = if nbr.port = 0 ∨ comm.fd = 0 then none else some (comm.fd, nbr.port) := by
  simp only [UdpComms.udpSendTo, hi, hnbr, hj, Option.bind_eq_bind, Option.bind_some]

/-- `udp_send_bytes` sends exactly if there is a socket to send from and a port to send to. -/
theorem udpSendBytes_eq {w : World} {s : UdpComms} {nbrIf : IntfId → Option IntfId} {i : IntfId}
    {x : Intf} (frame : List UInt8) (hcomm : ∀ j, s.comm j = (w.intf j).map Intf.comm)
    (hi : w.intf i = some x) (hnbr : getNbrIf i w = .ok (nbrIf i) w)
    (hlive : ∀ j, nbrIf i = some j → (w.intf j).isSome) :
    udpSendBytes i frame w = match s.udpSendTo nbrIf i with
      | some _ => (do
          let nsent ← sysSendCall i frame
          pure (if nsent < 0 then 0 else 1) : M Int) w
      | none => .ok 0 w := by
  have hcomm_i : s.comm i = some x.comm := by rw [hcomm, hi, Option.map_some]
  rw [udpSendBytes, run_bind_ok (derefIntf_ok.mpr ⟨hi, rfl⟩), run_bind_ok hnbr]
  cases hj : nbrIf i with
  | none =>
      have hsend : s.udpSendTo nbrIf i = none := by
        simp only [UdpComms.udpSendTo, hcomm_i, hj, Option.bind_eq_bind, Option.bind_some,
          Option.bind_none]
      rw [hsend]
      rfl
  | some j =>
      obtain ⟨y, hy⟩ := Option.isSome_iff_exists.mp (hlive j hj)
      dsimp only
      rw [run_bind_ok (derefIntf_ok.mpr ⟨hy, rfl⟩),
        udpSendTo_eq hcomm_i hj (by rw [hcomm, hy, Option.map_some])]
      by_cases hno : y.comm.port = 0 ∨ x.comm.fd = 0
      · rw [if_pos hno, if_pos hno]
        rfl
      · rw [if_neg hno, if_neg hno]

/-! ### Whether it ends -/

namespace UdpComms

/-- A descriptor the process can use. -/
def Usable (fd : Int) : Prop := 0 ≤ fd ∧ fd < maxComms

/-- `udp_init_comm` ends, and reports whether it obtained a socket. -/
def Ends {σ : Type} (a : OsAnswers σ) (s : UdpComms) (i : IntfId) : Prop :=
  ∃ fuel ok system t, s.udpInitComm a fuel i = some (ok, system, t) ∧ (ok = true ↔ Usable a.fd)

theorem setFdComm_ok (s : UdpComms) (fd : Int) (comm : Option IntfId) :
    (s.setFdComm fd comm).1 = true ↔ Usable fd := by
  unfold setFdComm Usable
  split
  · rename_i h
    refine iff_of_false Bool.false_ne_true ?_
    omega
  · rename_i h
    refine iff_of_true rfl ?_
    omega

theorem setFdComm_comm (s : UdpComms) (fd : Int) (comm : Option IntfId) :
    (s.setFdComm fd comm).2.comm = s.comm := by
  unfold setFdComm
  split <;> rfl

end UdpComms

/-- **`udp_init_comm` ends exactly if `socket` returned a descriptor**, on every system that
lets a descriptor be bound to some port. -/
theorem udpInitComm_ends_iff {σ : Type} (a : OsAnswers σ)
    (hport : 0 ≤ a.fd → ∃ port, ∀ k, (a.bind k port).isSome) (s : UdpComms) (i : IntfId) :
    UdpComms.Ends a s i ↔ 0 ≤ a.fd := by
  constructor
  · rintro ⟨fuel, ok, system, t, hrun, -⟩
    by_contra hfd
    have hloop : bindLoop a.bind fuel s.nextUdpPort = none :=
      bindLoop_endless (a.refused (Int.not_le.mp hfd))
    rw [UdpComms.udpInitComm, hloop] at hrun
    cases hrun
  · intro hfd
    obtain ⟨port, haccepted⟩ := hport hfd
    obtain ⟨e, he⟩ := bindLoop_ends haccepted s.nextUdpPort
    exact ⟨UInt16.size, _, _, _, UdpComms.udpInitComm_eq_some_iff.mpr ⟨e, he, rfl, rfl, rfl⟩,
      (s.opened i a.fd e).setFdComm_ok a.fd (some i)⟩

/-- No interface yet, and the counter where it starts. -/
def Fixture.udpComms : UdpComms where
  nextUdpPort := 40000
  comm _ := none
  fdToCommMap _ := none

/-- Only port 5 is free. -/
def Fixture.onlyPort5 : OsAnswers Unit where
  fd := 3
  bind _ port := if port = 5 then some () else none
  refused := fun h => absurd h (by decide)

theorem udpInitComm_ends_onlyPort5 : UdpComms.Ends Fixture.onlyPort5 Fixture.udpComms 0 :=
  (udpInitComm_ends_iff Fixture.onlyPort5 (fun _ => ⟨5, fun _ => rfl⟩) Fixture.udpComms 0).mpr
    (by decide)

/-- Without a descriptor every `bind` fails, and the next port is tried for ever. -/
theorem udpInitComm_endless : ∃ a : OsAnswers Unit, a.fd = -1 ∧
    (0 ≤ a.fd → ∃ port, ∀ k, (a.bind k port).isSome) ∧
    ∀ fuel i s, UdpComms.udpInitComm a fuel i s = none := by
  refine ⟨⟨-1, fun _ _ => none, fun _ _ _ => rfl⟩, rfl, fun h => absurd h (by decide), ?_⟩
  intro fuel i s
  rw [UdpComms.udpInitComm, bindLoop_endless fun _ _ => rfl]
  rfl

/-! ### Which port it leaves -/

/-- An interface was created by attempt `k`. -/
structure UdpOpened (s : Machine) (i : IntfId) (fd : Int) (picked : UInt16) (k : Nat) (os : Os)
    (t : UdpComms) : Prop where
  descriptor : 0 ≤ fd
  refused : RefusedUntil (fun _ port => s.os.bind fd picked port) s.nextUdpPort k
  comm : t.comm = Function.update s.comm i
    (some { commType := .udp, fd, port := s.nextUdpPort + UInt16.ofNat k })
  free : s.os.isFree (Os.bindPort picked (s.nextUdpPort + UInt16.ofNat k)) = true
  holder : os.holder = Function.update s.os.holder
    (Os.bindPort picked (s.nextUdpPort + UInt16.ofNat k)) (some (.socket fd))

section UdpOpened

variable {s : Machine} {i : IntfId} {fd : Int} {picked port : UInt16} {k : Nat} {os : Os}
  {t : UdpComms}

theorem Os.bind_eq_some_iff : s.os.bind fd picked port = some os ↔
    0 ≤ fd ∧ s.os.isFree (bindPort picked port) = true ∧
      os.holder = Function.update s.os.holder (bindPort picked port) (some (.socket fd)) := by
  unfold Os.bind
  split
  · rename_i h
    constructor
    · intro heq
      obtain rfl := Option.some.inj heq
      exact ⟨h.1, h.2, rfl⟩
    · rintro ⟨-, -, hholder⟩
      obtain ⟨holder⟩ := os
      obtain rfl : holder = _ := hholder
      rfl
  · rename_i h
    refine iff_of_false (fun heq => ?_) fun h' => h ⟨h'.1, h'.2.1⟩
    cases heq

theorem isFree_iff : s.os.isFree port = true ↔ port ≠ 0 ∧ s.os.holder port = none := by
  rw [Os.isFree, Bool.and_eq_true, bne_iff_ne, Option.isNone_iff_eq_none]

/-- A completed `udp_init_comm`. -/
theorem udpInitComm_opened {fuel : Nat} {ok : Bool}
    (hrun : s.udpInitComm (s.os.answers fd picked) fuel i = some (ok, os, t)) :
    ∃ k, UdpOpened s i fd picked k os t := by
  obtain ⟨e, hloop, -, rfl, rfl⟩ := UdpComms.udpInitComm_eq_some_iff.mp hrun
  obtain ⟨k, -, hrefused, haccepted, hport, -⟩ := bindLoop_eq_some_iff.mp hloop
  obtain ⟨hfd, hfree, hholder⟩ := Os.bind_eq_some_iff.mp haccepted
  refine ⟨k, hfd, hrefused, ?_, hfree, hholder⟩
  rw [UdpComms.setFdComm_comm, UdpComms.opened, hport]
  rfl

theorem bindPort_of_ne_zero (h : port ≠ 0) : Os.bindPort picked port = port := if_neg h

/-- What an attempt before the last one asked for was not free. -/
theorem UdpOpened.not_free (h : UdpOpened s i fd picked k os t) {j : Nat} (hj : j < k)
    (hport : s.nextUdpPort + UInt16.ofNat j = port) :
    s.os.isFree (Os.bindPort picked port) = false := by
  refine Bool.eq_false_iff.mpr fun hfree => ?_
  have hnone := h.refused j hj
  rw [hport] at hnone
  have hsome : s.os.bind fd picked port = some
      { holder := Function.update s.os.holder (Os.bindPort picked port) (some (.socket fd)) } :=
    Os.bind_eq_some_iff.mpr ⟨h.descriptor, hfree, rfl⟩
  rw [show s.os.bind fd picked port = none from hnone] at hsome
  cases hsome

/-- **The port in the `comm` is 0 exactly if no port from the counter on was free**, or the
counter was at 0. -/
theorem UdpOpened.port_ne_zero_iff (h : UdpOpened s i fd picked k os t)
    (hpicked : (∃ port, s.os.isFree port = true) → s.os.isFree picked = true) :
    s.nextUdpPort + UInt16.ofNat k ≠ 0 ↔
      s.nextUdpPort ≠ 0 ∧ ∃ port, s.nextUdpPort ≤ port ∧ s.os.isFree port = true := by
  constructor
  · intro hne
    have hfree := h.free
    rw [bindPort_of_ne_zero hne] at hfree
    -- had the counter passed 0, that port would have been taken
    have hpassed : ∀ j ≤ k, s.nextUdpPort + UInt16.ofNat j ≠ 0 := by
      intro j hj h0
      rcases Nat.lt_or_eq_of_le hj with hlt | rfl
      · have hnot := h.not_free hlt h0
        rw [Os.bindPort, if_pos rfl, hpicked ⟨_, hfree⟩] at hnot
        cases hnot
      · exact hne h0
    refine ⟨fun h0 => hpassed 0 (Nat.zero_le k) (by rw [h0]; rfl), _, ?_, hfree⟩
    by_contra hle
    obtain ⟨j, hj, hzero⟩ := exists_add_ofNat_eq_zero (UInt16.not_le.mp hle)
    exact hpassed j hj hzero
  · rintro ⟨hnext, port, hle, hfree⟩ h0
    -- the loop would have ended at that port
    have hnot := h.not_free (lt_of_add_ofNat_eq_zero hnext h0) (add_ofNat_sub hle)
    rw [bindPort_of_ne_zero (isFree_iff.mp hfree).1, hfree] at hnot
    cases hnot

end UdpOpened

/-! ### Any sequence of creations and destructions -/

/-- Each link port is the port of the socket, and no two interfaces have the same one. -/
structure Machine.LinkPorts (nbrIf : IntfId → Option IntfId) (s : Machine) : Prop where
  /-- The port in a `comm` is the one its socket is bound to. -/
  bound : ∀ i comm, s.comm i = some comm → comm.port ≠ 0 ∧
    ∀ port, s.os.holder port = some (.socket comm.fd) ↔ port = comm.port
  distinct : ∀ i j comm comm', i ≠ j → s.comm i = some comm → s.comm j = some comm' →
    comm.port ≠ comm'.port
  /-- What an interface sends is addressed to the socket of its neighbour. -/
  sends : ∀ i j comm nbr, s.comm i = some comm → nbrIf i = some j → s.comm j = some nbr →
    ∃ port, s.udpSendTo nbrIf i = some (comm.fd, port) ∧ s.os.holder port = some (.socket nbr.fd)

/-- The functions of the graph, where they see the backends of the machine. -/
structure Machine.GraphAgrees (nbrIf : IntfId → Option IntfId) (s : Machine) : Prop where
  /-- `udp_init_comm`, told how many ports are refused, opens an interface as the machine does. -/
  opens : ∀ {h : Host} {i : IntfId} {x : Intf} {k : Nat} {fd : Int} {picked : UInt16} {os : Os},
    h.udpComms = s.toUdpComms → h.intf i = some x → h.sysOpen h.numOpens = fd →
    h.sysBind (h.numOpens + 1) = k →
    RefusedUntil (fun _ port => s.os.bind fd picked port) s.nextUdpPort k →
    s.os.bind fd picked (s.nextUdpPort + UInt16.ofNat k) = some os →
    ∃ ok h', udpInitComm i h = .ok ok h' ∧
      s.udpInitComm (s.os.answers fd picked) (k + 1) i = some (ok, os, h'.udpComms)
  /-- `udp_send_bytes` to a live neighbour makes the system call, and drops nothing before. -/
  sends : ∀ {w : World} {i j : IntfId} {x : Intf} (frame : List UInt8),
    (∀ j, s.comm j = (w.intf j).map Intf.comm) → w.intf i = some x → nbrIf i = some j →
    getNbrIf i w = .ok (some j) w → (w.intf j).isSome →
    udpSendBytes i frame w = (do
      let nsent ← sysSendCall i frame
      pure (if nsent < 0 then 0 else 1) : M Int) w

/-- The counter has not turned: from it on a port is free.  `socket` does not return 0, which
stands for no descriptor. -/
def LinkEvent.InRange (s : Machine) : LinkEvent → Prop
  | .create _ fd _ => fd ≠ 0 ∧ s.nextUdpPort ≠ 0 ∧
      ∃ port, s.nextUdpPort ≤ port ∧ s.os.isFree port = true
  | _ => True

/-- What such events keep. -/
structure Machine.Bound (s : Machine) : Prop where
  fd : ∀ i comm, s.comm i = some comm → comm.fd ≠ 0
  port : ∀ i comm, s.comm i = some comm → comm.port ≠ 0 ∧
    ∀ port, s.os.holder port = some (.socket comm.fd) ↔ port = comm.port
  apart : ∀ i j comm comm', s.comm i = some comm → s.comm j = some comm' →
    comm.fd = comm'.fd → i = j

namespace Machine

variable {s t : Machine} {e : LinkEvent}

theorem Started.bound (h : s.Started) : s.Bound := by
  have hnone : ∀ i comm, s.comm i ≠ some comm := by
    intro i comm hi
    rw [h.comm] at hi
    cases hi
  exact ⟨fun i comm hi => absurd hi (hnone i comm), fun i comm hi => absurd hi (hnone i comm),
    fun i _ comm _ hi => absurd hi (hnone i comm)⟩

theorem Bound.create (h : s.Bound) {i : IntfId} {fd : Int} {picked : UInt16} {k : Nat} {os : Os}
    {u : UdpComms} (hopened : UdpOpened s i fd picked k os u) (hfd0 : fd ≠ 0)
    (hport : s.nextUdpPort + UInt16.ofNat k ≠ 0)
    (hfd : ∀ port, s.os.holder port ≠ some (.socket fd)) : Bound { u with os } := by
  obtain ⟨-, -, hcomm, hfree, hholder⟩ := hopened
  rw [bindPort_of_ne_zero hport] at hfree hholder
  generalize s.nextUdpPort + UInt16.ofNat k = port at hcomm hfree hholder hport
  have hunheld : s.os.holder port = none := (isFree_iff.mp hfree).2
  -- an interface is the new one, or was there before with another descriptor
  have hcases : ∀ j c, u.comm j = some c →
      (j = i ∧ c = { commType := .udp, fd, port }) ∨ s.comm j = some c ∧ c.fd ≠ fd := by
    intro j c hj
    rw [hcomm] at hj
    by_cases hij : j = i
    · rw [hij, Function.update_self] at hj
      exact Or.inl ⟨hij, (Option.some.inj hj).symm⟩
    · rw [Function.update_of_ne hij] at hj
      refine Or.inr ⟨hj, fun heq => hfd c.port ?_⟩
      rw [← heq]
      exact ((h.port j c hj).2 c.port).mpr rfl
  refine ⟨fun j c hj => ?_, fun j c hj => ?_, fun j j' c c' hj hj' heq => ?_⟩
  · rcases hcases j c hj with ⟨-, rfl⟩ | ⟨hold, -⟩
    · exact hfd0
    · exact h.fd j c hold
  · change _ ∧ ∀ p, os.holder p = _ ↔ _
    rw [hholder]
    rcases hcases j c hj with ⟨-, rfl⟩ | ⟨hold, hne⟩
    · refine ⟨hport, fun p => ?_⟩
      by_cases hp : p = port
      · rw [hp, Function.update_self]
        exact iff_of_true rfl rfl
      · rw [Function.update_of_ne hp]
        exact iff_of_false (hfd p) hp
    · obtain ⟨hport', hheld⟩ := h.port j c hold
      refine ⟨hport', fun p => ?_⟩
      by_cases hp : p = port
      · rw [hp, Function.update_self]
        refine iff_of_false (fun heq => hne ?_) fun heq => ?_
        · cases heq
          rfl
        · have hself := (hheld c.port).mpr rfl
          rw [← heq, hunheld] at hself
          cases hself
      · rw [Function.update_of_ne hp]
        exact hheld p
  · rcases hcases j c hj with ⟨hij, rfl⟩ | ⟨hold, hne⟩
    · rcases hcases j' c' hj' with ⟨hij', -⟩ | ⟨-, hne'⟩
      · exact hij.trans hij'.symm
      · exact absurd heq.symm hne'
    · rcases hcases j' c' hj' with ⟨-, rfl⟩ | ⟨hold', -⟩
      · exact absurd heq hne
      · exact h.apart j j' c c' hold hold' heq

theorem Bound.destroy (h : s.Bound) {i : IntfId} {comm : Comm} (hcomm : s.comm i = some comm) :
    Bound { s.udpDestroyComm i comm with
      comm := Function.update (s.udpDestroyComm i comm).comm i none } := by
  have hrun : s.udpDestroyComm i comm =
      { (s.setFdComm comm.fd none).2 with
        comm := Function.update s.comm i (some { comm with fd := 0, port := 0 })
        os := s.os.close comm.fd } := if_neg (h.fd i comm hcomm)
  rw [hrun]
  have hcases : ∀ j c, Function.update
      (Function.update s.comm i (some { comm with fd := 0, port := 0 })) i none j = some c →
      j ≠ i ∧ s.comm j = some c := by
    intro j c hj
    by_cases hij : j = i
    · rw [hij, Function.update_self] at hj
      cases hj
    · rw [Function.update_of_ne hij, Function.update_of_ne hij] at hj
      exact ⟨hij, hj⟩
  refine ⟨fun j c hj => h.fd j c (hcases j c hj).2, fun j c hj => ?_,
    fun j j' c c' hj hj' => h.apart j j' c c' (hcases j c hj).2 (hcases j' c' hj').2⟩
  obtain ⟨hij, hold⟩ := hcases j c hj
  obtain ⟨hport, hheld⟩ := h.port j c hold
  refine ⟨hport, fun p => ?_⟩
  have hfd : c.fd ≠ comm.fd := fun heq => hij (h.apart j i c comm hold hcomm heq)
  change (if s.os.holder p = some (.socket comm.fd) then none else s.os.holder p) = _ ↔ _
  rw [← hheld]
  split
  · rename_i hclosed
    refine iff_of_false (fun heq => by cases heq) fun heq => hfd ?_
    rw [hclosed] at heq
    exact (Owner.socket.inj (Option.some.inj heq)).symm
  · exact Iff.rfl

theorem Bound.step (h : s.Bound) (he : e.InRange s) (hstep : s.Step e t) : t.Bound := by
  cases hstep with
  | create _ hfd hpicked hrun =>
      obtain ⟨hfd0, hrange⟩ := he
      obtain ⟨k, hopened⟩ := udpInitComm_opened hrun
      exact h.create hopened hfd0 ((hopened.port_ne_zero_iff hpicked).mpr hrange) hfd
  | destroy hcomm => exact h.destroy hcomm
  | others hours =>
      refine ⟨h.fd, fun i comm hi => ?_, h.apart⟩
      obtain ⟨hport, hheld⟩ := h.port i comm hi
      exact ⟨hport, fun port => (hours port comm.fd).trans (hheld port)⟩

theorem ReachableBy.bound (h : s.ReachableBy LinkEvent.InRange) : s.Bound := by
  induction h with
  | init h => exact h.bound
  | step _ hP hstep ih => exact ih.step hP hstep

theorem Bound.linkPorts (h : s.Bound) (nbrIf : IntfId → Option IntfId) : s.LinkPorts nbrIf := by
  refine ⟨h.port, fun i j comm comm' hij hi hj heq => hij ?_, fun i j comm nbr hi hnbr hj => ?_⟩
  · have hheld := ((h.port i comm hi).2 comm.port).mpr rfl
    have hheld' := ((h.port j comm' hj).2 comm'.port).mpr rfl
    rw [← heq, hheld] at hheld'
    exact h.apart i j comm comm' hi hj (Owner.socket.inj (Option.some.inj hheld'))
  · refine ⟨nbr.port, ?_, ((h.port j nbr hj).2 nbr.port).mpr rfl⟩
    have hno : ¬ (nbr.port = 0 ∨ comm.fd = 0) := by
      rintro (h0 | h0)
      · exact (h.port j nbr hj).1 h0
      · exact h.fd i comm hi h0
    rw [udpSendTo_eq hi hnbr hj, if_neg hno]

theorem LinkPorts.graphAgrees {nbrIf : IntfId → Option IntfId} (h : s.LinkPorts nbrIf) :
    s.GraphAgrees nbrIf where
  opens := by
    intro g i x k fd picked os hcomms hi hfd hk hrefused haccepted
    have hnext : g.nextUdpPort = s.nextUdpPort := congrArg UdpComms.nextUdpPort hcomms
    rw [← hnext] at hrefused haccepted
    have hcounted := udpInitComm_counted (s.os.answers fd picked) hi hfd hk hrefused haccepted
    rwa [hcomms] at hcounted
  sends := by
    intro w i j x frame hcomm hi hnbr hget hlive
    obtain ⟨y, hy⟩ := Option.isSome_iff_exists.mp hlive
    have hcomm_i : s.comm i = some x.comm := by rw [hcomm, hi, Option.map_some]
    have hcomm_j : s.comm j = some y.comm := by rw [hcomm, hy, Option.map_some]
    obtain ⟨port, hport, -⟩ := h.sends i j x.comm y.comm hcomm_i hnbr hcomm_j
    have hrun : getNbrIf i w = .ok (nbrIf i) w := hnbr ▸ hget
    rw [udpSendBytes_eq frame hcomm hi hrun fun j' hj' => ?_, hport]
    obtain rfl : j = j' := Option.some.inj (hnbr.symm.trans hj')
    exact hlive

end Machine

/-- **Every link has its port as long as the counter has not turned**, and the graph's functions
open and use the same ports. -/
theorem linkPorts_run {s : Machine} (h : s.ReachableBy LinkEvent.InRange)
    (nbrIf : IntfId → Option IntfId) : s.LinkPorts nbrIf ∧ s.GraphAgrees nbrIf :=
  ⟨h.bound.linkPorts nbrIf, (h.bound.linkPorts nbrIf).graphAgrees⟩

namespace Fixture

/-- No interface yet, and no port held. -/
def portsFree : Machine := { udpComms with os := { holder := fun _ => none } }

/-- One interface, on the first port. -/
def oneOpened : Machine where
  nextUdpPort := 40001
  comm := Function.update (fun _ => none) 0 (some { commType := .udp, fd := 3, port := 40000 })
  fdToCommMap := Function.update (fun _ => none) 3 (some 0)
  os := { holder := Function.update (fun _ => none) 40000 (some (.socket 3)) }

/-- No interface yet; another process holds the ports from 40000 on. -/
def portsTaken : Machine :=
  { udpComms with os := { holder := fun port => if 40000 ≤ port then some .others else none } }

theorem portsTaken_started : portsTaken.Started where
  nextUdpPort := rfl
  comm := rfl
  fdToCommMap := rfl
  holder := by
    intro port fd h
    change (if 40000 ≤ port then some Owner.others else none) = _ at h
    split at h <;> cases h

theorem portsTaken_refused :
    RefusedUntil (portsTaken.os.answers 3 1).bind portsTaken.nextUdpPort 25536 := by
  intro j hj
  have hnat : (40000 + UInt16.ofNat j).toNat = 40000 + j := by
    rw [toNat_add_ofNat16]
    change (40000 + j) % 65536 = _
    omega
  have hle : 40000 ≤ 40000 + UInt16.ofNat j := by
    rw [UInt16.le_iff_toNat_le, hnat]
    exact Nat.le_add_right 40000 j
  have hne : 40000 + UInt16.ofNat j ≠ 0 := by
    intro h0
    have hzero := congrArg UInt16.toNat h0
    rw [hnat] at hzero
    change _ = 0 at hzero
    omega
  refine if_neg fun h => ?_
  have hfree : portsTaken.os.isFree (Os.bindPort 1 (40000 + UInt16.ofNat j)) = true := h.2
  rw [bindPort_of_ne_zero hne] at hfree
  have hunheld := (isFree_iff (s := portsTaken)).mp hfree
  rw [show portsTaken.os.holder _ = some .others from if_pos hle] at hunheld
  cases hunheld.2

end Fixture

theorem linkPorts_two : ∃ s : Machine, s.ReachableBy LinkEvent.InRange ∧
    (s.comm 0).map Comm.port = some 40000 ∧ (s.comm 1).map Comm.port = some 40001 ∧
    (s.LinkPorts fun i => some (1 - i)) ∧ s.GraphAgrees fun i => some (1 - i) := by
  have hstart : Fixture.portsFree.Started := ⟨rfl, rfl, rfl, fun port fd h => by cases h⟩
  have hfirst : Fixture.portsFree.Step (.create 0 3 1) Fixture.oneOpened :=
    @Machine.Step.create _ 0 3 1 1 true _ _ rfl (fun port h => by cases h) (fun _ => rfl) rfl
  have hunused : ∀ port, Fixture.oneOpened.os.holder port ≠ some (.socket 4) := by
    intro port h
    change (Function.update (fun _ => none) 40000 (some (Owner.socket 3))) port = _ at h
    by_cases hport : port = 40000
    · rw [hport, Function.update_self] at h
      exact absurd (Owner.socket.inj (Option.some.inj h)) (by decide)
    · rw [Function.update_of_ne hport] at h
      cases h
  have hsecond := @Machine.Step.create Fixture.oneOpened 1 4 1 1 true _ _ rfl hunused
    (fun _ => rfl) rfl
  have hrange : LinkEvent.InRange Fixture.portsFree (.create 0 3 1) :=
    ⟨by decide, by decide, 40000, by decide, by decide⟩
  have hrange' : LinkEvent.InRange Fixture.oneOpened (.create 1 4 1) :=
    ⟨by decide, by decide, 40001, by decide, by decide⟩
  have hreach := ((Machine.ReachableBy.init hstart).step hrange hfirst).step hrange' hsecond
  exact ⟨_, hreach, rfl, rfl, linkPorts_run hreach _⟩

/-- The 25536 ports from 40000 on are taken.  The interface gets port 0, its socket the port
the system picked. -/
theorem linkPorts_wrapped : ∃ s : Machine, s.Started ∧ ∃ t, s.Step (.create 0 3 1) t ∧
    (t.comm 0).map Comm.port = some 0 ∧ t.os.holder 1 = some (.socket 3) ∧
    ∀ nbrIf, ¬ t.LinkPorts nbrIf := by
  have hloop : bindLoop (Fixture.portsTaken.os.answers 3 1).bind 25537
      Fixture.portsTaken.nextUdpPort = some ⟨0, 1,
        { holder := Function.update Fixture.portsTaken.os.holder 1 (some (.socket 3)) }⟩ :=
    bindLoop_eq_some_iff.mpr ⟨25536, by decide, Fixture.portsTaken_refused, rfl, by decide, by decide⟩
  refine ⟨Fixture.portsTaken, Fixture.portsTaken_started, _, .create rfl
    (Fixture.portsTaken_started.holder · 3) (fun _ => rfl)
    (UdpComms.udpInitComm_eq_some_iff.mpr ⟨_, hloop, rfl, rfl, rfl⟩), ?_, ?_, ?_⟩
  · rfl
  · rfl
  · intro nbrIf h
    exact (h.bound 0 _ rfl).1 rfl

end SimpleTcpip
