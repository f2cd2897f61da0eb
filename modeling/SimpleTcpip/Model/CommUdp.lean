/-
The UDP backend and the ports of the operating system: comm_udp.c, with the loop of
`udp_init_comm` as it stands.

The graph only counts the ports that `bind` refuses.  Here `bind` is asked port by port, so
the loop may go on for ever and takes fuel.  `UdpComms` is what comm_udp.c reads and writes,
and `Machine` adds who holds which port.
-/
import SimpleTcpip.Model.Fixture

namespace SimpleTcpip

/-! ### Opening a backend -/

/-- What `udp_init_comm` gets from the operating system. -/
structure OsAnswers (σ : Type) where
  /-- The descriptor `socket` returns, or -1. -/
  fd : Int
  /-- What the system becomes when attempt `k` asks `bind` for a port, if it accepts. -/
  bind : Nat → UInt16 → Option σ
  /-- It accepts nothing for what is no descriptor. -/
  refused : fd < 0 → ∀ k port, bind k port = none

/-- How the loop of `udp_init_comm` ends. -/
structure LoopEnd (σ : Type) where
  port : UInt16
  nextUdpPort : UInt16
  system : σ

/-- The loop of `udp_init_comm`, or nothing if the fuel does not last. -/
def bindLoop {σ : Type} (bind : Nat → UInt16 → Option σ) : Nat → UInt16 → Option (LoopEnd σ)
  | 0, _ => none
  | fuel + 1, nextUdpPort =>
      -- `get_next_udp_port`
      let port := nextUdpPort
      let nextUdpPort := nextUdpPort + 1
      match bind 0 port with
      | some system => some { port, nextUdpPort, system }
      | none => bindLoop (fun k => bind (k + 1)) fuel nextUdpPort

/-- The backends of the process; a `comm` goes by the interface it is embedded in. -/
structure UdpComms where
  nextUdpPort : UInt16
  comm : IntfId → Option Comm
  fdToCommMap : Nat → Option IntfId

namespace UdpComms

/-- `set_fd_comm`. -/
def setFdComm (s : UdpComms) (fd : Int) (comm : Option IntfId) : Bool × UdpComms :=
  if fd < 0 ∨ fd ≥ maxComms then (false, s)
  else (true, { s with fdToCommMap := Function.update s.fdToCommMap fd.toNat comm })

/-- The backend of an interface, once its loop has ended. -/
def opened {σ : Type} (s : UdpComms) (i : IntfId) (fd : Int) (e : LoopEnd σ) : UdpComms :=
  { s with
    nextUdpPort := e.nextUdpPort
    comm := Function.update s.comm i (some { commType := .udp, fd, port := e.port }) }

/-- `udp_init_comm`: what it returns, and what it leaves. -/
def udpInitComm {σ : Type} (a : OsAnswers σ) (fuel : Nat) (i : IntfId) (s : UdpComms) :
    Option (Bool × σ × UdpComms) :=
  (bindLoop a.bind fuel s.nextUdpPort).map fun e =>
    let (ok, s) := (s.opened i a.fd e).setFdComm a.fd (some i)
    (ok, e.system, s)

/-- The arguments of the `sendto` of `udp_send_bytes`: its socket, and a port of this host.
`nbrIf` is `get_nbr_if`. -/
def udpSendTo (nbrIf : IntfId → Option IntfId) (s : UdpComms) (i : IntfId) :
    Option (Int × UInt16) := do
  let comm ← s.comm i
  let nbr ← (nbrIf i).bind s.comm
  if nbr.port = 0 ∨ comm.fd = 0 then none else some (comm.fd, nbr.port)

end UdpComms

/-! ### The ports -/

/-- Who holds a port: a socket of the process, or another process. -/
inductive Owner
  | socket (fd : Int)
  | others
  deriving DecidableEq

structure Os where
  holder : UInt16 → Option Owner

namespace Os

def isFree (os : Os) (port : UInt16) : Bool := port != 0 && (os.holder port).isNone

/-- The port a `bind` is about: the system picks one if it is asked for port 0. -/
def bindPort (picked port : UInt16) : UInt16 := if port = 0 then picked else port

/-- `bind`. -/
def bind (os : Os) (fd : Int) (picked port : UInt16) : Option Os :=
  if 0 ≤ fd ∧ os.isFree (bindPort picked port) then
    some { holder := Function.update os.holder (bindPort picked port) (some (.socket fd)) }
  else none

/-- `close`. -/
def close (os : Os) (fd : Int) : Os where
  holder port := if os.holder port = some (.socket fd) then none else os.holder port

/-- What the system answers while nobody else asks it. -/
def answers (os : Os) (fd : Int) (picked : UInt16) : OsAnswers Os where
  fd := fd
  bind _ port := os.bind fd picked port
  refused := fun h _ _ => if_neg fun h' => absurd h'.1 (Int.not_le.mpr h)

end Os

/-! ### Creating and destroying -/

/-- The backends, on a system. -/
structure Machine extends UdpComms where
  os : Os

/-- `udp_destroy_comm`. -/
def Machine.udpDestroyComm (s : Machine) (i : IntfId) (comm : Comm) : Machine :=
  if comm.fd = 0 then s
  else
    { (s.setFdComm comm.fd none).2 with
      comm := Function.update s.comm i (some { comm with fd := 0, port := 0 })
      os := s.os.close comm.fd }

inductive LinkEvent
  /-- `udp_init_comm` of an interface.  `socket` returns `fd`, and the system would pick a
  port. -/
  | create (i : IntfId) (fd : Int) (picked : UInt16)
  /-- `udp_destroy_comm` of an interface, which is then freed. -/
  | destroy (i : IntfId)
  /-- Other processes take and give up ports. -/
  | others (os : Os)

inductive Machine.Step (s : Machine) : LinkEvent → Machine → Prop
  | create {i : IntfId} {fd : Int} {picked : UInt16} {fuel : Nat} {ok : Bool} {os : Os}
      {t : UdpComms} (hnew : s.comm i = none)
      (hfd : ∀ port, s.os.holder port ≠ some (.socket fd))
      (hpicked : (∃ port, s.os.isFree port = true) → s.os.isFree picked = true)
      (hrun : s.udpInitComm (s.os.answers fd picked) fuel i = some (ok, os, t)) :
      Step s (.create i fd picked) { t with os }
  | destroy {i : IntfId} {comm : Comm} (hcomm : s.comm i = some comm) :
      Step s (.destroy i)
        { s.udpDestroyComm i comm with
          comm := Function.update (s.udpDestroyComm i comm).comm i none }
  | others {os : Os} (hours : ∀ port fd, os.holder port = some (.socket fd) ↔
        s.os.holder port = some (.socket fd)) :
      Step s (.others os) { s with os }

/-- No interface has been created; other processes may hold any ports. -/
structure Machine.Started (s : Machine) : Prop where
  nextUdpPort : s.nextUdpPort = 40000
  comm : s.comm = fun _ => none
  fdToCommMap : s.fdToCommMap = fun _ => none
  holder : ∀ port fd, s.os.holder port ≠ some (.socket fd)

/-- The states of the runs whose events all meet a condition. -/
inductive Machine.ReachableBy (P : Machine → LinkEvent → Prop) : Machine → Prop
  | init {s : Machine} (h : s.Started) : ReachableBy P s
  | step {s t : Machine} {e : LinkEvent} (h : ReachableBy P s) (hP : P s e)
      (hstep : s.Step e t) : ReachableBy P t

end SimpleTcpip
