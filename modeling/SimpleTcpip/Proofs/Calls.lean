/-
What the calls of an application can change.

A call either works on the network, and then it makes the changes of its scope, or it
is quiet: it opens, binds, reads or configures, sends nothing, and lets no packet wait.
-/
import SimpleTcpip.Proofs.Changes

namespace SimpleTcpip

open Fallible Relation

/-! ### Quiet calls -/

/-- What a quiet call records. -/
def Event.IsQuiet : Event → Prop
  | .free _ | .readIpHdr _ => True
  | _ => False

/-- A connection without the bytes it has queued. -/
def TcpConnectionSock.control (conn : TcpConnectionSock) : TcpConnectionSock :=
  { conn with rxSkb := [] }

/-- What a quiet call may own: the configuration, the tables of a transport protocol, or
the connection descriptors. -/
inductive Part
  | config
  | udp
  | tcp
  | accept

/-- Nothing changed outside a part. -/
def Part.Only (w w' : World) : Part → Prop
  | .config => w' = { w with
      intf := w'.intf, rtTable := w'.rtTable, ipForwardEnable := w'.ipForwardEnable }
  | .udp => w' = { w with
      udpSock := w'.udpSock, udpSocks := w'.udpSocks, udpFdToSock := w'.udpFdToSock }
  | .tcp => w' = { w with
      tcpSock := w'.tcpSock, tcpSocks := w'.tcpSocks, tcpFdToSock := w'.tcpFdToSock }
  | .accept => w' = { w with fdConnToSock := w'.fdConnToSock }

/-- A part is as it was. -/
def Part.Same (w w' : World) : Part → Prop
  | .config => w'.intf = w.intf ∧ w'.rtTable = w.rtTable ∧ w'.ipForwardEnable = w.ipForwardEnable
  | .udp => w'.udpSock = w.udpSock ∧ w'.udpSocks = w.udpSocks ∧ w'.udpFdToSock = w.udpFdToSock
  | .tcp => w'.tcpSock = w.tcpSock ∧ w'.tcpSocks = w.tcpSocks ∧ w'.tcpFdToSock = w.tcpFdToSock
  | .accept => w'.fdConnToSock = w.fdConnToSock

namespace Part

theorem Same.refl (w : World) (p : Part) : p.Same w w := by
  cases p with
  | accept => rfl
  | _ => exact ⟨rfl, rfl, rfl⟩

theorem Same.trans {w w' w'' : World} {p : Part} (h : p.Same w w') (h' : p.Same w' w'') :
    p.Same w w'' := by
  cases p with
  | accept => exact Eq.trans h' h
  | _ => exact ⟨h'.1.trans h.1, h'.2.1.trans h.2.1, h'.2.2.trans h.2.2⟩

/-- What changes in one part leaves the others. -/
theorem Only.same {w w' : World} {p q : Part} (h : p.Only w w') : q = p ∨ q.Same w w' := by
  unfold Part.Only at h
  cases p with
  | config => cases q with
    | config => exact Or.inl rfl
    | accept => exact Or.inr (by unfold Same; rw [h])
    | _ => exact Or.inr (by unfold Same; rw [h]; exact ⟨rfl, rfl, rfl⟩)
  | udp => cases q with
    | udp => exact Or.inl rfl
    | accept => exact Or.inr (by unfold Same; rw [h])
    | _ => exact Or.inr (by unfold Same; rw [h]; exact ⟨rfl, rfl, rfl⟩)
  | tcp => cases q with
    | tcp => exact Or.inl rfl
    | accept => exact Or.inr (by unfold Same; rw [h])
    | _ => exact Or.inr (by unfold Same; rw [h]; exact ⟨rfl, rfl, rfl⟩)
  | accept => cases q with
    | accept => exact Or.inl rfl
    | _ => exact Or.inr (by unfold Same; rw [h]; exact ⟨rfl, rfl, rfl⟩)

end Part

/-- A call that only writes the parts it owns. -/
structure Confined (own : Part → Prop) (w w' : World) : Prop where
  frame : w' = { w with
    intf := w'.intf, rtTable := w'.rtTable, ipForwardEnable := w'.ipForwardEnable,
    udpSock := w'.udpSock, udpSocks := w'.udpSocks, udpFdToSock := w'.udpFdToSock,
    tcpSock := w'.tcpSock, tcpSocks := w'.tcpSocks, tcpFdToSock := w'.tcpFdToSock,
    fdConnToSock := w'.fdConnToSock, nextId := w'.nextId }
  nextId : w.nextId ≤ w'.nextId
  parts : ∀ p : Part, own p ∨ p.Same w w'

namespace Confined

variable {own : Part → Prop} {w w' w'' : World}

theorem refl (w : World) : Confined own w w :=
  ⟨rfl, Nat.le_refl _, fun p => Or.inr (.refl w p)⟩

theorem trans (h : Confined own w w') (h' : Confined own w' w'') : Confined own w w'' := by
  refine ⟨by rw [h'.frame, h.frame], Nat.le_trans h.nextId h'.nextId, fun p => ?_⟩
  rcases h.parts p with hown | hsame
  · exact Or.inl hown
  · exact (h'.parts p).imp_right hsame.trans

/-- A change of a part the call owns. -/
theorem of_only {p : Part} (hp : own p) (h : p.Only w w') : Confined own w w' := by
  have hparts : ∀ q : Part, own q ∨ q.Same w w' := by
    intro q
    rcases h.same (q := q) with heq | hsame
    · exact Or.inl (heq ▸ hp)
    · exact Or.inr hsame
  unfold Part.Only at h
  cases p <;> exact ⟨by rw [h], by rw [h], hparts⟩

end Confined

/-- What a quiet call can change, when it owns these parts. -/
structure Quiet (own : Part → Prop) (w w' : World) : Prop where
  frame : w' = { w with
    intf := w'.intf, rtTable := w'.rtTable, ipForwardEnable := w'.ipForwardEnable,
    udpSock := w'.udpSock, udpSocks := w'.udpSocks, udpFdToSock := w'.udpFdToSock,
    tcpSock := w'.tcpSock, tcpSocks := w'.tcpSocks, tcpFdToSock := w'.tcpFdToSock,
    fdConnToSock := w'.fdConnToSock, tcpConn := w'.tcpConn, nextId := w'.nextId,
    trace := w'.trace }
  nextId : w.nextId ≤ w'.nextId
  trace : ∃ es, w'.trace = w.trace ++ es ∧ ∀ e ∈ es, e.IsQuiet
  /-- Of a connection at most the queue. -/
  tcpConn : ∀ c, (w'.tcpConn c).map TcpConnectionSock.control
    = (w.tcpConn c).map TcpConnectionSock.control
  parts : ∀ p : Part, own p ∨ p.Same w w'

namespace Quiet

variable {own : Part → Prop} {w w' w'' : World}

theorem refl (w : World) : Quiet own w w :=
  ⟨rfl, Nat.le_refl _, ⟨[], by simp, by simp⟩, fun _ => rfl, fun p => Or.inr (.refl w p)⟩

theorem trans (h : Quiet own w w') (h' : Quiet own w' w'') : Quiet own w w'' := by
  obtain ⟨es, he, hes⟩ := h.trace
  obtain ⟨es', he', hes'⟩ := h'.trace
  refine ⟨by rw [h'.frame, h.frame], Nat.le_trans h.nextId h'.nextId,
    ⟨es ++ es', by rw [he', he, List.append_assoc], ?_⟩,
    fun c => (h'.tcpConn c).trans (h.tcpConn c), fun p => ?_⟩
  · intro e hmem
    rcases List.mem_append.mp hmem with hl | hr
    · exact hes e hl
    · exact hes' e hr
  · rcases h.parts p with hown | hsame
    · exact Or.inl hown
    · exact (h'.parts p).imp_right hsame.trans

theorem arpTable (h : Quiet own w w') : w'.arpTable = w.arpTable := by rw [h.frame]

theorem of_confined (h : Confined own w w') : Quiet own w w' :=
  ⟨by rw [h.frame], h.nextId, ⟨[], by rw [h.frame]; exact (List.append_nil _).symm, by simp⟩,
    fun c => by rw [h.frame], h.parts⟩

end Quiet

section Steps

variable {own : Part → Prop} {α β : Type}

theorem reads_quiet {m : M α} (h : Keeps Eq m) : Keeps (Quiet own) m := keeps_of_eq Quiet.refl h

theorem pure_quiet (a : α) : Keeps (Quiet own) (pure a : M α) := keeps_pure Quiet.refl a

theorem bind_quiet {x : M α} {f : α → M β} (hx : Keeps (Quiet own) x)
    (hf : ∀ a, Keeps (Quiet own) (f a)) : Keeps (Quiet own) (x >>= f) :=
  keeps_bind (fun _ _ _ h h' => h.trans h') hx hf

theorem log_quiet {e : Event} (he : e.IsQuiet) : Keeps (Quiet own) (log e) :=
  fun w => ⟨rfl, Nat.le_refl _, ⟨[e], rfl, by simpa using he⟩, fun _ => rfl,
    fun p => Or.inr (by cases p <;> first | rfl | exact ⟨rfl, rfl, rfl⟩)⟩

theorem reads_confined {m : M α} (h : Keeps Eq m) : Keeps (Confined own) m :=
  keeps_of_eq Confined.refl h

theorem pure_confined (a : α) : Keeps (Confined own) (pure a : M α) := keeps_pure Confined.refl a

theorem bind_confined {x : M α} {f : α → M β} (hx : Keeps (Confined own) x)
    (hf : ∀ a, Keeps (Confined own) (f a)) : Keeps (Confined own) (x >>= f) :=
  keeps_bind (fun _ _ _ h h' => h.trans h') hx hf

theorem modify_confined {p : Part} (hp : own p) {f : World → World} (h : ∀ w, p.Only w (f w)) :
    Keeps (Confined own) (modify f : M Unit) :=
  keeps_modify fun w => .of_only hp (h w)

theorem allocId_confined : Keeps (Confined own) allocId :=
  fun w => ⟨rfl, Nat.le_succ w.nextId,
    fun p => Or.inr (by cases p <;> first | rfl | exact ⟨rfl, rfl, rfl⟩)⟩

theorem setUdpSock_confined (hown : own .udp) (k : SockId) (s : UdpSock) :
    Keeps (Confined own) (setUdpSock k s) :=
  modify_confined hown fun _ => rfl

theorem setTcpSock_confined (hown : own .tcp) (k : SockId) (s : TcpSock) :
    Keeps (Confined own) (setTcpSock k s) :=
  modify_confined hown fun _ => rfl

/-- A confined call is quiet. -/
theorem confined_quiet {m : M α} (h : Keeps (Confined own) m) : Keeps (Quiet own) m :=
  keeps_mono (fun _ _ => .of_confined) h

end Steps

/-! ### The calls, one by one -/

section Calls

variable {own : Part → Prop}

theorem udpSocket_confined (hown : own .udp) (n : NodeId) : Keeps (Confined own) (udpSocket n) := by
  refine bind_confined (reads_confined get_reads) fun w => ?_
  cases firstFree maxUdpSocks w.udpFdToSock with
  | none => exact pure_confined _
  | some i =>
      refine bind_confined allocId_confined fun k => bind_confined (setUdpSock_confined hown k _) fun _ => ?_
      refine bind_confined ?_ fun _ => pure_confined _
      exact modify_confined hown fun _ => rfl

theorem udpClose_confined (hown : own .udp) (sockfd : Int) : Keeps (Confined own) (udpClose sockfd) := by
  refine bind_confined (reads_confined get_reads) fun w => ?_
  cases goodUdpSock w sockfd with
  | none => exact pure_confined _
  | some k =>
      refine bind_confined (reads_confined (derefUdpSock_reads k)) fun sock => ?_
      refine bind_confined (modify_confined hown fun _ => rfl) fun _ => ?_
      refine bind_confined ?_ fun _ => bind_confined ?_ fun _ => pure_confined _
      · unfold unlinkUdpSock
        split
        · exact modify_confined hown fun _ => rfl
        · exact pure_confined _
      · exact modify_confined hown fun _ => rfl

theorem udpBind_confined (hown : own .udp) (sockfd : Int) (ip : UInt32) (port : UInt16) :
    Keeps (Confined own) (udpBind sockfd ip port) := by
  refine bind_confined (reads_confined get_reads) fun w => ?_
  cases goodUdpSock w sockfd with
  | none => exact pure_confined _
  | some k =>
      refine bind_confined (reads_confined (derefUdpSock_reads k)) fun sock =>
        keeps_ite (pure_confined _) ?_
      refine bind_confined (reads_confined get_reads) fun w1 => ?_
      cases getMatchingInterface w1 sock.node ip with
      | none => exact pure_confined _
      | some i =>
          refine bind_confined (setUdpSock_confined hown k _) fun _ => bind_confined ?_ fun _ => pure_confined _
          exact modify_confined hown fun _ => rfl

/-! `udp_recvfrom` records the events of a quiet call at most, and writes a socket back with
another queue; so it keeps whatever these two keep. -/

section Recvfrom

variable {R : World → World → Prop}

/-- Nothing happened but what the trace tells. -/
def World.Logged (w w' : World) : Prop := w' = { w with trace := w'.trace }

theorem followIpHdr_keeps (hlog : ∀ w e, e.IsQuiet → R w { w with trace := w.trace ++ [e] })
    (skb : SkBuff) : Keeps R (followIpHdr skb) := by
  intro w
  unfold followIpHdr
  rw [final_bind_of_ok (show log (.readIpHdr skb) w = .ok ⟨⟩ _ from rfl)]
  cases skb.ipHdr with
  | none => exact hlog w (.readIpHdr skb) trivial
  | some p => exact hlog w (.readIpHdr skb) trivial

theorem recvSrcIp_keeps (hrefl : ∀ w, R w w) (htrans : ∀ s t u, R s t → R t u → R s u)
    (hlog : ∀ w e, e.IsQuiet → R w { w with trace := w.trace ++ [e] }) (skb : SkBuff)
    (wanted : Bool) : Keeps R (recvSrcIp skb wanted) := by
  refine keeps_ite ?_ (keeps_pure hrefl _)
  refine keeps_bind htrans (followIpHdr_keeps hlog skb) fun iph => ?_
  exact keeps_of_eq hrefl (bind_reads (readU32_reads _ _) fun _ => pure_reads _)

theorem recvSrcIp_logged (skb : SkBuff) (wanted : Bool) :
    Keeps World.Logged (recvSrcIp skb wanted) := by
  have htrans : ∀ s t u : World, s.Logged t → t.Logged u → s.Logged u := by
    intro s t u h h'
    rw [World.Logged, show u = _ from h', show t = _ from h]
  exact recvSrcIp_keeps (R := World.Logged) (fun _ => rfl) htrans (fun _ _ _ => rfl) skb wanted

theorem recvSrcPort_reads (skb : SkBuff) (wanted : Bool) : Keeps Eq (recvSrcPort skb wanted) := by
  refine keeps_ite ?_ (pure_reads _)
  cases skb.udpHdr with
  | none => exact throw_reads _
  | some hdr => exact bind_reads (readU16_reads _ _) fun _ => pure_reads _

/-- **What `udp_recvfrom` keeps.** -/
theorem udpRecvfrom_keeps (hrefl : ∀ w, R w w) (htrans : ∀ s t u, R s t → R t u → R s u)
    (hlog : ∀ w e, e.IsQuiet → R w { w with trace := w.trace ++ [e] })
    (hqueue : ∀ w k sock q, w.udpSock k = some sock → R w { w with
      udpSock := Function.update w.udpSock k (some { sock with rxSkb := q }) })
    (sockfd : Int) (size : Nat) (wantIp wantPort : Bool) :
    Keeps R (udpRecvfrom sockfd size wantIp wantPort) := by
  intro w
  unfold udpRecvfrom
  rw [final_bind_of_ok (run_get w)]
  cases goodUdpSock w sockfd with
  | none => exact hrefl w
  | some k =>
      refine final_bind_rel htrans (keeps_of_eq hrefl (derefUdpSock_reads k) w) fun sock w1 h1 => ?_
      obtain ⟨hk, rfl⟩ := derefUdpSock_ok.mp h1
      split
      · exact hrefl w1
      · cases sock.rxSkb.getLast? with
        | none => exact hrefl w1
        | some skb =>
            refine final_bind_rel htrans (keeps_of_eq hrefl (skbPull_reads skb _) w1)
              fun s w2 h2 => ?_
            obtain rfl : w1 = w2 := (skbPull_reads skb _).ok h2
            refine final_bind_rel htrans (recvSrcIp_keeps hrefl htrans hlog s wantIp w1)
              fun ip t ht => ?_
            -- the socket is still there when the queue is written back
            have hkt : t.udpSock k = some sock := by
              rw [show t = _ from (recvSrcIp_logged s wantIp).ok ht]
              exact hk
            refine final_bind_rel htrans (keeps_of_eq hrefl (recvSrcPort_reads _ wantPort) t)
              fun port t' ht' => ?_
            obtain rfl : t = t' := (recvSrcPort_reads _ wantPort).ok ht'
            refine final_bind_rel htrans ?_ fun _ u _ => hrefl u
            unfold finishUdpRecv
            split
            · exact final_bind_rel htrans (hqueue t k sock _ hkt) fun _ u _ =>
                hlog u (.free _) trivial
            · exact hqueue t k sock _ hkt

end Recvfrom

theorem udpRecvfrom_quiet (hown : own .udp) (sockfd : Int) (size : Nat) (wantIp wantPort : Bool) :
    Keeps (Quiet own) (udpRecvfrom sockfd size wantIp wantPort) :=
  udpRecvfrom_keeps Quiet.refl (fun _ _ _ h h' => h.trans h') (fun w _ he => log_quiet he w)
    (fun w k sock q _ => confined_quiet (setUdpSock_confined hown k { sock with rxSkb := q }) w)
    sockfd size wantIp wantPort

theorem tcpSocket_confined (hown : own .tcp) (n : NodeId) : Keeps (Confined own) (tcpSocket n) := by
  refine bind_confined (reads_confined get_reads) fun w => ?_
  cases firstFree maxTcpSocks w.tcpFdToSock with
  | none => exact pure_confined _
  | some i =>
      refine bind_confined allocId_confined fun k => bind_confined (setTcpSock_confined hown k _) fun _ => ?_
      refine bind_confined ?_ fun _ => pure_confined _
      exact modify_confined hown fun _ => rfl

theorem tcpClose_confined (hown : own .tcp) (sockfd : Int) : Keeps (Confined own) (tcpClose sockfd) := by
  refine bind_confined (reads_confined get_reads) fun w => ?_
  cases goodTcpSock w sockfd with
  | none => exact pure_confined _
  | some k =>
      refine bind_confined (reads_confined (derefTcpSock_reads k)) fun sock => ?_
      refine bind_confined (modify_confined hown fun _ => rfl) fun _ => ?_
      refine bind_confined ?_ fun _ => bind_confined ?_ fun _ => pure_confined _
      · unfold unlinkTcpSock
        split
        · exact modify_confined hown fun _ => rfl
        · exact pure_confined _
      · exact modify_confined hown fun _ => rfl

theorem tcpBind_confined (hown : own .tcp) (sockfd : Int) (ip : UInt32) (port : UInt16) :
    Keeps (Confined own) (tcpBind sockfd ip port) := by
  refine bind_confined (reads_confined get_reads) fun w => ?_
  cases goodTcpSock w sockfd with
  | none => exact pure_confined _
  | some k =>
      refine bind_confined (reads_confined (derefTcpSock_reads k)) fun sock =>
        keeps_ite (pure_confined _) ?_
      refine bind_confined (reads_confined get_reads) fun w1 => ?_
      cases getMatchingInterface w1 sock.node ip with
      | none => exact pure_confined _
      | some i =>
          refine bind_confined (setTcpSock_confined hown k _) fun _ => bind_confined ?_ fun _ => pure_confined _
          exact modify_confined hown fun _ => rfl

theorem tcpListen_confined (hown : own .tcp) (sockfd : Int) : Keeps (Confined own) (tcpListen sockfd) := by
  refine bind_confined (reads_confined get_reads) fun w => ?_
  cases goodTcpSock w sockfd with
  | none => exact pure_confined _
  | some k =>
      refine bind_confined (reads_confined (derefTcpSock_reads k)) fun sock =>
        keeps_ite (pure_confined _) ?_
      exact bind_confined (setTcpSock_confined hown k _) fun _ => pure_confined _

theorem tcpAccept_confined (hown : own .accept) (sockfd : Int) :
    Keeps (Confined own) (tcpAccept sockfd) := by
  refine bind_confined (reads_confined get_reads) fun w => ?_
  cases goodTcpSock w sockfd with
  | none => exact pure_confined _
  | some k =>
      refine bind_confined (reads_confined (derefTcpSock_reads k)) fun sock =>
        keeps_ite (pure_confined _) ?_
      refine bind_confined (reads_confined get_reads) fun w1 => ?_
      cases sock.conns.find? (isEstab w1) with
      | none => exact pure_confined _
      | some c =>
          refine bind_confined (reads_confined get_reads) fun w2 => ?_
          cases firstFree maxTcpConnSocks w2.fdConnToSock with
          | none => exact pure_confined _
          | some i =>
              refine bind_confined (modify_confined hown fun _ => rfl)
                fun _ => ?_
              exact bind_confined (reads_confined (derefTcpConn_reads c)) fun _ => pure_confined _

/-- Writing a connection back with another queue. -/
theorem setTcpConn_rxSkb_quiet {w : World} {c : ConnId} {conn : TcpConnectionSock}
    (hc : w.tcpConn c = some conn) (q : List SkBuff) :
    Quiet own w (final (setTcpConn c { conn with rxSkb := q }) w) := by
  exact ⟨rfl, Nat.le_refl _, ⟨[], (List.append_nil _).symm, by simp⟩,
    map_update_of_eq (f := TcpConnectionSock.control) hc rfl,
    fun p => Or.inr (by cases p <;> first | rfl | exact ⟨rfl, rfl, rfl⟩)⟩

theorem tcpRecv_quiet (connfd : Int) (size : Nat) : Keeps (Quiet own) (tcpRecv connfd size) := by
  refine bind_quiet (reads_quiet get_reads) fun w0 => ?_
  cases goodTcpConnectionSock w0 connfd with
  | none => exact pure_quiet _
  | some c =>
      intro w
      refine final_bind_rel (fun _ _ _ h h' => h.trans h')
        (reads_quiet (derefTcpConn_reads c) w) fun conn w1 h1 => ?_
      obtain ⟨hc, rfl⟩ := derefTcpConn_ok.mp h1
      split
      · exact pure_quiet _ _
      · cases conn.rxSkb.getLast? with
        | none => exact pure_quiet _ _
        | some skb =>
            refine final_bind_rel (fun _ _ _ h h' => h.trans h')
              (reads_quiet (skbPull_reads _ _) w1) fun s w2 h2 => ?_
            obtain ⟨-, -, rfl, rfl⟩ := skbPull_ok.mp h2
            refine final_bind_rel (fun _ _ _ h h' => h.trans h') ?_ fun _ w3 _ =>
              pure_quiet _ _
            unfold finishTcpRecv
            split
            · exact final_bind_rel (fun _ _ _ h h' => h.trans h')
                (setTcpConn_rxSkb_quiet hc _) fun _ _ _ => log_quiet (e := .free _) trivial _
            · exact setTcpConn_rxSkb_quiet hc _

theorem nodeSetIntfIpAddr_confined (hown : own .config) (n : NodeId) (ifName ipAddr : List UInt8) (mask : Int8) :
    Keeps (Confined own) (nodeSetIntfIpAddr n ifName ipAddr mask) := by
  refine bind_confined (reads_confined get_reads) fun w => ?_
  cases getNodeIfByName w n ifName with
  | none => exact pure_confined _
  | some i =>
      refine keeps_ite (pure_confined _) ?_
      refine bind_confined (reads_confined (derefIntf_reads i)) fun intf => ?_
      refine bind_confined (modify_confined hown fun _ => rfl) fun _ => ?_
      refine bind_confined ?_ fun _ => pure_confined _
      exact modify_confined hown fun _ => rfl

end Calls

/-! ### Any call -/

/-- The state in which a call starts to work: a frame has its buffer by then. -/
def Op.begun (w : World) : Op → World
  | .recvFrame i frame => w.received i frame
  | _ => w

/-- What a call may use. -/
def Op.scope (w : World) : Op → Scope
  | .recvFrame i frame => frameScope w i frame
  | .tcpSend connfd _ =>
      { base := w.nextId, rx := fun _ => False, accepts := fun _ _ => False,
        finds := fun _ => False, sender := fun c => goodTcpConnectionSock w connfd = some c }
  | _ => { base := w.nextId, rx := fun _ => False, accepts := fun _ _ => False,
           finds := fun _ => False, sender := fun _ => False }

/-- Which part a quiet call owns. -/
def Op.owns : Op → Part → Prop
  | .udpSocket _ | .udpBind _ _ _ | .udpRecvfrom _ _ _ _ | .udpClose _ => Eq .udp
  | .tcpSocket _ | .tcpBind _ _ _ | .tcpListen _ | .tcpClose _ => Eq .tcp
  | .tcpAccept _ => Eq .accept
  | .nodeSetIntfIpAddr _ _ _ _ | .rtTableAddRoute _ _ _ _ _ | .setIpForward _ => Eq .config
  | _ => fun _ => False

/-- Does a call open connection descriptors? -/
def Op.accepts : Op → Prop
  | .tcpAccept _ => True
  | _ => False

theorem Op.accepts_of_owns {op : Op} (h : op.owns .accept) : op.accepts := by
  cases op with
  | tcpAccept _ => trivial
  | _ => cases h

@[simp] theorem Op.base_scope (w : World) (op : Op) :
    (op.scope w).base = (op.begun w).nextId := by
  cases op <;> rfl

/-- Does a call receive a frame or send a packet? -/
def Op.Networks : Op → Prop
  | .recvFrame _ _ | .udpSendto _ _ _ _ | .tcpSend _ _ | .icmpOut _ _ _ _ _ | .ping _ _
  | .sendArpBroadcastRequest _ _ => True
  | _ => False

/-- Does a call read what is queued? -/
def Op.Reads : Op → Prop
  | .udpRecvfrom _ _ _ _ | .tcpRecv _ _ => True
  | _ => False

/-- Every other call only writes what it owns, also when it stops with a fault. -/
theorem Op.confined_after {op : Op} (hnet : ¬ op.Networks) (hreads : ¬ op.Reads) (w : World) :
    op.begun w = w ∧ Confined op.owns w (op.after w) := by
  have hcall : ∀ {α : Type} {m : M α} {f : α → Ret}, Keeps (Confined op.owns) m →
      Confined op.owns w (final (m >>= fun a => pure (f a)) w) :=
    fun h => bind_confined h (fun _ => pure_confined _) w
  cases op with
  | udpSocket n => exact ⟨rfl, hcall (udpSocket_confined rfl n)⟩
  | udpBind fd ip port => exact ⟨rfl, hcall (udpBind_confined rfl fd ip port)⟩
  | udpClose fd => exact ⟨rfl, hcall (udpClose_confined rfl fd)⟩
  | tcpSocket n => exact ⟨rfl, hcall (tcpSocket_confined rfl n)⟩
  | tcpBind fd ip port => exact ⟨rfl, hcall (tcpBind_confined rfl fd ip port)⟩
  | tcpListen fd => exact ⟨rfl, hcall (tcpListen_confined rfl fd)⟩
  | tcpAccept fd => exact ⟨rfl, hcall (tcpAccept_confined rfl fd)⟩
  | tcpClose fd => exact ⟨rfl, hcall (tcpClose_confined rfl fd)⟩
  | nodeSetIntfIpAddr n ifName ipAddr mask =>
      exact ⟨rfl, hcall (nodeSetIntfIpAddr_confined rfl n ifName ipAddr mask)⟩
  | rtTableAddRoute n dst mask next i =>
      exact ⟨rfl, hcall (modify_confined (p := .config) rfl fun _ => rfl)⟩
  | setIpForward val => exact ⟨rfl, hcall (modify_confined (p := .config) rfl fun _ => rfl)⟩
  | udpRecvfrom => exact absurd trivial hreads
  | tcpRecv => exact absurd trivial hreads
  | _ => exact absurd trivial hnet

/-- A call that does not work on the network is quiet. -/
theorem Op.quiet_after {op : Op} (h : ¬ op.Networks) (w : World) :
    op.begun w = w ∧ Quiet op.owns w (op.after w) := by
  cases op with
  | udpRecvfrom fd size wantIp wantPort =>
      exact ⟨rfl, bind_quiet (udpRecvfrom_quiet rfl fd size wantIp wantPort)
        (fun _ => pure_quiet _) w⟩
  | tcpRecv fd size => exact ⟨rfl, bind_quiet (tcpRecv_quiet fd size) (fun _ => pure_quiet _) w⟩
  | _ => exact (Op.confined_after h id w).imp_right .of_confined

/-- A call that works on the network makes the changes of its scope. -/
theorem Op.changes_after {op : Op} (h : op.Networks) (w : World) :
    Changes (op.scope w) (op.begun w) (op.after w) := by
  cases op with
  | recvFrame i frame =>
      exact final_bind_changes_at (recvFrame_changes i frame w) fun _ _ _ => pure_changes _ _
  | udpSendto fd buff ip port =>
      exact bind_changes (udpSendto_changes fd buff port) (fun _ => pure_changes _) w
  | tcpSend fd buff =>
      exact final_bind_changes_at (tcpSend_changes buff fun _ h => h) fun _ _ _ =>
        pure_changes _ _
  | icmpOut n ip type code payload =>
      exact bind_changes (icmpOut_changes type code payload) (fun _ => pure_changes _) w
  | ping n ipAddr => exact bind_changes (ping_changes ipAddr) (fun _ => pure_changes _) w
  | sendArpBroadcastRequest i ip =>
      exact bind_changes (sendArpBroadcastRequest_changes i ip) (fun _ => pure_changes _) w
  | _ => exact absurd h id

/-- **Every call makes the changes of its scope or is quiet**, also when it stops with a
fault. -/
theorem runOp_cases (op : Op) (w : World) :
    Changes (op.scope w) (op.begun w) (op.after w) ∨
      op.begun w = w ∧ Quiet op.owns w (op.after w) := by
  by_cases h : op.Networks
  · exact Or.inl (Op.changes_after h w)
  · exact Or.inr (Op.quiet_after h w)

/-- **An invariant holds after a call** when every change of its scope keeps it, and the call
keeps it if it is quiet. -/
theorem invariant_after {I : World → Prop} {op : Op} {w : World} (hbegun : I (op.begun w))
    (hchange : ∀ t t', I t → Change (op.scope w) t t' → I t')
    (hquiet : Quiet op.owns w (op.after w) → I (op.after w)) : I (op.after w) := by
  rcases runOp_cases op w with hchanges | ⟨-, h⟩
  · exact hchanges.induct hchange (Nat.le_of_eq (Op.base_scope w op)) hbegun
  · exact hquiet h

/-- **An invariant holds in every state a run passes through** when it holds of the graph as it was
built and every call keeps it. -/
theorem Reachable.invariant {I : World → Prop} (hinit : ∀ w, Initial w → I w)
    (hafter : ∀ op w, I w → I (Op.after op w)) {w : World} (h : Reachable w) : I w := by
  induction h with
  | init h => exact hinit _ h
  | @step t t' op r _ _ hrun ih =>
      have hstep := hafter op t ih
      rwa [show op.after t = t' from final_of_ok hrun] at hstep

theorem nextId_le_after (op : Op) (w : World) : (op.begun w).nextId ≤ (op.after w).nextId := by
  rcases runOp_cases op w with hchanges | ⟨hbegun, hquiet⟩
  · exact Changes.nextId_le_of_steps (hchanges (Nat.le_of_eq (Op.base_scope w op)))
  · rw [hbegun]
    exact hquiet.nextId

theorem nextId_le_begun (op : Op) (w : World) : w.nextId ≤ (op.begun w).nextId := by
  cases op with
  | recvFrame i frame => exact Nat.le_succ _
  | _ => exact Nat.le_refl _

theorem arpTable_begun (op : Op) (w : World) : (op.begun w).arpTable = w.arpTable := by
  cases op <;> rfl

/-! ### Connections across calls -/

/-- **A connection comes from a SYN.** -/
theorem Change.created {sc : Scope} {w w' : World} {c : ConnId} {conn : TcpConnectionSock}
    (h : Change sc w w') (hnone : w.tcpConn c = none) (hc : w'.tcpConn c = some conn) :
    c = w.nextId ∧ w'.nextId = w.nextId + 1 ∧ ∃ skb k, sc.rx skb ∧
      skb.segment.tcpFlags.syn = true ∧ conn = skb.opens k := by
  -- the other changes write to a connection that exists
  have hlive : ∀ {c' : ConnId} {old new : TcpConnectionSock}, w.tcpConn c' = some old →
      Function.update w.tcpConn c' (some new) c ≠ some conn := by
    intro c' old new hc' hsome
    by_cases heq : c = c'
    · rw [← heq, hnone] at hc'
      cases hc'
    · rw [Function.update_of_ne heq, hnone] at hsome
      cases hsome
  have hsame : w'.tcpConn ≠ w.tcpConn := by
    intro heq
    rw [heq, hnone] at hc
    cases hc
  cases h with
  | sends h => exact absurd h.tcpConn hsame
  | forwards _ _ _ _ _ _ _ h => exact absurd h.tcpConn hsame
  | flushed _ _ h => exact absurd h.tcpConn hsame
  | @connected skb k _ hrx _ _ _ _ _ _ hsyn =>
      change Function.update w.tcpConn w.nextId _ c = some conn at hc
      by_cases heq : c = w.nextId
      · rw [heq, Function.update_self] at hc
        exact ⟨heq, rfl, skb, k, hrx, hsyn, (Option.some.inj hc).symm⟩
      · rw [Function.update_of_ne heq, hnone] at hc
        cases hc
  | established _ _ _ _ hc' => exact absurd hc (hlive hc')
  | delivered _ _ _ _ hc' => exact absurd hc (hlive hc')
  | finished _ _ _ _ hc' => exact absurd hc (hlive hc')
  | numbered hc' => exact absurd hc (hlive hc')
  | _ => exact absurd rfl hsame

theorem Change.conn_lt {sc : Scope} {w w' : World}
    (h : Change sc w w') (hw : ∀ c, (w.tcpConn c).isSome → c < w.nextId) :
    ∀ c, (w'.tcpConn c).isSome → c < w'.nextId := by
  intro c hc
  by_cases hold : (w.tcpConn c).isSome
  · exact Nat.lt_of_lt_of_le (hw c hold) h.nextId_le
  · obtain ⟨conn, hconn⟩ := Option.isSome_iff_exists.mp hc
    obtain ⟨hid, hnext, -⟩ := h.created (Option.not_isSome_iff_eq_none.mp hold) hconn
    rw [hid, hnext]
    exact Nat.lt_succ_self _

/-- A connection's identity was allocated before. -/
theorem Reachable.conn_lt {w : World} (h : Reachable w) :
    ∀ c, (w.tcpConn c).isSome → c < w.nextId := by
  refine h.invariant (I := fun t => ∀ c, (t.tcpConn c).isSome → c < t.nextId) ?_ ?_
  · intro t hinit c hc
    rw [hinit.tcpConn] at hc
    cases hc
  · intro op t ih
    refine invariant_after (fun c hc => ?_) (fun _ _ hu hc => hc.conn_lt hu) fun hquiet c hc => ?_
    · rw [show (op.begun t).tcpConn = t.tcpConn by cases op <;> rfl] at hc
      exact Nat.lt_of_lt_of_le (ih c hc) (nextId_le_begun op t)
    · refine Nat.lt_of_lt_of_le (ih c ?_) hquiet.nextId
      have hsame := congrArg Option.isSome (hquiet.tcpConn c)
      rw [Option.isSome_map, Option.isSome_map] at hsame
      rw [← hsame]
      exact hc

/-- Only a sender numbers data of a connection that exists. -/
theorem Change.snt {sc : Scope} {w w' : World} {c : ConnId} (h : Change sc w w')
    (hc : c < sc.base) (hsender : ¬ sc.sender c) :
    (w'.tcpConn c).map TcpConnectionSock.snt = (w.tcpConn c).map TcpConnectionSock.snt := by
  cases h with
  | sends h => rw [h.tcpConn]
  | forwards _ _ _ _ _ _ _ h => rw [h.tcpConn]
  | flushed _ _ h => rw [h.tcpConn]; rfl
  | connected _ _ hbase =>
      show (Function.update w.tcpConn w.nextId _ c).map _ = _
      rw [Function.update_of_ne (Nat.ne_of_lt (Nat.lt_of_lt_of_le hc hbase))]
  | established _ _ _ _ hc' => exact map_update_of_eq (f := TcpConnectionSock.snt) hc' (by rfl) c
  | delivered _ _ _ _ hc' => exact map_update_of_eq (f := TcpConnectionSock.snt) hc' (by rfl) c
  | finished _ _ _ _ hc' => exact map_update_of_eq (f := TcpConnectionSock.snt) hc' (by rfl) c
  | @numbered c' conn span hc' hspan =>
      by_cases hcc : c = c'
      · subst hcc
        -- neither the sender's nor new: nothing was counted
        have hzero : span = 0 := by
          rcases hspan with h | h | h
          · exact absurd h hsender
          · exact absurd h (Nat.not_le.mpr hc)
          · exact h
        refine map_update_of_eq (f := TcpConnectionSock.snt) hc' ?_ c
        rw [hzero, UInt32.add_zero]
      · show (Function.update w.tcpConn c' _ c).map _ = _
        rw [Function.update_of_ne hcc]
  | _ => rfl

/-- **A call other than a send on it leaves what a connection has sent as it was.** -/
theorem snt_after {w : World} (op : Op) {c : ConnId} (hc : c < w.nextId)
    (hsender : ¬ (op.scope w).sender c) :
    ((op.after w).tcpConn c).map TcpConnectionSock.snt
      = (w.tcpConn c).map TcpConnectionSock.snt := by
  refine invariant_after (I := fun u => (u.tcpConn c).map TcpConnectionSock.snt
    = (w.tcpConn c).map TcpConnectionSock.snt) ?_ ?_ ?_
  · cases op <;> rfl
  · intro u u' hu hchange
    rw [hchange.snt ?_ hsender, hu]
    rw [Op.base_scope]
    exact Nat.lt_of_lt_of_le hc (nextId_le_begun op w)
  · intro hquiet
    have hcontrol := congrArg (Option.map TcpConnectionSock.snt) (hquiet.tcpConn c)
    rw [Option.map_map, Option.map_map] at hcontrol
    exact hcontrol

/-! ### Runs -/

/-- A call that completed, with the states around it. -/
structure Call where
  before : World
  op : Op
  ret : Ret
  after : World

/-- The calls of a run, in order. -/
inductive Run (w₀ : World) : List Call → World → Prop
  | nil : Run w₀ [] w₀
  | snoc {calls : List Call} {w w' : World} {op : Op} {r : Ret} (h : Run w₀ calls w)
      (hv : op.Valid w) (hrun : runOp op w = .ok r w') : Run w₀ (calls ++ [⟨w, op, r, w'⟩]) w'

theorem Run.reachable {w₀ w : World} {calls : List Call} (h : Run w₀ calls w)
    (hw : Reachable w₀) : Reachable w := by
  induction h with
  | nil => exact hw
  | snoc _ hv hrun ih => exact .step ih hv hrun

/-- A sequence of calls that completes is a run. -/
theorem Run.of_runOps {w₀ w : World} {ops : List Op} (h : runOps w₀ ops = some w) :
    ∃ calls, Run w₀ calls w ∧ calls.map Call.op = ops := by
  induction ops using List.reverseRecOn generalizing w with
  | nil =>
      cases h
      exact ⟨[], .nil, rfl⟩
  | append_singleton ops op ih =>
      rw [runOps, List.foldlM_append] at h
      obtain ⟨t, ht, hop⟩ := Option.bind_eq_some_iff.mp h
      obtain ⟨calls, hrun, rfl⟩ := ih ht
      rw [List.foldlM_cons] at hop
      obtain ⟨t', hstep, hlast⟩ := Option.bind_eq_some_iff.mp hop
      obtain rfl : t' = w := Option.some.inj hlast
      obtain ⟨hv, r, hr⟩ := Op.step?_eq_some.mp hstep
      exact ⟨_, hrun.snoc hv hr, by rw [List.map_append]; rfl⟩

/-- A sequence of calls stays in a run whose calls meet a condition, when an invariant gives
the condition and the calls keep it. -/
theorem ReachableBy.runOps {P : World → Op → Prop} {I : World → Prop} {w w' : World}
    {ops : List Op} (h : ReachableBy P w) (hI : I w) (hP : ∀ op ∈ ops, ∀ t, I t → P t op)
    (hkeep : ∀ op ∈ ops, ∀ t, I t → I (op.after t))
    (hs : SimpleTcpip.runOps w ops = some w') : ReachableBy P w' := by
  induction ops generalizing w with
  | nil => cases hs; exact h
  | cons op ops ih =>
      rw [SimpleTcpip.runOps, List.foldlM_cons] at hs
      obtain ⟨t, ht, hrest⟩ := Option.bind_eq_some_iff.mp hs
      obtain ⟨hv, r, hr⟩ := Op.step?_eq_some.mp ht
      have hafter : op.after w = t := final_of_ok hr
      refine ih (h.step hv (hP op List.mem_cons_self w hI) hr) ?_
        (fun op' hmem => hP op' (List.mem_cons_of_mem _ hmem))
        (fun op' hmem => hkeep op' (List.mem_cons_of_mem _ hmem)) hrest
      rw [← hafter]
      exact hkeep op List.mem_cons_self w hI

theorem runOps_append {w w' : World} {ops ops' : List Op} (h : runOps w (ops ++ ops') = some w') :
    ∃ t, runOps w ops = some t ∧ runOps t ops' = some w' := by
  rw [runOps, List.foldlM_append] at h
  exact Option.bind_eq_some_iff.mp h

/-- What is known of a call in a run: it was made in a state the run passes through, by a
valid caller, and it completed. -/
theorem Run.call {w₀ w : World} {calls : List Call} (h : Run w₀ calls w) (hw : Reachable w₀)
    {call : Call} (hmem : call ∈ calls) : Reachable call.before ∧ call.op.Valid call.before ∧
      runOp call.op call.before = .ok call.ret call.after := by
  induction h with
  | nil => cases hmem
  | snoc h hv hrun ih =>
      rcases List.mem_append.mp hmem with hmem | hmem
      · exact ih hmem
      · obtain rfl := List.mem_singleton.mp hmem
        exact ⟨h.reachable hw, hv, hrun⟩

/-- The buffer of the frame a call handles. -/
def Call.rx (call : Call) : Option SkBuff :=
  match call.op with
  | .recvFrame i frame => some (recvBuffer call.before.nextId i frame)
  | _ => none

/-- What a call returns, if it completes. -/
def Op.returns (w : World) (op : Op) : Option Ret :=
  match runOp op w with
  | .ok r _ => some r
  | .error _ _ => none

theorem Op.returns_run {w : World} {op : Op} {r : Ret} (h : op.returns w = some r) :
    runOp op w = .ok r (op.after w) := by
  refine run_of_result ?_
  rw [← h, Op.returns, result]
  cases runOp op w <;> rfl

end SimpleTcpip
