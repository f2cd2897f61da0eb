/-
What a call costs.

A call that sends pays for what it sends, `recv_task` is paid for by the frame it got, and
`udp_recvfrom` takes out what a datagram was worth when it reads it to its end.  Every other
call brings nothing in, and at most lets something be lost.
-/
import SimpleTcpip.Proofs.Datagrams
import SimpleTcpip.Proofs.Sockets
import SimpleTcpip.Proofs.Traffic

namespace SimpleTcpip

open Fallible Ledger

/-- The packet `udp_sendto` hands to `ip_postroute`. -/
def sentDatagram (w : World) (sockfd : Int) (buff : List UInt8) (ip : UInt32) (port : UInt16) :
    Option SkBuff :=
  ((goodUdpSock w sockfd).bind w.udpSock).map fun sock =>
    (udpDatagram 0 sock (buff.take maxUdpPayload) port).withIpHdr ip ipProtoUdp

/-- The buffer a call of `udp_recvfrom` reads to its end. -/
def drained (w : World) (sockfd : Int) (size : Nat) : Option SkBuff :=
  (((goodUdpSock w sockfd).bind w.udpSock).bind fun sock => sock.rxSkb.getLast?).filter
    fun skb => skb.len ≤ size

namespace Tariff

variable {A : Type} [AddCommMonoid A]

/-- A packet that is sent, with the request for its next hop. -/
def posted (t : Tariff A) (skb : SkBuff) : A := t.packet skb.onWire + t.ask

/-- What a call may put on the links and into the queues. -/
def income (t : Tariff A) (w : World) : Op → Ret → A
  | .recvFrame _ frame, _ => t.frame frame
  | .udpSendto sockfd buff ip port, .int r =>
      if 0 ≤ r then (sentDatagram w sockfd buff ip port).elim 0 t.posted else 0
  | .tcpSend _ _, _ => t.own
  | .icmpOut _ ip type code payload, _ =>
      t.posted ((icmpMessage 0 type code payload).withIpHdr ip ipProtoIcmp)
  | .ping _ ipAddr, _ =>
      t.posted ((icmpMessage 0 icmpEchoRequestType icmpEchoRequestCode []).withIpHdr
        (convertIpFromStrToInt ipAddr) ipProtoIcmp)
  | .sendArpBroadcastRequest _ _, _ => t.ask
  | _, _ => 0

/-- What it takes out. -/
def outgo (t : Tariff A) (w : World) : Op → Ret → A
  | .recvFrame _ _, _ => t.tick
  | .udpRecvfrom sockfd size _ _, .datagram (some _) =>
      (drained w sockfd size).elim 0 fun skb => t.queued skb.rewound.onWire
  | _, _ => 0

end Tariff

/-! ### Sockets come and go -/

section Sockets

variable {A : Type} [AddCommMonoid A] [PartialOrder A] [IsOrderedAddMonoid A] {t : Tariff A}
  {w w' : World}

/-- The queue of one socket changes. -/
theorem setUdpSock_books {k : SockId} {sock sock' : UdpSock} {a b : A} {u : Unit}
    (hk : w.udpSock k = some sock)
    (hle : (sock'.rxSkb.map fun s => t.queued s.rewound.onWire).sum + b
      ≤ (sock.rxSkb.map fun s => t.queued s.rewound.onWire).sum + a)
    (h : setUdpSock k sock' w = .ok u w') : Books t.stock a b w w' := by
  obtain rfl := setUdpSock_ok.mp h
  refine .of_place (.udp k) (fun place hplace => ?_) ?_
  · cases place with
    | udp j =>
        have hj : j ≠ k := fun heq => hplace (congrArg Place.udp heq)
        refine le_of_eq ?_
        simp only [Tariff.stock, Function.update_of_ne hj]
    | _ => exact le_rfl
  · simp only [Tariff.stock, Function.update_self, hk, Option.elim_some]
    exact hle

/-- A datagram read to its end leaves the queue, and any other stays what it was worth. -/
theorem finishUdpRecv_books {k : SockId} {sock : UdpSock} {skb : SkBuff} {size : Nat} {u : Unit}
    (hk : w.udpSock k = some sock) (hlast : sock.rxSkb.getLast? = some skb)
    (h : finishUdpRecv k sock (skb.pulled (min skb.len size)) w = .ok u w') :
    Books t.stock 0 (if skb.len ≤ size then t.queued skb.rewound.onWire else 0) w w' := by
  obtain ⟨older, hrx⟩ := List.getLast?_eq_some_iff.mp hlast
  unfold finishUdpRecv at h
  rw [pulled_min_len] at h
  split at h
  · rename_i hempty
    obtain ⟨_, w1, h1, hfree⟩ := bind_ok_iff.mp h
    obtain rfl := freeSkb_ok.mp hfree
    rw [if_pos (Nat.le_of_sub_eq_zero hempty)]
    refine books_before (setUdpSock_books hk (le_of_eq ?_) h1) (books_freed _)
    simp only [hrx, List.dropLast_concat, List.map_append, List.sum_append, List.map_singleton,
      List.sum_singleton, add_zero]
  · rename_i hmore
    rw [if_neg fun hle => hmore (Nat.sub_eq_zero_of_le hle)]
    refine setUdpSock_books hk (le_of_eq ?_) h
    simp only [hrx, List.dropLast_concat, List.map_append, List.sum_append, List.map_singleton,
      List.sum_singleton, add_zero]
    rfl

/-- **`udp_recvfrom`** takes a datagram out of its queue once it is read to its end. -/
theorem udpRecvfrom_books {sockfd : Int} {size : Nat} {wantIp wantPort : Bool} {r : Option Datagram}
    (hrun : udpRecvfrom sockfd size wantIp wantPort w = .ok r w') :
    Books t.stock 0 (t.outgo w (.udpRecvfrom sockfd size wantIp wantPort) (.datagram r)) w w' := by
  obtain ⟨s, hs, hrun⟩ := bind_ok_of_eq get_reads hrun
  cases hs
  cases hgood : goodUdpSock w sockfd with
  | none =>
      rw [hgood] at hrun
      cases hrun
      exact .refl t.stock w
  | some k =>
      rw [hgood] at hrun
      obtain ⟨sock, hsock, hrun⟩ := bind_ok_of_eq (derefUdpSock_reads k) hrun
      obtain ⟨hsock, -⟩ := derefUdpSock_ok.mp hsock
      split at hrun
      · cases hrun
        exact .refl t.stock w
      cases hlast : sock.rxSkb.getLast? with
      | none =>
          rw [hlast] at hrun
          cases hrun
          exact .refl t.stock w
      | some skb =>
          rw [hlast] at hrun
          obtain ⟨s, hs, hrun⟩ := bind_ok_of_eq (skbPull_reads _ _) hrun
          obtain ⟨-, -, rfl, -⟩ := skbPull_ok.mp hs
          obtain ⟨ip, w1, h1, hrun⟩ := bind_ok_iff.mp hrun
          obtain ⟨port, -, hrun⟩ := bind_ok_of_eq (recvSrcPort_reads _ wantPort) hrun
          obtain ⟨_, w2, h2, hdone⟩ := bind_ok_iff.mp hrun
          cases hdone
          -- at most the use of the header is recorded
          have hlog : Books t.stock 0 0 w w1 ∧ w1.udpSock = w.udpSock := by
            unfold recvSrcIp at h1
            split at h1
            · obtain ⟨p, w3, h3, h1⟩ := bind_ok_iff.mp h1
              obtain ⟨src, -, hdone⟩ := bind_ok_of_eq (readU32_reads _ _) h1
              cases hdone
              refine ⟨followIpHdr_books h3, ?_⟩
              rw [(followIpHdr_ok.mp h3).2]
            · cases h1
              exact ⟨.refl t.stock w, rfl⟩
          have hk : w1.udpSock k = some sock := by rw [hlog.2, hsock]
          have hout : t.outgo w (.udpRecvfrom sockfd size wantIp wantPort) (.datagram (some
              { bytes := skb.mem.read skb.data (min skb.len size), ip, port }))
                = if skb.len ≤ size then t.queued skb.rewound.onWire else 0 := by
            simp only [Tariff.outgo, drained, hgood, Option.bind_some, hsock, hlast,
              Option.filter_some, decide_eq_true_eq]
            split
            · rfl
            · rfl
          rw [hout]
          exact books_after hlog.1 (finishUdpRecv_books hk hlast h2)

/-- One UDP socket is opened, bound or closed. -/
theorem books_of_udp {k : SockId} {sock : Option UdpSock} (harp : w'.arpTable = w.arpTable)
    (htcp : w'.tcpSock = w.tcpSock) (htrace : w'.trace = w.trace)
    (hudp : w'.udpSock = Function.update w.udpSock k sock)
    (hle : (sock.elim 0 fun s => (s.rxSkb.map fun s => t.queued s.rewound.onWire).sum)
      ≤ t.stock w (.udp k)) : Books t.stock 0 0 w w' := by
  refine .of_place (.udp k) (fun place hplace => ?_) ?_
  · cases place with
    | link => simp only [Tariff.stock, htrace, le_refl]
    | arp n => simp only [Tariff.stock, harp, le_refl]
    | tcp j => simp only [Tariff.stock, htcp, le_refl]
    | udp j =>
        have hj : j ≠ k := fun heq => hplace (congrArg Place.udp heq)
        simp only [Tariff.stock, hudp, Function.update_of_ne hj, le_refl]
  · rw [add_zero, add_zero]
    refine le_of_eq_of_le ?_ hle
    simp only [Tariff.stock, hudp, Function.update_self]

/-- One TCP socket is opened, bound or closed, or listens. -/
theorem books_of_tcp {k : SockId} {sock : Option TcpSock} (harp : w'.arpTable = w.arpTable)
    (hudp : w'.udpSock = w.udpSock) (htrace : w'.trace = w.trace)
    (htcp : w'.tcpSock = Function.update w.tcpSock k sock)
    (hle : (sock.elim 0 fun s => s.conns.length • t.conn) ≤ t.stock w (.tcp k)) :
    Books t.stock 0 0 w w' := by
  refine .of_place (.tcp k) (fun place hplace => ?_) ?_
  · cases place with
    | link => simp only [Tariff.stock, htrace, le_refl]
    | arp n => simp only [Tariff.stock, harp, le_refl]
    | udp j => simp only [Tariff.stock, hudp, le_refl]
    | tcp j =>
        have hj : j ≠ k := fun heq => hplace (congrArg Place.tcp heq)
        simp only [Tariff.stock, htcp, Function.update_of_ne hj, le_refl]
  · rw [add_zero, add_zero]
    refine le_of_eq_of_le ?_ hle
    simp only [Tariff.stock, htcp, Function.update_self]

/-- A call that opens, binds or closes nothing, sends nothing and reads nothing. -/
theorem Confined.books {own : Part → Prop} (h : Confined own w w') (hudp : ¬ own .udp)
    (htcp : ¬ own .tcp) : Books t.stock 0 0 w w' := by
  have hsame : w'.arpTable = w.arpTable ∧ w'.trace = w.trace := by
    rw [h.frame]
    exact ⟨rfl, rfl⟩
  exact books_zero hsame.1 ((h.parts .udp).resolve_left hudp).1
    ((h.parts .tcp).resolve_left htcp).1 (hsame.2.trans (List.append_nil _).symm) rfl

theorem udpBind_books {sockfd : Int} {ip : UInt32} {port : UInt16} {r : Int}
    (hrun : udpBind sockfd ip port w = .ok r w') : Books t.stock 0 0 w w' := by
  rcases udpBind_cases sockfd ip port w with ⟨k, sock, i, -, hk, -, -, hok⟩ | hok | ⟨-, herr⟩
  · cases hok.symm.trans hrun
    refine books_of_udp rfl rfl rfl rfl (le_of_eq ?_)
    simp only [Tariff.stock, hk, Option.elim_some]
  · cases hok.symm.trans hrun
    exact .refl t.stock w
  · cases herr.symm.trans hrun

theorem tcpRecv_books {fd : Int} {size : Nat} {r : Option (List UInt8)}
    (hrun : tcpRecv fd size w = .ok r w') : Books t.stock 0 0 w w' := by
  cases tcpRecv_ok hrun with
  | nothing _ hw =>
      subst hw
      exact .refl t.stock w'
  | read _ _ _ _ _ hfinish =>
      rcases finishTcpRecv_ok hfinish with ⟨-, rfl⟩ | rfl
      · exact books_zero rfl rfl rfl rfl rfl
      · exact books_zero rfl rfl rfl (List.append_nil _).symm rfl

variable [CanonicallyOrderedAdd A]

theorem udpSocket_books {n : NodeId} {r : Int} (hrun : udpSocket n w = .ok r w') :
    Books t.stock 0 0 w w' := by
  rcases udpSocket_cases n w with ⟨fd, -, hok⟩ | hok
  · cases hok.symm.trans hrun
    exact books_of_udp rfl rfl rfl rfl zero_le
  · cases hok.symm.trans hrun
    exact .refl t.stock w

theorem udpClose_books {sockfd : Int} {r : Int} (hrun : udpClose sockfd w = .ok r w') :
    Books t.stock 0 0 w w' := by
  rcases udpClose_cases sockfd w with ⟨k, sock, -, -, hok⟩ | hok | ⟨-, herr⟩
  · cases hok.symm.trans hrun
    exact books_of_udp rfl rfl rfl rfl zero_le
  · cases hok.symm.trans hrun
    exact .refl t.stock w
  · cases herr.symm.trans hrun

theorem SocketStep.books {closes : Int → Prop} (h : SocketStep closes w w') :
    Books t.stock 0 0 w w' := by
  cases h with
  | unchanged => exact .refl t.stock w
  | opened _ =>
      refine books_of_tcp rfl rfl rfl rfl (le_of_eq_of_le ?_ zero_le)
      exact zero_nsmul _
  | bound hk _ _ =>
      refine books_of_tcp rfl rfl rfl rfl (le_of_eq ?_)
      simp only [Tariff.stock, hk, Option.elim_some]
  | listening hk =>
      refine books_of_tcp rfl rfl rfl rfl (le_of_eq ?_)
      simp only [Tariff.stock, hk, Option.elim_some]
  | closed _ _ _ => exact books_of_tcp rfl rfl rfl rfl zero_le

end Sockets

/-! ### Every call -/

section Calls

variable {A : Type} [AddCommMonoid A] [PartialOrder A] [IsOrderedCancelAddMonoid A]
  [CanonicallyOrderedAdd A] {t : Tariff A} {w w' : World}

theorem udpSendto_books (ht : t.Fair) {depth : Nat} {sockfd : Int} {buff : List UInt8} {ip : UInt32}
    {port : UInt16} {r : Int}
    (hrun : udpSendto (ipInputDepth depth) sockfd buff ip port w = .ok r w') :
    Books t.stock (t.income w (.udpSendto sockfd buff ip port) (.int r)) 0 w w' := by
  obtain ⟨s, hs, hrun⟩ := bind_ok_of_eq get_reads hrun
  cases hs
  cases hgood : goodUdpSock w sockfd with
  | none =>
      rw [hgood] at hrun
      cases hrun
      exact .refl t.stock w
  | some k =>
      rw [hgood] at hrun
      obtain ⟨sock, hsock, hrun⟩ := bind_ok_of_eq (derefUdpSock_reads k) hrun
      obtain ⟨hsock, -⟩ := derefUdpSock_ok.mp hsock
      split at hrun
      · cases hrun
        exact .refl t.stock w
      obtain ⟨ok, w1, h1, hdone⟩ := bind_ok_iff.mp hrun
      cases hdone
      refine (udpOut_books ht h1).mono ?_ le_rfl
      have hsent : sentDatagram w sockfd buff ip port
          = some ((udpDatagram 0 sock (buff.take maxUdpPayload) port).withIpHdr ip ipProtoUdp) := by
        rw [sentDatagram, hgood, Option.bind_some, hsock, Option.map_some]
      have htake : buff.take (min buff.length maxUdpPayload) = buff.take maxUdpPayload := by
        rw [List.take_eq_take_iff]
        omega
      cases ok
      · exact le_rfl
      · simp only [Tariff.income, if_pos (show (0 : Int) ≤ (min buff.length maxUdpPayload : Nat) from
          Int.natCast_nonneg _), hsent, Option.elim_some, if_true, Tariff.posted, htake, le_refl]

theorem tcpSend_books (ht : t.Fair) {depth : Nat} {fd : Int} {buff : List UInt8} {r : Int}
    (hrun : tcpSend (ipInputDepth depth) fd buff w = .ok r w') : Books t.stock t.own 0 w w' := by
  have hnothing : Books t.stock t.own 0 w w := (Books.refl t.stock w).mono zero_le le_rfl
  obtain ⟨s, hs, hrun⟩ := bind_ok_of_eq get_reads hrun
  cases hs
  cases hgood : goodTcpConnectionSock w fd with
  | none =>
      rw [hgood] at hrun
      cases hrun
      exact hnothing
  | some c =>
      rw [hgood] at hrun
      obtain ⟨conn, -, hrun⟩ := bind_ok_of_eq (derefTcpConn_reads c) hrun
      split at hrun
      · cases hrun
        exact hnothing
      obtain ⟨_, w1, h1, hdone⟩ := bind_ok_iff.mp hrun
      cases hdone
      exact tcpOut_books ht (by decide) h1

/-- **The balance of a call.** -/
theorem runOp_books (ht : t.Fair) (hw : ConnTables w) {op : Op} {r : Ret}
    (hrun : runOp op w = .ok r w') : Books t.stock (t.income w op r) (t.outgo w op r) w w' := by
  -- the calls that own one part, and neither protocol
  have hconfined : ∀ {α : Type} {m : M α} {f : α → Ret} (p : Part), p ≠ .udp → p ≠ .tcp →
      Keeps (Confined (Eq p)) m → (m >>= fun a => pure (f a)) w = .ok r w' →
      Books t.stock 0 0 w w' := by
    intro α m f p hudp htcp hm hrun
    obtain ⟨_, w1, h1, hdone⟩ := bind_ok_iff.mp hrun
    cases hdone
    exact (hm.ok h1).books hudp htcp
  -- the calls on TCP sockets
  have hsocket : op.owns .tcp → Books t.stock 0 0 w w' := by
    intro hown
    have hstep := socketStep_after hown w
    rw [Op.after, final_of_ok hrun] at hstep
    exact hstep.books
  cases op with
  | recvFrame i frame =>
      obtain ⟨_, w1, h1, hdone⟩ := bind_ok_iff.mp hrun
      cases hdone
      exact recvFrame_books ht hw h1
  | udpSocket n =>
      obtain ⟨_, w1, h1, hdone⟩ := bind_ok_iff.mp hrun
      cases hdone
      exact udpSocket_books h1
  | udpBind fd ip port =>
      obtain ⟨_, w1, h1, hdone⟩ := bind_ok_iff.mp hrun
      cases hdone
      exact udpBind_books h1
  | udpClose fd =>
      obtain ⟨_, w1, h1, hdone⟩ := bind_ok_iff.mp hrun
      cases hdone
      exact udpClose_books h1
  | udpSendto fd buff ip port =>
      obtain ⟨_, w1, h1, hdone⟩ := bind_ok_iff.mp hrun
      cases hdone
      exact udpSendto_books ht h1
  | udpRecvfrom fd size wantIp wantPort =>
      obtain ⟨_, w1, h1, hdone⟩ := bind_ok_iff.mp hrun
      cases hdone
      exact udpRecvfrom_books h1
  | tcpRecv fd size =>
      obtain ⟨_, w1, h1, hdone⟩ := bind_ok_iff.mp hrun
      cases hdone
      exact tcpRecv_books h1
  | tcpSend fd buff =>
      obtain ⟨_, w1, h1, hdone⟩ := bind_ok_iff.mp hrun
      cases hdone
      exact tcpSend_books ht h1
  | icmpOut n ip type code payload =>
      obtain ⟨_, w1, h1, hdone⟩ := bind_ok_iff.mp hrun
      cases hdone
      exact icmpOut_books ht h1
  | ping n ipAddr =>
      obtain ⟨_, w1, h1, hdone⟩ := bind_ok_iff.mp hrun
      cases hdone
      exact icmpOut_books ht h1
  | sendArpBroadcastRequest i ip =>
      obtain ⟨_, w1, h1, hdone⟩ := bind_ok_iff.mp hrun
      cases hdone
      exact sendArpBroadcastRequest_books h1
  | tcpSocket n => exact hsocket rfl
  | tcpBind fd ip port => exact hsocket rfl
  | tcpListen fd => exact hsocket rfl
  | tcpClose fd => exact hsocket rfl
  | tcpAccept fd => exact hconfined .accept (by simp) (by simp) (tcpAccept_confined rfl fd) hrun
  | nodeSetIntfIpAddr n ifName ipAddr mask =>
      exact hconfined .config (by simp) (by simp)
        (nodeSetIntfIpAddr_confined rfl n ifName ipAddr mask) hrun
  | rtTableAddRoute n dst mask next i =>
      have hm : Keeps (Confined (Eq Part.config)) (rtTableAddRoute n dst mask next i) :=
        modify_confined rfl fun _ => rfl
      exact hconfined .config (by simp) (by simp) hm hrun
  | setIpForward val =>
      have hm : Keeps (Confined (Eq Part.config))
          (modify fun w => { w with ipForwardEnable := val } : M Unit) :=
        modify_confined rfl fun _ => rfl
      exact hconfined .config (by simp) (by simp) hm hrun

end Calls

end SimpleTcpip
