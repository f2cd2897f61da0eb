/-
Where a packet goes that `ip_input` takes.

`ip_preroute` takes a packet for any address of the node, whatever interface it came in by,
and `udp_input` and `tcp_input` look for its socket among those bound on that interface, by
the port alone.  So the socket is bound to the destination address of the packet when the
interface had that address at the time it was bound, and not otherwise.
-/
import SimpleTcpip.Proofs.Sockets
import SimpleTcpip.Proofs.Ways

namespace SimpleTcpip

open Fallible

namespace Transport

variable {t : Transport} {calls : List Call} {w : World} {n : NodeId} {i : IntfId} {k : SockId}
  {ip : UInt32} {port : UInt16}

/-! ### What a socket was bound to -/

/-- The protocol number. -/
def proto : Transport → UInt8
  | .udp => ipProtoUdp
  | .tcp => ipProtoTcp

/-- The address a call binds a socket to. -/
def bindsIp : Transport → Op → Option UInt32
  | .udp, .udpBind _ ip _ => some ip
  | .tcp, .tcpBind _ ip _ => some ip
  | _, _ => none

/-- An open socket of a node is bound to an address and a port. -/
structure BoundTo (t : Transport) (calls : List Call) (w : World) (n : NodeId) (ip : UInt32)
    (port : UInt16) (k : SockId) : Prop where
  isOpen : ∃ i x, t.binding w k = some (some (i, port)) ∧ w.intf i = some x ∧ x.node = n
  byCall : ∃ call ∈ calls, t.binds call.before call.op = some k ∧ t.bindsIp call.op = some ip

/-- When a socket was bound, an interface had this address. -/
def BoundWhile (t : Transport) (calls : List Call) (i : IntfId) (ip : UInt32) (k : SockId) : Prop :=
  ∃ call ∈ calls, t.binds call.before call.op = some k ∧
    ∃ x, call.before.intf i = some x ∧ x.ipAddr = ip

theorem binds_cases {op : Op} (h : t.binds w op = some k) : ∃ sockfd,
    t.bindsFd op = some sockfd ∧ t.goodSock w sockfd = some k ∧ op.returns w = some (.int 0) := by
  unfold binds at h
  split at h
  · rename_i hret
    obtain ⟨sockfd, hfd, hk⟩ := Option.bind_eq_some_iff.mp h
    exact ⟨sockfd, hfd, hk, hret⟩
  · cases h

/-- **A call binds a socket on the interface that has the address.** -/
theorem binds_on {op : Op} {w' : World} {r : Ret} (hrun : runOp op w = .ok r w')
    (h : t.binds w op = some k) : ∃ i ip port, t.binding w' k = some (some (i, port)) ∧
      t.bindsIp op = some ip ∧ ∃ x, w.intf i = some x ∧ x.ipAddr = ip := by
  obtain ⟨sockfd, hfd, hk, hret⟩ := binds_cases h
  cases t with
  | udp =>
      cases op with
      | udpBind sockfd ip port =>
          cases hfd
          obtain ⟨a, w₁, hcall, hend⟩ := bind_ok_iff.mp hrun
          cases hend
          rw [returns_of_run _ hrun] at hret
          cases hret
          rcases udpBind_cases sockfd ip port w with ⟨k', sock, i, hk', -, -, hi, hbound⟩ | hno | ⟨-, hno⟩
          · cases hcall.symm.trans hbound
            obtain rfl := Option.some.inj (hk.symm.trans hk')
            refine ⟨i, ip, port, ?_, rfl, getMatchingInterface_live hi⟩
            show (Function.update w.udpSock k _ k).map UdpSock.binding = _
            rw [Function.update_self]
            rfl
          · cases hcall.symm.trans hno
          · cases hcall.symm.trans hno
      | _ => cases hfd
  | tcp =>
      cases op with
      | tcpBind sockfd ip port =>
          cases hfd
          obtain ⟨a, w₁, hcall, hend⟩ := bind_ok_iff.mp hrun
          cases hend
          rw [returns_of_run _ hrun] at hret
          cases hret
          rcases tcpBind_cases sockfd ip port w with ⟨k', sock, i, hk', -, -, hi, hbound⟩ | hno | ⟨-, hno⟩
          · cases hcall.symm.trans hbound
            obtain rfl := Option.some.inj (hk.symm.trans hk')
            refine ⟨i, ip, port, ?_, rfl, getMatchingInterface_live hi⟩
            show (Function.update w.tcpSock k _ k).map TcpSock.binding = _
            rw [Function.update_self]
            rfl
          · cases hcall.symm.trans hno
          · cases hcall.symm.trans hno
      | _ => cases hfd

/-- **A socket that is still bound is bound where its call bound it.** -/
theorem bound_since {w₀ : World} (h0 : Initial w₀) (hrun : Run w₀ calls w) {call : Call}
    (hmem : call ∈ calls) (hk : t.binds call.before call.op = some k)
    {b : Option (IntfId × UInt16)} (hb : t.binding w k = some b) :
    t.binding call.after k = some b := by
  induction hrun with
  | nil => cases hmem
  | @snoc calls u u' op r h hv hrun ih =>
      rcases List.mem_append.mp hmem with hmem | hmem
      · have hstep := registry_step t op u
        rw [show op.after u = u' from final_of_ok hrun] at hstep
        refine ih hmem ((h.registryOk h0 t).kept hstep ?_ hb)
        rw [bindings, List.mem_reverse, List.mem_filterMap]
        exact ⟨call, hmem, hk⟩
      · obtain rfl := List.mem_singleton.mp hmem
        exact hb

/-- Being bound to an address is being bound on an interface that had it. -/
theorem boundTo_iff {w₀ : World} {x : Intf} (h0 : Initial w₀) (hrun : Run w₀ calls w)
    (hk : t.binding w k = some (some (i, port))) (hx : w.intf i = some x) (hn : x.node = n) :
    t.BoundTo calls w n ip port k ↔ t.BoundWhile calls i ip k := by
  have hon : ∀ call ∈ calls, t.binds call.before call.op = some k →
      ∃ y, call.before.intf i = some y ∧ t.bindsIp call.op = some y.ipAddr := by
    intro call hmem hbinds
    obtain ⟨-, -, hcall⟩ := hrun.call (.init h0) hmem
    obtain ⟨j, ip', port', hafter, hip, y, hy, haddr⟩ := binds_on hcall hbinds
    cases (bound_since h0 hrun hmem hbinds hk).symm.trans hafter
    exact ⟨y, hy, by rw [hip, haddr]⟩
  constructor
  · rintro ⟨-, call, hmem, hbinds, hip⟩
    obtain ⟨y, hy, hip'⟩ := hon call hmem hbinds
    exact ⟨call, hmem, hbinds, y, hy, Option.some.inj (hip'.symm.trans hip)⟩
  · rintro ⟨call, hmem, hbinds, y, hy, rfl⟩
    obtain ⟨y', hy', hip'⟩ := hon call hmem hbinds
    obtain rfl := Option.some.inj (hy.symm.trans hy')
    exact ⟨⟨i, x, hk, hx, hn⟩, call, hmem, hbinds, hip'⟩

/-! ### What arrives -/

/-- The destination port of a segment in a buffer. -/
def dstPort : Transport → SkBuff → UInt16
  | .udp => SkBuff.udpDst
  | .tcp => SkBuff.tcpDst

/-- The socket lookup of a packet: by the interface it came in by and its port. -/
def reached (t : Transport) (w : World) (skb : SkBuff) : Option SockId :=
  skb.intf.bind fun i => t.managerFind w i (t.dstPort skb)

/-- What a transport protocol did with a packet whose socket it looked up. -/
inductive Handled : Transport → World → SkBuff → Option SockId → Bool → World → Prop
  /-- It refused the packet. -/
  | refused {t : Transport} {w : World} {skb : SkBuff} : Handled t w skb none false w
  /-- `udp_input` queued it on the socket. -/
  | queued {w : World} {skb : SkBuff} {k : SockId} {sock : UdpSock} (hsock : w.udpSock k = some sock) :
      Handled .udp w skb (some k) true (w.queued k sock skb)
  /-- `tcp_input` processed it for the socket. -/
  | processed {w w' : World} {skb : SkBuff} {k : SockId} {depth : Nat} {r : Bool}
      (hrun : tcpSockInput (ipInputDepth depth) k skb w = .ok r w') :
      Handled .tcp w skb (some k) r w'

/-- **A packet for a protocol is handled by the socket that is looked up**, and by no other. -/
theorem handled {skb : SkBuff} {r : Bool} {w' : World} (hproto : skb.proto = t.proto)
    (hrun : ipInput skb w = .ok r w') :
    Handled t (w.loops skb) (skb.pulled ipHdrSize) (t.reached w (skb.pulled ipHdrSize)) r w' := by
  cases t with
  | udp =>
      cases ipInput_goes hrun with
      | udp _ hudp =>
          cases udpInput_ok hudp with
          | @refused i hi hk =>
              rw [show Transport.udp.reached w (skb.pulled ipHdrSize) = none by
                rw [reached, hi]; exact hk]
              exact .refused
          | @queued i k sock hi hk hsock =>
              rw [show Transport.udp.reached w (skb.pulled ipHdrSize) = some k by
                rw [reached, hi]; exact hk]
              exact .queued hsock
      | unknown _ _ hno => exact absurd hproto hno
      | icmp hno => cases hproto.symm.trans hno
      | tcp hno => cases hproto.symm.trans hno
  | tcp =>
      cases ipInput_goes hrun with
      | tcp _ htcp =>
          rcases tcpInput_goes htcp with ⟨hnone, rfl, rfl⟩ | ⟨k, hk, hsock⟩
          · rw [show Transport.tcp.reached w (skb.pulled ipHdrSize) = none from hnone]
            exact .refused
          · rw [show Transport.tcp.reached w (skb.pulled ipHdrSize) = some k from hk]
            exact .processed hsock
      | unknown _ hno => exact absurd hproto hno
      | icmp hno => cases hproto.symm.trans hno
      | udp hno => cases hproto.symm.trans hno

/-- A packet for an address and a port goes to a socket bound to them. -/
structure RespectsBinding (t : Transport) (calls : List Call) (w : World) (n : NodeId) (ip : UInt32)
    (port : UInt16) (reached : Option SockId) : Prop where
  only : ∀ k, reached = some k → t.BoundTo calls w n ip port k
  found : (∃ k, t.BoundTo calls w n ip port k) →
    ∃ k, reached = some k ∧ t.BoundTo calls w n ip port k

/-- A packet came in by the right interface: the socket bound there last to its port was bound
while the interface had its address, or no socket is bound to the port there, and none on an
interface of the node while that one had the address. -/
def ArrivesRight (t : Transport) (calls : List Call) (w : World) (n : NodeId) (i : IntfId)
    (ip : UInt32) (port : UInt16) : Prop :=
  (∃ k, (t.bindings calls).find? (t.isBoundTo w i port) = some k ∧ t.BoundWhile calls i ip k) ∨
  ∀ k j x, t.binding w k = some (some (j, port)) → w.intf j = some x → x.node = n →
    j ≠ i ∧ ¬ t.BoundWhile calls j ip k

/-- Between two calls, and within one, the lookup finds the socket that was bound last. -/
theorem reached_eq {w₀ w₁ : World} {skb : SkBuff} (h0 : Initial w₀) (hrun : Run w₀ calls w)
    (hsame : t.Same w w₁) (hi : skb.intf = some i) :
    t.reached w₁ skb = (t.bindings calls).find? (t.isBoundTo w i (t.dstPort skb)) := by
  have hok := hrun.registryOk h0 t
  have hok₁ := hok.step hsame.step
  rw [reached, hi, Option.bind_some, ← (socket_tables_consistent h0 hrun t).find,
    managerFind_eq hok, managerFind_eq hok₁, hsame.socks]
  unfold isBoundTo
  rw [hsame.binding]

theorem respectsBinding_iff {w₀ : World} {x : Intf} (h0 : Initial w₀) (hrun : Run w₀ calls w)
    (hx : w.intf i = some x) :
    t.RespectsBinding calls w x.node ip port ((t.bindings calls).find? (t.isBoundTo w i port)) ↔
      t.ArrivesRight calls w x.node i ip port := by
  have hbound : ∀ {k}, (t.bindings calls).find? (t.isBoundTo w i port) = some k →
      t.binding w k = some (some (i, port)) := by
    intro k hk
    have hfound : t.isBoundTo w i port k = true := List.find?_some hk
    exact beq_iff_eq.mp hfound
  constructor
  · intro hresp
    cases hk : (t.bindings calls).find? (t.isBoundTo w i port) with
    | some k => exact Or.inl ⟨k, hk, (boundTo_iff h0 hrun (hbound hk) hx rfl).mp (hresp.only k hk)⟩
    | none =>
        refine Or.inr fun k j y hj hy hn => ⟨?_, fun hwhile => ?_⟩
        · rintro rfl
          have hmem := (hrun.registryOk h0 t).bound k j port hj
          exact List.find?_eq_none.mp hk k hmem (beq_iff_eq.mpr hj)
        · obtain ⟨k', hk', -⟩ := hresp.found ⟨k, (boundTo_iff h0 hrun hj hy hn).mpr hwhile⟩
          rw [hk] at hk'
          cases hk'
  · rintro (⟨k, hk, hwhile⟩ | hnone)
    · have hto := (boundTo_iff h0 hrun (hbound hk) hx rfl).mpr hwhile
      refine ⟨fun k' hk' => ?_, fun _ => ⟨k, hk, hto⟩⟩
      rwa [← Option.some.inj (hk.symm.trans hk')]
    · refine ⟨fun k hk => absurd rfl (hnone k i x (hbound hk) hx rfl).1, ?_⟩
      rintro ⟨k, hto⟩
      obtain ⟨⟨j, y, hj, hy, hn⟩, -⟩ := id hto
      exact absurd ((boundTo_iff h0 hrun hj hy hn).mp hto) (hnone k j y hj hy hn).2

end Transport

/-- **A packet goes to a socket bound to its destination exactly if it came in by the right
interface.**  `w` is the state after the calls of a run, and `w₁` the one in which `ip_input`
gets the packet: then the socket tables are as after the calls. -/
theorem demux_iff {t : Transport} {calls : List Call} {w₀ w w₁ w' : World} {skb : SkBuff}
    {i : IntfId} {x : Intf} {r : Bool} (h0 : Initial w₀) (hrun : Run w₀ calls w)
    (hsame : t.Same w w₁) (hi : skb.intf = some i) (hx : w.intf i = some x)
    (hproto : skb.proto = t.proto) (hin : ipInput skb w₁ = .ok r w') :
    ∃ reached, t.Handled (w₁.loops skb) (skb.pulled ipHdrSize) reached r w' ∧
      (t.RespectsBinding calls w x.node skb.dstIp (t.dstPort (skb.pulled ipHdrSize)) reached ↔
        t.ArrivesRight calls w x.node i skb.dstIp (t.dstPort (skb.pulled ipHdrSize))) := by
  have hreached : t.reached w₁ (skb.pulled ipHdrSize) = _ := Transport.reached_eq h0 hrun hsame hi
  refine ⟨_, Transport.handled hproto hin, ?_⟩
  rw [hreached]
  exact Transport.respectsBinding_iff h0 hrun hx

namespace Fixture

/-- A datagram for port 7 of `172.16.10.1`, the address of the other interface of `node0`. -/
def otherAddress : SkBuff :=
  (recvBuffer 0 0 (List.replicate 12 0xff ++ [0x08, 0x00] ++
    [0x45, 0, 0, 28, 0, 0, 0, 0, 64, 17, 0, 0, 192, 168, 89, 2, 172, 16, 10, 1] ++
    [0, 9, 0, 7, 0, 8, 0, 0])).ipPacket

/-- The calls that bind a socket to port 7 of `192.168.89.1`. -/
def boundOps : List Op := configure ++ [.udpSocket 0, .udpBind 0 (addr 192 168 89 1) 7]

theorem bound_run : ∃ calls, Run graph calls bound ∧ calls.map Call.op = boundOps := by
  refine Run.of_runOps (runOps_after ?_)
  decide +kernel

end Fixture

/-- The datagram is queued on the socket, which is bound to `192.168.89.1`. -/
theorem demux_wrong_address : ∃ calls w', Run Fixture.graph calls Fixture.bound ∧
    ipInput Fixture.otherAddress Fixture.bound = .ok true w' ∧
    Transport.udp.Handled (Fixture.bound.loops Fixture.otherAddress)
      (Fixture.otherAddress.pulled ipHdrSize) (some 0) true w' ∧
    ¬ Transport.udp.RespectsBinding calls Fixture.bound 0 Fixture.otherAddress.dstIp
      (Fixture.otherAddress.pulled ipHdrSize).udpDst (some 0) := by
  obtain ⟨calls, hrun, hops⟩ := Fixture.bound_run
  obtain ⟨hres, hreached, hother⟩ :
      result (ipInput Fixture.otherAddress) Fixture.bound = some true ∧
      Transport.udp.reached Fixture.bound (Fixture.otherAddress.pulled ipHdrSize) = some 0 ∧
      (Fixture.boundOps.all fun op =>
        Transport.udp.bindsIp op != some Fixture.otherAddress.dstIp) = true := by decide +kernel
  have hin := run_of_result hres
  have hhandled := Transport.handled (t := .udp) rfl hin
  rw [hreached] at hhandled
  refine ⟨calls, _, hrun, hin, hhandled, fun hresp => ?_⟩
  obtain ⟨-, call, hmem, -, hip⟩ := hresp.only 0 rfl
  have hne := List.all_eq_true.mp hother call.op (hops ▸ List.mem_map_of_mem hmem)
  rw [hip] at hne
  exact absurd hne (by simp)

theorem demux_iff_otherAddress : ∃ calls w' reached, Run Fixture.graph calls Fixture.bound ∧
    Transport.udp.Handled (Fixture.bound.loops Fixture.otherAddress)
      (Fixture.otherAddress.pulled ipHdrSize) reached true w' ∧
    (Transport.udp.RespectsBinding calls Fixture.bound 0 Fixture.otherAddress.dstIp
      (Fixture.otherAddress.pulled ipHdrSize).udpDst reached ↔
      Transport.udp.ArrivesRight calls Fixture.bound 0 0 Fixture.otherAddress.dstIp
        (Fixture.otherAddress.pulled ipHdrSize).udpDst) := by
  obtain ⟨calls, hrun, -⟩ := Fixture.bound_run
  obtain ⟨hres, hnode⟩ : result (ipInput Fixture.otherAddress) Fixture.bound = some true ∧
      (Fixture.bound.intf 0).any (fun x => decide (x.node = 0)) = true := by decide +kernel
  obtain ⟨x, hx, hn⟩ := (Option.any_eq_true _ _).mp hnode
  have hin : Fixture.otherAddress.intf = some 0 := rfl
  obtain ⟨reached, hhandled, hiff⟩ := demux_iff (t := .udp) Fixture.graph_initial hrun (.refl _ _)
    hin hx rfl (run_of_result hres)
  rw [of_decide_eq_true hn] at hiff
  exact ⟨calls, _, reached, hrun, hhandled, hiff⟩

end SimpleTcpip
