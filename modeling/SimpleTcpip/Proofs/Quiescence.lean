/-
The network comes to rest.

A node may answer what it receives: an echo request with a reply, an ARP request with another,
a SYN with its answer, a segment that ends a connection with a reset.  And routes may run in
circles.  Nevertheless every call of an application leads to a bounded number of frames: each
hop counts the TTL down, and no answer is of a kind that is answered.

The bound is a tariff.  A packet is worth three frames for every hop it has left, since a hop
may have to ask for the next one, and the answers it may lead to besides.
-/
import SimpleTcpip.Proofs.Network

namespace SimpleTcpip

open Fallible Ledger

/-- What a node sends of its own accord: one packet with all its hops, and an ARP exchange. -/
def ownFrames : Nat := 195

/-- The frames the answers to a packet may lead to.  A SYN opens a connection, which is
answered at once, and once more when it is closed. -/
def answerFrames (p : List UInt8) : Nat :=
  if p.getD 9 0 = ipProtoIcmp ∧ p.getD 20 0 = icmpEchoRequestType then ownFrames
  else if p.getD 9 0 = ipProtoTcp ∧ OpensConn p then 2 * ownFrames
  else 0

/-- The frames a frame may lead to, itself included. -/
def frameTariff : Tariff Nat where
  packet p := 3 * (p.getD 8 0).toNat + 1 + answerFrames p
  queued _ := 0
  ask := 2
  answer := 1
  conn := ownFrames
  own := ownFrames
  tick := 1

/-- The answers do not depend on what a router writes. -/
theorem answerFrames_congr {p q : List UInt8}
    (h : ∀ k, k = 9 ∨ 16 ≤ k → p.getD k 0 = q.getD k 0) : answerFrames p = answerFrames q := by
  have hflags : packetFlags p = packetFlags q := congrArg TcpFlags.mk (h 33 (Or.inr (by omega)))
  have hopens : OpensConn p ↔ OpensConn q := by rw [OpensConn, OpensConn, hflags]
  rw [answerFrames, answerFrames, h 9 (Or.inl rfl), h 20 (Or.inr (by omega))]
  exact if_congr Iff.rfl rfl (if_congr (and_congr_right' hopens) rfl rfl)

theorem answerFrames_own {p : List UInt8} (h : OwnPacket p) : answerFrames p = 0 := by
  obtain ⟨-, ⟨hproto, htype⟩ | ⟨hproto, hopens⟩⟩ := h
  · rw [answerFrames, if_neg fun hecho => htype hecho.2, if_neg fun hsyn => ?_]
    exact absurd (hproto.symm.trans hsyn.1) (by decide)
  · rw [answerFrames, if_neg fun hecho => absurd (hproto.symm.trans hecho.1) (by decide),
      if_neg fun hsyn => hopens hsyn.2]

/-- **No answer is answered, and every hop is counted.** -/
theorem frameTariff_fair : frameTariff.Fair where
  route p q h := by
    have hanswer : answerFrames p = answerFrames q :=
      answerFrames_congr fun k hk => h.2 k (by omega)
    simp only [frameTariff, h.2 8 (by omega), hanswer]
  answer := by decide
  reply := by decide
  handled p := by
    simp only [frameTariff]
    omega
  passed p q h := by
    obtain ⟨-, hsame, hhops, hless⟩ := h
    have hanswer : answerFrames p = answerFrames q :=
      answerFrames_congr fun k hk => hsame k (by omega)
    have hone : (q.getD 8 0).toNat = (p.getD 8 0).toNat - 1 := by
      rw [hless, UInt8.toNat_sub_of_le]
      · rfl
      · exact UInt8.le_iff_toNat_le.mpr (Nat.le_of_lt hhops)
    simp only [frameTariff, hanswer, hone]
    omega
  datagram p _ := by
    simp only [frameTariff]
    omega
  echo p hproto htype := by
    simp only [frameTariff, answerFrames, if_pos (And.intro hproto htype)]
    omega
  opens p hproto hopens := by
    have hecho : ¬ (p.getD 9 0 = ipProtoIcmp ∧ p.getD 20 0 = icmpEchoRequestType) :=
      fun h => absurd (hproto.symm.trans h.1) (by decide)
    simp only [frameTariff, answerFrames, if_neg hecho, if_pos (And.intro hproto hopens)]
    omega
  closes := le_rfl
  own p h := by
    simp only [frameTariff, answerFrames_own h, h.1]
    decide

/-! ### What a call may lead to -/

/-- A bound on the frames a call leads to.  A frame from outside comes with hops of its own. -/
def Op.frameBudget : Op → Nat
  | .recvFrame _ _ => 1156
  | .udpSendto _ _ _ _ | .tcpSend _ _ => 195
  | .icmpOut _ _ _ _ _ | .ping _ _ => 390
  | .sendArpBroadcastRequest _ _ => 2
  | _ => 0

theorem answerFrames_le (p : List UInt8) : answerFrames p ≤ 390 := by
  unfold answerFrames ownFrames
  split
  · omega
  split <;> omega

/-- A frame leads to itself at least. -/
theorem one_le_frame (frame : List UInt8) : 1 ≤ frameTariff.frame frame := by
  unfold Tariff.frame
  dsimp only
  split
  · exact frameTariff_fair.handled _
  split <;> decide

/-- A frame leads to what its hops and its kind allow at most. -/
theorem frame_le (frame : List UInt8) : frameTariff.frame frame ≤ 1156 := by
  unfold Tariff.frame
  dsimp only
  split
  · generalize (recvBuffer 0 0 frame).ipPacket.onWire = p
    have hanswers := answerFrames_le p
    have hhops : (p.getD 8 0).toNat < 256 := UInt8.toNat_lt _
    show 3 * (p.getD 8 0).toNat + 1 + answerFrames p ≤ 1156
    omega
  split <;> decide

/-- A packet the node sends has 64 hops. -/
theorem posted_le (skb : SkBuff) (ip : UInt32) (proto : UInt8) :
    frameTariff.posted (skb.withIpHdr ip proto)
      = 195 + answerFrames (skb.withIpHdr ip proto).onWire := by
  show 3 * ((skb.withIpHdr ip proto).onWire.getD 8 0).toNat + 1 + _ + 2 = _
  rw [ttl_onWire]
  show 3 * 64 + 1 + _ + 2 = _
  omega

/-- UDP is not answered. -/
theorem answerFrames_udp {p : List UInt8} (h : p.getD 9 0 = ipProtoUdp) : answerFrames p = 0 := by
  rw [answerFrames, if_neg fun hecho => absurd (h.symm.trans hecho.1) (by decide),
    if_neg fun hsyn => absurd (h.symm.trans hsyn.1) (by decide)]

/-- A message is answered once. -/
theorem answerFrames_icmp {p : List UInt8} (h : p.getD 9 0 = ipProtoIcmp) : answerFrames p ≤ 195 := by
  unfold answerFrames
  split
  · exact le_rfl
  · rw [if_neg fun hsyn => absurd (h.symm.trans hsyn.1) (by decide)]
    exact Nat.zero_le _

theorem proto_posted (skb : SkBuff) (ip : UInt32) (proto : UInt8) :
    (skb.withIpHdr ip proto).onWire.getD 9 0 = proto :=
  (getD_proto _).trans (proto_withIpHdr ..)

theorem income_le (w : World) (op : Op) (r : Ret) : frameTariff.income w op r ≤ op.frameBudget := by
  have hicmp : ∀ (skb : SkBuff) (ip : UInt32),
      frameTariff.posted (skb.withIpHdr ip ipProtoIcmp) ≤ 390 := by
    intro skb ip
    have hanswer := answerFrames_icmp (proto_posted skb ip ipProtoIcmp)
    rw [posted_le]
    omega
  cases op with
  | recvFrame i frame => exact frame_le frame
  | udpSendto fd buff ip port =>
      cases r with
      | int r =>
          simp only [Tariff.income, Op.frameBudget, sentDatagram]
          split
          · cases (goodUdpSock w fd).bind w.udpSock with
            | none => exact Nat.zero_le _
            | some sock =>
                rw [Option.map_some, Option.elim_some, posted_le,
                  answerFrames_udp (proto_posted _ ip ipProtoUdp)]
          · exact Nat.zero_le _
      | _ => exact Nat.zero_le _
  | tcpSend fd buff => exact le_rfl
  | icmpOut n ip type code payload => exact hicmp _ _
  | ping n ipAddr => exact hicmp _ _
  | sendArpBroadcastRequest i ip => exact le_rfl
  | _ => exact Nat.zero_le _

/-- Each frame in flight is one at least. -/
theorem card_le_flying (air : Air) : air.card ≤ frameTariff.flying air := by
  induction air using Multiset.induction_on with
  | empty => exact le_rfl
  | cons f air ih =>
      have hone := one_le_frame f.2
      rw [Multiset.card_cons, Tariff.flying_cons]
      omega

/--
**The network comes to rest.**  Whatever the topology, the routes and the order in which frames
arrive or get lost, the frames delivered so far and those still in flight are no more than the
calls of the applications allow for: at most 195 for a datagram or a segment, and 390 for a ping.
-/
theorem network_rests {w₀ w : World} (hw : Initial w₀) {calls delivered : List Call} {air : Air}
    (h : NetRun w₀ calls delivered air w) :
    delivered.length + air.card ≤ (calls.map fun call => call.op.frameBudget).sum := by
  have hsettled := h.settled frameTariff_fair hw {.link}
  have hair := card_le_flying air
  have hpaid : frameTariff.incomes calls ≤ (calls.map fun call => call.op.frameBudget).sum :=
    List.sum_le_sum fun call _ => income_le call.before call.op call.ret
  rw [total, Finset.sum_singleton] at hsettled
  have hticks : delivered.length • frameTariff.tick = delivered.length := by
    rw [smul_eq_mul]
    exact Nat.mul_one _
  rw [hticks] at hsettled
  change frameTariff.flying air + _ ≤ _ at hsettled
  omega

/-- The schedule of a ping of `192.168.89.2`: both nodes ask for the other's address, and the
request and the reply are delivered. -/
def Fixture.pingMoves : List NetMove :=
  configure.map .call ++ .call (.ping 0 [49, 57, 50, 46, 49, 54, 56, 46, 56, 57, 46, 50])
    :: List.replicate 6 .deliver

theorem network_rests_fixture : ∃ calls delivered air w,
    NetRun Fixture.graph calls delivered air w ∧ delivered.length = 6 ∧
      calls.map Call.op = Fixture.pingMoves.filterMap NetMove.op? ∧ delivered.length + air.card
        ≤ (calls.map fun call => call.op.frameBudget).sum := by
  have hsome : (runMoves Fixture.graph Fixture.pingMoves).isSome = true := by decide +kernel
  obtain ⟨⟨w, air⟩, hmoves⟩ := Option.isSome_iff_exists.mp hsome
  obtain ⟨calls, delivered, hrun, hcalls, hlen, -⟩ := NetRun.of_moves hmoves
  exact ⟨calls, delivered, air, w, hrun, hlen.trans (by decide), hcalls,
    network_rests Fixture.graph_initial hrun⟩

end SimpleTcpip
