/-
What `udp_recvfrom` returns of the datagrams `udp_input` queued.

`udp_input` links a buffer in at the head of the list of its socket and `udp_recvfrom` reads
the last one, in place: what it has read is pulled from the buffer, and a buffer read to its
end is unlinked.  Read backwards the list is a queue of messages.
-/
import SimpleTcpip.Lib.Messages
import SimpleTcpip.Model.Fixture
import SimpleTcpip.Proofs.Reception
import SimpleTcpip.Proofs.Ways

namespace SimpleTcpip

open Fallible Message

/-! ### Datagrams -/

/-- Where a datagram is from. -/
structure UdpSource where
  ip : UInt32
  port : UInt16

/-- The source a buffer names whose UDP header is at `hdr`. -/
def SkBuff.udpSource (skb : SkBuff) (hdr : Nat) : UdpSource where
  ip := skb.mem.load32 (skb.ipHdr.getD 0 + 12)
  port := UInt16.ofNat (ntohs (skb.mem.load16 hdr).toNat)

/-- The datagram a buffer holds that `udp_input` gets. -/
def SkBuff.arrival (skb : SkBuff) : Message UdpSource UInt8 where
  source := skb.udpSource skb.data
  payload := skb.bytes.drop udpHdrSize

/-- What a queued buffer still holds of a datagram. -/
def SkBuff.unread (skb : SkBuff) : Message UdpSource UInt8 where
  source := skb.udpSource (skb.udpHdr.getD 0)
  payload := skb.bytes

/-- What `udp_recvfrom` has yet to return, oldest datagram first. -/
def UdpSock.unread (sock : UdpSock) : List (Message UdpSource UInt8) :=
  sock.rxSkb.reverse.map SkBuff.unread

/-- A buffer that came in on an interface, with the IP header in front of the datagram. -/
structure FromWire (skb : SkBuff) : Prop extends Filled skb where
  intf : skb.intf.isSome
  len : udpHdrSize ≤ skb.len
  ipHdr : ∃ p, skb.ipHdr = some p ∧ recvReservedHeadRoom ≤ p ∧ p + 16 ≤ skb.data

/-- A received frame is such a buffer by the time `udp_input` gets it. -/
theorem fromWire_segment (id : SkbId) (i : IntfId) {frame : List UInt8}
    (hlen : ethHdrSize + ipHdrSize + udpHdrSize ≤ (recvBuffer id i frame).len) :
    FromWire (recvBuffer id i frame).segment := by
  have hseg : ethHdrSize + ipHdrSize ≤ (recvBuffer id i frame).len := by omega
  refine ⟨(filled_recvBuffer id i frame).segment hseg, rfl, ?_, ?_⟩
  · rw [segment_len hseg]
    omega
  · refine ⟨recvReservedHeadRoom + ethHdrSize, rfl, Nat.le_add_right _ _, ?_⟩
    show recvReservedHeadRoom + ethHdrSize + 16 ≤ recvReservedHeadRoom + ethHdrSize + ipHdrSize
    decide

/-- A queued buffer whose headers can still be read. -/
structure UdpQueued (skb : SkBuff) : Prop extends Filled skb where
  ipHdr : ∃ p, skb.ipHdr = some p ∧ recvReservedHeadRoom ≤ p ∧ p + 16 ≤ skb.tail
  udpHdr : ∃ p, skb.udpHdr = some p ∧ recvReservedHeadRoom ≤ p ∧ p + 2 ≤ skb.tail

/-- The buffer `udp_input` links in. -/
def SkBuff.linked (skb : SkBuff) : SkBuff := { skb with udpHdr := some skb.data }.pulled udpHdrSize

theorem FromWire.queued {skb : SkBuff} (h : FromWire skb) : UdpQueued skb.linked := by
  have hdata := h.data
  have htail := h.tail
  have hlen := h.len
  obtain ⟨p, hp, hroom, hend⟩ := h.ipHdr
  have hfilled : Filled { skb with udpHdr := some skb.data } := ⟨hdata, htail⟩
  refine ⟨hfilled.pulled hlen, ⟨p, hp, hroom, ?_⟩, skb.data, rfl, hdata, ?_⟩
  · show p + 16 ≤ skb.tail
    omega
  · show skb.data + 2 ≤ skb.tail
    rw [udpHdrSize] at hlen
    omega

/-- It holds the datagram that arrived. -/
theorem FromWire.unread_linked {skb : SkBuff} (h : FromWire skb) :
    skb.linked.unread = skb.arrival := by
  have hlen := h.len
  unfold SkBuff.unread SkBuff.arrival
  refine congrArg (Message.mk _) ?_
  show skb.mem.read (skb.data + udpHdrSize) (sizeSub skb.len udpHdrSize)
    = (skb.mem.read skb.data skb.len).drop udpHdrSize
  rw [sizeSub_of_le hlen, Memory.drop_read _ _ hlen]

/-! ### Reading a buffer -/

section Read

variable {skb : SkBuff} {size : Nat}

theorem UdpQueued.pulled (h : UdpQueued skb) {n : Nat} (hn : n ≤ skb.len) :
    UdpQueued (skb.pulled n) :=
  ⟨h.toFilled.pulled hn, h.ipHdr, h.udpHdr⟩

theorem pulled_min_len (skb : SkBuff) (size : Nat) :
    (skb.pulled (min skb.len size)).len = skb.len - size := by
  show sizeSub skb.len (min skb.len size) = _
  rw [sizeSub_of_le (Nat.min_le_left ..)]
  omega

/-- The bytes a read returns are the front of what the buffer holds. -/
theorem read_front (skb : SkBuff) (size : Nat) :
    skb.mem.read skb.data (min skb.len size) = (skb.unread.front size).payload := by
  show _ = (skb.mem.read skb.data skb.len).take size
  rcases Nat.le_total skb.len size with hle | hle
  · rw [Nat.min_eq_left hle, List.take_of_length_le (by rwa [Memory.length_read])]
  · rw [Nat.min_eq_right hle, Memory.take_read _ _ hle]

/-- A read leaves the rest of what the buffer holds. -/
theorem unread_pulled (skb : SkBuff) (size : Nat) :
    (skb.pulled (min skb.len size)).unread = skb.unread.back size := by
  unfold SkBuff.unread Message.back
  refine congrArg (Message.mk _) ?_
  show skb.mem.read (skb.data + min skb.len size) (skb.pulled (min skb.len size)).len
    = (skb.mem.read skb.data skb.len).drop size
  rw [pulled_min_len]
  rcases Nat.le_total skb.len size with hle | hle
  · rw [Nat.sub_eq_zero_of_le hle, Memory.read_zero,
      List.drop_of_length_le (by rwa [Memory.length_read])]
  · rw [Nat.min_eq_right hle, Memory.drop_read _ _ hle]

/-- What `finish_udp_recv` leaves in the list is what a read leaves in the queue. -/
theorem unread_left (skb : SkBuff) (size : Nat) :
    ((if (skb.pulled (min skb.len size)).len = 0 then []
      else [skb.pulled (min skb.len size)]).map SkBuff.unread) = skb.unread.left size := by
  have hlen : skb.unread.payload.length = skb.len := Memory.length_read _ _ _
  unfold Message.left
  rw [pulled_min_len, hlen]
  by_cases hall : skb.len ≤ size
  · rw [if_pos (Nat.sub_eq_zero_of_le hall), if_pos hall]
    rfl
  · rw [if_neg (by omega), if_neg hall, List.map_singleton, unread_pulled]

end Read

/-! ### One call -/

/-- A call of `udp_recvfrom` that returned a datagram. -/
structure UdpRead where
  size : Nat
  wantIp : Bool
  wantPort : Bool
  datagram : Datagram

/-- What a call returned is this chunk: its bytes, as many as were asked for at most, and its
source where the caller wanted it. -/
structure UdpRead.Returns (r : UdpRead) (c : Message UdpSource UInt8) : Prop where
  bytes : r.datagram.bytes = c.payload
  size : r.datagram.bytes.length ≤ r.size
  ip : r.datagram.ip = if r.wantIp then some c.source.ip else none
  port : r.datagram.port = if r.wantPort then some c.source.port else none

/-- A descriptor of a bound socket whose buffers can be read. -/
structure UdpReadable (sockfd : Int) (k : SockId) (sock : UdpSock) (w : World) : Prop where
  fd : goodUdpSock w sockfd = some k
  live : w.udpSock k = some sock
  bound : sock.bound = true
  queued : ∀ s ∈ sock.rxSkb, UdpQueued s

theorem UdpQueued.recvSrcIp {skb : SkBuff} (h : UdpQueued skb) (wanted : Bool) (w : World) :
    ∃ w', SimpleTcpip.recvSrcIp skb wanted w
        = .ok (if wanted then some skb.unread.source.ip else none) w' ∧
      w'.udpSock = w.udpSock ∧ w'.udpFdToSock = w.udpFdToSock := by
  obtain ⟨p, hp, hroom, hend⟩ := h.ipHdr
  cases wanted with
  | false => exact ⟨w, rfl, rfl, rfl⟩
  | true =>
      let t : World := { w with trace := w.trace ++ [.readIpHdr skb] }
      have hfollow : followIpHdr skb w = .ok p t := followIpHdr_ok.mpr ⟨hp, rfl⟩
      have hread : readU32 skb (p + 12) t = .ok (skb.mem.load32 (p + 12)) t :=
        readU32_ok.mpr ⟨fun _ => by omega, rfl, rfl⟩
      refine ⟨t, ?_, rfl, rfl⟩
      unfold SimpleTcpip.recvSrcIp
      rw [if_pos rfl, run_bind_ok hfollow, run_bind_ok hread]
      simp only [SkBuff.unread, SkBuff.udpSource, hp, Option.getD_some]
      rfl

theorem UdpQueued.recvSrcPort {skb : SkBuff} (h : UdpQueued skb) (wanted : Bool) (w : World) :
    SimpleTcpip.recvSrcPort skb wanted w
      = .ok (if wanted then some skb.unread.source.port else none) w := by
  obtain ⟨p, hp, hroom, hend⟩ := h.udpHdr
  cases wanted with
  | false => rfl
  | true =>
      have hread : readU16 skb p w = .ok (skb.mem.load16 p) w :=
        readU16_ok.mpr ⟨fun _ => by omega, rfl, rfl⟩
      unfold SimpleTcpip.recvSrcPort
      rw [if_pos rfl, hp]
      refine (run_bind_ok hread).trans ?_
      simp only [SkBuff.unread, SkBuff.udpSource, hp, Option.getD_some]
      rfl

/-- The end of `udp_recvfrom` leaves what was not read. -/
theorem finishUdpRecv_ok {k : SockId} (sock : UdpSock) (skb : SkBuff) (w : World) :
    ∃ w', finishUdpRecv k sock skb w = .ok ⟨⟩ w' ∧ w'.udpFdToSock = w.udpFdToSock ∧
      w'.udpSock k = some { sock with
        rxSkb := sock.rxSkb.dropLast ++ if skb.len = 0 then [] else [skb] } := by
  unfold finishUdpRecv
  split
  · refine ⟨_, run_bind_ok (a := ⟨⟩) (setUdpSock_ok.mpr rfl), rfl, ?_⟩
    rw [List.append_nil]
    exact Function.update_self ..
  · exact ⟨_, setUdpSock_ok.mpr rfl, rfl, Function.update_self ..⟩

section Calls

variable {sockfd : Int} {k : SockId} {sock : UdpSock} {w : World}

/-- **`udp_recvfrom` reads the oldest datagram**, if there is one. -/
theorem UdpReadable.recvfrom (h : UdpReadable sockfd k sock w) (size : Nat)
    (wantIp wantPort : Bool) :
    sock.unread = [] ∧ udpRecvfrom sockfd size wantIp wantPort w = .ok none w ∨
      ∃ m q d sock' w', sock.unread = m :: q ∧
        udpRecvfrom sockfd size wantIp wantPort w = .ok (some d) w' ∧
        UdpReadable sockfd k sock' w' ∧ sock'.unread = m.left size ++ q ∧
        UdpRead.Returns ⟨size, wantIp, wantPort, d⟩ (m.front size) := by
  unfold udpRecvfrom
  rw [run_bind_ok (run_get w), h.fd]
  dsimp only
  rw [run_bind_ok (derefUdpSock_ok.mpr ⟨h.live, rfl⟩), if_neg (not_not.mpr h.bound)]
  cases hlast : sock.rxSkb.getLast? with
  | none =>
      have hempty := List.getLast?_eq_none_iff.mp hlast
      exact Or.inl ⟨by simp [UdpSock.unread, hempty], rfl⟩
  | some skb =>
      obtain ⟨older, hrx⟩ := List.getLast?_eq_some_iff.mp hlast
      have hskb : UdpQueued skb := h.queued skb (List.mem_of_getLast? hlast)
      have hmin : min skb.len size ≤ skb.len := Nat.min_le_left ..
      have hpulled := hskb.pulled hmin
      obtain ⟨w1, hip, hsock1, hfd1⟩ := hpulled.recvSrcIp wantIp w
      have hport := hpulled.recvSrcPort wantPort w1
      obtain ⟨w2, hfinish, hfd2, hsock2⟩ :=
        finishUdpRecv_ok (k := k) sock (skb.pulled (min skb.len size)) w1
      let d : Datagram :=
        { bytes := skb.mem.read skb.data (min skb.len size),
          ip := if wantIp then some skb.unread.source.ip else none,
          port := if wantPort then some skb.unread.source.port else none }
      refine Or.inr ⟨skb.unread, older.reverse.map SkBuff.unread, d, _, w2, ?_, ?_,
        ⟨?_, hsock2, h.bound, fun s hs => ?_⟩, ?_, ?_⟩
      · simp [UdpSock.unread, hrx]
      · simp only
        rw [run_bind_ok (hskb.toFilled.pull hmin), run_bind_ok hip, run_bind_ok hport,
          run_bind_ok hfinish]
        rfl
      · have hfd := h.fd
        unfold goodUdpSock at hfd ⊢
        rwa [hfd2, hfd1]
      · rcases List.mem_append.mp hs with hs | hs
        · exact h.queued s (List.mem_of_mem_dropLast hs)
        · split at hs
          · cases hs
          · rw [List.mem_singleton.mp hs]
            exact hpulled
      · rw [← unread_left, UdpSock.unread, hrx, List.dropLast_concat, List.reverse_append,
          List.map_append]
        split <;> rfl
      · refine ⟨read_front skb size, ?_, rfl, rfl⟩
        show (skb.mem.read skb.data (min skb.len size)).length ≤ size
        rw [Memory.length_read]
        exact Nat.min_le_right ..

/-- `udp_input` queues a datagram for the socket it finds. -/
theorem FromWire.udpInput_some {skb : SkBuff} (h : FromWire skb)
    (hto : udpReceiver w skb = some k) :
    ∃ sock, w.udpSock k = some sock ∧ udpInput skb w = .ok true (w.queued k sock skb) := by
  have hlen := h.len
  rw [udpHdrSize] at hlen
  obtain ⟨i, hi⟩ := Option.isSome_iff_exists.mp h.intf
  have hfind := hto
  unfold udpReceiver udpSocksManagerFind at hfind
  rw [hi, Option.bind_some] at hfind
  have hany := List.find?_some hfind
  obtain ⟨sock, hsock, -⟩ := (Option.any_eq_true _ _).mp hany
  have hfilled : Filled { skb with udpHdr := some skb.data } := ⟨h.data, h.tail⟩
  refine ⟨sock, hsock, ?_⟩
  rw [udpInput_run h.toFilled h.intf fun _ => by omega, hto]
  simp only
  rw [run_bind_ok (hfilled.pull h.len), run_bind_ok (derefUdpSock_ok.mpr ⟨hsock, rfl⟩)]
  rfl

/-- `udp_input` leaves a datagram that is for no socket. -/
theorem FromWire.udpInput_none {skb : SkBuff} (h : FromWire skb)
    (hto : udpReceiver w skb = none) : udpInput skb w = .ok false w := by
  have hlen := h.len
  rw [udpHdrSize] at hlen
  rw [udpInput_run h.toFilled h.intf fun _ => by omega, hto]

/-- A datagram for the socket arrives behind the others. -/
theorem UdpReadable.arrive (h : UdpReadable sockfd k sock w) {skb : SkBuff} (hskb : FromWire skb) :
    ∃ sock', UdpReadable sockfd k sock' (w.queued k sock skb) ∧
      sock'.unread = sock.unread ++ [skb.arrival] := by
  refine ⟨{ sock with rxSkb := skb.linked :: sock.rxSkb },
    ⟨h.fd, Function.update_self .., h.bound, fun s hs => ?_⟩, ?_⟩
  · rcases List.mem_cons.mp hs with rfl | hs
    · exact hskb.queued
    · exact h.queued s hs
  · rw [← hskb.unread_linked]
    simp [UdpSock.unread]

end Calls

/-! ### A run -/

/-- A run of `udp_input` and of `udp_recvfrom` on a descriptor, with the datagrams that came for
its socket and the calls that returned one, in order.  In between, anything may happen that
leaves the descriptor and its socket alone. -/
inductive UdpRun (sockfd : Int) (k : SockId) (w₀ : World) :
    List (Message UdpSource UInt8) → List UdpRead → World → Prop
  | start : UdpRun sockfd k w₀ [] [] w₀
  | input {ms : List (Message UdpSource UInt8)} {reads : List UdpRead} {w w' : World}
      {skb : SkBuff} {r : Bool} (h : UdpRun sockfd k w₀ ms reads w) (hskb : FromWire skb)
      (hto : udpReceiver w skb = some k) (hrun : udpInput skb w = .ok r w') :
      UdpRun sockfd k w₀ (ms ++ [skb.arrival]) reads w'
  | elsewhere {ms : List (Message UdpSource UInt8)} {reads : List UdpRead} {w w' : World}
      {skb : SkBuff} {r : Bool} (h : UdpRun sockfd k w₀ ms reads w) (hskb : FromWire skb)
      (hto : udpReceiver w skb ≠ some k) (hrun : udpInput skb w = .ok r w') :
      UdpRun sockfd k w₀ ms reads w'
  | recvfrom {ms : List (Message UdpSource UInt8)} {reads : List UdpRead} {w w' : World}
      {r : UdpRead} (h : UdpRun sockfd k w₀ ms reads w)
      (hrun : udpRecvfrom sockfd r.size r.wantIp r.wantPort w = .ok (some r.datagram) w') :
      UdpRun sockfd k w₀ ms (reads ++ [r]) w'
  | empty {ms : List (Message UdpSource UInt8)} {reads : List UdpRead} {w w' : World}
      {size : Nat} {wantIp wantPort : Bool} (h : UdpRun sockfd k w₀ ms reads w)
      (hrun : udpRecvfrom sockfd size wantIp wantPort w = .ok none w') :
      UdpRun sockfd k w₀ ms reads w'
  | other {ms : List (Message UdpSource UInt8)} {reads : List UdpRead} {w w' : World}
      (h : UdpRun sockfd k w₀ ms reads w) (hfd : goodUdpSock w' sockfd = goodUdpSock w sockfd)
      (hsock : w'.udpSock k = w.udpSock k) : UdpRun sockfd k w₀ ms reads w'

/-- What holds of such a run: its socket is a queue of messages. -/
def UdpServes (sockfd : Int) (k : SockId) (ms : List (Message UdpSource UInt8))
    (reads : List UdpRead) (w : World) : Prop :=
  ∃ sock chunks, UdpReadable sockfd k sock w ∧ List.Forall₂ UdpRead.Returns reads chunks ∧
    Serves ms chunks sock.unread

theorem UdpReadable.of_same {sockfd : Int} {k : SockId} {sock : UdpSock} {w w' : World}
    (h : UdpReadable sockfd k sock w) (hfd : goodUdpSock w' sockfd = goodUdpSock w sockfd)
    (hsock : w'.udpSock k = w.udpSock k) : UdpReadable sockfd k sock w' :=
  ⟨hfd.trans h.fd, hsock.trans h.live, h.bound, h.queued⟩

/-- **The socket of a run is a queue of messages.** -/
theorem UdpRun.serves {sockfd : Int} {k : SockId} {w₀ w : World} {sock : UdpSock}
    {ms : List (Message UdpSource UInt8)} {reads : List UdpRead}
    (hstart : UdpReadable sockfd k sock w₀) (hempty : sock.rxSkb = [])
    (h : UdpRun sockfd k w₀ ms reads w) : UdpServes sockfd k ms reads w := by
  induction h with
  | start =>
      refine ⟨sock, [], hstart, .nil, ?_⟩
      rw [UdpSock.unread, hempty]
      exact .start
  | input _ hskb hto hrun ih =>
      obtain ⟨sock', chunks, hread, hreturns, hserves⟩ := ih
      obtain ⟨sock'', hsock, hinput⟩ := hskb.udpInput_some hto
      obtain rfl := Option.some.inj (hread.live.symm.trans hsock)
      cases hrun.symm.trans hinput
      obtain ⟨next, hnext, hunread⟩ := hread.arrive hskb
      refine ⟨next, chunks, hnext, hreturns, ?_⟩
      rw [hunread]
      exact hserves.arrive _
  | @elsewhere ms reads w w' skb r _ hskb hto hrun ih =>
      obtain ⟨sock', chunks, hread, hreturns, hserves⟩ := ih
      cases hother : udpReceiver w skb with
      | none =>
          cases hrun.symm.trans (hskb.udpInput_none hother)
          exact ⟨sock', chunks, hread, hreturns, hserves⟩
      | some k' =>
          obtain ⟨sock'', -, hinput⟩ := hskb.udpInput_some hother
          cases hrun.symm.trans hinput
          refine ⟨sock', chunks, hread.of_same rfl ?_, hreturns, hserves⟩
          have hne : k ≠ k' := fun heq => hto (heq ▸ hother)
          exact Function.update_of_ne hne _ _
  | @recvfrom ms reads w w' r _ hrun ih =>
      obtain ⟨sock', chunks, hread, hreturns, hserves⟩ := ih
      rcases hread.recvfrom r.size r.wantIp r.wantPort with ⟨-, hnone⟩ |
        ⟨m, q, d, next, w'', hqueue, hsome, hnext, hunread, hd⟩
      · cases hrun.symm.trans hnone
      · cases hrun.symm.trans hsome
        refine ⟨next, chunks ++ [m.front r.size], hnext, ?_, ?_⟩
        · exact List.rel_append hreturns (.cons hd .nil)
        · rw [hqueue] at hserves
          rw [hunread]
          exact hserves.read r.size
  | @empty ms reads w w' size wantIp wantPort _ hrun ih =>
      obtain ⟨sock', chunks, hread, hreturns, hserves⟩ := ih
      rcases hread.recvfrom size wantIp wantPort with ⟨-, hnone⟩ |
        ⟨_, _, _, _, _, -, hsome, -, -, -⟩
      · cases hrun.symm.trans hnone
        exact ⟨sock', chunks, hread, hreturns, hserves⟩
      · cases hrun.symm.trans hsome
  | other _ hfd hsock ih =>
      obtain ⟨sock', chunks, hread, hreturns, hserves⟩ := ih
      exact ⟨sock', chunks, hread.of_same hfd hsock, hreturns, hserves⟩

/--
**The receive queue of a bound socket.**  The datagrams that came are cut into the chunks that
calls returned, in order and each with its source, and what is left of them is what the socket
holds.  Every further call completes: `udp_recvfrom` returns -1 exactly when nothing is left.
-/
theorem udp_queue {sockfd : Int} {k : SockId} {w₀ w : World} {sock : UdpSock}
    {ms : List (Message UdpSource UInt8)} {reads : List UdpRead}
    (hfd : goodUdpSock w₀ sockfd = some k) (hsock : w₀.udpSock k = some sock)
    (hbound : sock.bound = true) (hempty : sock.rxSkb = [])
    (h : UdpRun sockfd k w₀ ms reads w) :
    ∃ sock' chunks, w.udpSock k = some sock' ∧ List.Forall₂ UdpRead.Returns reads chunks ∧
      Delivered ms chunks sock'.unread ∧
      (∀ size wantIp wantPort, ∃ d w', udpRecvfrom sockfd size wantIp wantPort w = .ok d w' ∧
        (d = none ↔ sock'.unread = [])) ∧
      ∀ skb, FromWire skb → Completes (udpInput skb) w := by
  have hstart : UdpReadable sockfd k sock w₀ :=
    ⟨hfd, hsock, hbound, fun s hs => by rw [hempty] at hs; cases hs⟩
  obtain ⟨sock', chunks, hread, hreturns, hserves⟩ := h.serves hstart hempty
  refine ⟨sock', chunks, hread.live, hreturns, hserves.delivered, fun size wantIp wantPort => ?_,
    fun skb hskb => ?_⟩
  · rcases hread.recvfrom size wantIp wantPort with ⟨hnil, hnone⟩ |
      ⟨m, q, d, _, w', hqueue, hsome, -, -, -⟩
    · exact ⟨none, w, hnone, iff_of_true rfl hnil⟩
    · refine ⟨some d, w', hsome, iff_of_false (Option.some_ne_none d) fun hnil => ?_⟩
      rw [hqueue] at hnil
      cases hnil
  · cases hto : udpReceiver w skb with
    | none => exact ⟨_, _, hskb.udpInput_none hto⟩
    | some k' =>
        obtain ⟨_, -, hrun⟩ := hskb.udpInput_some hto
        exact ⟨_, _, hrun⟩

/-- A datagram from port 9 of `192.168.89.2` to port 7 of `192.168.89.1`. -/
def Fixture.udpFrame (payload : List UInt8) : List UInt8 :=
  List.replicate 12 0xff ++ [0x08, 0x00] ++
    [0x45, 0, 0, UInt8.ofNat (28 + payload.length), 0, 0, 0, 0, 64, 17, 0, 0,
      192, 168, 89, 2, 192, 168, 89, 1] ++
    [0, 9, 0, 7, 0, UInt8.ofNat (8 + payload.length), 0, 0] ++ payload

/-- A datagram of three bytes. -/
def Fixture.datagram1 : SkBuff := (recvBuffer 0 0 (udpFrame [1, 2, 3])).segment

/-- A datagram of two, from the same port. -/
def Fixture.datagram2 : SkBuff := (recvBuffer 1 0 (udpFrame [4, 5])).segment

/-- The bound socket once both came. -/
def Fixture.waiting : World := final (udpInput datagram2) (final (udpInput datagram1) bound)

/-- A call that asks for two bytes and returns some. -/
def Fixture.readOf (bytes : List UInt8) : UdpRead :=
  ⟨2, true, true, ⟨bytes, some (addr 192 168 89 2), some 9⟩⟩

/-- The call itself. -/
def Fixture.recvfrom (r : UdpRead) : M (Option Datagram) :=
  udpRecvfrom 0 r.size r.wantIp r.wantPort

/-- Two datagrams are read by three calls: two bytes and the third of the one that came first,
then the other. -/
theorem udp_queue_fixture : ∃ w sock' chunks,
    UdpRun 0 0 Fixture.bound [Fixture.datagram1.arrival, Fixture.datagram2.arrival]
      [Fixture.readOf [1, 2], Fixture.readOf [3], Fixture.readOf [4, 5]] w ∧
    w.udpSock 0 = some sock' ∧
    List.Forall₂ UdpRead.Returns
      [Fixture.readOf [1, 2], Fixture.readOf [3], Fixture.readOf [4, 5]] chunks ∧
    Delivered [Fixture.datagram1.arrival, Fixture.datagram2.arrival] chunks sock'.unread := by
  have hskb : FromWire Fixture.datagram1 := fromWire_segment 0 0 (by decide)
  have hskb' : FromWire Fixture.datagram2 := fromWire_segment 1 0 (by decide)
  obtain ⟨hfd, hstart, hto, hin, hto', hin'⟩ : goodUdpSock Fixture.bound 0 = some 0 ∧
      (Fixture.bound.udpSock 0).any (fun sock => sock.bound && sock.rxSkb.isEmpty) = true ∧
      udpReceiver Fixture.bound Fixture.datagram1 = some 0 ∧
      result (udpInput Fixture.datagram1) Fixture.bound = some true ∧
      udpReceiver (final (udpInput Fixture.datagram1) Fixture.bound) Fixture.datagram2 = some 0 ∧
      result (udpInput Fixture.datagram2) (final (udpInput Fixture.datagram1) Fixture.bound)
        = some true := by decide +kernel
  obtain ⟨hread1, hread2, hread3⟩ :
      result (Fixture.recvfrom (Fixture.readOf [1, 2])) Fixture.waiting
        = some (some (Fixture.readOf [1, 2]).datagram) ∧
      result (Fixture.recvfrom (Fixture.readOf [3]))
        (final (Fixture.recvfrom (Fixture.readOf [1, 2])) Fixture.waiting)
        = some (some (Fixture.readOf [3]).datagram) ∧
      result (Fixture.recvfrom (Fixture.readOf [4, 5]))
        (final (Fixture.recvfrom (Fixture.readOf [3]))
          (final (Fixture.recvfrom (Fixture.readOf [1, 2])) Fixture.waiting))
        = some (some (Fixture.readOf [4, 5]).datagram) := by decide +kernel
  have hread : ∀ {ms reads w w'} (r : UdpRead), UdpRun 0 0 Fixture.bound ms reads w →
      Fixture.recvfrom r w = .ok (some r.datagram) w' →
        UdpRun 0 0 Fixture.bound ms (reads ++ [r]) w' := fun _ h hrun => .recvfrom h hrun
  unfold Fixture.waiting at *
  generalize Fixture.bound = w₀ at *
  obtain ⟨sock, hsock, hfields⟩ := (Option.any_eq_true _ _).mp hstart
  obtain ⟨hbound, hrx⟩ := Bool.and_eq_true_iff.mp hfields
  have hcame : UdpRun 0 0 w₀ [Fixture.datagram1.arrival, Fixture.datagram2.arrival] [] _ :=
    .input (.input .start hskb hto (run_of_result hin)) hskb' hto' (run_of_result hin')
  have hrun := hread (Fixture.readOf [4, 5]) (hread (Fixture.readOf [3])
    (hread (Fixture.readOf [1, 2]) hcame (run_of_result hread1)) (run_of_result hread2))
    (run_of_result hread3)
  obtain ⟨sock', chunks, hlive, hreturns, hdelivered, -⟩ :=
    udp_queue hfd hsock hbound (List.isEmpty_iff.mp hrx) hrun
  exact ⟨_, sock', chunks, hrun, hlive, hreturns, hdelivered⟩

end SimpleTcpip
