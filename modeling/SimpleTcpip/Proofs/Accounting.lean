/-
What an in-order segment adds to a connection.

`handle_estab` pulls a header of fixed size, queues what is left and counts it; on a FIN
it counts one and closes.  So the count is that of the data exactly when there is data,
the header has no options, and no FIN comes with it; a FIN is counted right when it comes
alone.
-/
import SimpleTcpip.Proofs.Window

namespace SimpleTcpip

open Fallible

/-! ### Segments -/

/-- The `hlen` nibble of the segment in a buffer. -/
def SkBuff.tcpHlen (skb : SkBuff) : Nat := (skb.mem (skb.data + 12)).toNat / 16

/-- The bytes after the header of the segment in a buffer. -/
def SkBuff.tcpData (skb : SkBuff) : List UInt8 :=
  skb.mem.read (skb.data + 4 * skb.tcpHlen) (skb.len - 4 * skb.tcpHlen)

/-- A received buffer is exactly a TCP segment. -/
structure IsSegment (skb : SkBuff) : Prop where
  headroom : recvReservedHeadRoom ≤ skb.data
  exact : skb.data + skb.len = skb.tail
  hlen_ge : 5 ≤ skb.tcpHlen
  hlen_le : 4 * skb.tcpHlen ≤ skb.len

/-- What `tcp_recv` has yet to return, oldest byte first. -/
def TcpConnectionSock.unread (conn : TcpConnectionSock) : List UInt8 :=
  conn.rxSkb.reverse.flatMap SkBuff.bytes

/-- A connection counts a segment: its data and its FIN, and nothing when it has neither. -/
structure Accounts (conn conn' : TcpConnectionSock) (skb : SkBuff) : Prop where
  stream : conn'.unread = conn.unread ++ skb.tcpData
  nxt : conn'.rcv.nxt = conn.rcv.nxt + UInt32.ofNat skb.tcpData.length
    + if skb.tcpFlags.fin then 1 else 0
  silent : skb.tcpData = [] → skb.tcpFlags.fin = false →
    conn'.rcv.nxt = conn.rcv.nxt ∧ conn'.rxSkb = conn.rxSkb

/-! ### The queue -/

/-- A new buffer is read last. -/
theorem unread_cons (conn : TcpConnectionSock) (skb : SkBuff) :
    { conn with rxSkb := skb :: conn.rxSkb }.unread = conn.unread ++ skb.bytes := by
  simp [TcpConnectionSock.unread]

/-- The oldest buffer is read first. -/
theorem unread_getLast {conn : TcpConnectionSock} {skb : SkBuff}
    (h : conn.rxSkb.getLast? = some skb) :
    conn.unread = skb.bytes ++ { conn with rxSkb := conn.rxSkb.dropLast }.unread := by
  obtain ⟨init, hinit⟩ := List.getLast?_eq_some_iff.mp h
  simp [TcpConnectionSock.unread, hinit]

/-- What a read takes from a buffer, and what it leaves. -/
theorem bytes_pulled (skb : SkBuff) {n : Nat} (h : n ≤ skb.len) :
    skb.bytes = skb.mem.read skb.data n ++ (skb.pulled n).bytes := by
  obtain ⟨k, hk⟩ := Nat.exists_eq_add_of_le h
  have hrest : (skb.pulled n).len = k := by
    rw [SkBuff.pulled, sizeSub_of_le h, hk, Nat.add_sub_cancel_left]
  rw [SkBuff.bytes, SkBuff.bytes, hrest, hk, Memory.read_add]
  rfl

/-- **`tcp_recv` returns the front of the unread stream**, and leaves the rest. -/
theorem tcpRecv_unread {connfd : Int} {size : Nat} {bytes : List UInt8} {w w' : World}
    (hrun : tcpRecv connfd size w = .ok (some bytes) w') :
    ∃ c conn conn', goodTcpConnectionSock w connfd = some c ∧ w.tcpConn c = some conn ∧
      w'.tcpConn c = some conn' ∧ conn.unread = bytes ++ conn'.unread := by
  cases tcpRecv_ok hrun with
  | nothing hr => cases hr
  | @read c conn skb hfd hconn _ hlast hr hfinish =>
      obtain rfl := Option.some.inj hr
      have hsplit : conn.unread = skb.mem.read skb.data (min skb.len size) ++
          ((skb.pulled (min skb.len size)).bytes ++
            { conn with rxSkb := conn.rxSkb.dropLast }.unread) := by
        rw [unread_getLast hlast, bytes_pulled skb (Nat.min_le_left ..), List.append_assoc]
      refine ⟨c, conn, ?_⟩
      rcases finishTcpRecv_ok hfinish with ⟨hempty, rfl⟩ | rfl
      · have hnil : (skb.pulled (min skb.len size)).bytes = [] := by
          rw [SkBuff.bytes, hempty, Memory.read_zero]
        refine ⟨{ conn with rxSkb := conn.rxSkb.dropLast }, hfd, hconn, Function.update_self .., ?_⟩
        rw [hsplit, hnil, List.nil_append]
      · refine ⟨{ conn with rxSkb := conn.rxSkb.dropLast ++ [skb.pulled (min skb.len size)] },
          hfd, hconn, Function.update_self .., ?_⟩
        rw [hsplit]
        simp [TcpConnectionSock.unread]

/-! ### The segment -/

/-- What `handle_estab` makes of an in-order segment without RST. -/
def TcpConnectionSock.takes (conn : TcpConnectionSock) (skb : SkBuff) : TcpConnectionSock :=
  if skb.tcpFlags.fin then { conn with rcv := { conn.rcv with nxt := conn.rcv.nxt + 1 } }
  else { conn with
    rcv := { conn.rcv with nxt := conn.rcv.nxt + UInt32.ofNat (skb.pulled tcpHdrSize).len }
    rxSkb := skb.pulled tcpHdrSize :: conn.rxSkb }

/-- The reset `close_connection` sends, and the list it moves the connection to, leave all
connections as they were, also when it stops. -/
theorem closeConnection_conns {depth : Nat} {c : ConnId} {w : World} {conn : TcpConnectionSock}
    (hconn : w.tcpConn c = some conn) :
    (final (closeConnection (ipInputDepth depth) c) w).tcpConn = w.tcpConn := by
  have hreset : (final (tcpOut (ipInputDepth depth) c [] .ackRst) w).tcpConn = w.tcpConn := by
    rcases tcpOut_final depth [] .ackRst hconn with
      ⟨hsame, -⟩ | ⟨_, -, hnumbered, -⟩
    · exact hsame
    · rw [hnumbered, List.length_nil, numbered_ackRst, ← hconn, Function.update_eq_self]
  unfold closeConnection
  refine final_bind_rel (R := fun t t' : World => t'.tcpConn = t.tcpConn)
    (fun _ _ _ h h' => h'.trans h) hreset fun _ t _ => ?_
  rcases final_bind_reads (derefTcpConn_reads c) _ t with hstop | ⟨conn', -, heq⟩
  · rw [hstop]
  rw [heq]
  rcases final_bind_reads (derefTcpSock_reads conn'.parent) _ t with hstop | ⟨parent, -, heq'⟩
  · rw [hstop]
  rw [heq']
  rfl

/-- **What an in-order segment does to its connection.** -/
theorem handleEstab_takes {depth : Nat} {c : ConnId} {skb : SkBuff} {w : World}
    {conn : TcpConnectionSock} (hconn : w.tcpConn c = some conn) (hseg : IsSegment skb)
    (hseq : skb.tcpSeq = conn.rcv.nxt) (hrst : skb.tcpFlags.rst = false) :
    (final (handleEstab (ipInputDepth depth) c skb) w).tcpConn c = some (conn.takes skb) := by
  obtain ⟨hroom, hexact, hge, hle⟩ := hseg
  have hlen : tcpHdrSize ≤ skb.len := by
    unfold tcpHdrSize
    omega
  have hreadable : ∀ p n, p + n ≤ tcpHdrSize → Readable w skb (skb.data + p) n := by
    intro p n hpn _
    omega
  have hseq' : ntohl (skb.mem.load32 (skb.data + 4)) = conn.rcv.nxt := hseq
  have hrst' : ¬ (TcpFlags.mk (skb.mem (skb.data + 13))).rst = true :=
    Bool.eq_false_iff.mp hrst
  unfold handleEstab
  rw [final_bind_of_ok (readTcpSeq_ok.mpr ⟨hreadable 4 4 (by decide), rfl, rfl⟩),
    final_bind_of_ok (derefTcpConn_ok.mpr ⟨hconn, rfl⟩), if_pos hseq',
    final_bind_of_ok (readTcpFlags_ok.mpr ⟨hreadable 13 1 (by decide), rfl, rfl⟩), if_neg hrst']
  unfold TcpConnectionSock.takes
  by_cases hfin : skb.tcpFlags.fin = true
  · have hfin' : (TcpFlags.mk (skb.mem (skb.data + 13))).fin = true := hfin
    rw [if_pos hfin, if_pos hfin', final_bind_of_ok (a := ⟨⟩) (setTcpConn_ok.mpr rfl),
      closeConnection_conns (Function.update_self ..)]
    exact Function.update_self ..
  · have hfin' : ¬ (TcpFlags.mk (skb.mem (skb.data + 13))).fin = true := hfin
    rw [if_neg hfin, if_neg hfin',
      final_bind_of_ok (skbPull_ok.mpr ⟨fun _ => hlen, by omega, rfl, rfl⟩)]
    exact Function.update_self ..

/-- The segments `handle_estab` counts right: a FIN without data, or data without options and
without a FIN. -/
def CountedRight (skb : SkBuff) : Prop :=
  if skb.tcpFlags.fin then skb.tcpData = [] else skb.tcpHlen = 5 ∧ skb.tcpData ≠ []

theorem accounts_takes (conn : TcpConnectionSock) {skb : SkBuff} (hseg : IsSegment skb) :
    Accounts conn (conn.takes skb) skb ↔ CountedRight skb := by
  obtain ⟨-, -, hge, hle⟩ := hseg
  have hlen : tcpHdrSize ≤ skb.len := by
    unfold tcpHdrSize
    omega
  unfold CountedRight TcpConnectionSock.takes
  by_cases hfin : skb.tcpFlags.fin = true
  · rw [if_pos hfin, if_pos hfin]
    constructor
    · intro h
      exact List.append_right_eq_self.mp h.stream.symm
    · intro hnone
      refine ⟨?_, ?_, fun _ hno => ?_⟩
      · rw [hnone, List.append_nil]
        rfl
      · rw [hnone, hfin]
        change conn.rcv.nxt + 1 = conn.rcv.nxt + 0 + 1
        rw [UInt32.add_zero]
      · rw [hfin] at hno
        cases hno
  · rw [if_neg hfin, if_neg hfin]
    have hpulled : (skb.pulled tcpHdrSize).bytes
        = skb.mem.read (skb.data + tcpHdrSize) (skb.len - tcpHdrSize) := by
      rw [SkBuff.bytes, SkBuff.pulled, sizeSub_of_le hlen]
    constructor
    · intro h
      have hstream := (unread_cons conn (skb.pulled tcpHdrSize)).symm.trans h.stream
      have hdata := List.append_cancel_left hstream
      rw [hpulled] at hdata
      have hlength := congrArg List.length hdata
      rw [SkBuff.tcpData, Memory.length_read, Memory.length_read] at hlength
      unfold tcpHdrSize at hlength hlen
      refine ⟨by omega, fun hnone => ?_⟩
      -- an empty segment is queued all the same
      have hqueue := (h.silent hnone (Bool.eq_false_iff.mpr hfin)).2
      exact absurd (congrArg List.length hqueue) (Nat.succ_ne_self _)
    · rintro ⟨hhlen, hsome⟩
      have hdata : skb.tcpData = (skb.pulled tcpHdrSize).bytes := by
        rw [hpulled, SkBuff.tcpData, hhlen]
        rfl
      refine ⟨?_, ?_, fun hnone => absurd hnone hsome⟩
      · rw [hdata]
        exact unread_cons conn (skb.pulled tcpHdrSize)
      · rw [hdata, if_neg hfin, UInt32.add_zero, SkBuff.bytes, Memory.length_read]

/--
**A segment is accounted for exactly when** it is a FIN without data, or data without
options and without a FIN.  An acknowledgement is queued as an empty buffer, options are
delivered as data, and the data of a FIN is lost.
-/
theorem segment_accounting {c : ConnId} {skb : SkBuff} {w : World} {conn : TcpConnectionSock}
    (hconn : w.tcpConn c = some conn) (hstate : conn.state = .handleEstab) (hseg : IsSegment skb)
    (hseq : skb.tcpSeq = conn.rcv.nxt) (hrst : skb.tcpFlags.rst = false) :
    (∃ conn', (final (runState ipInput c skb) w).tcpConn c = some conn' ∧
      Accounts conn conn' skb) ↔ CountedRight skb := by
  have hafter : (final (runState ipInput c skb) w).tcpConn c = some (conn.takes skb) := by
    unfold runState
    rw [final_bind_of_ok (derefTcpConn_ok.mpr ⟨hconn, rfl⟩), hstate]
    exact handleEstab_takes hconn hseg hseq hrst
  rw [hafter, ← accounts_takes conn hseg]
  constructor
  · rintro ⟨conn', heq, h⟩
    obtain rfl := Option.some.inj heq
    exact h
  · intro h
    exact ⟨_, rfl, h⟩

theorem segment_accounting_fixture :
    ∃ conn conn', Fixture.connected.tcpConn 2 = some conn ∧
      (final (runState ipInput 2 (recvBuffer 0 0 (Fixture.tcpFrame 5 8 0x10 [1, 2])).segment)
        Fixture.connected).tcpConn 2 = some conn' ∧
      Accounts conn conn' (recvBuffer 0 0 (Fixture.tcpFrame 5 8 0x10 [1, 2])).segment := by
  have hbefore : (Fixture.connected.tcpConn 2).map (fun conn => (conn.state, conn.rcv.nxt))
      = some (.handleEstab, 8) := by decide +kernel
  have hseg : IsSegment (recvBuffer 0 0 (Fixture.tcpFrame 5 8 0x10 [1, 2])).segment :=
    ⟨by decide, by decide, by decide, by decide⟩
  have hseq : (recvBuffer 0 0 (Fixture.tcpFrame 5 8 0x10 [1, 2])).segment.tcpSeq = 8 := by decide
  have hrst : (recvBuffer 0 0 (Fixture.tcpFrame 5 8 0x10 [1, 2])).segment.tcpFlags.rst = false := by
    decide
  have hright : CountedRight (recvBuffer 0 0 (Fixture.tcpFrame 5 8 0x10 [1, 2])).segment := by
    unfold CountedRight
    decide
  generalize Fixture.connected = w at *
  generalize (recvBuffer 0 0 (Fixture.tcpFrame 5 8 0x10 [1, 2])).segment = skb at *
  obtain ⟨conn, hconn, hpair⟩ := Option.map_eq_some_iff.mp hbefore
  obtain ⟨hstate, hnxt⟩ := Prod.mk.inj hpair
  obtain ⟨conn', hafter, h⟩ :=
    (segment_accounting hconn hstate hseg (hseq.trans hnxt.symm) hrst).mpr hright
  exact ⟨conn, conn', hconn, hafter, h⟩

/-- **An acknowledgement without data is queued.** -/
theorem pureAck_queued :
    Reachable Fixture.connected ∧
      IsSegment (recvBuffer 0 0 (Fixture.tcpFrame 5 8 0x10 [])).segment ∧
      (recvBuffer 0 0 (Fixture.tcpFrame 5 8 0x10 [])).segment.tcpFlags.rst = false ∧
      ∃ conn, Fixture.connected.tcpConn 2 = some conn ∧ conn.state = .handleEstab ∧
        (recvBuffer 0 0 (Fixture.tcpFrame 5 8 0x10 [])).segment.tcpSeq = conn.rcv.nxt ∧
        ¬ ∃ conn', (final (runState ipInput 2
            (recvBuffer 0 0 (Fixture.tcpFrame 5 8 0x10 [])).segment)
            Fixture.connected).tcpConn 2 = some conn' ∧
          Accounts conn conn' (recvBuffer 0 0 (Fixture.tcpFrame 5 8 0x10 [])).segment := by
  have hbefore : (Fixture.connected.tcpConn 2).map
      (fun conn => (conn.state, conn.rcv.nxt, conn.rxSkb.length)) = some (.handleEstab, 8, 0) := by
    decide +kernel
  have hafter : ((final (runState ipInput 2 (recvBuffer 0 0 (Fixture.tcpFrame 5 8 0x10 [])).segment)
      Fixture.connected).tcpConn 2).map (fun conn => conn.rxSkb.length) = some 1 := by
    decide +kernel
  have hseg : IsSegment (recvBuffer 0 0 (Fixture.tcpFrame 5 8 0x10 [])).segment :=
    ⟨by decide, by decide, by decide, by decide⟩
  have hseq : (recvBuffer 0 0 (Fixture.tcpFrame 5 8 0x10 [])).segment.tcpSeq = 8 := by decide
  have hflags : (recvBuffer 0 0 (Fixture.tcpFrame 5 8 0x10 [])).segment.tcpFlags = .onlyAck := by
    decide
  have hnone : (recvBuffer 0 0 (Fixture.tcpFrame 5 8 0x10 [])).segment.tcpData = [] := by decide
  refine ⟨Fixture.connected_reachable, hseg, by rw [hflags]; decide, ?_⟩
  generalize (recvBuffer 0 0 (Fixture.tcpFrame 5 8 0x10 [])).segment = skb at *
  generalize Fixture.connected = w at *
  obtain ⟨conn, hconn, hfields⟩ := Option.map_eq_some_iff.mp hbefore
  obtain ⟨hstate, hfields⟩ := Prod.mk.inj hfields
  obtain ⟨hnxt, hempty⟩ := Prod.mk.inj hfields
  refine ⟨conn, hconn, hstate, hseq.trans hnxt.symm, ?_⟩
  rintro ⟨conn', hconn', h⟩
  rw [hconn'] at hafter
  have hqueue := (h.silent hnone (by rw [hflags]; decide)).2
  rw [Option.map_some, hqueue, hempty] at hafter
  exact absurd (Option.some.inj hafter) (by decide)

end SimpleTcpip
