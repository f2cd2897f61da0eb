/-
Connections of different remote ends do not disturb each other.

What the segments of one remote end do to its connections on a socket is a machine of its
own: `PeerState` is its state and `PeerState.step` what one segment does.  A frame of that end
takes the machine one step, and any other frame leaves its state alone, whatever it does to
the tables the connections share.
-/
import SimpleTcpip.Model.Fixture
import SimpleTcpip.Proofs.Peers
import SimpleTcpip.Proofs.Reception

namespace SimpleTcpip

open Fallible

/-! ### The connections of one remote end -/

/-- The state of a connection, with its queue as bytes. -/
structure ConnView where
  state : TcpHandle
  snt : TcpSnt
  rcv : TcpRcv
  queued : List (List UInt8)

def TcpConnectionSock.view (conn : TcpConnectionSock) : ConnView :=
  { state := conn.state, snt := conn.snt, rcv := conn.rcv, queued := conn.rxSkb.map SkBuff.bytes }

/-- A connection, if its remote end is this one. -/
def peerConn (conns : ConnId → Option TcpConnectionSock) (e : UInt32 × UInt16) (c : ConnId) :
    Option ConnView :=
  (conns c).bind fun conn => if conn.remote = e then some conn.view else none

/-- What a socket has of one remote end: the connections on its two lists. -/
structure PeerState where
  listening : Bool
  opened : List ConnView
  closed : List ConnView

/-- The connections of a remote end on a socket. -/
def peerState (w : World) (k : SockId) (e : UInt32 × UInt16) : Option PeerState :=
  (w.tcpSock k).map fun sock =>
    { listening := sock.listening
      opened := sock.conns.filterMap (peerConn w.tcpConn e)
      closed := sock.closedConns.filterMap (peerConn w.tcpConn e) }

/-- **What a segment does to the connections of the end it comes from.** -/
def PeerState.step (skb : SkBuff) (s : PeerState) : PeerState :=
  match s.opened with
  | [] =>
      if s.listening ∧ skb.segment.tcpFlags.syn ∧ ¬ skb.segment.tcpFlags.ack then
        { s with opened := [((skb.opens 0).numbered 0 .synAck).view] }
      else s
  | conn :: rest =>
      match conn.state with
      | .handleSynSent =>
          if skb.segment.tcpFlags.ack ∧ ¬ skb.segment.tcpFlags.syn ∧
              skb.segment.tcpSeq = conn.rcv.nxt then
            { s with opened := { conn with state := .handleEstab } :: rest }
          else s
      | .handleEstab =>
          if skb.segment.tcpSeq = conn.rcv.nxt then
            if skb.segment.tcpFlags.rst then
              { s with opened := rest, closed := conn :: s.closed }
            else if skb.segment.tcpFlags.fin then
              { s with
                opened := rest
                closed := { conn with rcv := { conn.rcv with nxt := conn.rcv.nxt + 1 } } :: s.closed }
            else
              { s with opened := { conn with
                  rcv := { conn.rcv with
                    nxt := conn.rcv.nxt + UInt32.ofNat (skb.segment.pulled tcpHdrSize).len }
                  queued := (skb.segment.pulled tcpHdrSize).bytes :: conn.queued } :: rest }
          else s

section Specs

variable {skb : SkBuff} {s : PeerState} {conn : ConnView} {rest : List ConnView}

theorem PeerState.step_nil (hs : s.opened = []) :
    s.step skb = if s.listening ∧ skb.segment.tcpFlags.syn ∧ ¬ skb.segment.tcpFlags.ack then
      { s with opened := [((skb.opens 0).numbered 0 .synAck).view] } else s := by
  rw [PeerState.step, hs]

theorem PeerState.step_synSent (hs : s.opened = conn :: rest)
    (hstate : conn.state = .handleSynSent) :
    s.step skb = if skb.segment.tcpFlags.ack ∧ ¬ skb.segment.tcpFlags.syn ∧
        skb.segment.tcpSeq = conn.rcv.nxt then
      { s with opened := { conn with state := .handleEstab } :: rest } else s := by
  rw [PeerState.step, hs]
  dsimp only
  rw [hstate]

theorem PeerState.step_estab (hs : s.opened = conn :: rest) (hstate : conn.state = .handleEstab) :
    s.step skb = if skb.segment.tcpSeq = conn.rcv.nxt then
      if skb.segment.tcpFlags.rst then { s with opened := rest, closed := conn :: s.closed }
      else if skb.segment.tcpFlags.fin then
        { s with
          opened := rest
          closed := { conn with rcv := { conn.rcv with nxt := conn.rcv.nxt + 1 } } :: s.closed }
      else
        { s with opened := { conn with
            rcv := { conn.rcv with
              nxt := conn.rcv.nxt + UInt32.ofNat (skb.segment.pulled tcpHdrSize).len }
            queued := (skb.segment.pulled tcpHdrSize).bytes :: conn.queued } :: rest }
    else s := by
  rw [PeerState.step, hs]
  dsimp only
  rw [hstate]

end Specs

/-! ### Writes to the table of connections -/

section Writes

variable {conns conns' : ConnId → Option TcpConnectionSock} {e : UInt32 × UInt16} {c : ConnId}
  {conn conn' : TcpConnectionSock} {l : List ConnId}

theorem peerConn_some (hc : conns c = some conn) :
    peerConn conns e c = if conn.remote = e then some conn.view else none := by
  rw [peerConn, hc, Option.bind_some]

/-- A list that does not have the connection. -/
theorem filterMap_update_of_notMem (x : Option TcpConnectionSock) (h : c ∉ l) :
    l.filterMap (peerConn (Function.update conns c x) e) = l.filterMap (peerConn conns e) := by
  refine List.filterMap_congr fun c' hmem => ?_
  have hne : c' ≠ c := fun heq => h (heq ▸ hmem)
  rw [peerConn, Function.update_of_ne hne, peerConn]

/-- A write to a connection of another end. -/
theorem filterMap_update_of_ne (hc : conns c = some conn) (hremote : conn'.remote = conn.remote)
    (hne : conn.remote ≠ e) :
    l.filterMap (peerConn (Function.update conns c (some conn')) e)
      = l.filterMap (peerConn conns e) := by
  refine List.filterMap_congr fun c' _ => ?_
  by_cases heq : c' = c
  · subst heq
    rw [peerConn_some (Function.update_self ..), peerConn_some hc, hremote, if_neg hne, if_neg hne]
  · rw [peerConn, Function.update_of_ne heq, peerConn]

/-- Taking a connection of another end off a list. -/
theorem filterMap_erase_of_ne (hc : conns c = some conn) (hne : conn.remote ≠ e) :
    (l.erase c).filterMap (peerConn conns e) = l.filterMap (peerConn conns e) := by
  have hnone : peerConn conns e c = none := by rw [peerConn_some hc, if_neg hne]
  induction l with
  | nil => rfl
  | cons c' rest ih =>
      by_cases heq : c' = c
      · subst heq
        rw [List.erase_cons_head, List.filterMap_cons, hnone]
      · rw [List.erase_cons_tail (by simpa using heq), List.filterMap_cons, List.filterMap_cons, ih]

end Writes

section Found

variable {w : World} {sock : TcpSock} {ip : UInt32} {port : UInt16} {c : ConnId}
  {conn : TcpConnectionSock}

theorem peerConn_of_other (h : (w.tcpConn c).any
    (fun conn => conn.remotePort == port && conn.remoteIp == ip) = false) :
    peerConn w.tcpConn (ip, port) c = none := by
  cases hc : w.tcpConn c with
  | none => rw [peerConn, hc, Option.bind_none]
  | some conn =>
      rw [hc, Option.any_some] at h
      rw [peerConn_some hc, if_neg]
      intro hremote
      obtain ⟨hip, hport⟩ := Prod.mk.inj hremote
      rw [hip, hport, beq_self_eq_true, beq_self_eq_true] at h
      cases h

/-- No connection of an end is found where none is listed. -/
theorem opened_nil (h : findMatchingConnection w sock ip port = none) :
    sock.conns.filterMap (peerConn w.tcpConn (ip, port)) = [] := by
  refine List.filterMap_eq_nil_iff.mpr fun c hmem => peerConn_of_other ?_
  exact Bool.eq_false_iff.mpr (List.find?_eq_none.mp h c hmem)

/-- **The connection that is found is the first of its end**, and stays it when it is written. -/
theorem opened_cons (h : findMatchingConnection w sock ip port = some c)
    (hc : w.tcpConn c = some conn) (hnodup : sock.conns.Nodup) :
    conn.remote = (ip, port) ∧ ∃ rest,
      sock.conns.filterMap (peerConn w.tcpConn (ip, port)) = conn.view :: rest ∧
      (∀ conn' : TcpConnectionSock, conn'.remote = (ip, port) →
        sock.conns.filterMap (peerConn (Function.update w.tcpConn c (some conn')) (ip, port))
          = conn'.view :: rest) ∧
      ∀ x, (sock.conns.erase c).filterMap (peerConn (Function.update w.tcpConn c x) (ip, port))
        = rest := by
  obtain ⟨-, conn₀, hc₀, hip, hport⟩ := findMatchingConnection_live h
  obtain rfl := Option.some.inj (hc.symm.trans hc₀)
  have hremote : conn.remote = (ip, port) := by
    rw [TcpConnectionSock.remote, hip, hport]
  obtain ⟨-, l₁, l₂, hsplit, hbefore⟩ := List.find?_eq_some_iff_append.mp h
  rw [hsplit] at hnodup ⊢
  have hmiddle := List.nodup_middle.mp hnodup
  have hnot := (List.nodup_cons.mp hmiddle).1
  have hnot₁ : c ∉ l₁ := fun hmem => hnot (List.mem_append_left _ hmem)
  have hnot₂ : c ∉ l₂ := fun hmem => hnot (List.mem_append_right _ hmem)
  have hfirst : l₁.filterMap (peerConn w.tcpConn (ip, port)) = [] := by
    refine List.filterMap_eq_nil_iff.mpr fun c' hmem => peerConn_of_other ?_
    exact Bool.not_eq_true' _ |>.mp (hbefore c' hmem)
  refine ⟨hremote, l₂.filterMap (peerConn w.tcpConn (ip, port)), ?_, fun conn' hremote' => ?_,
    fun x => ?_⟩
  · rw [List.filterMap_append, hfirst, List.nil_append, List.filterMap_cons, peerConn_some hc,
      if_pos hremote]
  · rw [List.filterMap_append, filterMap_update_of_notMem _ hnot₁, hfirst, List.nil_append,
      List.filterMap_cons, peerConn_some (Function.update_self ..), if_pos hremote',
      filterMap_update_of_notMem _ hnot₂]
  · rw [List.erase_append_right _ hnot₁, List.erase_cons_head, List.filterMap_append,
      filterMap_update_of_notMem _ hnot₁, hfirst, List.nil_append,
      filterMap_update_of_notMem _ hnot₂]

end Found

/-! ### What an act does to the connections of an end -/

section Acts

variable {w w' : World} {k₀ : SockId} {sock₀ : TcpSock} {c : ConnId}
  {conn conn' : TcpConnectionSock}

/-- A connection is on no list of another socket. -/
theorem notMem_of_other (hconns : ConnTables w) (hk : w.tcpSock k₀ = some sock₀)
    (hmem : c ∈ sock₀.conns) {k : SockId} {sock : TcpSock} (hsock : w.tcpSock k = some sock)
    (hne : k ≠ k₀) : c ∉ sock.conns ++ sock.closedConns := by
  intro hother
  have hown := hconns.parent k₀ sock₀ c hk (List.mem_append_left _ hmem)
  have hparent := hconns.parent k sock c hsock hother
  exact hne (Option.some.inj (hparent.symm.trans hown))

/-- An established connection that is still open is not on the list of the closed ones. -/
theorem notMem_closed (hconns : ConnTables w) (hk : w.tcpSock k₀ = some sock₀)
    (hmem : c ∈ sock₀.conns) : c ∉ sock₀.closedConns := fun hclosed =>
  List.disjoint_of_nodup_append (hconns.nodup k₀ sock₀ hk) hmem hclosed

/-- **A connection written in place** shows only at its own end, on its own socket. -/
theorem peerState_write (hconns : ConnTables w) (hk : w.tcpSock k₀ = some sock₀)
    (hmem : c ∈ sock₀.conns) (hc : w.tcpConn c = some conn) (hremote : conn'.remote = conn.remote)
    (hsock : w'.tcpSock = w.tcpSock) (hconn : w'.tcpConn = Function.update w.tcpConn c (some conn'))
    {k : SockId} {e : UInt32 × UInt16} (hne : k = k₀ → conn.remote ≠ e) :
    peerState w' k e = peerState w k e := by
  unfold peerState
  rw [hsock, hconn]
  cases hk' : w.tcpSock k with
  | none => rfl
  | some sock =>
      have hlists : ∀ l : List ConnId, l.Sublist (sock.conns ++ sock.closedConns) →
          l.filterMap (peerConn (Function.update w.tcpConn c (some conn')) e)
            = l.filterMap (peerConn w.tcpConn e) := by
        intro l hl
        by_cases hkk : k = k₀
        · exact filterMap_update_of_ne hc hremote (hne hkk)
        · refine filterMap_update_of_notMem _ fun hin => ?_
          exact notMem_of_other hconns hk hmem hk' hkk (hl.subset hin)
      rw [Option.map_some, Option.map_some, hlists _ (List.sublist_append_left _ _),
        hlists _ (List.sublist_append_right _ _)]

/-- **A connection that is closed** moves at its own end only. -/
theorem peerState_close (hconns : ConnTables w) (hk : w.tcpSock k₀ = some sock₀)
    (hmem : c ∈ sock₀.conns) (hc : w.tcpConn c = some conn) (hremote : conn'.remote = conn.remote)
    (hsock : w'.tcpSock = Function.update w.tcpSock k₀ (some { sock₀ with
      conns := sock₀.conns.erase c, closedConns := c :: sock₀.closedConns }))
    (hconn : w'.tcpConn = Function.update w.tcpConn c (some conn'))
    {k : SockId} {e : UInt32 × UInt16} (hne : k = k₀ → conn.remote ≠ e) :
    peerState w' k e = peerState w k e := by
  by_cases hkk : k = k₀
  · subst hkk
    have hremote' : conn'.remote ≠ e := fun h => hne rfl (hremote.symm.trans h)
    unfold peerState
    rw [hsock, hconn, Function.update_self, hk, Option.map_some, Option.map_some]
    dsimp only
    rw [List.filterMap_cons, peerConn_some (Function.update_self ..), if_neg hremote',
      filterMap_erase_of_ne (Function.update_self ..) hremote',
      filterMap_update_of_ne hc hremote (hne rfl), filterMap_update_of_ne hc hremote (hne rfl)]
  · have hother : w'.tcpSock k = w.tcpSock k := by rw [hsock, Function.update_of_ne hkk]
    have hwritten : peerState { w with tcpConn := w'.tcpConn } k e = peerState w k e := by
      refine peerState_write hconns hk hmem hc hremote ?_ ?_ hne
      · rfl
      · exact hconn
    rw [← hwritten]
    unfold peerState
    rw [hother]

/-- **A connection that is opened** appears at its own end only. -/
theorem peerState_open (hconns : ConnTables w) (hk : w.tcpSock k₀ = some sock₀)
    (hsock : w'.tcpSock = Function.update w.tcpSock k₀ (some { sock₀ with
      conns := w.nextId :: sock₀.conns }))
    (hconn : w'.tcpConn = Function.update w.tcpConn w.nextId (some conn'))
    {k : SockId} {e : UInt32 × UInt16} (hne : k = k₀ → conn'.remote ≠ e) :
    peerState w' k e = peerState w k e := by
  have hfresh : ∀ {k : SockId} {sock : TcpSock}, w.tcpSock k = some sock →
      w.nextId ∉ sock.conns ++ sock.closedConns := fun hk hmem =>
    Nat.lt_irrefl _ (hconns.parent_lt hk hmem)
  have hlists : ∀ {k : SockId} {sock : TcpSock} (l : List ConnId), w.tcpSock k = some sock →
      l.Sublist (sock.conns ++ sock.closedConns) →
      l.filterMap (peerConn (Function.update w.tcpConn w.nextId (some conn')) e)
        = l.filterMap (peerConn w.tcpConn e) := fun l hk hl =>
    filterMap_update_of_notMem _ fun hin => hfresh hk (hl.subset hin)
  unfold peerState
  by_cases hkk : k = k₀
  · subst hkk
    rw [hsock, hconn, Function.update_self, hk, Option.map_some, Option.map_some]
    dsimp only
    rw [List.filterMap_cons, peerConn_some (Function.update_self ..), if_neg (hne rfl)]
    dsimp only
    rw [hlists _ hk (List.sublist_append_left _ _), hlists _ hk (List.sublist_append_right _ _)]
  · rw [hsock, hconn, Function.update_of_ne hkk]
    cases hk' : w.tcpSock k with
    | none => rfl
    | some sock =>
        rw [Option.map_some, Option.map_some, hlists _ hk' (List.sublist_append_left _ _),
          hlists _ hk' (List.sublist_append_right _ _)]

end Acts

/-! ### One frame -/

/-- The remote end a segment comes from. -/
def SkBuff.remote (skb : SkBuff) : UInt32 × UInt16 := (skb.ipPacket.srcIp, skb.segment.tcpSrc)

section Own

variable {w w' : World} {skb : SkBuff} {k : SockId} {sock : TcpSock} {c : ConnId}
  {conn conn' : TcpConnectionSock}

/-- What a socket has of one end, changed; and of every other end as it was. -/
def peerChange (w : World) (k : SockId) (e : UInt32 × UInt16) (f : PeerState → PeerState)
    (k' : SockId) (e' : UInt32 × UInt16) : Option PeerState :=
  if k' = k ∧ e' = e then (peerState w k' e').map f else peerState w k' e'

theorem peerChange_congr {e : UInt32 × UInt16} {f g : PeerState → PeerState}
    (h : ∀ s, peerState w k e = some s → f s = g s) (k' : SockId) (e' : UInt32 × UInt16) :
    peerChange w k e f k' e' = peerChange w k e g k' e' := by
  unfold peerChange
  split
  · rename_i hown
    obtain ⟨rfl, rfl⟩ := hown
    cases hs : peerState w k' e' with
    | none => rfl
    | some s => rw [Option.map_some, Option.map_some, h s hs]
  · rfl

theorem peerChange_id {e : UInt32 × UInt16} (k' : SockId) (e' : UInt32 × UInt16) :
    peerChange w k e id k' e' = peerState w k' e' := by
  unfold peerChange
  rw [Option.map_id, id, ite_self]

section Found

variable (hconns : ConnTables w) (hk : w.tcpSock k = some sock)
  (hfound : findMatchingConnection w sock skb.ipPacket.srcIp skb.segment.tcpSrc = some c)
  (hc : w.tcpConn c = some conn) (hremote : conn'.remote = conn.remote)
include hconns hk hfound hc

/-- The connection of a segment is the first of its end. -/
theorem peerState_cons {s : PeerState} (hs : peerState w k skb.remote = some s) :
    s.opened = conn.view :: s.opened.tail := by
  obtain ⟨-, rest, hbefore, -⟩ :=
    opened_cons hfound hc (List.nodup_append.mp (hconns.nodup k sock hk)).1
  rw [peerState, hk, Option.map_some] at hs
  obtain rfl := Option.some.inj hs
  show sock.conns.filterMap (peerConn w.tcpConn (skb.ipPacket.srcIp, skb.segment.tcpSrc))
    = conn.view :: (sock.conns.filterMap (peerConn w.tcpConn
      (skb.ipPacket.srcIp, skb.segment.tcpSrc))).tail
  rw [hbefore, List.tail_cons]

include hremote

/-- The connection is written in place. -/
theorem peerState_written (hsock : w'.tcpSock = w.tcpSock)
    (hconn : w'.tcpConn = Function.update w.tcpConn c (some conn'))
    (k' : SockId) (e : UInt32 × UInt16) :
    peerState w' k' e
      = peerChange w k skb.remote (fun s => { s with opened := conn'.view :: s.opened.tail }) k' e := by
  have hmem := (findMatchingConnection_live hfound).1
  obtain ⟨hends, rest, hbefore, hwritten, -⟩ :=
    opened_cons hfound hc (List.nodup_append.mp (hconns.nodup k sock hk)).1
  unfold peerChange
  split
  · rename_i hown
    obtain ⟨rfl, rfl⟩ := hown
    rw [peerState, peerState, hsock, hconn, hk, Option.map_some, Option.map_some, Option.map_some]
    unfold SkBuff.remote
    rw [hwritten conn' (hremote.trans hends), hbefore, List.tail_cons,
      filterMap_update_of_notMem _ (notMem_closed hconns hk hmem)]
  · rename_i hown
    exact peerState_write hconns hk hmem hc hremote hsock hconn fun hkk he =>
      hown ⟨hkk, he.symm.trans hends⟩

/-- The connection moves to the list of the closed ones. -/
theorem peerState_closed (hsock : w'.tcpSock = Function.update w.tcpSock k (some { sock with
      conns := sock.conns.erase c, closedConns := c :: sock.closedConns }))
    (hconn : w'.tcpConn = Function.update w.tcpConn c (some conn'))
    (k' : SockId) (e : UInt32 × UInt16) :
    peerState w' k' e
      = peerChange w k skb.remote
          (fun s => { s with opened := s.opened.tail, closed := conn'.view :: s.closed }) k' e := by
  have hmem := (findMatchingConnection_live hfound).1
  obtain ⟨hends, rest, hbefore, -, herased⟩ :=
    opened_cons hfound hc (List.nodup_append.mp (hconns.nodup k sock hk)).1
  unfold peerChange
  split
  · rename_i hown
    obtain ⟨rfl, rfl⟩ := hown
    rw [peerState, peerState, hsock, hconn, Function.update_self, hk, Option.map_some,
      Option.map_some, Option.map_some]
    unfold SkBuff.remote
    dsimp only
    rw [List.filterMap_cons, peerConn_some (Function.update_self ..),
      if_pos (hremote.trans hends), herased, hbefore, List.tail_cons,
      filterMap_update_of_notMem _ (notMem_closed hconns hk hmem)]
  · rename_i hown
    exact peerState_close hconns hk hmem hc hremote hsock hconn fun hkk he =>
      hown ⟨hkk, he.symm.trans hends⟩

end Found

/-- No connection of the segment's end is open where none was found. -/
theorem peerState_nil (hk : w.tcpSock k = some sock)
    (hfound : findMatchingConnection w sock skb.ipPacket.srcIp skb.segment.tcpSrc = none)
    {s : PeerState} (hs : peerState w k skb.remote = some s) :
    s.opened = [] ∧ s.listening = sock.listening := by
  rw [peerState, hk, Option.map_some] at hs
  obtain rfl := Option.some.inj hs
  exact ⟨opened_nil hfound, rfl⟩

/-- A new one is put in front. -/
theorem peerState_opened (hconns : ConnTables w) (hk : w.tcpSock k = some sock)
    (hends : conn'.remote = skb.remote)
    (hsock : w'.tcpSock = Function.update w.tcpSock k (some { sock with
      conns := w.nextId :: sock.conns }))
    (hconn : w'.tcpConn = Function.update w.tcpConn w.nextId (some conn'))
    (k' : SockId) (e : UInt32 × UInt16) :
    peerState w' k' e
      = peerChange w k skb.remote (fun s => { s with opened := conn'.view :: s.opened }) k' e := by
  unfold peerChange
  split
  · rename_i hown
    obtain ⟨rfl, rfl⟩ := hown
    have hfresh : w.nextId ∉ sock.conns ++ sock.closedConns := fun hmem =>
      Nat.lt_irrefl _ (hconns.parent_lt hk hmem)
    have hconns' : w.nextId ∉ sock.conns := fun hmem => hfresh (List.mem_append_left _ hmem)
    have hclosed : w.nextId ∉ sock.closedConns := fun hmem => hfresh (List.mem_append_right _ hmem)
    rw [peerState, peerState, hsock, hconn, Function.update_self, hk, Option.map_some,
      Option.map_some, Option.map_some]
    dsimp only
    rw [List.filterMap_cons, peerConn_some (Function.update_self ..), if_pos hends]
    dsimp only
    rw [filterMap_update_of_notMem _ hconns', filterMap_update_of_notMem _ hclosed]
  · rename_i hown
    exact peerState_open hconns hk hsock hconn fun hkk he => hown ⟨hkk, he.symm.trans hends⟩

end Own

section Step

variable {w w' : World} {skb : SkBuff} {k : SockId} {sock : TcpSock}

/-- Nothing done to the tables is nothing done to an end. -/
theorem peerState_refused (hacted : Acted .refuse skb w w') (k : SockId) (e : UInt32 × UInt16) :
    peerState w' k e = peerState w k e := by
  rw [peerState, hacted.tcpSock, hacted.tcpConn]
  rfl

/-- **A segment of an open connection takes its end one step.** -/
theorem stateAct_step {c : ConnId} {conn : TcpConnectionSock} (hconns : ConnTables w)
    (hk : w.tcpSock k = some sock)
    (hfound : findMatchingConnection w sock skb.ipPacket.srcIp skb.segment.tcpSrc = some c)
    (hc : w.tcpConn c = some conn) (hacted : Acted (stateAct skb c conn) skb w w')
    (k' : SockId) (e : UInt32 × UInt16) :
    peerState w' k' e = peerChange w k skb.remote (PeerState.step skb) k' e := by
  have hcons : ∀ s, peerState w k skb.remote = some s → s.opened = conn.view :: s.opened.tail :=
    fun s hs => peerState_cons hconns hk hfound hc hs
  have hparent : conn.parent = k := by
    have hmem := (findMatchingConnection_live hfound).1
    have hown := hconns.parent k sock c hk (List.mem_append_left _ hmem)
    rw [hc] at hown
    exact Option.some.inj hown
  have hrefused : Acted .refuse skb w w' → (∀ s, s.opened = conn.view :: s.opened.tail →
      PeerState.step skb s = s) →
      peerState w' k' e = peerChange w k skb.remote (PeerState.step skb) k' e := by
    intro hrefuse hstep
    rw [peerState_refused hrefuse, ← peerChange_id (k := k) (e := skb.remote)]
    exact peerChange_congr (fun s hs => (hstep s (hcons s hs)).symm) k' e
  unfold stateAct at hacted
  cases hstate : conn.state with
  | handleSynSent =>
      rw [hstate] at hacted
      dsimp only at hacted
      by_cases hflags : skb.segment.tcpFlags.ack ∧ ¬ skb.segment.tcpFlags.syn ∧
          skb.segment.tcpSeq = conn.rcv.nxt
      · rw [if_pos hflags] at hacted
        rw [peerState_written hconns hk hfound hc (by rfl) hacted.tcpSock hacted.tcpConn]
        refine peerChange_congr (fun s hs => ?_) k' e
        rw [PeerState.step_synSent (hcons s hs) hstate]
        exact (if_pos hflags).symm
      · rw [if_neg hflags] at hacted
        refine hrefused hacted fun s hs => ?_
        rw [PeerState.step_synSent hs hstate]
        exact if_neg hflags
  | handleEstab =>
      rw [hstate] at hacted
      dsimp only at hacted
      by_cases hseq : skb.segment.tcpSeq = conn.rcv.nxt
      · rw [if_pos hseq] at hacted
        have hin : skb.segment.tcpSeq = conn.view.rcv.nxt := hseq
        -- the socket the connection is moved on is its own
        have hmoved : ∀ {fin : Bool}, Acted (.close c conn fin) skb w w' →
            w'.tcpSock = Function.update w.tcpSock k (some { sock with
              conns := sock.conns.erase c, closedConns := c :: sock.closedConns }) := by
          intro fin h
          rw [h.tcpSock, SegmentAct.socks, hparent, hk, Option.elim_some]
        by_cases hrst : skb.segment.tcpFlags.rst = true
        · rw [if_pos hrst] at hacted
          rw [peerState_closed hconns hk hfound hc (by rfl) (hmoved hacted) hacted.tcpConn]
          refine peerChange_congr (fun s hs => ?_) k' e
          have hview : ({ conn with rcv := { conn.rcv with
              nxt := conn.rcv.nxt + if false = true then 1 else 0 } } : TcpConnectionSock).view
                = conn.view := by
            rw [if_neg Bool.false_ne_true, UInt32.add_zero]
          rw [hview, PeerState.step_estab (hcons s hs) hstate, if_pos hin, if_pos hrst]
        rw [if_neg hrst] at hacted
        by_cases hfin : skb.segment.tcpFlags.fin = true
        · rw [if_pos hfin] at hacted
          rw [peerState_closed hconns hk hfound hc (by rfl) (hmoved hacted) hacted.tcpConn]
          refine peerChange_congr (fun s hs => ?_) k' e
          rw [PeerState.step_estab (hcons s hs) hstate, if_pos hin, if_neg hrst, if_pos hfin,
            if_pos rfl]
          rfl
        · rw [if_neg hfin] at hacted
          rw [peerState_written hconns hk hfound hc (by rfl) hacted.tcpSock hacted.tcpConn]
          refine peerChange_congr (fun s hs => ?_) k' e
          rw [PeerState.step_estab (hcons s hs) hstate, if_pos hin, if_neg hrst, if_neg hfin]
          rfl
      · rw [if_neg hseq] at hacted
        refine hrefused hacted fun s hs => ?_
        rw [PeerState.step_estab hs hstate]
        exact if_neg hseq

/-- **What `tcp_input` does is one step of one end.** -/
theorem segmentAct_step (hconns : ConnTables w) (hacted : Acted (segmentAct w skb) skb w w')
    (k' : SockId) (e : UInt32 × UInt16) :
    peerState w' k' e = (rxSock w skb).elim (peerState w k' e) fun k =>
      peerChange w k skb.remote (PeerState.step skb) k' e := by
  cases hsock : rxSock w skb with
  | none =>
      rw [segmentAct, hsock] at hacted
      exact peerState_refused hacted k' e
  | some k =>
      obtain ⟨sock, hk⟩ := rxSock_live hsock
      rw [segmentAct, hsock, Option.elim_some, hk, Option.elim_some] at hacted
      rw [Option.elim_some]
      unfold sockAct at hacted
      cases hfound : findMatchingConnection w sock skb.ipPacket.srcIp skb.segment.tcpSrc with
      | some c =>
          obtain ⟨-, conn, hc, -⟩ := findMatchingConnection_live hfound
          rw [hfound] at hacted
          simp only [hc, Option.elim_some] at hacted
          exact stateAct_step hconns hk hfound hc hacted k' e
      | none =>
          rw [hfound] at hacted
          dsimp only at hacted
          have hnil : ∀ s, peerState w k skb.remote = some s →
              s.opened = [] ∧ s.listening = sock.listening := fun s hs => peerState_nil hk hfound hs
          by_cases hopens : sock.listening = true ∧ skb.segment.tcpFlags.syn = true ∧
              ¬ skb.segment.tcpFlags.ack = true
          · rw [if_pos hopens] at hacted
            rw [peerState_opened hconns hk (by rfl) hacted.tcpSock hacted.tcpConn]
            refine peerChange_congr (fun s hs => ?_) k' e
            obtain ⟨hopened, hlisten⟩ := hnil s hs
            rw [PeerState.step_nil hopened, hlisten, if_pos hopens, hopened]
            rfl
          · rw [if_neg hopens] at hacted
            rw [peerState_refused hacted, ← peerChange_id (k := k) (e := skb.remote)]
            refine peerChange_congr (fun s hs => ?_) k' e
            obtain ⟨hopened, hlisten⟩ := hnil s hs
            rw [PeerState.step_nil hopened, hlisten, if_neg hopens]
            rfl

end Step

/-! ### Frames of segments -/

/-- A received frame leaves the network as it was, also when it stops the run. -/
theorem recvFrame_sameNetwork (i : IntfId) (frame : List UInt8) (w : World) :
    SameNetwork w (final (recvFrame i frame) w) := by
  have hchanges := recvFrame_changes i frame w
  have hframe := hchanges.frame (Nat.le_refl _)
  refine ⟨?_, ?_, ?_, ?_, ?_, fun k => hchanges.core (Nat.le_refl _) k⟩ <;> rw [hframe] <;> rfl

/-- The same socket is found for a segment. -/
theorem SameNetwork.rxSock {w t : World} (h : SameNetwork w t) (skb : SkBuff) :
    rxSock t skb = rxSock w skb := by
  have hport : ∀ k (port : UInt16), (t.tcpSock k).any (fun sock => sock.localPort == port)
      = (w.tcpSock k).any (fun sock => sock.localPort == port) := by
    intro k port
    have hcore := congrArg (Option.any fun sock : TcpSock => sock.localPort == port) (h.core k)
    rwa [Option.any_map, Option.any_map] at hcore
  unfold SimpleTcpip.rxSock tcpSocksManagerFind
  simp only [h.tcpSocks, hport]

/-- A frame on an interface. -/
abbrev Arrival : Type := IntfId × List UInt8

/-- The buffer of a frame, but for its identity. -/
def Arrival.skb (f : Arrival) : SkBuff := recvBuffer 0 f.1 f.2

/-- **A frame carries a whole TCP segment for the node from a remote end that is not the node's
own.** -/
structure SegmentFor (w : World) (f : Arrival) : Prop where
  taken : TakenTo w ipProtoTcp f.skb
  hdr : ethHdrSize + ipHdrSize + tcpHdrSize ≤ f.skb.len
  remote : ∀ intf, w.intf f.1 = some intf → isIpLocal w intf.node f.skb.ipPacket.srcIp = false

instance (w : World) (f : Arrival) : Decidable (SegmentFor w f) :=
  decidable_of_iff (TakenTo w ipProtoTcp f.skb ∧
      ethHdrSize + ipHdrSize + tcpHdrSize ≤ f.skb.len ∧
      (w.intf f.1).all (fun intf => !isIpLocal w intf.node f.skb.ipPacket.srcIp) = true) <| by
    rw [Option.all_eq_true]
    simp only [Bool.not_eq_true']
    exact ⟨fun h => ⟨h.1, h.2.1, h.2.2⟩, fun h => ⟨h.taken, h.hdr, h.remote⟩⟩

theorem SameNetwork.isIpLocal {w t : World} (h : SameNetwork w t) (n : NodeId) (ip : UInt32) :
    isIpLocal t n ip = isIpLocal w n ip := by
  unfold SimpleTcpip.isIpLocal nodeIntfs
  rw [h.node, h.intf]

theorem SameNetwork.segmentFor {w t : World} (h : SameNetwork w t) {f : Arrival}
    (hf : SegmentFor w f) : SegmentFor t f := by
  obtain ⟨⟨⟨i, intf, hi, hintf, hconfig, hlen, hqual, htype, hlocal⟩, hproto⟩, hhdr, hremote⟩ := hf
  refine ⟨⟨⟨i, intf, hi, by rw [h.intf, hintf], hconfig, hlen, hqual, htype, ?_⟩, hproto⟩, hhdr, ?_⟩
  · rw [h.isIpLocal, hlocal]
  · intro intf' hintf'
    rw [h.intf] at hintf'
    rw [h.isIpLocal, hremote intf' hintf']

/-- What a frame does to an end of a socket. -/
def Arrival.step (w : World) (k : SockId) (e : UInt32 × UInt16) (f : Arrival)
    (s : Option PeerState) : Option PeerState :=
  if rxSock w f.skb = some k ∧ f.skb.remote = e then s.map (PeerState.step f.skb) else s

/-- **A frame with a segment takes its end one step, and no other.** -/
theorem recvFrame_step {w w' : World} {f : Arrival} {u : Unit} (hconns : ConnTables w)
    (hf : SegmentFor w f) (hrun : recvFrame f.1 f.2 w = .ok u w') (k : SockId)
    (e : UInt32 × UInt16) : peerState w' k e = f.step w k e (peerState w k e) := by
  have htaken : TakenTo (w.received f.1 f.2) ipProtoTcp (recvBuffer w.nextId f.1 f.2) := hf.taken
  have hconns' : ConnTables (w.received f.1 f.2) :=
    ⟨fun c hc => Nat.lt_succ_of_lt (hconns.connLt c hc), hconns.parent, hconns.nodup,
      hconns.closed, hconns.accepted⟩
  rcases recvFrame_acted hconns.connLt hrun with ⟨-, hacted⟩ | ⟨hnot, -⟩
  · rw [segmentAct_step hconns' hacted]
    have hsock : rxSock (w.received f.1 f.2) (recvBuffer w.nextId f.1 f.2) = rxSock w f.skb := rfl
    rw [hsock, Arrival.step]
    cases hk : rxSock w f.skb with
    | none =>
        rw [if_neg (by rintro ⟨h, -⟩; cases h)]
        rfl
    | some k₀ =>
        rw [Option.elim_some, peerChange]
        by_cases hown : k = k₀ ∧ e = f.skb.remote
        · obtain ⟨rfl, rfl⟩ := hown
          rw [if_pos ⟨rfl, rfl⟩, if_pos (by exact ⟨rfl, rfl⟩)]
          rfl
        · rw [if_neg (by exact hown), if_neg fun h => hown ⟨(Option.some.inj h.1).symm, h.2.symm⟩]
          rfl
  · exact absurd htaken hnot

/-- The answer to a remote end that is not the node's own runs to its end. -/
theorem replies_remote {w : World} (hgraph : GraphOk w) {k : SockId} {sock : TcpSock} {i : IntfId}
    {intf : Intf} (hk : w.tcpSock k = some sock) (hbound : sock.intf = some i)
    (hintf : w.intf i = some intf) {ip : UInt32} {port : UInt16}
    (hremote : isIpLocal w intf.node ip = false) :
    Replies (fun _ => False) 1 w k ip port := by
  intro t c conn flags hsame hc hparent hip _
  have hcore := hsame.core k
  rw [hk, Option.map_some] at hcore
  obtain ⟨parent, hparent', hsock⟩ := Option.map_eq_some_iff.mp hcore
  have hi : parent.intf = some i := (congrArg TcpSock.intf hsock).trans hbound
  have hlive : t.intf i = some intf := by rw [hsame.intf, hintf]
  refine tcpOut_faultsIn hc (by rw [hparent, hparent']) ?_ (fun hnone => ?_) (fun j hj => ?_)
    fun j intf' hj hintf' => ?_
  · exact Or.inr (hgraph.of_frame hsame.intf hsame.link hsame.rtTable)
  · rw [hi] at hnone
    cases hnone
  · obtain rfl := Option.some.inj (hi.symm.trans hj)
    exact Or.inr (by rw [hlive]; rfl)
  · obtain rfl := Option.some.inj (hi.symm.trans hj)
    obtain rfl := Option.some.inj (hlive.symm.trans hintf')
    refine Or.inr ?_
    rw [hip, hsame.isIpLocal, hremote]

/-- **A frame with a segment is received without a fault.** -/
theorem recvFrame_completes {w : World} (hw : Reachable w) {f : Arrival} (hf : SegmentFor w f) :
    ∃ w', recvFrame f.1 f.2 w = .ok ⟨⟩ w' := by
  have hconns : ConnTables (w.received f.1 f.2) := by
    have hconns := hw.connTables
    exact ⟨fun c hc => Nat.lt_succ_of_lt (hconns.connLt c hc), hconns.parent, hconns.nodup,
      hconns.closed, hconns.accepted⟩
  have hfilled := filled_recvBuffer w.nextId f.1 f.2
  have hhdr := hf.hdr
  have hlen : ethHdrSize + ipHdrSize ≤ (recvBuffer w.nextId f.1 f.2).len :=
    Nat.le_trans (Nat.le_add_right _ _) hhdr
  have hseglen : tcpHdrSize ≤ (recvBuffer w.nextId f.1 f.2).segment.len := by
    rw [segment_len hlen]
    exact Nat.le_sub_of_add_le (by rw [Nat.add_comm]; exact hhdr)
  have hip : IpAccepted (w.received f.1 f.2) (recvBuffer w.nextId f.1 f.2) := hf.taken.1
  have hproto : (recvBuffer w.nextId f.1 f.2).ipPacket.proto = ipProtoTcp := hf.taken.2
  have hin : FaultsIn (fun _ => False) (pktReceive (recvBuffer w.nextId f.1 f.2))
      (w.received f.1 f.2) := by
    unfold FaultsIn
    rw [pktReceive_accepted hip hfilled hlen, ipInput, callDepth, ipInput_run hfilled hlen,
      if_neg (by rw [hproto]; decide), if_pos hproto]
    refine tcpInput_faultsIn ?_ hfilled hlen rfl (.of_hdr hseglen) fun _ k hk => ?_
    · exact ⟨hconns.connLt, hconns.parent, hconns.nodup, hconns.closed, hconns.accepted⟩
    · -- the socket that was found is bound to the interface of the frame
      obtain ⟨sock, hlive⟩ := rxSock_live hk
      have hk' : rxSock w (recvBuffer w.nextId f.1 f.2) = some k := hk
      have hlisted : k ∈ w.tcpSocks f.1 := by
        rw [rxSock, show (recvBuffer w.nextId f.1 f.2).intf = some f.1 from rfl,
          Option.bind_some] at hk'
        exact List.mem_of_find?_eq_some hk'
      have hbound := hw.sockTables.listed f.1 k hlisted
      have hlive' : w.tcpSock k = some sock := hlive
      rw [hlive', Option.map_some] at hbound
      obtain ⟨i, intf, hi, hintf, -⟩ := hf.taken.1
      obtain rfl : f.1 = i := Option.some.inj hi
      refine replies_remote ?_ hlive (Prod.mk.inj (Option.some.inj hbound)).2 hintf ?_
      · exact hw.graphOk.of_frame rfl rfl rfl
      · exact hf.remote intf hintf
  obtain ⟨r, t, hrun⟩ := completes_of_faultsIn hin
  refine ⟨{ t with trace := t.trace ++ if !r then [.free (recvBuffer w.nextId f.1 f.2).id] else [] },
    ?_⟩
  unfold recvFrame
  rw [run_bind_ok (recvSkb_eq f.1 f.2 w), run_bind_ok hrun]
  cases r with
  | true =>
      rw [show (if !true then [Event.free (recvBuffer w.nextId f.1 f.2).id] else []) = [] from rfl,
        List.append_nil]
      rfl
  | false => rfl

/-! ### Interleavings -/

/-- The calls that receive frames. -/
def receive (fs : List Arrival) : List Op := fs.map fun f => .recvFrame f.1 f.2

/-- **The frames of a run take each end of each socket its own steps.** -/
theorem receive_step {w : World} (hw : Reachable w) {fs : List Arrival}
    (hfs : ∀ f ∈ fs, SegmentFor w f) :
    ∃ w', runOps w (receive fs) = some w' ∧ ∀ k e,
      peerState w' k e = fs.foldl (fun s f => f.step w k e s) (peerState w k e) := by
  induction fs generalizing w with
  | nil => exact ⟨w, rfl, fun _ _ => rfl⟩
  | cons f fs ih =>
      have hf := hfs f List.mem_cons_self
      obtain ⟨t, ht⟩ := recvFrame_completes hw hf
      have hrun : runOp (.recvFrame f.1 f.2) w = .ok .unit t := by
        rw [runOp, run_bind_ok ht]
        rfl
      have hvalid : (Op.recvFrame f.1 f.2).Valid w := by
        obtain ⟨i, intf, hi, hintf, -⟩ := hf.taken.1
        obtain rfl : f.1 = i := Option.some.inj hi
        exact Option.isSome_iff_exists.mpr ⟨intf, hintf⟩
      have hsame : SameNetwork w t := by
        have := recvFrame_sameNetwork f.1 f.2 w
        rwa [final_of_ok ht] at this
      obtain ⟨w', hrest, hstep⟩ := ih (hw.step hvalid hrun) fun g hg =>
        hsame.segmentFor (hfs g (List.mem_cons_of_mem _ hg))
      refine ⟨w', ?_, fun k e => ?_⟩
      · rw [receive, List.map_cons, runOps, List.foldlM_cons, Op.step?, if_pos hvalid, hrun]
        exact hrest
      · rw [hstep, List.foldl_cons, recvFrame_step hw.connTables hf ht]
        have hsocks : ∀ g : Arrival, g.step t k e = g.step w k e := by
          intro g
          unfold Arrival.step
          rw [hsame.rxSock]
        simp only [hsocks]

/-- Frames of other ends make no difference to an end. -/
theorem foldl_step_filter (w : World) (k : SockId) (e : UInt32 × UInt16) (fs : List Arrival)
    (s : Option PeerState) :
    (fs.filter fun f => f.skb.remote = e).foldl (fun s f => f.step w k e s) s
      = fs.foldl (fun s f => f.step w k e s) s := by
  induction fs generalizing s with
  | nil => rfl
  | cons f fs ih =>
      by_cases hremote : f.skb.remote = e
      · rw [List.filter_cons_of_pos (by simpa using hremote), List.foldl_cons, List.foldl_cons, ih]
      · rw [List.filter_cons_of_neg (by simpa using hremote), List.foldl_cons, ih]
        have hskip : f.step w k e s = s := if_neg fun h => hremote h.2
        rw [hskip]

/--
**The connections of a remote end do not depend on the others**: whatever segments of
non-local ends arrive, in whatever order, the connections of one end on a socket come to the
same states, with the same bytes queued and the same of them open and closed, as when only
the segments of that end arrive.
-/
theorem connection_isolation {w : World} (hw : Reachable w) (k : SockId) (e : UInt32 × UInt16)
    (fs : List Arrival) (hfs : ∀ f ∈ fs, SegmentFor w f) :
    ∃ w₁ w₂, runOps w (receive fs) = some w₁ ∧
      runOps w (receive (fs.filter fun f => f.skb.remote = e)) = some w₂ ∧
      peerState w₁ k e = peerState w₂ k e := by
  obtain ⟨w₁, hrun₁, hstep₁⟩ := receive_step hw hfs
  have hfs' : ∀ f ∈ fs.filter fun f => f.skb.remote = e, SegmentFor w f :=
    fun f hf => hfs f (List.mem_filter.mp hf).1
  obtain ⟨w₂, hrun₂, hstep₂⟩ := receive_step hw hfs'
  refine ⟨w₁, w₂, hrun₁, hrun₂, ?_⟩
  rw [hstep₁, hstep₂, foldl_step_filter]

/-- The segments of two ends that each open a connection to port 80, interleaved. -/
def Fixture.twoPeers : List Arrival :=
  [(0, Fixture.tcpFrame 5 7 0x02 []), (0, Fixture.tcpFrame 6 9 0x02 []),
    (0, Fixture.tcpFrame 6 10 0x10 []), (0, Fixture.tcpFrame 5 8 0x10 []),
    (0, Fixture.tcpFrame 6 10 0x14 []), (0, Fixture.tcpFrame 5 8 0x10 [1, 2, 3])]

theorem connection_isolation_fixture :
    ∃ w₁ w₂, runOps (Fixture.after Fixture.listen) (receive Fixture.twoPeers) = some w₁ ∧
      runOps (Fixture.after Fixture.listen) (receive (Fixture.twoPeers.filter fun f =>
        f.skb.remote = (Fixture.addr 192 168 89 2, 5))) = some w₂ ∧
      peerState w₁ 0 (Fixture.addr 192 168 89 2, 5) = peerState w₂ 0 (Fixture.addr 192 168 89 2, 5) :=
  connection_isolation (Fixture.reachable_after _) 0 (Fixture.addr 192 168 89 2, 5) Fixture.twoPeers
    (by decide +kernel)

end SimpleTcpip
