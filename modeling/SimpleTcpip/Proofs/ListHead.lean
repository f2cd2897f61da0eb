/-
What the functions of list.h do to a ring of cells.

The ring around a list head represents the sequence of its nodes.  `list_add` and `list_del`
are the insertion and the removal of a ring, statement for statement, so the ring they leave
represents the longer and the shorter sequence; and the loops walk along the sequence, also
while their body takes the node away under them.
-/
import SimpleTcpip.Lib.Fallible
import SimpleTcpip.Lib.Ring
import SimpleTcpip.Model.ListHead

namespace SimpleTcpip

open Fallible

variable {σ : Type} {m m' : Heap σ} {p q n x head : Addr} {xs : List Addr}

/-! ### Cells -/

namespace Heap

/-- The fields of the cells. -/
def links (m : Heap σ) : Links Addr where
  next p := (m.cell p).map ListHead.next
  prev p := (m.cell p).map ListHead.prev

/-- The ring around a list head represents a sequence of nodes. -/
def Represents (m : Heap σ) (head : Addr) (xs : List Addr) : Prop := m.links.Circular head xs

/-- The memory after `p->next = q`. -/
def withNext (m : Heap σ) (p q : Addr) : Heap σ :=
  { m with cell := Function.update m.cell p ((m.cell p).map fun cell => { cell with next := q }) }

/-- The memory after `p->prev = q`. -/
def withPrev (m : Heap σ) (p q : Addr) : Heap σ :=
  { m with cell := Function.update m.cell p ((m.cell p).map fun cell => { cell with prev := q }) }

theorem cell_withNext : (m.withNext p q).cell
    = Function.update m.cell p ((m.cell p).map fun cell => { cell with next := q }) := rfl

theorem cell_withPrev : (m.withPrev p q).cell
    = Function.update m.cell p ((m.cell p).map fun cell => { cell with prev := q }) := rfl

theorem cell_withNext_self (h : m.cell p = some ⟨n, q⟩) (x : Addr) :
    (m.withNext p x).cell p = some ⟨x, q⟩ := by
  rw [cell_withNext, Function.update_self, h, Option.map_some]

theorem cell_withPrev_self (h : m.cell p = some ⟨n, q⟩) (x : Addr) :
    (m.withPrev p x).cell p = some ⟨n, x⟩ := by
  rw [cell_withPrev, Function.update_self, h, Option.map_some]

theorem cell_withNext_of_ne (h : x ≠ p) : (m.withNext p q).cell x = m.cell x :=
  Function.update_of_ne h _ _

theorem cell_withPrev_of_ne (h : x ≠ p) : (m.withPrev p q).cell x = m.cell x :=
  Function.update_of_ne h _ _

@[simp] theorem isSome_withNext : ((m.withNext p q).cell x).isSome = (m.cell x).isSome := by
  by_cases h : x = p
  · rw [h, cell_withNext, Function.update_self, Option.isSome_map]
  · rw [cell_withNext_of_ne h]

@[simp] theorem isSome_withPrev : ((m.withPrev p q).cell x).isSome = (m.cell x).isSome := by
  by_cases h : x = p
  · rw [h, cell_withPrev, Function.update_self, Option.isSome_map]
  · rw [cell_withPrev_of_ne h]

theorem links_withNext (h : (m.cell p).isSome) :
    (m.withNext p q).links = m.links.setNext p q := by
  obtain ⟨cell, hcell⟩ := Option.isSome_iff_exists.mp h
  refine congrArg₂ Links.mk (funext fun x => ?_) (funext fun x => ?_)
  · by_cases hx : x = p
    · rw [hx, Function.update_self, cell_withNext_self hcell]
      rfl
    · rw [Function.update_of_ne hx, cell_withNext_of_ne hx]
      rfl
  · by_cases hx : x = p
    · rw [hx, cell_withNext_self hcell]
      exact (congrArg (Option.map ListHead.prev) hcell).symm
    · rw [cell_withNext_of_ne hx]
      rfl

theorem links_withPrev (h : (m.cell p).isSome) :
    (m.withPrev p q).links = m.links.setPrev p q := by
  obtain ⟨cell, hcell⟩ := Option.isSome_iff_exists.mp h
  refine congrArg₂ Links.mk (funext fun x => ?_) (funext fun x => ?_)
  · by_cases hx : x = p
    · rw [hx, cell_withPrev_self hcell]
      exact (congrArg (Option.map ListHead.next) hcell).symm
    · rw [cell_withPrev_of_ne hx]
      rfl
  · by_cases hx : x = p
    · rw [hx, Function.update_self, cell_withPrev_self hcell]
      rfl
    · rw [Function.update_of_ne hx, cell_withPrev_of_ne hx]
      rfl

/-- A cell whose fields are known. -/
theorem cell_of_links (hnext : m.links.next p = some n) (hprev : m.links.prev p = some q) :
    m.cell p = some ⟨n, q⟩ := by
  obtain ⟨cell, hcell, rfl⟩ := Option.map_eq_some_iff.mp hnext
  obtain ⟨cell', hcell', rfl⟩ := Option.map_eq_some_iff.mp hprev
  obtain rfl := Option.some.inj (hcell.symm.trans hcell')
  exact hcell

namespace Represents

/-- The cell of the list head. -/
theorem cell_head (h : m.Represents head xs) :
    m.cell head = some ⟨xs.head?.getD head, xs.getLast?.getD head⟩ :=
  cell_of_links h.linked_head.1 h.linked_last.2

/-- The cell of a node. -/
theorem cell_node {l r : List Addr} (h : m.Represents head (l ++ x :: r)) :
    m.cell x = some ⟨r.head?.getD head, l.getLast?.getD head⟩ :=
  cell_of_links h.linked_around.2.1 h.linked_around.1.2

/-- Every cell of a ring is allocated. -/
theorem isSome_cell (h : m.Represents head xs) (hp : p ∈ head :: xs) : (m.cell p).isSome := by
  rcases List.mem_cons.mp hp with rfl | hp
  · rw [h.cell_head]
    rfl
  · obtain ⟨l, r, rfl⟩ := List.append_of_mem hp
    rw [h.cell_node]
    rfl

/-- Only the cells of the ring matter. -/
theorem congr (h : m.Represents head xs) (hcell : ∀ p ∈ head :: xs, m'.cell p = m.cell p) :
    m'.Represents head xs :=
  Links.Circular.congr h (fun p hp => congrArg (Option.map ListHead.next) (hcell p hp))
    fun p hp => congrArg (Option.map ListHead.prev) (hcell p hp)

end Represents

end Heap

/-! ### Statements -/

theorem derefListHead_run {cell : ListHead} (h : m.cell p = some cell) :
    derefListHead p m = .ok cell m := by
  rw [derefListHead, run_bind_ok (run_get m), h]
  rfl

theorem setNext_run (h : (m.cell p).isSome) : setNext p q m = .ok ⟨⟩ (m.withNext p q) := by
  obtain ⟨cell, hcell⟩ := Option.isSome_iff_exists.mp h
  rw [setNext, run_bind_ok (derefListHead_run hcell), run_modify, Heap.withNext, hcell]
  rfl

theorem setPrev_run (h : (m.cell p).isSome) : setPrev p q m = .ok ⟨⟩ (m.withPrev p q) := by
  obtain ⟨cell, hcell⟩ := Option.isSome_iff_exists.mp h
  rw [setPrev, run_bind_ok (derefListHead_run hcell), run_modify, Heap.withPrev, hcell]
  rfl

/-! ### The functions -/

/-- **`INIT_LIST_HEAD`** makes a ring without nodes. -/
theorem initListHead_run (h : (m.cell head).isSome) :
    ∃ m', initListHead head m = .ok ⟨⟩ m' ∧ m'.Represents head [] := by
  refine ⟨(m.withPrev head head).withNext head head, ?_, ?_⟩
  · rw [initListHead, run_bind_ok (setPrev_run h), setNext_run (by simpa using h)]
  · rw [Heap.Represents, Heap.links_withNext (by simpa using h), Heap.links_withPrev h]
    exact Links.Circular.nil m.links head

/-- The memory `list_add` leaves. -/
def Heap.added (m : Heap σ) (new head first : Addr) : Heap σ :=
  (((m.withPrev new head).withNext new first).withNext head new).withPrev first new

/-- **`list_add`, statement by statement.** -/
theorem listAdd_run {new : Addr} {first last : Addr} (hhead : m.cell head = some ⟨first, last⟩)
    (hfirst : (m.cell first).isSome) (hnew : (m.cell new).isSome) (hne : new ≠ head) :
    listAdd new head m = .ok ⟨⟩ (m.added new head first) := by
  obtain ⟨cell, hcell⟩ := Option.isSome_iff_exists.mp hnew
  have hcell1 : (m.withPrev new head).cell new = some ⟨cell.next, head⟩ :=
    Heap.cell_withPrev_self hcell head
  have hcell2 : ((m.withPrev new head).withNext new first).cell new = some ⟨first, head⟩ :=
    Heap.cell_withNext_self hcell1 first
  have hcell3 : (((m.withPrev new head).withNext new first).withNext head new).cell new
      = some ⟨first, head⟩ := by
    rw [Heap.cell_withNext_of_ne hne, hcell2]
  have hhead1 : (m.withPrev new head).cell head = some ⟨first, last⟩ := by
    rw [Heap.cell_withPrev_of_ne hne.symm, hhead]
  have hsome : (m.cell head).isSome := by
    rw [hhead]
    rfl
  rw [listAdd, run_bind_ok (setPrev_run hnew), run_bind_ok (derefListHead_run hhead1),
    run_bind_ok (setNext_run (by simpa using hnew)), run_bind_ok (derefListHead_run hcell2),
    run_bind_ok (setNext_run (by simpa using hsome)), run_bind_ok (derefListHead_run hcell3),
    setPrev_run (by simpa using hfirst)]
  rfl

/-- The memory `list_del` leaves. -/
def Heap.deleted (m : Heap σ) (p n : Addr) : Heap σ := (m.withNext p n).withPrev n p

/-- **`list_del`, statement by statement.** -/
theorem listDel_run (hx : m.cell x = some ⟨n, p⟩) (hp : (m.cell p).isSome)
    (hn : (m.cell n).isSome) (hne : x ≠ p) : listDel x m = .ok ⟨⟩ (m.deleted p n) := by
  have hx1 : (m.withNext p n).cell x = some ⟨n, p⟩ := by
    rw [Heap.cell_withNext_of_ne hne, hx]
  rw [listDel, run_bind_ok (derefListHead_run hx), run_bind_ok (setNext_run hp),
    run_bind_ok (derefListHead_run hx1), setPrev_run (by simpa using hn)]
  rfl

/-! ### Rings -/

theorem head?_getD_mem (l : List Addr) (head : Addr) : l.head?.getD head ∈ head :: l := by
  cases l with
  | nil => exact List.mem_cons_self
  | cons a t => exact List.mem_cons_of_mem head List.mem_cons_self

theorem getLast?_getD_mem (l : List Addr) (head : Addr) : l.getLast?.getD head ∈ head :: l :=
  List.mem_of_getLast? List.getLast?_cons

theorem head?_append_singleton (l : List Addr) (head : Addr) :
    (l ++ [head]).head? = some (l.head?.getD head) := by
  cases l <;> rfl

namespace Heap.Represents

/-- **`list_add` puts a node in front**, and changes no cell but its own outside the ring. -/
theorem listAdd_ok {new : Addr} (h : m.Represents head xs) (hnew : new ∉ head :: xs)
    (halloc : (m.cell new).isSome) :
    ∃ m', listAdd new head m = .ok ⟨⟩ m' ∧ m'.Represents head (new :: xs) ∧
      ∀ p, p ∉ new :: head :: xs → m'.cell p = m.cell p := by
  have hmem := head?_getD_mem xs head
  have hhead := h.isSome_cell (p := head) List.mem_cons_self
  have hfirst := h.isSome_cell hmem
  have hne : new ≠ head := fun heq => hnew (heq ▸ List.mem_cons_self)
  refine ⟨_, listAdd_run h.cell_head hfirst halloc hne, ?_, fun p hp => ?_⟩
  · have hlinks : (m.added new head (xs.head?.getD head)).links
        = m.links.insert new head (xs.head?.getD head) := by
      rw [Heap.added, links_withPrev (by simpa using hfirst), links_withNext (by simpa using hhead),
        links_withNext (by simpa using halloc), links_withPrev halloc]
      rfl
    rw [Represents, hlinks]
    exact Links.Circular.insert h hnew (head?_append_singleton xs head)
  · obtain ⟨hpnew, hp⟩ := not_or.mp (fun hor => hp (List.mem_cons.mpr hor))
    have hphead : p ≠ head := fun heq => hp (heq ▸ List.mem_cons_self)
    have hpfirst : p ≠ xs.head?.getD head := fun heq => hp (heq ▸ hmem)
    rw [Heap.added, cell_withPrev_of_ne hpfirst, cell_withNext_of_ne hphead,
      cell_withNext_of_ne hpnew, cell_withPrev_of_ne hpnew]

/-- **`list_del` takes a node out**, and changes no cell outside the ring. -/
theorem listDel_ok (h : m.Represents head xs) (hx : x ∈ xs) :
    ∃ m', listDel x m = .ok ⟨⟩ m' ∧ m'.Represents head (xs.erase x) ∧
      ∀ p, p ∉ head :: xs → m'.cell p = m.cell p := by
  obtain ⟨l, r, rfl⟩ := List.append_of_mem hx
  obtain ⟨hfront, -, hdisjoint⟩ := List.nodup_append.mp
    (show (head :: l ++ x :: r).Nodup from h.nodup)
  have hpmem := getLast?_getD_mem l head
  have hnmem := head?_getD_mem r head
  have hpring : l.getLast?.getD head ∈ head :: (l ++ x :: r) := List.mem_append_left (x :: r) hpmem
  have hnring : r.head?.getD head ∈ head :: (l ++ x :: r) := by
    rcases List.mem_cons.mp hnmem with heq | hmem
    · rw [heq]
      exact List.mem_cons_self
    · exact List.mem_append_right (head :: l) (List.mem_cons_of_mem x hmem)
  have hp := h.isSome_cell hpring
  have hn := h.isSome_cell hnring
  have hne : x ≠ l.getLast?.getD head := fun heq =>
    hdisjoint _ hpmem x List.mem_cons_self heq.symm
  have hxl : x ∉ l := fun hmem =>
    hdisjoint x (List.mem_cons_of_mem head hmem) x List.mem_cons_self rfl
  refine ⟨_, listDel_run h.cell_node hp hn hne, ?_, fun q hq => ?_⟩
  · have hlinks : (m.deleted (l.getLast?.getD head) (r.head?.getD head)).links
        = m.links.remove (l.getLast?.getD head) (r.head?.getD head) := by
      rw [Heap.deleted, links_withPrev (by simpa using hn), links_withNext hp]
      rfl
    rw [Represents, hlinks, List.erase_append_right _ hxl, List.erase_cons_head]
    exact Links.Circular.remove h List.getLast?_cons (head?_append_singleton r head)
  · have hqp : q ≠ l.getLast?.getD head := fun heq => hq (heq ▸ hpring)
    have hqn : q ≠ r.head?.getD head := fun heq => hq (heq ▸ hnring)
    rw [Heap.deleted, cell_withPrev_of_ne hqn, cell_withNext_of_ne hqp]

/-- `list_empty` is a test of the sequence. -/
theorem listEmpty_run (h : m.Represents head xs) : listEmpty head m = .ok xs.isEmpty m := by
  rw [listEmpty, run_bind_ok (derefListHead_run h.cell_head), run_pure]
  have hempty := h.next_head_eq
  rw [h.linked_head.1, Option.some.injEq] at hempty
  cases xs with
  | nil => rw [beq_iff_eq.mpr (hempty.mpr rfl), List.isEmpty_nil]
  | cons a t =>
      rw [List.isEmpty_cons, beq_eq_false_iff_ne.mpr fun heq => List.cons_ne_nil a t (hempty.mp heq)]

theorem listLastEntry_run (h : m.Represents head xs) (member : Addr) :
    listLastEntry head member m = .ok (listEntry (xs.getLast?.getD head) member) m := by
  rw [listLastEntry, run_bind_ok (derefListHead_run h.cell_head), run_pure]

theorem listFirstEntry_run (h : m.Represents head xs) (member : Addr) :
    listFirstEntry head member m = .ok (listEntry (xs.head?.getD head) member) m := by
  rw [listFirstEntry, run_bind_ok (derefListHead_run h.cell_head), run_pure]

end Heap.Represents

/-! ### Loops -/

@[simp] theorem listEntry_add (ptr member : Addr) : listEntry ptr member + member = ptr :=
  UInt64.sub_add_cancel ptr member

theorem listEntryIsHead_entry (ptr head member : Addr) :
    listEntryIsHead (listEntry ptr member) head member = (ptr != head) := by
  rw [listEntryIsHead, listEntry_add]

theorem listNextEntry_run {cell : ListHead} (h : m.cell x = some cell) (member : Addr) :
    listNextEntry (listEntry x member) member m = .ok (listEntry cell.next member) m := by
  rw [listNextEntry, listEntry_add, run_bind_ok (derefListHead_run h), run_pure]

/-- The entry after the first of a ring, or after its head. -/
theorem Heap.Represents.listNextEntry_first (h : m.Represents head xs) (member : Addr) :
    listNextEntry (listEntry (xs.head?.getD head) member) member m
      = .ok (listEntry (xs.tail.head?.getD head) member) m := by
  cases xs with
  | nil => exact listNextEntry_run h.cell_head member
  | cons x t => exact listNextEntry_run (Heap.Represents.cell_node (l := []) h) member

/-- **A search of a list** is a search of the sequence. -/
theorem listForEachEntry_run {β : Type} {member : Addr} {body : Addr → ListM σ (Option β)}
    {f : Addr → Option β} (h : m.Represents head xs)
    (hbody : ∀ x ∈ xs, body (listEntry x member) m = .ok (f x) m) {fuel : Nat}
    (hfuel : xs.length < fuel) :
    listForEachEntry head member body fuel m = .ok (some (xs.findSome? f)) m := by
  -- from a node on, with the nodes before it passed
  have hfrom : ∀ r l : List Addr, m.Represents head (l ++ r) →
      (∀ x ∈ r, body (listEntry x member) m = .ok (f x) m) → ∀ fuel, r.length < fuel →
      listForEachEntryFrom head member body fuel (listEntry (r.head?.getD head) member) m
        = .ok (some (r.findSome? f)) m := by
    intro r
    induction r with
    | nil =>
        intro l _ _ fuel hfuel
        cases fuel with
        | zero => exact absurd hfuel (Nat.not_lt_zero 0)
        | succ k =>
            rw [listForEachEntryFrom, listEntryIsHead_entry, if_neg (by simp), run_pure]
            rfl
    | cons x r ih =>
        intro l hring hbody fuel hfuel
        cases fuel with
        | zero => exact absurd hfuel (Nat.not_lt_zero _)
        | succ k =>
            have hhead : x ≠ head := by
              rintro rfl
              exact hring.not_mem (List.mem_append_right l List.mem_cons_self)
            rw [listForEachEntryFrom, List.head?_cons, Option.getD_some, listEntryIsHead_entry,
              if_pos (bne_iff_ne.mpr hhead), run_bind_ok (hbody x List.mem_cons_self)]
            cases hx : f x with
            | some b =>
                rw [List.findSome?_cons, hx]
                rfl
            | none =>
                rw [List.findSome?_cons, hx]
                dsimp only
                rw [run_bind_ok (listNextEntry_run hring.cell_node member)]
                refine ih (l ++ [x]) ?_ (fun y hy => hbody y (List.mem_cons_of_mem x hy)) k
                  (Nat.lt_of_succ_lt_succ hfuel)
                rw [List.append_assoc]
                exact hring
  rw [listForEachEntry, run_bind_ok (h.listFirstEntry_run member)]
  exact hfrom xs [] h hbody fuel hfuel

/-- A loop that returns the first entry with a property, as `arp_table_lookup` and
`tcp_socks_manager_find` are, is `find?` on the entries. -/
theorem listForEachEntry_find? (h : m.Represents head xs) (member : Addr) (P : Addr → Bool)
    {fuel : Nat} (hfuel : xs.length < fuel) :
    listForEachEntry head member (fun pos => pure (if P pos then some pos else none)) fuel m
      = .ok (some ((xs.map fun x => listEntry x member).find? P)) m := by
  rw [listForEachEntry_run (f := fun x => Option.guard P (listEntry x member)) h ?_ hfuel,
    List.find?_eq_findSome?_guard, List.findSome?_map]
  · rfl
  · intro x _
    rw [run_pure, Option.guard_eq_ite]

/-- A step that takes one node off a ring, and discards it: `list_del` on the cells of the ring
other than the node's own, and anything elsewhere. -/
def Unlinks (head : Addr) (xs : List Addr) (x : Addr) (m m' : Heap σ) : Prop :=
  ∃ t, listDel x m = .ok ⟨⟩ t ∧ ∀ p ∈ head :: xs, p ≠ x → m'.cell p = t.cell p

/-- What is left when the first node was taken off. -/
theorem Heap.Represents.unlinked (h : m.Represents head (x :: xs))
    (hunlinks : Unlinks head (x :: xs) x m m') : m'.Represents head xs := by
  obtain ⟨t, hrun, hcell⟩ := hunlinks
  obtain ⟨t', hrun', hring, -⟩ := h.listDel_ok List.mem_cons_self
  rw [hrun] at hrun'
  cases hrun'
  rw [List.erase_cons_head] at hring
  refine hring.congr fun p hp => hcell p ?_ ?_
  · rcases List.mem_cons.mp hp with heq | hmem
    · rw [heq]
      exact List.mem_cons_self
    · exact List.mem_cons_of_mem head (List.mem_cons_of_mem x hmem)
  · rintro rfl
    rcases List.mem_cons.mp hp with heq | hmem
    · exact h.not_mem (heq ▸ List.mem_cons_self)
    · exact (List.nodup_cons.mp (List.nodup_cons.mp h.nodup).2).1 hmem

/-- The body of a safe loop takes the current node off whatever is left of a sequence, and
keeps an invariant that may speak about the nodes that are left. -/
def DismantlesBy (body : Addr → ListM σ Unit) (head member : Addr)
    (I : List Addr → Heap σ → Prop) (xs : List Addr) : Prop :=
  ∀ x ys m, (x :: ys) <:+ xs → m.Represents head (x :: ys) → I (x :: ys) m →
    ∃ m', body (listEntry x member) m = .ok ⟨⟩ m' ∧ Unlinks head (x :: ys) x m m' ∧ I ys m'

section SafeLoop

variable {member : Addr} {body : Addr → ListM σ Unit} {I : List Addr → Heap σ → Prop}

/-- **The safe loop while the ring is dismantled.**  The node after the current one is read
before the body runs, and is the first of the ring that the body leaves. -/
theorem listForEachEntrySafeFrom_run (h : m.Represents head xs) (hm : I xs m)
    (hbody : DismantlesBy body head member I xs) {fuel : Nat} (hfuel : xs.length < fuel) :
    ∃ m', listForEachEntrySafeFrom head member body fuel (listEntry (xs.head?.getD head) member)
        (listEntry (xs.tail.head?.getD head) member) m
          = .ok (some (xs.map fun x => listEntry x member)) m' ∧
      m'.Represents head [] ∧ I [] m' := by
  induction xs generalizing m fuel with
  | nil =>
      cases fuel with
      | zero => exact absurd hfuel (Nat.not_lt_zero 0)
      | succ k =>
          refine ⟨m, ?_, h, hm⟩
          rw [listForEachEntrySafeFrom, listEntryIsHead_entry, if_neg (by simp), run_pure]
          rfl
  | cons x xs ih =>
      cases fuel with
      | zero => exact absurd hfuel (Nat.not_lt_zero _)
      | succ k =>
          have hhead : x ≠ head := by
            rintro rfl
            exact h.not_mem List.mem_cons_self
          obtain ⟨t, hrun, hunlinks, ht⟩ := hbody x xs m List.suffix_rfl h hm
          have hrest := h.unlinked hunlinks
          obtain ⟨m', hloop, hring, hm'⟩ := ih hrest ht
            (fun y ys t hys => hbody y ys t (hys.trans (List.suffix_cons x xs)))
            (Nat.lt_of_succ_lt_succ hfuel)
          refine ⟨m', ?_, hring, hm'⟩
          rw [listForEachEntrySafeFrom, List.head?_cons, Option.getD_some, listEntryIsHead_entry,
            if_pos (bne_iff_ne.mpr hhead), run_bind_ok hrun, List.tail_cons,
            run_bind_ok (hrest.listNextEntry_first member), run_bind_ok hloop, run_pure]
          rfl

theorem listForEachEntrySafe_run (h : m.Represents head xs) (hm : I xs m)
    (hbody : DismantlesBy body head member I xs) {fuel : Nat} (hfuel : xs.length < fuel) :
    ∃ m', listForEachEntrySafe head member body fuel m
        = .ok (some (xs.map fun x => listEntry x member)) m' ∧
      m'.Represents head [] ∧ I [] m' := by
  rw [listForEachEntrySafe, run_bind_ok (h.listFirstEntry_run member),
    run_bind_ok (h.listNextEntry_first member)]
  exact listForEachEntrySafeFrom_run h hm hbody hfuel

end SafeLoop

/-- The body of the destroying loops unlinks its entry, and no other cell goes. -/
theorem delAndFree_ok (h : m.Represents head xs) (hx : x ∈ xs) (member : Addr) :
    ∃ m', delAndFree member (listEntry x member) m = .ok ⟨⟩ m' ∧ Unlinks head xs x m m' ∧
      m'.cell x = none ∧ ∀ p, p ∉ head :: xs → m'.cell p = m.cell p := by
  obtain ⟨t, hrun, -, hout⟩ := h.listDel_ok hx
  have hother : ∀ p, p ≠ x → Function.update t.cell x none p = t.cell p := fun p hpx =>
    Function.update_of_ne hpx _ _
  refine ⟨{ t with cell := Function.update t.cell x none }, ?_,
    ⟨t, hrun, fun p _ hpx => hother p hpx⟩, Function.update_self .., fun p hp => ?_⟩
  · rw [delAndFree, listEntry_add, run_bind_ok hrun, run_modify]
  · have hpx : p ≠ x := fun heq => hp (heq ▸ List.mem_cons_of_mem head hx)
    exact (hother p hpx).trans (hout p hp)

/-- The nodes of a sequence that are no longer on a list were freed. -/
def Heap.Freed (xs ys : List Addr) (m : Heap σ) : Prop := ∀ p ∈ xs, p ∉ ys → m.cell p = none

theorem delAndFree_dismantles (hhead : head ∉ xs) (member : Addr) :
    DismantlesBy (delAndFree member : Addr → ListM σ Unit) head member (Heap.Freed xs) xs := by
  intro x ys t _ hring hfreed
  obtain ⟨t', hrun, hunlinks, hx, hout⟩ := delAndFree_ok hring List.mem_cons_self member
  refine ⟨t', hrun, hunlinks, fun p hp hno => ?_⟩
  by_cases hpx : p = x
  · rw [hpx, hx]
  · have hpys : p ∉ x :: ys := fun hmem => hno ((List.mem_cons.mp hmem).resolve_left hpx)
    have hphead : p ≠ head := fun heq => hhead (heq ▸ hp)
    have hpring : p ∉ head :: x :: ys := fun hmem =>
      hpys ((List.mem_cons.mp hmem).resolve_left hphead)
    rw [hout p hpring, hfreed p hp hpys]

/-- **A destroying loop** frees every entry and leaves an empty list. -/
theorem destroy_run (h : m.Represents head xs) (member : Addr) {fuel : Nat}
    (hfuel : xs.length < fuel) :
    ∃ m', listForEachEntrySafe head member (delAndFree member) fuel m
        = .ok (some (xs.map fun x => listEntry x member)) m' ∧
      m'.Represents head [] ∧ ∀ x ∈ xs, m'.cell x = none := by
  obtain ⟨m', hrun, hring, hfreed⟩ := listForEachEntrySafe_run h
    (fun p hp hno => absurd hp hno) (delAndFree_dismantles h.not_mem member) hfuel
  exact ⟨m', hrun, hring, fun x hx => hfreed x hx List.not_mem_nil⟩

/-! ### Refinement -/

/-- **Intrusive lists refine sequences**, on every ring and for every content of the rest of the
memory. -/
theorem lists_refine_sequences (h : m.Represents head xs) :
    (∀ new, new ∉ head :: xs → (m.cell new).isSome →
      ∃ m', listAdd new head m = .ok ⟨⟩ m' ∧ m'.Represents head (new :: xs)) ∧
    (∀ x ∈ xs, ∃ m', listDel x m = .ok ⟨⟩ m' ∧ m'.Represents head (xs.erase x) ∧
      ∀ p, p ∉ head :: xs → m'.cell p = m.cell p) ∧
    listEmpty head m = .ok xs.isEmpty m ∧
    (∀ member x, xs.getLast? = some x →
      listLastEntry head member m = .ok (listEntry x member) m) ∧
    (∀ (member : Addr) (body : Addr → ListM σ Unit) (I : List Addr → Heap σ → Prop), I xs m →
      DismantlesBy body head member I xs → ∀ fuel, xs.length < fuel →
        ∃ m', listForEachEntrySafe head member body fuel m
            = .ok (some (xs.map fun x => listEntry x member)) m' ∧
          m'.Represents head [] ∧ I [] m') ∧
    (∃ m', initListHead head m = .ok ⟨⟩ m' ∧ m'.Represents head []) ∧
    ∀ member fuel, xs.length < fuel →
      (∀ P : Addr → Bool,
        listForEachEntry head member (fun pos => pure (if P pos then some pos else none)) fuel m
          = .ok (some ((xs.map fun x => listEntry x member).find? P)) m) ∧
      ∃ m', listForEachEntrySafe head member (delAndFree member) fuel m
          = .ok (some (xs.map fun x => listEntry x member)) m' ∧
        m'.Represents head [] ∧ ∀ x ∈ xs, m'.cell x = none := by
  refine ⟨fun new hnew halloc => ?_, fun x hx => h.listDel_ok hx, h.listEmpty_run,
    fun member x hx => ?_, fun member body I hm hbody fuel hfuel => ?_,
    initListHead_run (h.isSome_cell List.mem_cons_self), fun member fuel hfuel =>
      ⟨fun P => listForEachEntry_find? h member P hfuel, destroy_run h member hfuel⟩⟩
  · obtain ⟨m', hrun, hring, -⟩ := h.listAdd_ok hnew halloc
    exact ⟨m', hrun, hring⟩
  · rw [h.listLastEntry_run, hx, Option.getD_some]
  · exact listForEachEntrySafe_run h hm hbody hfuel

/-- A list of two nodes, and a node that is on no list. -/
def twoNodes : Heap Unit where
  cell p :=
    if p = 96 then some ⟨200, 300⟩ else if p = 200 then some ⟨300, 96⟩
    else if p = 300 then some ⟨96, 200⟩ else if p = 400 then some ⟨0, 0⟩ else none
  rest := ()

theorem lists_refine_sequences_fixture :
    (∃ m', listAdd 400 96 twoNodes = .ok ⟨⟩ m' ∧ m'.Represents 96 [400, 200, 300]) ∧
    (∃ m', listDel 300 twoNodes = .ok ⟨⟩ m' ∧ m'.Represents 96 [200]) ∧
    listLastEntry 96 8 twoNodes = .ok 292 twoNodes ∧
    (∃ m', listForEachEntrySafe 96 8 (delAndFree 8) 3 twoNodes = .ok (some [192, 292]) m' ∧
      m'.Represents 96 []) ∧
    listForEachEntry 96 8 (fun pos => pure (if 200 < pos then some pos else none)) 3 twoNodes
      = .ok (some (some 292)) twoNodes := by
  have hring : twoNodes.Represents 96 [200, 300] := ⟨by decide, by decide⟩
  obtain ⟨hadd, hdel, -, hlast, hsafe, -, hloops⟩ := lists_refine_sequences hring
  refine ⟨hadd 400 (by decide) (by decide), ?_, hlast 8 300 rfl, ?_, ?_⟩
  · obtain ⟨m', hrun, hleft, -⟩ := hdel 300 (by decide)
    exact ⟨m', hrun, hleft⟩
  · obtain ⟨m', hrun, hempty, -⟩ := hsafe 8 (delAndFree 8) (Heap.Freed [200, 300])
      (fun p hp hno => absurd hp hno) (delAndFree_dismantles (by decide) 8) 3 (by decide)
    exact ⟨m', hrun, hempty⟩
  · have hsearch := (hloops 8 3 (by decide)).1 fun pos => decide (200 < pos)
    simp only [decide_eq_true_eq] at hsearch
    exact hsearch

end SimpleTcpip
