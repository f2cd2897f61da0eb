/-
Intrusive lists: list.h.

The rest of the model holds a list as the sequence of its nodes.  Here pointers are addresses,
and a list is the `struct list_head` cells at the addresses where one is allocated; `member` is
the offset of the cell in the record it is part of.
-/
import SimpleTcpip.Model.World

namespace SimpleTcpip

abbrev Addr := UInt64

/-- `struct list_head`. -/
structure ListHead where
  next : Addr
  prev : Addr
  deriving DecidableEq

/-- The memory in which lists live. -/
structure Heap (σ : Type) where
  /-- The `struct list_head` at an address. -/
  cell : Addr → Option ListHead
  /-- Whatever else the body of a loop works on. -/
  rest : σ

abbrev ListM (σ : Type) := EStateM Fault (Heap σ)

variable {σ : Type}

/-! ### Cells -/

/-- Follow a pointer to a cell. -/
def derefListHead (p : Addr) : ListM σ ListHead := do
  match (← get).cell p with
  | none => throw .useAfterFree
  | some cell => pure cell

/-- `p->next = q`. -/
def setNext (p q : Addr) : ListM σ Unit := do
  let cell ← derefListHead p
  modify fun m => { m with cell := Function.update m.cell p (some { cell with next := q }) }

/-- `p->prev = q`. -/
def setPrev (p q : Addr) : ListM σ Unit := do
  let cell ← derefListHead p
  modify fun m => { m with cell := Function.update m.cell p (some { cell with prev := q }) }

/-! ### The functions -/

/-- `list_empty`. -/
def listEmpty (list : Addr) : ListM σ Bool := do
  let cell ← derefListHead list
  pure (cell.next == list)

/-- `INIT_LIST_HEAD`. -/
def initListHead (list : Addr) : ListM σ Unit := do
  setPrev list list
  setNext list list

/-- `list_add`. -/
def listAdd (new head : Addr) : ListM σ Unit := do
  setPrev new head
  let first ← derefListHead head
  setNext new first.next
  -- the last two statements go through the fields of `new`
  let cell ← derefListHead new
  setNext cell.prev new
  let cell ← derefListHead new
  setPrev cell.next new

/-- `list_del`. -/
def listDel (entry : Addr) : ListM σ Unit := do
  let cell ← derefListHead entry
  setNext cell.prev cell.next
  let cell ← derefListHead entry
  setPrev cell.next cell.prev

/-! ### The macros -/

/-- `list_entry`. -/
def listEntry (ptr member : Addr) : Addr := ptr - member

/-- `list_first_entry`. -/
def listFirstEntry (ptr member : Addr) : ListM σ Addr := do
  let cell ← derefListHead ptr
  pure (listEntry cell.next member)

/-- `list_last_entry`. -/
def listLastEntry (ptr member : Addr) : ListM σ Addr := do
  let cell ← derefListHead ptr
  pure (listEntry cell.prev member)

/-- `list_next_entry`. -/
def listNextEntry (pos member : Addr) : ListM σ Addr := do
  let cell ← derefListHead (pos + member)
  pure (listEntry cell.next member)

/-- `list_entry_is_head`, which is true of an entry that is *not* the head. -/
def listEntryIsHead (pos head member : Addr) : Bool := pos + member != head

/-- `list_for_each_entry` from an entry on; a body that returns ends it.  Nothing is returned
when it takes more than so many rounds. -/
def listForEachEntryFrom {β : Type} (head member : Addr) (body : Addr → ListM σ (Option β)) :
    Nat → Addr → ListM σ (Option (Option β))
  | 0, _ => pure none
  | fuel + 1, pos =>
      if listEntryIsHead pos head member then do
        match ← body pos with
        | some r => pure (some (some r))
        | none => do
            let pos ← listNextEntry pos member
            listForEachEntryFrom head member body fuel pos
      else pure (some none)

/-- `list_for_each_entry`. -/
def listForEachEntry {β : Type} (head member : Addr) (body : Addr → ListM σ (Option β))
    (fuel : Nat) : ListM σ (Option (Option β)) := do
  let pos ← listFirstEntry head member
  listForEachEntryFrom head member body fuel pos

/-- `list_for_each_entry_safe` from an entry on: the entries its body runs for, or nothing
when it takes more than so many rounds. -/
def listForEachEntrySafeFrom (head member : Addr) (body : Addr → ListM σ Unit) :
    Nat → Addr → Addr → ListM σ (Option (List Addr))
  | 0, _, _ => pure none
  | fuel + 1, pos, tmp =>
      if listEntryIsHead pos head member then do
        body pos
        -- `pos = tmp, tmp = list_next_entry(tmp, member)`
        let next ← listNextEntry tmp member
        let visited ← listForEachEntrySafeFrom head member body fuel tmp next
        pure (visited.map (pos :: ·))
      else pure (some [])

/-- `list_for_each_entry_safe`. -/
def listForEachEntrySafe (head member : Addr) (body : Addr → ListM σ Unit) (fuel : Nat) :
    ListM σ (Option (List Addr)) := do
  let pos ← listFirstEntry head member
  let tmp ← listNextEntry pos member
  listForEachEntrySafeFrom head member body fuel pos tmp

/-- The body of the loops in `destroy_rt_table` and `destroy_mac_table`, whose entries have no
other cell: `list_del(&entry->list); free(entry);`. -/
def delAndFree (member entry : Addr) : ListM σ Unit := do
  listDel (entry + member)
  modify fun m => { m with cell := Function.update m.cell (entry + member) none }

end SimpleTcpip
