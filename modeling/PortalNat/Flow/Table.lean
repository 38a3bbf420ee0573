/-!
# Flow table

A table of values that are costly to set up, such as outbound sockets. The first call for a key sets
its value up, and calls that come while it does so wait for the result. A failed set-up is
forgotten, and each call that waited for it tries its own.

Every attempt has a cell. A call gets the cell of its key and stays with it, even if the key is
removed meanwhile and gets a new cell. Of the calls on a cell without a value one holds it and may
set the value up, and the others wait in the order they came. What a call does at one stroke is an
operation of its own here, so that the calls of a run can interleave in any order.
-/

namespace PortalNat

/-- One attempt at setting a value up. -/
structure FlowCell (Value : Type) where
  value? : Option Value := none
  /-- The call that may set the value up. -/
  holder? : Option Nat := none
  /-- The calls that wait, the next one first. -/
  waiting : List Nat := []
deriving DecidableEq, Repr

/-- How far a call has come. -/
inductive FlowPhase (Failure : Type) where
  /-- It knows its cell and has not reached for it yet. -/
  | entering
  /-- It holds its cell, or waits for it or for its value. -/
  | queued
  /-- Its own set-up is running. -/
  | running
  /-- Its own set-up failed. The cell is free again, and the key is still to be removed. -/
  | failed (failure : Failure)
deriving DecidableEq, Repr

/-- A call that has not returned yet. -/
structure FlowCall (Key Failure : Type) where
  id : Nat
  key : Key
  cell : Nat
  phase : FlowPhase Failure := .entering
deriving DecidableEq, Repr

/-- The cells by key, all cells that were ever made, and the calls in flight in the order they were
begun. -/
structure FlowTable (Key Value Failure : Type) where
  entries : List (Key × Nat) := []
  cells : List (FlowCell Value) := []
  calls : List (FlowCall Key Failure) := []
  nextCall : Nat := 0
deriving DecidableEq, Repr

/-- Something that happens to a call: its own set-up starts, or it returns. -/
inductive FlowEvent (Value Failure : Type) where
  | setUp (call : Nat)
  | done (call : Nat) (result : Except Failure Value)

namespace FlowCell

variable {Value : Type}

/-- Let a call hold the cell if it is free, or wait. A value is there for every call alike. -/
def join (cell : FlowCell Value) (call : Nat) : FlowCell Value :=
  if cell.value?.isSome then cell
  else if cell.holder?.isNone then { cell with holder? := some call }
  else { cell with waiting := cell.waiting ++ [call] }

/-- Pass the cell on to the call that waited longest. -/
def release (cell : FlowCell Value) : FlowCell Value :=
  { cell with holder? := cell.waiting.head?, waiting := cell.waiting.tail }

/-- Take a call off the cell, whether it holds it or waits. -/
def leave (cell : FlowCell Value) (call : Nat) : FlowCell Value :=
  if cell.holder? = some call then cell.release
  else { cell with waiting := cell.waiting.erase call }

/-- Give the cell its value, for which nobody has to wait any more. -/
def fill (value : Value) : FlowCell Value :=
  { value? := some value }

end FlowCell

namespace FlowTable

variable {Key Value Failure : Type} [DecidableEq Key]

/-- The number of keys, with those whose value is still being set up. -/
def size (table : FlowTable Key Value Failure) : Nat :=
  table.entries.length

def cell (table : FlowTable Key Value Failure) (number : Nat) : FlowCell Value :=
  table.cells.getD number {}

/-- The value of a key, if it has been set up. -/
def get? (table : FlowTable Key Value Failure) (key : Key) : Option Value := do
  (table.cell (← table.entries.lookup key)).value?

def erase (table : FlowTable Key Value Failure) (key : Key) : FlowTable Key Value Failure :=
  { table with entries := table.entries.filter fun entry => entry.1 ≠ key }

/-- Remove a key, and tell its value if it had one. -/
def remove (table : FlowTable Key Value Failure) (key : Key) :
    Option Value × FlowTable Key Value Failure :=
  (table.get? key, table.erase key)

/-- Remove a key only if its value is accepted, so that a flow that ends cannot remove a newer one
under the same key. -/
def removeIf (table : FlowTable Key Value Failure) (key : Key) (accept : Value → Bool) :
    Bool × FlowTable Key Value Failure :=
  if (table.get? key).any accept then (true, table.erase key) else (false, table)

def call? (table : FlowTable Key Value Failure) (id : Nat) : Option (FlowCall Key Failure) :=
  table.calls.find? (·.id == id)

def modifyCell (table : FlowTable Key Value Failure) (number : Nat)
    (change : FlowCell Value → FlowCell Value) : FlowTable Key Value Failure :=
  { table with cells := table.cells.modify number change }

/-- Forget a call that has returned or was given up. -/
def forget (table : FlowTable Key Value Failure) (id : Nat) : FlowTable Key Value Failure :=
  { table with calls := table.calls.filter (·.id != id) }

/-- The cell of a key; a new one if it has none. -/
def enter (table : FlowTable Key Value Failure) (key : Key) : Nat × FlowTable Key Value Failure :=
  match table.entries.lookup key with
  | some number => (number, table)
  | none =>
    let number := table.cells.length
    (number,
      { table with
        entries := (key, number) :: table.entries
        cells := table.cells ++ [{}] })

/-- Set the phase of a call. -/
def setPhase (table : FlowTable Key Value Failure) (id : Nat) (phase : FlowPhase Failure) :
    FlowTable Key Value Failure :=
  { table with
    calls := table.calls.map fun call => if call.id = id then { call with phase } else call }

/-- Number a call for a key, and tell it the cell of the key. -/
def arrive (table : FlowTable Key Value Failure) (key : Key) : Nat × FlowTable Key Value Failure :=
  let id := table.nextCall
  let (number, entered) := table.enter key
  (id,
    { entered with
      calls := entered.calls ++ [⟨id, key, number, .entering⟩]
      nextCall := id + 1 })

/-- Let a call that has arrived reach for its cell. -/
def join (table : FlowTable Key Value Failure) (id : Nat) : FlowTable Key Value Failure :=
  match table.call? id with
  | none => table
  | some call =>
    match call.phase with
    | .entering => (table.modifyCell call.cell (·.join id)).setPhase id .queued
    | _ => table

/-- Begin a call for a key, and tell its number. -/
def begin (table : FlowTable Key Value Failure) (key : Key) : Nat × FlowTable Key Value Failure :=
  let (id, arrived) := table.arrive key
  (id, arrived.join id)

/-- Let a call go on as far as it can without its own set-up: it returns if its cell has a value,
and starts its set-up if it holds the cell. -/
def resume (table : FlowTable Key Value Failure) (id : Nat) :
    Option (FlowEvent Value Failure) × FlowTable Key Value Failure :=
  match table.call? id with
  | none => (none, table)
  | some call =>
    let cell := table.cell call.cell
    match call.phase, cell.value? with
    | .queued, some value => (some (.done id (.ok value)), table.forget id)
    | .queued, none =>
      if cell.holder? = some id then (some (.setUp id), table.setPhase id .running)
      else (none, table)
    | _, _ => (none, table)

/-- End the running set-up of a call. A value goes to every call on the cell, and the call returns.
After a failure the next call on the cell may try. -/
def endSetUp (table : FlowTable Key Value Failure) (id : Nat) (result : Except Failure Value) :
    Option (FlowEvent Value Failure) × FlowTable Key Value Failure :=
  match table.call? id with
  | none => (none, table)
  | some call =>
    match call.phase, result with
    | .running, .ok value =>
      (some (.done id (.ok value)),
        (table.modifyCell call.cell fun _ => FlowCell.fill value).forget id)
    | .running, .error failure =>
      (none, (table.modifyCell call.cell (·.release)).setPhase id (.failed failure))
    | _, _ => (none, table)

/-- Remove a key if it still leads to the given cell and that cell has no value. -/
def eraseCell (table : FlowTable Key Value Failure) (key : Key) (number : Nat) :
    FlowTable Key Value Failure :=
  if table.entries.lookup key = some number ∧ (table.cell number).value?.isNone then
    table.erase key
  else table

/-- Let a call whose set-up failed remove its key and return. -/
def cleanUp (table : FlowTable Key Value Failure) (id : Nat) :
    Option (FlowEvent Value Failure) × FlowTable Key Value Failure :=
  match table.call? id with
  | none => (none, table)
  | some call =>
    match call.phase with
    | .failed failure =>
      (some (.done id (.error failure)), (table.eraseCell call.key call.cell).forget id)
    | _ => (none, table)

/-- End the running set-up of a call with its result, and let the call return. -/
def finish (table : FlowTable Key Value Failure) (id : Nat) (result : Except Failure Value) :
    Option (FlowEvent Value Failure) × FlowTable Key Value Failure :=
  match table.endSetUp id result with
  | (some event, ended) => (some event, ended)
  | (none, ended) => ended.cleanUp id

/-- Give a call up wherever it pauses. The key stays, whether or not anyone is left to set its value
up. -/
def abandon (table : FlowTable Key Value Failure) (id : Nat) : FlowTable Key Value Failure :=
  match table.call? id with
  | none => table
  | some call =>
    match call.phase with
    | .failed _ => table
    | _ => (table.modifyCell call.cell (·.leave id)).forget id

end FlowTable

end PortalNat
