import PortalNat.Flow.Table

/-!
# Scheduled flow calls

Calls on a flow table that take turns, in the order they were begun and over and over until none of
them can go on. The set-up of a call waits at a gate and returns the answer that opens the gate,
which may come before the set-up runs.
-/

namespace PortalNat

/-- A flow table with the gates that are open. -/
structure FlowSchedule (Key Value Failure : Type) where
  table : FlowTable Key Value Failure := {}
  gates : List (Nat × Except Failure Value) := []

namespace FlowSchedule

variable {Key Value Failure : Type} [DecidableEq Key]

/-- Whether a call has not returned yet. -/
def isLive (schedule : FlowSchedule Key Value Failure) (id : Nat) : Bool :=
  (schedule.table.call? id).isSome

/-- Begin a call. -/
def begin (schedule : FlowSchedule Key Value Failure) (key : Key) :
    Nat × FlowSchedule Key Value Failure :=
  let (id, table) := schedule.table.begin key
  (id, { schedule with table })

/-- Open the gate of a call, unless it is open already or the call is gone. -/
def openGate (schedule : FlowSchedule Key Value Failure) (id : Nat)
    (answer : Except Failure Value) : Bool × FlowSchedule Key Value Failure :=
  if schedule.isLive id && (schedule.gates.lookup id).isNone then
    (true, { schedule with gates := (id, answer) :: schedule.gates })
  else (false, schedule)

/-- Give a call up, and tell whether it had not returned yet. -/
def abandon (schedule : FlowSchedule Key Value Failure) (id : Nat) :
    Bool × FlowSchedule Key Value Failure :=
  (schedule.isLive id, { schedule with table := schedule.table.abandon id })

/-- Let a call pass its gate, if its set-up runs and the gate is open. -/
def passGate (schedule : FlowSchedule Key Value Failure) (id : Nat) :
    List (FlowEvent Value Failure) × FlowSchedule Key Value Failure :=
  match schedule.gates.lookup id with
  | none => ([], schedule)
  | some answer =>
    let (event?, table) := schedule.table.finish id answer
    (event?.toList, { schedule with table })

/-- Let a call go on as far as it can. -/
def turn (schedule : FlowSchedule Key Value Failure) (id : Nat) :
    List (FlowEvent Value Failure) × FlowSchedule Key Value Failure :=
  let (event?, table) := schedule.table.resume id
  let (events, passed) := { schedule with table }.passGate id
  (event?.toList ++ events, passed)

/-- Let each of some calls go on in turn. -/
def turns (schedule : FlowSchedule Key Value Failure) :
    List Nat → List (FlowEvent Value Failure) × FlowSchedule Key Value Failure
  | [] => ([], schedule)
  | id :: rest =>
    let (events, schedule) := schedule.turn id
    let (more, schedule) := turns schedule rest
    (events ++ more, schedule)

/-- Let the calls take turns until a whole round brings nothing, for at most `rounds` rounds. -/
def settleFor : (rounds : Nat) → FlowSchedule Key Value Failure →
    List (FlowEvent Value Failure) × FlowSchedule Key Value Failure
  | 0, schedule => ([], schedule)
  | rounds + 1, schedule =>
    match schedule.turns (schedule.table.calls.map (·.id)) with
    | ([], schedule) => ([], schedule)
    | (events, schedule) =>
      let (more, schedule) := settleFor rounds schedule
      (events ++ more, schedule)

/-- Let the calls take turns until none can go on. Each call starts its set-up once and returns
once, so twice as many rounds as there are calls are enough. -/
def settle (schedule : FlowSchedule Key Value Failure) :
    List (FlowEvent Value Failure) × FlowSchedule Key Value Failure :=
  settleFor (2 * schedule.table.calls.length) schedule

end FlowSchedule

end PortalNat
