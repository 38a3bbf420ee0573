import Mathlib.Tactic
import PortalNat.Udp.ReadQueue

/-!
# Runs of a queue of reads

Reads are posted, given up and answered while datagrams come in and the queue is closed. Posting,
closing and a delivery each lock the queue, and a delivery keeps it locked while it offers its
datagram to one read after the other. Giving a read up and returning its answer take no lock, so
they may fall between two offers of one delivery. A run takes these steps in any order and records
what comes of them. This module says once what a step can do.
-/

namespace PortalNat

namespace ReadQueue

theorem post_of_open {queue : ReadQueue} (hopen : queue.closed = false) :
    queue.post = (queue.nextRead,
      { queue with
        posted := queue.posted.filter (·.waiting) ++ [⟨queue.nextRead, true⟩]
        nextRead := queue.nextRead + 1 }) := by
  rw [post, hopen]
  rfl

theorem post_of_closed {queue : ReadQueue} (hclosed : queue.closed = true) :
    queue.post = (queue.nextRead, { queue with nextRead := queue.nextRead + 1 }) := by
  rw [post, hclosed]
  rfl

theorem fst_post (queue : ReadQueue) : queue.post.1 = queue.nextRead := by
  rw [post]
  split_ifs <;> rfl

theorem nextRead_post (queue : ReadQueue) : queue.post.2.nextRead = queue.nextRead + 1 := by
  rw [post]
  split_ifs <;> rfl

theorem served_post (queue : ReadQueue) : queue.post.2.served = queue.served := by
  rw [post]
  split_ifs <;> rfl

theorem closed_post (queue : ReadQueue) : queue.post.2.closed = queue.closed := by
  rw [post]
  split_ifs <;> rfl

/-- One turn of a delivery: take the first read off the queue and give it the datagram if it waits.
The turn tells whether the datagram was taken, unless the delivery goes on. -/
def offer (queue : ReadQueue) (datagram : Datagram) : Option Bool × ReadQueue :=
  match queue.posted with
  | [] => (some false, queue)
  | read :: rest =>
    let popped := { queue with posted := rest }
    if read.waiting then
      (some true, { popped with served := queue.served ++ [(read.id, datagram)] })
    else (none, popped)

section

variable {queue : ReadQueue} {read : PostedRead} {rest : List PostedRead}

theorem offer_of_nil (hposted : queue.posted = []) (datagram : Datagram) :
    queue.offer datagram = (some false, queue) := by
  rw [offer, hposted]

theorem offer_of_gone (hposted : queue.posted = read :: rest) (hwaits : read.waiting = false)
    (datagram : Datagram) : queue.offer datagram = (none, { queue with posted := rest }) := by
  simp only [offer, hposted, hwaits, Bool.false_eq_true, if_false]

theorem offer_of_waiting (hposted : queue.posted = read :: rest) (hwaits : read.waiting = true)
    (datagram : Datagram) :
    queue.offer datagram =
      (some true,
        { queue with posted := rest, served := queue.served ++ [(read.id, datagram)] }) := by
  simp only [offer, hposted, hwaits, if_true]

end

/-- A delivery offers its datagram until that is taken or no read is left. -/
theorem deliver_eq_offer {queue : ReadQueue} (hopen : queue.closed = false) (datagram : Datagram) :
    queue.deliver datagram =
      match queue.offer datagram with
      | (some taken, queue) => (taken, queue)
      | (none, queue) => queue.deliver datagram := by
  rcases queue with ⟨posted, served, closed, nextRead⟩
  cases hopen
  rcases posted with - | ⟨⟨id, - | -⟩, rest⟩ <;> rfl

end ReadQueue

/-- A queue of reads with what has come of the reads and deliveries so far, the oldest first. -/
structure ReadRun where
  queue : ReadQueue := {}
  /-- The datagram of the delivery that is going on. It keeps the queue locked. -/
  offered? : Option Datagram := none
  /-- The reads that were posted. -/
  posted : List Nat := []
  /-- The reads that were given up before they returned. -/
  givenUp : List Nat := []
  /-- The reads that got a datagram. -/
  served : List (Nat × Datagram) := []
  /-- What the reads returned. -/
  returned : List (Nat × Except UdpError Datagram) := []
  /-- The datagrams of the deliveries that ended, and whether they were taken. -/
  ended : List (Datagram × Bool) := []

namespace ReadRun

inductive Step where
  | post
  | giveUp (id : Nat)
  | wake (id : Nat)
  | close
  | deliver (datagram : Datagram)
  | offer
deriving DecidableEq

/-- The reads that were posted and may still get a datagram, in the order they were posted. -/
def waiting (run : ReadRun) : List Nat :=
  run.posted.filter fun id =>
    run.queue.closed = false ∧ id ∉ run.givenUp ∧ id ∉ run.served.map (·.1)

/-- Somebody is still at this read. -/
def InFlight (run : ReadRun) (id : Nat) : Prop :=
  id ∈ run.posted ∧ id ∉ run.givenUp ∧ id ∉ run.returned.map (·.1)

instance (run : ReadRun) (id : Nat) : Decidable (run.InFlight id) :=
  inferInstanceAs (Decidable (_ ∧ _))

/-- Take a step. A step that has to wait, for the lock or for an answer, or that nobody can take
does nothing. -/
def apply (run : ReadRun) : Step → ReadRun
  | .post =>
    if run.offered?.isSome then run
    else
      let (id, queue) := run.queue.post
      { run with queue, posted := run.posted ++ [id] }
  | .giveUp id =>
    if run.InFlight id then
      { run with queue := run.queue.giveUp id, givenUp := run.givenUp ++ [id] }
    else run
  | .wake id =>
    if run.InFlight id then
      match run.queue.outcome? id with
      | none => run
      | some result =>
        { run with queue := run.queue.collect id, returned := run.returned ++ [(id, result)] }
    else run
  | .close => if run.offered?.isSome then run else { run with queue := run.queue.close }
  | .deliver datagram =>
    if run.offered?.isSome then run
    else if run.queue.closed then { run with ended := run.ended ++ [(datagram, false)] }
    else { run with offered? := some datagram }
  | .offer =>
    match run.offered? with
    | none => run
    | some datagram =>
      match run.queue.offer datagram with
      | (none, queue) => { run with queue }
      | (some taken, queue) =>
        { run with
          queue
          offered? := none
          served := run.served ++ queue.served.drop run.queue.served.length
          ended := run.ended ++ [(datagram, taken)] }

def further (run : ReadRun) (steps : List Step) : ReadRun :=
  steps.foldl apply run

def after (steps : List Step) : ReadRun :=
  further {} steps

/-- The run after the delivery of a datagram ended with the read `id`, the first in the queue. -/
def serve (run : ReadRun) (id : Nat) (rest : List PostedRead) (datagram : Datagram) : ReadRun :=
  { run with
    queue :=
      { run.queue with posted := rest, served := run.queue.served ++ [(id, datagram)] }
    offered? := none
    served := run.served ++ [(id, datagram)]
    ended := run.ended ++ [(datagram, true)] }

section

variable {run : ReadRun} {datagram : Datagram} {read : PostedRead} {rest : List PostedRead}

theorem apply_offer_of_nil (hoffered : run.offered? = some datagram)
    (hposted : run.queue.posted = []) :
    run.apply .offer =
      { run with offered? := none, ended := run.ended ++ [(datagram, false)] } := by
  simp only [apply, hoffered, ReadQueue.offer_of_nil hposted, List.drop_length, List.append_nil]

theorem apply_offer_of_gone (hoffered : run.offered? = some datagram)
    (hposted : run.queue.posted = read :: rest) (hwaits : read.waiting = false) :
    run.apply .offer = { run with queue := { run.queue with posted := rest } } := by
  simp only [apply, hoffered, ReadQueue.offer_of_gone hposted hwaits]

theorem apply_offer_of_waiting (hoffered : run.offered? = some datagram)
    (hposted : run.queue.posted = read :: rest) (hwaits : read.waiting = true) :
    run.apply .offer = run.serve read.id rest datagram := by
  simp only [apply, hoffered, ReadQueue.offer_of_waiting hposted hwaits, List.drop_left, serve]

end

inductive Moves (run : ReadRun) : Step → ReadRun → Prop
  | idle (step : Step) : Moves run step run
  | post :
      Moves run .post
        { run with
          queue := run.queue.post.2, posted := run.posted ++ [run.queue.nextRead] }
  | giveUp {id : Nat} (hflight : run.InFlight id) :
      Moves run (.giveUp id)
        { run with queue := run.queue.giveUp id, givenUp := run.givenUp ++ [id] }
  | wake {id : Nat} {result : Except UdpError Datagram} (hflight : run.InFlight id)
      (hresult : run.queue.outcome? id = some result) :
      Moves run (.wake id)
        { run with queue := run.queue.collect id, returned := run.returned ++ [(id, result)] }
  | close : Moves run .close { run with queue := run.queue.close }
  | refuse (datagram : Datagram) (hclosed : run.queue.closed = true) :
      Moves run (.deliver datagram) { run with ended := run.ended ++ [(datagram, false)] }
  | deliver (datagram : Datagram) (hfree : run.offered? = none)
      (hopen : run.queue.closed = false) :
      Moves run (.deliver datagram) { run with offered? := some datagram }
  | miss {datagram : Datagram} (hoffered : run.offered? = some datagram)
      (hposted : run.queue.posted = []) :
      Moves run .offer
        { run with offered? := none, ended := run.ended ++ [(datagram, false)] }
  | pass {datagram : Datagram} {read : PostedRead} {rest : List PostedRead}
      (hoffered : run.offered? = some datagram) (hposted : run.queue.posted = read :: rest)
      (hwaits : read.waiting = false) :
      Moves run .offer { run with queue := { run.queue with posted := rest } }
  | serve {datagram : Datagram} {read : PostedRead} {rest : List PostedRead}
      (hoffered : run.offered? = some datagram) (hposted : run.queue.posted = read :: rest)
      (hwaits : read.waiting = true) :
      Moves run .offer (run.serve read.id rest datagram)

theorem moves (run : ReadRun) (step : Step) : Moves run step (run.apply step) := by
  cases step with
  | post =>
      rw [apply]
      split_ifs with hlocked
      · exact .idle _
      · change Moves run .post
          { run with queue := run.queue.post.2, posted := run.posted ++ [run.queue.post.1] }
        rw [ReadQueue.fst_post]
        exact .post
  | giveUp id =>
      rw [apply]
      split_ifs with hflight
      · exact .giveUp hflight
      · exact .idle _
  | wake id =>
      rw [apply]
      split_ifs with hflight
      · cases hresult : run.queue.outcome? id with
        | none => exact .idle _
        | some result => exact .wake hflight hresult
      · exact .idle _
  | close =>
      rw [apply]
      split_ifs
      · exact .idle _
      · exact .close
  | deliver datagram =>
      rw [apply]
      split_ifs with hlocked hclosed
      · exact .idle _
      · exact .refuse datagram hclosed
      · exact .deliver datagram (by simpa using hlocked) (by simpa using hclosed)
  | offer =>
      cases hoffered : run.offered? with
      | none =>
          rw [apply, hoffered]
          exact .idle _
      | some datagram =>
          cases hposted : run.queue.posted with
          | nil =>
              rw [apply_offer_of_nil hoffered hposted]
              exact .miss hoffered hposted
          | cons read rest =>
              cases hwaits : read.waiting with
              | false =>
                  rw [apply_offer_of_gone hoffered hposted hwaits]
                  exact .pass hoffered hposted hwaits
              | true =>
                  rw [apply_offer_of_waiting hoffered hposted hwaits]
                  exact .serve hoffered hposted hwaits

/-- What holds at the start and is kept by every step holds of every run. -/
theorem after_induction {motive : ReadRun → Prop} (hstart : motive {})
    (hstep : ∀ run step, motive run → motive (run.apply step)) (steps : List Step) :
    motive (after steps) :=
  List.foldlRecOn steps apply hstart fun run hrun step _ => hstep run step hrun

end ReadRun

end PortalNat
