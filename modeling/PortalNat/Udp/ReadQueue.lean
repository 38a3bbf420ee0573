import PortalNat.Device

/-!
# Posted reads

In pull mode nothing is buffered: a datagram goes to the read that was posted first and still waits,
or is lost. A read may be given up at any time; what it leaves behind in the queue is cleared away
when the next read is posted or a datagram comes.
-/

namespace PortalNat

/-- A datagram with the client that sent it and where it was sent. -/
structure Datagram where
  source : Endpoint
  destination : Endpoint
  payload : Octets
deriving DecidableEq, Repr

/-- Read a datagram into a buffer: the number of octets that fit, the endpoints, and the buffer
afterwards. -/
def Datagram.readInto (datagram : Datagram) (buffer : Octets) :
    (Nat × Endpoint × Endpoint) × Octets :=
  let (count, filled) := Device.received buffer datagram.payload
  ((count, datagram.source, datagram.destination), filled)

/-- A read in the queue, and whether somebody still waits for it. -/
structure PostedRead where
  id : Nat
  waiting : Bool
deriving DecidableEq, Repr

/-- The reads in the order they were posted, the datagrams that were handed out and not yet
collected, and whether the queue is closed. -/
structure ReadQueue where
  posted : List PostedRead := []
  served : List (Nat × Datagram) := []
  closed : Bool := false
  nextRead : Nat := 0
deriving DecidableEq, Repr

namespace ReadQueue

/-- The number of reads that wait. -/
def pending (queue : ReadQueue) : Nat :=
  queue.posted.countP (·.waiting)

/-- Post a read, and tell its number. In a closed queue the read only gets a number. -/
def post (queue : ReadQueue) : Nat × ReadQueue :=
  let id := queue.nextRead
  let numbered := { queue with nextRead := id + 1 }
  if queue.closed then (id, numbered)
  else (id, { numbered with posted := queue.posted.filter (·.waiting) ++ [⟨id, true⟩] })

/-- What a read came to: its datagram, or that the queue was closed. A read that still waits has
come to nothing. -/
def outcome? (queue : ReadQueue) (id : Nat) : Option (Except UdpError Datagram) :=
  match queue.served.lookup id with
  | some datagram => some (.ok datagram)
  | none => if queue.posted.any (·.id == id) then none else some (.error .closed)

/-- Take away the datagram of a read. -/
def collect (queue : ReadQueue) (id : Nat) : ReadQueue :=
  { queue with served := queue.served.filter (·.1 != id) }

/-- Give a read up. A datagram that it got already is lost. -/
def giveUp (queue : ReadQueue) (id : Nat) : ReadQueue :=
  let posted := queue.posted.map fun read =>
    if read.id = id then { read with waiting := false } else read
  { queue.collect id with posted }

/-- Hand a datagram to the first read that waits, and tell whether there was one. -/
def deliver (queue : ReadQueue) (datagram : Datagram) : Bool × ReadQueue :=
  if queue.closed then (false, queue)
  else
    match queue.posted.dropWhile (!·.waiting) with
    | [] => (false, { queue with posted := [] })
    | read :: rest =>
      (true, { queue with posted := rest, served := queue.served ++ [(read.id, datagram)] })

/-- Close the queue for good. Every read that waits fails. -/
def close (queue : ReadQueue) : ReadQueue :=
  { queue with posted := [], closed := true }

/-- The queue as it is shown for diagnosis. -/
protected def toText (queue : ReadQueue) : String :=
  "NatUdpSocket \x7b pending: " ++ toString queue.posted.length ++ ", closed: "
    ++ toString queue.closed ++ ", .. \x7d"

end ReadQueue

end PortalNat
