import PortalNat.Proofs.Engine.History

/-!
# What push mode and pull mode share

A translator in push mode gives every datagram to its handler, and one in pull mode gives it to the
read that waits longest, if there is one. That is all they differ in. What a translator does apart
from that is seen with its reads, its messages and the counter of the datagrams without a reader
left out: what is left takes the same steps in either mode, and it decides which datagrams there
are.
-/

namespace PortalNat

open SessionTable (Step)

/-- The counters but for the one that only pull mode counts. -/
def Statistics.shared (statistics : Statistics) : Statistics :=
  { statistics with droppedNoReader := 0 }

theorem Statistics.shared_record (statistics : Statistics) (event : Event) :
    (statistics.record event).shared = (statistics.shared.record event).shared := by
  cases event with
  | dropped reason => cases reason <;> rfl
  | _ => rfl

namespace Translator

/-- A translator but for its reads, its messages and what it counts of them. -/
def shared (translator : Translator) : Translator :=
  { translator with
    reads? := none
    messages := []
    statistics := translator.statistics.shared }

variable (translator : Translator)

theorem shared_record (event : Event) :
    (translator.record event).shared = (translator.shared.record event).shared := by
  simp only [record, shared, translator.statistics.shared_record event]

theorem shared_write (packet : Octets) :
    (translator.write packet).shared = (translator.shared.write packet).shared := by
  have hdevice : translator.shared.device = translator.device := rfl
  simp only [write_eq, hdevice]
  cases translator.device.refusal? with
  | some error => rfl
  | none => exact shared_record { translator with device := _ } .written

/-- Handing a datagram on leaves nothing behind that both modes share. -/
theorem shared_deliver (datagram : Datagram) (template : ReplyTemplate) :
    (translator.deliver datagram template).shared = translator.shared := by
  unfold deliver
  split
  · rfl
  · split <;> rfl

theorem shared_carryOut (verdict : Verdict) :
    (translator.carryOut verdict).shared = (translator.shared.carryOut verdict).shared := by
  cases verdict with
  | write event packet =>
      rw [carryOut, shared_write, shared_record, ← shared_write]
      rfl
  | deliver datagram template =>
      rw [carryOut, shared_deliver, carryOut, shared_deliver, shared_record]
  | ignore => rfl
  | drop reason report? =>
      have hcounted := translator.shared_record (.dropped reason)
      cases report? with
      | none => exact hcounted
      | some error => exact congrArg (report · error) hcounted

theorem shared_process (bytes : Octets) (now : Nat) :
    (translator.process bytes now).shared = (translator.shared.process bytes now).shared :=
  shared_carryOut { translator with sessions := _ } _

theorem shared_afterRead (result : Except IoError (Nat × Octets)) (now : Nat) :
    (translator.afterRead result now).shared = (translator.shared.afterRead result now).shared := by
  cases result with
  | ok reading =>
      have hread := shared_record { translator with buffer := reading.2 } .read
      rw [afterRead, shared_process, hread, ← shared_process]
      rfl
  | error error =>
      simp only [afterRead]
      split_ifs <;> rfl

theorem shared_accept (arrival : Arrival) (now : Nat) :
    (translator.accept arrival now).shared = (translator.shared.accept arrival now).shared := by
  have haccepting : translator.shared.accepting = translator.accepting := rfl
  have hrecover : translator.shared.rules.redirector.portal.recover translator.shared.sessions =
      translator.rules.redirector.portal.recover translator.sessions := rfl
  simp only [accept, haccepting, hrecover]
  split_ifs
  · rfl
  · cases arrival with
    | connected peer =>
        simp only []
        rcases translator.rules.redirector.portal.recover translator.sessions peer now with
          ⟨_ | connection, sessions⟩ <;> rfl
    | failed error =>
        simp only []
        split_ifs <;> rfl

/-! ## Acts -/

def onReads (change : ReadQueue → ReadQueue) : Translator :=
  { translator with reads? := translator.reads?.map change }

/-- A reader gives what it got to the handler. -/
def give (id : Nat) : Translator :=
  let given := match translator.reads?.bind (·.served.lookup id) with
    | none => translator
    | some datagram => translator.hand datagram (.queue datagram.source datagram.destination)
  given.onReads (·.collect id)

/-- A reader that hands on gives what it got to the handler and then posts its next read. -/
theorem handOn_eq_give {id : Nat} {datagram : Datagram}
    (hserved : translator.reads?.bind (·.served.lookup id) = some datagram) :
    translator.handOn (id, datagram) = (translator.give id).onReads (·.post.2) := by
  simp only [handOn, give, hserved, onReads, hand, Option.map_map, Function.comp_def]

/-- What can happen to a translator besides replies: what its pump, its acceptor and its sessions go
through in either mode, and what readers do in pull mode. -/
inductive Act where
  /-- Its pump handles a packet. -/
  | process (bytes : Octets) (now : Nat)
  /-- Its pump reads the device once. -/
  | read (now : Nat)
  /-- Its listener comes to something. -/
  | accept (arrival : Arrival) (now : Nat)
  /-- A handler lets a connection go. -/
  | release (connection : Connection) (now : Nat)
  /-- Somebody operates on its session table. -/
  | operate (operation : SessionTable.Operation) (now : Nat)
  /-- The far end uses its device. -/
  | use (device : Device)
  | shutDown
  /-- A reader comes. -/
  | post
  /-- A reader goes. -/
  | giveUp (id : Nat)
  /-- A reader keeps what it got. -/
  | take (id : Nat)
  /-- A reader gives what it got to the handler. -/
  | give (id : Nat)
  | closeReads

def act : Act → Translator
  | .process bytes now => translator.process bytes now
  | .read now => (translator.pumpOnce now).getD translator
  | .accept arrival now => translator.accept arrival now
  | .release connection now => translator.release connection now
  | .operate operation now =>
    { translator with sessions := Step.apply translator.sessions ⟨operation, now⟩ }
  | .use device => { translator with device }
  | .shutDown => translator.shutDown
  | .post => translator.onReads (·.post.2)
  | .giveUp id => translator.onReads (·.giveUp id)
  | .take id => translator.onReads (·.collect id)
  | .give id => translator.give id
  | .closeReads => translator.onReads (·.close)

/-- The packet that an act handles, and when. -/
def packet? : Act → Option (Octets × Nat)
  | .process bytes now => some (bytes, now)
  | .read now =>
    if translator.pumping then
      match translator.device.recv translator.buffer with
      | (some (.ok (count, buffer)), _) => some (buffer.take count, now)
      | _ => none
    else none
  | _ => none

/-- What reading the device once comes to: nothing, a packet that is handled, or a failure, which
may be the end of the pump. -/
inductive Reading (translator : Translator) (now : Nat) :
    Option (Octets × Nat) → Translator → Prop
  | idle : Reading translator now none translator
  | packet {count : Nat} {buffer : Octets} {device : Device}
      (hrecv : translator.device.recv translator.buffer = (some (.ok (count, buffer)), device)) :
      Reading translator now (some (buffer.take count, now))
        (({ translator with device, buffer }.record .read).process (buffer.take count) now)
  | closed {error : IoError} {device : Device}
      (hrecv : translator.device.recv translator.buffer = (some (.error error), device)) :
      Reading translator now none { translator with device }.stopPump
  | passed {error : IoError} {device : Device}
      (hrecv : translator.device.recv translator.buffer = (some (.error error), device)) :
      Reading translator now none { translator with device }
  | failed {error : IoError} {device : Device}
      (hrecv : translator.device.recv translator.buffer = (some (.error error), device)) :
      Reading translator now none
        ({ translator with device }.report (.device (.io error))).stopPump

theorem reading (now : Nat) :
    translator.Reading now (translator.packet? (.read now)) (translator.act (.read now)) := by
  rw [packet?, Translator.act, pumpOnce]
  by_cases hpumping : translator.pumping = true
  · rw [if_pos hpumping, if_neg (by simp [hpumping])]
    rcases hrecv : translator.device.recv translator.buffer with
      ⟨_ | error | ⟨count, buffer⟩, device⟩
    · exact .idle
    · simp only [afterRead, Option.getD_some]
      split_ifs
      · exact .closed hrecv
      · exact .passed hrecv
      · exact .failed hrecv
    · exact .packet hrecv
  · rw [if_neg hpumping, if_pos (by simp [hpumping])]
    exact .idle

/-- The datagram that an act hands on, and whether somebody takes it: the handler always does in
push mode, and in pull mode the queue of reads decides. -/
def offer? (act : Act) : Option (Datagram × Bool) :=
  match translator.packet? act with
  | none => none
  | some (bytes, now) =>
    match (translator.rules.judge translator.sessions translator.stopped bytes now).1 with
    | .deliver datagram _ =>
      some (datagram, translator.reads?.all fun reads => (reads.deliver datagram).1)
    | _ => none

def readsAfter : Act → ReadQueue → ReadQueue
  | .post, reads => reads.post.2
  | .giveUp id, reads => reads.giveUp id
  | .take id, reads => reads.collect id
  | .give id, reads => reads.collect id
  | .closeReads, reads => reads.close
  | act, reads =>
    match translator.offer? act with
    | none => reads
    | some (datagram, _) => (reads.deliver datagram).2

def after (acts : List Act) : Translator :=
  acts.foldl act translator

/-- A pump at work is a run of reads. -/
theorem pumpFor_eq_after (reads : Nat) (now : Nat) :
    pumpFor reads translator now = translator.after (List.replicate reads (.read now)) := by
  have hidle (waiting : Translator) (hwaits : waiting.pumpOnce now = none) (rest : Nat) :
      waiting.after (List.replicate rest (.read now)) = waiting := by
    induction rest with
    | zero => rfl
    | succ rest ih => rwa [List.replicate_succ, after, List.foldl_cons, act, hwaits]
  induction reads generalizing translator with
  | zero => rfl
  | succ reads ih =>
      rw [pumpFor]
      cases hread : translator.pumpOnce now with
      | none => exact (hidle translator hread (reads + 1)).symm
      | some next =>
          rw [List.replicate_succ, after, List.foldl_cons, act, hread]
          exact ih next

def packets (translator : Translator) : List Act → List Octets
  | [] => []
  | act :: acts =>
    ((translator.packet? act).map (·.1)).toList ++ packets (translator.act act) acts

/-- The datagrams that are handed on, and whether somebody took them. -/
def offers (translator : Translator) : List Act → List (Datagram × Bool)
  | [] => []
  | act :: acts => (translator.offer? act).toList ++ offers (translator.act act) acts

theorem shared_give (id : Nat) : (translator.give id).shared = translator.shared := by
  unfold give
  cases translator.reads?.bind (·.served.lookup id) <;> rfl

/-- What the modes share goes its way without regard to the mode. -/
theorem shared_act (act : Act) :
    (translator.act act).shared = (translator.shared.act act).shared := by
  cases act with
  | process bytes now => exact translator.shared_process bytes now
  | read now =>
      have hpumping : translator.shared.pumping = translator.pumping := rfl
      have hrecv : translator.shared.device.recv translator.shared.buffer =
          translator.device.recv translator.buffer := rfl
      simp only [Translator.act, pumpOnce, hpumping, hrecv]
      split_ifs
      · rfl
      · rcases translator.device.recv translator.buffer with ⟨_ | result, device⟩
        · rfl
        · exact shared_afterRead { translator with device } result now
  | accept arrival now => exact translator.shared_accept arrival now
  | give id => exact (translator.shared_give id).trans (translator.shared.shared_give id).symm
  | _ => rfl

theorem packet?_shared (act : Act) : translator.shared.packet? act = translator.packet? act := by
  cases act <;> rfl

/-- Which datagrams there are does not depend on the mode. -/
theorem offer?_shared (act : Act) :
    (translator.shared.offer? act).map (·.1) = (translator.offer? act).map (·.1) := by
  have hjudge : translator.shared.rules.judge translator.shared.sessions translator.shared.stopped =
      translator.rules.judge translator.sessions translator.stopped := rfl
  simp only [offer?, packet?_shared, hjudge]
  cases translator.packet? act with
  | none => rfl
  | some packet =>
      rcases packet with ⟨bytes, now⟩
      simp only []
      split <;> rfl

theorem agree_of_shared {push pull : Translator} (hshared : push.shared = pull.shared)
    (acts : List Act) :
    (push.after acts).shared = (pull.after acts).shared ∧ push.packets acts = pull.packets acts ∧
      (push.offers acts).map (·.1) = (pull.offers acts).map (·.1) := by
  induction acts generalizing push pull with
  | nil => exact ⟨hshared, rfl, rfl⟩
  | cons act acts ih =>
      have hnext : (push.act act).shared = (pull.act act).shared := by
        rw [shared_act, hshared, ← shared_act]
      have hpacket : push.packet? act = pull.packet? act := by
        rw [← packet?_shared, hshared, packet?_shared]
      have hoffer : (push.offer? act).map (·.1) = (pull.offer? act).map (·.1) := by
        rw [← offer?_shared, hshared, offer?_shared]
      obtain ⟨hafter, hpackets, hoffers⟩ := ih hnext
      refine ⟨hafter, by rw [packets, packets, hpacket, hpackets], ?_⟩
      rw [offers, offers, List.map_append, List.map_append, hoffers, ← Option.toList_map,
        ← Option.toList_map, hoffer]

end Translator

end PortalNat
