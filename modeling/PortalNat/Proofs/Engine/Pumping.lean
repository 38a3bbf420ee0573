import PortalNat.Proofs.Datagram.Reply
import PortalNat.Proofs.Engine.Balance
import PortalNat.Proofs.Engine.Frame

/-!
# A run of the pump

The pump reads its device again and again into one buffer, while replies are sent, connections are
accepted and the far end uses the device. It handles each packet that it reads before it reads the
next, as just the octets of that read, whatever the buffer held before. It passes over a failure
that is transient. A shutdown or any other failure ends it for good, and the failure is reported
unless it says that the device was closed.
-/

namespace PortalNat

theorem IoError.isTransient_of_isClosed {error : IoError} (hclosed : error.isClosed = true) :
    error.isTransient = false := by
  rcases error with ⟨kind, text⟩
  cases kind <;> first | rfl | cases hclosed

def NatError.deviceFault? : NatError → Option DeviceError
  | .device error => some error
  | _ => none

namespace Device

/-- What is read of a packet is its own octets, as many as there is room for. -/
theorem take_received (buffer packet : Octets) :
    (received buffer packet).2.take (received buffer packet).1 = packet.take buffer.length := by
  have hread : (packet.take buffer.length).length = min packet.length buffer.length := by
    rw [List.length_take, Nat.min_comm]
  simp only [received, Octets.copyInto, Octets.overwrite, List.take_zero, List.nil_append]
  rw [← hread, List.take_left]

end Device

namespace Translator

/-! ## Moments -/

def Turn.isAside : Turn → Bool
  | .act (.read _) _ | .act .shutDown _ => false
  | _ => true

/-- Something that happens while a pump runs. -/
inductive Moment where
  /-- Its read of the device comes to something. -/
  | read (result : Except IoError Octets) (now : Nat)
  | shutDown
  /-- Something else happens to the translator. -/
  | aside (turn : Turn) (haside : turn.isAside = true)

namespace Moment

def packet? (room : Nat) : Moment → Option Octets
  | read (.ok packet) _ => some (packet.take room)
  | _ => none

def result? : Moment → Option (Except IoError Octets)
  | read result _ => some result
  | _ => none

/-- What ends a pump, and what failure is reported then. -/
inductive Ends : Moment → Option DeviceError → Prop
  | shutDown : Ends shutDown none
  | closed {error : IoError} {now : Nat} (hclosed : error.isClosed = true) :
      Ends (read (.error error) now) none
  | failed {error : IoError} {now : Nat} (hopen : error.isClosed = false)
      (hfatal : error.isTransient = false) : Ends (read (.error error) now) (some (.io error))

end Moment

/-- The translator after a moment. A pump that has ended does not read. -/
def undergo (translator : Translator) : Moment → Translator
  | .read result now =>
    if translator.pumping then
      translator.afterRead (result.map (Device.received translator.buffer)) now
    else translator
  | .shutDown => translator.shutDown
  | .aside turn _ => translator.turn turn

def handledIn (translator : Translator) : Moment → Option Octets
  | .read result _ =>
    if translator.pumping then
      match result.map (Device.received translator.buffer) with
      | .ok (count, buffer) => some (buffer.take count)
      | .error _ => none
    else none
  | _ => none

def through (translator : Translator) (moments : List Moment) : Translator :=
  moments.foldl undergo translator

def handled (translator : Translator) : List Moment → List Octets
  | [] => []
  | moment :: moments =>
    (translator.handledIn moment).toList ++ handled (translator.undergo moment) moments

def deviceFaults (translator : Translator) : List DeviceError :=
  translator.reported.filterMap NatError.deviceFault?

variable {translator start : Translator} {moment : Moment} {moments : List Moment}

/-! ## One moment -/

/-- A pump that has ended reads nothing any more. -/
theorem undergo_of_ended (hended : translator.pumping = false) (result : Except IoError Octets)
    (now : Nat) : translator.undergo (.read result now) = translator := by
  simp only [undergo, hended, Bool.false_eq_true, if_false]

/-- A packet that is read is handled as just the octets of its read. -/
theorem undergo_packet (hpumping : translator.pumping = true) (packet : Octets) (now : Nat) :
    translator.undergo (.read (.ok packet) now) =
      ({ translator with buffer := translator.buffer.copyInto packet }.record .read).process
        (packet.take translator.buffer.length) now := by
  rw [← Device.take_received, undergo, if_pos hpumping]
  rfl

theorem undergo_transient {error : IoError} (htransient : error.isTransient = true) (now : Nat) :
    translator.undergo (.read (.error error) now) = translator := by
  have hopen : error.isClosed = false := by
    by_contra hclosed
    rw [IoError.isTransient_of_isClosed (by simpa using hclosed)] at htransient
    cases htransient
  simp only [undergo, Except.map, afterRead, hopen, htransient, Bool.false_eq_true, if_false,
    if_true, ite_self]

theorem handledIn_eq (hpumping : translator.pumping = true) (moment : Moment) :
    translator.handledIn moment = moment.packet? translator.buffer.length := by
  cases moment with
  | read result now =>
      simp only [handledIn, hpumping, if_true]
      cases result with
      | error error => rfl
      | ok packet => exact congrArg some (Device.take_received translator.buffer packet)
  | shutDown | aside => rfl

theorem handledIn_of_ended (hended : translator.pumping = false) (moment : Moment) :
    translator.handledIn moment = none := by
  cases moment with
  | read => simp only [handledIn, hended, Bool.false_eq_true, if_false]
  | shutDown | aside => rfl

/-- What is the pump's own: whether it is at work, how much room it has, and what it reported. -/
structure Undisturbed (before after : Translator) : Prop where
  pumping : after.pumping = before.pumping
  room : after.buffer.length = before.buffer.length
  faults : after.deviceFaults = before.deviceFaults

theorem Undisturbed.trans {before middle after : Translator} (hfirst : Undisturbed before middle)
    (hsecond : Undisturbed middle after) : Undisturbed before after :=
  ⟨hsecond.pumping.trans hfirst.pumping, hsecond.room.trans hfirst.room,
    hsecond.faults.trans hfirst.faults⟩

theorem Frames.undisturbed {before after : Translator} (hframes : Frames before after) :
    Undisturbed before after :=
  ⟨hframes.pumping, congrArg List.length hframes.buffer,
    hframes.filterMap_reported fun _ => rfl⟩

theorem undisturbed_accept (translator : Translator) (arrival : Arrival) (now : Nat) :
    Undisturbed translator (translator.accept arrival now) := by
  have harriving := translator.arriving arrival now
  generalize translator.accept arrival now = next at harriving ⊢
  cases harriving with
  | unheard | handed | rejected | passed => exact ⟨rfl, rfl, rfl⟩
  | ended =>
      refine ⟨rfl, rfl, ?_⟩
      simp [deviceFaults, report, NatError.deviceFault?]

/-- What is none of the pump's own leaves that alone. -/
theorem undisturbed_turn (translator : Translator) {turn : Turn} (haside : turn.isAside = true) :
    Undisturbed translator (translator.turn turn) := by
  cases turn with
  | reply back payload source? => exact (translator.frames_reply back payload source?).undisturbed
  | act act hread =>
      cases act with
      | process bytes now => exact absurd rfl (hread bytes now)
      | read | shutDown => cases haside
      | accept arrival now => exact translator.undisturbed_accept arrival now
      | give id =>
          have hshared := translator.shared_give id
          have hpumping := congrArg Translator.pumping hshared
          have hbuffer := congrArg Translator.buffer hshared
          have hreported := congrArg Translator.reported hshared
          exact ⟨hpumping, congrArg List.length hbuffer, congrArg (List.filterMap _) hreported⟩
      | release | operate | use | post | giveUp | take | closeReads => exact ⟨rfl, rfl, rfl⟩

/-- What does not end the pump leaves its own alone. -/
theorem undisturbed_undergo (translator : Translator) (hgoes : ∀ fault?, ¬moment.Ends fault?) :
    Undisturbed translator (translator.undergo moment) := by
  cases moment with
  | shutDown => exact absurd .shutDown (hgoes none)
  | aside turn haside => exact translator.undisturbed_turn haside
  | read result now =>
      cases hpumping : translator.pumping with
      | false =>
          rw [undergo_of_ended hpumping]
          exact ⟨rfl, rfl, rfl⟩
      | true =>
          cases result with
          | ok packet =>
              rw [undergo_packet hpumping]
              have hread : Undisturbed translator
                  ({ translator with buffer := translator.buffer.copyInto packet }.record .read) :=
                ⟨rfl, Octets.length_copyInto _ _, rfl⟩
              exact hread.trans (frames_process _ _ now).undisturbed
          | error error =>
              have htransient : error.isTransient = true := by
                by_contra hfatal
                rw [Bool.not_eq_true] at hfatal
                cases hclosed : error.isClosed with
                | true => exact hgoes none (.closed hclosed)
                | false => exact hgoes _ (.failed hclosed hfatal)
              rw [undergo_transient htransient]
              exact ⟨rfl, rfl, rfl⟩

/-- What ends a pump at work is reported once, if it is to be reported. -/
theorem undergo_ends {fault? : Option DeviceError} (hpumping : translator.pumping = true)
    (hends : moment.Ends fault?) :
    (translator.undergo moment).pumping = false ∧
      (translator.undergo moment).deviceFaults = translator.deviceFaults ++ fault?.toList ∧
      translator.handledIn moment = none := by
  rw [handledIn_eq hpumping]
  cases hends with
  | shutDown => exact ⟨rfl, (List.append_nil _).symm, rfl⟩
  | closed hclosed =>
      simp only [undergo, hpumping, if_true, Except.map, afterRead, hclosed]
      exact ⟨rfl, (List.append_nil _).symm, rfl⟩
  | failed hopen hfatal =>
      simp only [undergo, hpumping, if_true, Except.map, afterRead, hopen, hfatal,
        Bool.false_eq_true, if_false]
      refine ⟨rfl, ?_, rfl⟩
      simp [deviceFaults, report, stopPump, NatError.deviceFault?]

/-! ## Runs -/

theorem through_append (translator : Translator) (earlier later : List Moment) :
    translator.through (earlier ++ later) = (translator.through earlier).through later :=
  List.foldl_append

theorem handled_append (translator : Translator) (earlier later : List Moment) :
    translator.handled (earlier ++ later) =
      translator.handled earlier ++ (translator.through earlier).handled later := by
  induction earlier generalizing translator with
  | nil => rfl
  | cons moment earlier ih =>
      rw [List.cons_append, handled, ih, ← List.append_assoc]
      rfl

/-- Up to what ends it the pump goes on as it was and handles every packet. -/
theorem through_of_goes (start : Translator)
    (hgoes : ∀ moment ∈ moments, ∀ fault?, ¬moment.Ends fault?) :
    Undisturbed start (start.through moments) ∧ (start.pumping = true →
      start.handled moments = moments.filterMap (Moment.packet? start.buffer.length)) := by
  induction moments generalizing start with
  | nil => exact ⟨⟨rfl, rfl, rfl⟩, fun _ => rfl⟩
  | cons moment moments ih =>
      obtain ⟨hfirst, hlater⟩ := List.forall_mem_cons.1 hgoes
      have hnext := start.undisturbed_undergo hfirst
      obtain ⟨hundisturbed, hhandled⟩ := ih (start.undergo moment) hlater
      refine ⟨hnext.trans hundisturbed, ?_⟩
      intro hpumping
      rw [handled, handledIn_eq hpumping, hhandled (hnext.pumping.trans hpumping), hnext.room,
        List.filterMap_cons]
      cases moment.packet? start.buffer.length <;> rfl

/-- Once the pump has ended it stays so, handles nothing and reports nothing. -/
theorem through_of_ended (hended : start.pumping = false) (moments : List Moment) :
    (start.through moments).pumping = false ∧ start.handled moments = [] ∧
      (start.through moments).deviceFaults = start.deviceFaults := by
  induction moments generalizing start with
  | nil => exact ⟨hended, rfl, rfl⟩
  | cons moment moments ih =>
      have hstep : (start.undergo moment).pumping = false ∧
          (start.undergo moment).deviceFaults = start.deviceFaults := by
        cases moment with
        | read result now =>
            rw [undergo_of_ended hended]
            exact ⟨hended, rfl⟩
        | shutDown => exact ⟨rfl, rfl⟩
        | aside turn haside =>
            have hundisturbed := start.undisturbed_turn haside
            exact ⟨hundisturbed.pumping.trans hended, hundisturbed.faults⟩
      obtain ⟨hpumping, hhandled, hfaults⟩ := ih hstep.1
      refine ⟨hpumping, ?_, hfaults.trans hstep.2⟩
      rw [handled, handledIn_of_ended hended, hhandled]
      rfl

/-! ## The buffer -/

def withBuffer (translator : Translator) (buffer : Octets) : Translator :=
  { translator with buffer }

theorem write_withBuffer (translator : Translator) (buffer packet : Octets) :
    (translator.withBuffer buffer).write packet = (translator.write packet).withBuffer buffer := by
  simp only [write_eq, withBuffer]
  cases translator.device.refusal? <;> rfl

theorem deliver_withBuffer (translator : Translator) (buffer : Octets) (datagram : Datagram)
    (template : ReplyTemplate) :
    (translator.withBuffer buffer).deliver datagram template =
      (translator.deliver datagram template).withBuffer buffer := by
  simp only [deliver, withBuffer]
  split
  · rfl
  · split <;> rfl

/-- How a packet is handled does not depend on the buffer. -/
theorem process_withBuffer (translator : Translator) (buffer bytes : Octets) (now : Nat) :
    (translator.withBuffer buffer).process bytes now =
      (translator.process bytes now).withBuffer buffer := by
  have hjudge : (translator.withBuffer buffer).rules.judge (translator.withBuffer buffer).sessions
      (translator.withBuffer buffer).stopped bytes now =
        translator.rules.judge translator.sessions translator.stopped bytes now := rfl
  rw [process, process, hjudge]
  rcases translator.rules.judge translator.sessions translator.stopped bytes now with
    ⟨verdict, sessions⟩
  let judged := { translator with sessions }
  cases verdict with
  | write event packet => exact write_withBuffer (judged.record event) buffer packet
  | deliver datagram template =>
      exact deliver_withBuffer (judged.record .datagram) buffer datagram template
  | ignore => rfl
  | drop reason report? => cases report? <;> rfl

theorem accept_withBuffer (translator : Translator) (buffer : Octets) (arrival : Arrival)
    (now : Nat) :
    (translator.withBuffer buffer).accept arrival now =
      (translator.accept arrival now).withBuffer buffer := by
  have hrecover : (translator.withBuffer buffer).rules.redirector.portal.recover
      (translator.withBuffer buffer).sessions =
    translator.rules.redirector.portal.recover translator.sessions := rfl
  have hsame : (translator.withBuffer buffer).accepting = translator.accepting := rfl
  unfold accept
  rw [hrecover, hsame]
  split_ifs
  · rfl
  · cases arrival with
    | connected peer =>
        simp only []
        split <;> rfl
    | failed error =>
        simp only []
        split_ifs <;> rfl

theorem turn_withBuffer (translator : Translator) (buffer : Octets) {turn : Turn}
    (haside : turn.isAside = true) :
    (translator.withBuffer buffer).turn turn = (translator.turn turn).withBuffer buffer := by
  cases turn with
  | reply back payload source? =>
      simp only [Translator.turn, reply_eq]
      rfl
  | act act hread =>
      cases act with
      | process bytes now => exact absurd rfl (hread bytes now)
      | read | shutDown => cases haside
      | accept arrival now => exact translator.accept_withBuffer buffer arrival now
      | give id =>
          simp only [Translator.turn, Translator.act, Translator.give, withBuffer]
          cases translator.reads?.bind (·.served.lookup id) <;> rfl
      | release | operate | use | post | giveUp | take | closeReads => rfl

/-- What the buffer holds has no part in what happens, and there is always as much room. -/
theorem undergo_withBuffer (translator : Translator) {buffer : Octets}
    (hroom : buffer.length = translator.buffer.length) (moment : Moment) :
    (translator.undergo moment).buffer.length = translator.buffer.length ∧
      ∃ left : Octets, left.length = buffer.length ∧
        (translator.withBuffer buffer).undergo moment =
          (translator.undergo moment).withBuffer left := by
  cases moment with
  | shutDown => exact ⟨rfl, buffer, rfl, rfl⟩
  | aside turn haside =>
      exact ⟨(translator.undisturbed_turn haside).room, buffer, rfl,
        translator.turn_withBuffer buffer haside⟩
  | read result now =>
      have hsame : (translator.withBuffer buffer).pumping = translator.pumping := rfl
      cases hpumping : translator.pumping with
      | false =>
          rw [undergo_of_ended hpumping, undergo_of_ended (hsame.trans hpumping)]
          exact ⟨rfl, buffer, rfl, rfl⟩
      | true =>
          cases result with
          | ok packet =>
              rw [undergo_packet hpumping, undergo_packet (hsame.trans hpumping)]
              refine ⟨?_, buffer.copyInto packet, Octets.length_copyInto _ _, ?_⟩
              · rw [(frames_process _ _ now).buffer]
                exact Octets.length_copyInto _ _
              · rw [show (translator.withBuffer buffer).buffer.length = _ from hroom]
                exact process_withBuffer ({ translator with
                  buffer := translator.buffer.copyInto packet }.record .read) _ _ now
          | error error =>
              simp only [undergo, hsame, hpumping, if_true, Except.map, afterRead]
              split_ifs <;> exact ⟨rfl, buffer, rfl, rfl⟩

theorem through_withBuffer (start : Translator) {buffer : Octets}
    (hroom : buffer.length = start.buffer.length) (moments : List Moment) :
    (start.through moments).buffer.length = start.buffer.length ∧
      ∃ left : Octets, (start.withBuffer buffer).through moments =
        (start.through moments).withBuffer left := by
  induction moments generalizing start buffer with
  | nil => exact ⟨rfl, buffer, rfl⟩
  | cons moment moments ih =>
      obtain ⟨hsame, left, hleft, hnext⟩ := start.undergo_withBuffer hroom moment
      obtain ⟨hstays, last, hlater⟩ :=
        ih (start.undergo moment) (hleft.trans (hroom.trans hsame.symm))
      refine ⟨hstays.trans hsame, last, ?_⟩
      change ((start.withBuffer buffer).undergo moment).through moments = _
      rw [hnext, hlater]
      rfl

end Translator

end PortalNat
