import PortalNat.Proofs.Acceptance.Run
import PortalNat.Proofs.Engine.Consumption
import PortalNat.Proofs.Reads.Closed

/-!
# What stays closed

A device that was closed and reads that were closed stay so, whatever happens, and without a pump
and an acceptor a table without sessions stays as it is. What is still reported then is about a
packet, a device that is open, or the listener.
-/

namespace PortalNat

open SessionTable (Step)

/-! ## A table without sessions -/

structure SessionTable.IsEmpty (table : SessionTable) : Prop where
  byPort : table.byPort = ∅
  byTuple : table.byTuple = ∅

/-- A table without sessions stays as it is until a session is made. -/
theorem SessionTable.IsEmpty.apply_eq {table : SessionTable} (hempty : table.IsEmpty) (step : Step)
    (hnew : ∀ tuple, step.operation ≠ .newSession tuple) : step.apply table = table := by
  obtain ⟨hports, htuples⟩ := hempty
  rcases step with ⟨operation, now⟩
  cases operation with
  | newSession tuple => exact absurd rfl (hnew tuple)
  | portOf tuple => simp [Step.apply, portOf, htuples]
  | tupleOf port => simp [Step.apply, tupleOf, hports]
  | attach port => simp [Step.apply, attach, hports]
  | release port id => simp [Step.apply, release, hports]
  | evict tuple => simp [Step.apply, evict, htuples]
  | sweep =>
      have hexpired : table.expiredPorts now = [] := by
        rw [List.eq_nil_iff_forall_not_mem]
        intro port hport
        obtain ⟨entry, hentry, -⟩ := (table.mem_expiredPorts_iff now port).1 hport
        simp [hports] at hentry
      simp only [Step.apply, sweep, hexpired, List.foldl_nil]
  | clear => simp [Step.apply, clear, ← hports, ← htuples]

/-! ## What others do -/

namespace Translator

open ReadQueue (Lasts Numbered Shut)

theorem lasts_readsAfter {motive : ReadQueue → Prop} (hlasts : Lasts motive)
    (translator : Translator) (act : Act) {queue : ReadQueue} (hqueue : motive queue) :
    motive (translator.readsAfter act queue) := by
  cases act with
  | post => exact hlasts.post hqueue
  | giveUp id => exact hlasts.giveUp id hqueue
  | take id | give id => exact hlasts.collect id hqueue
  | closeReads => exact hlasts.close hqueue
  | process | read =>
      simp only [readsAfter]
      split
      · exact hqueue
      · exact hlasts.deliver _ hqueue
  | accept | release | operate | use | shutDown => exact hqueue

theorem lasts_turn {motive : ReadQueue → Prop} (hlasts : Lasts motive) {translator : Translator}
    (hreads : ∀ reads, translator.reads? = some reads → motive reads) (turn : Turn) :
    ∀ reads, (translator.turn turn).reads? = some reads → motive reads := by
  cases turn with
  | reply back payload source? =>
      rw [Translator.turn, reply_eq]
      exact hreads
  | act act hread =>
      intro reads hafter
      rw [Translator.turn, reads?_act, Option.map_eq_some_iff] at hafter
      obtain ⟨before, hbefore, rfl⟩ := hafter
      exact lasts_readsAfter hlasts translator act (hreads before hbefore)

/-- A pump that reads a device that was closed ends, and reports nothing. -/
theorem act_read_of_closed {translator : Translator} (hclosed : translator.device.closed = true)
    (now : Nat) :
    translator.act (.read now) =
      if translator.pumping then translator.stopPump else translator := by
  have hrecv : translator.device.recv translator.buffer =
      (some (.error .deviceClosed), translator.device) := by
    simp only [Device.recv, Device.receptions, hclosed, if_true, List.cons_append]
  simp only [act, pumpOnce, hrecv]
  cases translator.pumping <;> rfl

/-- Whom an error is about that a turn reports: a packet that found no port, a device that is open,
or the listener. -/
inductive Blames (translator : Translator) : Turn → NatError → Prop
  | packet {now : Nat} {bytes : Octets} {hread : ∀ bytes later, Act.read now ≠ .process bytes later}
      (hpacket : translator.packet? (.read now) = some (bytes, now)) (inUse : Nat) :
      Blames translator (.act (.read now) hread) (.session (.exhausted inUse))
  | device {now : Nat} {error : IoError} {after : Device}
      {hread : ∀ bytes later, Act.read now ≠ .process bytes later}
      (hopen : translator.device.closed = false)
      (hrecv : translator.device.recv translator.buffer = (some (.error error), after))
      (hother : error.isClosed = false) (hfatal : error.isTransient = false) :
      Blames translator (.act (.read now) hread) (.device (.io error))
  | listener {now : Nat} {error : IoError}
      {hread : ∀ bytes later, Act.accept (.failed error) now ≠ .process bytes later}
      (hfatal : error.isTransient = false) :
      Blames translator (.act (.accept (.failed error) now) hread) (.listener (.accept error))

theorem closed_turn {translator : Translator} (hclosed : translator.device.closed = true)
    {turn : Turn} (huse : ∀ device hread, turn = .act (.use device) hread → device.closed = true) :
    (translator.turn turn).device.closed = true := by
  by_cases haside : turn.isAside = true
  · by_cases hused : ∃ device hread, turn = .act (.use device) hread
    · obtain ⟨device, hread, rfl⟩ := hused
      exact huse device hread rfl
    · have hother (device : Device) (hread) : turn ≠ .act (.use device) hread :=
        fun hturn => hused ⟨device, hread, hturn⟩
      exact (translator.written_turn haside hother).closed.trans hclosed
  · cases turn with
    | reply => exact absurd rfl haside
    | act act hread =>
        cases act with
        | read now =>
            rw [Translator.turn, act_read_of_closed hclosed]
            split_ifs <;> exact hclosed
        | shutDown => exact hclosed
        | _ => exact absurd rfl haside

/-- Neither the pump nor the acceptor is at work. -/
structure Idle (translator : Translator) : Prop where
  pumping : translator.pumping = false
  accepting : translator.accepting = false

theorem Idle.act_read {translator : Translator} (hidle : translator.Idle) (now : Nat) :
    translator.act (.read now) = translator := by
  simp [act, pumpOnce, hidle.pumping]

theorem Idle.turn {translator : Translator} (hidle : translator.Idle) (turn : Turn) :
    (translator.turn turn).Idle := by
  cases turn with
  | reply back payload source? =>
      have hframes := translator.frames_reply back payload source?
      exact ⟨hframes.pumping.trans hidle.pumping, hframes.accepting.trans hidle.accepting⟩
  | act act hread =>
      cases act with
      | process bytes now => exact absurd rfl (hread bytes now)
      | read now =>
          rw [Translator.turn, hidle.act_read]
          exact hidle
      | accept arrival now =>
          rw [Translator.turn, Translator.act, accept_of_ended hidle.accepting]
          exact hidle
      | give id =>
          have hpumping := congrArg Translator.pumping (translator.shared_give id)
          have haccepting := congrArg Translator.accepting (translator.shared_give id)
          exact ⟨hpumping.trans hidle.pumping, haccepting.trans hidle.accepting⟩
      | shutDown => exact ⟨rfl, rfl⟩
      | release | operate | use | post | giveUp | take | closeReads =>
          exact ⟨hidle.pumping, hidle.accepting⟩

/-- Without a pump and an acceptor a table without sessions stays so until somebody makes one. -/
theorem Idle.sessions_turn {translator : Translator} (hidle : translator.Idle)
    (hempty : translator.sessions.IsEmpty) {turn : Turn}
    (hnew : ∀ tuple now hread, turn ≠ .act (.operate (.newSession tuple) now) hread) :
    (translator.turn turn).sessions = translator.sessions := by
  cases turn with
  | reply back payload source? =>
      rw [Translator.turn, reply_eq]
      rfl
  | act act hread =>
      cases act with
      | process bytes now => exact absurd rfl (hread bytes now)
      | read now => rw [Translator.turn, hidle.act_read]
      | accept arrival now => rw [Translator.turn, Translator.act, accept_of_ended hidle.accepting]
      | release connection now =>
          apply hempty.apply_eq ⟨.release connection.port connection.session, now⟩
          simp
      | operate operation now =>
          apply hempty.apply_eq
          rintro tuple rfl
          exact hnew tuple now hread rfl
      | give id =>
          have hsessions := congrArg Translator.sessions (translator.shared_give id)
          exact hsessions
      | use | shutDown | post | giveUp | take | closeReads => rfl

end Translator

/-- A device that was closed refuses every write, as one that is closed or for a reason of its
own. -/
theorem Device.exists_refusal {device : Device} (hclosed : device.closed = true) :
    ∃ error, device.refusal? = some error ∧
      (device.writeFault? = none → error = .deviceClosed) := by
  unfold refusal?
  cases device.writeFault? with
  | some error => exact ⟨error, rfl, fun hnone => nomatch hnone⟩
  | none => exact ⟨.deviceClosed, by simp [hclosed], fun _ => rfl⟩

/-- A reply to a device that refuses every write changes nothing. It fails as it would anyway, or
as the device refuses it. -/
theorem Translator.reply_of_refusal {translator : Translator} {refusal : IoError}
    (hrefusal : translator.device.refusal? = some refusal) (back : WriteBack) (payload : Octets)
    (source? : Option Endpoint) :
    ∃ error, translator.reply back payload source? = (.error error, translator) ∧
      (∀ reason, back.build translator.readsClosed payload source? = .error reason →
        error = reason) ∧
      ∀ packet, back.build translator.readsClosed payload source? = .ok packet →
        error = .udp (.writeBack (.ofWrite refusal)) := by
  have hsent : translator.sent? back payload source? = none := by rw [sent?, hrefusal]
  rw [reply_eq, hsent, Option.toList_none, answered_nil, outcome, hrefusal]
  cases back.build translator.readsClosed payload source? with
  | error error => exact ⟨error, rfl, fun reason hreason => by cases hreason; rfl, by simp⟩
  | ok packet => exact ⟨_, rfl, by simp, fun _ _ => rfl⟩

end PortalNat
