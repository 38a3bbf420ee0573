import PortalNat.Proofs.Engine.Modes
import PortalNat.Proofs.Redirection.Traffic

/-!
# What a turn enters in the books

A translator keeps books of what it does: it counts events and reports errors, and its device holds
the packets that it took. A packet that is read is entered in one of seven ways, which its verdict
and the device decide between, and every other turn enters one thing at most.
-/

namespace PortalNat

theorem Statistics.recordAll_append (statistics : Statistics) (first second : List Event) :
    statistics.recordAll (first ++ second) = (statistics.recordAll first).recordAll second :=
  List.foldl_append

/-- The counter of an event. -/
def Statistics.counter (statistics : Statistics) : Event → Nat
  | .read => statistics.packetsRead
  | .written => statistics.packetsWritten
  | .redirected => statistics.tcpRedirected
  | .restored => statistics.tcpReplies
  | .datagram => statistics.udpDatagrams
  | .reply => statistics.udpReplies
  | .echo => statistics.icmpEchoReplies
  | .accepted => statistics.connectionsAccepted
  | .rejected => statistics.connectionsRejected
  | .dropped .malformed => statistics.droppedMalformed
  | .dropped .fragmented => statistics.droppedFragmented
  | .dropped .filtered => statistics.droppedFiltered
  | .dropped .unknownSession => statistics.droppedUnknownSession
  | .dropped .noReader => statistics.droppedNoReader
  | .dropped .exhausted => statistics.sessionsExhausted
  | .dropped .redirectorStopped => statistics.droppedRedirectorStopped

/-- Each event has a counter of its own. -/
theorem Statistics.counter_record (statistics : Statistics) (event other : Event) :
    (statistics.record event).counter other =
      statistics.counter other + if event = other then 1 else 0 := by
  rcases event with _ | _ | _ | _ | _ | _ | _ | _ | _ | reason <;>
    rcases other with _ | _ | _ | _ | _ | _ | _ | _ | _ | otherReason
  case dropped.dropped => cases reason <;> cases otherReason <;> rfl
  all_goals first
    | rfl
    | (cases reason <;> rfl)
    | (cases otherReason <;> rfl)

theorem Statistics.counter_recordAll (statistics : Statistics) (events : List Event)
    (event : Event) :
    (statistics.recordAll events).counter event =
      statistics.counter event + events.count event := by
  induction events generalizing statistics with
  | nil => rfl
  | cons first events ih =>
      have hfirst := statistics.counter_record first event
      have hrest := ih (statistics.record first)
      change ((statistics.record first).recordAll events).counter event = _
      rw [hrest, hfirst, List.count_cons, Nat.add_assoc, Nat.add_comm (ite _ _ _)]
      simp only [beq_iff_eq]

theorem Device.outbound_recv {device after : Device} {buffer : Octets}
    {result? : Option (Except IoError (Nat × Octets))}
    (hrecv : device.recv buffer = (result?, after)) : after.outbound = device.outbound := by
  have houtbound : ∀ reception ∈ device.receptions buffer,
      reception.2.outbound = device.outbound := by
    intro reception hreception
    simp only [receptions, List.mem_append] at hreception
    rcases hreception with hclosing | hreading
    · split at hclosing
      · rw [List.mem_singleton.1 hclosing]
      · cases hclosing
    · split at hreading
      · rw [List.mem_singleton.1 hreading]
      · split at hreading
        · rw [List.mem_singleton.1 hreading]
        · cases hreading
  unfold recv at hrecv
  split at hrecv
  · cases hrecv
    rfl
  · next result device' rest hreceptions =>
      cases hrecv
      exact houtbound (result, after) (hreceptions ▸ List.mem_cons_self)

namespace Translator

/-- When a translator went over into another one, it counted some events and reported some errors,
and its device took some packets. -/
structure Logs (before after : Translator) (events : List Event) (errors : List NatError)
    (taken : List Octets) : Prop where
  statistics : after.statistics = before.statistics.recordAll events
  reported : after.reported = before.reported ++ errors
  outbound : after.device.outbound = before.device.outbound ++ taken

variable {before middle after : Translator} {events laterEvents : List Event}
  {errors laterErrors : List NatError} {taken laterTaken : List Octets}

theorem Logs.trans (hfirst : Logs before middle events errors taken)
    (hsecond : Logs middle after laterEvents laterErrors laterTaken) :
    Logs before after (events ++ laterEvents) (errors ++ laterErrors) (taken ++ laterTaken) where
  statistics := by rw [hsecond.statistics, hfirst.statistics, Statistics.recordAll_append]
  reported := by rw [hsecond.reported, hfirst.reported, List.append_assoc]
  outbound := by rw [hsecond.outbound, hfirst.outbound, List.append_assoc]

theorem Logs.nothing (hstatistics : after.statistics = before.statistics)
    (hreported : after.reported = before.reported)
    (houtbound : after.device.outbound = before.device.outbound) : Logs before after [] [] [] :=
  ⟨hstatistics, by rw [hreported, List.append_nil], by rw [houtbound, List.append_nil]⟩

theorem logs_record (translator : Translator) (event : Event) :
    Logs translator (translator.record event) [event] [] [] :=
  ⟨rfl, (List.append_nil _).symm, (List.append_nil _).symm⟩

theorem logs_report (translator : Translator) (error : NatError) :
    Logs translator (translator.report error) [] [error] [] :=
  ⟨rfl, rfl, (List.append_nil _).symm⟩

/-- A packet that is written is counted if the device takes it. -/
theorem logs_write (translator : Translator) (packet : Octets) :
    Logs translator (translator.write packet) [.written] [] [packet] ∨
      Logs translator (translator.write packet) [] [] [] := by
  rw [write_eq]
  cases translator.device.refusal? with
  | some error => exact .inr (.nothing rfl rfl rfl)
  | none => exact .inl ⟨rfl, (List.append_nil _).symm, rfl⟩

/-- Handing a datagram on is counted only if nobody takes it. -/
theorem logs_deliver (translator : Translator) (datagram : Datagram) (template : ReplyTemplate) :
    Logs translator (translator.deliver datagram template) [] [] [] ∨
      Logs translator (translator.deliver datagram template) [.dropped .noReader] [] [] := by
  unfold deliver
  split
  · exact .inl (.nothing rfl rfl rfl)
  · split
    · exact .inl (.nothing rfl rfl rfl)
    · exact .inr ⟨rfl, (List.append_nil _).symm, (List.append_nil _).symm⟩

/-! ## Packets -/

/-- What handling a packet can enter in the books, where the packet is `declined` if it is a control
message that nobody answers. -/
inductive Handled : (declined : Bool) → List Event → List NatError → List Octets → Prop
  | written {event : Event} (hevent : event = .redirected ∨ event = .restored ∨ event = .echo)
      (packet : Octets) : Handled false [event, .written] [] [packet]
  | unwritten {event : Event} (hevent : event = .redirected ∨ event = .restored ∨ event = .echo) :
      Handled false [event] [] []
  | delivered : Handled false [.datagram] [] []
  | missed : Handled false [.datagram, .dropped .noReader] [] []
  | declined : Handled true [] [] []
  | dropped {reason : DropReason} (hreader : reason ≠ .noReader) (hports : reason ≠ .exhausted) :
      Handled false [.dropped reason] [] []
  | exhausted (inUse : Nat) :
      Handled false [.dropped .exhausted] [.session (.exhausted inUse)] []

theorem handled_carryOut (translator : Translator) {verdict : Verdict}
    (hsettled : verdict.Settled) :
    ∃ events errors taken, Logs translator (translator.carryOut verdict) events errors taken ∧
      Handled (verdict == .ignore) events errors taken := by
  cases hsettled with
  | @write event hevent packet =>
      have hrecord := translator.logs_record event
      rcases (translator.record event).logs_write packet with hwritten | hlost
      · exact ⟨_, _, _, hrecord.trans hwritten, .written hevent packet⟩
      · exact ⟨_, _, _, hrecord.trans hlost, .unwritten hevent⟩
  | deliver datagram template =>
      have hrecord := translator.logs_record .datagram
      rcases (translator.record .datagram).logs_deliver datagram template with htaken | hmissed
      · exact ⟨_, _, _, hrecord.trans htaken, .delivered⟩
      · exact ⟨_, _, _, hrecord.trans hmissed, .missed⟩
  | ignore => exact ⟨_, _, _, .nothing rfl rfl rfl, .declined⟩
  | @drop reason hreader hports =>
      exact ⟨_, _, _, translator.logs_record (.dropped reason), .dropped hreader hports⟩
  | exhausted inUse =>
      have hrecord := translator.logs_record (.dropped .exhausted)
      exact ⟨_, _, _, hrecord.trans (logs_report _ _), .exhausted inUse⟩

/-- Whatever a packet is, it is entered in one of these ways. -/
theorem handled_process (translator : Translator) (bytes : Octets) (now : Nat) :
    ∃ events errors taken, Logs translator (translator.process bytes now) events errors taken ∧
      Handled (translator.rules.declines bytes) events errors taken := by
  let verdict := (translator.rules.judge translator.sessions translator.stopped bytes now).1
  have hdeclines : translator.rules.declines bytes = (verdict == .ignore) := by
    rw [Bool.eq_iff_iff, beq_iff_eq]
    exact (translator.rules.judge_eq_ignore_iff _ _ bytes now).symm
  have hjudged (sessions : SessionTable) : Logs translator { translator with sessions } [] [] [] :=
    .nothing rfl rfl rfl
  obtain ⟨events, errors, taken, hlogs, hhandled⟩ := handled_carryOut { translator with
    sessions := (translator.rules.judge translator.sessions translator.stopped bytes now).2 }
    (translator.rules.judge_settled translator.sessions translator.stopped bytes now)
  exact ⟨events, errors, taken, (hjudged _).trans hlogs, hdeclines ▸ hhandled⟩

/-! ## Turns -/

/-- What can happen in a run of the pump: any act by which packets get in only through the device,
or a reply to a datagram. -/
inductive Turn where
  | act (act : Act) (hread : ∀ bytes now, act ≠ .process bytes now)
  | reply (back : WriteBack) (payload : Octets) (source? : Option Endpoint)

def turn (translator : Translator) : Turn → Translator
  | .act act _ => translator.act act
  | .reply back payload source? => (translator.reply back payload source?).2

def packetsIn (translator : Translator) : Turn → List Octets
  | .act act _ => ((translator.packet? act).map (·.1)).toList
  | .reply .. => []

def offersIn (translator : Translator) : Turn → List (Datagram × Bool)
  | .act act _ => (translator.offer? act).toList
  | .reply .. => []

/-- The packets that the device takes in a turn: those behind what it held before, unless the far
end has used it. -/
def takenIn (translator : Translator) : Turn → List Octets
  | .act (.use _) _ => []
  | turn => (translator.turn turn).device.outbound.drop translator.device.outbound.length

/-- What a turn can enter in the books, given the packets that are read in it. -/
inductive Entered (rules : Rules) : List Octets → List Event → List NatError → List Octets → Prop
  | nothing : Entered rules [] [] [] []
  | packet {bytes : Octets} {events : List Event} {errors : List NatError} {taken : List Octets}
      (hhandled : Handled (rules.declines bytes) events errors taken) :
      Entered rules [bytes] (.read :: events) errors taken
  | failed (error : IoError) : Entered rules [] [] [.device (.io error)] []
  | accepted : Entered rules [] [.accepted] [] []
  | rejected : Entered rules [] [.rejected] [] []
  | ended (error : IoError) : Entered rules [] [] [.listener (.accept error)] []
  | replied (packet : Octets) : Entered rules [] [.reply] [] [packet]

theorem entered_read (translator : Translator) (now : Nat) :
    ∃ events errors taken, Logs translator (translator.act (.read now)) events errors taken ∧
      Entered translator.rules ((translator.packet? (.read now)).map (·.1)).toList events errors
        taken := by
  have hreading := translator.reading now
  generalize translator.packet? (.read now) = packet? at hreading
  generalize translator.act (.read now) = next at hreading
  cases hreading with
  | idle => exact ⟨_, _, _, .nothing rfl rfl rfl, .nothing⟩
  | @packet count buffer device hrecv =>
      have hread : Logs translator ({ translator with device, buffer }.record .read) [.read] []
          [] := by
        refine ⟨rfl, (List.append_nil _).symm, ?_⟩
        rw [List.append_nil]
        exact Device.outbound_recv hrecv
      obtain ⟨events, errors, taken, hlogs, hhandled⟩ := handled_process
        ({ translator with device, buffer }.record .read) (buffer.take count) now
      exact ⟨_, _, _, hread.trans hlogs, .packet hhandled⟩
  | closed hrecv | passed hrecv =>
      exact ⟨_, _, _, .nothing rfl rfl (Device.outbound_recv hrecv), .nothing⟩
  | @failed error device hrecv =>
      have hfailed : Logs translator { translator with device } [] [] [] :=
        .nothing rfl rfl (Device.outbound_recv hrecv)
      have hreported := hfailed.trans (logs_report _ (.device (.io error)))
      exact ⟨_, _, _, hreported.trans (.nothing rfl rfl rfl), .failed error⟩

theorem entered_accept (translator : Translator) (arrival : Arrival) (now : Nat) :
    ∃ events errors, Logs translator (translator.accept arrival now) events errors [] ∧
      Entered translator.rules [] events errors [] := by
  have harriving := translator.arriving arrival now
  generalize translator.accept arrival now = next at harriving ⊢
  cases harriving with
  | unheard | passed => exact ⟨_, _, .nothing rfl rfl rfl, .nothing⟩
  | handed => exact ⟨_, _, ⟨rfl, (List.append_nil _).symm, (List.append_nil _).symm⟩, .accepted⟩
  | rejected => exact ⟨_, _, logs_record translator .rejected, .rejected⟩
  | @ended error => exact ⟨_, _, ⟨rfl, rfl, (List.append_nil _).symm⟩, .ended error⟩

theorem entered_reply (translator : Translator) (back : WriteBack) (payload : Octets)
    (source? : Option Endpoint) :
    ∃ events taken, Logs translator (translator.reply back payload source?).2 events [] taken ∧
      Entered translator.rules [] events [] taken := by
  unfold reply
  split
  · exact ⟨_, _, .nothing rfl rfl rfl, .nothing⟩
  · next packet _ =>
      rw [writeReply, Device.write_eq]
      cases translator.device.refusal? with
      | some error => exact ⟨_, _, .nothing rfl rfl rfl, .nothing⟩
      | none => exact ⟨_, _, ⟨rfl, (List.append_nil _).symm, rfl⟩, .replied packet⟩

theorem Logs.drop (hlogs : Logs before after events errors taken) :
    after.device.outbound.drop before.device.outbound.length = taken := by
  rw [hlogs.outbound, List.drop_left]

/-- Every turn is entered in one of these ways. -/
theorem entered_turn (translator : Translator) (turn : Turn) :
    ∃ events errors, (translator.turn turn).statistics = translator.statistics.recordAll events ∧
      (translator.turn turn).reported = translator.reported ++ errors ∧
      Entered translator.rules (translator.packetsIn turn) events errors
        (translator.takenIn turn) := by
  have hlogged {next : Translator} {packets : List Octets} {events : List Event}
      {errors : List NatError} {taken : List Octets}
      (hlogs : Logs translator next events errors taken)
      (hentered : Entered translator.rules packets events errors taken) :
      ∃ events errors, next.statistics = translator.statistics.recordAll events ∧
        next.reported = translator.reported ++ errors ∧
        Entered translator.rules packets events errors
          (next.device.outbound.drop translator.device.outbound.length) :=
    ⟨events, errors, hlogs.statistics, hlogs.reported, hlogs.drop.symm ▸ hentered⟩
  cases turn with
  | reply back payload source? =>
      obtain ⟨events, taken, hlogs, hentered⟩ := translator.entered_reply back payload source?
      exact hlogged hlogs hentered
  | act act hread =>
      cases act with
      | process bytes now => exact absurd rfl (hread bytes now)
      | read now =>
          obtain ⟨events, errors, taken, hlogs, hentered⟩ := translator.entered_read now
          exact hlogged hlogs hentered
      | accept arrival now =>
          obtain ⟨events, errors, hlogs, hentered⟩ := translator.entered_accept arrival now
          exact hlogged hlogs hentered
      | use device => exact ⟨[], [], rfl, (List.append_nil _).symm, .nothing⟩
      | give id =>
          have hlogs : Logs translator (translator.give id) [] [] [] := by
            unfold give
            split <;> exact .nothing rfl rfl rfl
          exact hlogged hlogs .nothing
      | release | operate | shutDown | post | giveUp | take | closeReads =>
          exact hlogged (.nothing rfl rfl rfl) .nothing

end Translator

end PortalNat
