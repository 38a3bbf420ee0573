import PortalNat.Proofs.Engine.Verdicts
import PortalNat.Translator

/-!
# What handling a packet leaves alone

Whatever a packet is, handling it touches the sessions, the reads, the counters, the messages and
what the device holds of the packets that were written. It reports nothing but a lack of ports. All
else is left alone: the rules, the buffer, the intake of the device, the connections, and whether
the pump and the acceptor are at work.
-/

namespace PortalNat

/-- A device is as it was but for the packets that were written to it. -/
structure Device.Written (before after : Device) : Prop where
  inbound : after.inbound = before.inbound
  closed : after.closed = before.closed
  farGone : after.farGone = before.farGone
  writeFault? : after.writeFault? = before.writeFault?

theorem Device.written_write (device : Device) (packet : Octets) :
    Written device (device.write packet).2 := by
  rw [write_eq]
  cases device.refusal? <;> exact ⟨rfl, rfl, rfl, rfl⟩

namespace Translator

/-- A translator came about from another one by handling a packet, as far as it can be told from
what that leaves alone. -/
structure Frames (before after : Translator) : Prop where
  rules : after.rules = before.rules
  buffer : after.buffer = before.buffer
  pumping : after.pumping = before.pumping
  accepting : after.accepting = before.accepting
  stopped : after.stopped = before.stopped
  connections : after.connections = before.connections
  accepted : after.statistics.connectionsAccepted = before.statistics.connectionsAccepted
  rejected : after.statistics.connectionsRejected = before.statistics.connectionsRejected
  device : Device.Written before.device after.device
  /-- Nothing but a lack of ports is reported. -/
  reported : ∃ inUse : List Nat,
    after.reported = before.reported ++ inUse.map fun count => .session (.exhausted count)

variable {before middle after : Translator}

theorem Frames.of_written (hrules : after.rules = before.rules)
    (hbuffer : after.buffer = before.buffer) (hpumping : after.pumping = before.pumping)
    (haccepting : after.accepting = before.accepting) (hstopped : after.stopped = before.stopped)
    (hconnections : after.connections = before.connections)
    (haccepted : after.statistics.connectionsAccepted = before.statistics.connectionsAccepted)
    (hrejected : after.statistics.connectionsRejected = before.statistics.connectionsRejected)
    (hreported : after.reported = before.reported)
    (hdevice : Device.Written before.device after.device) : Frames before after :=
  ⟨hrules, hbuffer, hpumping, haccepting, hstopped, hconnections, haccepted, hrejected, hdevice, [],
    hreported.trans (List.append_nil _).symm⟩

theorem Frames.trans (hfirst : Frames before middle) (hsecond : Frames middle after) :
    Frames before after where
  rules := hsecond.rules.trans hfirst.rules
  buffer := hsecond.buffer.trans hfirst.buffer
  pumping := hsecond.pumping.trans hfirst.pumping
  accepting := hsecond.accepting.trans hfirst.accepting
  stopped := hsecond.stopped.trans hfirst.stopped
  connections := hsecond.connections.trans hfirst.connections
  accepted := hsecond.accepted.trans hfirst.accepted
  rejected := hsecond.rejected.trans hfirst.rejected
  device := ⟨hsecond.device.inbound.trans hfirst.device.inbound,
    hsecond.device.closed.trans hfirst.device.closed,
    hsecond.device.farGone.trans hfirst.device.farGone,
    hsecond.device.writeFault?.trans hfirst.device.writeFault?⟩
  reported := by
    obtain ⟨earlier, hearlier⟩ := hfirst.reported
    obtain ⟨later, hlater⟩ := hsecond.reported
    exact ⟨earlier ++ later, by rw [hlater, hearlier, List.map_append, List.append_assoc]⟩

/-- Of the reports that are about something else than ports nothing has changed. -/
theorem Frames.filterMap_reported {α : Type} {select : NatError → Option α}
    (hports : ∀ inUse, select (.session (.exhausted inUse)) = none)
    (hframes : Frames before after) :
    after.reported.filterMap select = before.reported.filterMap select := by
  obtain ⟨inUse, hreported⟩ := hframes.reported
  have hnone : (inUse.map fun count => NatError.session (.exhausted count)).filterMap select =
      [] := by
    rw [List.filterMap_eq_nil_iff]
    simp [hports]
  rw [hreported, List.filterMap_append, hnone, List.append_nil]

theorem frames_record (translator : Translator) {event : Event} (haccepted : event ≠ .accepted)
    (hrejected : event ≠ .rejected) : Frames translator (translator.record event) := by
  cases event with
  | accepted => exact absurd rfl haccepted
  | rejected => exact absurd rfl hrejected
  | dropped reason =>
      cases reason <;>
        exact .of_written rfl rfl rfl rfl rfl rfl rfl rfl rfl ⟨rfl, rfl, rfl, rfl⟩
  | _ => exact .of_written rfl rfl rfl rfl rfl rfl rfl rfl rfl ⟨rfl, rfl, rfl, rfl⟩

theorem frames_write (translator : Translator) (packet : Octets) :
    Frames translator (translator.write packet) := by
  have hwritten := translator.device.written_write packet
  unfold write
  generalize translator.device.write packet = sent at hwritten ⊢
  rcases sent with ⟨error | count, device⟩ <;>
    exact .of_written rfl rfl rfl rfl rfl rfl rfl rfl rfl hwritten

theorem frames_deliver (translator : Translator) (datagram : Datagram) (template : ReplyTemplate) :
    Frames translator (translator.deliver datagram template) := by
  unfold deliver
  split
  · exact .of_written rfl rfl rfl rfl rfl rfl rfl rfl rfl ⟨rfl, rfl, rfl, rfl⟩
  · split <;> exact .of_written rfl rfl rfl rfl rfl rfl rfl rfl rfl ⟨rfl, rfl, rfl, rfl⟩

theorem frames_carryOut (translator : Translator) {verdict : Verdict}
    (hsettled : verdict.Settled) : Frames translator (translator.carryOut verdict) := by
  cases hsettled with
  | write hevent packet =>
      refine (frames_record translator ?_ ?_).trans (frames_write _ packet) <;>
        rcases hevent with rfl | rfl | rfl <;> decide
  | deliver datagram template =>
      exact (frames_record translator (by decide) (by decide)).trans (frames_deliver _ _ _)
  | ignore => exact .of_written rfl rfl rfl rfl rfl rfl rfl rfl rfl ⟨rfl, rfl, rfl, rfl⟩
  | drop => exact frames_record translator (by simp) (by simp)
  | exhausted inUse =>
      exact ⟨rfl, rfl, rfl, rfl, rfl, rfl, rfl, rfl, ⟨rfl, rfl, rfl, rfl⟩, [inUse], rfl⟩

theorem frames_process (translator : Translator) (bytes : Octets) (now : Nat) :
    Frames translator (translator.process bytes now) := by
  have hjudged (sessions : SessionTable) : Frames translator { translator with sessions } :=
    .of_written rfl rfl rfl rfl rfl rfl rfl rfl rfl ⟨rfl, rfl, rfl, rfl⟩
  exact (hjudged _).trans (frames_carryOut _ (translator.rules.judge_settled _ _ _ _))

/-- So does a reply. -/
theorem frames_reply (translator : Translator) (back : WriteBack) (payload : Octets)
    (source? : Option Endpoint) : Frames translator (translator.reply back payload source?).2 := by
  unfold reply
  split
  · exact .of_written rfl rfl rfl rfl rfl rfl rfl rfl rfl ⟨rfl, rfl, rfl, rfl⟩
  · next packet _ =>
      have hwritten := translator.device.written_write packet
      unfold writeReply
      generalize translator.device.write packet = sent at hwritten ⊢
      rcases sent with ⟨error | count, device⟩ <;>
        exact .of_written rfl rfl rfl rfl rfl rfl rfl rfl rfl hwritten

end Translator

end PortalNat
