import PortalNat.Engine
import PortalNat.Proofs.Acceptance.Recovery

/-!
# Histories of an engine

An engine reads its device, accepts connections, sweeps, serves its handlers and is closed, in any
order and at any times, while others use its device, its reads and its session table. Whatever
happens, its rules stay as they are and its session table only takes steps of its own. So what holds
of every run of a session table holds of the table of every engine.
-/

namespace PortalNat

open SessionTable (Step fresh)

/-! ## Verdicts -/

theorem Redirector.restore_run (redirector : Redirector) (table : SessionTable) (packet : Packet)
    (source : Endpoint) (port : UInt16) (now : Nat) :
    ∃ steps, (redirector.restore table packet source port now).2 = table.run steps := by
  unfold restore
  split_ifs with hstray
  · exact ⟨[], rfl⟩
  · refine ⟨[⟨.tupleOf port, now⟩], ?_⟩
    change _ = (table.tupleOf port now).2
    rcases table.tupleOf port now with ⟨_ | tuple, after⟩ <;> rfl

theorem Redirector.forward_run (redirector : Redirector) (table : SessionTable) (stopped : Bool)
    (packet : Packet) (tuple : Tuple) (now : Nat) :
    ∃ steps, (redirector.forward table stopped packet tuple now).2 = table.run steps := by
  obtain ⟨steps, hsteps⟩ :=
    portFor_run table tuple (TCP.isConnectionRequest packet.payload) stopped now
  refine ⟨steps, ?_⟩
  rw [← hsteps, forward]
  rcases portFor table tuple (TCP.isConnectionRequest packet.payload) stopped now with
    ⟨_ | port, after⟩ <;> rfl

theorem Redirector.redirect_run (redirector : Redirector) (table : SessionTable) (stopped : Bool)
    (packet : Packet) (now : Nat) :
    ∃ steps, (redirector.redirect table stopped packet now).2 = table.run steps := by
  cases hcheck : TCP.check packet.payload with
  | error error =>
      simp only [redirect, hcheck]
      exact ⟨[], rfl⟩
  | ok =>
      simp only [redirect, hcheck]
      split_ifs with hdisabled hreply
      · exact ⟨[], rfl⟩
      · exact restore_run ..
      · exact forward_run ..

/-- Judging a packet, whatever is in it, is a run of the session table. -/
theorem Rules.judge_run (rules : Rules) (table : SessionTable) (stopped : Bool) (bytes : Octets)
    (now : Nat) : ∃ steps, (rules.judge table stopped bytes now).2 = table.run steps := by
  cases hparse : Packet.parse bytes with
  | error error =>
      simp only [judge, hparse]
      exact ⟨[], rfl⟩
  | ok packet =>
      simp only [judge, hparse]
      split_ifs with hfragment hadmits
      · exact ⟨[], rfl⟩
      · exact ⟨[], rfl⟩
      · unfold judgeAdmitted
        simp only []
        split_ifs with htcp
        · exact rules.redirector.redirect_run table stopped packet now
        all_goals exact ⟨[], rfl⟩

/-! ## Translators -/

namespace Translator

structure Keeps (before after : Translator) : Prop where
  rules : after.rules = before.rules
  sessions : after.sessions = before.sessions

/-- A translator came about from another one under the same rules, by steps of the session table. -/
structure Descends (before after : Translator) : Prop where
  rules : after.rules = before.rules
  sessions : ∃ steps, after.sessions = before.sessions.run steps

variable {before middle after : Translator}

protected theorem Keeps.refl (translator : Translator) : Keeps translator translator :=
  ⟨rfl, rfl⟩

theorem Keeps.trans (hfirst : Keeps before middle) (hsecond : Keeps middle after) :
    Keeps before after :=
  ⟨hsecond.rules.trans hfirst.rules, hsecond.sessions.trans hfirst.sessions⟩

theorem Keeps.descends (hkeeps : Keeps before after) : Descends before after :=
  ⟨hkeeps.rules, [], hkeeps.sessions⟩

protected theorem Descends.refl (translator : Translator) : Descends translator translator :=
  (Keeps.refl translator).descends

theorem Descends.trans (hfirst : Descends before middle) (hsecond : Descends middle after) :
    Descends before after where
  rules := hsecond.rules.trans hfirst.rules
  sessions := by
    obtain ⟨earlier, hearlier⟩ := hfirst.sessions
    obtain ⟨later, hlater⟩ := hsecond.sessions
    refine ⟨earlier ++ later, ?_⟩
    rw [hlater, hearlier, SessionTable.run_append]

theorem keeps_record (translator : Translator) (event : Event) :
    Keeps translator (translator.record event) := ⟨rfl, rfl⟩

theorem keeps_write (translator : Translator) (packet : Octets) :
    Keeps translator (translator.write packet) := by
  rw [write_eq]
  cases translator.device.refusal? <;> exact ⟨rfl, rfl⟩

theorem keeps_deliver (translator : Translator) (datagram : Datagram) (template : ReplyTemplate) :
    Keeps translator (translator.deliver datagram template) := by
  unfold deliver
  split
  · exact ⟨rfl, rfl⟩
  · split <;> exact ⟨rfl, rfl⟩

/-- Carrying out a verdict touches no session: judging has done that. -/
theorem keeps_carryOut (translator : Translator) (verdict : Verdict) :
    Keeps translator (translator.carryOut verdict) := by
  cases verdict with
  | write event packet => exact (keeps_record _ event).trans (keeps_write _ packet)
  | deliver datagram template =>
      exact (keeps_record _ .datagram).trans (keeps_deliver _ datagram template)
  | ignore => exact .refl translator
  | drop reason report? => cases report? <;> exact ⟨rfl, rfl⟩

theorem sessions_process (translator : Translator) (bytes : Octets) (now : Nat) :
    (translator.process bytes now).sessions =
      (translator.rules.judge translator.sessions translator.stopped bytes now).2 :=
  (keeps_carryOut _ _).sessions

theorem descends_process (translator : Translator) (bytes : Octets) (now : Nat) :
    Descends translator (translator.process bytes now) where
  rules := (keeps_carryOut _ _).rules
  sessions := by
    rw [sessions_process]
    exact translator.rules.judge_run ..

theorem descends_afterRead (translator : Translator)
    (result : Except IoError (Nat × Octets)) (now : Nat) :
    Descends translator (translator.afterRead result now) := by
  cases result with
  | ok reading =>
      have hread : Descends translator ({ translator with buffer := reading.2 }.record .read) :=
        Keeps.descends ⟨rfl, rfl⟩
      exact hread.trans (descends_process _ _ now)
  | error error =>
      unfold afterRead
      simp only []
      split_ifs <;> exact Keeps.descends ⟨rfl, rfl⟩

theorem descends_pumpOnce {translator after : Translator} {now : Nat}
    (hread : translator.pumpOnce now = some after) : Descends translator after := by
  unfold pumpOnce at hread
  split_ifs at hread
  split at hread
  · cases hread
  · next result device _ =>
      cases hread
      have hdevice : Descends translator { translator with device } :=
        Keeps.descends ⟨rfl, rfl⟩
      exact hdevice.trans (descends_afterRead _ result now)

theorem descends_pumpFor (reads : Nat) (translator : Translator) (now : Nat) :
    Descends translator (pumpFor reads translator now) := by
  induction reads generalizing translator with
  | zero => exact .refl translator
  | succ reads ih =>
      cases hread : translator.pumpOnce now with
      | none =>
          rw [pumpFor, hread]
          exact .refl translator
      | some after =>
          rw [pumpFor, hread]
          exact (descends_pumpOnce hread).trans (ih after)

theorem descends_accept (translator : Translator) (arrival : Arrival) (now : Nat) :
    Descends translator (translator.accept arrival now) := by
  have harriving := translator.arriving arrival now
  generalize translator.accept arrival now = next at harriving ⊢
  cases harriving with
  | unheard | passed => exact .refl translator
  | @handed peer => exact ⟨rfl, [⟨.attach peer.port, now⟩], rfl⟩
  | rejected | ended => exact Keeps.descends ⟨rfl, rfl⟩

theorem descends_release (translator : Translator) (connection : Connection) (now : Nat) :
    Descends translator (translator.release connection now) :=
  ⟨rfl, [⟨.release connection.port connection.session, now⟩], rfl⟩

theorem descends_reply (translator : Translator) (back : WriteBack) (payload : Octets)
    (source? : Option Endpoint) :
    Descends translator (translator.reply back payload source?).2 := by
  unfold reply
  split
  · exact .refl translator
  · unfold writeReply
    split <;> exact Keeps.descends ⟨rfl, rfl⟩

theorem descends_handOnAll (translator : Translator) :
    Descends translator translator.handOnAll := by
  unfold handOnAll
  generalize (translator.reads?.map (·.served)).getD [] = served
  induction served generalizing translator with
  | nil => exact .refl translator
  | cons read served ih =>
      have hhanded : Descends translator (translator.handOn read) :=
        Keeps.descends ⟨rfl, rfl⟩
      exact hhanded.trans (ih _)

end Translator

/-! ## Engines -/

namespace Engine

inductive Action where
  /-- It runs until it has to wait. -/
  | run (now : Nat)
  /-- Its pump reads the device once. -/
  | read (now : Nat)
  /-- Its pump handles a packet. -/
  | process (bytes : Octets) (now : Nat)
  /-- Its listener comes to something. -/
  | accept (arrival : Arrival) (now : Nat)
  /-- A handler lets a connection go. -/
  | release (connection : Connection) (now : Nat)
  /-- A handler replies to a datagram. -/
  | reply (back : WriteBack) (payload : Octets) (source? : Option Endpoint)
  /-- Time passes for its sweeper. -/
  | advance (duration now : Nat)
  /-- Somebody operates on its session table. -/
  | operate (operation : SessionTable.Operation) (now : Nat)
  /-- The far end uses its device, and readers use its reads. -/
  | use (device : Device) (reads? : Option ReadQueue)
  | close
  | discard

def act (engine : Engine) : Action → Engine
  | .run now => engine.run now
  | .read now =>
    { engine with translator := (engine.translator.pumpOnce now).getD engine.translator }
  | .process bytes now => { engine with translator := engine.translator.process bytes now }
  | .accept arrival now => { engine with translator := engine.translator.accept arrival now }
  | .release connection now =>
    { engine with translator := engine.translator.release connection now }
  | .reply back payload source? =>
    { engine with translator := (engine.translator.reply back payload source?).2 }
  | .advance duration now => engine.advance duration now
  | .operate operation now =>
    { engine with
      translator.sessions := Step.apply engine.translator.sessions ⟨operation, now⟩ }
  | .use device reads? =>
    { engine with translator := { engine.translator with device, reads? } }
  | .close => engine.close
  | .discard => engine.discard

def after (engine : Engine) (history : List Action) : Engine :=
  history.foldl act engine

theorem after_append (engine : Engine) (earlier later : List Action) :
    engine.after (earlier ++ later) = (engine.after earlier).after later :=
  List.foldl_append

theorem descends_act (engine : Engine) (action : Action) :
    engine.translator.Descends (engine.act action).translator := by
  cases action with
  | run now =>
      exact (Translator.descends_pumpFor _ _ now).trans (Translator.descends_handOnAll _)
  | read now =>
      cases hread : engine.translator.pumpOnce now with
      | none =>
          simp only [act, hread]
          exact .refl _
      | some after =>
          simp only [act, hread]
          exact Translator.descends_pumpOnce hread
  | process bytes now => exact Translator.descends_process _ bytes now
  | accept arrival now => exact Translator.descends_accept _ arrival now
  | release connection now => exact Translator.descends_release _ connection now
  | reply back payload source? => exact Translator.descends_reply _ back payload source?
  | advance duration now =>
      unfold act advance
      simp only []
      split_ifs
      · exact .refl _
      · exact ⟨rfl, [⟨.sweep, now⟩], rfl⟩
  | operate operation now => exact ⟨rfl, [⟨operation, now⟩], rfl⟩
  | use device reads? => exact Translator.Keeps.descends ⟨rfl, rfl⟩
  | close =>
      unfold act close
      simp only []
      split_ifs
      · exact .refl _
      · exact ⟨rfl, [⟨.clear, 0⟩], rfl⟩
  | discard =>
      unfold act discard
      simp only []
      split_ifs <;> exact Translator.Keeps.descends ⟨rfl, rfl⟩

/-- Over any history the rules stay, and the session table takes steps of its own. -/
theorem descends_after (engine : Engine) (history : List Action) :
    engine.translator.Descends (engine.after history).translator := by
  induction history generalizing engine with
  | nil => exact .refl _
  | cons action history ih => exact (engine.descends_act action).trans (ih (engine.act action))

/-! ## Started engines -/

variable {settings : NatSection} {device : Device} {first free : UInt16}
  {bindFault? : Endpoint → Option String} {engine : Engine}

/-- A started engine goes by its settings, and its session table is empty. -/
theorem start_spec (hstart : start settings device first free bindFault? = .ok engine) :
    engine.translator.rules = settings.rules engine.listener.port ∧
      engine.translator.sessions = fresh settings.sessionPorts.1 settings.sessionPorts.2 first
        [engine.listener.port] settings.linger settings.idleTimeout := by
  simp only [start, bind, Except.bind] at hstart
  split at hstart
  · cases hstart
  · split at hstart
    · cases hstart
    · next listener _ =>
        cases hstart
        exact ⟨rfl, rfl⟩

variable (hstart : start settings device first free bindFault? = .ok engine)
include hstart

/-- An engine goes by the settings it was started with. -/
theorem rules_after (history : List Action) :
    (engine.after history).translator.rules = settings.rules engine.listener.port :=
  (engine.descends_after history).rules.trans (start_spec hstart).1

/-- The session table of an engine that runs is well formed, whatever has happened. -/
theorem sessions_wellFormed (history : List Action) :
    (engine.after history).translator.sessions.WellFormed := by
  obtain ⟨-, hfresh⟩ := start_spec hstart
  obtain ⟨steps, hsteps⟩ := (engine.descends_after history).sessions
  rw [hsteps, hfresh]
  exact (SessionTable.wellFormed_fresh _ _ _ _ _ _).run steps

/-- A session that stands at its port after more has happened is still that of its flow. -/
theorem sameSession_after {history later : List Action} {port : UInt16}
    {entry found : SessionEntry}
    (hentry : (engine.after history).translator.sessions.byPort[port]? = some entry)
    (hfound : ((engine.after history).after later).translator.sessions.byPort[port]? = some found)
    (hid : found.id = entry.id) : SessionEntry.SameSession entry found := by
  obtain ⟨steps, hsteps⟩ := ((engine.after history).descends_after later).sessions
  rw [hsteps] at hfound
  exact SessionTable.sameSession_run (sessions_wellFormed hstart history) hentry steps hfound hid

end Engine

end PortalNat
