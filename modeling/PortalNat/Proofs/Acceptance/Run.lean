import PortalNat.Proofs.Acceptance.Loss
import PortalNat.Proofs.Engine.Frame

/-!
# A run of the acceptor

The acceptor takes in what its listener comes to, one arrival after another, while packets are
handled, connections are let go and the session table is used in between. It hands a connection to
the handler or rejects it, by the sessions of that moment, and passes over a failure that is
transient. Any other failure is the last thing it takes in. The law of a run says what it comes to
in total, and how the translator goes on after such a failure.
-/

namespace PortalNat

/-- What the acceptor makes of an arrival. -/
inductive Intake where
  /-- The connection goes to the handler. -/
  | handed (connection : Connection)
  /-- The connection is dropped. -/
  | rejected (peer : Endpoint)
  /-- The failure changes nothing. -/
  | passed (error : IoError)
  /-- The failure ends the acceptor. -/
  | ended (error : IoError)
deriving DecidableEq, Repr

namespace Intake

def connection? : Intake → Option Connection
  | handed connection => some connection
  | _ => none

def fault? : Intake → Option IoError
  | ended error => some error
  | _ => none

def isRejected : Intake → Bool
  | rejected _ => true
  | _ => false

end Intake

def NatError.acceptFault? : NatError → Option IoError
  | .listener (.accept error) => some error
  | _ => none

namespace Translator

/-- How the acceptor takes an arrival in, by the sessions there are. -/
inductive Takes (translator : Translator) : Arrival → Intake → Prop
  /-- A peer that is a portal and has a port with a session gets the ends of this session. -/
  | handed {peer : Endpoint} {family : Family} {entry : SessionEntry}
      (hnames : translator.rules.redirector.portal.Names family peer)
      (hheld : translator.sessions.byPort[peer.port]? = some entry) :
      Takes translator (.connected peer)
        (.handed ⟨entry.tuple.source, entry.tuple.destination, peer.port, entry.id⟩)
  | rejected {peer : Endpoint}
      (hunknown : ∀ family, translator.rules.redirector.portal.Names family peer →
        translator.sessions.byPort[peer.port]? = none) :
      Takes translator (.connected peer) (.rejected peer)
  | passed {error : IoError} (htransient : error.isTransient = true) :
      Takes translator (.failed error) (.passed error)
  | ended {error : IoError} (hfatal : error.isTransient = false) :
      Takes translator (.failed error) (.ended error)

/-- What the acceptor takes in over some acts. -/
inductive TakesIn : Translator → List Act → List Intake → Prop
  | nil (translator : Translator) : TakesIn translator [] []
  /-- While the acceptor is at work it takes every arrival in. -/
  | arrival {translator : Translator} {arrival : Arrival} {now : Nat} {intake : Intake}
      {acts : List Act} {intakes : List Intake} (haccepting : translator.accepting = true)
      (htakes : translator.Takes arrival intake)
      (hrest : TakesIn (translator.act (.accept arrival now)) acts intakes) :
      TakesIn translator (.accept arrival now :: acts) (intake :: intakes)
  /-- Once the acceptor has ended an arrival is left where it is. -/
  | unheard {translator : Translator} {arrival : Arrival} {now : Nat} {acts : List Act}
      {intakes : List Intake} (hended : translator.accepting = false)
      (hrest : TakesIn translator acts intakes) :
      TakesIn translator (.accept arrival now :: acts) intakes
  | other {translator : Translator} {act : Act} {acts : List Act} {intakes : List Intake}
      (hother : ∀ arrival now, act ≠ .accept arrival now)
      (hrest : TakesIn (translator.act act) acts intakes) :
      TakesIn translator (act :: acts) intakes

/-- What has come of some intakes when a translator went over into another one. -/
structure Tallies (before after : Translator) (intakes : List Intake) : Prop where
  /-- The handler was given each connection that was handed to it, once and in order, and no other
  one. -/
  connections : after.connections = before.connections ++ intakes.filterMap Intake.connection?
  /-- As many were counted as accepted. -/
  accepted : after.statistics.connectionsAccepted =
    before.statistics.connectionsAccepted + (intakes.filterMap Intake.connection?).length
  /-- Those that were rejected were counted as such. -/
  rejected : after.statistics.connectionsRejected =
    before.statistics.connectionsRejected + intakes.countP Intake.isRejected
  /-- Each failure that ended the acceptor was reported, and no other failure of the listener. -/
  faults : after.reported.filterMap NatError.acceptFault? =
    before.reported.filterMap NatError.acceptFault? ++ intakes.filterMap Intake.fault?
  /-- Redirection was stopped by such a failure and by nothing else. -/
  stopped : after.stopped = (before.stopped || intakes.any (·.fault?.isSome))

variable {before middle after translator : Translator} {intakes later : List Intake}

/-- Nothing of this came about if nothing of it changed. -/
theorem Tallies.still (hconnections : after.connections = before.connections)
    (haccepted : after.statistics.connectionsAccepted = before.statistics.connectionsAccepted)
    (hrejected : after.statistics.connectionsRejected = before.statistics.connectionsRejected)
    (hreported : after.reported = before.reported) (hstopped : after.stopped = before.stopped) :
    Tallies before after [] where
  connections := by rw [hconnections, List.filterMap_nil, List.append_nil]
  accepted := haccepted
  rejected := hrejected
  faults := by rw [hreported, List.filterMap_nil, List.append_nil]
  stopped := by rw [hstopped, List.any_nil, Bool.or_false]

theorem Tallies.refl (translator : Translator) : Tallies translator translator [] :=
  .still rfl rfl rfl rfl rfl

theorem Tallies.of_shared (hshared : after.shared = before.shared) : Tallies before after [] := by
  have hconnections := congrArg Translator.connections hshared
  have haccepted := congrArg (·.statistics.connectionsAccepted) hshared
  have hrejected := congrArg (·.statistics.connectionsRejected) hshared
  have hreported := congrArg Translator.reported hshared
  have hstopped := congrArg Translator.stopped hshared
  exact .still hconnections haccepted hrejected hreported hstopped

theorem Tallies.trans (hfirst : Tallies before middle intakes)
    (hsecond : Tallies middle after later) : Tallies before after (intakes ++ later) where
  connections := by
    rw [hsecond.connections, hfirst.connections, List.filterMap_append, List.append_assoc]
  accepted := by
    rw [hsecond.accepted, hfirst.accepted, List.filterMap_append, List.length_append,
      Nat.add_assoc]
  rejected := by
    rw [hsecond.rejected, hfirst.rejected, List.countP_append, Nat.add_assoc]
  faults := by
    rw [hsecond.faults, hfirst.faults, List.filterMap_append, List.append_assoc]
  stopped := by
    rw [hsecond.stopped, hfirst.stopped, List.any_append, Bool.or_assoc]

/-! ## What is none of the acceptor's business -/

/-- Handling packets is none of it. -/
theorem Frames.tallies (hframes : Frames before after) : Tallies before after [] where
  connections := by rw [hframes.connections, List.filterMap_nil, List.append_nil]
  accepted := hframes.accepted
  rejected := hframes.rejected
  faults := by
    rw [hframes.filterMap_reported fun _ => rfl, List.filterMap_nil, List.append_nil]
  stopped := by rw [hframes.stopped, List.any_nil, Bool.or_false]

theorem tallies_read (translator : Translator) (now : Nat) :
    Tallies translator (translator.act (.read now)) [] := by
  have hreading := translator.reading now
  generalize translator.packet? (.read now) = packet? at hreading
  generalize translator.act (.read now) = next at hreading
  cases hreading with
  | idle => exact .refl translator
  | closed | passed => exact .still rfl rfl rfl rfl rfl
  | @packet count buffer device =>
      have hread : Tallies translator ({ translator with device, buffer }.record .read) [] :=
        .still rfl rfl rfl rfl rfl
      exact hread.trans (frames_process _ _ now).tallies
  | failed =>
      refine ⟨(List.append_nil _).symm, rfl, rfl, ?_, (Bool.or_false _).symm⟩
      simp [report, stopPump, NatError.acceptFault?]

/-- What is no arrival is none of the acceptor's business. -/
theorem tallies_act (translator : Translator) {act : Act}
    (hother : ∀ arrival now, act ≠ .accept arrival now) :
    Tallies translator (translator.act act) [] := by
  cases act with
  | process bytes now => exact (translator.frames_process bytes now).tallies
  | read now => exact translator.tallies_read now
  | accept arrival now => exact absurd rfl (hother arrival now)
  | give id => exact .of_shared (translator.shared_give id)
  | release | operate | use | shutDown | post | giveUp | take | closeReads =>
      exact .still rfl rfl rfl rfl rfl

/-- Only an arrival and a shutdown can end the acceptor. -/
theorem accepting_act (translator : Translator) {act : Act}
    (hother : ∀ arrival now, act ≠ .accept arrival now) :
    (translator.act act).accepting = true ↔ translator.accepting = true ∧ act ≠ .shutDown := by
  have hsame (hact : act ≠ .shutDown)
      (haccepting : (translator.act act).accepting = translator.accepting) :
      (translator.act act).accepting = true ↔ translator.accepting = true ∧ act ≠ .shutDown := by
    rw [haccepting, and_iff_left hact]
  cases act with
  | process bytes now => exact hsame (by simp) (translator.frames_process bytes now).accepting
  | read now =>
      apply hsame (by simp)
      have hreading := translator.reading now
      generalize translator.packet? (.read now) = packet? at hreading
      generalize translator.act (.read now) = next at hreading
      cases hreading with
      | idle | closed | passed | failed => rfl
      | packet => exact (frames_process _ _ now).accepting
  | accept arrival now => exact absurd rfl (hother arrival now)
  | give id =>
      have hshared := congrArg Translator.accepting (translator.shared_give id)
      exact hsame (by simp) hshared
  | shutDown => simp [Translator.act, shutDown]
  | release | operate | use | post | giveUp | take | closeReads => exact hsame (by simp) rfl

/-! ## Arrivals -/

theorem accept_of_ended (hended : translator.accepting = false) (arrival : Arrival) (now : Nat) :
    translator.accept arrival now = translator := by
  simp only [accept, hended, Bool.not_false, if_true]

theorem accept_of_transient (translator : Translator) {error : IoError}
    (htransient : error.isTransient = true) (now : Nat) :
    translator.accept (.failed error) now = translator := by
  simp only [accept, htransient, if_true, ite_self]

/-- An arrival is taken in one way only. -/
theorem Takes.unique {arrival : Arrival} {intake other : Intake}
    (htakes : translator.Takes arrival intake) (hother : translator.Takes arrival other) :
    intake = other := by
  cases htakes with
  | handed hnames hheld =>
      cases hother with
      | handed _ hsame =>
          rw [hheld] at hsame
          cases hsame
          rfl
      | rejected hunknown =>
          rw [hunknown _ hnames] at hheld
          cases hheld
  | rejected hunknown =>
      cases hother with
      | handed hnames hheld =>
          rw [hunknown _ hnames] at hheld
          cases hheld
      | rejected => rfl
  | passed htransient =>
      cases hother with
      | passed => rfl
      | ended hfatal =>
          rw [htransient] at hfatal
          cases hfatal
  | ended hfatal =>
      cases hother with
      | passed htransient =>
          rw [htransient] at hfatal
          cases hfatal
      | ended => rfl

/-- While the acceptor is at work it takes an arrival in, and goes on unless that was a failure that
is not transient. -/
theorem exists_takes (haccepting : translator.accepting = true) (arrival : Arrival) (now : Nat) :
    ∃ intake, translator.Takes arrival intake ∧
      Tallies translator (translator.accept arrival now) [intake] ∧
      (translator.accept arrival now).accepting = intake.fault?.isNone := by
  have harriving := translator.arriving arrival now
  generalize translator.accept arrival now = next at harriving ⊢
  cases harriving with
  | unheard _ hended =>
      rw [haccepting] at hended
      cases hended
  | handed _ hnames hheld =>
      exact ⟨_, .handed hnames hheld,
        ⟨rfl, rfl, rfl, (List.append_nil _).symm, (Bool.or_false _).symm⟩, haccepting⟩
  | rejected _ hunknown =>
      exact ⟨_, .rejected hunknown, ⟨(List.append_nil _).symm, rfl, rfl, (List.append_nil _).symm,
        (Bool.or_false _).symm⟩, haccepting⟩
  | passed _ htransient =>
      exact ⟨_, .passed htransient, ⟨(List.append_nil _).symm, rfl, rfl, (List.append_nil _).symm,
        (Bool.or_false _).symm⟩, haccepting⟩
  | ended _ hfatal =>
      exact ⟨_, .ended hfatal, ⟨(List.append_nil _).symm, rfl, rfl, List.filterMap_append,
        (Bool.or_true _).symm⟩, rfl⟩

/-! ## Runs -/

variable {acts : List Act} {start : Translator}

theorem exists_takesIn (start : Translator) (acts : List Act) :
    ∃ intakes, start.TakesIn acts intakes := by
  induction acts generalizing start with
  | nil => exact ⟨[], .nil start⟩
  | cons act acts ih =>
      obtain ⟨intakes, hrest⟩ := ih (start.act act)
      by_cases hother : ∀ arrival now, act ≠ .accept arrival now
      · exact ⟨intakes, .other hother hrest⟩
      · push Not at hother
        obtain ⟨arrival, now, rfl⟩ := hother
        cases haccepting : start.accepting with
        | true =>
            obtain ⟨intake, htakes, -⟩ := exists_takes haccepting arrival now
            exact ⟨intake :: intakes, .arrival haccepting htakes hrest⟩
        | false =>
            rw [Translator.act, accept_of_ended haccepting] at hrest
            exact ⟨intakes, .unheard haccepting hrest⟩

/-- What the acceptor takes in is settled by what happens. -/
theorem TakesIn.unique (htakes : start.TakesIn acts intakes) :
    ∀ {others}, start.TakesIn acts others → others = intakes := by
  induction htakes with
  | nil =>
      intro others hothers
      cases hothers
      rfl
  | arrival haccepting htakes hrest ih =>
      intro others hothers
      cases hothers with
      | arrival _ hagain hmore => rw [htakes.unique hagain, ih hmore]
      | unheard hended =>
          rw [haccepting] at hended
          cases hended
      | other hother => exact absurd rfl (hother _ _)
  | unheard hended hrest ih =>
      intro others hothers
      cases hothers with
      | arrival haccepting =>
          rw [haccepting] at hended
          cases hended
      | unheard _ hmore => exact ih hmore
      | other hother => exact absurd rfl (hother _ _)
  | other hother hrest ih =>
      intro others hothers
      cases hothers with
      | arrival | unheard => exact absurd rfl (hother _ _)
      | other _ hmore => exact ih hmore

theorem after_accept_of_ended (hended : start.accepting = false) (arrival : Arrival) (now : Nat)
    (acts : List Act) : start.after (.accept arrival now :: acts) = start.after acts := by
  rw [after, List.foldl_cons, Translator.act, accept_of_ended hended, after]

/-- What has come of a run is what has come of the arrivals that were taken in. -/
theorem TakesIn.tallies (htakes : start.TakesIn acts intakes) :
    Tallies start (start.after acts) intakes := by
  induction htakes with
  | nil start => exact .refl start
  | @arrival start arrival now intake acts intakes haccepting htakes hrest ih =>
      obtain ⟨same, hsame, htallies, -⟩ := exists_takes haccepting arrival now
      rw [htakes.unique hsame]
      exact htallies.trans ih
  | unheard hended hrest ih => rwa [after_accept_of_ended hended]
  | @other start act acts intakes hother hrest ih => exact (start.tallies_act hother).trans ih

/-- The acceptor ends at a shutdown or at a failure that is not transient, and at nothing else. -/
theorem TakesIn.accepting_iff (htakes : start.TakesIn acts intakes) :
    (start.after acts).accepting = true ↔ start.accepting = true ∧ Act.shutDown ∉ acts ∧
      ∀ error, Intake.ended error ∉ intakes := by
  induction htakes with
  | nil start => simp [after]
  | @arrival start arrival now intake acts intakes haccepting htakes hrest ih =>
      obtain ⟨same, hsame, -, hgoes⟩ := exists_takes haccepting arrival now
      obtain rfl := htakes.unique hsame
      change ((start.act (.accept arrival now)).after acts).accepting = true ↔ _
      rw [ih, Translator.act, hgoes, haccepting]
      cases intake with
      | ended failure =>
          refine iff_of_false (by simp [Intake.fault?]) ?_
          rintro ⟨-, -, hnone⟩
          exact hnone failure List.mem_cons_self
      | _ => simp [Intake.fault?]
  | unheard hended hrest ih =>
      rw [after_accept_of_ended hended, ih, hended]
      simp
  | @other start act acts intakes hother hrest ih =>
      change ((start.act act).after acts).accepting = true ↔ _
      rw [ih, start.accepting_act hother, List.mem_cons, not_or, and_assoc, and_assoc, ne_comm]

/-- An acceptor that has ended takes nothing in. -/
theorem TakesIn.eq_nil (htakes : start.TakesIn acts intakes) (hended : start.accepting = false) :
    intakes = [] := by
  induction htakes with
  | nil => rfl
  | arrival haccepting =>
      rw [hended] at haccepting
      cases haccepting
  | unheard _ hrest ih => exact ih hended
  | @other start act acts intakes hother hrest ih =>
      apply ih
      rw [← Bool.not_eq_true, start.accepting_act hother, hended]
      simp

theorem TakesIn.append {more : List Act} (htakes : start.TakesIn acts intakes)
    (hmore : (start.after acts).TakesIn more later) :
    start.TakesIn (acts ++ more) (intakes ++ later) := by
  induction htakes with
  | nil => exact hmore
  | arrival haccepting htakes hrest ih => exact .arrival haccepting htakes (ih hmore)
  | unheard hended hrest ih =>
      rw [after_accept_of_ended hended] at hmore
      exact .unheard hended (ih hmore)
  | other hother hrest ih => exact .other hother (ih hmore)

/-- A failure that ends the acceptor is the last thing it takes in. -/
theorem TakesIn.ended_last (htakes : start.TakesIn acts intakes) {before after : List Intake}
    {error : IoError} (hintakes : intakes = before ++ .ended error :: after) : after = [] := by
  induction htakes generalizing before with
  | nil => simp at hintakes
  | @arrival start arrival now intake acts intakes haccepting htakes hrest ih =>
      cases before with
      | nil =>
          rw [List.nil_append, List.cons.injEq] at hintakes
          obtain ⟨rfl, rfl⟩ := hintakes
          obtain ⟨same, hsame, -, hgoes⟩ := exists_takes haccepting arrival now
          obtain rfl := htakes.unique hsame
          exact hrest.eq_nil hgoes
      | cons first before =>
          rw [List.cons_append, List.cons.injEq] at hintakes
          exact ih hintakes.2
  | unheard _ hrest ih => exact ih hintakes
  | other _ hrest ih => exact ih hintakes

/-- So there is one such failure at most. -/
theorem TakesIn.faults (htakes : start.TakesIn acts intakes) {error : IoError}
    (hended : .ended error ∈ intakes) : intakes.filterMap Intake.fault? = [error] := by
  obtain ⟨before, after, rfl⟩ := List.append_of_mem hended
  obtain rfl : after = [] := htakes.ended_last rfl
  have hbefore : before.filterMap Intake.fault? = [] := by
    rw [List.filterMap_eq_nil_iff]
    intro intake hintake
    cases intake with
    | ended earlier =>
        obtain ⟨first, rest, rfl⟩ := List.append_of_mem hintake
        rw [List.append_assoc, List.cons_append] at htakes
        have hlast : rest ++ [.ended error] = [] := htakes.ended_last rfl
        simp at hlast
    | _ => rfl
  rw [List.filterMap_append, hbefore]
  rfl

theorem stopped_after (hstopped : start.stopped = true) (acts : List Act) :
    (start.after acts).stopped = true := by
  obtain ⟨intakes, htakes⟩ := exists_takesIn start acts
  rw [htakes.tallies.stopped, hstopped, Bool.true_or]

/-- What a run of a translator makes of the arrivals at its listener. -/
structure Receives (start : Translator) (acts : List Act) (intakes : List Intake) : Prop where
  /-- As long as the acceptor is at work it takes each arrival in, by the sessions of that moment.
  -/
  takesIn : start.TakesIn acts intakes
  /-- That leaves it no choice: a connection is either handed to the handler or rejected. -/
  unique : ∀ others, start.TakesIn acts others → others = intakes
  /-- The handler, the counters and the reports show just these intakes. -/
  tallies : Tallies start (start.after acts) intakes
  /-- The acceptor has ended if there was a shutdown or a failure that is not transient. -/
  accepting : (start.after acts).accepting = true ↔
    start.accepting = true ∧ .shutDown ∉ acts ∧ ∀ error, .ended error ∉ intakes
  /-- Such a failure is the last thing it takes in. -/
  ended : ∀ (before after : List Intake) (error : IoError),
    intakes = before ++ .ended error :: after → after = []
  /-- So it is the only one, and is reported once. -/
  once : ∀ error, .ended error ∈ intakes → intakes.filterMap Intake.fault? = [error]
  /-- Once it has ended it takes nothing in, whatever happens. -/
  closed : (start.after acts).accepting = false → ∀ later, start.TakesIn (acts ++ later) intakes
  /-- A transient failure changes nothing. -/
  transient : ∀ (error : IoError) (now : Nat), error.isTransient = true →
    (start.after acts).act (.accept (.failed error) now) = start.after acts
  /-- A shutdown reports nothing and does not stop redirection. -/
  shutDown : ((start.after acts).act .shutDown).reported = (start.after acts).reported ∧
    ((start.after acts).act .shutDown).stopped = (start.after acts).stopped
  /-- After a failure that is not transient no session is added any more, whatever happens, and the
  sessions there are still work. -/
  goesOn : ∀ error, .ended error ∈ intakes →
    ∀ later, ((start.after acts).after later).GoesOn

/-- Whatever happens to a translator: its acceptor takes in every arrival until a shutdown or a
failure that is not transient. Each connection up to then is handed to the handler and counted as
accepted, or rejected and counted as such. The failure is reported once, and then the translator
goes on with the sessions it has. -/
theorem exists_receives (start : Translator) (acts : List Act) :
    ∃ intakes, start.Receives acts intakes := by
  obtain ⟨intakes, htakes⟩ := exists_takesIn start acts
  refine ⟨intakes, ?_⟩
  constructor
  case takesIn => exact htakes
  case unique =>
    intro others hothers
    exact htakes.unique hothers
  case tallies => exact htakes.tallies
  case accepting => exact htakes.accepting_iff
  case ended =>
    intro before after error hintakes
    exact htakes.ended_last hintakes
  case once =>
    intro error hended
    exact htakes.faults hended
  case closed =>
    intro hended later
    obtain ⟨more, hmore⟩ := exists_takesIn (start.after acts) later
    have happended := htakes.append hmore
    rwa [hmore.eq_nil hended, List.append_nil] at happended
  case transient =>
    intro error now htransient
    exact accept_of_transient _ htransient now
  case shutDown => exact ⟨rfl, rfl⟩
  case goesOn =>
    intro error hfailed later
    apply goesOn_of_stopped
    apply stopped_after
    rw [htakes.tallies.stopped, Bool.or_eq_true, List.any_eq_true]
    exact .inr ⟨.ended error, hfailed, rfl⟩

end Translator

end PortalNat
