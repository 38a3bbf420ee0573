import PortalNat.Proofs.Engine.Books

/-!
# The books balance

Whatever happens to a translator, its counters add up. Every packet that was read is counted under
one outcome, or it is a control message that nobody answers. The packets that the device took are
those that are counted as written or as replies. The lack of ports is reported as often as it is
counted.
-/

namespace PortalNat

def NatError.isExhausted : NatError → Bool
  | .session (.exhausted _) => true
  | _ => false

namespace Translator

structure Even (rules : Rules) (packets : List Octets) (events : List Event)
    (errors : List NatError) (taken : List Octets) : Prop where
  read : events.count .read = packets.length
  outcomes : packets.length = events.count .redirected + events.count .restored
    + events.count .datagram + events.count .echo + events.count (.dropped .malformed)
    + events.count (.dropped .fragmented) + events.count (.dropped .filtered)
    + events.count (.dropped .unknownSession) + events.count (.dropped .exhausted)
    + events.count (.dropped .redirectorStopped) + packets.countP rules.declines
  missed_le : events.count (.dropped .noReader) ≤ events.count .datagram
  taken : events.count .written + events.count .reply = taken.length
  written_le : events.count .written ≤
    events.count .redirected + events.count .restored + events.count .echo
  exhausted : errors.countP NatError.isExhausted = events.count (.dropped .exhausted)

/-- What is entered for a packet adds up. -/
theorem Handled.even {rules : Rules} {bytes : Octets} {events : List Event}
    {errors : List NatError} {taken : List Octets}
    (hhandled : Handled (rules.declines bytes) events errors taken) :
    Even rules [bytes] (.read :: events) errors taken := by
  generalize hdeclines : rules.declines bytes = declined at hhandled
  cases hhandled with
  | written hevent packet =>
      rcases hevent with rfl | rfl | rfl <;> constructor <;> simp [hdeclines]
  | unwritten hevent => rcases hevent with rfl | rfl | rfl <;> constructor <;> simp [hdeclines]
  | delivered | missed | declined => constructor <;> simp [hdeclines]
  | @dropped reason hreader hports =>
      cases reason with
      | noReader => exact absurd rfl hreader
      | exhausted => exact absurd rfl hports
      | _ => constructor <;> simp [hdeclines]
  | exhausted inUse => constructor <;> simp [hdeclines, NatError.isExhausted]

theorem Entered.even {rules : Rules} {packets : List Octets} {events : List Event}
    {errors : List NatError} {taken : List Octets}
    (hentered : Entered rules packets events errors taken) :
    Even rules packets events errors taken := by
  cases hentered with
  | packet hhandled => exact hhandled.even
  | nothing | failed | accepted | rejected | ended | replied =>
      constructor <;> simp [NatError.isExhausted]

/-- The books of a translator balance against the packets that were read, the datagrams that were
handed on and the packets that the device took. -/
structure Balanced (rules : Rules) (statistics : Statistics) (reported : List NatError)
    (packets : List Octets) (offers : List (Datagram × Bool)) (taken : List Octets) : Prop where
  read : statistics.packetsRead = packets.length
  /-- Every packet that was read is counted under one outcome, or nobody answers it. -/
  outcomes : statistics.packetsRead = statistics.tcpRedirected + statistics.tcpReplies
    + statistics.udpDatagrams + statistics.icmpEchoReplies + statistics.droppedMalformed
    + statistics.droppedFragmented + statistics.droppedFiltered
    + statistics.droppedUnknownSession + statistics.sessionsExhausted
    + statistics.droppedRedirectorStopped + packets.countP rules.declines
  /-- The datagrams without a reader are those that nobody took. -/
  missed : statistics.droppedNoReader = offers.countP (!·.2)
  missed_le : statistics.droppedNoReader ≤ statistics.udpDatagrams
  /-- What the device took was a packet or a reply. -/
  taken : statistics.packetsWritten + statistics.udpReplies = taken.length
  written_le : statistics.packetsWritten ≤
    statistics.tcpRedirected + statistics.tcpReplies + statistics.icmpEchoReplies
  /-- The lack of ports is reported each time that it is counted, and at no other time. -/
  exhausted : reported.countP NatError.isExhausted = statistics.sessionsExhausted

/-- Books that balance do so after any entry. -/
theorem Balanced.enter {rules : Rules} {statistics : Statistics} {reported errors : List NatError}
    {packets more taken got : List Octets} {offers news : List (Datagram × Bool)}
    {events : List Event}
    (hbalanced : Balanced rules statistics reported packets offers taken)
    (heven : Even rules more events errors got)
    (hmissed : (statistics.recordAll events).droppedNoReader =
      statistics.droppedNoReader + news.countP (!·.2)) :
    Balanced rules (statistics.recordAll events) (reported ++ errors) (packets ++ more)
      (offers ++ news) (taken ++ got) := by
  have hcounter := statistics.counter_recordAll events
  have hreads := hcounter .read
  have hwrites := hcounter .written
  have hredirected := hcounter .redirected
  have hrestored := hcounter .restored
  have hdatagrams := hcounter .datagram
  have hreplies := hcounter .reply
  have hechoes := hcounter .echo
  have hmalformed := hcounter (.dropped .malformed)
  have hfragmented := hcounter (.dropped .fragmented)
  have hfiltered := hcounter (.dropped .filtered)
  have hunknown := hcounter (.dropped .unknownSession)
  have hreaders := hcounter (.dropped .noReader)
  have hexhausted := hcounter (.dropped .exhausted)
  have hstopped := hcounter (.dropped .redirectorStopped)
  simp only [Statistics.counter] at *
  obtain ⟨hread, houtcomes, hmissed', hmissed_le, htaken, hwritten_le, hreported⟩ := hbalanced
  obtain ⟨hread', houtcomes', hmissed_le', htaken', hwritten_le', hreported'⟩ := heven
  constructor
  case read => rw [List.length_append]; omega
  case outcomes => rw [List.countP_append]; omega
  case missed => rw [hmissed, hmissed', List.countP_append]
  case missed_le => omega
  case taken => rw [List.length_append]; omega
  case written_le => omega
  case exhausted => rw [List.countP_append]; omega

/-! ## Runs -/

/-- Just the datagrams that nobody takes are counted as without a reader. -/
theorem missed_turn (translator : Translator) (turn : Turn) :
    (translator.turn turn).statistics.droppedNoReader =
      translator.statistics.droppedNoReader + (translator.offersIn turn).countP (!·.2) := by
  cases turn with
  | reply back payload source? =>
      obtain ⟨events, taken, hlogs, hentered⟩ := translator.entered_reply back payload source?
      have hcounter := translator.statistics.counter_recordAll events (.dropped .noReader)
      rw [← hlogs.statistics] at hcounter
      refine hcounter.trans (congrArg (_ + ·) ?_)
      cases hentered <;> rfl
  | act act hread =>
      cases hreads : translator.reads? with
      | some reads => exact ((translator.effect act).pull hreads).2.1
      | none =>
          -- In push mode every datagram is taken.
          have htaken : (translator.offer? act).toList.countP (!·.2) = 0 := by
            unfold offer?
            split
            · rfl
            · split
              · simp [hreads]
              · rfl
          rw [offersIn, htaken]
          exact ((translator.effect act).push hreads).2.2

theorem rules_turn (translator : Translator) (turn : Turn) :
    (translator.turn turn).rules = translator.rules := by
  cases turn with
  | act act hread => exact (translator.effect act).rules
  | reply back payload source? => exact (translator.descends_reply back payload source?).rules

def afterTurns (translator : Translator) (turns : List Turn) : Translator :=
  turns.foldl turn translator

/-- All that some turns come to, where `what` is what one of them comes to. -/
def gather {α : Type} (what : Translator → Turn → List α) (translator : Translator) :
    List Turn → List α
  | [] => []
  | turn :: turns => what translator turn ++ gather what (translator.turn turn) turns

/-- Books that balance do so after any run. -/
theorem Balanced.afterTurns {translator : Translator} {packets taken : List Octets}
    {offers : List (Datagram × Bool)}
    (hbalanced : Balanced translator.rules translator.statistics translator.reported packets offers
      taken) (turns : List Turn) :
    Balanced translator.rules (translator.afterTurns turns).statistics
      (translator.afterTurns turns).reported (packets ++ translator.gather packetsIn turns)
      (offers ++ translator.gather offersIn turns) (taken ++ translator.gather takenIn turns) := by
  induction turns generalizing translator packets offers taken with
  | nil =>
      simp only [gather, List.append_nil]
      exact hbalanced
  | cons turn turns ih =>
      obtain ⟨events, errors, hstatistics, hreported, hentered⟩ := translator.entered_turn turn
      have hmissed := translator.missed_turn turn
      rw [hstatistics] at hmissed
      have hnext := hbalanced.enter hentered.even hmissed
      rw [← hstatistics, ← hreported, ← translator.rules_turn turn] at hnext
      have hrest := ih hnext
      simp only [gather, ← List.append_assoc]
      rwa [translator.rules_turn turn] at hrest

def withEmptyBooks (translator : Translator) : Translator :=
  { translator with statistics := {}, reported := [] }

/-- From any translator whose books are empty, whatever happens and whatever its device does, the
books balance after every turn. -/
theorem balanced_after (start : Translator) (turns : List Turn) :
    Balanced start.rules (start.withEmptyBooks.afterTurns turns).statistics
      (start.withEmptyBooks.afterTurns turns).reported
      (start.withEmptyBooks.gather packetsIn turns) (start.withEmptyBooks.gather offersIn turns)
      (start.withEmptyBooks.gather takenIn turns) := by
  have hempty : Balanced start.withEmptyBooks.rules start.withEmptyBooks.statistics
      start.withEmptyBooks.reported [] [] [] := by
    constructor <;> simp [withEmptyBooks]
  exact hempty.afterTurns turns

/-- The books of a translator that has not handled anything yet are empty. -/
example (settings : NatSection) (device : Device) (listenerPort first : UInt16) :
    (settings.translator device listenerPort first).withEmptyBooks =
      settings.translator device listenerPort first := rfl

end Translator

end PortalNat
