import Mathlib.Data.List.TakeWhile
import PortalNat.Proofs.Datagram.Dispatch
import PortalNat.Proofs.Engine.Shared
import PortalNat.Proofs.Engine.Verdicts
import PortalNat.Proofs.Reads.Run

/-!
# Push mode and pull mode agree

An act of a translator hands a datagram on, or readers act, or neither happens. In push mode the
handler is given what is handed on. In pull mode reads take it or it is counted as lost, and what
readers give to the handler and what the queue still holds for them never exceeds what they took. So
two runs over the same acts, one in each mode, agree on the datagrams and on everything else.
-/

namespace PortalNat

/-- What becomes of a datagram that is offered to the reads of a queue, and what the queue holds for
its reads then: the first read that waits takes it, or there is none. -/
inductive ReadQueue.Offered (queue : ReadQueue) (datagram : Datagram) :
    Bool → List (Nat × Datagram) → Prop
  | taken {read : PostedRead} (hopen : queue.closed = false)
      (hfirst : queue.posted.find? (·.waiting) = some read) :
      Offered queue datagram true (queue.served ++ [(read.id, datagram)])
  | lost (hnobody : queue.closed = true ∨ queue.posted.find? (·.waiting) = none) :
      Offered queue datagram false queue.served

theorem ReadQueue.offered_deliver (queue : ReadQueue) (datagram : Datagram) :
    queue.Offered datagram (queue.deliver datagram).1 (queue.deliver datagram).2.served := by
  have hfirst := queue.posted.find?_eq_head?_dropWhile_not (·.waiting)
  unfold deliver
  split
  · next hclosed => exact .lost (.inl hclosed)
  · next hopen =>
      split
      · next hreads => exact .lost (.inr (by rw [hfirst, hreads]; rfl))
      · next hreads => exact .taken (Bool.not_eq_true _ ▸ hopen) (by rw [hfirst, hreads]; rfl)

/-- A queue holds a datagram for the reader that took it, beside those it held before. -/
theorem ReadQueue.served_deliver (queue : ReadQueue) (datagram : Datagram) :
    (queue.deliver datagram).2.served.map (·.2) =
      queue.served.map (·.2) ++ if (queue.deliver datagram).1 then [datagram] else [] := by
  have hoffered := queue.offered_deliver datagram
  generalize (queue.deliver datagram).1 = taken, (queue.deliver datagram).2.served = served
    at hoffered ⊢
  cases hoffered with
  | taken hopen hfirst => exact List.map_append
  | lost hnobody => exact (List.append_nil _).symm

/-! ## Which datagrams there are -/

/-- The datagrams in some packets, one for each packet that rules let in as a datagram. -/
inductive Rules.Dispatched (rules : Rules) : List Octets → List Datagram → Prop
  | nil : Dispatched rules [] []
  | other {bytes : Octets} {rest : List Octets} {datagrams : List Datagram}
      (hnone : ∀ packet datagram, ¬rules.Dispatches bytes packet datagram)
      (hrest : Dispatched rules rest datagrams) : Dispatched rules (bytes :: rest) datagrams
  | datagram {bytes : Octets} {packet : Packet} {datagram : Datagram} {rest : List Octets}
      {datagrams : List Datagram} (hone : rules.Dispatches bytes packet datagram)
      (hrest : Dispatched rules rest datagrams) :
      Dispatched rules (bytes :: rest) (datagram :: datagrams)

/-- A verdict other than to hand a datagram on counts nothing that pull mode counts for itself. -/
def Verdict.Quiet : Verdict → Prop
  | .write event _ => event ≠ .dropped .noReader
  | .drop reason _ => reason ≠ .noReader
  | _ => True

theorem Rules.judge_quiet (rules : Rules) (table : SessionTable) (stopped : Bool) (bytes : Octets)
    (now : Nat) : (rules.judge table stopped bytes now).1.Quiet := by
  have hsettled := rules.judge_settled table stopped bytes now
  generalize (rules.judge table stopped bytes now).1 = verdict at hsettled ⊢
  cases hsettled with
  | write hevent =>
      intro hreader
      rcases hevent with rfl | rfl | rfl <;> cases hreader
  | deliver | ignore => trivial
  | drop hreader => exact hreader
  | exhausted => exact fun hreason => nomatch hreason

namespace Translator

/-- Nothing was handed on or done to the reads. -/
structure Calm (translator next : Translator) : Prop where
  rules : next.rules = translator.rules
  reads? : next.reads? = translator.reads?
  messages : next.messages = translator.messages
  missed : next.statistics.droppedNoReader = translator.statistics.droppedNoReader

variable {translator next : Translator}

theorem Calm.refl (translator : Translator) : Calm translator translator := ⟨rfl, rfl, rfl, rfl⟩

theorem Calm.trans {middle : Translator} (hfirst : Calm translator middle)
    (hsecond : Calm middle next) : Calm translator next :=
  ⟨hsecond.rules.trans hfirst.rules, hsecond.reads?.trans hfirst.reads?,
    hsecond.messages.trans hfirst.messages, hsecond.missed.trans hfirst.missed⟩

theorem calm_record (translator : Translator) {event : Event}
    (hevent : event ≠ .dropped .noReader) : Calm translator (translator.record event) := by
  refine ⟨rfl, rfl, rfl, ?_⟩
  cases event with
  | dropped reason =>
      cases reason with
      | noReader => exact absurd rfl hevent
      | _ => rfl
  | _ => rfl

theorem calm_write (translator : Translator) (packet : Octets) :
    Calm translator (translator.write packet) := by
  rw [write_eq]
  cases translator.device.refusal? <;> exact ⟨rfl, rfl, rfl, rfl⟩

/-- A packet changes nothing of this, or it holds a datagram that is handed on. -/
theorem calm_or_deliver (translator : Translator) (bytes : Octets) (now : Nat) :
    ((∀ datagram template,
        (translator.rules.judge translator.sessions translator.stopped bytes now).1 ≠
          .deliver datagram template) ∧
      Calm translator (translator.process bytes now)) ∨
    ∃ datagram template middle,
      (translator.rules.judge translator.sessions translator.stopped bytes now).1 =
        .deliver datagram template ∧
      Calm translator middle ∧ translator.process bytes now = middle.deliver datagram template := by
  have hquiet :=
    translator.rules.judge_quiet translator.sessions translator.stopped bytes now
  rw [process]
  rcases hjudge : translator.rules.judge translator.sessions translator.stopped bytes now with
    ⟨verdict, sessions⟩
  rw [hjudge] at hquiet
  let judged := { translator with sessions }
  have hjudged : Calm translator judged := ⟨rfl, rfl, rfl, rfl⟩
  cases verdict with
  | write event packet =>
      refine .inl ⟨fun _ _ hverdict => (nomatch hverdict), ?_⟩
      exact hjudged.trans ((calm_record judged hquiet).trans (calm_write _ packet))
  | deliver datagram template =>
      exact .inr ⟨datagram, template, judged.record .datagram, rfl,
        hjudged.trans (calm_record judged fun hevent => nomatch hevent), rfl⟩
  | ignore => exact .inl ⟨fun _ _ hverdict => (nomatch hverdict), hjudged⟩
  | drop reason report? =>
      have hcounted : Calm translator (judged.record (.dropped reason)) :=
        hjudged.trans (calm_record judged fun hevent => hquiet (by cases hevent; rfl))
      refine .inl ⟨fun _ _ hverdict => (nomatch hverdict), ?_⟩
      cases report? with
      | none => exact hcounted
      | some error => exact ⟨hcounted.rules, hcounted.reads?, hcounted.messages, hcounted.missed⟩

/-- What an act does to the reads and the messages: nothing, or it hands a datagram on, or readers
act. -/
inductive Effect (translator : Translator) :
    Act → Option (Datagram × Bool) → (ReadQueue → ReadQueue) → Translator → Prop
  | calm {act : Act} {next : Translator} (hcalm : Calm translator next) :
      Effect translator act none id next
  | deliver {act : Act} {middle : Translator} (datagram : Datagram) (template : ReplyTemplate)
      (hcalm : Calm translator middle) :
      Effect translator act
        (some (datagram, translator.reads?.all fun reads => (reads.deliver datagram).1))
        (fun reads => (reads.deliver datagram).2) (middle.deliver datagram template)
  | readers {act : Act} {change : ReadQueue → ReadQueue}
      (hserved : ∀ reads, (change reads).served.Sublist reads.served) :
      Effect translator act none change (translator.onReads change)
  | give (id : Nat) :
      Effect translator (.give id) none (·.collect id) (translator.give id)

theorem effect_process {act : Act} {bytes : Octets} {now : Nat} {middle : Translator}
    (hpacket : translator.packet? act = some (bytes, now)) (hcalm : Calm translator middle)
    (hsessions : middle.sessions = translator.sessions)
    (hstopped : middle.stopped = translator.stopped) :
    Effect translator act (translator.offer? act)
      (fun reads => match translator.offer? act with
        | none => reads
        | some (datagram, _) => (reads.deliver datagram).2)
      (middle.process bytes now) := by
  have hjudge : middle.rules.judge middle.sessions middle.stopped bytes now =
      translator.rules.judge translator.sessions translator.stopped bytes now := by
    rw [hcalm.rules, hsessions, hstopped]
  rcases middle.calm_or_deliver bytes now with
    ⟨hnone, hnext⟩ | ⟨datagram, template, last, hverdict, hlast, hprocess⟩
  · rw [hjudge] at hnone
    -- `hnone` rules out the only verdict with an offer
    have hoffer : translator.offer? act = none := by simp only [offer?, hpacket]
    rw [hoffer]
    exact .calm (hcalm.trans hnext)
  · rw [hjudge] at hverdict
    have hoffer : translator.offer? act =
        some (datagram, translator.reads?.all fun reads => (reads.deliver datagram).1) := by
      simp only [offer?, hpacket, hverdict]
    rw [hoffer, hprocess]
    exact .deliver datagram template (hcalm.trans hlast)

theorem calm_accept (translator : Translator) (arrival : Arrival) (now : Nat) :
    Calm translator (translator.accept arrival now) := by
  have harriving := translator.arriving arrival now
  generalize translator.accept arrival now = next at harriving ⊢
  cases harriving <;> exact ⟨rfl, rfl, rfl, rfl⟩

/-- Reading the device comes to a packet that is handled, or to nothing that is handed on. -/
theorem act_read (translator : Translator) (now : Nat) :
    (translator.packet? (.read now) = none ∧ Calm translator (translator.act (.read now))) ∨
    ∃ bytes middle, translator.packet? (.read now) = some (bytes, now) ∧ Calm translator middle ∧
      middle.sessions = translator.sessions ∧ middle.stopped = translator.stopped ∧
      translator.act (.read now) = middle.process bytes now := by
  generalize hpacket : translator.packet? (.read now) = packet?
  generalize hnext : translator.act (.read now) = next
  have hreading := translator.reading now
  rw [hpacket, hnext] at hreading
  cases hreading with
  | idle => exact .inl ⟨rfl, .refl translator⟩
  | @packet count buffer device =>
      exact .inr ⟨buffer.take count, { translator with device, buffer }.record .read, rfl,
        ⟨rfl, rfl, rfl, rfl⟩, rfl, rfl, rfl⟩
  | closed | passed | failed => exact .inl ⟨rfl, rfl, rfl, rfl, rfl⟩

theorem effect (translator : Translator) (act : Act) :
    Effect translator act (translator.offer? act) (translator.readsAfter act)
      (translator.act act) := by
  cases act with
  | process bytes now => exact effect_process rfl (.refl translator) rfl rfl
  | read now =>
      rcases translator.act_read now with
        ⟨hpacket, hcalm⟩ | ⟨bytes, middle, hpacket, hcalm, hsessions, hstopped, hact⟩
      · have hoffer : translator.offer? (.read now) = none := by rw [offer?, hpacket]
        have hreads : translator.readsAfter (.read now) = id := by
          funext reads
          simp only [readsAfter, hoffer, id]
        rw [hoffer, hreads]
        exact .calm hcalm
      · rw [hact]
        exact effect_process hpacket hcalm hsessions hstopped
  | accept arrival now => exact .calm (translator.calm_accept arrival now)
  | release | operate | use | shutDown => exact .calm ⟨rfl, rfl, rfl, rfl⟩
  | post => exact .readers fun reads => (ReadQueue.served_post reads).symm ▸ List.Sublist.refl _
  | giveUp id => exact .readers fun reads => List.filter_sublist
  | take id => exact .readers fun reads => List.filter_sublist
  | give id => exact .give id
  | closeReads => exact .readers fun reads => List.Sublist.refl _

/-- In push mode the handler is given each datagram that is handed on, and nothing else. -/
theorem Effect.push {act : Act} {offer? : Option (Datagram × Bool)} {change : ReadQueue → ReadQueue}
    (heffect : Effect translator act offer? change next) (hpush : translator.reads? = none) :
    next.reads? = none ∧
      next.messages.map (·.datagram) =
        translator.messages.map (·.datagram) ++ (offer?.map (·.1)).toList ∧
      next.statistics.droppedNoReader = translator.statistics.droppedNoReader := by
  cases heffect with
  | calm hcalm =>
      exact ⟨hcalm.reads?.trans hpush, by simp [hcalm.messages], hcalm.missed⟩
  | deliver datagram template hcalm =>
      have hmiddle := hcalm.reads?.trans hpush
      simp only [Translator.deliver, hmiddle]
      exact ⟨hmiddle, by simp [hand, hcalm.messages], hcalm.missed⟩
  | readers hserved =>
      exact ⟨by simp [onReads, hpush], by simp [onReads], rfl⟩
  | give id => simp [Translator.give, onReads, hpush]

/-- What a reader gives away and what is held without it is no more than what was held. -/
theorem subperm_of_give {served : List (Nat × Datagram)} {id : Nat} {datagram : Datagram}
    (hserved : served.lookup id = some datagram) :
    (datagram :: (served.filter (·.1 != id)).map (·.2)).Subperm (served.map (·.2)) := by
  obtain ⟨before, after, rfl, -⟩ := List.lookup_eq_some_iff.1 hserved
  have hsublist : ((before ++ (id, datagram) :: after).filter (·.1 != id)).Sublist
      (before ++ after) := by
    rw [List.filter_append, List.filter_cons_of_neg (by simp)]
    exact List.filter_sublist.append List.filter_sublist
  have hperm : (datagram :: (before ++ after).map (·.2)).Perm
      ((before ++ (id, datagram) :: after).map (·.2)) := by
    rw [List.map_append, List.map_append, List.map_cons]
    exact List.perm_middle.symm
  exact ((hsublist.map (·.2)).cons_cons datagram).subperm.trans hperm.subperm

/-- In pull mode a datagram goes to a read or is counted, and what readers give to the handler and
what the queue still holds for them is what they got. -/
theorem Effect.pull {act : Act} {offer? : Option (Datagram × Bool)} {change : ReadQueue → ReadQueue}
    (heffect : Effect translator act offer? change next) {reads : ReadQueue}
    (hpull : translator.reads? = some reads) :
    next.reads? = some (change reads) ∧
      next.statistics.droppedNoReader =
        translator.statistics.droppedNoReader + offer?.toList.countP (!·.2) ∧
      ∃ given, next.messages = translator.messages ++ given ∧
        (given.map (·.datagram) ++ (change reads).served.map (·.2)).Subperm
          (reads.served.map (·.2) ++ (offer?.toList.filter (·.2)).map (·.1)) := by
  cases heffect with
  | calm hcalm =>
      exact ⟨hcalm.reads?.trans hpull, by simp [hcalm.missed], [], by simp [hcalm.messages],
        by simpa using List.Subperm.refl _⟩
  | deliver datagram template hcalm =>
      have hmiddle := hcalm.reads?.trans hpull
      have hserved := reads.served_deliver datagram
      simp only [Translator.deliver, hmiddle, hpull, Option.all_some]
      rcases hdeliver : reads.deliver datagram with ⟨_ | _, left⟩
      · have hleft : left.served.map (·.2) = reads.served.map (·.2) := by
          simpa [hdeliver] using hserved
        refine ⟨rfl, ?_, [], ?_, ?_⟩
        · simp [record, Statistics.record, hcalm.missed]
        · simp [record, hcalm.messages]
        · simpa [hleft] using List.Subperm.refl _
      · have hleft : left.served.map (·.2) = reads.served.map (·.2) ++ [datagram] := by
          simpa [hdeliver] using hserved
        refine ⟨rfl, ?_, [], ?_, ?_⟩
        · simp [hcalm.missed]
        · simp [hcalm.messages]
        · simpa [hleft] using List.Subperm.refl _
  | readers hserved =>
      exact ⟨by simp [onReads, hpull], rfl, [], by simp [onReads],
        by simpa using ((hserved reads).map (·.2)).subperm⟩
  | give id =>
      simp only [Translator.give, hpull, Option.bind_some]
      cases hserved : reads.served.lookup id with
      | none =>
          have hkept : (reads.collect id).served.Sublist reads.served := List.filter_sublist
          exact ⟨by simp [onReads, hpull], rfl, [], by simp [onReads],
            by simpa using (hkept.map (·.2)).subperm⟩
      | some datagram =>
          exact ⟨by simp [onReads, hand, hpull], rfl, _, rfl,
            by simpa [ReadQueue.collect] using subperm_of_give hserved⟩

theorem Effect.rules {act : Act} {offer? : Option (Datagram × Bool)}
    {change : ReadQueue → ReadQueue} (heffect : Effect translator act offer? change next) :
    next.rules = translator.rules := by
  cases heffect with
  | calm hcalm => exact hcalm.rules
  | deliver datagram template hcalm =>
      exact (keeps_deliver _ datagram template).rules.trans hcalm.rules
  | readers hserved => rfl
  | give id =>
      unfold Translator.give
      split <;> rfl

theorem reads?_act (translator : Translator) (act : Act) :
    (translator.act act).reads? = translator.reads?.map (translator.readsAfter act) := by
  cases hreads : translator.reads? with
  | none => exact ((translator.effect act).push hreads).1
  | some reads => exact ((translator.effect act).pull hreads).1

theorem taken_of_offer {act : Act} {datagram : Datagram} {taken : Bool}
    (hoffer : translator.offer? act = some (datagram, taken)) :
    taken = translator.reads?.all fun reads => (reads.deliver datagram).1 := by
  simp only [offer?] at hoffer
  split at hoffer
  · cases hoffer
  · split at hoffer
    · cases hoffer
      rfl
    · cases hoffer

/-- An act that hands a datagram on in pull mode offers it to the reads. -/
theorem offered_of_offer {act : Act} {queue : ReadQueue} {datagram : Datagram} {taken : Bool}
    (hpull : translator.reads? = some queue)
    (hoffer : translator.offer? act = some (datagram, taken)) :
    ∃ left, (translator.act act).reads? = some left ∧ queue.Offered datagram taken left.served := by
  have hoffered := queue.offered_deliver datagram
  have htaken : taken = (queue.deliver datagram).1 := by
    rw [taken_of_offer hoffer, hpull, Option.all_some]
  have hreads : translator.readsAfter act queue = (queue.deliver datagram).2 := by
    cases act with
    | process | read => simp only [readsAfter, hoffer]
    | _ => cases hoffer
  refine ⟨translator.readsAfter act queue, ?_, hreads ▸ htaken ▸ hoffered⟩
  rw [reads?_act, hpull, Option.map_some]

/-! ## Runs -/

/-- The datagrams that are handed on are those in the packets that are handled. -/
theorem dispatched_offers (translator : Translator) (acts : List Act) :
    translator.rules.Dispatched (translator.packets acts)
      ((translator.offers acts).map (·.1)) := by
  induction acts generalizing translator with
  | nil => exact .nil
  | cons act acts ih =>
      have hrest := ih (translator.act act)
      rw [(translator.effect act).rules] at hrest
      rw [packets, offers, List.map_append]
      cases hpacket : translator.packet? act with
      | none =>
          have hoffer : translator.offer? act = none := by rw [offer?, hpacket]
          rw [hoffer]
          exact hrest
      | some packet =>
          rcases packet with ⟨bytes, now⟩
          have hiff := translator.rules.judge_eq_deliver_iff translator.sessions
            translator.stopped bytes now
          cases hverdict :
              (translator.rules.judge translator.sessions translator.stopped bytes now).1 with
          | deliver datagram template =>
              obtain ⟨packet, hdispatches, -⟩ := (hiff datagram template).1 hverdict
              simp only [offer?, hpacket, hverdict]
              exact .datagram hdispatches hrest
          | _ =>
              simp only [offer?, hpacket, hverdict]
              refine .other (fun packet datagram hdispatches => ?_) hrest
              have hdeliver := (hiff datagram _).2 ⟨packet, hdispatches, rfl⟩
              rw [hverdict] at hdeliver
              cases hdeliver

theorem push_after (translator : Translator) (acts : List Act) (hpush : translator.reads? = none) :
    (translator.after acts).messages.map (·.datagram) =
        translator.messages.map (·.datagram) ++ (translator.offers acts).map (·.1) ∧
      (translator.after acts).statistics.droppedNoReader =
        translator.statistics.droppedNoReader := by
  induction acts generalizing translator with
  | nil => exact ⟨(List.append_nil _).symm, rfl⟩
  | cons act acts ih =>
      obtain ⟨hnext, hmessages, hmissed⟩ := (translator.effect act).push hpush
      obtain ⟨hrest, hstill⟩ := ih _ hnext
      refine ⟨?_, hstill.trans hmissed⟩
      change ((translator.act act).after acts).messages.map _ = _
      rw [hrest, hmessages, offers, List.map_append, List.append_assoc, Option.toList_map]

theorem pull_after (translator : Translator) (acts : List Act) {reads : ReadQueue}
    (hpull : translator.reads? = some reads) :
    (translator.after acts).statistics.droppedNoReader =
        translator.statistics.droppedNoReader + (translator.offers acts).countP (!·.2) ∧
      ∃ left given, (translator.after acts).reads? = some left ∧
        (translator.after acts).messages = translator.messages ++ given ∧
        (given.map (·.datagram) ++ left.served.map (·.2)).Subperm
          (reads.served.map (·.2) ++ ((translator.offers acts).filter (·.2)).map (·.1)) := by
  induction acts generalizing translator reads with
  | nil => exact ⟨rfl, reads, [], hpull, (List.append_nil _).symm, by simpa [offers] using .refl _⟩
  | cons act acts ih =>
      obtain ⟨hnext, hmissed, given, hgiven, hheld⟩ := (translator.effect act).pull hpull
      obtain ⟨hlater, left, more, hleft, hmore, hlast⟩ := ih _ hnext
      refine ⟨?_, left, given ++ more, hleft, ?_, ?_⟩
      · change ((translator.act act).after acts).statistics.droppedNoReader = _
        rw [hlater, hmissed, offers, List.countP_append, Nat.add_assoc]
      · change ((translator.act act).after acts).messages = _
        rw [hmore, hgiven, List.append_assoc]
      · -- what was given and held after the first act is what there is to give and hold later
        have hbehind := (List.subperm_append_left (given.map (·.datagram))).2 hlast
        have hahead := (List.subperm_append_right
          (((translator.act act).offers acts).filter (·.2) |>.map (·.1))).2 hheld
        simp only [offers, List.filter_append, List.map_append, List.append_assoc]
          at hahead hbehind ⊢
        exact hbehind.trans hahead

def inPush (translator : Translator) : Translator :=
  { translator with reads? := none }

def inPull (translator : Translator) (reads : ReadQueue) : Translator :=
  { translator with reads? := some reads }

/-- How a translator fares in push mode and in pull mode if the same happens to it. -/
structure ModesAgree (start : Translator) (reads : ReadQueue) (acts : List Act) : Prop where
  /-- Both handle the same packets. -/
  packets : (start.inPull reads).packets acts = start.inPush.packets acts
  /-- Both hand the same datagrams on, in the same order. -/
  offers : ((start.inPull reads).offers acts).map (·.1) = (start.inPush.offers acts).map (·.1)
  /-- These are the datagrams that the packets hold, each with the endpoints and the payload of its
  packet. -/
  dispatched : start.rules.Dispatched (start.inPush.packets acts)
    ((start.inPush.offers acts).map (·.1))
  /-- In push mode the handler is given each of them once, in this order, and nothing else. -/
  pushed : (start.inPush.after acts).messages.map (·.datagram) =
    start.messages.map (·.datagram) ++ (start.inPush.offers acts).map (·.1)
  /-- In pull mode the next act does to the reads what its reader does, or it delivers the datagram
  that it hands on. -/
  queue : ∀ act, (((start.inPull reads).after acts).act act).reads? =
    ((start.inPull reads).after acts).reads?.map
      (((start.inPull reads).after acts).readsAfter act)
  /-- It is delivered to the first read that waits then, for which the queue holds it from then on,
  and it is taken exactly if there is such a read and the queue is open. -/
  taken : ∀ act queue datagram taken, ((start.inPull reads).after acts).reads? = some queue →
    ((start.inPull reads).after acts).offer? act = some (datagram, taken) →
      ∃ left, (((start.inPull reads).after acts).act act).reads? = some left ∧
        queue.Offered datagram taken left.served
  /-- In pull mode the handler is given only what reads took, and that at most once. -/
  pulled : ∃ left given, ((start.inPull reads).after acts).reads? = some left ∧
    ((start.inPull reads).after acts).messages = start.messages ++ given ∧
    (given.map (·.datagram) ++ left.served.map (·.2)).Subperm
      (reads.served.map (·.2) ++ (((start.inPull reads).offers acts).filter (·.2)).map (·.1))
  /-- In pull mode exactly the datagrams that no read took are counted, in push mode none. -/
  missed : ((start.inPull reads).after acts).statistics.droppedNoReader =
    start.statistics.droppedNoReader + ((start.inPull reads).offers acts).countP (!·.2)
  unmissed : (start.inPush.after acts).statistics.droppedNoReader =
    start.statistics.droppedNoReader
  /-- Everything else is the same. -/
  shared : ((start.inPull reads).after acts).shared = (start.inPush.after acts).shared

/-- Push mode and pull mode agree, whatever a translator was before, whatever it handles, and
however readers come, go and post their reads in between. -/
theorem modes_agree (start : Translator) (reads : ReadQueue) (acts : List Act) :
    ModesAgree start reads acts := by
  have hstart : (start.inPull reads).shared = start.inPush.shared := rfl
  obtain ⟨hshared, hpackets, hoffers⟩ := agree_of_shared hstart acts
  obtain ⟨hpushed, hunmissed⟩ := push_after start.inPush acts rfl
  obtain ⟨hmissed, hpulled⟩ := pull_after (start.inPull reads) acts rfl
  exact
    { packets := hpackets
      offers := hoffers
      dispatched := start.inPush.dispatched_offers acts
      pushed := hpushed
      queue := reads?_act _
      taken := fun _ _ _ _ hreads hoffer => offered_of_offer hreads hoffer
      pulled := hpulled
      missed := hmissed
      unmissed := hunmissed
      shared := hshared }

end Translator

end PortalNat
