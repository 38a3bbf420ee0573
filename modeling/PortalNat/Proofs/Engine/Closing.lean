import Mathlib.Logic.Relation
import PortalNat.Proofs.Engine.Settled

/-!
# Closing an engine

Closing takes its time. The call that closes an engine tells everything that runs to end, closes the
device and then the reads, waits for the pump and the acceptor to end, and last releases every
session. Meanwhile what runs goes on until it notices, and handlers, readers and the far end do what
they like, then and ever after. Whatever they do, once the call has returned nothing of the engine
can be used any more.
-/

namespace PortalNat

open Translator (Act Turn Blames Idle)

inductive Chore where
  /-- Tell everything that runs to end. -/
  | signal
  | closeDevice
  | closeReads
  /-- Release every session. -/
  | clear
deriving DecidableEq, Repr

/-- What doing a chore changes at once. What runs ends when it notices the signal. -/
def Chore.carryOut (translator : Translator) : Chore → Translator
  | signal => translator
  | closeDevice => { translator with device := translator.device.close }
  | closeReads => translator.onReads (·.close)
  | clear => { translator with sessions := translator.sessions.clear.2 }

def Chore.inOrder : List Chore := [signal, closeDevice, closeReads, clear]

/-- An engine that is being closed or was closed, and the chores that are left. -/
structure Closing where
  engine : Engine
  left : List Chore

namespace Closing

/-- The engine when the call begins, which is the only one to close it. -/
def ofEngine (engine : Engine) : Closing where
  engine := { engine with closed := true }
  left := Chore.inOrder

def translator (closing : Closing) : Translator :=
  closing.engine.translator

def change (closing : Closing) (translator : Translator) : Closing :=
  { closing with engine.translator := translator }

def done (closing : Closing) (chore : Chore) (rest : List Chore) : Closing where
  engine := { closing.engine with translator := chore.carryOut closing.translator }
  left := rest

/-- What others can do: nobody opens a device that was closed, and nobody makes a session by hand
once the call has returned. -/
def Allows (closing : Closing) : Turn → Prop
  | .act (.use device) _ => closing.translator.device.closed = true → device.closed = true
  | .act (.operate (.newSession _) _) _ => closing.left ≠ []
  | _ => True

/-- What can happen while an engine is being closed, and afterwards. -/
inductive Moves (closing : Closing) : Closing → Prop
  /-- The call does its next chore. Before the last it waits for the pump and the acceptor. -/
  | proceed {chore : Chore} {rest : List Chore} (hleft : closing.left = chore :: rest)
      (hwaits : chore = .clear → closing.translator.Idle) :
      Moves closing (closing.done chore rest)
  /-- The pump notices the signal. -/
  | endPump (hsignal : .signal ∉ closing.left) :
      Moves closing (closing.change { closing.translator with pumping := false })
  /-- The acceptor notices the signal. -/
  | endAcceptor (hsignal : .signal ∉ closing.left) :
      Moves closing (closing.change { closing.translator with accepting := false })
  /-- Somebody closes the engine again. -/
  | again : Moves closing { closing with engine := closing.engine.close }
  /-- The pump, the acceptor, a handler, a reader or the far end does something. -/
  | meanwhile (turn : Turn) (hallows : closing.Allows turn) :
      Moves closing (closing.change (closing.translator.turn turn))

abbrev Reaches : Closing → Closing → Prop :=
  Relation.ReflTransGen Moves

/-- What the chores that are done have brought about. -/
structure Sound (closing : Closing) : Prop where
  closed : closing.engine.closed = true
  left : closing.left <:+ Chore.inOrder
  device : .closeDevice ∉ closing.left → closing.translator.device.closed = true
  reads : .closeReads ∉ closing.left →
    ∀ reads, closing.translator.reads? = some reads → reads.Shut
  numbered : ∀ reads, closing.translator.reads? = some reads → reads.Numbered
  idle : .clear ∉ closing.left → closing.translator.Idle
  sessions : .clear ∉ closing.left → closing.translator.sessions.IsEmpty

variable {engine : Engine} {closing next : Closing}

theorem Sound.close_eq (hsound : closing.Sound) : closing.engine.close = closing.engine :=
  if_pos hsound.closed

/-- The sessions are released last. -/
theorem Sound.returned (hsound : closing.Sound) (hclear : .clear ∉ closing.left) :
    closing.left = [] := by
  by_contra hleft
  have hlast : closing.left.getLast hleft = .clear := hsound.left.getLast hleft
  exact hclear (hlast ▸ List.getLast_mem hleft)

theorem Sound.proceed (hsound : closing.Sound) {chore : Chore} {rest : List Chore}
    (hleft : closing.left = chore :: rest) (hwaits : chore = .clear → closing.translator.Idle) :
    (closing.done chore rest).Sound := by
  have horder : rest <:+ Chore.inOrder :=
    (List.suffix_cons chore rest).trans (hleft ▸ hsound.left)
  -- what the other chores that are done have brought about stays
  have hdone {other : Chore} (hother : other ≠ chore) (hrest : other ∉ rest) :
      other ∉ closing.left := by
    rw [hleft, List.mem_cons, not_or]
    exact ⟨hother, hrest⟩
  cases chore with
  | signal =>
      exact ⟨hsound.closed, horder, fun hrest => hsound.device (hdone (by decide) hrest),
        fun hrest => hsound.reads (hdone (by decide) hrest), hsound.numbered,
        fun hrest => hsound.idle (hdone (by decide) hrest),
        fun hrest => hsound.sessions (hdone (by decide) hrest)⟩
  | closeDevice =>
      refine ⟨hsound.closed, horder, fun _ => rfl,
        fun hrest => hsound.reads (hdone (by decide) hrest), hsound.numbered, ?_,
        fun hrest => hsound.sessions (hdone (by decide) hrest)⟩
      intro hrest
      have hidle := hsound.idle (hdone (by decide) hrest)
      exact ⟨hidle.pumping, hidle.accepting⟩
  | closeReads =>
      have hclosed {motive : ReadQueue → Prop} (hclose : ∀ reads,
          closing.translator.reads? = some reads → motive reads.close) :
          ∀ reads, (closing.translator.onReads (·.close)).reads? = some reads → motive reads := by
        intro reads hreads
        obtain ⟨before, hbefore, rfl⟩ := Option.map_eq_some_iff.1 hreads
        exact hclose before hbefore
      refine ⟨hsound.closed, horder, fun hrest => hsound.device (hdone (by decide) hrest),
        fun _ => hclosed fun _ _ => ⟨rfl, rfl⟩, ?_, ?_,
        fun hrest => hsound.sessions (hdone (by decide) hrest)⟩
      · exact hclosed fun reads hreads =>
          ReadQueue.lasts_numbered.close (hsound.numbered reads hreads)
      · intro hrest
        have hidle := hsound.idle (hdone (by decide) hrest)
        exact ⟨hidle.pumping, hidle.accepting⟩
  | clear =>
      exact ⟨hsound.closed, horder, fun hrest => hsound.device (hdone (by decide) hrest),
        fun hrest => hsound.reads (hdone (by decide) hrest), hsound.numbered,
        fun _ => ⟨(hwaits rfl).pumping, (hwaits rfl).accepting⟩, fun _ => ⟨rfl, rfl⟩⟩

theorem Sound.meanwhile (hsound : closing.Sound) {turn : Turn} (hallows : closing.Allows turn) :
    (closing.change (closing.translator.turn turn)).Sound := by
  constructor
  case closed => exact hsound.closed
  case left => exact hsound.left
  case device =>
    intro hleft
    apply Translator.closed_turn (hsound.device hleft)
    rintro device hread rfl
    exact hallows (hsound.device hleft)
  case reads =>
    intro hleft
    exact Translator.lasts_turn ReadQueue.lasts_shut (hsound.reads hleft) turn
  case numbered => exact Translator.lasts_turn ReadQueue.lasts_numbered hsound.numbered turn
  case idle => exact fun hleft => (hsound.idle hleft).turn turn
  case sessions =>
    intro hleft
    have hreturned := hsound.returned hleft
    have hsame : (closing.translator.turn turn).sessions = closing.translator.sessions := by
      apply (hsound.idle hleft).sessions_turn (hsound.sessions hleft)
      rintro tuple now hread rfl
      exact hallows hreturned
    have hempty := hsound.sessions hleft
    rw [← hsame] at hempty
    exact hempty

/-- Whatever happens leaves that as it is. -/
theorem Sound.moves (hsound : closing.Sound) (hmoves : closing.Moves next) : next.Sound := by
  cases hmoves with
  | proceed hleft hwaits => exact hsound.proceed hleft hwaits
  | endPump hsignal =>
      exact ⟨hsound.closed, hsound.left, hsound.device, hsound.reads, hsound.numbered,
        fun hleft => ⟨rfl, (hsound.idle hleft).accepting⟩, hsound.sessions⟩
  | endAcceptor hsignal =>
      exact ⟨hsound.closed, hsound.left, hsound.device, hsound.reads, hsound.numbered,
        fun hleft => ⟨(hsound.idle hleft).pumping, rfl⟩, hsound.sessions⟩
  | again =>
      rw [hsound.close_eq]
      exact hsound
  | meanwhile turn hallows => exact hsound.meanwhile hallows

end Closing

/-! ## Closing for good -/

/-- Nothing of an engine can be used any more. -/
structure Engine.Gone (engine : Engine) : Prop where
  /-- There is no session. -/
  sessions : engine.translator.sessions.size = 0 ∧
    (∀ port : UInt16, engine.translator.sessions.byPort[port]? = none) ∧
    ∀ tuple : Tuple, engine.translator.sessions.byTuple[tuple]? = none
  idle : engine.translator.Idle
  /-- A connection that a handler still had changes nothing when it is let go. -/
  release : ∀ (connection : Connection) (now : Nat),
    engine.translator.release connection now = engine.translator
  /-- In pull mode every read fails that was not served, and every one that only starts. A datagram
  finds nobody. -/
  reads : ∀ reads, engine.translator.reads? = some reads →
    (∀ id, reads.served.lookup id = none → reads.outcome? id = some (.error .closed)) ∧
    reads.post.2.outcome? reads.post.1 = some (.error .closed) ∧
    ∀ datagram, reads.deliver datagram = (false, reads)
  /-- In pull mode nothing can be sent. -/
  sendTo : engine.translator.reads?.isSome = true → ∀ (payload : Octets) (source client : Endpoint),
    engine.translator.sendTo payload source client = (.error (.udp .closed), engine.translator)
  queue : engine.translator.reads?.isSome = true →
    ∀ (client remote : Endpoint) (payload : Octets) (source? : Option Endpoint),
    engine.translator.reply (.queue client remote) payload source? =
      (.error (.udp .closed), engine.translator)
  /-- No reply is written, and none changes anything. One that can be built fails because the device
  is closed, unless the device fails all writes for a reason of its own. -/
  reply : ∀ (back : WriteBack) (payload : Octets) (source? : Option Endpoint),
    ∃ error, engine.translator.reply back payload source? = (.error error, engine.translator) ∧
      ∀ packet, back.build engine.translator.readsClosed payload source? = .ok packet →
        engine.translator.device.writeFault? = none → error.isShutdown = true
  /-- Closing it again changes nothing. -/
  close : engine.close = engine

namespace Closing

variable {engine : Engine} {closing : Closing}

theorem Sound.gone (hsound : closing.Sound) (hreturned : closing.left = []) :
    closing.engine.Gone := by
  have hdone (chore : Chore) : chore ∉ closing.left := by
    rw [hreturned]
    exact List.not_mem_nil
  have hdevice := hsound.device (hdone _)
  have hreads := hsound.reads (hdone _)
  have hempty := hsound.sessions (hdone _)
  have hshut (hpull : closing.translator.reads?.isSome = true) :
      closing.translator.readsClosed = true := by
    obtain ⟨reads, hsome⟩ := Option.isSome_iff_exists.1 hpull
    rw [Translator.readsClosed, hsome]
    exact (hreads reads hsome).closed
  have hqueue (client remote : Endpoint) (payload : Octets) (source? : Option Endpoint)
      (hpull : closing.translator.reads?.isSome = true) :
      closing.translator.reply (.queue client remote) payload source? =
        (.error (.udp .closed), closing.translator) := by
    simp only [Translator.reply, WriteBack.build, hshut hpull, if_true]
  constructor
  case sessions =>
    have hports : closing.engine.translator.sessions.byPort = ∅ := hempty.byPort
    have htuples : closing.engine.translator.sessions.byTuple = ∅ := hempty.byTuple
    rw [SessionTable.size, hports, htuples]
    simp
  case idle => exact hsound.idle (hdone _)
  case release =>
    intro connection now
    have hreleased := hempty.apply_eq ⟨.release connection.port connection.session, now⟩ (by simp)
    exact congrArg (fun sessions => { closing.translator with sessions }) hreleased
  case reads =>
    intro reads hsome
    have hclosed := hreads reads hsome
    exact ⟨fun id => hclosed.outcome?_eq, hclosed.outcome?_post (hsound.numbered reads hsome),
      hclosed.deliver_eq⟩
  case sendTo => exact fun hpull payload source client => hqueue client source payload none hpull
  case queue => exact fun hpull client remote payload source? => hqueue _ _ _ _ hpull
  case reply =>
    intro back payload source?
    obtain ⟨refusal, hrefusal, hsays⟩ := Device.exists_refusal hdevice
    obtain ⟨error, hreply, -, hbuilt⟩ :=
      Translator.reply_of_refusal hrefusal back payload source?
    refine ⟨error, hreply, ?_⟩
    intro packet hpacket hwrites
    rw [hbuilt packet hpacket, hsays hwrites]
    rfl
  case close => exact hsound.close_eq

/-- What closing an engine is. -/
structure Final (engine : Engine) : Prop where
  /-- Without interference the call does what closing at once does. -/
  undisturbed : (ofEngine engine).Reaches ⟨engine.close, []⟩
  /-- Whatever has happened, the call can go on to its end. -/
  returns : ∀ closing, (ofEngine engine).Reaches closing →
    ∃ last, closing.Reaches last ∧ last.left = []
  /-- What the call does and brings about is not reported. Others may report a packet without a
  port, a failure of a device that is still open, or a failure of the listener. -/
  quiet : ∀ closing next, (ofEngine engine).Reaches closing → closing.Moves next →
    next.translator.reported = closing.translator.reported ∨
      ∃ turn errors, next = closing.change (closing.translator.turn turn) ∧
        next.translator.reported = closing.translator.reported ++ errors ∧
        ∀ error ∈ errors, closing.translator.Blames turn error
  /-- To close it a second time changes nothing, however far the first call has come. -/
  again : ∀ closing, (ofEngine engine).Reaches closing → closing.engine.close = closing.engine
  /-- Once the call has returned nothing of the engine can be used, now and ever after. -/
  gone : ∀ closing, (ofEngine engine).Reaches closing → closing.left = [] → closing.engine.Gone ∧
    ∀ later, closing.Reaches later → later.left = [] ∧ later.engine.Gone

/-- That the queue is closed reports an orderly shutdown. -/
example : (NatError.udp .closed).isShutdown = true := rfl

end Closing

end PortalNat
