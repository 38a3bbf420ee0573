import PortalNat.Proofs.Engine.Pumping

/-!
# What the pump takes from its device

A device offers what it had queued, one thing after the other, and then that it is closed, if it is.
The reads of a pump take what the device offers, and the law of a run says what the pump makes of
it: just the packets that it reads until it ends are handled, and the first shutdown or failure that
is not transient ends it.
-/

namespace PortalNat

namespace Device

/-- What a read of a device can come to now, wherever it reads to, and the device afterwards. -/
def offerings (device : Device) : List (Except IoError Octets × Device) :=
  let closing := if device.closed then [(.error .deviceClosed, device)] else []
  let reading := match device.inbound with
    | result :: rest => [(result, { device with inbound := rest })]
    | [] => if device.farGone then [(.error .deviceClosed, device)] else []
  closing ++ reading

theorem receptions_eq (device : Device) (buffer : Octets) :
    device.receptions buffer =
      device.offerings.map fun (result, after) => (result.map (received buffer), after) := by
  have hclosing : (if device.closed then [(.error .deviceClosed, device)] else [] :
        List (Except IoError (Nat × Octets) × Device)) =
      (if device.closed then [(.error .deviceClosed, device)] else [] :
        List (Except IoError Octets × Device)).map
          fun (result, after) => (result.map (received buffer), after) := by
    split_ifs <;> rfl
  rw [receptions, offerings, List.map_append, hclosing]
  congr 1
  cases device.inbound with
  | nil => simp only []; split_ifs <;> rfl
  | cons result rest => rfl

theorem recv_eq (device : Device) (buffer : Octets) :
    device.recv buffer =
      match device.offerings with
      | [] => (none, device)
      | (result, after) :: _ => (some (result.map (received buffer)), after) := by
  rw [recv, receptions_eq]
  cases device.offerings <;> rfl

/-- What a read takes first: that the device is closed, or the first thing it had queued. -/
theorem offers_cases {device after : Device} {result : Except IoError Octets}
    (hoffered : (result, after) ∈ device.offerings.head?) :
    (result = .error .deviceClosed ∧ after = device ∧
        (device.closed = true ∨ device.farGone = true)) ∨
      ∃ rest, device.inbound = result :: rest ∧ after = { device with inbound := rest } := by
  rcases device with ⟨capacity?, inbound, outbound, closed, farGone, writeFault?⟩
  cases closed with
  | true =>
      cases hoffered
      exact .inl ⟨rfl, rfl, .inl rfl⟩
  | false =>
      cases inbound with
      | cons first rest =>
          cases hoffered
          exact .inr ⟨rest, rfl, rfl⟩
      | nil =>
          cases farGone with
          | true =>
              cases hoffered
              exact .inl ⟨rfl, rfl, .inr rfl⟩
          | false => cases hoffered

end Device

namespace Translator

variable {translator start : Translator}

/-! ## The reads of a run -/

/-- What a turn comes to for the pump. A read takes the first thing that the device offers, if it
does not have to wait. -/
def momentsIn (translator : Translator) (turn : Turn) : List Moment :=
  if haside : turn.isAside = true then [.aside turn haside]
  else
    match turn with
    | .act (.read now) _ =>
      if translator.pumping then
        match translator.device.offerings with
        | [] => []
        | (result, device) :: _ =>
          [.aside (.act (.use device) fun _ _ hact => nomatch hact) rfl, .read result now]
      else []
    | _ => [.shutDown]

theorem momentsIn_aside (translator : Translator) {turn : Turn} (haside : turn.isAside = true) :
    translator.momentsIn turn = [.aside turn haside] :=
  dif_pos haside

/-- What a read of the device comes to. -/
theorem momentsIn_read (translator : Translator) (now : Nat)
    (hread : ∀ bytes later, Act.read now ≠ .process bytes later) :
    (translator.momentsIn (.act (.read now) hread) = [] ∧ translator.pumpOnce now = none) ∨
      ∃ result device, (result, device) ∈ translator.device.offerings.head? ∧
        translator.pumping = true ∧
        translator.momentsIn (.act (.read now) hread) =
          [.aside (.act (.use device) fun _ _ hact => nomatch hact) rfl, .read result now] ∧
        translator.pumpOnce now =
          some (({ translator with device }).undergo (.read result now)) := by
  unfold momentsIn pumpOnce
  rw [dif_neg (by simp [Turn.isAside]), Device.recv_eq]
  cases hpumping : translator.pumping with
  | false => exact .inl ⟨rfl, rfl⟩
  | true =>
      rcases translator.device.offerings with _ | ⟨⟨result, device⟩, rest⟩
      · exact .inl ⟨rfl, rfl⟩
      · refine .inr ⟨result, device, rfl, rfl, rfl, ?_⟩
        simp only [undergo, Bool.not_true, Bool.false_eq_true, if_false, if_true]

theorem through_momentsIn (translator : Translator) (turn : Turn) :
    translator.through (translator.momentsIn turn) = translator.turn turn := by
  by_cases haside : turn.isAside = true
  · rw [translator.momentsIn_aside haside]
    rfl
  · cases turn with
    | reply => exact absurd rfl haside
    | act act hread =>
        cases act with
        | shutDown => rfl
        | read now =>
            rw [Translator.turn, Translator.act]
            rcases translator.momentsIn_read now hread with
              ⟨hmoments, honce⟩ | ⟨result, device, -, -, hmoments, honce⟩ <;>
            · rw [hmoments, honce]
              rfl
        | _ => exact absurd rfl haside

/-- What the pump handles is what is read in its turns. -/
theorem handled_momentsIn (translator : Translator) (turn : Turn) :
    translator.handled (translator.momentsIn turn) = translator.packetsIn turn := by
  by_cases haside : turn.isAside = true
  · rw [translator.momentsIn_aside haside]
    cases turn with
    | reply => rfl
    | act act hread =>
        cases act with
        | process bytes now => exact absurd rfl (hread bytes now)
        | read => cases haside
        | _ => rfl
  · cases turn with
    | reply => exact absurd rfl haside
    | act act hread =>
        cases act with
        | shutDown => rfl
        | read now =>
            rw [momentsIn, dif_neg haside]
            simp only [packetsIn, packet?, Device.recv_eq]
            split_ifs with hpumping
            · rcases translator.device.offerings with _ | ⟨⟨result, device⟩, rest⟩
              · rfl
              · have hread : ({ translator with device }).pumping = true := hpumping
                change (handledIn { translator with device } (.read result now)).toList ++ [] = _
                rw [List.append_nil, handledIn, if_pos hread]
                cases result <;> rfl
            · rfl
        | _ => exact absurd rfl haside

/-- A run of turns is a run of what they come to for the pump. -/
theorem through_gather (start : Translator) (turns : List Turn) :
    start.through (start.gather momentsIn turns) = start.afterTurns turns ∧
      start.handled (start.gather momentsIn turns) = start.gather packetsIn turns := by
  induction turns generalizing start with
  | nil => exact ⟨rfl, rfl⟩
  | cons turn turns ih =>
      obtain ⟨hthrough, hhandled⟩ := ih (start.turn turn)
      rw [gather, gather, through_append, handled_append, through_momentsIn, handled_momentsIn,
        hthrough, hhandled]
      exact ⟨rfl, rfl⟩

theorem written_turn (translator : Translator) {turn : Turn} (haside : turn.isAside = true)
    (huse : ∀ device hread, turn ≠ .act (.use device) hread) :
    Device.Written translator.device (translator.turn turn).device := by
  cases turn with
  | reply back payload source? => exact (translator.frames_reply back payload source?).device
  | act act hread =>
      cases act with
      | process bytes now => exact absurd rfl (hread bytes now)
      | read | shutDown => cases haside
      | accept arrival now =>
          have harriving := translator.arriving arrival now
          change Device.Written translator.device (translator.accept arrival now).device
          generalize translator.accept arrival now = next at harriving ⊢
          cases harriving <;> exact ⟨rfl, rfl, rfl, rfl⟩
      | use device => exact absurd rfl (huse device hread)
      | give id =>
          have hdevice := congrArg Translator.device (translator.shared_give id)
          exact ⟨congrArg Device.inbound hdevice, congrArg Device.closed hdevice,
            congrArg Device.farGone hdevice, congrArg Device.writeFault? hdevice⟩
      | release | operate | post | giveUp | take | closeReads => exact ⟨rfl, rfl, rfl, rfl⟩

theorem written_read (translator : Translator) (result : Except IoError Octets) (now : Nat) :
    Device.Written translator.device (translator.undergo (.read result now)).device := by
  cases hpumping : translator.pumping with
  | false =>
      rw [undergo_of_ended hpumping]
      exact ⟨rfl, rfl, rfl, rfl⟩
  | true =>
      cases result with
      | ok packet =>
          rw [undergo_packet hpumping]
          exact (frames_process ({ translator with
            buffer := translator.buffer.copyInto packet }.record .read) _ now).device
      | error error =>
          simp only [undergo, hpumping, if_true, Except.map, afterRead]
          split_ifs <;> exact ⟨rfl, rfl, rfl, rfl⟩

/-- As long as nobody else uses a device that is open, its reads bring what it had queued, in that
order. -/
theorem inbound_momentsIn (hopen : translator.device.closed = false)
    (hfar : translator.device.farGone = false) {turn : Turn}
    (huse : ∀ device hread, turn ≠ .act (.use device) hread) :
    (translator.turn turn).device.closed = false ∧ (translator.turn turn).device.farGone = false ∧
      translator.device.inbound =
        (translator.momentsIn turn).filterMap Moment.result? ++
          (translator.turn turn).device.inbound := by
  by_cases haside : turn.isAside = true
  · have hwritten := translator.written_turn haside huse
    rw [translator.momentsIn_aside haside]
    exact ⟨hwritten.closed.trans hopen, hwritten.farGone.trans hfar, hwritten.inbound.symm⟩
  · cases turn with
    | reply => exact absurd rfl haside
    | act act hread =>
        cases act with
        | shutDown => exact ⟨hopen, hfar, rfl⟩
        | read now =>
            rw [Translator.turn, Translator.act]
            rcases translator.momentsIn_read now hread with
              ⟨hmoments, honce⟩ | ⟨result, device, hoffered, -, hmoments, honce⟩
            · rw [hmoments, honce]
              exact ⟨hopen, hfar, rfl⟩
            · have hwritten := ({ translator with device }).written_read result now
              rw [hmoments, honce, Option.getD_some]
              rcases Device.offers_cases hoffered with
                ⟨-, -, hclosed | hgone⟩ | ⟨rest, hinbound, rfl⟩
              · rw [hopen] at hclosed
                cases hclosed
              · rw [hfar] at hgone
                cases hgone
              · refine ⟨hwritten.closed.trans hopen, hwritten.farGone.trans hfar, ?_⟩
                rw [hwritten.inbound]
                exact hinbound
        | _ => exact absurd rfl haside

theorem inbound_gather (hopen : start.device.closed = false) (hfar : start.device.farGone = false)
    {turns : List Turn} (huse : ∀ device hread, .act (.use device) hread ∉ turns) :
    start.device.inbound =
      (start.gather momentsIn turns).filterMap Moment.result? ++
        (start.afterTurns turns).device.inbound := by
  induction turns generalizing start with
  | nil => rfl
  | cons turn turns ih =>
      have hfirst (device : Device) (hread) : turn ≠ .act (.use device) hread := by
        rintro rfl
        exact huse device hread List.mem_cons_self
      have hlater (device : Device) (hread) : .act (.use device) hread ∉ turns :=
        fun hmem => huse device hread (List.mem_cons_of_mem _ hmem)
      obtain ⟨hstays, hstill, hinbound⟩ := inbound_momentsIn hopen hfar hfirst
      rw [hinbound, ih hstays hstill hlater, gather, List.filterMap_append, List.append_assoc]
      rfl

/-- A pump that is given enough reads goes on until it has to wait or ends. -/
theorem pumpOnce_pumpFor {reads : Nat} (hreads : translator.device.inbound.length < reads)
    (now : Nat) : (pumpFor reads translator now).pumpOnce now = none := by
  induction reads generalizing translator with
  | zero => exact absurd hreads (Nat.not_lt_zero _)
  | succ reads ih =>
      have hidle (idle : Translator) (hended : idle.pumping = false) (count : Nat) :
          (pumpFor count idle now).pumpOnce now = none := by
        have honce : idle.pumpOnce now = none := by simp [pumpOnce, hended]
        cases count with
        | zero => exact honce
        | succ count => rw [pumpFor, honce]; exact honce
      rw [pumpFor]
      cases honce : translator.pumpOnce now with
      | none => exact honce
      | some next =>
          have hread : ∀ bytes later, Act.read now ≠ .process bytes later := by simp
          rcases translator.momentsIn_read now hread with
            ⟨-, hnone⟩ | ⟨result, device, hoffered, hpumping, -, hsome⟩
          · rw [hnone] at honce
            cases honce
          · rw [hsome] at honce
            cases honce
            rcases Device.offers_cases hoffered with ⟨rfl, -⟩ | ⟨rest, hinbound, rfl⟩
            · have hends : Moment.Ends (.read (.error .deviceClosed) now) none := .closed rfl
              have hwaits : ({ translator with device }).pumping = true := hpumping
              exact hidle _ (undergo_ends hwaits hends).1 reads
            · apply ih
              have hwritten := (written_read { translator with
                device := { translator.device with inbound := rest } } result now).inbound
              rw [hinbound, List.length_cons] at hreads
              rw [hwritten]
              exact Nat.lt_of_succ_lt_succ hreads

/-! ## The law of a run -/

/-- What a run makes of what the reads of the pump come to. -/
structure Consumes (start : Translator) (moments : List Moment) : Prop where
  /-- As long as nothing ends it the pump goes on. It handles each packet that it reads, once and in
  order, as just the octets of that read, and reports no failure of the device. -/
  goesOn : start.pumping = true → (∀ moment ∈ moments, ∀ fault?, ¬moment.Ends fault?) →
    (start.through moments).pumping = true ∧
      start.handled moments = moments.filterMap (Moment.packet? start.buffer.length) ∧
      (start.through moments).deviceFaults = start.deviceFaults
  /-- The first thing that ends it does so at once and for good, whatever comes after. The packets
  that are handled are those read before, and the failure, if it is to be reported, is reported
  once. -/
  ends : ∀ (before after : List Moment) (last : Moment) (fault? : Option DeviceError),
    moments = before ++ last :: after → start.pumping = true →
    (∀ moment ∈ before, ∀ fault?, ¬moment.Ends fault?) → last.Ends fault? →
    (start.through before).pumping = true ∧
      (start.through (before ++ [last])).pumping = false ∧
      (start.through moments).pumping = false ∧
      start.handled moments = before.filterMap (Moment.packet? start.buffer.length) ∧
      (start.through moments).deviceFaults = start.deviceFaults ++ fault?.toList
  /-- A pump that has ended before does nothing. -/
  ended : start.pumping = false →
    (start.through moments).pumping = false ∧ start.handled moments = [] ∧
      (start.through moments).deviceFaults = start.deviceFaults
  /-- A pump at work handles the next packet before anything else happens. -/
  handles : (start.through moments).pumping = true → ∀ (packet : Octets) (now : Nat),
    ∃ buffer, (start.through moments).undergo (.read (.ok packet) now) =
      (((start.through moments).withBuffer buffer).record .read).process
        (packet.take start.buffer.length) now
  /-- A failure that is transient changes nothing. -/
  passes : ∀ (error : IoError) (now : Nat), error.isTransient = true →
    (start.through moments).undergo (.read (.error error) now) = start.through moments
  /-- Nothing depends on what the buffer held before. -/
  blind : ∀ buffer : Octets, buffer.length = start.buffer.length →
    ∃ left, (start.withBuffer buffer).through moments = (start.through moments).withBuffer left

/-- How the reads of a run come about. -/
structure Draws (start : Translator) (turns : List Turn) : Prop where
  /-- Each read that does not have to wait comes to what the device offers. -/
  through : start.through (start.gather momentsIn turns) = start.afterTurns turns
  /-- The packets of the run are those that the pump handles. -/
  handled : start.handled (start.gather momentsIn turns) = start.gather packetsIn turns
  /-- As long as nobody else uses a device that is open, the reads bring what it had queued, in that
  order, each thing once. -/
  order : start.device.closed = false → start.device.farGone = false →
    (∀ device hread, .act (.use device) hread ∉ turns) →
    start.device.inbound = (start.gather momentsIn turns).filterMap Moment.result? ++
      (start.afterTurns turns).device.inbound
  /-- A device that is closed may offer that, or what it still has queued. Either way the read is
  one that a run can have. -/
  offered : (start.afterTurns turns).pumping = true →
    ∀ reception ∈ (start.afterTurns turns).device.receptions (start.afterTurns turns).buffer,
    ∀ now, ∃ result,
      { start.afterTurns turns with device := reception.2 }.afterRead reception.1 now =
        { start.afterTurns turns with device := reception.2 }.undergo (.read result now)
  /-- A pump that runs reads on until it has to wait or ends. -/
  drains : ∀ now, ((start.afterTurns turns).pump now).pumpOnce now = none

/-- Whatever the reads of a device come to and whenever a shutdown comes: the pump handles just the
packets that it reads until it ends, and it ends at the shutdown, at the first failure that says
that the device was closed, or at the first other failure that is not transient. Only the last is
reported. -/
theorem consumes_and_draws (start : Translator) :
    (∀ moments, start.Consumes moments) ∧ ∀ turns, start.Draws turns := by
  constructor
  · intro moments
    constructor
    case goesOn =>
      intro hpumping hgoes
      obtain ⟨hundisturbed, hhandled⟩ := start.through_of_goes hgoes
      exact ⟨hundisturbed.pumping.trans hpumping, hhandled hpumping, hundisturbed.faults⟩
    case ends =>
      intro before after last fault? hmoments hpumping hgoes hends
      obtain ⟨hundisturbed, hhandled⟩ := start.through_of_goes hgoes
      have hbefore := hundisturbed.pumping.trans hpumping
      obtain ⟨hlast, hfault, hnone⟩ := undergo_ends hbefore hends
      obtain ⟨hafter, hrest, hsame⟩ := through_of_ended hlast after
      have hthrough : start.through moments =
          ((start.through before).undergo last).through after := by
        rw [hmoments, through_append]
        rfl
      refine ⟨hbefore, ?_, ?_, ?_, ?_⟩
      · rw [through_append]
        exact hlast
      · rw [hthrough]
        exact hafter
      · rw [hmoments, handled_append, handled, hnone, hrest, hhandled hpumping]
        exact List.append_nil _
      · rw [hthrough, hsame, hfault, hundisturbed.faults]
    case ended => exact fun hended => through_of_ended hended moments
    case handles =>
      intro hpumping packet now
      have hroom := (start.through_withBuffer rfl moments).1
      rw [undergo_packet hpumping, hroom]
      exact ⟨(start.through moments).buffer.copyInto packet, rfl⟩
    case passes =>
      intro error now htransient
      exact undergo_transient htransient now
    case blind =>
      intro buffer hroom
      exact (start.through_withBuffer hroom moments).2
  · intro turns
    constructor
    case through => exact (start.through_gather turns).1
    case handled => exact (start.through_gather turns).2
    case order =>
      intro hopen hfar huse
      exact inbound_gather hopen hfar huse
    case offered =>
      intro hpumping reception hreception now
      rw [Device.receptions_eq, List.mem_map] at hreception
      obtain ⟨⟨result, device⟩, -, rfl⟩ := hreception
      exact ⟨result, (if_pos hpumping).symm⟩
    case drains => exact fun now => pumpOnce_pumpFor (Nat.lt_succ_self _) now

end Translator

end PortalNat
