import PortalNat.Proofs.Reads.Line

/-!
# Reads in order

What a read comes to is settled by its place in the line and by when the queue is closed. From the
order of the line and from what the queue keeps for each reader follows the law of every run: the
oldest read that waits gets the datagram, no other does, and whoever is served returns that datagram
even if the queue is closed meanwhile.
-/

namespace PortalNat

namespace ReadRun

section

variable {run next : ReadRun} {step : Step}

/-- A read may return this: the datagram that it got, or that the queue was closed before it got
any. -/
def Answers (run : ReadRun) (id : Nat) : Except UdpError Datagram → Prop
  | .ok datagram => (id, datagram) ∈ run.served
  | .error error =>
    error = .closed ∧ run.queue.closed = true ∧ id ∉ run.served.map (·.1)

/-- The queue keeps a datagram for its reader until that returns or gives up, and what was returned
agrees with what was handed out. -/
structure Recorded (run : ReadRun) : Prop where
  lined : run.Lined
  kept : run.queue.served = run.served.filter fun read =>
    read.1 ∉ run.givenUp ∧ read.1 ∉ run.returned.map (·.1)
  arrivals : run.served.map (·.2) = (run.ended.filter (·.2)).map (·.1)
  once : (run.returned.map (·.1)).Nodup
  answers : ∀ id result, (id, result) ∈ run.returned → run.Answers id result

theorem recorded_start : Recorded {} :=
  ⟨lined_start, rfl, rfl, List.nodup_nil, fun _ _ hmem => absurd hmem List.not_mem_nil⟩

theorem lookup_filter {p : Nat → Prop} [DecidablePred p] (served : List (Nat × Datagram))
    (id : Nat) :
    (served.filter fun read => p read.1).lookup id = if p id then served.lookup id else none := by
  induction served with
  | nil => simp
  | cons read served ih =>
      rcases read with ⟨other, datagram⟩
      by_cases hother : id = other
      · subst hother
        by_cases hp : p id <;> simp [hp, ih]
      · have hbeq : (id == other) = false := beq_false_of_ne hother
        by_cases hp : p other <;> simp [hp, ih, List.lookup_cons, hbeq]

theorem mem_of_lookup {served : List (Nat × Datagram)} {id : Nat} {datagram : Datagram}
    (hlookup : served.lookup id = some datagram) : (id, datagram) ∈ served := by
  obtain ⟨before, after, rfl, -⟩ := List.lookup_eq_some_iff.1 hlookup
  simp

theorem not_mem_of_lookup {served : List (Nat × Datagram)} {id : Nat}
    (hlookup : served.lookup id = none) : id ∉ served.map (·.1) := by
  intro hmem
  obtain ⟨read, hread, rfl⟩ := List.mem_map.1 hmem
  simpa using List.lookup_eq_none_iff.1 hlookup read hread

namespace Recorded

/-- What a read comes to: the datagram that was handed to it, or else a failure once the queue is
closed. -/
theorem outcome? (hrun : run.Recorded) {id : Nat} (hflight : run.InFlight id) :
    run.queue.outcome? id =
      match run.served.lookup id with
      | some datagram => some (.ok datagram)
      | none => if run.queue.closed then some (.error .closed) else none := by
  have hlookup : run.queue.served.lookup id = run.served.lookup id := by
    rw [hrun.kept, lookup_filter (p := fun id => id ∉ run.givenUp ∧ id ∉ run.returned.map (·.1)),
      if_pos hflight.2]
  rw [ReadQueue.outcome?, hlookup]
  cases hserved : run.served.lookup id with
  | some datagram => rfl
  | none =>
      cases hclosed : run.queue.closed with
      | true => simp [hrun.lined.shut hclosed]
      | false =>
          have hunserved := not_mem_of_lookup hserved
          have hmem : id ∈ run.waiting := mem_waiting.2 ⟨hflight.1, hclosed, hflight.2.1, hunserved⟩
          rw [← hrun.lined.queued] at hmem
          obtain ⟨read, hread, rfl⟩ := List.mem_map.1 hmem
          have hany : (run.queue.posted.any (·.id == read.id)) = true :=
            List.any_eq_true.2 ⟨read, List.mem_of_mem_filter hread, beq_self_eq_true _⟩
          simp [hany]

theorem answers_of_outcome? (hrun : run.Recorded) {id : Nat} {result : Except UdpError Datagram}
    (hflight : run.InFlight id) (hresult : run.queue.outcome? id = some result) :
    run.Answers id result := by
  rw [hrun.outcome? hflight] at hresult
  cases hserved : run.served.lookup id with
  | some datagram =>
      rw [hserved] at hresult
      cases hresult
      exact mem_of_lookup hserved
  | none =>
      rw [hserved] at hresult
      cases hclosed : run.queue.closed with
      | true =>
          rw [hclosed] at hresult
          cases hresult
          exact ⟨rfl, hclosed, not_mem_of_lookup hserved⟩
      | false =>
          rw [hclosed] at hresult
          cases hresult

theorem answers_of_moves (hrun : run.Recorded) (hmoves : Moves run step next) {id : Nat}
    {result : Except UdpError Datagram} (hanswers : run.Answers id result) :
    next.Answers id result := by
  have hserved : ∃ more, next.served = run.served ++ more ∧ (run.waiting = [] → more = []) := by
    rcases hrun.lined.delivery hmoves with ⟨-, hsame⟩ | ⟨datagram, taken, -, -, -, hmore⟩
    · exact ⟨[], by simpa using hsame, fun _ => rfl⟩
    · exact ⟨_, hmore, fun hnone => by simp [hnone]⟩
  obtain ⟨more, hmore, hnone⟩ := hserved
  cases result with
  | ok datagram =>
      rw [Answers, hmore]
      exact List.mem_append_left _ hanswers
  | error error =>
      obtain ⟨herror, hclosed, hunserved⟩ := hanswers
      refine ⟨herror, closed_of_moves hmoves hclosed, ?_⟩
      rwa [hmore, hnone (waiting_of_closed hclosed), List.append_nil]

/-- A read that waits has not returned. -/
theorem not_returned_of_waiting (hrun : run.Recorded) {id : Nat} (hwaiting : id ∈ run.waiting) :
    id ∉ run.returned.map (·.1) := by
  intro hmem
  obtain ⟨-, hopen, -, hunserved⟩ := mem_waiting.1 hwaiting
  obtain ⟨⟨other, result⟩, hreturned, rfl⟩ := List.mem_map.1 hmem
  have hanswers := hrun.answers other result hreturned
  cases result with
  | ok datagram => exact hunserved (List.mem_map.2 ⟨_, hanswers, rfl⟩)
  | error error => exact absurd (hopen.symm.trans hanswers.2.1) Bool.false_ne_true

theorem of_moves (hrun : run.Recorded) (hmoves : Moves run step next) : next.Recorded := by
  have hlined := hrun.lined.of_moves hmoves
  have hanswers (id : Nat) (result : Except UdpError Datagram)
      (hmem : (id, result) ∈ run.returned) : next.Answers id result :=
    hrun.answers_of_moves hmoves (hrun.answers id result hmem)
  cases hmoves with
  | idle => exact hrun
  | post =>
      exact { hrun with
        lined := hlined
        kept := (ReadQueue.served_post run.queue).trans hrun.kept
        answers := hanswers }
  | @giveUp id hflight =>
      refine { hrun with lined := hlined, kept := ?_, answers := hanswers }
      change run.queue.served.filter _ = _
      rw [hrun.kept, List.filter_filter]
      refine List.filter_congr fun read _ => ?_
      rw [Bool.eq_iff_iff]
      simp
      tauto
  | @wake id result hflight hresult =>
      refine
        { lined := hlined
          kept := ?_
          arrivals := hrun.arrivals
          once := ?_
          answers := ?_ }
      · change run.queue.served.filter _ = _
        rw [hrun.kept, List.filter_filter]
        refine List.filter_congr fun read _ => ?_
        rw [Bool.eq_iff_iff]
        simp
        tauto
      · rw [List.map_append, List.map_singleton]
        exact List.nodup_append_comm.1 (List.nodup_cons.2 ⟨hflight.2.2, hrun.once⟩)
      · intro other answer hmem
        rcases List.mem_append.1 hmem with hold | hnew
        · exact hanswers other answer hold
        · cases List.mem_singleton.1 hnew
          exact hrun.answers_of_moves (.wake hflight hresult)
            (hrun.answers_of_outcome? hflight hresult)
  | close => exact { hrun with lined := hlined, answers := hanswers }
  | refuse datagram hclosed =>
      exact { hrun with
        lined := hlined
        arrivals := by simpa [List.filter_append] using hrun.arrivals
        answers := hanswers }
  | deliver datagram hfree hopen => exact { hrun with lined := hlined, answers := hanswers }
  | miss hoffered hposted =>
      exact { hrun with
        lined := hlined
        arrivals := by simpa [List.filter_append] using hrun.arrivals
        answers := hanswers }
  | pass hoffered hposted hwaits => exact { hrun with lined := hlined, answers := hanswers }
  | @serve datagram read rest hoffered hposted hwaits =>
      have hwaiting : read.id ∈ run.waiting := by
        rw [hrun.lined.waiting_eq_cons hposted hwaits]
        exact List.mem_cons_self
      have hkept : read.id ∉ run.givenUp ∧ read.id ∉ run.returned.map (·.1) :=
        ⟨(mem_waiting.1 hwaiting).2.2.1, hrun.not_returned_of_waiting hwaiting⟩
      refine { hrun with lined := hlined, kept := ?_, arrivals := ?_, answers := hanswers }
      · rw [serve, List.filter_append, ← hrun.kept, List.filter_cons_of_pos (by simpa using hkept),
          List.filter_nil]
      · simp [serve, hrun.arrivals]

end Recorded

end

theorem recorded_after (steps : List Step) : (after steps).Recorded :=
  after_induction recorded_start (fun run step hrun => hrun.of_moves (run.moves step)) steps

/-! ## The law of the line -/

/-- What holds after every run of a queue, however reads are posted, given up and answered while
datagrams come in and the queue is closed. -/
structure Orderly (run : ReadRun) : Prop where
  /-- Every read is told apart from all others. -/
  nodup : run.posted.Nodup
  /-- A datagram is handed out only as its delivery ends. It is taken if a read waits, by the read
  that was posted first, and reaches no read otherwise. -/
  delivery : ∀ step,
    ((run.apply step).ended = run.ended ∧ (run.apply step).served = run.served) ∨
      ∃ datagram taken, (step = .deliver datagram ∨ run.offered? = some datagram) ∧
        (run.apply step).ended = run.ended ++ [(datagram, taken)] ∧
        (taken = true ↔ run.waiting ≠ []) ∧
        (run.apply step).served =
          run.served ++ (run.waiting.head?.map (·, datagram)).toList
  /-- A delivery ends once it has gone through the reads in the queue, whatever comes in between. -/
  ends : ∀ datagram steps, run.offered? = some datagram →
    run.queue.posted.length < steps.count .offer →
      ∃ taken, run.ended ++ [(datagram, taken)] <+: (run.further steps).ended
  /-- A delivery that nothing comes in between is one of the queue. -/
  whole : ∀ datagram offers, run.offered? = some datagram → run.queue.closed = false →
    run.queue.posted.length < offers →
      (run.further (List.replicate offers .offer)).queue = (run.queue.deliver datagram).2 ∧
        (run.further (List.replicate offers .offer)).ended =
          run.ended ++ [(datagram, (run.queue.deliver datagram).1)]
  /-- Reads are served in the order they were posted, each at most once. -/
  inOrder : (run.served.map (·.1)).Sublist run.posted
  /-- The datagrams that were taken are handed out in the order they came, each to one read. -/
  arrivals : run.served.map (·.2) = (run.ended.filter (·.2)).map (·.1)
  /-- A read that is given up before it is served never gets a datagram. -/
  spared : ∀ id ∈ run.givenUp, ∀ steps datagram,
    (id, datagram) ∈ (run.further steps).served → (id, datagram) ∈ run.served
  /-- Once the queue is closed, it stays closed and no datagram is taken. -/
  closed : run.queue.closed = true → ∀ steps,
    (run.further steps).queue.closed = true ∧ (run.further steps).served = run.served
  /-- A read finds the datagram that was handed to it, also after the queue is closed. Any other
  read finds the queue closed, or waits. -/
  outcome : ∀ id, run.InFlight id →
    run.queue.outcome? id =
      match run.served.lookup id with
      | some datagram => some (.ok datagram)
      | none => if run.queue.closed then some (.error .closed) else none
  /-- A read returns what it finds. -/
  wakes : ∀ id, run.InFlight id →
    (run.apply (.wake id)).returned =
      run.returned ++ ((run.queue.outcome? id).map (id, ·)).toList
  /-- No read returns twice. -/
  once : (run.returned.map (·.1)).Nodup
  /-- What was returned is what was handed out, or else that the queue was closed. -/
  answers : ∀ id result, (id, result) ∈ run.returned → run.Answers id result

theorem returned_wake {run : ReadRun} {id : Nat} (hflight : run.InFlight id) :
    (run.apply (.wake id)).returned =
      run.returned ++ ((run.queue.outcome? id).map (id, ·)).toList := by
  rw [apply, if_pos hflight]
  cases run.queue.outcome? id <;> simp

/-- Over every run, each datagram goes to the oldest read that waits or to nobody, and every read
returns its datagram or that the queue was closed. A read into a buffer fills it with as much of the
payload as it has room for and leaves the rest. -/
theorem reads_in_line (steps : List Step) :
    (after steps).Orderly ∧ ∀ (datagram : Datagram) (buffer : Octets),
      datagram.readInto buffer =
        ((min datagram.payload.length buffer.length, datagram.source, datagram.destination),
          datagram.payload.take (min datagram.payload.length buffer.length) ++
            buffer.drop (min datagram.payload.length buffer.length)) := by
  have hrun := recorded_after steps
  generalize after steps = run at hrun
  constructor
  case left =>
    exact
      { nodup := hrun.lined.nodup
        delivery := fun step => hrun.lined.delivery (run.moves step)
        ends := fun _ steps => exists_ended steps
        whole := fun _ _ => further_offer
        inOrder := (List.sublist_append_left _ _).trans hrun.lined.line
        arrivals := hrun.arrivals
        spared := fun id hgiven steps datagram hserved =>
          (hrun.lined.mem_served_further steps hserved).resolve_right (not_not_intro hgiven)
        closed := hrun.lined.further_of_closed
        outcome := fun _ => hrun.outcome?
        wakes := fun _ => returned_wake
        once := hrun.once
        answers := hrun.answers }
  case right =>
    intro datagram buffer
    simp [Datagram.readInto, Device.received, Octets.copyInto, Octets.overwrite, Nat.min_comm,
      List.take_eq_take_iff]

/-- The first of two readers goes while a datagram is offered, and the queue is closed before the
second one wakes up. The second one still returns the datagram. -/
example (datagram : Datagram) :
    (after [.post, .post, .deliver datagram, .giveUp 0, .offer, .offer, .close, .wake 1]).returned =
      [(1, .ok datagram)] := rfl

end ReadRun

end PortalNat
