import PortalNat.Proofs.Reads.Run

/-!
# The line of readers

The reads that were served, followed by the reads that wait, stand in the order in which they were
posted. No step disturbs this order, so a delivery always ends with the read that has waited
longest, and it ends after it has gone through the queue once, whatever happens in between.
-/

namespace PortalNat

namespace ReadRun

theorem mem_waiting {run : ReadRun} {id : Nat} :
    id ∈ run.waiting ↔ id ∈ run.posted ∧ run.queue.closed = false ∧ id ∉ run.givenUp ∧
      id ∉ run.served.map (·.1) := by
  simp only [waiting, List.mem_filter, decide_eq_true_eq]

theorem waiting_of_closed {run : ReadRun} (hclosed : run.queue.closed = true) :
    run.waiting = [] := by
  simp [waiting, hclosed]

/-- A read that is given up or served leaves the line. -/
theorem waiting_of_gone (run next : ReadRun) (id : Nat) (hposted : next.posted = run.posted)
    (hclosed : next.queue.closed = run.queue.closed)
    (hgone : ∀ other, (other ∉ next.givenUp ∧ other ∉ next.served.map (·.1)) ↔
      other ≠ id ∧ other ∉ run.givenUp ∧ other ∉ run.served.map (·.1)) :
    next.waiting = run.waiting.filter (· ≠ id) := by
  rw [waiting, waiting, hposted, hclosed, List.filter_filter]
  refine List.filter_congr fun other _ => ?_
  rw [← Bool.decide_and]
  exact decide_eq_decide.2 ((and_congr_right' (hgone other)).trans and_left_comm)

theorem waiting_of_giveUp (run : ReadRun) (id : Nat) :
    waiting { run with queue := run.queue.giveUp id, givenUp := run.givenUp ++ [id] } =
      run.waiting.filter (· ≠ id) :=
  waiting_of_gone run _ id rfl rfl fun other => by
    rw [List.mem_append, List.mem_singleton, not_or]
    tauto

/-- A read that is given up no longer waits. -/
theorem waiting_giveUp (posted : List PostedRead) (id : Nat) :
    ((posted.map fun read => if read.id = id then { read with waiting := false } else read).filter
        (·.waiting)).map (·.id) =
      ((posted.filter (·.waiting)).map (·.id)).filter (· ≠ id) := by
  induction posted with
  | nil => rfl
  | cons read posted ih =>
      by_cases hid : read.id = id <;> cases hwaiting : read.waiting <;> simp_all

/-- The reads that were served and then those that wait stand in the order they were posted, and the
queue holds exactly those that wait. -/
structure Lined (run : ReadRun) : Prop where
  fresh : ∀ id ∈ run.posted, id < run.queue.nextRead
  nodup : run.posted.Nodup
  owned : ∀ id ∈ run.givenUp, id ∈ run.posted
  shut : run.queue.closed = true → run.queue.posted = []
  queued : (run.queue.posted.filter (·.waiting)).map (·.id) = run.waiting
  line : (run.served.map (·.1) ++ run.waiting).Sublist run.posted

theorem lined_start : Lined {} := by
  constructor <;> simp [waiting]

namespace Lined

variable {run next : ReadRun} {step : Step}

theorem not_mem_posted (hrun : run.Lined) : run.queue.nextRead ∉ run.posted := fun hmem =>
  absurd (hrun.fresh _ hmem) (Nat.lt_irrefl _)

theorem served_posted (hrun : run.Lined) {id : Nat} (hserved : id ∈ run.served.map (·.1)) :
    id ∈ run.posted :=
  hrun.line.subset (List.mem_append_left _ hserved)

/-- The first read in the queue, if it waits, is the one that waits longest. -/
theorem waiting_eq_cons (hrun : run.Lined) {read : PostedRead} {rest : List PostedRead}
    (hposted : run.queue.posted = read :: rest) (hwaiting : read.waiting = true) :
    run.waiting = read.id :: (rest.filter (·.waiting)).map (·.id) := by
  rw [← hrun.queued, hposted, List.filter_cons_of_pos hwaiting, List.map_cons]

/-- A read that is posted waits behind all others, unless the queue is closed. -/
theorem waiting_post (hrun : run.Lined) :
    waiting { run with queue := run.queue.post.2, posted := run.posted ++ [run.queue.nextRead] } =
      run.waiting ++ if run.queue.closed then [] else [run.queue.nextRead] := by
  have hnew := hrun.not_mem_posted
  have hunserved : run.queue.nextRead ∉ run.served.map (·.1) := fun hserved =>
    hnew (hrun.served_posted hserved)
  have hunowned : run.queue.nextRead ∉ run.givenUp := fun howned => hnew (hrun.owned _ howned)
  simp only [waiting, ReadQueue.closed_post, List.filter_append]
  cases run.queue.closed with
  | true => simp
  | false => simpa using ⟨hunowned, by simpa using hunserved⟩

theorem of_moves (hrun : run.Lined) (hmoves : Moves run step next) : next.Lined := by
  cases hmoves with
  | idle => exact hrun
  | post =>
      constructor
      case fresh =>
        intro id hid
        rw [ReadQueue.nextRead_post]
        rcases List.mem_append.1 hid with hold | hnew
        · exact Nat.lt_succ_of_lt (hrun.fresh id hold)
        · exact Nat.lt_succ_of_le (List.mem_singleton.1 hnew).le
      case nodup =>
        exact List.nodup_append_comm.1 (List.nodup_cons.2 ⟨hrun.not_mem_posted, hrun.nodup⟩)
      case owned => exact fun id hid => List.mem_append_left _ (hrun.owned id hid)
      case shut =>
        intro hclosed
        rw [ReadQueue.closed_post] at hclosed
        rw [ReadQueue.post_of_closed hclosed]
        exact hrun.shut hclosed
      case queued =>
        rw [hrun.waiting_post, ← hrun.queued]
        cases hclosed : run.queue.closed with
        | true => simp [ReadQueue.post_of_closed hclosed]
        | false => simp [ReadQueue.post_of_open hclosed]
      case line =>
        rw [hrun.waiting_post, ← List.append_assoc]
        refine hrun.line.append ?_
        split_ifs
        · exact List.nil_sublist _
        · exact List.Sublist.refl _
  | @giveUp id hflight =>
      have hwaiting := waiting_of_giveUp run id
      constructor
      case fresh => exact hrun.fresh
      case nodup => exact hrun.nodup
      case owned =>
        intro other hother
        rcases List.mem_append.1 hother with hold | hnew
        · exact hrun.owned other hold
        · exact List.mem_singleton.1 hnew ▸ hflight.1
      case shut =>
        intro hclosed
        simp [ReadQueue.giveUp, hrun.shut hclosed]
      case queued => rw [hwaiting, ← hrun.queued, ← waiting_giveUp]; rfl
      case line =>
        rw [hwaiting]
        exact (List.filter_sublist.append_left _).trans hrun.line
  | wake hflight hresult => exact { hrun with }
  | close =>
      have hwaiting : waiting { run with queue := run.queue.close } = [] :=
        waiting_of_closed rfl
      exact
        { fresh := hrun.fresh
          nodup := hrun.nodup
          owned := hrun.owned
          shut := fun _ => rfl
          queued := hwaiting.symm
          line := by
            rw [hwaiting, List.append_nil]
            exact (List.sublist_append_left _ _).trans hrun.line }
  | refuse datagram hclosed => exact { hrun with }
  | deliver datagram hfree hopen => exact { hrun with }
  | miss hoffered hposted => exact { hrun with }
  | pass hoffered hposted hwaits =>
      refine { hrun with shut := fun hclosed => ?_, queued := ?_ }
      · rw [hrun.shut hclosed] at hposted
        cases hposted
      · have hqueued := hrun.queued
        rwa [hposted, List.filter_cons_of_neg (by simp [hwaits])] at hqueued
  | @serve datagram read rest hoffered hposted hwaits =>
      have hline := hrun.waiting_eq_cons hposted hwaits
      have hnodup : (read.id :: (rest.filter (·.waiting)).map (·.id)).Nodup :=
        hline ▸ hrun.nodup.filter _
      have hwaiting : (run.serve read.id rest datagram).waiting =
          (rest.filter (·.waiting)).map (·.id) := by
        rw [waiting_of_gone run (run.serve read.id rest datagram) read.id rfl rfl, hline,
          List.filter_cons_of_neg (by simp)]
        · exact List.filter_eq_self.2 fun other hother => by
            simpa using ne_of_mem_of_not_mem hother (List.nodup_cons.1 hnodup).1
        · intro other
          rw [serve, List.map_append, List.mem_append, List.map_singleton, List.mem_singleton,
            not_or]
          tauto
      refine { hrun with shut := fun hclosed => ?_, queued := hwaiting.symm, line := ?_ }
      · rw [hrun.shut hclosed] at hposted
        cases hposted
      · rw [hwaiting, serve, List.map_append, List.append_assoc]
        have hsorted := hrun.line
        rwa [hline] at hsorted

end Lined

/-! ## Deliveries -/

section

variable {run next : ReadRun} {step : Step}

theorem closed_of_moves (hmoves : Moves run step next) (hclosed : run.queue.closed = true) :
    next.queue.closed = true := by
  cases hmoves with
  | post => exact (ReadQueue.closed_post run.queue).trans hclosed
  | close => rfl
  | _ => exact hclosed

theorem givenUp_of_moves (hmoves : Moves run step next) {id : Nat} (hgiven : id ∈ run.givenUp) :
    id ∈ next.givenUp := by
  cases hmoves with
  | giveUp => exact List.mem_append_left _ hgiven
  | _ => exact hgiven

/-- A datagram is handed out only as its delivery ends. It is taken if a read waits, by the one that
was posted first. -/
theorem Lined.delivery (hrun : run.Lined) (hmoves : Moves run step next) :
    (next.ended = run.ended ∧ next.served = run.served) ∨
      ∃ datagram taken, (step = .deliver datagram ∨ run.offered? = some datagram) ∧
        next.ended = run.ended ++ [(datagram, taken)] ∧
        (taken = true ↔ run.waiting ≠ []) ∧
        next.served = run.served ++ (run.waiting.head?.map (·, datagram)).toList := by
  cases hmoves with
  | refuse datagram hclosed =>
      have hnone := waiting_of_closed hclosed
      exact .inr ⟨datagram, false, .inl rfl, rfl, by simp [hnone], by simp [hnone]⟩
  | @miss datagram hoffered hposted =>
      have hnone : run.waiting = [] := by rw [← hrun.queued, hposted]; rfl
      exact .inr ⟨datagram, false, .inr hoffered, rfl, by simp [hnone], by simp [hnone]⟩
  | @serve datagram read rest hoffered hposted hwaits =>
      have hline := hrun.waiting_eq_cons hposted hwaits
      exact .inr ⟨datagram, true, .inr hoffered, rfl, by simp [hline], by simp [hline, serve]⟩
  | _ => exact .inl ⟨rfl, rfl⟩

/-- A read that gets a datagram later has not been given up, and the queue is open. -/
theorem Lined.mem_served_further (hrun : run.Lined) (steps : List Step)
    {id : Nat} {datagram : Datagram} (hserved : (id, datagram) ∈ (run.further steps).served) :
    (id, datagram) ∈ run.served ∨ id ∉ run.givenUp := by
  induction steps generalizing run with
  | nil => exact .inl hserved
  | cons step steps ih =>
      have hmoves := run.moves step
      rcases ih (hrun.of_moves hmoves) hserved with hmem | hgiven
      · rcases hrun.delivery hmoves with ⟨-, hsame⟩ | ⟨_, _, -, -, -, hmore⟩
        · exact .inl (hsame ▸ hmem)
        · rw [hmore] at hmem
          rcases List.mem_append.1 hmem with hold | hnew
          · exact .inl hold
          · obtain ⟨first, hfirst, hpair⟩ := Option.map_eq_some_iff.1 (Option.mem_toList.1 hnew)
            cases hpair
            exact .inr (mem_waiting.1 (List.mem_of_mem_head? hfirst)).2.2.1
      · exact .inr fun hmem => hgiven (givenUp_of_moves hmoves hmem)

theorem Lined.further_of_closed (hrun : run.Lined)
    (hclosed : run.queue.closed = true) (steps : List Step) :
    (run.further steps).queue.closed = true ∧ (run.further steps).served = run.served := by
  induction steps generalizing run with
  | nil => exact ⟨hclosed, rfl⟩
  | cons step steps ih =>
      have hmoves := run.moves step
      have hsame : (run.apply step).served = run.served := by
        rcases hrun.delivery hmoves with ⟨-, hsame⟩ | ⟨_, _, -, -, -, hmore⟩
        · exact hsame
        · simpa [waiting_of_closed hclosed] using hmore
      exact hsame ▸ ih (hrun.of_moves hmoves) (closed_of_moves hmoves hclosed)

theorem ended_prefix (run : ReadRun) (steps : List Step) :
    run.ended <+: (run.further steps).ended := by
  induction steps generalizing run with
  | nil => exact List.prefix_rfl
  | cons step steps ih =>
      refine List.IsPrefix.trans ?_ (ih (run.apply step))
      have hmoves := run.moves step
      generalize run.apply step = next at hmoves
      cases hmoves <;> first | exact List.prefix_rfl | exact List.prefix_append _ _

/-- While a datagram is offered, nobody adds a read to the queue, and an offer takes one off it or
ends the delivery. -/
theorem apply_of_offered {datagram : Datagram} (hoffered : run.offered? = some datagram)
    (step : Step) :
    ((run.apply step).offered? = some datagram ∧ (run.apply step).ended = run.ended ∧
      (run.apply step).queue.posted.length + [step].count .offer ≤ run.queue.posted.length) ∨
    ∃ taken, (run.apply step).ended = run.ended ++ [(datagram, taken)] := by
  cases step with
  | giveUp id =>
      rw [apply]
      split_ifs <;> exact .inl ⟨hoffered, rfl, by simp [ReadQueue.giveUp]⟩
  | wake id =>
      rw [apply]
      split_ifs
      · cases run.queue.outcome? id <;> exact .inl ⟨hoffered, rfl, by simp [ReadQueue.collect]⟩
      · exact .inl ⟨hoffered, rfl, by simp⟩
  | offer =>
      cases hposted : run.queue.posted with
      | nil => exact .inr ⟨false, by rw [apply_offer_of_nil hoffered hposted]⟩
      | cons read rest =>
          cases hwaits : read.waiting with
          | false =>
              rw [apply_offer_of_gone hoffered hposted hwaits]
              exact .inl ⟨hoffered, rfl, by simp⟩
          | true =>
              exact .inr ⟨true, by rw [apply_offer_of_waiting hoffered hposted hwaits, serve]⟩
  | _ => exact .inl (by simp [apply, hoffered])

/-- A delivery ends once it has offered its datagram to all reads in the queue, whatever happens in
between. -/
theorem exists_ended {datagram : Datagram} (steps : List Step)
    (hoffered : run.offered? = some datagram)
    (hoffers : run.queue.posted.length < steps.count .offer) :
    ∃ taken, run.ended ++ [(datagram, taken)] <+: (run.further steps).ended := by
  induction steps generalizing run with
  | nil => cases hoffers
  | cons step steps ih =>
      rcases apply_of_offered hoffered step with ⟨hstill, hunended, hlength⟩ | ⟨taken, hended⟩
      · have hleft : (run.apply step).queue.posted.length < steps.count .offer := by
          rw [← List.singleton_append, List.count_append] at hoffers
          omega
        exact hunended ▸ ih hstill hleft
      · exact ⟨taken, hended ▸ ended_prefix (run.apply step) steps⟩

/-- A delivery that nothing interrupts is one of the queue. -/
theorem further_offer {datagram : Datagram} {offers : Nat} (hoffered : run.offered? = some datagram)
    (hopen : run.queue.closed = false) (hoffers : run.queue.posted.length < offers) :
    (run.further (List.replicate offers .offer)).queue = (run.queue.deliver datagram).2 ∧
      (run.further (List.replicate offers .offer)).ended =
        run.ended ++ [(datagram, (run.queue.deliver datagram).1)] := by
  have hidle (done : ReadRun) (hfree : done.offered? = none) (rest : Nat) :
      done.further (List.replicate rest .offer) = done := by
    induction rest with
    | zero => rfl
    | succ rest ih => rwa [List.replicate_succ, further, List.foldl_cons, apply, hfree]
  induction offers generalizing run with
  | zero => exact absurd hoffers (Nat.not_lt_zero _)
  | succ offers ih =>
      rw [ReadQueue.deliver_eq_offer hopen, List.replicate_succ, further, List.foldl_cons]
      change (further _ _).queue = _ ∧ (further _ _).ended = _
      cases hposted : run.queue.posted with
      | nil =>
          rw [apply_offer_of_nil hoffered hposted, ReadQueue.offer_of_nil hposted, hidle _ rfl]
          exact ⟨rfl, rfl⟩
      | cons read rest =>
          cases hwaits : read.waiting with
          | false =>
              rw [apply_offer_of_gone hoffered hposted hwaits,
                ReadQueue.offer_of_gone hposted hwaits]
              rw [hposted] at hoffers
              exact ih hoffered hopen (Nat.lt_of_succ_lt_succ hoffers)
          | true =>
              rw [apply_offer_of_waiting hoffered hposted hwaits,
                ReadQueue.offer_of_waiting hposted hwaits, hidle _ rfl]
              exact ⟨rfl, rfl⟩

end

end ReadRun

end PortalNat
