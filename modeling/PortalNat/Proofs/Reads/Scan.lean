import PortalNat.Proofs.Reads.Line

/-!
# Scans of a queue of reads

A queue is gone through before a read is posted, to take out the reads that were given up, and when
somebody asks how many reads wait. Both keep the queue locked from the first read to the last.
Giving a read up takes no lock, so it may fall between two looks of one scan. A run of this module
takes the steps of a run of the queue, in which a read is posted at one stroke, and scans that look
at one read after the other.
-/

namespace PortalNat

namespace ReadRun

/-- A step that takes the lock of the queue or holds it already. -/
def Step.locks : Step → Bool
  | .giveUp _ | .wake _ => false
  | _ => true

def withPosted (run : ReadRun) (posted : List PostedRead) : ReadRun :=
  { run with queue := { run.queue with posted } }

def push (run : ReadRun) : ReadRun :=
  { run with
    queue :=
      { run.queue with
        posted := run.queue.posted ++ [⟨run.queue.nextRead, true⟩]
        nextRead := run.queue.nextRead + 1 }
    posted := run.posted ++ [run.queue.nextRead] }

end ReadRun

/-- What a queue is gone through for, and how far that has come. -/
inductive Scan where
  /-- A read is posted. So many reads were looked at and kept. -/
  | post (kept : Nat)
  /-- The reads that wait are counted. So many were looked at, and so many of these waited. -/
  | count (seen found : Nat)
deriving DecidableEq

structure ScanRun where
  reads : ReadRun := {}
  /-- The scan that is going on. It keeps the queue locked. -/
  scan? : Option Scan := none
  /-- What the counts came to, the oldest first. -/
  counts : List Nat := []

namespace ScanRun

/-- What can happen at one stroke: a step of the queue, the beginning of a scan, or a look at the
next read of a scan. -/
inductive Step where
  | whole (step : ReadRun.Step)
  | post
  | count
  | look
deriving DecidableEq

def Free (run : ScanRun) : Prop :=
  run.scan? = none ∧ run.reads.offered? = none

instance (run : ScanRun) : Decidable run.Free :=
  inferInstanceAs (Decidable (_ ∧ _))

def look (run : ScanRun) : Scan → ScanRun
  | .post kept =>
    match run.reads.queue.posted.drop kept with
    | [] => { run with reads := run.reads.push, scan? := none }
    | read :: rest =>
      if read.waiting then { run with scan? := some (.post (kept + 1)) }
      else
        { run with reads := run.reads.withPosted (run.reads.queue.posted.take kept ++ rest) }
  | .count seen found =>
    match run.reads.queue.posted.drop seen with
    | [] => { run with scan? := none, counts := run.counts ++ [found] }
    | read :: _ =>
      { run with scan? := some (.count (seen + 1) (if read.waiting then found + 1 else found)) }

section

variable {run : ScanRun} {read : PostedRead} {rest : List PostedRead} {place : Nat}

theorem look_post_of_nil (hleft : run.reads.queue.posted.drop place = []) :
    run.look (.post place) = { run with reads := run.reads.push, scan? := none } := by
  rw [look, hleft]

theorem look_post_of_waiting (hleft : run.reads.queue.posted.drop place = read :: rest)
    (hwaits : read.waiting = true) :
    run.look (.post place) = { run with scan? := some (.post (place + 1)) } := by
  simp only [look, hleft, hwaits, if_true]

theorem look_post_of_gone (hleft : run.reads.queue.posted.drop place = read :: rest)
    (hwaits : read.waiting = false) :
    run.look (.post place) =
      { run with reads := run.reads.withPosted (run.reads.queue.posted.take place ++ rest) } := by
  simp only [look, hleft, hwaits, Bool.false_eq_true, if_false]

theorem look_count_of_nil (hleft : run.reads.queue.posted.drop place = []) (found : Nat) :
    run.look (.count place found) =
      { run with scan? := none, counts := run.counts ++ [found] } := by
  rw [look, hleft]

theorem look_count_of_cons (hleft : run.reads.queue.posted.drop place = read :: rest)
    (found : Nat) :
    run.look (.count place found) =
      { run with
        scan? := some (.count (place + 1) (if read.waiting then found + 1 else found)) } := by
  rw [look, hleft]

end

/-- Take a step. A step that has to wait for the lock does nothing, nor does one that nobody can
take. -/
def apply (run : ScanRun) : Step → ScanRun
  | .whole step =>
    if run.scan?.isSome ∧ step.locks then run else { run with reads := run.reads.apply step }
  | .post =>
    if run.Free ∧ run.reads.queue.closed = false then { run with scan? := some (.post 0) } else run
  | .count => if run.Free then { run with scan? := some (.count 0 0) } else run
  | .look =>
    match run.scan? with
    | none => run
    | some scan => run.look scan

def further (run : ScanRun) (steps : List Step) : ScanRun :=
  steps.foldl apply run

def after (steps : List Step) : ScanRun :=
  further {} steps

theorem after_concat (steps : List Step) (step : Step) :
    after (steps ++ [step]) = (after steps).apply step :=
  List.foldl_concat ..

/-- A run of the queue is one without scans. -/
theorem after_whole (steps : List ReadRun.Step) :
    after (steps.map .whole) = ⟨ReadRun.after steps, none, []⟩ := by
  induction steps using List.reverseRecOn with
  | nil => rfl
  | append_singleton steps step ih =>
      have hlast : ReadRun.after (steps ++ [step]) = (ReadRun.after steps).apply step :=
        List.foldl_concat ..
      rw [List.map_append, List.map_singleton, after_concat, ih, hlast]
      rfl

inductive Moves (run : ScanRun) : Step → ScanRun → Prop
  | idle (step : Step) : Moves run step run
  | whole {step : ReadRun.Step} {next : ReadRun} (hunlocked : run.scan? = none ∨ step.locks = false)
      (hmoves : ReadRun.Moves run.reads step next) :
      Moves run (.whole step) { run with reads := next }
  | post (hfree : run.Free) (hopen : run.reads.queue.closed = false) :
      Moves run .post { run with scan? := some (.post 0) }
  | count (hfree : run.Free) : Moves run .count { run with scan? := some (.count 0 0) }
  | keep {kept : Nat} {read : PostedRead} {rest : List PostedRead}
      (hscan : run.scan? = some (.post kept))
      (hleft : run.reads.queue.posted.drop kept = read :: rest) (hwaits : read.waiting = true) :
      Moves run .look { run with scan? := some (.post (kept + 1)) }
  | remove {kept : Nat} {read : PostedRead} {rest : List PostedRead}
      (hscan : run.scan? = some (.post kept))
      (hleft : run.reads.queue.posted.drop kept = read :: rest) (hwaits : read.waiting = false) :
      Moves run .look
        { run with reads := run.reads.withPosted (run.reads.queue.posted.take kept ++ rest) }
  | push {kept : Nat} (hscan : run.scan? = some (.post kept))
      (hleft : run.reads.queue.posted.drop kept = []) :
      Moves run .look { run with reads := run.reads.push, scan? := none }
  | see {seen found : Nat} {read : PostedRead} {rest : List PostedRead}
      (hscan : run.scan? = some (.count seen found))
      (hleft : run.reads.queue.posted.drop seen = read :: rest) :
      Moves run .look
        { run with
          scan? := some (.count (seen + 1) (if read.waiting then found + 1 else found)) }
  | tell {seen found : Nat} (hscan : run.scan? = some (.count seen found))
      (hleft : run.reads.queue.posted.drop seen = []) :
      Moves run .look { run with scan? := none, counts := run.counts ++ [found] }

/-- While a scan is going on, a step of the queue is one without the lock. -/
theorem unlocked_of_scan {run : ScanRun} {step : ReadRun.Step} {scan : Scan}
    (hunlocked : run.scan? = none ∨ step.locks = false) (hscan : run.scan? = some scan) :
    step.locks = false :=
  hunlocked.resolve_left (ne_of_eq_of_ne hscan (Option.some_ne_none scan))

theorem moves (run : ScanRun) (step : Step) : Moves run step (run.apply step) := by
  cases step with
  | whole step =>
      rw [apply]
      split_ifs with hlocked
      · exact .idle _
      · refine .whole ?_ (run.reads.moves step)
        simpa [imp_iff_not_or] using hlocked
  | post =>
      rw [apply]
      split_ifs with hfree
      · exact .post hfree.1 hfree.2
      · exact .idle _
  | count =>
      rw [apply]
      split_ifs with hfree
      · exact .count hfree
      · exact .idle _
  | look =>
      cases hscan : run.scan? with
      | none =>
          rw [apply, hscan]
          exact .idle _
      | some scan =>
          simp only [apply, hscan]
          cases scan with
          | post kept =>
              cases hleft : run.reads.queue.posted.drop kept with
              | nil =>
                  rw [look_post_of_nil hleft]
                  exact .push hscan hleft
              | cons read rest =>
                  cases hwaits : read.waiting with
                  | true =>
                      rw [look_post_of_waiting hleft hwaits]
                      exact .keep hscan hleft hwaits
                  | false =>
                      rw [look_post_of_gone hleft hwaits]
                      exact .remove hscan hleft hwaits
          | count seen found =>
              cases hleft : run.reads.queue.posted.drop seen with
              | nil =>
                  rw [look_count_of_nil hleft]
                  exact .tell hscan hleft
              | cons read rest =>
                  rw [look_count_of_cons hleft]
                  exact .see hscan hleft

end ScanRun

/-! ## What every step keeps -/

namespace ReadRun

variable {run next : ReadRun} {step : Step}

/-- Only the reads that wait matter for the line. -/
theorem Lined.withPosted (hrun : run.Lined) (posted : List PostedRead)
    (hsame : posted.filter (·.waiting) = run.queue.posted.filter (·.waiting))
    (hshut : run.queue.closed = true → posted = []) : (run.withPosted posted).Lined :=
  { hrun with shut := hshut, queued := (congrArg (List.map (·.id)) hsame).trans hrun.queued }

theorem Lined.push (hrun : run.Lined) (hopen : run.queue.closed = false) : run.push.Lined := by
  have hposted := hrun.of_moves .post
  rw [ReadQueue.post_of_open hopen] at hposted
  refine hposted.withPosted (run.queue.posted ++ [⟨run.queue.nextRead, true⟩]) ?_ ?_
  · simp
  · intro hclosed
    exact absurd (hclosed.symm.trans hopen) Bool.noConfusion

theorem length_of_cons {place : Nat} {read : PostedRead} {rest : List PostedRead}
    (hleft : run.queue.posted.drop place = read :: rest) :
    run.queue.posted.length = place + rest.length + 1 := by
  have hlength := congrArg List.length hleft
  rw [List.length_drop, List.length_cons] at hlength
  omega

/-- A step without the lock leaves every read of the queue in its place, and no read waits that did
not wait before. -/
theorem exists_fading (hmoves : Moves run step next) (hunlocked : step.locks = false) :
    ∃ fade : PostedRead → PostedRead,
      (∀ read, (fade read).id = read.id ∧ ((fade read).waiting = true → read.waiting = true)) ∧
        next.queue.posted = run.queue.posted.map fade := by
  cases hmoves with
  | idle => exact ⟨id, fun _ => ⟨rfl, id⟩, (List.map_id _).symm⟩
  | wake hflight hresult => exact ⟨id, fun _ => ⟨rfl, id⟩, (List.map_id _).symm⟩
  | @giveUp id hflight =>
      refine ⟨_, fun read => ?_, rfl⟩
      by_cases hid : read.id = id <;> simp [hid]
  | _ => cases hunlocked

/-- A read in the queue that does not wait was given up. -/
def WaitOrGone (run : ReadRun) : Prop :=
  ∀ read ∈ run.queue.posted, read.waiting = true ∨ read.id ∈ run.givenUp

theorem WaitOrGone.of_moves (hrun : run.WaitOrGone) (hmoves : Moves run step next) :
    next.WaitOrGone := by
  cases hmoves with
  | post =>
      intro read hread
      cases hclosed : run.queue.closed with
      | true =>
          rw [ReadQueue.post_of_closed hclosed] at hread
          exact hrun read hread
      | false =>
          rw [ReadQueue.post_of_open hclosed] at hread
          rcases List.mem_append.1 hread with hkept | hnew
          · exact .inl (List.mem_filter.1 hkept).2
          · exact .inl (congrArg PostedRead.waiting (List.mem_singleton.1 hnew))
  | @giveUp id hflight =>
      intro read hread
      obtain ⟨former, hformer, rfl⟩ := List.mem_map.1 hread
      by_cases hid : former.id = id
      · rw [if_pos hid, hid]
        exact .inr (List.mem_append_right _ (List.mem_singleton_self id))
      · rw [if_neg hid]
        exact (hrun former hformer).imp_right (List.mem_append_left _)
  | close => exact fun read hread => absurd hread List.not_mem_nil
  | pass hoffered hposted hwaits =>
      exact fun read hread => hrun read (hposted ▸ List.mem_cons_of_mem _ hread)
  | serve hoffered hposted hwaits =>
      exact fun read hread => hrun read (hposted ▸ List.mem_cons_of_mem _ hread)
  | _ => exact hrun

end ReadRun

namespace ScanRun

variable {run next : ScanRun} {step : Step}

/-- The reads stand in line, those in the queue that do not wait were given up, and a queue is open
while a read is posted. -/
structure Sound (run : ScanRun) : Prop where
  lined : run.reads.Lined
  gone : run.reads.WaitOrGone
  posts : ∀ kept, run.scan? = some (.post kept) → run.reads.queue.closed = false

theorem sound_start : Sound {} :=
  ⟨ReadRun.lined_start, fun _ hread => absurd hread List.not_mem_nil, by rintro _ ⟨⟩⟩

theorem Sound.of_moves (hrun : run.Sound) (hmoves : Moves run step next) : next.Sound := by
  cases hmoves with
  | idle => exact hrun
  | @whole step reads hunlocked hmoves =>
      refine ⟨hrun.lined.of_moves hmoves, hrun.gone.of_moves hmoves, ?_⟩
      intro kept hscan
      have hopen := hrun.posts kept hscan
      have hstep := unlocked_of_scan hunlocked hscan
      cases hmoves <;> first | exact hopen | cases hstep
  | post hfree hopen => exact { hrun with posts := fun _ _ => hopen }
  | count hfree => exact { hrun with posts := by rintro _ ⟨⟩ }
  | keep hscan hleft hwaits => exact { hrun with posts := fun _ _ => hrun.posts _ hscan }
  | @remove kept read rest hscan hleft hwaits =>
      have hopen := hrun.posts kept hscan
      have hsplit : run.reads.queue.posted =
          run.reads.queue.posted.take kept ++ read :: rest := by
        rw [← hleft, List.take_append_drop]
      refine ⟨hrun.lined.withPosted _ ?_ ?_, ?_, fun _ _ => hopen⟩
      · conv_rhs => rw [hsplit]
        rw [List.filter_append, List.filter_append, List.filter_cons_of_neg (by simp [hwaits])]
      · exact fun hclosed => absurd (hclosed.symm.trans hopen) Bool.noConfusion
      · intro other hother
        refine hrun.gone other ?_
        rw [hsplit]
        rcases List.mem_append.1 hother with hkept | hrest
        · exact List.mem_append_left _ hkept
        · exact List.mem_append_right _ (List.mem_cons_of_mem _ hrest)
  | push hscan hleft =>
      refine ⟨hrun.lined.push (hrun.posts _ hscan), ?_, by rintro _ ⟨⟩⟩
      intro read hread
      rcases List.mem_append.1 hread with hold | hnew
      · exact hrun.gone read hold
      · exact .inl (congrArg PostedRead.waiting (List.mem_singleton.1 hnew))
  | see hscan hleft => exact { hrun with posts := by rintro _ ⟨⟩ }
  | tell hscan hleft => exact { hrun with posts := by rintro _ ⟨⟩ }

theorem sound_after (steps : List Step) : (after steps).Sound :=
  List.foldlRecOn steps apply sound_start fun run hrun step _ => hrun.of_moves (run.moves step)

/-! ## Scans that nothing comes amid -/

theorem further_look_of_none (hscan : run.scan? = none) (looks : Nat) :
    run.further (List.replicate looks .look) = run := by
  induction looks with
  | zero => rfl
  | succ looks ih => rwa [List.replicate_succ, further, List.foldl_cons, apply, hscan]

section

variable {reads : ReadRun} {counts : List Nat} {front back : List PostedRead} {looks : Nat}

theorem further_look_succ (scan : Scan) (looks : Nat) :
    further ⟨reads, some scan, counts⟩ (List.replicate (looks + 1) .look) =
      further (look ⟨reads, some scan, counts⟩ scan) (List.replicate looks .look) := by
  rw [List.replicate_succ, further, List.foldl_cons]
  rfl

theorem further_look_post (hposted : reads.queue.posted = front ++ back)
    (hlooks : back.length < looks) :
    further ⟨reads, some (.post front.length), counts⟩ (List.replicate looks .look) =
      ⟨(reads.withPosted (front ++ back.filter (·.waiting))).push, none, counts⟩ := by
  induction back generalizing reads front looks with
  | nil =>
      obtain ⟨looks, rfl⟩ := Nat.exists_eq_succ_of_ne_zero (Nat.ne_zero_of_lt hlooks)
      have hleft : reads.queue.posted.drop front.length = [] := by
        rw [hposted, List.drop_left]
      rw [further_look_succ, look_post_of_nil hleft, further_look_of_none rfl, List.filter_nil,
        ← hposted]
      rfl
  | cons read back ih =>
      obtain ⟨looks, rfl⟩ := Nat.exists_eq_succ_of_ne_zero (Nat.ne_zero_of_lt hlooks)
      have hleft : reads.queue.posted.drop front.length = read :: back := by
        rw [hposted, List.drop_left]
      have hrest := Nat.lt_of_succ_lt_succ hlooks
      rw [further_look_succ]
      cases hwaits : read.waiting with
      | true =>
          have hnext : reads.queue.posted = (front ++ [read]) ++ back := by
            rw [hposted, List.append_assoc, List.singleton_append]
          have hplace : front.length + 1 = (front ++ [read]).length := by
            rw [List.length_append, List.length_singleton]
          rw [look_post_of_waiting hleft hwaits, List.filter_cons_of_pos hwaits]
          dsimp only
          rw [hplace, ih hnext hrest, List.append_assoc,
            List.singleton_append]
      | false =>
          have hfront : reads.queue.posted.take front.length = front := by
            rw [hposted, List.take_left]
          rw [look_post_of_gone hleft hwaits, hfront, List.filter_cons_of_neg (by simp [hwaits])]
          dsimp only
          rw [ih rfl hrest]
          rfl

theorem further_look_count {found : Nat} (hposted : reads.queue.posted = front ++ back)
    (hlooks : back.length < looks) :
    further ⟨reads, some (.count front.length found), counts⟩ (List.replicate looks .look) =
      ⟨reads, none, counts ++ [found + back.countP (·.waiting)]⟩ := by
  induction back generalizing front found looks with
  | nil =>
      obtain ⟨looks, rfl⟩ := Nat.exists_eq_succ_of_ne_zero (Nat.ne_zero_of_lt hlooks)
      have hleft : reads.queue.posted.drop front.length = [] := by
        rw [hposted, List.drop_left]
      rw [further_look_succ, look_count_of_nil hleft, further_look_of_none rfl]
      rfl
  | cons read back ih =>
      obtain ⟨looks, rfl⟩ := Nat.exists_eq_succ_of_ne_zero (Nat.ne_zero_of_lt hlooks)
      have hleft : reads.queue.posted.drop front.length = read :: back := by
        rw [hposted, List.drop_left]
      have hnext : reads.queue.posted = (front ++ [read]) ++ back := by
        rw [hposted, List.append_assoc, List.singleton_append]
      have hplace : front.length + 1 = (front ++ [read]).length := by
        rw [List.length_append, List.length_singleton]
      have hfound : (if read.waiting then found + 1 else found) + back.countP (·.waiting) =
          found + (read :: back).countP (·.waiting) := by
        rw [List.countP_cons]
        split_ifs <;> omega
      rw [further_look_succ, look_count_of_cons hleft]
      dsimp only
      rw [hplace, ih hnext (Nat.lt_of_succ_lt_succ hlooks), hfound]

end

/-- A read that is posted without a disturbance is posted as at one stroke. -/
theorem further_post {looks : Nat} (hfree : run.Free) (hopen : run.reads.queue.closed = false)
    (hlooks : run.reads.queue.posted.length < looks) :
    (run.apply .post).further (List.replicate looks .look) = run.apply (.whole .post) := by
  have hbegun : run.apply .post = ⟨run.reads, some (.post 0), run.counts⟩ :=
    if_pos ⟨hfree, hopen⟩
  rw [hbegun]
  refine (further_look_post (List.nil_append _).symm hlooks).trans ?_
  rw [apply, hfree.1]
  simp [ReadRun.apply, ReadQueue.post_of_open hopen, hfree.2, ReadRun.push, ReadRun.withPosted]

/-- A count without a disturbance tells the reads that wait. -/
theorem further_count {looks : Nat} (hfree : run.Free)
    (hlooks : run.reads.queue.posted.length < looks) :
    (run.apply .count).further (List.replicate looks .look) =
      { run with counts := run.counts ++ [run.reads.queue.pending] } := by
  have hbegun : run.apply .count = ⟨run.reads, some (.count 0 0), run.counts⟩ := if_pos hfree
  rw [hbegun]
  refine (further_look_count (List.nil_append _).symm hlooks).trans ?_
  rw [Nat.zero_add, hfree.1]
  rfl

/-! ## Scans end -/

def remaining (run : ScanRun) : Nat :=
  match run.scan? with
  | none => 0
  | some (.post kept) => run.reads.queue.posted.length - kept
  | some (.count seen _) => run.reads.queue.posted.length - seen

theorem remaining_le (run : ScanRun) : run.remaining ≤ run.reads.queue.posted.length := by
  rw [remaining]
  split
  · exact Nat.zero_le _
  · exact Nat.sub_le _ _
  · exact Nat.sub_le _ _

/-- A look gets past one read or ends the scan. -/
theorem remaining_look {scan : Scan} (hscan : run.scan? = some scan) :
    (run.look scan).scan? = none ∨
      (run.look scan).scan?.isSome ∧ (run.look scan).remaining < run.remaining := by
  cases scan with
  | post kept =>
      cases hleft : run.reads.queue.posted.drop kept with
      | nil => exact .inl (by rw [look_post_of_nil hleft])
      | cons read rest =>
          have hlength := ReadRun.length_of_cons hleft
          refine .inr ?_
          cases hwaits : read.waiting with
          | true =>
              rw [look_post_of_waiting hleft hwaits]
              refine ⟨rfl, ?_⟩
              simp only [remaining, hscan]
              omega
          | false =>
              rw [look_post_of_gone hleft hwaits]
              refine ⟨Option.isSome_of_eq_some hscan, ?_⟩
              simp only [remaining, hscan, ReadRun.withPosted, List.length_append, List.length_take]
              omega
  | count seen found =>
      cases hleft : run.reads.queue.posted.drop seen with
      | nil => exact .inl (by rw [look_count_of_nil hleft])
      | cons read rest =>
          have hlength := ReadRun.length_of_cons hleft
          rw [look_count_of_cons hleft]
          refine .inr ⟨rfl, ?_⟩
          simp only [remaining, hscan]
          omega

/-- While a queue is gone through, nobody adds a read to it. -/
theorem remaining_apply {scan : Scan} (hscan : run.scan? = some scan) (step : Step) :
    (run.apply step).scan? = none ∨
      (run.apply step).scan?.isSome ∧
        (run.apply step).remaining + [step].count .look ≤ run.remaining := by
  have hbusy : ¬run.Free := fun hfree =>
    Option.some_ne_none scan (hscan.symm.trans hfree.1)
  have hgoing : run.scan?.isSome := Option.isSome_of_eq_some hscan
  cases step with
  | whole step =>
      rw [apply]
      split_ifs with hlocked
      · exact .inr ⟨hgoing, le_rfl⟩
      · have hunlocked : step.locks = false := by simpa [hscan] using hlocked
        obtain ⟨fade, -, hposted⟩ := ReadRun.exists_fading (run.reads.moves step) hunlocked
        refine .inr ⟨hgoing, ?_⟩
        simp [remaining, hposted]
  | post =>
      rw [apply, if_neg fun hbegins => hbusy hbegins.1]
      exact .inr ⟨hgoing, le_rfl⟩
  | count =>
      rw [apply, if_neg hbusy]
      exact .inr ⟨hgoing, le_rfl⟩
  | look =>
      simp only [apply, hscan]
      exact remaining_look hscan

/-- A scan ends once it has looked at all reads in the queue, whatever comes amid. -/
theorem exists_scanned (steps : List Step) (hscan : run.scan?.isSome)
    (hlooks : run.remaining < steps.count .look) :
    ∃ amid, amid <+: steps ∧ (run.further amid).scan? = none := by
  induction steps generalizing run with
  | nil => cases hlooks
  | cons step steps ih =>
      obtain ⟨scan, hscan⟩ := Option.isSome_iff_exists.1 hscan
      rcases remaining_apply hscan step with hended | ⟨hgoing, hless⟩
      · exact ⟨[step], List.prefix_append [step] steps, hended⟩
      · have hleft : (run.apply step).remaining < steps.count .look := by
          rw [← List.singleton_append, List.count_append] at hlooks
          omega
        obtain ⟨amid, hamid, hended⟩ := ih hgoing hleft
        exact ⟨step :: amid, List.cons_prefix_cons.2 ⟨rfl, hamid⟩, hended⟩

end ScanRun

end PortalNat
