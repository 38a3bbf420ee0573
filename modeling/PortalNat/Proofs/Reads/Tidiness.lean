import PortalNat.Proofs.Reads.Backlog

/-!
# What is left in a queue of reads

Right after a read is posted, the queue holds the reads that wait and no other. Reads that are given
up while the queue is gone through may be left in it, but none that was given up before. A count
tells how many reads wait, or waited at one moment of the count if some are given up amid: the line
gets shorter by one read at a time, so it passes every number on its way. A closed queue is empty.
-/

namespace PortalNat

namespace ReadRun

variable {run next : ReadRun} {step : Step}

section

variable {place : Nat} {read : PostedRead} {rest : List PostedRead}

theorem take_succ_of_cons (hleft : run.queue.posted.drop place = read :: rest) :
    run.queue.posted.take (place + 1) = run.queue.posted.take place ++ [read] := by
  have hread : run.queue.posted[place]? = some read := by
    rw [← Nat.add_zero place, ← List.getElem?_drop, hleft]
    rfl
  rw [List.take_add_one, hread]
  rfl

theorem take_remove (hleft : run.queue.posted.drop place = read :: rest) :
    (run.withPosted (run.queue.posted.take place ++ rest)).queue.posted.take place =
      run.queue.posted.take place :=
  List.take_left' (length_take_of_cons hleft)

theorem waitingBefore_of_cons (hleft : run.queue.posted.drop place = read :: rest) :
    run.waitingBefore (place + 1) =
      run.waitingBefore place + if read.waiting then 1 else 0 := by
  have hfrom := waitingFrom_of_cons hleft
  have hall := run.waitingBefore_add_waitingFrom place
  have hnext := run.waitingBefore_add_waitingFrom (place + 1)
  omega

end

theorem waitingBefore_le (hmoves : Moves run step next) (hunlocked : step.locks = false)
    (place : Nat) : next.waitingBefore place ≤ run.waitingBefore place := by
  obtain ⟨fade, hfade, hposted⟩ := exists_fading hmoves hunlocked
  rw [waitingBefore, hposted, ← List.map_take, List.countP_map]
  exact List.countP_mono_left fun read _ => (hfade read).2

theorem Lined.mem_waiting (hrun : run.Lined) {read : PostedRead}
    (hread : read ∈ run.queue.posted) (hwaits : read.waiting = true) : read.id ∈ run.waiting := by
  rw [← hrun.queued]
  exact List.mem_map_of_mem (List.mem_filter.2 ⟨hread, hwaits⟩)

/-- Without the lock the line gets shorter by one read at most. -/
theorem Lined.length_waiting_le (hrun : run.Lined) (hmoves : Moves run step next)
    (hunlocked : step.locks = false) : run.waiting.length ≤ next.waiting.length + 1 := by
  cases hmoves with
  | idle => exact Nat.le_succ _
  | wake hflight hresult => exact Nat.le_succ _
  | @giveUp id hflight =>
      have hnodup : run.waiting.Nodup := hrun.nodup.filter _
      have hkept : run.waiting ⊆ id :: run.waiting.filter (· ≠ id) := by
        intro other hother
        by_cases hid : other = id
        · exact hid ▸ List.mem_cons_self
        · exact List.mem_cons_of_mem _ (List.mem_filter.2 ⟨hother, decide_eq_true hid⟩)
      rw [waiting_of_giveUp]
      exact (hnodup.subperm hkept).length_le
  | _ => cases hunlocked

end ReadRun

namespace ScanRun

variable {run next : ScanRun} {step : Step}

/-! ## What happens amid a scan -/

theorem prefixes_of_moves (hmoves : Moves run step next) :
    run.reads.posted <+: next.reads.posted ∧ run.counts <+: next.counts := by
  cases hmoves with
  | whole hunlocked hmoves =>
      refine ⟨?_, List.prefix_rfl⟩
      cases hmoves <;> first | exact List.prefix_rfl | exact List.prefix_append _ _
  | push hscan hleft => exact ⟨List.prefix_append _ _, List.prefix_rfl⟩
  | tell hscan hleft => exact ⟨List.prefix_rfl, List.prefix_append _ _⟩
  | _ => exact ⟨List.prefix_rfl, List.prefix_rfl⟩

theorem prefixes_further (run : ScanRun) (steps : List Step) :
    run.reads.posted <+: (run.further steps).reads.posted ∧
      run.counts <+: (run.further steps).counts := by
  induction steps generalizing run with
  | nil => exact ⟨List.prefix_rfl, List.prefix_rfl⟩
  | cons step steps ih =>
      have hstep := prefixes_of_moves (run.moves step)
      have hrest := ih (run.apply step)
      exact ⟨hstep.1.trans hrest.1, hstep.2.trans hrest.2⟩

theorem sound_further (hrun : run.Sound) (steps : List Step) : (run.further steps).Sound :=
  List.foldlRecOn steps apply hrun fun run hrun step _ => hrun.of_moves (run.moves step)

/-- A read that began to be posted at a start has kept no read that was given up before. -/
structure Sweeps (start run : ScanRun) (kept : Nat) : Prop where
  scan : run.scan? = some (.post kept)
  posted : run.reads.posted = start.reads.posted
  givenUp : start.reads.givenUp ⊆ run.reads.givenUp
  spared : ∀ read ∈ run.reads.queue.posted.take kept, read.id ∉ start.reads.givenUp

theorem Sweeps.of_moves {start : ScanRun} {kept : Nat} (hsweeps : Sweeps start run kept)
    (hrun : run.Sound) (hmoves : Moves run step next) :
    (∃ kept, Sweeps start next kept) ∨
      next.reads.posted ≠ start.reads.posted ∧
        ∀ read ∈ next.reads.queue.posted, read.id ∉ start.reads.givenUp := by
  have hscan := hsweeps.scan
  cases hmoves with
  | idle => exact .inl ⟨kept, hsweeps⟩
  | @whole step reads hunlocked hmoves =>
      have hstep := unlocked_of_scan hunlocked hscan
      obtain ⟨fade, hfade, hposted⟩ := ReadRun.exists_fading hmoves hstep
      refine .inl ⟨kept, hscan, ?_, ?_, ?_⟩
      · refine Eq.trans ?_ hsweeps.posted
        cases hmoves <;> first | rfl | cases hstep
      · exact fun id hid => ReadRun.givenUp_of_moves hmoves (hsweeps.givenUp hid)
      · intro read hread
        rw [hposted, ← List.map_take] at hread
        obtain ⟨former, hformer, rfl⟩ := List.mem_map.1 hread
        rw [(hfade former).1]
        exact hsweeps.spared former hformer
  | post hfree hopen => cases hfree.1.symm.trans hscan
  | count hfree => cases hfree.1.symm.trans hscan
  | @keep other read rest hother hleft hwaits =>
      cases hscan.symm.trans hother
      refine .inl ⟨kept + 1, rfl, hsweeps.posted, hsweeps.givenUp, ?_⟩
      intro earlier hearlier
      rw [ReadRun.take_succ_of_cons hleft] at hearlier
      rcases List.mem_append.1 hearlier with hkept | hnew
      · exact hsweeps.spared earlier hkept
      · rw [List.mem_singleton.1 hnew]
        have hmem : read ∈ run.reads.queue.posted :=
          List.mem_of_mem_drop (hleft ▸ List.mem_cons_self)
        have hwaiting := hrun.lined.mem_waiting hmem hwaits
        exact fun hgone => (ReadRun.mem_waiting.1 hwaiting).2.2.1 (hsweeps.givenUp hgone)
  | @remove other read rest hother hleft hwaits =>
      cases hscan.symm.trans hother
      refine .inl ⟨kept, hscan, hsweeps.posted, hsweeps.givenUp, ?_⟩
      intro earlier hearlier
      rw [ReadRun.take_remove hleft] at hearlier
      exact hsweeps.spared earlier hearlier
  | @push other hother hleft =>
      cases hscan.symm.trans hother
      refine .inr ⟨?_, ?_⟩
      · change run.reads.posted ++ [run.reads.queue.nextRead] ≠ start.reads.posted
        rw [hsweeps.posted]
        simp
      · intro read hread
        rcases List.mem_append.1 hread with hold | hnew
        · refine hsweeps.spared read ?_
          rwa [List.take_of_length_le (List.drop_eq_nil_iff.1 hleft)]
        · rw [List.mem_singleton.1 hnew]
          exact fun hgone =>
            hrun.lined.not_mem_posted (hrun.lined.owned _ (hsweeps.givenUp hgone))
  | see hother hleft => cases hscan.symm.trans hother
  | tell hother hleft => cases hscan.symm.trans hother

/-- While a read is posted, the scan keeps no read that was given up before. -/
theorem Sound.exists_sweeps (hrun : run.Sound) (hfree : run.Free)
    (hopen : run.reads.queue.closed = false) (amid : List Step)
    (hsame : ((run.apply .post).further amid).reads.posted = run.reads.posted) :
    ∃ kept, Sweeps run ((run.apply .post).further amid) kept := by
  have hbegun : run.apply .post = { run with scan? := some (.post 0) } := if_pos ⟨hfree, hopen⟩
  have hsound := hrun.of_moves (run.moves .post)
  rw [hbegun] at hsame hsound ⊢
  induction amid using List.reverseRecOn with
  | nil => exact ⟨0, rfl, rfl, List.Subset.refl _, fun _ hread => absurd hread List.not_mem_nil⟩
  | append_singleton amid step ih =>
      rw [further, List.foldl_concat] at hsame ⊢
      have hmoves := (further { run with scan? := some (.post 0) } amid).moves step
      have hbefore : (further { run with scan? := some (.post 0) } amid).reads.posted =
          run.reads.posted := by
        have hfirst := (prefixes_further { run with scan? := some (.post 0) } amid).1
        have hlast := (prefixes_of_moves hmoves).1
        refine (hfirst.eq_of_length (Nat.le_antisymm hfirst.length_le ?_)).symm
        exact hlast.length_le.trans (congrArg List.length hsame).le
      obtain ⟨kept, hsweeps⟩ := ih hbefore
      exact (hsweeps.of_moves (sound_further hsound amid) hmoves).resolve_right fun hposts =>
        hposts.1 hsame

/-- A count has come so far, and found every read that waits among those it looked at. -/
structure Counts (run : ScanRun) (seen found : Nat) : Prop where
  scan : run.scan? = some (.count seen found)
  found : run.reads.waitingBefore seen ≤ found

theorem Counts.of_moves {seen found : Nat} (hcounts : run.Counts seen found) (hrun : run.Sound)
    (hmoves : Moves run step next) :
    (∃ later total, next.Counts later total ∧
        total + next.reads.waitingFrom later ≤ found + run.reads.waitingFrom seen ∧
        next.counts = run.counts ∧
        run.reads.waiting.length ≤ next.reads.waiting.length + 1) ∨
      next.counts = run.counts ++ [found] ∧ run.reads.waiting.length ≤ found := by
  have hscan := hcounts.scan
  cases hmoves with
  | idle => exact .inl ⟨seen, found, hcounts, le_rfl, rfl, Nat.le_succ _⟩
  | @whole step reads hunlocked hmoves =>
      have hstep := unlocked_of_scan hunlocked hscan
      refine .inl ⟨seen, found, ⟨hscan, ?_⟩, ?_, rfl, hrun.lined.length_waiting_le hmoves hstep⟩
      · exact (ReadRun.waitingBefore_le hmoves hstep seen).trans hcounts.found
      · exact Nat.add_le_add_left (ReadRun.waitingFrom_le hmoves hstep seen) found
  | post hfree hopen => cases hfree.1.symm.trans hscan
  | count hfree => cases hfree.1.symm.trans hscan
  | keep hother hleft hwaits => cases hscan.symm.trans hother
  | remove hother hleft hwaits => cases hscan.symm.trans hother
  | push hother hleft => cases hscan.symm.trans hother
  | @see _ _ read rest hother hleft =>
      cases hscan.symm.trans hother
      have hfound := hcounts.found
      refine .inl ⟨seen + 1, _, ⟨rfl, ?_⟩, ?_, rfl, Nat.le_succ _⟩
      · change run.reads.waitingBefore (seen + 1) ≤ _
        rw [ReadRun.waitingBefore_of_cons hleft]
        split_ifs <;> omega
      · change _ + run.reads.waitingFrom (seen + 1) ≤ _
        rw [ReadRun.waitingFrom_of_cons hleft]
        split_ifs <;> omega
  | tell hother hleft =>
      cases hscan.symm.trans hother
      refine .inr ⟨rfl, ?_⟩
      have hall := run.reads.waitingBefore_add_waitingFrom seen
      have hnone : run.reads.waitingFrom seen = 0 := by
        rw [ReadRun.waitingFrom, hleft, List.countP_nil]
      rw [← hrun.lined.pending, ← hall, hnone]
      exact hcounts.found

/-- A count comes to no more than it found and may find yet. If it comes to no more than wait now,
then so many reads wait at some moment before it ends. -/
theorem Counts.attains {seen found told : Nat} (hcounts : run.Counts seen found)
    (hrun : run.Sound) (steps : List Step)
    (htold : run.counts ++ [told] <+: (run.further steps).counts) :
    told ≤ found + run.reads.waitingFrom seen ∧
      (told ≤ run.reads.waiting.length →
        ∃ amid, amid <+: steps ∧ (run.further amid).reads.waiting.length = told) := by
  induction steps generalizing run seen found with
  | nil =>
      have hlength := htold.length_le
      rw [List.length_append] at hlength
      exact absurd hlength (Nat.not_succ_le_self _)
  | cons step steps ih =>
      have hmoves := run.moves step
      rcases hcounts.of_moves hrun hmoves with
        ⟨later, total, hlater, hle, hsame, hone⟩ | ⟨hended, hall⟩
      · obtain ⟨hbound, hattained⟩ := ih hlater (hrun.of_moves hmoves) (hsame ▸ htold)
        refine ⟨hbound.trans hle, fun htold => ?_⟩
        -- At most one read leaves the line, so a number below the present one is not jumped over.
        by_cases hnow : told = run.reads.waiting.length
        · exact ⟨[], List.nil_prefix, hnow.symm⟩
        · obtain ⟨amid, hamid, hwaiting⟩ := hattained (by omega)
          exact ⟨step :: amid, List.cons_prefix_cons.2 ⟨rfl, hamid⟩, hwaiting⟩
      · have hfirst := hended ▸ (prefixes_further (run.apply step) steps).2
        have hequal :=
          (List.prefix_of_prefix_length_le htold hfirst (by simp)).eq_of_length (by simp)
        cases List.append_cancel_left hequal
        refine ⟨Nat.le_add_right _ _, fun htold => ?_⟩
        exact ⟨[], List.nil_prefix, Nat.le_antisymm hall htold⟩

/-! ## Nothing piles up -/

theorem closed_further (hclosed : run.reads.queue.closed = true) (steps : List Step) :
    (run.further steps).reads.queue.closed = true := by
  induction steps generalizing run with
  | nil => exact hclosed
  | cons step steps ih =>
      refine ih ?_
      have hmoves := run.moves step
      generalize run.apply step = next at hmoves
      cases hmoves with
      | whole hunlocked hmoves => exact ReadRun.closed_of_moves hmoves hclosed
      | _ => exact hclosed

theorem reads_apply_post (hfree : run.Free) :
    (run.apply (.whole .post)).reads =
      { run.reads with
        queue := run.reads.queue.post.2
        posted := run.reads.posted ++ [run.reads.queue.nextRead] } := by
  simp [apply, ReadRun.apply, hfree.1, hfree.2, ReadQueue.fst_post]

/-- What holds after every run of a queue that reads are posted to, given up in, counted in and
served from, until it is closed. -/
structure Tidy (run : ScanRun) : Prop where
  /-- The reads that wait are in the queue, in the order they were posted. -/
  queued : (run.reads.queue.posted.filter (·.waiting)).map (·.id) = run.reads.waiting
  /-- As many are pending as wait. -/
  pending : run.reads.queue.pending = run.reads.waiting.length
  /-- Right after a read is posted, the queue holds the reads that wait and no other. -/
  posted : run.Free → run.reads.queue.closed = false →
    (run.apply (.whole .post)).reads.waiting = run.reads.waiting ++ [run.reads.queue.nextRead] ∧
      (run.apply (.whole .post)).reads.queue.posted =
        (run.apply (.whole .post)).reads.waiting.map fun id => ⟨id, true⟩
  /-- So it does if the queue is gone through read by read and nothing comes amid. -/
  alone : run.Free → run.reads.queue.closed = false → ∀ looks,
    run.reads.queue.posted.length < looks →
      (run.apply .post).further (List.replicate looks .look) = run.apply (.whole .post)
  /-- If reads are given up amid, those may be left in the queue too, but none that was given up
  before. -/
  amid : run.Free → run.reads.queue.closed = false → ∀ amid step next,
    ((run.apply .post).further amid).reads.posted = run.reads.posted →
    next = ((run.apply .post).further amid).apply step →
    next.reads.posted ≠ run.reads.posted →
      ∀ read ∈ next.reads.queue.posted,
        read.id ∈ next.reads.waiting ∨
          read.id ∈ next.reads.givenUp ∧ read.id ∉ run.reads.givenUp
  /-- A count that nothing comes amid tells how many reads wait. -/
  counted : run.Free → ∀ looks, run.reads.queue.posted.length < looks →
    (run.apply .count).further (List.replicate looks .look) =
      { run with counts := run.counts ++ [run.reads.waiting.length] }
  /-- If reads are given up amid, it tells how many waited at one moment of the count. -/
  attained : run.Free → ∀ steps told,
    run.counts ++ [told] <+: ((run.apply .count).further steps).counts →
      ∃ amid, amid <+: steps ∧
        ((run.apply .count).further amid).reads.waiting.length = told
  /-- A scan ends once it has looked at the reads in the queue, whatever comes amid. -/
  ends : run.scan?.isSome → ∀ steps, run.reads.queue.posted.length < steps.count .look →
    ∃ amid, amid <+: steps ∧ (run.further amid).scan? = none
  /-- The queue is empty from the moment it is closed. -/
  closed : run.Free → ∀ steps,
    ((run.apply (.whole .close)).further steps).reads.queue.closed = true ∧
      ((run.apply (.whole .close)).further steps).reads.queue.posted = []

theorem Sound.tidy (hrun : run.Sound) : run.Tidy where
  queued := hrun.lined.queued
  pending := hrun.lined.pending
  posted := by
    intro hfree hopen
    have hwaiting := hrun.lined.waiting_post
    rw [hopen, if_neg Bool.false_ne_true] at hwaiting
    rw [reads_apply_post hfree, hwaiting]
    exact ⟨rfl, hrun.lined.posted_post hopen⟩
  alone := fun hfree hopen _ => further_post hfree hopen
  amid := by
    rintro hfree hopen amid step next hsame rfl hposts read hread
    have hbegun := sound_further (hrun.of_moves (run.moves .post)) amid
    have hmoves := ((run.apply .post).further amid).moves step
    have hnext := hbegun.of_moves hmoves
    obtain ⟨kept, hsweeps⟩ := hrun.exists_sweeps hfree hopen amid hsame
    rcases hsweeps.of_moves hbegun hmoves with ⟨_, hsweeps⟩ | ⟨-, hspared⟩
    · exact absurd hsweeps.posted hposts
    · exact (hnext.gone read hread).imp (hnext.lined.mem_waiting hread) (⟨·, hspared read hread⟩)
  counted := by
    intro hfree looks hlooks
    rw [further_count hfree hlooks, hrun.lined.pending]
  attained := by
    intro hfree steps told htold
    have hbegun : run.apply .count = { run with scan? := some (.count 0 0) } := if_pos hfree
    have hsound := hrun.of_moves (run.moves .count)
    rw [hbegun] at hsound htold ⊢
    have hcounts : Counts { run with scan? := some (.count 0 0) } 0 0 := ⟨rfl, le_rfl⟩
    obtain ⟨hbound, hattained⟩ := hcounts.attains hsound steps htold
    refine hattained ?_
    rw [Nat.zero_add] at hbound
    exact hbound.trans hrun.lined.pending.le
  ends := by
    intro hscan steps hlooks
    exact exists_scanned steps hscan (run.remaining_le.trans_lt hlooks)
  closed := by
    intro hfree steps
    have hclosed : (run.apply (.whole .close)).reads.queue.closed = true := by
      simp [apply, ReadRun.apply, hfree.1, hfree.2, ReadQueue.close]
    have hfurther := closed_further hclosed steps
    have hsound := sound_further (hrun.of_moves (run.moves (.whole .close))) steps
    exact ⟨hfurther, hsound.lined.shut hfurther⟩

/-- After every run the queue is tidy. It is never longer than the largest number of reads that have
waited at one moment so far, where a read that is posted while others are given up counts from the
moment its scan begins. -/
theorem tidy_after (steps : List Step) :
    (after steps).Tidy ∧
      (∃ earlier, earlier <+: steps ∧
        (after steps).reads.queue.posted.length ≤ (after earlier).present) ∧
      ∀ whole : List ReadRun.Step, ∃ earlier, earlier <+: whole ∧
        (ReadRun.after whole).queue.posted.length ≤ (ReadRun.after earlier).waiting.length := by
  obtain ⟨earlier, hearlier, hwithin⟩ := exists_within steps
  exact ⟨(sound_after steps).tidy, ⟨earlier, hearlier, hwithin.length⟩, exists_length_le⟩

/-- Three reads that time out one after the other leave one entry. -/
example :
    (after ([.post, .giveUp 0, .post, .giveUp 1, .post, .giveUp 2].map .whole)).reads.queue.posted =
      [⟨2, false⟩] := rfl

/-- A read that is given up between its look and the end of the scan is left behind the scan. -/
example :
    (after [.whole .post, .post, .look, .whole (.giveUp 0), .look]).reads.queue.posted =
      [⟨0, false⟩, ⟨1, true⟩] := rfl

end ScanRun

end PortalNat
