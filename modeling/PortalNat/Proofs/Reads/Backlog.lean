import PortalNat.Proofs.Reads.Scan

/-!
# The length of a queue of reads

A read that is given up stays in the queue until the next read is posted or a datagram comes. As a
read is posted, the scan keeps reads that wait, so the queue never gets longer than the largest
number of reads that have waited at one moment so far. Amid a scan the bound has to look ahead: what
was kept may be given up later, but it waited together with all that may still be kept when the scan
began.
-/

namespace PortalNat

namespace ReadRun

variable {run next : ReadRun} {step : Step}

/-- The reads that wait among the first in the queue. -/
def waitingBefore (run : ReadRun) (place : Nat) : Nat :=
  (run.queue.posted.take place).countP (·.waiting)

def waitingFrom (run : ReadRun) (place : Nat) : Nat :=
  (run.queue.posted.drop place).countP (·.waiting)

theorem waitingBefore_add_waitingFrom (run : ReadRun) (place : Nat) :
    run.waitingBefore place + run.waitingFrom place = run.queue.pending := by
  rw [waitingBefore, waitingFrom, ← List.countP_append, List.take_append_drop, ReadQueue.pending]

section

variable {place : Nat} {read : PostedRead} {rest : List PostedRead}

theorem waitingFrom_of_cons (hleft : run.queue.posted.drop place = read :: rest) :
    run.waitingFrom place = run.waitingFrom (place + 1) + if read.waiting then 1 else 0 := by
  rw [waitingFrom, waitingFrom, ← List.tail_drop, hleft, List.tail_cons, List.countP_cons]

theorem length_take_of_cons (hleft : run.queue.posted.drop place = read :: rest) :
    (run.queue.posted.take place).length = place := by
  rw [List.length_take, length_of_cons hleft]
  omega

theorem waitingFrom_remove (hleft : run.queue.posted.drop place = read :: rest) :
    (run.withPosted (run.queue.posted.take place ++ rest)).waitingFrom place =
      run.waitingFrom (place + 1) := by
  rw [waitingFrom, waitingFrom, withPosted, List.drop_left' (length_take_of_cons hleft),
    ← List.tail_drop, hleft, List.tail_cons]

end

theorem Lined.pending (hrun : run.Lined) : run.queue.pending = run.waiting.length := by
  rw [← hrun.queued, List.length_map, ReadQueue.pending, List.countP_eq_length_filter]

/-- Right after a read is posted, the queue holds the reads that wait and no other. -/
theorem Lined.posted_post (hrun : run.Lined) (hopen : run.queue.closed = false) :
    run.queue.post.2.posted =
      (run.waiting ++ [run.queue.nextRead]).map fun id => ⟨id, true⟩ := by
  have hkept : (run.queue.posted.filter (·.waiting)).map (fun read => ⟨read.id, true⟩) =
      run.queue.posted.filter (·.waiting) := by
    refine (List.map_congr_left fun read hread => ?_).trans (List.map_id _)
    have hwaits : read.waiting = true := (List.mem_filter.1 hread).2
    rw [← hwaits]
    rfl
  rw [ReadQueue.post_of_open hopen, List.map_append, ← hrun.queued, List.map_map]
  exact congrArg (· ++ [⟨run.queue.nextRead, true⟩]) hkept.symm

/-- The queue only grows as a read is posted, and then it holds just the reads that wait. -/
theorem Lined.length_posted (hrun : run.Lined) (hmoves : Moves run step next) :
    next.queue.posted.length ≤ run.queue.posted.length ∨
      next.queue.posted.length = next.waiting.length := by
  cases hmoves with
  | post =>
      cases hclosed : run.queue.closed with
      | true => exact .inl (by rw [ReadQueue.post_of_closed hclosed])
      | false =>
          refine .inr ?_
          rw [hrun.waiting_post, hclosed, if_neg Bool.false_ne_true]
          exact (congrArg List.length (hrun.posted_post hclosed)).trans (List.length_map _)
  | giveUp hflight => exact .inl (List.length_map _).le
  | close => exact .inl (Nat.zero_le _)
  | pass hoffered hposted hwaits => exact .inl (by rw [hposted]; exact Nat.le_succ _)
  | serve hoffered hposted hwaits => exact .inl (by rw [hposted]; exact Nat.le_succ _)
  | _ => exact .inl le_rfl

theorem waitingFrom_le (hmoves : Moves run step next) (hunlocked : step.locks = false)
    (place : Nat) : next.waitingFrom place ≤ run.waitingFrom place := by
  obtain ⟨fade, hfade, hposted⟩ := exists_fading hmoves hunlocked
  rw [waitingFrom, hposted, ← List.map_drop, List.countP_map]
  exact List.countP_mono_left fun read _ => (hfade read).2

end ReadRun

namespace ScanRun

variable {run next : ScanRun} {step : Step} {bound : Nat}

/-- The number of reads that wait, with the one that is being posted. -/
def present (run : ScanRun) : Nat :=
  match run.scan? with
  | some (.post _) => run.reads.waiting.length + 1
  | _ => run.reads.waiting.length

theorem waiting_le_present (run : ScanRun) : run.reads.waiting.length ≤ run.present := by
  unfold present
  split
  · exact Nat.le_succ _
  · exact le_rfl

/-- The queue is no longer than a bound, and will not be once the read that is being posted is in
it. -/
structure Within (run : ScanRun) (bound : Nat) : Prop where
  length : run.reads.queue.posted.length ≤ bound
  post : ∀ kept, run.scan? = some (.post kept) → kept + run.reads.waitingFrom kept < bound

theorem Within.mono {larger : Nat} (hrun : run.Within bound) (hle : bound ≤ larger) :
    run.Within larger :=
  ⟨hrun.length.trans hle, fun kept hscan => (hrun.post kept hscan).trans_le hle⟩

theorem Within.of_moves (hwithin : run.Within bound) (hrun : run.Sound)
    (hmoves : Moves run step next) : next.Within (max bound next.present) := by
  have hlength := hwithin.length.trans (le_max_left bound next.present)
  cases hmoves with
  | idle => exact hwithin.mono (le_max_left _ _)
  | @whole step reads hunlocked hmoves =>
      constructor
      case length =>
        rcases hrun.lined.length_posted hmoves with hle | hwaiting
        · exact hle.trans hlength
        · exact le_max_of_le_right (hwaiting.le.trans (waiting_le_present { run with reads }))
      case post =>
        intro kept hscan
        have hstep := unlocked_of_scan hunlocked hscan
        have hle := ReadRun.waitingFrom_le hmoves hstep kept
        exact lt_max_of_lt_left
          ((Nat.add_le_add_left hle kept).trans_lt (hwithin.post kept hscan))
  | post hfree hopen =>
      refine ⟨hlength, ?_⟩
      rintro kept ⟨⟩
      have hwaiting : run.reads.waitingFrom 0 = run.reads.waiting.length :=
        hrun.lined.pending
      exact lt_max_of_lt_right (by simp [present, hwaiting])
  | count hfree => exact ⟨hlength, by rintro _ ⟨⟩⟩
  | @keep kept read rest hscan hleft hwaits =>
      refine ⟨hlength, ?_⟩
      rintro _ ⟨⟩
      have hbefore := hwithin.post kept hscan
      rw [ReadRun.waitingFrom_of_cons hleft, if_pos hwaits] at hbefore
      exact lt_max_of_lt_left (by rwa [Nat.add_right_comm, Nat.add_assoc])
  | @remove kept read rest hscan hleft hwaits =>
      have hbefore := hwithin.post kept hscan
      constructor
      case length =>
        refine le_trans ?_ hlength
        have hposted := ReadRun.length_of_cons hleft
        rw [ReadRun.withPosted, List.length_append, List.length_take]
        omega
      case post =>
        intro other hother
        cases hscan.symm.trans hother
        rw [ReadRun.waitingFrom_of_cons hleft, hwaits, if_neg Bool.false_ne_true] at hbefore
        rw [ReadRun.waitingFrom_remove hleft]
        exact lt_max_of_lt_left hbefore
  | @push kept hscan hleft =>
      refine ⟨?_, by rintro _ ⟨⟩⟩
      have hbefore := hwithin.post kept hscan
      have hplace := List.drop_eq_nil_iff.1 hleft
      refine le_max_of_le_left ?_
      rw [ReadRun.push, List.length_append, List.length_singleton]
      omega
  | see hscan hleft => exact ⟨hlength, by rintro _ ⟨⟩⟩
  | tell hscan hleft => exact ⟨hlength, by rintro _ ⟨⟩⟩

/-- At one moment so far as many reads were present as the queue is long. -/
theorem exists_within (steps : List Step) :
    ∃ earlier, earlier <+: steps ∧ (after steps).Within (after earlier).present := by
  induction steps using List.reverseRecOn with
  | nil => exact ⟨[], List.prefix_rfl, Nat.le_refl 0, by rintro _ ⟨⟩⟩
  | append_singleton steps step ih =>
      obtain ⟨earlier, hearlier, hwithin⟩ := ih
      have hnext := hwithin.of_moves (sound_after steps) ((after steps).moves step)
      rw [← after_concat] at hnext
      rcases max_choice (after earlier).present (after (steps ++ [step])).present with hmax | hmax
      · exact ⟨earlier, hearlier.trans (List.prefix_append _ _), hmax ▸ hnext⟩
      · exact ⟨steps ++ [step], List.prefix_rfl, hmax ▸ hnext⟩

/-- At every moment of a run without scans the queue is no longer than the largest number of reads
that have waited at one moment so far. -/
theorem exists_length_le (steps : List ReadRun.Step) :
    ∃ earlier, earlier <+: steps ∧
      (ReadRun.after steps).queue.posted.length ≤ (ReadRun.after earlier).waiting.length := by
  obtain ⟨earlier, hearlier, hwithin⟩ := exists_within (steps.map .whole)
  obtain ⟨earlier, hbefore, rfl⟩ := List.prefix_map_iff.1 hearlier
  rw [after_whole, after_whole] at hwithin
  exact ⟨earlier, hbefore, hwithin.length⟩

end ScanRun

end PortalNat
