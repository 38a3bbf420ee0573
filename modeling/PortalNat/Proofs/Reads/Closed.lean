import PortalNat.Proofs.Reads.Run

/-!
# Reads of a closed queue

A queue of reads that was closed holds nobody that waits, whatever readers and the pump do to it
later. So every read fails that had not got a datagram before, and every read that only starts.
-/

namespace PortalNat

namespace ReadQueue

/-- A property of the queue of reads lasts, whatever readers and the pump do. -/
structure Lasts (motive : ReadQueue → Prop) : Prop where
  post : ∀ {queue : ReadQueue}, motive queue → motive queue.post.2
  giveUp : ∀ {queue : ReadQueue} (id : Nat), motive queue → motive (queue.giveUp id)
  collect : ∀ {queue : ReadQueue} (id : Nat), motive queue → motive (queue.collect id)
  deliver : ∀ {queue : ReadQueue} (datagram : Datagram), motive queue →
    motive (queue.deliver datagram).2
  close : ∀ {queue : ReadQueue}, motive queue → motive queue.close

/-- The reads of a queue have numbers that were given out. -/
structure Numbered (queue : ReadQueue) : Prop where
  posted : ∀ read ∈ queue.posted, read.id < queue.nextRead
  served : ∀ read ∈ queue.served, read.1 < queue.nextRead

/-- A queue is closed, and no read waits in it. -/
structure Shut (queue : ReadQueue) : Prop where
  closed : queue.closed = true
  posted : queue.posted = []

theorem lasts_numbered : Lasts Numbered where
  post := by
    intro queue ⟨hposted, hserved⟩
    have hearlier : ∀ read ∈ queue.served, read.1 < queue.nextRead + 1 :=
      fun read hread => Nat.lt_succ_of_lt (hserved read hread)
    unfold post
    simp only []
    split_ifs
    · exact ⟨fun read hread => Nat.lt_succ_of_lt (hposted read hread), hearlier⟩
    · refine ⟨?_, hearlier⟩
      intro read hread
      rcases List.mem_append.1 hread with hkept | hnew
      · exact Nat.lt_succ_of_lt (hposted read (List.mem_of_mem_filter hkept))
      · rw [List.mem_singleton.1 hnew]
        exact Nat.lt_succ_self _
  giveUp := by
    intro queue id ⟨hposted, hserved⟩
    refine ⟨?_, fun read hread => hserved read (List.mem_of_mem_filter hread)⟩
    intro read hread
    obtain ⟨former, hformer, rfl⟩ := List.mem_map.1 hread
    have hid : (if former.id = id then { former with waiting := false } else former).id =
        former.id := by
      split_ifs <;> rfl
    rw [hid]
    exact hposted former hformer
  collect := by
    intro queue id ⟨hposted, hserved⟩
    exact ⟨hposted, fun read hread => hserved read (List.mem_of_mem_filter hread)⟩
  deliver := by
    intro queue datagram ⟨hposted, hserved⟩
    unfold deliver
    split_ifs
    · exact ⟨hposted, hserved⟩
    · split
      · exact ⟨fun read hread => absurd hread List.not_mem_nil, hserved⟩
      · next read rest hqueue =>
          have hsuffix : read :: rest <:+ queue.posted := hqueue ▸ List.dropWhile_suffix _
          refine ⟨fun later hlater =>
            hposted later (hsuffix.subset (List.mem_cons_of_mem _ hlater)), ?_⟩
          intro served hmem
          rcases List.mem_append.1 hmem with hearlier | hnow
          · exact hserved served hearlier
          · rw [List.mem_singleton.1 hnow]
            exact hposted read (hsuffix.subset List.mem_cons_self)
  close := by
    intro queue ⟨_, hserved⟩
    exact ⟨fun read hread => absurd hread List.not_mem_nil, hserved⟩

theorem Shut.deliver_eq {queue : ReadQueue} (hshut : queue.Shut) (datagram : Datagram) :
    queue.deliver datagram = (false, queue) := by
  simp only [deliver, hshut.closed, if_true]

theorem lasts_shut : Lasts Shut where
  post := by
    intro queue hshut
    rw [post_of_closed hshut.closed]
    exact ⟨hshut.closed, hshut.posted⟩
  giveUp := by
    intro queue id hshut
    refine ⟨hshut.closed, ?_⟩
    simp only [giveUp, hshut.posted, List.map_nil]
  collect := by
    intro queue id hshut
    exact ⟨hshut.closed, hshut.posted⟩
  deliver := by
    intro queue datagram hshut
    rwa [hshut.deliver_eq]
  close := by
    intro queue hshut
    exact ⟨rfl, rfl⟩

/-- In a queue that is shut every read fails that was not served before. -/
theorem Shut.outcome?_eq {queue : ReadQueue} (hshut : queue.Shut) {id : Nat}
    (hunserved : queue.served.lookup id = none) : queue.outcome? id = some (.error .closed) := by
  simp only [outcome?, hunserved, hshut.posted, List.any_nil, Bool.false_eq_true, if_false]

/-- So does a read that only starts. -/
theorem Shut.outcome?_post {queue : ReadQueue} (hshut : queue.Shut) (hnumbered : queue.Numbered) :
    queue.post.2.outcome? queue.post.1 = some (.error .closed) := by
  apply (lasts_shut.post hshut).outcome?_eq
  rw [served_post, fst_post, List.lookup_eq_none_iff]
  intro read hread
  simpa using Nat.ne_of_gt (hnumbered.served read hread)

end ReadQueue

end PortalNat
