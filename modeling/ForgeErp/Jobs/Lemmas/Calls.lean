import ForgeErp.Jobs.Calls
import ForgeErp.Jobs.Lemmas.Store

/-!
This module contains what one call can do to a desk, and what holds of every desk on which no job is
enqueued under the identifier of a dead letter.
-/

namespace ForgeErp

namespace JobDesk

open InMemoryJobStore

variable [Backoff] [DebugFormat JobKind] [TextFormat Uuid]

/--
Everything a call can do.
-/
inductive Step (s : JobDesk) : JobCall → JobDesk → Prop where
  | unchanged {call : JobCall} : Step s call s
  | enqueued {job : Job} :
      s.store.jobs.get job.id = none →
      Step s (.enqueue job) { s with
        store := { s.store with jobs := s.store.jobs.insert job }
        known := job.id :: s.known
        invoked := setInvoked s.invoked job.id 0 }
  | claimed {tenantId : Option TenantId} {order : List JobId} {now : DateTime} {job : Job} :
      s.store.jobs.get job.id = some job →
      claimable tenantId now job = true →
      Step s (.claimNext tenantId order now) { s with
        store := { s.store with jobs := s.store.jobs.insert (job.markRunning now) }
        claimed := s.claimed ++ [job.markRunning now] }
  | executed {n : Nat} {job : Job} {executor : JobExecutor} {ks : List String}
      {clock : Nat → DateTime} :
      s.claimed[n]? = some job →
      Step s (.executeJob n executor ks clock) (s.execute n job executor ks clock)
  | retried {entry : DeadLetterEntry} {now : DateTime} :
      s.store.deadLetters.get entry.id = some entry →
      Step s (.retryDeadLetter entry.job.tenantId entry.id now) { s with
        store := {
          jobs := s.store.jobs.insert (retried entry.job now)
          deadLetters := s.store.deadLetters.erase entry.id }
        exhausted := without s.exhausted entry.id
        invoked := setInvoked s.invoked entry.id 0 }
  | deleted {entry : DeadLetterEntry} :
      s.store.deadLetters.get entry.id = some entry →
      Step s (.deleteDeadLetter entry.job.tenantId entry.id) { s with
        store := { s.store with deadLetters := s.store.deadLetters.erase entry.id }
        known := without s.known entry.id
        exhausted := without s.exhausted entry.id }

theorem step_cases {s s' : JobDesk} {call : JobCall} (h : runs.step s call = some s')
    : Step s call s' := by
  cases call with
  | enqueue job =>
    simp only [runs, step, enqueue] at h
    cases hget : s.store.jobs.get job.id with
    | some stored =>
      rw [hget] at h
      cases h
      exact .unchanged
    | none =>
      rw [hget] at h
      cases h
      exact .enqueued hget
  | claimNext tenantId order now =>
    simp only [runs, step] at h
    rcases claimNext_cases s.store tenantId order now
        with ⟨-, hclaim⟩ | ⟨job, hget, hclaimable, -, hclaim⟩
    . rw [hclaim] at h
      cases h
      exact .unchanged
    . rw [hclaim] at h
      cases h
      exact .claimed hget hclaimable
  | executeJob n executor ks clock =>
    rcases Option.map_eq_some_iff.mp h with ⟨job, hjob, rfl⟩
    exact .executed hjob
  | retryDeadLetter tenantId jobId now =>
    simp only [runs, step] at h
    rcases retryDeadLetter_cases s.store tenantId jobId now
        with ⟨err, hretry⟩ | ⟨entry, hget, rfl, hretry⟩
    . rw [hretry] at h
      cases h
      exact .unchanged
    . have hkey : entry.id = jobId := Table.key_of_get hget
      subst hkey
      rw [hretry] at h
      cases h
      exact .retried hget
  | deleteDeadLetter tenantId jobId =>
    simp only [runs, step] at h
    rcases deleteDeadLetter_cases s.store tenantId jobId
        with ⟨err, hdelete⟩ | ⟨entry, hget, rfl, hdelete⟩
    . rw [hdelete] at h
      cases h
      exact .unchanged
    . have hkey : entry.id = jobId := Table.key_of_get hget
      subst hkey
      rw [hdelete] at h
      cases h
      exact .deleted hget

/--
No job is in both tables, and what has been handed out is what is stored.
-/
structure Orderly (s : JobDesk) : Prop where
  disjoint : ∀ id, s.store.jobs.get id = none ∨ s.store.deadLetters.get id = none
  distinct : (s.claimed.map Job.id).Nodup
  stored : ∀ job ∈ s.claimed, s.store.jobs.get job.id = some job ∧ job.status = .running

namespace Orderly

variable {s : JobDesk}

omit [Backoff] [DebugFormat JobKind] [TextFormat Uuid] in
theorem id_ne_of_mem_eraseIdx (h : Orderly s) {n : Nat} {job other : Job}
    (hjob : s.claimed[n]? = some job)
    (hother : other ∈ s.claimed.eraseIdx n) : other.id ≠ job.id := by
  rcases List.mem_eraseIdx_iff_getElem?.mp hother with ⟨i, hi, hget⟩
  intro hid
  have hi' : (s.claimed.map Job.id)[i]? = some job.id := by
    rw [List.getElem?_map, hget, ← hid]
    rfl
  have hn : (s.claimed.map Job.id)[n]? = some job.id := by
    rw [List.getElem?_map, hjob]
    rfl
  have hlt : i < (s.claimed.map Job.id).length := (List.getElem?_eq_some_iff.mp hi').1
  apply hi
  apply (List.getElem?_inj hlt h.distinct).mp (hi'.trans hn.symm)

omit [Backoff] [DebugFormat JobKind] [TextFormat Uuid] in
theorem deadLetters_get (h : Orderly s) {id : JobId} {job : Job}
    (hget : s.store.jobs.get id = some job) : s.store.deadLetters.get id = none := by
  rcases h.disjoint id with hnone | hnone
  . rw [hget] at hnone
    cases hnone
  . exact hnone

/--
What an executor does to the store with a job that it has been handed.
-/
theorem store_execute (h : Orderly s) {n : Nat} {job : Job} (hjob : s.claimed[n]? = some job)
    (executor : JobExecutor) (ks : List String) (clock : Nat → DateTime)
    : ((executor.settle ks clock job).2 = none
        ∧ (s.execute n job executor ks clock).store
            = { s.store with jobs := s.store.jobs.insert (executor.settle ks clock job).1 })
      ∨ ∃ reason, (executor.settle ks clock job).2 = some reason
        ∧ (s.execute n job executor ks clock).store
            = { jobs := s.store.jobs.erase job.id
                deadLetters := s.store.deadLetters.insert
                  (letter (executor.settle ks clock job).1 reason (clock 2) (clock 3)) } := by
  have hid := (executor.settles_settle ks clock job).id
  have hget := (h.stored job (List.mem_of_getElem? hjob)).1
  rw [← hid] at hget
  have hstore : (s.execute n job executor ks clock).store
      = JobExecutor.finish clock s.store (executor.settle ks clock job) := by
    apply congrArg Prod.snd (executor.executeJob_eq ks clock s.store job)
  rw [hstore]
  cases hreason : (executor.settle ks clock job).2 with
  | none => exact .inl ⟨rfl, JobExecutor.finish_stored clock hget hreason⟩
  | some reason =>
    refine .inr ⟨reason, rfl, ?_⟩
    rw [JobExecutor.finish_buried clock hget hreason, hid]

theorem execute (h : Orderly s) {n : Nat} {job : Job} (hjob : s.claimed[n]? = some job)
    (executor : JobExecutor) (ks : List String) (clock : Nat → DateTime)
    : Orderly (s.execute n job executor ks clock) := by
  have hid := (executor.settles_settle ks clock job).id
  have hget := (h.stored job (List.mem_of_getElem? hjob)).1
  have hdistinct : ((s.claimed.eraseIdx n).map Job.id).Nodup :=
    h.distinct.sublist ((List.eraseIdx_sublist s.claimed n).map Job.id)
  have hdead := h.deadLetters_get hget
  rcases h.store_execute hjob executor ks clock with ⟨-, hstore⟩ | ⟨reason, -, hstore⟩
  . refine ⟨?_, hdistinct, ?_⟩
    . intro id
      rw [hstore]
      dsimp only
      rw [Table.get_insert, hid]
      split
      . next heq =>
        rw [heq]
        exact .inr hdead
      . apply h.disjoint id
    . intro other hother
      have hne := h.id_ne_of_mem_eraseIdx hjob hother
      rw [hstore]
      dsimp only
      rw [Table.get_insert_of_ne _ (by rw [hid]; exact hne)]
      apply h.stored other (List.mem_of_mem_eraseIdx hother)
  . refine ⟨?_, hdistinct, ?_⟩
    . intro id
      rw [hstore]
      dsimp only
      rw [Table.get_erase]
      split
      . exact .inl rfl
      . next hne =>
        rw [Table.get_insert_of_ne _ (by exact fun heq => hne (heq.trans hid))]
        apply h.disjoint id
    . intro other hother
      have hne := h.id_ne_of_mem_eraseIdx hjob hother
      rw [hstore]
      dsimp only
      rw [Table.get_erase_of_ne _ hne]
      apply h.stored other (List.mem_of_mem_eraseIdx hother)

-- Jobs are only inserted under identifiers that no dead letter has, and that nobody holds.
omit [Backoff] [DebugFormat JobKind] [TextFormat Uuid] in
theorem insert (h : Orderly s) {job : Job} {deadLetters : Table DeadLetterEntry.id}
    (hletters : ∀ id, s.store.deadLetters.get id = none → deadLetters.get id = none)
    (hdead : deadLetters.get job.id = none) (hfree : s.store.jobs.get job.id = none)
    {known exhausted : List JobId} {invoked : JobId → Nat}
    : Orderly {
        store := { jobs := s.store.jobs.insert job, deadLetters }
        claimed := s.claimed
        known, exhausted, invoked } := by
  refine ⟨?_, h.distinct, ?_⟩
  . intro id
    dsimp only
    rw [Table.get_insert]
    split
    . next heq =>
      rw [heq]
      exact .inr hdead
    . rcases h.disjoint id with hnone | hnone
      . exact .inl hnone
      . exact .inr (hletters _ hnone)
  . intro other hother
    have hstored := h.stored other hother
    have hne : other.id ≠ job.id := by
      intro heq
      rw [heq, hfree] at hstored
      cases hstored.1
    dsimp only
    rw [Table.get_insert_of_ne _ hne]
    exact hstored

omit [Backoff] [DebugFormat JobKind] [TextFormat Uuid] in
theorem claim (h : Orderly s) {job : Job} {tenantId : Option TenantId} {now : DateTime}
    (hget : s.store.jobs.get job.id = some job) (hclaimable : claimable tenantId now job = true)
    : Orderly { s with
        store := { s.store with jobs := s.store.jobs.insert (job.markRunning now) }
        claimed := s.claimed ++ [job.markRunning now] } := by
  have hne : ∀ other ∈ s.claimed, other.id ≠ (job.markRunning now).id := by
    intro other hother heq
    have hstored := h.stored other hother
    rw [heq, Job.markRunning_id, hget] at hstored
    cases hstored.1
    rcases claimable_status hclaimable with hstatus | ⟨error, attempt, hstatus⟩
    . rw [hstatus] at hstored
      cases hstored.2
    . rw [hstatus] at hstored
      cases hstored.2
  refine ⟨?_, ?_, ?_⟩
  . intro id
    dsimp only
    rw [Table.get_insert]
    split
    . next heq =>
      rw [heq]
      exact .inr (h.deadLetters_get hget)
    . apply h.disjoint id
  . dsimp only
    rw [List.map_append, List.nodup_append]
    refine ⟨h.distinct, by simp, ?_⟩
    intro id hid id' hid'
    rcases List.mem_map.mp hid with ⟨other, hother, rfl⟩
    rw [List.map_cons, List.map_nil, List.mem_singleton] at hid'
    rw [hid']
    apply hne other hother
  . intro other hother
    dsimp only at hother ⊢
    rcases List.mem_append.mp hother with hother | hother
    . rw [Table.get_insert_of_ne _ (hne other hother)]
      apply h.stored other hother
    . rw [List.mem_singleton.mp hother]
      exact ⟨Table.get_insert_self _ _, rfl⟩

theorem step (h : Orderly s) {s' : JobDesk} {call : JobCall} (hstep : Step s call s')
    (hfresh : ∀ job, call = .enqueue job → s.store.jobs.get job.id = none →
      s.store.deadLetters.get job.id = none)
    : Orderly s' := by
  cases hstep with
  | unchanged => exact h
  | enqueued hget => apply h.insert (fun _ hnone => hnone) (hfresh _ rfl hget) hget
  | claimed hget hclaimable => apply h.claim hget hclaimable
  | executed hjob => apply h.execute hjob
  | @retried entry now hget =>
    apply h.insert
    . intro id hnone
      rw [Table.get_erase]
      split
      . rfl
      . exact hnone
    . apply Table.get_erase_self
    . rcases h.disjoint entry.id with hnone | hnone
      . exact hnone
      . rw [hget] at hnone
        cases hnone
  | @deleted entry hget =>
    refine ⟨?_, h.distinct, h.stored⟩
    intro id
    dsimp only
    rw [Table.get_erase]
    split
    . exact .inr rfl
    . apply h.disjoint id

end Orderly

/--
A round of the loop is a claim and, if there is a job to be had, its execution.
-/
theorem executorLoop_run (s : JobDesk) (hidle : s.claimed = []) (executor : JobExecutor)
    (tenantId : Option TenantId) (order : List JobId) (now : DateTime) (ks : List String)
    (clock : Nat → DateTime) (stats : ExecutorStats)
    : ∃ calls s', runs.run s (.claimNext tenantId order now :: calls) = some s'
        ∧ s'.claimed = []
        ∧ s'.store
            = (executor.executorLoop tenantId order now ks clock (s.store, stats)).1 := by
  unfold JobExecutor.executorLoop
  dsimp only
  rcases claimNext_cases s.store tenantId order now with ⟨-, hclaim⟩ | ⟨job, hget, -, -, hclaim⟩
  . refine ⟨[], s, ?_, hidle, ?_⟩
    . simp only [Machine.run, runs, step, hclaim]
    . rw [hclaim]
  . let held : JobDesk := { s with
      store := { s.store with jobs := s.store.jobs.insert (job.markRunning now) }
      claimed := [job.markRunning now] }
    refine ⟨[.executeJob 0 executor ks clock], held.execute 0 (job.markRunning now)
      executor ks clock,
      ?_, rfl, ?_⟩
    . simp [Machine.run, runs, step, hclaim, hidle, held]
    . rw [hclaim]
      rfl

end JobDesk

end ForgeErp
