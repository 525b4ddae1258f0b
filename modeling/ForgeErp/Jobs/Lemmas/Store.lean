import ForgeErp.Jobs.Executor
import Mathlib.Tactic.Common

/-!
This module contains the specifications of the operations on jobs: what a claim can do, and what
becomes of a job between its claim and the call with which it is stored again.
-/

namespace ForgeErp

instance : Std.Total InMemoryJobStore.CreatedOrder where
  total a b := by
    unfold InMemoryJobStore.CreatedOrder
    omega

instance : IsTrans Job InMemoryJobStore.CreatedOrder where
  trans a b c := by
    unfold InMemoryJobStore.CreatedOrder
    omega

namespace Job

@[simp]
theorem markRunning_id (job : Job) (now : DateTime) : (job.markRunning now).id = job.id := rfl

@[simp]
theorem markRunning_status (job : Job) (now : DateTime)
    : (job.markRunning now).status = .running := rfl

@[simp]
theorem markRunning_attempt (job : Job) (now : DateTime)
    : (job.markRunning now).attempt = job.attempt + 1 := rfl

@[simp]
theorem markRunning_history (job : Job) (now : DateTime)
    : (job.markRunning now).history = job.history := rfl

@[simp]
theorem markRunning_retryPolicy (job : Job) (now : DateTime)
    : (job.markRunning now).retryPolicy = job.retryPolicy := rfl

@[simp]
theorem markRunning_tenantId (job : Job) (now : DateTime)
    : (job.markRunning now).tenantId = job.tenantId := rfl

@[simp]
theorem markCancelled_id (job : Job) (now : DateTime) : (job.markCancelled now).id = job.id := rfl

/--
How the status of a job stands to its attempt once the attempt is over.
-/
inductive Concluded (job : Job) : JobStatus → Prop where
  | completed : Concluded job .completed
  | failed {error : String} : job.retryPolicy.shouldRetry job.attempt = true →
      Concluded job (.failed error job.attempt)
  | deadLettered {error : String} : job.retryPolicy.shouldRetry job.attempt = false →
      Concluded job (.deadLettered error job.attempt)

/--
`job'` is the job after one more attempt.
-/
structure Settles (job job' : Job) : Prop where
  id : job'.id = job.id
  tenantId : job'.tenantId = job.tenantId
  retryPolicy : job'.retryPolicy = job.retryPolicy
  attempt : job'.attempt = job.attempt
  history : job'.history.length = job.history.length + 1
  status : job.Concluded job'.status

theorem settles_markCompleted (job : Job) (startedAt now : DateTime)
    : job.Settles (job.markCompleted startedAt now) where
  id := rfl
  tenantId := rfl
  retryPolicy := rfl
  attempt := rfl
  history := by simp [markCompleted]
  status := .completed

theorem settles_markFailed [Backoff] (job : Job) (error : String) (startedAt now : DateTime)
    : job.Settles (job.markFailed error startedAt now) := by
  unfold markFailed
  dsimp only
  split
  . next hretry =>
    refine ⟨rfl, rfl, rfl, rfl, ?_, .failed hretry⟩
    simp
  . next hretry =>
    refine ⟨rfl, rfl, rfl, rfl, ?_, .deadLettered (Bool.eq_false_iff.mpr hretry)⟩
    simp

theorem Settles.schedule {job job' : Job} (h : job.Settles job') (at_ : Option DateTime)
    : job.Settles { job' with scheduledAt := at_ } :=
  ⟨h.id, h.tenantId, h.retryPolicy, h.attempt, h.history, h.status⟩

theorem Concluded.isDeadLettered_iff {job : Job} {status : JobStatus} (h : job.Concluded status)
    : status.isDeadLettered = true ↔ status ≠ .completed
      ∧ job.retryPolicy.shouldRetry job.attempt = false := by
  cases h with
  | completed => simp [JobStatus.isDeadLettered]
  | failed hretry => simp [JobStatus.isDeadLettered, hretry]
  | deadLettered hretry => simp [JobStatus.isDeadLettered, hretry]

end Job

namespace InMemoryJobStore

variable (store : InMemoryJobStore)

theorem claimNext_cases (tenantId : Option TenantId) (ks : List JobId) (now : DateTime)
    : ((∀ job ∈ store.jobs.values ks, claimable tenantId now job = false)
        ∧ store.claimNext tenantId ks now = (none, store))
      ∨ ∃ job, store.jobs.get job.id = some job
        ∧ claimable tenantId now job = true
        ∧ (∀ other ∈ store.jobs.values ks, claimable tenantId now other = true →
            CreatedOrder job other)
        ∧ store.claimNext tenantId ks now
            = (some (job.markRunning now),
              { store with jobs := store.jobs.insert (job.markRunning now) }) := by
  unfold claimNext
  dsimp only
  have hsorted := List.pairwise_insertionSort CreatedOrder
    ((store.jobs.values ks).filter (claimable tenantId now))
  have hmem : ∀ job, job ∈ ((store.jobs.values ks).filter (claimable tenantId now)).insertionSort
      CreatedOrder ↔ job ∈ store.jobs.values ks ∧ claimable tenantId now job = true := by
    intro job
    rw [List.mem_insertionSort, List.mem_filter]
  generalize ((store.jobs.values ks).filter (claimable tenantId now)).insertionSort CreatedOrder
    = candidates at hsorted hmem
  cases candidates with
  | nil =>
    refine .inl ⟨?_, rfl⟩
    intro job hjob
    rw [Bool.eq_false_iff]
    intro hclaimable
    cases (hmem job).mpr ⟨hjob, hclaimable⟩
  | cons job rest =>
    refine .inr ⟨job, ?_⟩
    rcases (hmem job).mp (by simp) with ⟨hvalue, hclaimable⟩
    have hget := (Table.mem_values.mp hvalue).2
    refine ⟨hget, hclaimable, ?_, ?_⟩
    . intro other hother hclaimable'
      rcases List.mem_cons.mp ((hmem other).mpr ⟨hother, hclaimable'⟩) with rfl | hrest
      . exact Int.le_refl _
      . apply List.rel_of_pairwise_cons hsorted hrest
    . simp only [List.head?_cons, hget]

theorem claimable_status {tenantId : Option TenantId} {now : DateTime} {job : Job}
    (h : claimable tenantId now job = true)
    : job.status = .pending ∨ ∃ error attempt, job.status = .failed error attempt := by
  unfold claimable at h
  rw [Bool.and_eq_true, Bool.and_eq_true] at h
  cases hstatus : job.status with
  | pending => exact .inl rfl
  | failed error attempt => exact .inr ⟨error, attempt, rfl⟩
  | running =>
    rw [hstatus] at h
    cases h.1.1
  | completed =>
    rw [hstatus] at h
    cases h.1.1
  | deadLettered =>
    rw [hstatus] at h
    cases h.1.1
  | cancelled =>
    rw [hstatus] at h
    cases h.1.1

theorem update_of_get {job stored : Job} (h : store.jobs.get job.id = some stored)
    : store.update job = (.ok (), { store with jobs := store.jobs.insert job }) := by
  unfold update
  rw [h]

theorem update_of_absent {job : Job} (h : store.jobs.get job.id = none)
    : store.update job = (.error (.notFound job.id), store) := by
  unfold update
  rw [h]

/--
The entry under which a job is found among the dead letters.
-/
def letter (job : Job) (reason : String) (now deadLetteredAt : DateTime) : DeadLetterEntry where
  job := { job with status := .deadLettered reason job.attempt, updatedAt := now }
  deadLetteredAt
  reason

theorem deadLetter_eq (job : Job) (reason : String) (now deadLetteredAt : DateTime)
    : store.deadLetter job reason now deadLetteredAt
        = { jobs := store.jobs.erase job.id
            deadLetters := store.deadLetters.insert (letter job reason now deadLetteredAt) } := rfl

theorem retryDeadLetter_cases (tenantId : TenantId) (jobId : JobId) (now : DateTime)
    : (∃ err, store.retryDeadLetter tenantId jobId now = (.error err, store))
      ∨ ∃ entry, store.deadLetters.get jobId = some entry
        ∧ entry.job.tenantId = tenantId
        ∧ store.retryDeadLetter tenantId jobId now
            = (.ok (retried entry.job now), {
                jobs := store.jobs.insert (retried entry.job now)
                deadLetters := store.deadLetters.erase jobId }) := by
  unfold retryDeadLetter
  cases hentry : store.deadLetters.get jobId with
  | none => exact .inl ⟨_, rfl⟩
  | some entry =>
    dsimp only
    split
    . have hkey : entry.id = jobId := Table.key_of_get hentry
      subst hkey
      rw [Table.insert_erase _ hentry]
      exact .inl ⟨_, rfl⟩
    . next htenant =>
      refine .inr ⟨entry, rfl, ?_, rfl⟩
      exact Decidable.not_not.mp htenant

theorem deleteDeadLetter_cases (tenantId : TenantId) (jobId : JobId)
    : (∃ err, store.deleteDeadLetter tenantId jobId = (.error err, store))
      ∨ ∃ entry, store.deadLetters.get jobId = some entry
        ∧ entry.job.tenantId = tenantId
        ∧ store.deleteDeadLetter tenantId jobId
            = (.ok (), { store with deadLetters := store.deadLetters.erase jobId }) := by
  unfold deleteDeadLetter
  cases store.deadLetters.get jobId with
  | none => exact .inl ⟨_, rfl⟩
  | some entry =>
    dsimp only
    split
    . exact .inl ⟨_, rfl⟩
    . next htenant =>
      refine .inr ⟨entry, rfl, ?_, rfl⟩
      exact Decidable.not_not.mp htenant

end InMemoryJobStore

namespace JobExecutor

variable [Backoff] [DebugFormat JobKind]

variable (executor : JobExecutor) (ks : List String) (clock : Nat → DateTime)

theorem settles_settle (job : Job) : job.Settles (executor.settle ks clock job).1 := by
  unfold settle
  split
  . apply Job.settles_markFailed
  . split
    . apply Job.settles_markCompleted
    . apply Job.settles_markFailed
    . apply Job.Settles.schedule
      apply Job.settles_markFailed
    . apply Job.Settles.schedule
      apply Job.settles_markFailed

theorem isDeadLettered_of_settle {job : Job} {reason : String}
    (h : (executor.settle ks clock job).2 = some reason)
    : (executor.settle ks clock job).1.status.isDeadLettered = true := by
  unfold settle at h ⊢
  split at h
  . cases h
  . split at h
    . cases h
    . next hresult =>
      dsimp only at h ⊢
      split at h
      . next hdead => exact hdead
      . cases h
    . cases h
    . cases h

section Finish

variable {store : InMemoryJobStore} {settled : Job × Option String} {stored : Job}

omit [Backoff] [DebugFormat JobKind]

theorem finish_stored (h : store.jobs.get settled.1.id = some stored) (hreason : settled.2 = none)
    : finish clock store settled = { store with jobs := store.jobs.insert settled.1 } := by
  unfold finish
  rw [InMemoryJobStore.update_of_get _ h, hreason]

theorem finish_buried {reason : String} (h : store.jobs.get settled.1.id = some stored)
    (hreason : settled.2 = some reason)
    : finish clock store settled
        = { jobs := store.jobs.erase settled.1.id
            deadLetters := store.deadLetters.insert
              (InMemoryJobStore.letter settled.1 reason (clock 2) (clock 3)) } := by
  unfold finish
  rw [InMemoryJobStore.update_of_get _ h, hreason]
  dsimp only
  rw [InMemoryJobStore.deadLetter_eq, Table.erase_insert]

end Finish

variable [TextFormat Uuid]

/--
`execute_job` in its steps.
-/
theorem executeJob_eq (store : InMemoryJobStore) (job : Job)
    : (executor.executeJob ks clock store job).2
        = ((executor.settle ks clock job).1,
            finish clock store (executor.settle ks clock job)) := by
  unfold executeJob settle
  cases executor.getHandler ks job.kind with
  | none =>
    dsimp only [finish]
    split
    . next h => rw [h]
    . next h => rw [h]
  | some handler =>
    dsimp only
    cases handler job with
    | success =>
      dsimp only [finish]
      split <;> rfl
    | failure error =>
      dsimp only [finish]
      split
      . rfl
      . split
        . rfl
        . rfl
    | retryNow =>
      dsimp only [finish]
      split <;> rfl
    | retryAfter delay =>
      dsimp only [finish]
      split <;> rfl

end JobExecutor

end ForgeErp
