import ForgeErp.Jobs.Concurrent
import ForgeErp.Jobs.Lemmas.Store

/-!
This module contains what one step of an executor or a client can do, and that the steps of an
executor make up `execute_job`.
-/

namespace ForgeErp

namespace JobFloor

open InMemoryJobStore

def afterUpdate (job : Job) (reason : Option String) : ExecutorPhase :=
  match reason with
  | some reason => .burying job reason
  | none => .idle

variable [Backoff] [DebugFormat JobKind]

/--
Everything a step can do.
-/
inductive Step (s : JobFloor) : JobMove → JobFloor → Prop where
  | refused {job : Job} :
      Step s (.enqueue job) { s with used := job.id :: s.used }
  | enqueued {job : Job} :
      s.store.jobs.get job.id = none →
      Step s (.enqueue job) { s with
        store := { s.store with jobs := s.store.jobs.insert job }
        used := job.id :: s.used }
  | starved {who : Nat} {tenantId : Option TenantId} {order : List JobId} {now : DateTime} :
      Step s (.claimNext who tenantId order now) s
  | claimed {who : Nat} {tenantId : Option TenantId} {order : List JobId}
    {now : DateTime} {job : Job} :
      s.executors who = .idle →
      s.store.jobs.get job.id = some job →
      claimable tenantId now job = true →
      (∀ other ∈ s.store.jobs.values order, claimable tenantId now other = true →
        CreatedOrder job other) →
      Step s (.claimNext who tenantId order now) ({ s with
        store := { s.store with jobs := s.store.jobs.insert (job.markRunning now) }
        log := .handedOut who (job.markRunning now) :: s.log }.setExecutor who
          (.claimed (job.markRunning now)))
  | handled {who : Nat} {executor : JobExecutor} {ks : List String}
    {clock : Nat → DateTime} {job : Job} :
      s.executors who = .claimed job →
      Step s (.handle who executor ks clock)
        (s.setExecutor who (.settled (executor.settle ks clock job).1
          (executor.settle ks clock job).2))
  | lost {who : Nat} {job : Job} {reason : Option String} :
      s.executors who = .settled job reason →
      s.store.jobs.get job.id = none →
      Step s (.update who) (s.setExecutor who .idle)
  | stored {who : Nat} {job stored : Job} {reason : Option String} :
      s.executors who = .settled job reason →
      s.store.jobs.get job.id = some stored →
      Step s (.update who) ({ s with
        store := { s.store with jobs := s.store.jobs.insert job }
        log := .stored who job :: s.log }.setExecutor who (afterUpdate job reason))
  | buried {who : Nat} {job : Job} {reason : String} {now deadLetteredAt : DateTime} :
      s.executors who = .burying job reason →
      Step s (.deadLetter who now deadLetteredAt) ({ s with
        store := {
          jobs := s.store.jobs.erase job.id
          deadLetters := s.store.deadLetters.insert (letter job reason now deadLetteredAt)
        } }.setExecutor who .idle)
  | got {client : Nat} {job : Job} :
      s.store.jobs.get job.id = some job →
      Step s (.get client job.tenantId job.id) (s.setClient client (some job))
  | missed {client : Nat} {tenantId : TenantId} {jobId : JobId} :
      Step s (.get client tenantId jobId) (s.setClient client none)
  | cancelled {client : Nat} {now : DateTime} {job stored : Job} :
      s.clients client = some job →
      s.store.jobs.get job.id = some stored →
      Step s (.cancel client now) ({ s with
        store := { s.store with jobs := s.store.jobs.insert (job.markCancelled now) }
        }.setClient client none)
  | gone {client : Nat} {now : DateTime} {job : Job} :
      s.clients client = some job →
      Step s (.cancel client now) (s.setClient client none)

theorem step_cases {start : InMemoryJobStore} {s s' : JobFloor} {move : JobMove}
    (h : (runs start).step s move = some s') : Step s move s' := by
  cases move with
  | enqueue job =>
    simp only [runs, step, enqueue] at h
    cases hget : s.store.jobs.get job.id with
    | some stored =>
      rw [hget] at h
      cases h
      exact .refused
    | none =>
      rw [hget] at h
      cases h
      exact .enqueued hget
  | claimNext who tenantId order now =>
    simp only [runs, step] at h
    split at h
    . next hidle =>
      rcases claimNext_cases s.store tenantId order now with
        ⟨-, hclaim⟩ | ⟨job, hget, hclaimable, hfirst, hclaim⟩
      . rw [hclaim] at h
        cases h
        exact .starved
      . rw [hclaim] at h
        cases h
        exact .claimed hidle hget hclaimable hfirst
    . cases h
  | handle who executor ks clock =>
    simp only [runs, step] at h
    split at h
    . next job hclaimed =>
      cases h
      exact .handled hclaimed
    . cases h
  | update who =>
    simp only [runs, step] at h
    split at h
    . next job reason hsettled =>
      cases hget : s.store.jobs.get job.id with
      | none =>
        rw [update_of_absent _ hget] at h
        cases h
        exact .lost hsettled hget
      | some stored =>
        rw [update_of_get _ hget] at h
        cases h
        exact .stored hsettled hget
    . cases h
  | deadLetter who now deadLetteredAt =>
    simp only [runs, step] at h
    split at h
    . next job reason hburying =>
      rw [deadLetter_eq] at h
      cases h
      exact .buried hburying
    . cases h
  | get client tenantId jobId =>
    simp only [runs, step, InMemoryJobStore.get] at h
    cases hget : s.store.jobs.get jobId with
    | none =>
      rw [hget] at h
      cases h
      exact .missed
    | some job =>
      have hkey : job.id = jobId := Table.key_of_get hget
      subst hkey
      rw [hget] at h
      dsimp only at h
      by_cases htenant : job.tenantId = tenantId
      . rw [if_pos htenant] at h
        cases h
        subst htenant
        exact .got hget
      . rw [if_neg htenant] at h
        cases h
        exact .missed
  | cancel client now =>
    simp only [runs, step] at h
    split at h
    . next job hclient =>
      have hid : (job.markCancelled now).id = job.id := rfl
      cases hget : s.store.jobs.get job.id with
      | none =>
        rw [update_of_absent _ (hid ▸ hget)] at h
        cases h
        exact .gone hclient
      | some stored =>
        rw [update_of_get _ (hid ▸ hget)] at h
        cases h
        exact .cancelled hclient hget
    . cases h

section Frame

omit [Backoff] [DebugFormat JobKind]

@[simp]
theorem setExecutor_store (s : JobFloor) (who : Nat) (phase : ExecutorPhase)
    : (s.setExecutor who phase).store = s.store := rfl

@[simp]
theorem setExecutor_self (s : JobFloor) (who : Nat) (phase : ExecutorPhase)
    : (s.setExecutor who phase).executors who = phase := by
  simp [setExecutor]

theorem setExecutor_of_ne (s : JobFloor) {who who' : Nat} (phase : ExecutorPhase) (h : who' ≠ who)
    : (s.setExecutor who phase).executors who' = s.executors who' := by
  simp [setExecutor, h]

theorem setExecutor_cases (s : JobFloor) (who who' : Nat) (phase : ExecutorPhase)
    : (who' = who ∧ (s.setExecutor who phase).executors who' = phase)
      ∨ (who' ≠ who ∧ (s.setExecutor who phase).executors who' = s.executors who') := by
  by_cases h : who' = who
  . subst h
    exact .inl ⟨rfl, setExecutor_self s who' phase⟩
  . exact .inr ⟨h, setExecutor_of_ne s phase h⟩

@[simp]
theorem setClient_store (s : JobFloor) (client : Nat) (job : Option Job)
    : (s.setClient client job).store = s.store := rfl

end Frame

section Equations

variable (start : InMemoryJobStore) {s : JobFloor} {who : Nat} {job stored : Job}

theorem step_handle (h : s.executors who = .claimed job) (executor : JobExecutor) (ks : List String)
    (clock : Nat → DateTime)
    : (runs start).step s (.handle who executor ks clock)
        = some (s.setExecutor who
          (.settled (executor.settle ks clock job).1 (executor.settle ks clock job).2)) := by
  simp only [runs, step, h]

theorem step_update_absent {reason : Option String} (h : s.executors who = .settled job reason)
    (hget : s.store.jobs.get job.id = none)
    : (runs start).step s (.update who) = some (s.setExecutor who .idle) := by
  simp only [runs, step, h, update_of_absent _ hget]

theorem step_update {reason : Option String} (h : s.executors who = .settled job reason)
    (hget : s.store.jobs.get job.id = some stored)
    : (runs start).step s (.update who) = some ({ s with
        store := { s.store with jobs := s.store.jobs.insert job }
        log := .stored who job :: s.log }.setExecutor who (afterUpdate job reason)) := by
  simp only [runs, step, h, update_of_get _ hget]
  rfl

theorem step_deadLetter {reason : String} (h : s.executors who = .burying job reason)
    (now deadLetteredAt : DateTime)
    : (runs start).step s (.deadLetter who now deadLetteredAt)
        = some ({ s with store := s.store.deadLetter job reason now deadLetteredAt }.setExecutor who
            .idle) := by
  simp only [runs, step, h]

/--
The steps of an executor on a job that it has been handed make up `execute_job`.
-/
theorem executeJob_run [TextFormat Uuid] (h : s.executors who = .claimed job)
    (executor : JobExecutor)
    (ks : List String) (clock : Nat → DateTime)
    : ∃ moves s', (runs start).run s (.handle who executor ks clock :: .update who :: moves)
        = some s'
        ∧ s'.executors who = .idle
        ∧ s'.store = (executor.executeJob ks clock s.store job).2.2 := by
  have hhandle := step_handle start h executor ks clock
  rw [JobExecutor.executeJob_eq]
  generalize executor.settle ks clock job = settled at hhandle
  rcases settled with ⟨job', reason⟩
  have hsettled := setExecutor_self s who (.settled job' reason)
  unfold JobExecutor.finish
  dsimp only at hhandle ⊢
  cases hget : s.store.jobs.get job'.id with
  | none =>
    rw [update_of_absent _ hget]
    refine ⟨[], (s.setExecutor who (.settled job' reason)).setExecutor who .idle, ?_,
      setExecutor_self _ _ _, rfl⟩
    rw [Machine.run_cons hhandle, Machine.run_cons (step_update_absent start hsettled hget)]
    rfl
  | some stored =>
    have hupdate := step_update start hsettled hget
    rw [update_of_get _ hget]
    cases reason with
    | none =>
      have hrun : (runs start).run s [.handle who executor ks clock, .update who] = _ :=
        (Machine.run_cons hhandle _).trans (Machine.run_cons hupdate _)
      exact ⟨[], _, hrun, setExecutor_self _ _ _, rfl⟩
    | some reason =>
      have hbury := fun t => step_deadLetter start (setExecutor_self t who (.burying job' reason))
        (clock 2) (clock 3)
      have hrun : (runs start).run s [.handle who executor ks clock, .update who,
          .deadLetter who (clock 2) (clock 3)] = _ :=
        (Machine.run_cons hhandle _).trans ((Machine.run_cons hupdate _).trans
          (Machine.run_cons (hbury _) _))
      exact ⟨[_], _, hrun, setExecutor_self _ _ _, rfl⟩

end Equations

end JobFloor

end ForgeErp
