import ForgeErp.Jobs.Lemmas.Attempts

/-!
This module contains the comparison of `execute_one` with `execute_job`. Both are given what
`claim_next` has returned, which is running already.
-/

namespace ForgeErp

namespace JobExecutor

open InMemoryJobStore

/--
What two ways of executing a job are compared by.
-/
structure Outline where
  status : JobStatus
  attempt : UInt32
  attempts : Nat
  scheduled : Bool
  deriving DecidableEq

def outline (job : Job) : Outline where
  status := job.status
  attempt := job.attempt
  attempts := job.history.length
  scheduled := job.scheduledAt.isSome

structure Agree (a b : Except String Unit × Job × InMemoryJobStore) : Prop where
  result : a.1.isOk = b.1.isOk
  jobs : ∀ id, (a.2.2.jobs.get id).map outline = (b.2.2.jobs.get id).map outline
  letters : ∀ id, (a.2.2.deadLetters.get id).map (fun entry => (outline entry.job, entry.reason))
    = (b.2.2.deadLetters.get id).map (fun entry => (outline entry.job, entry.reason))

variable [Backoff] [DebugFormat JobKind] [TextFormat Uuid] (executor : JobExecutor)
  (ks : List String)

-- With a handler, `execute_one` is `execute_job` for the job marked as running once more.
theorem executeOne_of_handler {handler : JobHandler} {job : Job} (clock : Nat → DateTime)
    (store : InMemoryJobStore) (h : executor.getHandler ks job.kind = some handler)
    : executor.executeOne ks clock store job
        = executor.executeJob ks (fun n => if n = 0 then clock 0 else clock (n + 1)) store
            (job.markRunning (clock 1)) := by
  have h' : executor.getHandler ks (job.markRunning (clock 1)).kind = some handler := h
  unfold executeOne executeJob
  rw [h, h']
  rfl

theorem executeOne_of_none {job : Job} (clock : Nat → DateTime) (store : InMemoryJobStore)
    (h : executor.getHandler ks job.kind = none)
    : (executor.executeOne ks clock store job).2.2 = store := by
  unfold executeOne
  rw [h]

/--
Where the job is found after its execution, and with which attempt.
-/
theorem executeJob_attempt (clock : Nat → DateTime) {store : InMemoryJobStore} {job stored : Job}
    (h : store.jobs.get job.id = some stored)
    : (∃ job', (executor.executeJob ks clock store job).2.2.jobs.get job.id = some job'
        ∧ job'.attempt = job.attempt ∧ job'.history.length = job.history.length + 1)
      ∨ ((executor.executeJob ks clock store job).2.2.jobs.get job.id = none
        ∧ ∃ entry, (executor.executeJob ks clock store job).2.2.deadLetters.get job.id = some entry
          ∧ entry.job.attempt = job.attempt) := by
  have hsettles := executor.settles_settle ks clock job
  have hid := hsettles.id
  rw [← hid] at h
  rw [executeJob_eq]
  dsimp only
  cases hreason : (executor.settle ks clock job).2 with
  | none =>
    rw [finish_stored clock h hreason]
    refine .inl ⟨_, ?_, hsettles.attempt, hsettles.history⟩
    dsimp only
    rw [← hid, Table.get_insert_self]
  | some reason =>
    rw [finish_buried clock h hreason]
    refine .inr ⟨?_, letter (executor.settle ks clock job).1 reason (clock 2) (clock 3), ?_,
      hsettles.attempt⟩
    . dsimp only
      rw [hid, Table.get_erase_self]
    . have hletter : (letter (executor.settle ks clock job).1 reason (clock 2) (clock 3)).id
        = job.id := hid
      dsimp only
      rw [← hletter, Table.get_insert_self]

theorem not_agree_of_get (clock clock' : Nat → DateTime) {store : InMemoryJobStore} {job : Job}
    (h : store.jobs.get job.id = some job)
    : ¬ Agree (executor.executeOne ks clock store job)
        (executor.executeJob ks clock' store job) := by
  intro hagree
  have hjobs := hagree.jobs job.id
  have hletters := hagree.letters job.id
  cases hhandler : executor.getHandler ks job.kind with
  | none =>
    -- one path stores the failure, the other stores nothing
    rw [executeOne_of_none executor ks clock store hhandler, h] at hjobs
    rcases executor.executeJob_attempt ks clock' h with ⟨job', hget, -, hhistory⟩ | ⟨hget, -⟩
    . rw [hget] at hjobs
      have hattempts := congrArg (Option.map Outline.attempts) hjobs
      simp only [Option.map_some, Option.some.injEq, outline] at hattempts
      omega
    . rw [hget] at hjobs
      cases hjobs
  | some handler =>
    -- wherever the job ends up, its attempts differ by one
    have hne : (job.markRunning (clock 1)).attempt ≠ job.attempt := by simp
    have hrunning : store.jobs.get (job.markRunning (clock 1)).id = some job := h
    rw [executeOne_of_handler executor ks clock store hhandler] at hjobs hletters
    rcases executor.executeJob_attempt ks clock' h with ⟨job', hget, hattempt, -⟩
      | ⟨hget, entry, hentry, hattempt⟩
    . rcases executor.executeJob_attempt ks (fun n => if n = 0 then clock 0 else clock (n + 1))
          hrunning
        with ⟨one, hone, hattempt', -⟩ | ⟨hone, -⟩
      . rw [Job.markRunning_id] at hone
        rw [hone, hget] at hjobs
        have hattempts := congrArg (Option.map Outline.attempt) hjobs
        simp only [Option.map_some, Option.some.injEq, outline] at hattempts
        apply hne
        rw [← hattempt', hattempts, hattempt]
      . rw [Job.markRunning_id] at hone
        rw [hone, hget] at hjobs
        cases hjobs
    . rcases executor.executeJob_attempt ks (fun n => if n = 0 then clock 0 else clock (n + 1))
          hrunning
        with ⟨one, hone, -⟩ | ⟨-, one, hone, hattempt'⟩
      . rw [Job.markRunning_id] at hone
        rw [hone, hget] at hjobs
        cases hjobs
      . rw [Job.markRunning_id] at hone
        rw [hone, hentry] at hletters
        have hattempts := congrArg (Option.map (fun letter => letter.1.attempt)) hletters
        simp only [Option.map_some, Option.some.injEq, outline] at hattempts
        apply hne
        rw [← hattempt', hattempts, hattempt]

theorem executeOne_never_agrees (executor : JobExecutor) (ks : List String)
    (clock clock' : Nat → DateTime)
    (store store' : InMemoryJobStore) (tenantId : Option TenantId)
    (order : List JobId) (now : DateTime)
    (job : Job) (h : store.claimNext tenantId order now = (some job, store'))
    : ¬ Agree (executor.executeOne ks clock store' job)
        (executor.executeJob ks clock' store' job) := by
  rcases claimNext_cases store tenantId order now with ⟨-, hclaim⟩ | ⟨stored, -, -, -, hclaim⟩
  . rw [hclaim] at h
    cases h
  . rw [hclaim] at h
    cases h
    apply not_agree_of_get
    apply Table.get_insert_self

end JobExecutor

namespace Workshop

open Concrete JobExecutor

def claimed (maxAttempts : UInt32) : Option Job × InMemoryJobStore :=
  (InMemoryJobStore.new.enqueue (job maxAttempts)).2.claimNext none [⟨⟨2⟩⟩] ⟨1⟩

theorem executeOne_never_agrees_boom
    : ¬ Agree
        ((executor (.failure "boom")).executeOne ["test"] clock (claimed 2).2
          ((job 2).markRunning ⟨1⟩))
        ((executor (.failure "boom")).executeJob ["test"] clock (claimed 2).2
          ((job 2).markRunning ⟨1⟩)) :=
  executeOne_never_agrees _ _ _ _ _ _ _ _ _ _
    (rfl : claimed 2 = (some ((job 2).markRunning ⟨1⟩), _))

-- With two attempts, the first failure is the last one on one of the paths only.
theorem first_failure_disagrees
    : (claimed 2).1 = some ((job 2).markRunning ⟨1⟩)
      ∧ ((executor (.failure "boom")).executeOne ["test"] clock (claimed 2).2
          ((job 2).markRunning ⟨1⟩)).2.1.status = .deadLettered "boom" 2
      ∧ ((executor (.failure "boom")).executeJob ["test"] clock (claimed 2).2
          ((job 2).markRunning ⟨1⟩)).2.1.status = .failed "boom" 1
      ∧ ¬ Agree
          ((executor (.failure "boom")).executeOne ["test"] clock (claimed 2).2
            ((job 2).markRunning ⟨1⟩))
          ((executor (.failure "boom")).executeJob ["test"] clock (claimed 2).2
            ((job 2).markRunning ⟨1⟩)) := by
  refine ⟨rfl, rfl, rfl, ?_⟩
  intro h
  cases h.jobs ⟨⟨2⟩⟩

end Workshop

end ForgeErp
