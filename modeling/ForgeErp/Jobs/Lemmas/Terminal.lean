import ForgeErp.Core.Text
import ForgeErp.Jobs.Lemmas.Conservation
import ForgeErp.Jobs.Lemmas.Concurrent

/-!
This module contains the verification of the last states of a job. Nobody looks at the status that
is stored when a copy is written back, so that it matters who holds a copy when a last status is
stored.
-/

namespace ForgeErp

namespace JobFloor

open InMemoryJobStore

def storedStatus (s : JobFloor) (id : JobId) : Option JobStatus :=
  (s.store.jobs.get id).map Job.status

/--
Whenever a client stores a cancelled copy, the job is not completed and no executor is at work on
it.
-/
def Exclusive (s : JobFloor) (move : JobMove) : Prop :=
  match move with
  | .cancel client _ =>
    ∀ copy, s.clients client = some copy →
      s.storedStatus copy.id ≠ some .completed
      ∧ ∀ who job, (s.executors who).job? = some job → job.id ≠ copy.id
  | _ => True

def Busy (status : JobStatus) : Prop :=
  status = .running ∨ status.isDeadLettered = true

structure Guarded (s : JobFloor) : Prop where
  single : ∀ who who' job job', (s.executors who).job? = some job →
    (s.executors who').job? = some job' →
    job.id = job'.id → who = who'
  held : ∀ who job, (s.executors who).job? = some job →
    ∃ stored, s.store.jobs.get job.id = some stored ∧ Busy stored.status
  marked : ∀ who job reason, s.executors who = .settled job (some reason) →
    job.status.isDeadLettered = true

theorem not_busy_of_claimable {tenantId : Option TenantId} {now : DateTime} {job : Job}
    (h : claimable tenantId now job = true) : ¬ Busy job.status := by
  rcases claimable_status h with hstatus | ⟨error, attempt, hstatus⟩
  . rw [hstatus]
    simp [Busy, JobStatus.isDeadLettered]
  . rw [hstatus]
    simp [Busy, JobStatus.isDeadLettered]

theorem not_final_of_claimable {tenantId : Option TenantId} {now : DateTime} {job : Job}
    (h : claimable tenantId now job = true) : ¬ (job.status = .completed
      ∨ job.status = .cancelled) := by
  rcases claimable_status h with hstatus | ⟨error, attempt, hstatus⟩
  . simp [hstatus]
  . simp [hstatus]

theorem not_busy_of_final {status : JobStatus} (h : status = .completed ∨ status = .cancelled)
    : ¬ Busy status := by
  rcases h with rfl | rfl <;> simp [Busy, JobStatus.isDeadLettered]

namespace Guarded

variable {s s' : JobFloor}

-- A job that is stored with a status other than those of a job at work is held by nobody.
theorem free (h : Guarded s) {id : JobId} {stored : Job} (hget : s.store.jobs.get id = some stored)
    (hbusy : ¬ Busy stored.status) {who : Nat} {job : Job}
    (hjob : (s.executors who).job? = some job)
    : job.id ≠ id := by
  rintro rfl
  rcases h.held who job hjob with ⟨stored', hget', hbusy'⟩
  rw [hget] at hget'
  cases hget'
  exact hbusy hbusy'

theorem claim (h : Guarded s) {who : Nat} {tenantId : Option TenantId} {now : DateTime} {job : Job}
    {log : List FloorEvent} (hget : s.store.jobs.get job.id = some job)
    (hclaimable : claimable tenantId now job = true)
    : Guarded ({ s with
        store := { s.store with jobs := s.store.jobs.insert (job.markRunning now) }
        log }.setExecutor who (.claimed (job.markRunning now))) := by
  have hfree : ∀ who job', (s.executors who).job? = some job' →
    job'.id ≠ (job.markRunning now).id := by
    intro who' job' hjob'
    apply h.free hget (not_busy_of_claimable hclaimable) hjob'
  refine ⟨?_, ?_, ?_⟩
  . intro who₁ who₂ job₁ job₂ h₁ h₂ hid
    rcases setExecutor_cases _ who who₁ _ with ⟨rfl, hphase₁⟩ | ⟨-, hphase₁⟩
    . rw [hphase₁] at h₁
      cases h₁
      rcases setExecutor_cases _ who₁ who₂ _ with ⟨rfl, -⟩ | ⟨-, hphase₂⟩
      . rfl
      . rw [hphase₂] at h₂
        apply absurd hid.symm (hfree who₂ job₂ h₂)
    . rw [hphase₁] at h₁
      rcases setExecutor_cases _ who who₂ _ with ⟨rfl, hphase₂⟩ | ⟨-, hphase₂⟩
      . rw [hphase₂] at h₂
        cases h₂
        apply absurd hid (hfree who₁ job₁ h₁)
      . rw [hphase₂] at h₂
        apply h.single who₁ who₂ job₁ job₂ h₁ h₂ hid
  . intro who' job' hjob'
    dsimp only [setExecutor_store]
    rcases setExecutor_cases _ who who' _ with ⟨rfl, hphase⟩ | ⟨-, hphase⟩
    . rw [hphase] at hjob'
      cases hjob'
      exact ⟨_, Table.get_insert_self _ _, .inl rfl⟩
    . rw [hphase] at hjob'
      rw [Table.get_insert_of_ne _ (hfree who' job' hjob')]
      apply h.held who' job' hjob'
  . intro who' job' reason hsettled
    rcases setExecutor_cases _ who who' _ with ⟨rfl, hphase⟩ | ⟨-, hphase⟩
    . rw [hphase] at hsettled
      cases hsettled
    . rw [hphase] at hsettled
      apply h.marked who' job' reason hsettled

theorem change (h : Guarded s) {who : Nat} {phase : ExecutorPhase} {store : InMemoryJobStore}
    {log : List FloorEvent}
    (hholds : ∀ job', phase.job? = some job' → ∃ job, (s.executors who).job? = some job
      ∧ job.id = job'.id)
    (hheld : ∀ job', phase.job? = some job' →
      ∃ stored, store.jobs.get job'.id = some stored ∧ Busy stored.status)
    (hmarked : ∀ job reason, phase = .settled job (some reason) → job.status.isDeadLettered = true)
    (hothers : ∀ id, (∀ job, (s.executors who).job? = some job → id ≠ job.id) →
      store.jobs.get id = s.store.jobs.get id)
    : Guarded ({ s with store, log }.setExecutor who phase) := by
  have hholders : ∀ who' job', (({ s with store, log }.setExecutor who phase).executors who').job?
    = some job' →
      ∃ job, (s.executors who').job? = some job ∧ job.id = job'.id := by
    intro who' job' hjob'
    rcases setExecutor_cases { s with store, log } who who' phase with ⟨rfl, hphase⟩ | ⟨-, hphase⟩
    . rw [hphase] at hjob'
      apply hholds job' hjob'
    . rw [hphase] at hjob'
      exact ⟨job', hjob', rfl⟩
  refine ⟨?_, ?_, ?_⟩
  . intro who₁ who₂ job₁ job₂ h₁ h₂ hid
    rcases hholders who₁ job₁ h₁ with ⟨old₁, hold₁, heq₁⟩
    rcases hholders who₂ job₂ h₂ with ⟨old₂, hold₂, heq₂⟩
    apply h.single who₁ who₂ old₁ old₂ hold₁ hold₂
    rw [heq₁, heq₂, hid]
  . intro who' job' hjob'
    rcases setExecutor_cases { s with store, log } who who' phase with ⟨rfl, hphase⟩ | ⟨hne, hphase⟩
    . rw [hphase] at hjob'
      apply hheld job' hjob'
    . rw [hphase] at hjob'
      dsimp only [setExecutor_store]
      rw [hothers]
      . apply h.held who' job' hjob'
      . intro job hjob hid
        exact hne (h.single who' who job' job hjob' hjob hid)
  . intro who' job reason hsettled
    rcases setExecutor_cases { s with store, log } who who' phase with ⟨rfl, hphase⟩ | ⟨-, hphase⟩
    . rw [hphase] at hsettled
      apply hmarked job reason hsettled
    . rw [hphase] at hsettled
      apply h.marked who' job reason hsettled

theorem update (h : Guarded s) {who : Nat} {job : Job} {reason : Option String}
    {log : List FloorEvent}
    (hsettled : s.executors who = .settled job reason)
    : Guarded ({ s with
        store := { s.store with jobs := s.store.jobs.insert job }
        log }.setExecutor who (afterUpdate job reason)) := by
  have hjob : (s.executors who).job? = some job := by
    rw [hsettled]
    rfl
  apply h.change
  . intro job' hjob'
    cases reason with
    | none => cases hjob'
    | some reason =>
      cases hjob'
      exact ⟨job, hjob, rfl⟩
  . intro job' hjob'
    cases reason with
    | none => cases hjob'
    | some reason =>
      cases hjob'
      exact ⟨job, Table.get_insert_self _ _, .inr (h.marked who job reason hsettled)⟩
  . intro job' reason' hphase
    cases reason <;> cases hphase
  . intro id hne
    apply Table.get_insert_of_ne _ (hne job hjob)

theorem bury (h : Guarded s) {who : Nat} {job : Job} {reason : String}
    {deadLetters : Table DeadLetterEntry.id} (hburying : s.executors who = .burying job reason)
    : Guarded
        ({ s with store := { jobs := s.store.jobs.erase job.id, deadLetters } }.setExecutor
          who .idle) := by
  have hjob : (s.executors who).job? = some job := by
    rw [hburying]
    rfl
  apply h.change
  . intro job' hjob'
    cases hjob'
  . intro job' hjob'
    cases hjob'
  . intro job' reason' hphase
    cases hphase
  . intro id hne
    apply Table.get_erase_of_ne _ (hne job hjob)

-- Jobs that nobody at work holds may be written.
theorem write (h : Guarded s) {job : Job} {clients : Nat → Option Job} {used : List JobId}
    (hfree : ∀ who job', (s.executors who).job? = some job' → job'.id ≠ job.id)
    : Guarded { s with
        store := { s.store with jobs := s.store.jobs.insert job }
        clients, used } := by
  refine ⟨h.single, ?_, h.marked⟩
  intro who job' hjob'
  dsimp only
  rw [Table.get_insert_of_ne _ (hfree who job' hjob')]
  apply h.held who job' hjob'

variable [Backoff] [DebugFormat JobKind]

theorem handle (h : Guarded s) {who : Nat} {job : Job} (hclaimed : s.executors who = .claimed job)
    (executor : JobExecutor) (ks : List String) (clock : Nat → DateTime)
    : Guarded (s.setExecutor who
        (.settled (executor.settle ks clock job).1 (executor.settle ks clock job).2)) := by
  have hid := (executor.settles_settle ks clock job).id
  have hjob : (s.executors who).job? = some job := by
    rw [hclaimed]
    rfl
  apply h.change
  . intro job' hjob'
    cases hjob'
    exact ⟨job, hjob, hid.symm⟩
  . intro job' hjob'
    cases hjob'
    rw [hid]
    apply h.held who job hjob
  . intro job' reason hphase
    injection hphase with hjob' hreason
    rw [← hjob']
    apply executor.isDeadLettered_of_settle ks clock hreason
  . exact fun _ _ => rfl

theorem storedStatus_step {move : JobMove} (h : Guarded s) (hok : Exclusive s move)
    (hstep : Step s move s')
    {id : JobId} {status : JobStatus} (hfinal : status = .completed ∨ status = .cancelled)
    (hstatus : s.storedStatus id = some status) : s'.storedStatus id = some status := by
  rcases Option.map_eq_some_iff.mp hstatus with ⟨stored, hget, rfl⟩
  have hfree := not_busy_of_final hfinal
  unfold storedStatus
  cases hstep with
  | refused => exact hstatus
  | enqueued hnone =>
    rw [Table.get_insert_of_ne]
    . exact hstatus
    . rintro rfl
      rw [hget] at hnone
      cases hnone
  | starved => exact hstatus
  | @claimed who tenantId order now job hidle hjob hclaimable _ =>
    dsimp only [setExecutor_store]
    rw [Table.get_insert_of_ne]
    . exact hstatus
    . rintro rfl
      rw [Job.markRunning_id, hjob] at hget
      cases hget
      apply not_final_of_claimable hclaimable hfinal
  | handled => exact hstatus
  | lost => exact hstatus
  | @stored who job _ reason hsettled _ =>
    dsimp only [setExecutor_store]
    rw [Table.get_insert_of_ne]
    . exact hstatus
    . apply (h.free hget hfree _).symm
      . exact who
      . rw [hsettled]
        rfl
  | @buried who job reason now deadLetteredAt hburying =>
    dsimp only [setExecutor_store]
    rw [Table.get_erase_of_ne]
    . exact hstatus
    . apply (h.free hget hfree _).symm
      . exact who
      . rw [hburying]
        rfl
  | got => exact hstatus
  | missed => exact hstatus
  | @cancelled client now job _ hclient _ =>
    dsimp only [setClient_store]
    by_cases heq : id = (job.markCancelled now).id
    . rw [heq, Job.markCancelled_id] at hstatus
      rcases hfinal with hcompleted | hcancelled
      . apply absurd _ (hok job hclient).1
        rw [hstatus, hcompleted]
      . rw [hcancelled, heq, Table.get_insert_self]
        rfl
    . rw [Table.get_insert_of_ne _ heq]
      exact hstatus
  | gone => exact hstatus

theorem step {move : JobMove} (h : Guarded s) (hok : Exclusive s move) (hstep : Step s move s')
    : Guarded s' := by
  cases hstep with
  | refused => exact ⟨h.single, h.held, h.marked⟩
  | @enqueued job hnone =>
    apply h.write
    intro who job' hjob' hid
    rcases h.held who job' hjob' with ⟨stored, hget, -⟩
    rw [hid, hnone] at hget
    cases hget
  | starved => exact h
  | claimed _ hget hclaimable _ => apply h.claim hget hclaimable
  | handled hclaimed => apply h.handle hclaimed
  | @lost who job reason hsettled hnone =>
    rcases h.held who job (by rw [hsettled]; rfl) with ⟨stored, hget, -⟩
    rw [hnone] at hget
    cases hget
  | stored hsettled _ => apply h.update hsettled
  | buried hburying => apply h.bury hburying
  | got => exact ⟨h.single, h.held, h.marked⟩
  | missed => exact ⟨h.single, h.held, h.marked⟩
  | @cancelled client now job _ hclient _ =>
    apply h.write
    exact (hok job hclient).2
  | gone => exact ⟨h.single, h.held, h.marked⟩

theorem of_reachable {start : InMemoryJobStore} (hs : (runs start).ReachableUnder Exclusive s)
    : Guarded s := by
  apply Machine.ReachableUnder.invariant _ _ s hs
  . rintro _ rfl
    refine ⟨?_, ?_, ?_⟩
    . intro who who' job job' hjob
      cases hjob
    . intro who job hjob
      cases hjob
    . intro who job reason hsettled
      cases hsettled
  . intro s move s' h hok hstep
    apply h.step hok (step_cases hstep)

theorem storedStatus_run {start : InMemoryJobStore} {moves : List JobMove} (h : Guarded s)
    (hok : (runs start).OkAlong Exclusive s moves) (hrun : (runs start).run s moves = some s')
    {id : JobId} {status : JobStatus} (hfinal : status = .completed ∨ status = .cancelled)
    (hstatus : s.storedStatus id = some status) : s'.storedStatus id = some status := by
  induction moves generalizing s with
  | nil =>
    simp only [Machine.run, Option.some.injEq] at hrun
    rw [← hrun]
    exact hstatus
  | cons move moves ih =>
    unfold Machine.run at hrun
    split at hrun
    . next next hstep =>
      have hcases := step_cases hstep
      apply ih (h.step hok.1 hcases) (hok.2 next hstep) hrun
      apply h.storedStatus_step hok.1 hcases hfinal hstatus
    . cases hrun

end Guarded

variable [Backoff] [DebugFormat JobKind]

theorem terminal_final (start : InMemoryJobStore) (s t : JobFloor) (moves : List JobMove)
    (hs : (runs start).ReachableUnder Exclusive s) (hok : (runs start).OkAlong Exclusive s moves)
    (hrun : (runs start).run s moves = some t) (id : JobId) (status : JobStatus)
    (hfinal : status = .completed ∨ status = .cancelled)
    : s.storedStatus id = some status → t.storedStatus id = some status := by
  intro hstatus
  apply (Guarded.of_reachable hs).storedStatus_run hok hrun hfinal hstatus

end JobFloor

namespace Workshop

open Concrete JobFloor

def floorAfter (moves : List JobMove) : JobFloor :=
  ((runs .new).run (opened .new) moves).getD (opened .new)

theorem floorAfter_reachable {moves : List JobMove}
    (h : (runs .new).run (opened .new) moves = some (floorAfter moves))
    : (runs .new).Reachable (floorAfter moves) := by
  apply Machine.ReachableUnder.run (.init rfl) (fun _ _ _ => trivial) h

-- The job is cancelled before anybody has claimed it.
def early : List JobMove := [
  .enqueue (job 1),
  .get 0 tenantId ⟨⟨2⟩⟩,
  .cancel 0 ⟨1⟩]

def attempted : List JobMove := [
  .claimNext 0 none [⟨⟨2⟩⟩] ⟨2⟩]

theorem terminal_final_early
    : (floorAfter early).storedStatus ⟨⟨2⟩⟩ = some .cancelled
      ∧ (floorAfter (early ++ attempted)).storedStatus ⟨⟨2⟩⟩ = some .cancelled := by
  have hstatus : (floorAfter early).storedStatus ⟨⟨2⟩⟩ = some .cancelled := rfl
  have hrun : (runs .new).run (opened .new) early = some (floorAfter early) := rfl
  have hrun' : (runs .new).run (floorAfter early) attempted
    = some (floorAfter (early ++ attempted)) := rfl
  have hok : (runs .new).OkAlong Exclusive (opened .new) early := by
    refine ⟨trivial, ?_⟩
    rintro _ ⟨⟩
    refine ⟨trivial, ?_⟩
    rintro _ ⟨⟩
    refine ⟨?_, fun _ _ => trivial⟩
    rintro _ ⟨⟩
    refine ⟨?_, ?_⟩
    . rintro ⟨⟩
    . rintro who job ⟨⟩
  have hok' : (runs .new).OkAlong Exclusive (floorAfter early) attempted :=
    ⟨trivial, fun _ _ => trivial⟩
  refine ⟨hstatus, ?_⟩
  apply terminal_final .new (floorAfter early) _ _ _ hok' hrun' _ _ (.inr rfl) hstatus
  apply Machine.ReachableUnder.runAlong (.init rfl) hok hrun

-- The job is cancelled while its handler runs.
def late : List JobMove := [
  .enqueue (job 1),
  .claimNext 0 none [⟨⟨2⟩⟩] ⟨1⟩,
  .get 0 tenantId ⟨⟨2⟩⟩,
  .cancel 0 ⟨2⟩]

def completion : List JobMove := [
  .handle 0 (executor .success) ["test"] clock,
  .update 0]

/--
A job that is cancelled while it runs is completed nevertheless.
-/
theorem cancellation_lost
    : ¬ ∀ start s t moves id status, (runs start).Reachable s → (runs start).run s moves = some t →
        status = .completed ∨ status = .cancelled →
        s.storedStatus id = some status → t.storedStatus id = some status := by
  intro h
  have hrun : (runs .new).run (opened .new) late = some (floorAfter late) := rfl
  have hrun' : (runs .new).run (floorAfter late) completion
    = some (floorAfter (late ++ completion)) := rfl
  have hstatus : (floorAfter late).storedStatus ⟨⟨2⟩⟩ = some .cancelled := rfl
  have hfinal := h .new _ _ _ _ _ (floorAfter_reachable hrun) hrun' (.inr rfl) hstatus
  cases hfinal

end Workshop

end ForgeErp
