import ForgeErp.Jobs.Lemmas.Conservation

/-!
This module contains the accounting of attempts. The counter is raised by a claim, compared once the
attempt is over and reset by a retry from the dead letters.
-/

namespace ForgeErp

/--
A job whose handler has been invoked `invoked` times since it was enqueued or retried.
-/
structure Job.Accounted (job : Job) (invoked : Nat) : Prop where
  attempt : job.attempt.toNat = job.history.length + if job.status = .running then 1 else 0
  bound : job.attempt.toNat ≤ max 1 job.retryPolicy.maxAttempts.toNat
  invoked : invoked ≤ job.history.length
  pending : job.status = .pending → job.attempt = 0
  failed : ∀ error attempt, job.status = .failed error attempt →
    job.attempt < job.retryPolicy.maxAttempts

namespace Job.Accounted

variable {job : Job} {invoked : Nat}

theorem invoked_le (h : job.Accounted invoked)
    : invoked ≤ max 1 job.retryPolicy.maxAttempts.toNat := by
  have hattempt := h.attempt
  have hbound := h.bound
  have hinvoked := h.invoked
  split at hattempt <;> omega

theorem toNat_add_one {a b : UInt32} (h : a < b) : (a + 1).toNat = a.toNat + 1 := by
  have hlt : a.toNat < b.toNat := h
  have hb := b.toNat_lt
  rw [UInt32.toNat_add]
  apply Nat.mod_eq_of_lt
  have hone : (1 : UInt32).toNat = 1 := rfl
  omega

theorem next_attempt (h : job.Accounted invoked) {tenantId : Option TenantId} {now : DateTime}
    (hclaimable : InMemoryJobStore.claimable tenantId now job = true)
    : (job.attempt + 1).toNat = job.history.length + 1
      ∧ (job.attempt + 1).toNat ≤ max 1 job.retryPolicy.maxAttempts.toNat := by
  have hattempt := h.attempt
  rcases InMemoryJobStore.claimable_status hclaimable with hstatus | ⟨error, attempt, hstatus⟩
  . have hzero := h.pending hstatus
    have hone : (job.attempt + 1).toNat = 1 := by
      rw [hzero]
      rfl
    have hnat : job.attempt.toNat = 0 := by
      rw [hzero]
      rfl
    rw [hstatus, if_neg (by decide)] at hattempt
    omega
  . have hlt := h.failed error attempt hstatus
    have hlt' : job.attempt.toNat < job.retryPolicy.maxAttempts.toNat := hlt
    have hsucc := toNat_add_one hlt
    rw [hstatus, if_neg (by simp)] at hattempt
    omega

theorem markRunning (h : job.Accounted invoked) {tenantId : Option TenantId} {now : DateTime}
    (hclaimable : InMemoryJobStore.claimable tenantId now job = true)
    : (job.markRunning now).Accounted invoked := by
  rcases h.next_attempt hclaimable with ⟨hattempt, hbound⟩
  refine ⟨hattempt, hbound, h.invoked, ?_, ?_⟩
  . intro hstatus
    cases hstatus
  . intro error attempt hstatus
    cases hstatus

theorem settles (h : job.Accounted invoked) (hrunning : job.status = .running) {job' : Job}
    (hsettles : job.Settles job') {invoked' : Nat} (hinvoked : invoked' ≤ invoked + 1)
    : job'.Accounted invoked' := by
  have hattempt := h.attempt
  have hinv := h.invoked
  have hhistory := hsettles.history
  rw [if_pos hrunning] at hattempt
  have hstatus := hsettles.status
  refine ⟨?_, ?_, by omega, ?_, ?_⟩
  . have hnot : job'.status ≠ .running := by
      intro heq
      rw [heq] at hstatus
      cases hstatus
    rw [hsettles.attempt, if_neg hnot]
    omega
  . rw [hsettles.attempt, hsettles.retryPolicy]
    exact h.bound
  . intro heq
    rw [heq] at hstatus
    cases hstatus
  . intro error attempt heq
    rw [heq] at hstatus
    cases hstatus with
    | failed hretry =>
      rw [hsettles.attempt, hsettles.retryPolicy]
      exact of_decide_eq_true hretry

-- Neither the attempts nor the policy depend on the status under which a job is buried.
theorem letter (h : job.Accounted invoked) (hrunning : job.status ≠ .running) (reason : String)
    (now deadLetteredAt : DateTime)
    : (InMemoryJobStore.letter job reason now deadLetteredAt).job.Accounted invoked := by
  have hattempt := h.attempt
  rw [if_neg hrunning] at hattempt
  refine ⟨?_, h.bound, h.invoked, ?_, ?_⟩
  . exact hattempt
  . intro hstatus
    cases hstatus
  . intro error attempt hstatus
    cases hstatus

theorem of_reset {job : Job} (hstatus : job.status = .pending) (hattempt : job.attempt = 0)
    (hhistory : job.history = []) : job.Accounted 0 := by
  refine ⟨?_, ?_, Nat.zero_le _, fun _ => hattempt, ?_⟩
  . rw [hattempt, hhistory, hstatus]
    rfl
  . rw [hattempt]
    apply Nat.zero_le
  . intro error attempt heq
    rw [hstatus] at heq
    cases heq

end Job.Accounted

namespace JobDesk

open InMemoryJobStore

variable {s s' : JobDesk}

/--
New jobs enter as `Job::new` makes them, with an identifier that has not been used before, and no
job is deleted.
-/
def Fresh (s : JobDesk) (call : JobCall) : Prop :=
  match call with
  | .enqueue job =>
    job.status = .pending ∧ job.attempt = 0 ∧ job.history = [] ∧ job.id ∉ s.known
  | .deleteDeadLetter _ _ => False
  | _ => True

structure Accounted (s : JobDesk) : Prop extends Orderly s where
  known : ∀ id, (s.store.jobs.get id).isSome ∨ (s.store.deadLetters.get id).isSome → id ∈ s.known
  jobs : ∀ id job, s.store.jobs.get id = some job → job.Accounted (s.invoked id)
  letters : ∀ id entry, s.store.deadLetters.get id = some entry →
    entry.job.Accounted (s.invoked id)

theorem setInvoked_self (invoked : JobId → Nat) (id : JobId) (n : Nat)
    : setInvoked invoked id n id = n := by
  simp [setInvoked]

theorem setInvoked_of_ne {invoked : JobId → Nat} {id jobId : JobId} {n : Nat} (h : id ≠ jobId)
    : setInvoked invoked jobId n id = invoked id := by
  simp [setInvoked, h]

theorem Accounted.deadLetters_get_of_fresh (h : Accounted s) {job : Job}
    (hfresh : Fresh s (.enqueue job))
    : s.store.deadLetters.get job.id = none := by
  cases hget : s.store.deadLetters.get job.id with
  | none => rfl
  | some entry =>
    apply absurd (h.known job.id (.inr _)) hfresh.2.2.2
    rw [hget]
    rfl

variable [Backoff] [DebugFormat JobKind] [TextFormat Uuid]

theorem invoked_execute (s : JobDesk) (n : Nat) (job : Job) (executor : JobExecutor)
    (ks : List String)
    (clock : Nat → DateTime)
    : (s.execute n job executor ks clock).invoked job.id ≤ s.invoked job.id + 1
      ∧ ∀ id, id ≠ job.id → (s.execute n job executor ks clock).invoked id = s.invoked id := by
  unfold JobDesk.execute
  dsimp only
  cases executor.getHandler ks job.kind with
  | none => exact ⟨by simp, fun _ _ => rfl⟩
  | some handler =>
    dsimp only
    rw [setInvoked_self]
    refine ⟨Nat.le_refl _, ?_⟩
    intro id hne
    apply setInvoked_of_ne hne

theorem Accounted.execute (h : Accounted s) {n : Nat} {job : Job} (hjob : s.claimed[n]? = some job)
    (executor : JobExecutor) (ks : List String) (clock : Nat → DateTime)
    : Accounted (s.execute n job executor ks clock) := by
  have hsettles := executor.settles_settle ks clock job
  have hstored := h.stored job (List.mem_of_getElem? hjob)
  rcases invoked_execute s n job executor ks clock with ⟨hinvoked, hothers⟩
  have haccounted := (h.jobs job.id job hstored.1).settles hstored.2 hsettles hinvoked
  have horderly := h.toOrderly.execute hjob executor ks clock
  have hid := hsettles.id
  have hmem : job.id ∈ s.known := h.known job.id (.inl (Option.isSome_of_eq_some hstored.1))
  have hdead := h.deadLetters_get hstored.1
  have hother : ∀ id stored, id ≠ job.id → s.store.jobs.get id = some stored →
      stored.Accounted ((s.execute n job executor ks clock).invoked id) := by
    intro id stored hne hget
    rw [hothers id hne]
    apply h.jobs id stored hget
  have hletters : ∀ id entry, id ≠ job.id → s.store.deadLetters.get id = some entry →
      entry.job.Accounted ((s.execute n job executor ks clock).invoked id) := by
    intro id entry hne hget
    rw [hothers id hne]
    apply h.letters id entry hget
  rcases h.toOrderly.store_execute hjob executor ks clock
      with ⟨-, hstore⟩ | ⟨reason, hreason, hstore⟩
  . refine ⟨horderly, ?_, ?_, ?_⟩
    . intro id hid'
      rw [hstore] at hid'
      dsimp only at hid'
      rw [Table.get_insert, hid] at hid'
      split at hid'
      . next heq => exact heq ▸ hmem
      . apply h.known id hid'
    . rw [hstore]
      rw [← hid] at hother haccounted
      apply Table.forall_get_insert hother haccounted
    . rw [hstore]
      intro id entry hget
      apply hletters id entry _ hget
      rintro rfl
      rw [hdead] at hget
      cases hget
  . have hletter : (letter (executor.settle ks clock job).1 reason (clock 2) (clock 3)).id
      = job.id := hid
    have hnot : (executor.settle ks clock job).1.status ≠ .running := by
      intro heq
      have hlettered := executor.isDeadLettered_of_settle ks clock hreason
      rw [heq] at hlettered
      cases hlettered
    refine ⟨horderly, ?_, ?_, ?_⟩
    . intro id hid'
      rw [hstore] at hid'
      by_cases heq : id = job.id
      . exact heq ▸ hmem
      . dsimp only at hid'
        rw [Table.get_erase_of_ne _ heq,
          Table.get_insert_of_ne _ (fun heq' => heq (heq'.trans hletter))] at hid'
        apply h.known id hid'
    . rw [hstore]
      apply Table.forall_get_erase hother
    . rw [hstore]
      rw [← hletter] at hletters haccounted
      apply Table.forall_get_insert hletters
      apply haccounted.letter hnot

omit [Backoff] [DebugFormat JobKind] [TextFormat Uuid] in
theorem Accounted.known_of_insert (h : Accounted s) {job : Job} {id : JobId}
    (hid : ((s.store.jobs.insert job).get id).isSome ∨ (s.store.deadLetters.get id).isSome)
    : id = job.id ∨ id ∈ s.known := by
  rw [Table.get_insert] at hid
  split at hid
  . next heq => exact .inl heq
  . exact .inr (h.known id hid)

section Calls

omit [Backoff] [DebugFormat JobKind] [TextFormat Uuid]

theorem Accounted.enqueue (h : Accounted s) {job : Job} (hfresh : Fresh s (.enqueue job))
    (horderly : Orderly { s with
      store := { s.store with jobs := s.store.jobs.insert job }
      known := job.id :: s.known
      invoked := setInvoked s.invoked job.id 0 })
    : Accounted { s with
        store := { s.store with jobs := s.store.jobs.insert job }
        known := job.id :: s.known
        invoked := setInvoked s.invoked job.id 0 } := by
  have hdead := h.deadLetters_get_of_fresh hfresh
  rcases hfresh with ⟨hstatus, hattempt, hhistory, -⟩
  refine ⟨horderly, ?_, ?_, ?_⟩
  . intro id hid
    rw [List.mem_cons]
    apply h.known_of_insert hid
  . apply Table.forall_get_insert
    . intro id stored hne hstored
      dsimp only
      rw [setInvoked_of_ne hne]
      apply h.jobs id stored hstored
    . dsimp only
      rw [setInvoked_self]
      apply Job.Accounted.of_reset hstatus hattempt hhistory
  . intro id entry hentry
    have hne : id ≠ job.id := by
      rintro rfl
      rw [hdead] at hentry
      cases hentry
    dsimp only
    rw [setInvoked_of_ne hne]
    apply h.letters id entry hentry

theorem Accounted.claim (h : Accounted s) {tenantId : Option TenantId} {now : DateTime} {job : Job}
    (hget : s.store.jobs.get job.id = some job) (hclaimable : claimable tenantId now job = true)
    (horderly : Orderly { s with
      store := { s.store with jobs := s.store.jobs.insert (job.markRunning now) }
      claimed := s.claimed ++ [job.markRunning now] })
    : Accounted { s with
        store := { s.store with jobs := s.store.jobs.insert (job.markRunning now) }
        claimed := s.claimed ++ [job.markRunning now] } := by
  refine ⟨horderly, ?_, ?_, h.letters⟩
  . intro id hid
    rcases h.known_of_insert hid with heq | hknown
    . rw [heq]
      apply h.known job.id (.inl (Option.isSome_of_eq_some hget))
    . exact hknown
  . apply Table.forall_get_insert
    . intro id stored _ hstored
      apply h.jobs id stored hstored
    . apply (h.jobs job.id job hget).markRunning hclaimable

theorem Accounted.retry (h : Accounted s) {entry : DeadLetterEntry} {now : DateTime}
    {exhausted : List JobId}
    (hget : s.store.deadLetters.get entry.id = some entry)
    (horderly : Orderly { s with
      store := {
        jobs := s.store.jobs.insert (retried entry.job now)
        deadLetters := s.store.deadLetters.erase entry.id }
      exhausted
      invoked := setInvoked s.invoked entry.id 0 })
    : Accounted { s with
        store := {
          jobs := s.store.jobs.insert (retried entry.job now)
          deadLetters := s.store.deadLetters.erase entry.id }
        exhausted
        invoked := setInvoked s.invoked entry.id 0 } := by
  refine ⟨horderly, ?_, ?_, ?_⟩
  . intro id hid
    by_cases heq : id = entry.id
    . rw [heq]
      apply h.known entry.id (.inr (Option.isSome_of_eq_some hget))
    . dsimp only at hid
      rw [Table.get_erase_of_ne _ heq] at hid
      rcases h.known_of_insert hid with heq' | hknown
      . exact absurd heq' heq
      . exact hknown
  . apply Table.forall_get_insert
    . intro id stored hne hstored
      have hne : id ≠ entry.id := hne
      dsimp only
      rw [setInvoked_of_ne hne]
      apply h.jobs id stored hstored
    . have hid : (retried entry.job now).id = entry.id := rfl
      dsimp only
      rw [hid, setInvoked_self]
      apply Job.Accounted.of_reset rfl rfl rfl
  . apply Table.forall_get_erase
    intro id other hne hother
    dsimp only
    rw [setInvoked_of_ne hne]
    apply h.letters id other hother

end Calls

theorem Accounted.step {call : JobCall} (h : Accounted s) (hfresh : Fresh s call)
    (hstep : Step s call s')
    : Accounted s' := by
  have horderly : Orderly s' := by
    apply h.toOrderly.step hstep
    rintro job rfl _
    apply h.deadLetters_get_of_fresh hfresh
  cases hstep with
  | unchanged => exact h
  | enqueued => apply h.enqueue hfresh horderly
  | claimed hget hclaimable => apply h.claim hget hclaimable horderly
  | executed hjob => apply h.execute hjob
  | retried hget => apply h.retry hget horderly
  | deleted => cases hfresh

theorem accounted_of_reachable (hs : runs.ReachableUnder Fresh s) : Accounted s := by
  apply Machine.ReachableUnder.invariant _ _ s hs
  . rintro _ rfl
    refine ⟨⟨fun _ => .inl rfl, List.nodup_nil, ?_⟩, ?_, ?_, ?_⟩
    . intro job hjob
      cases hjob
    . rintro id (hsome | hsome) <;> cases hsome
    . intro id job hget
      cases hget
    . intro id entry hget
      cases hget
  . intro s call s' haccounted hfresh hstep
    apply haccounted.step hfresh (step_cases hstep)

omit [Backoff] [DebugFormat JobKind] [TextFormat Uuid] in
theorem claimed_status {store store' : InMemoryJobStore} {tenantId : Option TenantId}
    {order : List JobId}
    {now : DateTime} {job : Job} (h : store.claimNext tenantId order now = (some job, store'))
    : ∃ stored, store.jobs.get job.id = some stored
        ∧ stored.status ≠ .running ∧ stored.status ≠ .completed ∧ stored.status ≠ .cancelled
        ∧ stored.status.isDeadLettered = false := by
  rcases claimNext_cases store tenantId order now
      with ⟨-, hclaim⟩ | ⟨stored, hget, hclaimable, -, hclaim⟩
  . rw [hclaim] at h
    cases h
  . rw [hclaim] at h
    cases h
    refine ⟨stored, hget, ?_⟩
    rcases claimable_status hclaimable with hstatus | ⟨error, attempt, hstatus⟩
    . rw [hstatus]
      simp [JobStatus.isDeadLettered]
    . rw [hstatus]
      simp [JobStatus.isDeadLettered]

theorem attempts_accounted (s : JobDesk) (hs : runs.ReachableUnder Fresh s)
    : (∀ id job,
        (s.store.jobs.get id = some job ∨ ∃ entry, s.store.deadLetters.get id = some entry
          ∧ entry.job = job) →
          (job.attempt.toNat = job.history.length + if job.status = .running then 1 else 0)
          ∧ s.invoked id ≤ max 1 job.retryPolicy.maxAttempts.toNat)
      ∧ ∀ tenantId order now job store, s.store.claimNext tenantId order now = (some job, store) →
        ∃ stored, s.store.jobs.get job.id = some stored
          ∧ stored.status ≠ .running ∧ stored.status ≠ .completed ∧ stored.status ≠ .cancelled
          ∧ stored.status.isDeadLettered = false := by
  have haccounted := accounted_of_reachable hs
  constructor
  . rintro id job (hget | ⟨entry, hget, rfl⟩)
    . have hjob := haccounted.jobs id job hget
      exact ⟨hjob.attempt, hjob.invoked_le⟩
    . have hjob := haccounted.letters id entry hget
      exact ⟨hjob.attempt, hjob.invoked_le⟩
  . intro tenantId order now job store hclaim
    apply claimed_status hclaim

end JobDesk

namespace Workshop

open Concrete JobDesk

-- The job with one attempt fails, is taken back from the dead letters and fails again.
def cycle : List JobCall :=
  calls (.failure "boom") ++ [
    .retryDeadLetter tenantId ⟨⟨2⟩⟩ ⟨5⟩,
    .claimNext none [⟨⟨2⟩⟩] ⟨6⟩,
    .executeJob 0 (executor (.failure "boom")) ["test"] clock]

def cycled : JobDesk :=
  (runs.run .new cycle).getD .new

theorem attempts_accounted_cycled
    : ∃ entry, cycled.store.deadLetters.get ⟨⟨2⟩⟩ = some entry
        ∧ entry.job.attempt.toNat = 1
        ∧ entry.job.attempt.toNat = entry.job.history.length
        ∧ cycled.invoked ⟨⟨2⟩⟩ ≤ max 1 (fixed 1).maxAttempts.toNat := by
  have hrun : runs.run .new cycle = some cycled := rfl
  have hok : runs.OkAlong Fresh .new cycle := by
    refine ⟨⟨rfl, rfl, rfl, List.not_mem_nil⟩, fun _ _ => ?_⟩
    refine ⟨trivial, fun _ _ => ?_⟩
    refine ⟨trivial, fun _ _ => ?_⟩
    refine ⟨trivial, fun _ _ => ?_⟩
    refine ⟨trivial, fun _ _ => ?_⟩
    exact ⟨trivial, fun _ _ => trivial⟩
  have haccounted := attempts_accounted cycled
    (Machine.ReachableUnder.runAlong (.init rfl) hok hrun)
  refine ⟨_, rfl, rfl, ?_⟩
  exact haccounted.1 ⟨⟨2⟩⟩ _ (.inr ⟨_, rfl, rfl⟩)

end Workshop

end ForgeErp
