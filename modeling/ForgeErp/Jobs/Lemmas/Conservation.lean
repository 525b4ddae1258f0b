import ForgeErp.Core.Text
import ForgeErp.Jobs.Lemmas.Calls
import Mathlib.Logic.Basic

/-!
This module contains the conservation of jobs. `mark_failed` gives a job that is out of attempts its
last status, and it is left to the caller to move the job to the dead letters.
-/

namespace ForgeErp

namespace JobDesk

open InMemoryJobStore

variable {s s' : JobDesk}

/--
No job is lost: what has been enqueued is in one of the tables, and what is out of attempts is in
that of the dead letters, where it can be listed and retried.
-/
structure Conserved (s : JobDesk) : Prop where
  disjoint : ∀ id, ¬ ((s.store.jobs.get id).isSome ∧ (s.store.deadLetters.get id).isSome)
  alive : ∀ id job, s.store.jobs.get id = some job → job.status.isDeadLettered = false
  placed : ∀ id ∈ s.known, Xor (s.store.jobs.get id).isSome (s.store.deadLetters.get id).isSome
  listed : ∀ id ∈ s.exhausted, ∃ entry, s.store.deadLetters.get id = some entry
    ∧ (∀ ks limit, s.store.deadLetters.Enumerates ks → ks.length ≤ limit →
      entry ∈ s.store.listDeadLetters entry.job.tenantId limit ks)
    ∧ ∀ now, ∃ job, (s.store.retryDeadLetter entry.job.tenantId id now).1 = .ok job

/--
A job enters with an identifier that no dead letter has and a status other than that of one, and a
job that is out of attempts is handed to a handler that either succeeds or fails.
-/
def Moving (s : JobDesk) (call : JobCall) : Prop :=
  match call with
  | .enqueue job => s.store.jobs.get job.id = none →
      job.status.isDeadLettered = false ∧ s.store.deadLetters.get job.id = none
  | .executeJob n executor ks _ =>
    ∀ job, s.claimed[n]? = some job → job.retryPolicy.shouldRetry job.attempt = false →
      ∃ handler, executor.getHandler ks job.kind = some handler
        ∧ (handler job = .success ∨ ∃ error, handler job = .failure error)
  | _ => True

structure Kept (s : JobDesk) : Prop extends Orderly s where
  alive : ∀ id job, s.store.jobs.get id = some job → job.status.isDeadLettered = false
  placed : ∀ id ∈ s.known, (s.store.jobs.get id).isSome ∨ (s.store.deadLetters.get id).isSome
  buried : ∀ id ∈ s.exhausted, (s.store.deadLetters.get id).isSome

theorem listed_of_get {store : InMemoryJobStore} {entry : DeadLetterEntry}
    (h : store.deadLetters.get entry.id = some entry) {ks : List JobId} {limit : Nat}
    (hks : store.deadLetters.Enumerates ks) (hlimit : ks.length ≤ limit)
    : entry ∈ store.listDeadLetters entry.job.tenantId limit ks := by
  unfold listDeadLetters
  dsimp only
  rw [List.take_of_length_le, List.mem_insertionSort, List.mem_filter]
  . exact ⟨(Table.mem_values_of_enumerates hks).mpr h, by simp⟩
  . rw [List.length_insertionSort]
    apply Nat.le_trans (List.length_filter_le _ _)
    apply Nat.le_trans (List.length_filterMap_le _ _) hlimit

theorem retryDeadLetter_of_get {store : InMemoryJobStore} {entry : DeadLetterEntry}
    (h : store.deadLetters.get entry.id = some entry) (now : DateTime)
    : (store.retryDeadLetter entry.job.tenantId entry.id now).1 = .ok (retried entry.job now) := by
  unfold retryDeadLetter
  rw [h]
  simp

theorem Kept.conserved (h : Kept s) : Conserved s := by
  have hdisjoint : ∀ id, ¬ ((s.store.jobs.get id).isSome
    ∧ (s.store.deadLetters.get id).isSome) := by
    rintro id ⟨hjobs, hletters⟩
    rcases h.disjoint id with hnone | hnone
    . rw [hnone] at hjobs
      cases hjobs
    . rw [hnone] at hletters
      cases hletters
  refine ⟨hdisjoint, h.alive, ?_, ?_⟩
  . intro id hid
    have hboth := hdisjoint id
    rcases h.placed id hid with hsome | hsome
    . exact .inl ⟨hsome, fun hletters => hboth ⟨hsome, hletters⟩⟩
    . exact .inr ⟨hsome, fun hjobs => hboth ⟨hjobs, hsome⟩⟩
  . intro id hid
    rcases Option.isSome_iff_exists.mp (h.buried id hid) with ⟨entry, hentry⟩
    have hkey : entry.id = id := Table.key_of_get hentry
    subst hkey
    refine ⟨entry, hentry, ?_, ?_⟩
    . intro ks limit hks hlimit
      apply listed_of_get hentry hks hlimit
    . intro now
      exact ⟨_, retryDeadLetter_of_get hentry now⟩

section Settle

variable [Backoff] [DebugFormat JobKind]

theorem isDeadLettered_settle {executor : JobExecutor} {ks : List String} {clock : Nat → DateTime}
    {job : Job}
    (h : job.retryPolicy.shouldRetry job.attempt = false →
      ∃ handler, executor.getHandler ks job.kind = some handler
        ∧ (handler job = .success ∨ ∃ error, handler job = .failure error))
    (hreason : (executor.settle ks clock job).2 = none)
    : (executor.settle ks clock job).1.status.isDeadLettered = false := by
  have hconcluded := (executor.settles_settle ks clock job).status
  rw [Bool.eq_false_iff]
  intro hdead
  rcases hconcluded.isDeadLettered_iff.mp hdead with ⟨hne, hretry⟩
  rcases h hretry with ⟨handler, hhandler, hresult | ⟨error, hresult⟩⟩
  . apply hne
    unfold JobExecutor.settle
    rw [hhandler]
    dsimp only
    rw [hresult]
    rfl
  . unfold JobExecutor.settle at hreason hdead
    rw [hhandler] at hreason hdead
    dsimp only at hreason hdead
    rw [hresult] at hreason hdead
    dsimp only at hreason hdead
    rw [if_pos hdead] at hreason
    cases hreason

end Settle

variable [Backoff] [DebugFormat JobKind] [TextFormat Uuid]

theorem Kept.execute (h : Kept s) {n : Nat} {job : Job} (hjob : s.claimed[n]? = some job)
    {executor : JobExecutor} {ks : List String} {clock : Nat → DateTime}
    (hmoving : Moving s (.executeJob n executor ks clock))
    : Kept (s.execute n job executor ks clock) := by
  have hid := (executor.settles_settle ks clock job).id
  have hdead := @isDeadLettered_settle _ _ executor ks clock job (hmoving job hjob)
  have hexhausted : (s.execute n job executor ks clock).exhausted
      = if (executor.settle ks clock job).1.status.isDeadLettered then job.id :: s.exhausted
        else s.exhausted := by
    have := congrArg Prod.fst (executor.executeJob_eq ks clock s.store job)
    unfold JobDesk.execute
    dsimp only
    rw [this]
  have horderly := h.toOrderly.execute hjob executor ks clock
  rcases h.toOrderly.store_execute hjob executor ks clock
      with ⟨hreason, hstore⟩ | ⟨reason, hreason, hstore⟩
  . refine ⟨horderly, ?_, ?_, ?_⟩
    . rw [hstore]
      apply Table.forall_get_insert (fun id stored _ => h.alive id stored) (hdead hreason)
    . intro id hknown
      rw [hstore]
      apply (h.placed id hknown).imp_left
      intro hsome
      apply Table.isSome_get_insert (.inr hsome)
    . intro id hmem
      rw [hexhausted, hdead hreason, if_neg Bool.false_ne_true] at hmem
      rw [hstore]
      apply h.buried id hmem
  . have hletter : (letter (executor.settle ks clock job).1 reason (clock 2) (clock 3)).id
      = job.id := hid
    refine ⟨horderly, ?_, ?_, ?_⟩
    . rw [hstore]
      apply Table.forall_get_erase (fun id stored _ => h.alive id stored)
    . intro id hknown
      rw [hstore]
      by_cases heq : id = job.id
      . exact .inr (Table.isSome_get_insert (.inl (heq.trans hletter.symm)))
      . dsimp only
        rw [Table.get_erase_of_ne _ heq]
        apply (h.placed id hknown).imp_right
        intro hsome
        apply Table.isSome_get_insert (.inr hsome)
    . intro id hmem
      rw [hexhausted, if_pos (executor.isDeadLettered_of_settle ks clock hreason), List.mem_cons]
        at hmem
      rw [hstore]
      apply Table.isSome_get_insert
      rw [hletter]
      apply hmem.imp_right
      apply h.buried id

omit [Backoff] [DebugFormat JobKind] [TextFormat Uuid] in
theorem mem_without {ids : List JobId} {id jobId : JobId}
    : id ∈ without ids jobId ↔ id ∈ ids ∧ id ≠ jobId := by
  simp [without]

theorem Kept.step {call : JobCall} (h : Kept s) (hmoving : Moving s call) (hstep : Step s call s')
    : Kept s' := by
  have horderly : Orderly s' := by
    apply h.toOrderly.step hstep
    rintro job rfl hget
    exact (hmoving hget).2
  cases hstep with
  | unchanged => exact h
  | @enqueued job hget =>
    refine ⟨horderly, Table.forall_get_insert (fun id stored _ => h.alive id stored)
      (hmoving hget).1, ?_, h.buried⟩
    intro id hid
    rcases List.mem_cons.mp hid with heq | hknown
    . exact .inl (Table.isSome_get_insert (.inl heq))
    . apply (h.placed id hknown).imp_left
      intro hsome
      apply Table.isSome_get_insert (.inr hsome)
  | @claimed tenantId order now job hget hclaimable =>
    refine ⟨horderly, Table.forall_get_insert (fun id stored _ => h.alive id stored) rfl, ?_,
      h.buried⟩
    intro id hid
    apply (h.placed id hid).imp_left
    intro hsome
    apply Table.isSome_get_insert (.inr hsome)
  | executed hjob => apply h.execute hjob hmoving
  | @retried entry now hget =>
    refine ⟨horderly, Table.forall_get_insert (fun id stored _ => h.alive id stored) rfl, ?_, ?_⟩
    . intro id hid
      by_cases heq : id = entry.id
      . exact .inl (Table.isSome_get_insert (.inl heq))
      . dsimp only
        rw [Table.get_erase_of_ne _ heq]
        apply (h.placed id hid).imp_left
        intro hsome
        apply Table.isSome_get_insert (.inr hsome)
    . intro id hid
      rcases mem_without.mp hid with ⟨hid, hne⟩
      dsimp only
      rw [Table.get_erase_of_ne _ hne]
      apply h.buried id hid
  | @deleted entry hget =>
    refine ⟨horderly, h.alive, ?_, ?_⟩
    . intro id hid
      rcases mem_without.mp hid with ⟨hid, hne⟩
      dsimp only
      rw [Table.get_erase_of_ne _ hne]
      apply h.placed id hid
    . intro id hid
      rcases mem_without.mp hid with ⟨hid, hne⟩
      dsimp only
      rw [Table.get_erase_of_ne _ hne]
      apply h.buried id hid

theorem jobs_conserved (s : JobDesk) (hs : runs.ReachableUnder Moving s) : Conserved s := by
  apply Kept.conserved
  apply Machine.ReachableUnder.invariant _ _ s hs
  . rintro _ rfl
    refine ⟨⟨fun _ => .inl rfl, List.nodup_nil, ?_⟩, ?_, ?_, ?_⟩
    . intro job hjob
      cases hjob
    . intro id job hget
      cases hget
    . intro id hid
      cases hid
    . intro id hid
      cases hid
  . intro s call s' hkept hmoving hstep
    apply hkept.step hmoving (step_cases hstep)

end JobDesk

namespace Workshop

open Concrete JobDesk

def fixed (maxAttempts : UInt32) : RetryPolicy where
  maxAttempts
  baseDelay := ⟨500000000⟩
  maxDelay := ⟨500000000⟩
  strategy := .fixed
  jitter := 0

def tenantId : TenantId := ⟨⟨1⟩⟩

def job (maxAttempts : UInt32) : Job :=
  .new ⟨⟨2⟩⟩ tenantId (.custom "test") (.object []) (fixed maxAttempts) ⟨0⟩

def executor (result : JobResult) : JobExecutor :=
  JobExecutor.new.registerHandler "test" (fun _ => result)

def clock (n : Nat) : DateTime := ⟨n⟩

-- A job with one attempt is enqueued and claimed, and its handler gives `result`.
def calls (result : JobResult) : List JobCall := [
  .enqueue (job 1),
  .claimNext (some tenantId) [⟨⟨2⟩⟩] ⟨1⟩,
  .executeJob 0 (executor result) ["test"] clock]

def after (result : JobResult) : JobDesk :=
  (runs.run .new (calls result)).getD .new

theorem after_reachable (result : JobResult)
    (h : runs.run .new (calls result) = some (after result))
    : runs.Reachable (after result) := by
  apply Machine.ReachableUnder.run (.init rfl) (fun _ _ _ => trivial) h

theorem jobs_conserved_failure
    : (after (.failure "boom")).exhausted = [⟨⟨2⟩⟩] ∧ Conserved (after (.failure "boom")) := by
  have hrun : runs.run .new (calls (.failure "boom")) = some (after (.failure "boom")) := rfl
  refine ⟨rfl, jobs_conserved _ (Machine.ReachableUnder.runAlong (.init rfl) ?_ hrun)⟩
  refine ⟨fun _ => ⟨rfl, rfl⟩, ?_⟩
  rintro _ ⟨⟩
  refine ⟨trivial, ?_⟩
  rintro _ ⟨⟩
  refine ⟨?_, fun _ _ => trivial⟩
  intro job hjob _
  cases hjob
  exact ⟨_, rfl, .inr ⟨_, rfl⟩⟩

-- The handler asks to be called again, and the job stays where nothing finds it.
theorem retryNow_strands
    : runs.Reachable (after .retryNow)
      ∧ (after .retryNow).exhausted = [⟨⟨2⟩⟩]
      ∧ ((after .retryNow).store.jobs.get ⟨⟨2⟩⟩).map Job.status
          = some (.deadLettered "retry requested" 1)
      ∧ (after .retryNow).store.deadLetters.get ⟨⟨2⟩⟩ = none
      ∧ ¬ Conserved (after .retryNow) := by
  refine ⟨after_reachable _ rfl, rfl, rfl, rfl, ?_⟩
  intro h
  rcases h.listed ⟨⟨2⟩⟩ (by exact List.mem_singleton_self _) with ⟨entry, hentry, -⟩
  cases hentry

end Workshop

end ForgeErp
