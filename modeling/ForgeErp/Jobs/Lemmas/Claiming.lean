import ForgeErp.Jobs.Lemmas.Attempts
import ForgeErp.Jobs.Lemmas.Terminal

/-!
This module contains the verification of how jobs are handed out to executors. What has happened to
a job is read off the log of the handouts and of the copies that were stored.
-/

namespace ForgeErp

namespace FloorEvent

def who (self : FloorEvent) : Nat :=
  match self with
  | .handedOut who _ => who
  | .stored who _ => who

-- After the event the job is still in somebody's hands.
def Busy (self : FloorEvent) : Prop :=
  match self with
  | .handedOut _ _ => True
  | .stored _ job => job.status.isDeadLettered = true

/--
The latest event of a log that is about the job `id`.
-/
def latest (log : List FloorEvent) (id : JobId) : Option FloorEvent :=
  log.find? fun event => event.job.id == id

section Latest

variable {log : List FloorEvent} {event : FloorEvent} {id : JobId}

theorem latest_cons_self : latest (event :: log) event.job.id = some event := by
  unfold latest
  apply List.find?_cons_of_pos
  exact beq_self_eq_true _

theorem latest_cons_of_ne (h : event.job.id ≠ id) : latest (event :: log) id = latest log id := by
  unfold latest
  apply List.find?_cons_of_neg
  rw [beq_iff_eq]
  exact h

theorem id_of_latest (h : latest log id = some event) : event.job.id = id := by
  unfold latest at h
  have hfound := List.find?_some h
  exact beq_iff_eq.mp hfound

theorem mem_of_latest (h : latest log id = some event) : event ∈ log := by
  apply List.mem_of_find?_eq_some h

theorem ne_of_latest_eq_none (h : latest log id = none) (hmem : event ∈ log)
    : event.job.id ≠ id := by
  have hne := List.find?_eq_none.mp h event hmem
  rw [beq_iff_eq] at hne
  exact hne

end Latest

theorem mem_handouts {log : List FloorEvent} {handout : JobId × UInt32}
    (hmem : handout ∈ log.filterMap handout?)
    : ∃ who job, FloorEvent.handedOut who job ∈ log ∧ (job.id, job.attempt) = handout := by
  rcases List.mem_filterMap.mp hmem with ⟨event, hevent, hhandout⟩
  cases event with
  | handedOut who job =>
    injection hhandout with heq
    exact ⟨who, job, hevent, heq⟩
  | stored who job => cases hhandout

/--
A job is handed out for the first time, or after a failure has been stored, and whoever stores it is
the one whom it was handed to last.
-/
inductive Proper : List FloorEvent → Prop where
  | nil : Proper []
  | first {log : List FloorEvent} {who : Nat} {job : Job} :
      Proper log → latest log job.id = none → Proper (.handedOut who job :: log)
  | again {log : List FloorEvent} {who who' : Nat} {job failed : Job} {error : String}
    {attempt : UInt32} :
      Proper log → latest log job.id = some (.stored who' failed) →
        failed.status = .failed error attempt →
      failed.attempt.toNat < job.attempt.toNat → Proper (.handedOut who job :: log)
  | stored {log : List FloorEvent} {who : Nat} {taken job : Job} :
      Proper log → latest log job.id = some (.handedOut who taken) → taken.attempt = job.attempt →
      Proper (.stored who job :: log)

namespace Proper

variable {log : List FloorEvent}

theorem attempt_le_cons {first last event : FloorEvent} {id : JobId}
    (hfirst : ∀ event ∈ log, event.job.id = first.job.id →
      event.job.attempt.toNat ≤ first.job.attempt.toNat)
    (hlog : latest log id = some last → event ∈ log →
      event.job.attempt.toNat ≤ last.job.attempt.toNat)
    (hlast : latest (first :: log) id = some last) (hmem : event ∈ first :: log)
    (hid : event.job.id = id)
    : event.job.attempt.toNat ≤ last.job.attempt.toNat := by
  by_cases heq : first.job.id = id
  . subst heq
    rw [latest_cons_self] at hlast
    cases hlast
    rcases List.mem_cons.mp hmem with rfl | hmem
    . exact Nat.le_refl _
    . apply hfirst event hmem hid
  . rw [latest_cons_of_ne heq] at hlast
    rcases List.mem_cons.mp hmem with rfl | hmem
    . exact absurd hid heq
    . apply hlog hlast hmem

theorem attempt_le (h : Proper log) {id : JobId} {last event : FloorEvent}
    (hlast : latest log id = some last)
    (hmem : event ∈ log) (hid : event.job.id = id)
    : event.job.attempt.toNat ≤ last.job.attempt.toNat := by
  induction h generalizing id last event with
  | nil => cases hmem
  | @first log who job _ hnone ih =>
    apply attempt_le_cons _ _ hlast hmem hid
    . intro event hevent hjob
      exact absurd hjob (ne_of_latest_eq_none hnone hevent)
    . intro hlast hmem
      apply ih hlast hmem hid
  | @again log who who' job failed _ _ _ hfailed _ hlt ih =>
    apply attempt_le_cons _ _ hlast hmem hid
    . intro event hevent hjob
      have hle := ih hfailed hevent hjob
      exact Nat.le_trans hle (Nat.le_of_lt hlt)
    . intro hlast hmem
      apply ih hlast hmem hid
  | @stored log who taken job _ htaken hattempt ih =>
    apply attempt_le_cons _ _ hlast hmem hid
    . intro event hevent hjob
      have hle := ih htaken hevent hjob
      exact hattempt ▸ hle
    . intro hlast hmem
      apply ih hlast hmem hid

theorem handouts_nodup (h : Proper log) : (log.filterMap handout?).Nodup := by
  induction h with
  | nil => exact List.nodup_nil
  | @first log who job _ hnone ih =>
    rw [List.filterMap_cons, handout?, List.nodup_cons]
    refine ⟨?_, ih⟩
    intro hmem
    rcases mem_handouts hmem with ⟨who', job', hmem', heq⟩
    injection heq with hid
    exact ne_of_latest_eq_none hnone hmem' hid
  | @again log who who' job failed _ _ hproper hfailed _ hlt ih =>
    rw [List.filterMap_cons, handout?, List.nodup_cons]
    refine ⟨?_, ih⟩
    intro hmem
    rcases mem_handouts hmem with ⟨who', job', hmem', heq⟩
    injection heq with hid hattempt
    have hle : job'.attempt.toNat ≤ failed.attempt.toNat := hproper.attempt_le hfailed hmem' hid
    rw [hattempt] at hle
    omega
  | stored _ _ _ ih => exact ih

-- What a job has gone through since it was handed to `who`.
inductive Since (who : Nat) (id : JobId) (between log : List FloorEvent) : Prop where
  | held {job : Job} : latest log id = some (.handedOut who job) → Since who id between log
  | returned {job : Job} : latest log id = some (.stored who job) → .stored who job ∈ between →
      Since who id between log
  | failed {job : Job} {error : String} {attempt : UInt32} : .stored who job
    ∈ between → job.id = id →
      job.status = .failed error attempt → Since who id between log

theorem Since.cons {who : Nat} {id : JobId} {between : List FloorEvent} {event : FloorEvent}
    (h : Since who id between log) (hproper : Proper (event :: log))
    : Since who id (event :: between) (event :: log) := by
  cases h with
  | failed hmem hjob hstatus => exact .failed (List.mem_cons_of_mem _ hmem) hjob hstatus
  | held hlatest =>
    by_cases hid : event.job.id = id
    . subst hid
      cases hproper with
      | first _ hnone =>
        have hlatest' := hnone.symm.trans hlatest
        cases hlatest'
      | again _ hfailed =>
        have hlatest' := hfailed.symm.trans hlatest
        cases hlatest'
      | stored _ htaken =>
        have hlatest' := htaken.symm.trans hlatest
        cases hlatest'
        exact .returned latest_cons_self List.mem_cons_self
    . rw [← latest_cons_of_ne hid] at hlatest
      exact .held hlatest
  | returned hlatest hmem =>
    have hmem := List.mem_cons_of_mem event hmem
    by_cases hid : event.job.id = id
    . have hjob := id_of_latest hlatest
      subst hid
      cases hproper with
      | first _ hnone =>
        have hlatest' := hnone.symm.trans hlatest
        cases hlatest'
      | again _ hfailed hstatus =>
        have hlatest' := hfailed.symm.trans hlatest
        cases hlatest'
        exact .failed hmem hjob hstatus
      | stored _ htaken =>
        have hlatest' := htaken.symm.trans hlatest
        cases hlatest'
    . rw [← latest_cons_of_ne hid] at hlatest
      exact .returned hlatest hmem

theorem tail {event : FloorEvent} (h : Proper (event :: log)) : Proper log := by
  cases h with
  | first hproper => exact hproper
  | again hproper => exact hproper
  | stored hproper => exact hproper

theorem since {who : Nat} {job : Job} {between earlier : List FloorEvent}
    (h : Proper (between ++ .handedOut who job :: earlier))
    : Since who job.id between (between ++ .handedOut who job :: earlier) := by
  induction between with
  | nil => exact .held latest_cons_self
  | cons event between ih => apply (ih h.tail).cons h

theorem failed_between (h : Proper log) {later between earlier : List FloorEvent} {who who' : Nat}
    {job job' : Job}
    (hlog : log = later ++ .handedOut who' job' :: (between ++ .handedOut who job :: earlier))
    (hid : job'.id = job.id)
    : ∃ failed error attempt, .stored who failed ∈ between ∧ failed.id = job.id
        ∧ failed.status = .failed error attempt := by
  subst hlog
  induction later with
  | cons event later ih => apply ih h.tail
  | nil =>
    rw [List.nil_append] at h
    cases h with
    | first hproper hnone =>
      rw [hid] at hnone
      cases hproper.since with
      | failed hmem hjob hstatus => exact ⟨_, _, _, hmem, hjob, hstatus⟩
      | held hlatest =>
        rw [hnone] at hlatest
        cases hlatest
      | returned hlatest =>
        rw [hnone] at hlatest
        cases hlatest
    | again hproper hfailed hstatus =>
      rw [hid] at hfailed
      cases hproper.since with
      | failed hmem hjob hstatus => exact ⟨_, _, _, hmem, hjob, hstatus⟩
      | held hlatest =>
        rw [hfailed] at hlatest
        cases hlatest
      | returned hlatest hmem =>
        rw [hfailed] at hlatest
        cases hlatest
        exact ⟨_, _, _, hmem, id_of_latest hfailed, hstatus⟩

end Proper

end FloorEvent

def JobStatus.Waiting (status : JobStatus) : Prop :=
  status = .pending ∨ ∃ error attempt, status = .failed error attempt

namespace InMemoryJobStore

/--
What `claim_next` looks for.
-/
structure Eligible (tenantId : Option TenantId) (now : DateTime) (job : Job) : Prop where
  status : job.status.Waiting
  ready : ∀ at_, job.scheduledAt = some at_ → at_.nanos ≤ now.nanos
  allowed : ∀ tenantId', tenantId = some tenantId' → job.tenantId = tenantId'

theorem claimable_iff {tenantId : Option TenantId} {now : DateTime} {job : Job}
    : claimable tenantId now job = true ↔ Eligible tenantId now job := by
  constructor
  . intro h
    have hstatus := claimable_status h
    unfold claimable at h
    rw [Bool.and_eq_true, Bool.and_eq_true] at h
    rcases h with ⟨⟨-, hready⟩, hallowed⟩
    refine ⟨hstatus, ?_, ?_⟩
    . intro at_ hat
      unfold Job.isReady at hready
      rw [hat] at hready
      exact of_decide_eq_true hready
    . rintro tenantId' rfl
      exact beq_iff_eq.mp hallowed
  . intro h
    unfold claimable
    rw [Bool.and_eq_true, Bool.and_eq_true]
    refine ⟨⟨?_, ?_⟩, ?_⟩
    . rcases h.status with hstatus | ⟨error, attempt, hstatus⟩
      . rw [hstatus]
      . rw [hstatus]
    . unfold Job.isReady
      split
      . next at_ hat => exact decide_eq_true (h.ready at_ hat)
      . rfl
    . split
      . next tenantId' => exact beq_iff_eq.mpr (h.allowed tenantId' rfl)
      . rfl

end InMemoryJobStore

namespace JobFloor

open InMemoryJobStore FloorEvent

/--
There are executors only, and no identifier is enqueued twice.
-/
def ExecutorsOnly (s : JobFloor) (move : JobMove) : Prop :=
  match move with
  | .enqueue job => job.id ∉ s.used
  | .get _ _ _ => False
  | .cancel _ _ => False
  | _ => True

-- How the log ends for a job that an executor holds.
def Holds (log : List FloorEvent) (who : Nat) (phase : ExecutorPhase) : Prop :=
  match phase with
  | .idle => True
  | .claimed job => latest log job.id = some (.handedOut who job)
  | .settled job reason =>
    (∃ taken, latest log taken.id = some (.handedOut who taken) ∧ taken.Settles job)
      ∧ (reason.isSome → job.status.isDeadLettered = true)
  | .burying job _ => latest log job.id = some (.stored who job) ∧ job.status.isDeadLettered = true

-- How the log ends for a job that is stored as `Pending` or `Failed`.
def Waits (log : List FloorEvent) (job : Job) : Prop :=
  latest log job.id = none
    ∨ ∃ who error attempt, latest log job.id = some (.stored who job)
      ∧ job.status = .failed error attempt
      ∧ job.attempt < job.retryPolicy.maxAttempts

structure Traced (s : JobFloor) : Prop where
  proper : Proper s.log
  holds : ∀ who, Holds s.log who (s.executors who)
  waits : ∀ id job, s.store.jobs.get id = some job → job.status.Waiting → Waits s.log job
  used : ∀ event ∈ s.log, event.job.id ∈ s.used
  known : ∀ id, (s.store.jobs.get id).isSome → id ∈ s.used

section Holds

variable {log : List FloorEvent} {who : Nat} {phase : ExecutorPhase}

theorem Holds.latest (h : Holds log who phase) {job : Job} (hjob : phase.job? = some job)
    : ∃ event, FloorEvent.latest log job.id = some event ∧ event.who = who ∧ event.Busy := by
  cases phase with
  | idle => cases hjob
  | claimed =>
    cases hjob
    exact ⟨_, h, rfl, trivial⟩
  | settled =>
    cases hjob
    rcases h with ⟨⟨taken, htaken, hsettles⟩, -⟩
    rw [hsettles.id]
    exact ⟨_, htaken, rfl, trivial⟩
  | burying =>
    cases hjob
    exact ⟨_, h.1, rfl, h.2⟩

-- Events about other jobs change nothing.
theorem Holds.cons (h : Holds log who phase) {event : FloorEvent}
    (hid : ∀ job, phase.job? = some job → event.job.id ≠ job.id) : Holds
    (event :: log) who phase := by
  cases phase with
  | idle => trivial
  | claimed job => apply (latest_cons_of_ne (hid job rfl)).trans h
  | settled job reason =>
    rcases h with ⟨⟨taken, htaken, hsettles⟩, hreason⟩
    refine ⟨⟨taken, ?_, hsettles⟩, hreason⟩
    rw [latest_cons_of_ne (hsettles.id ▸ hid job rfl)]
    exact htaken
  | burying job reason =>
    refine ⟨?_, h.2⟩
    rw [latest_cons_of_ne (hid job rfl)]
    exact h.1

theorem Waits.cons {job : Job} (h : Waits log job) {event : FloorEvent}
    (hid : event.job.id ≠ job.id)
    : Waits (event :: log) job := by
  unfold Waits
  rw [latest_cons_of_ne hid]
  exact h

-- Nobody holds a job that waits.
theorem Waits.free {job : Job} (h : Waits log job) (hholds : Holds log who phase) {held : Job}
    (hheld : phase.job? = some held) : job.id ≠ held.id := by
  intro hid
  rcases hholds.latest hheld with ⟨event, hlatest, -, hbusy⟩
  rw [← hid] at hlatest
  rcases h with hnone | ⟨who', error, attempt, hstored, hstatus, -⟩
  . rw [hnone] at hlatest
    cases hlatest
  . rw [hstored] at hlatest
    cases hlatest
    have hdead : job.status.isDeadLettered = true := hbusy
    rw [hstatus] at hdead
    cases hdead

end Holds

namespace Traced

variable {s s' : JobFloor}

theorem holds_setExecutor {t : JobFloor} {who : Nat} {phase : ExecutorPhase}
    (hself : Holds t.log who phase)
    (hothers : ∀ who', who' ≠ who → Holds t.log who' (t.executors who'))
    : ∀ who', Holds t.log who' ((t.setExecutor who phase).executors who') := by
  intro who'
  rcases setExecutor_cases t who who' phase with ⟨rfl, hphase⟩ | ⟨hne, hphase⟩
  . rw [hphase]
    exact hself
  . rw [hphase]
    apply hothers who' hne

theorem latest_of_unused (h : Traced s) {id : JobId} (hid : id ∉ s.used)
    : latest s.log id = none := by
  cases hlatest : latest s.log id with
  | none => rfl
  | some event =>
    apply absurd _ hid
    rw [← id_of_latest hlatest]
    apply h.used event (mem_of_latest hlatest)

theorem enqueue (h : Traced s) {job : Job} (hunused : job.id ∉ s.used)
    : Traced { s with
        store := { s.store with jobs := s.store.jobs.insert job }
        used := job.id :: s.used } := by
  refine ⟨h.proper, h.holds, ?_, ?_, ?_⟩
  . apply Table.forall_get_insert
    . intro id stored _ hget
      apply h.waits id stored hget
    . intro _
      exact .inl (h.latest_of_unused hunused)
  . intro event hevent
    exact List.mem_cons_of_mem _ (h.used event hevent)
  . apply Table.forall_isSome_insert
    . intro id hsome
      exact List.mem_cons_of_mem _ (h.known id hsome)
    . exact List.mem_cons_self

theorem claim (h : Traced s) {who : Nat} {job : Job} (now : DateTime)
    (hget : s.store.jobs.get job.id = some job) (hwaiting : job.status.Waiting)
    : Traced ({ s with
        store := { s.store with jobs := s.store.jobs.insert (job.markRunning now) }
        log := .handedOut who (job.markRunning now) :: s.log }.setExecutor who
          (.claimed (job.markRunning now))) := by
  have hwaits := h.waits job.id job hget hwaiting
  have hmem := h.known job.id (Option.isSome_of_eq_some hget)
  refine ⟨?_, ?_, ?_, ?_, ?_⟩
  . rcases hwaits with hnone | ⟨who', error, attempt, hstored, hstatus, hlt⟩
    . exact .first h.proper hnone
    . refine .again h.proper hstored hstatus ?_
      rw [Job.markRunning_attempt, Job.Accounted.toNat_add_one hlt]
      omega
  . apply holds_setExecutor
    . apply latest_cons_self
    . intro who' _
      apply (h.holds who').cons
      intro held hheld
      apply hwaits.free (h.holds who') hheld
  . apply Table.forall_get_insert
    . intro id stored hne hstored hwaiting'
      apply (h.waits id stored hstored hwaiting').cons
      rw [Table.key_of_get hstored]
      exact hne.symm
    . rintro (hpending | ⟨error, attempt, hfailed⟩)
      . cases hpending
      . cases hfailed
  . intro event hevent
    rcases List.mem_cons.mp hevent with rfl | hevent
    . exact hmem
    . apply h.used event hevent
  . apply Table.forall_isSome_insert h.known
    exact hmem

variable [Backoff] [DebugFormat JobKind]

theorem handle (h : Traced s) {who : Nat} {job : Job} (hclaimed : s.executors who = .claimed job)
    (executor : JobExecutor) (ks : List String) (clock : Nat → DateTime)
    : Traced (s.setExecutor who
        (.settled (executor.settle ks clock job).1 (executor.settle ks clock job).2)) := by
  refine ⟨h.proper, ?_, h.waits, h.used, h.known⟩
  apply holds_setExecutor
  . have hlatest := h.holds who
    rw [hclaimed] at hlatest
    refine ⟨⟨job, hlatest, executor.settles_settle ks clock job⟩, ?_⟩
    intro hsome
    rcases Option.isSome_iff_exists.mp hsome with ⟨reason, hreason⟩
    apply executor.isDeadLettered_of_settle ks clock hreason
  . intro who' _
    apply h.holds who'

omit [Backoff] [DebugFormat JobKind] in
theorem release (h : Traced s) (who : Nat) : Traced (s.setExecutor who .idle) := by
  refine ⟨h.proper, ?_, h.waits, h.used, h.known⟩
  apply holds_setExecutor
  . trivial
  . intro who' _
    apply h.holds who'

omit [Backoff] [DebugFormat JobKind] in
theorem update (h : Traced s) {who : Nat} {job stored : Job} {reason : Option String}
    (hsettled : s.executors who = .settled job reason)
    (hget : s.store.jobs.get job.id = some stored)
    : Traced ({ s with
        store := { s.store with jobs := s.store.jobs.insert job }
        log := .stored who job :: s.log }.setExecutor who (afterUpdate job reason)) := by
  have hholds := h.holds who
  rw [hsettled] at hholds
  rcases hholds with ⟨⟨taken, htaken, hsettles⟩, hdead⟩
  have hlatest : latest s.log job.id = some (.handedOut who taken) := hsettles.id ▸ htaken
  have hmem := h.known job.id (Option.isSome_of_eq_some hget)
  refine ⟨.stored h.proper hlatest hsettles.attempt.symm, ?_, ?_, ?_, ?_⟩
  . apply holds_setExecutor
    . cases reason with
      | none => trivial
      | some reason => exact ⟨latest_cons_self, hdead rfl⟩
    . intro who' hne
      apply (h.holds who').cons
      intro held hheld hid
      have hid : job.id = held.id := hid
      rcases (h.holds who').latest hheld with ⟨event, hevent, hwho, -⟩
      rw [← hid, hlatest] at hevent
      cases hevent
      exact hne hwho.symm
  . apply Table.forall_get_insert
    . intro id other hne hother hwaiting
      apply (h.waits id other hother hwaiting).cons
      rw [Table.key_of_get hother]
      exact hne.symm
    . intro hwaiting
      have hconcluded := hsettles.status
      rcases hwaiting with hpending | ⟨error, attempt, hfailed⟩
      . rw [hpending] at hconcluded
        cases hconcluded
      . rw [hfailed] at hconcluded
        cases hconcluded with
        | failed hretry =>
          refine .inr ⟨who, error, _, latest_cons_self, hfailed, ?_⟩
          rw [hsettles.attempt, hsettles.retryPolicy]
          exact of_decide_eq_true hretry
  . intro event hevent
    rcases List.mem_cons.mp hevent with rfl | hevent
    . exact hmem
    . apply h.used event hevent
  . apply Table.forall_isSome_insert h.known
    exact hmem

omit [Backoff] [DebugFormat JobKind] in
theorem bury (h : Traced s) {id : JobId} {deadLetters : Table DeadLetterEntry.id}
    : Traced { s with store := { jobs := s.store.jobs.erase id, deadLetters } } := by
  refine ⟨h.proper, h.holds, ?_, h.used, ?_⟩
  . apply Table.forall_get_erase
    intro id' job _ hget
    apply h.waits id' job hget
  . apply Table.forall_isSome_erase h.known

theorem step {move : JobMove} (h : Traced s) (hok : ExecutorsOnly s move) (hstep : Step s move s')
    : Traced s' := by
  cases hstep with
  | refused =>
    refine ⟨h.proper, h.holds, h.waits, ?_, ?_⟩
    . intro event hevent
      exact List.mem_cons_of_mem _ (h.used event hevent)
    . intro id hsome
      exact List.mem_cons_of_mem _ (h.known id hsome)
  | enqueued => apply h.enqueue hok
  | starved => exact h
  | claimed _ hget hclaimable _ => apply h.claim _ hget (claimable_status hclaimable)
  | handled hclaimed => apply h.handle hclaimed
  | lost => apply h.release
  | stored hsettled hget => apply h.update hsettled hget
  | buried => apply h.bury.release
  | got => cases hok
  | missed => cases hok
  | cancelled => cases hok
  | gone => cases hok

theorem of_reachable (hs : (runs .new).ReachableUnder ExecutorsOnly s) : Traced s := by
  apply Machine.ReachableUnder.invariant _ _ s hs
  . rintro _ rfl
    refine ⟨.nil, fun _ => trivial, ?_, ?_, ?_⟩
    . intro id job hget
      cases hget
    . intro event hevent
      cases hevent
    . intro id hsome
      cases hsome
  . intro s move s' h hok hstep
    apply h.step hok (step_cases hstep)

end Traced

variable [Backoff] [DebugFormat JobKind]

theorem handout_eligible {start : InMemoryJobStore} {s s' : JobFloor} {move : JobMove} {who : Nat}
    {job : Job} (hstep : (runs start).step s move = some s')
    (hlog : s'.log = .handedOut who job :: s.log)
    : ∃ tenantId order now stored, move = .claimNext who tenantId order now
        ∧ s.store.jobs.get job.id = some stored
        ∧ job = stored.markRunning now
        ∧ Eligible tenantId now stored
        ∧ (s.store.jobs.Enumerates order → ∀ id other, s.store.jobs.get id = some other →
          Eligible tenantId now other → stored.createdAt.nanos ≤ other.createdAt.nanos) := by
  have hsame : s'.log ≠ s.log := by
    rw [hlog]
    apply List.cons_ne_self
  cases step_cases hstep with
  | @claimed who' tenantId order now stored _ hget hclaimable hfirst =>
    cases hlog
    refine ⟨tenantId, order, now, stored, rfl, hget, rfl, claimable_iff.mp hclaimable, ?_⟩
    intro horder id other hother heligible
    apply hfirst other _ (claimable_iff.mpr heligible)
    rw [Table.mem_values_of_enumerates horder, Table.key_of_get hother]
    exact hother
  | stored => cases hlog
  | refused => exact absurd rfl hsame
  | enqueued => exact absurd rfl hsame
  | starved => exact absurd rfl hsame
  | handled => exact absurd rfl hsame
  | lost => exact absurd rfl hsame
  | buried => exact absurd rfl hsame
  | got => exact absurd rfl hsame
  | missed => exact absurd rfl hsame
  | cancelled => exact absurd rfl hsame
  | gone => exact absurd rfl hsame

theorem claiming_exclusive (s : JobFloor) (hs : (runs .new).ReachableUnder ExecutorsOnly s)
    : (s.log.filterMap handout?).Nodup
      ∧ (∀ later between earlier who who' job job',
        s.log = later ++ .handedOut who' job' :: (between ++ .handedOut who job :: earlier) →
          job'.id = job.id →
          ∃ failed error attempt, .stored who failed ∈ between ∧ failed.id = job.id
            ∧ failed.status = .failed error attempt)
      ∧ ∀ move s' who job, (runs .new).step s move = some s' →
          s'.log = .handedOut who job :: s.log →
        ∃ tenantId order now stored, move = .claimNext who tenantId order now
          ∧ s.store.jobs.get job.id = some stored
          ∧ job = stored.markRunning now
          ∧ Eligible tenantId now stored
          ∧ (s.store.jobs.Enumerates order → ∀ id other, s.store.jobs.get id = some other →
            Eligible tenantId now other → stored.createdAt.nanos ≤ other.createdAt.nanos) := by
  have htraced := Traced.of_reachable hs
  refine ⟨htraced.proper.handouts_nodup, ?_, ?_⟩
  . intro later between earlier who who' job job' hlog hid
    apply htraced.proper.failed_between hlog hid
  . intro move s' who job hstep hlog
    apply handout_eligible hstep hlog

end JobFloor

namespace Workshop

open Concrete JobFloor FloorEvent

-- The job fails in the hands of one executor and is handed to another one.
def passedOn : List JobMove := [
  .enqueue (job 2),
  .claimNext 0 none [⟨⟨2⟩⟩] ⟨1⟩,
  .handle 0 (executor (.failure "boom")) ["test"] clock,
  .update 0,
  .claimNext 1 (some tenantId) [⟨⟨2⟩⟩] ⟨600000000⟩]

theorem claiming_exclusive_passedOn
    : (floorAfter passedOn).log.filterMap handout? = [(⟨⟨2⟩⟩, 2), (⟨⟨2⟩⟩, 1)]
      ∧ ((floorAfter passedOn).log.filterMap handout?).Nodup := by
  have hrun : (runs .new).run (opened .new) passedOn = some (floorAfter passedOn) := rfl
  have hok : (runs .new).OkAlong ExecutorsOnly (opened .new) passedOn := by
    refine ⟨List.not_mem_nil, fun _ _ => ?_⟩
    refine ⟨trivial, fun _ _ => ?_⟩
    refine ⟨trivial, fun _ _ => ?_⟩
    refine ⟨trivial, fun _ _ => ?_⟩
    exact ⟨trivial, fun _ _ => trivial⟩
  have hexclusive := claiming_exclusive _ (Machine.ReachableUnder.runAlong (.init rfl) hok hrun)
  exact ⟨rfl, hexclusive.1⟩

end Workshop

end ForgeErp
