import ForgeErp.Jobs.Calls
import ForgeErp.Jobs.Lemmas.Claiming

/-!
This module contains tenant isolation of the job store. What a tenant is answered depends on the
records of that tenant, except that `get` tells a job of somebody else from none.
-/

namespace ForgeErp

namespace InMemoryJobStore

-- What a listing may answer: one result for every order in which a hash map is visited.

def StatusLists (store : InMemoryJobStore) (tenantId : TenantId)
    (status : Option JobStatus) (limit : Nat)
    : Set (List Job) :=
  {result | ∃ ks, store.jobs.Enumerates ks ∧ store.listByStatus tenantId status limit ks = result}

def KindLists (store : InMemoryJobStore) (tenantId : TenantId) (kind : JobKind) (limit : Nat)
    : Set (List Job) :=
  {result | ∃ ks, store.jobs.Enumerates ks ∧ store.listByKind tenantId kind limit ks = result}

def LetterLists (store : InMemoryJobStore) (tenantId : TenantId) (limit : Nat)
    : Set (List DeadLetterEntry) :=
  {result | ∃ ks, store.deadLetters.Enumerates ks
    ∧ store.listDeadLetters tenantId limit ks = result}

def StatsResults (store : InMemoryJobStore) (tenantId : TenantId) : Set JobStats :=
  {result | ∃ ks dls, store.jobs.Enumerates ks ∧ store.deadLetters.Enumerates dls
    ∧ store.stats tenantId ks dls = result}

/--
`tenantId` sees the same jobs, lists and numbers in both stores.
-/
structure SameView (tenantId : TenantId) (store store' : InMemoryJobStore) : Prop where
  get : ∀ jobId job, store'.get tenantId jobId = .ok (some job)
    ↔ store.get tenantId jobId = .ok (some job)
  listByStatus : ∀ status limit,
    store'.StatusLists tenantId status limit = store.StatusLists tenantId status limit
  listByKind : ∀ kind limit, store'.KindLists tenantId kind limit
    = store.KindLists tenantId kind limit
  listDeadLetters : ∀ limit, store'.LetterLists tenantId limit = store.LetterLists tenantId limit
  stats : store'.StatsResults tenantId = store.StatsResults tenantId

def HoldsJob (store : InMemoryJobStore) (tenantId : TenantId) (jobId : JobId) : Prop :=
  ∃ job, store.jobs.get jobId = some job ∧ job.tenantId = tenantId

def HoldsLetter (store : InMemoryJobStore) (tenantId : TenantId) (jobId : JobId) : Prop :=
  ∃ entry, store.deadLetters.get jobId = some entry ∧ entry.job.tenantId = tenantId

/--
The call does not write where a record of `tenantId` is.
-/
def Spares (tenantId : TenantId) (store : InMemoryJobStore) (call : JobStoreCall) : Prop :=
  match call with
  | .update job => ¬ store.HoldsJob tenantId job.id
  | .deadLetter job _ _ _ => ¬ store.HoldsJob tenantId job.id ∧ ¬ store.HoldsLetter tenantId job.id
  | .retryDeadLetter _ jobId _ => ¬ store.HoldsJob tenantId jobId
  | _ => True

def ofTenant (tenantId : TenantId) (job : Job) : Bool :=
  job.tenantId == tenantId

def letterOfTenant (tenantId : TenantId) (entry : DeadLetterEntry) : Bool :=
  ofTenant tenantId entry.job

structure SameRecords (tenantId : TenantId) (store store' : InMemoryJobStore) : Prop where
  jobs : store.jobs.Agree (ofTenant tenantId) store'.jobs
  deadLetters : store.deadLetters.Agree (letterOfTenant tenantId) store'.deadLetters

theorem get_eq_some_iff {store : InMemoryJobStore} {tenantId : TenantId} {jobId : JobId} {job : Job}
    : store.get tenantId jobId = .ok (some job)
        ↔ store.jobs.get jobId = some job ∧ ofTenant tenantId job = true := by
  unfold InMemoryJobStore.get ofTenant
  rw [beq_iff_eq]
  cases store.jobs.get jobId with
  | none => simp
  | some stored =>
    dsimp only
    split
    . next htenant =>
      constructor
      . rintro ⟨⟩
        exact ⟨rfl, htenant⟩
      . rintro ⟨⟨⟩, -⟩
        rfl
    . next htenant =>
      constructor
      . rintro ⟨⟩
      . rintro ⟨⟨⟩, htenant'⟩
        exact absurd htenant' htenant

theorem listByStatus_eq (store : InMemoryJobStore) (tenantId : TenantId) (status : Option JobStatus)
    (limit : Nat) (ks : List JobId)
    : store.listByStatus tenantId status limit ks
        = ((((store.jobs.values ks).filter (ofTenant tenantId)).filter fun job =>
            status.all job.status.sameVariant).insertionSort CreatedOrder).take limit := by
  rw [List.filter_filter]
  unfold listByStatus ofTenant
  cases status with
  | none =>
    dsimp only
    simp only [Option.all_none, Bool.and_true, Bool.true_and]
  | some status =>
    dsimp only
    simp only [Option.all_some, Bool.and_comm]

theorem listByKind_eq (store : InMemoryJobStore) (tenantId : TenantId)
    (kind : JobKind) (limit : Nat)
    (ks : List JobId)
    : store.listByKind tenantId kind limit ks
        = ((((store.jobs.values ks).filter (ofTenant tenantId)).filter fun job =>
            job.kind == kind).insertionSort CreatedOrder).take limit := by
  rw [List.filter_filter]
  unfold listByKind ofTenant
  dsimp only
  simp only [Bool.and_comm]

theorem stats_eq (store : InMemoryJobStore) (tenantId : TenantId) (ks dls : List JobId)
    : store.stats tenantId ks dls
        = ((store.deadLetters.values dls).filter (letterOfTenant tenantId)).foldl
            (fun stats _ => { stats with deadLettered := stats.deadLettered + 1 })
            (((store.jobs.values ks).filter (ofTenant tenantId)).foldl
              (fun stats job => stats.count job.status) ⟨0, 0, 0, 0, 0, 0⟩) := by
  rw [List.foldl_filter, List.foldl_filter]
  unfold stats letterOfTenant ofTenant
  dsimp only
  simp only [beq_iff_eq, ite_not]

namespace SameRecords

variable {tenantId : TenantId} {store store' store'' : InMemoryJobStore}

theorem refl (tenantId : TenantId) (store : InMemoryJobStore) : SameRecords tenantId store store :=
  ⟨.refl _ _, .refl _ _⟩

theorem symm (h : SameRecords tenantId store store') : SameRecords tenantId store' store :=
  ⟨h.jobs.symm, h.deadLetters.symm⟩

theorem trans (h : SameRecords tenantId store store') (h' : SameRecords tenantId store' store'')
    : SameRecords tenantId store store'' :=
  ⟨h.jobs.trans h'.jobs, h.deadLetters.trans h'.deadLetters⟩

theorem statusLists_subset (h : SameRecords tenantId store store') (status : Option JobStatus)
    (limit : Nat) : store.StatusLists tenantId status limit ⊆ store'.StatusLists tenantId
    status limit := by
  rintro _ ⟨ks, hks, rfl⟩
  rcases h.jobs.exists_enumerates hks with ⟨ks', hks', heq⟩
  refine ⟨ks', hks', ?_⟩
  rw [listByStatus_eq, listByStatus_eq, heq]

theorem kindLists_subset (h : SameRecords tenantId store store') (kind : JobKind) (limit : Nat)
    : store.KindLists tenantId kind limit ⊆ store'.KindLists tenantId kind limit := by
  rintro _ ⟨ks, hks, rfl⟩
  rcases h.jobs.exists_enumerates hks with ⟨ks', hks', heq⟩
  refine ⟨ks', hks', ?_⟩
  rw [listByKind_eq, listByKind_eq, heq]

theorem letterLists_subset (h : SameRecords tenantId store store') (limit : Nat)
    : store.LetterLists tenantId limit ⊆ store'.LetterLists tenantId limit := by
  rintro _ ⟨ks, hks, rfl⟩
  rcases h.deadLetters.exists_enumerates hks with ⟨ks', hks', heq⟩
  refine ⟨ks', hks', ?_⟩
  exact congrArg (fun entries => (entries.insertionSort DeadLetteredOrder).take limit) heq

theorem statsResults_subset (h : SameRecords tenantId store store')
    : store.StatsResults tenantId ⊆ store'.StatsResults tenantId := by
  rintro _ ⟨ks, dls, hks, hdls, rfl⟩
  rcases h.jobs.exists_enumerates hks with ⟨ks', hks', heq⟩
  rcases h.deadLetters.exists_enumerates hdls with ⟨dls', hdls', heq'⟩
  refine ⟨ks', dls', hks', hdls', ?_⟩
  rw [stats_eq, stats_eq, heq, heq']

theorem sameView (h : SameRecords tenantId store store') : SameView tenantId store store' where
  get jobId job := by
    rw [get_eq_some_iff, get_eq_some_iff]
    apply and_congr_left
    intro htenant
    exact (h.jobs jobId job htenant).symm
  listByStatus status limit :=
    (h.symm.statusLists_subset status limit).antisymm (h.statusLists_subset status limit)
  listByKind kind limit := (h.symm.kindLists_subset kind limit).antisymm
    (h.kindLists_subset kind limit)
  listDeadLetters limit := (h.symm.letterLists_subset limit).antisymm (h.letterLists_subset limit)
  stats := h.symm.statsResults_subset.antisymm h.statsResults_subset

end SameRecords

section Calls

variable {tenantId : TenantId} {store store' : InMemoryJobStore}

theorem sameRecords_insert_job {job : Job} (hjob : job.tenantId ≠ tenantId)
    (hholds : ¬ store.HoldsJob tenantId job.id)
    : SameRecords tenantId store { store with jobs := store.jobs.insert job } := by
  refine ⟨Table.agree_insert ?_ ?_, .refl _ _⟩
  . intro stored hget
    exact beq_eq_false_iff_ne.mpr fun htenant => hholds ⟨stored, hget, htenant⟩
  . exact beq_eq_false_iff_ne.mpr hjob

theorem not_holdsJob_of_get {job : Job} (hget : store.jobs.get job.id = some job)
    (hjob : job.tenantId ≠ tenantId) : ¬ store.HoldsJob tenantId job.id := by
  rintro ⟨stored, hget', htenant⟩
  rw [hget] at hget'
  cases hget'
  exact hjob htenant

theorem sameRecords_enqueue {job : Job} (hjob : job.tenantId ≠ tenantId)
    : SameRecords tenantId store (store.enqueue job).2 := by
  unfold enqueue
  cases hget : store.jobs.get job.id with
  | some stored => apply SameRecords.refl
  | none =>
    apply sameRecords_insert_job hjob
    rintro ⟨stored, hget', -⟩
    rw [hget] at hget'
    cases hget'

theorem sameRecords_update {job : Job} (hjob : job.tenantId ≠ tenantId)
    (hholds : ¬ store.HoldsJob tenantId job.id) : SameRecords tenantId store
    (store.update job).2 := by
  cases hget : store.jobs.get job.id with
  | none =>
    rw [update_of_absent _ hget]
    apply SameRecords.refl
  | some stored =>
    rw [update_of_get _ hget]
    apply sameRecords_insert_job hjob hholds

theorem sameRecords_claimNext {claimant : TenantId} (hclaimant : claimant ≠ tenantId)
    (order : List JobId) (now : DateTime)
    : SameRecords tenantId store (store.claimNext (some claimant) order now).2 := by
  rcases store.claimNext_cases (some claimant) order now
      with ⟨-, hclaim⟩ | ⟨job, hget, hclaimable, -, hclaim⟩
  . rw [hclaim]
    apply SameRecords.refl
  . rw [hclaim]
    have hallowed := (claimable_iff.mp hclaimable).allowed claimant rfl
    have hjob : job.tenantId ≠ tenantId := hallowed ▸ hclaimant
    have hrunning : (job.markRunning now).tenantId ≠ tenantId := hjob
    apply sameRecords_insert_job hrunning
    apply not_holdsJob_of_get hget hjob

theorem sameRecords_deadLetter {job : Job} (hjob : job.tenantId ≠ tenantId)
    (hholds : ¬ store.HoldsJob tenantId job.id) (hletter : ¬ store.HoldsLetter tenantId job.id)
    (reason : String) (now deadLetteredAt : DateTime)
    : SameRecords tenantId store (store.deadLetter job reason now deadLetteredAt) := by
  rw [deadLetter_eq]
  refine ⟨Table.agree_erase ?_, Table.agree_insert ?_ ?_⟩
  . intro stored hget
    exact beq_eq_false_iff_ne.mpr fun htenant => hholds ⟨stored, hget, htenant⟩
  . intro entry hget
    exact beq_eq_false_iff_ne.mpr fun htenant => hletter ⟨entry, hget, htenant⟩
  . exact beq_eq_false_iff_ne.mpr hjob

theorem agree_erase_letter {jobId : JobId} {entry : DeadLetterEntry}
    (hget : store.deadLetters.get jobId = some entry) (hentry : entry.job.tenantId ≠ tenantId)
    : store.deadLetters.Agree (letterOfTenant tenantId) (store.deadLetters.erase jobId) := by
  apply Table.agree_erase
  intro other hother
  rw [hget] at hother
  cases hother
  exact beq_eq_false_iff_ne.mpr hentry

theorem sameRecords_retryDeadLetter {caller : TenantId}
    (hcaller : caller ≠ tenantId) {jobId : JobId}
    (hholds : ¬ store.HoldsJob tenantId jobId) (now : DateTime)
    : SameRecords tenantId store (store.retryDeadLetter caller jobId now).2 := by
  rcases store.retryDeadLetter_cases caller jobId now
      with ⟨err, hretry⟩ | ⟨entry, hget, hentry, hretry⟩
  . rw [hretry]
    apply SameRecords.refl
  . rw [hretry]
    have hjob : entry.job.tenantId ≠ tenantId := hentry ▸ hcaller
    have hid : entry.id = jobId := Table.key_of_get hget
    have hretried : (retried entry.job now).tenantId ≠ tenantId := hjob
    have hinsert := sameRecords_insert_job hretried
      (show ¬ store.HoldsJob tenantId entry.id from hid ▸ hholds)
    exact ⟨hinsert.jobs, agree_erase_letter hget hjob⟩

theorem sameRecords_deleteDeadLetter {caller : TenantId}
    (hcaller : caller ≠ tenantId) (jobId : JobId)
    : SameRecords tenantId store (store.deleteDeadLetter caller jobId).2 := by
  rcases store.deleteDeadLetter_cases caller jobId
      with ⟨err, hdelete⟩ | ⟨entry, hget, hentry, hdelete⟩
  . rw [hdelete]
    apply SameRecords.refl
  . rw [hdelete]
    exact ⟨.refl _ _, agree_erase_letter hget (hentry ▸ hcaller)⟩

theorem sameRecords_apply {call : JobStoreCall} {caller : TenantId}
    (hcall : call.tenant? = some caller)
    (hcaller : caller ≠ tenantId) (hok : Spares tenantId store call)
    : SameRecords tenantId store (store.apply call) := by
  cases call with
  | enqueue job =>
    cases hcall
    apply sameRecords_enqueue hcaller
  | update job =>
    cases hcall
    apply sameRecords_update hcaller hok
  | claimNext claimant order now =>
    cases hcall
    apply sameRecords_claimNext hcaller
  | deadLetter job reason now deadLetteredAt =>
    cases hcall
    apply sameRecords_deadLetter hcaller hok.1 hok.2
  | retryDeadLetter _ jobId now =>
    cases hcall
    apply sameRecords_retryDeadLetter hcaller hok
  | deleteDeadLetter _ jobId =>
    cases hcall
    apply sameRecords_deleteDeadLetter hcaller
  | get => apply SameRecords.refl
  | listByStatus => apply SameRecords.refl
  | listByKind => apply SameRecords.refl
  | listDeadLetters => apply SameRecords.refl
  | stats => apply SameRecords.refl

theorem sameRecords_run {foreign : List JobStoreCall}
    (hforeign : ∀ call ∈ foreign, ∃ caller, call.tenant? = some caller ∧ caller ≠ tenantId)
    (hok : runs.OkAlong (Spares tenantId) store foreign)
    (hrun : runs.run store foreign = some store')
    : SameRecords tenantId store store' := by
  induction foreign generalizing store with
  | nil =>
    cases hrun
    apply SameRecords.refl
  | cons call foreign ih =>
    rcases hforeign call List.mem_cons_self with ⟨caller, hcall, hcaller⟩
    have hstep : runs.step store call = some (store.apply call) := rfl
    rw [Machine.run_cons hstep] at hrun
    apply (sameRecords_apply hcall hcaller hok.1).trans
    apply ih _ (hok.2 _ hstep) hrun
    intro call' hmem
    apply hforeign call' (List.mem_cons_of_mem _ hmem)

end Calls

theorem foreign_calls_unseen (tenantId : TenantId) (store store' : InMemoryJobStore)
    (foreign : List JobStoreCall)
    (hforeign : ∀ call ∈ foreign, ∃ caller, call.tenant? = some caller ∧ caller ≠ tenantId)
    (hok : runs.OkAlong (Spares tenantId) store foreign)
    (hrun : runs.run store foreign = some store')
    : SameView tenantId store store' := by
  apply (sameRecords_run hforeign hok hrun).sameView

end InMemoryJobStore

namespace Workshop

open InMemoryJobStore

def neighbour : TenantId := ⟨⟨3⟩⟩

-- The neighbour's job is buried and taken back, next to a job that is of no concern to them.
def foreign : List JobStoreCall := [
  .deadLetter { job 1 with id := ⟨⟨4⟩⟩, tenantId := neighbour } "boom" ⟨1⟩ ⟨1⟩,
  .retryDeadLetter neighbour ⟨⟨4⟩⟩ ⟨2⟩,
  .stats neighbour]

def occupied : InMemoryJobStore :=
  (InMemoryJobStore.new.enqueue (job 1)).2

theorem foreign_calls_unseen_retried
    : (foreign.foldl apply occupied).get tenantId ⟨⟨4⟩⟩ = .error .tenantIsolation
      ∧ SameView tenantId occupied (foreign.foldl apply occupied) := by
  have hforeign : ∀ call ∈ foreign, ∃ caller, call.tenant? = some caller ∧ caller ≠ tenantId := by
    intro call hcall
    simp only [foreign, List.mem_cons, List.not_mem_nil, or_false] at hcall
    rcases hcall with rfl | rfl | rfl
    . exact ⟨neighbour, rfl, by decide⟩
    . exact ⟨neighbour, rfl, by decide⟩
    . exact ⟨neighbour, rfl, by decide⟩
  have hok : runs.OkAlong (Spares tenantId) occupied foreign := by
    refine ⟨⟨?_, ?_⟩, ?_⟩
    . rintro ⟨_, ⟨⟩, -⟩
    . rintro ⟨_, ⟨⟩, -⟩
    . rintro _ ⟨⟩
      refine ⟨?_, fun _ _ => ⟨trivial, fun _ _ => trivial⟩⟩
      rintro ⟨_, ⟨⟩, -⟩
  have hrun : runs.run occupied foreign = some (foreign.foldl apply occupied) := rfl
  exact ⟨rfl, foreign_calls_unseen tenantId _ _ foreign hforeign hok hrun⟩

/--
A tenant learns of the job of another one when `get` changes its answer.
-/
theorem enqueue_seen
    : ¬ ∀ store tenantId caller call jobId, runs.Reachable store → call.tenant? = some caller →
        caller ≠ tenantId → (store.apply call).get tenantId jobId = store.get tenantId jobId := by
  intro h
  have hsame := h .new neighbour tenantId (.enqueue (job 1)) ⟨⟨2⟩⟩ (.init rfl) rfl (by decide)
  cases hsame

end Workshop

end ForgeErp
