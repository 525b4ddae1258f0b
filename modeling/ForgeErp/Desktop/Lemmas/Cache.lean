import ForgeErp.Desktop.SyncManager

/-!
This module contains the verification of the local cache. Whatever is received is stored, so that
the versions in the cache are those of the responses, in their order.
-/

namespace ForgeErp

namespace LocalCache

variable {cache : LocalCache} {key : ReadModelKey} {model : JsonValue} {now : DateTime}

theorem get_cacheReadModelWithVersion (cache : LocalCache) (key : ReadModelKey) (model : JsonValue)
    (version : Option UInt64) (now : DateTime)
    : (cache.cacheReadModelWithVersion key model version now).readModels.get key
        = some ⟨model, now, version.map UInt64.toInt64⟩ := by
  apply KeyMap.get_insert_self

-- A version survives its way through the signed column.
theorem getReadModelVersion_cacheReadModelWithVersion (cache : LocalCache) (key : ReadModelKey)
    (model : JsonValue) (version : UInt64) (now : DateTime)
    : (cache.cacheReadModelWithVersion key model (some version) now).getReadModelVersion key
        = some version := by
  unfold getReadModelVersion
  rw [get_cacheReadModelWithVersion]
  simp

end LocalCache

namespace SyncManager

variable {states : UInt64 → JsonValue} {cache : LocalCache} {key : ReadModelKey}
variable {reply : ReadReply} {now : DateTime} {calls : List (ReadReply × DateTime)}

-- The version that a response carries, in one of three places.
def carriedVersion (headers : HeaderMap) (body : JsonValue) : Option UInt64 :=
  (((headers.etag.bind headerToStr).bind stripV).bind parseU64)
    <|> ((headers.xStreamVersion.bind headerToStr).bind parseU64)
    <|> getU64 body "stream_version"

theorem extractVersionFromBody_eq (body : JsonValue) (headers : HeaderMap) (now : DateTime)
    : extractVersionFromBody body headers now
        = (carriedVersion headers body).getD (timestampU64 now) := by
  unfold extractVersionFromBody carriedVersion
  dsimp only
  cases ((headers.etag.bind headerToStr).bind stripV).bind parseU64 with
  | some version => rfl
  | none =>
    cases (headers.xStreamVersion.bind headerToStr).bind parseU64 with
    | some version => rfl
    | none => cases getU64 body "stream_version" <;> rfl

theorem natCast_toNat_lt (version : UInt64) : (version.toNat : Int) < 2 ^ 64 := by
  exact_mod_cast version.toNat_lt

theorem getU64_cons (name : String) (n : Int) (fields : List (String × JsonValue))
    (h : 0 ≤ n ∧ n < 2 ^ 64)
    : getU64 (.object ((name, .number n) :: fields)) name = some (.ofNat n.toNat) := by
  unfold getU64
  dsimp only
  rw [List.lookup_cons_self]
  exact if_pos h

-- What a call stores, if it gets that far.
def received (reply : ReadReply) (now : DateTime) : Option (JsonValue × UInt64) :=
  match reply with
  | .response status headers text (.ok body) =>
    if (HttpResponse.mk status text).isSuccess then
      some (body, extractVersionFromBody body headers now)
    else
      none
  | _ => none

theorem syncReadModel_cache (cache : LocalCache) (key : ReadModelKey)
    (reply : ReadReply) (now : DateTime)
    : (syncReadModel cache key reply now).2
        = match received reply now with
          | some (body, version) => cache.cacheReadModelWithVersion key body (some version) now
          | none => cache := by
  unfold syncReadModel received
  cases reply with
  | failed error => rfl
  | response status headers text json =>
    cases hsuccess : (HttpResponse.mk status text).isSuccess with
    | false =>
      cases json <;> simp [hsuccess]
    | true =>
      cases json with
      | error e => simp [hsuccess]
      | ok body =>
        simp only [hsuccess, Bool.not_true, Bool.false_eq_true, if_false, if_true]
        split <;> rfl

def syncReadModels (cache : LocalCache) (key : ReadModelKey) (calls : List (ReadReply × DateTime))
    : LocalCache :=
  calls.foldl (fun cache call => (syncReadModel cache key call.1 call.2).2) cache

/--
A successful response carries the version and the body of one of the states of the aggregate.
-/
def Genuine (states : UInt64 → JsonValue) (reply : ReadReply) : Prop :=
  ∀ status headers text body, reply = .response status headers text (.ok body) →
    (HttpResponse.mk status text).isSuccess = true →
    ∃ version, carriedVersion headers body = some version ∧ body = states version

def InStep (states : UInt64 → JsonValue) (key : ReadModelKey) (cache : LocalCache) : Prop :=
  ∀ row version, cache.readModels.get key = some row → row.version = some version →
    row.data = states version.toUInt64

/--
After each of the calls the version is as great as before, and the body is the one of that version.
-/
structure NeverBack (states : UInt64 → JsonValue) (key : ReadModelKey) (cache : LocalCache)
    (calls : List (ReadReply × DateTime))
    : Prop where
  version : ∀ n v, (syncReadModels cache key (calls.take n)).getReadModelVersion key = some v →
    ∃ v', (syncReadModels cache key (calls.take (n + 1))).getReadModelVersion key = some v' ∧ v ≤ v'
  body : ∀ n, InStep states key (syncReadModels cache key (calls.take n))

-- What is received is never older than what was received before, or was there at the start.
def Ascending (last : Option UInt64) (calls : List (ReadReply × DateTime)) : Prop :=
  match calls with
  | [] => True
  | (reply, now) :: calls =>
    match received reply now with
    | some (_, version) => (∀ v, last = some v → v ≤ version) ∧ Ascending (some version) calls
    | none => Ascending last calls

-- The version that is stored after a call.
def nextVersion (last : Option UInt64) (reply : ReadReply) (now : DateTime) : Option UInt64 :=
  match received reply now with
  | some (_, version) => some version
  | none => last

theorem getReadModelVersion_syncReadModel (cache : LocalCache) (key : ReadModelKey)
    (reply : ReadReply)
    (now : DateTime)
    : (syncReadModel cache key reply now).2.getReadModelVersion key
        = nextVersion (cache.getReadModelVersion key) reply now := by
  rw [syncReadModel_cache]
  unfold nextVersion
  cases received reply now with
  | none => rfl
  | some data => apply LocalCache.getReadModelVersion_cacheReadModelWithVersion

theorem ascending_cons (last : Option UInt64) (reply : ReadReply) (now : DateTime)
    (calls : List (ReadReply × DateTime))
    : Ascending last ((reply, now) :: calls)
        ↔
      (∀ v, last = some v → ∃ v', nextVersion last reply now = some v' ∧ v ≤ v')
        ∧ Ascending (nextVersion last reply now) calls := by
  rw [Ascending]
  unfold nextVersion
  cases received reply now with
  | none =>
    have hrefl : ∀ v, last = some v → ∃ v', last = some v' ∧ v ≤ v' := by
      intro v hv
      exact ⟨v, hv, UInt64.le_refl v⟩
    exact ⟨fun h => ⟨hrefl, h⟩, And.right⟩
  | some data => simp

theorem received_genuine (h : Genuine states reply) {body : JsonValue} {version : UInt64}
    (hreceived : received reply now = some (body, version)) : body = states version := by
  unfold received at hreceived
  split at hreceived
  . next status headers text body' =>
    split at hreceived
    . next hsuccess =>
      cases hreceived
      rcases h _ _ _ _ rfl hsuccess with ⟨version, hcarried, hbody⟩
      rw [extractVersionFromBody_eq, hcarried]
      exact hbody
    . cases hreceived
  . cases hreceived

theorem InStep.syncReadModel (h : InStep states key cache) (hgenuine : Genuine states reply)
    : InStep states key (syncReadModel cache key reply now).2 := by
  rw [syncReadModel_cache]
  split
  . next body version hreceived =>
    intro row v hrow hv
    rw [LocalCache.get_cacheReadModelWithVersion] at hrow
    cases hrow
    cases hv
    rw [UInt64.toUInt64_toInt64]
    apply received_genuine hgenuine hreceived
  . exact h

theorem inStep_syncReadModels (h : InStep states key cache)
    (hgenuine : ∀ call ∈ calls, Genuine states call.1)
    : InStep states key (syncReadModels cache key calls) := by
  induction calls generalizing cache with
  | nil => exact h
  | cons call calls ih =>
    rw [List.forall_mem_cons] at hgenuine
    apply ih (h.syncReadModel hgenuine.1) hgenuine.2

theorem ascending_iff (cache : LocalCache) (calls : List (ReadReply × DateTime))
    : Ascending (cache.getReadModelVersion key) calls
        ↔
      ∀ n v, (syncReadModels cache key (calls.take n)).getReadModelVersion key = some v →
        ∃ v', (syncReadModels cache key (calls.take (n + 1))).getReadModelVersion key
          = some v' ∧ v ≤ v' := by
  induction calls generalizing cache with
  | nil =>
    simp only [Ascending, List.take_nil, true_iff]
    intro n v hv
    exact ⟨v, hv, UInt64.le_refl v⟩
  | cons call calls ih =>
    rcases call with ⟨reply, now⟩
    have ih := ih (syncReadModel cache key reply now).2
    rw [ascending_cons, ← getReadModelVersion_syncReadModel, ih]
    -- the first call, and all later ones
    constructor
    . rintro ⟨hfirst, hrest⟩ n
      cases n with
      | zero => exact hfirst
      | succ n => exact hrest n
    . intro h
      exact ⟨h 0, fun n => h (n + 1)⟩

/--
The cache never goes back in time if and only if no response is older than the one before it.
-/
theorem neverBack_iff (cache : LocalCache) (key : ReadModelKey)
    (calls : List (ReadReply × DateTime))
    (hcache : InStep states key cache) (hgenuine : ∀ call ∈ calls, Genuine states call.1)
    : NeverBack states key cache calls ↔ Ascending (cache.getReadModelVersion key) calls := by
  rw [ascending_iff]
  constructor
  . intro h
    exact h.version
  . intro h
    refine ⟨h, ?_⟩
    intro n
    apply inStep_syncReadModels hcache
    intro call hcall
    apply hgenuine call (List.mem_of_mem_take hcall)

end SyncManager

namespace Laptop

open SyncManager

def stockKey : ReadModelKey :=
  ⟨⟨⟨1⟩⟩, "inventory_item", ⟨⟨2⟩⟩⟩

def stockAt (version : UInt64) : JsonValue :=
  .object [("stream_version", .number version.toNat)]

def answer (version : UInt64) : ReadReply :=
  .response 200 ⟨none, none⟩ "" (.ok (stockAt version))

theorem getU64_stockAt (version : UInt64)
    : getU64 (stockAt version) "stream_version" = some version := by
  unfold stockAt
  rw [getU64_cons _ _ _ ⟨Int.natCast_nonneg _, natCast_toNat_lt version⟩, Int.toNat_natCast,
    UInt64.ofNat_toNat]

theorem carriedVersion_stockAt (version : UInt64)
    : carriedVersion ⟨none, none⟩ (stockAt version) = some version := by
  simp [carriedVersion, getU64_stockAt]

theorem received_answer (version : UInt64) (now : DateTime)
    : received (answer version) now = some (stockAt version, version) := by
  unfold received answer
  dsimp only
  rw [if_pos (by decide), extractVersionFromBody_eq, carriedVersion_stockAt, Option.getD_some]

theorem genuine_answer (version : UInt64) : Genuine stockAt (answer version) := by
  intro status headers text body hanswer _
  cases hanswer
  exact ⟨version, carriedVersion_stockAt version, rfl⟩

theorem inStep_new : InStep stockAt stockKey LocalCache.new := by
  intro row version hrow
  cases hrow

theorem neverBack_iff_updated
    : NeverBack stockAt stockKey LocalCache.new [(answer 1, ⟨0⟩), (answer 2, ⟨1⟩)] := by
  apply (neverBack_iff LocalCache.new stockKey _ inStep_new _).2
  . simp [Ascending, received_answer, LocalCache.getReadModelVersion, LocalCache.new]
  . simp [genuine_answer]

-- A replica that lags behind answers the second call.
theorem older_answer_stored
    : InStep stockAt stockKey LocalCache.new
        ∧ (∀ call ∈ [(answer 2, DateTime.mk 0), (answer 1, ⟨1⟩)], Genuine stockAt call.1)
        ∧ ¬NeverBack stockAt stockKey LocalCache.new [(answer 2, ⟨0⟩), (answer 1, ⟨1⟩)] := by
  refine ⟨inStep_new, by simp [genuine_answer], ?_⟩
  intro h
  have hascending := (ascending_iff LocalCache.new _).2 h.version
  simp [Ascending, received_answer] at hascending

end Laptop

end ForgeErp
