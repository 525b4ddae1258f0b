import ForgeErp.Library.KeyMap

/-!
This module contains tables of records: finite maps in which every record is stored under a key that
it carries itself.
-/

structure Table {κ ν : Type} (key : ν → κ) where
  map : KeyMap κ ν
  own : ∀ k v, map.get k = some v → key v = k

namespace Table

variable {κ ν : Type} {key : ν → κ}

def get (t : Table key) (k : κ) : Option ν :=
  t.map.get k

theorem key_of_get {t : Table key} {k : κ} {v : ν} (h : t.get k = some v) : key v = k :=
  t.own k v h

@[ext]
theorem ext {t u : Table key} (h : ∀ k, t.get k = u.get k) : t = u := by
  rcases t with ⟨t, ht⟩
  rcases u with ⟨u, hu⟩
  have : t = u := KeyMap.ext h
  subst this
  rfl

def empty : Table key where
  map := .empty
  own := by simp

@[simp]
theorem get_empty (k : κ) : (empty : Table key).get k = none := rfl

/--
The records of a table, in the order of an enumeration of its keys.
-/
def values (t : Table key) (ks : List κ) : List ν :=
  ks.filterMap t.get

def Enumerates (t : Table key) (ks : List κ) : Prop :=
  t.map.Enumerates ks

theorem mem_values {t : Table key} {ks : List κ} {v : ν}
    : v ∈ t.values ks ↔ key v ∈ ks ∧ t.get (key v) = some v := by
  unfold values
  rw [List.mem_filterMap]
  constructor
  . rintro ⟨k, hk, hget⟩
    have hkey := key_of_get hget
    subst hkey
    exact ⟨hk, hget⟩
  . rintro ⟨hk, hget⟩
    exact ⟨key v, hk, hget⟩

theorem mem_values_of_enumerates {t : Table key} {ks : List κ} (h : t.Enumerates ks) {v : ν}
    : v ∈ t.values ks ↔ t.get (key v) = some v := by
  rw [mem_values]
  constructor
  . rintro ⟨-, hget⟩
    exact hget
  . intro hget
    refine ⟨?_, hget⟩
    rw [h.mem_iff]
    apply Option.isSome_of_eq_some hget

/--
The records for which `p` holds are the same in both tables.
-/
def Agree (p : ν → Bool) (t u : Table key) : Prop :=
  ∀ k v, p v = true → (t.get k = some v ↔ u.get k = some v)

namespace Agree

variable {p : ν → Bool} {t u w : Table key}

theorem refl (p : ν → Bool) (t : Table key) : Agree p t t :=
  fun _ _ _ => .rfl

theorem symm (h : Agree p t u) : Agree p u t :=
  fun k v hv => (h k v hv).symm

theorem trans (h : Agree p t u) (h' : Agree p u w) : Agree p t w :=
  fun k v hv => (h k v hv).trans (h' k v hv)

theorem filter_values (h : Agree p t u) (ks : List κ)
    : (u.values (ks.filter fun k => (t.get k).any p)).filter p = (t.values ks).filter p := by
  unfold values
  induction ks with
  | nil => rfl
  | cons k ks ih =>
    cases hget : t.get k with
    | none =>
      rw [List.filter_cons_of_neg (by simp [hget]), List.filterMap_cons_none hget]
      exact ih
    | some v =>
      by_cases hv : p v = true
      . rw [List.filter_cons_of_pos (by simp [hget, hv]), List.filterMap_cons_some hget,
          List.filterMap_cons_some ((h k v hv).mp hget), List.filter_cons_of_pos hv,
          List.filter_cons_of_pos hv, ih]
      . rw [List.filter_cons_of_neg (by simp [hget, hv]), List.filterMap_cons_some hget,
          List.filter_cons_of_neg hv, ih]

theorem exists_enumerates (h : Agree p t u) {ks : List κ} (hks : t.Enumerates ks)
    : ∃ ks', u.Enumerates ks' ∧ (u.values ks').filter p = (t.values ks).filter p := by
  rcases u.map.exists_enumerates with ⟨us, hus⟩
  have hrest : (u.values (us.filter fun k => !(u.get k).any p)).filter p = [] := by
    rw [List.filter_eq_nil_iff]
    intro v hv
    rcases List.mem_filterMap.mp hv with ⟨k, hk, hget⟩
    have hnot := (List.mem_filter.mp hk).2
    rw [hget] at hnot
    simpa using hnot
  refine ⟨ks.filter (fun k => (t.get k).any p) ++ us.filter (fun k => !(u.get k).any p), ⟨?_, ?_⟩,
    ?_⟩
  . rw [List.nodup_append']
    refine ⟨hks.nodup.filter _, hus.nodup.filter _, ?_⟩
    intro k hk hk'
    have hany := (List.mem_filter.mp hk).2
    have hnot := (List.mem_filter.mp hk').2
    cases hget : t.get k with
    | none =>
      rw [hget] at hany
      cases hany
    | some v =>
      rw [hget, Option.any_some] at hany
      rw [(h k v hany).mp hget, Option.any_some, hany] at hnot
      cases hnot
  . intro k
    rw [List.mem_append, List.mem_filter, List.mem_filter]
    constructor
    . rintro (⟨-, hany⟩ | ⟨hk, -⟩)
      . cases hget : t.get k with
        | none =>
          rw [hget] at hany
          cases hany
        | some v =>
          rw [hget, Option.any_some] at hany
          apply Option.isSome_of_eq_some ((h k v hany).mp hget)
      . exact (hus.mem_iff k).mp hk
    . intro hsome
      cases hany : (u.get k).any p with
      | false =>
        refine .inr ⟨(hus.mem_iff k).mpr hsome, ?_⟩
        rfl
      | true =>
        rcases (Option.any_eq_true p _).mp hany with ⟨v, hget, hv⟩
        have hget' := (h k v hv).mpr hget
        refine .inl ⟨(hks.mem_iff k).mpr (Option.isSome_of_eq_some hget'), ?_⟩
        rw [hget']
        exact hv
  . unfold values at hrest ⊢
    rw [List.filterMap_append, List.filter_append, hrest, List.append_nil]
    apply h.filter_values ks

end Agree

section Update

variable [DecidableEq κ]

def insert (t : Table key) (v : ν) : Table key where
  map := t.map.insert (key v) v
  own := by
    intro k w hw
    rw [KeyMap.get_insert] at hw
    split at hw
    . next hk =>
      cases hw
      exact hk.symm
    . apply t.own k w hw

def erase (t : Table key) (k : κ) : Table key where
  map := t.map.retain (· ≠ k)
  own := by
    intro k' w hw
    rw [KeyMap.get_retain] at hw
    split at hw
    . apply t.own k' w hw
    . cases hw

theorem get_insert (t : Table key) (v : ν) (k : κ)
    : (t.insert v).get k = if k = key v then some v else t.get k := rfl

theorem get_erase (t : Table key) (k k' : κ)
    : (t.erase k).get k' = if k' = k then none else t.get k' := by
  unfold erase get
  rw [KeyMap.get_retain]
  by_cases h : k' = k
  . simp [h]
  . simp [h]

@[simp]
theorem get_insert_self (t : Table key) (v : ν) : (t.insert v).get (key v) = some v := by
  rw [get_insert, if_pos rfl]

theorem get_insert_of_ne (t : Table key) {v : ν} {k : κ} (h : k ≠ key v)
    : (t.insert v).get k = t.get k := by
  rw [get_insert, if_neg h]

@[simp]
theorem get_erase_self (t : Table key) (k : κ) : (t.erase k).get k = none := by
  rw [get_erase, if_pos rfl]

theorem get_erase_of_ne (t : Table key) {k k' : κ} (h : k' ≠ k)
    : (t.erase k).get k' = t.get k' := by
  rw [get_erase, if_neg h]

theorem isSome_get_insert {t : Table key} {v : ν} {k : κ} (h : k = key v ∨ (t.get k).isSome)
    : ((t.insert v).get k).isSome := by
  rw [get_insert]
  split
  . rfl
  . next hne =>
    rcases h with heq | hsome
    . exact absurd heq hne
    . exact hsome

theorem forall_get_insert {t : Table key} {v : ν} {p : κ → ν → Prop}
    (h : ∀ k w, k ≠ key v → t.get k = some w → p k w) (hv : p (key v) v)
    : ∀ k w, (t.insert v).get k = some w → p k w := by
  intro k w hw
  rw [get_insert] at hw
  split at hw
  . next heq =>
    cases hw
    rw [heq]
    exact hv
  . next hne => apply h k w hne hw

theorem forall_get_erase {t : Table key} {k : κ} {p : κ → ν → Prop}
    (h : ∀ k' w, k' ≠ k → t.get k' = some w → p k' w)
    : ∀ k' w, (t.erase k).get k' = some w → p k' w := by
  intro k' w hw
  rw [get_erase] at hw
  split at hw
  . cases hw
  . next hne => apply h k' w hne hw

-- The same for facts about the keys in use.
theorem forall_isSome_insert {t : Table key} {v : ν} {p : κ → Prop}
    (h : ∀ k, (t.get k).isSome → p k) (hv : p (key v))
    : ∀ k, ((t.insert v).get k).isSome → p k := by
  intro k hsome
  rw [get_insert] at hsome
  split at hsome
  . next heq =>
    rw [heq]
    exact hv
  . apply h k hsome

theorem forall_isSome_erase {t : Table key} {k : κ} {p : κ → Prop}
    (h : ∀ k', (t.get k').isSome → p k')
    : ∀ k', ((t.erase k).get k').isSome → p k' := by
  intro k' hsome
  rw [get_erase] at hsome
  split at hsome
  . cases hsome
  . apply h k' hsome

theorem agree_insert {p : ν → Bool} {t : Table key} {v : ν}
    (hold : ∀ w, t.get (key v) = some w → p w = false) (hv : p v = false) : Agree p t
    (t.insert v) := by
  intro k w hw
  rw [get_insert]
  split
  . next heq =>
    subst heq
    constructor
    . intro hget
      have hfalse := hold w hget
      rw [hw] at hfalse
      cases hfalse
    . rintro ⟨⟩
      rw [hw] at hv
      cases hv
  . rfl

theorem agree_erase {p : ν → Bool} {t : Table key} {k : κ}
    (hold : ∀ w, t.get k = some w → p w = false)
    : Agree p t (t.erase k) := by
  intro k' w hw
  rw [get_erase]
  split
  . next heq =>
    subst heq
    constructor
    . intro hget
      have hfalse := hold w hget
      rw [hw] at hfalse
      cases hfalse
    . rintro ⟨⟩
  . rfl

theorem erase_insert (t : Table key) (v : ν) : (t.insert v).erase (key v) = t.erase (key v) := by
  ext1 k
  rw [get_erase, get_erase, get_insert]
  split <;> rfl

theorem insert_erase (t : Table key) {v : ν} (h : t.get (key v) = some v)
    : (t.erase (key v)).insert v = t := by
  ext1 k
  rw [get_insert, get_erase]
  split
  . next hk =>
    rw [hk, h]
  . rfl

end Update

end Table
