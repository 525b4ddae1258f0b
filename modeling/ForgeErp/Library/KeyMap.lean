import Mathlib.Data.Set.Finite.Basic
import Mathlib.Data.Finset.Basic
import Mathlib.Data.Set.Finite.Lattice

/-!
This module contains finite maps that are determined by their lookups. The order in which the keys
of a map are visited is not part of the map: whoever iterates over it is handed an enumeration of
the keys, see `KeyMap.Enumerates`.
-/

structure KeyMap (κ ν : Type) where
  get : κ → Option ν
  finite : {k | (get k).isSome}.Finite

namespace KeyMap

variable {κ ν : Type}

@[ext]
theorem ext {m n : KeyMap κ ν} (h : ∀ k, m.get k = n.get k) : m = n := by
  rcases m with ⟨f, hf⟩
  rcases n with ⟨g, hg⟩
  have : f = g := funext h
  subst this
  rfl

def empty : KeyMap κ ν where
  get _ := none
  finite := by simp

@[simp]
theorem get_empty (k : κ) : (empty : KeyMap κ ν).get k = none := rfl

section Update

variable [DecidableEq κ]

def insert (m : KeyMap κ ν) (k : κ) (v : ν) : KeyMap κ ν where
  get k' := if k' = k then some v else m.get k'
  finite := by
    apply (m.finite.insert k).subset
    intro k' hk'
    by_cases h : k' = k
    . simp [h]
    . simp only [Set.mem_ofPred_eq, h, ↓reduceIte] at hk'
      simp [hk']

def entryOr (m : KeyMap κ ν) (k : κ) (v : ν) : KeyMap κ ν :=
  match m.get k with
  | some _ => m
  | none => m.insert k v

theorem get_insert (m : KeyMap κ ν) (k k' : κ) (v : ν)
    : (m.insert k v).get k' = if k' = k then some v else m.get k' := rfl

@[simp]
theorem get_insert_self (m : KeyMap κ ν) (k : κ) (v : ν) : (m.insert k v).get k = some v := by
  simp [get_insert]

@[simp]
theorem get_insert_ne (m : KeyMap κ ν) {k k' : κ} (v : ν) (h : k' ≠ k)
    : (m.insert k v).get k' = m.get k' := by
  simp [get_insert, h]

@[simp]
theorem insert_insert (m : KeyMap κ ν) (k : κ) (v w : ν)
    : (m.insert k v).insert k w = m.insert k w := by
  ext1 k'
  simp only [get_insert]
  split <;> rfl

theorem getD_entryOr (m : KeyMap κ ν) (k k' : κ) (v : ν)
    : ((m.entryOr k v).get k').getD v = (m.get k').getD v := by
  unfold entryOr
  split
  . rfl
  . next hk =>
    by_cases h : k' = k
    . subst h
      simp [hk]
    . simp [h]

theorem entryOr_insert (m : KeyMap κ ν) (k : κ) (v w : ν)
    : (m.entryOr k v).insert k w = m.insert k w := by
  unfold entryOr
  split
  . rfl
  . simp

end Update

def retain (m : KeyMap κ ν) (p : κ → Bool) : KeyMap κ ν where
  get k := if p k then m.get k else none
  finite := by
    apply m.finite.subset
    intro k hk
    simp only [Set.mem_ofPred_eq] at hk ⊢
    split at hk
    . exact hk
    . simp at hk

theorem get_retain (m : KeyMap κ ν) (p : κ → Bool) (k : κ)
    : (m.retain p).get k = if p k then m.get k else none := rfl

/--
`ks` visits every key of `m` exactly once.
-/
structure Enumerates (m : KeyMap κ ν) (ks : List κ) : Prop where
  nodup : ks.Nodup
  mem_iff : ∀ k, k ∈ ks ↔ (m.get k).isSome

theorem exists_enumerates (m : KeyMap κ ν) : ∃ ks, m.Enumerates ks := by
  refine ⟨m.finite.toFinset.toList, Finset.nodup_toList _, ?_⟩
  intro k
  simp

def valuesOf (m : KeyMap κ ν) (ks : List κ) : List ν :=
  ks.filterMap m.get

end KeyMap
