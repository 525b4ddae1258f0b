import ForgeErp.Core.Serde
import Mathlib.Data.List.Basic
import Mathlib.Logic.Equiv.Nat

/-!
This module contains concrete texts for identifiers and time stamps, to run the model with. UUIDs
are written with hyphens. The epoch is written as `chrono` does; other instants only have to be told
apart.
-/

namespace ForgeErp

namespace Uuid

def hexDigits (k n : Nat) : List Char :=
  match k with
  | 0 => []
  | k + 1 => hexDigits k (n / 16) ++ [(n % 16).digitChar]

def hexValue (c : Char) : Nat :=
  if c.toNat ≤ '9'.toNat then c.toNat - '0'.toNat else c.toNat - 'a'.toNat + 10

def ofHex (l : List Char) : Nat :=
  l.foldl (fun acc c => acc * 16 + hexValue c) 0

theorem hexValue_digitChar {n : Nat} (h : n < 16) : hexValue n.digitChar = n := by
  decide +revert

theorem digitChar_ne_hyphen {n : Nat} (h : n < 16) : n.digitChar ≠ '-' := by
  decide +revert

theorem hexDigits_length (k n : Nat) : (hexDigits k n).length = k := by
  induction k generalizing n with
  | zero => rfl
  | succ k ih => simp [hexDigits, ih]

theorem ne_hyphen_of_mem_hexDigits {k n : Nat} {c : Char} (h : c ∈ hexDigits k n) : c ≠ '-' := by
  induction k generalizing n with
  | zero => simp [hexDigits] at h
  | succ k ih =>
    rw [hexDigits, List.mem_append, List.mem_singleton] at h
    cases h with
    | inl h => exact ih h
    | inr h =>
      rw [h]
      apply digitChar_ne_hyphen (Nat.mod_lt n (by omega))

theorem ofHex_hexDigits {k n : Nat} (h : n < 16 ^ k) : ofHex (hexDigits k n) = n := by
  induction k generalizing n with
  | zero =>
    have : n = 0 := by omega
    subst this
    rfl
  | succ k ih =>
    have hdiv : n / 16 < 16 ^ k := by
      rw [Nat.pow_succ] at h
      omega
    have hdigit := hexValue_digitChar (Nat.mod_lt n (show 0 < 16 by omega))
    have hrest := ih hdiv
    unfold ofHex at hrest ⊢
    rw [hexDigits, List.foldl_append, hrest, List.foldl_cons, List.foldl_nil, hdigit]
    omega

def hyphenate (l : List Char) : List Char :=
  l.take 8 ++ '-' :: ((l.drop 8).take 4 ++ '-' :: ((l.drop 12).take 4
    ++ '-' :: ((l.drop 16).take 4 ++ '-' :: l.drop 20)))

theorem filter_hyphenate {l : List Char} (h : ∀ c ∈ l, c ≠ '-')
    : (hyphenate l).filter (· ≠ '-') = l := by
  have hkeep : ∀ l' : List Char, (∀ c ∈ l', c ∈ l) → l'.filter (· ≠ '-') = l' := by
    intro l' hl'
    rw [List.filter_eq_self]
    intro c hc
    simpa using h c (hl' c hc)
  unfold hyphenate
  simp only [List.filter_append, List.filter_cons_of_neg, ne_eq, not_true_eq_false, decide_false,
    Bool.false_eq_true, not_false_eq_true]
  rw [hkeep, hkeep, hkeep, hkeep, hkeep]
  . have h12 : l.drop 12 = (l.drop 8).drop 4 := by simp
    have h16 : l.drop 16 = (l.drop 12).drop 4 := by simp
    have h20 : l.drop 20 = (l.drop 16).drop 4 := by simp
    rw [h20, List.take_append_drop, h16, List.take_append_drop, h12, List.take_append_drop,
      List.take_append_drop]
  . intro c hc
    apply List.mem_of_mem_drop hc
  . intro c hc
    apply List.mem_of_mem_drop (List.mem_of_mem_take hc)
  . intro c hc
    apply List.mem_of_mem_drop (List.mem_of_mem_take hc)
  . intro c hc
    apply List.mem_of_mem_drop (List.mem_of_mem_take hc)
  . intro c hc
    apply List.mem_of_mem_take hc

@[reducible]
def hyphenated : TextFormat Uuid where
  print u := String.ofList (hyphenate (hexDigits 32 u.bits.toNat))
  parse s :=
    let digits := s.toList.filter (· ≠ '-')
    if digits.length = 32 then some ⟨BitVec.ofNat 128 (ofHex digits)⟩ else none
  parse_print u := by
    have hlt : u.bits.toNat < 16 ^ 32 := u.bits.isLt
    dsimp only
    rw [String.toList_ofList, filter_hyphenate (fun _ => ne_hyphen_of_mem_hexDigits),
      if_pos (hexDigits_length 32 _), ofHex_hexDigits hlt, BitVec.ofNat_toNat, BitVec.setWidth_eq]

end Uuid

namespace DateTime

def epoch : DateTime :=
  ⟨0⟩

def epochText : String :=
  "1970-01-01T00:00:00Z"

theorem replicate_ne_epochText (n : Nat) : String.ofList (List.replicate n '+') ≠ epochText := by
  intro h
  have hmem : '1' ∈ List.replicate n '+' := by
    rw [← String.toList_ofList (l := List.replicate n '+'), h]
    decide
  simp at hmem

@[reducible]
def text : TextFormat DateTime where
  print t :=
    if t = epoch then
      epochText
    else
      String.ofList (List.replicate (Equiv.intEquivNat t.nanos) '+')
  parse s :=
    if s = epochText then some epoch else some ⟨Equiv.intEquivNat.symm s.toList.length⟩
  parse_print t := by
    split
    . next h => simp [h]
    . rw [if_neg (replicate_ne_epochText _)]
      simp

end DateTime

namespace Concrete

scoped instance : TextFormat Uuid := Uuid.hyphenated

scoped instance : TextFormat DateTime := DateTime.text

end Concrete

end ForgeErp
