import ForgeErp.Library.Numbered
import Mathlib.Data.List.Basic

/-!
This module contains views of numbered logs. A view remembers the number of the last entry it took
in and the value it has folded up to there, so that entries may be delivered again, late or out of
order: a known number is ignored, and once a first entry is in only its successor is accepted.
-/

structure View (R : Type) where
  cursor : Nat
  row : Option R

namespace View

inductive Admission where
  | ignore
  | reject
  | accept
  deriving DecidableEq

-- A view that has seen nothing accepts any positive number.
def gate (cursor n : Nat) : Admission :=
  if n = 0 then
    .reject
  else if n ≤ cursor then
    .ignore
  else if n ≠ cursor + 1 ∧ cursor ≠ 0 then
    .reject
  else
    .accept

theorem gate_eq_accept_iff {cursor n : Nat}
    : gate cursor n = .accept ↔ cursor < n ∧ (n = cursor + 1 ∨ cursor = 0) := by
  unfold gate
  split
  . simp
    omega
  . split
    . simp
      omega
    . split
      . simp
        omega
      . simp
        omega

theorem gate_eq_ignore_iff {cursor n : Nat} : gate cursor n = .ignore ↔ n ≠ 0 ∧ n ≤ cursor := by
  unfold gate
  split
  . simp
    omega
  . split
    . simp
      omega
    . split
      . simp
        omega
      . simp
        omega

variable {R E : Type} (modify : R → E → R)

-- `vacant` stands in for the value of a view that has none yet.
def feed (view : View R) (n : Nat) (vacant : R) (e : E) : View R :=
  match gate view.cursor n with
  | .accept => ⟨n, some (modify (view.row.getD vacant) e)⟩
  | _ => view

def project (vacant : R) (log : List E) : Option R :=
  if log.isEmpty then none else some (log.foldl modify vacant)

theorem feed_of_accept {view : View R} {n : Nat} {vacant : R} {e : E}
    (h : gate view.cursor n = .accept)
    : view.feed modify n vacant e = ⟨n, some (modify (view.row.getD vacant) e)⟩ := by
  unfold feed
  rw [h]

theorem feed_of_not_accept {view : View R} {n : Nat} {vacant : R} {e : E}
    (h : gate view.cursor n ≠ .accept) : view.feed modify n vacant e = view := by
  unfold feed
  split
  . next haccept => exact absurd haccept h
  . rfl

-- Only the successor takes a view any further.
theorem feed_of_ne_succ {view : View R} {n : Nat} (hcursor : view.cursor ≠ 0)
    (hne : n ≠ view.cursor + 1)
    (vacant : R) (e : E)
    : view.feed modify n vacant e = view := by
  apply feed_of_not_accept
  intro haccept
  rw [gate_eq_accept_iff] at haccept
  omega

/--
The row is folded from the entries `first, ..., cursor` of the log.
-/
structure Covers (log : List E) (vacant : R) (first : Nat) (view : View R) : Prop where
  pos : 1 ≤ first
  le : first ≤ view.cursor
  bound : view.cursor ≤ log.length
  row : view.row = some (((log.take view.cursor).drop (first - 1)).foldl modify vacant)

theorem Covers.first {log : List E} {view : View R} {n : Nat} {e : E} (vacant : R)
    (hcursor : view.cursor = 0) (hrow : view.row = none) (hpos : 1 ≤ n)
    (he : log[n - 1]? = some e)
    : Covers modify log vacant n (view.feed modify n vacant e) := by
  have haccept : gate view.cursor n = .accept := by
    rw [gate_eq_accept_iff]
    omega
  have hlt : n - 1 < log.length := by
    rw [List.getElem?_eq_some_iff] at he
    exact he.1
  rw [feed_of_accept modify haccept]
  refine ⟨hpos, Nat.le_refl n, ?_, ?_⟩
  . dsimp only
    omega
  . have htake : log.take n = log.take (n - 1) ++ [e] := by
      have := List.take_add_one (l := log) (i := n - 1)
      rw [he, Nat.sub_add_cancel hpos] at this
      exact this
    dsimp only
    rw [htake, List.drop_append_of_le_length, hrow]
    . simp
    . rw [List.length_take]
      omega

theorem Covers.feed {log : List E} {vacant : R} {first : Nat} {view : View R} {n : Nat} {e : E}
    (h : Covers modify log vacant first view) (vacant' : R) (hpos : 1 ≤ n)
    (he : log[n - 1]? = some e)
    : Covers modify log vacant first (view.feed modify n vacant' e) := by
  by_cases haccept : gate view.cursor n = .accept
  . rw [feed_of_accept modify haccept]
    rw [gate_eq_accept_iff] at haccept
    have hle := h.le
    have hcursor : n = view.cursor + 1 := by
      have := h.pos
      omega
    have hlt : n - 1 < log.length := by
      rw [List.getElem?_eq_some_iff] at he
      exact he.1
    subst hcursor
    rw [Nat.add_sub_cancel] at he hlt
    refine ⟨h.pos, by simp only; omega, by simp only; omega, ?_⟩
    dsimp only
    rw [h.row, Option.getD_some, List.take_add_one, he, List.drop_append_of_le_length]
    . simp
    . rw [List.length_take]
      omega
  . rw [feed_of_not_accept modify haccept]
    exact h

theorem Covers.append {log : List E} {vacant : R} {first : Nat} {view : View R}
    (h : Covers modify log vacant first view) (more : List E)
    : Covers modify (log ++ more) vacant first view := by
  refine ⟨h.pos, h.le, ?_, ?_⟩
  . rw [List.length_append]
    have := h.bound
    omega
  . rw [List.take_append_of_le_length h.bound]
    exact h.row

/--
The row is folded from successive entries, starting from the value that stands in for none when the
first of them comes.
-/
def Segment {ι : Type} (vacant : ι → E → R) (log : List E) (view : View R) : Prop :=
  ∃ fresh first e, log[first - 1]? = some e ∧ Covers modify log (vacant fresh e) first view

-- Whatever has been fed to the view out of its log
def Sees {ι : Type} (vacant : ι → E → R) (log : List E) (view : View R) : Prop :=
  view = ⟨0, none⟩ ∨ Segment modify vacant log view

section Sees

variable {ι : Type} {vacant : ι → E → R}

theorem Sees.append {log : List E} {view : View R} (h : Sees modify vacant log view) (more : List E)
    : Sees modify vacant (log ++ more) view := by
  cases h with
  | inl hempty => exact .inl hempty
  | inr hcovers =>
    rcases hcovers with ⟨fresh, first, e, he, hcovers⟩
    refine .inr ⟨fresh, first, e, ?_, hcovers.append modify more⟩
    rw [List.getElem?_append_left]
    . exact he
    . rw [List.getElem?_eq_some_iff] at he
      exact he.1

theorem Sees.feed {log : List E} {view : View R} {n : Nat} {e : E}
    (h : Sees modify vacant log view) (fresh : ι) (hpos : 1 ≤ n) (he : log[n - 1]? = some e)
    : Sees modify vacant log (view.feed modify n (vacant fresh e) e) := by
  right
  cases h with
  | inl hempty =>
    subst hempty
    exact ⟨fresh, n, e, he, Covers.first modify (vacant fresh e) rfl rfl hpos he⟩
  | inr hcovers =>
    rcases hcovers with ⟨fresh', first, e', he', hcovers⟩
    exact ⟨fresh', first, e', he', hcovers.feed modify (vacant fresh e) hpos he⟩

end Sees

theorem cursor_le_feed (view : View R) (n : Nat) (vacant : R) (e : E)
    : view.cursor ≤ (view.feed modify n vacant e).cursor := by
  by_cases haccept : gate view.cursor n = .accept
  . rw [feed_of_accept modify haccept]
    rw [gate_eq_accept_iff] at haccept
    exact Nat.le_of_lt haccept.1
  . apply Nat.le_of_eq
    rw [feed_of_not_accept modify haccept]

/--
The row is folded from the first `c` entries of the log, whatever it starts from.
-/
structure Shows (log : List E) (c : Nat) (view : View R) : Prop where
  cursor : view.cursor = c
  bound : c ≤ log.length
  row : ∀ vacant, view.row = project modify vacant (log.take c)

def Rooted (log : List E) : Prop :=
  ∀ e, log.head? = some e → ∀ r r', modify r e = modify r' e

theorem Shows.empty (log : List E) : Shows modify log 0 ⟨0, none⟩ :=
  ⟨rfl, Nat.zero_le _, fun _ => rfl⟩

theorem Shows.eq {log : List E} {c : Nat} {view view' : View R} (h : Shows modify log c view)
    (h' : Shows modify log c view') : view = view' := by
  have hcursor : view.cursor = view'.cursor := h.cursor.trans h'.cursor.symm
  -- any row will do as the starting value; without one both rows are vacant
  have hrow : view.row = view'.row := by
    cases hv : view.row with
    | some r => rw [← hv, h.row r, h'.row r]
    | none =>
      cases hv' : view'.row with
      | none => rfl
      | some r => rw [← hv, ← hv', h.row r, h'.row r]
  cases view
  cases view'
  simp_all

theorem Shows.row_eq {log : List E} {view : View R} (h : Shows modify log log.length view)
    (vacant : R)
    : view.row = project modify vacant log := by
  have hrow := h.row vacant
  rw [List.take_length] at hrow
  exact hrow

-- A relation between rows and the states of whatever the entries are about.
theorem Shows.relates {S : Type} (apply : S → E → S) (rel : Option R → S → Prop)
    {log : List E} {c : Nat}
    {view : View R} {s : S} (h : Shows modify log c view) (vacant : R) (hnone : rel none s)
    (hfirst : ∀ e r, log.head? = some e → rel (some (modify r e)) (apply s e))
    (hnext : ∀ r s e, rel (some r) s → rel (some (modify r e)) (apply s e))
    : rel view.row ((log.take c).foldl apply s) := by
  rw [h.row vacant]
  cases htake : log.take c with
  | nil => exact hnone
  | cons e es =>
    have hhead : log.head? = some e := by
      cases log with
      | nil => simp at htake
      | cons e' log =>
        cases c with
        | zero => simp at htake
        | succ c =>
          rw [List.take_succ_cons, List.cons.injEq] at htake
          rw [List.head?_cons, htake.1]
    apply List.foldl_rel (r := fun r s => rel (some r) s) (hfirst e vacant hhead)
    intro e' _ r s hrel
    exact hnext r s e' hrel

theorem Shows.append {log : List E} {c : Nat} {view : View R} (h : Shows modify log c view)
    (more : List E) : Shows modify (log ++ more) c view := by
  refine ⟨h.cursor, ?_, ?_⟩
  . rw [List.length_append]
    have := h.bound
    omega
  . rw [List.take_append_of_le_length h.bound]
    exact h.row

theorem Shows.accept {log : List E} {c : Nat} {view : View R} {e : E}
    (h : Shows modify log c view) (hrooted : Rooted modify log) (vacant : R)
    (he : log[c]? = some e)
    : Shows modify log (c + 1) (view.feed modify (c + 1) vacant e) := by
  have haccept : gate view.cursor (c + 1) = .accept := by
    rw [gate_eq_accept_iff, h.cursor]
    omega
  rw [feed_of_accept modify haccept]
  have hlt : c < log.length := by
    rw [List.getElem?_eq_some_iff] at he
    exact he.1
  refine ⟨rfl, hlt, ?_⟩
  intro vacant'
  have htake : log.take (c + 1) = log.take c ++ [e] := by
    rw [List.take_add_one, he]
    rfl
  cases c with
  | zero =>
    have hroot := hrooted e (by rw [List.head?_eq_getElem?]; exact he)
    rw [htake]
    simp [project, hroot _ vacant']
  | succ c =>
    have hne : (log.take (c + 1)).isEmpty = false := by
      rw [List.isEmpty_eq_false_iff, ← List.length_pos_iff, List.length_take]
      omega
    rw [htake, h.row vacant']
    simp [project, hne]

theorem Shows.feed {log : List E} {c : Nat} {view : View R} {n : Nat} {e : E}
    (h : Shows modify log c view) (hrooted : Rooted modify log) (vacant : R) (hpos : 1 ≤ n)
    (he : log[n - 1]? = some e) (hn : n ≤ c + 1 ∨ c ≠ 0)
    : Shows modify log (if n = c + 1 then c + 1 else c) (view.feed modify n vacant e) := by
  split
  . next heq =>
    subst heq
    rw [Nat.add_sub_cancel] at he
    apply h.accept modify hrooted vacant he
  . next hne =>
    have hnot : gate view.cursor n ≠ .accept := by
      rw [ne_eq, gate_eq_accept_iff, h.cursor]
      omega
    rw [feed_of_not_accept modify hnot]
    exact h

end View

section InOrder

theorem split_concat {α : Type} {l before rest : List α} {a b : α}
    (h : l ++ [a] = before ++ b :: rest)
    : (before = l ∧ b = a) ∨ ∃ rest', l = before ++ b :: rest' := by
  cases List.eq_nil_or_concat rest with
  | inl hnil =>
    left
    subst hnil
    have hinj := List.append_inj' h rfl
    exact ⟨hinj.1.symm, (List.singleton_inj.mp hinj.2).symm⟩
  | inr hconcat =>
    right
    rcases hconcat with ⟨rest', c, rfl⟩
    refine ⟨rest', ?_⟩
    rw [List.concat_eq_append, ← List.cons_append, ← List.append_assoc] at h
    exact (List.append_inj' h rfl).1

variable {M κ : Type} (key : M → κ) (number : M → Nat)

/--
No message comes before one of its log with a smaller number. Messages may be repeated.
-/
def InOrder (ms : List M) : Prop :=
  ∀ pre m post, ms = pre ++ m :: post →
    ∀ i, 1 ≤ i → i < number m → ∃ m' ∈ pre, key m' = key m ∧ number m' = i

theorem inOrder_of_sorted {ms : List M}
    (hsorted : ms.Pairwise (fun a b => key a = key b → number a ≤ number b))
    (hclosed : ∀ m ∈ ms, ∀ i, 1 ≤ i → i < number m → ∃ m' ∈ ms, key m' = key m ∧ number m' = i)
    : InOrder key number ms := by
  intro pre m post heq i hpos hlt
  subst heq
  rcases hclosed m (by simp) i hpos hlt with ⟨m', hm', hkey, hnumber⟩
  refine ⟨m', ?_, hkey, hnumber⟩
  rw [List.mem_append] at hm'
  cases hm' with
  | inl hm' => exact hm'
  | inr hm' =>
    -- behind `m` the numbers of its log are at least that of `m`
    rw [List.pairwise_append] at hsorted
    rw [List.mem_cons] at hm'
    cases hm' with
    | inl hm' =>
      subst hm'
      omega
    | inr hm' =>
      have := List.rel_of_pairwise_cons hsorted.2.1 hm' hkey.symm
      omega

structure Reached (ms : List M) (k : κ) (c : Nat) : Prop where
  le : ∀ m ∈ ms, key m = k → number m ≤ c
  attained : c = 0 ∨ ∃ m ∈ ms, key m = k ∧ number m = c

theorem Reached.nil (k : κ) : Reached key number [] k 0 :=
  ⟨by simp, Or.inl rfl⟩

theorem Reached.concat [DecidableEq κ] {ms : List M} {k : κ} {c : Nat}
    (h : Reached key number ms k c) (m : M)
    : Reached key number (ms ++ [m]) k
        (if key m = k ∧ c < number m then number m else c) := by
  constructor
  . intro m' hm' hkey
    rw [List.mem_append, List.mem_singleton] at hm'
    cases hm' with
    | inl hm' =>
      have := h.le m' hm' hkey
      split <;> omega
    | inr hm' =>
      subst hm'
      split
      . omega
      . next hnot =>
        simp only [hkey, true_and] at hnot
        omega
  . split
    . next hm =>
      right
      exact ⟨m, by simp, hm.1, rfl⟩
    . cases h.attained with
      | inl hzero => exact Or.inl hzero
      | inr hmem =>
        rcases hmem with ⟨m', hm', hkey, hnumber⟩
        exact Or.inr ⟨m', by simp [hm'], hkey, hnumber⟩

theorem Reached.unique {ms : List M} {k : κ} {c c' : Nat} (h : Reached key number ms k c)
    (h' : Reached key number ms k c') : c = c' := by
  have hle : ∀ {a b : Nat}, Reached key number ms k a → Reached key number ms k b → a ≤ b := by
    intro a b ha hb
    cases ha.attained with
    | inl hzero => omega
    | inr hmem =>
      rcases hmem with ⟨m, hm, hkey, hnumber⟩
      have := hb.le m hm hkey
      omega
  apply Nat.le_antisymm (hle h h') (hle h' h)

end InOrder
