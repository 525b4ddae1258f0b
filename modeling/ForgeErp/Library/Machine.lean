import Mathlib.Init

/-!
This module contains labelled transition systems with a deterministic step per label. Choices of the
environment (which party moves next, what a fresh name is) are part of the label.
-/

structure Machine (σ α : Type) where
  init : σ → Prop
  step : σ → α → Option σ

namespace Machine

variable {σ α : Type}

/--
The states reached by runs each of whose steps meets `ok` in the state it is taken from.
-/
inductive ReachableUnder (m : Machine σ α) (ok : σ → α → Prop) : σ → Prop where
  | init {s : σ} : m.init s → ReachableUnder m ok s
  | step {s s' : σ} {a : α} :
      ReachableUnder m ok s → ok s a → m.step s a = some s' → ReachableUnder m ok s'

theorem ReachableUnder.mono {m : Machine σ α} {ok ok' : σ → α → Prop} {s : σ}
    (hs : m.ReachableUnder ok s) (h : ∀ s a, ok s a → ok' s a) : m.ReachableUnder ok' s := by
  induction hs with
  | init hinit => exact .init hinit
  | step _ hok hstep ih => exact .step ih (h _ _ hok) hstep

def Reachable (m : Machine σ α) (s : σ) : Prop :=
  m.ReachableUnder (fun _ _ => True) s

theorem ReachableUnder.invariant {m : Machine σ α} {ok : σ → α → Prop} {inv : σ → Prop}
    (hinit : ∀ s, m.init s → inv s)
    (hstep : ∀ s a s', inv s → ok s a → m.step s a = some s' → inv s')
    : ∀ s, m.ReachableUnder ok s → inv s := by
  intro s hs
  induction hs with
  | init h => exact hinit _ h
  | step _ hok h ih => exact hstep _ _ _ ih hok h

theorem Reachable.invariant {m : Machine σ α} {inv : σ → Prop}
    (hinit : ∀ s, m.init s → inv s)
    (hstep : ∀ s a s', inv s → m.step s a = some s' → inv s')
    : ∀ s, m.Reachable s → inv s := by
  apply ReachableUnder.invariant hinit
  intro s a s' hinv _ h
  apply hstep s a s' hinv h

def run (m : Machine σ α) : σ → List α → Option σ
  | s, [] => some s
  | s, a :: as =>
    match m.step s a with
    | some s' => run m s' as
    | none => none

theorem run_cons {m : Machine σ α} {s s' : σ} {a : α} (h : m.step s a = some s') (as : List α)
    : m.run s (a :: as) = m.run s' as := by
  simp [run, h]

theorem run_invariant {m : Machine σ α} {inv : σ → Prop}
    (hstep : ∀ s a s', inv s → m.step s a = some s' → inv s')
    {s t : σ} {as : List α} (hs : inv s) (hrun : m.run s as = some t)
    : inv t := by
  induction as generalizing s with
  | nil =>
    cases hrun
    exact hs
  | cons a as ih =>
    unfold Machine.run at hrun
    split at hrun
    . next s' hs' => exact ih (hstep s a s' hs hs') hrun
    . cases hrun

-- Every step that is taken meets `ok` where it is taken.
def OkAlong (m : Machine σ α) (ok : σ → α → Prop) : σ → List α → Prop
  | _, [] => True
  | s, a :: as => ok s a ∧ ∀ s', m.step s a = some s' → OkAlong m ok s' as

theorem ReachableUnder.runAlong {m : Machine σ α} {ok : σ → α → Prop} {s t : σ} {as : List α}
    (hs : m.ReachableUnder ok s) (hok : m.OkAlong ok s as) (h : m.run s as = some t)
    : m.ReachableUnder ok t := by
  induction as generalizing s with
  | nil =>
    simp only [Machine.run, Option.some.injEq] at h
    apply h ▸ hs
  | cons a as ih =>
    unfold Machine.run at h
    split at h
    . next s' hs' => apply ih (.step hs hok.1 hs') (hok.2 s' hs') h
    . simp at h

theorem OkAlong.of_forall {m : Machine σ α} {ok : σ → α → Prop} {as : List α}
    (hok : ∀ s, ∀ a ∈ as, ok s a) (s : σ) : m.OkAlong ok s as := by
  induction as generalizing s with
  | nil => trivial
  | cons a as ih =>
    refine ⟨hok s a (by simp), ?_⟩
    intro s' _
    apply ih
    intro s b hb
    apply hok s b (by simp [hb])

-- `p` holds of every state along the run.
def HoldsAlong (m : Machine σ α) (p : σ → Prop) : σ → List α → Prop
  | s, [] => p s
  | s, a :: as => p s ∧ ∀ s', m.step s a = some s' → HoldsAlong m p s' as

theorem HoldsAlong.here {m : Machine σ α} {p : σ → Prop} {s : σ} {as : List α}
    (h : m.HoldsAlong p s as)
    : p s := by
  cases as with
  | nil => exact h
  | cons a as => exact h.1

theorem holdsAlong_iff {m : Machine σ α} {inv p : σ → Prop} {ok : σ → α → Prop}
    {s t : σ} {as : List α}
    (hstep : ∀ s a s', inv s → p s → m.step s a = some s' → inv s' ∧ (p s' ↔ ok s a))
    (hinv : inv s) (hp : p s) (hrun : m.run s as = some t)
    : m.HoldsAlong p s as ↔ m.OkAlong ok s as := by
  induction as generalizing s with
  | nil => exact iff_of_true hp trivial
  | cons a as ih =>
    unfold Machine.run at hrun
    split at hrun
    . next s' hs' =>
      rcases hstep s a s' hinv hp hs' with ⟨hinv', hiff⟩
      constructor
      . rintro ⟨_, h⟩
        refine ⟨hiff.1 (h s' hs').here, ?_⟩
        intro s'' hs''
        cases hs'.symm.trans hs''
        exact (ih hinv' (h s' hs').here hrun).1 (h s' hs')
      . rintro ⟨hok, h⟩
        refine ⟨hp, ?_⟩
        intro s'' hs''
        cases hs'.symm.trans hs''
        exact (ih hinv' (hiff.2 hok) hrun).2 (h s' hs')
    . cases hrun

theorem ReachableUnder.run {m : Machine σ α} {ok : σ → α → Prop} {s t : σ} {as : List α}
    (hs : m.ReachableUnder ok s) (hok : ∀ s, ∀ a ∈ as, ok s a) (h : m.run s as = some t)
    : m.ReachableUnder ok t := by
  apply hs.runAlong (.of_forall hok s) h

end Machine
