import ForgeErp.Core.Basic
import Mathlib.Algebra.BigOperators.Group.List.Basic

/-!
This module contains sequences of commands on one aggregate. An accepted command's events are
applied before the next command is handled, and a rejected command changes nothing.
-/

namespace ForgeErp

namespace Aggregate

variable (A : Aggregate)

structure Run where
  state : A.State
  accepted : List A.Command
  history : List A.Event

def start (s : A.State) : A.Run where
  state := s
  accepted := []
  history := []

def Run.accept {A : Aggregate} (r : A.Run) (command : A.Command) (decided : List A.Event)
    : A.Run where
  state := A.rehydrate r.state decided
  accepted := r.accepted ++ [command]
  history := r.history ++ decided

def submit (r : A.Run) (command : A.Command) : A.Run :=
  match A.handle r.state command with
  | .ok decided => r.accept command decided
  | .error _ => r

def run (s : A.State) (commands : List A.Command) : A.Run :=
  commands.foldl A.submit (A.start s)

variable {A}

theorem Run.sum_accept {M : Type} [AddCommMonoid M] (f : A.Command → M) (r : A.Run)
    (command : A.Command) (decided : List A.Event)
    : ((r.accept command decided).accepted.map f).sum = (r.accepted.map f).sum + f command := by
  simp [accept]

theorem run_append (s : A.State) (commands more : List A.Command)
    : A.run s (commands ++ more) = more.foldl A.submit (A.run s commands) := by
  unfold run
  rw [List.foldl_append]

theorem submit_invariant {inv : A.Run → Prop} {r : A.Run} {command : A.Command} (hr : inv r)
    (hstep : ∀ decided, A.handle r.state command = .ok decided →
      inv (r.accept command decided))
    : inv (A.submit r command) := by
  unfold submit
  split
  . next decided hhandle => apply hstep decided hhandle
  . exact hr

theorem foldl_submit_invariant {inv : A.Run → Prop} {ok : A.Command → Prop} {r : A.Run}
    {commands : List A.Command} (hok : ∀ command ∈ commands, ok command) (hr : inv r)
    (hstep : ∀ (r : A.Run) command decided, inv r → ok command →
      A.handle r.state command = .ok decided →
      inv (r.accept command decided))
    : inv (commands.foldl A.submit r) := by
  induction commands generalizing r with
  | nil => exact hr
  | cons command commands ih =>
    apply ih
    . intro command' hcommand'
      apply hok command' (by simp [hcommand'])
    . apply submit_invariant hr
      intro decided hhandle
      apply hstep r command decided hr (hok command (by simp)) hhandle

theorem run_invariant {inv : A.Run → Prop} {ok : A.Command → Prop} {s : A.State}
    {commands : List A.Command} (hok : ∀ command ∈ commands, ok command) (hinit : inv (A.start s))
    (hstep : ∀ (r : A.Run) command decided, inv r → ok command →
      A.handle r.state command = .ok decided →
      inv (r.accept command decided))
    : inv (A.run s commands) :=
  foldl_submit_invariant hok hinit hstep

-- What every accepted command preserves stays as it is from any point of a run on.
theorem run_preserves {P : A.State → Prop} {s : A.State} {commands : List A.Command}
    (h : P (A.run s commands).state)
    (hstep : ∀ s command decided, P s → A.handle s command = .ok decided →
      P (A.rehydrate s decided))
    (more : List A.Command) : P (A.run s (commands ++ more)).state := by
  rw [run_append]
  apply @foldl_submit_invariant A (fun r => P r.state) (fun _ => True) _ more (fun _ _ => trivial) h
  intro r command decided hr _ hhandle
  apply hstep r.state command decided hr hhandle

-- A state that refuses everything ends a run.
theorem run_stops {s : A.State} {commands : List A.Command}
    (h : ∀ command decided, A.handle (A.run s commands).state command ≠ .ok decided)
    (more : List A.Command) : A.run s (commands ++ more) = A.run s commands := by
  rw [run_append]
  induction more with
  | nil => rfl
  | cons command more ih =>
    have hrefused : A.submit (A.run s commands) command = A.run s commands := by
      unfold submit
      split
      . next decided hhandle => exact absurd hhandle (h command decided)
      . rfl
    rw [List.foldl_cons, hrefused, ih]

theorem history_prefix_foldl (r : A.Run) (commands : List A.Command)
    : r.history <+: (commands.foldl A.submit r).history := by
  apply @foldl_submit_invariant A (fun r' => r.history <+: r'.history) (fun _ => True) r commands
    (fun _ _ => trivial) List.prefix_rfl
  intro r' command decided hprefix _ _
  exact hprefix.trans (List.prefix_append _ _)

theorem accepted_foldl_le (r : A.Run) (commands : List A.Command)
    : (commands.foldl A.submit r).accepted.length ≤ r.accepted.length + commands.length := by
  induction commands generalizing r with
  | nil => exact Nat.le_refl _
  | cons command commands ih =>
    have hnext := ih (A.submit r command)
    have hsubmit : (A.submit r command).accepted.length ≤ r.accepted.length + 1 := by
      unfold submit
      split
      . dsimp only [Run.accept]
        apply Nat.le_of_eq
        exact List.length_append
      . exact Nat.le_add_right _ 1
    rw [List.foldl_cons, List.length_cons]
    omega

theorem history_foldl_take (hone : ∀ s command decided, A.handle s command = .ok decided →
      ∃ ev, decided = [ev])
    {r : A.Run} {commands : List A.Command}
    (h : (commands.foldl A.submit r).accepted.length = r.accepted.length + commands.length)
    (n : Nat)
    : ((commands.take n).foldl A.submit r).history
        =
      (commands.foldl A.submit r).history.take (r.history.length + n) := by
  induction commands generalizing r n with
  | nil => simp
  | cons command commands ih =>
    cases n with
    | zero => exact List.prefix_iff_eq_take.mp (history_prefix_foldl r (command :: commands))
    | succ n =>
      rw [List.foldl_cons] at h
      rw [List.take_succ_cons, List.foldl_cons, List.foldl_cons]
      cases hhandle : A.handle r.state command with
      | error err =>
        -- then not every command was accepted
        have hrefused : A.submit r command = r := by
          unfold submit
          rw [hhandle]
        have hle := accepted_foldl_le r commands
        rw [hrefused, List.length_cons] at h
        omega
      | ok decided =>
        rcases hone _ _ _ hhandle with ⟨ev, rfl⟩
        have haccepted : A.submit r command = r.accept command [ev] := by
          unfold submit
          rw [hhandle]
        rw [haccepted] at h ⊢
        have hlength : (commands.foldl A.submit (r.accept command [ev])).accepted.length
            = (r.accept command [ev]).accepted.length + commands.length := by
          rw [h]
          simp only [Run.accept, List.length_append, List.length_cons, List.length_nil]
          omega
        rw [ih hlength n]
        congr 1
        simp only [Run.accept, List.length_append, List.length_cons, List.length_nil]
        omega

theorem run_length
    (hone : ∀ s command decided, A.handle s command = .ok decided → ∃ ev, decided = [ev])
    (s : A.State) (commands : List A.Command)
    : (A.run s commands).history.length = (A.run s commands).accepted.length := by
  apply @run_invariant A (fun r => r.history.length = r.accepted.length) (fun _ => True) s commands
    (fun _ _ => trivial) rfl
  intro r command decided hr _ hhandle
  rcases hone _ _ _ hhandle with ⟨ev, rfl⟩
  dsimp only [Run.accept]
  rw [List.length_append, List.length_append, hr]
  rfl

-- A run that accepts everything, one event for each command
theorem run_take (hone : ∀ s command decided, A.handle s command = .ok decided →
    ∃ ev, decided = [ev])
    {s : A.State} {commands : List A.Command} (h : (A.run s commands).accepted = commands) (n : Nat)
    : (A.run s (commands.take n)).history = (A.run s commands).history.take n := by
  have htake := @history_foldl_take A hone (A.start s) commands
    (by rw [show (commands.foldl A.submit (A.start s)).accepted = commands from h]; simp [start]) n
  rw [show (A.start s).history.length + n = n from Nat.zero_add n] at htake
  exact htake

theorem run_concat {P : A.State → Prop} {s : A.State} {commands : List A.Command}
    {command : A.Command} (h : P (A.run s commands).state)
    (hstep : ∀ decided, A.handle (A.run s commands).state command = .ok decided →
      P (A.rehydrate (A.run s commands).state decided))
    : P (A.run s (commands ++ [command])).state := by
  rw [run_append]
  apply @submit_invariant A (fun r => P r.state) _ command h hstep

theorem run_produced {ok : A.Command → Prop} {s : A.State} {commands : List A.Command}
    (hok : ∀ command ∈ commands, ok command)
    : (A.run s commands).state = A.rehydrate s (A.run s commands).history
      ∧ A.Produced ok s (A.run s commands).history := by
  apply @run_invariant A (fun r => r.state = A.rehydrate s r.history ∧ A.Produced ok s r.history) ok
    s commands hok
  . exact ⟨rfl, .nil⟩
  . intro r command decided hr hcommand hhandle
    dsimp only [Run.accept]
    rw [rehydrate_append, ← hr.1]
    refine ⟨rfl, .step command hr.2 hcommand ?_⟩
    rw [← hr.1]
    exact hhandle

theorem Produced.steps {step : A.State → A.Command → A.Event → Prop} {ok : A.Command → Prop}
    {s : A.State} {history : List A.Event} (h : A.Produced ok s history)
    (hstep : ∀ s command decided, A.handle s command = .ok decided →
      ∃ ev, decided = [ev] ∧ step s command ev)
    : ∀ n ev, history[n]? = some ev →
        ∃ command, ok command ∧ step (A.rehydrate s (history.take n)) command ev := by
  induction h with
  | nil =>
    intro n ev hev
    simp at hev
  | @step history decided command _ hok hhandle ih =>
    rcases hstep _ command decided hhandle with ⟨last, rfl, hlast⟩
    intro n ev hev
    by_cases hlt : n < history.length
    . rw [List.getElem?_append_left hlt] at hev
      rw [List.take_append_of_le_length (Nat.le_of_lt hlt)]
      apply ih n ev hev
    . have hn : n = history.length := by
        rw [List.getElem?_eq_some_iff] at hev
        have := hev.1
        rw [List.length_append, List.length_singleton] at this
        omega
      subst hn
      rw [List.getElem?_concat_length, Option.some.injEq] at hev
      subst hev
      rw [List.take_left]
      exact ⟨command, hok, hlast⟩

/--
Each event is one that `step` allows in the state that the ones before it lead to.
-/
inductive Chain (step : A.State → A.Event → Prop) : A.State → List A.Event → Prop where
  | nil {s : A.State} : Chain step s []
  | cons {s : A.State} {ev : A.Event} {evs : List A.Event} :
      step s ev →
      Chain step (A.apply s ev) evs →
      Chain step s (ev :: evs)

theorem Chain.concat {step : A.State → A.Event → Prop} {s : A.State}
    {evs : List A.Event} {ev : A.Event}
    (h : Chain step s evs) (hstep : step (A.rehydrate s evs) ev) : Chain step s (evs ++ [ev]) := by
  induction h with
  | nil => exact .cons hstep .nil
  | cons hfirst _ ih => exact .cons hfirst (ih hstep)

theorem Produced.chain {step : A.State → A.Event → Prop} {inv : A.State → Prop}
    {ok : A.Command → Prop}
    {s : A.State} {history : List A.Event} (h : A.Produced ok s history) (hs : inv s)
    (hhandle : ∀ s command decided, inv s → A.handle s command = .ok decided →
      ∃ ev, decided = [ev] ∧ step s ev ∧ inv (A.apply s ev))
    : Chain step s history ∧ inv (A.rehydrate s history) := by
  induction h with
  | nil => exact ⟨.nil, hs⟩
  | @step history decided command _ _ hdecided ih =>
    rcases hhandle _ command decided ih.2 hdecided with ⟨ev, rfl, hstep, hnext⟩
    refine ⟨ih.1.concat hstep, ?_⟩
    rw [rehydrate_append]
    exact hnext

theorem rehydrate_count {count : A.State → Nat}
    (hcount : ∀ s e, count (A.apply s e) = count s + 1) (s : A.State) (history : List A.Event)
    : count (A.rehydrate s history) = count s + history.length := by
  induction history generalizing s with
  | nil => rfl
  | cons e history ih =>
    have hnext := ih (A.apply s e)
    rw [hcount] at hnext
    rw [List.length_cons]
    have : A.rehydrate s (e :: history) = A.rehydrate (A.apply s e) history := rfl
    rw [this]
    omega

theorem run_count {count : A.State → Nat} (hcount : ∀ s e, count (A.apply s e) = count s + 1)
    (s : A.State) (commands : List A.Command)
    : count (A.run s commands).state = count s + (A.run s commands).history.length := by
  rw [(@run_produced A (fun _ => True) s commands (fun _ _ => trivial)).1]
  apply rehydrate_count hcount

end Aggregate

end ForgeErp
