import Mathlib.Init

/-!
This module contains programs that ask their surroundings questions. A program is its result, or a
question and what to go on with after each answer, so that nothing is said about what happens in
between: the questions may be answered at once or by any number of parties that take turns.
-/

inductive Program (Q : Type) (Ans : Q → Type) (α : Type) where
  | done (result : α)
  | ask (question : Q) (next : Ans question → Program Q Ans α)

namespace Program

variable {Q : Type} {Ans : Q → Type} {α σ γ : Type}

-- All questions are answered at once.
def run (answer : (q : Q) → σ → Ans q × σ) (program : Program Q Ans α) (s : σ) : α × σ :=
  match program with
  | .done result => (result, s)
  | .ask question next =>
    let (a, s) := answer question s
    (next a).run answer s

@[simp]
theorem run_done (answer : (q : Q) → σ → Ans q × σ) (result : α) (s : σ)
    : (done result : Program Q Ans α).run answer s = (result, s) := rfl

theorem run_ask (answer : (q : Q) → σ → Ans q × σ) (question : Q)
    (next : Ans question → Program Q Ans α)
    (s : σ)
    : (ask question next).run answer s
        =
      (next (answer question s).1).run answer (answer question s).2 := rfl

/--
What is left of a program after some of its questions have been answered.
-/
inductive After (program : Program Q Ans α) : List ((q : Q) × Ans q) → Program Q Ans α → Prop where
  | start : After program [] program
  | answer {answers : List ((q : Q) × Ans q)} {question : Q} {next : Ans question → Program Q Ans α}
      (a : Ans question) :
      After program answers (.ask question next) →
      After program (answers ++ [⟨question, a⟩]) (next a)

/--
As long as every answer takes the account `g` of what has happened to one that `answered` allows,
the program asks questions that meet `pre` and ends with a result that meets `post`.
-/
inductive Meets (pre : γ → Q → Prop) (answered : γ → (q : Q) → Ans q → γ → Prop)
    (post : γ → α → Prop)
    : γ → Program Q Ans α → Prop where
  | done {g : γ} {result : α} :
      post g result →
      Meets pre answered post g (.done result)
  | ask {g : γ} {question : Q} {next : Ans question → Program Q Ans α} :
      pre g question →
      (∀ a g', answered g question a g' → Meets pre answered post g' (next a)) →
      Meets pre answered post g (.ask question next)

namespace Meets

variable {pre : γ → Q → Prop} {answered : γ → (q : Q) → Ans q → γ → Prop}
  {post : γ → α → Prop} {g g' : γ}
  {q : Q} {k : Ans q → Program Q Ans α}

theorem result {result : α} (h : Meets pre answered post g (.done result)) : post g result := by
  cases h with
  | done hpost => exact hpost

theorem question (h : Meets pre answered post g (.ask q k)) : pre g q := by
  cases h with
  | ask hpre _ => exact hpre

theorem next (h : Meets pre answered post g (.ask q k)) {a : Ans q} (hanswered : answered g q a g')
    : Meets pre answered post g' (k a) := by
  cases h with
  | ask _ hnext => exact hnext a g' hanswered

end Meets

end Program
