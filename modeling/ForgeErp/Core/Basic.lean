import Mathlib.Init

/-!
This module contains the vocabulary of `forgeerp-core`: identifiers, the domain error model,
optimistic concurrency expectations and the `apply`/`handle` pair of an aggregate.
-/

namespace ForgeErp

structure Uuid where
  bits : BitVec 128
  deriving DecidableEq, Repr

/--
The 16 bytes, most significant first, compare like the number they spell.
-/
def Uuid.asBytes (u : Uuid) : Nat :=
  u.bits.toNat

structure TenantId where
  asUuid : Uuid
  deriving DecidableEq, Repr

structure AggregateId where
  asUuid : Uuid
  deriving DecidableEq, Repr

/--
`chrono::DateTime<Utc>`, in nanoseconds since the epoch.
-/
structure DateTime where
  nanos : Int
  deriving DecidableEq, Repr

-- `char::is_whitespace`: the code points with the property `White_Space`
def isWhitespace (c : Char) : Bool :=
  let n := c.toNat
  (0x9 ≤ n && n ≤ 0xD) || n == 0x20 || n == 0x85 || n == 0xA0 || n == 0x1680
    || (0x2000 ≤ n && n ≤ 0x200A) || n == 0x2028 || n == 0x2029 || n == 0x202F || n == 0x205F
    || n == 0x3000

-- `s.trim().is_empty()`
def trimIsEmpty (s : String) : Bool :=
  s.toList.all isWhitespace

inductive DomainError where
  | validation (msg : String)
  | invariantViolation (msg : String)
  | invalidId (msg : String)
  | notFound
  | conflict (msg : String)
  | unauthorized
  deriving DecidableEq, Repr

inductive ExpectedVersion where
  | any
  | exact (v : Nat)
  deriving DecidableEq, Repr

namespace ExpectedVersion

def isMatch (self : ExpectedVersion) (actual : Nat) : Bool :=
  match self with
  | .any => true
  | .exact v => v == actual

def debug (self : ExpectedVersion) : String :=
  match self with
  | .any => "Any"
  | .exact v => s!"Exact({v})"

def check (self : ExpectedVersion) (actual : Nat) : Except DomainError Unit :=
  if self.isMatch actual then
    .ok ()
  else
    let expected := self.debug
    .error (.conflict s!"optimistic concurrency check failed (expected: {expected}, actual: {actual})")

@[simp]
theorem isMatch_any (actual : Nat) : any.isMatch actual = true := rfl

@[simp]
theorem isMatch_exact (v actual : Nat) : (exact v).isMatch actual = true ↔ v = actual := by
  simp [isMatch]

end ExpectedVersion

/--
The `Aggregate` trait: how state evolves from events and which events a command decides on.
-/
structure Aggregate where
  State : Type
  Command : Type
  Event : Type
  apply : State → Event → State
  handle : State → Command → Except DomainError (List Event)

namespace Aggregate

variable (A : Aggregate)

def rehydrate (s : A.State) (history : List A.Event) : A.State :=
  history.foldl A.apply s

theorem rehydrate_append (s : A.State) (xs ys : List A.Event)
    : A.rehydrate s (xs ++ ys) = A.rehydrate (A.rehydrate s xs) ys := by
  simp [rehydrate]

theorem rehydrate_invariant (inv : A.State → Prop) (hstep : ∀ s e, inv s → inv (A.apply s e))
    {s : A.State} (hinit : inv s) (history : List A.Event) : inv (A.rehydrate s history) := by
  induction history generalizing s with
  | nil => exact hinit
  | cons e history ih => exact ih (hstep s e hinit)

/--
The histories that arise from `s` by handling commands that meet `ok` one after the other.
-/
inductive Produced (ok : A.Command → Prop) (s : A.State) : List A.Event → Prop where
  | nil : Produced ok s []
  | step {history decided : List A.Event} (command : A.Command) :
      Produced ok s history →
      ok command →
      A.handle (A.rehydrate s history) command = .ok decided →
      Produced ok s (history ++ decided)

variable {A} {ok : A.Command → Prop} {s : A.State} {history : List A.Event}

theorem Produced.mono {ok' : A.Command → Prop} (h : A.Produced ok s history)
    (hok : ∀ command, ok command → ok' command) : A.Produced ok' s history := by
  induction h with
  | nil => exact .nil
  | step command _ hcommand hhandle ih => exact .step command ih (hok command hcommand) hhandle

theorem Produced.head (h : A.Produced ok s history) {e : A.Event} (he : history.head? = some e)
    : ∃ command rest, ok command ∧ A.handle s command = .ok (e :: rest) := by
  induction h with
  | nil => simp at he
  | @step history decided command _ hok hhandle ih =>
    cases history with
    | nil =>
      cases decided with
      | nil => simp at he
      | cons e' rest =>
        simp only [List.nil_append, List.head?_cons, Option.some.injEq] at he
        subst he
        exact ⟨command, rest, hok, hhandle⟩
    | cons e' history => exact ih he

theorem Produced.invariant (h : A.Produced ok s history) (inv : A.State → Prop)
    (good : A.Event → Prop) (hinit : inv s)
    (hstep : ∀ s command decided, inv s → ok command → A.handle s command = .ok decided →
      (∀ e ∈ decided, good e) ∧ inv (A.rehydrate s decided))
    : (∀ e ∈ history, good e) ∧ inv (A.rehydrate s history) := by
  induction h with
  | nil => exact ⟨by simp, hinit⟩
  | step _ _ hok hhandle ih =>
    have hdecided := hstep _ _ _ ih.2 hok hhandle
    rw [rehydrate_append]
    refine ⟨?_, hdecided.2⟩
    intro e he
    rw [List.mem_append] at he
    cases he with
    | inl he => exact ih.1 e he
    | inr he => exact hdecided.1 e he

theorem Produced.forall (h : A.Produced ok s history) (good : A.Event → Prop)
    (hgood : ∀ s command decided, ok command → A.handle s command = .ok decided →
      ∀ e ∈ decided, good e)
    : ∀ e ∈ history, good e := by
  apply (h.invariant (fun _ => True) good trivial _).1
  intro s command decided _ hok hhandle
  exact ⟨hgood s command decided hok hhandle, trivial⟩

end Aggregate

end ForgeErp
