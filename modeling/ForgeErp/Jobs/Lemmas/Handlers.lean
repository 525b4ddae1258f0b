import ForgeErp.Jobs.Executor
import ForgeErp.Jobs.Lemmas.Conservation

/-!
This module contains the choice of a handler. The patterns live in a hash map, and the category that
is chosen is the first one the map happens to visit.
-/

namespace ForgeErp

namespace JobExecutor

def register (registrations : List (String × JobHandler)) : JobExecutor :=
  registrations.foldl (fun executor r => executor.registerHandler r.1 r.2) .new

-- The same registrations, as far as the order of those for one and the same pattern goes.
def SameRegistrations (registrations registrations' : List (String × JobHandler)) : Prop :=
  ∀ pattern, registrations.filter (·.1 = pattern) = registrations'.filter (·.1 = pattern)

-- The pattern whose handler `get_handler` returns.
def chosen (self : JobExecutor) (ks : List String) (kind : JobKind) : Option String :=
  let typeName := kind.typeName
  if (self.handlers.get typeName).isSome then
    some typeName
  else
    match ks.find? (fun pattern => inCategory pattern typeName
      && (self.handlers.get pattern).isSome) with
    | some pattern => some pattern
    | none => if (self.handlers.get "*").isSome then some "*" else none

def Registered (self : JobExecutor) (pattern : String) : Prop :=
  (self.handlers.get pattern).isSome = true

-- The name begins with the text of the pattern `p.*` up to and including the dot.
def Heads (pattern typeName : String) : Prop :=
  ∃ p, pattern = p ++ ".*" ∧ (p ++ ".").toList <+: typeName.toList

/--
For every order in which patterns are registered or visited the choice is the same, a category is
chosen for its own names alone, and the more specific pattern goes first.
-/
structure WellDefined (registrations : List (String × JobHandler)) (kind : JobKind) : Prop where
  orderFree : ∀ registrations' ks ks', SameRegistrations registrations registrations' →
    (register registrations).handlers.Enumerates ks →
    (register registrations').handlers.Enumerates ks' →
      (register registrations).getHandler ks kind = (register registrations').getHandler ks' kind
  category : ∀ ks p, (register registrations).handlers.Enumerates ks →
    (register registrations).chosen ks kind = some (p ++ ".*") → Heads (p ++ ".*") kind.typeName
  exactFirst : ∀ ks, (register registrations).handlers.Enumerates ks →
    (register registrations).Registered kind.typeName →
      (register registrations).chosen ks kind = some kind.typeName
  categoryNext : ∀ ks pattern, (register registrations).handlers.Enumerates ks →
    ¬ (register registrations).Registered kind.typeName →
    (register registrations).Registered pattern → Heads pattern kind.typeName →
      ∃ p, (register registrations).chosen ks kind = some (p ++ ".*")

theorem inCategory_iff (pattern typeName : String)
    : inCategory pattern typeName = true
        ↔
      ∃ p, pattern = p ++ ".*" ∧ p.toList <+: typeName.toList := by
  unfold inCategory
  rw [Bool.and_eq_true, List.isSuffixOf_iff_suffix, List.isPrefixOf_iff_prefix]
  constructor
  . rintro ⟨⟨front, hfront⟩, hprefix⟩
    have htake : pattern.toList.take (pattern.toList.length - 2) = front := by
      rw [← hfront, List.length_append]
      apply List.take_left
    refine ⟨String.ofList front, ?_, ?_⟩
    . apply String.toList_injective
      rw [← hfront, String.toList_append, String.toList_ofList]
      rfl
    . rw [String.toList_ofList, ← htake]
      exact hprefix
  . rintro ⟨p, rfl, hprefix⟩
    have hlist : (p ++ ".*").toList = p.toList ++ ['.', '*'] := by
      rw [String.toList_append]
      rfl
    rw [hlist]
    refine ⟨List.suffix_append _ _, ?_⟩
    rw [List.length_append, show p.toList.length + ['.', '*'].length - 2 = p.toList.length by rfl,
      List.take_left]
    exact hprefix

theorem Heads.inCategory {pattern typeName : String} (h : Heads pattern typeName)
    : inCategory pattern typeName = true := by
  rcases h with ⟨p, rfl, hprefix⟩
  rw [inCategory_iff]
  refine ⟨p, rfl, List.IsPrefix.trans ?_ hprefix⟩
  rw [String.toList_append]
  apply List.prefix_append

theorem get_foldl_register (registrations : List (String × JobHandler)) (executor : JobExecutor)
    (pattern : String)
    : (registrations.foldl (fun executor r => executor.registerHandler r.1 r.2)
        executor).handlers.get pattern
        =
      (((registrations.filter (·.1 = pattern)).getLast?.map (·.2)).orElse
        fun _ => executor.handlers.get pattern) := by
  induction registrations using List.reverseRecOn with
  | nil => rfl
  | append_singleton registrations r ih =>
    rw [List.foldl_append, List.filter_append]
    dsimp only [List.foldl_cons, List.foldl_nil]
    unfold registerHandler
    rw [KeyMap.get_insert]
    by_cases h : r.1 = pattern
    . simp [h]
    . have : ¬ pattern = r.1 := Ne.symm h
      simp only [this, if_false, List.filter_cons, h, decide_false, Bool.false_eq_true,
        List.filter_nil, List.append_nil]
      exact ih

theorem SameRegistrations.register_eq {registrations registrations' : List (String × JobHandler)}
    (h : SameRegistrations registrations registrations')
    : register registrations = register registrations' := by
  have hhandlers : (register registrations).handlers = (register registrations').handlers := by
    apply KeyMap.ext
    intro pattern
    unfold register
    rw [get_foldl_register, get_foldl_register, h pattern]
  unfold register at hhandlers ⊢
  exact congrArg JobExecutor.mk hhandlers

theorem find?_eq (self : JobExecutor) (ks : List String) (typeName : String)
    : ks.findSome? (fun pattern => if inCategory pattern typeName
        then self.handlers.get pattern else none)
        =
      (ks.find? (fun pattern =>
        inCategory pattern typeName && (self.handlers.get pattern).isSome)).bind
          self.handlers.get := by
  induction ks with
  | nil => rfl
  | cons pattern ks ih =>
    rw [List.findSome?_cons, List.find?_cons]
    cases inCategory pattern typeName with
    | false => exact ih
    | true =>
      cases hget : self.handlers.get pattern with
      | none => exact ih
      | some handler => exact hget.symm

theorem getHandler_eq (self : JobExecutor) (ks : List String) (kind : JobKind)
    : self.getHandler ks kind = (self.chosen ks kind).bind self.handlers.get := by
  unfold getHandler chosen
  dsimp only
  rw [find?_eq]
  cases hexact : self.handlers.get kind.typeName with
  | some handler => exact hexact.symm
  | none =>
    dsimp only [Option.isSome_none]
    rw [if_neg Bool.false_ne_true]
    cases hfind : ks.find? (fun pattern =>
        inCategory pattern kind.typeName && (self.handlers.get pattern).isSome) with
    | some pattern =>
      have hsome := List.find?_some hfind
      rw [Bool.and_eq_true] at hsome
      rcases Option.isSome_iff_exists.mp hsome.2 with ⟨handler, hhandler⟩
      dsimp only [Option.bind_some]
      rw [hhandler]
    | none =>
      dsimp only [Option.bind_none]
      cases hwild : self.handlers.get "*" with
      | some handler => exact hwild.symm
      | none => rfl

-- A registered category pattern that `get_handler` takes for one of the name.
def Applies (self : JobExecutor) (typeName pattern : String) : Prop :=
  self.Registered pattern ∧ inCategory pattern typeName = true

variable {executor : JobExecutor} {ks : List String} {kind : JobKind}

theorem chosen_of_registered (h : executor.Registered kind.typeName) (ks : List String)
    : executor.chosen ks kind = some kind.typeName := by
  unfold chosen
  exact if_pos h

-- Without an exact match the choice is the first category visited, and the wildcard if there is
-- none.
theorem chosen_of_not_registered (h : ¬ executor.Registered kind.typeName)
    (hks : executor.handlers.Enumerates ks)
    : (∃ pattern, executor.chosen ks kind = some pattern ∧ executor.Applies kind.typeName pattern)
      ∨ (∀ pattern, ¬ executor.Applies kind.typeName pattern)
          ∧ executor.chosen ks kind = if (executor.handlers.get "*").isSome
              then some "*" else none := by
  have hexact : ¬ (executor.handlers.get kind.typeName).isSome = true := h
  unfold chosen
  dsimp only
  rw [if_neg hexact]
  cases hfind : ks.find? (fun pattern =>
      inCategory pattern kind.typeName && (executor.handlers.get pattern).isSome) with
  | some pattern =>
    have hsome := List.find?_some hfind
    rw [Bool.and_eq_true] at hsome
    exact Or.inl ⟨pattern, rfl, hsome.2, hsome.1⟩
  | none =>
    refine Or.inr ⟨?_, rfl⟩
    rintro pattern ⟨hregistered, hcategory⟩
    have hnot := List.find?_eq_none.mp hfind pattern ((hks.mem_iff pattern).mpr hregistered)
    apply hnot
    rw [hcategory, Bool.true_and]
    exact hregistered

-- Whichever category applies, some order of visits comes upon it first.
theorem exists_chosen (h : ¬ executor.Registered kind.typeName) {pattern : String}
    (happlies : executor.Applies kind.typeName pattern)
    : ∃ ks, executor.handlers.Enumerates ks ∧ executor.chosen ks kind = some pattern := by
  rcases executor.handlers.exists_enumerates with ⟨ks, hks⟩
  have hmem : pattern ∈ ks := (hks.mem_iff pattern).mpr happlies.1
  have hperm : ks.Perm (pattern :: ks.erase pattern) := List.perm_cons_erase hmem
  refine ⟨pattern :: ks.erase pattern, ⟨hperm.nodup_iff.mp hks.nodup, ?_⟩, ?_⟩
  . intro k
    rw [← hperm.mem_iff]
    exact hks.mem_iff k
  . have hexact : ¬ (executor.handlers.get kind.typeName).isSome = true := h
    unfold chosen
    dsimp only
    rw [if_neg hexact, List.find?_cons_of_pos]
    rw [happlies.2, Bool.true_and]
    exact happlies.1

/--
There is an exact match, or all the categories that apply end in a dot there and lead to one
handler.
-/
def Unambiguous (executor : JobExecutor) (kind : JobKind) : Prop :=
  executor.Registered kind.typeName
  ∨ (∀ pattern, executor.Applies kind.typeName pattern → Heads pattern kind.typeName)
    ∧ ∀ pattern pattern', executor.Applies kind.typeName pattern →
        executor.Applies kind.typeName pattern' →
        executor.handlers.get pattern = executor.handlers.get pattern'

theorem Unambiguous.getHandler_eq_of_enumerates (h : executor.Unambiguous kind)
    {ks ks' : List String}
    (hks : executor.handlers.Enumerates ks) (hks' : executor.handlers.Enumerates ks')
    : executor.getHandler ks kind = executor.getHandler ks' kind := by
  rw [getHandler_eq, getHandler_eq]
  by_cases hexact : executor.Registered kind.typeName
  . rw [chosen_of_registered hexact, chosen_of_registered hexact]
  . have hsame := (h.resolve_left hexact).2
    rcases chosen_of_not_registered hexact hks with ⟨pattern, hchosen, happlies⟩ | ⟨hnone, hchosen⟩
    . rcases chosen_of_not_registered hexact hks' with ⟨pattern', hchosen', happlies'⟩ | ⟨hnone', _⟩
      . rw [hchosen, hchosen']
        exact hsame pattern pattern' happlies happlies'
      . exact absurd happlies (hnone' pattern)
    . rcases chosen_of_not_registered hexact hks' with ⟨pattern', _, happlies'⟩ | ⟨_, hchosen'⟩
      . exact absurd happlies' (hnone pattern')
      . rw [hchosen, hchosen']

theorem wildcard_ne (p : String) : "*" ≠ p ++ ".*" := by
  intro h
  have hlength := congrArg (fun s => s.toList.length) h
  simp at hlength

theorem wellDefined_iff (registrations : List (String × JobHandler)) (kind : JobKind)
    : WellDefined registrations kind ↔ (register registrations).Unambiguous kind := by
  constructor
  . intro h
    by_cases hexact : (register registrations).Registered kind.typeName
    . exact Or.inl hexact
    . refine Or.inr ⟨?_, ?_⟩
      . intro pattern happlies
        rcases exists_chosen hexact happlies with ⟨ks, hks, hchosen⟩
        rcases (inCategory_iff _ _).mp happlies.2 with ⟨p, rfl, _⟩
        exact h.category ks p hks hchosen
      . intro pattern pattern' happlies happlies'
        rcases exists_chosen hexact happlies with ⟨ks, hks, hchosen⟩
        rcases exists_chosen hexact happlies' with ⟨ks', hks', hchosen'⟩
        have hsame := h.orderFree registrations ks ks' (fun _ => rfl) hks hks'
        rw [getHandler_eq, getHandler_eq, hchosen, hchosen'] at hsame
        exact hsame
  . intro h
    refine ⟨?_, ?_, ?_, ?_⟩
    . intro registrations' ks ks' hsame hks hks'
      rw [← hsame.register_eq] at hks' ⊢
      exact h.getHandler_eq_of_enumerates hks hks'
    . intro ks p hks hchosen
      by_cases hexact : (register registrations).Registered kind.typeName
      . rw [chosen_of_registered hexact, Option.some.injEq] at hchosen
        refine ⟨p, rfl, ?_⟩
        rw [hchosen, String.toList_append, String.toList_append, List.prefix_append_right_inj]
        exact ⟨['*'], rfl⟩
      . rcases chosen_of_not_registered hexact hks
            with ⟨pattern, hchosen', happlies⟩ | ⟨_, hchosen'⟩
        . cases hchosen.symm.trans hchosen'
          exact (h.resolve_left hexact).1 _ happlies
        . rw [hchosen] at hchosen'
          split at hchosen'
          . exact absurd (Option.some.inj hchosen').symm (wildcard_ne p)
          . cases hchosen'
    . intro ks _ hexact
      exact chosen_of_registered hexact ks
    . intro ks pattern hks hexact hregistered hheads
      rcases chosen_of_not_registered hexact hks with ⟨pattern', hchosen, happlies⟩ | ⟨hnone, _⟩
      . rcases (inCategory_iff _ _).mp happlies.2 with ⟨p, rfl, _⟩
        exact ⟨p, hchosen⟩
      . exact absurd ⟨hregistered, hheads.inCategory⟩ (hnone pattern)

end JobExecutor

namespace Workshop

open JobExecutor

def succeeds : JobHandler := fun _ => .success

def fails : JobHandler := fun _ => .failure "boom"

theorem enumerates_ai : (register [("ai.*", succeeds)]).handlers.Enumerates ["ai.*"] := by
  refine ⟨List.nodup_singleton _, ?_⟩
  intro pattern
  have : (register [("ai.*", succeeds)]).handlers.get pattern
      = if pattern = "ai.*" then some succeeds else none := rfl
  rw [this, List.mem_singleton]
  by_cases h : pattern = "ai.*"
  . simp [h]
  . simp [h]

def overlapping : List (String × JobHandler) :=
  [("ai.*", succeeds), ("ai.stock.*", fails)]

theorem enumerates_overlapping
    : (register overlapping).handlers.Enumerates ["ai.*", "ai.stock.*"]
      ∧ (register overlapping).handlers.Enumerates ["ai.stock.*", "ai.*"] := by
  have hget : ∀ pattern, (register overlapping).handlers.get pattern
      = if pattern = "ai.stock.*" then some fails else if pattern
          = "ai.*" then some succeeds else none :=
    fun _ => rfl
  have henumerates : (register overlapping).handlers.Enumerates ["ai.*", "ai.stock.*"] := by
    refine ⟨by decide, ?_⟩
    intro pattern
    rw [hget]
    by_cases hstock : pattern = "ai.stock.*"
    . simp [hstock]
    . by_cases hai : pattern = "ai.*"
      . simp [hai]
      . simp [hstock, hai]
  refine ⟨henumerates, by decide, ?_⟩
  intro pattern
  rw [← henumerates.mem_iff]
  simp [or_comm]

theorem succeeds_ne_fails : succeeds ≠ fails := by
  intro h
  have := congrFun h (job 1)
  cases this

-- `ai.*` is chosen for a name without the dot, and of two categories whichever is visited first.
theorem category_ambiguous
    : (register [("ai.*", succeeds)]).chosen ["ai.*"] (.custom "airmail") = some "ai.*"
      ∧ ¬ WellDefined [("ai.*", succeeds)] (.custom "airmail")
      ∧ ¬ WellDefined overlapping (.aiInference "ai.stock.anomaly") := by
  have hchosen : (register [("ai.*", succeeds)]).chosen ["ai.*"] (.custom "airmail")
      = some ("ai" ++ ".*") := by
    decide
  refine ⟨hchosen, ?_, ?_⟩
  . intro h
    rcases h.category _ _ enumerates_ai hchosen with ⟨p, hp, hprefix⟩
    have hp : p = "ai" := by
      have := congrArg String.toList hp
      rw [String.toList_append, String.toList_append, List.append_cancel_right_eq] at this
      exact String.toList_injective this.symm
    subst hp
    revert hprefix
    decide
  . intro h
    have hsame := h.orderFree overlapping _ _ (fun _ => rfl) enumerates_overlapping.1
      enumerates_overlapping.2
    exact succeeds_ne_fails (Option.some.inj hsame)

end Workshop

end ForgeErp
