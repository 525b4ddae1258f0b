import ForgeErp.Library.Numbered

/-!
This module contains numbered logs whose entries are relayed through one queue for all of them. An
entry gets into its log first and is sent some time later by the one who put it there; whoever
receives from the queue sees each log in the order in which it was sent.
-/

variable {E M κ : Type} [DecidableEq κ]

/--
Of the log of `k` the first `c` entries have been received and the following ones up to number `p`
are in the queue; the others are still to be sent.
-/
structure Relayed (key : M → κ) (number : E → Nat) (message : E → M) (k : κ)
    (log : List E) (queue : List M)
    (pending : E → Prop) (c p : Nat) : Prop where
  numbered : NumberedFrom 1 number log
  addressed : ∀ e ∈ log, key (message e) = k
  le : c ≤ p
  bound : p ≤ log.length
  queued : queue.filter (fun m => key m = k) = ((log.take p).drop c).map message
  pending : ∀ e ∈ log, p < number e ↔ pending e

namespace Relayed

variable {key : M → κ} {number : E → Nat} {message : E → M} {k : κ} {log : List E} {queue : List M}
  {pending pending' : E → Prop} {c p : Nat}

theorem empty (k : κ) : Relayed key number message k [] [] pending 0 0 := by
  refine ⟨NumberedFrom.nil, ?_, Nat.le_refl 0, Nat.le_refl 0, rfl, ?_⟩
  . intro e he
    cases he
  . intro e he
    cases he

theorem congr (h : Relayed key number message k log queue pending c p)
    (hpending : ∀ e ∈ log, pending' e ↔ pending e)
    : Relayed key number message k log queue pending' c p := by
  refine ⟨h.numbered, h.addressed, h.le, h.bound, h.queued, ?_⟩
  intro e he
  rw [hpending e he]
  exact h.pending e he

theorem send_ne (h : Relayed key number message k log queue pending c p) {m : M} (hkey : key m ≠ k)
    : Relayed key number message k log (queue ++ [m]) pending c p := by
  refine ⟨h.numbered, h.addressed, h.le, h.bound, ?_, h.pending⟩
  rw [List.filter_append, h.queued]
  simp [hkey]

theorem number_eq (h : Relayed key number message k log queue pending c p) {e : E} (he : e ∈ log)
    (hpending : pending e) (hfirst : ∀ e' ∈ log, pending e' → number e ≤ number e')
    : number e = p + 1 := by
  have hbounds := h.numbered.mem_bounds he
  have hlt : p < number e := (h.pending e he).mpr hpending
  have hp : p < log.length := by omega
  have hnext := h.numbered.getElem? (List.getElem?_eq_getElem hp)
  have hmem : log[p] ∈ log := List.getElem_mem hp
  have hle := hfirst _ hmem ((h.pending _ hmem).mp (by omega))
  omega

-- The first entry that is still to be sent is sent.
theorem send (h : Relayed key number message k log queue pending c p) {e : E} (he : e ∈ log)
    (hpending : pending e) (hfirst : ∀ e' ∈ log, pending e' → number e ≤ number e')
    (hpending' : ∀ e' ∈ log, pending' e' ↔ pending e' ∧ e' ≠ e)
    : Relayed key number message k log (queue ++ [message e]) pending' c (p + 1) := by
  have hnumber := h.number_eq he hpending hfirst
  have hget : log[p]? = some e := by
    have := h.numbered.getElem?_of_mem he
    rw [hnumber, Nat.add_sub_cancel] at this
    exact this
  have hp : p < log.length := by
    rw [List.getElem?_eq_some_iff] at hget
    exact hget.1
  have hle := h.le
  refine ⟨h.numbered, h.addressed, by omega, by omega, ?_, ?_⟩
  . rw [List.filter_append, h.queued, List.take_add_one, hget, List.drop_append_of_le_length]
    . simp [h.addressed e he]
    . rw [List.length_take]
      omega
  . intro e' he'
    rw [hpending' e' he', ← h.pending e' he']
    constructor
    . intro hlt
      refine ⟨by omega, ?_⟩
      intro heq
      rw [heq] at hlt
      omega
    . rintro ⟨hlt, hne⟩
      have : number e' ≠ number e := fun heq => hne (h.numbered.eq_of_mem he' he heq)
      omega

theorem grow (h : Relayed key number message k log queue pending c p) {more : List E}
    (hnumbered : NumberedFrom 1 number (log ++ more)) (haddressed : ∀ e ∈ more, key (message e) = k)
    (hold : ∀ e ∈ log, pending' e ↔ pending e) (hmore : ∀ e ∈ more, pending' e)
    : Relayed key number message k (log ++ more) queue pending' c p := by
  have hbound := h.bound
  refine ⟨hnumbered, ?_, h.le, ?_, ?_, ?_⟩
  . intro e he
    cases List.mem_append.mp he with
    | inl he => exact h.addressed e he
    | inr he => exact haddressed e he
  . rw [List.length_append]
    omega
  . rw [List.take_append_of_le_length hbound]
    exact h.queued
  . intro e he
    cases List.mem_append.mp he with
    | inl he =>
      rw [hold e he]
      exact h.pending e he
    | inr he =>
      rw [NumberedFrom.append_iff] at hnumbered
      have hbounds := hnumbered.2.mem_bounds he
      constructor
      . intro _
        exact hmore e he
      . intro _
        omega

theorem receive_ne {m : M} (h : Relayed key number message k log (m :: queue) pending c p)
    (hkey : key m ≠ k) : Relayed key number message k log queue pending c p := by
  refine ⟨h.numbered, h.addressed, h.le, h.bound, ?_, h.pending⟩
  rw [← h.queued, List.filter_cons_of_neg]
  simpa using hkey

theorem receive {m : M} (h : Relayed key number message k log (m :: queue) pending c p)
    (hkey : key m = k)
    : ∃ e, log[c]? = some e ∧ m = message e ∧ number e = c + 1
        ∧ Relayed key number message k log queue pending (c + 1) p := by
  have hqueued := h.queued
  rw [List.filter_cons_of_pos (by simpa using hkey)] at hqueued
  have hc : c < p := by
    have hlength := congrArg List.length hqueued
    rw [List.length_cons, List.length_map, List.length_drop, List.length_take] at hlength
    omega
  have hbound := h.bound
  have hclt : c < log.length := by omega
  rw [List.drop_eq_getElem_cons (by rw [List.length_take]; omega), List.map_cons, List.getElem_take]
    at hqueued
  rw [List.cons.injEq] at hqueued
  have hget := List.getElem?_eq_getElem hclt
  have hnumber := h.numbered.getElem? hget
  refine ⟨log[c], hget, hqueued.1, by omega, ?_⟩
  exact ⟨h.numbered, h.addressed, hc, hbound, hqueued.2, h.pending⟩

theorem settled (h : Relayed key number message k log [] pending c p) (hpending : ∀ e, ¬ pending e)
    : c = log.length := by
  have hbound := h.bound
  have hle := h.le
  have hp : p = log.length := by
    by_contra hne
    have hp : p < log.length := by omega
    have hnumber := h.numbered.getElem? (List.getElem?_eq_getElem hp)
    apply hpending log[p]
    apply (h.pending _ (List.getElem_mem hp)).mp
    omega
  have hlength := congrArg List.length h.queued
  rw [List.filter_nil, List.length_nil, List.length_map, List.length_drop, List.length_take]
    at hlength
  omega

end Relayed

section Outbox

variable {E : Type} {pending pending' : Nat → List E} {stored stored' : E → Prop} {i : Nat}

/--
Each of the entries that are still to be sent is with one sender, who has got it from a log.
-/
structure Outbox (pending : Nat → List E) (stored : E → Prop) : Prop where
  nodup : ∀ i, (pending i).Nodup
  stored : ∀ i, ∀ e ∈ pending i, stored e
  apart : ∀ i j e, e ∈ pending i → e ∈ pending j → i = j

def Unsent (pending : Nat → List E) (e : E) : Prop :=
  ∃ i, e ∈ pending i

theorem Outbox.empty (stored : E → Prop) : Outbox (fun _ => []) stored := by
  refine ⟨fun _ => List.nodup_nil, ?_, ?_⟩
  . intro i e he
    cases he
  . intro i j e he
    cases he

theorem Outbox.send {e : E} {rest : List E} (h : Outbox pending stored)
    (hbefore : pending i = e :: rest)
    (hafter : ∀ j, pending' j = if j = i then rest else pending j)
    : Outbox pending' stored ∧ ∀ e', Unsent pending' e' ↔ Unsent pending e' ∧ e' ≠ e := by
  have hnodup := h.nodup i
  rw [hbefore, List.nodup_cons] at hnodup
  have hsub : ∀ j, ∀ e' ∈ pending' j, e' ∈ pending j := by
    intro j e' he'
    rw [hafter] at he'
    split at he'
    . next heq =>
      rw [heq, hbefore]
      exact List.mem_cons_of_mem _ he'
    . exact he'
  refine ⟨⟨?_, ?_, ?_⟩, ?_⟩
  . intro j
    rw [hafter]
    split
    . exact hnodup.2
    . exact h.nodup j
  . intro j e' he'
    exact h.stored j e' (hsub j e' he')
  . intro j j' e' hj hj'
    exact h.apart j j' e' (hsub j e' hj) (hsub j' e' hj')
  . intro e'
    constructor
    . rintro ⟨j, hj⟩
      refine ⟨⟨j, hsub j e' hj⟩, ?_⟩
      intro heq
      rw [hafter] at hj
      split at hj
      . rw [heq] at hj
        exact hnodup.1 hj
      . next hne =>
        apply hne
        apply h.apart j i e' hj
        rw [hbefore, heq]
        exact List.mem_cons_self
    . rintro ⟨⟨j, hj⟩, hne⟩
      refine ⟨j, ?_⟩
      rw [hafter]
      split
      . next heq =>
        rw [heq, hbefore, List.mem_cons] at hj
        exact hj.resolve_left hne
      . exact hj

theorem Outbox.add {more : List E} (h : Outbox pending stored) (hbefore : pending i = [])
    (hafter : ∀ j, pending' j = if j = i then more else pending j) (hnodup : more.Nodup)
    (hnew : ∀ e ∈ more, ¬ stored e) (hold : ∀ e, stored e → stored' e)
    (hmore : ∀ e ∈ more, stored' e)
    : Outbox pending' stored' ∧ ∀ e, Unsent pending' e ↔ Unsent pending e ∨ e ∈ more := by
  refine ⟨⟨?_, ?_, ?_⟩, ?_⟩
  . intro j
    rw [hafter]
    split
    . exact hnodup
    . exact h.nodup j
  . intro j e he
    rw [hafter] at he
    split at he
    . exact hmore e he
    . exact hold e (h.stored j e he)
  . intro j j' e hj hj'
    rw [hafter] at hj hj'
    split at hj
    . next heq =>
      split at hj'
      . next heq' => rw [heq, heq']
      . exact absurd (h.stored j' e hj') (hnew e hj)
    . split at hj'
      . exact absurd (h.stored j e hj) (hnew e hj')
      . exact h.apart j j' e hj hj'
  . intro e
    constructor
    . rintro ⟨j, hj⟩
      rw [hafter] at hj
      split at hj
      . exact .inr hj
      . exact .inl ⟨j, hj⟩
    . rintro (⟨j, hj⟩ | hmem)
      . refine ⟨j, ?_⟩
        rw [hafter, if_neg]
        . exact hj
        . intro heq
          rw [heq, hbefore] at hj
          cases hj
      . refine ⟨i, ?_⟩
        rw [hafter, if_pos rfl]
        exact hmem

end Outbox
