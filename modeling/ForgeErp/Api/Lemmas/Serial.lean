import ForgeErp.Api.Lemmas.Requests
import ForgeErp.Dispatcher.Lemmas.Serial

/-!
This module contains the refinement of the server by a dispatcher that is never disturbed: what the
requests have stored between each other's steps is what their calls store one after the other.
-/

namespace ForgeErp
namespace Server

open CommandDispatcher

section Serial

variable [Lowercase] [TextFormat Uuid] [TextFormat DateTime]

/--
What is stored is what the calls of the commits store one after the other.
-/
def State.Serial (bus : InMemoryEventBus (EventEnvelope JsonValue)) (s : State) : Prop :=
  DispatchCall.Serial bus (s.commits.map Commit.call) (s.commits.map Commit.batch)
    s.store.loadStream

variable {config : Config} {s : State} {bus : InMemoryEventBus (EventEnvelope JsonValue)}

theorem State.Serial.of_same {s' : State} (h : s.Serial bus) (hcommits : s'.commits = s.commits)
    (hstreams : ∀ key, s'.store.loadStream key = s.store.loadStream key)
    : s'.Serial bus := by
  unfold Serial
  rw [hcommits]
  exact h.congr hstreams

-- The append is where the call takes effect: nobody has written to the stream since it was loaded.
theorem State.Serial.append (h : s.Serial bus) (hinv : Inv config s) {i : Nat} {call : DispatchCall}
    {history : List StoredEvent} {next : Except DispatchError (List StoredEvent) → Handler}
    {us : List UncommittedEvent} {expected : ExpectedVersion} {committed : List StoredEvent}
    {store : InMemoryEventStore} (hsession : s.sessions i = .decided call history us expected next)
    (happend : s.store.append us expected = (.ok committed, store))
    : State.Serial bus
        ({ s with store, commits := s.commits ++ [Commit.mk i call committed] }.setSession i
          (.publishing committed committed next)) := by
  rcases hinv.busy hsession (by simp) (by simp) with ⟨adm, hadm, hsends, hpre, hdecide, hawaits⟩
  rcases decides_of_append hinv.wellFormed hpre hdecide happend
      with ⟨⟨state, decided, hdecides⟩, hstore⟩
  have hnext := DispatchCall.Serial.concat h hinv.wellFormed hdecides
  unfold Serial
  dsimp only [State.setSession]
  rw [List.map_append, List.map_append]
  apply hnext.congr
  intro key
  rw [hstore]
  exact InMemoryEventStore.loadStream_insert _ _ _ _

theorem serial_initial : State.Serial bus initial :=
  .nil

end Serial

section Runs

variable [Lowercase] [TextFormat Uuid] [TextFormat DateTime] [ResponseText] [Rfc3339] [ParseRfc3339]

variable {config : Config} {s s' : State} {bus : InMemoryEventBus (EventEnvelope JsonValue)}

theorem State.Serial.steps (h : s.Serial bus) (hinv : Inv config s) (hsteps : Steps config s s')
    : s'.Serial bus := by
  cases hsteps with
  | append hsession happend => exact h.append hinv hsession happend
  | conflicted hsession happend => exact h.of_same rfl (loadStream_append_error happend)
  | @saga uuid now order env bus hrecv =>
    rw [hinv.receive_eq hrecv]
    exact h.of_same rfl (fun _ => rfl)
  | _ => exact h.of_same rfl (fun _ => rfl)

theorem commits_serialize (config : Config) (s : State) (h : (system config).Reachable s)
    (bus : InMemoryEventBus (EventEnvelope JsonValue))
    : (DispatchCall.performAll InMemoryEventBus.toEventBus (s.commits.map Commit.call) .new bus).1
          = s.commits.map (fun c => .ok c.batch)
        ∧ ∀ key,
            (DispatchCall.performAll InMemoryEventBus.toEventBus (s.commits.map Commit.call) .new
              bus).2.1.loadStream key
            = s.store.loadStream key := by
  have hserial : Inv config s ∧ s.Serial bus := by
    apply Machine.Reachable.invariant _ _ s h
    . intro s hs
      rw [hs]
      exact ⟨inv_initial, serial_initial⟩
    . intro s action s' hboth hstep
      have hsteps := steps_of_step hstep
      exact ⟨inv_steps hboth.1 hsteps, hboth.2.steps hboth.1 hsteps⟩
  refine ⟨?_, hserial.2.loadStream⟩
  rw [hserial.2.results, List.map_map]
  rfl

end Runs

end Server

namespace Workshop

open Concrete Server

theorem commits_serialize_racing
    : ∃ s, (system config).run initial racing = some s ∧ s.commits.length = 3
        ∧ (DispatchCall.performAll InMemoryEventBus.toEventBus
            (s.commits.map Commit.call) .new ⟨[]⟩).1
          = s.commits.map (fun c => .ok c.batch) :=
  ⟨_, rfl, rfl, (commits_serialize config _ (reachable_of_run racing rfl) ⟨[]⟩).1⟩

end Workshop
end ForgeErp
