import OpsPilot.Noninterference
import OpsPilot.RequestPool

/-! A program among others that change nothing it can tell apart: whatever they do between its
steps, it takes the steps that it would take alone. -/

namespace Undisturbed
open DurableProgram RequestPool Noninterference

variable {ι κ ρ σ ε α : Type} [DecidableEq ι] {Agree : σ → σ → Prop}

/-- Every end of what is left of the program, run alone, is an end of the whole program, run alone
from the state `s`. -/
structure Alone (Agree : σ → σ → Prop) (program : Program κ ρ σ ε α) (s : σ)
    (pool : Pool ι κ ρ σ ε α) (i : ι) : Prop where
  blind : Blind Agree (pool.requests i)
  ends : ∃ t, Agree pool.state t ∧ ∀ o u g, Runs .alone anyFaults (pool.requests i) t o u g →
    Runs .alone anyFaults program s o u (eventsOf i pool.history ++ g)

variable {program : Program κ ρ σ ε α} {s : σ} {pool : Pool ι κ ρ σ ε α} {i who : ι}
  {move : Move ρ ε} {event : Event κ ρ ε} {rest : Program κ ρ σ ε α} {state : σ}

/-- The program's own step can be taken alone. -/
theorem Alone.own (alone : Alone Agree program s pool i)
    (step : advance move (pool.requests i) pool.state = some (event, rest, state)) :
    Alone Agree program s (pool.moved i event rest state) i := by
  obtain ⟨t, agree, ends⟩ := alone.ends
  obtain ⟨blind, t', step', agree'⟩ := alone.blind.advance agree step
  refine ⟨by rwa [Pool.moved_self], t', agree', fun o u g run => ?_⟩
  rw [Pool.moved_self] at run
  rw [Pool.moved_history, eventsOf_self, List.append_assoc]
  exact ends o u (event :: g) (.step rfl step' trivial run)

/-- A step of another changes nothing that the program can tell apart. -/
theorem Alone.other (alone : Alone Agree program s pool i) (different : i ≠ who)
    (unseen : ∀ t, Agree pool.state t → Agree state t) :
    Alone Agree program s (pool.moved who event rest state) i := by
  obtain ⟨t, agree, ends⟩ := alone.ends
  have same := Pool.moved_other pool event rest state different
  refine ⟨same ▸ alone.blind, t, unseen t agree, fun o u g run => ?_⟩
  rw [same] at run
  rw [Pool.moved_history, eventsOf_other different]
  exact ends o u g run

variable {permit : PoolPermit ι κ ρ σ ε α} {guar : κ → σ → σ → Prop}
  {first last : Pool ι κ ρ σ ε α}

theorem alone_of_reaches (reach : Reaches permit first last)
    (others : ∀ j, j ≠ i → Guarantees guar (first.requests j))
    (unseen : ∀ pool who l next, permit pool who (.performed l) next →
      guar l pool.state next.state → ∀ t, Agree pool.state t → Agree next.state t)
    (nothing : first.history = []) (blind : Blind Agree (first.requests i))
    (agree : Agree first.state s) :
    Alone Agree (first.requests i) s last i := by
  suffices both : Alone Agree (first.requests i) s last i ∧
      ∀ j, j ≠ i → Guarantees guar (last.requests j) from both.1
  induction reach with
  | refl =>
    refine ⟨⟨blind, s, agree, fun o u g run => ?_⟩, others⟩
    rw [nothing]
    exact run
  | @step pool who move event rest state before advanced ok ih =>
    obtain ⟨alone, quiet⟩ := ih
    refine ⟨?_, fun j different => ?_⟩
    · by_cases mine : i = who
      · subst mine
        exact alone.own advanced
      · refine alone.other mine fun t same => ?_
        cases event with
        | performed l =>
          exact unseen pool who l _ ok ((quiet who (Ne.symm mine)).performed advanced) t same
        | answered | failed | died =>
          rw [advance_unchanged (by simp) advanced]
          exact same
    · by_cases moved : j = who
      · subst moved
        rw [Pool.moved_self]
        exact ((quiet j different).advance advanced).1
      · rw [Pool.moved_other pool event rest state moved]
        exact quiet j different

/-- What the program has returned it returns alone, from any state that agrees, after the same
events. -/
theorem Alone.returned {a : α} (alone : Alone Agree program s pool i)
    (done : pool.requests i = .ret a) : ∃ u, Agree pool.state u ∧
      Runs .alone anyFaults program s (.returned a) u (eventsOf i pool.history) := by
  obtain ⟨t, agree, ends⟩ := alone.ends
  rw [done] at ends
  have run := ends _ _ _ (.ret a t)
  rw [List.append_nil] at run
  exact ⟨t, agree, run⟩

end Undisturbed
