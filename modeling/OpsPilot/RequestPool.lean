import OpsPilot.DurableProgram
import Mathlib.Logic.Function.Basic

/-! Any number of programs interleaved over one shared state. A schedule names the request
that moves next and how it moves; the history keeps every event with the request it belongs
to. -/

namespace RequestPool
open DurableProgram

structure Pool (ι κ ρ σ ε α : Type) where
  state : σ
  requests : ι → Program κ ρ σ ε α
  history : List (ι × Event κ ρ ε)

variable {ι κ ρ σ ε α : Type} [DecidableEq ι]

namespace Pool

/-- Requests that have not begun yet, on a state where nothing has happened yet. -/
def start (state : σ) (requests : ι → Program κ ρ σ ε α) : Pool ι κ ρ σ ε α :=
  ⟨state, requests, []⟩

def moved (pool : Pool ι κ ρ σ ε α) (who : ι) (event : Event κ ρ ε)
    (rest : Program κ ρ σ ε α) (state : σ) : Pool ι κ ρ σ ε α :=
  ⟨state, Function.update pool.requests who rest, pool.history ++ [(who, event)]⟩

def step (pool : Pool ι κ ρ σ ε α) (who : ι) (move : Move ρ ε) : Option (Pool ι κ ρ σ ε α) :=
  match advance move (pool.requests who) pool.state with
  | none => none
  | some (event, rest, state) => some (pool.moved who event rest state)

def run : List (ι × Move ρ ε) → Pool ι κ ρ σ ε α → Option (Pool ι κ ρ σ ε α)
  | [], pool => some pool
  | (who, move) :: schedule, pool =>
    match pool.step who move with
    | none => none
    | some next => run schedule next

/-- Every step of the schedule that can be taken is permitted. -/
def Permitted (permit : Pool ι κ ρ σ ε α → ι → Event κ ρ ε → Pool ι κ ρ σ ε α → Prop) :
    List (ι × Move ρ ε) → Pool ι κ ρ σ ε α → Prop
  | [], _ => True
  | (who, move) :: schedule, pool =>
    match advance move (pool.requests who) pool.state with
    | none => True
    | some (event, rest, state) =>
      permit pool who event (pool.moved who event rest state) ∧
        Permitted permit schedule (pool.moved who event rest state)

instance decidablePermitted
    {permit : Pool ι κ ρ σ ε α → ι → Event κ ρ ε → Pool ι κ ρ σ ε α → Prop}
    [∀ pool who event next, Decidable (permit pool who event next)] :
    (schedule : List (ι × Move ρ ε)) → (pool : Pool ι κ ρ σ ε α) →
      Decidable (pool.Permitted permit schedule)
  | [], _ => .isTrue trivial
  | (who, move) :: schedule, pool =>
    match found : advance move (pool.requests who) pool.state with
    | none => .isTrue (by simp [Permitted, found])
    | some (event, rest, state) =>
      have : Decidable (Permitted permit schedule (pool.moved who event rest state)) :=
        decidablePermitted schedule _
      decidable_of_iff (permit pool who event (pool.moved who event rest state) ∧
        Permitted permit schedule (pool.moved who event rest state)) (by simp [Permitted, found])

@[simp] theorem moved_state (pool : Pool ι κ ρ σ ε α) (who : ι) (event : Event κ ρ ε)
    (rest : Program κ ρ σ ε α) (state : σ) : (pool.moved who event rest state).state = state := rfl

@[simp] theorem moved_history (pool : Pool ι κ ρ σ ε α) (who : ι) (event : Event κ ρ ε)
    (rest : Program κ ρ σ ε α) (state : σ) :
    (pool.moved who event rest state).history = pool.history ++ [(who, event)] := rfl

@[simp] theorem moved_self (pool : Pool ι κ ρ σ ε α) (who : ι) (event : Event κ ρ ε)
    (rest : Program κ ρ σ ε α) (state : σ) :
    (pool.moved who event rest state).requests who = rest := by
  simp [moved]

theorem moved_other (pool : Pool ι κ ρ σ ε α) {who other : ι} (event : Event κ ρ ε)
    (rest : Program κ ρ σ ε α) (state : σ) (different : other ≠ who) :
    (pool.moved who event rest state).requests other = pool.requests other := by
  simp [moved, different]

end Pool

def eventsOf (i : ι) (history : List (ι × Event κ ρ ε)) : List (Event κ ρ ε) :=
  (history.filter (·.1 = i)).map Prod.snd

@[simp] theorem eventsOf_self (i : ι) (history : List (ι × Event κ ρ ε)) (event : Event κ ρ ε) :
    eventsOf i (history ++ [(i, event)]) = eventsOf i history ++ [event] := by
  simp [eventsOf]

theorem eventsOf_other {i who : ι} (different : i ≠ who) (history : List (ι × Event κ ρ ε))
    (event : Event κ ρ ε) : eventsOf i (history ++ [(who, event)]) = eventsOf i history := by
  simp [eventsOf, different.symm]

theorem mem_eventsOf {i : ι} {history : List (ι × Event κ ρ ε)} {event : Event κ ρ ε} :
    event ∈ eventsOf i history ↔ (i, event) ∈ history := by
  simp [eventsOf]

/-- Which events may happen to which request in which pool, and what pool they may lead to. -/
abbrev PoolPermit (ι κ ρ σ ε α : Type) :=
  Pool ι κ ρ σ ε α → ι → Event κ ρ ε → Pool ι κ ρ σ ε α → Prop

inductive Reaches (permit : PoolPermit ι κ ρ σ ε α) :
    Pool ι κ ρ σ ε α → Pool ι κ ρ σ ε α → Prop where
  | refl (pool) : Reaches permit pool pool
  | step {first pool who move event rest state} (before : Reaches permit first pool)
      (advanced : advance move (pool.requests who) pool.state = some (event, rest, state))
      (ok : permit pool who event (pool.moved who event rest state)) :
      Reaches permit first (pool.moved who event rest state)

theorem Reaches.trans {permit : PoolPermit ι κ ρ σ ε α} {a b c : Pool ι κ ρ σ ε α}
    (first : Reaches permit a b) (second : Reaches permit b c) : Reaches permit a c := by
  induction second with
  | refl => exact first
  | step _ advanced ok ih => exact .step ih advanced ok

theorem Reaches.mono {permit permit' : PoolPermit ι κ ρ σ ε α}
    (weaker : ∀ pool who ev next, permit pool who ev next → permit' pool who ev next)
    {first last : Pool ι κ ρ σ ε α} (reach : Reaches permit first last) :
    Reaches permit' first last := by
  induction reach with
  | refl => exact .refl _
  | step _ advanced ok ih => exact .step ih advanced (weaker _ _ _ _ ok)

/-- Step rule for invariants of whole interleavings. -/
theorem Reaches.invariant {permit : PoolPermit ι κ ρ σ ε α} {Inv : Pool ι κ ρ σ ε α → Prop}
    (preserved : ∀ pool who move event rest state, Inv pool →
      advance move (pool.requests who) pool.state = some (event, rest, state) →
      permit pool who event (pool.moved who event rest state) →
      Inv (pool.moved who event rest state))
    {first last : Pool ι κ ρ σ ε α} (reach : Reaches permit first last) (holds : Inv first) :
    Inv last := by
  induction reach with
  | refl => exact holds
  | step _ advanced ok ih => exact preserved _ _ _ _ _ _ ih advanced ok

theorem Reaches.guarantees {permit : PoolPermit ι κ ρ σ ε α} {guar : ι → κ → σ → σ → Prop}
    {first last : Pool ι κ ρ σ ε α} (reach : Reaches permit first last)
    (each : ∀ i, Guarantees (guar i) (first.requests i)) (i : ι) :
    Guarantees (guar i) (last.requests i) := by
  induction reach generalizing i with
  | refl => exact each i
  | @step pool who move event rest state before advanced ok ih =>
    by_cases mine : i = who
    · subst mine
      rw [Pool.moved_self]
      exact ((ih i).advance advanced).1
    · rw [Pool.moved_other pool event rest state mine]
      exact ih i

theorem Reaches.guaranteed {permit : PoolPermit ι κ ρ σ ε α} {guar : ι → κ → σ → σ → Prop}
    (Inv : σ → List (ι × Event κ ρ ε) → Prop)
    (unperformed : ∀ s h who ev, Inv s h → (∀ l, ev ≠ .performed l) → Inv s (h ++ [(who, ev)]))
    (performed : ∀ s s' h who l, Inv s h → guar who l s s' →
      Inv s' (h ++ [(who, .performed l)]))
    {first last : Pool ι κ ρ σ ε α} (reach : Reaches permit first last)
    (guarantees : ∀ i, Guarantees (guar i) (first.requests i))
    (holds : Inv first.state first.history) : Inv last.state last.history := by
  have preserved : ∀ pool who move event rest state,
      ((∀ i, Guarantees (guar i) (pool.requests i)) ∧ Inv pool.state pool.history) →
      advance move (pool.requests who) pool.state = some (event, rest, state) →
      permit pool who event (pool.moved who event rest state) →
      (∀ i, Guarantees (guar i) ((pool.moved who event rest state).requests i)) ∧
        Inv (pool.moved who event rest state).state (pool.moved who event rest state).history := by
    rintro pool who move event rest state ⟨own, inv⟩ step _
    refine ⟨fun i => ?_, ?_⟩
    · by_cases mine : i = who
      · subst mine
        rw [Pool.moved_self]
        exact ((own i).advance step).1
      · rw [Pool.moved_other pool event rest state mine]
        exact own i
    · rw [Pool.moved_state, Pool.moved_history]
      cases event with
      | performed l => exact performed _ _ _ _ _ inv ((own who).performed step)
      | answered | failed | died =>
        rw [advance_unchanged (by simp) step]
        exact unperformed _ _ _ _ inv (by simp)
  exact (reach.invariant preserved ⟨guarantees, holds⟩).2

/-- An executable schedule of permitted steps is an interleaving. -/
theorem reaches_of_run {permit : PoolPermit ι κ ρ σ ε α} {schedule : List (ι × Move ρ ε)}
    {first last : Pool ι κ ρ σ ε α} (ok : first.Permitted permit schedule)
    (ran : first.run schedule = some last) : Reaches permit first last := by
  induction schedule generalizing first with
  | nil =>
    cases ran
    exact .refl _
  | cons move schedule ih =>
    obtain ⟨who, move⟩ := move
    simp only [Pool.run, Pool.step] at ran
    simp only [Pool.Permitted] at ok
    cases h : advance move (first.requests who) first.state with
    | none => simp [h] at ran
    | some moved =>
      obtain ⟨event, rest, state⟩ := moved
      simp only [h] at ran ok
      exact Reaches.trans (.step (.refl _) h ok.1) (ih ok.2 ran)

/-- Steps without any restriction. -/
def anyStep : PoolPermit ι κ ρ σ ε α := fun _ _ _ _ => True

theorem permitted_anyStep (schedule : List (ι × Move ρ ε)) (pool : Pool ι κ ρ σ ε α) :
    pool.Permitted anyStep schedule := by
  induction schedule generalizing pool with
  | nil => trivial
  | cons move schedule ih =>
    obtain ⟨who, move⟩ := move
    simp only [Pool.Permitted]
    split
    · trivial
    · exact ⟨trivial, ih _⟩

end RequestPool
