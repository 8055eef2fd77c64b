import OpsPilot.DurableProgram

/-! A checkpointed state graph: one node per super-step, a checkpoint saved after each, a pause
where a node interrupts, and re-entry of the paused node from its top with an answer. -/

namespace StateGraph
open DurableProgram

/-- `next = none` when the graph has reached its end. -/
structure Checkpoint (Node State : Type) where
  values : State
  next : Option Node

inductive Visit (State Ask : Type) where
  | update (values : State)
  | interrupt (ask : Ask)

structure Graph (κ ρ σ ε Node State Ask Answer : Type) where
  entry : Node
  visit : Node → State → Option Answer → Program κ ρ σ ε (Visit State Ask)
  route : Node → State → Option Node
  save : Checkpoint Node State → Program κ ρ σ ε Unit
  pause : Ask → Program κ ρ σ ε Unit
  recursionError : ε

variable {κ ρ σ ε Node State Ask Answer : Type}
  (graph : Graph κ ρ σ ε Node State Ask Answer)

namespace Graph

/-- What a super-step leads to. -/
inductive Step (Node State Ask : Type) where
  | moved (next : Checkpoint Node State)
  | paused (ask : Ask)

def superstep (node : Node) (values : State) (answer : Option Answer) :
    Program κ ρ σ ε (Step Node State Ask) :=
  (graph.visit node values answer).bind fun
    | .interrupt ask => (graph.pause ask).bind fun _ => .ret (.paused ask)
    | .update values =>
      (graph.save ⟨values, graph.route node values⟩).bind fun _ =>
        .ret (.moved ⟨values, graph.route node values⟩)

/-- At most `limit` super-steps; only the first node visited can receive the answer. -/
def supersteps : ℕ → Checkpoint Node State → Option Answer →
    Program κ ρ σ ε (State × Option Ask)
  | _, ⟨values, none⟩, _ => .ret (values, none)
  | 0, ⟨_, some _⟩, _ => .raise graph.recursionError
  | limit + 1, ⟨values, some node⟩, answer =>
    (graph.superstep node values answer).bind fun
      | .paused ask => .ret (values, some ask)
      | .moved next => supersteps limit next none

def invoke (limit : ℕ) (input : State) : Program κ ρ σ ε (State × Option Ask) :=
  (graph.save ⟨input, some graph.entry⟩).bind fun _ =>
    graph.supersteps limit ⟨input, some graph.entry⟩ none

/-- Re-enters the node the checkpoint stopped at; a finished thread only returns its values. The
engine keeps the answer of a resume that raised behind the interrupt and replays it to the next
one, whatever that one brings: results that depend on the answer of a later resume exclude this. -/
def resume (limit : ℕ) (checkpoint : Checkpoint Node State) (answer : Answer) :
    Program κ ρ σ ε (State × Option Ask) :=
  graph.supersteps limit checkpoint (some answer)

/-- A run of at most `limit` super-steps, one super-step after the other. -/
inductive Walk (rely : Rely σ) (permit : Permit κ ρ σ ε) :
    ℕ → Checkpoint Node State → Option Answer → σ →
    Outcome ε (State × Option Ask) → σ → List (Event κ ρ ε) → Prop where
  | finished (limit values answer s) :
      Walk rely permit limit ⟨values, none⟩ answer s (.returned (values, none)) s []
  | exhausted (values node answer s) :
      Walk rely permit 0 ⟨values, some node⟩ answer s (.raised graph.recursionError) s []
  | paused {limit values node answer s ask t g}
      (last : Runs rely permit (graph.superstep node values answer) s
        (.returned (.paused ask)) t g) :
      Walk rely permit (limit + 1) ⟨values, some node⟩ answer s
        (.returned (values, some ask)) t g
  | stopped {limit values node answer s o' o t g} (stop : Stopped o' o)
      (last : Runs rely permit (graph.superstep node values answer) s o' t g) :
      Walk rely permit (limit + 1) ⟨values, some node⟩ answer s o t g
  | moved {limit values node answer s next t g o u g'}
      (first : Runs rely permit (graph.superstep node values answer) s
        (.returned (.moved next)) t g)
      (rest : Walk rely permit limit next none t o u g') :
      Walk rely permit (limit + 1) ⟨values, some node⟩ answer s o u (g ++ g')

variable {graph} {rely : Rely σ} {permit : Permit κ ρ σ ε}

theorem supersteps_walk {limit : ℕ} {checkpoint : Checkpoint Node State} {answer : Option Answer}
    {s u : σ} {o : Outcome ε (State × Option Ask)} {g : List (Event κ ρ ε)}
    (run : Runs rely permit (graph.supersteps limit checkpoint answer) s o u g) :
    graph.Walk rely permit limit checkpoint answer s o u g := by
  induction limit generalizing checkpoint answer s g with
  | zero =>
    obtain ⟨values, next⟩ := checkpoint
    cases next with
    | none =>
      obtain ⟨rfl, rfl, rfl⟩ := run.of_ret
      exact .finished _ _ _ _
    | some node =>
      obtain ⟨rfl, rfl, rfl⟩ := run.of_raise
      exact .exhausted _ _ _ _
  | succ limit ih =>
    obtain ⟨values, next⟩ := checkpoint
    cases next with
    | none =>
      obtain ⟨rfl, rfl, rfl⟩ := run.of_ret
      exact .finished _ _ _ _
    | some node =>
      obtain ⟨step, t, g₁, g₂, first, rest, rfl⟩ | ⟨o', stop, last⟩ := run.of_bind
      · cases step with
        | moved next => exact .moved first (ih rest)
        | paused ask =>
          obtain ⟨rfl, rfl, rfl⟩ := rest.of_ret
          rw [List.append_nil]
          exact .paused first
      · exact .stopped stop last

theorem supersteps_guarantees_given {guar : κ → σ → σ → Prop}
    (visits : ∀ node values, Guarantees guar (graph.visit node values none))
    (saves : ∀ checkpoint, Guarantees guar (graph.save checkpoint))
    (pauses : ∀ ask, Guarantees guar (graph.pause ask)) (limit : ℕ)
    (checkpoint : Checkpoint Node State) (answer : Option Answer)
    (given : ∀ node values, Guarantees guar (graph.visit node values answer)) :
    Guarantees guar (graph.supersteps limit checkpoint answer) := by
  induction limit generalizing checkpoint answer with
  | zero =>
    obtain ⟨values, next⟩ := checkpoint
    cases next <;> trivial
  | succ limit ih =>
    obtain ⟨values, next⟩ := checkpoint
    cases next with
    | none => trivial
    | some node =>
      refine Guarantees.bind ?_ ?_
      · refine (given node values).bind fun visit => ?_
        cases visit with
        | interrupt ask => exact (pauses ask).bind fun _ => trivial
        | update values => exact (saves _).bind fun _ => trivial
      · rintro (next | ask)
        · exact ih _ _ visits
        · trivial

theorem supersteps_guarantees {guar : κ → σ → σ → Prop}
    (visits : ∀ node values answer, Guarantees guar (graph.visit node values answer))
    (saves : ∀ checkpoint, Guarantees guar (graph.save checkpoint))
    (pauses : ∀ ask, Guarantees guar (graph.pause ask)) (limit : ℕ)
    (checkpoint : Checkpoint Node State) (answer : Option Answer) :
    Guarantees guar (graph.supersteps limit checkpoint answer) :=
  supersteps_guarantees_given (fun node values => visits node values none) saves pauses limit
    checkpoint answer fun node values => visits node values answer

theorem supersteps_raisesOnly {E : ε → Prop} (recursion : E graph.recursionError)
    (visits : ∀ node values answer, RaisesOnly E (graph.visit node values answer))
    (saves : ∀ checkpoint, RaisesOnly E (graph.save checkpoint))
    (pauses : ∀ ask, RaisesOnly E (graph.pause ask)) (limit : ℕ)
    (checkpoint : Checkpoint Node State) (answer : Option Answer) :
    RaisesOnly E (graph.supersteps limit checkpoint answer) := by
  induction limit generalizing checkpoint answer with
  | zero =>
    obtain ⟨values, next⟩ := checkpoint
    cases next with
    | none => trivial
    | some node => exact recursion
  | succ limit ih =>
    obtain ⟨values, next⟩ := checkpoint
    cases next with
    | none => trivial
    | some node =>
      refine RaisesOnly.bind ?_ ?_
      · refine (visits node values answer).bind fun visit => ?_
        cases visit with
        | interrupt ask => exact (pauses ask).bind fun _ => trivial
        | update values => exact (saves _).bind fun _ => trivial
      · rintro (next | ask)
        · exact ih _ _
        · trivial

def Closed (graph : Graph κ ρ σ ε Node State Ask Answer) (within : Node → Prop) : Prop :=
  ∀ node values next, within node → graph.route node values = some next → within next

theorem supersteps_succ (graph : Graph κ ρ σ ε Node State Ask Answer) (limit : ℕ) (node : Node)
    (values : State) (answer : Option Answer) :
    graph.supersteps (limit + 1) ⟨values, some node⟩ answer =
      (graph.visit node values answer).bind fun
        | .interrupt ask => (graph.pause ask).bind fun _ => .ret (values, some ask)
        | .update values => (graph.save ⟨values, graph.route node values⟩).bind fun _ =>
            graph.supersteps limit ⟨values, graph.route node values⟩ none := by
  rw [supersteps, superstep, Program.bind_assoc]
  congr 1
  funext visit
  cases visit <;> rw [Program.bind_assoc] <;> rfl

theorem supersteps_carries_within {allowed : κ → Prop} {within : Node → Prop}
    (closed : graph.Closed within)
    (visits : ∀ node values answer, within node →
      Carries allowed (graph.visit node values answer))
    (saves : ∀ checkpoint, Carries allowed (graph.save checkpoint))
    (pauses : ∀ ask, Carries allowed (graph.pause ask)) (limit : ℕ)
    (checkpoint : Checkpoint Node State) (answer : Option Answer)
    (starts : ∀ node, checkpoint.next = some node → within node) :
    Carries allowed (graph.supersteps limit checkpoint answer) := by
  induction limit generalizing checkpoint answer with
  | zero =>
    obtain ⟨values, next⟩ := checkpoint
    cases next <;> trivial
  | succ limit ih =>
    obtain ⟨values, next⟩ := checkpoint
    cases next with
    | none => trivial
    | some node =>
      have inside := starts node rfl
      rw [supersteps_succ]
      refine (visits node values answer inside).bind fun visit => ?_
      cases visit with
      | interrupt ask => exact (pauses ask).bind fun _ => trivial
      | update values =>
        exact (saves _).bind fun _ => ih _ _ fun next routed => closed _ _ _ inside routed

theorem supersteps_carries_given {allowed : κ → Prop} {within : Node → Prop}
    (closed : graph.Closed within)
    (visits : ∀ node values answer, within node →
      Carries allowed (graph.visit node values answer))
    (saves : ∀ checkpoint, Carries allowed (graph.save checkpoint))
    (pauses : ∀ ask, Carries allowed (graph.pause ask)) (limit : ℕ) {node : Node} {values : State}
    {answer : Option Answer} (given : Carries allowed (graph.visit node values answer))
    (leads : ∀ values next, graph.route node values = some next → within next) :
    Carries allowed (graph.supersteps limit ⟨values, some node⟩ answer) := by
  cases limit with
  | zero => trivial
  | succ limit =>
    rw [supersteps_succ]
    refine given.bind fun visit => ?_
    cases visit with
    | interrupt ask => exact (pauses ask).bind fun _ => trivial
    | update values =>
      exact (saves _).bind fun _ =>
        supersteps_carries_within closed visits saves pauses limit _ _ (leads values)

theorem supersteps_carries {allowed : κ → Prop}
    (visits : ∀ node values answer, Carries allowed (graph.visit node values answer))
    (saves : ∀ checkpoint, Carries allowed (graph.save checkpoint))
    (pauses : ∀ ask, Carries allowed (graph.pause ask)) (limit : ℕ)
    (checkpoint : Checkpoint Node State) (answer : Option Answer) :
    Carries allowed (graph.supersteps limit checkpoint answer) :=
  have everywhere : graph.Closed fun _ => True := fun _ _ _ _ _ => trivial
  supersteps_carries_within everywhere (fun node values answer _ => visits node values answer)
    saves pauses limit checkpoint answer fun _ _ => trivial

end Graph

end StateGraph
