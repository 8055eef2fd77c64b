import OpsPilot.Investigation

/-! What one super-step of the investigation graph does: how each node's visit ends, and what
has been saved when it does. -/

namespace OpsPilot.Superstep
open JsonText InvestigationState Models GatherContext GraphNodes Investigation DurableProgram
open StateGraph

variable {rely : Rely Database} {permit : Permit Label ChatOutcome Database Error}
  {app : App} {deps : NodeDeps}

/-- How a node may end, and in what state. -/
inductive NodeEnds (rely : Rely Database) (permit : Permit Label ChatOutcome Database Error)
    (app : App) (deps : NodeDeps) (values : GraphState) (answer : Option Json) (s : Database) :
    Node → Outcome Error (Visit GraphUpdate Json) → Database → List BackendEvent → Prop where
  | gathered {update t g} (others : rely.holds s t)
      (ends : VisitEnds permit app deps values (.returned update) g) :
      NodeEnds rely permit app deps values answer s .gatherContext
        (.returned (.update update)) t g
  | faulted {o t g} (others : rely.holds s t) (trace : RoundTrace g) (fault : Faulted permit o) :
      NodeEnds rely permit app deps values answer s .gatherContext o t g
  | hypothesized : NodeEnds rely permit app deps values answer s .hypothesize
      (.returned (.update (hypothesize app.py values))) s []
  | classified : NodeEnds rely permit app deps values answer s .classifyRisk
      (.returned (.update (classifyRisk values))) s []
  | gated {o t g} (ends : PolicyEnds rely permit app deps values answer s o t g) :
      NodeEnds rely permit app deps values answer s .evaluatePolicy o t g
  | decided : NodeEnds rely permit app deps values answer s .decide
      (.returned (.update (decide deps values))) s []

theorem runNode_ends {node : Node} {values : GraphState} {answer : Option Json}
    {s t : Database} {o : Outcome Error (Visit GraphUpdate Json)} {g : List BackendEvent}
    (run : Runs rely permit (runNode app deps node values answer) s o t g) :
    NodeEnds rely permit app deps values answer s node o t g := by
  cases node with
  | gatherContext =>
    obtain ⟨update, u, g₁, g₂, gathered, rest, rfl⟩ | ⟨o', stop, stopped⟩ := run.of_bind
    · obtain ⟨rfl, rfl, rfl⟩ := rest.of_ret
      obtain ⟨others, ends⟩ := gatherContext_ends gathered
      rw [List.append_nil]
      exact .gathered others ends
    · obtain ⟨others, ends⟩ := gatherContext_ends stopped
      cases stop with
      | raised e => exact .faulted others ends.1 ends.2
      | died => exact .faulted others ends.1 ends.2
  | hypothesize =>
    obtain ⟨rfl, rfl, rfl⟩ := run.of_ret
    exact .hypothesized
  | classifyRisk =>
    obtain ⟨rfl, rfl, rfl⟩ := run.of_ret
    exact .classified
  | evaluatePolicy => exact .gated (evaluatePolicy_ends run)
  | decide =>
    obtain ⟨rfl, rfl, rfl⟩ := run.of_ret
    exact .decided

/-- The checkpoint that a node's update leads to. -/
def after (deps : NodeDeps) (node : Node) (values : GraphState) (update : GraphUpdate) : Saved :=
  ⟨values.merge update, route deps node (values.merge update)⟩

/-- How a super-step may end. An exception or a death comes while the node is entered, inside
it, or on leaving it, when nothing has been saved yet. -/
inductive SuperstepEnds (rely : Rely Database)
    (permit : Permit Label ChatOutcome Database Error) (app : App) (deps : NodeDeps) (node : Node)
    (values : GraphState) (answer : Option Json) (s : Database) :
    Outcome Error (Graph.Step Node GraphState Json) → Database → List BackendEvent → Prop where
  | moved {s₁ update s₂ t g} (entering : rely.holds s s₁)
      (ends : NodeEnds rely permit app deps values answer s₁ node (.returned (.update update)) s₂ g)
      (leaving : rely.holds s₂ t) :
      SuperstepEnds rely permit app deps node values answer s
        (.returned (.moved (after deps node values update)))
        (t.saveCheckpoint deps.threadId (after deps node values update))
        (.performed (.visit deps.threadId node values) ::
          (g ++ [.performed (.saveCheckpoint deps.threadId)]))
  | paused {s₁ payload s₂ t g} (entering : rely.holds s s₁)
      (ends : NodeEnds rely permit app deps values answer s₁ node
        (.returned (.interrupt payload)) s₂ g) (leaving : rely.holds s₂ t) :
      SuperstepEnds rely permit app deps node values answer s (.returned (.paused payload)) t
        (.performed (.visit deps.threadId node values) ::
          (g ++ [.performed (.interrupt deps.threadId payload)]))
  | entering {o t ev} (others : rely.holds s t) (fault : Faulted permit o)
      (unperformed : ∀ l, ev ≠ .performed l) :
      SuperstepEnds rely permit app deps node values answer s o t [ev]
  | inside {s₁ o' o t g} (entering : rely.holds s s₁) (stop : Stopped o' o)
      (ends : NodeEnds rely permit app deps values answer s₁ node o' t g) :
      SuperstepEnds rely permit app deps node values answer s o t
        (.performed (.visit deps.threadId node values) :: g)
  | leaving {s₁ visit s₂ o t g ev} (entering : rely.holds s s₁)
      (ends : NodeEnds rely permit app deps values answer s₁ node (.returned visit) s₂ g)
      (leaving : rely.holds s₂ t) (fault : Faulted permit o)
      (unperformed : ∀ l, ev ≠ .performed l) :
      SuperstepEnds rely permit app deps node values answer s o t
        (.performed (.visit deps.threadId node values) :: (g ++ [ev]))

theorem mark_ends {l : Label} {s t : Database} {o : Outcome Error Unit} {g : List BackendEvent}
    (run : Runs rely permit (mark l) s o t g) :
    rely.holds s t ∧ ((o = .returned () ∧ g = [.performed l]) ∨
      (Faulted permit o ∧ ∃ ev, (∀ l, ev ≠ .performed l) ∧ g = [ev])) := by
  obtain ⟨u, others, ⟨ok, rfl, rfl, rfl⟩ | ⟨e, ok, rfl, rfl, rfl⟩ | ⟨ok, rfl, rfl, rfl⟩⟩ :=
    run.of_perform
  · exact ⟨others, .inl ⟨rfl, rfl⟩⟩
  · exact ⟨others, .inr ⟨⟨_, _, ok⟩, _, Event.failed_ne_performed _ _, rfl⟩⟩
  · exact ⟨others, .inr ⟨⟨_, _, ok⟩, _, Event.died_ne_performed _, rfl⟩⟩

theorem read_ends {α : Type} {l : Label} {query : Database → α} {s t : Database}
    {o : Outcome Error α} {g : List BackendEvent} (run : Runs rely permit (read l query) s o t g) :
    rely.holds s t ∧ ((o = .returned (query t) ∧ g = [.performed l]) ∨
      (Faulted permit o ∧ ∃ ev, (∀ l, ev ≠ .performed l) ∧ g = [ev])) := by
  obtain ⟨u, others, ⟨ok, rfl, rfl, rfl⟩ | ⟨e, ok, rfl, rfl, rfl⟩ | ⟨ok, rfl, rfl, rfl⟩⟩ :=
    run.of_perform
  · exact ⟨others, .inl ⟨rfl, rfl⟩⟩
  · exact ⟨others, .inr ⟨⟨_, _, ok⟩, _, Event.failed_ne_performed _ _, rfl⟩⟩
  · exact ⟨others, .inr ⟨⟨_, _, ok⟩, _, Event.died_ne_performed _, rfl⟩⟩

theorem write_ends {l : Label} {update : Database → Database} {s t : Database}
    {o : Outcome Error Unit} {g : List BackendEvent}
    (run : Runs rely permit (write l update) s o t g) :
    ∃ u, rely.holds s u ∧ ((o = .returned () ∧ t = update u ∧ g = [.performed l] ∧
        permit (.performed l) u) ∨
      (Faulted permit o ∧ t = u ∧ ∃ ev, (∀ l, ev ≠ .performed l) ∧ g = [ev])) := by
  obtain ⟨u, others, ⟨ok, rfl, rfl, rfl⟩ | ⟨e, ok, rfl, rfl, rfl⟩ | ⟨ok, rfl, rfl, rfl⟩⟩ :=
    run.of_perform
  · exact ⟨u, others, .inl ⟨rfl, rfl, rfl, ok⟩⟩
  · exact ⟨_, others, .inr ⟨⟨_, _, ok⟩, rfl, _, Event.failed_ne_performed _ _, rfl⟩⟩
  · exact ⟨_, others, .inr ⟨⟨_, _, ok⟩, rfl, _, Event.died_ne_performed _, rfl⟩⟩

theorem superstep_ends {node : Node} {values : GraphState} {answer : Option Json}
    {s t : Database} {o : Outcome Error (Graph.Step Node GraphState Json)}
    {g : List BackendEvent}
    (run : Runs rely permit ((buildGraph app deps).superstep node values answer) s o t g) :
    SuperstepEnds rely permit app deps node values answer s o t g := by
  change Runs rely permit ((((mark (.visit deps.threadId node values)).bind fun _ =>
    (runNode app deps node values answer).bind _)).bind _) s o t g at run
  rw [Program.bind_assoc] at run
  obtain ⟨_, s₁, g₁, g₂, entered, rest, rfl⟩ | ⟨o', stop, stopped⟩ := run.of_bind
  swap
  · obtain ⟨others, ⟨rfl, _⟩ | ⟨fault, ev, unperformed, rfl⟩⟩ := mark_ends stopped
    · cases stop
    · exact .entering others (fault.stopped stop) unperformed
  obtain ⟨entering, ⟨_, rfl⟩ | ⟨fault, _⟩⟩ := mark_ends entered
  swap
  · exact fault.elim
  rw [Program.bind_assoc] at rest
  obtain ⟨visit, s₂, g₁, g₂, inside, rest, rfl⟩ | ⟨o', stop, stopped⟩ := rest.of_bind
  swap
  · exact .inside entering stop (runNode_ends stopped)
  have ends := runNode_ends inside
  cases visit with
  | update update =>
    change Runs rely permit ((write (.saveCheckpoint deps.threadId) _).bind _) s₂ o t g₂ at rest
    obtain ⟨_, u, g₃, g₄, saved, done, rfl⟩ | ⟨o', stop, stopped⟩ := rest.of_bind
    · obtain ⟨rfl, rfl, rfl⟩ := done.of_ret
      obtain ⟨t, leaving, ⟨_, rfl, rfl, _⟩ | ⟨fault, _⟩⟩ := write_ends saved
      · exact .moved entering ends leaving
      · exact fault.elim
    · obtain ⟨u, leaving, ⟨rfl, _⟩ | ⟨fault, rfl, ev, unperformed, rfl⟩⟩ := write_ends stopped
      · cases stop
      · exact .leaving entering ends leaving (fault.stopped stop) unperformed
  | interrupt payload =>
    change Runs rely permit ((mark (.interrupt deps.threadId payload)).bind _) s₂ o t g₂ at rest
    obtain ⟨_, u, g₃, g₄, interrupted, done, rfl⟩ | ⟨o', stop, stopped⟩ := rest.of_bind
    · obtain ⟨rfl, rfl, rfl⟩ := done.of_ret
      obtain ⟨leaving, ⟨_, rfl⟩ | ⟨fault, _⟩⟩ := mark_ends interrupted
      · exact .paused entering ends leaving
      · exact fault.elim
    · obtain ⟨leaving, ⟨rfl, _⟩ | ⟨fault, ev, unperformed, rfl⟩⟩ := mark_ends stopped
      · cases stop
      · exact .leaving entering ends leaving (fault.stopped stop) unperformed

end OpsPilot.Superstep
