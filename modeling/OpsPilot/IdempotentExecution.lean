import OpsPilot.Models

/-! Remediation behind an idempotency key. The lookup, the executor, the insert and the commit
are four steps of a session of their own. -/

namespace OpsPilot.IdempotentExecution
open JsonText InvestigationState Models DurableProgram

def idempotencyKey (py : Platform) (call : RemediationCall) : String :=
  py.sha256 (py.dumps (Json.sortKeys (.obj
    [("thread_id", .str call.threadId), ("action_type", .str call.actionType),
     ("target", .str call.target), ("params", call.params)])))

def commitExecution (row : RemediationExecution) : Backend Unit :=
  .act (.commit row)
    (fun db => match db.remediation? row.idempotencyKey with
      | some _ => db
      | none => { db with remediationExecutions := db.remediationExecutions ++ [row] })
    (fun db => match db.remediation? row.idempotencyKey with
      | some _ => .raise .integrity
      | none => .ret ())
    .raise

/-- Returns `(result, deduplicated)`. -/
def executeIdempotently (py : Platform) (call : RemediationCall) (executor : Json) :
    Backend (Json × Bool) :=
  let key := idempotencyKey py call
  (read (.lookup key) (·.remediation? key)).bind fun
    | some existing => .ret (existing.result, true)
    | none =>
      (read (.executor key call) fun _ => executor).bind fun result =>
        (mark (.insert key)).bind fun _ =>
          (commitExecution ⟨key, call, result⟩).bind fun _ => .ret (result, false)

def ofExecution : Label → Prop
  | .lookup _ => True
  | .executor _ _ => True
  | .insert _ => True
  | .commit _ => True
  | _ => False

theorem executeIdempotently_carries (py : Platform) (call : RemediationCall) (executor : Json) :
    Carries ofExecution (executeIdempotently py call executor) := by
  refine (Carries.perform trivial).bind ?_
  rintro (_ | existing)
  · refine (Carries.perform trivial).bind fun result => (Carries.perform trivial).bind fun _ => ?_
    refine Carries.bind ⟨trivial, fun s => ?_, fun _ => trivial⟩ fun _ => trivial
    dsimp only
    split <;> trivial
  · trivial

inductive ExecutionEnds (rely : Rely Database) (permit : Permit Label ChatOutcome Database Error)
    (key : String) (call : RemediationCall) (executor : Json) (s : Database) :
    Outcome Error (Json × Bool) → Database → List BackendEvent → Prop where
  | found {row t} (others : rely.holds s t) (found : t.remediation? key = some row) :
      ExecutionEnds rely permit key call executor s (.returned (row.result, true)) t
        [.performed (.lookup key)]
  | executed {a t} (others : rely.holds s a) (missing : a.remediation? key = none)
      (later : rely.holds a t) (still : t.remediation? key = none) :
      ExecutionEnds rely permit key call executor s (.returned (executor, false))
        { t with remediationExecutions := t.remediationExecutions ++ [⟨key, call, executor⟩] }
        [.performed (.lookup key), .performed (.executor key call), .performed (.insert key),
          .performed (.commit ⟨key, call, executor⟩)]
  | refused {a row t} (others : rely.holds s a) (missing : a.remediation? key = none)
      (later : rely.holds a t) (taken : t.remediation? key = some row)
      (ok : permit (.performed (.commit ⟨key, call, executor⟩)) t) :
      ExecutionEnds rely permit key call executor s (.raised .integrity) t
        [.performed (.lookup key), .performed (.executor key call), .performed (.insert key),
          .performed (.commit ⟨key, call, executor⟩)]
  | stopped {o t g} (others : rely.holds s t) (fault : Faulted permit o)
      (labels : ∀ ev ∈ g, ofExecution ev.label) :
      ExecutionEnds rely permit key call executor s o t g

theorem ExecutionEnds.labels {rely : Rely Database}
    {permit : Permit Label ChatOutcome Database Error} {key : String} {call : RemediationCall}
    {executor : Json} {s t : Database} {o : Outcome Error (Json × Bool)} {g : List BackendEvent}
    (ends : ExecutionEnds rely permit key call executor s o t g) :
    ∀ ev ∈ g, ofExecution ev.label := by
  cases ends with
  | found => simp [Event.label, ofExecution]
  | executed => simp [Event.label, ofExecution]
  | refused => simp [Event.label, ofExecution]
  | stopped _ _ labels => exact labels

theorem executeIdempotently_ends {rely : Rely Database}
    {permit : Permit Label ChatOutcome Database Error} {py : Platform} {call : RemediationCall}
    {executor : Json} {s t : Database} {o : Outcome Error (Json × Bool)} {g : List BackendEvent}
    (run : Runs rely permit (executeIdempotently py call executor) s o t g) :
    ExecutionEnds rely permit (idempotencyKey py call) call executor s o t g := by
  obtain ⟨existing, a, g₁, g₂, looked, rest, rfl⟩ | ⟨_, stop, stopped⟩ := run.of_bind
  swap
  · obtain ⟨a, first, ⟨_, rfl, _⟩ | ⟨e, ok, rfl, rfl, rfl⟩ | ⟨ok, rfl, rfl, rfl⟩⟩ :=
      stopped.of_perform <;> cases stop
    · exact .stopped first ⟨_, _, ok⟩ (by simp [Event.label, ofExecution])
    · exact .stopped first ⟨_, _, ok⟩ (by simp [Event.label, ofExecution])
  obtain ⟨a, first, ⟨_, same, rfl, rfl⟩ | ⟨e, _, same, _⟩ | ⟨_, same, _⟩⟩ := looked.of_perform <;>
    cases same
  cases existing : a.remediation? (idempotencyKey py call) with
  | some row =>
    rw [existing] at rest
    obtain ⟨rfl, rfl, rfl⟩ := rest.of_ret
    exact .found first existing
  | none =>
    rw [existing] at rest
    obtain ⟨b, second, ⟨_, _, run₂, rfl⟩ | ⟨e, _, ok, run₂, rfl⟩ | ⟨ok, rfl, rfl, rfl⟩⟩ :=
      rest.of_act
    · obtain ⟨c, third, ⟨_, _, run₃, rfl⟩ | ⟨e, _, ok, run₃, rfl⟩ | ⟨ok, rfl, rfl, rfl⟩⟩ :=
        run₂.of_act
      · obtain ⟨d, fourth, ⟨_, ok, run₄, rfl⟩ | ⟨e, _, ok, run₄, rfl⟩ | ⟨ok, rfl, rfl, rfl⟩⟩ :=
          run₃.of_act
        · have later := rely.trans second (rely.trans third fourth)
          cases taken : d.remediation? (idempotencyKey py call) with
          | none =>
            simp only [taken] at run₄
            obtain ⟨rfl, rfl, rfl⟩ := run₄.of_ret
            exact .executed first existing later taken
          | some row =>
            simp only [taken] at run₄
            obtain ⟨rfl, rfl, rfl⟩ := run₄.of_raise
            exact .refused first existing later taken ok
        · obtain ⟨rfl, rfl, rfl⟩ := run₄.of_raise
          exact .stopped (rely.trans first (rely.trans second (rely.trans third fourth)))
            ⟨_, _, ok⟩ (by simp [Event.label, ofExecution])
        · exact .stopped (rely.trans first (rely.trans second (rely.trans third fourth)))
            ⟨_, _, ok⟩ (by simp [Event.label, ofExecution])
      · obtain ⟨rfl, rfl, rfl⟩ := run₃.of_raise
        exact .stopped (rely.trans first (rely.trans second third)) ⟨_, _, ok⟩
          (by simp [Event.label, ofExecution])
      · exact .stopped (rely.trans first (rely.trans second third)) ⟨_, _, ok⟩
          (by simp [Event.label, ofExecution])
    · obtain ⟨rfl, rfl, rfl⟩ := run₂.of_raise
      exact .stopped (rely.trans first second) ⟨_, _, ok⟩ (by simp [Event.label, ofExecution])
    · exact .stopped (rely.trans first second) ⟨_, _, ok⟩ (by simp [Event.label, ofExecution])

end OpsPilot.IdempotentExecution
