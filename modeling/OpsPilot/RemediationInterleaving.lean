import OpsPilot.IdempotentExecution
import OpsPilot.RequestPool
import Mathlib.Data.Fintype.Basic

/-! Any number of `execute_idempotently` calls, interleaved step by step, each of which may
fail or die at any of its steps. -/

namespace OpsPilot.RemediationInterleaving
open JsonText InvestigationState Models IdempotentExecution DurableProgram RequestPool

inductive Stage where
  | looking
  | missed
  | executed
  | inserted
  | returned (result : Json) (deduplicated : Bool)
  | failed (error : Error)
  | dead

namespace Stage

def inWindow : Stage → Prop
  | .missed => True
  | .executed => True
  | .inserted => True
  | _ => False

def quiet : Stage → Prop
  | .looking => True
  | .failed _ => True
  | .dead => True
  | _ => False

def program (py : Platform) (call : RemediationCall) (executor : Json) :
    Stage → Backend (Json × Bool)
  | .looking => executeIdempotently py call executor
  | .missed =>
    (read (.executor (idempotencyKey py call) call) fun _ => executor).bind fun result =>
      (mark (.insert (idempotencyKey py call))).bind fun _ =>
        (commitExecution ⟨idempotencyKey py call, call, result⟩).bind fun _ => .ret (result, false)
  | .executed =>
    (mark (.insert (idempotencyKey py call))).bind fun _ =>
      (commitExecution ⟨idempotencyKey py call, call, executor⟩).bind fun _ => .ret (executor, false)
  | .inserted =>
    (commitExecution ⟨idempotencyKey py call, call, executor⟩).bind fun _ => .ret (executor, false)
  | .returned result deduplicated => .ret (result, deduplicated)
  | .failed error => .raise error
  | .dead => .dead

def label? (key : String) (call : RemediationCall) (executor : Json) : Stage → Option Label
  | .looking => some (.lookup key)
  | .missed => some (.executor key call)
  | .executed => some (.insert key)
  | .inserted => some (.commit ⟨key, call, executor⟩)
  | _ => none

theorem pending_program (py : Platform) (call : RemediationCall) (executor : Json)
    (stage : Stage) :
    (stage.program py call executor).pending =
      stage.label? (idempotencyKey py call) call executor := by
  cases stage <;> rfl

end Stage

def withExecution (db : Database) (row : RemediationExecution) : Database :=
  { db with remediationExecutions := db.remediationExecutions ++ [row] }

inductive CallStep (key : String) (call : RemediationCall) (executor : Json) (db : Database) :
    Stage → BackendEvent → Stage → Database → Prop where
  | found {row} (present : db.remediation? key = some row) :
      CallStep key call executor db .looking (.performed (.lookup key))
        (.returned row.result true) db
  | absent (missing : db.remediation? key = none) :
      CallStep key call executor db .looking (.performed (.lookup key)) .missed db
  | execute : CallStep key call executor db .missed (.performed (.executor key call)) .executed db
  | insert : CallStep key call executor db .executed (.performed (.insert key)) .inserted db
  | commit (missing : db.remediation? key = none) :
      CallStep key call executor db .inserted (.performed (.commit ⟨key, call, executor⟩))
        (.returned executor false) (withExecution db ⟨key, call, executor⟩)
  | refuse {row} (present : db.remediation? key = some row) :
      CallStep key call executor db .inserted (.performed (.commit ⟨key, call, executor⟩))
        (.failed .integrity) db
  | fail {stage label} (error) (next : stage.label? key call executor = some label) :
      CallStep key call executor db stage (.failed label error) (.failed error) db
  | die {stage label} (next : stage.label? key call executor = some label) :
      CallStep key call executor db stage (.died label) .dead db

theorem advance_program {py : Platform} {call : RemediationCall} {executor : Json} {stage : Stage}
    {m : Move ChatOutcome Error} {db db' : Database} {ev : BackendEvent}
    {p : Backend (Json × Bool)}
    (step : advance m (stage.program py call executor) db = some (ev, p, db')) :
    ∃ stage', p = stage'.program py call executor ∧
      CallStep (idempotencyKey py call) call executor db stage ev stage' db' := by
  cases stage with
  | looking =>
    obtain ⟨rfl, rfl, rfl⟩ | ⟨e, rfl, rfl, rfl⟩ | ⟨rfl, rfl, rfl⟩ := advance_act step
    · cases row : db'.remediation? (idempotencyKey py call) with
      | none => exact ⟨.missed, by simp only [Program.ret_bind, row]; rfl, .absent row⟩
      | some existing =>
        exact ⟨.returned existing.result true, by simp only [Program.ret_bind, row]; rfl, .found row⟩
    · exact ⟨.failed e, rfl, .fail e rfl⟩
    · exact ⟨.dead, rfl, .die rfl⟩
  | missed =>
    obtain ⟨rfl, rfl, rfl⟩ | ⟨e, rfl, rfl, rfl⟩ | ⟨rfl, rfl, rfl⟩ := advance_act step
    · exact ⟨.executed, rfl, .execute⟩
    · exact ⟨.failed e, rfl, .fail e rfl⟩
    · exact ⟨.dead, rfl, .die rfl⟩
  | executed =>
    obtain ⟨rfl, rfl, rfl⟩ | ⟨e, rfl, rfl, rfl⟩ | ⟨rfl, rfl, rfl⟩ := advance_act step
    · exact ⟨.inserted, rfl, .insert⟩
    · exact ⟨.failed e, rfl, .fail e rfl⟩
    · exact ⟨.dead, rfl, .die rfl⟩
  | inserted =>
    obtain ⟨rfl, rfl, rfl⟩ | ⟨e, rfl, rfl, rfl⟩ | ⟨rfl, rfl, rfl⟩ := advance_act step
    · cases row : db.remediation? (idempotencyKey py call) with
      | none =>
        simp only [row]
        exact ⟨.returned executor false, rfl, .commit row⟩
      | some existing =>
        simp only [row]
        exact ⟨.failed .integrity, rfl, .refuse row⟩
    · exact ⟨.failed e, rfl, .fail e rfl⟩
    · exact ⟨.dead, rfl, .die rfl⟩
  | returned result deduplicated => cases m <;> simp [Stage.program, advance] at step
  | failed error => cases m <;> simp [Stage.program, advance] at step
  | dead => cases m <;> simp [Stage.program, advance] at step

variable {ι : Type} [DecidableEq ι]

abbrev Calls (ι : Type) := Pool ι Label ChatOutcome Database Error (Json × Bool)

/-- Call `i` asks for the remediation `(calls i).1`; its executor would return `(calls i).2`. -/
def callsFrom (py : Platform) (db : Database) (calls : ι → RemediationCall × Json) : Calls ι :=
  .start db fun i => executeIdempotently py (calls i).1 (calls i).2

def isExecutor (key : String) : Label → Bool
  | .executor k _ => k == key
  | _ => false

/-- The calls that started their executor under the key, in order. -/
def started (key : String) (history : List (ι × BackendEvent)) : List ι :=
  (history.filter fun entry => isExecutor key entry.2.label).map Prod.fst

def isWindow (key : String) : Label → Bool
  | .executor k _ => k == key
  | .insert k => k == key
  | .commit row => row.idempotencyKey == key
  | _ => false

def betweenLookupAndCommit (key : String) (p : Backend (Json × Bool)) : Bool :=
  (p.pending.map (isWindow key)).getD false

def isLookup (key : String) : Label → Bool
  | .lookup k => k == key
  | _ => false

/-- A call looks the key up only while no other call is between its missed lookup and its
commit, and once an executor was started under the key only when its row is committed. -/
def serialLookups (key : String) : PoolPermit ι Label ChatOutcome Database Error (Json × Bool) :=
  fun pool who ev _ => isLookup key ev.label = true →
    (∀ other, other ≠ who → betweenLookupAndCommit key (pool.requests other) = false) ∧
    (started key pool.history ≠ [] → (pool.state.remediation? key).isSome)

instance [Fintype ι] (key : String) (pool : Calls ι) (who : ι) (ev : BackendEvent)
    (next : Calls ι) : Decidable (serialLookups key pool who ev next) :=
  inferInstanceAs (Decidable (_ → _ ∧ _))

/-- The call is over, or has not begun, or answered with the one recorded execution. -/
def Stage.answered (result : Json) (executed : Prop) : Stage → Prop
  | .returned r deduplicated => r = result ∧ (deduplicated = false ↔ executed)
  | stage => stage.quiet

theorem Stage.answered_of_quiet {stage : Stage} (quiet : stage.quiet) (result : Json)
    (executed : Prop) : stage.answered result executed := by
  cases stage <;> first | exact quiet | exact quiet.elim

inductive Phase (ι : Type) where
  | untouched
  | entered (who : ι)
  | running (who : ι)
  | lost (who : ι)
  | settled (who : ι)

section
variable (py : Platform) (calls : ι → RemediationCall × Json) (key : String)

def ofKey (i : ι) : Prop := idempotencyKey py (calls i).1 = key

/-- The row under the key, the executors started and the stage of every call with that key. -/
def Phase.Holds (row : Option RemediationExecution) (begun : List ι) (stage : ι → Stage) :
    Phase ι → Prop
  | .untouched => row = none ∧ begun = [] ∧ ∀ i, ofKey py calls key i → (stage i).quiet
  | .entered who => row = none ∧ begun = [] ∧ ofKey py calls key who ∧ stage who = .missed ∧
      ∀ i, i ≠ who → ofKey py calls key i → (stage i).quiet
  | .running who => row = none ∧ begun = [who] ∧ ofKey py calls key who ∧
      (stage who = .executed ∨ stage who = .inserted) ∧
      ∀ i, i ≠ who → ofKey py calls key i → (stage i).quiet
  | .lost who => row = none ∧ begun = [who] ∧ ∀ i, ofKey py calls key i → (stage i).quiet
  | .settled who => (∃ r, row = some r ∧ r.result = (calls who).2) ∧ begun = [who] ∧
      ofKey py calls key who ∧ stage who = .returned (calls who).2 false ∧
      ∀ i, ofKey py calls key i → (stage i).answered (calls who).2 (i = who)

/-- Every request is in some stage, and the key in some phase. -/
def Inv (pool : Calls ι) : Prop :=
  ∃ stage : ι → Stage, (∀ i, pool.requests i = (stage i).program py (calls i).1 (calls i).2) ∧
    ∃ phase : Phase ι, phase.Holds py calls key (pool.state.remediation? key)
      (started key pool.history) stage

variable {py calls key}

theorem Phase.Holds.other {phase : Phase ι} {row : Option RemediationExecution} {begun : List ι}
    {stage : ι → Stage} {who : ι} (holds : phase.Holds py calls key row begun stage)
    (different : ¬ ofKey py calls key who) (next : Stage) :
    phase.Holds py calls key row begun (Function.update stage who next) := by
  have same : ∀ i, ofKey py calls key i → Function.update stage who next i = stage i := by
    intro i mine
    have apart : i ≠ who := fun equal => different (equal ▸ mine)
    exact Function.update_of_ne apart _ _
  cases phase with
  | untouched => exact ⟨holds.1, holds.2.1, fun i mine => same i mine ▸ holds.2.2 i mine⟩
  | entered w =>
    obtain ⟨none, begun, mine, at', others⟩ := holds
    exact ⟨none, begun, mine, (same w mine).trans at',
      fun i ne mine => same i mine ▸ others i ne mine⟩
  | running w =>
    obtain ⟨none, begun, mine, at', others⟩ := holds
    exact ⟨none, begun, mine, (same w mine).symm ▸ at',
      fun i ne mine => same i mine ▸ others i ne mine⟩
  | lost w => exact ⟨holds.1, holds.2.1, fun i mine => same i mine ▸ holds.2.2 i mine⟩
  | settled w =>
    obtain ⟨row, begun, mine, at', others⟩ := holds
    exact ⟨row, begun, mine, (same w mine).trans at', fun i mine => same i mine ▸ others i mine⟩

theorem remediation?_withExecution (db : Database) (row : RemediationExecution) (key : String) :
    (withExecution db row).remediation? key =
      (db.remediation? key).or (if row.idempotencyKey = key then some row else none) := by
  by_cases same : row.idempotencyKey = key <;>
    simp [withExecution, Database.remediation?, List.find?_append, same]

/-- A call with another key leaves the key's row alone and starts no executor under it. -/
theorem CallStep.other {key' : String} {call : RemediationCall} {executor : Json}
    {db db' : Database} {stage stage' : Stage} {ev : BackendEvent}
    (step : CallStep key' call executor db stage ev stage' db') (different : key' ≠ key) :
    db'.remediation? key = db.remediation? key ∧ isExecutor key ev.label = false := by
  cases step with
  | found | absent | insert | refuse => exact ⟨rfl, rfl⟩
  | execute => exact ⟨rfl, by simp [Event.label, isExecutor, different]⟩
  | commit missing =>
    refine ⟨?_, rfl⟩
    rw [remediation?_withExecution, if_neg different, Option.or_none]
  | fail e next =>
    refine ⟨rfl, ?_⟩
    cases stage <;> simp [Stage.label?] at next <;> subst next <;>
      simp [Event.label, isExecutor, different]
  | die next =>
    refine ⟨rfl, ?_⟩
    cases stage <;> simp [Stage.label?] at next <;> subst next <;>
      simp [Event.label, isExecutor, different]

theorem betweenLookupAndCommit_program {py : Platform} {call : RemediationCall} {executor : Json}
    {stage : Stage} (mine : idempotencyKey py call = key) (window : stage.inWindow) :
    betweenLookupAndCommit key (stage.program py call executor) = true := by
  subst mine
  rw [betweenLookupAndCommit, Stage.pending_program]
  cases stage <;> simp [Stage.label?, isWindow, Stage.inWindow] at window ⊢

def newlyStarted (key : String) (who : ι) (ev : BackendEvent) : List ι :=
  if isExecutor key ev.label then [who] else []

theorem quiet_update {P : ι → Prop} {stage : ι → Stage} {who : ι} {next : Stage}
    (others : ∀ i, i ≠ who → P i → (stage i).quiet) (ended : next.quiet) :
    ∀ i, P i → (Function.update stage who next i).quiet := by
  intro i mine
  by_cases same : i = who
  · rw [same, Function.update_self]
    exact ended
  · rw [Function.update_of_ne same]
    exact others i same mine

theorem quiet_update_ne {P : ι → Prop} {stage : ι → Stage} {who w : ι} {next : Stage}
    (others : ∀ i, i ≠ w → P i → (stage i).quiet) (ended : next.quiet) :
    ∀ i, i ≠ w → P i → (Function.update stage who next i).quiet := by
  intro i ne mine
  by_cases same : i = who
  · rw [same, Function.update_self]
    exact ended
  · rw [Function.update_of_ne same]
    exact others i ne mine

theorem looking_of_quiet {call : RemediationCall} {executor : Json} {stage : Stage} {label : Label}
    (quiet : stage.quiet) (next : stage.label? key call executor = some label) :
    label = .lookup key := by
  cases stage with
  | looking => exact (Option.some.inj next).symm
  | failed | dead => cases next
  | missed | executed | inserted | returned => exact quiet.elim

/-- A call of this key fails or dies. -/
theorem Phase.Holds.ended {phase : Phase ι} {row : Option RemediationExecution} {begun : List ι}
    {stage : ι → Stage} {who : ι} {label : Label} {next : Stage} {ev : BackendEvent}
    (holds : phase.Holds py calls key row begun stage) (mine : ofKey py calls key who)
    (at' : (stage who).label? key (calls who).1 (calls who).2 = some label) (shown : ev.label = label)
    (ended : next.quiet) :
    ∃ phase' : Phase ι, phase'.Holds py calls key row (begun ++ newlyStarted key who ev)
      (Function.update stage who next) := by
  have unstarted : (stage who).quiet → begun ++ newlyStarted key who ev = begun := by
    intro quiet
    rw [newlyStarted, shown, looking_of_quiet quiet at']
    exact List.append_nil _
  cases phase with
  | untouched =>
    obtain ⟨none, empty, quiet⟩ := holds
    exact ⟨.untouched, none, (unstarted (quiet who mine)).trans empty,
      quiet_update (fun i _ => quiet i) ended⟩
  | entered w =>
    obtain ⟨none, empty, ours, missed, quiet⟩ := holds
    by_cases same : who = w
    · subst same
      rw [missed] at at'
      have executing : label = .executor key (calls who).1 := (Option.some.inj at').symm
      refine ⟨.lost who, none, ?_, quiet_update quiet ended⟩
      simp [empty, newlyStarted, shown, executing, isExecutor]
    · exact ⟨.entered w, none, (unstarted (quiet who same mine)).trans empty, ours,
        (Function.update_of_ne (Ne.symm same) _ _).trans missed, quiet_update_ne quiet ended⟩
  | running w =>
    obtain ⟨none, one, ours, late, quiet⟩ := holds
    by_cases same : who = w
    · subst same
      refine ⟨.lost who, none, ?_, quiet_update quiet ended⟩
      rcases late with executed | inserted
      · rw [executed] at at'
        simp [one, newlyStarted, shown, (Option.some.inj at').symm, isExecutor]
      · rw [inserted] at at'
        simp [one, newlyStarted, shown, (Option.some.inj at').symm, isExecutor]
    · exact ⟨.running w, none, (unstarted (quiet who same mine)).trans one, ours,
        (Function.update_of_ne (Ne.symm same) next stage).symm ▸ late, quiet_update_ne quiet ended⟩
  | lost w =>
    obtain ⟨none, one, quiet⟩ := holds
    exact ⟨.lost w, none, (unstarted (quiet who mine)).trans one,
      quiet_update (fun i _ => quiet i) ended⟩
  | settled w =>
    obtain ⟨row, one, ours, returned, answered⟩ := holds
    have different : who ≠ w := by
      rintro rfl
      rw [returned] at at'
      cases at'
    have quiet : (stage who).quiet := by
      have := answered who mine
      revert at' this
      cases stage who <;> simp [Stage.label?, Stage.answered, Stage.quiet]
    refine ⟨.settled w, row, (unstarted quiet).trans one, ours,
      (Function.update_of_ne (Ne.symm different) _ _).trans returned, ?_⟩
    intro i mine
    by_cases same : i = who
    · rw [same, Function.update_self]
      exact Stage.answered_of_quiet ended _ _
    · rw [Function.update_of_ne same]
      exact answered i mine

omit [DecidableEq ι] in
theorem append_newlyStarted {who : ι} {ev : BackendEvent} (begun : List ι)
    (other : isExecutor key ev.label = false) : begun ++ newlyStarted key who ev = begun := by
  simp [newlyStarted, other]

/-- A call between its lookup and its commit is alone there. -/
theorem Phase.Holds.window {phase : Phase ι} {row : Option RemediationExecution} {begun : List ι}
    {stage : ι → Stage} {who : ι} (holds : phase.Holds py calls key row begun stage)
    (mine : ofKey py calls key who) (window : (stage who).inWindow) :
    row = none ∧ (∀ i, i ≠ who → ofKey py calls key i → (stage i).quiet) ∧
      ((begun = [] ∧ stage who = .missed) ∨
        (begun = [who] ∧ (stage who = .executed ∨ stage who = .inserted))) := by
  have loud : ¬ (stage who).quiet := by
    revert window
    cases stage who <;> simp [Stage.inWindow, Stage.quiet]
  cases phase with
  | untouched => exact absurd (holds.2.2 who mine) loud
  | lost w => exact absurd (holds.2.2 who mine) loud
  | settled w =>
    have answered := holds.2.2.2.2 who mine
    revert window answered
    cases stage who <;> simp [Stage.inWindow, Stage.answered, Stage.quiet]
  | entered w =>
    obtain ⟨none, empty, ours, missed, quiet⟩ := holds
    by_cases same : who = w
    · subst same
      exact ⟨none, quiet, .inl ⟨empty, missed⟩⟩
    · exact absurd (quiet who same mine) loud
  | running w =>
    obtain ⟨none, one, ours, late, quiet⟩ := holds
    by_cases same : who = w
    · subst same
      exact ⟨none, quiet, .inr ⟨one, late⟩⟩
    · exact absurd (quiet who same mine) loud

theorem Phase.Holds.lookup {phase : Phase ι} {db : Database} {begun : List ι}
    {stage : ι → Stage} {who : ι} (holds : phase.Holds py calls key (db.remediation? key) begun stage)
    (mine : ofKey py calls key who) (looking : stage who = .looking)
    (alone : ∀ other, other ≠ who → ofKey py calls key other → ¬ (stage other).inWindow)
    (recorded : begun ≠ [] → (db.remediation? key).isSome) :
    match db.remediation? key with
    | some row => ∃ phase' : Phase ι, phase'.Holds py calls key (db.remediation? key) begun
        (Function.update stage who (.returned row.result true))
    | none => ∃ phase' : Phase ι, phase'.Holds py calls key (db.remediation? key) begun
        (Function.update stage who .missed) := by
  cases phase with
  | untouched =>
    obtain ⟨none, empty, quiet⟩ := holds
    rw [none]
    refine ⟨.entered who, rfl, empty, mine, Function.update_self _ _ _, ?_⟩
    intro i ne mine
    rw [Function.update_of_ne ne]
    exact quiet i mine
  | entered w =>
    obtain ⟨none, empty, ours, missed, quiet⟩ := holds
    have different : w ≠ who := by
      rintro rfl
      rw [missed] at looking
      cases looking
    refine absurd ?_ (alone w different ours)
    rw [missed]
    trivial
  | running w =>
    obtain ⟨none, one, ours, late, quiet⟩ := holds
    have different : w ≠ who := by
      rintro rfl
      rcases late with late | late <;> rw [late] at looking <;> cases looking
    refine absurd ?_ (alone w different ours)
    rcases late with late | late <;> rw [late] <;> trivial
  | lost w =>
    obtain ⟨none, one, quiet⟩ := holds
    have some := recorded (by rw [one]; exact List.cons_ne_nil _ _)
    rw [none] at some
    cases some
  | settled w =>
    obtain ⟨⟨r, row, result⟩, one, ours, returned, answered⟩ := holds
    have different : who ≠ w := by
      rintro rfl
      rw [returned] at looking
      cases looking
    rw [row]
    refine ⟨.settled w, ⟨r, rfl, result⟩, one, ours,
      (Function.update_of_ne (Ne.symm different) _ _).trans returned, ?_⟩
    intro i mine
    by_cases same : i = who
    · subst same
      rw [Function.update_self]
      exact ⟨result, by simp [different]⟩
    · rw [Function.update_of_ne same]
      exact answered i mine

/-- A call of this key takes a step; a lookup only where it is serial. -/
theorem Phase.Holds.step {phase : Phase ι} {db db' : Database} {begun : List ι}
    {stage : ι → Stage} {who : ι} {next : Stage} {ev : BackendEvent}
    (holds : phase.Holds py calls key (db.remediation? key) begun stage)
    (mine : ofKey py calls key who)
    (step : CallStep key (calls who).1 (calls who).2 db (stage who) ev next db')
    (serial : isLookup key ev.label = true →
      (∀ other, other ≠ who → ofKey py calls key other → ¬ (stage other).inWindow) ∧
      (begun ≠ [] → (db.remediation? key).isSome)) :
    ∃ phase' : Phase ι, phase'.Holds py calls key (db'.remediation? key)
      (begun ++ newlyStarted key who ev) (Function.update stage who next) := by
  have looked_up : isLookup key (Event.performed (.lookup key) : BackendEvent).label = true := by
    simp [Event.label, isLookup]
  have kept : ∀ i, i ≠ who → (stage i).quiet → (Function.update stage who next i).quiet := by
    intro i ne quiet
    rwa [Function.update_of_ne ne]
  generalize at' : stage who = current at step
  cases step with
  | fail e label => exact holds.ended mine (at' ▸ label) rfl trivial
  | die label => exact holds.ended mine (at' ▸ label) rfl trivial
  | found present =>
    have looked := holds.lookup mine at' (serial looked_up).1 (serial looked_up).2
    rw [append_newlyStarted begun rfl]
    simpa only [present] using looked
  | absent missing =>
    have looked := holds.lookup mine at' (serial looked_up).1 (serial looked_up).2
    rw [append_newlyStarted begun rfl]
    simpa only [missing] using looked
  | execute =>
    obtain ⟨none, quiet, early | late⟩ := holds.window mine (by rw [at']; trivial)
    · refine ⟨.running who, none, ?_, mine, .inl (Function.update_self _ _ _),
        fun i ne ours => kept i ne (quiet i ne ours)⟩
      simp [early.1, newlyStarted, Event.label, isExecutor]
    · rcases late.2 with wrong | wrong <;> rw [at'] at wrong <;> cases wrong
  | insert =>
    obtain ⟨none, quiet, early | late⟩ := holds.window mine (by rw [at']; trivial)
    · rw [at'] at early
      cases early.2
    · rw [append_newlyStarted begun rfl]
      exact ⟨.running who, none, late.1, mine, .inr (Function.update_self _ _ _),
        fun i ne ours => kept i ne (quiet i ne ours)⟩
  | commit missing =>
    obtain ⟨none, quiet, early | late⟩ := holds.window mine (by rw [at']; trivial)
    · rw [at'] at early
      cases early.2
    · rw [append_newlyStarted begun rfl]
      refine ⟨.settled who, ⟨⟨key, (calls who).1, (calls who).2⟩, ?_, rfl⟩, late.1, mine,
        Function.update_self _ _ _, ?_⟩
      · rw [remediation?_withExecution, missing]
        simp
      · intro i ours
        by_cases same : i = who
        · rw [same, Function.update_self]
          exact ⟨rfl, by simp⟩
        · exact Stage.answered_of_quiet (kept i same (quiet i same ours)) _ _
  | refuse present =>
    obtain ⟨none, _⟩ := holds.window mine (by rw [at']; trivial)
    rw [present] at none
    cases none

end

/-- The invariant survives every step whose lookups are serial. -/
theorem inv_step (py : Platform) (calls : ι → RemediationCall × Json) (key : String)
    (pool : Calls ι) (who : ι) (move : Move ChatOutcome Error) (event : BackendEvent)
    (rest : Backend (Json × Bool)) (state : Database) (inv : Inv py calls key pool)
    (advanced : advance move (pool.requests who) pool.state = some (event, rest, state))
    (ok : serialLookups key pool who event (pool.moved who event rest state)) :
    Inv py calls key (pool.moved who event rest state) := by
  obtain ⟨stage, programs, phase, holds⟩ := inv
  rw [programs who] at advanced
  obtain ⟨next, rfl, step⟩ := advance_program advanced
  refine ⟨Function.update stage who next, ?_, ?_⟩
  · intro i
    by_cases same : i = who
    · subst same
      rw [Pool.moved_self, Function.update_self]
    · rw [Pool.moved_other pool _ _ _ same, Function.update_of_ne same]
      exact programs i
  · have grown : started key (pool.moved who event (next.program py (calls who).1 (calls who).2)
        state).history = started key pool.history ++ newlyStarted key who event := by
      cases shown : isExecutor key event.label <;>
        simp [started, newlyStarted, shown]
    rw [grown]
    by_cases mine : ofKey py calls key who
    · refine holds.step mine (mine ▸ step) ?_
      intro looking
      obtain ⟨alone, recorded⟩ := ok looking
      refine ⟨?_, recorded⟩
      intro other different ours window
      have inside := alone other different
      rw [programs other, betweenLookupAndCommit_program ours window] at inside
      cases inside
    · obtain ⟨sameRow, other⟩ := step.other mine
      rw [append_newlyStarted _ other, Pool.moved_state, sameRow]
      exact ⟨phase, holds.other mine next⟩

/-- Over every interleaving of serial lookups, whatever fails or dies: the executor of a key is
started at most once, and every call that returns hands out the result of that execution. -/
theorem executor_at_most_once (py : Platform) (calls : ι → RemediationCall × Json) (db : Database)
    (call : RemediationCall) (fresh : db.remediation? (idempotencyKey py call) = none)
    {pool : Calls ι}
    (reach : Reaches (serialLookups (idempotencyKey py call)) (callsFrom py db calls) pool) :
    (started (idempotencyKey py call) pool.history).length ≤ 1 ∧
    ∀ i result deduplicated, (calls i).1 = call → pool.requests i = .ret (result, deduplicated) →
      ∃ j, started (idempotencyKey py call) pool.history = [j] ∧ result = (calls j).2 ∧
        (deduplicated = false ↔ i = j) := by
  have inv : Inv py calls (idempotencyKey py call) pool := by
    refine reach.invariant (inv_step py calls _) ⟨fun _ => .looking, fun _ => rfl, .untouched, ?_⟩
    exact ⟨fresh, rfl, fun _ _ => trivial⟩
  obtain ⟨stage, programs, phase, holds⟩ := inv
  refine ⟨?_, ?_⟩
  · cases phase with
    | untouched => simp [holds.2.1]
    | entered who => simp [holds.2.1]
    | running who => simp [holds.2.1]
    | lost who => simp [holds.2.1]
    | settled who => simp [holds.2.1]
  · intro i result deduplicated same returned
    have mine : ofKey py calls (idempotencyKey py call) i := by rw [ofKey, same]
    have at' : stage i = .returned result deduplicated := by
      have program := (programs i).symm.trans returned
      cases stage' : stage i <;> rw [stage'] at program <;> cases program
      rfl
    have loud : ¬ (stage i).quiet := by rw [at']; exact id
    cases phase with
    | untouched => exact absurd (holds.2.2 i mine) loud
    | lost who => exact absurd (holds.2.2 i mine) loud
    | entered who =>
      by_cases who' : i = who
      · rw [who', holds.2.2.2.1] at at'
        cases at'
      · exact absurd (holds.2.2.2.2 i who' mine) loud
    | running who =>
      by_cases who' : i = who
      · rcases holds.2.2.2.1 with late | late <;> rw [who', late] at at' <;> cases at'
      · exact absurd (holds.2.2.2.2 i who' mine) loud
    | settled who =>
      have answered := holds.2.2.2.2 i mine
      rw [at'] at answered
      exact ⟨who, holds.2.1, answered⟩

def restartCall : RemediationCall := ⟨"incident-1", "restart_service", "checkout-api", .obj []⟩

def twoCalls : Bool → RemediationCall × Json :=
  fun _ => (restartCall, .obj [("outcome", .str "restarted")])

def oneByOne : List (Bool × Move ChatOutcome Error) :=
  [(false, .perform), (false, .perform), (false, .perform), (false, .perform), (true, .perform)]

theorem executor_at_most_once_one_by_one :
    ∃ pool, (callsFrom Platform.ascii Database.empty twoCalls).run oneByOne = some pool ∧
      (started (idempotencyKey Platform.ascii restartCall) pool.history).length ≤ 1 ∧
      ∀ i result deduplicated, (twoCalls i).1 = restartCall →
        pool.requests i = .ret (result, deduplicated) →
        ∃ j, started (idempotencyKey Platform.ascii restartCall) pool.history = [j] ∧
          result = (twoCalls j).2 ∧ (deduplicated = false ↔ i = j) := by
  have serial : (callsFrom Platform.ascii Database.empty twoCalls).Permitted
      (serialLookups (idempotencyKey Platform.ascii restartCall)) oneByOne := by
    decide +kernel
  refine ⟨_, rfl, ?_⟩
  exact executor_at_most_once Platform.ascii twoCalls Database.empty restartCall rfl
    (reaches_of_run serial rfl)

def bothLookFirst : List (Bool × Move ChatOutcome Error) :=
  [(false, .perform), (true, .perform), (false, .perform), (true, .perform)]

theorem overlapping_lookups_execute_twice :
    ¬ ∀ pool, Reaches anyStep (callsFrom Platform.ascii Database.empty twoCalls) pool →
      (started (idempotencyKey Platform.ascii restartCall) pool.history).length ≤ 1 := by
  intro once
  have twice := once _ (reaches_of_run (permitted_anyStep bothLookFirst _) rfl)
  revert twice
  decide +kernel

end OpsPilot.RemediationInterleaving
