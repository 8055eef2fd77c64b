import OpsPilot.ExpiredApproval
import OpsPilot.Exceptions

/-! What an exception during an automatic resolution does to the call that only wanted to read. -/

namespace OpsPilot.ReadFaults
open JsonText AgentSchemas SyntheticEnvironment InvestigationState Models ChatClient
open GatherContext GraphNodes Investigation IncidentApi Stranding IncidentTurns IncidentPhases
open AutoEscalation ApprovalTimeout ExpiredPause ExpiredApproval DurableProgram CallHistory

variable {app : App} {s t u : Database} {server : Server} {id : ℕ} {row incident : Incident}
  {g g' : List BackendEvent}

def ofGraph : Label → Prop
  | .loadIncident _ => False
  | .loadScenario _ => False
  | .listIncidents => False
  | .createIncident _ => False
  | .commitRunning _ => False
  | .applyResult _ _ => False
  | .loadAudit _ => False
  | .loadService _ => False
  | _ => True

theorem callWithRetries_carries (request : ChatRequest) (retries attempt : ℕ) :
    Carries ofGraph (callWithRetries request retries attempt) := by
  induction retries generalizing attempt with
  | zero =>
    refine ⟨trivial, ?_, fun _ => trivial⟩
    rintro (response | text) <;> trivial
  | succ retries ih =>
    have retry : Carries ofGraph
        ((mark (.sleep attempt)).bind fun _ => callWithRetries request retries (attempt + 1)) :=
      (Carries.perform trivial).bind fun _ => ih _
    refine ⟨trivial, ?_, ?_⟩
    · rintro (response | text)
      · trivial
      · exact retry
    · intro e
      cases e with
      | transientProvider text => exact retry
      | _ => trivial

theorem toolRound_carries (ctx : ReadOnlyTools.ToolContext) (step : ℕ)
    (blocks : List ToolUseBlock) (round : Round) :
    Carries ofGraph (blocks.foldlM (toolUse ctx step) round) := by
  induction blocks generalizing round with
  | nil => trivial
  | cons block blocks ih =>
    rw [List.foldlM_cons, Program.bind_eq]
    refine Carries.bind ?_ ih
    obtain quiet | ⟨name, called⟩ := toolUse_eq ctx step round block
    · rw [quiet]
      trivial
    · rw [called]
      exact ⟨trivial, fun _ => trivial, fun _ => trivial⟩

theorem gatherContext_carries (app : App) (deps : NodeDeps) (state : GraphState) :
    Carries ofGraph (gatherContext app deps state) := by
  refine Carries.bind ?_ ?_
  · refine Carries.tryCatch ((callWithRetries_carries _ _ _).bind fun _ => trivial) fun e => ?_
    cases e <;> trivial
  · rintro (text | response)
    · trivial
    · dsimp only
      split
      · trivial
      · exact (toolRound_carries _ _ _ _).bind fun _ => trivial

theorem visit_carries (app : App) (deps : NodeDeps) (node : Node) (values : GraphState)
    (answer : Option Json) : Carries ofGraph (visit app deps node values answer) := by
  refine (Carries.perform trivial).bind fun _ => ?_
  refine Carries.bind ?_ (by rintro (update | payload) <;> trivial)
  cases node with
  | gatherContext => exact (gatherContext_carries app deps values).bind fun _ => trivial
  | hypothesize => trivial
  | classifyRisk => trivial
  | decide => trivial
  | evaluatePolicy =>
    refine (evaluatePolicy_carries app deps values answer).weaken fun l inside => ?_
    cases l <;> trivial

theorem reenter_carries (app : App) (deps : NodeDeps) (scenario : Scenario) (limit : ℕ)
    (saved : Saved) (answer : Option Json) :
    Carries ofGraph (((buildGraph app deps).supersteps limit saved answer).bind
      (resultFromState app.py scenario)) := by
  refine Carries.bind (StateGraph.Graph.supersteps_carries (visit_carries app deps)
    (fun _ => Carries.perform trivial) (fun _ => Carries.perform trivial) _ _ _) fun final => ?_
  obtain ⟨result, returns⟩ | ⟨e, raises⟩ := GraphRun.resultFromState_cases app.py scenario final
  · rw [returns]
    trivial
  · rw [raises]
    trivial

/-- What a read itself asks the database. -/
def asked : Label → Bool
  | .loadIncident _ => true
  | .listIncidents => true
  | .loadAudit _ => true
  | _ => false

def ofSession : Label → Bool
  | .loadService _ => true
  | _ => false

def isAborted : Error → Bool
  | .abortedTransaction => true
  | _ => false

/-- Any exception, but for those of the read's own queries; the transaction is aborted where a
query of the resume on the read's session fails, and there only. -/
def resolutionFaults : Permit Label ChatOutcome Database Error := fun ev _ =>
  match ev with
  | .failed l e => asked l = false ∧ isAborted e = ofSession l
  | .died _ => False
  | _ => True

instance : ∀ ev s, Decidable (resolutionFaults ev s)
  | .performed _, _ => .isTrue trivial
  | .answered _ _, _ => .isTrue trivial
  | .failed l e, _ => inferInstanceAs (Decidable (asked l = false ∧ isAborted e = ofSession l))
  | .died _, _ => .isFalse not_false

/-- An exception of a resolution that was raised outside of its `try` block, or in a query on the
session of the read. -/
def escapes : BackendEvent → Bool
  | .failed (.loadScenario _) _ => true
  | .failed (.loadService _) _ => true
  | .failed (.applyResult _ _) _ => true
  | _ => false

/-- Every exception was raised inside the `try` block, and none on the session of the read. -/
def Contained (g : List BackendEvent) : Prop := ∀ ev ∈ g, escapes ev = false

def Unresolved (id : ℕ) (g : List BackendEvent) : Prop :=
  ∀ result, .performed (.applyResult id result) ∉ g

structure Checked {α : Type} (app : App) (s : Database) (Post : α → Database → Prop)
    (o : Outcome Error α) (u : Database) (g : List BackendEvent) : Prop where
  seeded : Seeded app u
  kept : ∀ id, Unresolved id g → u.incidents id = s.incidents id
  returns : Contained g ↔ ∃ a, o = .returned a
  post : ∀ a, o = .returned a → Post a u

def Checks {α : Type} (app : App) (s : Database) (p : Backend α)
    (Post : α → Database → Prop) : Prop :=
  ∀ o u g, Runs .alone resolutionFaults p s o u g → Checked app s Post o u g

theorem contained_append : Contained (g ++ g') ↔ Contained g ∧ Contained g' :=
  List.forall_mem_append

theorem contained_performed (l : Label) : Contained [.performed l] := by
  intro ev mem
  cases List.mem_singleton.mp mem
  rfl

theorem contained_cons (l : Label) : Contained (.performed l :: g) ↔ Contained g := by
  rw [← List.singleton_append, contained_append]
  exact and_iff_right (contained_performed l)

theorem unresolved_append : Unresolved id (g ++ g') ↔ Unresolved id g ∧ Unresolved id g' := by
  simp only [Unresolved, List.mem_append, not_or]
  exact ⟨fun both => ⟨fun r => (both r).1, fun r => (both r).2⟩,
    fun ⟨first, later⟩ r => ⟨first r, later r⟩⟩

theorem Checks.ret {α : Type} {Post : α → Database → Prop} {a : α} (seeded : Seeded app s)
    (post : Post a s) : Checks app s (.ret a) Post := by
  intro o u g run
  obtain ⟨rfl, rfl, rfl⟩ := run.of_ret
  refine ⟨seeded, fun _ _ => rfl, ⟨fun _ => ⟨a, rfl⟩, fun _ _ mem => nomatch mem⟩, ?_⟩
  rintro _ ⟨⟩
  exact post

theorem Checks.bind {α β : Type} {p : Backend α} {k : α → Backend β} {Mid : α → Database → Prop}
    {Post : β → Database → Prop} (first : Checks app s p Mid)
    (rest : ∀ a t, Seeded app t → Mid a t → Checks app t (k a) Post) :
    Checks app s (p.bind k) Post := by
  intro o u g run
  obtain ⟨a, t, g₁, g₂, done, later, rfl⟩ | ⟨o', stop, stopped⟩ := run.of_bind
  · have before := first _ _ _ done
    have after := rest a t before.seeded (before.post a rfl) _ _ _ later
    refine ⟨after.seeded, fun id unresolved => ?_, ?_, after.post⟩
    · obtain ⟨none₁, none₂⟩ := unresolved_append.mp unresolved
      rw [after.kept id none₂, before.kept id none₁]
    · rw [contained_append, after.returns]
      exact and_iff_right (before.returns.mpr ⟨a, rfl⟩)
  · have before := first _ _ _ stopped
    refine ⟨before.seeded, before.kept, before.returns.trans ⟨?_, ?_⟩, ?_⟩
    · rintro ⟨a, rfl⟩
      cases stop
    · rintro ⟨b, rfl⟩
      cases stop
    · rintro b rfl
      cases stop

theorem Checks.weaken {α : Type} {p : Backend α} {Post Post' : α → Database → Prop}
    (checks : Checks app s p Post) (less : ∀ a u, Post a u → Post' a u) : Checks app s p Post' :=
  fun o u g run =>
    { checks o u g run with post := fun a same => less a u ((checks o u g run).post a same) }

theorem checks_read {α : Type} {l : Label} {query : Database → α} (reading : asked l = true)
    (seeded : Seeded app s) : Checks app s (read l query) fun a u => a = query s ∧ u = s := by
  intro o u g run
  obtain ⟨rfl, rfl, rfl⟩ | ⟨rfl, fails⟩ := perform_fails run
  · refine ⟨seeded, fun _ _ => rfl, ⟨fun _ => ⟨_, rfl⟩, fun _ => contained_performed l⟩, ?_⟩
    rintro _ ⟨⟩
    exact ⟨rfl, rfl⟩
  · cases fails with
    | failed e ok => cases reading.symm.trans ok.1
    | died ok => exact ok.elim

theorem checks_one {α : Type} {found : Option α} {a : α} (seeded : Seeded app s)
    (present : found = some a) : Checks app s (one found) fun b u => b = a ∧ u = s := by
  subst present
  exact Checks.ret seeded ⟨rfl, rfl⟩

structure Inside {α : Type} (o : Outcome Error α) (g : List BackendEvent) : Prop where
  contained : Contained g ↔ o ≠ .raised .abortedTransaction
  unresolved : ∀ id, Unresolved id g
  lives : o ≠ .died

def Within {α : Type} (p : Backend α) : Prop :=
  ∀ s o u g, Runs .alone resolutionFaults p s o u g → Inside o g

theorem Within.bind {α β : Type} {p : Backend α} {k : α → Backend β} (first : Within p)
    (rest : ∀ a, Within (k a)) : Within (p.bind k) := by
  intro s o u g run
  obtain ⟨a, t, g₁, g₂, done, later, rfl⟩ | ⟨o', stop, stopped⟩ := run.of_bind
  · have before := first _ _ _ _ done
    have after := rest a _ _ _ _ later
    refine ⟨?_, fun id => unresolved_append.mpr ⟨before.unresolved id, after.unresolved id⟩,
      after.lives⟩
    rw [contained_append, after.contained]
    exact and_iff_right (before.contained.mpr fun same => nomatch same)
  · have before := first _ _ _ _ stopped
    cases stop with
    | raised => exact ⟨before.contained.trans (by simp), before.unresolved, by simp⟩
    | died => exact absurd rfl before.lives

theorem Within.of_carries {α : Type} {p : Backend α} (carries : Carries ofGraph p)
    (raises : RaisesOnly (isAborted · = false) p) : Within p := by
  intro s o u g run
  obtain ⟨labels, dies⟩ := carries.runs run
  refine ⟨iff_of_true (fun ev mem => ?_) fun aborted => ?_, fun id result mem => labels _ mem,
    fun died => ?_⟩
  · have inside : ofGraph ev.label := labels _ mem
    rcases ev with l | ⟨l, _⟩ | ⟨l, _⟩ | l
    · rfl
    · rfl
    · cases l <;> first | rfl | exact inside.elim
    · rfl
  · let calm : Permit Label ChatOutcome Database Error := fun ev _ =>
      ∀ l e, ev = .failed l e → isAborted e = false
    have calmly : Runs .alone calm p s o u g := by
      refine run.of_events fun ev mem _ l e same => ?_
      subst same
      have inside : ofGraph l := labels _ mem
      obtain ⟨_, ok⟩ := permitted run _ mem
      rw [ok.2]
      cases l <;> first | rfl | exact inside.elim
    cases raises.runs (fun l e _ ok => ok l e rfl) calmly aborted
  · obtain ⟨l, mem⟩ := dies died
    obtain ⟨_, ok⟩ := permitted run _ mem
    exact ok

theorem loadService_within (scenario : Scenario) (saved : Saved) :
    Within (loadService scenario saved) := by
  intro s o u g run
  unfold loadService at run
  split at run
  · obtain ⟨rfl, _, rfl⟩ | ⟨_, fails⟩ := perform_fails run
    · exact ⟨iff_of_true (contained_performed _) (by simp), fun _ _ mem => by simp at mem, by simp⟩
    · cases fails with
      | failed e ok =>
        have aborted : e = .abortedTransaction := by
          cases e with
          | abortedTransaction => rfl
          | _ => cases ok.2
        subst aborted
        refine ⟨iff_of_false (fun contained => ?_) (by simp), fun _ _ mem => by simp at mem,
          by simp⟩
        cases contained _ List.mem_cons_self
      | died ok => exact ok.elim
  · obtain ⟨rfl, _, rfl⟩ := run.of_ret
    exact ⟨iff_of_true (fun _ mem => nomatch mem) (by simp), fun _ _ => List.not_mem_nil, by simp⟩

theorem not_aborted_of_ofGraphCode (e : Error) (own : Exceptions.ofGraphCode e) :
    isAborted e = false := by
  cases e <;> first | rfl | exact own.elim

theorem resume_within (scenario : Scenario) (threadId : String) (decision : Json) :
    Within (resumeInvestigation app scenario threadId decision) := by
  have resumes : Within (mark (.resume threadId decision)) :=
    .of_carries (Carries.perform trivial) RaisesOnly.perform
  have loads : Within (loadCheckpoint threadId) :=
    .of_carries (Carries.perform trivial) RaisesOnly.perform
  refine resumes.bind fun _ => loads.bind ?_
  rintro (_ | saved)
  · exact .of_carries trivial rfl
  · refine (loadService_within scenario saved).bind fun _ =>
      .of_carries (reenter_carries app _ scenario _ saved _) ?_
    exact RaisesOnly.bind (Exceptions.supersteps_raises not_aborted_of_ofGraphCode _ _ _ _ _)
      (Exceptions.resultFromState_raises not_aborted_of_ofGraphCode _ _)

theorem seeded_resume {scenario : Scenario} {threadId : String} {decision : Json}
    {permit : Permit Label ChatOutcome Database Error} {o : Outcome Error InvestigationResult}
    (seeded : Seeded app s) (run : Runs .alone permit
      (resumeInvestigation app scenario threadId decision) s o u g) : Seeded app u := by
  intro id row found
  rw [incidents_of_resume run] at found
  exact seeded id row found

theorem StepFails.escapes {α : Type} {l : Label} {o : Outcome Error α}
    (outside : ∀ e, ReadFaults.escapes (.failed l e) = true)
    (fails : StepFails resolutionFaults l s o g) : ¬ Contained g ∧ ∀ a, o ≠ .returned a := by
  refine ⟨fun contained => ?_, fails.unreturned⟩
  cases fails with
  | failed e =>
    have inside := contained _ List.mem_cons_self
    rw [outside e] at inside
    cases inside
  | died ok => exact ok

structure TimedOut (s : Database) (committed : Bool) (u : Database) : Prop where
  present : ∀ id, (s.incidents id).isSome = true → (u.incidents id).isSome = true
  same : committed = false → u.incidents = s.incidents

theorem TimedOut.of_same {committed : Bool} (same : u.incidents = s.incidents) :
    TimedOut s committed u :=
  ⟨fun id present => by rw [same, present], fun _ => same⟩

theorem checks_timeout (seeded : Seeded app s) (found : s.incidents id = some incident) :
    Checks app s (maybeApplyApprovalTimeout app server id incident) (TimedOut s) := by
  intro o u g run
  have known := seeded id incident found
  have unlost : scenarioById app incident.scenarioId ≠ none := by
    intro unknown
    rw [unknown] at known
    cases known
  have escaped : ∀ {u}, Seeded app u → u.incidents = s.incidents → ¬ Contained g →
      (∀ a, o ≠ .returned a) → Checked app s (TimedOut s) o u g := by
    intro u seeded same uncontained unreturned
    refine ⟨seeded, fun id _ => by rw [same], ?_, fun a returned => absurd returned (unreturned a)⟩
    exact iff_of_false uncontained fun ⟨a, returned⟩ => unreturned a returned
  cases maybeApplyApprovalTimeout_ends run with
  | fresh => exact Checks.ret seeded (.of_same rfl) _ _ _ (.ret _ s)
  | unloaded _ fails =>
    obtain ⟨uncontained, unreturned⟩ := StepFails.escapes (fun _ => rfl) fails
    exact escaped seeded rfl uncontained unreturned
  | lost _ unknown => exact absurd unknown unlost
  | swallowed _ _ other resume =>
    have same := incidents_of_resume resume
    have contained := (resume_within _ _ _ _ _ _ _ resume).contained.mpr fun raised =>
      other (Outcome.raised.inj raised)
    refine ⟨seeded_resume seeded resume, fun id _ => by rw [same], ?_, fun _ _ => .of_same same⟩
    exact iff_of_true ((contained_cons _).mpr contained) ⟨_, rfl⟩
  | aborted _ _ resume =>
    refine escaped (seeded_resume seeded resume) (incidents_of_resume resume) (fun contained => ?_)
      fun a same => nomatch same
    exact (resume_within _ _ _ _ _ _ _ resume).contained.mp ((contained_cons _).mp contained) rfl
  | died _ _ resume => exact absurd rfl (resume_within _ _ _ _ _ _ _ resume).lives
  | @resolved scenario result t _ g' _ _ resume applied =>
    have same := incidents_of_resume resume
    have contained := contained_append.mpr
      ⟨(resume_within _ _ _ _ _ _ _ resume).contained.mpr (fun same => nomatch same),
        contained_performed (.applyResult id result)⟩
    refine ⟨(seeded_resume seeded resume).step applied.effect fun _ => Label.noConfusion,
      fun other unresolved => ?_, iff_of_true ((contained_cons _).mpr contained) ⟨_, rfl⟩, ?_⟩
    · have different : other ≠ id := by
        rintro rfl
        exact unresolved result (by simp)
      rw [Applied.others applied different, same]
    · rintro _ ⟨⟩
      refine ⟨fun other present => ?_, fun uncommitted => nomatch uncommitted⟩
      by_cases own : other = id
      · subst own
        obtain ⟨row', found'⟩ := Applied.present applied (same ▸ found)
        rw [found', Option.isSome_some]
      · rw [Applied.others applied own, same, present]
  | unapplied _ known' resume stop unapplied =>
    cases unapplied with
    | lost unknown => exact absurd unknown unlost
    | failed fails =>
      obtain ⟨uncontained, unreturned⟩ :=
        StepFails.escapes (fun _ => rfl) (StepFails.stopped stop fails)
      refine escaped (seeded_resume seeded resume) (incidents_of_resume resume) ?_ unreturned
      rw [contained_cons, contained_append]
      exact fun both => uncontained both.2

theorem checks_reread {row₀ : Incident} {expired : Bool} (seeded : Seeded app s)
    (found : s.incidents id = some row) (current : expired = false → row₀ = row) :
    Checks app s (reread id row₀ expired) fun a u => a = row ∧ u = s := by
  cases expired with
  | false => exact Checks.ret seeded ⟨current rfl, rfl⟩
  | true =>
    refine (checks_read rfl seeded).bind ?_
    rintro a t seeded ⟨rfl, rfl⟩
    exact checks_one seeded found

structure Shown (app : App) (u : Database) (detail : IncidentDetail) : Prop where
  row : u.incidents detail.id = some detail.incident
  scenario : ∃ scenario, scenarioById app detail.incident.scenarioId = some scenario ∧
    detail.scenarioKey = scenario.key ∧ detail.serviceName = scenario.service.name

theorem checks_detail (seeded : Seeded app s) (found : s.incidents id = some row) :
    Checks app s (toIncidentDetail app id row) fun detail u =>
      u = s ∧ detail.id = id ∧ Shown app u detail := by
  obtain ⟨scenario, known⟩ := Option.isSome_iff_exists.mp (seeded id row found)
  refine (checks_one seeded known).bind ?_
  rintro a t seeded ⟨rfl, rfl⟩
  exact Checks.ret seeded ⟨rfl, rfl, found, _, known, rfl, rfl⟩

theorem checks_loadCurrent (seeded : Seeded app s) (present : (s.incidents id).isSome = true) :
    Checks app s (loadCurrent app server id) fun row u => u.incidents id = some row := by
  obtain ⟨row, found⟩ := Option.isSome_iff_exists.mp present
  have finds : Checks app s (getIncidentOr404 id) fun a u => a = row ∧ u = s := by
    refine (checks_read rfl seeded).bind ?_
    rintro a t seeded ⟨rfl, rfl⟩
    rw [found]
    exact Checks.ret seeded ⟨rfl, rfl⟩
  refine finds.bind ?_
  rintro _ _ seeded ⟨rfl, rfl⟩
  refine (checks_timeout seeded found).bind fun committed t seeded after => ?_
  obtain ⟨row', found'⟩ := Option.isSome_iff_exists.mp (after.present id present)
  refine (checks_reread seeded found' fun uncommitted => ?_).weaken ?_
  · rw [after.same uncommitted, found] at found'
    exact Option.some.inj found'
  · rintro _ _ ⟨rfl, rfl⟩
    exact found'

theorem TimedOut.trans {expired committed : Bool} (first : TimedOut s expired t)
    (later : TimedOut t committed u) : TimedOut s (expired || committed) u := by
  refine ⟨fun id present => later.present id (first.present id present), fun neither => ?_⟩
  rw [Bool.or_eq_false_iff] at neither
  rw [later.same neither.2, first.same neither.1]

/-- Every listed row is present, and as listed unless the session has committed. -/
structure Listed (t : Database) (rows : List (ℕ × Incident)) (expired : Bool) : Prop where
  present : ∀ row ∈ rows, (t.incidents row.1).isSome = true
  same : expired = false → ∀ row ∈ rows, t.incidents row.1 = some row.2

theorem Listed.after {rows : List (ℕ × Incident)} {expired committed : Bool}
    (listed : Listed s rows expired) (timedOut : TimedOut s committed t) :
    Listed t rows (expired || committed) := by
  refine ⟨fun row mem => timedOut.present _ (listed.present row mem), fun neither row mem => ?_⟩
  rw [Bool.or_eq_false_iff] at neither
  rw [timedOut.same neither.2, listed.same neither.1 row mem]

theorem Listed.tail {row : ℕ × Incident} {rows : List (ℕ × Incident)} {expired : Bool}
    (listed : Listed s (row :: rows) expired) : Listed s rows expired :=
  ⟨fun row mem => listed.present row (List.mem_cons_of_mem _ mem),
    fun fresh row mem => listed.same fresh row (List.mem_cons_of_mem _ mem)⟩

theorem Listed.head {row : Incident} {rows : List (ℕ × Incident)} {expired : Bool}
    (listed : Listed s ((id, row) :: rows) expired) :
    ∃ row', s.incidents id = some row' ∧ (expired = false → row = row') := by
  obtain ⟨row', found⟩ :=
    Option.isSome_iff_exists.mp (listed.present (id, row) List.mem_cons_self)
  refine ⟨row', found, fun fresh => ?_⟩
  have same := listed.same fresh (id, row) List.mem_cons_self
  exact Option.some.inj (same.symm.trans found)

theorem checks_timeoutEach (rows : List (ℕ × Incident)) {all : List (ℕ × Incident)}
    {expired : Bool} (seeded : Seeded app s) (listed : Listed s rows expired)
    (everyone : Listed s all expired) :
    Checks app s (timeoutEach app server rows expired) fun expired u => Listed u all expired := by
  induction rows generalizing s expired with
  | nil => exact Checks.ret seeded everyone
  | cons row rows ih =>
    obtain ⟨id, incident⟩ := row
    obtain ⟨row', found, current⟩ := listed.head
    refine (checks_reread seeded found current).bind ?_
    rintro _ _ seeded ⟨rfl, rfl⟩
    refine (checks_timeout seeded found).bind fun committed t seeded timedOut => ?_
    exact ih seeded (listed.tail.after timedOut) (everyone.after timedOut)

theorem checks_detailEach (rows : List (ℕ × Incident)) {expired : Bool} (seeded : Seeded app s)
    (listed : Listed s rows expired) : Checks app s (detailEach app rows expired) fun details u =>
      List.Forall₂ (fun row detail => detail.id = row.1 ∧ Shown app u detail) rows details ∧
        u = s := by
  induction rows with
  | nil => exact Checks.ret seeded ⟨.nil, rfl⟩
  | cons row rows ih =>
    obtain ⟨id, incident⟩ := row
    obtain ⟨row', found, current⟩ := listed.head
    refine (checks_reread seeded found current).bind ?_
    rintro _ _ seeded ⟨rfl, rfl⟩
    refine (checks_detail seeded found).bind ?_
    rintro detail _ seeded ⟨rfl, same, shown⟩
    refine (ih listed.tail).bind ?_
    rintro details _ seeded ⟨others, rfl⟩
    exact Checks.ret seeded ⟨.cons ⟨same, shown⟩ others, rfl⟩

def IsRead (s : Database) : Endpoint → Prop
  | .listIncidents => True
  | .getIncident id => (s.incidents id).isSome = true
  | .getTimeline id => (s.incidents id).isSome = true
  | _ => False

/-- The response shows the rows as they are afterwards. -/
inductive Shows (app : App) (s u : Database) : Endpoint → Response → Prop where
  | all {details} (each : List.Forall₂ (fun row detail => detail.id = row.1 ∧ Shown app u detail)
      (allIncidents s) details) : Shows app s u .listIncidents (.incidents details)
  | one {detail} (shown : Shown app u detail) :
      Shows app s u (.getIncident detail.id) (.incident detail)
  | timeline {id row scenario} (found : u.incidents id = some row)
      (known : scenarioById app row.scenarioId = some scenario) :
      Shows app s u (.getTimeline id)
        (.timeline id (timelineOf app.py scenario row (timelineRows u id)))

theorem checks_listIncidents (seeded : Seeded app s) :
    Checks app s (listIncidents app server) fun response u =>
      Shows app s u .listIncidents response := by
  refine (checks_read rfl seeded).bind ?_
  rintro rows t seeded ⟨rfl, rfl⟩
  have listed : Listed t (allIncidents t) false :=
    ⟨fun row mem => by rw [mem_allIncidents mem, Option.isSome_some],
      fun _ row mem => mem_allIncidents mem⟩
  refine (checks_timeoutEach _ seeded listed listed).bind fun expired u seeded listed => ?_
  refine (checks_detailEach _ seeded listed).bind ?_
  rintro details _ seeded ⟨each, rfl⟩
  exact Checks.ret seeded (.all each)

theorem checks_getIncident (seeded : Seeded app s) (present : (s.incidents id).isSome = true) :
    Checks app s (getIncident app server id) fun response u =>
      Shows app s u (.getIncident id) response := by
  refine (checks_loadCurrent seeded present).bind fun row t seeded found => ?_
  refine (checks_detail seeded found).bind ?_
  rintro detail _ seeded ⟨rfl, rfl, shown⟩
  exact Checks.ret seeded (.one shown)

theorem checks_getTimeline (seeded : Seeded app s) (present : (s.incidents id).isSome = true) :
    Checks app s (getTimeline app server id) fun response u =>
      Shows app s u (.getTimeline id) response := by
  refine (checks_loadCurrent seeded present).bind fun row t seeded found => ?_
  obtain ⟨scenario, known⟩ := Option.isSome_iff_exists.mp (seeded id row found)
  refine (checks_one seeded known).bind ?_
  rintro _ _ seeded ⟨rfl, rfl⟩
  refine (checks_read rfl seeded).bind ?_
  rintro _ _ seeded ⟨rfl, rfl⟩
  exact Checks.ret seeded (.timeline found known)

/-- The read answered with the rows as they are now, and the rows of all incidents whose pauses
it has not resolved are as they were. -/
structure Unbroken (app : App) (request : Request) (s : Database) (o : Outcome Error Response)
    (u : Database) (g : List BackendEvent) : Prop where
  answers : ∃ response, o = .returned response ∧ Shows app s u request.endpoint response
  kept : ∀ id, Unresolved id g → u.incidents id = s.incidents id

theorem serve_checks {request : Request} (seeded : Seeded app s)
    (reads : IsRead s request.endpoint) : Checks app s (serve app request) fun response u =>
      Shows app s u request.endpoint response := by
  obtain ⟨endpoint, server⟩ := request
  cases endpoint with
  | listIncidents => exact checks_listIncidents seeded
  | getIncident id => exact checks_getIncident seeded reads
  | getTimeline id => exact checks_getTimeline seeded reads
  | createIncident | runIncident | decideApproval => exact reads.elim

/-- With exceptions anywhere in the automatic resolutions, a read is unbroken exactly if they are
all raised inside of the `try` block and off the session of the read. -/
theorem read_unbroken {request : Request} {o : Outcome Error Response} (seeded : Seeded app s)
    (reads : IsRead s request.endpoint)
    (run : Runs .alone resolutionFaults (serve app request) s o u g) :
    Unbroken app request s o u g ↔ Contained g := by
  have checked := serve_checks seeded reads o u g run
  constructor
  · rintro ⟨⟨response, returned, _⟩, _⟩
    exact checked.returns.mpr ⟨response, returned⟩
  · intro contained
    obtain ⟨response, returned⟩ := checked.returns.mp contained
    exact ⟨⟨response, returned, checked.post response returned⟩, checked.kept⟩

def lateRead : Request := ⟨.getIncident 1, lateServer⟩

def failedResume : List (Move ChatOutcome Error) :=
  [.perform, .perform, .fail (.other "connection lost")]

def containedIn (g : List BackendEvent) : Bool := g.any fun
  | .failed (.resume _ _) _ => g.all fun ev => !escapes ev
  | _ => false

theorem read_unbroken_resume_fails : ∃ (s u : Database) (h : EventLog) (o : Outcome Error Response)
    (g : List BackendEvent), TurnHistory checkoutApp s h ∧ (∃ l e, .failed l e ∈ g) ∧
    Runs .alone resolutionFaults (serve checkoutApp lateRead) s o u g ∧
    Unbroken checkoutApp lateRead s o u g := by
  have played : ((playCalls anyFaults (serve checkoutApp) pausingCalls Database.empty).any
      fun after => (after.1.incidents 1).isSome && (play resolutionFaults failedResume
        (serve checkoutApp lateRead) after.1).any fun ended => containedIn ended.2.2) = true := by
    decide +kernel
  obtain ⟨⟨s, h⟩, ran, facts⟩ := Option.any_eq_true _ _ |>.mp played
  obtain ⟨present, rest⟩ := Bool.and_eq_true _ _ |>.mp facts
  obtain ⟨⟨o, u, g⟩, reading, contained⟩ := Option.any_eq_true _ _ |>.mp rest
  have history : TurnHistory checkoutApp s h := .of_history (served_of_playCalls .start ran)
  have run := play_runs reading
  obtain ⟨ev, mem, inside⟩ := List.any_eq_true.mp contained
  split at inside
  case h_2 => cases inside
  have all : Contained g := fun ev mem => by
    simpa using List.all_eq_true.mp inside ev mem
  have unbroken : Unbroken checkoutApp lateRead s o u g ↔ Contained g :=
    read_unbroken (turnHistory_seeded history) present run
  exact ⟨s, u, h, o, g, history, ⟨_, _, mem⟩, run, unbroken.mpr all⟩

def failedCommit : List (Move ChatOutcome Error) :=
  List.replicate 9 .perform ++ [.fail (.other "connection lost")]

def isRaised (o : Outcome Error Response) : Bool :=
  match o with
  | .raised _ => true
  | _ => false

theorem read_broken_by_commit : ¬ ∀ s h, TurnHistory checkoutApp s h → ∀ request,
    IsRead s request.endpoint → ∀ o u g,
      Runs .alone resolutionFaults (serve checkoutApp request) s o u g →
        ∃ response, o = .returned response := by
  intro never
  have played : ((playCalls anyFaults (serve checkoutApp) pausingCalls Database.empty).any
      fun after => (after.1.incidents 1).isSome && (play resolutionFaults failedCommit
        (serve checkoutApp lateRead) after.1).any fun ended => isRaised ended.1) = true := by
    decide +kernel
  obtain ⟨⟨s, h⟩, ran, facts⟩ := Option.any_eq_true _ _ |>.mp played
  obtain ⟨present, rest⟩ := Bool.and_eq_true _ _ |>.mp facts
  obtain ⟨⟨o, u, g⟩, reading, raised⟩ := Option.any_eq_true _ _ |>.mp rest
  obtain ⟨response, rfl⟩ := never s h (.of_history (served_of_playCalls .start ran)) lateRead
    present o u g (play_runs reading)
  cases raised

end OpsPilot.ReadFaults
