import OpsPilot.IncidentPhases
import OpsPilot.JsonCanonical
import OpsPilot.PolicyGate

/-! What two executions have in common when they share an idempotency key. -/

namespace OpsPilot.IdempotencyKey
open JsonText RemediationTools InvestigationState Models GraphNodes IdempotentExecution
open PolicyGate IncidentApi IncidentPhases

/-- The text that is hashed. -/
def payload (py : Platform) (call : RemediationCall) : List Char :=
  py.dumps (Json.sortKeys (.obj
    [("thread_id", .str call.threadId), ("action_type", .str call.actionType),
     ("target", .str call.target), ("params", call.params)]))

/-- A dict of JSON values without floats. -/
structure Plain (params : Json) : Prop where
  floatless : params.Floatless
  distinct : params.DistinctKeys

/-- The same thread, action and service, and the same parameters as JSON values. -/
structure SameCall (call call' : RemediationCall) : Prop where
  threadId : call.threadId = call'.threadId
  actionType : call.actionType = call'.actionType
  target : call.target = call'.target
  params : call.params.Same call'.params

theorem plain_str (s : String) : Plain (.str s) :=
  ⟨fun _ inside => (nomatch inside), fun _ inside => (nomatch inside)⟩

theorem plain_bool (b : Bool) : Plain (.bool b) :=
  ⟨fun _ inside => (nomatch inside), fun _ inside => (nomatch inside)⟩

theorem plain_obj {fields : List (String × Json)} (distinct : (fields.map Prod.fst).Nodup)
    (plain : ∀ {key value}, (key, value) ∈ fields → Plain value) : Plain (.obj fields) := by
  constructor
  · intro q inside
    cases inside with
    | field mem inside => exact (plain mem).floatless q inside
  · intro others inside
    cases inside with
    | refl => exact distinct
    | field mem inside => exact (plain mem).distinct others inside

theorem plain_payload {call : RemediationCall} (plain : Plain call.params) :
    Plain (.obj [("thread_id", .str call.threadId), ("action_type", .str call.actionType),
      ("target", .str call.target), ("params", call.params)]) := by
  refine plain_obj (by simp) fun mem => ?_
  simp only [List.mem_cons, Prod.mk.injEq, List.not_mem_nil, or_false] at mem
  obtain ⟨-, rfl⟩ | ⟨-, rfl⟩ | ⟨-, rfl⟩ | ⟨-, rfl⟩ := mem
  · exact plain_str _
  · exact plain_str _
  · exact plain_str _
  · exact plain

theorem same_payload_iff {call call' : RemediationCall} :
    Json.Same
      (.obj [("thread_id", .str call.threadId), ("action_type", .str call.actionType),
        ("target", .str call.target), ("params", call.params)])
      (.obj [("thread_id", .str call'.threadId), ("action_type", .str call'.actionType),
        ("target", .str call'.target), ("params", call'.params)]) ↔ SameCall call call' := by
  have distinct : ([("thread_id", Json.str call'.threadId), ("action_type", .str call'.actionType),
      ("target", .str call'.target), ("params", call'.params)].map Prod.fst).Nodup := by simp
  rw [Json.same_obj, Json.sameFields_cons (b := .str call'.threadId) distinct (by simp),
    Json.sameFields_cons (b := .str call'.actionType) distinct (by simp),
    Json.sameFields_cons (b := .str call'.target) distinct (by simp),
    Json.sameFields_cons (b := call'.params) distinct (by simp), Json.same_str, Json.same_str,
    Json.same_str]
  constructor
  · rintro ⟨-, threadId, actionType, target, params, -⟩
    exact ⟨threadId, actionType, target, params⟩
  · rintro ⟨threadId, actionType, target, params⟩
    exact ⟨rfl, threadId, actionType, target, params, Json.sameFields_nil⟩

theorem payload_eq_iff (py : Platform) {call call' : RemediationCall} (plain : Plain call.params)
    (plain' : Plain call'.params) : payload py call = payload py call' ↔ SameCall call call' := by
  have both := plain_payload plain
  have both' := plain_payload plain'
  rw [payload, payload, Platform.dumps, Platform.dumps,
    Json.canonical_iff py.floatRepr both.floatless both'.floatless both.distinct both'.distinct,
    same_payload_iff]

def approvedKey (app : App) (deps : NodeDeps) (actionType : String) (decision : Option Json) :
    Option String :=
  (resolvedCall app deps actionType .requireApproval decision).map fun resolved =>
    idempotencyKey app.py resolved.1

theorem approvedKey_eq {Args : Type} {modelValidate : Platform → Json → Except String Args}
    {modelDump : Args → Json} {handler : RemediationContext → Args → Json} {actionType : String}
    (listed : approvableActions.lookup actionType = some (approvable modelValidate modelDump handler))
    (app : App) (deps : NodeDeps) {decision : Option Json} (approved : isApproved decision = true)
    {args : Args}
    (validated : modelValidate app.py (orEmpty (decision.bind (·.field? "params"))) = .ok args) :
    approvedKey app deps actionType decision = some (idempotencyKey app.py
      ⟨deps.threadId, actionType, deps.scenario.service.name, modelDump args⟩) := by
  have call := approved_call listed app deps approved
  rw [validated] at call
  obtain ⟨resolved, found, same⟩ := Option.map_eq_some_iff.mp call
  rw [approvedKey, found, Option.map_some, same]

/-- Two actions have one payload, and with a hash that does not collide one key, exactly when they
are the same action; the threads of two incidents never share one, and two approvals whose
parameters validate to one model do. -/
theorem idempotencyKey_identifies (py : Platform) (collisionFree : Function.Injective py.sha256)
    {call call' : RemediationCall} (plain : Plain call.params) (plain' : Plain call'.params) :
    (payload py call = payload py call' ↔ SameCall call call') ∧
    (idempotencyKey py call = idempotencyKey py call' ↔ SameCall call call') ∧
    (∀ id id', call.threadId = threadIdOf id → call'.threadId = threadIdOf id' → id ≠ id' →
      idempotencyKey py call ≠ idempotencyKey py call') ∧
    ∀ {Args : Type} {modelValidate : Platform → Json → Except String Args}
      {modelDump : Args → Json} {handler : RemediationContext → Args → Json} {actionType : String},
      approvableActions.lookup actionType = some (approvable modelValidate modelDump handler) →
      ∀ (app : App) (deps : NodeDeps) (decision decision' : Option Json) (args : Args),
        isApproved decision = true → isApproved decision' = true →
        modelValidate app.py (orEmpty (decision.bind (·.field? "params"))) = .ok args →
        modelValidate app.py (orEmpty (decision'.bind (·.field? "params"))) = .ok args →
        ∃ key, approvedKey app deps actionType decision = some key ∧
          approvedKey app deps actionType decision' = some key := by
  have payloads := payload_eq_iff py plain plain'
  have keys : idempotencyKey py call = idempotencyKey py call' ↔ SameCall call call' := by
    rw [← payloads]
    exact collisionFree.eq_iff
  refine ⟨payloads, keys, fun id id' mine theirs apart same => apart ?_, ?_⟩
  · have threads := (keys.mp same).threadId
    rw [mine, theirs] at threads
    exact threadIdOf_injective threads
  · intro Args modelValidate modelDump handler actionType listed app deps decision decision' args
      approved approved' validated validated'
    exact ⟨_, approvedKey_eq listed app deps approved validated,
      approvedKey_eq listed app deps approved' validated'⟩

def enableFlag (params : Json) : RemediationCall :=
  ⟨"incident-1", "toggle_feature_flag", "checkout-api", params⟩

theorem plain_flag (args : ToggleFeatureFlagArgs) : Plain args.modelDump := by
  refine plain_obj (by simp) fun mem => ?_
  simp only [List.mem_cons, Prod.mk.injEq, List.not_mem_nil, or_false] at mem
  obtain ⟨-, rfl⟩ | ⟨-, rfl⟩ := mem
  · exact plain_str _
  · exact plain_bool _

theorem plain_flag_reversed (name : String) (enabled : Bool) :
    Plain (.obj [("enabled", .bool enabled), ("flag_name", .str name)]) := by
  refine plain_obj (by simp) fun mem => ?_
  simp only [List.mem_cons, Prod.mk.injEq, List.not_mem_nil, or_false] at mem
  obtain ⟨-, rfl⟩ | ⟨-, rfl⟩ := mem
  · exact plain_bool _
  · exact plain_str _

/-- A flag's parameters have one key in either order. -/
theorem idempotencyKey_enableFlag :
    idempotencyKey Platform.ascii (enableFlag (ToggleFeatureFlagArgs.modelDump ⟨"pool", true⟩)) =
    idempotencyKey Platform.ascii
      (enableFlag (.obj [("enabled", .bool true), ("flag_name", .str "pool")])) := by
  have collisionFree : Function.Injective Platform.ascii.sha256 := fun _ _ same =>
    String.ofList_injective same
  refine (idempotencyKey_identifies Platform.ascii collisionFree (plain_flag ⟨"pool", true⟩)
    (plain_flag_reversed "pool" true)).2.1.mpr ⟨rfl, rfl, rfl, Json.same_obj.mpr ⟨rfl, ?_⟩⟩
  rw [Json.sameFields_cons (b := .str "pool") (by decide) (by simp),
    Json.sameFields_cons (b := .bool true) (by decide) (by simp)]
  exact ⟨Json.same_str.mpr rfl, by rw [Json.Same], Json.sameFields_nil⟩

end OpsPilot.IdempotencyKey
