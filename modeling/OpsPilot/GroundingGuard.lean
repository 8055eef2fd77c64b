import OpsPilot.RunCeilings

/-! The grounding check on the trail that a run really produces. The trail holds a record of the
diagnosis itself, and the text that citations are looked up in is the text of the whole trail. -/

namespace OpsPilot.GroundingGuard
open JsonText AgentSchemas SyntheticEnvironment InvestigationState Models RunTrace GatherContext
open IdempotentExecution GraphNodes Investigation Superstep GatherLoop GraphRun RunCeilings
open DurableProgram StateGraph

variable {rely : Rely Database} {permit : Permit Label ChatOutcome Database Error}
  {app : App} {deps : NodeDeps}

/-- A citation with tokens to look for, none of which stands in the arguments or the result of
any record of the trail, those of the diagnosis itself apart. -/
def Fabricated (py : Platform) (trail : List ToolCallRecord) (citation : String) : Prop :=
  tokens py citation ≠ [] ∧ ∀ record ∈ trail, record.toolName ≠ "submit_diagnosis" →
    ∀ token ∈ tokens py citation, ¬ token <:+: py.lower (py.dumps record.arguments) ∧
      ∀ result, record.result = some result → ¬ token <:+: py.lower (py.dumps result)

/-- The guard is sound on a state: every fabricated citation is listed, and the diagnosis is
then not called grounded. -/
def FlagsFabricated (py : Platform) (state : GraphState) : Prop :=
  ∀ diagnosis, state.diagnosis = some diagnosis → ∀ citation ∈ diagnosis.evidence,
    Fabricated py state.evidenceTrail citation →
      citation ∈ (state.merge (hypothesize py state)).ungroundedEvidence ∧
        (state.merge (hypothesize py state)).evidenceGrounded = some false

/-- The states in which `hypothesize` is entered by a graph that is at a checkpoint. -/
def Hypothesizes (app : App) (deps : NodeDeps) (values : GraphState) (checkpoint : Saved) : Prop :=
  match checkpoint.next with
  | some .gatherContext => ∃ states answers,
      Gathering app deps checkpoint.values states answers values ∧
        routeAfterGatherContext deps values = .diagnosed
  | some .hypothesize => values = checkpoint.values
  | _ => False

def visitLabel : Label → Prop
  | .visit _ _ _ => True
  | _ => False

theorem node_unvisited {values : GraphState} {answer : Option Json} {s t : Database} {node : Node}
    {o : Outcome Error (Visit GraphUpdate Json)} {g : List BackendEvent}
    (ends : NodeEnds rely permit app deps values answer s node o t g) :
    ∀ ev ∈ g, ¬ visitLabel ev.label := by
  have ofRound_unvisited : ∀ l, ofRound l → ¬ visitLabel l := by
    intro l inside visiting
    cases l <;> first | exact inside | exact visiting
  have ofExecution_unvisited : ∀ l, ofExecution l → ¬ visitLabel l := by
    intro l inside visiting
    cases l <;> first | exact inside | exact visiting
  cases ends with
  | gathered _ ends => exact fun ev mem => ofRound_unvisited _ (ends.1.labels ev mem)
  | faulted _ trace _ => exact fun ev mem => ofRound_unvisited _ (trace.labels ev mem)
  | gated ends => exact fun ev mem => ofExecution_unvisited _ (policy_labels ends ev mem)
  | hypothesized => simp
  | classified => simp
  | decided => simp

theorem superstep_enters {node : Node} {values : GraphState} {answer : Option Json}
    {s t : Database} {o : Outcome Error (Graph.Step Node GraphState Json)} {g : List BackendEvent}
    (ends : SuperstepEnds rely permit app deps node values answer s o t g) :
    (∃ ev, g = [ev] ∧ ∀ l, ev ≠ .performed l) ∨
      ∃ g', g = .performed (.visit deps.threadId node values) :: g' ∧
        ∀ l, .performed l ∈ g' → ¬ visitLabel l := by
  have inside : ∀ {s t o g}, NodeEnds rely permit app deps values answer s node o t g →
      ∀ l, .performed l ∈ g → ¬ visitLabel l := fun ends l mem => node_unvisited ends _ mem
  have around : ∀ {g : List BackendEvent} {last : BackendEvent},
      (∀ l, .performed l ∈ g → ¬ visitLabel l) → (∀ l, last = .performed l → ¬ visitLabel l) →
      ∀ l, .performed l ∈ g ++ [last] → ¬ visitLabel l := by
    intro g last before after l mem
    rcases List.mem_append.mp mem with old | new
    · exact before l old
    · exact after l (List.mem_singleton.mp new).symm
  cases ends with
  | entering _ _ unperformed => exact .inl ⟨_, rfl, unperformed⟩
  | inside _ _ ends => exact .inr ⟨_, rfl, inside ends⟩
  | moved _ ends _ => exact .inr ⟨_, rfl, around (inside ends) (by rintro _ ⟨⟩; exact id)⟩
  | paused _ ends _ => exact .inr ⟨_, rfl, around (inside ends) (by rintro _ ⟨⟩; exact id)⟩
  | leaving _ ends _ _ unperformed =>
    exact .inr ⟨_, rfl, around (inside ends) fun l same => absurd same (unperformed l)⟩

theorem superstep_visits {node : Node} {values : GraphState} {answer : Option Json}
    {s t : Database} {o : Outcome Error (Graph.Step Node GraphState Json)} {g : List BackendEvent}
    (ends : SuperstepEnds rely permit app deps node values answer s o t g) {threadId : String}
    {other : Node} {entered : GraphState}
    (visited : .performed (.visit threadId other entered) ∈ g) :
    other = node ∧ entered = values := by
  obtain ⟨ev, rfl, unperformed⟩ | ⟨g', rfl, unvisited⟩ := superstep_enters ends
  · exact absurd (List.mem_singleton.mp visited).symm (unperformed _)
  · rcases List.mem_cons.mp visited with same | within
    · cases same
      exact ⟨rfl, rfl⟩
    · exact (unvisited _ within trivial).elim

theorem walk_hypothesizes {limit : ℕ} {checkpoint : Saved} {answer : Option Json}
    {s u : Database} {o : Outcome Error (GraphState × Option Json)} {g : List BackendEvent}
    (walk : (buildGraph app deps).Walk rely permit limit checkpoint answer s o u g)
    {threadId : String} {values : GraphState}
    (visited : .performed (.visit threadId .hypothesize values) ∈ g) :
    Hypothesizes app deps values checkpoint := by
  induction walk with
  | finished => cases visited
  | exhausted => cases visited
  | paused last =>
    obtain ⟨rfl, rfl⟩ := superstep_visits (superstep_ends last) visited
    exact rfl
  | stopped _ last =>
    obtain ⟨rfl, rfl⟩ := superstep_visits (superstep_ends last) visited
    exact rfl
  | @moved _ current node _ _ next _ _ _ _ _ first _ ih =>
    rcases List.mem_append.mp visited with now | afterwards
    · obtain ⟨rfl, rfl⟩ := superstep_visits (superstep_ends first) now
      exact rfl
    · have later := ih afterwards
      cases node with
      | gatherContext =>
        obtain fault | ⟨_, gathered, _, visit, _, _, same, _⟩ := gather_superstep first
        · exact fault.elim
        cases same
        cases routed : routeAfterGatherContext deps gathered with
        | «continue» =>
          simp only [Hypothesizes, route, routed] at later
          obtain ⟨states, answers, loop, solved⟩ := later
          exact ⟨_, _, .more visit routed loop, solved⟩
        | diagnosed =>
          simp only [Hypothesizes, route, routed] at later
          subst later
          exact ⟨_, _, .last visit (by rw [routed]; exact Route.noConfusion), routed⟩
        | ceiling =>
          simp only [Hypothesizes, route, routed] at later
      | hypothesize | classifyRisk | evaluatePolicy | decide =>
        cases superstep_ends first with
        | moved => exact later.elim
        | entering _ fault _ => exact fault.elim
        | inside _ stop _ => cases stop
        | leaving _ _ _ fault _ => exact fault.elim

theorem investigation_recorded {scenario : Scenario} {threadId : String} {ceilings : Ceilings}
    {memoryEnabled : Bool} {s u : Database} {o : Outcome Error InvestigationResult}
    {h : List BackendEvent}
    (run : Runs rely permit (runInvestigation app scenario threadId ceilings memoryEnabled) s o u h)
    {thread : String} {values : GraphState}
    (visited : .performed (.visit thread .hypothesize values) ∈ h)
    {diagnosis : SubmitDiagnosisArgs} (found : values.diagnosis = some diagnosis) :
    ∃ record ∈ values.evidenceTrail, record.result = some diagnosis.modelDump := by
  cases runInvestigation_walk run with
  | stopped _ quiet => exact (quiet _ visited).elim
  | @walked _ s₁ _ _ _ _ _ _ _ quiet _ walk _ =>
    rcases List.mem_append.mp visited with before | inside
    · obtain ⟨l, same, prelude⟩ := quiet _ before
      cases same
      exact prelude.elim
    · obtain ⟨states, answers, loop, _⟩ := walk_hypothesizes walk inside
      have empty : DiagnosisRecorded
          (initialState.asInput ((s₁.checkpoints threadId).map (·.values))) := by
        intro diagnosis found
        cases saved : s₁.checkpoints threadId <;> rw [saved] at found <;> cases found
      exact loop.recorded empty diagnosis found

theorem infix_of_mem_splitOnP {α : Type} (p : α → Bool) {l piece : List α}
    (mem : piece ∈ l.splitOnP p) : piece <:+: l := by
  have general : ∀ l acc, piece ∈ List.splitOnPPrepend p l acc → piece <:+: acc.reverse ++ l := by
    intro l
    induction l with
    | nil =>
      intro acc mem
      rw [List.splitOnPPrepend_nil, List.mem_singleton] at mem
      rw [mem, List.append_nil]
    | cons a l ih =>
      intro acc mem
      cases separates : p a with
      | true =>
        rw [List.splitOnPPrepend_cons_pos separates] at mem
        rcases List.mem_cons.mp mem with rfl | later
        · exact (List.prefix_append _ _).isInfix
        · have inside := ih [] (by rwa [List.splitOnPPrepend_nil_right])
          exact inside.trans ((List.suffix_cons a l).trans (List.suffix_append _ _)).isInfix
      | false =>
        rw [List.splitOnPPrepend_cons_neg separates] at mem
        simpa using ih _ mem
  simpa using general l [] (by rwa [List.splitOnPPrepend_nil_right])

/-- A token of the citation occurs in it in characters that JSON text leaves as they are. -/
def PlainlyCited (py : Platform) (citation : String) : Prop :=
  ∃ token ∈ tokens py citation, ∃ part, part <:+: citation.toList ∧
    (∀ c ∈ part, Json.plainChar c = true) ∧ part.map Char.toLower = token

theorem plainlyCited_of_plain (py : Platform) {citation : String}
    (nonempty : tokens py citation ≠ []) (plain : ∀ c ∈ citation.toList, Json.plainChar c = true) :
    PlainlyCited py citation := by
  obtain ⟨token, split⟩ := List.exists_mem_of_ne_nil _ nonempty
  have ascii : ∀ c ∈ citation.toList, c.toNat < 128 := by
    intro c mem
    have text := plain c mem
    simp only [Json.plainChar, Bool.and_eq_true, decide_eq_true_eq] at text
    omega
  have piece : token <:+: citation.toList.map Char.toLower := by
    rw [← py.lower_ascii _ ascii]
    exact infix_of_mem_splitOnP _ (List.mem_filter.mp split).1
  obtain ⟨part, within, rfl⟩ := List.infix_map_iff.mp piece
  exact ⟨_, split, part, within, fun c mem => plain c (within.subset mem), rfl⟩

theorem cited_in_blob (py : Platform) {trail : List ToolCallRecord} {record : ToolCallRecord}
    (mem : record ∈ trail) {diagnosis : SubmitDiagnosisArgs}
    (recorded : record.result = some diagnosis.modelDump) {citation : String}
    (cited : citation ∈ diagnosis.evidence) (plainly : PlainlyCited py citation) :
    ∃ token ∈ tokens py citation, token <:+: gatheredBlob py trail := by
  obtain ⟨_, split, part, within, plain, rfl⟩ := plainly
  have field : ("result", diagnosis.modelDump) ∈ [("step", Json.int record.step),
      ("tool_name", .str record.toolName), ("arguments", record.arguments),
      ("result", record.result.getD .null), ("error", (record.error.map .str).getD .null)] := by
    simp [recorded]
  have inside : Json.Within (.str citation) (.arr (trail.map ToolCallRecord.modelDump)) :=
    .item (List.mem_map.mpr ⟨record, mem, rfl⟩)
      (.field field (SubmitDiagnosisArgs.evidence_within diagnosis cited))
  refine ⟨_, split, ?_⟩
  rw [gatheredBlob, py.lower_dumps]
  exact (Json.plain_part_dumps within plain inside).map _

theorem looksGrounded_iff (py : Platform) {citation : String} (nonempty : tokens py citation ≠ [])
    (blob : List Char) : looksGrounded py citation blob = false ↔
      ∀ token ∈ tokens py citation, ¬ token <:+: blob := by
  simp [looksGrounded, nonempty]

theorem flags_iff (py : Platform) (values : GraphState) : FlagsFabricated py values ↔
    ∀ diagnosis, values.diagnosis = some diagnosis → ∀ citation ∈ diagnosis.evidence,
      Fabricated py values.evidenceTrail citation →
        ∀ token ∈ tokens py citation, ¬ token <:+: gatheredBlob py values.evidenceTrail := by
  have listed : ∀ {diagnosis}, values.diagnosis = some diagnosis → ∀ citation,
      citation ∈ (values.merge (hypothesize py values)).ungroundedEvidence ↔
        citation ∈ diagnosis.evidence ∧
          looksGrounded py citation (gatheredBlob py values.evidenceTrail) = false := by
    intro diagnosis found citation
    simp [GraphState.merge, hypothesize, found]
  have ungrounded : ∀ {diagnosis}, values.diagnosis = some diagnosis →
      ((values.merge (hypothesize py values)).evidenceGrounded = some false ↔
        (values.merge (hypothesize py values)).ungroundedEvidence ≠ []) := by
    intro diagnosis found
    simp [GraphState.merge, hypothesize, found]
  constructor
  · intro flags diagnosis found citation cited fabricated
    obtain ⟨mem, _⟩ := flags diagnosis found citation cited fabricated
    exact (looksGrounded_iff py fabricated.1 _).mp ((listed found citation).mp mem).2
  · intro absent diagnosis found citation cited fabricated
    have mem := (listed found citation).mpr ⟨cited, (looksGrounded_iff py fabricated.1 _).mpr
      (absent diagnosis found citation cited fabricated)⟩
    exact ⟨mem, (ungrounded found).mpr (List.ne_nil_of_mem mem)⟩

theorem toLower_printable {c : Char} (text : Json.printable c = true) :
    Json.printable c.toLower = true := by
  have all : ∀ n : Fin 127, Json.printable (Char.ofNat n) = true →
      Json.printable (Char.ofNat n).toLower = true := by decide
  have small : c.toNat < 127 := by
    simp only [Json.printable, Bool.and_eq_true, decide_eq_true_eq] at text
    omega
  simpa [Char.ofNat_toNat] using all ⟨c.toNat, small⟩ (by simpa [Char.ofNat_toNat] using text)

theorem printable_of_blob (py : Platform) {trail : List ToolCallRecord} {token : List Char}
    (inside : token <:+: gatheredBlob py trail) : ∀ c ∈ token, Json.printable c = true := by
  intro c mem
  rw [gatheredBlob, py.lower_dumps] at inside
  obtain ⟨d, dumped, rfl⟩ := List.mem_map.mp (inside.subset mem)
  exact toLower_printable (Json.dumps_printable py.floatRepr_printable _ d dumped)

/-- Each token of the citation has a character that JSON text never shows. -/
def Unprintable (py : Platform) (citation : String) : Prop :=
  ∀ token ∈ tokens py citation, ∃ c ∈ token, Json.printable c = false

theorem unprintable_absent (py : Platform) {citation : String}
    (unprintable : Unprintable py citation) {trail : List ToolCallRecord} :
    ∀ token ∈ tokens py citation, ¬ token <:+: gatheredBlob py trail := by
  intro token mem inside
  obtain ⟨c, char, hidden⟩ := unprintable token mem
  exact absurd (printable_of_blob py inside c char) (by rw [hidden]; exact Bool.false_ne_true)

/-- For every run and every state it enters `hypothesize` in: the guard is sound where each token
of each fabricated citation has a character that JSON text never shows, and it is not where a
token of a fabricated citation is in characters that JSON text leaves as they are. -/
theorem fabricated_flagged_of_unprintable {scenario : Scenario} {threadId : String}
    {ceilings : Ceilings} {memoryEnabled : Bool} {s u : Database}
    {o : Outcome Error InvestigationResult} {h : List BackendEvent}
    (run : Runs rely permit (runInvestigation app scenario threadId ceilings memoryEnabled) s o u h)
    {values : GraphState} (visited : .performed (.visit threadId .hypothesize values) ∈ h) :
    ((∀ diagnosis, values.diagnosis = some diagnosis → ∀ citation ∈ diagnosis.evidence,
      Fabricated app.py values.evidenceTrail citation → Unprintable app.py citation) →
      FlagsFabricated app.py values) ∧
    ((∃ diagnosis, values.diagnosis = some diagnosis ∧ ∃ citation ∈ diagnosis.evidence,
      Fabricated app.py values.evidenceTrail citation ∧ PlainlyCited app.py citation) →
      ¬ FlagsFabricated app.py values) := by
  rw [flags_iff]
  constructor
  · intro unprintable diagnosis found citation cited fabricated
    exact unprintable_absent app.py (unprintable diagnosis found citation cited fabricated)
  · rintro ⟨diagnosis, found, citation, cited, fabricated, plainly⟩ absent
    obtain ⟨record, mem, recorded⟩ := investigation_recorded run visited found
    obtain ⟨token, split, inside⟩ := cited_in_blob app.py mem recorded cited plainly
    exact absent diagnosis found citation cited fabricated token split inside

theorem plain_unlisted {scenario : Scenario} {threadId : String} {ceilings : Ceilings}
    {memoryEnabled : Bool} {s u : Database} {o : Outcome Error InvestigationResult}
    {h : List BackendEvent}
    (run : Runs rely permit (runInvestigation app scenario threadId ceilings memoryEnabled) s o u h)
    {values : GraphState} (visited : .performed (.visit threadId .hypothesize values) ∈ h)
    {diagnosis : SubmitDiagnosisArgs} (found : values.diagnosis = some diagnosis)
    {citation : String} (cited : citation ∈ diagnosis.evidence)
    (nonempty : tokens app.py citation ≠ [])
    (plain : ∀ c ∈ citation.toList, Json.plainChar c = true) :
    citation ∉ (values.merge (hypothesize app.py values)).ungroundedEvidence := by
  obtain ⟨record, mem, recorded⟩ := investigation_recorded run visited found
  obtain ⟨token, split, inside⟩ := cited_in_blob app.py mem recorded cited
    (plainlyCited_of_plain app.py nonempty plain)
  have grounded : looksGrounded app.py citation (gatheredBlob app.py values.evidenceTrail) ≠
      false := fun missed => (looksGrounded_iff app.py nonempty _).mp missed token split inside
  simp [GraphState.merge, hypothesize, found, cited, Bool.eq_true_of_not_eq_false grounded]

def citing (citation : String) : ModelResponse where
  content := [.toolUse
    { id := "toolu_1", name := "submit_diagnosis"
      input := [("diagnosis", .str "v2.8 broke checkout"), ("evidence", .arr [.str citation]),
        ("confidence", .float (9 / 10)), ("recommended_action", .str "rollback_deployment")] }]
  inputTokens := 1000
  outputTokens := 100

/-- What the run of such a diagnosis enters `hypothesize` with. -/
def entersCiting (citation : String) (holds : GraphState → Bool) : BackendEvent → Bool
  | .performed (.visit threadId .hypothesize values) =>
    threadId == "incident-1" && values.diagnosis.map (·.evidence) == some [citation] &&
      values.evidenceTrail.all (·.toolName == "submit_diagnosis") && holds values
  | _ => false

theorem exists_citing {citation : String} {holds : GraphState → Bool} {h : List BackendEvent}
    (enters : h.any (entersCiting citation holds) = true) :
    ∃ values, .performed (.visit "incident-1" .hypothesize values) ∈ h ∧
      values.diagnosis.map (·.evidence) = some [citation] ∧
      (∀ record ∈ values.evidenceTrail, record.toolName = "submit_diagnosis") ∧
      holds values = true := by
  obtain ⟨ev, mem, enters⟩ := List.any_eq_true.mp enters
  unfold entersCiting at enters
  split at enters
  · simp only [Bool.and_eq_true, beq_iff_eq, List.all_eq_true] at enters
    obtain ⟨⟨⟨rfl, evidence⟩, own⟩, holds⟩ := enters
    exact ⟨_, mem, evidence, own, holds⟩
  · cases enters

theorem fabricated_flagged_accents :
    let run := eval (runInvestigation checkoutApp checkoutDeployOutage "incident-1") (fun _ =>
      .response (citing "relevé: dégradé")) Database.empty
    ∃ values, .performed (.visit "incident-1" .hypothesize values) ∈ run.2.2 ∧
      FlagsFabricated checkoutApp.py values := by
  intro run
  have enters : run.2.2.any (entersCiting "relevé: dégradé" fun _ => true) = true := by
    decide +kernel
  obtain ⟨values, visited, evidence, _⟩ := exists_citing enters
  refine ⟨values, visited,
    (fabricated_flagged_of_unprintable (eval_runs _ _ _) visited).1 ?_⟩
  intro diagnosis found citation cited _
  rw [found, Option.map_some, Option.some.injEq] at evidence
  obtain rfl := List.mem_singleton.mp (evidence ▸ cited)
  have hidden : (tokens checkoutApp.py "relevé: dégradé").all
      (fun token => token.any fun c => !Json.printable c) = true := by decide +kernel
  simpa [Unprintable] using hidden

/-- A citation of a tool that was never called is grounded in the record of the diagnosis. -/
theorem fabricated_passes :
    let run := eval (runInvestigation checkoutApp checkoutDeployOutage "incident-1") (fun _ =>
      .response (citing "get_recent_deployments: v2.8")) Database.empty
    ∃ values, .performed (.visit "incident-1" .hypothesize values) ∈ run.2.2 ∧
      ¬ FlagsFabricated checkoutApp.py values := by
  intro run
  have enters : run.2.2.any (entersCiting "get_recent_deployments: v2.8" fun _ => true) = true := by
    decide +kernel
  obtain ⟨values, visited, evidence, own, _⟩ := exists_citing enters
  refine ⟨values, visited, fun flags => ?_⟩
  obtain ⟨diagnosis, found, cites⟩ := Option.map_eq_some_iff.mp evidence
  have cited : "get_recent_deployments: v2.8" ∈ diagnosis.evidence := by
    rw [cites]
    exact List.mem_singleton_self _
  have fabricated : Fabricated checkoutApp.py values.evidenceTrail
      "get_recent_deployments: v2.8" :=
    ⟨by decide +kernel, fun record mem other => absurd (own record mem) other⟩
  exact plain_unlisted (eval_runs _ _ _) visited found cited fabricated.1
    (List.all_eq_true.mp (by decide +kernel)) (flags diagnosis found _ cited fabricated).1

end OpsPilot.GroundingGuard
