import OpsPilot.EvalAggregates
import OpsPilot.LastWrite
import OpsPilot.RecordCodec
import OpsPilot.RowOrder
import Mathlib.Logic.Equiv.Nat

/-! Evaluation runs as JSON files, one for each label, and what is listed, read back and compared
after any number of them were saved. -/

namespace OpsPilot.RunStorage
open JsonText RecordCodec AgentSchemas ScenarioSpecs EvalScores EvalRegression Judge Models
open InvestigationState EvalRunner EvalAggregates DurableProgram

structure Instants where
  text : ℤ → String
  read : String → Option ℤ
  read_text : ∀ t, read (text t) = some t

structure RunFile where
  bytes : ByteArray
  mtime : ℤ

/-- The files of the directory itself by name, in the order in which it lists them. A directory that
does not exist has none. -/
abbrev RunsDir := List (String × RunFile)

structure Outside where
  instants : Instants
  /-- `model_dump_json(indent=2)` of a model with these fields -/
  jsonText : Json → String
  parse : String → Option Json
  /-- `str` of the error for a text that is no run -/
  invalidText : String → String
  /-- `str` of the error for bytes that are no text -/
  undecodable : ByteArray → String
  /-- where a label leads that is not the name of a file of the directory -/
  writeElsewhere : String → RunFile → RunsDir → Except Error RunsDir
  findElsewhere : String → RunsDir → Except Error (Option RunFile)

section
variable (py : Platform) (instants : Instants) (outside : Outside)

def boolean : Codec Bool := ⟨.bool, py.laxBool, py.laxBool_bool⟩

def number : Codec ℚ := ⟨.float, py.laxFloat, py.laxFloat_float⟩

def integer : Codec ℤ := ⟨.int, py.laxInt, py.laxInt_int⟩

/-- No run has a negative count. -/
def count : Codec ℕ where
  write n := .int n
  read value := (py.laxInt value).bind fun i => if 0 ≤ i then some i.toNat else none
  read_write n := by
    rw [py.laxInt_int, Option.bind_some, if_pos (Int.natCast_nonneg n), Int.toNat_natCast]

def instant : Codec ℤ where
  write t := .str (instants.text t)
  read
    | .str s => instants.read s
    | _ => none
  read_write := instants.read_text

def statusOfName (name : String) : Option InvestigationStatus :=
  [.diagnosed, .awaitingApproval, .incompleteStepCeiling, .incompleteCostCeiling,
    .incompleteProviderError].find? fun status => (IncidentStatus.reported status).name == name

def statusCodec : Codec InvestigationStatus where
  write s := .str (IncidentStatus.reported s).name
  read
    | .str name => statusOfName name
    | _ => none
  read_write s := by cases s <;> decide

def judgmentCodec : Codec Judgment :=
  ⟨Judgment.modelDump, Judgment.read py, Judgment.read_modelDump py⟩

def optionalBoolean : Codec (Option Bool) := (boolean py).optional fun _ => Json.noConfusion

def optionalNumber : Codec (Option ℚ) := (number py).optional fun _ => Json.noConfusion

def deterministicCodec : Codec DeterministicScores :=
  (((Fields.required "reached_diagnosis" (boolean py)).both
    ((Fields.defaulted "policy_verdict_correct" (optionalBoolean py) none).both
    ((Fields.defaulted "recommended_action_exact_match" (optionalBoolean py) none).both
    ((Fields.defaulted "evidence_grounded_heuristic" (optionalBoolean py) none).both
    ((Fields.required "tool_selection_score" (number py)).both
    ((Fields.required "unnecessary_tool_call_count" (count py)).both
    ((Fields.required "argument_error_count" (count py)).both
    ((Fields.required "steps_used" (count py)).both
    ((Fields.required "estimated_cost_usd" (number py)).both
    ((Fields.required "total_input_tokens" (integer py)).both
    ((Fields.required "total_output_tokens" (integer py)).both
    (Fields.required "latency_seconds" (number py))))))))))))).iso
  (fun (reached, correct, exact, grounded, selection, unnecessary, errors, steps, cost, input,
      output, latency) =>
    ⟨reached, correct, exact, grounded, selection, unnecessary, errors, steps, cost, input,
      output, latency⟩)
  (fun scores => (scores.reachedDiagnosis, scores.policyVerdictCorrect,
    scores.recommendedActionExactMatch, scores.evidenceGroundedHeuristic,
    scores.toolSelectionScore, scores.unnecessaryToolCallCount, scores.argumentErrorCount,
    scores.stepsUsed, scores.estimatedCostUsd, scores.totalInputTokens, scores.totalOutputTokens,
    scores.latencySeconds))
  fun _ => rfl).record

def scenarioCodec : Codec ScenarioReport :=
  (((Fields.required "scenario_key" .text).both
    ((Fields.required "status" statusCodec).both
    ((Fields.required "deterministic" (deterministicCodec py)).both
    ((Fields.defaulted "judge" ((judgmentCodec py).optional fun _ => Json.noConfusion) none).both
    (Fields.defaulted "judge_error" (Codec.text.optional fun _ => Json.noConfusion) none))))).iso
  (fun (key, status, deterministic, judge, judgeError) =>
    ⟨key, status, deterministic, judge, judgeError⟩)
  (fun report => (report.scenarioKey, report.status, report.deterministic, report.judge,
    report.judgeError))
  fun _ => rfl).record

def aggregateCodec : Codec AggregateScores :=
  (((Fields.required "scenario_count" (count py)).both
    ((Fields.required "completion_rate" (number py)).both
    ((Fields.required "policy_verdict_accuracy" (number py)).both
    ((Fields.required "recommended_action_exact_match_rate" (number py)).both
    ((Fields.required "mean_tool_selection_score" (number py)).both
    ((Fields.required "total_unnecessary_tool_calls" (count py)).both
    ((Fields.required "total_argument_errors" (count py)).both
    ((Fields.defaulted "mean_diagnosis_accuracy" (optionalNumber py) none).both
    ((Fields.defaulted "mean_evidence_groundedness" (optionalNumber py) none).both
    ((Fields.defaulted "mean_remediation_quality" (optionalNumber py) none).both
    ((Fields.defaulted "escalation_correctness_rate" (optionalNumber py) none).both
    ((Fields.required "mean_steps_used" (number py)).both
    ((Fields.required "total_cost_usd" (number py)).both
    ((Fields.required "total_input_tokens" (integer py)).both
    ((Fields.required "total_output_tokens" (integer py)).both
    (Fields.required "mean_latency_seconds" (number py))))))))))))))))).iso
  (fun (count, completion, accuracy, exact, selection, unnecessary, errors, diagnosis, evidence,
      remediation, escalation, steps, cost, input, output, latency) =>
    ⟨count, completion, accuracy, exact, selection, unnecessary, errors, diagnosis, evidence,
      remediation, escalation, steps, cost, input, output, latency⟩)
  (fun scores => (scores.scenarioCount, scores.completionRate, scores.policyVerdictAccuracy,
    scores.recommendedActionExactMatchRate, scores.meanToolSelectionScore,
    scores.totalUnnecessaryToolCalls, scores.totalArgumentErrors, scores.meanDiagnosisAccuracy,
    scores.meanEvidenceGroundedness, scores.meanRemediationQuality,
    scores.escalationCorrectnessRate, scores.meanStepsUsed, scores.totalCostUsd,
    scores.totalInputTokens, scores.totalOutputTokens, scores.meanLatencySeconds))
  fun _ => rfl).record

def runCodec : Codec EvalReport :=
  (((Fields.required "run_label" .text).both
    ((Fields.required "started_at" (instant instants)).both
    ((Fields.required "scenario_keys" (.list .text)).both
    ((Fields.required "scenarios" (.list (scenarioCodec py))).both
    (Fields.required "aggregate" (aggregateCodec py)))))).iso
  (fun (label, startedAt, keys, scenarios, aggregate) =>
    ⟨label, startedAt, keys, scenarios, aggregate⟩)
  (fun run => (run.runLabel, run.startedAt, run.scenarioKeys, run.scenarios, run.aggregate))
  fun _ => rfl).record

def fileName (label : String) : String := label ++ ".json"

def runText (run : EvalReport) : String :=
  outside.jsonText ((runCodec py outside.instants).write run)

/-- A label that names a file of the directory itself, one that the file system takes. -/
def Plain (label : String) : Prop :=
  label ≠ "" ∧ label.toList.all (fun c => c != '/' && c.toNat != 0) = true ∧
    (fileName label).utf8ByteSize ≤ 255

instance (label : String) : Decidable (Plain label) :=
  inferInstanceAs (Decidable (_ ∧ _ ∧ _))

def saveRun (run : EvalReport) (now : ℤ) (dir : RunsDir) : Except Error RunsDir :=
  let file : RunFile := ⟨(runText py outside run).toUTF8, now⟩
  if Plain run.runLabel then .ok (LastWrite.write (fileName run.runLabel) file dir)
  else outside.writeElsewhere run.runLabel file dir

def findRun (dir : RunsDir) (label : String) : Except Error (Option RunFile) :=
  if Plain label then .ok (dir.lookup (fileName label)) else outside.findElsewhere label dir

def readRun (text : String) : Option EvalReport :=
  (outside.parse text).bind (runCodec py outside.instants).read

def unreadable (bytes : ByteArray) : Error :=
  match String.fromUTF8? bytes with
  | none => .other (outside.undecodable bytes)
  | some text => .other (outside.invalidText text)

def loadRun (file : RunFile) : Except Error EvalReport :=
  match (String.fromUTF8? file.bytes).bind (readRun py outside) with
  | some run => .ok run
  | none => .error (unreadable outside file.bytes)

/-- `Path.stem`: a name that begins with its only dot, or ends with a dot, has no suffix. -/
def stem (name : String) : String :=
  match name.toList.reverse.span (· != '.') with
  | (_ :: _, _ :: base) => if base = [] then name else String.ofList base.reverse
  | _ => name

/-- `glob("*.json")` -/
def isRun (name : String) : Bool := ".json".toList.isSuffixOf name.toList

/-- `listing` is the directory in the order that it is globbed in. -/
def listRunLabels (listing : RunsDir) : List String :=
  (RowOrder.sorted (fun entry => -entry.2.mtime) (listing.filter fun entry => isRun entry.1)).map
    fun entry => stem entry.1

def loadRunByLabel (dir : RunsDir) (label : String) : Except Error (Option EvalReport) := do
  match ← findRun outside dir label with
  | none => return none
  | some file => return some (← loadRun py outside file)

structure EvalRunSummary where
  runLabel : String
  startedAt : ℤ
  scenarioCount : ℕ
  completionRate : ℚ
  policyVerdictAccuracy : ℚ
  meanDiagnosisAccuracy : Option ℚ
  totalCostUsd : ℚ
  meanLatencySeconds : ℚ

def summaryOf (run : EvalReport) : EvalRunSummary where
  runLabel := run.runLabel
  startedAt := run.startedAt
  scenarioCount := run.aggregate.scenarioCount
  completionRate := run.aggregate.completionRate
  policyVerdictAccuracy := run.aggregate.policyVerdictAccuracy
  meanDiagnosisAccuracy := run.aggregate.meanDiagnosisAccuracy
  totalCostUsd := run.aggregate.totalCostUsd
  meanLatencySeconds := run.aggregate.meanLatencySeconds

def summaries (dir : RunsDir) : List String → Except Error (List EvalRunSummary)
  | [] => .ok []
  | label :: labels => do
    match ← loadRunByLabel py outside dir label with
    | none => summaries dir labels
    | some run => return summaryOf run :: (← summaries dir labels)

def listEvalRuns (dir listing : RunsDir) : Except Error (List EvalRunSummary) :=
  summaries py outside dir (listRunLabels listing)

def getEvalRun (dir : RunsDir) (label : String) : Except Error EvalReport := do
  match ← loadRunByLabel py outside dir label with
  | none => throw (.http 404 ("No eval run with label '" ++ label ++ "'."))
  | some run => return run

/-- One call of `save_run`; a process that dies while writing leaves only so many bytes. -/
structure Save where
  run : EvalReport
  now : ℤ
  cut : Option ℕ := none
  plain : Plain run.runLabel

def Save.bytes (save : Save) : ByteArray :=
  match save.cut with
  | none => (runText py outside save.run).toUTF8
  | some n => (runText py outside save.run).toUTF8.extract 0 n

def Save.label (save : Save) : String := save.run.runLabel

def Save.file (save : Save) : RunFile := ⟨save.bytes py outside, save.now⟩

def Save.apply (dir : RunsDir) (save : Save) : RunsDir :=
  LastWrite.write (fileName save.label) (save.file py outside) dir

def saveAll (saves : List Save) : RunsDir := saves.foldl (Save.apply py outside) []

def lastSave : String → List Save → Option Save := LastWrite.last Save.label

def Save.Whole (save : Save) : Prop :=
  ∀ n ∈ save.cut, (runText py outside save.run).toUTF8.size ≤ n

instance (save : Save) : Decidable (save.Whole py outside) :=
  inferInstanceAs (Decidable (∀ n ∈ save.cut, (runText py outside save.run).toUTF8.size ≤ n))

/-- The package reads back the text that it wrote for a run, and no shorter part of it. -/
structure Readable (run : EvalReport) : Prop where
  whole : outside.parse (runText py outside run) = some ((runCodec py outside.instants).write run)
  cut : ∀ n < (runText py outside run).toUTF8.size,
    ∀ text ∈ String.fromUTF8? ((runText py outside run).toUTF8.extract 0 n),
      outside.parse text = none

variable {py outside}

theorem saveRun_apply {run : EvalReport} (plain : Plain run.runLabel) (now : ℤ) (dir : RunsDir) :
    saveRun py outside run now dir = .ok (Save.apply py outside dir ⟨run, now, none, plain⟩) :=
  if_pos plain

theorem saveAll_eq (saves : List Save) : saveAll py outside saves =
    LastWrite.written (fun save => fileName save.label) (Save.file py outside) saves := rfl

theorem fileName_injective : Function.Injective fileName := fun _ _ same =>
  (String.append_left_inj _).mp same

theorem last_fileName (label : String) (saves : List Save) :
    LastWrite.last (fun save => fileName save.label) (fileName label) saves =
      lastSave label saves := by
  unfold lastSave LastWrite.last
  simp only [fileName_injective.eq_iff]

theorem lookup_saveAll (saves : List Save) (label : String) :
    (saveAll py outside saves).lookup (fileName label) =
      (lastSave label saves).map (Save.file py outside) := by
  rw [saveAll_eq, LastWrite.lookup_written, last_fileName]

theorem mem_saveAll {saves : List Save} {entry : String × RunFile}
    (mem : entry ∈ saveAll py outside saves) : ∃ save, lastSave save.label saves = some save ∧
      entry = (fileName save.label, save.file py outside) := by
  obtain ⟨name, file⟩ := entry
  rw [saveAll_eq] at mem
  obtain ⟨save, found, rfl⟩ := LastWrite.mem_written.mp mem
  obtain ⟨_, rfl⟩ := LastWrite.last_mem found
  exact ⟨save, last_fileName save.label saves ▸ found, rfl⟩

theorem stem_fileName {label : String} (nonempty : label ≠ "") : stem (fileName label) = label := by
  have reversed : (fileName label).toList.reverse =
      'n' :: 'o' :: 's' :: 'j' :: '.' :: label.toList.reverse := by
    rw [fileName, String.toList_append, List.reverse_append]
    rfl
  have base : label.toList.reverse ≠ [] := by simpa using nonempty
  unfold stem
  rw [reversed]
  change (if label.toList.reverse = [] then _ else String.ofList label.toList.reverse.reverse) = _
  rw [if_neg base, List.reverse_reverse, String.ofList_toList]

theorem isRun_fileName (label : String) : isRun (fileName label) = true := by
  rw [isRun, List.isSuffixOf_iff_suffix, fileName, String.toList_append]
  exact List.suffix_append _ _

theorem fromUTF8?_toUTF8 (text : String) : String.fromUTF8? text.toUTF8 = some text := by
  have valid : text.toUTF8.IsValidUTF8 := text.isValidUTF8
  rw [String.fromUTF8?, dif_pos valid]
  rfl

theorem loadRun_whole {save : Save} (readable : Readable py outside save.run)
    (whole : save.Whole py outside) : loadRun py outside (save.file py outside) = .ok save.run := by
  have all : save.bytes py outside = (runText py outside save.run).toUTF8 := by
    unfold Save.bytes
    cases cut : save.cut with
    | none => rfl
    | some n =>
      have most := whole n cut
      dsimp only
      rw [← Nat.max_eq_left most, ByteArray.extract_zero_max_size]
  unfold loadRun readRun Save.file
  rw [all, fromUTF8?_toUTF8, Option.bind_some, readable.whole, Option.bind_some,
    (runCodec py outside.instants).read_write]

theorem loadRun_cut {save : Save} (readable : Readable py outside save.run)
    (short : ¬ save.Whole py outside) : loadRun py outside (save.file py outside) =
      .error (unreadable outside (save.bytes py outside)) := by
  simp only [Save.Whole, not_forall, not_le] at short
  obtain ⟨n, cut, short⟩ := short
  have unread : (String.fromUTF8? (save.bytes py outside)).bind (readRun py outside) = none := by
    unfold Save.bytes
    rw [cut, Option.bind_eq_none_iff]
    intro text decoded
    rw [readRun, readable.cut n short text decoded, Option.bind_none]
  unfold loadRun Save.file
  dsimp only
  rw [unread]

theorem findRun_saved (saves : List Save) {label : String} (plain : Plain label) :
    findRun outside (saveAll py outside saves) label =
      .ok ((lastSave label saves).map (Save.file py outside)) := by
  rw [findRun, if_pos plain, lookup_saveAll]

theorem loadRunByLabel_saved (saves : List Save) {label : String} (plain : Plain label) :
    loadRunByLabel py outside (saveAll py outside saves) label =
      match lastSave label saves with
      | none => .ok none
      | some save => (loadRun py outside (save.file py outside)).map some := by
  unfold loadRunByLabel
  rw [findRun_saved saves plain]
  cases lastSave label saves with
  | none => rfl
  | some save =>
    simp only [Option.map_some, bind, Except.bind]
    cases loadRun py outside (save.file py outside) <;> rfl

theorem plain_of_last {saves : List Save} {label : String} {save : Save}
    (found : lastSave label saves = some save) : Plain label := by
  obtain ⟨_, rfl⟩ := LastWrite.last_mem found
  exact save.plain

/-- After any sequence of saves, each of which may have been cut short, a label gives the run that
was saved under it last, an error if that save was cut short, and 404 if there was none. -/
theorem saved_run_read_back {saves : List Save}
    (readable : ∀ save ∈ saves, Readable py outside save.run)
    {label : String} (plain : Plain label) :
    getEvalRun py outside (saveAll py outside saves) label =
      match lastSave label saves with
      | none => .error (.http 404 ("No eval run with label '" ++ label ++ "'."))
      | some save =>
        if save.Whole py outside then .ok save.run
        else .error (unreadable outside (save.bytes py outside)) := by
  unfold getEvalRun
  rw [loadRunByLabel_saved saves plain]
  cases found : lastSave label saves with
  | none => rfl
  | some save =>
    have own := readable save (LastWrite.last_mem found).1
    dsimp only
    split_ifs with whole
    · rw [loadRun_whole own whole]
      rfl
    · rw [loadRun_cut own whole]
      rfl

def NewestFirst (saves : List Save) (labels : List String) : Prop :=
  labels.Pairwise fun a b => ∀ s ∈ lastSave a saves, ∀ t ∈ lastSave b saves, t.now ≤ s.now

def globbed (listing : RunsDir) : RunsDir :=
  RowOrder.sorted (fun entry => -entry.2.mtime) (listing.filter fun entry => isRun entry.1)

theorem listRunLabels_eq (listing : RunsDir) :
    listRunLabels listing = (globbed listing).map fun entry => stem entry.1 := rfl

section
variable {saves : List Save} {listing : RunsDir} (perm : listing.Perm (saveAll py outside saves))

include perm

theorem globbed_perm : (globbed listing).Perm (saveAll py outside saves) := by
  refine (RowOrder.sorted_perm _ _).trans ?_
  rw [List.filter_eq_self.mpr]
  · exact perm
  · intro entry mem
    obtain ⟨save, _, rfl⟩ := mem_saveAll (perm.mem_iff.mp mem)
    exact isRun_fileName _

theorem mem_globbed {entry : String × RunFile} (mem : entry ∈ globbed listing) :
    ∃ save, lastSave save.label saves = some save ∧
      entry = (fileName save.label, save.file py outside) :=
  mem_saveAll ((globbed_perm perm).mem_iff.mp mem)

theorem stem_globbed {entry : String × RunFile} (mem : entry ∈ globbed listing) :
    ∃ save, lastSave (stem entry.1) saves = some save ∧ fileName (stem entry.1) = entry.1 ∧
      save.file py outside = entry.2 := by
  obtain ⟨save, found, rfl⟩ := mem_globbed perm mem
  have own : stem (fileName save.label) = save.label :=
    stem_fileName save.plain.1
  refine ⟨save, ?_, ?_, rfl⟩
  · exact own.symm ▸ found
  · exact congrArg fileName own

theorem listRunLabels_names : (listRunLabels listing).map fileName = (globbed listing).map (·.1) := by
  rw [listRunLabels_eq, List.map_map]
  refine List.map_congr_left fun entry mem => ?_
  obtain ⟨_, _, name, _⟩ := stem_globbed perm mem
  exact name

theorem listRunLabels_nodup : (listRunLabels listing).Nodup := by
  refine List.Nodup.of_map fileName ?_
  rw [listRunLabels_names perm, ((globbed_perm perm).map _).nodup_iff, saveAll_eq]
  exact LastWrite.nodup_written _ _ _

theorem mem_listRunLabels {label : String} :
    label ∈ listRunLabels listing ↔ ∃ save, lastSave label saves = some save := by
  constructor
  · intro mem
    obtain ⟨entry, listed, rfl⟩ := List.mem_map.mp mem
    obtain ⟨save, found, _⟩ := stem_globbed perm listed
    exact ⟨save, found⟩
  · rintro ⟨save, found⟩
    have stored : (fileName label, save.file py outside) ∈ globbed listing := by
      rw [(globbed_perm perm).mem_iff, saveAll_eq, LastWrite.mem_written]
      exact ⟨save, last_fileName label saves ▸ found, rfl⟩
    exact List.mem_map.mpr ⟨_, stored, stem_fileName (plain_of_last found).1⟩

theorem listRunLabels_newestFirst : NewestFirst saves (listRunLabels listing) := by
  have ordered := RowOrder.sorted_pairwise (fun entry : String × RunFile => -entry.2.mtime)
    (listing.filter fun entry => isRun entry.1)
  refine List.pairwise_map.mpr (List.Pairwise.imp_of_mem ?_ ordered)
  intro a b first second le s foundS t foundT
  obtain ⟨s', found, _, fileS⟩ := stem_globbed perm first
  cases (show some s = some s' from foundS.symm.trans found)
  obtain ⟨t', found', _, fileT⟩ := stem_globbed perm second
  cases (show some t = some t' from foundT.symm.trans found')
  rw [← fileS, ← fileT] at le
  exact neg_le_neg_iff.mp le

end

/-- The last saves of these labels, as the dashboard summarises them. -/
def lastSummaries (saves : List Save) (labels : List String) : List EvalRunSummary :=
  labels.filterMap fun label => (lastSave label saves).map fun save => summaryOf save.run

theorem summaries_saved {saves : List Save}
    (readable : ∀ save ∈ saves, Readable py outside save.run) (labels : List String)
    (saved : ∀ label ∈ labels, ∃ save, lastSave label saves = some save) :
    (∀ label ∈ labels, ∀ save ∈ lastSave label saves, save.Whole py outside) ∧
        summaries py outside (saveAll py outside saves) labels =
          .ok (lastSummaries saves labels) ∨
      ∃ label ∈ labels, ∃ save ∈ lastSave label saves, ¬ save.Whole py outside ∧
        summaries py outside (saveAll py outside saves) labels =
          .error (unreadable outside (save.bytes py outside)) := by
  induction labels with
  | nil => exact .inl ⟨fun _ mem => absurd mem List.not_mem_nil, rfl⟩
  | cons label labels ih =>
    obtain ⟨save, found⟩ := saved label List.mem_cons_self
    have own := readable save (LastWrite.last_mem found).1
    have step : summaries py outside (saveAll py outside saves) (label :: labels) =
        (loadRun py outside (save.file py outside)).bind fun run =>
          (summaries py outside (saveAll py outside saves) labels).map (summaryOf run :: ·) := by
      rw [summaries, loadRunByLabel_saved saves (plain_of_last found), found]
      dsimp only
      cases loadRun py outside (save.file py outside) with
      | error => rfl
      | ok => cases summaries py outside (saveAll py outside saves) labels <;> rfl
    by_cases whole : save.Whole py outside
    · rw [step, loadRun_whole own whole]
      obtain ⟨all, listed⟩ | ⟨other, mem, cut, last, short, refused⟩ :=
        ih fun l mem => saved l (List.mem_cons_of_mem _ mem)
      · have more : lastSummaries saves (label :: labels) =
            summaryOf save.run :: lastSummaries saves labels := by
          simp only [lastSummaries, List.filterMap_cons, found, Option.map_some]
        refine .inl ⟨?_, ?_⟩
        · intro l mem s last
          obtain rfl | later := List.mem_cons.mp mem
          · cases (show some s = some save from last.symm.trans found)
            exact whole
          · exact all l later s last
        · rw [listed, more]
          rfl
      · refine .inr ⟨other, List.mem_cons_of_mem _ mem, cut, last, short, ?_⟩
        rw [refused]
        rfl
    · refine .inr ⟨label, List.mem_cons_self, save, found, whole, ?_⟩
      rw [step, loadRun_cut own whole]
      rfl

/-- After any sequence of saves, in whatever order the directory is globbed: every saved label is
listed once, newest first, and the listing summarises the last run of each, or fails on one whose
last save was cut short if there is any. -/
theorem saved_runs_listed {saves : List Save} {listing : RunsDir}
    (readable : ∀ save ∈ saves, Readable py outside save.run)
    (perm : listing.Perm (saveAll py outside saves)) :
    (listRunLabels listing).Nodup ∧ NewestFirst saves (listRunLabels listing) ∧
    (∀ label, label ∈ listRunLabels listing ↔ ∃ save ∈ saves, save.label = label) ∧
    ((∀ label, ∀ save ∈ lastSave label saves, save.Whole py outside) →
      listEvalRuns py outside (saveAll py outside saves) listing =
        .ok (lastSummaries saves (listRunLabels listing))) ∧
    ∀ label, ∀ save ∈ lastSave label saves, ¬ save.Whole py outside →
      ∃ other, ∃ cut ∈ lastSave other saves, ¬ cut.Whole py outside ∧
        listEvalRuns py outside (saveAll py outside saves) listing =
          .error (unreadable outside (cut.bytes py outside)) := by
  have served := summaries_saved readable (listRunLabels listing) fun label mem =>
    (mem_listRunLabels perm).mp mem
  refine ⟨listRunLabels_nodup perm, listRunLabels_newestFirst perm, fun label => ?_,
    fun whole => ?_, fun label save last short => ?_⟩
  · rw [mem_listRunLabels perm]
    exact LastWrite.last_isSome
  · obtain ⟨_, listed⟩ | ⟨other, _, cut, last, short, _⟩ := served
    · exact listed
    · exact absurd (whole other cut last) short
  · obtain ⟨whole, _⟩ | ⟨other, _, cut, last', short', refused⟩ := served
    · exact absurd (whole label ((mem_listRunLabels perm).mpr ⟨save, last⟩) save last) short
    · exact ⟨other, cut, last', short', refused⟩

structure Args where
  scenarios : Option String := none
  label : String := "eval"
  noJudge : Bool := false
  compareTo : Option String := none
  noMemory : Bool := false

/-- An empty string counts as an option that was not given. -/
def given : Option String → Option String
  | some "" => none
  | text => text

def Args.options (args : Args) (timing : ℕ → Timing) (now : ℤ) : EvalOptions where
  judging := !args.noJudge
  scenarioKeys := (given args.scenarios).map (·.splitOn ",")
  runLabel := args.label
  memoryEnabled := !args.noMemory
  timing := timing
  now := now

def asRun (run : EvalReport) : EvalRun where
  runLabel := run.runLabel
  aggregate := run.aggregate

def defaultThreshold : ℚ := 1 / 20

def noSuchFile (label : String) : Error :=
  .other ("[Errno 2] No such file or directory: 'eval_runs/" ++ fileName label ++ "'")

variable (py outside) in
def compareWith (dir : RunsDir) (run : EvalReport) (label : String) :
    Except Error RegressionReport := do
  match ← findRun outside dir label with
  | none => throw (noSuchFile label)
  | some file =>
    return compareRuns (asRun (← loadRun py outside file)) (asRun run) defaultThreshold

variable (py outside) in
/-- What `main` does with a run: it is saved before the baseline is read. -/
def finish (args : Args) (run : EvalReport) (now : ℤ) (dir : RunsDir) :
    RunsDir × Except Error (Option RegressionReport) :=
  match saveRun py outside run now dir with
  | .error e => (dir, .error e)
  | .ok saved =>
    match given args.compareTo with
    | none => (saved, .ok none)
    | some label => (saved, (compareWith py outside saved run label).map some)

theorem saveAll_append (saves : List Save) (save : Save) : saveAll py outside (saves ++ [save]) =
    Save.apply py outside (saveAll py outside saves) save := by
  rw [saveAll, List.foldl_append]
  rfl

theorem compareWith_saved {saves : List Save} (run : EvalReport) {label : String}
    (plain : Plain label) (readable : ∀ save ∈ saves, Readable py outside save.run) :
    compareWith py outside (saveAll py outside saves) run label =
      match lastSave label saves with
      | none => .error (noSuchFile label)
      | some save =>
        if save.Whole py outside then
          .ok (compareRuns (asRun save.run) (asRun run) defaultThreshold)
        else .error (unreadable outside (save.bytes py outside)) := by
  unfold compareWith
  rw [findRun_saved saves plain]
  cases found : lastSave label saves with
  | none => rfl
  | some save =>
    have own := readable save (LastWrite.last_mem found).1
    simp only [Option.map_some, bind, Except.bind]
    split_ifs with whole
    · rw [loadRun_whole own whole]
      rfl
    · rw [loadRun_cut own whole]

theorem runEval_label {app : App} {options : EvalOptions} {dataset : List ScenarioSpec}
    {run : EvalReport} {permit : Permit Label ChatOutcome Database Error} {s u : Database}
    {g : List BackendEvent}
    (evaluated : Runs .alone permit (runEval app options dataset) s (.returned run) u g) :
    run.runLabel = options.runLabel := by
  obtain ⟨_, reports, rfl, _⟩ := runEval_forall₂
    (R := Reported app options permit) Reported.grow runScenario_evaluated evaluated
  rfl

/-- Every evaluation that returns is saved, and then compared with the run that was saved last under
the other label; compared with its own label it is compared with itself, and nothing moved. -/
theorem cli_compares {app : App} {args : Args} {timing : ℕ → Timing} {started now : ℤ}
    {dataset : List ScenarioSpec} {run : EvalReport}
    {permit : Permit Label ChatOutcome Database Error} {s u : Database} {g : List BackendEvent}
    {saves : List Save} {label : String}
    (evaluated : Runs .alone permit (runEval app (args.options timing started) dataset) s
      (.returned run) u g)
    (asked : args.compareTo = some label) (plain : Plain args.label) (plain' : Plain label)
    (readable : ∀ save ∈ saves, Readable py outside save.run)
    (readable' : Readable py outside run) :
    ∃ own : Plain run.runLabel,
      (finish py outside args run now (saveAll py outside saves)).1 =
        saveAll py outside (saves ++ [⟨run, now, none, own⟩]) ∧
      (label = args.label → ∃ report : RegressionReport,
        (finish py outside args run now (saveAll py outside saves)).2 =
          .ok (some report) ∧ report.regressions = [] ∧ report.improvements = []) ∧
      (label ≠ args.label →
        (finish py outside args run now (saveAll py outside saves)).2 =
          match lastSave label saves with
          | none => .error (noSuchFile label)
          | some save =>
            if save.Whole py outside then
              .ok (some (compareRuns (asRun save.run) (asRun run) defaultThreshold))
            else .error (unreadable outside (save.bytes py outside))) := by
  have named : run.runLabel = args.label := runEval_label evaluated
  have own : Plain run.runLabel := by rwa [named]
  have wanted : given args.compareTo = some label := by
    rw [asked, given]
    exact fun empty => plain'.1 (Option.some.inj empty)
  have compared : finish py outside args run now (saveAll py outside saves) =
      (saveAll py outside (saves ++ [⟨run, now, none, own⟩]),
        (compareWith py outside (saveAll py outside (saves ++ [⟨run, now, none, own⟩])) run
          label).map some) := by
    unfold finish
    rw [saveRun_apply own, ← saveAll_append, wanted]
  have all : ∀ save ∈ saves ++ [⟨run, now, none, own⟩], Readable py outside save.run := by
    intro save mem
    obtain earlier | last := List.mem_append.mp mem
    · exact readable save earlier
    · rw [List.mem_singleton.mp last]
      exact readable'
  refine ⟨own, ?_⟩
  rw [compared]
  dsimp only
  rw [compareWith_saved run plain' all, lastSave, LastWrite.last_append]
  refine ⟨rfl, fun same => ?_, fun other => ?_⟩
  · have whole : Save.Whole py outside ⟨run, now, none, own⟩ := by
      intro n missing
      cases missing
    have labelled : Save.label ⟨run, now, none, own⟩ = label := named.trans same.symm
    rw [if_pos labelled]
    dsimp only
    rw [if_pos whole]
    exact ⟨_, rfl, compareRuns_self (asRun run) (by norm_num [defaultThreshold])⟩
  · have distinct : Save.label ⟨run, now, none, own⟩ ≠ label :=
      fun same => other (same.symm.trans named)
    rw [if_neg distinct, ← lastSave]
    cases lastSave label saves with
    | none => rfl
    | some save =>
      dsimp only
      split_ifs <;> rfl

end

def newline (depth : ℕ) : List Char := '\n' :: List.replicate (2 * depth) ' '

def block (depth : ℕ) (left right : Char) : List (List Char) → List Char
  | [] => [left, right]
  | first :: rest => left :: (newline (depth + 1) ++ first ++
      rest.flatMap (fun member => ',' :: (newline (depth + 1) ++ member)) ++
      newline depth ++ [right])

mutual

def indented (depth : ℕ) : Json → List Char
  | .arr items => block depth '[' ']' (indentedItems (depth + 1) items)
  | .obj fields => block depth '{' '}' (indentedFields (depth + 1) fields)
  | value => value.dumps Platform.shortDecimal

def indentedItems (depth : ℕ) : List Json → List (List Char)
  | [] => []
  | item :: items => indented depth item :: indentedItems depth items

def indentedFields (depth : ℕ) : List (String × Json) → List (List Char)
  | [] => []
  | (key, value) :: fields =>
    (Json.quoted key ++ [':', ' '] ++ indented depth value) :: indentedFields depth fields

end

def indentedText (value : Json) : String := String.ofList (indented 0 value)

def sampleRun : EvalReport where
  runLabel := "sample"
  startedAt := 0
  scenarioKeys := ["checkout-deploy-outage"]
  scenarios := []
  aggregate := (evalRun "sample" 1 0).aggregate

def epoch : String := "1970-01-01T00:00:00Z"

def epochInstants : Instants where
  text t := epoch ++ String.ofList (List.replicate (Equiv.intEquivNat t) '+')
  read text := some (Equiv.intEquivNat.symm (text.length - epoch.length))
  read_text t := by
    rw [String.length_append, String.length_ofList, List.length_replicate, Nat.add_sub_cancel_left,
      Equiv.symm_apply_apply]

def ownText (run : EvalReport) : String :=
  indentedText ((runCodec .ascii epochInstants).write run)

def readerOf (run : EvalReport) : Outside where
  instants := epochInstants
  jsonText := indentedText
  parse text := if text = ownText run then some ((runCodec .ascii epochInstants).write run) else none
  invalidText _ := "1 validation error for EvalRun"
  undecodable _ := "'utf-8' codec can't decode bytes: unexpected end of data"
  writeElsewhere label _ _ := .error (noSuchFile label)
  findElsewhere _ _ := .ok none

theorem runText_readerOf (run : EvalReport) : runText .ascii (readerOf run) run = ownText run := rfl

theorem readerOf_parse (run : EvalReport) (text : String) : (readerOf run).parse text =
    if text = ownText run then some ((runCodec .ascii epochInstants).write run) else none := by
  rw [readerOf]

theorem readable_readerOf (run : EvalReport) : Readable .ascii (readerOf run) run where
  whole := by
    rw [readerOf_parse, if_pos (runText_readerOf run)]
    rfl
  cut n short := by
    rw [runText_readerOf] at short ⊢
    intro text decoded
    rw [readerOf_parse, if_neg]
    intro same
    obtain ⟨valid, found⟩ := Option.dite_none_right_eq_some.mp decoded
    obtain rfl := Option.some.inj found
    have size := congrArg (fun text : String => text.toUTF8.size) same
    change ((ownText run).toUTF8.extract 0 n).size = (ownText run).toUTF8.size at size
    rw [ByteArray.size_extract] at size
    omega

theorem sampleRun_plain : Plain sampleRun.runLabel := by decide +kernel

/-- The run is saved, and saved again by a process that died with the file still empty. -/
def sampleSaves : List Save :=
  [⟨sampleRun, 1, none, sampleRun_plain⟩, ⟨sampleRun, 2, some 0, sampleRun_plain⟩]

theorem sampleSaves_readable :
    ∀ save ∈ sampleSaves, Readable .ascii (readerOf sampleRun) save.run := by
  intro save mem
  simp only [sampleSaves, List.mem_cons, List.not_mem_nil, or_false] at mem
  obtain rfl | rfl := mem <;> exact readable_readerOf sampleRun

theorem sampleSaves_cut :
    ¬ Save.Whole .ascii (readerOf sampleRun) ⟨sampleRun, 2, some 0, sampleRun_plain⟩ := by
  intro whole
  have few := whole 0 rfl
  rw [runText_readerOf] at few
  exact absurd few (by decide +kernel)

theorem saved_run_read_back_sample :
    getEvalRun .ascii (readerOf sampleRun) (saveAll .ascii (readerOf sampleRun) sampleSaves)
      "sample" = .error (.other "1 validation error for EvalRun") := by
  have last : lastSave "sample" sampleSaves = some ⟨sampleRun, 2, some 0, sampleRun_plain⟩ := rfl
  have empty : Save.bytes .ascii (readerOf sampleRun) ⟨sampleRun, 2, some 0, sampleRun_plain⟩ =
      "".toUTF8 := ByteArray.extract_same
  rw [saved_run_read_back sampleSaves_readable (by decide +kernel), last]
  dsimp only
  rw [if_neg sampleSaves_cut, empty, unreadable, fromUTF8?_toUTF8]
  rfl

theorem saved_runs_listed_sample :
    NewestFirst sampleSaves
      (listRunLabels (saveAll .ascii (readerOf sampleRun) sampleSaves)) ∧
    "sample" ∈ listRunLabels (saveAll .ascii (readerOf sampleRun) sampleSaves) := by
  have listed := saved_runs_listed sampleSaves_readable (List.Perm.refl _)
  exact ⟨listed.2.1, (listed.2.2.1 "sample").mpr ⟨_, List.mem_cons_self, rfl⟩⟩

/-- The run of the evaluation of one scenario is compared with the run of its own label. -/
theorem cli_compares_own : ∃ run : EvalReport,
    (eval (runEval checkoutApp oneScenario [checkoutDeployOutageSpec]) rollbackThenJudgment
      Database.empty).1 = .returned run ∧
    ∃ report : RegressionReport,
      (finish .ascii (readerOf run) { compareTo := some "eval" } run 3 []).2 = .ok (some report) ∧
      report.regressions = [] ∧ report.improvements = [] := by
  obtain ⟨run, returned, _⟩ := returned_evaluation
  have evaluated := eval_runs (runEval checkoutApp oneScenario [checkoutDeployOutageSpec])
    rollbackThenJudgment Database.empty
  rw [returned] at evaluated
  have options : oneScenario =
      Args.options { compareTo := some "eval" } (fun _ => ⟨0, 2⟩) 0 := rfl
  rw [options] at evaluated
  have none : ∀ save ∈ ([] : List Save), Readable .ascii (readerOf run) save.run :=
    fun _ mem => absurd mem List.not_mem_nil
  have plain : Plain "eval" := by decide +kernel
  obtain ⟨_, _, alone, _⟩ :=
    cli_compares evaluated rfl plain plain none (readable_readerOf run)
  exact ⟨run, returned, alone rfl⟩

end OpsPilot.RunStorage
