import OpsPilot.GroundingGuard

/-! When the grounding check lists a citation although a tool did return what it cites. -/

namespace OpsPilot.FalseAlarms
open JsonText AgentSchemas ReadOnlyTools InvestigationState GraphNodes GroundingGuard

def Returned (trail : List ToolCallRecord) (s : String) : Prop :=
  ∃ record ∈ trail, (registered record.toolName).isSome ∧ ∃ result, record.result = some result ∧
    Json.Within (.str s) result

/-- A token of the citation occurs in what a read-only tool returned, whatever its case. -/
def Matched (py : Platform) (trail : List ToolCallRecord) (citation : String) : Prop :=
  ∃ token ∈ tokens py citation, ∃ s, Returned trail s ∧ token <:+: py.lower s.toList

def NoFalseAlarm (py : Platform) (state : GraphState) : Prop :=
  ∀ diagnosis, state.diagnosis = some diagnosis → ∀ citation ∈ diagnosis.evidence,
    Matched py state.evidenceTrail citation →
      citation ∉ (state.merge (hypothesize py state)).ungroundedEvidence

/-- The token occurs in characters that JSON text leaves as they are. -/
def MatchedPlainly (trail : List ToolCallRecord) (token : List Char) : Prop :=
  ∃ s, Returned trail s ∧ ∃ part, part <:+: s.toList ∧
    (∀ c ∈ part, Json.plainChar c = true) ∧ part.map Char.toLower = token

theorem within_trail {trail : List ToolCallRecord} {s : String} (returned : Returned trail s) :
    Json.Within (.str s) (.arr (trail.map ToolCallRecord.modelDump)) := by
  obtain ⟨record, mem, _, result, recorded, inside⟩ := returned
  have field : ("result", result) ∈ [("step", Json.int record.step),
      ("tool_name", .str record.toolName), ("arguments", record.arguments),
      ("result", record.result.getD .null), ("error", (record.error.map .str).getD .null)] := by
    simp [recorded]
  exact .item (List.mem_map.mpr ⟨record, mem, rfl⟩) (.field field inside)

theorem plain_in_blob (py : Platform) {trail : List ToolCallRecord} {token : List Char}
    (matched : MatchedPlainly trail token) : token <:+: gatheredBlob py trail := by
  obtain ⟨s, returned, part, within, plain, rfl⟩ := matched
  rw [gatheredBlob, py.lower_dumps]
  exact (Json.plain_part_dumps within plain (within_trail returned)).map _

theorem not_listed_iff (py : Platform) {state : GraphState} {diagnosis : SubmitDiagnosisArgs}
    (found : state.diagnosis = some diagnosis) {citation : String}
    (cited : citation ∈ diagnosis.evidence) (split : tokens py citation ≠ []) :
    citation ∉ (state.merge (hypothesize py state)).ungroundedEvidence ↔
      ∃ token ∈ tokens py citation, token <:+: gatheredBlob py state.evidenceTrail := by
  have listed : citation ∈ (state.merge (hypothesize py state)).ungroundedEvidence ↔
      looksGrounded py citation (gatheredBlob py state.evidenceTrail) = false := by
    simp [GraphState.merge, hypothesize, found, cited]
  rw [listed, looksGrounded_iff py split]
  push Not
  rfl

/-- There is no false alarm where each citation that matches has a token that occurs in plain
characters of what a tool returned; there is one where a citation matches and each token of it has
a character that JSON text does not print. -/
theorem noFalseAlarm_of_plainly (py : Platform) (state : GraphState) :
    ((∀ diagnosis, state.diagnosis = some diagnosis → ∀ citation ∈ diagnosis.evidence,
      Matched py state.evidenceTrail citation →
        ∃ token ∈ tokens py citation, MatchedPlainly state.evidenceTrail token) →
      NoFalseAlarm py state) ∧
    ((∃ diagnosis, state.diagnosis = some diagnosis ∧ ∃ citation ∈ diagnosis.evidence,
      Matched py state.evidenceTrail citation ∧ Unprintable py citation) →
      ¬ NoFalseAlarm py state) := by
  have split : ∀ {citation}, Matched py state.evidenceTrail citation → tokens py citation ≠ [] := by
    rintro citation ⟨token, mem, _⟩
    exact List.ne_nil_of_mem mem
  constructor
  · intro plainly diagnosis found citation cited matched
    rw [not_listed_iff py found cited (split matched)]
    obtain ⟨token, mem, plain⟩ := plainly diagnosis found citation cited matched
    exact ⟨token, mem, plain_in_blob py plain⟩
  · rintro ⟨diagnosis, found, citation, cited, matched, unprintable⟩ silent
    have unlisted := silent diagnosis found citation cited matched
    rw [not_listed_iff py found cited (split matched)] at unlisted
    obtain ⟨token, mem, inside⟩ := unlisted
    exact unprintable_absent py unprintable token mem inside

/-- A log message with an accent, and a diagnosis with a citation. -/
def accented (citation : String) : GraphState :=
  let diagnosis : SubmitDiagnosisArgs :=
    ⟨"The checkout service is degraded.", [citation], 9 / 10, .restartService⟩
  { initialState with
    evidenceTrail :=
      [{ step := 1, toolName := "get_logs"
         arguments := GetLogsArgs.modelDump ⟨none, 60, 20⟩
         result := some (.arr [.obj [("timestamp", .str "2026-01-15T14:01:00+00:00"),
           ("level", .str "error"), ("message", .str "Service dégradé")]]) },
       { step := 2, toolName := "submit_diagnosis", arguments := diagnosis.modelDump
         result := some diagnosis.modelDump }]
    diagnosis := some diagnosis }

theorem returned_accented (citation : String) :
    Returned (accented citation).evidenceTrail "Service dégradé" := by
  refine ⟨_, List.mem_cons_self, rfl, _, rfl, ?_⟩
  exact .item List.mem_cons_self
    (.field (show ("message", Json.str "Service dégradé") ∈ _ by simp) (.refl _))

/-- A citation of the whole message is found by its first word. -/
theorem noFalseAlarm_accented : NoFalseAlarm Platform.ascii (accented "Service dégradé") := by
  refine (noFalseAlarm_of_plainly Platform.ascii _).1 ?_
  intro diagnosis found citation cited _
  obtain rfl := Option.some.inj found
  obtain rfl := List.mem_singleton.mp cited
  exact ⟨"service".toList, by decide +kernel, _, returned_accented _, "Service".toList,
    by decide +kernel, List.all_eq_true.mp (by decide +kernel), by decide +kernel⟩

/-- The message that is cited word for word is escaped in the text it is looked up in. -/
theorem false_alarm_accented : ¬ NoFalseAlarm Platform.ascii (accented "dégradé") := by
  intro silent
  have listed : "dégradé" ∈ ((accented "dégradé").merge
      (hypothesize Platform.ascii (accented "dégradé"))).ungroundedEvidence := by decide +kernel
  exact silent _ rfl "dégradé" List.mem_cons_self
    ⟨"dégradé".toList, by decide +kernel, _, returned_accented _, by decide +kernel⟩ listed

end OpsPilot.FalseAlarms
