import OpsPilot.GatherContext

/-! How long the content of a tool result can get. The preview of a truncated result is a cut of
JSON text, and the wrapper that holds it is written as JSON text once more. -/

namespace OpsPilot.ToolResultBound
open JsonText ReadOnlyTools GatherContext InvestigationState

theorem escapeChar_length {c : Char} (text : Json.printable c = true) :
    (Json.escapeChar c).length ≤ 2 := by
  simp only [Json.printable, Bool.and_eq_true, decide_eq_true_eq] at text
  unfold Json.escapeChar
  split_ifs
  all_goals simp

theorem escaped_length {text : List Char} (printable : Json.textPrintable text) :
    (text.flatMap Json.escapeChar).length ≤ 2 * text.length := by
  induction text with
  | nil => exact le_rfl
  | cons c text ih =>
    have first := escapeChar_length (printable c List.mem_cons_self)
    have rest := ih fun d mem => printable d (List.mem_cons_of_mem _ mem)
    rw [List.flatMap_cons, List.length_append, List.length_cons]
    omega

theorem textPrintable_take {text : List Char} (printable : Json.textPrintable text) (n : ℕ) :
    Json.textPrintable (text.take n) :=
  fun c mem => printable c (List.mem_of_mem_take mem)

/-- What stands for a result of `length` characters. -/
def wrapper (length : ℕ) (preview : List Char) : Json :=
  .obj [("truncated", .bool true),
    ("note", .str ("Result truncated to " ++ toString maxToolResultChars ++ " chars of " ++
      toString length ++ ".")),
    ("preview", .str (String.ofList preview))]

theorem truncateToolResult_fits {py : Platform} {payload : Json}
    (fits : (py.dumps payload).length ≤ maxToolResultChars) :
    truncateToolResult py payload = payload :=
  if_pos fits

theorem truncateToolResult_cut {py : Platform} {payload : Json}
    (long : maxToolResultChars < (py.dumps payload).length) :
    truncateToolResult py payload =
      wrapper (py.dumps payload).length ((py.dumps payload).take maxToolResultChars) :=
  if_neg (Nat.not_le.mpr long)

theorem dumps_wrapper_length (py : Platform) (length : ℕ) (preview : List Char) :
    (py.dumps (wrapper length preview)).length =
      (py.dumps (wrapper length [])).length + (preview.flatMap Json.escapeChar).length := by
  simp only [Platform.dumps, wrapper, Json.dumps, Json.dumpsFields, Json.quoted, List.length_cons,
    List.length_append, String.toList_ofList, List.flatMap_nil, List.length_nil]
  omega

/-- The bound on the content of a tool result whose text has `length` characters. -/
def contentBound (py : Platform) (length : ℕ) : ℕ :=
  2 * maxToolResultChars + (py.dumps (wrapper length [])).length

theorem dumps_truncated_length (py : Platform) (payload : Json) :
    (py.dumps (truncateToolResult py payload)).length ≤
      contentBound py (py.dumps payload).length := by
  obtain long | fits := Nat.lt_or_ge maxToolResultChars (py.dumps payload).length
  · have printable : Json.textPrintable (py.dumps payload) :=
      Json.dumps_printable py.floatRepr_printable payload
    have doubled := escaped_length (textPrintable_take printable maxToolResultChars)
    have cut := List.length_take_le maxToolResultChars (py.dumps payload)
    rw [truncateToolResult_cut long, dumps_wrapper_length, contentBound]
    omega
  · rw [truncateToolResult_fits fits, contentBound]
    omega

/-- An error, the acknowledgement of a diagnosis, or the bounded text of a payload. -/
def Bounded (py : Platform) (result : ToolResult) : Prop :=
  result.isError = true ∨ result.content = "Diagnosis received." ∨
  ∃ payload, result.content = String.ofList (py.dumps (truncateToolResult py payload)) ∧
    result.content.length ≤ contentBound py (py.dumps payload).length

theorem after_bounded (ctx : ToolContext) (step : ℕ) {round : Round} (block : ToolUseBlock)
    (bounded : ∀ result ∈ round.toolResults, Bounded ctx.py result) :
    ∀ result ∈ (round.after ctx step block).toolResults, Bounded ctx.py result := by
  have add {added : ToolResult} (ok : Bounded ctx.py added) :
      ∀ result ∈ round.toolResults ++ [added], Bounded ctx.py result := by
    intro result mem
    obtain mem | mem := List.mem_append.mp mem
    · exact bounded result mem
    · exact List.mem_singleton.mp mem ▸ ok
  unfold Round.after
  split
  · split
    · exact add (.inl rfl)
    · exact add (.inr (.inl rfl))
  · split
    · exact add (.inl rfl)
    · split
      · exact add (.inl rfl)
      · rename_i call _
        refine add (.inr (.inr ⟨call.result, rfl, ?_⟩))
        rw [String.length_ofList]
        exact dumps_truncated_length ctx.py call.result

theorem roundOf_bounded (app : App) (deps : NodeDeps) (state : GraphState)
    (response : ModelResponse) :
    ∀ result ∈ (roundOf app deps state response).toolResults, Bounded app.py result := by
  have loop (blocks : List ToolUseBlock) {round : Round}
      (bounded : ∀ result ∈ round.toolResults, Bounded app.py result) :
      ∀ result ∈ (blocks.foldl (Round.after ⟨app.py, app.tables, deps.scenario⟩
        (state.stepsUsed + 1)) round).toolResults, Bounded app.py result := by
    induction blocks generalizing round with
    | nil => exact bounded
    | cons block blocks ih =>
      exact ih (after_bounded ⟨app.py, app.tables, deps.scenario⟩ _ block bounded)
  exact loop response.toolUseBlocks fun result mem => nomatch mem

/-- A result that fits is left as it is, a longer one is replaced by a wrapper that tells its
length and shows its beginning, and the content for the model is bounded either way; this is the
content that a round of `gather_context` sends. -/
theorem truncateToolResult_bounded (py : Platform) (payload : Json) :
    ((py.dumps payload).length ≤ maxToolResultChars → truncateToolResult py payload = payload) ∧
    (maxToolResultChars < (py.dumps payload).length →
      truncateToolResult py payload = .obj [("truncated", .bool true),
        ("note", .str ("Result truncated to " ++ toString maxToolResultChars ++ " chars of " ++
          toString (py.dumps payload).length ++ ".")),
        ("preview", .str (String.ofList ((py.dumps payload).take maxToolResultChars)))]) ∧
    (py.dumps (truncateToolResult py payload)).length ≤
      2 * maxToolResultChars + (py.dumps (wrapper (py.dumps payload).length [])).length ∧
    ∀ app : App, app.py = py → ∀ deps state response,
      ∀ result ∈ (roundOf app deps state response).toolResults, Bounded py result := by
  refine ⟨truncateToolResult_fits, truncateToolResult_cut, dumps_truncated_length py payload, ?_⟩
  rintro app rfl
  exact roundOf_bounded app

end OpsPilot.ToolResultBound
