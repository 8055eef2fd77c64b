import OpsPilot.RunTrace

/-! The model call: what it costs, and bounded retries on transient failures. -/

namespace OpsPilot.ChatClient
open InvestigationState Models RunTrace DurableProgram

def pricingPerMtok : List (String × (ℚ × ℚ)) :=
  [("claude-sonnet-5", (3, 15)),
   ("claude-opus-5", (15, 75)),
   ("claude-haiku-4-5-20251001", (4 / 5, 4))]

def defaultPricing : ℚ × ℚ := (3, 15)

def estimateCostUsd (model : String) (inputTokens outputTokens : ℤ) : ℚ :=
  let pricing := (pricingPerMtok.lookup model).getD defaultPricing
  (inputTokens * pricing.1 + outputTokens * pricing.2) / 1000000

/-- `retries` more attempts are left after this one, which is number `attempt`. -/
def callWithRetries (request : ChatRequest) : (retries attempt : ℕ) → Backend ModelResponse
  | 0, _ =>
    .ask (.chat request)
      (fun
        | .response response => .ret response
        | .transient text => .raise (.transientProvider text))
      .raise
  | retries + 1, attempt =>
    let retry : Backend ModelResponse :=
      (mark (.sleep attempt)).bind fun _ => callWithRetries request retries (attempt + 1)
    .ask (.chat request)
      (fun
        | .response response => .ret response
        | .transient _ => retry)
      (fun
        | .transientProvider _ => retry
        | error => .raise error)

def maxRetries : ℕ := 2

structure ClientTrace (retries : ℕ) (g : List BackendEvent) : Prop where
  labels : ∀ ev ∈ g, ofClient ev.label
  attempts : chatAttempts g ≤ retries + 1

theorem ClientTrace.cons_sleep {retries : ℕ} {g : List BackendEvent} {ev : BackendEvent}
    {seconds : ℕ} (trace : ClientTrace retries g) (sleeping : ev.label = .sleep seconds) :
    ClientTrace retries (ev :: g) := by
  refine ⟨?_, ?_⟩
  · intro ev' mem
    cases mem with
    | head => rw [sleeping]; trivial
    | tail _ later => exact trace.labels ev' later
  · have same : chatAttempts (ev :: g) = chatAttempts g := by
      rw [chatAttempts, List.countP_cons, sleeping]
      rfl
    exact same ▸ trace.attempts

theorem ClientTrace.cons_chat {retries : ℕ} {g : List BackendEvent} {ev : BackendEvent}
    {request : ChatRequest} (trace : ClientTrace retries g) (calling : ev.label = .chat request) :
    ClientTrace (retries + 1) (ev :: g) := by
  refine ⟨?_, ?_⟩
  · intro ev' mem
    cases mem with
    | head => rw [calling]; trivial
    | tail _ later => exact trace.labels ev' later
  · have more : chatAttempts (ev :: g) = chatAttempts g + 1 := by
      rw [chatAttempts, List.countP_cons, calling]
      rfl
    have := trace.attempts
    omega

theorem ClientTrace.chat (retries : ℕ) {ev : BackendEvent} {request : ChatRequest}
    (calling : ev.label = .chat request) : ClientTrace retries [ev] := by
  refine ⟨?_, ?_⟩
  · intro ev' mem
    rw [List.mem_singleton.mp mem, calling]
    trivial
  · simp [chatAttempts, calling, isChat]

variable {permit : Permit Label ChatOutcome Database Error}

/-- How a model call with `retries` retries may end, and the steps it may have taken. -/
def CallEnds (permit : Permit Label ChatOutcome Database Error) (retries : ℕ) :
    Outcome Error ModelResponse → List BackendEvent → Prop
  | .returned response, g => ClientTrace retries g ∧ responses g = [response]
  | .raised e, g => ClientTrace retries g ∧ responses g = [] ∧
      ((∃ text, e = .transientProvider text) ∨
        Faulted permit (.raised e : Outcome Error ModelResponse))
  | .died, g => ClientTrace retries g ∧ responses g = [] ∧
      Faulted permit (.died : Outcome Error ModelResponse)

theorem CallEnds.retried {retries : ℕ} {o : Outcome Error ModelResponse} {g : List BackendEvent}
    {ev : BackendEvent} {request : ChatRequest} (ends : CallEnds permit retries o g)
    (calling : ev.label = .chat request) (failed : responses [ev] = []) :
    CallEnds permit (retries + 1) o (ev :: g) := by
  have unanswered : responses (ev :: g) = responses g := by
    rw [← List.singleton_append, responses_append, failed, List.nil_append]
  cases o with
  | returned response => exact ⟨ends.1.cons_chat calling, unanswered.trans ends.2⟩
  | raised e => exact ⟨ends.1.cons_chat calling, unanswered.trans ends.2.1, ends.2.2⟩
  | died => exact ⟨ends.1.cons_chat calling, unanswered.trans ends.2.1, ends.2.2⟩

theorem CallEnds.slept {retries seconds : ℕ} {o : Outcome Error ModelResponse}
    {g : List BackendEvent} (ends : CallEnds permit retries o g) :
    CallEnds permit retries o (.performed (.sleep seconds) :: g) := by
  cases o with
  | returned response => exact ⟨ends.1.cons_sleep rfl, ends.2⟩
  | raised e => exact ⟨ends.1.cons_sleep rfl, ends.2⟩
  | died => exact ⟨ends.1.cons_sleep rfl, ends.2⟩

theorem callWithRetries_ends {rely : Rely Database} {request : ChatRequest}
    {retries attempt : ℕ} {s t : Database} {o : Outcome Error ModelResponse}
    {g : List BackendEvent}
    (run : Runs rely permit (callWithRetries request retries attempt) s o t g) :
    rely.holds s t ∧ CallEnds permit retries o g := by
  induction retries generalizing attempt s g with
  | zero =>
    obtain ⟨u, others, ⟨reply, g', ok, rest, rfl⟩ | ⟨e, g', ok, rest, rfl⟩ | ⟨ok, rfl, rfl, rfl⟩⟩ :=
      run.of_ask
    · cases reply with
      | response response =>
        obtain ⟨rfl, rfl, rfl⟩ := rest.of_ret
        exact ⟨others, .chat 0 rfl, rfl⟩
      | transient text =>
        obtain ⟨rfl, rfl, rfl⟩ := rest.of_raise
        exact ⟨others, .chat 0 rfl, rfl, .inl ⟨text, rfl⟩⟩
    · obtain ⟨rfl, rfl, rfl⟩ := rest.of_raise
      exact ⟨others, .chat 0 rfl, rfl, .inr ⟨_, _, ok⟩⟩
    · exact ⟨others, .chat 0 rfl, rfl, _, _, ok⟩
  | succ retries ih =>
    have retry : ∀ {u : Database} {ev : BackendEvent} {g' : List BackendEvent}, rely.holds s u →
        ev.label = .chat request → responses [ev] = [] →
        Runs rely permit ((mark (.sleep attempt)).bind fun _ =>
          callWithRetries request retries (attempt + 1)) u o t g' →
        rely.holds s t ∧ CallEnds permit (retries + 1) o (ev :: g') := by
      intro u ev g' others calling failed again
      have slept : ∀ ev' : BackendEvent, ev'.label = .sleep attempt →
          ClientTrace retries [ev'] := fun ev' sleeping =>
        ⟨by simp [sleeping, ofClient], by simp [chatAttempts, sleeping, isChat]⟩
      obtain ⟨v, more, ⟨g'', ok, rest, rfl⟩ | ⟨e, g'', ok, rest, rfl⟩ | ⟨ok, rfl, rfl, rfl⟩⟩ :=
        again.of_act
      · obtain ⟨later, ends⟩ := ih rest
        exact ⟨rely.trans others (rely.trans more later), ends.slept.retried calling failed⟩
      · obtain ⟨rfl, rfl, rfl⟩ := rest.of_raise
        have ends : CallEnds permit retries (.raised e) [.failed (.sleep attempt) e] :=
          ⟨slept _ rfl, rfl, .inr ⟨_, _, ok⟩⟩
        exact ⟨rely.trans others more, ends.retried calling failed⟩
      · have ends : CallEnds permit retries .died [.died (.sleep attempt)] :=
          ⟨slept _ rfl, rfl, _, _, ok⟩
        exact ⟨rely.trans others more, ends.retried calling failed⟩
    obtain ⟨u, others, ⟨reply, g', ok, rest, rfl⟩ | ⟨e, g', ok, rest, rfl⟩ | ⟨ok, rfl, rfl, rfl⟩⟩ :=
      run.of_ask
    · cases reply with
      | response response =>
        obtain ⟨rfl, rfl, rfl⟩ := rest.of_ret
        exact ⟨others, .chat _ rfl, rfl⟩
      | transient text => exact retry others rfl rfl rest
    · cases e with
      | transientProvider text => exact retry others rfl rfl rest
      | _ =>
        obtain ⟨rfl, rfl, rfl⟩ := rest.of_raise
        exact ⟨others, .chat _ rfl, rfl, .inr ⟨_, _, ok⟩⟩
    · exact ⟨others, .chat _ rfl, rfl, _, _, ok⟩

/-- Every attempt after the last retry is one too many. -/
example (request : ChatRequest) :
    (eval (callWithRetries request maxRetries 1) (fun _ => .transient "overloaded")
      Database.empty).2.2.length = 5 := by
  rfl

end OpsPilot.ChatClient
