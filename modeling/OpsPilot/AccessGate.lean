import OpsPilot.IncidentApi
import OpsPilot.RateLimit

/-! The application in front of its handlers: the limit on declared body sizes, the routes, and on
every protected route the key and its rate limit. -/

namespace OpsPilot.AccessGate
open InvestigationState Models SlidingWindow RateLimit DurableProgram

/-- `str.isspace`, among the characters that a header can hold -/
def isSpace (c : Char) : Bool :=
  (9 ≤ c.toNat && c.toNat ≤ 13) || (28 ≤ c.toNat && c.toNat ≤ 32) || c.toNat == 133 ||
    c.toNat == 160

def digitsOf : List Char → Option (List ℕ)
  | [] => none
  | [c] => if c.isDigit then some [c.toNat - 48] else none
  | c :: '_' :: rest => if c.isDigit then (digitsOf rest).map ((c.toNat - 48) :: ·) else none
  | c :: rest => if c.isDigit then (digitsOf rest).map ((c.toNat - 48) :: ·) else none

/-- `int` refuses to convert more digits than this. -/
def maxStrDigits : ℕ := 4300

def naturalOf (text : List Char) : Option ℕ :=
  (digitsOf text).bind fun digits =>
    if digits.length ≤ maxStrDigits then some (digits.foldl (fun n d => 10 * n + d) 0) else none

/-- `int(text)` -/
def intOf (text : String) : Option ℤ :=
  match ((text.toList.dropWhile isSpace).reverse.dropWhile isSpace).reverse with
  | '-' :: rest => (naturalOf rest).map fun n => -(n : ℤ)
  | '+' :: rest => (naturalOf rest).map fun n => (n : ℤ)
  | digits => (naturalOf digits).map fun n => (n : ℤ)

structure GateSettings where
  auth : AuthSettings
  maxRequestBodyBytes : ℤ := 64 * 1024

inductive Target (Call : Type) where
  | health
  | unrouted
  | call (call : Call)

structure HttpRequest (Call : Type) where
  contentLength : Option String := none
  providedKey : Option String := none
  time : ℚ
  target : Target Call

inductive Reply (Response : Type) where
  | error (status : ℕ) (detail : String)
  | healthy
  | handled (result : Outcome Error Response)

def Reply.isHandled {Response : Type} : Reply Response → Bool
  | .handled _ => true
  | _ => false

/-- An exception that is no `HTTPException` is answered by the handler of last resort. -/
def errorReply {Response : Type} : Error → Reply Response
  | .http status detail => .error status detail
  | _ => .error 500 "Internal server error."

structure Server (State : Type) where
  log : RequestLog := fun _ => []
  state : State

variable {Call State Response : Type} (settings : GateSettings)
  (handle : Call → State → Outcome Error Response × State)

def oversized (request : HttpRequest Call) : Bool :=
  ((request.contentLength.bind intOf).map fun size =>
    decide (settings.maxRequestBodyBytes < size)).getD false

def respond (request : HttpRequest Call) (server : Server State) :
    Reply Response × Server State :=
  if oversized settings request then (.error 413 "Request body too large.", server)
  else
    match request.target with
    | .health => (.healthy, server)
    | .unrouted => (.error 404 "Not Found", server)
    | .call call =>
      match requireApiKey request.providedKey settings.auth request.time server.log with
      | (log, .error e) => (errorReply e, { server with log := log })
      | (log, .ok _) =>
        (.handled (handle call server.state).1, ⟨log, (handle call server.state).2⟩)

/-- A request that gets as far as the rate limit. -/
structure Passes (request : HttpRequest Call) (call : Call) : Prop where
  small : oversized settings request = false
  routed : request.target = .call call
  key : request.providedKey = some settings.auth.apiKey
  ascii : ∀ c ∈ settings.auth.apiKey.toList, c.toNat < 128

/-- What is left of the bucket when the request arrives. -/
def kept (request : HttpRequest Call) (log : RequestLog) : List ℚ :=
  evict (windowStart settings.auth request.time) (log settings.auth.apiKey)

inductive Responds (request : HttpRequest Call) (server : Server State) :
    Reply Response × Server State → Prop where
  | refused (reply) (unhandled : reply.isHandled = false)
      (outside : ∀ call, ¬ Passes settings request call) : Responds request server (reply, server)
  | limited {call : Call} (passes : Passes settings request call)
      (full : settings.auth.rateLimitMaxRequests ≤ (kept settings request server.log).length) :
      Responds request server (.error 429 "Rate limit exceeded. Try again shortly.",
        ⟨Function.update server.log settings.auth.apiKey (kept settings request server.log),
          server.state⟩)
  | handled {call : Call} (passes : Passes settings request call)
      (free : (kept settings request server.log).length < settings.auth.rateLimitMaxRequests) :
      Responds request server (.handled (handle call server.state).1,
        ⟨Function.update server.log settings.auth.apiKey
          (kept settings request server.log ++ [request.time]), (handle call server.state).2⟩)

theorem errorReply_unhandled (e : Error) : (errorReply e : Reply Response).isHandled = false := by
  cases e <;> rfl

theorem requireApiKey_nonAscii {auth : AuthSettings}
    (foreign : ¬ ∀ c ∈ auth.apiKey.toList, c.toNat < 128) (now : ℚ) (log : RequestLog) :
    ∃ e, requireApiKey (some auth.apiKey) auth now log = (log, .error e) := by
  have differs : ((auth.apiKey.toList ++ auth.apiKey.toList).all (·.toNat < 128)) = false := by
    simpa using foreign
  unfold requireApiKey compareDigest
  dsimp only
  rw [differs]
  exact ⟨_, rfl⟩

variable {settings handle} in
theorem Responds.of_error {request : HttpRequest Call} {server : Server State} {call : Call}
    {e : Error} (small : oversized settings request = false) (routed : request.target = .call call)
    (turned : requireApiKey request.providedKey settings.auth request.time server.log =
      (server.log, .error e)) (outside : ∀ call, ¬ Passes settings request call) :
    Responds settings handle request server (respond settings handle request server) := by
  have reply : respond settings handle request server = (errorReply e, server) := by
    unfold respond
    rw [small, routed]
    simp only [turned, Bool.false_eq_true, if_false]
  rw [reply]
  exact .refused _ (errorReply_unhandled e) outside

theorem respond_responds (request : HttpRequest Call) (server : Server State) :
    Responds settings handle request server (respond settings handle request server) := by
  cases small : oversized settings request with
  | true =>
    have reply : respond settings handle request server =
        (.error 413 "Request body too large.", server) := if_pos small
    rw [reply]
    exact .refused _ rfl fun _ passes => by cases small.symm.trans passes.small
  | false =>
    cases routed : request.target with
    | health | unrouted =>
      unfold respond
      rw [small, routed]
      exact .refused _ rfl fun _ passes => by cases routed.symm.trans passes.routed
    | call call =>
      by_cases own : request.providedKey = some settings.auth.apiKey
      · by_cases ascii : ∀ c ∈ settings.auth.apiKey.toList, c.toNat < 128
        · have passes : Passes settings request call := ⟨small, routed, own, ascii⟩
          have checked := requireApiKey_own ascii request.time server.log
          rw [checkRateLimit, popExpired_eq] at checked
          unfold respond
          rw [small, routed, own]
          simp only [checked, Bool.false_eq_true, if_false]
          by_cases full : settings.auth.rateLimitMaxRequests ≤
              (kept settings request server.log).length
          · have limited : Responds settings handle request server _ := .limited passes full
            rw [kept, windowStart] at full limited
            rw [if_pos full]
            exact limited
          · have handled : Responds settings handle request server _ :=
              .handled passes (not_le.mp full)
            rw [kept, windowStart] at full handled
            rw [if_neg full]
            exact handled
        · obtain ⟨e, turned⟩ := requireApiKey_nonAscii ascii request.time server.log
          rw [← own] at turned
          exact .of_error small routed turned fun _ passes => ascii passes.ascii
      · obtain ⟨e, turned⟩ := requireApiKey_other own request.time server.log
        exact .of_error small routed turned fun _ passes => own passes.key

structure Session (Call State Response : Type) where
  server : Server State
  answers : List (HttpRequest Call × Reply Response) := []

def Session.request (session : Session Call State Response) (request : HttpRequest Call) :
    Session Call State Response :=
  let (reply, server) := respond settings handle request session.server
  ⟨server, session.answers ++ [(request, reply)]⟩

def serveAll (state : State) (requests : List (HttpRequest Call)) : Session Call State Response :=
  requests.foldl (Session.request settings handle) ⟨{ state := state }, []⟩

def handledOf (answers : List (HttpRequest Call × Reply Response)) :
    List (HttpRequest Call × Reply Response) :=
  answers.filter (·.2.isHandled)

theorem serveAll_append (state : State) (requests : List (HttpRequest Call))
    (request : HttpRequest Call) : serveAll settings handle state (requests ++ [request]) =
      (serveAll settings handle state requests).request settings handle request := by
  rw [serveAll, List.foldl_append]
  rfl

theorem handledOf_append (before after : List (HttpRequest Call × Reply Response)) :
    handledOf (before ++ after) = handledOf before ++ handledOf after := List.filter_append _ _

variable {settings handle}

theorem request_cases (session : Session Call State Response)
    (request : HttpRequest Call) :
    ∃ answer : Reply Response × Server State,
      Responds settings handle request session.server answer ∧
      session.request settings handle request =
        ⟨answer.2, session.answers ++ [(request, answer.1)]⟩ :=
  ⟨_, respond_responds settings handle request session.server, rfl⟩

theorem serveAll_requests (state : State) (requests : List (HttpRequest Call)) :
    (serveAll settings handle state requests).answers.map (·.1) = requests := by
  induction requests using List.reverseRecOn with
  | nil => rfl
  | append_singleton requests request ih =>
    rw [serveAll_append, Session.request, List.map_append, ih]
    rfl

theorem answered_mem {state : State} {requests : List (HttpRequest Call)}
    {answer : HttpRequest Call × Reply Response}
    (mem : answer ∈ (serveAll settings handle state requests).answers) : answer.1 ∈ requests := by
  have listed : answer.1 ∈ (serveAll settings handle state requests).answers.map (·.1) :=
    List.mem_map_of_mem mem
  rwa [serveAll_requests] at listed

theorem handled_passes {state : State} {requests : List (HttpRequest Call)}
    {answer : HttpRequest Call × Reply Response}
    (mem : answer ∈ (serveAll settings handle state requests).answers)
    (handled : answer.2.isHandled = true) : ∃ call, Passes settings answer.1 call := by
  induction requests using List.reverseRecOn with
  | nil => exact absurd mem List.not_mem_nil
  | append_singleton requests request ih =>
    rw [serveAll_append] at mem
    obtain ⟨reply, responds, step⟩ := request_cases (serveAll settings handle state requests) request
    rw [step] at mem
    obtain earlier | last := List.mem_append.mp mem
    · exact ih earlier
    · cases List.mem_singleton.mp last
      cases responds with
      | refused _ unhandled => exact absurd (handled.symm.trans unhandled) (by decide)
      | limited => cases handled
      | handled passes => exact ⟨_, passes⟩

def Counted (settings : GateSettings) (requests : List (HttpRequest Call))
    (session : Session Call State Response) : Prop :=
  ∃ (history : History ℚ) (times : List ℚ),
    Limited settings.auth.rateLimitMaxRequests (windowStart settings.auth) times history ∧
    history.bucket = session.server.log settings.auth.apiKey ∧
    accepted history.decisions = (handledOf session.answers).map (·.1.time) ∧
    ∀ t ∈ times, ∃ request ∈ requests, request.time = t

theorem Counted.request {requests : List (HttpRequest Call)} {session : Session Call State Response}
    (counted : Counted settings requests session) {request : HttpRequest Call}
    (latest : ∀ earlier ∈ requests, earlier.time ≤ request.time) :
    Counted settings (requests ++ [request]) (session.request settings handle request) := by
  obtain ⟨history, times, limited, bucket, counts, among⟩ := counted
  have later : ∀ t ∈ times, t ≤ request.time := by
    intro t mem
    obtain ⟨earlier, known, rfl⟩ := among t mem
    exact latest earlier known
  have among' : ∀ t ∈ times ++ [request.time], ∃ r ∈ requests ++ [request], r.time = t := by
    intro t mem
    obtain mem | last := List.mem_append.mp mem
    · obtain ⟨earlier, mem, same⟩ := among t mem
      exact ⟨earlier, List.mem_append_left _ mem, same⟩
    · exact ⟨request, by simp, (List.mem_singleton.mp last).symm⟩
  have next := limited.request (windowStart_monotone settings.auth) later
  have remains : kept settings request session.server.log =
      evict (windowStart settings.auth request.time) history.bucket := by
    rw [kept, bucket]
  obtain ⟨answer, responds, step⟩ :
      ∃ answer, Responds settings handle request session.server answer ∧
        session.request settings handle request = _ := request_cases session request
  rw [step]
  cases responds with
  | refused reply unhandled =>
    refine ⟨history, times, limited, bucket, ?_, fun t mem =>
      among' t (List.mem_append_left _ mem)⟩
    rw [handledOf_append, counts]
    simp [handledOf, unhandled]
  | limited passes full =>
    rw [remains] at full ⊢
    rw [History.request, if_pos full] at next
    refine ⟨_, _, next, ?_, ?_, among'⟩
    · simp
    · rw [accepted_append, counts, handledOf_append]
      simp [handledOf, accepted, Reply.isHandled]
  | handled passes free =>
    rw [remains] at free ⊢
    rw [History.request, if_neg (not_le.mpr free)] at next
    refine ⟨_, _, next, ?_, ?_, among'⟩
    · simp
    · rw [accepted_append, counts, handledOf_append]
      simp [handledOf, accepted, Reply.isHandled]

theorem serveAll_counted (state : State) {requests : List (HttpRequest Call)}
    (ordered : (requests.map (·.time)).Pairwise (· ≤ ·)) :
    Counted settings requests (serveAll settings handle state requests) := by
  induction requests using List.reverseRecOn with
  | nil =>
    exact ⟨_, _, serve_limited (windowStart_monotone settings.auth) List.Pairwise.nil, rfl, rfl,
      fun _ mem => absurd mem List.not_mem_nil⟩
  | append_singleton requests request ih =>
    rw [List.map_append] at ordered
    obtain ⟨ordered, _, later⟩ := List.pairwise_append.mp ordered
    rw [serveAll_append]
    exact (ih ordered).request fun earlier mem =>
      later _ (List.mem_map_of_mem mem) _ (List.mem_singleton.mpr rfl)

theorem evict_evict {early late : ℚ} (le : early ≤ late) (bucket : List ℚ) :
    evict late (evict early bucket) = evict late bucket := by
  induction bucket with
  | nil => rfl
  | cons first rest ih =>
    by_cases gone : first < early
    · have gone' : first < late := gone.trans_le le
      rw [evict, evict, evict, List.dropWhile_cons_of_pos (by simpa using gone),
        List.dropWhile_cons_of_pos (by simpa using gone')]
      exact ih
    · rw [evict, evict, List.dropWhile_cons_of_neg (by simpa using gone), evict]

structure Replays (settings : GateSettings) (full only : Session Call State Response) : Prop where
  answers : only.answers = handledOf full.answers
  state : only.server.state = full.server.state
  bucket : ∀ now, (∀ answer ∈ full.answers, answer.1.time ≤ now) →
    evict (windowStart settings.auth now) (only.server.log settings.auth.apiKey) =
      evict (windowStart settings.auth now) (full.server.log settings.auth.apiKey)

theorem request_handled {session : Session Call State Response} {request : HttpRequest Call}
    {call : Call} (passes : Passes settings request call)
    (free : (kept settings request session.server.log).length <
      settings.auth.rateLimitMaxRequests) :
    session.request settings handle request =
      ⟨⟨Function.update session.server.log settings.auth.apiKey
          (kept settings request session.server.log ++ [request.time]),
        (handle call session.server.state).2⟩,
        session.answers ++ [(request, .handled (handle call session.server.state).1)]⟩ := by
  obtain ⟨answer, responds, step⟩ :
      ∃ answer, Responds settings handle request session.server answer ∧
        session.request settings handle request = _ := request_cases session request
  rw [step]
  cases responds with
  | refused _ _ outside => exact absurd passes (outside call)
  | limited _ full => omega
  | handled passes' =>
    cases passes.routed.symm.trans passes'.routed
    rfl

section
variable {full only : Session Call State Response} (replays : Replays settings full only)
  {request : HttpRequest Call} (latest : ∀ answer ∈ full.answers, answer.1.time ≤ request.time)

include replays latest

theorem Replays.kept_eq :
    kept settings request only.server.log = kept settings request full.server.log :=
  replays.bucket request.time latest

theorem replays_request :
    Replays settings (full.request settings handle request)
        (only.request settings handle request) ∧
      handledOf (full.request settings handle request).answers =
        handledOf full.answers ++ [(request, (respond settings handle request full.server).1)] ∨
    Replays settings (full.request settings handle request) only ∧
      handledOf (full.request settings handle request).answers = handledOf full.answers := by
  have single : ∀ reply : Reply Response,
      handledOf [(request, reply)] = bif reply.isHandled then [(request, reply)] else [] :=
    fun _ => List.filter_singleton
  have within : ∀ {now reply}, (∀ answer ∈ full.answers ++ [(request, reply)],
      answer.1.time ≤ now) → (∀ answer ∈ full.answers, answer.1.time ≤ now) ∧ request.time ≤ now :=
    fun bound => ⟨fun answer mem => bound answer (List.mem_append_left _ mem),
      bound _ (List.mem_append_right _ (List.mem_singleton.mpr rfl))⟩
  have responds := respond_responds settings handle request full.server
  rw [Session.request]
  generalize respond settings handle request full.server = answer at responds
  cases responds with
  | refused reply unhandled =>
    have none : handledOf (full.answers ++ [(request, reply)]) = handledOf full.answers := by
      rw [handledOf_append, single, unhandled]
      exact List.append_nil _
    exact .inr ⟨⟨replays.answers.trans none.symm, replays.state,
      fun now bound => replays.bucket now (within bound).1⟩, none⟩
  | limited passes full' =>
    have none := handledOf_append full.answers
      [(request, (.error 429 "Rate limit exceeded. Try again shortly." : Reply Response))]
    rw [single] at none
    refine .inr ⟨⟨replays.answers.trans (none.trans (List.append_nil _)).symm, replays.state,
      fun now bound => ?_⟩, none.trans (List.append_nil _)⟩
    dsimp only
    rw [Function.update_self, kept, evict_evict (windowStart_monotone _ (within bound).2),
      replays.bucket now (within bound).1]
  | @handled call passes free =>
    have one := handledOf_append full.answers
      [(request, (.handled (handle call full.server.state).1 : Reply Response))]
    rw [single] at one
    refine .inl ⟨?_, one⟩
    have free' := free
    rw [← replays.kept_eq latest] at free'
    rw [request_handled passes free', replays.kept_eq latest, replays.state]
    refine ⟨?_, rfl, fun now bound => ?_⟩
    · exact (congrArg (· ++ _) replays.answers).trans one.symm
    · dsimp only
      rw [Function.update_self, Function.update_self]

end

theorem serveAll_replays (state : State) {requests : List (HttpRequest Call)}
    (ordered : (requests.map (·.time)).Pairwise (· ≤ ·)) :
    Replays settings (serveAll settings handle state requests) (serveAll settings handle state
      ((handledOf (serveAll settings handle state requests).answers).map (·.1))) := by
  induction requests using List.reverseRecOn with
  | nil => exact ⟨rfl, rfl, fun _ _ => rfl⟩
  | append_singleton requests request ih =>
    rw [List.map_append] at ordered
    obtain ⟨ordered, _, later⟩ := List.pairwise_append.mp ordered
    have latest : ∀ answer ∈ (serveAll settings handle state requests).answers,
        answer.1.time ≤ request.time := fun answer mem =>
      later _ (List.mem_map_of_mem (answered_mem mem)) _ (List.mem_singleton.mpr rfl)
    rw [serveAll_append]
    obtain ⟨both, more⟩ | ⟨first, same⟩ := replays_request (ih ordered) latest
    · rw [more, List.map_append, List.map_singleton, serveAll_append]
      exact both
    · rw [same]
      exact first

/-- For every sequence of requests at non-decreasing times: what is handled came with the key and
no declared size above the limit; no closed window holds more of it than the limit; and had nothing
else been sent, it would have been answered just the same and left the same state. -/
theorem gate_isolates (state : State) {requests : List (HttpRequest Call)}
    (ordered : (requests.map (·.time)).Pairwise (· ≤ ·)) :
    (∀ answer ∈ handledOf (serveAll settings handle state requests).answers,
      ∃ call, Passes settings answer.1 call) ∧
    (∀ t, ((handledOf (serveAll settings handle state requests).answers).filter fun answer =>
      decide (t - settings.auth.rateLimitWindowSeconds ≤ answer.1.time) &&
        decide (answer.1.time ≤ t)).length ≤ settings.auth.rateLimitMaxRequests) ∧
    (serveAll settings handle state ((handledOf (serveAll settings handle state
      requests).answers).map (·.1))).answers =
        handledOf (serveAll settings handle state requests).answers ∧
    (serveAll settings handle state ((handledOf (serveAll settings handle state
      requests).answers).map (·.1))).server.state =
        (serveAll settings handle state requests).server.state := by
  have replays : Replays settings (serveAll settings handle state requests) _ :=
    serveAll_replays state ordered
  obtain ⟨history, times, limited, _, counts, _⟩ :
      Counted settings requests (serveAll settings handle state requests) :=
    serveAll_counted state ordered
  refine ⟨fun answer mem => ?_, fun t => ?_, replays.answers, replays.state⟩
  · obtain ⟨mem, handled⟩ := List.mem_filter.mp mem
    exact handled_passes mem handled
  · have bounded := limited.bounded t
    rw [counts, window, List.filter_map, List.length_map] at bounded
    exact bounded

abbrev ApiCall := IncidentApi.Request × (ℕ → ChatOutcome)

def serveCall (app : App) (call : ApiCall) (db : Database) :
    Outcome Error IncidentApi.Response × Database :=
  let run := eval (IncidentApi.serve app call.1) call.2 db
  (run.1, run.2.1)

def oneEachMinute : GateSettings := ⟨{ apiKey := "key", rateLimitMaxRequests := 1 }, 65536⟩

def creation (key : Option String) (contentLength : String) (time : ℚ) : HttpRequest ApiCall where
  contentLength := some contentLength
  providedKey := key
  time := time
  target := .call (⟨.createIncident "checkout-deploy-outage", ⟨"process-1", 0⟩⟩,
    fun _ => .transient "overloaded")

/-- Without a key, with it, too large, too early, and in the next window. -/
def creations : List (HttpRequest ApiCall) :=
  [creation none "43" 0, creation (some "key") "43" 1, creation (some "key") "65_537" 2,
    creation (some "key") "43" 3, creation (some "key") "43" 62]

theorem gate_isolates_creations :
    (serveAll oneEachMinute (serveCall checkoutApp) Database.empty creations).answers.map
        (·.2.isHandled) = [false, true, false, false, true] ∧
      (serveAll oneEachMinute (serveCall checkoutApp) Database.empty
        ((handledOf (serveAll oneEachMinute (serveCall checkoutApp) Database.empty
          creations).answers).map (·.1))).server.state =
        (serveAll oneEachMinute (serveCall checkoutApp) Database.empty creations).server.state :=
  ⟨by decide +kernel, (gate_isolates Database.empty (by decide +kernel)).2.2.2⟩

end OpsPilot.AccessGate
