import OpsPilot.SlidingWindow
import OpsPilot.Models

/-! The gate in front of every protected route: a constant-time key comparison, then a rate limit
with one bucket of request times for each identity. -/

namespace OpsPilot.RateLimit
open Models SlidingWindow

structure AuthSettings where
  apiKey : String
  rateLimitMaxRequests : ℕ := 100
  rateLimitWindowSeconds : ℚ := 60

/-- `defaultdict(deque)` -/
abbrev RequestLog := String → List ℚ

/-- `while bucket and bucket[0] < window_start: bucket.popleft()` -/
def popExpired (windowStart : ℚ) : List ℚ → List ℚ
  | [] => []
  | first :: rest => if first < windowStart then popExpired windowStart rest else first :: rest

theorem popExpired_eq (windowStart : ℚ) (bucket : List ℚ) :
    popExpired windowStart bucket = evict windowStart bucket := by
  induction bucket with
  | nil => rfl
  | cons first rest ih =>
    by_cases early : first < windowStart
    · rw [popExpired, if_pos early, ih, evict, evict,
        List.dropWhile_cons_of_pos (by simpa using early)]
    · rw [popExpired, if_neg early, evict, List.dropWhile_cons_of_neg (by simpa using early)]

def checkRateLimit (identity : String) (settings : AuthSettings) (now : ℚ) (log : RequestLog) :
    RequestLog × Except Error Unit :=
  let bucket := popExpired (now - settings.rateLimitWindowSeconds) (log identity)
  if bucket.length ≥ settings.rateLimitMaxRequests then
    (Function.update log identity bucket,
      .error (.http 429 "Rate limit exceeded. Try again shortly."))
  else (Function.update log identity (bucket ++ [now]), .ok ())

def compareDigest (a b : String) : Except Error Bool :=
  if (a.toList ++ b.toList).all (·.toNat < 128) then .ok (a == b)
  else .error (.other "comparing strings with non-ASCII characters is not supported")

def unauthorized : Error :=
  .http 401 "Missing or invalid API key. Send it in the X-API-Key header."

def requireApiKey (providedKey : Option String) (settings : AuthSettings) (now : ℚ)
    (log : RequestLog) : RequestLog × Except Error Unit :=
  match providedKey with
  | none => (log, .error unauthorized)
  | some key =>
    match compareDigest key settings.apiKey with
    | .error e => (log, .error e)
    | .ok false => (log, .error unauthorized)
    | .ok true => checkRateLimit key settings now log

theorem requireApiKey_other {providedKey : Option String} {settings : AuthSettings}
    (other : providedKey ≠ some settings.apiKey) (now : ℚ) (log : RequestLog) :
    ∃ e, requireApiKey providedKey settings now log = (log, .error e) := by
  cases providedKey with
  | none => exact ⟨_, rfl⟩
  | some key =>
    have unequal : (key == settings.apiKey) = false :=
      beq_eq_false_iff_ne.mpr fun same => other (congrArg some same)
    unfold requireApiKey compareDigest
    dsimp only
    split_ifs
    · rw [unequal]
      exact ⟨_, rfl⟩
    · exact ⟨_, rfl⟩

theorem requireApiKey_own {settings : AuthSettings}
    (ascii : ∀ c ∈ settings.apiKey.toList, c.toNat < 128) (now : ℚ) (log : RequestLog) :
    requireApiKey (some settings.apiKey) settings now log =
      checkRateLimit settings.apiKey settings now log := by
  have compared : compareDigest settings.apiKey settings.apiKey = .ok true := by
    rw [compareDigest, if_pos, beq_self_eq_true]
    simpa using ascii
  simp only [requireApiKey, compared]

/-- An authenticated request. -/
structure Request where
  identity : String
  time : ℚ

structure Served where
  log : RequestLog := fun _ => []
  decisions : List (Request × Bool) := []

variable (settings : AuthSettings)

def Served.request (served : Served) (request : Request) : Served :=
  let (log, outcome) := checkRateLimit request.identity settings request.time served.log
  ⟨log, served.decisions ++ [(request, outcome.toBool)]⟩

def serve (requests : List Request) : Served := requests.foldl (Served.request settings) {}

theorem serve_append (requests : List Request) (request : Request) :
    serve settings (requests ++ [request]) = (serve settings requests).request settings request := by
  rw [serve, List.foldl_append]
  rfl

def decisionsOf (identity : String) (decisions : List (Request × Bool)) : List (ℚ × Bool) :=
  (decisions.filter (·.1.identity == identity)).map fun decision => (decision.1.time, decision.2)

theorem decisionsOf_append (identity : String) (before after : List (Request × Bool)) :
    decisionsOf identity (before ++ after) =
      decisionsOf identity before ++ decisionsOf identity after := by
  simp [decisionsOf]

/-- What one identity sees of the limiter. -/
def Served.of (identity : String) (served : Served) : History ℚ :=
  ⟨decisionsOf identity served.decisions, served.log identity⟩

def timesOf (identity : String) (requests : List Request) : List ℚ :=
  (requests.filter (·.identity == identity)).map (·.time)

def windowStart (settings : AuthSettings) (t : ℚ) : ℚ := t - settings.rateLimitWindowSeconds

theorem windowStart_monotone : Monotone (windowStart settings) :=
  fun _ _ later => sub_le_sub_right later _

theorem request_own (served : Served) (request : Request) :
    (served.request settings request).of request.identity =
      (served.of request.identity).request settings.rateLimitMaxRequests (windowStart settings)
        request.time := by
  unfold Served.request checkRateLimit History.request Served.of
  dsimp only
  rw [popExpired_eq, windowStart, decisionsOf_append]
  split_ifs <;> simp [decisionsOf, Except.toBool]

theorem request_other (served : Served) {request : Request} {identity : String}
    (other : request.identity ≠ identity) :
    (served.request settings request).of identity = served.of identity := by
  unfold Served.request checkRateLimit Served.of
  dsimp only
  rw [decisionsOf_append]
  split_ifs <;> simp [decisionsOf, other, Function.update_of_ne other.symm]

theorem serve_projects (requests : List Request) (identity : String) :
    (serve settings requests).of identity = SlidingWindow.serve settings.rateLimitMaxRequests
      (windowStart settings) (timesOf identity requests) := by
  induction requests using List.reverseRecOn with
  | nil => rfl
  | append_singleton requests request ih =>
    rw [serve_append, timesOf, List.filter_append, List.map_append, ← timesOf]
    by_cases own : request.identity = identity
    · subst own
      rw [request_own, ih, SlidingWindow.serve, SlidingWindow.serve, List.filter_cons_of_pos (by simp),
        List.foldl_append]
      rfl
    · rw [request_other settings _ own, ih, List.filter_cons_of_neg (by simpa using own)]
      simp

/-- The accepted requests of an identity in the closed window that ends at `t`. -/
def acceptedIn (identity : String) (t : ℚ) (decisions : List (Request × Bool)) :
    List (Request × Bool) :=
  decisions.filter fun decision => decision.2 && decision.1.identity == identity &&
    decide (t - settings.rateLimitWindowSeconds ≤ decision.1.time) && decide (decision.1.time ≤ t)

theorem acceptedIn_length (identity : String) (t : ℚ) (decisions : List (Request × Bool)) :
    (acceptedIn settings identity t decisions).length =
      (window (windowStart settings) t (accepted (decisionsOf identity decisions))).length := by
  simp only [acceptedIn, window, accepted, decisionsOf, List.filter_map, List.filter_filter,
    List.length_map]
  refine congrArg List.length (List.filter_congr fun decision _ => ?_)
  simp only [Function.comp_apply, windowStart]
  cases decision.2 <;> cases decision.1.identity == identity <;> simp

theorem timesOf_ordered {requests : List Request}
    (ordered : (requests.map (·.time)).Pairwise (· ≤ ·)) (identity : String) :
    (timesOf identity requests).Pairwise (· ≤ ·) :=
  ordered.sublist ((List.filter_sublist).map _)

/-- For every sequence of requests at non-decreasing times: no closed window holds more accepted
requests of an identity than the limit; a request is rejected only if its own window holds that
many already; nobody else's requests count; and the buckets stay sorted and small. -/
theorem rate_limited {requests : List Request}
    (ordered : (requests.map (·.time)).Pairwise (· ≤ ·)) :
    (∀ identity t, (acceptedIn settings identity t (serve settings requests).decisions).length ≤
      settings.rateLimitMaxRequests) ∧
    (∀ before request after, (serve settings requests).decisions =
        before ++ (request, false) :: after → settings.rateLimitMaxRequests ≤
          (acceptedIn settings request.identity request.time before).length) ∧
    (∀ identity, decisionsOf identity (serve settings requests).decisions =
      decisionsOf identity
        (serve settings (requests.filter (·.identity == identity))).decisions) ∧
    ∀ identity, ((serve settings requests).log identity).Pairwise (· ≤ ·) ∧
      ((serve settings requests).log identity).length ≤ settings.rateLimitMaxRequests := by
  have limited : ∀ identity, Limited settings.rateLimitMaxRequests (windowStart settings)
      (timesOf identity requests) ((serve settings requests).of identity) := by
    intro identity
    rw [serve_projects]
    exact serve_limited (windowStart_monotone settings) (timesOf_ordered ordered identity)
  refine ⟨fun identity t => ?_, fun before request after decided => ?_, fun identity => ?_,
    fun identity => ⟨(limited identity).bucket_sorted, (limited identity).few⟩⟩
  · rw [acceptedIn_length]
    exact (limited identity).bounded t
  · rw [acceptedIn_length]
    refine (limited request.identity).refused _ (decisionsOf request.identity after) _ ?_
    rw [Served.of, decided, decisionsOf_append]
    simp [decisionsOf]
  · have own : timesOf identity (requests.filter (·.identity == identity)) =
        timesOf identity requests := by
      rw [timesOf, List.filter_filter]
      simp [timesOf]
    have same : (serve settings (requests.filter (·.identity == identity))).of identity =
        (serve settings requests).of identity := by
      rw [serve_projects, serve_projects, own]
    exact congrArg History.decisions same.symm

theorem rate_limited_three :
    let settings : AuthSettings := { apiKey := "key", rateLimitMaxRequests := 3 }
    let requests := [0, 1, 2, 3, 60, 61].map fun time => Request.mk "key" time
    (serve settings requests).decisions.map (·.2) = [true, true, true, false, false, true] ∧
      ∀ t, (acceptedIn settings "key" t (serve settings requests).decisions).length ≤ 3 := by
  intro settings requests
  refine ⟨by decide +kernel, fun t => ?_⟩
  have ordered : (requests.map (·.time)).Pairwise (· ≤ ·) := by decide +kernel
  exact (rate_limited settings ordered).1 "key" t

end OpsPilot.RateLimit
