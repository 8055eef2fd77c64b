import Mathlib.Data.ENat.Lattice
import OpsPilot.ChatClient

/-! The retry loop of the model call, for any outcomes of the chat function. -/

namespace OpsPilot.RetryLoop
open DurableProgram InvestigationState Models

/-- What a call of the chat function raises. -/
inductive ChatError (Transient Other : Type) where
  | transient (error : Transient)
  | other (error : Other)

variable {Response Transient Other Seconds : Type}

inductive RetryStep (Response Transient Other Seconds : Type) where
  | called (outcome : Except (ChatError Transient Other) Response)
  | warned (attempt : ℕ) (error : Transient)
  | gaveUp (attempts : ℕ) (error : Transient)
  | slept (seconds : Seconds)

structure RetryRun (Response Transient Other Seconds : Type) where
  result : Except (ChatError Transient Other) Response
  steps : List (RetryStep Response Transient Other Seconds)

def RetryRun.after (steps : List (RetryStep Response Transient Other Seconds))
    (run : RetryRun Response Transient Other Seconds) :
    RetryRun Response Transient Other Seconds :=
  { run with steps := steps ++ run.steps }

section Loop

variable [Mul Seconds] [NatCast Seconds]

/-- The loop with `attempt` transient failures behind it. -/
def retryLoop (maxRetries : ℕ) (backoff : Seconds) (attempt : ℕ)
    (outcomes : ℕ → Except (ChatError Transient Other) Response) :
    RetryRun Response Transient Other Seconds :=
  match outcomes 0 with
  | .ok response => ⟨.ok response, [.called (.ok response)]⟩
  | .error (.other error) => ⟨.error (.other error), [.called (.error (.other error))]⟩
  | .error (.transient error) =>
    if attempt + 1 > maxRetries then
      ⟨.error (.transient error),
        [.called (.error (.transient error)), .gaveUp (attempt + 1) error]⟩
    else
      (retryLoop maxRetries backoff (attempt + 1) fun n => outcomes (n + 1)).after
        [.called (.error (.transient error)), .warned (attempt + 1) error,
          .slept (backoff * ((attempt + 1 : ℕ) : Seconds))]
termination_by maxRetries - attempt

/-- `chat_fn` has the given outcomes, call after call. -/
def callWithRetries (outcomes : ℕ → Except (ChatError Transient Other) Response) (maxRetries : ℕ)
    (backoff : Seconds) : RetryRun Response Transient Other Seconds :=
  retryLoop maxRetries backoff 0 outcomes

def Transiently (outcome : Except (ChatError Transient Other) Response) : Prop :=
  ∃ error, outcome = .error (.transient error)

def RetryStep.isLog : RetryStep Response Transient Other Seconds → Bool
  | .warned .. | .gaveUp .. => true
  | _ => false

def RetryStep.isCall : RetryStep Response Transient Other Seconds → Bool
  | .called _ => true
  | _ => false

def RetryRun.calls (run : RetryRun Response Transient Other Seconds) : ℕ :=
  run.steps.countP (·.isCall)

/-- The calls and the sleeps of a run. -/
def RetryRun.timeline (run : RetryRun Response Transient Other Seconds) :
    List (RetryStep Response Transient Other Seconds) :=
  run.steps.filter (!·.isLog)

/-- `retries` failed calls, the `i`-th followed by a sleep of `backoff * (attempt + i)`, and the
last call. -/
def attempts (outcomes : ℕ → Except (ChatError Transient Other) Response) (backoff : Seconds)
    (attempt retries : ℕ) : List (RetryStep Response Transient Other Seconds) :=
  (List.range retries).flatMap (fun i =>
    [.called (outcomes i), .slept (backoff * ((attempt + i + 1 : ℕ) : Seconds))]) ++
    [.called (outcomes retries)]

theorem attempts_succ (outcomes : ℕ → Except (ChatError Transient Other) Response)
    (backoff : Seconds) (attempt retries : ℕ) :
    attempts outcomes backoff attempt (retries + 1) =
      [.called (outcomes 0), .slept (backoff * ((attempt + 1 : ℕ) : Seconds))] ++
        attempts (fun n => outcomes (n + 1)) backoff (attempt + 1) retries := by
  simp only [attempts, List.range_succ_eq_map, List.flatMap_cons, List.flatMap_map,
    List.append_assoc]
  congr 3
  funext i
  rw [show attempt + i.succ + 1 = attempt + 1 + i + 1 by omega]

theorem retryLoop_last (maxRetries : ℕ) (backoff : Seconds) (attempt : ℕ)
    (outcomes : ℕ → Except (ChatError Transient Other) Response)
    (last : ¬ Transiently (outcomes 0) ∨ maxRetries < attempt + 1) :
    (retryLoop maxRetries backoff attempt outcomes).result = outcomes 0 ∧
    (retryLoop maxRetries backoff attempt outcomes).timeline = [.called (outcomes 0)] := by
  rw [retryLoop]
  cases first : outcomes 0 with
  | ok response => exact ⟨rfl, rfl⟩
  | error error =>
    cases error with
    | other error => exact ⟨rfl, rfl⟩
    | transient error =>
      have spent : attempt + 1 > maxRetries := last.resolve_left fun no => no ⟨error, first⟩
      dsimp only
      rw [if_pos spent]
      exact ⟨rfl, rfl⟩

theorem retryLoop_retry {maxRetries attempt : ℕ} (backoff : Seconds)
    {outcomes : ℕ → Except (ChatError Transient Other) Response}
    (failed : Transiently (outcomes 0)) (left : attempt + 1 ≤ maxRetries) :
    (retryLoop maxRetries backoff attempt outcomes).result =
      (retryLoop maxRetries backoff (attempt + 1) fun n => outcomes (n + 1)).result ∧
    (retryLoop maxRetries backoff attempt outcomes).timeline =
      [.called (outcomes 0), .slept (backoff * ((attempt + 1 : ℕ) : Seconds))] ++
        (retryLoop maxRetries backoff (attempt + 1) fun n => outcomes (n + 1)).timeline := by
  obtain ⟨error, first⟩ := failed
  rw [retryLoop, first]
  dsimp only
  rw [if_neg (by omega)]
  exact ⟨rfl, rfl⟩

theorem retryLoop_attempts {maxRetries attempt : ℕ} (backoff : Seconds)
    (outcomes : ℕ → Except (ChatError Transient Other) Response) (left : attempt ≤ maxRetries) :
    ∃ retries, attempt + retries ≤ maxRetries ∧ (∀ i < retries, Transiently (outcomes i)) ∧
      (¬ Transiently (outcomes retries) ∨ attempt + retries = maxRetries) ∧
      (retryLoop maxRetries backoff attempt outcomes).result = outcomes retries ∧
      (retryLoop maxRetries backoff attempt outcomes).timeline =
        attempts outcomes backoff attempt retries := by
  induction more : maxRetries - attempt generalizing attempt outcomes with
  | zero =>
    obtain ⟨result, timeline⟩ := retryLoop_last maxRetries backoff attempt outcomes
      (.inr (by omega))
    exact ⟨0, left, fun i h => absurd h (Nat.not_lt_zero i), .inr (by omega), result, timeline⟩
  | succ more ih =>
    by_cases failed : Transiently (outcomes 0)
    · obtain ⟨retries, within, before, ends, result, timeline⟩ :=
        ih (fun n => outcomes (n + 1)) (show attempt + 1 ≤ maxRetries by omega) (by omega)
      obtain ⟨result', timeline'⟩ := retryLoop_retry backoff failed
        (show attempt + 1 ≤ maxRetries by omega)
      refine ⟨retries + 1, by omega, fun i h => ?_, ends.imp_right (by omega),
        result'.trans result, ?_⟩
      · cases i with
        | zero => exact failed
        | succ i => exact before i (by omega)
      · rw [timeline', timeline, attempts_succ]
    · obtain ⟨result, timeline⟩ := retryLoop_last maxRetries backoff attempt outcomes (.inl failed)
      exact ⟨0, left, fun i h => absurd h (Nat.not_lt_zero i), .inl failed, result, timeline⟩

theorem attempts_calls (outcomes : ℕ → Except (ChatError Transient Other) Response)
    (backoff : Seconds) (attempt retries : ℕ) :
    (attempts outcomes backoff attempt retries).countP (·.isCall) = retries + 1 := by
  induction retries generalizing outcomes attempt with
  | zero => rfl
  | succ retries ih =>
    rw [attempts_succ, List.countP_append, ih, Nat.add_comm]
    rfl

omit [Mul Seconds] [NatCast Seconds] in
theorem calls_timeline (run : RetryRun Response Transient Other Seconds) :
    run.timeline.countP (·.isCall) = run.calls := by
  rw [RetryRun.timeline, List.countP_filter, RetryRun.calls]
  refine List.countP_congr fun step _ => ?_
  cases step <;> simp [RetryStep.isCall, RetryStep.isLog]

end Loop

/-- The position of the first outcome that is no transient error, counted from one. -/
noncomputable def firstSettled (outcomes : ℕ → Except (ChatError Transient Other) Response) : ℕ∞ :=
  sInf {k | ∃ n : ℕ, k = n + 1 ∧ ¬ Transiently (outcomes n)}

theorem firstSettled_le {outcomes : ℕ → Except (ChatError Transient Other) Response} {n : ℕ}
    (settled : ¬ Transiently (outcomes n)) : firstSettled outcomes ≤ n + 1 :=
  sInf_le ⟨n, rfl, settled⟩

theorem le_firstSettled {outcomes : ℕ → Except (ChatError Transient Other) Response} {n : ℕ}
    (before : ∀ i < n, Transiently (outcomes i)) : (n + 1 : ℕ∞) ≤ firstSettled outcomes := by
  refine le_sInf fun k found => ?_
  obtain ⟨i, rfl, settled⟩ := found
  have : n ≤ i := by
    by_contra less
    exact settled (before i (by omega))
  gcongr

/-- For every sequence of outcomes the loop ends, after as many calls as the first settled outcome
and the retries allow, with the outcome of its last call, and it sleeps between two calls only. -/
theorem callWithRetries_bounded [Mul Seconds] [NatCast Seconds]
    (outcomes : ℕ → Except (ChatError Transient Other) Response) (maxRetries : ℕ)
    (backoff : Seconds) :
    ((callWithRetries outcomes maxRetries backoff).calls : ℕ∞) =
      min (firstSettled outcomes) (maxRetries + 1) ∧
    (∀ n : ℕ, firstSettled outcomes = n + 1 → n ≤ maxRetries →
      (callWithRetries outcomes maxRetries backoff).result = outcomes n) ∧
    ((maxRetries + 1 : ℕ∞) < firstSettled outcomes →
      Transiently (outcomes maxRetries) ∧
      (callWithRetries outcomes maxRetries backoff).result = outcomes maxRetries) ∧
    ∃ retries, (callWithRetries outcomes maxRetries backoff).calls = retries + 1 ∧
      (callWithRetries outcomes maxRetries backoff).timeline =
        (List.range retries).flatMap (fun i =>
          [.called (outcomes i), .slept (backoff * ((i + 1 : ℕ) : Seconds))]) ++
          [.called (outcomes retries)] := by
  obtain ⟨retries, within, before, ends, result, timeline⟩ :=
    retryLoop_attempts backoff outcomes (Nat.zero_le maxRetries)
  have calls : (callWithRetries outcomes maxRetries backoff).calls = retries + 1 := by
    rw [← calls_timeline, callWithRetries, timeline, attempts_calls]
  have after := le_firstSettled before
  have settled_at (settled : ¬ Transiently (outcomes retries)) :
      firstSettled outcomes = retries + 1 := le_antisymm (firstSettled_le settled) after
  have spent_after (spent : Transiently (outcomes retries)) :
      (retries + 1 : ℕ∞) < firstSettled outcomes := by
    have later : (((retries + 1 : ℕ) : ℕ∞) + 1) ≤ firstSettled outcomes := by
      refine le_firstSettled fun i less => ?_
      obtain less | rfl := Nat.lt_succ_iff_lt_or_eq.mp less
      · exact before i less
      · exact spent
    refine lt_of_lt_of_le ?_ later
    exact_mod_cast Nat.lt_succ_self (retries + 1)
  refine ⟨?_, fun n first within' => ?_, fun beyond => ?_, retries, calls, ?_⟩
  · rw [calls]
    by_cases spent : Transiently (outcomes retries)
    · obtain rfl := (Nat.zero_add retries).symm.trans (ends.resolve_left (not_not.mpr spent))
      rw [min_eq_right (spent_after spent).le]
      norm_cast
    · rw [settled_at spent, min_eq_left (by norm_cast; omega)]
      norm_cast
  · by_cases spent : Transiently (outcomes retries)
    · have less := spent_after spent
      rw [first] at less
      have := ends.resolve_left (not_not.mpr spent)
      have : retries + 1 < n + 1 := by exact_mod_cast less
      omega
    · have same := (settled_at spent).symm.trans first
      have : retries + 1 = n + 1 := by exact_mod_cast same
      obtain rfl : retries = n := by omega
      exact result
  · by_cases spent : Transiently (outcomes retries)
    · obtain rfl := (Nat.zero_add retries).symm.trans (ends.resolve_left (not_not.mpr spent))
      exact ⟨spent, result⟩
    · rw [settled_at spent] at beyond
      have : maxRetries + 1 < retries + 1 := by exact_mod_cast beyond
      omega
  · rw [callWithRetries, timeline]
    simp only [attempts, Nat.zero_add]

def labelOf (request : ChatRequest) : RetryStep ModelResponse String Error ℕ → Option Label
  | .called _ => some (.chat request)
  | .slept seconds => some (.sleep seconds)
  | .warned .. | .gaveUp .. => none

end OpsPilot.RetryLoop
