import OpsPilot.Models
import Mathlib.Data.List.DropRight

/-! What a history of steps says about a run: the responses received, the node visits, the
attempts of each model call, and the remediation executors that were started. -/

namespace OpsPilot.RunTrace
open JsonText InvestigationState Models DurableProgram

def responseOf : BackendEvent → Option ModelResponse
  | .answered (.chat _) (.response response) => some response
  | _ => none

/-- The successful responses of the chat function, in order. -/
def responses (h : List BackendEvent) : List ModelResponse := h.filterMap responseOf

def visitOf : BackendEvent → Option (Node × GraphState)
  | .performed (.visit _ node values) => some (node, values)
  | _ => none

def visits (h : List BackendEvent) : List (Node × GraphState) := h.filterMap visitOf

/-- The states in which `gather_context` was entered. -/
def gatherVisits (h : List BackendEvent) : List GraphState :=
  ((visits h).filter (fun visit => visit.1 = .gatherContext)).map Prod.snd

def invocationOf : BackendEvent → Option RemediationCall
  | .performed (.executor _ call) => some call
  | _ => none

def invocations (h : List BackendEvent) : List RemediationCall := h.filterMap invocationOf

def pauseOf : BackendEvent → Option Json
  | .performed (.interrupt _ payload) => some payload
  | _ => none

/-- What the graph showed when it paused. -/
def pauses (h : List BackendEvent) : List Json := h.filterMap pauseOf

def isChat : Label → Bool
  | .chat _ => true
  | _ => false

def chatAttempts (h : List BackendEvent) : ℕ := h.countP fun ev => isChat ev.label

def countAttempt (counts : List ℕ) (ev : BackendEvent) : List ℕ :=
  match ev, counts with
  | .performed (.visit _ .gatherContext _), counts => counts ++ [0]
  | ev, counts =>
    if isChat ev.label then
      match counts.getLast? with
      | none => [1]
      | some n => counts.dropLast ++ [n + 1]
    else counts

/-- The attempts made during each visit of `gather_context`. -/
def attemptsPerVisit (h : List BackendEvent) : List ℕ := h.foldl countAttempt []

def entersGather : BackendEvent → Bool
  | .performed (.visit _ .gatherContext _) => true
  | _ => false

/-- What happened since `gather_context` was last entered. -/
def lastVisit (h : List BackendEvent) : List BackendEvent := h.rtakeWhile fun ev => !entersGather ev

@[simp] theorem responses_append (h g : List BackendEvent) :
    responses (h ++ g) = responses h ++ responses g := by
  simp [responses]

@[simp] theorem visits_append (h g : List BackendEvent) :
    visits (h ++ g) = visits h ++ visits g := by
  simp [visits]

@[simp] theorem gatherVisits_append (h g : List BackendEvent) :
    gatherVisits (h ++ g) = gatherVisits h ++ gatherVisits g := by
  simp [gatherVisits]

@[simp] theorem invocations_append (h g : List BackendEvent) :
    invocations (h ++ g) = invocations h ++ invocations g := by
  simp [invocations]

@[simp] theorem pauses_append (h g : List BackendEvent) :
    pauses (h ++ g) = pauses h ++ pauses g := by
  simp [pauses]

@[simp] theorem chatAttempts_append (h g : List BackendEvent) :
    chatAttempts (h ++ g) = chatAttempts h + chatAttempts g := by
  simp [chatAttempts]

theorem lastVisit_append {g : List BackendEvent} (outside : ∀ ev ∈ g, entersGather ev = false)
    (h : List BackendEvent) : lastVisit (h ++ g) = lastVisit h ++ g := by
  induction g using List.reverseRecOn with
  | nil => simp
  | append_singleton g ev ih =>
    have here : entersGather ev = false := outside ev (by simp)
    have before := ih fun ev mem => outside ev (by simp [mem])
    rw [← List.append_assoc, lastVisit, List.rtakeWhile_concat_pos _ _ _ (by simp [here]),
      ← List.append_assoc]
    exact congrArg (· ++ [ev]) before

theorem lastVisit_enter {ev : BackendEvent} (enters : entersGather ev = true)
    (h : List BackendEvent) : lastVisit (h ++ [ev]) = [] :=
  List.rtakeWhile_concat_neg _ _ _ (by simp [enters])

def ofClient : Label → Prop
  | .chat _ => True
  | .sleep _ => True
  | _ => False

/-- Labels of one visit of `gather_context`, the visit itself apart. -/
def ofRound : Label → Prop
  | .chat _ => True
  | .sleep _ => True
  | .toolCall _ => True
  | _ => False

theorem ofRound_of_ofClient {l : Label} (h : ofClient l) : ofRound l := by
  cases l <;> simp_all [ofClient, ofRound]

theorem entersGather_of_round {ev : BackendEvent} (inside : ofRound ev.label) :
    entersGather ev = false := by
  unfold entersGather
  split
  · exact absurd inside id
  · rfl

/-- Labels of steps outside the loop over `gather_context`. -/
def outsideLoop : Label → Prop
  | .chat _ => False
  | .visit _ .gatherContext _ => False
  | _ => True

section
variable {g : List BackendEvent} (outside : ∀ ev ∈ g, outsideLoop ev.label)
include outside

theorem gatherVisits_outside : gatherVisits g = [] := by
  rw [gatherVisits, List.map_eq_nil_iff, List.filter_eq_nil_iff]
  rintro ⟨node, values⟩ mem
  obtain ⟨ev, inside, visited⟩ := List.mem_filterMap.mp mem
  have here := outside ev inside
  unfold visitOf at visited
  split at visited
  · cases visited
    cases node <;> simp_all [Event.label, outsideLoop]
  · cases visited

theorem responses_outside : responses g = [] := by
  rw [responses, List.filterMap_eq_nil_iff]
  intro ev mem
  have here := outside ev mem
  unfold responseOf
  split
  · exact absurd here id
  · rfl

theorem foldl_countAttempt_outside (counts : List ℕ) : g.foldl countAttempt counts = counts := by
  induction g with
  | nil => rfl
  | cons ev rest ih =>
    have here := outside ev List.mem_cons_self
    have later := ih fun ev mem => outside ev (List.mem_cons_of_mem _ mem)
    have unmoved : countAttempt counts ev = counts := by
      unfold countAttempt
      split
      · exact absurd here id
      · split
        · unfold isChat at *
          split at * <;> simp_all [outsideLoop]
        · rfl
    rw [List.foldl_cons, unmoved, later]

theorem lastVisit_outside (h : List BackendEvent) : lastVisit (h ++ g) = lastVisit h ++ g := by
  refine lastVisit_append (fun ev mem => ?_) h
  have here := outside ev mem
  unfold entersGather
  split
  · exact absurd here id
  · rfl

end

section
variable {g : List BackendEvent} (inside : ∀ ev ∈ g, ofRound ev.label)
include inside

theorem visits_of_round : visits g = [] := by
  rw [visits, List.filterMap_eq_nil_iff]
  intro ev mem
  have := inside ev mem
  unfold visitOf
  split
  · exact absurd this id
  · rfl

theorem invocations_of_round : invocations g = [] := by
  rw [invocations, List.filterMap_eq_nil_iff]
  intro ev mem
  have := inside ev mem
  unfold invocationOf
  split
  · exact absurd this id
  · rfl

theorem pauses_of_round : pauses g = [] := by
  rw [pauses, List.filterMap_eq_nil_iff]
  intro ev mem
  have := inside ev mem
  unfold pauseOf
  split
  · exact absurd this id
  · rfl

theorem foldl_countAttempt_round (counts : List ℕ) (n : ℕ) :
    g.foldl countAttempt (counts ++ [n]) = counts ++ [n + chatAttempts g] := by
  induction g generalizing n with
  | nil => simp [chatAttempts]
  | cons ev rest ih =>
    have here : ofRound ev.label := inside ev List.mem_cons_self
    have later := ih fun ev mem => inside ev (List.mem_cons_of_mem _ mem)
    have moved : countAttempt (counts ++ [n]) ev =
        counts ++ [n + if isChat ev.label then 1 else 0] := by
      unfold countAttempt
      split
      · exact absurd here id
      · split <;> simp_all
    rw [List.foldl_cons, moved, later]
    simp only [chatAttempts, List.countP_cons]
    simp only [List.append_cancel_left_eq, List.cons.injEq, and_true]
    omega

end

end OpsPilot.RunTrace
