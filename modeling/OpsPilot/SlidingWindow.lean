import Mathlib.Data.List.Induction
import Mathlib.Data.List.TakeWhile
import Mathlib.Order.Lattice
import Mathlib.Order.Monotone.Defs

/-! A sliding-window limiter over any linearly ordered time. It keeps a bucket of accepted times
and evicts the old ones only when the next request arrives. -/

namespace SlidingWindow

variable {Time : Type}

/-- What a limiter has decided, and what it remembers of it. -/
structure History (Time : Type) where
  decisions : List (Time × Bool) := []
  bucket : List Time := []

def accepted (decisions : List (Time × Bool)) : List Time :=
  (decisions.filter (·.2)).map (·.1)

theorem accepted_append (before after : List (Time × Bool)) :
    accepted (before ++ after) = accepted before ++ accepted after := by
  simp [accepted]

variable [LinearOrder Time]

def evict (cutoff : Time) (bucket : List Time) : List Time :=
  bucket.dropWhile fun time => decide (time < cutoff)

theorem evict_suffix (cutoff : Time) (bucket : List Time) :
    ∃ gone, bucket = gone ++ evict cutoff bucket ∧ ∀ time ∈ gone, time < cutoff := by
  refine ⟨_, List.takeWhile_append_dropWhile.symm, fun time mem => ?_⟩
  simpa using List.mem_takeWhile_imp mem

theorem evict_late {cutoff : Time} {bucket : List Time} (sorted : bucket.Pairwise (· ≤ ·)) :
    ∀ time ∈ evict cutoff bucket, cutoff ≤ time := by
  induction bucket with
  | nil => exact fun _ mem => nomatch mem
  | cons first rest ih =>
    obtain ⟨least, sorted⟩ := List.pairwise_cons.mp sorted
    rcases lt_or_ge first cutoff with early | late
    · have dropped : evict cutoff (first :: rest) = evict cutoff rest :=
        List.dropWhile_cons_of_pos (by simpa using early)
      rw [dropped]
      exact ih sorted
    · have kept : evict cutoff (first :: rest) = first :: rest :=
        List.dropWhile_cons_of_neg (by simpa using late)
      rw [kept]
      intro time mem
      rcases List.mem_cons.mp mem with rfl | mem
      · exact late
      · exact late.trans (least time mem)

section
variable (limit : ℕ) (start : Time → Time)

/-- A request is accepted unless what is left of the bucket is full. -/
def History.request (history : History Time) (now : Time) : History Time :=
  let kept := evict (start now) history.bucket
  if limit ≤ kept.length then ⟨history.decisions ++ [(now, false)], kept⟩
  else ⟨history.decisions ++ [(now, true)], kept ++ [now]⟩

def serve (times : List Time) : History Time :=
  times.foldl (History.request limit start) {}

/-- The times in the closed window that ends at `t`. -/
def window (t : Time) (times : List Time) : List Time :=
  times.filter fun time => decide (start t ≤ time) && decide (time ≤ t)

structure Limited (times : List Time) (history : History Time) : Prop where
  sorted : (accepted history.decisions).Pairwise (· ≤ ·)
  past : ∀ time ∈ accepted history.decisions, time ∈ times
  evicted : ∃ old, accepted history.decisions = old ++ history.bucket ∧
    ∀ now, (∀ time ∈ times, time ≤ now) → ∀ time ∈ old, time < start now
  few : history.bucket.length ≤ limit
  bounded : ∀ t, (window start t (accepted history.decisions)).length ≤ limit
  refused : ∀ before after t, history.decisions = before ++ (t, false) :: after →
    limit ≤ (window start t (accepted before)).length

variable {limit start}

theorem Limited.bucket_sorted {times : List Time} {history : History Time}
    (limited : Limited limit start times history) : history.bucket.Pairwise (· ≤ ·) := by
  obtain ⟨old, split, _⟩ := limited.evicted
  have sorted := limited.sorted
  rw [split] at sorted
  exact (List.pairwise_append.mp sorted).2.1

theorem Limited.forgotten (monotone : Monotone start) {times : List Time} {history : History Time}
    (limited : Limited limit start times history) {now : Time}
    (later : ∀ time ∈ times, time ≤ now) :
    ∃ old, accepted history.decisions = old ++ evict (start now) history.bucket ∧
      ∀ now', now ≤ now' → ∀ time ∈ old, time < start now' := by
  obtain ⟨old, split, gone⟩ := limited.evicted
  obtain ⟨more, rest, early⟩ := evict_suffix (start now) history.bucket
  refine ⟨old ++ more, by rw [split, List.append_assoc, ← rest], fun now' latest time mem => ?_⟩
  rcases List.mem_append.mp mem with mem | mem
  · exact (gone now later time mem).trans_le (monotone latest)
  · exact (early time mem).trans_le (monotone latest)

theorem Limited.kept_late {times : List Time} {history : History Time}
    (limited : Limited limit start times history) (now : Time) :
    ∀ time ∈ evict (start now) history.bucket, start now ≤ time :=
  evict_late limited.bucket_sorted

theorem Limited.window_now (monotone : Monotone start) {times : List Time} {history : History Time}
    (limited : Limited limit start times history) {now : Time}
    (later : ∀ time ∈ times, time ≤ now) :
    window start now (accepted history.decisions) = evict (start now) history.bucket := by
  obtain ⟨old, split, gone⟩ := limited.forgotten monotone later
  have late := limited.kept_late now
  have past : ∀ time ∈ evict (start now) history.bucket, time ≤ now := fun time mem =>
    later time (limited.past time (split ▸ List.mem_append_right _ mem))
  rw [window, split, List.filter_append, List.filter_eq_nil_iff.mpr, List.filter_eq_self.mpr,
    List.nil_append]
  · intro time mem
    simp [late time mem, past time mem]
  · intro time mem
    simp [not_le_of_gt (gone now le_rfl time mem)]

theorem Limited.window_later (monotone : Monotone start) {times : List Time}
    {history : History Time} (limited : Limited limit start times history) {now t : Time}
    (later : ∀ time ∈ times, time ≤ now) (reaches : now ≤ t) :
    (window start t (accepted history.decisions)).length ≤
      (evict (start now) history.bucket).length := by
  rw [← limited.window_now monotone later, window, window, ← List.countP_eq_length_filter,
    ← List.countP_eq_length_filter]
  refine List.countP_mono_left fun time mem inside => ?_
  rw [Bool.and_eq_true, decide_eq_true_eq, decide_eq_true_eq] at inside ⊢
  exact ⟨(monotone reaches).trans inside.1, later time (limited.past time mem)⟩

/-- Step lemma: a request that is not earlier than those before it keeps the history limited. -/
theorem Limited.request (monotone : Monotone start) {times : List Time} {history : History Time}
    (limited : Limited limit start times history) {now : Time}
    (later : ∀ time ∈ times, time ≤ now) :
    Limited limit start (times ++ [now]) (history.request limit start now) := by
  obtain ⟨old, split, gone⟩ := limited.forgotten monotone later
  have latest : ∀ now', (∀ time ∈ times ++ [now], time ≤ now') → now ≤ now' := fun now' latest =>
    latest now (List.mem_append_right _ List.mem_cons_self)
  unfold History.request
  dsimp only
  split_ifs with full
  · have same : accepted (history.decisions ++ [(now, false)]) = accepted history.decisions := by
      rw [accepted_append]
      exact List.append_nil _
    refine ⟨?_, ?_, ⟨old, ?_, fun now' within => gone now' (latest now' within)⟩, ?_, ?_, ?_⟩
    · rw [same]
      exact limited.sorted
    · rw [same]
      exact fun time mem => List.mem_append_left _ (limited.past time mem)
    · rw [same]
      exact split
    · exact (List.dropWhile_sublist _).length_le.trans limited.few
    · rw [same]
      exact limited.bounded
    · intro before after t ends
      rcases List.eq_nil_or_concat after with rfl | ⟨after, last, rfl⟩
      · obtain ⟨rfl, final⟩ := List.append_inj' ends rfl
        cases final
        rw [limited.window_now monotone later]
        exact full
      · rw [← List.concat_cons, List.concat_eq_append, ← List.append_assoc] at ends
        exact limited.refused before after t (List.append_inj' ends rfl).1
  · have more : accepted (history.decisions ++ [(now, true)]) =
        accepted history.decisions ++ [now] := accepted_append _ _
    refine ⟨?_, ?_, ⟨old, ?_, fun now' within => gone now' (latest now' within)⟩, ?_, ?_, ?_⟩
    · rw [more]
      refine List.pairwise_append.mpr ⟨limited.sorted, List.pairwise_singleton _ _, ?_⟩
      intro time mem last final
      rw [List.mem_singleton.mp final]
      exact later time (limited.past time mem)
    · rw [more]
      intro time mem
      rcases List.mem_append.mp mem with mem | mem
      · exact List.mem_append_left _ (limited.past time mem)
      · exact List.mem_append_right _ mem
    · rw [more, split, List.append_assoc]
    · rw [List.length_append, List.length_singleton]
      omega
    · intro t
      rw [more, window, List.filter_append, List.length_append, ← window, ← window]
      by_cases inside : (decide (start t ≤ now) && decide (now ≤ t)) = true
      · have counted : (window start t [now]).length = 1 := by simp [window, inside]
        have reaches : now ≤ t := by
          rw [Bool.and_eq_true, decide_eq_true_eq, decide_eq_true_eq] at inside
          exact inside.2
        have few := limited.window_later monotone later reaches
        omega
      · have uncounted : (window start t [now]).length = 0 := by simp [window, inside]
        rw [uncounted]
        exact limited.bounded t
    · intro before after t ends
      rcases List.eq_nil_or_concat after with rfl | ⟨after, last, rfl⟩
      · obtain ⟨_, final⟩ := List.append_inj' ends rfl
        cases final
      · rw [← List.concat_cons, List.concat_eq_append, ← List.append_assoc] at ends
        exact limited.refused before after t (List.append_inj' ends rfl).1

theorem serve_limited (monotone : Monotone start) {times : List Time}
    (ordered : times.Pairwise (· ≤ ·)) : Limited limit start times (serve limit start times) := by
  induction times using List.reverseRecOn with
  | nil =>
    refine ⟨List.Pairwise.nil, fun _ mem => (nomatch mem), ⟨[], rfl, fun _ _ _ mem => (nomatch mem)⟩,
      Nat.zero_le _, fun _ => Nat.zero_le _, fun before after t ends => ?_⟩
    exact absurd ends (by simp [serve])
  | append_singleton times now ih =>
    obtain ⟨ordered, _, later⟩ := List.pairwise_append.mp ordered
    rw [serve, List.foldl_append]
    exact (ih ordered).request monotone fun time mem => later time mem now List.mem_cons_self

end

end SlidingWindow
