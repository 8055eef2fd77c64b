import OpsPilot.RequestPool

/-! Programs that keep a promise as long as all the others keep theirs. What a program has once
read may be used later, as far as the steps of the others preserve it. -/

namespace AssumeGuarantee
open DurableProgram RequestPool

structure Shared (σ : Type) where
  holds : σ → Prop
  rely : Rely σ
  seen : σ → Prop

def Shared.Later {σ : Type} (shared : Shared σ) (s t : σ) : Prop :=
  shared.rely.holds s t ∧ shared.holds t

structure Promise (κ : Type) {σ : Type} (shared : Shared σ) where
  begins : κ → σ → Prop
  acts : κ → σ → σ → Prop
  keeps : ∀ l s s', shared.holds s → acts l s s' → shared.Later s s'

variable {ι κ ρ σ ε α β : Type} {shared : Shared σ} {promise : Promise κ shared}

theorem Shared.Later.trans {s t u : σ} (first : shared.Later s t) (next : shared.Later t u) :
    shared.Later s u :=
  ⟨shared.rely.trans first.1 next.1, next.2⟩

theorem Shared.Later.self {s t : σ} (next : shared.Later s t) : shared.Later t t :=
  ⟨shared.rely.refl t, next.2⟩

def Assures (promise : Promise κ shared) (post : α → σ → Prop) : Program κ ρ σ ε α → σ → Prop
  | .ret a, s => ∀ t, shared.Later s t → post a t
  | .raise _, _ => True
  | .dead, _ => True
  | .act l u n f, s => ∀ t, shared.Later s t → shared.seen t →
      promise.begins l t ∧ promise.acts l t (u t) ∧
        Assures promise post (n t) (u t) ∧ ∀ e, Assures promise post (f e) t
  | .ask l n f, s => ∀ t, shared.Later s t → shared.seen t → promise.begins l t ∧
      (∀ r, Assures promise post (n r) t) ∧ ∀ e, Assures promise post (f e) t

section
variable {post after : α → σ → Prop} {s t : σ} {p : Program κ ρ σ ε α}

theorem Assures.later (assures : Assures promise post p s) (moved : shared.rely.holds s t) :
    Assures promise post p t := by
  have further : ∀ u, shared.Later t u → shared.Later s u :=
    fun u next => ⟨shared.rely.trans moved next.1, next.2⟩
  cases p with
  | ret | act | ask => exact fun u next => assures u (further u next)
  | raise | dead => trivial

theorem Assures.of_later (assures : ∀ t, shared.Later s t → Assures promise post p t) :
    Assures promise post p s := by
  cases p with
  | ret | act | ask => exact fun t next => assures t next t next.self
  | raise | dead => trivial

/-- What is known where a part ends is at hand for the rest. -/
theorem Assures.bind {k : α → Program κ ρ σ ε β} {after : β → σ → Prop}
    (first : Assures promise post p s)
    (rest : ∀ a t, shared.Later s t → post a t → Assures promise after (k a) t) :
    Assures promise after (p.bind k) s := by
  induction p generalizing s with
  | ret a => exact .of_later fun t next => rest a t next (first t next)
  | raise | dead => trivial
  | act l u n f ihn ihf =>
    intro t next seen
    obtain ⟨begun, kept, goes, fails⟩ := first t next seen
    have own := promise.keeps l t (u t) next.2 kept
    exact ⟨begun, kept, ihn t goes fun a v later => rest a v (next.trans (own.trans later)),
      fun e => ihf e (fails e) fun a v later => rest a v (next.trans later)⟩
  | ask l n f ihn ihf =>
    intro t next seen
    obtain ⟨begun, goes, fails⟩ := first t next seen
    exact ⟨begun, fun r => ihn r (goes r) fun a v later => rest a v (next.trans later),
      fun e => ihf e (fails e) fun a v later => rest a v (next.trans later)⟩

theorem Assures.then {k : α → Program κ ρ σ ε β} {after : β → σ → Prop}
    (first : Assures promise (fun _ _ => True) p s)
    (rest : ∀ a t, shared.Later s t → Assures promise after (k a) t) :
    Assures promise after (p.bind k) s :=
  first.bind fun a t next _ => rest a t next

theorem Assures.tryCatch {c : ε → Program κ ρ σ ε α} (body : Assures promise post p s)
    (handler : ∀ e t, shared.Later s t → Assures promise post (c e) t) :
    Assures promise post (p.tryCatch c) s := by
  induction p generalizing s with
  | ret a => exact body
  | raise e => exact .of_later fun t next => handler e t next
  | dead => trivial
  | act l u n f ihn ihf =>
    intro t next seen
    obtain ⟨begun, kept, goes, fails⟩ := body t next seen
    have own := promise.keeps l t (u t) next.2 kept
    exact ⟨begun, kept, ihn t goes fun e v later => handler e v (next.trans (own.trans later)),
      fun e => ihf e (fails e) fun e v later => handler e v (next.trans later)⟩
  | ask l n f ihn ihf =>
    intro t next seen
    obtain ⟨begun, goes, fails⟩ := body t next seen
    exact ⟨begun, fun r => ihn r (goes r) fun e v later => handler e v (next.trans later),
      fun e => ihf e (fails e) fun e v later => handler e v (next.trans later)⟩

theorem Assures.mono (weaker : ∀ a t, shared.Later s t → post a t → after a t)
    (assures : Assures promise post p s) : Assures promise after p s := by
  induction p generalizing s with
  | ret a => exact fun t next => weaker a t next (assures t next)
  | raise | dead => trivial
  | act l u n f ihn ihf =>
    intro t next seen
    obtain ⟨begun, kept, goes, fails⟩ := assures t next seen
    have own := promise.keeps l t (u t) next.2 kept
    exact ⟨begun, kept, ihn t (fun a v later => weaker a v (next.trans (own.trans later))) goes,
      fun e => ihf e (fun a v later => weaker a v (next.trans later)) (fails e)⟩
  | ask l n f ihn ihf =>
    intro t next seen
    obtain ⟨begun, goes, fails⟩ := assures t next seen
    exact ⟨begun, fun r => ihn r (fun a v later => weaker a v (next.trans later)) (goes r),
      fun e => ihf e (fun a v later => weaker a v (next.trans later)) (fails e)⟩

theorem Assures.of_steps {guar : κ → σ → σ → Prop} {allowed : κ → Prop}
    (steps : Guarantees guar p) (labels : Carries allowed p)
    (begins : ∀ l t, shared.Later s t → allowed l → promise.begins l t)
    (acts : ∀ l t t', shared.Later s t → allowed l → guar l t t' → promise.acts l t t') :
    Assures promise (fun _ _ => True) p s := by
  induction p generalizing s with
  | ret a => exact fun _ _ => trivial
  | raise | dead => trivial
  | act l u n f ihn ihf =>
    intro t next _
    have kept := acts l t (u t) next labels.1 (steps.1 t)
    have own := promise.keeps l t (u t) next.2 kept
    refine ⟨begins l t next labels.1, kept, ihn t (steps.2.1 t) (labels.2.1 t) ?_ ?_,
      fun e => ihf e (steps.2.2 e) (labels.2.2 e) ?_ ?_⟩
    · exact fun l v later => begins l v (next.trans (own.trans later))
    · exact fun l v v' later => acts l v v' (next.trans (own.trans later))
    · exact fun l v later => begins l v (next.trans later)
    · exact fun l v v' later => acts l v v' (next.trans later)
  | ask l n f ihn ihf =>
    intro t next _
    refine ⟨begins l t next labels.1, fun r => ihn r (steps.1 r) (labels.2.1 r) ?_ ?_,
      fun e => ihf e (steps.2 e) (labels.2.2 e) ?_ ?_⟩
    · exact fun l v later => begins l v (next.trans later)
    · exact fun l v v' later => acts l v v' (next.trans later)
    · exact fun l v later => begins l v (next.trans later)
    · exact fun l v v' later => acts l v v' (next.trans later)

theorem Assures.performed {m : Move ρ ε} {p' : Program κ ρ σ ε α} {s' : σ} {l : κ}
    (assures : Assures promise post p s) (holds : shared.holds s) (seen : shared.seen s)
    (step : DurableProgram.advance m p s = some (.performed l, p', s')) :
    promise.acts l s s' := by
  cases p with
  | ret a => cases m <;> simp [DurableProgram.advance] at step
  | raise e => cases m <;> simp [DurableProgram.advance] at step
  | dead => cases m <;> simp [DurableProgram.advance] at step
  | act k u n f =>
    obtain ⟨same, _, rfl⟩ | ⟨_, other, _⟩ | ⟨other, _⟩ := advance_act step
    · cases same
      exact (assures s ⟨shared.rely.refl s, holds⟩ seen).2.1
    · cases other
    · cases other
  | ask k n f =>
    obtain ⟨_, other, _⟩ | ⟨_, other, _⟩ | ⟨other, _⟩ := advance_ask step <;> cases other

theorem Assures.advance {m : Move ρ ε} {p' : Program κ ρ σ ε α} {s' : σ} {ev : Event κ ρ ε}
    (assures : Assures promise post p s) (holds : shared.holds s) (seen : shared.seen s)
    (step : DurableProgram.advance m p s = some (ev, p', s')) :
    promise.begins ev.label s ∧ shared.Later s s' ∧ Assures promise post p' s' := by
  have now : shared.Later s s := ⟨shared.rely.refl s, holds⟩
  cases p with
  | ret a => cases m <;> simp [DurableProgram.advance] at step
  | raise e => cases m <;> simp [DurableProgram.advance] at step
  | dead => cases m <;> simp [DurableProgram.advance] at step
  | act l u n f =>
    obtain ⟨begun, kept, goes, fails⟩ := assures s now seen
    obtain ⟨rfl, rfl, rfl⟩ | ⟨e, rfl, rfl, rfl⟩ | ⟨rfl, rfl, rfl⟩ := advance_act step
    · exact ⟨begun, promise.keeps l s _ holds kept, goes⟩
    · exact ⟨begun, now, fails e⟩
    · exact ⟨begun, now, trivial⟩
  | ask l n f =>
    obtain ⟨begun, goes, fails⟩ := assures s now seen
    obtain ⟨r, rfl, rfl, rfl⟩ | ⟨e, rfl, rfl, rfl⟩ | ⟨rfl, rfl, rfl⟩ := advance_ask step
    · exact ⟨begun, now, goes r⟩
    · exact ⟨begun, now, fails e⟩
    · exact ⟨begun, now, trivial⟩

end

section
variable [DecidableEq ι] (promises : ι → Promise κ shared) {permit : PoolPermit ι κ ρ σ ε α}
  {state : σ} {programs : ι → Program κ ρ σ ε α} {pool : Pool ι κ ρ σ ε α}

theorem assured_induction (Inv : Pool ι κ ρ σ ε α → Prop)
    (performed : ∀ pool who l rest next, shared.Later pool.state next →
      (promises who).begins l pool.state → (promises who).acts l pool.state next → Inv pool →
        Inv (pool.moved who (.performed l) rest next))
    (unperformed : ∀ pool who event rest, shared.holds pool.state →
      (promises who).begins event.label pool.state → (∀ l, event ≠ .performed l) → Inv pool →
        Inv (pool.moved who event rest pool.state))
    (reach : Reaches permit (Pool.start state programs) pool) (holds : shared.holds state)
    (seen : ∀ mid, Reaches permit (Pool.start state programs) mid → Reaches permit mid pool →
      shared.seen mid.state)
    (assures : ∀ i, Assures (promises i) (fun _ _ => True) (programs i) state)
    (start : Inv (Pool.start state programs)) : shared.Later state pool.state ∧ Inv pool := by
  suffices kept : shared.Later state pool.state ∧
      (∀ i, Assures (promises i) (fun _ _ => True) (pool.requests i) pool.state) ∧ Inv pool from
    ⟨kept.1, kept.2.2⟩
  -- The states that are seen are those on the way to the last pool, whatever came before it.
  induction reach with
  | refl => exact ⟨⟨shared.rely.refl state, holds⟩, assures, start⟩
  | @step pool who move event rest next before advanced ok ih =>
    obtain ⟨since, each, inv⟩ :=
      ih fun mid first later => seen mid first (.step later advanced ok)
    have here := seen pool before (.step (.refl pool) advanced ok)
    obtain ⟨begins, moved, goes⟩ := (each who).advance since.2 here advanced
    refine ⟨since.trans moved, fun i => ?_, ?_⟩
    · by_cases mine : i = who
      · subst mine
        rw [Pool.moved_self]
        exact goes
      · rw [Pool.moved_other pool event rest next mine]
        exact (each i).later moved.1
    · cases event with
      | performed l =>
        exact performed pool who l rest next moved begins
          ((each who).performed since.2 here advanced) inv
      | answered | failed | died =>
        rw [advance_unchanged (by simp) advanced]
        exact unperformed pool who _ rest since.2 begins (by simp) inv

end

end AssumeGuarantee
