import OpsPilot.StateGraph

/-! Programs that cannot tell apart two states which agree on what they read. Such a program takes
the same steps from either of them and ends alike, in states that agree again. -/

namespace Noninterference
open DurableProgram

variable {κ ρ σ ε α β : Type} {Agree : σ → σ → Prop}

def Blind (Agree : σ → σ → Prop) : Program κ ρ σ ε α → Prop
  | .ret _ => True
  | .raise _ => True
  | .dead => True
  | .act _ u n f => (∀ s t, Agree s t → Agree (u s) (u t) ∧ n s = n t) ∧
      (∀ s, Blind Agree (n s)) ∧ ∀ e, Blind Agree (f e)
  | .ask _ n f => (∀ r, Blind Agree (n r)) ∧ ∀ e, Blind Agree (f e)

theorem Blind.bind {p : Program κ ρ σ ε α} {k : α → Program κ ρ σ ε β} (hp : Blind Agree p)
    (hk : ∀ a, Blind Agree (k a)) : Blind Agree (p.bind k) := by
  induction p with
  | ret a => exact hk a
  | raise e => trivial
  | dead => trivial
  | act l u n f ihn ihf =>
    refine ⟨fun s t agree => ?_, fun s => ihn s (hp.2.1 s), fun e => ihf e (hp.2.2 e)⟩
    obtain ⟨agree', same⟩ := hp.1 s t agree
    exact ⟨agree', congrArg (·.bind k) same⟩
  | ask l n f ihn ihf => exact ⟨fun r => ihn r (hp.1 r), fun e => ihf e (hp.2 e)⟩

theorem Blind.tryCatch {p : Program κ ρ σ ε α} {c : ε → Program κ ρ σ ε α} (hp : Blind Agree p)
    (hc : ∀ e, Blind Agree (c e)) : Blind Agree (p.tryCatch c) := by
  induction p with
  | ret a => trivial
  | raise e => exact hc e
  | dead => trivial
  | act l u n f ihn ihf =>
    refine ⟨fun s t agree => ?_, fun s => ihn s (hp.2.1 s), fun e => ihf e (hp.2.2 e)⟩
    obtain ⟨agree', same⟩ := hp.1 s t agree
    exact ⟨agree', congrArg (·.tryCatch c) same⟩
  | ask l n f ihn ihf => exact ⟨fun r => ihn r (hp.1 r), fun e => ihf e (hp.2 e)⟩

theorem Blind.perform {l : κ} {u : σ → σ} {query : σ → α}
    (step : ∀ s t, Agree s t → Agree (u s) (u t) ∧ query s = query t) :
    Blind Agree (Program.perform l u query : Program κ ρ σ ε α) := by
  refine ⟨fun s t agree => ?_, fun _ => trivial, fun _ => trivial⟩
  obtain ⟨agree', same⟩ := step s t agree
  exact ⟨agree', congrArg Program.ret same⟩

/-- A step from one state can be taken from the other. -/
theorem Blind.advance {m : Move ρ ε} {p p' : Program κ ρ σ ε α} {s s' t : σ} {ev : Event κ ρ ε}
    (blind : Blind Agree p) (agree : Agree s t)
    (step : DurableProgram.advance m p s = some (ev, p', s')) :
    Blind Agree p' ∧ ∃ t', DurableProgram.advance m p t = some (ev, p', t') ∧ Agree s' t' := by
  cases p with
  | ret a => cases m <;> simp [DurableProgram.advance] at step
  | raise e => cases m <;> simp [DurableProgram.advance] at step
  | dead => cases m <;> simp [DurableProgram.advance] at step
  | act l update n f =>
    cases m <;> simp only [DurableProgram.advance, Option.some.injEq, Prod.mk.injEq,
      reduceCtorEq] at step
    case perform =>
      obtain ⟨rfl, rfl, rfl⟩ := step
      obtain ⟨agree', same⟩ := blind.1 s t agree
      exact ⟨blind.2.1 s, _, by rw [DurableProgram.advance, same], agree'⟩
    case fail e =>
      obtain ⟨rfl, rfl, rfl⟩ := step
      exact ⟨blind.2.2 e, _, rfl, agree⟩
    case die =>
      obtain ⟨rfl, rfl, rfl⟩ := step
      exact ⟨trivial, _, rfl, agree⟩
  | ask l n f =>
    cases m <;> simp only [DurableProgram.advance, Option.some.injEq, Prod.mk.injEq,
      reduceCtorEq] at step
    case reply r =>
      obtain ⟨rfl, rfl, rfl⟩ := step
      exact ⟨blind.1 r, _, rfl, agree⟩
    case fail e =>
      obtain ⟨rfl, rfl, rfl⟩ := step
      exact ⟨blind.2 e, _, rfl, agree⟩
    case die =>
      obtain ⟨rfl, rfl, rfl⟩ := step
      exact ⟨trivial, _, rfl, agree⟩

/-- Every run from one state can be taken from the other. -/
theorem Blind.runs {permit : Permit κ ρ σ ε} (anywhere : ∀ ev s t, permit ev s → permit ev t)
    {p : Program κ ρ σ ε α} {s t u : σ} {o : Outcome ε α} {g : List (Event κ ρ ε)}
    (blind : Blind Agree p) (agree : Agree s t) (run : Runs .alone permit p s o u g) :
    ∃ v, Runs .alone permit p t o v g ∧ Agree u v := by
  induction p generalizing s t g with
  | ret a =>
    obtain ⟨rfl, rfl, rfl⟩ := run.of_ret
    exact ⟨t, .ret a t, agree⟩
  | raise e =>
    obtain ⟨rfl, rfl, rfl⟩ := run.of_raise
    exact ⟨t, .raise e t, agree⟩
  | dead =>
    obtain ⟨rfl, rfl, rfl⟩ := run.of_dead
    exact ⟨t, .dead t, agree⟩
  | act l update n f ihn ihf =>
    obtain ⟨agree', same⟩ := blind.1 s t agree
    obtain ⟨_, rfl, ⟨g', ok, rest, rfl⟩ | ⟨e, g', ok, rest, rfl⟩ | ⟨ok, rfl, rfl, rfl⟩⟩ := run.of_act
    · obtain ⟨v, later, ends⟩ := ihn s (blind.2.1 s) agree' rest
      rw [same] at later
      exact ⟨v, .step (m := .perform) rfl rfl (anywhere _ _ _ ok) later, ends⟩
    · obtain ⟨v, later, ends⟩ := ihf e (blind.2.2 e) agree rest
      exact ⟨v, .step (m := .fail e) rfl rfl (anywhere _ _ _ ok) later, ends⟩
    · exact ⟨t, .step (m := .die) rfl rfl (anywhere _ _ _ ok) (.dead t), agree⟩
  | ask l n f ihn ihf =>
    obtain ⟨_, rfl, ⟨r, g', ok, rest, rfl⟩ | ⟨e, g', ok, rest, rfl⟩ | ⟨ok, rfl, rfl, rfl⟩⟩ :=
      run.of_ask
    · obtain ⟨v, later, ends⟩ := ihn r (blind.1 r) agree rest
      exact ⟨v, .step (m := .reply r) rfl rfl (anywhere _ _ _ ok) later, ends⟩
    · obtain ⟨v, later, ends⟩ := ihf e (blind.2 e) agree rest
      exact ⟨v, .step (m := .fail e) rfl rfl (anywhere _ _ _ ok) later, ends⟩
    · exact ⟨t, .step (m := .die) rfl rfl (anywhere _ _ _ ok) (.dead t), agree⟩

def respond (env : List κ → Except ε ρ) : Program κ ρ σ ε α → List κ → σ →
    Outcome ε α × σ × List (Event κ ρ ε)
  | .ret a, _, s => (.returned a, s, [])
  | .raise e, _, s => (.raised e, s, [])
  | .dead, _, s => (.died, s, [])
  | .act l u n _, asked, s =>
    let rest := respond env (n s) asked (u s)
    (rest.1, rest.2.1, .performed l :: rest.2.2)
  | .ask l n f, asked, s =>
    match env (asked ++ [l]) with
    | .ok r =>
      let rest := respond env (n r) (asked ++ [l]) s
      (rest.1, rest.2.1, .answered l r :: rest.2.2)
    | .error e =>
      let rest := respond env (f e) (asked ++ [l]) s
      (rest.1, rest.2.1, .failed l e :: rest.2.2)

theorem Blind.respond {env : List κ → Except ε ρ} {p : Program κ ρ σ ε α} {asked : List κ}
    {s t : σ} (blind : Blind Agree p) (agree : Agree s t) :
    (respond env p asked s).1 = (respond env p asked t).1 ∧
      (respond env p asked s).2.2 = (respond env p asked t).2.2 ∧
      Agree (respond env p asked s).2.1 (respond env p asked t).2.1 := by
  induction p generalizing asked s t with
  | ret a => exact ⟨rfl, rfl, agree⟩
  | raise e => exact ⟨rfl, rfl, agree⟩
  | dead => exact ⟨rfl, rfl, agree⟩
  | act l u n f ihn _ =>
    obtain ⟨agree', same⟩ := blind.1 s t agree
    simp only [Noninterference.respond, ← same]
    obtain ⟨outcome, events, ends⟩ := ihn s (blind.2.1 s) agree'
    exact ⟨outcome, congrArg (List.cons (.performed l)) events, ends⟩
  | ask l n f ihn ihf =>
    simp only [Noninterference.respond]
    cases env (asked ++ [l]) with
    | ok r =>
      obtain ⟨outcome, events, ends⟩ := ihn r (blind.1 r) agree
      exact ⟨outcome, congrArg (List.cons (.answered l r)) events, ends⟩
    | error e =>
      obtain ⟨outcome, events, ends⟩ := ihf e (blind.2 e) agree
      exact ⟨outcome, congrArg (List.cons (.failed l e)) events, ends⟩

theorem supersteps_blind {Node State Ask Answer : Type}
    {graph : StateGraph.Graph κ ρ σ ε Node State Ask Answer}
    (visits : ∀ node values answer, Blind Agree (graph.visit node values answer))
    (saves : ∀ checkpoint, Blind Agree (graph.save checkpoint))
    (pauses : ∀ ask, Blind Agree (graph.pause ask)) (limit : ℕ)
    (checkpoint : StateGraph.Checkpoint Node State) (answer : Option Answer) :
    Blind Agree (graph.supersteps limit checkpoint answer) := by
  induction limit generalizing checkpoint answer with
  | zero =>
    obtain ⟨values, next⟩ := checkpoint
    cases next <;> trivial
  | succ limit ih =>
    obtain ⟨values, next⟩ := checkpoint
    cases next with
    | none => trivial
    | some node =>
      refine Blind.bind ?_ ?_
      · refine (visits node values answer).bind fun visit => ?_
        cases visit with
        | interrupt ask => exact (pauses ask).bind fun _ => trivial
        | update values => exact (saves _).bind fun _ => trivial
      · rintro (next | ask)
        · exact ih _ _
        · trivial

end Noninterference
