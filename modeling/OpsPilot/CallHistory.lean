import OpsPilot.DurableProgram

/-! Calls that do not overlap. Every call runs alone until it answers, fails or dies, and the
next one starts on the state it left. A call is described by the moves it makes, and what moves
preserve holds after every history. -/

namespace CallHistory
open DurableProgram

variable {κ ρ σ ε α β Req E E' : Type}

inductive Moves (Move : σ → σ → List E → Prop) : σ → σ → List E → Prop where
  | refl (s) : Moves Move s s []
  | tail {s t u g g'} (before : Moves Move s t g) (move : Move t u g') : Moves Move s u (g ++ g')

namespace Moves

variable {Move : σ → σ → List E → Prop} {s t u : σ} {g g' : List E}

theorem single (move : Move s t g) : Moves Move s t g := .tail (.refl s) move

theorem append (first : Moves Move s t g) (later : Moves Move t u g') : Moves Move s u (g ++ g') := by
  induction later with
  | refl => simpa using first
  | tail _ move ih =>
    rw [← List.append_assoc]
    exact .tail ih move

/-- The same moves, with what they show written down otherwise. -/
theorem map {Move' : σ → σ → List E' → Prop} (f : E → E')
    (same : ∀ s t g, Move s t g → Move' s t (g.map f)) (moves : Moves Move s t g) :
    Moves Move' s t (g.map f) := by
  induction moves with
  | refl => exact .refl s
  | tail _ move ih =>
    rw [List.map_append]
    exact .tail ih (same _ _ _ move)

theorem mono {Move' : σ → σ → List E → Prop} (same : ∀ s t g, Move s t g → Move' s t g)
    (moves : Moves Move s t g) : Moves Move' s t g := by
  induction moves with
  | refl => exact .refl s
  | tail _ move ih => exact .tail ih (same _ _ _ move)

/-- Step rule for invariants of states and what led to them. -/
theorem invariant {Inv : σ → List E → Prop}
    (preserved : ∀ s t h g, Inv s h → Move s t g → Inv t (h ++ g)) {h : List E}
    (moves : Moves Move s t g) (holds : Inv s h) : Inv t (h ++ g) := by
  induction moves with
  | refl => simpa using holds
  | tail _ move ih =>
    rw [← List.append_assoc]
    exact preserved _ _ _ _ ih move

end Moves

/-- From a state with `Pre`, the program makes moves only, and answers in a state with `Post`. -/
def Triple (permit : Permit κ ρ σ ε) (Move : σ → σ → List (Event κ ρ ε) → Prop) (Pre : σ → Prop)
    (p : Program κ ρ σ ε α) (Post : α → σ → Prop) : Prop :=
  ∀ ⦃s o u g⦄, Pre s → Runs .alone permit p s o u g →
    Moves Move s u g ∧ ∀ a, o = .returned a → Post a u

namespace Triple

variable {permit : Permit κ ρ σ ε} {Move : σ → σ → List (Event κ ρ ε) → Prop}
  {Pre : σ → Prop} {Mid : α → σ → Prop} {Post : β → σ → Prop}

theorem ret {Post : α → σ → Prop} {a : α} (holds : ∀ s, Pre s → Post a s) :
    Triple permit Move Pre (.ret a) Post := by
  intro s o u g pre run
  obtain ⟨rfl, rfl, rfl⟩ := run.of_ret
  refine ⟨.refl u, ?_⟩
  rintro _ ⟨⟩
  exact holds u pre

theorem raise {Post : α → σ → Prop} (e : ε) : Triple permit Move Pre (.raise e) Post := by
  intro s o u g pre run
  obtain ⟨rfl, rfl, rfl⟩ := run.of_raise
  exact ⟨.refl u, fun _ same => nomatch same⟩

theorem bind {p : Program κ ρ σ ε α} {k : α → Program κ ρ σ ε β}
    (first : Triple permit Move Pre p Mid) (rest : ∀ a, Triple permit Move (Mid a) (k a) Post) :
    Triple permit Move Pre (p.bind k) Post := by
  intro s o u g pre run
  obtain ⟨a, t, g₁, g₂, ran, later, rfl⟩ | ⟨o', stop, stopped⟩ := run.of_bind
  · obtain ⟨moves, mid⟩ := first pre ran
    obtain ⟨moves', post⟩ := rest a (mid a rfl) later
    exact ⟨moves.append moves', post⟩
  · obtain ⟨moves, -⟩ := first pre stopped
    refine ⟨moves, ?_⟩
    rintro a rfl
    cases stop

theorem weaken {Pre' : σ → Prop} {Post Post' : α → σ → Prop} {p : Program κ ρ σ ε α}
    (triple : Triple permit Move Pre p Post) (pre : ∀ s, Pre' s → Pre s)
    (post : ∀ a s, Post a s → Post' a s) : Triple permit Move Pre' p Post' := by
  intro s o u g holds run
  obtain ⟨moves, returned⟩ := triple (pre s holds) run
  exact ⟨moves, fun a same => post a u (returned a same)⟩

theorem mono {Move' : σ → σ → List (Event κ ρ ε) → Prop} {Post : α → σ → Prop}
    {p : Program κ ρ σ ε α} (triple : Triple permit Move Pre p Post)
    (same : ∀ s t g, Move s t g → Move' s t g) : Triple permit Move' Pre p Post := by
  intro s o u g pre run
  obtain ⟨moves, post⟩ := triple pre run
  exact ⟨moves.mono same, post⟩

end Triple

/-- What every step of the program keeps, a run alone keeps. -/
theorem runs_of_guarantees {guar : κ → σ → σ → Prop} {R : σ → σ → Prop} (refl : ∀ s, R s s)
    (trans : ∀ {a b c}, R a b → R b c → R a c) (keeps : ∀ l a b, guar l a b → R a b)
    {permit : Permit κ ρ σ ε} {p : Program κ ρ σ ε α} {s u : σ} {o : Outcome ε α}
    {g : List (Event κ ρ ε)} (hp : Guarantees guar p) (run : Runs .alone permit p s o u g) :
    R s u := by
  induction run with
  | ret => exact refl _
  | raise => exact refl _
  | dead => exact refl _
  | step others moved _ _ ih =>
    cases others
    obtain ⟨rest, same | done⟩ := hp.advance moved
    · exact same ▸ ih rest
    · exact trans (keeps _ _ _ done) (ih rest)

theorem labels_of_guarantees {guar : κ → σ → σ → Prop} {allowed : κ → Prop}
    (labels : ∀ l a b, guar l a b → allowed l) {rely : Rely σ}
    {permit : Permit κ ρ σ ε} {p : Program κ ρ σ ε α} {s u : σ} {o : Outcome ε α}
    {g : List (Event κ ρ ε)} (hp : Guarantees guar p) (run : Runs rely permit p s o u g) :
    ∀ l, .performed l ∈ g → allowed l := by
  induction run with
  | ret => simp
  | raise => simp
  | dead => simp
  | step _ moved _ _ ih =>
    intro l mem
    rcases List.mem_cons.mp mem with rfl | later
    · exact labels _ _ _ (hp.performed moved)
    · exact ih (hp.advance moved).1 l later

/-- Every event of a run was permitted. -/
theorem permitted {rely : Rely σ} {permit : Permit κ ρ σ ε} {p : Program κ ρ σ ε α} {s u : σ}
    {o : Outcome ε α} {g : List (Event κ ρ ε)} (run : Runs rely permit p s o u g) :
    ∀ ev ∈ g, ∃ t, permit ev t := by
  induction run with
  | ret => simp
  | raise => simp
  | dead => simp
  | step _ _ ok _ ih =>
    intro ev mem
    rcases List.mem_cons.mp mem with rfl | later
    · exact ⟨_, ok⟩
    · exact ih ev later

inductive Served (permit : Permit κ ρ σ ε) (serve : Req → Program κ ρ σ ε α) (first : σ) :
    σ → List (Req × Event κ ρ ε) → Prop where
  | start : Served permit serve first first []
  | call {s h request o t g} (before : Served permit serve first s h)
      (run : Runs .alone permit (serve request) s o t g) :
      Served permit serve first t (h ++ g.map (request, ·))

theorem Served.mono {permit permit' : Permit κ ρ σ ε} (weaker : ∀ ev s, permit ev s → permit' ev s)
    {serve : Req → Program κ ρ σ ε α} {first s : σ} {h : List (Req × Event κ ρ ε)}
    (served : Served permit serve first s h) : Served permit' serve first s h := by
  induction served with
  | start => exact .start
  | call _ run ih => exact .call ih (run.mono weaker)

def Tagged (Move : Req → σ → σ → List E → Prop) (s t : σ) (g : List (Req × E)) : Prop :=
  ∃ request g', Move request s t g' ∧ g = g'.map (request, ·)

theorem Served.moves {permit : Permit κ ρ σ ε} {serve : Req → Program κ ρ σ ε α} {first s : σ}
    {h : List (Req × Event κ ρ ε)} {Move : Req → σ → σ → List (Event κ ρ ε) → Prop}
    (described : ∀ request,
      Triple permit (Move request) (fun _ => True) (serve request) fun _ _ => True)
    (served : Served permit serve first s h) : Moves (Tagged Move) first s h := by
  induction served with
  | start => exact .refl first
  | @call _ _ request _ _ _ _ run ih =>
    exact ih.append ((described request trivial run).1.map _
      fun s t g move => ⟨request, g, move, rfl⟩)

section
variable (permit : Permit κ ρ σ ε) [∀ ev s, Decidable (permit ev s)]

def play : List (Move ρ ε) → Program κ ρ σ ε α → σ → Option (Outcome ε α × σ × List (Event κ ρ ε))
  | [], p, s => p.finished.map fun o => (o, s, [])
  | m :: moves, p, s => (advance m p s).bind fun (ev, p', s') =>
      if permit ev s then (play moves p' s').map fun (o, t, g) => (o, t, ev :: g) else none

def playCalls (serve : Req → Program κ ρ σ ε α) :
    List (Req × List (Move ρ ε)) → σ → Option (σ × List (Req × Event κ ρ ε))
  | [], s => some (s, [])
  | (request, moves) :: calls, s => (play permit moves (serve request) s).bind fun (_, t, g) =>
      (playCalls serve calls t).map fun (u, h) => (u, g.map (request, ·) ++ h)

variable {permit}

theorem play_runs {moves : List (Move ρ ε)} {p : Program κ ρ σ ε α} {s t : σ} {o : Outcome ε α}
    {g : List (Event κ ρ ε)} (played : play permit moves p s = some (o, t, g)) :
    Runs .alone permit p s o t g := by
  induction moves generalizing p s t o g with
  | nil =>
    obtain ⟨_, done, same⟩ := Option.map_eq_some_iff.mp played
    cases same
    cases p with
    | ret a => cases done; exact .ret a s
    | raise e => cases done; exact .raise e s
    | dead => cases done; exact .dead s
    | act | ask => cases done
  | cons m moves ih =>
    obtain ⟨⟨ev, p', s'⟩, moved, rest⟩ := Option.bind_eq_some_iff.mp played
    dsimp only at rest
    split at rest
    · obtain ⟨_, later, same⟩ := Option.map_eq_some_iff.mp rest
      cases same
      exact .step (Rely.alone.refl s) moved ‹_› (ih later)
    · cases rest

theorem served_of_playCalls {serve : Req → Program κ ρ σ ε α} {first s u : σ}
    {h h' : List (Req × Event κ ρ ε)} {calls : List (Req × List (Move ρ ε))}
    (served : Served permit serve first s h) (played : playCalls permit serve calls s = some (u, h')) :
    Served permit serve first u (h ++ h') := by
  induction calls generalizing s h h' with
  | nil =>
    cases played
    rwa [List.append_nil]
  | cons call calls ih =>
    obtain ⟨⟨o, t, g⟩, first, rest⟩ := Option.bind_eq_some_iff.mp played
    obtain ⟨⟨_, h''⟩, later, same⟩ := Option.map_eq_some_iff.mp rest
    cases same
    rw [← List.append_assoc]
    exact ih (.call served (play_runs first)) later

end

end CallHistory
