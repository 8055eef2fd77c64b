import Mathlib.Logic.Basic
import Mathlib.Data.List.Basic

/-! Programs over one shared durable state. A program is a finite tree of atomic steps;
between two steps another program may run, and at every step an exception may be raised or
the process may die. `try` blocks see exceptions, never a death. The rules below take the runs
of one program apart: a run of a composed program is made of runs of its parts. -/

namespace DurableProgram

/-- `κ` names a step, `ρ` is what the environment replies, `σ` is the durable state. -/
inductive Program (κ ρ σ ε α : Type) : Type where
  | ret (value : α)
  | raise (error : ε)
  | dead
  | act (label : κ) (update : σ → σ) (next : σ → Program κ ρ σ ε α)
      (fails : ε → Program κ ρ σ ε α)
  | ask (label : κ) (next : ρ → Program κ ρ σ ε α) (fails : ε → Program κ ρ σ ε α)

inductive Event (κ ρ ε : Type) where
  | performed (label : κ)
  | answered (label : κ) (reply : ρ)
  | failed (label : κ) (error : ε)
  | died (label : κ)

inductive Outcome (ε α : Type) where
  | returned (value : α)
  | raised (error : ε)
  | died

variable {κ ρ σ ε α β : Type}

def Outcome.value? : Outcome ε α → Option α
  | .returned a => some a
  | _ => none

/-- A value that a run returned, found by evaluating the run. -/
theorem Outcome.of_value {o : Outcome ε α} {p : α → Bool} (holds : o.value?.any p = true) :
    ∃ a, o = .returned a ∧ p a = true := by
  cases o with
  | returned a => exact ⟨a, rfl, holds⟩
  | raised | died => cases holds

/-- A part that did not return stops the whole program in the same way. -/
inductive Stopped : Outcome ε α → Outcome ε β → Prop where
  | raised (e : ε) : Stopped (.raised e) (.raised e)
  | died : Stopped .died .died

namespace Event

def label : Event κ ρ ε → κ
  | .performed l => l
  | .answered l _ => l
  | .failed l _ => l
  | .died l => l

def faultFree : Event κ ρ ε → Prop
  | .performed _ => True
  | .answered _ _ => True
  | .failed _ _ => False
  | .died _ => False

instance : (ev : Event κ ρ ε) → Decidable ev.faultFree
  | .performed _ => .isTrue trivial
  | .answered _ _ => .isTrue trivial
  | .failed _ _ => .isFalse id
  | .died _ => .isFalse id

@[simp] theorem faultFree_performed (l : κ) : (Event.performed l : Event κ ρ ε).faultFree := trivial

@[simp] theorem faultFree_answered (l : κ) (r : ρ) :
    (Event.answered l r : Event κ ρ ε).faultFree := trivial

@[simp] theorem not_faultFree_failed (l : κ) (e : ε) :
    ¬ (Event.failed l e : Event κ ρ ε).faultFree := id

@[simp] theorem not_faultFree_died (l : κ) : ¬ (Event.died l : Event κ ρ ε).faultFree := id

theorem failed_ne_performed (l : κ) (e : ε) (l' : κ) :
    (Event.failed l e : Event κ ρ ε) ≠ .performed l' := by
  intro same
  cases same

theorem died_ne_performed (l l' : κ) : (Event.died l : Event κ ρ ε) ≠ .performed l' := by
  intro same
  cases same

end Event

namespace Program

def bind : Program κ ρ σ ε α → (α → Program κ ρ σ ε β) → Program κ ρ σ ε β
  | .ret a, k => k a
  | .raise e, _ => .raise e
  | .dead, _ => .dead
  | .act l u n f, k => .act l u (fun s => bind (n s) k) (fun e => bind (f e) k)
  | .ask l n f, k => .ask l (fun r => bind (n r) k) (fun e => bind (f e) k)

instance : Monad (Program κ ρ σ ε) where
  pure := .ret
  bind := bind

/-- Python's `try`/`except`: the handler sees every exception of the block, raised by the
code or injected at one of its steps. -/
def tryCatch : Program κ ρ σ ε α → (ε → Program κ ρ σ ε α) → Program κ ρ σ ε α
  | .ret a, _ => .ret a
  | .raise e, c => c e
  | .dead, _ => .dead
  | .act l u n f, c => .act l u (fun s => tryCatch (n s) c) (fun e => tryCatch (f e) c)
  | .ask l n f, c => .ask l (fun r => tryCatch (n r) c) (fun e => tryCatch (f e) c)

/-- One atomic step that reads the state it started from. -/
def perform (label : κ) (update : σ → σ) (result : σ → α) : Program κ ρ σ ε α :=
  .act label update (fun s => .ret (result s)) .raise

@[simp] theorem pure_eq (a : α) : (pure a : Program κ ρ σ ε α) = .ret a := rfl

@[simp] theorem bind_eq (p : Program κ ρ σ ε α) (k : α → Program κ ρ σ ε β) :
    p >>= k = p.bind k := rfl

@[simp] theorem ret_bind (a : α) (k : α → Program κ ρ σ ε β) :
    (Program.ret a : Program κ ρ σ ε α).bind k = k a := rfl

@[simp] theorem raise_bind (e : ε) (k : α → Program κ ρ σ ε β) :
    (Program.raise e : Program κ ρ σ ε α).bind k = .raise e := rfl

@[simp] theorem act_bind (l : κ) (u : σ → σ) (n : σ → Program κ ρ σ ε α)
    (f : ε → Program κ ρ σ ε α) (k : α → Program κ ρ σ ε β) :
    (Program.act l u n f).bind k = .act l u (fun s => (n s).bind k) (fun e => (f e).bind k) := rfl

@[simp] theorem ask_bind (l : κ) (n : ρ → Program κ ρ σ ε α)
    (f : ε → Program κ ρ σ ε α) (k : α → Program κ ρ σ ε β) :
    (Program.ask l n f).bind k = .ask l (fun r => (n r).bind k) (fun e => (f e).bind k) := rfl

theorem bind_assoc {γ : Type} (p : Program κ ρ σ ε α) (k : α → Program κ ρ σ ε β)
    (j : β → Program κ ρ σ ε γ) : (p.bind k).bind j = p.bind (fun a => (k a).bind j) := by
  induction p with
  | ret a => rfl
  | raise e => rfl
  | dead => rfl
  | act l u n f ihn ihf =>
    simp only [act_bind, ihn, ihf]
  | ask l n f ihn ihf =>
    simp only [ask_bind, ihn, ihf]

theorem bind_ret (p : Program κ ρ σ ε α) : p.bind .ret = p := by
  induction p with
  | ret | raise | dead => rfl
  | act l u n f ihn ihf => simp only [act_bind, ihn, ihf]
  | ask l n f ihn ihf => simp only [ask_bind, ihn, ihf]

/-- The program has answered, failed or died. -/
def finished : Program κ ρ σ ε α → Option (Outcome ε α)
  | .ret a => some (.returned a)
  | .raise e => some (.raised e)
  | .dead => some .died
  | .act .. => none
  | .ask .. => none

/-- The step the program is about to take. -/
def pending : Program κ ρ σ ε α → Option κ
  | .act l _ _ _ => some l
  | .ask l _ _ => some l
  | _ => none

end Program

inductive Move (ρ ε : Type) where
  | perform
  | reply (answer : ρ)
  | fail (error : ε)
  | die

def advance : Move ρ ε → Program κ ρ σ ε α → σ →
    Option (Event κ ρ ε × Program κ ρ σ ε α × σ)
  | .perform, .act l u n _, s => some (.performed l, n s, u s)
  | .reply r, .ask l n _, s => some (.answered l r, n r, s)
  | .fail e, .act l _ _ f, s => some (.failed l e, f e, s)
  | .fail e, .ask l _ f, s => some (.failed l e, f e, s)
  | .die, .act l _ _ _, s => some (.died l, .dead, s)
  | .die, .ask l _ _, s => some (.died l, .dead, s)
  | _, _, _ => none

theorem advance_act {m : Move ρ ε} {l : κ} {u : σ → σ} {n : σ → Program κ ρ σ ε α}
    {f : ε → Program κ ρ σ ε α} {s s' : σ} {ev : Event κ ρ ε} {p' : Program κ ρ σ ε α}
    (h : advance m (.act l u n f) s = some (ev, p', s')) :
    (ev = .performed l ∧ p' = n s ∧ s' = u s) ∨
    (∃ e, ev = .failed l e ∧ p' = f e ∧ s' = s) ∨
    (ev = .died l ∧ p' = .dead ∧ s' = s) := by
  cases m <;> simp only [advance, Option.some.injEq, Prod.mk.injEq, reduceCtorEq] at h
  case perform => exact .inl ⟨h.1.symm, h.2.1.symm, h.2.2.symm⟩
  case fail e => exact .inr (.inl ⟨e, h.1.symm, h.2.1.symm, h.2.2.symm⟩)
  case die => exact .inr (.inr ⟨h.1.symm, h.2.1.symm, h.2.2.symm⟩)

theorem advance_ask {m : Move ρ ε} {l : κ} {n : ρ → Program κ ρ σ ε α}
    {f : ε → Program κ ρ σ ε α} {s s' : σ} {ev : Event κ ρ ε} {p' : Program κ ρ σ ε α}
    (h : advance m (.ask l n f) s = some (ev, p', s')) :
    (∃ r, ev = .answered l r ∧ p' = n r ∧ s' = s) ∨
    (∃ e, ev = .failed l e ∧ p' = f e ∧ s' = s) ∨
    (ev = .died l ∧ p' = .dead ∧ s' = s) := by
  cases m <;> simp only [advance, Option.some.injEq, Prod.mk.injEq, reduceCtorEq] at h
  case reply r => exact .inl ⟨r, h.1.symm, h.2.1.symm, h.2.2.symm⟩
  case fail e => exact .inr (.inl ⟨e, h.1.symm, h.2.1.symm, h.2.2.symm⟩)
  case die => exact .inr (.inr ⟨h.1.symm, h.2.1.symm, h.2.2.symm⟩)

theorem advance_finished {m : Move ρ ε} {p p' : Program κ ρ σ ε α} {s s' : σ}
    {ev : Event κ ρ ε} (h : advance m p s = some (ev, p', s')) : p.finished = none := by
  cases p <;> cases m <;> simp [advance] at h <;> rfl

theorem advance_bind {m : Move ρ ε} {p : Program κ ρ σ ε α} {k : α → Program κ ρ σ ε β}
    {q : Program κ ρ σ ε β} {s s' : σ} {ev : Event κ ρ ε} (running : p.finished = none)
    (step : advance m (p.bind k) s = some (ev, q, s')) :
    ∃ p', advance m p s = some (ev, p', s') ∧ q = p'.bind k := by
  cases p with
  | ret a => cases running
  | raise e => cases running
  | dead => cases running
  | act l u n f =>
    cases m <;> simp only [Program.act_bind, advance, Option.some.injEq, Prod.mk.injEq,
      reduceCtorEq] at step
    case perform => exact ⟨n s, by simp [advance, step.1, step.2.2], step.2.1.symm⟩
    case fail e => exact ⟨f e, by simp [advance, step.1, step.2.2], step.2.1.symm⟩
    case die => exact ⟨.dead, by simp [advance, step.1, step.2.2], step.2.1.symm⟩
  | ask l n f =>
    cases m <;> simp only [Program.ask_bind, advance, Option.some.injEq, Prod.mk.injEq,
      reduceCtorEq] at step
    case reply r => exact ⟨n r, by simp [advance, step.1, step.2.2], step.2.1.symm⟩
    case fail e => exact ⟨f e, by simp [advance, step.1, step.2.2], step.2.1.symm⟩
    case die => exact ⟨.dead, by simp [advance, step.1, step.2.2], step.2.1.symm⟩

/-- Which events may happen in which states. -/
abbrev Permit (κ ρ σ ε : Type) := Event κ ρ ε → σ → Prop

/-- What others may do to the state between two steps of a program. -/
structure Rely (σ : Type) where
  holds : σ → σ → Prop
  refl : ∀ s, holds s s
  trans : ∀ {a b c}, holds a b → holds b c → holds a c

/-- Nobody else writes. -/
def Rely.alone : Rely σ := ⟨Eq, fun _ => rfl, Eq.trans⟩

def Rely.anyone : Rely σ := ⟨fun _ _ => True, fun _ => trivial, fun _ _ => trivial⟩

/-- A run of the program to its end, in permitted steps, with what others do between them. -/
inductive Runs (rely : Rely σ) (permit : Permit κ ρ σ ε) :
    Program κ ρ σ ε α → σ → Outcome ε α → σ → List (Event κ ρ ε) → Prop where
  | ret (a s) : Runs rely permit (.ret a) s (.returned a) s []
  | raise (e s) : Runs rely permit (.raise e) s (.raised e) s []
  | dead (s) : Runs rely permit .dead s .died s []
  | step {m p s t ev p' s' o u g} (others : rely.holds s t)
      (moved : advance m p t = some (ev, p', s')) (ok : permit ev t)
      (rest : Runs rely permit p' s' o u g) : Runs rely permit p s o u (ev :: g)

namespace Runs

variable {rely : Rely σ} {permit : Permit κ ρ σ ε} {s u : σ} {g : List (Event κ ρ ε)}

theorem of_ret {a : α} {o : Outcome ε α} (run : Runs rely permit (.ret a) s o u g) :
    o = .returned a ∧ u = s ∧ g = [] := by
  cases run with
  | ret => exact ⟨rfl, rfl, rfl⟩
  | step _ moved => cases advance_finished moved

theorem of_raise {e : ε} {o : Outcome ε α} (run : Runs rely permit (.raise e) s o u g) :
    o = .raised e ∧ u = s ∧ g = [] := by
  cases run with
  | raise => exact ⟨rfl, rfl, rfl⟩
  | step _ moved => cases advance_finished moved

theorem of_dead {o : Outcome ε α} (run : Runs rely permit .dead s o u g) :
    o = .died ∧ u = s ∧ g = [] := by
  cases run with
  | dead => exact ⟨rfl, rfl, rfl⟩
  | step _ moved => cases advance_finished moved

theorem of_act {l : κ} {update : σ → σ} {n : σ → Program κ ρ σ ε α}
    {f : ε → Program κ ρ σ ε α} {o : Outcome ε α}
    (run : Runs rely permit (.act l update n f) s o u g) :
    ∃ t, rely.holds s t ∧
      ((∃ g', permit (.performed l) t ∧ Runs rely permit (n t) (update t) o u g' ∧
          g = .performed l :: g') ∨
        (∃ e g', permit (.failed l e) t ∧ Runs rely permit (f e) t o u g' ∧
          g = .failed l e :: g') ∨
        (permit (.died l) t ∧ o = .died ∧ u = t ∧ g = [.died l])) := by
  cases run with
  | step others moved ok rest =>
    refine ⟨_, others, ?_⟩
    obtain ⟨rfl, rfl, rfl⟩ | ⟨e, rfl, rfl, rfl⟩ | ⟨rfl, rfl, rfl⟩ := advance_act moved
    · exact .inl ⟨_, ok, rest, rfl⟩
    · exact .inr (.inl ⟨e, _, ok, rest, rfl⟩)
    · obtain ⟨rfl, rfl, rfl⟩ := rest.of_dead
      exact .inr (.inr ⟨ok, rfl, rfl, rfl⟩)

theorem of_ask {l : κ} {n : ρ → Program κ ρ σ ε α} {f : ε → Program κ ρ σ ε α}
    {o : Outcome ε α} (run : Runs rely permit (.ask l n f) s o u g) :
    ∃ t, rely.holds s t ∧
      ((∃ r g', permit (.answered l r) t ∧ Runs rely permit (n r) t o u g' ∧
          g = .answered l r :: g') ∨
        (∃ e g', permit (.failed l e) t ∧ Runs rely permit (f e) t o u g' ∧
          g = .failed l e :: g') ∨
        (permit (.died l) t ∧ o = .died ∧ u = t ∧ g = [.died l])) := by
  cases run with
  | step others moved ok rest =>
    refine ⟨_, others, ?_⟩
    obtain ⟨r, rfl, rfl, rfl⟩ | ⟨e, rfl, rfl, rfl⟩ | ⟨rfl, rfl, rfl⟩ := advance_ask moved
    · exact .inl ⟨r, _, ok, rest, rfl⟩
    · exact .inr (.inl ⟨e, _, ok, rest, rfl⟩)
    · obtain ⟨rfl, rfl, rfl⟩ := rest.of_dead
      exact .inr (.inr ⟨ok, rfl, rfl, rfl⟩)

theorem of_perform {l : κ} {update : σ → σ} {result : σ → α} {o : Outcome ε α}
    (run : Runs rely permit (Program.perform l update result) s o u g) :
    ∃ t, rely.holds s t ∧
      ((permit (.performed l) t ∧ o = .returned (result t) ∧ u = update t ∧
          g = [.performed l]) ∨
        (∃ e, permit (.failed l e) t ∧ o = .raised e ∧ u = t ∧ g = [.failed l e]) ∨
        (permit (.died l) t ∧ o = .died ∧ u = t ∧ g = [.died l])) := by
  obtain ⟨t, others, ⟨g', ok, rest, rfl⟩ | ⟨e, g', ok, rest, rfl⟩ | ⟨ok, rfl, rfl, rfl⟩⟩ :=
    run.of_act
  · obtain ⟨rfl, rfl, rfl⟩ := rest.of_ret
    exact ⟨t, others, .inl ⟨ok, rfl, rfl, rfl⟩⟩
  · obtain ⟨rfl, rfl, rfl⟩ := rest.of_raise
    exact ⟨_, others, .inr (.inl ⟨e, ok, rfl, rfl, rfl⟩)⟩
  · exact ⟨_, others, .inr (.inr ⟨ok, rfl, rfl, rfl⟩)⟩

/-- A run of a composed program is a run of its first part, and then of the rest if the
first part returned. -/
theorem of_bind {p : Program κ ρ σ ε α} {k : α → Program κ ρ σ ε β} {o : Outcome ε β}
    (run : Runs rely permit (p.bind k) s o u g) :
    (∃ a t g₁ g₂, Runs rely permit p s (.returned a) t g₁ ∧ Runs rely permit (k a) t o u g₂ ∧
      g = g₁ ++ g₂) ∨
    ∃ o', Stopped o' o ∧ Runs rely permit p s o' u g := by
  induction p generalizing s g with
  | ret a => exact .inl ⟨a, s, [], g, .ret a s, run, rfl⟩
  | raise e =>
    obtain ⟨rfl, rfl, rfl⟩ := run.of_raise
    exact .inr ⟨_, .raised e, .raise e u⟩
  | dead =>
    obtain ⟨rfl, rfl, rfl⟩ := run.of_dead
    exact .inr ⟨_, .died, .dead u⟩
  | act l update n f ihn ihf =>
    obtain ⟨t, others, ⟨g', ok, rest, rfl⟩ | ⟨e, g', ok, rest, rfl⟩ | ⟨ok, rfl, rfl, rfl⟩⟩ :=
      run.of_act
    · obtain ⟨a, t', g₁, g₂, first, later, rfl⟩ | ⟨o', stop, first⟩ := ihn t rest
      · exact .inl ⟨a, t', _ :: g₁, g₂, .step (m := .perform) others rfl ok first, later, rfl⟩
      · exact .inr ⟨o', stop, .step (m := .perform) others rfl ok first⟩
    · obtain ⟨a, t', g₁, g₂, first, later, rfl⟩ | ⟨o', stop, first⟩ := ihf e rest
      · exact .inl ⟨a, t', _ :: g₁, g₂, .step (m := .fail e) others rfl ok first, later, rfl⟩
      · exact .inr ⟨o', stop, .step (m := .fail e) others rfl ok first⟩
    · exact .inr ⟨_, .died, .step (m := .die) others rfl ok (.dead _)⟩
  | ask l n f ihn ihf =>
    obtain ⟨t, others, ⟨r, g', ok, rest, rfl⟩ | ⟨e, g', ok, rest, rfl⟩ | ⟨ok, rfl, rfl, rfl⟩⟩ :=
      run.of_ask
    · obtain ⟨a, t', g₁, g₂, first, later, rfl⟩ | ⟨o', stop, first⟩ := ihn r rest
      · exact .inl ⟨a, t', _ :: g₁, g₂, .step (m := .reply r) others rfl ok first, later, rfl⟩
      · exact .inr ⟨o', stop, .step (m := .reply r) others rfl ok first⟩
    · obtain ⟨a, t', g₁, g₂, first, later, rfl⟩ | ⟨o', stop, first⟩ := ihf e rest
      · exact .inl ⟨a, t', _ :: g₁, g₂, .step (m := .fail e) others rfl ok first, later, rfl⟩
      · exact .inr ⟨o', stop, .step (m := .fail e) others rfl ok first⟩
    · exact .inr ⟨_, .died, .step (m := .die) others rfl ok (.dead _)⟩

theorem of_tryCatch {p : Program κ ρ σ ε α} {c : ε → Program κ ρ σ ε α} {o : Outcome ε α}
    (run : Runs rely permit (p.tryCatch c) s o u g) :
    (∃ e t g₁ g₂, Runs rely permit p s (.raised e) t g₁ ∧ Runs rely permit (c e) t o u g₂ ∧
      g = g₁ ++ g₂) ∨
    (∃ a, o = .returned a ∧ Runs rely permit p s (.returned a) u g) ∨
    (o = .died ∧ Runs rely permit p s .died u g) := by
  induction p generalizing s g with
  | ret a =>
    obtain ⟨rfl, rfl, rfl⟩ := run.of_ret
    exact .inr (.inl ⟨a, rfl, .ret a u⟩)
  | raise e => exact .inl ⟨e, s, [], g, .raise e s, run, rfl⟩
  | dead =>
    obtain ⟨rfl, rfl, rfl⟩ := run.of_dead
    exact .inr (.inr ⟨rfl, .dead u⟩)
  | act l update n f ihn ihf =>
    obtain ⟨t, others, ⟨g', ok, rest, rfl⟩ | ⟨e, g', ok, rest, rfl⟩ | ⟨ok, rfl, rfl, rfl⟩⟩ :=
      run.of_act
    · obtain ⟨e, t', g₁, g₂, first, later, rfl⟩ | ⟨a, rfl, first⟩ | ⟨rfl, first⟩ := ihn t rest
      · exact .inl ⟨e, t', _ :: g₁, g₂, .step (m := .perform) others rfl ok first, later, rfl⟩
      · exact .inr (.inl ⟨a, rfl, .step (m := .perform) others rfl ok first⟩)
      · exact .inr (.inr ⟨rfl, .step (m := .perform) others rfl ok first⟩)
    · obtain ⟨e', t', g₁, g₂, first, later, rfl⟩ | ⟨a, rfl, first⟩ | ⟨rfl, first⟩ := ihf e rest
      · exact .inl ⟨e', t', _ :: g₁, g₂, .step (m := .fail e) others rfl ok first, later, rfl⟩
      · exact .inr (.inl ⟨a, rfl, .step (m := .fail e) others rfl ok first⟩)
      · exact .inr (.inr ⟨rfl, .step (m := .fail e) others rfl ok first⟩)
    · exact .inr (.inr ⟨rfl, .step (m := .die) others rfl ok (.dead _)⟩)
  | ask l n f ihn ihf =>
    obtain ⟨t, others, ⟨r, g', ok, rest, rfl⟩ | ⟨e, g', ok, rest, rfl⟩ | ⟨ok, rfl, rfl, rfl⟩⟩ :=
      run.of_ask
    · obtain ⟨e, t', g₁, g₂, first, later, rfl⟩ | ⟨a, rfl, first⟩ | ⟨rfl, first⟩ := ihn r rest
      · exact .inl ⟨e, t', _ :: g₁, g₂, .step (m := .reply r) others rfl ok first, later, rfl⟩
      · exact .inr (.inl ⟨a, rfl, .step (m := .reply r) others rfl ok first⟩)
      · exact .inr (.inr ⟨rfl, .step (m := .reply r) others rfl ok first⟩)
    · obtain ⟨e', t', g₁, g₂, first, later, rfl⟩ | ⟨a, rfl, first⟩ | ⟨rfl, first⟩ := ihf e rest
      · exact .inl ⟨e', t', _ :: g₁, g₂, .step (m := .fail e) others rfl ok first, later, rfl⟩
      · exact .inr (.inl ⟨a, rfl, .step (m := .fail e) others rfl ok first⟩)
      · exact .inr (.inr ⟨rfl, .step (m := .fail e) others rfl ok first⟩)
    · exact .inr (.inr ⟨rfl, .step (m := .die) others rfl ok (.dead _)⟩)

theorem mono {permit' : Permit κ ρ σ ε} (more : ∀ ev s, permit ev s → permit' ev s)
    {p : Program κ ρ σ ε α} {o : Outcome ε α} (run : Runs rely permit p s o u g) :
    Runs rely permit' p s o u g := by
  induction run with
  | ret a s => exact .ret a s
  | raise e s => exact .raise e s
  | dead s => exact .dead s
  | step others moved ok _ ih => exact .step others moved (more _ _ ok) ih

theorem among {rely' : Rely σ} (more : ∀ s t, rely.holds s t → rely'.holds s t)
    {p : Program κ ρ σ ε α} {o : Outcome ε α} (run : Runs rely permit p s o u g) :
    Runs rely' permit p s o u g := by
  induction run with
  | ret a s => exact .ret a s
  | raise e s => exact .raise e s
  | dead s => exact .dead s
  | step others moved ok _ ih => exact .step (more _ _ others) moved ok ih

/-- What others do first may be counted to the run. -/
theorem others {p : Program κ ρ σ ε α} {t : σ} {o : Outcome ε α} (others : rely.holds s t)
    (run : Runs rely permit p t o u g) : ∃ u', Runs rely permit p s o u' g := by
  cases run with
  | ret a => exact ⟨s, .ret a s⟩
  | raise e => exact ⟨s, .raise e s⟩
  | dead => exact ⟨s, .dead s⟩
  | step more moved ok rest => exact ⟨u, .step (rely.trans others more) moved ok rest⟩

theorem performed {l : κ} {update : σ → σ} {query : σ → α} (ok : permit (.performed l) s) :
    Runs rely permit (Program.perform l update query) s (.returned (query s)) (update s)
      [.performed l] :=
  .step (m := .perform) (rely.refl s) rfl ok (.ret _ _)

/-- A part that returned is followed by the rest. -/
theorem bind {p : Program κ ρ σ ε α} {k : α → Program κ ρ σ ε β} {a : α} {t : σ} {o : Outcome ε β}
    {g' : List (Event κ ρ ε)} (first : Runs rely permit p s (.returned a) t g)
    (rest : Runs rely permit (k a) t o u g') : Runs rely permit (p.bind k) s o u (g ++ g') := by
  induction p generalizing s g with
  | ret b =>
    obtain ⟨same, rfl, rfl⟩ := first.of_ret
    cases same
    exact rest
  | raise e => cases first.of_raise.1
  | dead => cases first.of_dead.1
  | act l update n f ihn ihf =>
    obtain ⟨t, others, ⟨g₁, ok, later, rfl⟩ | ⟨e, g₁, ok, later, rfl⟩ | ⟨_, same, _⟩⟩ := first.of_act
    · exact .step (m := .perform) others rfl ok (ihn t later)
    · exact .step (m := .fail e) others rfl ok (ihf e later)
    · cases same
  | ask l n f ihn ihf =>
    obtain ⟨t, others, ⟨r, g₁, ok, later, rfl⟩ | ⟨e, g₁, ok, later, rfl⟩ | ⟨_, same, _⟩⟩ :=
      first.of_ask
    · exact .step (m := .reply r) others rfl ok (ihn r later)
    · exact .step (m := .fail e) others rfl ok (ihf e later)
    · cases same

/-- The handler takes over from a block that raised. -/
theorem handled {p : Program κ ρ σ ε α} {c : ε → Program κ ρ σ ε α} {e : ε} {t : σ}
    {o : Outcome ε α} {g' : List (Event κ ρ ε)} (raised : Runs rely permit p s (.raised e) t g)
    (rest : Runs rely permit (c e) t o u g') : Runs rely permit (p.tryCatch c) s o u (g ++ g') := by
  induction p generalizing s g with
  | ret b => cases raised.of_ret.1
  | raise e' =>
    obtain ⟨same, rfl, rfl⟩ := raised.of_raise
    cases same
    exact rest
  | dead => cases raised.of_dead.1
  | act l update n f ihn ihf =>
    obtain ⟨t, others, ⟨g₁, ok, later, rfl⟩ | ⟨e', g₁, ok, later, rfl⟩ | ⟨_, same, _⟩⟩ :=
      raised.of_act
    · exact .step (m := .perform) others rfl ok (ihn t later)
    · exact .step (m := .fail e') others rfl ok (ihf e' later)
    · cases same
  | ask l n f ihn ihf =>
    obtain ⟨t, others, ⟨r, g₁, ok, later, rfl⟩ | ⟨e', g₁, ok, later, rfl⟩ | ⟨_, same, _⟩⟩ :=
      raised.of_ask
    · exact .step (m := .reply r) others rfl ok (ihn r later)
    · exact .step (m := .fail e') others rfl ok (ihf e' later)
    · cases same

theorem of_events {permit' : Permit κ ρ σ ε} {p : Program κ ρ σ ε α} {o : Outcome ε α}
    (run : Runs rely permit p s o u g) (fine : ∀ ev ∈ g, ∀ t, permit' ev t) :
    Runs rely permit' p s o u g := by
  induction run with
  | ret a s => exact .ret a s
  | raise e s => exact .raise e s
  | dead s => exact .dead s
  | step others moved _ _ ih =>
    exact .step others moved (fine _ List.mem_cons_self _)
      (ih fun ev mem => fine ev (List.mem_cons_of_mem _ mem))
end Runs

/-- The program stopped on an exception or a death that was permitted. -/
def Faulted (permit : Permit κ ρ σ ε) : Outcome ε α → Prop
  | .returned _ => False
  | .raised e => ∃ l t, permit (.failed l e) t
  | .died => ∃ l t, permit (.died l) t

theorem Faulted.stopped {permit : Permit κ ρ σ ε} {part : Outcome ε α} {whole : Outcome ε β}
    (stop : Stopped part whole) (fault : Faulted permit part) : Faulted permit whole := by
  cases stop <;> exact fault

theorem Faulted.unreturned {permit : Permit κ ρ σ ε} {o : Outcome ε α} (fault : Faulted permit o)
    (a : α) : o ≠ .returned a := by
  rintro rfl
  exact fault

def noFaults : Permit κ ρ σ ε := fun ev _ => ev.faultFree

instance (ev : Event κ ρ ε) (s : σ) : Decidable (noFaults ev s) :=
  inferInstanceAs (Decidable ev.faultFree)

/-- Every step may fail, and the process may die at any of them. -/
def anyFaults : Permit κ ρ σ ε := fun _ _ => True

instance (ev : Event κ ρ ε) (s : σ) : Decidable (anyFaults ev s) :=
  inferInstanceAs (Decidable True)

theorem Faulted.of_noFaults {permit : Permit κ ρ σ ε}
    (quiet : ∀ ev s, permit ev s → ev.faultFree) {o : Outcome ε α} (fault : Faulted permit o) :
    False := by
  cases o with
  | returned a => exact fault
  | raised e =>
    obtain ⟨l, t, ok⟩ := fault
    exact quiet _ t ok
  | died =>
    obtain ⟨l, t, ok⟩ := fault
    exact quiet _ t ok

def Returns (permit : Permit κ ρ σ ε) (p : Program κ ρ σ ε α) : Prop :=
  ∀ {s o u g}, Runs .anyone permit p s o u g → ∃ a, o = .returned a

theorem Returns.advance {permit : Permit κ ρ σ ε} {m : Move ρ ε} {p p' : Program κ ρ σ ε α}
    {s s' : σ} {ev : Event κ ρ ε} (returns : Returns permit p)
    (step : DurableProgram.advance m p s = some (ev, p', s')) (ok : permit ev s) :
    Returns permit p' := by
  intro t o u g rest
  obtain ⟨u', rest'⟩ := Runs.others (s := s') (t := t) trivial rest
  exact returns (.step (Rely.anyone.refl s) step ok rest')

theorem Returns.finished {permit : Permit κ ρ σ ε} {p : Program κ ρ σ ε α} [Nonempty σ]
    (returns : Returns permit p) {o : Outcome ε α} (done : p.finished = some o) :
    ∃ a, p = .ret a := by
  have s : σ := Classical.arbitrary σ
  cases p with
  | ret a => exact ⟨a, rfl⟩
  | raise e =>
    obtain ⟨a, same⟩ := returns (.raise e s)
    cases same
  | dead =>
    obtain ⟨a, same⟩ := returns (.dead s)
    cases same
  | act => cases done
  | ask => cases done

/-- The run without faults in which the environment gives these replies. -/
def eval : Program κ ρ σ ε α → (ℕ → ρ) → σ → Outcome ε α × σ × List (Event κ ρ ε)
  | .ret a, _, s => (.returned a, s, [])
  | .raise e, _, s => (.raised e, s, [])
  | .dead, _, s => (.died, s, [])
  | .act l u n _, r, s =>
    let rest := eval (n s) r (u s)
    (rest.1, rest.2.1, .performed l :: rest.2.2)
  | .ask l n _, r, s =>
    let rest := eval (n (r 0)) (fun i => r (i + 1)) s
    (rest.1, rest.2.1, .answered l (r 0) :: rest.2.2)

theorem eval_runs (p : Program κ ρ σ ε α) (r : ℕ → ρ) (s : σ) :
    Runs .alone noFaults p s (eval p r s).1 (eval p r s).2.1 (eval p r s).2.2 := by
  induction p generalizing r s with
  | ret a => exact .ret a s
  | raise e => exact .raise e s
  | dead => exact .dead s
  | act l u n f ihn _ =>
    exact .step (m := .perform) (Rely.alone.refl s) rfl trivial (ihn s r (u s))
  | ask l n f ihn _ =>
    exact .step (m := .reply (r 0)) (Rely.alone.refl s) rfl trivial (ihn (r 0) _ s)

/-- Every step of the program, whatever state it starts from, is related by `guar`. -/
def Guarantees (guar : κ → σ → σ → Prop) : Program κ ρ σ ε α → Prop
  | .ret _ => True
  | .raise _ => True
  | .dead => True
  | .act l u n f => (∀ s, guar l s (u s)) ∧ (∀ s, Guarantees guar (n s)) ∧
      ∀ e, Guarantees guar (f e)
  | .ask _ n f => (∀ r, Guarantees guar (n r)) ∧ ∀ e, Guarantees guar (f e)

theorem Guarantees.bind {guar : κ → σ → σ → Prop} {p : Program κ ρ σ ε α}
    {k : α → Program κ ρ σ ε β} (hp : Guarantees guar p) (hk : ∀ a, Guarantees guar (k a)) :
    Guarantees guar (p.bind k) := by
  induction p with
  | ret a => exact hk a
  | raise e => trivial
  | dead => trivial
  | act l u n f ihn ihf => exact ⟨hp.1, fun s => ihn s (hp.2.1 s), fun e => ihf e (hp.2.2 e)⟩
  | ask l n f ihn ihf => exact ⟨fun r => ihn r (hp.1 r), fun e => ihf e (hp.2 e)⟩

theorem Guarantees.tryCatch {guar : κ → σ → σ → Prop} {p : Program κ ρ σ ε α}
    {c : ε → Program κ ρ σ ε α} (hp : Guarantees guar p) (hc : ∀ e, Guarantees guar (c e)) :
    Guarantees guar (p.tryCatch c) := by
  induction p with
  | ret a => trivial
  | raise e => exact hc e
  | dead => trivial
  | act l u n f ihn ihf => exact ⟨hp.1, fun s => ihn s (hp.2.1 s), fun e => ihf e (hp.2.2 e)⟩
  | ask l n f ihn ihf => exact ⟨fun r => ihn r (hp.1 r), fun e => ihf e (hp.2 e)⟩

theorem Guarantees.mono {guar guar' : κ → σ → σ → Prop} (weaker : ∀ l s s', guar l s s' → guar' l s s')
    {p : Program κ ρ σ ε α} (hp : Guarantees guar p) : Guarantees guar' p := by
  induction p with
  | ret a => trivial
  | raise e => trivial
  | dead => trivial
  | act l u n f ihn ihf =>
    exact ⟨fun s => weaker _ _ _ (hp.1 s), fun s => ihn s (hp.2.1 s), fun e => ihf e (hp.2.2 e)⟩
  | ask l n f ihn ihf => exact ⟨fun r => ihn r (hp.1 r), fun e => ihf e (hp.2 e)⟩

theorem Guarantees.and {guar guar' : κ → σ → σ → Prop} {p : Program κ ρ σ ε α}
    (hp : Guarantees guar p) (hp' : Guarantees guar' p) :
    Guarantees (fun l s s' => guar l s s' ∧ guar' l s s') p := by
  induction p with
  | ret a => trivial
  | raise e => trivial
  | dead => trivial
  | act l u n f ihn ihf =>
    exact ⟨fun s => ⟨hp.1 s, hp'.1 s⟩, fun s => ihn s (hp.2.1 s) (hp'.2.1 s),
      fun e => ihf e (hp.2.2 e) (hp'.2.2 e)⟩
  | ask l n f ihn ihf =>
    exact ⟨fun r => ihn r (hp.1 r) (hp'.1 r), fun e => ihf e (hp.2 e) (hp'.2 e)⟩

theorem Guarantees.advance {guar : κ → σ → σ → Prop} {m : Move ρ ε}
    {p p' : Program κ ρ σ ε α} {s s' : σ} {ev : Event κ ρ ε} (hp : Guarantees guar p)
    (step : advance m p s = some (ev, p', s')) :
    Guarantees guar p' ∧ (s' = s ∨ guar ev.label s s') := by
  cases p with
  | ret a => cases m <;> simp [DurableProgram.advance] at step
  | raise e => cases m <;> simp [DurableProgram.advance] at step
  | dead => cases m <;> simp [DurableProgram.advance] at step
  | act l u n f =>
    obtain ⟨rfl, rfl, rfl⟩ | ⟨e, rfl, rfl, rfl⟩ | ⟨rfl, rfl, rfl⟩ := advance_act step
    · exact ⟨hp.2.1 s, .inr (hp.1 s)⟩
    · exact ⟨hp.2.2 e, .inl rfl⟩
    · exact ⟨trivial, .inl rfl⟩
  | ask l n f =>
    obtain ⟨r, rfl, rfl, rfl⟩ | ⟨e, rfl, rfl, rfl⟩ | ⟨rfl, rfl, rfl⟩ := advance_ask step
    · exact ⟨hp.1 r, .inl rfl⟩
    · exact ⟨hp.2 e, .inl rfl⟩
    · exact ⟨trivial, .inl rfl⟩

/-- A step that was performed changed the state as guaranteed. -/
theorem Guarantees.performed {guar : κ → σ → σ → Prop} {m : Move ρ ε}
    {p p' : Program κ ρ σ ε α} {s s' : σ} {l : κ} (hp : Guarantees guar p)
    (step : DurableProgram.advance m p s = some (.performed l, p', s')) : guar l s s' := by
  cases p with
  | ret a => cases m <;> simp [DurableProgram.advance] at step
  | raise e => cases m <;> simp [DurableProgram.advance] at step
  | dead => cases m <;> simp [DurableProgram.advance] at step
  | act l u n f =>
    obtain ⟨same, rfl, rfl⟩ | ⟨e, same, _⟩ | ⟨same, _⟩ := advance_act step <;> cases same
    exact hp.1 s
  | ask l n f => obtain ⟨r, same, _⟩ | ⟨e, same, _⟩ | ⟨same, _⟩ := advance_ask step <;> cases same

/-- Every other event leaves the state as it was. -/
theorem advance_unchanged {m : Move ρ ε} {p p' : Program κ ρ σ ε α} {s s' : σ}
    {ev : Event κ ρ ε} (other : ∀ l, ev ≠ .performed l)
    (step : DurableProgram.advance m p s = some (ev, p', s')) : s' = s := by
  cases p with
  | ret a => cases m <;> simp [DurableProgram.advance] at step
  | raise e => cases m <;> simp [DurableProgram.advance] at step
  | dead => cases m <;> simp [DurableProgram.advance] at step
  | act l u n f =>
    obtain ⟨rfl, _⟩ | ⟨e, rfl, _, rfl⟩ | ⟨rfl, _, rfl⟩ := advance_act step
    · exact absurd rfl (other l)
    · rfl
    · rfl
  | ask l n f =>
    obtain ⟨r, rfl, _, rfl⟩ | ⟨e, rfl, _, rfl⟩ | ⟨rfl, _, rfl⟩ := advance_ask step <;> rfl

def RaisesOnly (E : ε → Prop) : Program κ ρ σ ε α → Prop
  | .ret _ => True
  | .raise e => E e
  | .dead => True
  | .act _ _ n f => (∀ s, RaisesOnly E (n s)) ∧ ∀ e, E e → RaisesOnly E (f e)
  | .ask _ n f => (∀ r, RaisesOnly E (n r)) ∧ ∀ e, E e → RaisesOnly E (f e)

section
variable {E : ε → Prop}

theorem RaisesOnly.bind {p : Program κ ρ σ ε α} {k : α → Program κ ρ σ ε β}
    (hp : RaisesOnly E p) (hk : ∀ a, RaisesOnly E (k a)) : RaisesOnly E (p.bind k) := by
  induction p with
  | ret a => exact hk a
  | raise e => exact hp
  | dead => trivial
  | act l u n f ihn ihf => exact ⟨fun s => ihn s (hp.1 s), fun e ok => ihf e (hp.2 e ok)⟩
  | ask l n f ihn ihf => exact ⟨fun r => ihn r (hp.1 r), fun e ok => ihf e (hp.2 e ok)⟩

theorem RaisesOnly.tryCatch {p : Program κ ρ σ ε α} {c : ε → Program κ ρ σ ε α}
    (hp : RaisesOnly E p) (hc : ∀ e, E e → RaisesOnly E (c e)) : RaisesOnly E (p.tryCatch c) := by
  induction p with
  | ret a => trivial
  | raise e => exact hc e hp
  | dead => trivial
  | act l u n f ihn ihf => exact ⟨fun s => ihn s (hp.1 s), fun e ok => ihf e (hp.2 e ok)⟩
  | ask l n f ihn ihf => exact ⟨fun r => ihn r (hp.1 r), fun e ok => ihf e (hp.2 e ok)⟩

theorem RaisesOnly.perform {l : κ} {u : σ → σ} {result : σ → α} :
    RaisesOnly E (Program.perform l u result : Program κ ρ σ ε α) :=
  ⟨fun _ => trivial, fun _ ok => ok⟩

theorem RaisesOnly.runs {rely : Rely σ} {permit : Permit κ ρ σ ε} {p : Program κ ρ σ ε α}
    {s u : σ} {o : Outcome ε α} {g : List (Event κ ρ ε)}
    (injected : ∀ l e t, permit (.failed l e) t → E e) (hp : RaisesOnly E p)
    (run : Runs rely permit p s o u g) {e : ε} (raised : o = .raised e) : E e := by
  induction run with
  | ret => cases raised
  | raise e' =>
    cases raised
    exact hp
  | dead => cases raised
  | @step m p _ _ _ _ _ _ _ _ _ moved ok _ ih =>
    refine ih ?_ raised
    cases p with
    | ret | raise | dead => cases m <;> simp [DurableProgram.advance] at moved
    | act l u n f =>
      obtain ⟨_, rfl, _⟩ | ⟨e', rfl, rfl, _⟩ | ⟨_, rfl, _⟩ := advance_act moved
      · exact hp.1 _
      · exact hp.2 e' (injected _ _ _ ok)
      · trivial
    | ask l n f =>
      obtain ⟨r, _, rfl, _⟩ | ⟨e', rfl, rfl, _⟩ | ⟨_, rfl, _⟩ := advance_ask moved
      · exact hp.1 r
      · exact hp.2 e' (injected _ _ _ ok)
      · trivial

end

/-- Every step, on every path, carries an allowed label, and nothing but a fault makes the
program die. -/
def Carries (allowed : κ → Prop) : Program κ ρ σ ε α → Prop
  | .ret _ => True
  | .raise _ => True
  | .dead => False
  | .act l _ n f => allowed l ∧ (∀ s, Carries allowed (n s)) ∧ ∀ e, Carries allowed (f e)
  | .ask l n f => allowed l ∧ (∀ r, Carries allowed (n r)) ∧ ∀ e, Carries allowed (f e)

section
variable {allowed : κ → Prop}

theorem Carries.bind {p : Program κ ρ σ ε α} {k : α → Program κ ρ σ ε β}
    (hp : Carries allowed p) (hk : ∀ a, Carries allowed (k a)) : Carries allowed (p.bind k) := by
  induction p with
  | ret a => exact hk a
  | raise e => trivial
  | dead => exact hp
  | act l u n f ihn ihf => exact ⟨hp.1, fun s => ihn s (hp.2.1 s), fun e => ihf e (hp.2.2 e)⟩
  | ask l n f ihn ihf => exact ⟨hp.1, fun r => ihn r (hp.2.1 r), fun e => ihf e (hp.2.2 e)⟩

theorem Carries.tryCatch {p : Program κ ρ σ ε α} {c : ε → Program κ ρ σ ε α}
    (hp : Carries allowed p) (hc : ∀ e, Carries allowed (c e)) : Carries allowed (p.tryCatch c) := by
  induction p with
  | ret a => trivial
  | raise e => exact hc e
  | dead => exact hp
  | act l u n f ihn ihf => exact ⟨hp.1, fun s => ihn s (hp.2.1 s), fun e => ihf e (hp.2.2 e)⟩
  | ask l n f ihn ihf => exact ⟨hp.1, fun r => ihn r (hp.2.1 r), fun e => ihf e (hp.2.2 e)⟩

theorem Carries.weaken {allowed' : κ → Prop} {p : Program κ ρ σ ε α} (hp : Carries allowed p)
    (less : ∀ l, allowed l → allowed' l) : Carries allowed' p := by
  induction p with
  | ret a => trivial
  | raise e => trivial
  | dead => exact hp
  | act l u n f ihn ihf =>
    exact ⟨less l hp.1, fun s => ihn s (hp.2.1 s), fun e => ihf e (hp.2.2 e)⟩
  | ask l n f ihn ihf =>
    exact ⟨less l hp.1, fun r => ihn r (hp.2.1 r), fun e => ihf e (hp.2.2 e)⟩

theorem Carries.perform {l : κ} {u : σ → σ} {result : σ → α} (ok : allowed l) :
    Carries allowed (Program.perform l u result : Program κ ρ σ ε α) :=
  ⟨ok, fun _ => trivial, fun _ => trivial⟩

/-- Unless the process dies at this step, what is left carries allowed labels too. -/
theorem Carries.advance {m : Move ρ ε} {p p' : Program κ ρ σ ε α} {s s' : σ} {ev : Event κ ρ ε}
    (hp : Carries allowed p) (step : DurableProgram.advance m p s = some (ev, p', s')) :
    allowed ev.label ∧ (Carries allowed p' ∨ (p' = .dead ∧ ∃ l, ev = .died l)) := by
  cases p with
  | ret a => cases m <;> simp [DurableProgram.advance] at step
  | raise e => cases m <;> simp [DurableProgram.advance] at step
  | dead => exact hp.elim
  | act l u n f =>
    obtain ⟨rfl, rfl, _⟩ | ⟨e, rfl, rfl, _⟩ | ⟨rfl, rfl, _⟩ := advance_act step
    · exact ⟨hp.1, .inl (hp.2.1 s)⟩
    · exact ⟨hp.1, .inl (hp.2.2 e)⟩
    · exact ⟨hp.1, .inr ⟨rfl, l, rfl⟩⟩
  | ask l n f =>
    obtain ⟨r, rfl, rfl, _⟩ | ⟨e, rfl, rfl, _⟩ | ⟨rfl, rfl, _⟩ := advance_ask step
    · exact ⟨hp.1, .inl (hp.2.1 r)⟩
    · exact ⟨hp.1, .inl (hp.2.2 e)⟩
    · exact ⟨hp.1, .inr ⟨rfl, l, rfl⟩⟩

theorem Carries.runs {rely : Rely σ} {permit : Permit κ ρ σ ε} {p : Program κ ρ σ ε α}
    {s u : σ} {o : Outcome ε α} {g : List (Event κ ρ ε)} (hp : Carries allowed p)
    (run : Runs rely permit p s o u g) :
    (∀ ev ∈ g, allowed ev.label) ∧ (o = .died → ∃ l, .died l ∈ g) := by
  induction run with
  | ret => exact ⟨by simp, fun same => nomatch same⟩
  | raise => exact ⟨by simp, fun same => nomatch same⟩
  | dead => exact hp.elim
  | @step m p _ p' _ _ _ ev _ _ _ moved _ rest ih =>
    obtain ⟨ok, later | ⟨rfl, l, rfl⟩⟩ := hp.advance moved
    · obtain ⟨labels, dies⟩ := ih later
      refine ⟨?_, fun died => (dies died).imp fun _ => List.mem_cons_of_mem _⟩
      intro ev' mem
      rcases List.mem_cons.mp mem with rfl | mem
      · exact ok
      · exact labels ev' mem
    · obtain ⟨_, _, rfl⟩ := rest.of_dead
      exact ⟨by simpa using ok, fun _ => ⟨l, List.mem_cons_self⟩⟩

end

end DurableProgram
