import OpsPilot.AssumeGuarantee

/-! Judgements about programs that are proved part by part, with what each part leaves known for
the rest. A rule that is proved for all of them serves each. -/

namespace ProgramLogic
open DurableProgram AssumeGuarantee

variable {κ ρ σ ε α β : Type}

/-- Nothing is left known. -/
abbrev anything : α → σ → Prop := fun _ _ => True

structure Logic (κ ρ σ ε : Type) where
  judges : ∀ {α : Type}, (α → σ → Prop) → Program κ ρ σ ε α → σ → Prop
  later : σ → σ → Prop
  raises : ε → Prop
  trans : ∀ {s t u : σ}, later s t → later t u → later s u
  ret : ∀ {α : Type} {post : α → σ → Prop} {a : α} {s : σ}, (∀ t, later s t → post a t) →
    judges post (.ret a) s
  raise : ∀ {α : Type} {post : α → σ → Prop} {e : ε} {s : σ}, raises e → judges post (.raise e) s
  bind : ∀ {α β : Type} {post : α → σ → Prop} {after : β → σ → Prop} {p : Program κ ρ σ ε α}
    {k : α → Program κ ρ σ ε β} {s : σ}, judges post p s →
    (∀ a t, later s t → post a t → judges after (k a) t) → judges after (p.bind k) s

namespace Logic
variable {logic : Logic κ ρ σ ε} {p : Program κ ρ σ ε α} {s : σ}

theorem done {a : α} : logic.judges anything (.ret a) s := logic.ret fun _ _ => trivial

/-- A predicate holds of a program and of whatever follows, if it holds of all that may follow. -/
def of (holds : ∀ {α : Type}, Program κ ρ σ ε α → Prop) (raises : ε → Prop)
    (raise : ∀ {α : Type} (e : ε), raises e → holds (.raise e : Program κ ρ σ ε α)) :
    Logic κ ρ σ ε where
  judges {α} post p _ := ∀ (β : Type) (k : α → Program κ ρ σ ε β),
    (∀ a, (∀ t, post a t) → holds (k a)) → holds (p.bind k)
  later _ _ := True
  raises := raises
  trans _ _ := trivial
  ret known _ _ rest := rest _ fun t => known t trivial
  raise ok _ _ _ := raise _ ok
  bind {_ _ _ _ _ _ s} first next _ _ rest := by
    rw [Program.bind_assoc]
    exact first _ _ fun a known => next a s trivial (known s) _ _ rest

section
variable {holds : ∀ {α : Type}, Program κ ρ σ ε α → Prop} {raises : ε → Prop}
  {raise : ∀ {α : Type} (e : ε), raises e → holds (.raise e : Program κ ρ σ ε α)}

theorem holds_of_judges (judged : (of holds raises raise).judges anything p s)
    (rets : ∀ a : α, holds (.ret a : Program κ ρ σ ε α)) : holds p := by
  have alone := judged _ .ret fun a _ => rets a
  rwa [Program.bind_ret] at alone

theorem judges_of_bind (bind : ∀ {β : Type} (k : α → Program κ ρ σ ε β), (∀ a, holds (k a)) →
    holds (p.bind k)) : (of holds raises raise).judges anything p s :=
  fun _ k rest => bind k fun a => rest a fun _ => trivial

end

def promised {shared : Shared σ} (promise : Promise κ shared) : Logic κ ρ σ ε where
  judges := Assures promise
  later := shared.Later
  raises _ := True
  trans := Shared.Later.trans
  ret known := known
  raise _ := trivial
  bind := Assures.bind

end Logic

end ProgramLogic
