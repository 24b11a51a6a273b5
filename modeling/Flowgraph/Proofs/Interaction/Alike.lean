import Flowgraph.Proofs.Interaction.Transcript

/-!
# Interactions that are alike

Two parties may answer one request differently and yet agree.  Two interactions are alike if they make
the same requests as long as the answers that they get agree, and end with values that agree
(`Interaction.Alike`).  An interaction that makes no requests but those for which agreement is equality
is like itself (`Interaction.Meets.alike`).
-/

namespace Flowgraph

namespace Interaction

variable {Q : Type} {A : Q → Type} {α β γ δ : Type} {agree : (q : Q) → A q → A q → Prop}
  {result : α → β → Prop} {result' : γ → δ → Prop}

/-- **Two interactions are alike**, given when answers and when values agree. -/
inductive Alike (agree : (q : Q) → A q → A q → Prop) (result : α → β → Prop) :
    Interaction Q A α → Interaction Q A β → Prop
  | done {a : α} {b : β} (h : result a b) : Alike agree result (done a) (done b)
  | ask {q : Q} {next : A q → Interaction Q A α} {next' : A q → Interaction Q A β}
      (h : ∀ a a', agree q a a' → Alike agree result (next a) (next' a')) :
      Alike agree result (ask q next) (ask q next')

/-- One interaction after another is like one after another, if each is like the other. -/
theorem Alike.bind {o : Interaction Q A α} {o' : Interaction Q A β} {f : α → Interaction Q A γ}
    {f' : β → Interaction Q A δ} (h : Alike agree result o o')
    (hf : ∀ a b, result a b → Alike agree result' (f a) (f' b)) :
    Alike agree result' (Interaction.bind o f) (Interaction.bind o' f') := by
  induction h with
  | done h => exact hf _ _ h
  | ask _ ih => exact .ask fun a a' ha => ih a a' ha

theorem Alike.request (q : Q) : Alike agree (agree q) (request q) (request q) :=
  .ask fun _ _ ha => .done ha

/-- **An interaction is like itself** if answers to the requests that it makes agree only if they are
equal. -/
theorem Meets.alike {guarantee : Q → Prop} {promise : α → Prop} {result : α → α → Prop}
    {o : Interaction Q A α} (ho : Meets (fun _ _ => True) guarantee promise o)
    (hagree : ∀ q a a', guarantee q → agree q a a' → a = a') (hresult : ∀ a, result a a) :
    Alike agree result o o := by
  induction o with
  | done a => exact .done (hresult a)
  | ask q next ih =>
    refine .ask fun a a' ha => ?_
    obtain rfl := hagree q a a' ho.1 ha
    exact ih a (ho.2 a trivial)

end Interaction

end Flowgraph
