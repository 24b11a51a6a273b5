/-!
# Interactions

An interaction is given as the tree of its requests: either it is done, or it makes one request and
goes on according to the answer.  Nothing is said here about who answers.
-/

namespace Flowgraph

/-- **An interaction** that makes requests of a type `Q`, each answered by a value of the type that
`A` gives it, and ends with a value. -/
inductive Interaction (Q : Type) (A : Q → Type) (α : Type) where
  | done (value : α)
  | ask (request : Q) (next : A request → Interaction Q A α)

namespace Interaction

variable {Q : Type} {A : Q → Type} {α β γ : Type}

/-- One interaction after another. -/
def bind : Interaction Q A α → (α → Interaction Q A β) → Interaction Q A β
  | done a, f => f a
  | ask q next, f => ask q fun answer => bind (next answer) f

instance : Monad (Interaction Q A) where
  pure := done
  bind := bind

/-- The interaction of one request. -/
def request (q : Q) : Interaction Q A (A q) := ask q done

@[simp] theorem bind_done (o : Interaction Q A α) : bind o done = o := by
  induction o with
  | done a => rfl
  | ask q next ih => simp only [bind, ih]

theorem bind_assoc (o : Interaction Q A α) (f : α → Interaction Q A β)
    (g : β → Interaction Q A γ) : bind (bind o f) g = bind o fun a => bind (f a) g := by
  induction o with
  | done a => rfl
  | ask q next ih => simp only [bind, ih]

instance : LawfulMonad (Interaction Q A) :=
  LawfulMonad.mk' (Interaction Q A)
    (fun o => bind_done o)
    (fun _ _ => rfl)
    (fun o f g => bind_assoc o f g)

/-- The interaction whose requests are each carried over to a request of another kind with an answer
of the same type. -/
def carry {R : Type} {B : R → Type} (f : (q : Q) → Interaction R B (A q)) :
    Interaction Q A α → Interaction R B α
  | done a => done a
  | ask q next => bind (f q) fun answer => carry f (next answer)

end Interaction

end Flowgraph
