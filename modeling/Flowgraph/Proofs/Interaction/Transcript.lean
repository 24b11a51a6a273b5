import Flowgraph.Interaction

/-!
# Transcripts of interactions

An interaction that is under way has a transcript: the requests that it has made so far, each with
the answer that it got.  `Interaction.After o t rest` says that `rest` is what is left of `o` once it
has gone through the transcript `t`, whoever gave the answers; `Interaction.Completes o t a` says
that nothing is left but the value `a`.

The transcript of one interaction after another is cut where the second one starts
(`Interaction.completes_bind_iff`), which is what the transcripts of all longer operations are taken
apart with.

A contract says what an interaction asks for as long as it is answered as it relies on.
`Interaction.Meets` is checked along the tree, once for each operation
(`Interaction.Meets.bind`), and holds at every point of every transcript
(`Interaction.Meets.after`).
-/

namespace Flowgraph

/-- **A request with its answer.** -/
abbrev Exchange {Q : Type} (A : Q → Type) : Type := (q : Q) × A q

namespace Interaction

variable {Q : Type} {A : Q → Type} {α β : Type}

/-! ### What is left after a transcript -/

/-- **What is left of an interaction** after a transcript. -/
inductive After : Interaction Q A α → List (Exchange A) → Interaction Q A α → Prop
  | nil (o : Interaction Q A α) : After o [] o
  | cons {q : Q} {next : A q → Interaction Q A α} {a : A q} {t : List (Exchange A)}
      {rest : Interaction Q A α} (h : After (next a) t rest) : After (ask q next) (⟨q, a⟩ :: t) rest

/-- **An interaction ends with a value** after a transcript. -/
def Completes (o : Interaction Q A α) (t : List (Exchange A)) (a : α) : Prop := After o t (done a)

theorem after_done_iff {a : α} {t : List (Exchange A)} {rest : Interaction Q A α} :
    After (done a) t rest ↔ t = [] ∧ rest = done a := by
  constructor
  · intro h
    cases h
    exact ⟨rfl, rfl⟩
  · rintro ⟨rfl, rfl⟩
    exact .nil _

/-- The first request of an interaction is the first exchange of its transcript. -/
theorem after_ask_iff {q : Q} {next : A q → Interaction Q A α} {t : List (Exchange A)}
    {rest : Interaction Q A α} :
    After (ask q next) t rest ↔
      (t = [] ∧ rest = ask q next) ∨ ∃ a t', t = ⟨q, a⟩ :: t' ∧ After (next a) t' rest := by
  constructor
  · intro h
    cases h with
    | nil => exact .inl ⟨rfl, rfl⟩
    | cons h => exact .inr ⟨_, _, rfl, h⟩
  · rintro (⟨rfl, rfl⟩ | ⟨a, t', rfl, h⟩)
    · exact .nil _
    · exact .cons h

@[simp] theorem completes_done_iff {a b : α} {t : List (Exchange A)} :
    Completes (done a) t b ↔ t = [] ∧ b = a := by
  rw [Completes, after_done_iff]
  simp

theorem completes_ask_iff {q : Q} {next : A q → Interaction Q A α} {t : List (Exchange A)} {b : α} :
    Completes (ask q next) t b ↔ ∃ a t', t = ⟨q, a⟩ :: t' ∧ Completes (next a) t' b := by
  rw [Completes, after_ask_iff]
  simp [Completes]

/-- A transcript grows at its end. -/
theorem After.snoc {o rest : Interaction Q A α} {t : List (Exchange A)} {q : Q}
    {next : A q → Interaction Q A α} (h : After o t rest) (hr : rest = ask q next) (a : A q) :
    After o (t ++ [⟨q, a⟩]) (next a) := by
  induction h with
  | nil o =>
    subst hr
    exact .cons (.nil _)
  | cons _ ih => exact .cons (ih hr)

/-- One transcript after another. -/
theorem After.append {o rest rest' : Interaction Q A α} {t t' : List (Exchange A)}
    (h : After o t rest) (h' : After rest t' rest') : After o (t ++ t') rest' := by
  induction h with
  | nil o => exact h'
  | cons _ ih => exact .cons (ih h')

/-- A longer transcript goes on from where a shorter one has ended. -/
theorem After.of_append {o mid rest : Interaction Q A α} {t t' : List (Exchange A)}
    (h : After o t mid) (h' : After o (t ++ t') rest) : After mid t' rest := by
  induction h with
  | nil o => exact h'
  | cons _ ih =>
    rcases after_ask_iff.mp h' with ⟨hnil, -⟩ | ⟨a, t₁, heq, h'⟩
    · exact nomatch hnil
    · obtain ⟨hfirst, rfl⟩ := List.cons.inj heq
      cases hfirst
      exact ih h'

/-- **Every interaction can be completed**, if there is an answer to every request. -/
theorem exists_completes (answer : (q : Q) → A q) (o : Interaction Q A α) :
    ∃ t a, Completes o t a := by
  induction o with
  | done a => exact ⟨[], a, .nil _⟩
  | ask q next ih =>
    obtain ⟨t, a, h⟩ := ih (answer q)
    exact ⟨⟨q, answer q⟩ :: t, a, .cons h⟩

/-- **A transcript is cut** where one interaction ends and the next one starts. -/
theorem completes_bind_iff {o : Interaction Q A α} {f : α → Interaction Q A β}
    {t : List (Exchange A)} {b : β} :
    Completes (bind o f) t b ↔
      ∃ t₁ a t₂, t = t₁ ++ t₂ ∧ Completes o t₁ a ∧ Completes (f a) t₂ b := by
  induction o generalizing t with
  | done a =>
    -- nothing is left of the first one: the cut is at the beginning
    constructor
    · intro h
      exact ⟨[], a, t, rfl, by simp, h⟩
    · rintro ⟨t₁, a', t₂, rfl, h₁, h₂⟩
      obtain ⟨rfl, rfl⟩ := completes_done_iff.mp h₁
      exact h₂
  | ask q next ih =>
    -- the first exchange belongs to the first one, and the cut lies behind it
    rw [bind, completes_ask_iff]
    constructor
    · rintro ⟨a, t', rfl, h⟩
      obtain ⟨t₁, b', t₂, rfl, h₁, h₂⟩ := (ih a).mp h
      exact ⟨⟨q, a⟩ :: t₁, b', t₂, rfl, .cons h₁, h₂⟩
    · rintro ⟨t₁, b', t₂, rfl, h₁, h₂⟩
      obtain ⟨a, t', rfl, h⟩ := completes_ask_iff.mp h₁
      exact ⟨a, t' ++ t₂, rfl, (ih a).mpr ⟨t', b', t₂, rfl, h, h₂⟩⟩

/-! ### Contracts -/

/-- **An interaction meets a contract**: as long as each answer is as it relies on, it asks for
nothing but what the guarantee allows, and ends with a value as promised. -/
def Meets (rely : (q : Q) → A q → Prop) (guarantee : Q → Prop) (promise : α → Prop) :
    Interaction Q A α → Prop
  | done a => promise a
  | ask q next => guarantee q ∧ ∀ a, rely q a → Meets rely guarantee promise (next a)

variable {rely rely' : (q : Q) → A q → Prop} {guarantee guarantee' : Q → Prop}
  {promise promise' : α → Prop}

/-- One interaction after another meets a contract if the second does whatever the first one
promises. -/
theorem Meets.bind {o : Interaction Q A α} {f : α → Interaction Q A β} {P : α → Prop}
    {promise' : β → Prop} (ho : Meets rely guarantee P o)
    (hf : ∀ a, P a → Meets rely guarantee promise' (f a)) :
    Meets rely guarantee promise' (Interaction.bind o f) := by
  induction o with
  | done a => exact hf a ho
  | ask q next ih => exact ⟨ho.1, fun a ha => ih a (ho.2 a ha)⟩

/-- A contract may rely on more, guarantee less and promise less. -/
theorem Meets.mono {o : Interaction Q A α} (ho : Meets rely guarantee promise o)
    (hr : ∀ q a, rely' q a → rely q a) (hg : ∀ q, guarantee q → guarantee' q)
    (hp : ∀ a, promise a → promise' a) : Meets rely' guarantee' promise' o := by
  induction o with
  | done a => exact hp a ho
  | ask q next ih => exact ⟨hg q ho.1, fun a ha => ih a (ho.2 a (hr q a ha))⟩

/-- A contract may promise whatever holds of every value that the interaction can end with. -/
theorem Meets.of_completes {o : Interaction Q A α} (ho : Meets rely guarantee promise o)
    (h : ∀ t a, Completes o t a → promise' a) : Meets rely guarantee promise' o := by
  induction o with
  | done a => exact h [] a (.nil _)
  | ask q next ih =>
    exact ⟨ho.1, fun a ha => ih a (ho.2 a ha) fun t b hb => h (⟨q, a⟩ :: t) b (.cons hb)⟩

/-- **A contract holds all along**: what is left after a transcript meets it too. -/
theorem Meets.after {o rest : Interaction Q A α} {t : List (Exchange A)}
    (ho : Meets rely guarantee promise o) (h : After o t rest) (ht : ∀ e ∈ t, rely e.1 e.2) :
    Meets rely guarantee promise rest := by
  induction h with
  | nil o => exact ho
  | cons _ ih =>
    exact ih (ho.2 _ (ht _ (List.mem_cons_self ..))) fun e he => ht e (List.mem_cons_of_mem _ he)

/-- Every request of a transcript is one that the guarantee allows. -/
theorem Meets.requests {o rest : Interaction Q A α} {t : List (Exchange A)}
    (ho : Meets rely guarantee promise o) (h : After o t rest) (ht : ∀ e ∈ t, rely e.1 e.2) :
    ∀ e ∈ t, guarantee e.1 := by
  induction h with
  | nil o => simp
  | cons _ ih =>
    intro e he
    rcases List.mem_cons.mp he with rfl | he
    · exact ho.1
    · exact ih (ho.2 _ (ht _ (List.mem_cons_self ..)))
        (fun e he => ht e (List.mem_cons_of_mem _ he)) e he

end Interaction

end Flowgraph
