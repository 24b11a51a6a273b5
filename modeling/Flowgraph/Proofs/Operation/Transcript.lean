import Flowgraph.Operation.Basic
import Flowgraph.Proofs.Interaction.Transcript

/-!
# What the transcript of an operation shows

Four things are read off the transcript of an operation: what it found when it looked whether it
had been cancelled (`Transcript.looks`), the events that it published (`Transcript.published`), the
records that it added to the log (`Transcript.appended`) and the ids of runs that were made for it
(`Transcript.runIds`).  An operation looks at its cancellation when it asks for it and when it waits;
a transcript in which no look found one is calm (`Transcript.Calm`).
-/

namespace Flowgraph

/-- **The requests of an operation with their answers**, in order. -/
abbrev Transcript : Type := List (Exchange Request.Answer)

namespace Transcript

/-- What a look at the cancellation has found, if the exchange is one. -/
def look? : Exchange Request.Answer → Option Bool
  | ⟨.isCancelled, found⟩ => some found
  | ⟨.wait _, waited⟩ => some (decide (waited = .cancelled))
  | _ => none

/-- The event that an exchange publishes, if it does. -/
def event? : Exchange Request.Answer → Option Event
  | ⟨.publish event, _⟩ => some event
  | _ => none

/-- The record that an exchange adds to the log, if it does. -/
def record? : Exchange Request.Answer → Option Record
  | ⟨.append record, _⟩ => some record
  | _ => none

/-- The id of a run that an exchange makes, if it does. -/
def runId? : Exchange Request.Answer → Option String
  | ⟨.freshRunId, id⟩ => some id
  | _ => none

/-- **What the looks at the cancellation have found**, in order. -/
def looks (t : Transcript) : List Bool := t.filterMap look?

/-- **The events that have been published**, in order. -/
def published (t : Transcript) : List Event := t.filterMap event?

/-- **The records that have been added to the log**, in order. -/
def appended (t : Transcript) : List Record := t.filterMap record?

/-- **The ids of runs that have been made**, in order. -/
def runIds (t : Transcript) : List String := t.filterMap runId?

/-- **No look has found a cancellation.** -/
def Calm (t : Transcript) : Prop := true ∉ looks t

variable {t t₁ t₂ : Transcript} {e : Exchange Request.Answer}

@[simp] theorem looks_nil : looks [] = [] := rfl

@[simp] theorem published_nil : published [] = [] := rfl

@[simp] theorem appended_nil : appended [] = [] := rfl

@[simp] theorem runIds_nil : runIds [] = [] := rfl

@[simp] theorem looks_append : looks (t₁ ++ t₂) = looks t₁ ++ looks t₂ := List.filterMap_append

@[simp] theorem published_append : published (t₁ ++ t₂) = published t₁ ++ published t₂ :=
  List.filterMap_append

@[simp] theorem appended_append : appended (t₁ ++ t₂) = appended t₁ ++ appended t₂ :=
  List.filterMap_append

theorem filterMap_cons_eq {α : Type} (f : Exchange Request.Answer → Option α) :
    (e :: t).filterMap f = (f e).toList ++ t.filterMap f := by
  rw [List.filterMap_cons]
  cases f e <;> rfl

theorem looks_cons : looks (e :: t) = (look? e).toList ++ looks t := filterMap_cons_eq look?

theorem published_cons : published (e :: t) = (event? e).toList ++ published t :=
  filterMap_cons_eq event?

theorem appended_cons : appended (e :: t) = (record? e).toList ++ appended t :=
  filterMap_cons_eq record?

@[simp] theorem runIds_append : runIds (t₁ ++ t₂) = runIds t₁ ++ runIds t₂ :=
  List.filterMap_append

theorem runIds_cons : runIds (e :: t) = (runId? e).toList ++ runIds t := filterMap_cons_eq runId?

/-- **What is to be seen at the beginning of a transcript** has been preceded by every exchange
before which nothing of its kind is to be seen. -/
theorem mem_of_filterMap_ne_nil {α : Type} {f : Exchange Request.Answer → Option α}
    {t₃ t₄ : Transcript} (h : t₁ ++ t₂ = t₃ ++ e :: t₄) (h₃ : t₃.filterMap f = [])
    (h₁ : t₁.filterMap f ≠ []) : e ∈ t₁ := by
  rcases List.append_eq_append_iff.mp h with ⟨t', ht₃, -⟩ | ⟨t', ht₁, ht'⟩
  · -- then the beginning ends before the exchange
    rw [ht₃, List.filterMap_append, List.append_eq_nil_iff] at h₃
    exact absurd h₃.1 h₁
  · cases t' with
    | nil =>
      rw [ht₁, List.append_nil] at h₁
      exact absurd h₃ h₁
    | cons e' rest =>
      obtain ⟨rfl, -⟩ := List.cons.inj ht'
      rw [ht₁]
      exact List.mem_append_right _ (List.mem_cons_self ..)

@[simp] theorem calm_nil : Calm [] := List.not_mem_nil

@[simp] theorem calm_append : Calm (t₁ ++ t₂) ↔ Calm t₁ ∧ Calm t₂ := by
  simp [Calm]

theorem calm_cons : Calm (e :: t) ↔ look? e ≠ some true ∧ Calm t := by
  rw [Calm, looks_cons, List.mem_append, not_or]
  simp [Calm]

end Transcript

/-! ### Kinds of requests -/

theorem Request.wait_cases (q : Request) : (∃ n, q = .wait n) ∨ ∀ n, q ≠ .wait n := by
  cases q <;> simp

/-- Some answer to each request. -/
def Request.anyAnswer : (q : Request) → q.Answer
  | .insert _ | .update _ | .setLife _ _ _ | .delete _ | .append _ | .get _ | .list | .records _ =>
    .error .cancelled
  | .publish _ => ()
  | .clock => default
  | .freshFlowId | .freshRunId => ""
  | .isCancelled => true
  | .wait _ => .cancelled

/-- A request that may change the stored flows. -/
def Request.ChangesFlows : Request → Prop
  | .insert _ | .update _ | .setLife _ _ _ | .delete _ => True
  | _ => False

/-- A request to the store of flows. -/
def Request.ReachesFlows : Request → Prop
  | .insert _ | .get _ | .list | .update _ | .setLife _ _ _ | .delete _ => True
  | _ => False

/-- A request that only runs make: for their ids, records and events, and when they look whether they
are cancelled. -/
def Request.IsOfRuns : Request → Prop
  | .append _ | .publish _ | .freshRunId | .isCancelled | .wait _ => True
  | _ => False

end Flowgraph
