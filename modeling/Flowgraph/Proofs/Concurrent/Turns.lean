import Flowgraph.Proofs.Concurrent.System

/-!
# Calls that take turns

Where one thread does all the work, a call that has its turn goes on until it waits or is over, and
no other call makes a request before.  `System.Turn` is a step of such a system, and `System.Turns` a
run of it, with a trace that shows the calls as their requests leave them.  Such a run is one of those
in which any call may be the next (`System.Turns.reaches`).
-/

namespace Flowgraph

/-- **An operation pauses**: it waits, or it is over. -/
def Interaction.pauses {α : Type} : Operation α → Bool
  | .done _ => true
  | .ask (.wait _) _ => true
  | _ => false

/-- **A call is at rest** if it has not begun or pauses. -/
def Task.isAtRest (t : Task) : Bool := t.past.isEmpty || t.rest.pauses

/-- The reading of the clock that an exchange brings, if it does. -/
def Transcript.reading? : Exchange Request.Answer → Option Instant
  | ⟨.clock, instant⟩ => some instant
  | _ => none

/-- The reading of the clock that the last request of a call has brought, if it has. -/
def Task.reading? (t : Task) : Option Instant := t.past.getLast?.bind Transcript.reading?

theorem Task.reading?_answered (t : Task) (q : Request) (a : q.Answer)
    (next : q.Answer → Operation (Except Fault Reply)) :
    (t.answered q a next).reading? = Transcript.reading? ⟨q, a⟩ := by
  rw [reading?, answered, List.getLast?_concat]
  rfl

/-- A member of a list with one replaced is the new one, or one of the others. -/
theorem eq_or_mem_eraseIdx_of_mem_set {α : Type} {l : List α} {i : Nat} {a b : α}
    (h : b ∈ l.set i a) : b = a ∨ b ∈ l.eraseIdx i := by
  obtain ⟨j, hj⟩ := List.mem_iff_getElem?.mp h
  by_cases hij : i = j
  · subst hij
    obtain ⟨hlt, hb⟩ := List.getElem?_eq_some_iff.mp hj
    exact .inl (hb.symm.trans (List.getElem_set_self hlt))
  · rw [List.getElem?_set_ne hij] at hj
    exact .inr (List.mem_eraseIdx_iff_getElem?.mpr ⟨j, Ne.symm hij, hj⟩)

namespace System

/-- **Every call but one is at rest.** -/
def othersAtRest (s : System) (i : Nat) : Bool := (s.tasks.eraseIdx i).all Task.isAtRest

/-- **A step of a system whose calls take turns**, with the call that has had a request answered, as
it is then. -/
inductive Turn (rules : Rules) (s : System) : List Task → System → Prop
  /-- A call comes in. -/
  | call (call : Call) : Turn rules s [] { s with tasks := s.tasks ++ [.start call] }
  /-- A call is cancelled. -/
  | cancel {i : Nat} {t : Task} (ht : s.tasks[i]? = some t) :
      Turn rules s [] { s with tasks := s.tasks.set i t.cancelled }
  /-- A call has one of its requests answered, and all others are at rest. -/
  | exchange {i : Nat} {t : Task} (ht : s.tasks[i]? = some t) {q : Request}
      {next : q.Answer → Operation (Except Fault Reply)} (hrest : t.rest = .ask q next)
      {a : q.Answer} {w : World} (ha : Answers rules t.isCancelled s.world q a w)
      (hothers : s.othersAtRest i = true) :
      Turn rules s [t.answered q a next] ⟨w, s.tasks.set i (t.answered q a next)⟩
  /-- Others change the world. -/
  | change {w : World} (hw : rules.changes s.world w) : Turn rules s [] { s with world := w }

/-- **A run of a system whose calls take turns.**  Its trace shows the calls as their requests leave
them, in the order of the requests. -/
inductive Turns (rules : Rules) (s : System) : List Task → System → Prop
  | refl : Turns rules s [] s
  | tail {trace new : List Task} {s' s'' : System} (h : Turns rules s trace s')
      (hturn : Turn rules s' new s'') : Turns rules s (trace ++ new) s''

variable {rules : Rules} {s s' s'' : System} {trace trace' new : List Task}

theorem Turn.step (h : Turn rules s new s') : Step rules s s' := by
  cases h with
  | call call => exact .call s call
  | cancel ht => exact .cancel ht
  | exchange ht hrest ha _ => exact .exchange ht hrest ha
  | change hw => exact .change hw

/-- **Calls that take turns are calls**: what is reached so is reached. -/
theorem Turns.reaches (h : Turns rules s trace s') : Reaches rules s s' := by
  induction h with
  | refl => exact .refl
  | tail _ hturn ih => exact ih.tail hturn.step

theorem Turns.trans (h : Turns rules s trace s') (h' : Turns rules s' trace' s'') :
    Turns rules s (trace ++ trace') s'' := by
  induction h' with
  | refl => rwa [List.append_nil]
  | tail _ hturn ih =>
    rw [← List.append_assoc]
    exact ih.tail hturn

/-! ### Playing by turns -/

/-- The system after a move, if that is possible and it is the turn of the call that goes on. -/
def turn? (s : System) : Move → Option (List Task × System)
  | .call call => (s.move? (.call call)).map fun s' => ([], s')
  | .cancel i => (s.move? (.cancel i)).map fun s' => ([], s')
  | .go i =>
    if s.othersAtRest i then (s.move? (.go i)).map fun s' => (s'.tasks[i]?.toList, s') else none

/-- **The system after some moves**, if they are possible by turns, and the trace. -/
def playTurns? (s : System) : List Move → Option (List Task × System)
  | [] => some ([], s)
  | m :: rest => (s.turn? m).bind fun (new, s') =>
    (s'.playTurns? rest).map fun (trace, s'') => (new ++ trace, s'')

theorem turn_of_turn? {m : Move} (h : s.turn? m = some (new, s')) : Turn rules s new s' := by
  unfold turn? at h
  cases m with
  | call call =>
    obtain ⟨_, hm, heq⟩ := Option.map_eq_some_iff.mp h
    obtain ⟨rfl, rfl⟩ := Prod.mk.inj heq
    obtain rfl := Option.some.inj hm
    exact .call call
  | cancel i =>
    obtain ⟨_, hm, heq⟩ := Option.map_eq_some_iff.mp h
    obtain ⟨rfl, rfl⟩ := Prod.mk.inj heq
    obtain ⟨t, ht, rfl⟩ := Option.map_eq_some_iff.mp hm
    exact .cancel ht
  | go i =>
    -- a call has its turn while all others are at rest
    obtain ⟨hothers, h⟩ := Option.ite_none_right_eq_some.mp h
    obtain ⟨_, hm, heq⟩ := Option.map_eq_some_iff.mp h
    obtain ⟨rfl, rfl⟩ := Prod.mk.inj heq
    obtain ⟨t, ht, hm⟩ := Option.bind_eq_some_iff.mp hm
    split at hm
    · exact nomatch hm
    · next q next hrest =>
      obtain rfl := Option.some.inj hm
      obtain ⟨hlt, -⟩ := List.getElem?_eq_some_iff.mp ht
      show Turn rules s (s.tasks.set i _)[i]?.toList _
      rw [List.getElem?_set_self hlt]
      exact .exchange ht hrest (.answered q) hothers

/-- **What can be played by turns is a run**, under whatever rules. -/
theorem turns_of_playTurns? {moves : List Move} (h : s.playTurns? moves = some (trace, s')) :
    Turns rules s trace s' := by
  -- move by move, from the state that the moves before have led to
  induction moves generalizing s trace with
  | nil =>
    obtain ⟨rfl, rfl⟩ := Prod.mk.inj (Option.some.inj h)
    exact .refl
  | cons m rest ih =>
    obtain ⟨⟨new, s₁⟩, hm, h⟩ := Option.bind_eq_some_iff.mp h
    obtain ⟨⟨trace', s₂⟩, hrest, heq⟩ := Option.map_eq_some_iff.mp h
    obtain ⟨rfl, rfl⟩ := Prod.mk.inj heq
    exact Turns.trans (.tail .refl (turn_of_turn? hm)) (ih hrest)

end System

end Flowgraph
