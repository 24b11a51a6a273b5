import Flowgraph.Proofs.Operation.Transcript
import Flowgraph.Proofs.Run.PlainWalk

/-!
# The transcript of a walk

A walk looks whether it is cancelled before each node, lets the handler of the node take its time,
and publishes the step.  What it does is read off its transcript: if no look finds a cancellation it
is the plain walk (`Executor.WalkEnds.calm`), and if one does it ends at a node that the plain walk
reaches (`Executor.WalkEnds.cut`); see `Executor.walk_ends`.
-/

namespace Flowgraph

open Interaction (Completes completes_ask_iff completes_bind_iff completes_done_iff)

/-! ### Reactions -/

theorem Reaction.settle_eq (r : Reaction) :
    r.settle =
      if r.wait = 0 then .done r.result
      else .ask (.wait r.wait) fun
        | .elapsed => .done r.result
        | .cancelled => .done (.error .cancelled) := by
  unfold settle
  split
  · rfl
  · refine congrArg (Interaction.ask _) (funext fun ended => ?_)
    cases ended <;> rfl

/-- **How a reaction takes its time**: not at all, to the end, or until it is cut short. -/
theorem Reaction.settle_cases {r : Reaction} {t : Transcript} {res : Except Fault Outcome}
    (h : Completes r.settle t res) :
    (r.wait = 0 ∧ t = [] ∧ res = r.result) ∨
      (r.wait ≠ 0 ∧ t = [⟨.wait r.wait, .elapsed⟩] ∧ res = r.result) ∨
      (r.wait ≠ 0 ∧ t = [⟨.wait r.wait, .cancelled⟩] ∧ res = .error .cancelled) := by
  rw [settle_eq] at h
  split at h
  · next hw =>
    obtain ⟨rfl, rfl⟩ := completes_done_iff.mp h
    exact .inl ⟨hw, rfl, rfl⟩
  · next hw =>
    obtain ⟨ended, t', rfl, hrest⟩ := completes_ask_iff.mp h
    cases ended with
    | elapsed =>
      obtain ⟨rfl, rfl⟩ := completes_done_iff.mp hrest
      exact .inr (.inl ⟨hw, rfl, rfl⟩)
    | cancelled =>
      obtain ⟨rfl, rfl⟩ := completes_done_iff.mp hrest
      exact .inr (.inr ⟨hw, rfl, rfl⟩)

/-- **What comes of a reaction** is its result, unless it is cut short. -/
theorem Reaction.settle_result {r : Reaction} {t : Transcript} {res : Except Fault Outcome}
    (h : Completes r.settle t res) :
    (res = r.result ∧ t.Calm) ∨ (res = .error .cancelled ∧ ¬ t.Calm) := by
  rcases settle_cases h with ⟨-, rfl, rfl⟩ | ⟨-, rfl, rfl⟩ | ⟨-, rfl, rfl⟩
  · exact .inl ⟨rfl, Transcript.calm_nil⟩
  · exact .inl ⟨rfl, by simp [Transcript.calm_cons, Transcript.look?]⟩
  · exact .inr ⟨rfl, by simp [Transcript.calm_cons, Transcript.look?]⟩

/-- A reaction publishes nothing. -/
theorem Reaction.settle_published {r : Reaction} {t : Transcript} {res : Except Fault Outcome}
    (h : Completes r.settle t res) : t.published = [] := by
  rcases settle_cases h with ⟨-, rfl, -⟩ | ⟨-, rfl, -⟩ | ⟨-, rfl, -⟩ <;> rfl

/-- The steps of a walk that is over, in order. -/
def Ending.steps (e : Ending) : List Step := e.progress.taken.reverse

namespace Executor

/-! ### Taking a walk apart -/

variable {x : Executor} {g : Graph} {runId flowId : String} {left : Nat} {v : Node} {p : Progress}
  {t : Transcript} {e : Ending}

/-- What the handler of a node does when the walk comes there. -/
def reaction (x : Executor) (v : Node) (p : Progress) : Reaction :=
  x.handlers.get v.type v p.context

/-- The edge that a walk follows out of a node with an outcome. -/
def edge? (g : Graph) (v : Node) (o : Outcome) : Option Edge :=
  o.port.bind fun port => g.nextEdge? v.id port

/-- The event of a node that is done. -/
def nodeEvent (runId flowId : String) (v : Node) (o : Outcome) : Event :=
  .nodeCompleted runId flowId v.id v.type o.port

/-- What a walk does once the handler of a node is done. -/
def afterNode (x : Executor) (g : Graph) (runId flowId : String) (left : Nat) (v : Node)
    (p : Progress) : Except Fault Outcome → Operation Ending
  | .error fault =>
    .done ⟨{ p with context := (x.reaction v p).context }, some (fault, v.id)⟩
  | .ok o =>
    let p' := advance p v (x.reaction v p).context o
    .ask (.publish (nodeEvent runId flowId v o)) fun _ =>
      match edge? g v o with
      | none => .done ⟨p', none⟩
      | some edge =>
        match g.target? edge with
        | some next => x.walk g runId flowId left next p'
        | none => .done ⟨p', some (.handlerFailure edge.id (.missingTarget edge.target), v.id)⟩

theorem walk_zero :
    x.walk g runId flowId 0 v p =
      .ask .isCancelled fun cancelled =>
        if cancelled then .done ⟨p, some (.cancelled, v.id)⟩
        else .done ⟨p, some (.maxSteps x.limit, v.id)⟩ := rfl

theorem walk_succ :
    x.walk g runId flowId (left + 1) v p =
      .ask .isCancelled fun cancelled =>
        if cancelled then .done ⟨p, some (.cancelled, v.id)⟩
        else (x.reaction v p).settle.bind (afterNode x g runId flowId left v p) := by
  rw [walk]
  refine congrArg _ (funext fun cancelled => ?_)
  cases cancelled with
  | true => rfl
  | false =>
    refine congrArg (Interaction.bind _) (funext fun res => ?_)
    cases res with
    | error fault => rfl
    | ok o => rfl

/-- **A walk that is over**, by what became of the node that was due. -/
inductive Walked (x : Executor) (g : Graph) (runId flowId : String) (v : Node) (p : Progress) :
    Nat → Transcript → Ending → Prop
  /-- The walk has found out that it is cancelled. -/
  | cancelled (left : Nat) :
      Walked x g runId flowId v p left [⟨.isCancelled, true⟩] ⟨p, some (.cancelled, v.id)⟩
  /-- There were no steps left. -/
  | tooLong :
      Walked x g runId flowId v p 0 [⟨.isCancelled, false⟩] ⟨p, some (.maxSteps x.limit, v.id)⟩
  /-- The handler has failed, or was cut short. -/
  | failed {left : Nat} {t : Transcript} {fault : Fault}
      (h : Completes (x.reaction v p).settle t (.error fault)) :
      Walked x g runId flowId v p (left + 1) (⟨.isCancelled, false⟩ :: t)
        ⟨{ p with context := (x.reaction v p).context }, some (fault, v.id)⟩
  /-- There was no edge to follow. -/
  | ended {left : Nat} {t : Transcript} {o : Outcome}
      (h : Completes (x.reaction v p).settle t (.ok o)) (hedge : edge? g v o = none) :
      Walked x g runId flowId v p (left + 1)
        (⟨.isCancelled, false⟩ :: (t ++ [⟨.publish (nodeEvent runId flowId v o), ()⟩]))
        ⟨advance p v (x.reaction v p).context o, none⟩
  /-- The edge led nowhere. -/
  | lost {left : Nat} {t : Transcript} {o : Outcome} {edge : Edge}
      (h : Completes (x.reaction v p).settle t (.ok o)) (hedge : edge? g v o = some edge)
      (htarget : g.target? edge = none) :
      Walked x g runId flowId v p (left + 1)
        (⟨.isCancelled, false⟩ :: (t ++ [⟨.publish (nodeEvent runId flowId v o), ()⟩]))
        ⟨advance p v (x.reaction v p).context o,
          some (.handlerFailure edge.id (.missingTarget edge.target), v.id)⟩
  /-- The walk has gone on to the next node. -/
  | on {left : Nat} {t t' : Transcript} {o : Outcome} {edge : Edge} {next : Node} {e : Ending}
      (h : Completes (x.reaction v p).settle t (.ok o)) (hedge : edge? g v o = some edge)
      (htarget : g.target? edge = some next)
      (hwalk : Completes
        (x.walk g runId flowId left next (advance p v (x.reaction v p).context o)) t' e) :
      Walked x g runId flowId v p (left + 1)
        (⟨.isCancelled, false⟩ :: (t ++ ⟨.publish (nodeEvent runId flowId v o), ()⟩ :: t')) e

/-- **Every walk that is over** has come to its end in one of these ways. -/
theorem walk_walked (h : Completes (x.walk g runId flowId left v p) t e) :
    Walked x g runId flowId v p left t e := by
  cases left with
  | zero =>
    rw [walk_zero] at h
    obtain ⟨found, t', rfl, hrest⟩ := completes_ask_iff.mp h
    cases found <;>
    · obtain ⟨rfl, rfl⟩ := completes_done_iff.mp hrest
      constructor
  | succ left =>
    rw [walk_succ] at h
    obtain ⟨found, t', rfl, hrest⟩ := completes_ask_iff.mp h
    cases found with
    | true =>
      obtain ⟨rfl, rfl⟩ := completes_done_iff.mp hrest
      exact .cancelled _
    | false =>
      -- the transcript splits into that of the handler and that of what follows
      obtain ⟨t₁, res, t₂, rfl, hsettle, hafter⟩ := completes_bind_iff.mp hrest
      cases res with
      | error fault =>
        obtain ⟨rfl, rfl⟩ := completes_done_iff.mp hafter
        rw [List.append_nil]
        exact .failed hsettle
      | ok o =>
        obtain ⟨-, t₃, rfl, hnext⟩ := completes_ask_iff.mp hafter
        -- the walk ends, goes on, or has an edge that leads to no node
        split at hnext
        · next hedge =>
          obtain ⟨rfl, rfl⟩ := completes_done_iff.mp hnext
          exact .ended hsettle hedge
        · next edge hedge =>
          split at hnext
          · next next htarget => exact .on hsettle hedge htarget hnext
          · next htarget =>
            obtain ⟨rfl, rfl⟩ := completes_done_iff.mp hnext
            exact .lost hsettle hedge htarget

/-- A walk looks first of all whether it is cancelled, and goes nowhere if it is. -/
theorem walk_first_look (h : Completes (x.walk g runId flowId left v p) t e) :
    ∃ found t', t = ⟨.isCancelled, found⟩ :: t' ∧
      (found = true → e = ⟨p, some (.cancelled, v.id)⟩) := by
  cases walk_walked h with
  | cancelled => exact ⟨true, _, rfl, fun _ => rfl⟩
  | tooLong => exact ⟨false, _, rfl, nofun⟩
  | failed _ => exact ⟨false, _, rfl, nofun⟩
  | ended _ _ => exact ⟨false, _, rfl, nofun⟩
  | lost _ _ _ => exact ⟨false, _, rfl, nofun⟩
  | on _ _ _ _ => exact ⟨false, _, rfl, nofun⟩

/-- **A walk in which a look finds a cancellation ends with it**, whatever the graph. -/
theorem walk_cancelled (h : Completes (x.walk g runId flowId left v p) t e) (ht : ¬ t.Calm) :
    ∃ u : Node, e.fault = some (.cancelled, u.id) := by
  induction left generalizing v p t with
  | zero =>
    cases walk_walked h with
    | cancelled => exact ⟨v, rfl⟩
    | tooLong => exact absurd (by simp [Transcript.calm_cons, Transcript.look?]) ht
  | succ left ih =>
    -- a node that is done has not been cut short
    have hcalm : ∀ {t : Transcript} {o : Outcome}, Completes (x.reaction v p).settle t (.ok o) →
        t.Calm := fun hsettle => (Reaction.settle_result hsettle).elim And.right fun hcut =>
      nomatch hcut.1
    cases walk_walked h with
    | cancelled => exact ⟨v, rfl⟩
    | failed hsettle =>
      rcases Reaction.settle_result hsettle with ⟨-, hquiet⟩ | ⟨hres, -⟩
      · exact absurd (by simp [Transcript.calm_cons, Transcript.look?, hquiet]) ht
      · obtain rfl := Except.error.inj hres
        exact ⟨v, rfl⟩
    | ended hsettle _ =>
      exact absurd (by simp [Transcript.calm_cons, Transcript.look?, hcalm hsettle]) ht
    | lost hsettle _ _ =>
      exact absurd (by simp [Transcript.calm_cons, Transcript.look?, hcalm hsettle]) ht
    | on hsettle _ _ hwalk =>
      refine ih hwalk fun hrest => ht ?_
      simp [Transcript.calm_cons, Transcript.look?, hcalm hsettle, hrest]

/-- On a well-formed graph the plain walk follows the same edge to the same node. -/
theorem next?_eq (hg : g.WellFormed) (v : Node) (o : Outcome) :
    PlainWalk.next? g v.id o.port = (edge? g v o).bind g.target? := by
  cases hport : o.port with
  | none => simp [PlainWalk.next?, edge?, hport]
  | some port =>
    simp only [PlainWalk.next?, edge?, hport, Option.bind_some, PlainWalk.nextEdge?_eq_edge?]
    exact congrArg _ (funext fun edge => (hg.target?_eq edge).symm)

/-! ### The whole walk -/

/-- **How a walk ends**, by its transcript. -/
inductive WalkEnds (handlers : Registry) (g : Graph) (ctx : Context) (limit : Nat) (t : Transcript)
    (e : Ending) : Prop
  /-- Without a cancellation it is the plain walk. -/
  | calm (stop : PlainWalk.Stop) (ht : t.Calm)
      (hs : PlainWalk.Stops handlers g ctx limit e.steps e.progress.context stop)
      (hf : e.fault = stop.fault limit)
  /-- With one it ends at a node that the plain walk reaches. -/
  | cut (v : Node) (c : Context) (ht : ¬ t.Calm)
      (hr : PlainWalk.Reaches handlers g ctx e.steps v c) (hl : e.steps.length ≤ limit)
      (hf : e.fault = some (.cancelled, v.id))
      (hc : e.progress.context = c ∨
        e.progress.context = (PlainWalk.reaction handlers v c).context)

/-- Where a walk stands is where the plain walk stands after the same steps. -/
structure InStep (x : Executor) (g : Graph) (ctx : Context) (left : Nat) (v : Node)
    (p : Progress) : Prop where
  reaches : PlainWalk.Reaches x.handlers g ctx p.taken.reverse v p.context
  left_add : left + p.taken.length = x.limit

variable {ctx : Context}

theorem InStep.length_le (h : InStep x g ctx left v p) : p.taken.reverse.length ≤ x.limit := by
  have := h.left_add
  rw [List.length_reverse]
  omega

theorem InStep.length_lt (h : InStep x g ctx (left + 1) v p) :
    p.taken.reverse.length < x.limit := by
  have := h.left_add
  rw [List.length_reverse]
  omega

/-- The steps after a node with an outcome. -/
theorem advance_taken (c : Context) (o : Outcome) :
    (advance p v c o).taken.reverse = p.taken.reverse ++ [PlainWalk.step v o] := by
  simp [advance, PlainWalk.step]

/-- What is carried after a node with an outcome. -/
theorem advance_context (c : Context) (o : Outcome) :
    (advance p v c o).context = PlainWalk.carry c o := (PlainWalk.carry_eq c o).symm

/-- **A step keeps a walk in step with the plain walk.** -/
theorem InStep.advance (h : InStep x g ctx (left + 1) v p) {o : Outcome} {v' : Node}
    (hr : (x.reaction v p).result = .ok o) (hn : PlainWalk.next? g v.id o.port = some v') :
    InStep x g ctx left v' (advance p v (x.reaction v p).context o) where
  reaches := by
    rw [advance_taken, advance_context]
    exact h.reaches.step hr hn
  left_add := by
    have := h.left_add
    simp only [Executor.advance, List.length_cons]
    omega

/-- The end of a walk depends on its transcript only by its being calm. -/
theorem WalkEnds.congr {handlers : Registry} {limit : Nat} {t' : Transcript}
    (h : WalkEnds handlers g ctx limit t e) (ht : Transcript.Calm t' ↔ Transcript.Calm t) :
    WalkEnds handlers g ctx limit t' e := by
  cases h with
  | calm stop hcalm hs hf => exact .calm stop (ht.mpr hcalm) hs hf
  | cut u c hcut hr hl hf hc => exact .cut u c (mt ht.mp hcut) hr hl hf hc

/-- A look that finds nothing does not disturb the calm. -/
theorem calm_look_iff : Transcript.Calm (⟨.isCancelled, false⟩ :: t) ↔ Transcript.Calm t := by
  rw [Transcript.calm_cons]
  simp [Transcript.look?]

/-- What a walk does at a node that is done is calm if the rest is. -/
theorem calm_node_iff {t' : Transcript} {event : Event} (ht : t.Calm) :
    Transcript.Calm (⟨.isCancelled, false⟩ :: (t ++ ⟨.publish event, ()⟩ :: t')) ↔
      Transcript.Calm t' := by
  rw [calm_look_iff, Transcript.calm_append, Transcript.calm_cons]
  simp [ht, Transcript.look?]

/-- **How a walk ends on a well-formed graph.** -/
theorem walk_ends (hg : g.WellFormed) (hs : InStep x g ctx left v p)
    (h : Completes (x.walk g runId flowId left v p) t e) :
    WalkEnds x.handlers g ctx x.limit t e := by
  -- by induction on the steps left, `hs` carrying where the plain walk stands
  induction left generalizing v p t with
  | zero =>
    cases walk_walked h with
    | cancelled =>
      exact .cut v p.context (by simp [Transcript.calm_cons, Transcript.look?])
        hs.reaches hs.length_le rfl (.inl rfl)
    | tooLong =>
      -- the walk looks for a cancellation before it finds its limit used up
      refine .calm (.tooLong v.id) (calm_look_iff.mpr Transcript.calm_nil)
        (.tooLong hs.reaches ?_) rfl
      rw [Ending.steps, List.length_reverse, ← hs.left_add, Nat.zero_add]
  | succ left ih =>
    -- an outcome is the result of the handler, since a wait that is cut short has none
    have hresult : ∀ {t : Transcript} {o : Outcome},
        Completes (x.reaction v p).settle t (.ok o) →
          (x.reaction v p).result = .ok o ∧ t.Calm := by
      intro t o hsettle
      rcases Reaction.settle_result hsettle with ⟨hres, hcalm⟩ | ⟨hres, -⟩
      · exact ⟨hres.symm, hcalm⟩
      · exact nomatch hres
    cases walk_walked h with
    | cancelled =>
      exact .cut v p.context (by simp [Transcript.calm_cons, Transcript.look?])
        hs.reaches hs.length_le rfl (.inl rfl)
    | @failed _ t fault hsettle =>
      rcases Reaction.settle_result hsettle with ⟨hres, hcalm⟩ | ⟨hres, hcut⟩
      · exact .calm _ (calm_look_iff.mpr hcalm) (.failed hs.reaches hs.length_lt hres.symm) rfl
      · obtain rfl := Except.error.inj hres
        exact .cut v p.context (mt calm_look_iff.mp hcut) hs.reaches hs.length_le rfl (.inr rfl)
    | @ended _ t o hsettle hedge =>
      obtain ⟨hres, hcalm⟩ := hresult hsettle
      have hn : PlainWalk.next? g v.id o.port = none := by rw [next?_eq hg, hedge]; rfl
      have hstop := PlainWalk.Stops.normally hs.reaches hs.length_lt hres hn
      rw [← advance_taken (x.reaction v p).context, ← advance_context] at hstop
      exact .calm .normally ((calm_node_iff hcalm).mpr Transcript.calm_nil) hstop rfl
    | lost _ hedge htarget =>
      -- the edge is one of the graph
      obtain ⟨port, -, hnext⟩ := Option.bind_eq_some_iff.mp hedge
      obtain ⟨n, -, hn⟩ := hg.exists_target (Graph.nextEdge?_mem hnext)
      rw [hn] at htarget
      exact nomatch htarget
    | @on _ t t' o edge next _ hsettle hedge htarget hwalk =>
      obtain ⟨hres, hcalm⟩ := hresult hsettle
      have hn : PlainWalk.next? g v.id o.port = some next := by
        rw [next?_eq hg, hedge]
        exact htarget
      exact (ih (hs.advance hres hn) hwalk).congr (calm_node_iff hcalm)

/-! ### What a walk asks for -/

/-- The requests of a walk: to look at the cancellation, to wait and to publish. -/
def Asks : Request → Prop
  | .isCancelled | .wait _ | .publish _ => True
  | _ => False

/-- **A walk asks for nothing else.** -/
theorem walk_meets (x : Executor) (g : Graph) (runId flowId : String) (left : Nat) (v : Node)
    (p : Progress) :
    (x.walk g runId flowId left v p).Meets (fun _ _ => True) Asks (fun _ => True) := by
  induction left generalizing v p with
  | zero =>
    rw [walk_zero]
    refine ⟨trivial, fun found _ => ?_⟩
    cases found <;> exact trivial
  | succ left ih =>
    rw [walk_succ]
    refine ⟨trivial, fun found _ => ?_⟩
    cases found with
    | true => exact trivial
    | false =>
      -- the handler may wait, and what follows it publishes and walks on
      refine Interaction.Meets.bind (P := fun _ => True) ?_ fun res _ => ?_
      · rw [Reaction.settle_eq]
        split
        · exact trivial
        · refine ⟨trivial, fun ended _ => ?_⟩
          cases ended <;> exact trivial
      · cases res with
        | error fault => exact trivial
        | ok o =>
          refine ⟨trivial, fun _ _ => ?_⟩
          dsimp only
          split
          · exact trivial
          · split
            · exact ih _ _
            · exact trivial

/-- A walk adds nothing to the log, and makes no id. -/
theorem walk_appended (h : Completes (x.walk g runId flowId left v p) t e) :
    Transcript.appended t = [] ∧ Transcript.runIds t = [] := by
  have hasks := (walk_meets x g runId flowId left v p).requests h fun _ _ => trivial
  constructor
  all_goals
    refine List.filterMap_eq_nil_iff.mpr fun ⟨q, a⟩ hmem => ?_
    cases q <;> first | rfl | exact absurd (hasks _ hmem) id

/-- The event of a step. -/
def stepEvent (runId flowId : String) (s : Step) : Event :=
  .nodeCompleted runId flowId s.nodeId s.nodeType s.port

/-- The events of the steps after a node with an outcome. -/
theorem advance_events (runId flowId : String) (v : Node) (p : Progress) (c : Context)
    (o : Outcome) :
    (advance p v c o).taken.reverse.map (stepEvent runId flowId)
      = p.taken.reverse.map (stepEvent runId flowId) ++ [nodeEvent runId flowId v o] := by
  rw [advance_taken, List.map_append]
  rfl

/-- What a walk publishes at a node that is done. -/
theorem published_node {t' : Transcript} {r : Reaction} {res : Except Fault Outcome} {event : Event}
    (h : Completes r.settle t res) :
    Transcript.published (⟨.isCancelled, false⟩ :: (t ++ ⟨.publish event, ()⟩ :: t'))
      = event :: Transcript.published t' := by
  simp [Transcript.published_cons, Transcript.event?, Reaction.settle_published h]

/-- **A walk publishes its steps**, one after the other. -/
theorem walk_published (h : Completes (x.walk g runId flowId left v p) t e) :
    e.steps.map (stepEvent runId flowId)
      = p.taken.reverse.map (stepEvent runId flowId) ++ Transcript.published t := by
  -- the events of the steps taken so far, and behind them those of the walk from here
  induction left generalizing v p t with
  | zero =>
    cases walk_walked h <;> simp [Ending.steps, Transcript.published_cons, Transcript.event?]
  | succ left ih =>
    cases walk_walked h with
    | cancelled => simp [Ending.steps, Transcript.published_cons, Transcript.event?]
    | failed hsettle =>
      simp [Ending.steps, Transcript.published_cons, Transcript.event?,
        Reaction.settle_published hsettle]
    | ended hsettle _ =>
      rw [published_node hsettle]
      exact advance_events ..
    | lost hsettle _ _ =>
      rw [published_node hsettle]
      exact advance_events ..
    | on hsettle _ _ hwalk =>
      rw [ih hwalk, advance_events, published_node hsettle, List.append_assoc]
      rfl

end Executor

end Flowgraph
