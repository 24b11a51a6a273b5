import Flowgraph.Proofs.Graph.Lookup

/-!
# The plain walk

The plain walk is what a run of a flow is meant to do, read off the lists of nodes and edges alone.
It starts at the first trigger.  The handler of the node that is due sees what the one before has left,
with its output in the place of the payload; the walk then goes to the target of the first edge that
leaves the node by the port that was chosen, or else of the first edge that leaves it without a port.
It stops at a node that chooses no port, where no edge is left, at a handler that fails, and when as
many steps are recorded as may be taken and another node is due.

`PlainWalk.Reaches` says which node is due after some steps, `PlainWalk.Stops` how the walk stops
under a limit.  The plain walk is determined by the number of its steps (`PlainWalk.Reaches.unique`)
and stops in one way only (`PlainWalk.Stops.unique`).  Where no handler puts in a payload of its own,
each sees the last output so far, or the payload of the trigger if there was none
(`PlainWalk.Reaches.input_eq`).
-/

namespace Flowgraph

namespace PlainWalk

/-- The payload after some steps: the last output, or the payload at the start if there is none. -/
def payload (start : Json) (steps : List Step) : Json :=
  (steps.filterMap (·.output)).getLastD start

/-- The edge out of a node: the first by the port, else the first without a port. -/
def edge? (g : Graph) (node port : String) : Option Edge :=
  (g.edges.find? fun e => e.source == node && e.leavesBy port).or
    (g.edges.find? fun e => e.source == node && e.sourcePort.isNone)

/-- The node that is due after a node that has chosen a port, or none. -/
def next? (g : Graph) (node : String) (port : Option String) : Option Node :=
  port.bind fun p => (edge? g node p).bind fun e => g.node? e.target

/-- What is carried on from a node with an outcome: what its handler has left, with the output, if there
is one, in the place of the payload. -/
def carry (left : Context) (o : Outcome) : Context :=
  match o.output with
  | some output => { left with input := output }
  | none => left

/-- The step of a node with an outcome. -/
def step (v : Node) (o : Outcome) : Step := ⟨v.id, v.type, o.output, o.port⟩

/-- **How the plain walk stops.** -/
inductive Stop where
  /-- A node has chosen no port, or one without an edge. -/
  | normally
  /-- The handler of the node has failed. -/
  | failed (fault : Fault) (node : String)
  /-- The node is due, but no more steps may be taken. -/
  | tooLong (node : String)
  deriving DecidableEq

/-- The fault with which a walk stops under a limit, and the node that was due. -/
def Stop.fault (limit : Nat) : Stop → Option (Fault × String)
  | normally => none
  | failed fault node => some (fault, node)
  | tooLong node => some (.maxSteps limit, node)

section Walk

variable (handlers : Registry) (g : Graph) (ctx : Context)

/-- What the handler of a node does with what the walk carries. -/
def reaction (v : Node) (c : Context) : Reaction := handlers.get v.type v c

/-- **A node is due after some steps**, with what the walk carries then. -/
inductive Reaches : List Step → Node → Context → Prop
  | start {v : Node} (h : g.trigger? = some v) : Reaches [] v ctx
  | step {steps : List Step} {v v' : Node} {c : Context} {o : Outcome} (h : Reaches steps v c)
      (hr : (reaction handlers v c).result = .ok o) (hn : next? g v.id o.port = some v') :
      Reaches (steps ++ [step v o]) v' (carry (reaction handlers v c).context o)

/-- **The plain walk stops** after some steps, with what it carries then. -/
inductive Stops (limit : Nat) : List Step → Context → Stop → Prop
  | normally {steps : List Step} {v : Node} {c : Context} {o : Outcome}
      (h : Reaches handlers g ctx steps v c) (hl : steps.length < limit)
      (hr : (reaction handlers v c).result = .ok o) (hn : next? g v.id o.port = none) :
      Stops limit (steps ++ [step v o]) (carry (reaction handlers v c).context o) .normally
  | failed {steps : List Step} {v : Node} {c : Context} {fault : Fault}
      (h : Reaches handlers g ctx steps v c) (hl : steps.length < limit)
      (hr : (reaction handlers v c).result = .error fault) :
      Stops limit steps (reaction handlers v c).context (.failed fault v.id)
  | tooLong {steps : List Step} {v : Node} {c : Context}
      (h : Reaches handlers g ctx steps v c) (hl : steps.length = limit) :
      Stops limit steps c (.tooLong v.id)

/-- No handler puts another payload in the place of the one that it gets: only an output does. -/
def KeepsPayload : Prop :=
  ∀ (type : String) (v : Node) (c : Context), (handlers.get type v c).context.input = c.input

end Walk

/-! ### Payloads and edges -/

@[simp] theorem payload_snoc (start : Json) (steps : List Step) (s : Step) :
    payload start (steps ++ [s]) = s.output.getD (payload start steps) := by
  unfold payload
  rw [List.filterMap_append]
  cases h : s.output <;> simp [h, List.getLastD_eq_getLast?]

theorem nextEdge?_eq_edge? (g : Graph) (node port : String) : g.nextEdge? node port = edge? g node port :=
  Graph.nextEdge?_eq g node port

/-! ### The plain walk is determined -/

variable {handlers : Registry} {g : Graph} {ctx : Context} {limit : Nat}
  {steps steps' : List Step} {v v' : Node} {c c' : Context} {stop stop' : Stop}

/-- The nodes of a walk are nodes of the graph. -/
theorem Reaches.mem (h : Reaches handlers g ctx steps v c) : v ∈ g.nodes := by
  cases h with
  | start h => exact List.mem_of_find?_eq_some h
  | step _ _ hn =>
    obtain ⟨p, -, hn⟩ := Option.bind_eq_some_iff.mp hn
    obtain ⟨e, -, hn⟩ := Option.bind_eq_some_iff.mp hn
    exact List.mem_of_find?_eq_some hn

theorem carry_eq (left : Context) (o : Outcome) :
    carry left o = { left with input := o.output.getD left.input } := by
  unfold carry
  cases o.output <;> rfl

/-- **The node that is due sees the last output**, if no handler puts in a payload of its own. -/
theorem Reaches.input_eq (hkeeps : KeepsPayload handlers) (h : Reaches handlers g ctx steps v c) :
    c.input = payload ctx.input steps := by
  induction h with
  | start _ => rfl
  | @step steps v v' c o _ hr hn ih =>
    rw [payload_snoc, carry_eq, ← ih, ← hkeeps v.type v c]
    rfl

/-- So does a walk that has stopped carry it. -/
theorem Stops.input_eq (hkeeps : KeepsPayload handlers) (h : Stops handlers g ctx limit steps c stop) :
    c.input = payload ctx.input steps := by
  cases h with
  | @normally steps v c o h _ _ _ =>
    rw [payload_snoc, carry_eq, ← h.input_eq hkeeps, ← hkeeps v.type v c]
    rfl
  | @failed _ v c _ h _ _ => exact (hkeeps v.type v c).trans (h.input_eq hkeeps)
  | tooLong h _ => exact h.input_eq hkeeps

/-- **The number of steps determines the walk so far.** -/
theorem Reaches.unique (h : Reaches handlers g ctx steps v c)
    (h' : Reaches handlers g ctx steps' v' c') (hl : steps.length = steps'.length) :
    steps = steps' ∧ v = v' ∧ c = c' := by
  -- the length tells that both walks have just started, or that both have taken a step
  induction h generalizing steps' v' c' with
  | start h =>
    cases h' with
    | start h' =>
      rw [h] at h'
      exact ⟨rfl, Option.some.inj h', rfl⟩
    | step _ _ _ => simp at hl
  | step _ hr hn ih =>
    cases h' with
    | start _ => simp at hl
    | step h' hr' hn' =>
      obtain ⟨rfl, rfl, rfl⟩ := ih h' (by simpa using hl)
      obtain rfl := Except.ok.inj (hr.symm.trans hr')
      exact ⟨rfl, Option.some.inj (hn.symm.trans hn'), rfl⟩

/-- **A walk has passed through all its shorter prefixes**, and gone on from each of them. -/
theorem Reaches.passed (h : Reaches handlers g ctx steps v c) {k : Nat} (hk : k < steps.length) :
    ∃ u d o u', Reaches handlers g ctx (steps.take k) u d ∧
      (reaction handlers u d).result = .ok o ∧ next? g u.id o.port = some u' := by
  induction h with
  | start _ => exact absurd hk (Nat.not_lt_zero _)
  | @step steps v v' c o h hr hn ih =>
    rw [List.length_append, List.length_singleton] at hk
    rcases Nat.lt_or_ge k steps.length with hlt | hge
    · rw [List.take_append_of_le_length (Nat.le_of_lt hlt)]
      exact ih hlt
    · obtain rfl : k = steps.length := by omega
      rw [List.take_left]
      exact ⟨v, c, o, v', h, hr, hn⟩

/-- A walk that stops at the limit has used it up, and a node is due. -/
theorem Stops.of_tooLong {node : String}
    (h : Stops handlers g ctx limit steps c (.tooLong node)) :
    steps.length = limit ∧ ∃ v c, Reaches handlers g ctx steps v c := by
  cases h with
  | tooLong h hl => exact ⟨hl, _, _, h⟩

/-- A walk that stops at a failure does so at a node of the graph, whose handler has failed. -/
theorem Stops.of_failed {fault : Fault} {node : String}
    (h : Stops handlers g ctx limit steps c (.failed fault node)) :
    ∃ v ∈ g.nodes, v.id = node ∧ ∃ ctx', (handlers.get v.type v ctx').result = .error fault := by
  cases h with
  | failed h _ hr => exact ⟨_, h.mem, rfl, _, hr⟩

/-- What becomes of a walk at the node that is due: it stops, or it goes on. -/
def halt? (handlers : Registry) (g : Graph) (limit : Nat) (steps : List Step)
    (v : Node) (c : Context) : Option (List Step × Context × Stop) :=
  let r := reaction handlers v c
  if steps.length < limit then
    match r.result with
    | .error fault => some (steps, r.context, .failed fault v.id)
    | .ok o =>
      match next? g v.id o.port with
      | none => some (steps ++ [step v o], carry r.context o, .normally)
      | some _ => none
  else some (steps, c, .tooLong v.id)

/-- Where a walk stops, it does so at a node that it has reached within the limit. -/
theorem Stops.exists_halt (h : Stops handlers g ctx limit steps c stop) :
    ∃ base u d, Reaches handlers g ctx base u d ∧ base.length ≤ limit ∧
      halt? handlers g limit base u d = some (steps, c, stop) := by
  cases h with
  | normally h hl hr hn =>
    exact ⟨_, _, _, h, Nat.le_of_lt hl, by simp only [halt?, hl, if_true, hr, hn]⟩
  | failed h hl hr => exact ⟨_, _, _, h, Nat.le_of_lt hl, by simp only [halt?, hl, if_true, hr]⟩
  | tooLong h hl => exact ⟨_, _, _, h, Nat.le_of_eq hl, by simp [halt?, hl]⟩

theorem prefix_of_halt? {base : List Step}
    (h : halt? handlers g limit base v c = some (steps, c', stop)) : base <+: steps := by
  unfold halt? at h
  dsimp only at h
  split at h
  · split at h
    · cases h
      exact List.prefix_refl _
    · split at h
      · cases h
        exact List.prefix_append ..
      · exact nomatch h
  · cases h
    exact List.prefix_refl _

/-- **The walk does not go beyond the node where it stops.** -/
theorem Reaches.length_le (h : Reaches handlers g ctx steps v c)
    (hs : (halt? handlers g limit steps v c).isSome)
    (h' : Reaches handlers g ctx steps' v' c') (hl : steps'.length ≤ limit) :
    steps'.length ≤ steps.length := by
  by_contra hlt
  rw [Nat.not_le] at hlt
  -- a longer walk has passed through this node, and has gone on from it
  obtain ⟨u, d, o, u', hr, ho, hn⟩ := h'.passed hlt
  obtain ⟨-, rfl, rfl⟩ := hr.unique h (by simp [Nat.min_eq_left (Nat.le_of_lt hlt)])
  simp [halt?, Nat.lt_of_lt_of_le hlt hl, ho, hn] at hs

/-- **A walk within the limit is part of the walk that stops.** -/
theorem Reaches.prefix_of_stops (h : Reaches handlers g ctx steps v c) (hl : steps.length ≤ limit)
    (hs : Stops handlers g ctx limit steps' c' stop) : steps <+: steps' := by
  obtain ⟨base, u, d, hb, -, hhalt⟩ := hs.exists_halt
  -- the walk that stops has reached its last node by passing through `steps`, or by `steps`
  refine List.IsPrefix.trans ?_ (prefix_of_halt? hhalt)
  rcases Nat.lt_or_eq_of_le (hb.length_le (by rw [hhalt]; rfl) h hl) with hlt | heq
  · obtain ⟨u₁, d₁, o, u', hr, -, -⟩ := hb.passed hlt
    obtain ⟨htake, -, -⟩ := h.unique hr (by simp [Nat.min_eq_left (Nat.le_of_lt hlt)])
    rw [htake]
    exact List.take_prefix ..
  · obtain ⟨rfl, -, -⟩ := h.unique hb heq
    exact List.prefix_refl _

/-- **The walk stops in one way only.** -/
theorem Stops.unique (h : Stops handlers g ctx limit steps c stop)
    (h' : Stops handlers g ctx limit steps' c' stop') :
    steps = steps' ∧ c = c' ∧ stop = stop' := by
  obtain ⟨base, u, d, hb, hl, hhalt⟩ := h.exists_halt
  obtain ⟨base', u', d', hb', hl', hhalt'⟩ := h'.exists_halt
  -- neither walk goes beyond the node where the other one stops
  have hlen : base.length = base'.length :=
    Nat.le_antisymm (hb'.length_le (by rw [hhalt']; rfl) hb hl)
      (hb.length_le (by rw [hhalt]; rfl) hb' hl')
  obtain ⟨rfl, rfl, rfl⟩ := hb.unique hb' hlen
  simpa using hhalt.symm.trans hhalt'

end PlainWalk

end Flowgraph
