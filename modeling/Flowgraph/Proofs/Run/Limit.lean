import Flowgraph.Proofs.Handler.Builtin
import Flowgraph.Proofs.Run.Determined
import Flowgraph.Proofs.Run.Plain

/-!
# The limit only truncates

A plain walk under a smaller limit is the plain walk under a larger one, cut off where the smaller
limit is used up (`PlainWalk.Stops.eq_take`).  If the smaller limit does not stop it, nothing changes
at all (`PlainWalk.Stops.mono`).  The limit stops a walk exactly if it is used up and the last step
leads on to another node (`PlainWalk.Stops.tooLong_iff`).

The same holds of runs that nobody cancels (`Executor.limit_only_truncates`), whatever their ids and
whenever they start.
-/

namespace Flowgraph

namespace PlainWalk

variable {handlers : Registry} {g : Graph} {ctx : Context} {m n limit : Nat}
  {steps steps' : List Step} {v : Node} {c c' : Context} {stop stop' : Stop}

/-! ### Where the last step leads -/

/-- The last of some steps leads on to a node by the port that it has chosen. -/
def LeadsTo (g : Graph) (steps : List Step) (v : Node) : Prop :=
  ∃ s, steps.getLast? = some s ∧ next? g s.nodeId s.port = some v

theorem leadsTo_snoc {s : Step} : LeadsTo g (steps ++ [s]) v ↔ next? g s.nodeId s.port = some v := by
  simp [LeadsTo]

theorem LeadsTo.unique {v' : Node} (h : LeadsTo g steps v) (h' : LeadsTo g steps v') : v = v' := by
  obtain ⟨s, hs, hn⟩ := h
  obtain ⟨s', hs', hn'⟩ := h'
  obtain rfl := Option.some.inj (hs.symm.trans hs')
  exact Option.some.inj (hn.symm.trans hn')

/-- Once a walk has started, its last step leads on to the node that is due. -/
theorem Reaches.leadsTo (h : Reaches handlers g ctx steps v c) (hne : 0 < steps.length) :
    LeadsTo g steps v := by
  cases h with
  | start _ => exact absurd hne (Nat.lt_irrefl 0)
  | step _ _ hn => exact leadsTo_snoc.mpr hn

/-! ### What a limit does to a walk -/

theorem Stops.length_le (h : Stops handlers g ctx limit steps c stop) : steps.length ≤ limit := by
  cases h with
  | normally _ hl _ _ =>
    rw [List.length_append]
    exact hl
  | failed _ hl _ => exact Nat.le_of_lt hl
  | tooLong _ hl => exact Nat.le_of_eq hl

/-- **A limit stops a walk if and only if it is used up and the last step leads on**, and then the
node that is led to is the one that was due. -/
theorem Stops.tooLong_iff (h : Stops handlers g ctx limit steps c stop) (hlimit : 1 ≤ limit)
    {node : String} :
    stop = .tooLong node ↔ steps.length = limit ∧ ∃ v, LeadsTo g steps v ∧ v.id = node := by
  cases h with
  | normally _ _ _ hn =>
    -- the last step leads nowhere
    refine ⟨nofun, ?_⟩
    rintro ⟨-, v, hv, -⟩
    exact nomatch hn.symm.trans (leadsTo_snoc.mp hv)
  | failed _ hl _ => exact ⟨nofun, fun ⟨hlen, _⟩ => absurd hlen (Nat.ne_of_lt hl)⟩
  | @tooLong _ u _ hr hl =>
    have hu : LeadsTo g steps u := hr.leadsTo (hl ▸ hlimit)
    constructor
    · intro heq
      exact ⟨hl, u, hu, Stop.tooLong.inj heq⟩
    · rintro ⟨-, v, hv, rfl⟩
      rw [hv.unique hu]

theorem Stops.exists_tooLong_iff (h : Stops handlers g ctx limit steps c stop) (hlimit : 1 ≤ limit) :
    (∃ node, stop = .tooLong node) ↔ steps.length = limit ∧ ∃ v, LeadsTo g steps v := by
  constructor
  · rintro ⟨node, hnode⟩
    obtain ⟨hl, v, hv, -⟩ := (h.tooLong_iff hlimit).mp hnode
    exact ⟨hl, v, hv⟩
  · rintro ⟨hl, v, hv⟩
    exact ⟨v.id, (h.tooLong_iff hlimit).mpr ⟨hl, v, hv, rfl⟩⟩

/-- **A walk that its limit does not stop goes the same way under a larger one.** -/
theorem Stops.mono (h : Stops handlers g ctx m steps c stop) (hmn : m ≤ n)
    (hstop : ∀ node, stop ≠ .tooLong node) : Stops handlers g ctx n steps c stop := by
  cases h with
  | normally hr hl hres hn => exact .normally hr (Nat.lt_of_lt_of_le hl hmn) hres hn
  | failed hr hl hres => exact .failed hr (Nat.lt_of_lt_of_le hl hmn) hres
  | tooLong _ _ => exact absurd rfl (hstop _)

/-- **Under a smaller limit a walk takes the first of its steps**, and no others. -/
theorem Stops.eq_take (h : Stops handlers g ctx m steps c stop)
    (h' : Stops handlers g ctx n steps' c' stop') (hmn : m ≤ n) : steps = steps'.take m := by
  by_cases hstop : ∃ node, stop = .tooLong node
  · -- what the smaller limit stops is part of the longer walk, and uses the limit up
    obtain ⟨node, rfl⟩ := hstop
    obtain ⟨hl, v, d, hr⟩ := h.of_tooLong
    rw [← hl]
    exact List.prefix_iff_eq_take.mp (hr.prefix_of_stops (hl ▸ hmn) h')
  · obtain ⟨rfl, -, -⟩ := (h.mono hmn (not_exists.mp hstop)).unique h'
    exact (List.take_of_length_le h.length_le).symm

end PlainWalk

/-! ### Faults of the limit's kind -/

/-- The record says that a run has exceeded its limit. -/
def Record.Exceeds (r : Record) : Prop :=
  ∃ failure, r.error = some failure ∧ failure.kind = "max_steps_exceeded"

/-- The handler of the node that is due after some steps fails by itself with a fault of the kind
that stands for the limit. -/
def PlainWalk.FailsAsLimit (handlers : Registry) (g : Graph) (ctx : Context) (steps : List Step) :
    Prop :=
  ∃ v c fault, Reaches handlers g ctx steps v c ∧
    (reaction handlers v c).result = .error fault ∧ fault.kind = "max_steps_exceeded"

theorem Handler.FailsBy.kind_ne {node : Node} {fault : Fault} (h : Handler.FailsBy node fault) :
    fault.kind ≠ "max_steps_exceeded" := by
  cases h <;> simp [Fault.kind]

/-- **No built-in handler fails so.** -/
theorem PlainWalk.not_failsAsLimit_builtin {agents : Directory} {settings : Settings} {g : Graph}
    {ctx : Context} {steps : List Step} :
    ¬ FailsAsLimit (.builtin agents settings) g ctx steps := by
  rintro ⟨v, c, fault, -, hres, hkind⟩
  exact ((Registry.tame_builtin_get agents settings v.type).result _ _ _ hres).kind_ne hkind

namespace Executor

open PlainWalk (LeadsTo FailsAsLimit Stops)

variable {handlers : Registry} {flow : Flow} {ctx : Context} {steps : List Step} {c : Context}
  {stop : PlainWalk.Stop}

/-- What a record says of a walk that its limit has not stopped does not depend on the limit. -/
theorem stopFailure_congr (hstop : ∀ node, stop ≠ .tooLong node) (m n : Nat) :
    stopFailure m stop = stopFailure n stop := by
  cases stop with
  | normally | failed => rfl
  | tooLong node => exact absurd rfl (hstop node)

/-- A record says that the limit is exceeded if the limit has stopped the walk, or if a handler has
failed so. -/
theorem stopFailure_kind_iff {g : Graph} {limit : Nat}
    (hs : Stops handlers g ctx limit steps c stop) :
    (∃ failure, stopFailure limit stop = some failure ∧ failure.kind = "max_steps_exceeded") ↔
      (∃ node, stop = .tooLong node) ∨ FailsAsLimit handlers g ctx steps := by
  constructor
  · rintro ⟨failure, hf, hkind⟩
    cases hs with
    | normally => exact nomatch hf
    | tooLong => exact .inl ⟨_, rfl⟩
    | failed hr _ hres =>
      obtain rfl := Option.some.inj hf
      exact .inr ⟨_, _, _, hr, hres, hkind⟩
  · rintro (⟨node, rfl⟩ | ⟨v, d, fault, hr, hres, hkind⟩)
    · exact ⟨_, rfl, rfl⟩
    · -- the node that is due stops the walk, by its handler or because the limit is used up
      rcases Nat.lt_or_eq_of_le hs.length_le with hl | hl
      · obtain ⟨-, -, rfl⟩ := hs.unique (.failed hr hl hres)
        exact ⟨_, rfl, hkind⟩
      · obtain ⟨-, -, rfl⟩ := hs.unique (.tooLong hr hl)
        exact ⟨_, rfl, rfl⟩

/-! ### Whole runs -/

/-- **What a limit means for a run**: no more steps than it allows, at least one always being
allowed, and a record that says so if it was used up and the last step leads on to a node. -/
structure Limits (handlers : Registry) (flow : Flow) (ctx : Context) (limit : Nat) (fin : Finished) :
    Prop where
  length_le : fin.record.steps.length ≤ max limit 1
  /-- A handler may fail with a fault of that kind by itself; nothing else looks like the limit. -/
  exceeds_iff : fin.record.Exceeds ↔
    (fin.record.steps.length = max limit 1 ∧ ∃ v, LeadsTo flow.graph fin.record.steps v) ∨
      FailsAsLimit handlers flow.graph ctx fin.record.steps
  /-- The record tells of the node that the last step leads to. -/
  error_eq : ∀ v, fin.record.steps.length = max limit 1 → LeadsTo flow.graph fin.record.steps v →
    fin.record.error = some ⟨"max_steps_exceeded",
      "Flow exceeded max steps (" ++ toString (max limit 1) ++ ")", some v.id⟩

/-- **A run is the plain walk under its limit**, with what its record says of how it stops. -/
structure Walks (x : Executor) (flow : Flow) (ctx : Context) (fin : Finished)
    (stop : PlainWalk.Stop) : Prop where
  stops : Stops x.handlers flow.graph ctx x.limit fin.record.steps fin.context stop
  output : fin.record.output = fin.context.input
  success : fin.record.success = true ↔ stop = .normally
  error : fin.record.error = stopFailure x.limit stop
  status : fin.flow.status = if fin.record.success then .active else .error

/-- A run alone that nobody cancels is a plain walk. -/
theorem exists_walks (x : Executor) (hv : flow.validate = .ok ()) (htrig : flow.trigger?.isSome)
    (ctx : Context) (w : World) : ∃ stop, Walks x flow ctx (World.run (x.run flow ctx) w).1 stop := by
  have hran : Ran x flow ctx _ (World.run (x.run flow ctx) w).1 :=
    run_ran (World.completes_transcript none _ w)
  obtain ⟨stop, hs, ho, hok, herr⟩ :=
    hran.plain (Flow.validate_eq_ok_iff.mp hv) htrig (World.calm_transcript _ w)
  refine ⟨stop, hs, ho, hok, herr, ?_⟩
  cases hran.ends with
  | untriggered hnone => exact absurd htrig (by simp [hnone])
  | triggered _ hflow => rw [hflow]; rfl

variable {m n limit : Nat} {fin fin' : Finished} {stop' : PlainWalk.Stop}

theorem Walks.limits (h : Walks (withLimit handlers limit) flow ctx fin stop) :
    Limits handlers flow ctx limit fin where
  length_le := h.stops.length_le
  exceeds_iff := by
    rw [Record.Exceeds, h.error, stopFailure_kind_iff h.stops,
      h.stops.exists_tooLong_iff (Nat.le_max_right limit 1)]
    rfl
  error_eq v hl hv := by
    rw [h.error, (h.stops.tooLong_iff (Nat.le_max_right limit 1)).mpr ⟨hl, v, hv, rfl⟩]
    rfl

/-- **With the built-in handlers nothing but the limit looks like it.** -/
theorem Limits.exceeds_iff_builtin {agents : Directory} {settings : Settings}
    (h : Limits (.builtin agents settings) flow ctx limit fin) :
    fin.record.Exceeds ↔
      fin.record.steps.length = max limit 1 ∧ ∃ v, LeadsTo flow.graph fin.record.steps v := by
  rw [h.exceeds_iff, or_iff_left PlainWalk.not_failsAsLimit_builtin]

/-- Two runs go the same way if the smaller limit does not stop the one that has it. -/
theorem Walks.agrees (h : Walks (withLimit handlers m) flow ctx fin stop)
    (h' : Walks (withLimit handlers n) flow ctx fin' stop') (hmn : m ≤ n)
    (hstop : ∀ node, stop ≠ .tooLong node) :
    fin.Agrees fin' ∧ fin'.flow.status = fin.flow.status := by
  obtain ⟨hsteps, hcontext, rfl⟩ := (h.stops.mono (by simp only [withLimit]; omega) hstop).unique h'.stops
  have hsuccess : fin'.record.success = fin.record.success := by
    rw [Bool.eq_iff_iff, h.success, h'.success]
  refine ⟨⟨hsteps.symm, ?_, hsuccess, ?_, ?_⟩, ?_⟩
  · rw [h.output, h'.output, hcontext]
  · rw [h.error, h'.error]
    exact stopFailure_congr hstop _ _
  · exact hcontext.symm
  · rw [h.status, h'.status, hsuccess]

/-- **The limit only truncates.**  Of two runs of a flow with the same context, the one with the
smaller limit takes the first steps of the other, as many as it may; and if its record does not say
that it has exceeded its limit, both have the same steps, output, success, error and context and
leave the flow with the same status.  Under every limit a run takes no more steps than it may, and
its record says that it has exceeded the limit if the limit is used up and the last step leads on to
another node, or if the handler of the node that is due fails so by itself, and only then.  No built-in
handler fails so. -/
theorem limit_only_truncates (handlers : Registry) {m n : Nat} (hmn : m ≤ n) {flow : Flow}
    (hv : flow.validate = .ok ()) (htrig : flow.trigger?.isSome) (ctx : Context) :
    let fin (limit : Nat) (w : World) :=
      (World.run ((withLimit handlers limit).run flow ctx) w).1
    (∀ limit w, Limits handlers flow ctx limit (fin limit w)) ∧
      (∀ agents settings, handlers = .builtin agents settings → ∀ limit w,
        ((fin limit w).record.Exceeds ↔ (fin limit w).record.steps.length = max limit 1 ∧
          ∃ v, LeadsTo flow.graph (fin limit w).record.steps v)) ∧
      ∀ w w', (fin m w).record.steps = (fin n w').record.steps.take (max m 1) ∧
        (¬ (fin m w).record.Exceeds → (fin m w).Agrees (fin n w') ∧
          (fin n w').flow.status = (fin m w).flow.status) := by
  intro fin
  have hwalks : ∀ limit w, ∃ stop, Walks (withLimit handlers limit) flow ctx (fin limit w) stop :=
    fun limit w => exists_walks (withLimit handlers limit) hv htrig ctx w
  refine ⟨fun limit w => ?_, ?_, fun w w' => ?_⟩
  · obtain ⟨stop, h⟩ := hwalks limit w
    exact h.limits
  · rintro agents settings rfl limit w
    obtain ⟨stop, h⟩ := hwalks limit w
    exact h.limits.exceeds_iff_builtin
  · obtain ⟨stop, h⟩ := hwalks m w
    obtain ⟨stop', h'⟩ := hwalks n w'
    -- a walk that stops under the smaller limit is cut off from the other one
    refine ⟨h.stops.eq_take h'.stops (by simp only [withLimit]; omega), fun hex => ?_⟩
    refine h.agrees h' hmn ?_
    rintro node rfl
    exact hex ⟨_, h.error, rfl⟩

/-- On the treadmill a run that may take no step takes one, and says that it has exceeded its limit;
that one step is also the first of three. -/
theorem limit_only_truncates_treadmill :
    let fin (limit : Nat) := (World.run ((withLimit .empty limit).run treadmill ⟨.str "payload", []⟩)
      (World.start (.memory .empty) ⟨0, 0⟩)).1
    treadmill.validate = .ok () ∧ treadmill.trigger?.isSome ∧
      (fin 0).record.steps = (fin 3).record.steps.take 1 ∧ (fin 0).record.Exceeds := by
  intro fin
  have hv : treadmill.validate = .ok () := by decide
  have htrig : treadmill.trigger?.isSome := by decide
  obtain ⟨hlimits, -, htake⟩ :=
    limit_only_truncates .empty (by decide : 0 ≤ 3) hv htrig ⟨.str "payload", []⟩
  have hsteps : (fin 0).record.steps
      = [⟨"start", "trigger", some (.str "payload"), some "next"⟩] := by rfl
  refine ⟨hv, htrig, (htake _ _).1, (hlimits 0 _).exceeds_iff.mpr (.inl ?_)⟩
  show (fin 0).record.steps.length = 1 ∧ _
  rw [hsteps]
  exact ⟨rfl, _, _, rfl, rfl⟩

/-- A handler that fails as if it had taken too many steps. -/
def impatient : Registry := Registry.empty.register "pass" (.prompt fun _ _ => .error (.maxSteps 1))

/-- With it the record of a run on the treadmill says that the limit is exceeded, after one step of ten
that are allowed. -/
theorem limit_only_truncates_impatient :
    ¬ ∀ (handlers : Registry) (limit : Nat) (flow : Flow) (ctx : Context) (w : World),
      flow.validate = .ok () → flow.trigger?.isSome →
      let fin := (World.run ((withLimit handlers limit).run flow ctx) w).1
      (fin.record.Exceeds ↔ fin.record.steps.length = max limit 1 ∧
        ∃ v, LeadsTo flow.graph fin.record.steps v) := by
  intro h
  let fin := (World.run ((withLimit impatient 10).run treadmill ⟨.str "payload", []⟩)
    (World.start (.memory .empty) ⟨0, 0⟩)).1
  have hiff : fin.record.Exceeds ↔ fin.record.steps.length = 10 ∧ _ :=
    h impatient 10 treadmill ⟨.str "payload", []⟩ _ (by decide) (by decide)
  have hexceeds : fin.record.Exceeds := ⟨_, rfl, rfl⟩
  have hsteps : fin.record.steps.length = 1 := by rfl
  obtain ⟨hten, -⟩ := hiff.mp hexceeds
  omega

end Executor

end Flowgraph
