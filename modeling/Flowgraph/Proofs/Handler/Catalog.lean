import Flowgraph.Handler.Catalog
import Flowgraph.Proofs.Handler.Builtin
import Flowgraph.Proofs.Run.Walk
import Flowgraph.Proofs.Session.Alone

/-!
# The built-in handlers keep to the catalog

The catalog tells an editor by which ports edges may leave a node of each type.  Each built-in
handler keeps to its entry (`Handler.keeps_ofType`), and the built-in registry gives each type of the
catalog its handler and any other type the one that hands the payload on (`Registry.get_builtin`,
`Registry.get_builtin_of_unknown`).

Together with what all built-in handlers have in common, this is what whoever runs a node may rely on
(`Registry.builtin_keeps_catalog`), at whatever time the run is cancelled.
-/

namespace Flowgraph

/-! ### Types by name -/

namespace NodeType

variable {s : String} {t : NodeType}

theorem mem_all (t : NodeType) : t ∈ all := by cases t <;> decide

theorem name_of_ofName? (h : ofName? s = some t) : t.name = s := by
  unfold ofName? at h
  simpa using List.find?_some h

theorem name_ne_of_ofName? (h : ofName? s = none) (t : NodeType) : t.name ≠ s := by
  have hne := List.find?_eq_none.mp h t t.mem_all
  simpa using hne

/-- A type of the catalog has its entry. -/
theorem lookup_of_ofName? (h : ofName? s = some t) : Catalog.lookup s = some (Catalog.entry t) := by
  rw [Catalog.lookup, h, Option.map_some]

/-- An unknown type has no entry. -/
theorem lookup_of_unknown (h : ofName? s = none) : Catalog.lookup s = none := by
  rw [Catalog.lookup, h, Option.map_none]

/-- The built-in types whose nodes hand on the payload that they get. -/
def handingOn : List NodeType := [trigger, condition, delay, «end»]

theorem mem_handingOn_of_name (h : t.name ∈ ["trigger", "condition", "delay", "end"]) :
    t ∈ handingOn := by
  revert h
  cases t <;> decide

end NodeType

namespace Registry

variable {agents : Directory} {settings : Settings}

theorem find?_place (type type' : String) (h : Handler) (entries : List (String × Handler)) :
    (place type h entries).find? (·.1 == type')
      = if type = type' then some (type, h) else entries.find? (·.1 == type') := by
  induction entries with
  | nil => by_cases heq : type = type' <;> simp [place, heq]
  | cons entry rest ih =>
    obtain ⟨t, g⟩ := entry
    unfold place
    split
    · by_cases heq : type = type' <;> simp [heq]
    · split
      · next _ ht =>
        subst ht
        by_cases heq : type = type' <;> simp [heq]
      · next _ ht =>
        rw [List.find?_cons, List.find?_cons, ih]
        cases htype' : t == type' with
        | false => rfl
        | true =>
          -- the entry is that of the type asked for, so this is not the one registered
          have hne : type ≠ type' := fun heq => ht (heq.trans (eq_of_beq htype').symm)
          exact (if_neg hne).symm

/-- **The last registration of a type counts**, and no other type is touched by it. -/
theorem get_register (r : Registry) (type type' : String) (h : Handler) :
    (r.register type h).get type' = if type = type' then h else r.get type' := by
  unfold get register
  rw [find?_place]
  by_cases heq : type = type' <;> simp [heq]

/-- **A built-in type has its handler.** -/
theorem get_builtin (t : NodeType) :
    (builtin agents settings).get t.name = Handler.ofType agents settings t := by
  cases t <;> simp [builtin, NodeType.all, get_register, NodeType.name]

/-- **Any other type has the handler that hands the payload on.** -/
theorem get_builtin_of_unknown {type : String} (h : NodeType.ofName? type = none) :
    (builtin agents settings).get type = Handler.passThrough := by
  simp only [builtin, NodeType.all, List.foldl, get_register, NodeType.name_ne_of_ofName? h, if_false]
  rfl

end Registry

/-! ### What comes of a node -/

namespace Handler

variable {node : Node} {ctx : Context} {o : Outcome}

/-- **An outcome keeps to an entry of the catalog**: it has an output, and the port is one of those
that the entry lists, or none if it lists none. -/
structure Keeps (e : Catalog.Entry) (o : Outcome) : Prop where
  output : o.output.isSome
  port : (e.outputs = [] ∧ o.port = none) ∨ ∃ port ∈ e.outputs, o.port = some port

section Keeps

variable {e : Catalog.Entry}

theorem keeps_through {port : String} (h : port ∈ e.outputs) (output : Json) :
    Keeps e (.through port output) :=
  ⟨rfl, .inr ⟨port, h, rfl⟩⟩

theorem Keeps.port_eq_none_iff (h : Keeps e o) : o.port = none ↔ e.outputs = [] := by
  rcases h.port with ⟨hnil, hnone⟩ | ⟨port, hmem, hsome⟩
  · simp [hnil, hnone]
  · simp [hsome, List.ne_nil_of_mem hmem]

theorem Keeps.mem_outputs (h : Keeps e o) {port : String} (hport : o.port = some port) :
    port ∈ e.outputs := by
  rcases h.port with ⟨-, hnone⟩ | ⟨port', hmem, hsome⟩
  · exact nomatch hport.symm.trans hnone
  · exact Option.some.inj (hport.symm.trans hsome) ▸ hmem

end Keeps

/-- A handler that reads the data of its node and then cannot fail. -/
theorem exists_of_bind {α : Type} {d : Decoder α} {f : α → Outcome}
    (h : (do return f (← dataOf node d)) = Except.ok o) : ∃ a, o = f a := by
  obtain ⟨a, -, ha⟩ := bind_eq_ok_iff.mp h
  exact ⟨a, (Except.ok.inj ha).symm⟩

theorem message_eq_ok (h : (message node ctx).result = .ok o) : ∃ output, o = .next output := by
  unfold message prompt at h
  obtain ⟨template, rfl⟩ := exists_of_bind h
  exact ⟨_, rfl⟩

theorem tag_eq_ok (h : (tag node ctx).result = .ok o) : ∃ output, o = .next output := by
  unfold tag prompt at h
  obtain ⟨label, rfl⟩ := exists_of_bind h
  exact ⟨_, rfl⟩

theorem condition_eq_ok (h : (condition node ctx).result = .ok o) :
    ∃ holds : Bool, o = .through (if holds then Port.holds else Port.fails) ctx.input := by
  unfold condition prompt at h
  obtain ⟨⟨name, value, _⟩, rfl⟩ := exists_of_bind h
  exact ⟨_, rfl⟩

theorem delay_eq_ok {standard : Extended .double} (h : (delay standard node ctx).result = .ok o) :
    o = .next ctx.input := by
  unfold delay at h
  dsimp only at h
  split at h
  · exact (Except.ok.inj h).symm
  · exact nomatch h

theorem agent_eq_ok {agents : Directory} {timeout : Nat}
    (h : (agent agents timeout node ctx).result = .ok o) :
    ∃ output, o = .through Port.response output := by
  unfold agent at h
  split at h
  · exact nomatch h
  · split at h
    · exact ⟨_, (Except.ok.inj h).symm⟩
    · next a _ =>
      dsimp only at h
      split at h
      · cases hreply : a.reply ctx.text with
        | ok text =>
          rw [hreply] at h
          exact ⟨_, (Except.ok.inj h).symm⟩
        | error e =>
          rw [hreply] at h
          exact nomatch h
      · exact nomatch h

/-- **Each built-in handler keeps to its entry of the catalog**, and hands on the payload if its type
is one of those that do. -/
theorem keeps_ofType {agents : Directory} {settings : Settings} {t : NodeType}
    (h : (ofType agents settings t node ctx).result = .ok o) :
    Keeps (Catalog.entry t) o ∧ (t ∈ NodeType.handingOn → o.output = some ctx.input) := by
  cases t with
  | trigger =>
    obtain rfl := Except.ok.inj h
    exact ⟨keeps_through (by decide) _, fun _ => rfl⟩
  | message =>
    obtain ⟨output, rfl⟩ := message_eq_ok h
    exact ⟨keeps_through (by decide) _, fun ht => absurd ht (by decide)⟩
  | condition =>
    obtain ⟨holds, rfl⟩ := condition_eq_ok h
    exact ⟨keeps_through (by cases holds <;> decide) _, fun _ => rfl⟩
  | agent =>
    obtain ⟨output, rfl⟩ := agent_eq_ok h
    exact ⟨keeps_through (by decide) _, fun ht => absurd ht (by decide)⟩
  | delay =>
    obtain rfl := delay_eq_ok h
    exact ⟨keeps_through (by decide) _, fun _ => rfl⟩
  | tag =>
    obtain ⟨output, rfl⟩ := tag_eq_ok h
    exact ⟨keeps_through (by decide) _, fun ht => absurd ht (by decide)⟩
  | «end» =>
    obtain rfl := Except.ok.inj h
    exact ⟨⟨rfl, .inl ⟨rfl, rfl⟩⟩, fun _ => rfl⟩

/-- **The fault of a node is told with its id.** -/
theorem FailsBy.names {fault : Fault} (h : FailsBy node fault) :
    (∃ cause, fault = .handlerFailure node.id cause) ∨
      ∃ seconds, fault = .handlerTimeout node.id seconds := by
  cases h with
  | badData cause => exact .inl ⟨_, rfl⟩
  | badDelay seconds => exact .inl ⟨_, rfl⟩
  | described text => exact .inl ⟨_, rfl⟩
  | timeout seconds => exact .inr ⟨_, rfl⟩

end Handler

/-! ### Executing the handler of a node -/

/-- What comes of a reaction is its result, unless it is cancelled while it waits. -/
theorem Reaction.runAlone_settle (r : Reaction) (cancelAt : Option Nat) (w : World) :
    (World.runAlone cancelAt r.settle w).1 = r.result ∨
      (World.runAlone cancelAt r.settle w).1 = .error .cancelled := by
  rcases settle_cases (World.completes_transcript cancelAt r.settle w) with
    ⟨-, -, h⟩ | ⟨-, -, h⟩ | ⟨-, -, h⟩
  · exact .inl h
  · exact .inl h
  · exact .inr h

namespace Registry

/-- **Executes the handler of a node**, with nothing else going on: what comes of it, and the context
that it leaves.  Whoever runs the node puts the output in place of the payload. -/
def execute (r : Registry) (node : Node) (ctx : Context) (cancelAt : Option Nat) (w : World) :
    Except Fault Outcome × Context :=
  let reaction := r.get node.type node ctx
  ((World.runAlone cancelAt reaction.settle w).1, reaction.context)

/-- A handler that succeeds has not been cancelled. -/
theorem result_of_execute {r : Registry} {node : Node} {ctx : Context} {cancelAt : Option Nat}
    {w : World} {o : Outcome} (h : (r.execute node ctx cancelAt w).1 = .ok o) :
    (r.get node.type node ctx).result = .ok o := by
  rcases Reaction.runAlone_settle (r.get node.type node ctx) cancelAt w with hres | hres
  · exact hres.symm.trans h
  · exact nomatch hres.symm.trans h

/-- **The built-in handlers keep to the catalog and leave the context as it is.**  Whatever the type
of a node, its id, its data and the context, and whenever the run is cancelled: payload and variables
stay as they are.  A node that succeeds has an output; it chooses no port exactly if the catalog
lists none for its type, and otherwise one of those that are listed, or the usual one if the type is
unknown; and nodes that only direct the run hand their payload on.  A node that fails has failed by
itself or is cancelled. -/
theorem builtin_keeps_catalog (agents : Directory) (settings : Settings) (node : Node)
    (ctx : Context) (cancelAt : Option Nat) (w : World) :
    let (res, left) := (builtin agents settings).execute node ctx cancelAt w
    left = ctx ∧
      (∀ o, res = .ok o →
        o.output.isSome ∧
        (o.port = none ↔ ∃ e, Catalog.lookup node.type = some e ∧ e.outputs = []) ∧
        (∀ e port, Catalog.lookup node.type = some e → o.port = some port → port ∈ e.outputs) ∧
        (Catalog.lookup node.type = none → o.port = some Port.next) ∧
        (node.type ∈ ["trigger", "condition", "delay", "end"] ∨ Catalog.lookup node.type = none →
          o.output = some ctx.input)) ∧
      ∀ fault, res = .error fault →
        (∃ cause, fault = .handlerFailure node.id cause) ∨
          (∃ seconds, fault = .handlerTimeout node.id seconds) ∨ fault = .cancelled := by
  have htame := tame_builtin_get agents settings node.type
  refine ⟨htame.context node ctx, fun o ho => ?_, fun fault hfault => ?_⟩
  · -- the node has not been cancelled, so this is the outcome of the handler of its type
    have hresult := result_of_execute ho
    cases htype : NodeType.ofName? node.type with
    | none =>
      rw [get_builtin_of_unknown htype] at hresult
      -- a type that is not known hands on what has come in
      obtain rfl := Except.ok.inj hresult
      simp [NodeType.lookup_of_unknown htype, Outcome.next, Outcome.through]
    | some t =>
      have hname := NodeType.name_of_ofName? htype
      rw [← hname, get_builtin] at hresult
      obtain ⟨hkeeps, hhands⟩ := Handler.keeps_ofType hresult
      rw [NodeType.lookup_of_ofName? htype]
      refine ⟨hkeeps.output, ?_, ?_, nofun, ?_⟩
      · simpa using hkeeps.port_eq_none_iff
      · rintro e port heq hport
        exact Option.some.inj heq ▸ hkeeps.mem_outputs hport
      · rintro (hmem | hunknown)
        · exact hhands (NodeType.mem_handingOn_of_name (hname ▸ hmem))
        · exact nomatch hunknown
  · -- a fault is that of the handler, which names the node, or the wait has been cut short
    rcases Reaction.runAlone_settle ((builtin agents settings).get node.type node ctx) cancelAt w
      with hres | hres
    · have hfails := htame.result _ _ _ (hres.symm.trans hfault)
      exact hfails.names.imp_right .inl
    · exact .inr (.inr (Except.error.inj (hfault.symm.trans hres)))

/-- An agent that is cancelled while it thinks. -/
example : ((builtin (.ofList [.slow "sage" 300]) .standard).execute
    ⟨"ask", "agent", Json.ofMembers [("agent_id", .str "sage")], .origin⟩ ⟨.str "why", []⟩ (some 100)
    (World.start (.memory .empty) ⟨0, 0⟩)).1 = .error .cancelled := by
  rfl

end Registry

end Flowgraph
