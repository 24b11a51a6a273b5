import Flowgraph.Handler.Registry
import Flowgraph.Proofs.Except

/-!
# What the built-in handlers have in common

No built-in handler changes the payload or a variable, and whatever fault one ends with is about its
own node (`Handler.Tame`).  This is shown for each of the built-in types (`Handler.tame_ofType`), and then for
whatever handler the built-in registry gives a type (`Registry.tame_builtin_get`).
-/

namespace Flowgraph

namespace Handler

/-- **The faults with which the handler of a node may fail.** -/
inductive FailsBy (node : Node) : Fault → Prop
  | badData (cause : DecodeError) : FailsBy node (.handlerFailure node.id (.badData node.type cause))
  | badDelay (seconds : Extended .double) :
      FailsBy node (.handlerFailure node.id (.badDelay seconds))
  | described (text : String) : FailsBy node (.handlerFailure node.id (.described text))
  | timeout (seconds : Nat) : FailsBy node (.handlerTimeout node.id seconds)

/-- **What all built-in handlers have in common.** -/
structure Tame (h : Handler) : Prop where
  context : ∀ node ctx, (h node ctx).context = ctx
  result : ∀ node ctx fault, (h node ctx).result = .error fault → FailsBy node fault

variable {node : Node} {fault : Fault}

/-- Data that does not decode is told of its node. -/
theorem failsBy_of_dataOf {α : Type} {d : Decoder α} (h : dataOf node d = .error fault) :
    FailsBy node fault := by
  obtain ⟨cause, -, rfl⟩ := mapError_eq_error_iff.mp h
  exact .badData cause

/-- A handler that reads the data of its node and then cannot fail. -/
theorem failsBy_of_bind {α : Type} {d : Decoder α} {f : α → Outcome}
    (h : (do return f (← dataOf node d)) = Except.error fault) : FailsBy node fault := by
  rcases bind_eq_error_iff.mp h with h | ⟨a, -, h⟩
  · exact failsBy_of_dataOf h
  · exact nomatch h

theorem tame_passThrough : Tame passThrough := ⟨fun _ _ => rfl, fun _ _ _ h => nomatch h⟩

theorem tame_end : Tame «end» := ⟨fun _ _ => rfl, fun _ _ _ h => nomatch h⟩

theorem tame_message : Tame message where
  context _ _ := rfl
  result _ _ _ h := by
    unfold message prompt at h
    exact failsBy_of_bind h

theorem tame_tag : Tame tag where
  context _ _ := rfl
  result _ _ _ h := by
    unfold tag prompt at h
    exact failsBy_of_bind h

theorem tame_condition : Tame condition where
  context _ _ := rfl
  result _ _ _ h := by
    unfold condition prompt at h
    exact failsBy_of_bind h

theorem tame_delay (standard : Extended .double) : Tame (delay standard) where
  context node ctx := by
    unfold delay
    dsimp only
    split <;> rfl
  result node ctx fault h := by
    unfold delay at h
    dsimp only at h
    split at h
    · exact nomatch h
    · next e hspan =>
      obtain rfl := Except.error.inj h
      -- either the data of the node is none, or the time it asks for is too long to wait
      rcases bind_eq_error_iff.mp hspan with hspan | ⟨given, -, hspan⟩
      · exact failsBy_of_dataOf hspan
      · split at hspan
        · exact nomatch hspan
        · obtain rfl := Except.error.inj hspan
          exact .badDelay _

theorem tame_agent (agents : Directory) (timeout : Nat) : Tame (agent agents timeout) where
  context node ctx := by
    unfold agent
    split
    · rfl
    · split
      · rfl
      · dsimp only
        split <;> rfl
  result node ctx fault h := by
    unfold agent at h
    split at h
    · next e hd =>
      obtain rfl := Except.error.inj h
      exact failsBy_of_dataOf hd
    · split at h
      · exact nomatch h
      · next a _ =>
        -- the agent has replied in time, with a text or a fault of its own, or it has not
        dsimp only at h
        split at h
        · cases hreply : a.reply ctx.text with
          | ok text => rw [hreply] at h; exact nomatch h
          | error e =>
            rw [hreply] at h
            obtain rfl := Except.error.inj h
            exact .described _
        · obtain rfl := Except.error.inj h
          exact .timeout _

/-- **Every built-in handler is tame.** -/
theorem tame_ofType (agents : Directory) (settings : Settings) (t : NodeType) :
    Tame (ofType agents settings t) := by
  cases t with
  | trigger => exact tame_passThrough
  | message => exact tame_message
  | condition => exact tame_condition
  | agent => exact tame_agent agents settings.agentTimeout
  | delay => exact tame_delay settings.defaultDelay
  | tag => exact tame_tag
  | «end» => exact tame_end

end Handler

/-! ### Handlers of a registry -/

namespace Registry

variable {entries : List (String × Handler)} {type : String} {h : Handler}

theorem forall_place {p : Handler → Prop} (hh : p h) (he : ∀ e ∈ entries, p e.2) :
    ∀ e ∈ place type h entries, p e.2 := by
  induction entries with
  | nil =>
    intro e hmem
    rw [place, List.mem_singleton] at hmem
    exact hmem ▸ hh
  | cons entry rest ih =>
    obtain ⟨hentry, hrest⟩ := List.forall_mem_cons.mp he
    unfold place
    split
    · exact List.forall_mem_cons.mpr ⟨hh, he⟩
    · split
      · exact List.forall_mem_cons.mpr ⟨hh, hrest⟩
      · exact List.forall_mem_cons.mpr ⟨hentry, ih hrest⟩

/-- **What holds of each built-in handler, and of the one that hands the payload on, holds of every
handler of the built-in registry.** -/
theorem forall_builtin_get {p : Handler → Prop} {agents : Directory} {settings : Settings}
    (htypes : ∀ t, p (Handler.ofType agents settings t)) (hpass : p Handler.passThrough)
    (type : String) : p ((builtin agents settings).get type) := by
  have hfold : ∀ (types : List NodeType) (r : Registry), (∀ e ∈ r.entries, p e.2) →
      ∀ e ∈ (types.foldl (fun r t => r.register t.name (Handler.ofType agents settings t))
        r).entries, p e.2 := by
    intro types
    induction types with
    | nil => exact fun _ hr => hr
    | cons t rest ih => exact fun r hr => ih _ (forall_place (htypes t) hr)
  unfold get
  cases hfind : (builtin agents settings).entries.find? (·.1 == type) with
  | some e => exact hfold NodeType.all empty nofun e (List.mem_of_find?_eq_some hfind)
  | none => exact hpass

/-- **Every handler of the built-in registry is tame**, also that of an unknown type. -/
theorem tame_builtin_get (agents : Directory) (settings : Settings) (type : String) :
    ((builtin agents settings).get type).Tame :=
  forall_builtin_get (Handler.tame_ofType agents settings) Handler.tame_passThrough type

end Registry

end Flowgraph
