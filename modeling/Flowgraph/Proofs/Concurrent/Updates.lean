import Flowgraph.Proofs.Concurrent.System
import Flowgraph.Proofs.Store.Slot

/-!
# Updates that go on at the same time

An update loads a flow, makes another of it and stores that as a whole, with the fields that it leaves
out as they were loaded.  What another update has stored in the meantime is gone then.

Every version of a flow that is stored is made from one that could be read at some time before
(`Slot.History`), and what stands in the store is the newest version.  This is what every step
preserves (`System.Versioned`), for any number of updates.  Of two updates the last one is made either
from what the first one has stored, and then the flow carries both, or from what was there before
(`System.updates_carried_or_lost`).
-/

namespace Flowgraph

open Interaction (after_ask_iff after_done_iff)

/-! ### What an update carries into a flow -/

namespace Update

/-- **A flow carries what an update gives.**  A blank name is none. -/
structure CarriedBy (u : Update) (f : Flow) : Prop where
  name : ∀ n, u.name = some n → Text.isBlank n = false → f.name = n
  description : ∀ d, u.description = some d → f.description = d
  nodes : ∀ specs, u.nodes = some specs → specs.mapM Node.ofSpec = .ok f.graph.nodes
  edges : ∀ specs, u.edges = some specs → specs.mapM Edge.ofSpec = .ok f.graph.edges

/-- **No field is given by both** of two updates. -/
structure Apart (u v : Update) : Prop where
  name : u.name = none ∨ v.name = none
  description : u.description = none ∨ v.description = none
  nodes : u.nodes = none ∨ v.nodes = none
  edges : u.edges = none ∨ v.edges = none

variable {u v : Update} {f f' : Flow}

theorem half_eq_ok {α : Type} {read : Json → Except GraphFault α} {kept items : List α}
    {specs : List Json} (h : half read kept (some specs) = .ok items) :
    specs.mapM read = .ok items := mapError_eq_ok_iff.mp h

/-- **What an update makes of each field.** -/
theorem apply_fields (h : u.apply f = .ok f') :
    f'.name = (u.name.filter fun n => !Text.isBlank n).getD f.name ∧
      f'.description = u.description.getD f.description ∧
      half Node.ofSpec f.graph.nodes u.nodes = .ok f'.graph.nodes ∧
      half Edge.ofSpec f.graph.edges u.edges = .ok f'.graph.edges := by
  rcases apply_cases h with ⟨hnodes, hedges, rfl⟩ | ⟨g, hnodes, hedges, -, rfl⟩
  · refine ⟨rfl, rfl, ?_, ?_⟩
    · rw [hnodes]
      rfl
    · rw [hedges]
      rfl
  · exact ⟨rfl, rfl, hnodes, hedges⟩

/-- The flow that an update has made carries it. -/
theorem carriedBy_of_apply (h : u.apply f = .ok f') : u.CarriedBy f' := by
  obtain ⟨hname, hdescription, hnodes, hedges⟩ := apply_fields h
  -- field by field: what is given is what is made
  constructor
  · intro n hn hblank
    rw [hname, hn, Option.filter_some, hblank]
    rfl
  · intro d hd
    rw [hdescription, hd]
    rfl
  · intro specs hspecs
    rw [hspecs] at hnodes
    exact half_eq_ok hnodes
  · intro specs hspecs
    rw [hspecs] at hedges
    exact half_eq_ok hedges

/-- **What a flow carries it keeps** through an update that gives other fields. -/
theorem CarriedBy.apply (hu : u.CarriedBy f) (hv : v.apply f = .ok f') (h : u.Apart v) :
    u.CarriedBy f' := by
  obtain ⟨hname, hdescription, hnodes, hedges⟩ := apply_fields hv
  -- field by field: what the first update gives the second one leaves as it is
  constructor
  · intro n hn hblank
    rw [hname, h.name.resolve_left (by simp [hn])]
    exact hu.name n hn hblank
  · intro d hd
    rw [hdescription, h.description.resolve_left (by simp [hd])]
    exact hu.description d hd
  · intro specs hspecs
    rw [h.nodes.resolve_left (by simp [hspecs])] at hnodes
    rw [hu.nodes specs hspecs, Except.ok.inj hnodes]
  · intro specs hspecs
    rw [h.edges.resolve_left (by simp [hspecs])] at hedges
    rw [hu.edges specs hspecs, Except.ok.inj hedges]

/-- It is the definition that carries an update. -/
theorem CarriedBy.of_definition (hu : u.CarriedBy f)
    (h : f'.name = f.name ∧ f'.description = f.description ∧ f'.graph = f.graph) :
    u.CarriedBy f' := by
  obtain ⟨hname, hdescription, hgraph⟩ := h
  exact ⟨fun n hn hb => hname.trans (hu.name n hn hb),
    fun d hd => hdescription.trans (hu.description d hd),
    fun specs hs => hgraph ▸ hu.nodes specs hs, fun specs hs => hgraph ▸ hu.edges specs hs⟩

end Update

/-! ### Where an update stands -/

/-- **Where an update stands**: its transcript, and what is left of it. -/
inductive Updating (id : String) (u : Update) :
    Transcript → Operation (Except Fault Reply) → Prop
  | begun : Updating id u [] (Call.update id u).operation
  /-- It has made a new flow of the one that it has loaded. -/
  | loaded {g f : Flow} (h : u.apply g = .ok f) :
      Updating id u [⟨.get id, .ok (some g)⟩]
        (.ask (.update f) fun stored => (Flows.reload id stored).reply .flow)
  /-- It has stored the new flow. -/
  | stored {g f : Flow} (h : u.apply g = .ok f) :
      Updating id u [⟨.get id, .ok (some g)⟩, ⟨.update f, .ok true⟩] ((Flows.get id).reply .flow)
  /-- It has loaded the flow again for its reply. -/
  | replied {g f : Flow} (h : u.apply g = .ok f) (again : Except Fault (Option Flow)) :
      Updating id u [⟨.get id, .ok (some g)⟩, ⟨.update f, .ok true⟩, ⟨.get id, again⟩]
        (.done ((Flows.found id again).map .flow))
  | notLoaded (found : Except Fault (Option Flow)) (fault : Fault) :
      Updating id u [⟨.get id, found⟩] (.done (.error fault))
  | notStored {g f : Flow} (h : u.apply g = .ok f) (stored : Except Fault Bool) (fault : Fault) :
      Updating id u [⟨.get id, .ok (some g)⟩, ⟨.update f, stored⟩] (.done (.error fault))

theorem Call.update_operation (id : String) (u : Update) :
    (Call.update id u).operation = .ask (.get id) fun found =>
      (Flows.amend id u found).reply .flow := by
  show Interaction.bind (Flows.update id u).run _ = _
  rw [Flows.update_run]
  rfl

theorem Flows.get_reply (id : String) :
    (Flows.get id).reply .flow = .ask (.get id) fun a => .done ((found id a).map .flow) := by
  show Interaction.bind (Flows.get id).run _ = _
  rw [get_run]
  rfl

/-- What an update goes on to do with the flow that it has loaded. -/
theorem Flows.amend_reply {id : String} {u : Update} {g f : Flow} (h : u.apply g = .ok f) :
    (amend id u (.ok (some g))).reply .flow
      = .ask (.update f) fun stored => (reload id stored).reply .flow := by
  show Interaction.bind (amend id u (.ok (some g))).run _ = _
  rw [amend_run h]
  rfl

theorem Flows.amend_reply_of_error {id : String} {u : Update} {g : Flow} {e : Fault}
    (h : u.apply g = .error e) :
    (amend id u (.ok (some g))).reply .flow = .done (.error e) := by
  show Interaction.bind (amend id u (.ok (some g))).run _ = _
  simp only [amend, h]
  rfl

section Stages

variable {id : String} {u : Update} {g f : Flow} {past : Transcript}
  {rest : Operation (Except Fault Reply)}

/-- Behind the new flow there is nothing but to load it again. -/
theorem Updating.of_reload (h : u.apply g = .ok f) {stored : Except Fault Bool}
    (hafter : ((Flows.reload id stored).reply .flow).After past rest) :
    Updating id u (⟨.get id, .ok (some g)⟩ :: ⟨.update f, stored⟩ :: past) rest := by
  -- the reply fails, or the flow is loaded again for it
  match stored with
  | .error e =>
    obtain ⟨rfl, rfl⟩ := after_done_iff.mp hafter
    exact .notStored h _ _
  | .ok false =>
    obtain ⟨rfl, rfl⟩ := after_done_iff.mp hafter
    exact .notStored h _ _
  | .ok true =>
    change ((Flows.get id).reply .flow).After past rest at hafter
    rw [Flows.get_reply] at hafter
    rcases after_ask_iff.mp hafter with ⟨rfl, rfl⟩ | ⟨again, past', rfl, hdone⟩
    · rw [← Flows.get_reply]
      exact .stored h
    · obtain ⟨rfl, rfl⟩ := after_done_iff.mp hdone
      exact .replied h again

theorem Updating.of_amend {found : Except Fault (Option Flow)}
    (hafter : ((Flows.amend id u found).reply .flow).After past rest) :
    Updating id u (⟨.get id, found⟩ :: past) rest := by
  -- an update goes on only with a flow that it can be applied to
  match found with
  | .error e =>
    obtain ⟨rfl, rfl⟩ := after_done_iff.mp hafter
    exact .notLoaded _ _
  | .ok none =>
    obtain ⟨rfl, rfl⟩ := after_done_iff.mp hafter
    exact .notLoaded _ _
  | .ok (some g) =>
    cases happly : u.apply g with
    | error e =>
      rw [Flows.amend_reply_of_error happly] at hafter
      obtain ⟨rfl, rfl⟩ := after_done_iff.mp hafter
      exact .notLoaded _ _
    | ok f =>
      rw [Flows.amend_reply happly] at hafter
      rcases after_ask_iff.mp hafter with ⟨rfl, rfl⟩ | ⟨stored, past', rfl, hreload⟩
      · exact .loaded happly
      · exact .of_reload happly hreload

/-- **An update stands somewhere** on its way. -/
theorem Task.Sound.updating {t : Task} (ht : t.Sound) (hcall : t.call = .update id u) :
    Updating id u t.past t.rest := by
  have hafter := ht.after
  rw [hcall, Call.update_operation] at hafter
  rcases after_ask_iff.mp hafter with ⟨hpast, hrest⟩ | ⟨found, past, hpast, hamend⟩
  · rw [hpast, hrest, ← Call.update_operation]
    exact .begun
  · rw [hpast]
    exact .of_amend hamend

/-- **What an update asks for** next, and what it has behind it then. -/
theorem Updating.asks {q : Request} {next : q.Answer → Operation (Except Fault Reply)}
    (h : Updating id u past rest) (hrest : rest = .ask q next) :
    (past = [] ∧ q = .get id) ∨
      (∃ g f, past = [⟨.get id, .ok (some g)⟩] ∧ u.apply g = .ok f ∧ q = .update f) ∨
      ∃ g f, past = [⟨.get id, .ok (some g)⟩, ⟨.update f, .ok true⟩] ∧ q = .get id := by
  -- at three points a request is next
  cases h with
  | begun =>
    rw [Call.update_operation] at hrest
    exact .inl ⟨rfl, (Interaction.ask.inj hrest).1.symm⟩
  | loaded h => exact .inr (.inl ⟨_, _, rfl, h, (Interaction.ask.inj hrest).1.symm⟩)
  | stored h =>
    rw [Flows.get_reply] at hrest
    exact .inr (.inr ⟨_, _, rfl, (Interaction.ask.inj hrest).1.symm⟩)
  | replied => exact nomatch hrest
  | notLoaded => exact nomatch hrest
  | notStored => exact nomatch hrest

/-- An update that has replied a flow has stored one. -/
theorem Updating.of_reply {r : Reply} (h : Updating id u past rest) (hrest : rest = .done (.ok r)) :
    ∃ g f again, past = [⟨.get id, .ok (some g)⟩, ⟨.update f, .ok true⟩, ⟨.get id, again⟩] := by
  -- only behind the last request is there a reply
  cases h with
  | begun =>
    rw [Call.update_operation] at hrest
    exact nomatch hrest
  | loaded h => exact nomatch hrest
  | stored h =>
    rw [Flows.get_reply] at hrest
    exact nomatch hrest
  | replied h again => exact ⟨_, _, again, rfl⟩
  | notLoaded => exact nomatch hrest
  | notStored => exact nomatch hrest

end Stages

/-! ### Versions -/

/-- **A version of a flow** that has been stored: what an update has made of the flow that it has
loaded. -/
structure Version where
  change : Update
  base : Flow
  made : Flow

/-- The version that a call has stored, if it has stored one. -/
def Task.versions (t : Task) : List Version :=
  match t.call, t.past with
  | .update _ u, ⟨.get _, .ok (some g)⟩ :: ⟨.update f, .ok true⟩ :: _ => [⟨u, g, f⟩]
  | _, _ => []

/-- A call has replied, and has not failed. -/
def Task.hasReplied : Task → Bool
  | ⟨_, _, _, .done (.ok _)⟩ => true
  | _ => false

theorem Task.exists_reply {t : Task} (h : t.hasReplied = true) :
    ∃ reply, t.rest = .done (.ok reply) := by
  unfold hasReplied at h
  split at h
  · exact ⟨_, rfl⟩
  · exact nomatch h

/-- An update that has replied has stored one version. -/
theorem Task.Sound.versions_eq {t : Task} (ht : t.Sound) {id : String} {u : Update}
    (hcall : t.call = .update id u) {r : Reply} (hrest : t.rest = .done (.ok r)) :
    ∃ g f, t.versions = [⟨u, g, f⟩] := by
  obtain ⟨g, f, again, hpast⟩ := (ht.updating hcall).of_reply hrest
  exact ⟨g, f, by simp [Task.versions, hcall, hpast]⟩

namespace Slot

variable {x : Slot} {versions : List Version} {v : Version} {g : Flow}

/-- What stands there once versions have been stored, the newest first. -/
def after (x : Slot) : List Version → Slot
  | [] => x
  | v :: _ => x.redefine v.made

theorem redefine_after (f : Flow) : (x.after versions).redefine f = x.redefine f := by
  cases versions with
  | nil => rfl
  | cons v older => exact redefine_redefine ..

/-- **A flow could be read** at some time, before or after any of the versions. -/
def Showed (x : Slot) (versions : List Version) (g : Flow) : Prop :=
  ∃ older, older <:+ versions ∧ (x.after older).read = .ok g

@[simp] theorem showed_nil_iff : x.Showed [] g ↔ x.read = .ok g := by
  simp [Showed, after]

/-- The flow as it could be read before a version could be read before the next one. -/
theorem showed_cons_iff :
    x.Showed (v :: versions) g ↔ (x.redefine v.made).read = .ok g ∨ x.Showed versions g := by
  simp [Showed, List.suffix_cons_iff, or_and_right, exists_or, after]

theorem Showed.now (h : (x.after versions).read = .ok g) : x.Showed versions g :=
  ⟨versions, List.suffix_rfl, h⟩

/-- **A history**: each version is made of a flow that could be read before it. -/
inductive History (x : Slot) : List Version → Prop
  | nil : History x []
  | cons {v : Version} {older : List Version} (hbase : x.Showed older v.base)
      (hmade : v.change.apply v.base = .ok v.made) (h : History x older) : History x (v :: older)

theorem history_cons_iff :
    x.History (v :: versions) ↔
      x.Showed versions v.base ∧ v.change.apply v.base = .ok v.made ∧ x.History versions := by
  constructor
  · rintro (_ | ⟨hbase, hmade, h⟩)
    exact ⟨hbase, hmade, h⟩
  · rintro ⟨hbase, hmade, h⟩
    exact .cons hbase hmade h

end Slot

/-! ### What every step of some updates preserves -/

/-- **Others leave one flow alone**; the store may refuse any request. -/
def Rules.apart (id : String) : Rules :=
  ⟨fun w w' => w'.store.slot id = w.store.slot id, fun _ => True⟩

/-- An update that the store refuses changes nothing. -/
theorem Answers.update_inv {rules : Rules} {isCancelled : Bool} {w w' : World} {f : Flow}
    {stored : Except Fault Bool} (h : Answers rules isCancelled w (.update f) stored w') :
    (stored = (w.store.update f).1 ∧ w'.store = (w.store.update f).2) ∨
      (w' = w ∧ stored ≠ .ok true) := by
  cases h with
  | answered => exact .inl ⟨rfl, rfl⟩
  | refused _ _ cause _ ha =>
    obtain rfl := Option.some.inj ha
    exact .inr ⟨rfl, nofun⟩

namespace System

variable {s s' : System} {id : String} {x : Slot} {versions : List Version}

/-- **What stands in the store is the newest version**, and the versions are those that the calls have
stored.  What a call has loaded, and not made use of yet, could be read at some time. -/
structure Versioned (s : System) (id : String) (x : Slot) (versions : List Version) : Prop where
  slot : s.world.store.slot id = some (x.after versions)
  history : x.History versions
  stored : (s.tasks.flatMap Task.versions).Perm versions
  loaded : ∀ t ∈ s.tasks, ∀ g, t.past = [⟨.get id, .ok (some g)⟩] → x.Showed versions g ∧ g.id = id

/-- A call that stores no version leaves them as they are. -/
theorem Versioned.set (hs : s.Versioned id x versions) {i : Nat} {t t' : Task} {w : World}
    (hi : s.tasks[i]? = some t) (hslot : w.store.slot id = s.world.store.slot id)
    (hversions : t'.versions = t.versions)
    (hloaded : ∀ g, t'.past = [⟨.get id, .ok (some g)⟩] → x.Showed versions g ∧ g.id = id) :
    Versioned ⟨w, s.tasks.set i t'⟩ id x versions where
  slot := hslot.trans hs.slot
  history := hs.history
  stored := by
    have hperm := perm_flatMap_set hi (hversions.trans (List.append_nil _).symm)
    rw [List.append_nil] at hperm
    exact hperm.trans hs.stored
  loaded u hu := by
    rcases List.mem_or_eq_of_mem_set hu with hu | rfl
    · exact hs.loaded u hu
    · exact hloaded

/-- **A version that is stored is the newest one.** -/
theorem Versioned.store (hs : s.Versioned id x versions) {i : Nat} {t t' : Task} {w : World}
    (hi : s.tasks[i]? = some t) {v : Version} (hslot : w.store.slot id = some (x.redefine v.made))
    (hversions : t'.versions = t.versions ++ [v]) (hbase : x.Showed versions v.base)
    (hmade : v.change.apply v.base = .ok v.made)
    (hpast : ∀ g, t'.past ≠ [⟨.get id, .ok (some g)⟩]) :
    Versioned ⟨w, s.tasks.set i t'⟩ id x (v :: versions) where
  slot := hslot
  history := .cons hbase hmade hs.history
  stored := (perm_flatMap_set hi hversions).trans
    ((List.perm_append_singleton ..).trans (hs.stored.cons v))
  loaded u hu g hg := by
    rcases List.mem_or_eq_of_mem_set hu with hu | rfl
    · obtain ⟨hshowed, hid⟩ := hs.loaded u hu g hg
      exact ⟨Slot.showed_cons_iff.mpr (.inr hshowed), hid⟩
    · exact absurd hg (hpast g)

/-- **A request of an update that is answered** keeps the store at the newest version. -/
theorem Versioned.exchange (hs : s.Versioned id x versions) {i : Nat} {t : Task}
    (hi : s.tasks[i]? = some t) (ht : t.Sound) {u : Update} (hcall : t.call = .update id u)
    {q : Request} {next : q.Answer → Operation (Except Fault Reply)} (hrest : t.rest = .ask q next)
    {a : q.Answer} {w : World} (ha : Answers (.apart id) t.isCancelled s.world q a w) :
    ∃ versions', Versioned ⟨w, s.tasks.set i (t.answered q a next)⟩ id x versions' := by
  rcases (ht.updating hcall).asks hrest with ⟨hpast, rfl⟩ | ⟨g, f, hpast, happly, rfl⟩ | ⟨g, f, hpast, rfl⟩
  · -- the flow is loaded as it can be read now
    obtain ⟨rfl, hfound⟩ := ha.get_inv
    refine ⟨versions, hs.set hi rfl (by simp [Task.versions, Task.answered, hcall, hpast]) ?_⟩
    intro g hg
    rw [Task.answered, hpast, hfound] at hg
    have hget : s.world.store.get id = .ok (some g) :=
      eq_of_heq (Sigma.mk.inj (List.cons.inj hg).1).2
    obtain ⟨y, hy, hread⟩ := Store.get_eq_some_iff.mp hget
    obtain rfl := Option.some.inj (hs.slot.symm.trans hy)
    exact ⟨.now hread, (Store.exists_tells_of_get hget).1⟩
  · obtain ⟨hbase, hgid⟩ := hs.loaded t (List.mem_of_getElem? hi) g hpast
    have hfid : f.id = id := (Update.id_of_apply happly).trans hgid
    rcases ha.update_inv with ⟨rfl, hstore⟩ | ⟨rfl, hnot⟩
    · -- the flow is there, so the new one is stored
      obtain ⟨htook, hslot⟩ := Store.slot_update hs.slot f
      rw [← hstore, Request.onSlot_update, if_pos hfid, Slot.redefine_after] at hslot
      refine ⟨⟨u, g, f⟩ :: versions, hs.store hi hslot ?_ hbase happly ?_⟩
      · simp [Task.versions, Task.answered, hcall, hpast, htook hfid]
      · simp [Task.answered, hpast]
    · -- the flow has not been stored
      refine ⟨versions, hs.set hi rfl ?_ ?_⟩
      · simp [Task.versions, Task.answered, hcall, hpast, hnot]
      · simp [Task.answered, hpast]
  · -- loading the flow again for the reply is of no consequence
    obtain ⟨rfl, -⟩ := ha.get_inv
    refine ⟨versions, hs.set hi rfl ?_ ?_⟩
    · simp [Task.versions, Task.answered, hcall, hpast]
    · simp [Task.answered, hpast]

/-- **Every step of some updates keeps the store at the newest version.** -/
theorem Versioned.step (hs : s.Versioned id x versions) (hsound : ∀ t ∈ s.tasks, t.Sound)
    (hcalls : ∀ t ∈ s.tasks, ∃ u, t.call = .update id u) (h : Step (.apart id) s s') :
    ∃ versions', s'.Versioned id x versions' := by
  cases h with
  | call call =>
    refine ⟨versions, hs.slot, hs.history, ?_, fun t ht g hg => ?_⟩
    · -- a new call has stored no version
      have hnone : (Task.start call).versions = [] := by cases call <;> rfl
      simpa [hnone] using hs.stored
    · rcases List.mem_append.mp ht with ht | ht
      · exact hs.loaded t ht g hg
      · obtain rfl := List.mem_singleton.mp ht
        exact nomatch hg
  | cancel hi =>
    have hloaded := hs.loaded _ (List.mem_of_getElem? hi)
    exact ⟨versions, hs.set hi rfl rfl hloaded⟩
  | exchange hi hrest ha =>
    have ht := List.mem_of_getElem? hi
    obtain ⟨u, hu⟩ := hcalls _ ht
    exact hs.exchange hi (hsound _ ht) hu hrest ha
  | change hw => exact ⟨versions, hw.trans hs.slot, hs.history, hs.stored, hs.loaded⟩

/-- **Whatever updates go on at the same time**, what stands in the store is the newest version. -/
theorem Reaches.versioned {w : World} (hw : w.store.slot id = some x)
    (hs : Reaches (.apart id) (.idle w) s)
    (hcalls : ∀ t ∈ s.tasks, ∃ u, t.call = .update id u) :
    ∃ versions, s.Versioned id x versions := by
  induction hs with
  | refl => exact ⟨[], hw, .nil, .nil, nofun⟩
  | @tail s₁ _ hreach hstep ih =>
    -- what is an update in the end was one when it came in
    have hbefore : ∀ t ∈ s₁.tasks, ∃ u, t.call = .update id u := fun t ht => by
      obtain ⟨t', ht', hcall⟩ := hstep.call_mem ⟨t, ht, rfl⟩
      exact hcall ▸ hcalls t' ht'
    obtain ⟨versions, hversions⟩ := ih hbefore
    exact hversions.step (fun t ht => System.Reaches.sound hreach ht) hbefore hstep

/-- **Of two updates of a flow, the last one keeps the first or undoes it.**  Let the two of them go on
at the same time, each of their requests be answered at one moment, and nothing else touch the flow.
If both reply, then what stands in the store is what the last one has made, and that is made either

* from the flow as it was before both, as if there had been no other update; or
* from what the first one has made, and then the flow carries whatever the two give, as long as they
  give different fields and the graphs that they make are read back. -/
theorem updates_carried_or_lost {w : World} (hw : w.store.slot id = some x)
    (hs : Reaches (.apart id) (.idle w) s) {u₁ u₂ : Update}
    (hcalls : s.tasks.map (·.call) = [.update id u₁, .update id u₂])
    (hreplied : ∀ t ∈ s.tasks, ∃ reply, t.rest = .done (.ok reply)) :
    ∃ first last : Version, [first.change, last.change].Perm [u₁, u₂] ∧
      x.read = .ok first.base ∧ first.change.apply first.base = .ok first.made ∧
      last.change.apply last.base = .ok last.made ∧
      s.world.store.slot id = some (x.redefine last.made) ∧
      (x.read = .ok last.base ∨
        (x.redefine first.made).read = .ok last.base ∧
          (first.change.Apart last.change → x.Keeps first.made → x.Keeps last.made →
            ∀ f, s.world.store.get id = .ok (some f) →
              first.change.CarriedBy f ∧ last.change.CarriedBy f)) := by
  obtain ⟨t₁, rest, htasks, hcall₁, hrest⟩ := List.map_eq_cons_iff.mp hcalls
  obtain ⟨t₂, rest, rfl, hcall₂, hnil⟩ := List.map_eq_cons_iff.mp hrest
  obtain rfl := List.map_eq_nil_iff.mp hnil
  rw [htasks] at hreplied
  have hsound : ∀ t ∈ [t₁, t₂], t.Sound := fun t ht => System.Reaches.sound hs (htasks ▸ ht)
  obtain ⟨versions, hversions⟩ := Reaches.versioned hw hs (by simp [htasks, hcall₁, hcall₂])
  -- each of the two has stored one version
  obtain ⟨g₁, f₁, h₁⟩ :=
    (hsound t₁ (by simp)).versions_eq hcall₁ (hreplied t₁ (by simp)).choose_spec
  obtain ⟨g₂, f₂, h₂⟩ :=
    (hsound t₂ (by simp)).versions_eq hcall₂ (hreplied t₂ (by simp)).choose_spec
  have hperm := hversions.stored
  simp only [htasks, List.flatMap_cons, List.flatMap_nil, h₁, h₂, List.append_nil,
    List.singleton_append] at hperm
  obtain ⟨last, first, rfl⟩ := List.length_eq_two.mp hperm.length_eq.symm
  obtain ⟨hbase, hmade, hfirst⟩ := Slot.history_cons_iff.mp hversions.history
  obtain ⟨hbase₁, hmade₁, -⟩ := Slot.history_cons_iff.mp hfirst
  refine ⟨first, last, ?_, Slot.showed_nil_iff.mp hbase₁, hmade₁, hmade, hversions.slot, ?_⟩
  · exact ((List.Perm.swap ..).trans (hperm.symm.map Version.change))
  rcases Slot.showed_cons_iff.mp hbase with hbase | hbase
  · refine .inr ⟨hbase, fun hapart hkeeps hkeeps' f hf => ?_⟩
    -- the last one has loaded what the first one has stored, and kept it
    have hloaded : first.change.CarriedBy last.base :=
      (Update.carriedBy_of_apply hmade₁).of_definition (Slot.read_redefine hkeeps hbase)
    obtain ⟨y, hy, hread⟩ := Store.get_eq_some_iff.mp hf
    obtain rfl := Option.some.inj (hversions.slot.symm.trans hy)
    have hshown := Slot.read_redefine hkeeps' hread
    exact ⟨(hloaded.apply hmade hapart).of_definition hshown,
      (Update.carriedBy_of_apply hmade).of_definition hshown⟩
  · exact .inl (Slot.showed_nil_iff.mp hbase)

/-- A flow that nobody has run. -/
def untouched : Flow := .fresh "loop" "Loop" "before" ⟨[], []⟩ ⟨0, 0⟩

/-- An update that gives a flow another name. -/
def newName : Update := ⟨some "Spiral", none, none, none⟩

/-- An update that gives a flow another description. -/
def newDescription : Update := ⟨none, some "after", none, none⟩

/-- The two updates, each a request behind the other: both load the flow before either stores one. -/
def sideBySide : List Move :=
  [.call (.update "loop" newName), .call (.update "loop" newDescription), .go 0, .go 1, .go 0, .go 1,
    .go 0, .go 1]

/-- Both updates reply, and the flow has its old name again. -/
theorem sideBySide_ends :
    ∃ s, (idle (.start (.memory ⟨[untouched], []⟩) ⟨0, 0⟩)).play? sideBySide = some s ∧
      s.tasks.map (·.call) = [.update "loop" newName, .update "loop" newDescription] ∧
      (∀ t ∈ s.tasks, ∃ reply, t.rest = .done (.ok reply)) ∧
      s.world.store.get "loop" = .ok (some { untouched with description := "after" }) := by
  have hends : ((idle (.start (.memory ⟨[untouched], []⟩) ⟨0, 0⟩)).play? sideBySide).map (fun s =>
      (s.tasks.map (·.call), s.tasks.all Task.hasReplied, s.world.store.get "loop"))
      = some ([.update "loop" newName, .update "loop" newDescription], true,
        .ok (some { untouched with description := "after" })) := by rfl
  obtain ⟨s, hs, hs'⟩ := Option.map_eq_some_iff.mp hends
  obtain ⟨hcalls, hs'⟩ := Prod.mk.inj hs'
  obtain ⟨hreplied, hget⟩ := Prod.mk.inj hs'
  exact ⟨s, hs, hcalls, fun t ht => Task.exists_reply (List.all_eq_true.mp hreplied t ht), hget⟩

/-- Both updates have made a flow, and that of the last one stands in the store. -/
theorem updates_carried_or_lost_sideBySide :
    ∃ s, (idle (.start (.memory ⟨[untouched], []⟩) ⟨0, 0⟩)).play? sideBySide = some s ∧
      ∃ first last : Version, [first.change, last.change].Perm [newName, newDescription] ∧
        first.change.apply untouched = .ok first.made ∧
        last.change.apply last.base = .ok last.made ∧
        s.world.store.slot "loop" = some (.flow (last.made.withLife .inactive none)) := by
  obtain ⟨s, hs, hcalls, hreplied, -⟩ := sideBySide_ends
  obtain ⟨first, last, hperm, hbase, hfirst, hlast, hslot, -⟩ :=
    updates_carried_or_lost (x := .flow untouched) rfl (reaches_of_play? hs) hcalls hreplied
  rw [← Except.ok.inj hbase] at hfirst
  exact ⟨s, hs, first, last, hperm, hfirst, hlast, hslot⟩

/-- **It is not so that a flow carries both** of two updates that give different fields. -/
theorem updates_carried_or_lost_undone :
    ¬ ∀ (w : World) (id : String) (x : Slot), w.store.slot id = some x →
      ∀ (s : System) (u₁ u₂ : Update), Reaches (.apart id) (.idle w) s →
        s.tasks.map (·.call) = [.update id u₁, .update id u₂] →
        (∀ t ∈ s.tasks, ∃ reply, t.rest = .done (.ok reply)) → u₁.Apart u₂ →
          ∀ f, s.world.store.get id = .ok (some f) → u₁.CarriedBy f ∧ u₂.CarriedBy f := by
  intro hboth
  obtain ⟨s, hs, hcalls, hreplied, hget⟩ := sideBySide_ends
  have hapart : newName.Apart newDescription := ⟨.inr rfl, .inl rfl, .inl rfl, .inl rfl⟩
  obtain ⟨hname, -⟩ := hboth _ "loop" (.flow untouched) rfl s _ _ (reaches_of_play? hs) hcalls
    hreplied hapart _ hget
  -- the name that the first update has given is gone
  have hspiral : "Loop" = "Spiral" := hname.name "Spiral" rfl (by decide)
  exact absurd hspiral (by decide)

end System

end Flowgraph
