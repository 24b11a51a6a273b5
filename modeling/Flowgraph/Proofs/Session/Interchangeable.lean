import Flowgraph.Proofs.Session.InRows

/-!
# Either store will do

Whether calls are served with a store in memory or with one in rows makes no difference to what they
reply: both begin empty, and as long as what is put into them can be written in rows and no id of a run
is made twice, each call gets replies that agree (`World.serve_agrees`).  That what is written can be
read again is asked of the requests of the run in memory only, since it is what the run in rows asks for
as well.
-/

namespace Flowgraph

/-- **A call with the occasions of its requests.** -/
structure Visit where
  call : Call
  occasions : Nat → Occasion

namespace World

/-- **Serves calls one after another**: the results, and the world afterwards. -/
def serve : List Visit → World → List (Except Fault Reply) × World
  | [], w => ([], w)
  | v :: rest, w =>
    let (r, w) := perform v.occasions v.call.operation w
    let (rs, w) := serve rest w
    (r :: rs, w)

/-- **What the calls ask for**, one after another, with the answers. -/
def asked : List Visit → World → Transcript
  | [], _ => []
  | v :: rest, w =>
    performed v.occasions v.call.operation w
      ++ asked rest (perform v.occasions v.call.operation w).2

end World

/-! ### One call -/

/-- A run stores no flow. -/
theorem Request.insertsSound_of_runAsks {q : Request} (h : Executor.RunAsks q) :
    q.InsertsSound := by
  cases q <;> first | exact trivial | exact absurd h id

/-- **A call that is not an update stores no graph but a new one that is well formed.** -/
theorem Call.operation_insertsSound {call : Call} (h : ∀ id u, call ≠ .update id u) :
    call.operation.Meets (fun _ _ => True) Request.InsertsSound fun _ => True := by
  refine call.operation_meets_of fun q hq => ?_
  cases hq with
  | created hg => exact Draft.wellFormed_of_graph hg
  | imported hg => exact hg
  | updated => exact absurd rfl (h _ _)
  | ran hq => exact Request.insertsSound_of_runAsks hq
  | _ => trivial

namespace World

variable {w : World} {occasions : Nat → Occasion} {l : List Record}

/-- The ids of the records that a call adds have been made for it. -/
theorem appended_runIds (call : Call) (occasions : Nat → Occasion) (w : World) :
    ((Transcript.appended (performed occasions call.operation w)).map (·.runId)).Sublist
      (Transcript.runIds (performed occasions call.operation w)) :=
  Task.Sound.appended_runIds (t := ⟨call, true, _, _⟩)
    ⟨completes_performed occasions call.operation w, fun _ => rfl⟩

/-- **Every call comes to the same** in memory and in rows. -/
theorem call_twins (hw : w.store.Fit) (hl : w.store.log? = some l) (call : Call)
    (hwritable : ∀ e ∈ performed occasions call.operation w, e.1.Writable)
    (hids : ((l ++ Transcript.appended (performed occasions call.operation w)).map
      (·.runId)).Nodup) :
    Twins (Agree Reply.Agrees) (perform occasions call.operation w)
      (perform occasions call.operation w.inRows) := by
  by_cases hupdate : ∃ id u, call = .update id u
  · obtain ⟨id, u, rfl⟩ := hupdate
    exact update_twins hw hwritable
  · have hsound := (Call.operation_insertsSound fun id u h => hupdate ⟨id, u, h⟩).requests
      (completes_performed occasions call.operation w) fun _ _ => trivial
    exact twins_of_alike call.operation_alike hw hl hwritable hsound hids

/-! ### One call after another -/

/-- **Calls that are served come to the same**, if what they put into the store can be written and the
ids that are made for runs differ from each other and from those in the log. -/
theorem serve_twins (visits : List Visit) (hw : w.store.Fit) (hl : w.store.log? = some l)
    (hwritable : ∀ e ∈ asked visits w, e.1.Writable)
    (hids : (l.map (·.runId) ++ (asked visits w).runIds).Nodup) :
    Twins (List.Forall₂ (Agree Reply.Agrees)) (serve visits w) (serve visits w.inRows) := by
  induction visits generalizing w l with
  | nil => exact ⟨.nil, rfl, hw⟩
  | cons v rest ih =>
    have hsub := appended_runIds v.call v.occasions w
    rw [asked, Transcript.runIds, List.filterMap_append, ← List.append_assoc] at hids
    -- the records that the call adds have some of the ids that are made for it
    have hids' : ((l ++ Transcript.appended (performed v.occasions v.call.operation w)).map
        (·.runId) ++ (asked rest (perform v.occasions v.call.operation w).2).runIds).Nodup := by
      rw [List.map_append]
      exact hids.sublist (((List.Sublist.refl _).append hsub).append (.refl _))
    have hcall := call_twins hw hl v.call (fun e he => hwritable e (List.mem_append_left _ he))
      hids'.of_append_left
    have hrest := ih hcall.fit (perform_log _ hl)
      (fun e he => hwritable e (List.mem_append_right _ he)) hids'
    rw [← hcall.world] at hrest
    exact ⟨.cons hcall.value hrest.value, hrest.world, hrest.fit⟩

/-- **Either store will do.**  Serve any calls one after another, once with an empty store in memory and
once with an empty store in rows, each request on the same occasion, with the same reading of the clock,
the same number for an id and the same cancellation.  If all that is put into the store can be written
in rows, and no id of a run is made twice (they are random and long), then each call gets the same
result but for the words of a fault and for what in a record is written as `null`, and at the end the
rows are those of what is in memory, in the same order. -/
theorem serve_agrees (visits : List Visit) (begin : Instant)
    (hwritable : ∀ e ∈ asked visits (.start (.memory .empty) begin), e.1.Writable)
    (hids : (asked visits (.start (.memory .empty) begin)).runIds.Nodup) :
    List.Forall₂ (Agree Reply.Agrees) (serve visits (.start (.memory .empty) begin)).1
        (serve visits (.start (.rows .empty) begin)).1 ∧
      (serve visits (.start (.rows .empty) begin)).2.store
        = (serve visits (.start (.memory .empty) begin)).2.store.inRows := by
  have htwins := serve_twins (w := .start (.memory .empty) begin) (l := []) visits
    MemoryStore.fit_empty rfl hwritable hids
  exact ⟨htwins.value, congrArg World.store htwins.world⟩

/-- A flow that is imported, run, changed and deleted, and imported once more behind another one. -/
def twoLives : List Visit :=
  let loop : Flow :=
    .fresh "loop" "Loop" "" ⟨[⟨"start", "trigger", Json.empty, .origin⟩],
      [⟨"back", "start", "start", none, none⟩]⟩ ⟨0, 0⟩
  let other : Flow := .fresh "other" "Other" "" ⟨[], []⟩ ⟨0, 0⟩
  let run : Call := .execute ⟨.empty, 1⟩ "loop" ⟨.str "payload", []⟩
  let rename : Call := .update "loop" ⟨some "Renamed", none, none, none⟩
  let calls : List Call := [.importFlow loop, .importFlow other, run, .executions none, rename,
    .delete "loop", .get "loop", .importFlow loop, .importFlow loop, .list]
  -- each call has an hour and a number of its own, and every request a second
  calls.zipIdx.map fun (call, i) => ⟨call, fun n => ⟨false, ⟨3600 * i + n, 0⟩, i⟩⟩

/-- At the end the flow that has been imported again stands behind the other one, in either store. -/
theorem serve_agrees_twoLives :
    (serve twoLives (.start (.memory .empty) ⟨0, 0⟩)).2.store.lives.map (·.id) = ["other", "loop"] ∧
      List.Forall₂ (Agree Reply.Agrees) (serve twoLives (.start (.memory .empty) ⟨0, 0⟩)).1
        (serve twoLives (.start (.rows .empty) ⟨0, 0⟩)).1 ∧
      (serve twoLives (.start (.rows .empty) ⟨0, 0⟩)).2.store
        = (serve twoLives (.start (.memory .empty) ⟨0, 0⟩)).2.store.inRows := by
  have hwritable : ∀ e ∈ asked twoLives (.start (.memory .empty) ⟨0, 0⟩), e.1.Writable := by
    decide +kernel
  have hids : (asked twoLives (.start (.memory .empty) ⟨0, 0⟩)).runIds.Nodup := by decide +kernel
  exact ⟨by decide +kernel, serve_agrees twoLives ⟨0, 0⟩ hwritable hids⟩

end World

end Flowgraph
