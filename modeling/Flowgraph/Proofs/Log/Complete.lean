import Flowgraph.Log.Basic
import Flowgraph.Proofs.Log.Lines
import Mathlib.Data.List.Forall2

/-!
# The log of runs loses nothing that it is given time to read

While the mailbox of a log has room for what comes in, the log has read a first part of what has come
in, in order, and has written a line for each of these events that its level lets in
(`RunLog.Reads`, kept by every step).  A log that has been asked to stop goes on until it has found its
mailbox empty and then finds that it has been asked.  So all that came in before its last look at the
mailbox is among what it has read, and with it all that came in before the log was asked to stop, unless
that came in after the last look (`RunLog.log_complete`).

The two looks are two turns, and between them events may come in and the log may be asked to stop: then
these events are lost, and so are the oldest ones when more come in than the mailbox holds
(`RunLog.log_complete_missed`).
-/

namespace Flowgraph

namespace RunLog

/-! ### What comes in -/

/-- The event that comes in at a moment. -/
def Moment.event? : Moment → Option Event
  | .event e => some e
  | .cancel | .turn _ => none

/-- **The events that come in**, in order. -/
def published (ms : List Moment) : List Event := ms.filterMap Moment.event?

/-- **The events that come in before the log is asked to stop.** -/
def publishedBefore (ms : List Moment) : List Event := published (ms.takeWhile (· ≠ .cancel))

/-- **The mailbox has room** for each event that comes in while the log goes on: fewer events are
unread than the mailbox holds. -/
def HasRoom (l : RunLog) : List Moment → Prop
  | [] => True
  | m :: ms =>
    (l.stopped = false → m.event?.isSome → l.mailbox.unread.length < l.mailbox.capacity) ∧
      HasRoom (l.step m) ms

/-- Whether a mailbox has room can be decided. -/
def decideHasRoom (l : RunLog) : (ms : List Moment) → Decidable (l.HasRoom ms)
  | [] => .isTrue trivial
  | m :: ms => @instDecidableAnd _ _ _ (decideHasRoom (l.step m) ms)

instance (l : RunLog) (ms : List Moment) : Decidable (l.HasRoom ms) := l.decideHasRoom ms

/-- When nothing else is said, a log may be 256 events behind. -/
example : (opened 1 Mailbox.standardCapacity).mailbox.capacity = 256 := by decide +kernel

variable {l : RunLog} {past ms : List Moment} {m : Moment} {read : List (Instant × Event)}

theorem published_append (past ms : List Moment) :
    published (past ++ ms) = published past ++ published ms := List.filterMap_append

theorem publishedBefore_isPrefix (ms : List Moment) : publishedBefore ms <+: published ms :=
  (List.takeWhile_prefix _).filterMap _

/-- Once the log has been asked to stop, what came in before is settled. -/
theorem publishedBefore_append (h : .cancel ∈ past) (ms : List Moment) :
    publishedBefore (past ++ ms) = publishedBefore past := by
  have htake : (past ++ ms).takeWhile (· ≠ .cancel) = past.takeWhile (· ≠ .cancel) := by
    induction past with
    | nil => exact nomatch h
    | cons m rest ih =>
      by_cases hm : m = .cancel
      · subst hm
        rfl
      · have hrest := (List.mem_cons.mp h).resolve_left (Ne.symm hm)
        rw [List.cons_append, List.takeWhile_cons_of_pos (by simpa using hm),
          List.takeWhile_cons_of_pos (by simpa using hm), ih hrest]
  rw [publishedBefore, htake, publishedBefore]

/-! ### The last look at the mailbox -/

/-- **The log stops at a turn**, and its turn before was its last look at the mailbox: `before` is what
had happened by then, and `between` what happened between the two turns. -/
structure StopsAfter (l : RunLog) (before between ms : List Moment) : Prop where
  turns : ∃ time time' rest, ms = before ++ .turn time :: between ++ .turn time' :: rest ∧
    (l.run (before ++ .turn time :: between)).stopped = false ∧
    (l.run (before ++ .turn time :: between ++ [.turn time'])).stopped = true
  /-- The log has no turn between the two. -/
  still : ∀ time, .turn time ∉ between
  /-- By the second turn it has been asked to stop. -/
  asked : .cancel ∈ before ++ between

section StopsAfter

variable {l : RunLog} {before between ms : List Moment}

/-- That a log has stopped stays so. -/
theorem StopsAfter.append (h : StopsAfter l before between ms) (more : List Moment) :
    StopsAfter l before between (ms ++ more) := by
  obtain ⟨⟨time, time', rest, rfl, hgoing, hstopped⟩, hstill, hasked⟩ := h
  exact ⟨⟨time, time', rest ++ more, by simp, hgoing, hstopped⟩, hstill, hasked⟩

/-- What came in before the log was asked to stop came in before its last look, if it was asked by
then or nothing came in afterwards. -/
theorem StopsAfter.publishedBefore_isPrefix (h : StopsAfter l before between ms)
    (hquiet : .cancel ∈ before ∨ published between = []) :
    publishedBefore ms <+: published before := by
  obtain ⟨⟨time, time', rest, rfl, -, -⟩, -, hasked⟩ := h
  rw [List.append_assoc]
  rcases hquiet with hcancel | hnone
  · rw [publishedBefore_append hcancel]
    exact RunLog.publishedBefore_isPrefix before
  · -- what came in by the second turn came in by the first
    have hsame : published (before ++ .turn time :: between) = published before := by
      rw [published_append, show published (.turn time :: between) = published between from rfl,
        hnone, List.append_nil]
    have hmem : .cancel ∈ before ++ .turn time :: between := by
      rw [List.mem_append, List.mem_cons]
      exact (List.mem_append.mp hasked).imp_right .inr
    rw [← List.append_assoc, publishedBefore_append hmem, ← hsame]
    exact RunLog.publishedBefore_isPrefix _

end StopsAfter

/-! ### Turns -/

section Turns

variable {time : Instant}

theorem turn_of_stopped (h : l.stopped = true) : l.turn time = l := by
  rw [turn, if_pos h]

theorem turn_of_foundEmpty (h : l.stopped = false) (hempty : l.foundEmpty = true) :
    l.turn time = { l with foundEmpty := false, stopped := l.cancelled } := by
  rw [turn, if_neg (by simp [h]), if_pos hempty]

theorem turn_of_unread {e : Event} {rest : List Event} (h : l.stopped = false)
    (hlooks : l.foundEmpty = false) (hunread : l.mailbox.unread = e :: rest) :
    l.turn time = { l with
      mailbox := { l.mailbox with unread := rest }
      written := if LogEntry.admits l.level e then l.written ++ [.ofEvent time e] else l.written } := by
  rw [turn, if_neg (by simp [h]), if_neg (by simp [hlooks]), Mailbox.take?, hunread]

theorem turn_of_empty (h : l.stopped = false) (hlooks : l.foundEmpty = false)
    (hunread : l.mailbox.unread = []) : l.turn time = { l with foundEmpty := true } := by
  rw [turn, if_neg (by simp [h]), if_neg (by simp [hlooks]), Mailbox.take?, hunread]

end Turns

/-! ### What has been read -/

/-- **The log has read these events**, each at an instant, of what has come in since it was `l₀`: a
first part of it, with the rest unread while the log goes on. -/
structure Reads (l₀ : RunLog) (past : List Moment) (read : List (Instant × Event)) (l : RunLog) :
    Prop where
  run : l₀.run past = l
  cancelled : l.cancelled = true ↔ .cancel ∈ past
  written : l.written
    = (read.filter fun r => LogEntry.admits l.level r.2).map fun r => .ofEvent r.1 r.2
  isPrefix : read.map (·.2) <+: published past
  going : l.stopped = false → published past = read.map (·.2) ++ l.mailbox.unread
  /-- A log that has found its mailbox empty has read all that had come in by then. -/
  foundEmpty : l.stopped = false → l.foundEmpty = true → ∃ before time between,
    past = before ++ .turn time :: between ∧ (∀ time, .turn time ∉ between) ∧
      read.map (·.2) = published before
  /-- A log that has stopped has read all that had come in by its last look at the mailbox. -/
  stopped : l.stopped = true → ∃ before between, StopsAfter l₀ before between past ∧
    read.map (·.2) = published before

variable {l₀ : RunLog}

theorem run_snoc (l : RunLog) (ms : List Moment) (m : Moment) :
    l.run (ms ++ [m]) = (l.run ms).step m := List.foldl_concat ..

theorem Reads.opened (level capacity : Nat) :
    Reads (opened level capacity) [] [] (opened level capacity) :=
  ⟨rfl, by simp [RunLog.opened], rfl, List.nil_prefix, fun _ => rfl, fun _ => nofun, nofun⟩

/-- A log that has stopped reads nothing more, whatever happens. -/
theorem Reads.of_stopped (h : Reads l₀ past read l) (hstop : l.stopped = true)
    (hsame : (l.step m).level = l.level ∧ (l.step m).written = l.written ∧
      (l.step m).stopped = l.stopped)
    (hcancelled : (l.step m).cancelled = true ↔ .cancel ∈ past ++ [m]) :
    Reads l₀ (past ++ [m]) read (l.step m) := by
  obtain ⟨hlevel, hwritten, hstopped⟩ := hsame
  obtain ⟨before, between, hstops, hread⟩ := h.stopped hstop
  have hgone : (l.step m).stopped ≠ false := by
    rw [hstopped, hstop]
    exact nofun
  refine ⟨by rw [run_snoc, h.run], hcancelled, by rw [hwritten, hlevel, h.written], ?_,
    fun hgoing => absurd hgoing hgone, fun hgoing => absurd hgoing hgone,
    fun _ => ⟨before, between, hstops.append _, hread⟩⟩
  rw [published_append]
  exact h.isPrefix.trans (List.prefix_append _ _)

/-- What the log has found stays so while it has no turn. -/
theorem Reads.foundEmpty_append (h : Reads l₀ past read l) (hgoing : l.stopped = false)
    (hempty : l.foundEmpty = true) (hm : ∀ time, m ≠ .turn time) :
    ∃ before time between, past ++ [m] = before ++ .turn time :: between ∧
      (∀ time, .turn time ∉ between) ∧ read.map (·.2) = published before := by
  obtain ⟨before, time, between, rfl, hstill, hread⟩ := h.foundEmpty hgoing hempty
  refine ⟨before, time, between ++ [m], by simp, fun time hmem => ?_, hread⟩
  rcases List.mem_append.mp hmem with hmem | hmem
  · exact hstill time hmem
  · exact hm time (List.mem_singleton.mp hmem).symm

/-- An event comes in. -/
theorem Reads.event (h : Reads l₀ past read l) {e : Event}
    (hroom : l.stopped = false → l.mailbox.unread.length < l.mailbox.capacity) :
    Reads l₀ (past ++ [.event e]) read (l.step (.event e)) := by
  have hcancelled : l.cancelled = true ↔ .cancel ∈ past ++ [.event e] := by simpa using h.cancelled
  cases hstop : l.stopped with
  | true => exact h.of_stopped hstop ⟨rfl, rfl, rfl⟩ hcancelled
  | false =>
    have hpublished : published (past ++ [.event e]) = published past ++ [e] := published_append ..
    refine ⟨by rw [run_snoc, h.run], hcancelled, h.written, ?_, fun _ => ?_,
      fun _ hempty => h.foundEmpty_append hstop hempty fun _ => nofun, fun hstopped => ?_⟩
    · rw [hpublished]
      exact h.isPrefix.trans (List.prefix_append _ _)
    · -- there is room, so nothing has to go to make place for it
      have hput : (l.mailbox.put e).unread = l.mailbox.unread ++ [e] := by
        have hover : (l.mailbox.unread ++ [e]).length - l.mailbox.capacity = 0 := by
          have := hroom hstop
          rw [List.length_append, List.length_singleton]
          omega
        rw [Mailbox.put, hover, List.drop_zero]
      show _ = _ ++ (l.mailbox.put e).unread
      rw [hput, hpublished, h.going hstop, List.append_assoc]
    · exact nomatch hstop.symm.trans hstopped

/-- The log is asked to stop. -/
theorem Reads.cancel (h : Reads l₀ past read l) :
    Reads l₀ (past ++ [.cancel]) read (l.step .cancel) := by
  have hcancelled : (l.step .cancel).cancelled = true ↔ .cancel ∈ past ++ [Moment.cancel] := by
    simp [step]
  cases hstop : l.stopped with
  | true => exact h.of_stopped hstop ⟨rfl, rfl, rfl⟩ hcancelled
  | false =>
    have hpublished : published (past ++ [.cancel]) = published past :=
      (published_append ..).trans (List.append_nil _)
    refine ⟨by rw [run_snoc, h.run], hcancelled, h.written, hpublished ▸ h.isPrefix,
      fun _ => hpublished.trans (h.going hstop),
      fun _ hempty => h.foundEmpty_append hstop hempty fun _ => nofun, fun hstopped => ?_⟩
    exact nomatch hstop.symm.trans hstopped

/-- **The log has its turn**: it reads one more event, it finds its mailbox empty, or it looks whether
it has been asked to stop. -/
theorem Reads.turn (h : Reads l₀ past read l) (time : Instant) :
    ∃ read', Reads l₀ (past ++ [.turn time]) read' (l.turn time) := by
  have hcancelled : l.cancelled = true ↔ .cancel ∈ past ++ [.turn time] := by simpa using h.cancelled
  have hpublished : published (past ++ [.turn time]) = published past :=
    (published_append ..).trans (List.append_nil _)
  have hrun : l₀.run (past ++ [.turn time]) = l.turn time := by
    rw [run_snoc, h.run]
    rfl
  cases hstop : l.stopped with
  | true =>
    have hsame : l.turn time = l := turn_of_stopped hstop
    refine ⟨read, h.of_stopped (m := .turn time) hstop ?_ ?_⟩
    · show (l.turn time).level = _ ∧ (l.turn time).written = _ ∧ (l.turn time).stopped = _
      rw [hsame]
      exact ⟨rfl, rfl, rfl⟩
    · show (l.turn time).cancelled = true ↔ _
      rwa [hsame]
  | false =>
    have hgoing := h.going hstop
    cases hempty : l.foundEmpty with
    | true =>
      -- the second look: the mailbox is left as it is, and what it holds is lost if the log stops
      obtain ⟨before, time', between, rfl, hstill, hread⟩ := h.foundEmpty hstop hempty
      rw [turn_of_foundEmpty hstop hempty] at hrun ⊢
      refine ⟨read, hrun, hcancelled, h.written, hpublished ▸ h.isPrefix,
        fun _ => hpublished.trans hgoing, fun _ => nofun, fun hstopped => ?_⟩
      refine ⟨before, between, ⟨⟨time', time, [], rfl, ?_, ?_⟩, hstill, ?_⟩, hread⟩
      · rw [h.run]
        exact hstop
      · rw [hrun]
        exact hstopped
      · have hmem : Moment.cancel ∈ before ++ .turn time' :: between := h.cancelled.mp hstopped
        simpa using hmem
    | false =>
      cases hunread : l.mailbox.unread with
      | cons e rest =>
        -- the oldest event goes from what is unread to what has been read
        rw [turn_of_unread hstop hempty hunread] at hrun ⊢
        have hsnoc : (read ++ [(time, e)]).map (·.2) = read.map (·.2) ++ [e] := List.map_append
        refine ⟨read ++ [(time, e)], hrun, hcancelled, ?_, ?_, fun _ => ?_,
          fun _ hfound => absurd (hempty.symm.trans hfound) nofun,
          fun hstopped => nomatch hstop.symm.trans hstopped⟩
        · dsimp only
          rw [List.filter_append, List.map_append, ← h.written]
          by_cases hadmits : LogEntry.admits l.level e = true <;> simp [hadmits]
        · rw [hsnoc, hpublished, hgoing, hunread]
          exact ⟨rest, by simp⟩
        · rw [hsnoc, hpublished, hgoing, hunread]
          simp
      | nil =>
        -- the first look: nothing is unread, so what has been read is all that came in
        rw [turn_of_empty hstop hempty hunread] at hrun ⊢
        rw [hunread, List.append_nil] at hgoing
        refine ⟨read, hrun, hcancelled, h.written, hpublished ▸ h.isPrefix, fun _ => ?_,
          fun _ _ => ⟨past, time, [], rfl, fun _ => List.not_mem_nil, hgoing.symm⟩,
          fun hstopped => nomatch hstop.symm.trans hstopped⟩
        rw [hpublished, hgoing, hunread, List.append_nil]

/-- **One moment**: what has been read stays a first part of what has come in. -/
theorem Reads.step (h : Reads l₀ past read l)
    (hroom : l.stopped = false → m.event?.isSome → l.mailbox.unread.length < l.mailbox.capacity) :
    ∃ read', Reads l₀ (past ++ [m]) read' (l.step m) :=
  match m with
  | .event _ => ⟨read, h.event fun hgoing => hroom hgoing rfl⟩
  | .cancel => ⟨read, h.cancel⟩
  | .turn time => h.turn time

/-- **A whole run**, by induction on its moments. -/
theorem Reads.foldl (h : Reads l₀ past read l) (hroom : l.HasRoom ms) :
    ∃ read', Reads l₀ (past ++ ms) read' (l.run ms) := by
  induction ms generalizing l past read with
  | nil =>
    rw [List.append_nil]
    exact ⟨read, h⟩
  | cons m ms ih =>
    obtain ⟨hnow, hlater⟩ := hroom
    obtain ⟨_, hstep⟩ := h.step hnow
    rw [List.append_cons]
    exact ih hstep hlater

theorem step_level (l : RunLog) (m : Moment) : (l.step m).level = l.level := by
  cases m with
  | event e => rfl
  | cancel => rfl
  | turn time =>
    show (l.turn time).level = l.level
    unfold turn
    split
    · rfl
    split
    · rfl
    · split <;> rfl

/-- Nothing that happens changes the level. -/
theorem run_level (l : RunLog) (ms : List Moment) : (l.run ms).level = l.level := by
  induction ms generalizing l with
  | nil => rfl
  | cons m ms ih => exact (ih (l.step m)).trans (step_level l m)

/-! ### Stopping -/

/-- A log that has stopped stays so. -/
theorem stopped_of_turns (h : l.stopped = true) (time : Instant) (n : Nat) :
    (l.run (List.replicate n (.turn time))).stopped = true := by
  induction n with
  | zero => exact h
  | succ n ih =>
    show ((l.turn time).run (List.replicate n (.turn time))).stopped = true
    rwa [turn_of_stopped h]

/-- A log that looks at its mailbox stops when it has read what is there, has found it empty, and has
looked once more. -/
theorem stopped_of_looks (h : l.cancelled = true) (hstop : l.stopped = false)
    (hlooks : l.foundEmpty = false) (time : Instant) :
    (l.run (List.replicate (l.mailbox.unread.length + 2) (.turn time))).stopped = true := by
  induction hunread : l.mailbox.unread generalizing l with
  | nil =>
    have hempty : l.turn time = { l with foundEmpty := true } := turn_of_empty hstop hlooks hunread
    have hlast : ({ l with foundEmpty := true } : RunLog).turn time = _ :=
      turn_of_foundEmpty hstop rfl
    show ((l.turn time).turn time).stopped = true
    rw [hempty, hlast]
    exact h
  | cons e rest ih =>
    show ((l.turn time).run (List.replicate (rest.length + 2) (.turn time))).stopped = true
    rw [turn_of_unread hstop hlooks hunread]
    exact ih h hstop hlooks rfl

/-- **A log that has been asked to stop does so** when it has had its last turns. -/
theorem stopped_lastTurns (h : l.cancelled = true) (time : Instant) :
    (l.run (l.lastTurns time)).stopped = true := by
  unfold lastTurns
  cases hstop : l.stopped with
  | true => exact stopped_of_turns hstop time _
  | false =>
    cases hlooks : l.foundEmpty with
    | false => exact stopped_of_looks h hstop hlooks time
    | true =>
      -- the next look finds that it has been asked
      show ((l.turn time).run (List.replicate (l.mailbox.unread.length + 1) (.turn time))).stopped = true
      rw [turn_of_foundEmpty hstop hlooks]
      exact stopped_of_turns h time _

/-! ### The log is complete -/

/-- An event is let in if it tells of a whole run, or from level two on. -/
theorem admits_iff (level : Nat) (e : Event) : LogEntry.admits level e = true ↔
    (∃ runId flowId, e = .runStarted runId flowId) ∨
      (∃ runId flowId steps, e = .runCompleted runId flowId steps) ∨
      (∃ runId flowId error, e = .runFailed runId flowId error) ∨ 2 ≤ level := by
  cases e <;> simp [LogEntry.admits, LogEntry.isSummary]

/-- **The log of runs loses nothing that it is given time to read.**  Let any events come in, let the
log be asked to stop at any time and have its turns at any time, as long as its mailbox has room.  What
the file holds is one line for each event of a first part of those that have come in that the level lets
in, in order; each line is one line, and tells its event.  While the log goes on, the others are unread.
Once it has stopped, the first part has every event that came in before its last look at the mailbox,
and so every event that came in before it was asked to stop, if it was asked before that look or nothing
came in between the look and its next turn.  Asked to stop, it does so when it has had its last turns. -/
theorem log_complete (level capacity : Nat) (ms : List Moment)
    (hroom : (opened level capacity).HasRoom ms) (hfits : ∀ e ∈ published ms, e.Fits) :
    let l := (opened level capacity).run ms
    (∃ (read : List Event) (lines : List String),
      read <+: published ms ∧
      (l.stopped = false → published ms = read ++ l.mailbox.unread) ∧
      (l.stopped = true → ∃ before between, StopsAfter (opened level capacity) before between ms ∧
        published before <+: read ∧
        (.cancel ∈ before ∨ published between = [] → publishedBefore ms <+: read)) ∧
      l.text = String.join lines ∧
      List.Forall₂ Event.ToldBy (read.filter (LogEntry.admits level)) lines) ∧
    (.cancel ∈ ms → ∀ time, (l.run (l.lastTurns time)).stopped = true) ∧
    ∀ e, LogEntry.admits level e = true ↔
      (∃ runId flowId, e = .runStarted runId flowId) ∨
        (∃ runId flowId steps, e = .runCompleted runId flowId steps) ∨
        (∃ runId flowId error, e = .runFailed runId flowId error) ∨ 2 ≤ level := by
  intro l
  obtain ⟨read, hread⟩ : ∃ read, Reads (opened level capacity) ms read l :=
    (Reads.opened level capacity).foldl hroom
  -- the level that the invariant speaks of is the one the log was opened with
  have hlevel : l.level = level := run_level _ ms
  have hevents : (read.map (·.2)).filter (LogEntry.admits level)
      = (read.filter fun r => LogEntry.admits level r.2).map (·.2) := List.filter_map
  refine ⟨⟨read.map (·.2),
    (read.filter fun r => LogEntry.admits level r.2).map fun r => (LogEntry.ofEvent r.1 r.2).line,
    hread.isPrefix, hread.going, fun hstop => ?_, ?_, ?_⟩, ?_, admits_iff level⟩
  · obtain ⟨before, between, hstops, hall⟩ := hread.stopped hstop
    refine ⟨before, between, hstops, hall ▸ List.prefix_rfl, fun hquiet => ?_⟩
    rw [hall]
    exact hstops.publishedBefore_isPrefix hquiet
  · rw [text, hread.written, hlevel, List.map_map]
    rfl
  · -- each line is that of its event, whatever the instant it was read at
    rw [hevents, List.forall₂_map_left_iff, List.forall₂_map_right_iff, List.forall₂_same]
    intro r hr
    have hmem : r.2 ∈ read.map (·.2) := List.mem_map_of_mem (List.mem_of_mem_filter hr)
    exact LogEntry.line_ofEvent r.1 (hfits r.2 (hread.isPrefix.subset hmem))
  · exact fun hcancel time => stopped_lastTurns (hread.cancelled.mpr hcancel) time

/-- A log of the first level is asked to stop while a run and a step of it are unread, with a quote and a
line break in their ids: it has a line for the run, and none for the step. -/
theorem log_complete_odd_ids :
    let run : Event := .runCompleted "r\n1" "a \"flow\"" 3
    let node : Event := .nodeCompleted "r\n1" "a \"flow\"" "t" "trigger" none
    let ms : List Moment := [.event run, .event node, .cancel, .turn default, .turn default,
      .turn default, .turn default]
    let l := (opened 1 Mailbox.standardCapacity).run ms
    (opened 1 Mailbox.standardCapacity).HasRoom ms ∧ (∀ e ∈ published ms, e.Fits) ∧ l.stopped = true ∧
      run.ToldBy l.text := by
  intro run node ms l
  have hroom : (opened 1 Mailbox.standardCapacity).HasRoom ms := by decide +kernel
  have hfits : ∀ e ∈ published ms, e.Fits := by
    intro e he
    have hmem : e = run ∨ e = node := by simpa [ms, published, Moment.event?] using he
    rcases hmem with rfl | rfl
    · exact Nat.lt_of_le_of_lt (by decide : 3 ≤ 4) (by decide)
    · exact trivial
  have hstop : l.stopped = true := by decide +kernel
  obtain ⟨⟨read, lines, hprefix, -, hstops, htext, hlines⟩, -, -⟩ :=
    log_complete 1 Mailbox.standardCapacity ms hroom hfits
  obtain ⟨before, between, hlast, -, hbefore⟩ := hstops hstop
  -- the log had been asked to stop before its first turn
  have hasked : .cancel ∈ before := by
    obtain ⟨⟨time, time', rest, hms, -, -⟩, -, -⟩ := hlast
    by_contra hnot
    have hmem : Moment.turn time ∈ ms.takeWhile (· ≠ .cancel) := by
      rw [hms, List.append_assoc, List.takeWhile_append_of_pos]
      · exact List.mem_append_right _ (by simp)
      · intro m hm
        simpa using ne_of_mem_of_not_mem hm hnot
    have htaken : ms.takeWhile (· ≠ .cancel) = [.event run, .event node] := by decide
    rw [htaken] at hmem
    simp at hmem
  have hread : read = [run, node] := by
    have hsame : publishedBefore ms = published ms := by decide
    exact hprefix.eq_of_length_le ((hsame ▸ hbefore (.inl hasked)).length_le)
  rw [hread] at hlines
  obtain ⟨line, rest, htold, hrest, rfl⟩ := List.forall₂_cons_left_iff.mp hlines
  obtain rfl := List.forall₂_nil_left_iff.mp hrest
  have hline : l.text = line := htext.trans (String.empty_append ..)
  exact ⟨hroom, hfits, hstop, hline ▸ htold⟩

/-- **An event may be missed that came in before the log was asked to stop**: if it came in after the
log had found its mailbox empty and before its next turn, though there is room for it, and if more come in
than the mailbox holds. -/
theorem log_complete_missed :
    (let late : Event := .runStarted "r1" "f"
      let ms : List Moment := [.turn default, .event late, .cancel, .turn default]
      let l := (opened 2 Mailbox.standardCapacity).run ms
      (opened 2 Mailbox.standardCapacity).HasRoom ms ∧ publishedBefore ms = [late] ∧
        l.stopped = true ∧ l.text = "") ∧
    (let first : Event := .runStarted "r1" "f"
      let others : List Event := [.nodeCompleted "r1" "f" "t" "trigger" (some "next"),
        .runCompleted "r1" "f" 1]
      let ms : List Moment := .event first :: others.map .event ++ .cancel
        :: List.replicate 4 (.turn default)
      let l := (opened 2 2).run ms
      (∀ n ≤ ms.length, ((opened 2 2).run (ms.take n)).mailbox.unread.length ≤ 256) ∧
        publishedBefore ms = first :: others ∧ l.stopped = true ∧
        l.written.map (·.kind) = ["node_completed", "run_completed"]) := by
  refine ⟨⟨?_, ?_, ?_, ?_⟩, ?_, ?_, ?_, ?_⟩ <;> decide +kernel

end RunLog

end Flowgraph
