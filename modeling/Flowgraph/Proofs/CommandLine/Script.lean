import Flowgraph.CommandLine.Host
import Flowgraph.Proofs.Flow.Operations

/-!
# Scripts at a host

A script runs at a host request by request (`Host.exec`), and what it does with the stored flows are the
requests of an operation (`Host.operates`).  A script that only looks, as the one that reads the
configuration, leaves the host as it is, and finds the same at any host that looks the same
(`Host.exec_congr_of_looks`).
-/

namespace Flowgraph.CommandLine

variable {α β : Type}

namespace Host

variable {h h' : Host}

/-! ### Scripts one after the other -/

/-- **Runs a script that may fail.** -/
def exec (h : Host) (s : Script α) : Except CommandFault α × Host := run s.run h

theorem run_bind (o : Interaction Script.Request Script.Request.Answer α)
    (f : α → Interaction Script.Request Script.Request.Answer β) (h : Host) :
    run (o.bind f) h = run (f (run o h).1) (run o h).2 := by
  induction o generalizing h with
  | done a => rfl
  | ask q next ih => exact ih _ _

theorem exec_ask (h : Host) (q : Script.Request) :
    h.exec (Script.ask q) = (.ok (h.answer q).1, (h.answer q).2) := rfl

theorem exec_ofExcept (h : Host) (e : Except Fault α) :
    h.exec (Script.ofExcept e) = (e.mapError .fault, h) := rfl

/-- **A script after another** runs where the first one has ended, unless that has failed. -/
theorem exec_bind (h : Host) (s : Script α) (f : α → Script β) :
    h.exec (s >>= f) = match h.exec s with
      | (.ok a, h) => h.exec (f a)
      | (.error e, h) => (.error e, h) := by
  show run (Interaction.bind s.run _) h = match run s.run h with
    | (.ok a, h) => run (f a).run h
    | (.error e, h) => (.error e, h)
  rw [run_bind]
  obtain ⟨r, h'⟩ := run s.run h
  cases r <;> rfl

theorem exec_bind_of_ok {s : Script α} {a : α} (hs : h.exec s = (.ok a, h')) (f : α → Script β) :
    h.exec (s >>= f) = h'.exec (f a) := by
  rw [exec_bind, hs]

theorem exec_bind_of_error {s : Script α} {e : CommandFault} (hs : h.exec s = (.error e, h'))
    (f : α → Script β) : h.exec (s >>= f) = (.error e, h') := by
  rw [exec_bind, hs]

/-! ### Operations -/

/-- **Answers the requests of an operation.** -/
def operates (h : Host) (o : Operation α) : α × Host :=
  run (o.carry fun q => .request (.operate q)) h

theorem operates_ask (h : Host) (q : Flowgraph.Request) (next : q.Answer → Operation α) :
    h.operates (.ask q next) = (h.operate q).2.operates (next (h.operate q).1) := rfl

theorem operates_bind (h : Host) (o : Operation α) (f : α → Operation β) :
    h.operates (o.bind f) = (h.operates o).2.operates (f (h.operates o).1) := by
  induction o generalizing h with
  | done a => rfl
  | ask q next ih => exact ih _ _

theorem exec_perform (h : Host) (m : Attempt α) :
    h.exec (Script.perform m)
      = ((h.operates m.run).1.mapError .fault, (h.operates m.run).2) := by
  show run (Interaction.bind (m.run.carry _) _) h = _
  rw [run_bind]
  unfold operates
  generalize run (m.run.carry fun q => .request (.operate q)) h = found
  obtain ⟨r, h'⟩ := found
  cases r <;> rfl

/-! ### Scripts that only look -/

/-- **A host looks the same as another**: variables, files that are there or not, and texts. -/
structure LooksAs (h h' : Host) : Prop where
  environment : h.environment = h'.environment
  pathExists : ∀ path, (h.contentAt? path).isSome = (h'.contentAt? path).isSome
  readText : ∀ path, (h.answer (.readText path)).1 = (h'.answer (.readText path)).1

end Host

/-- A request only looks. -/
def Script.Request.Looks : Script.Request → Prop
  | .variable _ | .pathExists _ | .readText _ => True
  | .openStore _ | .operate _ => False

/-- **A script only looks.** -/
def Script.Looks (s : Script α) : Prop :=
  s.run.Meets (fun _ _ => True) Script.Request.Looks fun _ => True

namespace Script.Looks

variable {s : Script α} {f : α → Script β}

theorem pure (a : α) : Script.Looks (Pure.pure a) := trivial

theorem ofExcept (e : Except Fault α) : Script.Looks (Script.ofExcept e) := trivial

theorem ask_variable (name : String) : (Script.ask (.variable name)).Looks :=
  ⟨trivial, fun _ _ => trivial⟩

theorem ask_pathExists (path : String) : (Script.ask (.pathExists path)).Looks :=
  ⟨trivial, fun _ _ => trivial⟩

theorem ask_readText (path : String) : (Script.ask (.readText path)).Looks :=
  ⟨trivial, fun _ _ => trivial⟩

theorem bind (hs : s.Looks) (hf : ∀ a, (f a).Looks) : (s >>= f).Looks := by
  refine Interaction.Meets.bind hs fun r _ => ?_
  cases r with
  | error e => trivial
  | ok a => exact hf a

end Script.Looks

namespace Host

variable {h h' : Host}

theorem answer_of_looks {q : Script.Request} (hq : q.Looks) : (h.answer q).2 = h := by
  match q, hq with
  | .variable _, _ => rfl
  | .pathExists _, _ => rfl
  | .readText _, _ => rfl

theorem answer_congr_of_looks {q : Script.Request} (hq : q.Looks) (hsame : h.LooksAs h') :
    (h.answer q).1 = (h'.answer q).1 := by
  match q, hq with
  | .variable name, _ => exact congrFun hsame.environment name
  | .pathExists path, _ => exact hsame.pathExists path
  | .readText path, _ => exact hsame.readText path

/-- **A script that only looks leaves the host.** -/
theorem exec_of_looks {s : Script α} (hs : s.Looks) : (h.exec s).2 = h := by
  unfold exec
  unfold Script.Looks at hs
  generalize s.run = o at hs
  induction o with
  | done a => rfl
  | ask q next ih =>
    show (run (next (h.answer q).1) (h.answer q).2).2 = h
    rw [answer_of_looks hs.1]
    exact ih _ (hs.2 _ trivial)

/-- **A script that only looks ends alike** at hosts that look the same. -/
theorem exec_congr_of_looks {s : Script α} (hs : s.Looks) (hsame : h.LooksAs h') :
    (h.exec s).1 = (h'.exec s).1 := by
  unfold exec
  unfold Script.Looks at hs
  generalize s.run = o at hs
  -- request by request: the answers are the same, and each leaves its host as it is
  induction o with
  | done a => rfl
  | ask q next ih =>
    show (run (next (h.answer q).1) (h.answer q).2).1
      = (run (next (h'.answer q).1) (h'.answer q).2).1
    rw [answer_of_looks hs.1, answer_of_looks hs.1, answer_congr_of_looks hs.1 hsame]
    exact ih _ (hs.2 _ trivial)

end Host

/-! ### What only looks -/

theorem environment_looks (names : List String) : (environment names).Looks := by
  -- on the names, each asked for by a script that only looks
  have hvariables : (names.mapM fun name =>
      (return (name, ← Script.ask (.variable name)) : Script (String × Option String))).Looks := by
    induction names with
    | nil =>
      rw [List.mapM_nil]
      exact .pure _
    | cons name rest ih =>
      rw [List.mapM_cons]
      exact ((Script.Looks.ask_variable name).bind fun _ => .pure _).bind fun _ =>
        ih.bind fun _ => .pure _
  exact hvariables.bind fun _ => .pure _

theorem settingsPath_looks (given : String) : (settingsPath given).Looks := by
  refine (Script.Looks.ask_pathExists given).bind fun there => ?_
  split
  · exact .pure _
  · refine (Script.Looks.ask_variable "HOME").bind fun home => ?_
    split
    · exact .pure _
    · refine (Script.Looks.ask_pathExists _).bind fun there => ?_
      split
      · exact .pure _
      · exact .pure _

/-- **Reading the configuration only looks.** -/
theorem configuration_looks (given : String) : (configuration given).Looks := by
  refine (settingsPath_looks given).bind fun path => ?_
  split
  · exact (environment_looks _).bind fun _ => .pure _
  · exact (Script.Looks.ask_readText _).bind fun _ => (environment_looks _).bind fun _ =>
      (Script.Looks.ofExcept _).bind fun _ => .pure _

/-- **Reading a flow file only looks.** -/
theorem flowFile_looks (path : String) : (flowFile path).Looks := by
  refine (Script.Looks.ask_readText path).bind fun text => ?_
  split
  · exact trivial
  · split
    · exact trivial
    · exact .pure _

/-! ### What is found -/

namespace Host

variable {h : Host}

theorem readText_eq_some_iff {path text : String} :
    (h.answer (.readText path)).1 = some text ↔ h.contentAt? path = some (.text text) := by
  unfold answer
  dsimp only
  split
  · next s hs => rw [hs, Option.some_inj, Option.some_inj, Content.text.injEq]
  · next hno => exact iff_of_false nofun (hno text)

/-- The variables of some names, and no others. -/
def variablesOf (h : Host) (names : List String) : Environment := fun name =>
  ((names.map fun n => (n, h.environment n)).find? (·.1 == name)).bind (·.2)

theorem exec_environment (h : Host) (names : List String) :
    h.exec (CommandLine.environment names) = (.ok (h.variablesOf names), h) := by
  -- on the names: the host is the same after each
  have hknown : h.exec (names.mapM fun name =>
      (return (name, ← Script.ask (.variable name)) : Script (String × Option String)))
      = (.ok (names.map fun n => (n, h.environment n)), h) := by
    induction names with
    | nil => rfl
    | cons name rest ih =>
      have hfirst : h.exec (do return (name, ← Script.ask (.variable name)))
          = (.ok (name, h.environment name), h) := rfl
      rw [List.mapM_cons, exec_bind_of_ok hfirst, exec_bind_of_ok ih]
      rfl
  unfold CommandLine.environment
  rw [exec_bind_of_ok hknown]
  rfl

/-- **The configuration of a file is what its text and the variables make.** -/
theorem exec_configuration_of_text {settings text : String}
    (hthere : h.contentAt? settings = some (.text text)) :
    (h.exec (configuration settings)).1 =
      ((Config.load (h.variablesOf (standingNames ++ Variables.names text)) settings (some text)).map
        (·, h.variablesOf (standingNames ++ Variables.names text))).mapError CommandFault.fault := by
  have hpath : h.exec (settingsPath settings) = (.ok (some settings), h) := by
    unfold settingsPath
    rw [exec_bind_of_ok (exec_ask ..)]
    show h.exec (if (h.contentAt? settings).isSome then _ else _) = _
    rw [hthere]
    rfl
  have htext : h.exec (Script.ask (.readText settings)) = (.ok (some text), h) := by
    rw [exec_ask, readText_eq_some_iff.mpr hthere]
    rfl
  unfold configuration
  -- the requests are answered one by one, and only the last step may fail
  rw [exec_bind_of_ok hpath]
  dsimp only
  rw [exec_bind_of_ok htext, Option.map_some, Option.getD_some,
    exec_bind_of_ok (exec_environment ..), exec_bind, exec_ofExcept]
  generalize h.variablesOf (standingNames ++ Variables.names text) = env
  cases Config.load env settings (some text) <;> rfl

end Host

end Flowgraph.CommandLine
