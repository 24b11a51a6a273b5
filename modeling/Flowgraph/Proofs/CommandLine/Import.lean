import Flowgraph.Proofs.CommandLine.OneFlow
import Flowgraph.Proofs.Store.Reread

/-!
# Flow files that are checked and imported

To check a flow file and to import it share the reading of the file and of its graph, and import does
more: it opens a store, checks the graph again, and stores the flow, which is read again whenever it is
loaded.  With a store that is empty and may be changed none of this refuses what the check accepts
(`Host.validate_predicts_import`): what it says about the numbers of nodes and edges and about the trigger
is so of the flow that is stored, and of the one that is loaded (`Listing.TellOf`).
-/

namespace Flowgraph.CommandLine

/-! ### What the check predicts -/

/-- **A host at which a flow file can be imported.**  There is something at the path of the file, and
the settings can be loaded and name a store that has no flows and may be changed.  `x` runs flows there,
and `h₁` is the host with the store open. -/
structure Host.ReadyFor (h : Host) (settings file : String) (x : Executor) (h₁ : Host) : Prop where
  opens : h.exec (openEngine settings) = (.ok x, h₁)
  mayChange : h₁.opened.readOnly = false
  empty : ∃ runs, h₁.world.store = .rows ⟨some [], runs⟩
  file : (h.contentAt? file).isSome

/-- **What is stored is there for the commands that come after**: the store is kept in a file, and that
it has been opened has not changed the settings. -/
structure Host.KeepsFor (h : Host) (settings : String) (h₁ : Host) : Prop where
  inFile : h₁.opened.place ≠ none
  settings : (h₁.exec (configuration settings)).1 = (h.exec (configuration settings)).1

/-- **The commands load a flow, and no other**: it is what is listed, and it runs when its id is
given. -/
structure Host.CommandsLoad (h : Host) (settings : String) (x : Executor) (flow : Flow) : Prop where
  listed : (h.exec (Command.script settings .flows)).1 = .ok (.good (Listing.flows [flow]))
  run : ∀ payload assignments ctx, contextOf payload assignments = .ok ctx → ∃ mid : Host,
    let finished := (mid.operates (x.run flow ctx)).1
    (h.exec (Command.script settings (.run flow.id payload assignments))).1
      = .ok ⟨[finished.record.toJson.pretty 0], finished.record.success⟩

/-- **Some lines tell of a flow** its name, how many nodes and edges it has, and which node is its
trigger: the first of that type, if there is one. -/
structure Listing.TellOf (lines : List String) (flow : Flow) : Prop where
  size : lines[0]? = some (flow.name ++ ": " ++ toString flow.graph.nodes.length ++ " nodes, "
    ++ toString flow.graph.edges.length ++ " edges")
  trigger : ∀ t, flow.graph.nodes.find? (·.type == "trigger") = some t →
    lines[1]? = some ("  trigger: " ++ t.id)
  noTrigger : flow.graph.nodes.find? (·.type == "trigger") = none →
    lines[1]? = some "  warning: no trigger node, runs will fail"

/-- **What an import has come to.**  The flow of the file `f` is in the store, as `flow`, and no other.
What is loaded is that flow with its texts read again, at the host itself and, where the store is kept,
by the commands that come after.  The import has begun at `h`, has opened the store at `h₁`, and has
ended at `h₂`. -/
structure Imported (settings : String) (x : Executor) (f : FlowFile) (flow : Flow) (h h₁ h₂ : Host) :
    Prop where
  id : ∀ id ∈ f.id, flow.id = id
  madeId : f.id = none → flow.id = World.flowId h.world.clock h.world.made
  name : flow.name = f.draft.name
  description : flow.description = f.draft.description
  graph : f.draft.graph = .ok flow.graph
  status : flow.status = .inactive
  lastRun : flow.lastRun = none
  createdAt : flow.createdAt = h.world.clock ∨ flow.createdAt = h.world.clock.addNanos 1000
  stored : ∃ runs, h₂.world.store = .rows ⟨some [.ofFlow flow], runs⟩
  loads : flow.createdAt.Legible → h₂.Loads x flow.reread
  reloads : flow.createdAt.Legible → h.KeepsFor settings h₁ → h₂.CommandsLoad settings x flow.reread

/-- What is said about a graph is said about it when it is read again. -/
theorem Listing.checked_reread (name : String) (g : Graph) :
    Listing.checked name g.reread = Listing.checked name g := by
  have hlength : g.reread.nodes.length = g.nodes.length := List.length_map ..
  have htrigger : g.reread.trigger? = g.trigger?.map Node.reread := g.trigger?_reread
  have hnotes : g.reread.nodes.filterMap note? = g.nodes.filterMap note? := by
    show (g.nodes.map Node.reread).filterMap note? = _
    rw [List.filterMap_map]
    rfl
  unfold Listing.checked
  rw [hlength, htrigger, hnotes]
  cases g.trigger? <;> rfl

/-- **What is said about a checked flow tells of it.** -/
theorem Listing.tellOf_checked (flow : Flow) : TellOf (checked flow.name flow.graph) flow where
  size := rfl
  trigger t ht := by
    have htrigger : flow.graph.trigger? = some t := ht
    simp only [checked, htrigger, List.getElem?_cons_succ, List.getElem?_cons_zero]
  noTrigger hnone := by
    have htrigger : flow.graph.trigger? = none := hnone
    simp only [checked, htrigger, List.getElem?_cons_succ, List.getElem?_cons_zero]

namespace Host

variable {h h₁ h' : Host} {settings file : String} {x : Executor} {f : FlowFile} {g : Graph}
  {flow : Flow} {w : World}

/-! ### The three ways of a flow file -/

/-- To read a flow file leaves the host. -/
theorem exec_flowFile (h : Host) (file : String) :
    h.exec (flowFile file) = ((h.exec (flowFile file)).1, h) :=
  Prod.ext rfl (exec_of_looks (flowFile_looks file))

/-- **A flow file is read** if its text stands there. -/
theorem exec_flowFile_iff : (h.exec (flowFile file)).1 = .ok f ↔
    ∃ text, h.contentAt? file = some (.text text) ∧ FlowFile.ofText? text = some f := by
  simp only [← readText_eq_some_iff]
  unfold flowFile
  rw [exec_bind_of_ok (exec_ask ..)]
  show (h.exec _).1 = _ ↔ _
  generalize (h.answer (.readText file)).1 = found
  cases found with
  | none => exact iff_of_false nofun fun ⟨_, hfound, _⟩ => nomatch hfound
  | some text =>
    simp only [Option.some_inj, exists_eq_left']
    cases FlowFile.ofText? text with
    | none => exact iff_of_false nofun nofun
    | some f' => exact ⟨fun heq => congrArg some (Except.ok.inj heq),
        fun heq => congrArg Except.ok (Option.some.inj heq)⟩

/-- **A flow file that is there is read alike after a store has been opened**, also where it is made
into the store, since then it has been no flow file. -/
theorem exec_flowFile_opened {path : String} (hopen : h.openStore path = (true, h₁))
    (hchange : h₁.opened.readOnly = false) (hthere : (h.contentAt? file).isSome) :
    (h₁.exec (flowFile file)).1 = .ok f ↔ (h.exec (flowFile file)).1 = .ok f := by
  obtain ⟨c, hc⟩ := Option.isSome_iff_exists.mp hthere
  rw [exec_flowFile_iff, exec_flowFile_iff]
  -- what is made into the store has been a text of one byte or none, and no flow file is so short
  rcases contentAt?_of_openStore hopen hchange hc with hsame | ⟨⟨rows, logged, hstore⟩, hshort⟩
  · rw [hsame, hc]
  · rw [hstore, hc]
    refine iff_of_false (fun ⟨_, hfound, _⟩ => nomatch hfound) fun ⟨text, htext, hf⟩ => ?_
    have hsize := hshort text (Option.some.inj htext)
    have hlong := FlowFile.one_lt_utf8ByteSize hf
    omega

/-- **To check a file is to read it and its graph.** -/
theorem exec_validate_of_ok (hf : (h.exec (flowFile file)).1 = .ok f) (hg : f.draft.graph = .ok g) :
    h.exec (validate file) = (.ok (.good (Listing.checked f.draft.name g)), h) := by
  have hread := exec_flowFile h file
  rw [hf] at hread
  unfold validate
  rw [exec_bind_of_ok hread, hg]
  rfl

theorem exec_validate_iff :
    (∃ r, (h.exec (validate file)).1 = .ok r) ↔
      ∃ f g, (h.exec (flowFile file)).1 = .ok f ∧ f.draft.graph = .ok g := by
  have hread := exec_flowFile h file
  constructor
  · rintro ⟨r, hr⟩
    cases hf : (h.exec (flowFile file)).1 with
    | error e =>
      rw [hf] at hread
      unfold validate at hr
      rw [exec_bind_of_error hread] at hr
      exact nomatch hr
    | ok f =>
      cases hg : f.draft.graph with
      | ok g => exact ⟨f, g, rfl, hg⟩
      | error e =>
        rw [hf] at hread
        unfold validate at hr
        rw [exec_bind_of_ok hread, hg] at hr
        exact nomatch hr
  · rintro ⟨f, g, hf, hg⟩
    rw [exec_validate_of_ok hf hg]
    exact ⟨_, rfl⟩

/-- **To import a file** once the store is open: it is read, and what is in it is stored. -/
theorem exec_importFlow (hopen : h.exec (openEngine settings) = (.ok x, h₁))
    (hf : (h₁.exec (flowFile file)).1 = .ok f) :
    h.exec (importFlow settings file) = match h₁.operates f.store.run with
      | (.ok flow, h₂) => (.ok (.good ["Imported flow " ++ flow.id ++ " (" ++ flow.name ++ ")"]), h₂)
      | (.error e, h₂) => (.error (.fault e), h₂) := by
  have hread := exec_flowFile h₁ file
  rw [hf] at hread
  unfold importFlow
  rw [exec_bind_of_ok hopen, exec_bind_of_ok hread, exec_bind, exec_perform]
  obtain ⟨r, h₂⟩ := h₁.operates f.store.run
  cases r <;> rfl

/-- A file without a graph is not stored. -/
theorem operates_store_of_error {e : Fault} (hg : f.draft.graph = .error e) :
    (h.operates f.store.run).1 = .error e := by
  rw [FlowFile.store_run_of_error hg]
  cases f.id <;> rfl

/-- The flow of a file is read from its row, if its instant can be. -/
theorem toFlow_flowIn (hf : (h.exec (flowFile file)).1 = .ok f) (hg : f.draft.graph = .ok g)
    (hlegible : (f.flowIn g w).createdAt.Legible) :
    (FlowRow.ofFlow (f.flowIn g w)).toFlow = .ok (f.flowIn g w).reread := by
  obtain ⟨text, -, htext⟩ := exec_flowFile_iff.mp hf
  obtain ⟨hfits, hwell⟩ := FlowFile.fits_graph htext hg
  obtain ⟨-, -, id, t, heq, -⟩ := f.flowIn_spec g w
  rw [heq] at hlegible ⊢
  exact Flow.toFlow_reread (by decide) hfits hwell hlegible nofun

/-- **The commands load what the host does** that they find when they have opened its store. -/
theorem commandsLoad_of_loads (hengine : h.exec (openEngine settings) = (.ok x, h'))
    (hloads : h'.Loads x flow) : h.CommandsLoad settings x flow where
  listed := by
    have hlisted := hloads.listed
    unfold Command.script
    dsimp only
    -- the commands go on from where the engine has been opened
    rw [exec_bind_of_ok hengine, exec_bind, exec_perform]
    generalize h'.operates Flows.list.run = found at hlisted ⊢
    obtain ⟨r, h''⟩ := found
    obtain rfl : r = _ := hlisted
    rfl
  run payload assignments ctx hctx := by
    obtain ⟨mid, hmid⟩ := hloads.run ctx
    refine ⟨mid, ?_⟩
    show (h.exec (runFlow settings flow.id payload assignments)).1 = _
    unfold runFlow
    rw [exec_bind_of_ok hengine, exec_bind, hctx]
    show (h'.exec (Script.perform (Flows.execute x flow.id ctx) >>= _)).1 = _
    rw [exec_bind, exec_perform]
    generalize h'.operates (Flows.execute x flow.id ctx).run = found at hmid ⊢
    obtain ⟨r, h''⟩ := found
    obtain rfl : r = _ := hmid
    rfl

/-- **A file with a graph is imported.** -/
theorem exec_importFlow_of_ok (hready : h.ReadyFor settings file x h₁)
    (hf : (h.exec (flowFile file)).1 = .ok f) (hg : f.draft.graph = .ok g) :
    ∃ r h₂, h.exec (importFlow settings file) = (.ok r, h₂) ∧
      Imported settings x f (f.flowIn g h.world) h h₁ h₂ := by
  obtain ⟨c, env, -, hopen, -⟩ := exec_openEngine_iff.mp hready.opens
  obtain ⟨runs, hempty⟩ := hready.empty
  obtain ⟨rows, hworld⟩ := world_of_openStore hopen
  obtain ⟨text, -, htext⟩ := exec_flowFile_iff.mp hf
  -- the file is read after the store has been opened, and with the world as it was before
  have hself := withWorld_self_of_openStore hopen
  have hstored : ∃ w, h₁.operates f.store.run = (.ok (f.flowIn g h₁.world), h₁.withWorld w) ∧
      w.store = .rows ⟨some [.ofFlow (f.flowIn g h₁.world)], runs⟩ := by
    have hstored := operates_store hready.mayChange hempty hg (FlowFile.fits_graph htext hg).2
    rwa [hself] at hstored
  have hsame : f.flowIn g h₁.world = f.flowIn g h.world := by
    rw [hworld]
    rfl
  rw [hsame] at hstored
  obtain ⟨w, hstore, hw⟩ := hstored
  have hread := (exec_flowFile_opened hopen hready.mayChange hready.file).mpr hf
  obtain ⟨hid, hmade, id, t, heq, ht⟩ := f.flowIn_spec g h.world
  refine ⟨_, h₁.withWorld w, by rw [exec_importFlow hready.opens hread, hstore], ?_⟩
  exact {
    id := hid
    madeId := hmade
    name := by rw [heq]; rfl
    description := by rw [heq]; rfl
    graph := by rw [hg, heq]; rfl
    status := by rw [heq]; rfl
    lastRun := by rw [heq]; rfl
    createdAt := by rw [heq]; exact ht
    stored := ⟨runs, by rw [withWorld_world, hw]⟩
    loads := fun hlegible => loads_of_row hready.mayChange hw (toFlow_flowIn hf hg hlegible) x
    reloads := fun hlegible hkeeps => commandsLoad_of_loads
      (exec_openEngine_again hready.opens hkeeps.settings hready.mayChange hkeeps.inFile hw)
      (loads_of_row hready.mayChange rfl (toFlow_flowIn hf hg hlegible) x) }

/-- **Only a file with a graph is imported.** -/
theorem exists_graph_of_exec_importFlow (hready : h.ReadyFor settings file x h₁) {r : Report}
    (himport : (h.exec (importFlow settings file)).1 = .ok r) :
    ∃ f g, (h.exec (flowFile file)).1 = .ok f ∧ f.draft.graph = .ok g := by
  obtain ⟨c, env, -, hopen, -⟩ := exec_openEngine_iff.mp hready.opens
  cases hf : (h₁.exec (flowFile file)).1 with
  | error e =>
    have hread := exec_flowFile h₁ file
    rw [hf] at hread
    unfold importFlow at himport
    rw [exec_bind_of_ok hready.opens, exec_bind_of_error hread] at himport
    exact nomatch himport
  | ok f =>
    -- what is read after the store has been opened was there before
    have hfile := (exec_flowFile_opened hopen hready.mayChange hready.file).mp hf
    cases hg : f.draft.graph with
    | ok g => exact ⟨f, g, hfile, hg⟩
    | error e =>
      have hstore := operates_store_of_error (h := h₁) hg
      rw [exec_importFlow hready.opens hf] at himport
      generalize h₁.operates f.store.run = found at hstore himport
      obtain ⟨r', h₂⟩ := found
      obtain rfl : r' = _ := hstore
      exact nomatch himport

/-- **That a flow file is checked predicts that it is imported.**  At a host where the store is empty,
the check of a file succeeds if and only if its import does.  And then what has been said about the
file, the numbers of its nodes and edges and its trigger, is so of the flow that is stored, and of the
one that is loaded. -/
theorem validate_predicts_import (hready : h.ReadyFor settings file x h₁) :
    ((∃ r, (h.exec (Command.script settings (.validate file))).1 = .ok r) ↔
      ∃ r, (h.exec (Command.script settings (.importFlow file))).1 = .ok r) ∧
    ∀ r h₂, h.exec (Command.script settings (.importFlow file)) = (.ok r, h₂) →
      ∃ f flow lines, (h.exec (flowFile file)).1 = .ok f ∧
        (h.exec (Command.script settings (.validate file))).1 = .ok (.good lines) ∧
        Listing.TellOf lines flow ∧ Listing.TellOf lines flow.reread ∧
        Imported settings x f flow h h₁ h₂ := by
  -- both commands succeed if and only if the file can be read and has a graph
  refine ⟨exec_validate_iff.trans ⟨?_, ?_⟩, ?_⟩
  · rintro ⟨f, g, hf, hg⟩
    obtain ⟨r, h₂, himport, -⟩ := exec_importFlow_of_ok hready hf hg
    exact ⟨r, congrArg (·.1) himport⟩
  · rintro ⟨r, himport⟩
    exact exists_graph_of_exec_importFlow hready himport
  · intro r h₂ himport
    obtain ⟨f, g, hf, hg⟩ := exists_graph_of_exec_importFlow hready (congrArg (·.1) himport)
    -- the import that has been predicted is the one that was made
    obtain ⟨r', h₂', himport', himported⟩ := exec_importFlow_of_ok hready hf hg
    obtain ⟨-, rfl⟩ := Prod.mk.inj (himport'.symm.trans himport)
    generalize f.flowIn g h.world = flow at himported
    -- what was checked is the graph of the flow that is stored, under the same name
    have hgraph : flow.graph = g := Except.ok.inj (himported.graph.symm.trans hg)
    refine ⟨f, flow, _, hf, congrArg (·.1) (exec_validate_of_ok hf hg), ?_, ?_, himported⟩
    · rw [← hgraph, ← himported.name]
      exact Listing.tellOf_checked flow
    · -- that it is read again changes neither the numbers nor the trigger
      rw [← hgraph, ← himported.name, ← Listing.checked_reread]
      exact Listing.tellOf_checked flow.reread

/-- Settings that name a store. -/
def sampleSettings : String := "[storage]\ndb_path = \"db\"\n"

/-- A flow file with an id. -/
def sampleText : String :=
  "\x7b\"id\": \"hello\", \"name\": \"Hello\", "
    ++ "\"nodes\": [\x7b\"id\": \"start\", \"type\": \"trigger\"\x7d, "
    ++ "\x7b\"id\": \"pause\", \"type\": \"delay\"\x7d], "
    ++ "\"edges\": [\x7b\"id\": \"next\", \"source\": \"start\", \"target\": \"pause\"\x7d]\x7d"

/-- A host with settings and a flow file. -/
def sample : Host where
  environment := fun _ => none
  directory := []
  files := [(["settings"], .text sampleSettings), (["file"], .text sampleText)]
  world := .start (.rows .empty) ⟨1700000000, 0⟩
  opened := .fleeting

theorem splitOn_sample : ∀ name ∈ ["settings", "file", "db"], name.splitOn "/" = [name] := by
  simp only [List.forall_mem_cons]
  refine ⟨?_, ?_, ?_, nofun⟩ <;>
  · rw [String.splitOn, if_neg (by decide)]
    repeat'
      rw [String.splitOnAux]
      simp +decide only [if_true, if_false]

theorem beginning_sample (path : String) : sample.beginning path = [] := by
  unfold beginning
  split <;> rfl

theorem contentAt?_sample :
    sample.contentAt? "settings" = some (.text sampleSettings) ∧
      sample.contentAt? "file" = some (.text sampleText) := by
  unfold contentAt?
  rw [splitOn_sample _ (by decide), splitOn_sample _ (by decide), beginning_sample,
    beginning_sample]
  exact ⟨rfl, rfl⟩

theorem openStore_sample : sample.openStore "db"
    = (true, sample.use .empty ⟨some ["db"], false, true⟩) := by
  have hl : sample.LeadsTo "db" (.ofPath "db") sample.files ["db"] := {
    made := by
      rw [parentParts, splitOn_sample _ (by decide)]
      rfl
    address := by decide +kernel
    kept := by decide
    place_eq := by
      show _ = Place.ofParts (sample.beginning "db") ("db".splitOn "/")
      rw [splitOn_sample _ (by decide), beginning_sample]
      rfl
    notRoot := rfl
    nameable := by decide
    like := rfl
    directory := by decide }
  exact hl.openStore rfl

theorem readyFor_sample : ∃ x, sample.ReadyFor "settings" "file" x
    (sample.use .empty ⟨some ["db"], false, true⟩) := by
  let env := sample.variablesOf (standingNames ++ Variables.names sampleSettings)
  have hpath : (Config.load env "settings" (some sampleSettings)).toOption.map (·.storePath env)
      = some "db" := by
    decide +kernel
  obtain ⟨c, hc, hpath⟩ := Option.map_eq_some_iff.mp hpath
  have hload : Config.load env "settings" (some sampleSettings) = .ok c := by
    cases hfound : Config.load env "settings" (some sampleSettings) with
    | error e =>
      rw [hfound] at hc
      exact nomatch hc
    | ok c' =>
      rw [hfound] at hc
      exact congrArg Except.ok (Option.some.inj hc)
  refine ⟨_, exec_openEngine_iff.mpr ⟨c, env, ?_, hpath ▸ openStore_sample, rfl⟩, rfl,
    ⟨_, rfl⟩, by rw [contentAt?_sample.2]; rfl⟩
  rw [exec_configuration_of_text contentAt?_sample.1]
  show ((Config.load env "settings" (some sampleSettings)).map _).mapError _ = _
  rw [hload]
  rfl

theorem graph_sample : ∃ f g, FlowFile.ofText? sampleText = some f ∧ f.draft.graph = .ok g ∧
    f.id = some "hello" := by
  have hread : ((FlowFile.ofText? sampleText).map fun f => (f.draft.graph.isOk, f.id))
      = some (true, some "hello") := by
    decide +kernel
  obtain ⟨f, hf, hboth⟩ := Option.map_eq_some_iff.mp hread
  obtain ⟨hok, hid⟩ := Prod.mk.inj hboth
  cases hg : f.draft.graph with
  | error e =>
    rw [hg] at hok
    exact nomatch hok
  | ok g => exact ⟨f, g, hf, hg, hid⟩

/-- At the host the file is checked and imported, and its flow is listed and run under its id. -/
theorem validate_predicts_import_sample :
    ∃ (x : Executor) (r : Report) (h₂ : Host) (flow : Flow),
    (∃ checked, (sample.exec (Command.script "settings" (.validate "file"))).1 = .ok checked) ∧
      sample.exec (Command.script "settings" (.importFlow "file")) = (.ok r, h₂) ∧
      flow.id = "hello" ∧ h₂.CommandsLoad "settings" x flow.reread := by
  obtain ⟨x, hready⟩ := readyFor_sample
  obtain ⟨f, g, hf, hg, hid⟩ := graph_sample
  have hfile : (sample.exec (flowFile "file")).1 = .ok f :=
    exec_flowFile_iff.mpr ⟨_, contentAt?_sample.2, hf⟩
  have hchecked : ∃ r, (sample.exec (Command.script "settings" (.validate "file"))).1 = .ok r :=
    exec_validate_iff.mpr ⟨f, g, hfile, hg⟩
  obtain ⟨hsame, hall⟩ := validate_predicts_import hready
  obtain ⟨r, hr⟩ := hsame.mp hchecked
  obtain ⟨f', flow, lines, hfile', -, -, -, himported⟩ := hall r _ (Prod.ext hr rfl)
  obtain rfl := Except.ok.inj (hfile'.symm.trans hfile)
  have hlegible : flow.createdAt.Legible := by
    rcases himported.createdAt with hcreated | hcreated <;> rw [hcreated]
    · exact ⟨by decide +kernel, by decide +kernel, by decide +kernel, by decide +kernel⟩
    · exact ⟨by decide +kernel, by decide +kernel, by decide +kernel, by decide +kernel⟩
  have hkeeps : sample.KeepsFor "settings" (sample.use .empty ⟨some ["db"], false, true⟩) :=
    ⟨by decide, exec_configuration_opened openStore_sample rfl contentAt?_sample.1 (by decide)⟩
  exact ⟨x, r, _, flow, hchecked, Prod.ext hr rfl, himported.id _ hid,
    himported.reloads hlegible hkeeps⟩

end Host

end Flowgraph.CommandLine
