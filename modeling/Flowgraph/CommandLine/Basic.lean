import Flowgraph.CommandLine.Arguments
import Flowgraph.CommandLine.FlowFile
import Flowgraph.CommandLine.Listing
import Flowgraph.CommandLine.Script
import Flowgraph.Version

/-!
# The command line

What the program does with its arguments.  Each command is a script; what it says and the code that
it leaves are its outcome.
-/

namespace Flowgraph.CommandLine

/-- **What a command says** when it does not fail. -/
structure Report where
  lines : List String
  /-- It ends well: of a run, that the run did. -/
  success : Bool
  deriving DecidableEq, Repr

/-- The report of a command that ends well. -/
def Report.good (lines : List String) : Report := ⟨lines, true⟩

/-- **What the program leaves behind.** -/
inductive Outcome where
  /-- A command has ended and says something. -/
  | reported (r : Report)
  /-- A command has failed. -/
  | failed (f : CommandFault)
  /-- The arguments make no sense. -/
  | misused (m : Misuse)
  deriving DecidableEq, Repr

namespace Outcome

/-- The code of an outcome. -/
def code : Outcome → Nat
  | .reported r => if r.success then 0 else 1
  | .failed _ => 1
  | .misused _ => 2

/-- The lines that are said. -/
def lines : Outcome → List String
  | .reported r => r.lines
  | .failed _ | .misused _ => []

/-- The complaint, if there is one. -/
def complaint? : Outcome → Option String
  | .reported _ => none
  | .failed f => some ("Error: " ++ f.message)
  | .misused m => some ("error: " ++ m.message)

/-- The outcome of a command. -/
def ofResult : Except CommandFault Report → Outcome
  | .ok r => .reported r
  | .error f => .failed f

end Outcome

/-! ### The configuration -/

/-- The variables of these names. -/
def environment (names : List String) : Script Environment := do
  let known ← names.mapM fun name => return (name, ← Script.ask (.variable name))
  return fun name => (known.find? (·.1 == name)).bind (·.2)

/-- The variables that are asked for whatever the settings say. -/
def standingNames : List String := ["HOME", Model.keyVariable]

/-- **The path of the settings**: the one that was given if there is anything, else the one in the
home directory. -/
def settingsPath (given : String) : Script (Option String) := do
  if ← Script.ask (.pathExists given) then return some given
  match ← Script.ask (.variable "HOME") with
  | none => return none
  | some home =>
    let path := Path.join (Path.join home ".zenflow") "config.toml"
    if ← Script.ask (.pathExists path) then return some path else return none

/-- **The configuration**, and the variables that it hangs on. -/
def configuration (given : String) : Script (Config × Environment) := do
  match ← settingsPath given with
  | none => return (Config.standard, ← environment standingNames)
  | some path =>
    let content ← Script.ask (.readText path)
    let env ← environment (standingNames ++ (content.map Variables.names).getD [])
    return (← Script.ofExcept (Config.load env path content), env)

/-- Opens the store of the configuration, and gives what runs flows. -/
def openEngine (given : String) : Script Executor := do
  let (config, env) ← configuration given
  let path := config.storePath env
  if ← Script.ask (.openStore path) then
    let handlers := Registry.builtin (config.directory env) config.engine.settings
    return .withLimit handlers config.engine.maxSteps
  else throw (.unopened path)

/-! ### What commands are given -/

/-- Reads a flow file. -/
def flowFile (path : String) : Script FlowFile := do
  match ← Script.ask (.readText path) with
  | none => throw (.unreadable path)
  | some text =>
    match FlowFile.ofText? text with
    | none => throw (.malformed path)
    | some f => return f

/-- The payload of a run: the value that its text stands for, or the text itself. -/
def payloadOf (text : String) : Json := (Json.ofText? text).getD (.str text)

/-- The name and the value of a variable. -/
def variableOf (text : String) : Except CommandFault (String × Json) :=
  let cs := text.toList
  match cs.dropWhile (· != '=') with
  | [] => .error (.badVariable text)
  | _ :: value => .ok (String.ofList (cs.takeWhile (· != '=')), .str (String.ofList value))

/-- **What a run starts with.** -/
def contextOf (payload : Option String) (assignments : List String) :
    Except CommandFault Context := do
  let given ← assignments.mapM variableOf
  let start : Context := ⟨(payload.map payloadOf).getD .null, []⟩
  return given.foldl (fun c v => c.set v.1 v.2) start

/-! ### The commands -/

/-- **Checks the flow of a file.** -/
def validate (file : String) : Script Report := do
  let f ← flowFile file
  return .good (Listing.checked f.draft.name (← Script.ofExcept f.draft.graph))

/-- **Stores the flow of a file.** -/
def importFlow (settings file : String) : Script Report := do
  let _ ← openEngine settings
  let f ← flowFile file
  let flow ← Script.perform f.store
  return .good ["Imported flow " ++ flow.id ++ " (" ++ flow.name ++ ")"]

/-- **Runs a stored flow.** -/
def runFlow (settings flow : String) (payload : Option String) (assignments : List String) :
    Script Report := do
  let x ← openEngine settings
  let ctx ← ExceptT.mk (pure (contextOf payload assignments))
  let finished ← Script.perform (Flows.execute x flow ctx)
  return ⟨[finished.record.toJson.pretty 0], finished.record.success⟩

/-- **What each command does**, with the settings at a path. -/
def Command.script (settings : String) : Command → Script Report
  | .importFlow file => CommandLine.importFlow settings file
  | .run flow payload assignments => runFlow settings flow payload assignments
  | .validate file => CommandLine.validate file
  | .flows => do
    let _ ← openEngine settings
    return .good (Listing.flows (← Script.perform Flows.list))
  | .executions flow => do
    let _ ← openEngine settings
    return .good ((← Script.perform (Flows.executions flow)).map Listing.recordLine)
  | .nodeTypes => return .good Listing.nodeTypes
  | .config => do
    let (c, _) ← configuration settings
    match c.text? with
    | some text => return .good [text]
    | none => throw .unwritable

/-! ### The program -/

/-- The line that tells the version. -/
def versionLine : String := "zenflow " ++ version

/-- The lines that tell how the program is called. -/
def helpLines : List String :=
  ["Usage: zenflow [--config FILE] COMMAND", "", "Commands:"] ++
    Call.all.map fun c =>
      "  " ++ Listing.left 12 c.name ++ " ".intercalate (c.operand.toList
        ++ c.flags.map fun f => "[--" ++ f.name ++ " VALUE]")

/-- **The program**, called with these arguments. -/
def program (arguments : List String) :
    Interaction Script.Request Script.Request.Answer Outcome :=
  match Invocation.ofArguments arguments with
  | .error m => return .misused m
  | .ok .version => return .reported (.good [versionLine])
  | .ok .help => return .reported (.good helpLines)
  | .ok (.command settings c) => do return .ofResult (← (c.script settings).run)

end Flowgraph.CommandLine
