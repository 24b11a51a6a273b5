import Flowgraph.Agent.Directory
import Flowgraph.Config.Path
import Flowgraph.Config.Variables
import Flowgraph.Handler.Builtin
import Flowgraph.Run.Executor
import Flowgraph.Schedule.Basic
import Flowgraph.Toml.Reader
import Flowgraph.Toml.Writer

/-!
# The configuration

All that is set from outside: the engine, the store, the model, the agents, the gateway and the
schedules.  `Config.read` makes a configuration of the text of a settings file, `Config.text?`
writes one, and every part that a file leaves out has a value of its own.
-/

namespace Flowgraph

namespace Config

/-- **What is logged** about runs, and where. -/
structure Log where
  enabled : Bool
  directory : Option String
  /-- From two on, every step is logged, and below that only how runs begin and end. -/
  level : Nat
  deriving DecidableEq, Repr

namespace Log

/-- The log when it is asked for and nothing else is said. -/
def standard : Log := ⟨true, none, 2⟩

/-- The members of the log's settings in data. -/
def fields : List Field :=
  [.withDefault "enabled" Decoder.boolean standard.enabled,
    .withDefault "log_dir" (Decoder.optional Decoder.string) standard.directory,
    .withDefault "level" (Decoder.natural (Nat.pow 2 8) "u8") standard.level]

/-- Reads the log's settings. -/
def decoder : Decoder Log := fun t =>
  (Decoder.record "LogConfig" fields t).map fun (enabled, directory, level, ()) =>
    ⟨enabled, directory, level⟩

end Log

/-- **How flows run.** -/
structure Engine where
  settings : Settings
  maxSteps : Nat
  /-- The directory of all files that have no place of their own. -/
  workspace : String
  log : Option Log

namespace Engine

/-- The engine when nothing else is said. -/
def standard : Engine := ⟨Settings.standard, Executor.standardLimit, "~/.zenflow", none⟩

/-- The members of the engine's settings in data. -/
def fields : List Field :=
  [.withDefault "agent_timeout_secs" (Decoder.natural (Nat.pow 2 64) "u64")
      standard.settings.agentTimeout,
    .withDefault "default_delay_secs" (Decoder.extended "f64") standard.settings.defaultDelay,
    .withDefault "max_steps" (Decoder.natural (Nat.pow 2 64) "usize") standard.maxSteps,
    .withDefault "workspace" Decoder.string standard.workspace,
    .withDefault "log" (Decoder.optional Log.decoder) standard.log]

/-- Reads the engine's settings. -/
def decoder : Decoder Engine := fun t =>
  (Decoder.record "EngineConfig" fields t).map fun (timeout, delay, maxSteps, workspace, log, ()) =>
    ⟨⟨timeout, delay⟩, maxSteps, workspace, log⟩

end Engine

/-- Reads the settings of the store: the path of its file. -/
def storageDecoder : Decoder (Option String) := fun t =>
  (Decoder.record "StorageConfig"
    [.withDefault "db_path" (Decoder.optional Decoder.string) none] t).map fun (path, ()) => path

/-- The address of the gateway when no other is given. -/
def standardAddress : String := "127.0.0.1:8000"

/-- Reads the settings of the gateway: its address. -/
def gatewayDecoder : Decoder String := fun t =>
  (Decoder.record "GatewayConfig"
    [.withDefault "bind" Decoder.string standardAddress] t).map fun (address, ()) => address

end Config

/-- **The configuration.** -/
structure Config where
  engine : Config.Engine
  /-- The file of the store. -/
  store : Option String
  model : Option Model
  agents : List Profile
  /-- The address of the gateway. -/
  address : String
  schedules : List Schedule

namespace Config

/-- The configuration when nothing is said. -/
def standard : Config := ⟨Engine.standard, none, none, [], standardAddress, []⟩

/-! ### Reading -/

/-- The members of a configuration in data. -/
def fields : List Field :=
  [.withDefault "engine" Engine.decoder standard.engine,
    .withDefault "storage" storageDecoder standard.store,
    .withDefault "model" (Decoder.optional Model.decoder) standard.model,
    .withDefault "agents" (Decoder.list Profile.decoder) standard.agents,
    .withDefault "gateway" gatewayDecoder standard.address,
    .withDefault "schedules" (Decoder.list Schedule.decoder) standard.schedules]

/-- Reads a configuration. -/
def decoder : Decoder Config := fun t =>
  (Decoder.record "AppConfig" fields t).map
    fun (engine, store, model, agents, address, schedules, ()) =>
      ⟨engine, store, model, agents, address, schedules⟩

/-- **The configuration in the text of a file**, its variables filled in first. -/
def read (env : Environment) (text : String) : Except Fault Config :=
  match Toml.read? (Variables.expand env text) with
  | none => .error (.config "malformed settings")
  | some t => (decoder t).mapError fun e => .config e.message

/-- The configuration in the file at a path, of which `content` is the text.  A file that holds no
text counts as missing. -/
def load (env : Environment) (path : String) (content : Option String) : Except Fault Config :=
  match content with
  | none => .error (.configNotFound path)
  | some text => read env text

/-! ### What it comes to -/

/-- The directory of all files that have no place of their own. -/
def workspaceDirectory (c : Config) (env : Environment) : String :=
  Path.expandHome env c.engine.workspace

/-- The file of the store. -/
def storePath (c : Config) (env : Environment) : String :=
  match c.store with
  | some path => Path.expandHome env path
  | none => Path.join (c.workspaceDirectory env) "zenflow.db"

/-- The directory of the logs, if anything is logged. -/
def logDirectory? (c : Config) (env : Environment) : Option String :=
  (c.engine.log.filter (·.enabled)).map fun log =>
    match log.directory with
    | some path => Path.expandHome env path
    | none => Path.join (c.workspaceDirectory env) "logs"

/-- **The model of an agent**: its own, else the one for all, else the standard one. -/
def modelFor (c : Config) (p : Profile) : Model := (p.model.or c.model).getD Model.standard

/-- **The agents of the configuration**, each with its model. -/
def directory (c : Config) (env : Environment) : Directory :=
  .ofList (c.agents.map fun p => .ofChat (Chat.start p (c.modelFor p) env))

/-! ### As data -/

/-- The data of the log's settings. -/
def Log.toJson (l : Log) : Json :=
  Json.ofMembers [("enabled", .bool l.enabled), ("log_dir", .ofOption (l.directory.map .str)),
    ("level", .ofNat l.level)]

/-- The data of the engine's settings. -/
def Engine.toJson (e : Engine) : Json :=
  Json.ofMembers [("agent_timeout_secs", .ofNat e.settings.agentTimeout),
    ("default_delay_secs", .ofExtended e.settings.defaultDelay), ("max_steps", .ofNat e.maxSteps),
    ("workspace", .str e.workspace), ("log", .ofOption (e.log.map Log.toJson))]

/-- The data of a configuration. -/
def toJson (c : Config) : Json :=
  Json.ofMembers [("engine", c.engine.toJson),
    ("storage", Json.ofMembers [("db_path", .ofOption (c.store.map .str))]),
    ("model", .ofOption (c.model.map Model.toJson)),
    ("agents", .arr (c.agents.map Profile.toJson)),
    ("gateway", Json.ofMembers [("bind", .str c.address)]),
    ("schedules", .arr (c.schedules.map Schedule.toJson))]

/-! ### As a settings file

Members stand in the order of declaration, and those that are absent are left out. -/

/-- A natural number in a file. -/
def natTree (n : Nat) : Tree := .num (.int n)

/-- A member of a table, if it is there. -/
def member {α : Type} (key : String) (f : α → Tree) (a : Option α) : List (String × Tree) :=
  a.toList.map fun a => (key, f a)

/-- The table of a policy of retries. -/
def retryTree (p : RetryPolicy) : Tree :=
  .obj [("max_retries", natTree p.maxRetries), ("initial_backoff_ms", natTree p.initialWait),
    ("max_backoff_ms", natTree p.maxWait)] .strict

/-- The table of a model. -/
def modelTree (m : Model) : Tree :=
  .obj ([("provider", .str m.provider), ("model_id", .str m.modelId)]
    ++ member "api_key" .str m.apiKey ++ member "base_url" .str m.baseUrl
    ++ [("max_tokens", natTree m.maxTokens), ("temperature", .special m.temperature.convert)]
    ++ member "retry" retryTree m.retry) .strict

/-- The table of a profile. -/
def profileTree (p : Profile) : Tree :=
  .obj ([("id", .str p.id), ("name", .str p.name), ("kind", .str p.kind),
    ("system_prompt", .str p.systemPrompt)] ++ member "model" modelTree p.model) .strict

/-- The table of a schedule. -/
def scheduleTree (s : Schedule) : Tree :=
  .obj ([("name", .str s.name), ("flow_id", .str s.flowId), ("cron", .str s.cron)]
    ++ member "payload" Tree.ofJson s.payload) .strict

/-- The table of the log's settings. -/
def logTree (l : Log) : Tree :=
  .obj ([("enabled", .bool l.enabled)] ++ member "log_dir" .str l.directory
    ++ [("level", natTree l.level)]) .strict

/-- The table of the engine's settings. -/
def engineTree (e : Engine) : Tree :=
  .obj ([("agent_timeout_secs", natTree e.settings.agentTimeout),
    ("default_delay_secs", .special e.settings.defaultDelay), ("max_steps", natTree e.maxSteps),
    ("workspace", .str e.workspace)] ++ member "log" logTree e.log) .strict

/-- The tables of a configuration. -/
def trees (c : Config) : List (String × Tree) :=
  [("engine", engineTree c.engine), ("storage", .obj (member "db_path" .str c.store) .strict)]
    ++ member "model" modelTree c.model
    ++ [("agents", .arr (c.agents.map profileTree) .strict),
      ("gateway", .obj [("bind", .str c.address)] .strict),
      ("schedules", .arr (c.schedules.map scheduleTree) .strict)]

/-- **The text of a configuration as a settings file**, unless a payload has no text. -/
def text? (c : Config) : Option String := Toml.write? c.trees

end Config

end Flowgraph
