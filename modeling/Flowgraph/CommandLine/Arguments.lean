/-!
# Arguments of the command line

The words behind the name of the program: options of the program, then the name of a command, then
the options and operands of that command.  `Invocation.ofArguments` reads them from left to right
and stops at the first that it cannot place.

An option takes its value from behind an equals sign or, as one letter, from what follows the
letter; otherwise from the next word, which must not begin with a hyphen.  Behind `--` every word is
an operand.
-/

namespace Flowgraph.CommandLine

/-- **What the program can be told to do.** -/
inductive Command where
  /-- Stores the flow of a file. -/
  | importFlow (file : String)
  /-- Runs a stored flow once. -/
  | run (flow : String) (payload : Option String) (assignments : List String)
  /-- Checks the flow of a file. -/
  | validate (file : String)
  /-- Lists the stored flows. -/
  | flows
  /-- Lists the records of runs, of one flow or of all. -/
  | executions (flow : Option String)
  /-- Lists the built-in types of nodes. -/
  | nodeTypes
  /-- Shows the configuration. -/
  | config
  deriving DecidableEq, Repr

/-- **What the arguments ask for.** -/
inductive Invocation where
  /-- A command, with the path of the settings file. -/
  | command (settings : String) (c : Command)
  | version
  | help
  deriving DecidableEq, Repr

/-- **Why the arguments make no sense.** -/
inductive Misuse where
  /-- A word has no place. -/
  | unexpected (word : String)
  /-- An option has no value, or an empty one that it does not take. -/
  | lacksValue (option : String)
  /-- An option is given twice. -/
  | repeated (option : String)
  /-- An operand is missing. -/
  | lacksOperand (name : String)
  /-- There is no command. -/
  | lacksCommand
  deriving DecidableEq, Repr

/-- The text of a misuse. -/
def Misuse.message : Misuse → String
  | .unexpected word => "unexpected argument '" ++ word ++ "'"
  | .lacksValue option => "a value is required for '--" ++ option ++ "'"
  | .repeated option => "the option '--" ++ option ++ "' cannot be used more than once"
  | .lacksOperand name => "the argument <" ++ name ++ "> is missing"
  | .lacksCommand => "a command is required"

/-! ### Options -/

/-- **An option** with a value. -/
structure Flag where
  name : String
  letter : Option Char
  /-- It may be given more than once. -/
  mayRepeat : Bool
  /-- Its value may be empty. -/
  mayBeEmpty : Bool
  deriving DecidableEq, Repr

/-- The option that names the settings file. -/
def settingsFlag : Flag := ⟨"config", some 'c', false, false⟩

/-- The option that gives the payload of a run. -/
def payloadFlag : Flag := ⟨"payload", none, false, true⟩

/-- The option that sets a variable of a run. -/
def variableFlag : Flag := ⟨"var", none, true, true⟩

/-- The option that picks the records of a flow. -/
def flowFlag : Flag := ⟨"flow", none, false, true⟩

/-- What a word is. -/
inductive Word where
  | operand
  /-- An option, with its value if that stands in the same word. -/
  | option (f : Flag) (value : Option (List Char))
  | version
  | help
  /-- Every word behind this one is an operand. -/
  | endOfOptions
  | unknown
  deriving DecidableEq, Repr

/-- The text behind an equals sign at the start. -/
def behindEquals : List Char → List Char
  | '=' :: rest => rest
  | cs => cs

/-- What a word with two hyphens is. -/
def longWord (flags : List Flag) (hasVersion : Bool) (cs : List Char) : Word :=
  let name := String.ofList (cs.takeWhile (· != '='))
  let attached := cs.dropWhile (· != '=')
  match flags.find? (·.name == name) with
  | some f => .option f (if attached.isEmpty then none else some (behindEquals attached))
  | none =>
    if !attached.isEmpty then .unknown
    else if name = "help" then .help
    else if name = "version" && hasVersion then .version
    else .unknown

/-- What a word with one hyphen is. -/
def shortWord (flags : List Flag) (hasVersion : Bool) (letter : Char) (rest : List Char) : Word :=
  match flags.find? (·.letter == some letter) with
  | some f => .option f (if rest.isEmpty then none else some (behindEquals rest))
  | none =>
    if letter = 'h' then .help else if letter = 'V' && hasVersion then .version else .unknown

/-- **What a word is** where these options may stand. -/
def wordOf (flags : List Flag) (hasVersion : Bool) (s : String) : Word :=
  match s.toList with
  | ['-', '-'] => .endOfOptions
  | '-' :: '-' :: cs => longWord flags hasVersion cs
  | '-' :: c :: rest => shortWord flags hasVersion c rest
  | _ => .operand

/-! ### The words of a command -/

/-- What has been found among the words of a command: its options with their values, and its
operands. -/
structure Found where
  options : List (Flag × String)
  operands : List String
  deriving Repr

namespace Found

/-- The values of an option. -/
def values (f : Found) (flag : Flag) : List String :=
  (f.options.filter (·.1 == flag)).map (·.2)

/-- One more option. -/
def addOption (f : Found) (flag : Flag) (value : String) : Except Misuse Found :=
  if !flag.mayRepeat && f.options.any (·.1 == flag) then .error (.repeated flag.name)
  else if !flag.mayBeEmpty && value.isEmpty then .error (.lacksValue flag.name)
  else .ok { f with options := f.options ++ [(flag, value)] }

/-- More operands, of which a command has no more than it names. -/
def addOperands (f : Found) (most : Nat) (words : List String) : Except Misuse Found :=
  let operands := f.operands ++ words
  match operands[most]? with
  | some word => .error (.unexpected word)
  | none => .ok { f with operands }

end Found

/-- A word that can be the value of an option before it. -/
def isValue (flags : List Flag) (s : String) : Bool := wordOf flags false s == .operand

/-- **Reads the words of a command** that has these options and at most so many operands; nothing
comes of it if they ask for help. -/
def readWords (flags : List Flag) (most : Nat) (f : Found) :
    List String → Except Misuse (Option Found)
  | [] => .ok (some f)
  | word :: rest =>
    match wordOf flags false word with
    | .operand => do readWords flags most (← f.addOperands most [word]) rest
    | .endOfOptions => return some (← f.addOperands most rest)
    | .option flag (some value) => do
      readWords flags most (← f.addOption flag (String.ofList value)) rest
    | .option flag none =>
      match rest with
      | value :: rest =>
        if isValue flags value then do readWords flags most (← f.addOption flag value) rest
        else .error (.lacksValue flag.name)
      | [] => .error (.lacksValue flag.name)
    | .help => .ok none
    | .version | .unknown => .error (.unexpected word)

/-! ### Commands -/

/-- **A command as it is called**: its name, its options, its operand if it has one, and the command
that they make. -/
structure Call where
  name : String
  flags : List Flag
  operand : Option String
  /-- The operand may be empty. -/
  mayBeEmpty : Bool
  make : Found → String → Command

namespace Call

/-- A command that stands alone. -/
def alone (name : String) (c : Command) : Call := ⟨name, [], none, true, fun _ _ => c⟩

/-- A command on a file. -/
def onFile (name : String) (make : String → Command) : Call :=
  ⟨name, [], some "FILE", false, fun _ file => make file⟩

/-- **Every command.** -/
def all : List Call :=
  [onFile "import" .importFlow,
    ⟨"run", [payloadFlag, variableFlag], some "FLOW_ID", true,
      fun f flow => .run flow (f.values payloadFlag).head? (f.values variableFlag)⟩,
    onFile "validate" .validate,
    alone "flows" .flows,
    ⟨"executions", [flowFlag], none, true, fun f _ => .executions (f.values flowFlag).head?⟩,
    alone "node-types" .nodeTypes,
    alone "config" .config]

/-- The command of a call with these words. -/
def command (c : Call) (words : List String) : Except Misuse (Option Command) := do
  match ← readWords c.flags c.operand.toList.length ⟨[], []⟩ words with
  | none => return none
  | some f =>
    match c.operand, f.operands with
    | some name, [] => throw (.lacksOperand name)
    | some name, word :: _ =>
      if word.isEmpty && !c.mayBeEmpty then throw (.lacksOperand name) else return c.make f word
    | none, _ => return c.make f ""

end Call

/-- The path of the settings file when none is given. -/
def standardSettings : String := "zenflow.toml"

namespace Invocation

/-- The words ask for help with nothing, or with one command. -/
def helpOn : List String → Except Misuse Invocation
  | [] => .ok .help
  | name :: rest =>
    if name = "help" || Call.all.any (·.name == name) then
      match rest with
      | [] => .ok .help
      | word :: _ => .error (.unexpected word)
    else .error (.unexpected name)

/-- The invocation of a command by its name. -/
def ofCommand (settings : Option String) (name : String) (words : List String) :
    Except Misuse Invocation :=
  if name = "help" then helpOn words
  else
    match Call.all.find? (·.name == name) with
    | none => .error (.unexpected name)
    | some call => do
      match ← call.command words with
      | some c => return .command (settings.getD standardSettings) c
      | none => return .help

/-- The settings file is given. -/
def withSettings (settings : Option String) (value : String) : Except Misuse String :=
  if settings.isSome then .error (.repeated settingsFlag.name)
  else if value.isEmpty then .error (.lacksValue settingsFlag.name)
  else .ok value

/-- Reads the words of the program, once it is known whether a settings file is given. -/
def read (settings : Option String) : List String → Except Misuse Invocation
  | [] => .error .lacksCommand
  | word :: rest =>
    match wordOf [settingsFlag] true word with
    | .operand => ofCommand settings word rest
    | .option _ (some value) => do
      read (some (← withSettings settings (String.ofList value))) rest
    | .option flag none =>
      match rest with
      | value :: rest =>
        if isValue [settingsFlag] value then do read (some (← withSettings settings value)) rest
        else .error (.lacksValue flag.name)
      | [] => .error (.lacksValue flag.name)
    | .version => .ok .version
    | .help => .ok .help
    | .endOfOptions | .unknown => .error (.unexpected word)

/-- **What the arguments ask for.** -/
def ofArguments (words : List String) : Except Misuse Invocation := read none words

end Invocation

end Flowgraph.CommandLine
