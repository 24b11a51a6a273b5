import Flowgraph.Config.Basic
import Flowgraph.Interaction
import Flowgraph.Operation.Basic
import Flowgraph.Flow.Operations

/-!
# Scripts

A script is what a command does where it is called: it asks for variables of the environment and for
files, it opens a store, and it makes the requests of operations on that store.  It may fail, and
then nothing more is asked.
-/

namespace Flowgraph.CommandLine

/-- **What a script may ask for.** -/
inductive Script.Request where
  /-- Reads a variable of the environment. -/
  | variable (name : String)
  /-- Tells whether there is a file or a directory at a path. -/
  | pathExists (path : String)
  /-- Reads the text of a file, if there is a file of text at the path. -/
  | readText (path : String)
  /-- Opens the store in the file at a path, a new one if there is none; tells whether it could. -/
  | openStore (path : String)
  /-- Makes a request of an operation on the store that was opened. -/
  | operate (q : Flowgraph.Request)

/-- What answers a request. -/
@[reducible] def Script.Request.Answer : Script.Request → Type
  | .variable _ => Option String
  | .pathExists _ => Bool
  | .readText _ => Option String
  | .openStore _ => Bool
  | .operate q => q.Answer

/-- **Why a command fails.** -/
inductive CommandFault where
  /-- A flow file cannot be read. -/
  | unreadable (path : String)
  /-- A flow file is no flow. -/
  | malformed (path : String)
  /-- The store cannot be opened. -/
  | unopened (path : String)
  /-- A variable of a run has no value. -/
  | badVariable (text : String)
  /-- The configuration has no text. -/
  | unwritable
  | fault (f : Fault)
  deriving DecidableEq, Repr

/-- The text of a cause. -/
def CommandFault.message : CommandFault → String
  | .unreadable path => "reading " ++ path
  | .malformed path => "parsing " ++ path
  | .unopened path => "opening database " ++ path
  | .badVariable text => "invalid variable '" ++ text ++ "', expected KEY=VALUE"
  | .unwritable => "unsupported unit type"
  | .fault f => f.message

/-- **A script** that ends with a value or fails. -/
abbrev Script : Type → Type :=
  ExceptT CommandFault (Interaction Script.Request Script.Request.Answer)

namespace Script

/-- The script of one request. -/
def ask (q : Request) : Script q.Answer := ExceptT.lift (Interaction.request q)

/-- Does something with the stored flows. -/
def perform {α : Type} (o : Attempt α) : Script α :=
  ExceptT.mk
    ((Interaction.carry (fun q => Interaction.request (Request.operate q)) o.run) >>= fun
      | .ok a => return .ok a
      | .error f => return .error (.fault f))

/-- What can go wrong elsewhere goes wrong here. -/
def ofExcept {α : Type} (e : Except Fault α) : Script α :=
  ExceptT.mk (Interaction.done (e.mapError .fault))

end Script

end Flowgraph.CommandLine
