import Flowgraph.Handler.Builtin

/-!
# Registries of handlers

A registry says which handler a type of nodes has.  A type that is not registered has the handler
that hands the payload on, so that flows with unknown types still run.
-/

namespace Flowgraph

/-- **Handlers by type**, in increasing order of the types, each type once. -/
structure Registry where
  entries : List (String × Handler)

namespace Registry

/-- The registry without entries. -/
def empty : Registry := ⟨[]⟩

/-- Puts an entry in its place among others, instead of an older one of the same type. -/
def place (type : String) (h : Handler) : List (String × Handler) → List (String × Handler)
  | [] => [(type, h)]
  | (t, g) :: rest =>
    if type < t then (type, h) :: (t, g) :: rest
    else if type = t then (type, h) :: rest
    else (t, g) :: place type h rest

/-- The registry with a handler for a type.  The last registration counts. -/
def register (r : Registry) (type : String) (h : Handler) : Registry := ⟨place type h r.entries⟩

/-- A type is registered. -/
def contains (r : Registry) (type : String) : Bool := r.entries.any (·.1 == type)

/-- The registry without an entry for a type. -/
def unregister (r : Registry) (type : String) : Registry :=
  ⟨r.entries.filter fun e => e.1 != type⟩

/-- **The handler of a type.** -/
def get (r : Registry) (type : String) : Handler :=
  match r.entries.find? (·.1 == type) with
  | some (_, h) => h
  | none => Handler.passThrough

/-- The registered types, in order. -/
def types (r : Registry) : List String := r.entries.map (·.1)

/-- **The registry of the built-in types.** -/
def builtin (agents : Directory) (settings : Settings) : Registry :=
  NodeType.all.foldl (fun r t => r.register t.name (Handler.ofType agents settings t)) empty

end Registry

end Flowgraph
