import Flowgraph.Agent.Profile

/-!
# Paths in settings

Paths are joined as they are written: nothing is looked up and nothing is tidied.
-/

namespace Flowgraph.Path

/-- **A path within another**: a path from the root stands alone, and otherwise one separator stands
between the two. -/
def join (base path : String) : String :=
  if path.startsWith "/" || base.isEmpty then path
  else if base.endsWith "/" then base ++ path
  else base ++ "/" ++ path

/-- The text behind a given start, if it starts so. -/
def behind? (start s : String) : Option String :=
  if s.startsWith start then some (s.drop start.length).toString else none

/-- **A path with the home directory in place of a `~`** before the first separator, if the home
directory is known. -/
def expandHome (env : Environment) (path : String) : String :=
  match behind? "~/" path, env "HOME" with
  | some rest, some home => join home rest
  | _, _ => path

end Flowgraph.Path
