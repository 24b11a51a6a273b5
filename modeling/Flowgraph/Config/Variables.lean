import Flowgraph.Agent.Profile

/-!
# Variables in settings

A settings file names variables of the environment as `$` and a name in braces.  They are filled in
before anything else is done with the file, once: a value that names variables itself stays as it
is.
-/

namespace Flowgraph.Variables

/-- What stands in place of a variable: its value, or the variable again if it has none. -/
def valueOf (env : Environment) (name : List Char) : List Char :=
  match env (String.ofList name) with
  | some value => value.toList
  | none => '$' :: '\x7b' :: name ++ ['\x7d']

/-- **The text with the values of its variables.**  `name` holds what has been read of a variable's
name, last character first; the end of the text closes one that is still open. -/
def fill (env : Environment) : (name : Option (List Char)) → List Char → List Char
  | none, [] => []
  | some name, [] => valueOf env name.reverse
  | none, '$' :: '\x7b' :: rest => fill env (some []) rest
  | none, c :: rest => c :: fill env none rest
  | some name, c :: rest =>
    if c = '\x7d' then valueOf env name.reverse ++ fill env none rest
    else fill env (some (c :: name)) rest

/-- The text with the values of its variables. -/
def expand (env : Environment) (s : String) : String := String.ofList (fill env none s.toList)

/-- The names of the variables in a text, in order; `name` is as in `fill`. -/
def namesFrom : (name : Option (List Char)) → List Char → List String
  | none, [] => []
  | some name, [] => [String.ofList name.reverse]
  | none, '$' :: '\x7b' :: rest => namesFrom (some []) rest
  | none, _ :: rest => namesFrom none rest
  | some name, c :: rest =>
    if c = '\x7d' then String.ofList name.reverse :: namesFrom none rest
    else namesFrom (some (c :: name)) rest

/-- **The names of the variables that a text has a place for.** -/
def names (s : String) : List String := namesFrom none s.toList

end Flowgraph.Variables
