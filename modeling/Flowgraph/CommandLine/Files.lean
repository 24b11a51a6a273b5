import Flowgraph.Store.Rows

/-!
# Files

The files and directories below a root.  A path is followed part by part, and every part of it but
the last leads out of a directory that is there.
-/

namespace Flowgraph.CommandLine

/-- **What stands at a place.** -/
inductive Content where
  | text (s : String)
  /-- Bytes that are no text. -/
  | bytes
  /-- A store; `logged` says that its changes go through a log that lies beside the file. -/
  | store (rows : RowStore) (logged : Bool)
  | directory
  deriving Repr

/-- There is a directory. -/
def Content.isDirectory : Content → Bool
  | .directory => true
  | _ => false

/-- A place from the root: the names of its directories and its own. -/
abbrev Place := List String

namespace Place

/-- One part of a path after those before it. -/
def follow (here : Place) (part : String) : Place :=
  if part = "" || part = "." then here
  else if part = ".." then here.dropLast
  else here ++ [part]

/-- A place that a path names, whatever stands on the way. -/
def ofParts (here : Place) (parts : List String) : Place := parts.foldl follow here

/-- The place lies below another one. -/
def isBelow (place above : Place) : Bool :=
  above.isPrefixOf place && above.length < place.length

/-- Each name is short enough for a file. -/
def isNameable (place : Place) : Bool := place.all fun name => name.utf8ByteSize ≤ 255

end Place

/-- **The files below a root**, and the directories that hold nothing. -/
abbrev Files := List (Place × Content)

namespace Files

/-- What stands at a place.  Where something stands, there are directories above it. -/
def at? (files : Files) (place : Place) : Option Content :=
  match files.find? (·.1 == place) with
  | some (_, content) => some content
  | none =>
    if place.isEmpty || files.any (fun f => f.1.isBelow place) then some .directory else none

/-- There is a directory at a place. -/
def hasDirectory (files : Files) (place : Place) : Bool :=
  (files.at? place).any Content.isDirectory

/-- The files with another content at a place. -/
def put (files : Files) (place : Place) (content : Content) : Files :=
  files.filter (·.1 != place) ++ [(place, content)]

/-- **The place that some parts lead to**, if there is a directory before each of them. -/
def walk? (files : Files) (here : Place) : List String → Option Place
  | [] => some here
  | part :: rest =>
    if files.hasDirectory here then walk? files (here.follow part) rest else none

/-- **Makes the directories** that some parts lead through, unless a file is in the way. -/
def makeDirectories? (files : Files) (here : Place) : List String → Option Files
  | [] => some files
  | part :: rest =>
    let next := here.follow part
    match files.at? next with
    | some .directory => makeDirectories? files next rest
    | some _ => none
    | none =>
      if next.isNameable then makeDirectories? (files.put next .directory) next rest else none

end Files

/-- The parts of a path that lead to the directory that it is in. -/
def parentParts (path : String) : List String :=
  ((path.splitOn "/").filter fun part => !(part = "" || part = ".")).dropLast

end Flowgraph.CommandLine
